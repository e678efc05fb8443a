import Mathlib.Algebra.Order.Group.Defs
import Mathlib.Algebra.Order.Group.Basic
import Mathlib.Data.List.Basic

/-! Sliding windows over logs of times. A log keeps within a limit when no window of the width holds
more times than the limit, and it goes on doing so when a time enters that finds fewer than the
limit still counted. -/

namespace Library.Window

variable {α : Type*} [AddCommGroup α] [LinearOrder α] {width now later oldest : α} {times : List α}
  {limit : Nat}

def counted (width now : α) (times : List α) : List α :=
  times.filter fun t => now - t < width

/-- No window from any start on holds more times than the limit. -/
def WithinLimit (limit : Nat) (width : α) (times : List α) : Prop :=
  ∀ start, (times.filter fun t => start ≤ t ∧ t < start + width).length ≤ limit

theorem mem_counted {t : α} : t ∈ counted width now times ↔ t ∈ times ∧ now - t < width := by
  rw [counted, List.mem_filter, decide_eq_true_eq]

theorem counted_append (first second : List α) :
    counted width now (first ++ second) = counted width now first ++ counted width now second :=
  List.filter_append ..

theorem withinLimit_nil : WithinLimit limit width ([] : List α) :=
  fun _ => Nat.zero_le _

variable [IsOrderedAddMonoid α]

theorem counted_sublist (width : α) (hle : now ≤ later) (times : List α) :
    (counted width later times).Sublist (counted width now times) := by
  refine List.monotone_filter_right _ fun t ht => ?_
  rw [decide_eq_true_eq] at ht ⊢
  exact (sub_le_sub_right hle t).trans_lt ht

theorem counted_counted (hle : now ≤ later) (times : List α) :
    counted width later (counted width now times) = counted width later times := by
  rw [counted, counted, List.filter_filter]
  refine List.filter_congr fun t _ => ?_
  rw [← Bool.decide_and, decide_eq_decide]
  exact ⟨And.left, fun ht => ⟨ht, (sub_le_sub_right hle t).trans_lt ht⟩⟩

/-- **A time that finds fewer than the limit counted keeps the log within the limit.** -/
theorem WithinLimit.append (h : WithinLimit limit width times)
    (hfew : (counted width now times).length < limit) : WithinLimit limit width (times ++ [now]) := by
  intro start
  rw [List.filter_append, List.length_append]
  by_cases hnow : start ≤ now ∧ now < start + width
  · have hwindow : (times.filter fun t => start ≤ t ∧ t < start + width).Sublist
        (counted width now times) := by
      refine List.monotone_filter_right _ fun t ht => ?_
      rw [decide_eq_true_eq] at ht ⊢
      exact sub_lt_iff_lt_add'.mpr (hnow.2.trans_le (add_le_add_left ht.1 width))
    have hone : ([now].filter fun t => start ≤ t ∧ t < start + width).length ≤ 1 :=
      List.length_filter_le ..
    have hlength := hwindow.length_le
    omega
  · have hnone : [now].filter (fun t => start ≤ t ∧ t < start + width) = [] := by
      simpa using hnow
    rw [hnone]
    exact h start

/-- Once the oldest of the counted times no longer counts, one time fewer does. -/
theorem counted_length_lt (hle : now ≤ later) (hcounted : oldest ∈ counted width now times)
    (hgone : width ≤ later - oldest) :
    (counted width later times).length < (counted width now times).length := by
  have hsub := counted_sublist width hle times
  refine lt_of_le_of_ne hsub.length_le fun hlength => ?_
  rw [← hsub.eq_of_length hlength] at hcounted
  exact (mem_counted.mp hcounted).2.not_ge hgone

end Library.Window
