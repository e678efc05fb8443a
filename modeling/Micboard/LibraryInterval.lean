import Mathlib.Data.List.MinMax
import Mathlib.Order.Hom.Basic

/-! Covering an interval by finitely many others. In a dense order the covers of a closed interval
are found by looking at finitely many points: its start, and the ends of the spans that lie inside
it, where another span must go on. Spans may overlap, leave gaps and be empty. -/

namespace Library

/-- A closed interval. It is empty where it ends before it starts. -/
structure Span (α : Type*) where
  start : α
  stop : α

namespace Span

section Order

variable {α : Type*} [LinearOrder α] {spans : List (Span α)} {a b x : α}

/-- A span contains the point. -/
def Covered (spans : List (Span α)) (x : α) : Prop := ∃ span ∈ spans, span.start ≤ x ∧ x ≤ span.stop

/-- A span contains the point and goes on after it. -/
def Continues (spans : List (Span α)) (x : α) : Prop := ∃ span ∈ spans, span.start ≤ x ∧ x < span.stop

/-- The first of finitely many starts after a point. -/
theorem exists_next_start (spans : List (Span α)) (hab : a < b) :
    ∃ next, a < next ∧ next ≤ b ∧ ∀ span ∈ spans, a < span.start → next ≤ span.start := by
  induction spans with
  | nil => exact ⟨b, hab, le_rfl, fun _ h => absurd h (List.not_mem_nil)⟩
  | cons span rest ih =>
      obtain ⟨next, hafter, hbefore, hrest⟩ := ih
      by_cases hstart : a < span.start
      · refine ⟨min next span.start, lt_min hafter hstart, (min_le_left _ _).trans hbefore, ?_⟩
        rintro other hother hafter'
        rcases List.mem_cons.mp hother with rfl | hother
        · exact min_le_right _ _
        · exact (min_le_left _ _).trans (hrest other hother hafter')
      · refine ⟨next, hafter, hbefore, ?_⟩
        rintro other hother hafter'
        rcases List.mem_cons.mp hother with rfl | hother
        · exact absurd hafter' hstart
        · exact hrest other hother hafter'

/-- Where everything up to a later point is covered, a span goes on. -/
theorem continues_of_covered [DenselyOrdered α] (hab : a < b)
    (h : ∀ x, a ≤ x → x ≤ b → Covered spans x) : Continues spans a := by
  obtain ⟨next, hafter, hbefore, hnext⟩ := exists_next_start spans hab
  obtain ⟨x, hax, hxnext⟩ := exists_between hafter
  obtain ⟨span, hspan, hstart, hstop⟩ := h x hax.le (hxnext.le.trans hbefore)
  refine ⟨span, hspan, ?_, hax.trans_le hstop⟩
  by_contra hlater
  exact absurd (hnext span hspan (not_le.mp hlater)) (not_le.mpr (hstart.trans_lt hxnext))

/-- Where a span goes on at every end, there is no gap after a covered point. -/
theorem covered_of_continues (hstart : Covered spans a)
    (h : ∀ span ∈ spans, a ≤ span.stop → span.stop < b → Continues spans span.stop) (hax : a ≤ x)
    (hxb : x ≤ b) : Covered spans x := by
  by_contra hgap
  let before := spans.filter fun span => decide (a ≤ span.stop ∧ span.stop < x)
  have hbefore : ∀ span, span ∈ before ↔ span ∈ spans ∧ a ≤ span.stop ∧ span.stop < x := by
    intro span
    rw [List.mem_filter, decide_eq_true_eq]
  have hends : ∀ span ∈ spans, span.start ≤ x → span.stop < x := by
    intro span hspan hle
    by_contra hafter
    exact hgap ⟨span, hspan, hle, not_lt.mp hafter⟩
  obtain ⟨first, hfirst, hfirstStart, hfirstStop⟩ := hstart
  cases hlast : before.argmax Span.stop with
  | none =>
      have hmem := (hbefore first).mpr ⟨hfirst, hfirstStop, hends first hfirst (hfirstStart.trans hax)⟩
      rw [List.argmax_eq_none.mp hlast] at hmem
      exact absurd hmem List.not_mem_nil
  | some last =>
      obtain ⟨hspan, hafter, hstop⟩ := (hbefore last).mp (List.argmax_mem hlast)
      obtain ⟨next, hnext, hnextStart, hnextStop⟩ := h last hspan hafter (hstop.trans_le hxb)
      have hmem := (hbefore next).mpr
        ⟨hnext, hafter.trans hnextStop.le, hends next hnext (hnextStart.trans hstop.le)⟩
      exact absurd (List.le_of_mem_argmax hmem hlast) (not_le.mpr hnextStop)

/-- **Finitely many spans cover a closed interval exactly when one contains its start and at every
end inside it another goes on.** -/
theorem covered_iff [DenselyOrdered α] (hab : a ≤ b) :
    (∀ x, a ≤ x → x ≤ b → Covered spans x) ↔ Covered spans a ∧
      ∀ span ∈ spans, a ≤ span.stop → span.stop < b → Continues spans span.stop := by
  constructor
  · intro h
    refine ⟨h a le_rfl hab, fun span hspan hafter hbefore => ?_⟩
    exact continues_of_covered hbefore fun x hx hxb => h x (hafter.trans hx) hxb
  · rintro ⟨hstart, hends⟩ x hax hxb
    exact covered_of_continues hstart hends hax hxb

end Order

section Map

variable {α β : Type*} [LinearOrder α] [LinearOrder β] {spans : List (Span α)} {x : α}

/-- A span in another order. -/
def map (f : α → β) (span : Span α) : Span β := ⟨f span.start, f span.stop⟩

theorem covered_map (f : α ↪o β) : Covered (spans.map (Span.map f)) (f x) ↔ Covered spans x := by
  simp [Covered, Span.map]

theorem continues_map (f : α ↪o β) : Continues (spans.map (Span.map f)) (f x) ↔ Continues spans x := by
  simp [Continues, Span.map]

end Map

end Span

end Library
