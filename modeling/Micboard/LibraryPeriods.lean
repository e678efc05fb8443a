import Mathlib.Algebra.BigOperators.Group.Finset.Basic
import Mathlib.Data.Finset.Prod
import Mathlib.Data.List.GetD

/-! Timed histories and the periods in which a property of the entered states held. A period starts
with an entry that has the property after one that has not (or with the first entry), and it is closed
by the first entry after it that has not. A history that grows by one entry closes at most one period,
the open one; so a sum over the closed periods can be kept up to date from the start of the open one. -/

namespace Library

section Periods

variable {τ σ : Type*} (active : σ → Bool)

/-- The property holds of the state entered at a position. -/
def activeAt (history : List (τ × σ)) (i : ℕ) : Bool := history[i]?.any fun entry => active entry.2

/-- An active stretch from `i` up to `j` that cannot be extended to the left. -/
structure ActiveFrom (history : List (τ × σ)) (i j : ℕ) : Prop where
  nonempty : i < j
  maximal : i = 0 ∨ activeAt active history (i - 1) = false
  lasting : ∀ k < j, i ≤ k → activeAt active history k = true

/-- A maximal period of activity that the entry at `j` ended. -/
structure ClosedPeriod (history : List (τ × σ)) (i j : ℕ) : Prop extends
    ActiveFrom active history i j where
  recorded : j < history.length
  ended : activeAt active history j = false

/-- A period of activity that lasts since the entry at `i`. -/
def OpenPeriod (history : List (τ × σ)) (i : ℕ) : Prop :=
  ActiveFrom active history i history.length

instance (history : List (τ × σ)) (i j : ℕ) : Decidable (ClosedPeriod active history i j) :=
  decidable_of_iff
    ((i < j ∧ (i = 0 ∨ activeAt active history (i - 1) = false) ∧
      ∀ k < j, i ≤ k → activeAt active history k = true) ∧
      j < history.length ∧ activeAt active history j = false)
    ⟨fun ⟨⟨hlt, hmax, hlast⟩, hrec, hend⟩ => ⟨⟨hlt, hmax, hlast⟩, hrec, hend⟩,
      fun ⟨⟨hlt, hmax, hlast⟩, hrec, hend⟩ => ⟨⟨hlt, hmax, hlast⟩, hrec, hend⟩⟩

/-- The maximal closed periods of a history, by the positions of their two entries. -/
def closedPeriods (history : List (τ × σ)) : Finset (ℕ × ℕ) :=
  {period ∈ Finset.range history.length ×ˢ Finset.range history.length |
    ClosedPeriod active history period.1 period.2}

variable {active} {history : List (τ × σ)} {entry : τ × σ} {i j : ℕ}

theorem mem_closedPeriods :
    (i, j) ∈ closedPeriods active history ↔ ClosedPeriod active history i j := by
  rw [closedPeriods, Finset.mem_filter, Finset.mem_product, Finset.mem_range, Finset.mem_range]
  constructor
  · exact And.right
  · intro h
    exact ⟨⟨h.nonempty.trans h.recorded, h.recorded⟩, h⟩

theorem activeAt_concat (hi : i < history.length) :
    activeAt active (history ++ [entry]) i = activeAt active history i := by
  rw [activeAt, List.getElem?_append_left hi, activeAt]

@[simp] theorem activeAt_length :
    activeAt active (history ++ [entry]) history.length = active entry.2 := by
  simp [activeAt]

/-- Up to the end of the history a stretch does not depend on the entry that follows. -/
theorem activeFrom_concat (hj : j ≤ history.length) :
    ActiveFrom active (history ++ [entry]) i j ↔ ActiveFrom active history i j := by
  have hsame : ∀ k < j, activeAt active (history ++ [entry]) k = activeAt active history k :=
    fun k hk => activeAt_concat (by omega)
  constructor
  · intro h
    refine ⟨h.nonempty, ?_, ?_⟩
    · rw [← hsame (i - 1) (by have := h.nonempty; omega)]
      exact h.maximal
    · intro k hk hik
      rw [← hsame k hk]
      exact h.lasting k hk hik
  · intro h
    refine ⟨h.nonempty, ?_, ?_⟩
    · rw [hsame (i - 1) (by have := h.nonempty; omega)]
      exact h.maximal
    · intro k hk hik
      rw [hsame k hk]
      exact h.lasting k hk hik

theorem OpenPeriod.unique (hi : OpenPeriod active history i) (hj : OpenPeriod active history j) :
    i = j := by
  have hle : ∀ {a b}, OpenPeriod active history a → OpenPeriod active history b → b ≤ a := by
    intro a b ha hb
    by_contra hlt
    rcases hb.maximal with hzero | hstop
    · omega
    · have hactive := ha.lasting (b - 1) (by have := hb.nonempty; omega) (by omega)
      rw [hstop] at hactive
      cases hactive
  exact Nat.le_antisymm (hle hj hi) (hle hi hj)

theorem OpenPeriod.lt_length (h : OpenPeriod active history i) : i < history.length := h.nonempty

theorem OpenPeriod.last (h : OpenPeriod active history i) :
    activeAt active history (history.length - 1) = true :=
  h.lasting _ (by have := h.lt_length; omega) (by have := h.lt_length; omega)

theorem OpenPeriod.concat (h : OpenPeriod active history i) (hentry : active entry.2 = true) :
    OpenPeriod active (history ++ [entry]) i := by
  have hbefore : ActiveFrom active (history ++ [entry]) i history.length :=
    (activeFrom_concat le_rfl).mpr h
  rw [OpenPeriod, List.length_append, List.length_singleton]
  refine ⟨by have := hbefore.nonempty; omega, hbefore.maximal, ?_⟩
  intro k hk hik
  rcases Nat.lt_succ_iff_lt_or_eq.mp hk with hlt | rfl
  · exact hbefore.lasting k hlt hik
  · rw [activeAt_length]
    exact hentry

theorem openPeriod_concat_of_inactive
    (hlast : history = [] ∨ activeAt active history (history.length - 1) = false)
    (hentry : active entry.2 = true) : OpenPeriod active (history ++ [entry]) history.length := by
  rw [OpenPeriod, List.length_append, List.length_singleton]
  refine ⟨Nat.lt_succ_self _, ?_, ?_⟩
  · rcases hlast with rfl | hlast
    · exact .inl rfl
    · rcases history.eq_nil_or_concat with rfl | ⟨before, last, rfl⟩
      · exact .inl rfl
      · right
        rwa [activeAt_concat (by simp)]
  · intro k hk hik
    have hk : k = history.length := by omega
    rw [hk, activeAt_length]
    exact hentry

theorem not_openPeriod_nil : ¬OpenPeriod active ([] : List (τ × σ)) i := by
  intro h
  have := h.lt_length
  simp at this

/-- What one more entry does to the closed periods: those there were remain, and an inactive entry
closes the open one. -/
theorem closedPeriod_concat :
    ClosedPeriod active (history ++ [entry]) i j ↔ ClosedPeriod active history i j ∨
      j = history.length ∧ active entry.2 = false ∧ OpenPeriod active history i := by
  constructor
  · intro h
    have hle : j ≤ history.length := by
      have := h.recorded
      simp at this
      omega
    have hbefore := (activeFrom_concat hle).mp h.toActiveFrom
    rcases Nat.lt_or_eq_of_le hle with hlt | rfl
    · exact .inl ⟨hbefore, hlt, (activeAt_concat hlt).symm.trans h.ended⟩
    · exact .inr ⟨rfl, activeAt_length.symm.trans h.ended, hbefore⟩
  · rintro (h | ⟨rfl, hentry, h⟩)
    · refine ⟨(activeFrom_concat h.recorded.le).mpr h.toActiveFrom, ?_, ?_⟩
      · have := h.recorded
        simp
        omega
      · rw [activeAt_concat h.recorded]
        exact h.ended
    · refine ⟨(activeFrom_concat le_rfl).mpr h, by simp, ?_⟩
      rw [activeAt_length]
      exact hentry

/-- **An inactive entry adds the period it closes.** -/
theorem closedPeriods_concat_of_open (h : OpenPeriod active history i)
    (hentry : active entry.2 = false) : closedPeriods active (history ++ [entry]) =
      insert (i, history.length) (closedPeriods active history) := by
  ext ⟨a, b⟩
  rw [Finset.mem_insert, mem_closedPeriods, mem_closedPeriods, closedPeriod_concat, Prod.mk.injEq,
    or_comm]
  refine or_congr_left ?_
  constructor
  · rintro ⟨rfl, -, ha⟩
    exact ⟨ha.unique h, rfl⟩
  · rintro ⟨rfl, rfl⟩
    exact ⟨rfl, hentry, h⟩

/-- Any other entry adds none. -/
theorem closedPeriods_concat_of_not_open
    (h : active entry.2 = true ∨ ∀ i, ¬OpenPeriod active history i) :
    closedPeriods active (history ++ [entry]) = closedPeriods active history := by
  ext ⟨a, b⟩
  rw [mem_closedPeriods, mem_closedPeriods, closedPeriod_concat, or_iff_left]
  rintro ⟨-, hentry, hopen⟩
  rcases h with h | h
  · rw [h] at hentry
    cases hentry
  · exact h a hopen

section Sum

variable [Inhabited τ] {M : Type*} [AddCommMonoid M] (weight : τ → τ → M)

def timeAt (history : List (τ × σ)) (i : ℕ) : τ := (history[i]?.map Prod.fst).getD default

theorem timeAt_concat (hi : i < history.length) :
    timeAt (history ++ [entry]) i = timeAt history i := by
  rw [timeAt, List.getElem?_append_left hi, timeAt]

@[simp] theorem timeAt_length : timeAt (history ++ [entry]) history.length = entry.1 := by
  simp [timeAt]

/-- The weights of the closed periods, each taken between the times of its two entries. -/
def periodSum (active : σ → Bool) (history : List (τ × σ)) : M :=
  ∑ period ∈ closedPeriods active history,
    weight (timeAt history period.1) (timeAt history period.2)

@[simp] theorem periodSum_nil : periodSum weight active ([] : List (τ × σ)) = 0 := by
  rw [periodSum, closedPeriods]
  simp

theorem sum_concat :
    ∑ period ∈ closedPeriods active history, weight (timeAt (history ++ [entry]) period.1)
        (timeAt (history ++ [entry]) period.2) = periodSum weight active history := by
  apply Finset.sum_congr rfl
  rintro ⟨a, b⟩ hperiod
  have h := mem_closedPeriods.mp hperiod
  rw [timeAt_concat (h.nonempty.trans h.recorded), timeAt_concat h.recorded]

theorem periodSum_concat_of_open (h : OpenPeriod active history i)
    (hentry : active entry.2 = false) : periodSum weight active (history ++ [entry]) =
      periodSum weight active history + weight (timeAt history i) entry.1 := by
  have hnew : (i, history.length) ∉ closedPeriods active history := fun hmem =>
    absurd (mem_closedPeriods.mp hmem).recorded (lt_irrefl _)
  rw [periodSum, closedPeriods_concat_of_open h hentry, Finset.sum_insert hnew, sum_concat,
    timeAt_concat h.lt_length, timeAt_length, add_comm]

theorem periodSum_concat_of_not_open
    (h : active entry.2 = true ∨ ∀ i, ¬OpenPeriod active history i) :
    periodSum weight active (history ++ [entry]) = periodSum weight active history := by
  rw [periodSum, closedPeriods_concat_of_not_open h, sum_concat]

end Sum

end Periods

end Library
