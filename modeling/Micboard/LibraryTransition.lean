import Mathlib.Data.List.Basic
import Mathlib.Logic.Relation

/-! Partial transition tables. A table lists, for some states, the states they may change to; a state
without an entry may not change. A request names the next state and is accepted when that is the present
state or one of the listed ones. -/

namespace Library.Transition

variable {κ : Type*} [DecidableEq κ]

/-- A dictionary from states to the states they may change to. -/
abbrev Table (κ : Type*) := List (κ × List κ)

/-- The states that a state may change to: none for a state without an entry. -/
def allowed (table : Table κ) (state : κ) : List κ :=
  ((table.find? fun entry => entry.1 = state).map Prod.snd).getD []

/-- The request changes nothing or makes a listed change. -/
def Accepts (table : Table κ) (state next : κ) : Prop := next = state ∨ next ∈ allowed table state

instance (table : Table κ) (state next : κ) : Decidable (Accepts table state next) :=
  inferInstanceAs (Decidable (_ ∨ _))

/-- No further change is accepted. -/
def Terminal (table : Table κ) (state : κ) : Prop := allowed table state = []

instance (table : Table κ) (state : κ) : Decidable (Terminal table state) :=
  inferInstanceAs (Decidable (_ = _))

/-- Every listed change leads to one of some states. -/
def Closed (table : Table κ) (valid : κ → Prop) : Prop :=
  ∀ entry ∈ table, ∀ next ∈ entry.2, valid next

instance (table : Table κ) (valid : κ → Prop) [DecidablePred valid] :
    Decidable (Closed table valid) :=
  inferInstanceAs (Decidable (∀ entry ∈ table, ∀ next ∈ entry.2, valid next))

variable {table : Table κ} {valid : κ → Prop} {state next : κ}

theorem exists_entry_of_mem_allowed (h : next ∈ allowed table state) :
    ∃ entry ∈ table, next ∈ entry.2 := by
  cases hfind : table.find? fun entry => entry.1 = state with
  | none => simp [allowed, hfind] at h
  | some entry =>
      rw [allowed, hfind, Option.map_some, Option.getD_some] at h
      exact ⟨entry, List.mem_of_find?_eq_some hfind, h⟩

theorem Accepts.refl (table : Table κ) (state : κ) : Accepts table state state := .inl rfl

theorem Closed.accepts (hclosed : Closed table valid) (hstate : valid state)
    (h : Accepts table state next) : valid next := by
  rcases h with rfl | hallowed
  · exact hstate
  · obtain ⟨entry, hentry, hnext⟩ := exists_entry_of_mem_allowed hallowed
    exact hclosed entry hentry next hnext

theorem Terminal.eq_of_accepts (hterminal : Terminal table state) (h : Accepts table state next) :
    next = state := by
  rcases h with rfl | hallowed
  · rfl
  · rw [hterminal] at hallowed
    cases hallowed

/-- Accepted requests stay among the states that the table leads to. -/
theorem Closed.reaches (hclosed : Closed table valid) (hstate : valid state)
    (h : Relation.ReflTransGen (Accepts table) state next) : valid next := by
  induction h with
  | refl => exact hstate
  | tail _ hlast ih => exact hclosed.accepts ih hlast

theorem Terminal.eq_of_reaches (hterminal : Terminal table state)
    (h : Relation.ReflTransGen (Accepts table) state next) : next = state := by
  induction h with
  | refl => rfl
  | tail _ hlast ih =>
      rw [ih] at hlast
      exact hterminal.eq_of_accepts hlast

end Library.Transition
