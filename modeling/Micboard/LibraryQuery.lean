import Mathlib.Data.Finset.Insert

/-! Filters on rows with nullable columns. A comparison with a column that is null is unknown, and a
filter takes the rows for which it is true. -/

namespace Library.Query

/-- A truth value; `none` is unknown. -/
abbrev Truth := Option Bool

namespace Truth

def and : Truth → Truth → Truth
  | some false, _ | _, some false => some false
  | some true, some true => some true
  | _, _ => none

def or : Truth → Truth → Truth
  | some true, _ | _, some true => some true
  | some false, some false => some false
  | _, _ => none

theorem and_eq_true {first second : Truth} :
    first.and second = some true ↔ first = some true ∧ second = some true := by
  rcases first with _ | _ | _ <;> rcases second with _ | _ | _ <;> decide

theorem or_eq_true {first second : Truth} :
    first.or second = some true ↔ first = some true ∨ second = some true := by
  rcases first with _ | _ | _ <;> rcases second with _ | _ | _ <;> decide

end Truth

/-- A filter on columns `κ` with values `α`. -/
inductive Filter (κ α : Type) where
  | isNull (column : κ) (expected : Bool)
  | isIn (column : κ) (values : Finset α)
  | and (first second : Filter κ α)
  | or (first second : Filter κ α)

namespace Filter

variable {κ α : Type} [DecidableEq α]

def eval (row : κ → Option α) : Filter κ α → Truth
  | isNull column expected => some ((row column).isNone = expected)
  | isIn column values => (row column).map fun value => value ∈ values
  | and first second => (first.eval row).and (second.eval row)
  | or first second => (first.eval row).or (second.eval row)

def Takes (row : κ → Option α) (filter : Filter κ α) : Prop := filter.eval row = some true

instance (row : κ → Option α) (filter : Filter κ α) : Decidable (filter.Takes row) :=
  inferInstanceAs (Decidable (filter.eval row = some true))

section Takes

variable {row : κ → Option α} {column : κ}

@[simp] theorem takes_isNull : (isNull column true).Takes row ↔ row column = none := by
  simp [Takes, eval]

@[simp] theorem takes_isNotNull : (isNull column false).Takes row ↔ row column ≠ none := by
  simp [Takes, eval, Option.ne_none_iff_isSome]

@[simp] theorem takes_isIn {values : Finset α} :
    (isIn column values).Takes row ↔ ∃ value ∈ values, row column = some value := by
  cases hvalue : row column with
  | none => simp [Takes, eval, hvalue]
  | some value => simp [Takes, eval, hvalue]

@[simp] theorem takes_and {first second : Filter κ α} :
    (and first second).Takes row ↔ first.Takes row ∧ second.Takes row :=
  Truth.and_eq_true

@[simp] theorem takes_or {first second : Filter κ α} :
    (or first second).Takes row ↔ first.Takes row ∨ second.Takes row :=
  Truth.or_eq_true

end Takes

end Filter

end Library.Query
