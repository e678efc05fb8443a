import Micboard.LibraryHoare
import Micboard.LibraryRun

/-! Transactions of programs that write as they go. A statement writes or raises; what a program
wrote before it raised stays, unless it ran in a transaction. The outcome of a program forgets the
state it raised in, so that a transaction is determined by the outcomes of its statements. -/

namespace Library.Rollback

open Library.Hoare

universe u

variable {ε σ α β : Type u} {ι : Type*}

/-- One statement: it writes the state or raises and leaves it. -/
def statement (f : σ → Except ε (α × σ)) : ExceptT ε (StateM σ) α := ExceptT.mk fun s =>
  match f s with
  | .ok (a, t) => (.ok a, t)
  | .error e => (.error e, s)

/-- A statement that only reads. -/
def query (f : σ → Except ε α) : ExceptT ε (StateM σ) α := statement fun s => (f s).map fun a => (a, s)

/-- A transaction: what a program wrote before it raised is rolled back. -/
def atomic (x : ExceptT ε (StateM σ) α) : ExceptT ε (StateM σ) α := ExceptT.mk fun s =>
  match runFrom x s with
  | (.ok a, t) => (.ok a, t)
  | (.error e, _) => (.error e, s)

theorem runFrom_statement (f : σ → Except ε (α × σ)) (s : σ) : runFrom (statement f) s =
    match f s with
    | .ok (a, t) => (.ok a, t)
    | .error e => (.error e, s) := rfl

theorem runFrom_atomic (x : ExceptT ε (StateM σ) α) (s : σ) : runFrom (atomic x) s =
    match runFrom x s with
    | (.ok a, t) => (.ok a, t)
    | (.error e, _) => (.error e, s) := rfl

/-- What a program returns and the state it leaves, or what it raises. -/
def outcome (x : ExceptT ε (StateM σ) α) (s : σ) : Except ε (α × σ) :=
  match runFrom x s with
  | (.ok a, t) => .ok (a, t)
  | (.error e, _) => .error e

theorem outcome_statement (f : σ → Except ε (α × σ)) (s : σ) : outcome (statement f) s = f s := by
  rw [outcome, runFrom_statement]
  cases f s <;> rfl

theorem outcome_query (f : σ → Except ε α) (s : σ) :
    outcome (query f) s = (f s).map fun a => (a, s) := outcome_statement _ s

theorem outcome_bind (x : ExceptT ε (StateM σ) α) (f : α → ExceptT ε (StateM σ) β) (s : σ) :
    outcome (x >>= f) s = outcome x s >>= fun r => outcome (f r.1) r.2 := by
  rw [outcome, runFrom_bind, outcome]
  obtain ⟨result, t⟩ := runFrom x s
  cases result <;> rfl

/-- What a loop comes to is the run of what its steps come to. -/
theorem outcome_foldlM (step : α → ι → ExceptT ε (StateM σ) α) (inputs : List ι) (a : α) (s : σ) :
    outcome (inputs.foldlM step a) s =
      inputs.foldlM (fun (r : α × σ) i => outcome (step r.1 i) r.2) (a, s) := by
  induction inputs generalizing a s with
  | nil => rfl
  | cons i rest ih =>
      rw [List.foldlM_cons, List.foldlM_cons, outcome_bind]
      exact congrArg _ (funext fun r => ih r.1 r.2)

theorem outcome_atomic (x : ExceptT ε (StateM σ) α) (s : σ) : outcome (atomic x) s = outcome x s := by
  rw [outcome, runFrom_atomic, outcome]
  obtain ⟨result, t⟩ := runFrom x s
  cases result <;> rfl

/-- A program that raises leaves the state it was started in. -/
def Restores (x : ExceptT ε (StateM σ) α) : Prop :=
  ∀ s e t, runFrom x s = (.error e, t) → t = s

theorem restores_atomic (x : ExceptT ε (StateM σ) α) : Restores (atomic x) := by
  intro s e t h
  rw [runFrom_atomic] at h
  generalize runFrom x s = run at h
  obtain ⟨result, u⟩ := run
  cases result with
  | ok a => cases h
  | error e' =>
      cases h
      rfl

/-- A program that reads first and then goes on in a transaction restores as well. -/
theorem restores_query_bind (f : σ → Except ε α) {k : α → ExceptT ε (StateM σ) β}
    (hk : ∀ a, Restores (k a)) : Restores (query f >>= k) := by
  intro s e t h
  rw [runFrom_bind, query, runFrom_statement] at h
  cases hf : f s with
  | ok a =>
      rw [hf] at h
      exact hk a s e t h
  | error e' =>
      rw [hf] at h
      cases h
      rfl

/-- What a program that restores comes to says what it leaves. -/
theorem runFrom_of_outcome {x : ExceptT ε (StateM σ) α} (hx : Restores x) (s : σ) :
    runFrom x s = match outcome x s with
      | .ok (a, t) => (.ok a, t)
      | .error e => (.error e, s) := by
  rw [outcome]
  cases hrun : runFrom x s with
  | mk result t =>
      cases result with
      | ok a => rfl
      | error e => rw [hx s e t hrun]

end Library.Rollback
