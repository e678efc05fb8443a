import Mathlib.Data.Nat.Basic

/-! A database connection with nested atomic blocks, savepoints and commit callbacks. A callback
registered while savepoints are open is remembered with them; rolling back one of them discards it, and
the callbacks that are left run when the outermost block commits. -/

namespace Library.Savepoint

variable {κ : Type*}

/-- The state of a connection. `savepointIds` are the open inner blocks, the innermost first, each with
its savepoint if it made one; `executed` are the callbacks that have run, in order. -/
structure Connection (κ : Type*) where
  inAtomicBlock : Bool
  savepointIds : List (Option Nat)
  nextSavepoint : Nat
  needsRollback : Bool
  runOnCommit : List (List (Option Nat) × κ)
  executed : List κ

namespace Connection

def autocommit (nextSavepoint : Nat) (executed : List κ) : Connection κ where
  inAtomicBlock := false
  savepointIds := []
  nextSavepoint := nextSavepoint
  needsRollback := false
  runOnCommit := []
  executed := executed

/-- Enter an atomic block: the outermost one begins a transaction, an inner one makes a savepoint unless
it was told not to or the transaction waits for a rollback. -/
def enter (savepoint : Bool) (c : Connection κ) : Connection κ :=
  if c.inAtomicBlock then
    if savepoint && !c.needsRollback then
      { c with
        savepointIds := some c.nextSavepoint :: c.savepointIds
        nextSavepoint := c.nextSavepoint + 1 }
    else
      { c with savepointIds := none :: c.savepointIds }
  else
    { c with inAtomicBlock := true }

/-- Leave an atomic block, by an exception if it `failed`. -/
def exit (failed : Bool) (c : Connection κ) : Connection κ :=
  match c.savepointIds with
  | sid :: outer =>
    if !failed && !c.needsRollback then { c with savepointIds := outer }
    else
      match sid with
      | none => { c with savepointIds := outer, needsRollback := true }
      | some sid =>
        { c with
          savepointIds := outer
          needsRollback := false
          runOnCommit := c.runOnCommit.filter fun entry => some sid ∉ entry.1 }
  | [] =>
    if !failed && !c.needsRollback then
      { c with
        inAtomicBlock := false
        runOnCommit := []
        executed := c.executed ++ c.runOnCommit.map Prod.snd }
    else
      { c with inAtomicBlock := false, needsRollback := false, runOnCommit := [] }

/-- `on_commit`: outside of a transaction the callback runs at once. -/
def onCommit (callback : κ) (c : Connection κ) : Connection κ :=
  if c.inAtomicBlock then
    { c with runOnCommit := c.runOnCommit ++ [(c.savepointIds, callback)] }
  else
    { c with executed := c.executed ++ [callback] }

/-- The callbacks that wait for the commit. -/
def callbacks (c : Connection κ) : List κ := c.runOnCommit.map Prod.snd

variable [DecidableEq κ]

/-- Register a callback unless an equal one waits already. -/
def onCommitOnce (callback : κ) (c : Connection κ) : Connection κ :=
  if callback ∈ c.callbacks then c else c.onCommit callback

end Connection

/-- The savepoints a connection knows were made before its next one. -/
structure Bounded (c : Connection κ) : Prop where
  opened : ∀ sid, some sid ∈ c.savepointIds → sid < c.nextSavepoint
  registered : ∀ entry ∈ c.runOnCommit, ∀ sid, some sid ∈ entry.1 → sid < c.nextSavepoint

/-- What a well-bracketed part of a transaction leaves of the connection before it: the same blocks are
open, nothing has run, and every callback that waited still waits. -/
structure Keeps (c c' : Connection κ) : Prop where
  inAtomicBlock : c'.inAtomicBlock = c.inAtomicBlock
  savepointIds : c'.savepointIds = c.savepointIds
  nextSavepoint : c.nextSavepoint ≤ c'.nextSavepoint
  executed : c'.executed = c.executed
  waiting : ∀ entry ∈ c.runOnCommit, entry ∈ c'.runOnCommit

theorem Keeps.refl (c : Connection κ) : Keeps c c := ⟨rfl, rfl, Nat.le_refl _, rfl, fun _ h => h⟩

theorem Keeps.trans {a b c : Connection κ} (h : Keeps a b) (h' : Keeps b c) : Keeps a c :=
  ⟨h'.inAtomicBlock.trans h.inAtomicBlock, h'.savepointIds.trans h.savepointIds,
    Nat.le_trans h.nextSavepoint h'.nextSavepoint, h'.executed.trans h.executed,
    fun entry hentry => h'.waiting entry (h.waiting entry hentry)⟩

theorem Keeps.callbacks {c c' : Connection κ} (h : Keeps c c') {callback : κ}
    (hcallback : callback ∈ c.callbacks) : callback ∈ c'.callbacks := by
  obtain ⟨entry, hentry, rfl⟩ := List.mem_map.mp hcallback
  exact List.mem_map_of_mem (h.waiting entry hentry)

section Block

variable {c c' : Connection κ}

theorem bounded_onCommit (h : Bounded c) (hatomic : c.inAtomicBlock = true) (callback : κ) :
    Bounded (c.onCommit callback) := by
  rw [Connection.onCommit, if_pos hatomic]
  refine ⟨h.opened, fun entry hentry => ?_⟩
  rcases List.mem_append.mp hentry with hentry | hentry
  · exact h.registered entry hentry
  · rw [List.mem_singleton.mp hentry]
    exact h.opened

theorem keeps_onCommit (hatomic : c.inAtomicBlock = true) (callback : κ) :
    Keeps c (c.onCommit callback) := by
  rw [Connection.onCommit, if_pos hatomic]
  exact ⟨rfl, rfl, Nat.le_refl _, rfl, fun entry hentry => List.mem_append_left _ hentry⟩

theorem bounded_enter (h : Bounded c) (savepoint : Bool) : Bounded (c.enter savepoint) := by
  rw [Connection.enter]
  split
  next =>
    split
    next =>
      refine ⟨fun sid hsid => ?_, fun entry hentry sid hsid => ?_⟩
      · rcases List.mem_cons.mp hsid with heq | hsid
        · cases heq
          exact Nat.lt_succ_self _
        · exact Nat.lt_succ_of_lt (h.opened sid hsid)
      · exact Nat.lt_succ_of_lt (h.registered entry hentry sid hsid)
    next =>
      refine ⟨fun sid hsid => h.opened sid ?_, h.registered⟩
      rcases List.mem_cons.mp hsid with heq | hsid
      · cases heq
      · exact hsid
  next => exact ⟨h.opened, h.registered⟩

theorem bounded_exit (h : Bounded c) (failed : Bool) : Bounded (c.exit failed) := by
  rw [Connection.exit]
  split
  next sid outer hopen =>
    have houter : ∀ sid, some sid ∈ outer → sid < c.nextSavepoint := fun sid hsid =>
      h.opened sid (hopen ▸ List.mem_cons_of_mem _ hsid)
    split
    next => exact ⟨houter, h.registered⟩
    next =>
      split
      next => exact ⟨houter, h.registered⟩
      next => exact ⟨houter, fun entry hentry => h.registered entry (List.mem_filter.mp hentry).1⟩
  next hopen =>
    split
    next => exact ⟨h.opened, fun entry hentry => by cases hentry⟩
    next => exact ⟨h.opened, fun entry hentry => by cases hentry⟩

/-- An inner block keeps what waited before it, however it ends: the savepoint it may roll back is newer
than everything that was registered. -/
theorem keeps_block (hbounded : Bounded c) (hatomic : c.inAtomicBlock = true) {savepoint : Bool}
    (hbody : Keeps (c.enter savepoint) c') (failed : Bool) : Keeps c (c'.exit failed) := by
  rw [Connection.enter, if_pos hatomic] at hbody
  by_cases hown : (savepoint && !c.needsRollback) = true
  · rw [if_pos hown] at hbody
    have hopen : c'.savepointIds = some c.nextSavepoint :: c.savepointIds := hbody.savepointIds
    rw [Connection.exit, hopen]
    dsimp only
    split
    next =>
      exact ⟨hbody.inAtomicBlock, rfl, Nat.le_of_succ_le hbody.nextSavepoint, hbody.executed,
        hbody.waiting⟩
    next =>
      refine ⟨hbody.inAtomicBlock, rfl, Nat.le_of_succ_le hbody.nextSavepoint, hbody.executed,
        fun entry hentry => List.mem_filter.mpr ⟨hbody.waiting entry hentry, ?_⟩⟩
      refine decide_eq_true fun hsid => ?_
      exact Nat.lt_irrefl _ (hbounded.registered entry hentry _ hsid)
  · rw [if_neg hown] at hbody
    have hopen : c'.savepointIds = none :: c.savepointIds := hbody.savepointIds
    rw [Connection.exit, hopen]
    dsimp only
    split
    next => exact ⟨hbody.inAtomicBlock, rfl, hbody.nextSavepoint, hbody.executed, hbody.waiting⟩
    next => exact ⟨hbody.inAtomicBlock, rfl, hbody.nextSavepoint, hbody.executed, hbody.waiting⟩

@[simp] theorem needsRollback_enter (c : Connection κ) (savepoint : Bool) :
    (c.enter savepoint).needsRollback = c.needsRollback := by
  rw [Connection.enter]
  split
  next => split <;> rfl
  next => rfl

@[simp] theorem runOnCommit_enter (c : Connection κ) (savepoint : Bool) :
    (c.enter savepoint).runOnCommit = c.runOnCommit := by
  rw [Connection.enter]
  split
  next => split <;> rfl
  next => rfl

theorem inAtomicBlock_enter (c : Connection κ) (savepoint : Bool) :
    (c.enter savepoint).inAtomicBlock = true := by
  rw [Connection.enter]
  split
  next hatomic => split <;> exact hatomic
  next => rfl

theorem savepointIds_enter (hatomic : c.inAtomicBlock = true) (savepoint : Bool) :
    (c.enter savepoint).savepointIds =
      (if savepoint && !c.needsRollback then some c.nextSavepoint else none) :: c.savepointIds := by
  rw [Connection.enter, if_pos hatomic]
  split <;> rfl

theorem runOnCommit_exit_sublist (c : Connection κ) (failed : Bool) :
    (c.exit failed).runOnCommit.Sublist c.runOnCommit := by
  rw [Connection.exit]
  split
  next =>
    split
    next => exact .refl _
    next =>
      split
      next => exact .refl _
      next => exact List.filter_sublist
  next => split <;> exact List.nil_sublist _

/-- An inner block gives up callbacks only where it rolls back a savepoint of its own. -/
theorem runOnCommit_exit {sid : Option Nat} {outer : List (Option Nat)}
    (hopen : c.savepointIds = sid :: outer) {failed : Bool}
    (hkept : (sid.isSome && (failed || c.needsRollback)) = false) :
    (c.exit failed).runOnCommit = c.runOnCommit := by
  rw [Connection.exit, hopen]
  cases sid with
  | none => dsimp only; split <;> rfl
  | some sid =>
      have hends : (!failed && !c.needsRollback) = true := by simpa using hkept
      dsimp only
      rw [if_pos hends]

theorem needsRollback_exit {sid : Option Nat} {outer : List (Option Nat)}
    (hopen : c.savepointIds = sid :: outer) (failed : Bool) :
    (c.exit failed).needsRollback = (!sid.isSome && (failed || c.needsRollback)) := by
  rw [Connection.exit, hopen]
  cases c.needsRollback <;> cases failed <;> cases sid <;> simp

variable [DecidableEq κ]

theorem keeps_onCommitOnce (hatomic : c.inAtomicBlock = true) (callback : κ) :
    Keeps c (c.onCommitOnce callback) := by
  rw [Connection.onCommitOnce]
  split
  next => exact .refl c
  next => exact keeps_onCommit hatomic callback

theorem bounded_onCommitOnce (h : Bounded c) (hatomic : c.inAtomicBlock = true) (callback : κ) :
    Bounded (c.onCommitOnce callback) := by
  rw [Connection.onCommitOnce]
  split
  next => exact h
  next => exact bounded_onCommit h hatomic callback

theorem mem_onCommitOnce (hatomic : c.inAtomicBlock = true) (callback : κ) :
    callback ∈ (c.onCommitOnce callback).callbacks := by
  rw [Connection.onCommitOnce]
  split
  next h => exact h
  next =>
    rw [Connection.onCommit, if_pos hatomic]
    simp [Connection.callbacks]

theorem callbacks_onCommitOnce (hatomic : c.inAtomicBlock = true) (callback : κ) :
    (c.onCommitOnce callback).callbacks =
      if callback ∈ c.callbacks then c.callbacks else c.callbacks ++ [callback] := by
  rw [Connection.onCommitOnce]
  split
  next => rfl
  next =>
    rw [Connection.onCommit, if_pos hatomic]
    simp [Connection.callbacks]

/-- Outside of a transaction a callback runs at once. -/
theorem onCommitOnce_autocommit (hatomic : c.inAtomicBlock = false) (hnone : c.runOnCommit = [])
    (callback : κ) :
    c.onCommitOnce callback = { c with executed := c.executed ++ [callback] } := by
  have hnew : callback ∉ c.callbacks := by
    rw [Connection.callbacks, hnone]
    exact List.not_mem_nil
  rw [Connection.onCommitOnce, if_neg hnew, Connection.onCommit,
    if_neg (by rw [hatomic]; exact Bool.false_ne_true)]

end Block

end Library.Savepoint
