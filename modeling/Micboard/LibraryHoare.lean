import Mathlib.Logic.Basic

/-! Programs over a state that outlives their exceptions, with rules for what holds when they return
and when they raise. -/

namespace Library.Hoare

universe u

variable {ε σ : Type u} {α β : Type u}

/-- What a program comes to from a state. -/
def runFrom (x : ExceptT ε (StateM σ) α) (s : σ) : Except ε α × σ :=
  Id.run (StateT.run (ExceptT.run x) s)

@[simp]
theorem runFrom_pure (a : α) (s : σ) : runFrom (pure a : ExceptT ε (StateM σ) α) s = (.ok a, s) := rfl

@[simp]
theorem runFrom_get (s : σ) : runFrom (get : ExceptT ε (StateM σ) σ) s = (.ok s, s) := rfl

@[simp]
theorem runFrom_set (s t : σ) : runFrom (set t : ExceptT ε (StateM σ) PUnit) s = (.ok ⟨⟩, t) := rfl

@[simp]
theorem runFrom_modify (f : σ → σ) (s : σ) :
    runFrom (modify f : ExceptT ε (StateM σ) PUnit) s = (.ok ⟨⟩, f s) := rfl

theorem runFrom_bind (x : ExceptT ε (StateM σ) α) (f : α → ExceptT ε (StateM σ) β) (s : σ) :
    runFrom (x >>= f) s = match runFrom x s with
      | (.ok a, t) => runFrom (f a) t
      | (.error e, t) => (.error e, t) := by
  have hbind : runFrom (x >>= f) s =
      runFrom (ExceptT.mk (ExceptT.bindCont f (runFrom x s).1)) (runFrom x s).2 := rfl
  rw [hbind]
  obtain ⟨outcome, t⟩ := runFrom x s
  cases outcome with
  | ok a => rfl
  | error e => rfl

/-- A program goes on from where its first part has returned. -/
theorem runFrom_bind_of_ok {x : ExceptT ε (StateM σ) α} {f : α → ExceptT ε (StateM σ) β}
    {s t : σ} {a : α}
    (h : runFrom x s = (.ok a, t)) : runFrom (x >>= f) s = runFrom (f a) t := by
  rw [runFrom_bind, h]

/-- From a state with `pre` a program returns with `post` or raises with `raised`. -/
def Triple (pre : σ → Prop) (x : ExceptT ε (StateM σ) α) (post : α → σ → Prop)
    (raised : ε → σ → Prop) : Prop :=
  ∀ s, pre s → match runFrom x s with
    | (.ok a, t) => post a t
    | (.error e, t) => raised e t

namespace Triple

variable {pre pre' : σ → Prop} {raised : ε → σ → Prop} {x : ExceptT ε (StateM σ) α}
  {post mid : α → σ → Prop}

theorem pure {a : α} (h : ∀ s, pre s → post a s) : Triple pre (pure a) post raised := h

theorem bind {f : α → ExceptT ε (StateM σ) β} {post : β → σ → Prop} (hx : Triple pre x mid raised)
    (hf : ∀ a, Triple (mid a) (f a) post raised) : Triple pre (x >>= f) post raised := by
  intro s hs
  have hfirst := hx s hs
  rw [runFrom_bind]
  generalize runFrom x s = result at hfirst ⊢
  obtain ⟨outcome, t⟩ := result
  cases outcome with
  | ok a => exact hf a t hfirst
  | error e => exact hfirst

theorem bind_get {f : σ → ExceptT ε (StateM σ) β} {post : β → σ → Prop}
    (hf : ∀ s, Triple (fun t => t = s ∧ pre t) (f s) post raised) :
    Triple pre (get >>= f) post raised := by
  intro s hs
  rw [runFrom_bind]
  exact hf s s ⟨rfl, hs⟩

theorem weaken (h : Triple pre x post raised)
    (hpre : ∀ s, pre' s → pre s) : Triple pre' x post raised :=
  fun s hs => h s (hpre s hs)

theorem mono {post' : α → σ → Prop} (h : Triple pre x post raised)
    (hpost : ∀ a s, post a s → post' a s) :
    Triple pre x post' raised := by
  intro s hs
  have hrun := h s hs
  generalize runFrom x s = result at hrun ⊢
  obtain ⟨outcome, t⟩ := result
  cases outcome with
  | ok a => exact hpost a t hrun
  | error e => exact hrun

/-- What does not depend on the state is known throughout. -/
theorem fact {c : Prop} (h : c → Triple pre x post raised) : Triple (fun s =>
  c ∧ pre s) x post raised :=
  fun s hs => h hs.1 s hs.2

theorem ite {c : Prop} [Decidable c] {y : ExceptT ε (StateM σ) α} (hx : c → Triple pre x post raised)
    (hy : ¬c → Triple pre y post raised) : Triple pre (if c then x else y) post raised := by
  split
  next h => exact hx h
  next h => exact hy h

end Triple

end Library.Hoare
