import Mathlib.Data.List.Induction
import Mathlib.Logic.Relation

/-! Fallible steps and their runs. A step either fails or moves the state on; a run threads a list
of inputs through a step and stops at the first failure, and a system is a relation between states.
Every invariant of a run is derived from the one-step statement by the rules below. -/

namespace Library

universe u

variable {ε σ ι : Type*}

theorem bind_eq_ok {α β : Type u} {x : Except ε α} {f : α → Except ε β} {b : β} :
    x >>= f = .ok b ↔ ∃ a, x = .ok a ∧ f a = .ok b := by
  cases x with
  | error e =>
      constructor
      · intro h
        cases h
      · rintro ⟨a, ha, -⟩
        cases ha
  | ok a =>
      constructor
      · intro h
        exact ⟨a, rfl, h⟩
      · rintro ⟨a', ha, hf⟩
        cases ha
        exact hf

/-- Computations that agree up to a translation of their results agree after they go on alike. -/
theorem bind_of_map {α β α' β' : Type u} {x : Except ε α} {x' : Except ε α'} {g : α → α'}
    {k : α → Except ε β} {k' : α' → Except ε β'} {f : β → β'} (hx : x' = x.map g)
    (hk : ∀ a, x = .ok a → k' (g a) = (k a).map f) : x' >>= k' = (x >>= k).map f := by
  subst hx
  cases x with
  | error e => rfl
  | ok a => exact hk a rfl

theorem map_eq_ok {α β : Type u} {x : Except ε α} {f : α → β} {b : β} :
    x.map f = .ok b ↔ ∃ a, x = .ok a ∧ f a = b := by
  cases x <;> simp [Except.map]

theorem toOption_eq_some {α : Type u} {x : Except ε α} {a : α} : x.toOption = some a ↔ x = .ok a := by
  cases x <;> simp [Except.toOption]

theorem exists_eq_ok {α : Type u} {x : Except ε α} (h : x.toBool = true) : ∃ a, x = .ok a := by
  cases x with
  | error e => cases h
  | ok a => exact ⟨a, rfl⟩

/-- A run that succeeds on a concatenation succeeds on the first part and goes on from there. -/
theorem foldlM_append_eq_ok {step : σ → ι → Except ε σ} {first second : List ι} {s t : σ} :
    (first ++ second).foldlM step s = .ok t ↔
      ∃ mid, first.foldlM step s = .ok mid ∧ second.foldlM step mid = .ok t := by
  rw [List.foldlM_append]
  exact bind_eq_ok

theorem foldlM_cons_eq_ok {step : σ → ι → Except ε σ} {i : ι} {rest : List ι} {s t : σ} :
    (i :: rest).foldlM step s = .ok t ↔
      ∃ mid, step s i = .ok mid ∧ rest.foldlM step mid = .ok t := by
  rw [List.foldlM_cons]
  exact bind_eq_ok

/-- A translation that every step commutes with commutes with the run. -/
theorem foldlM_of_map {τ : Type*} {step : σ → ι → Except ε σ} {step' : τ → ι → Except ε τ} {g : σ → τ}
    (hstep : ∀ s i, step' (g s) i = (step s i).map g) (inputs : List ι) (s : σ) :
    inputs.foldlM step' (g s) = (inputs.foldlM step s).map g := by
  induction inputs generalizing s with
  | nil => rfl
  | cons i rest ih =>
      rw [List.foldlM_cons, List.foldlM_cons, hstep]
      cases step s i with
      | error e => rfl
      | ok mid => exact ih mid

theorem bind_eq_error {α β : Type u} {x : Except ε α} {f : α → Except ε β} {e : ε} :
    x >>= f = .error e ↔ x = .error e ∨ ∃ a, x = .ok a ∧ f a = .error e := by
  cases x with
  | error e' => simp [bind, Except.bind]
  | ok a => simp [bind, Except.bind]

/-- A run fails exactly when the step on one of its inputs does, after a run over those before it. -/
theorem foldlM_eq_error {step : σ → ι → Except ε σ} {inputs : List ι} {s : σ} {e : ε} :
    inputs.foldlM step s = .error e ↔ ∃ seen i rest t, inputs = seen ++ i :: rest ∧
      seen.foldlM step s = .ok t ∧ step t i = .error e := by
  induction inputs generalizing s with
  | nil =>
      constructor
      · intro h
        cases h
      · rintro ⟨seen, i, rest, t, hsplit, -⟩
        simp at hsplit
  | cons first others ih =>
      rw [List.foldlM_cons, bind_eq_error]
      constructor
      · rintro (h | ⟨mid, hmid, h⟩)
        · exact ⟨[], first, others, s, rfl, rfl, h⟩
        · obtain ⟨seen, i, rest, t, rfl, hseen, hstep⟩ := ih.mp h
          exact ⟨first :: seen, i, rest, t, rfl, foldlM_cons_eq_ok.mpr ⟨mid, hmid, hseen⟩, hstep⟩
      · rintro ⟨seen, i, rest, t, hsplit, hseen, hstep⟩
        cases seen with
        | nil =>
            cases hsplit
            cases hseen
            exact .inl hstep
        | cons other seen =>
            cases hsplit
            obtain ⟨mid, hmid, hseen⟩ := foldlM_cons_eq_ok.mp hseen
            exact .inr ⟨mid, hmid, ih.mpr ⟨seen, i, rest, t, rfl, hseen, hstep⟩⟩

/-- A run over a list gives every input an output. -/
theorem mem_of_mapM_eq_ok {α β : Type u} {f : α → Except ε β} {inputs : List α} {outputs : List β}
    (h : inputs.mapM f = .ok outputs) {input : α} (hinput : input ∈ inputs) :
    ∃ output ∈ outputs, f input = .ok output := by
  induction inputs generalizing outputs with
  | nil => cases hinput
  | cons first rest ih =>
      rw [List.mapM_cons] at h
      obtain ⟨output, hfirst, h⟩ := bind_eq_ok.mp h
      obtain ⟨others, hrest, h⟩ := bind_eq_ok.mp h
      cases h
      rcases List.mem_cons.mp hinput with rfl | hinput
      · exact ⟨output, List.mem_cons_self, hfirst⟩
      · obtain ⟨other, hother, heq⟩ := ih hrest hinput
        exact ⟨other, List.mem_cons_of_mem _ hother, heq⟩

theorem mapM_eq_ok_map {α β : Type u} {f : α → Except ε β} {g : α → β} {inputs : List α}
    (h : ∀ input ∈ inputs, f input = .ok (g input)) : inputs.mapM f = .ok (inputs.map g) := by
  induction inputs with
  | nil => rfl
  | cons first rest ih =>
      rw [List.mapM_cons, h first List.mem_cons_self,
        ih fun input hinput => h input (List.mem_cons_of_mem _ hinput)]
      rfl

/-- What every step on one of the inputs preserves, the whole run preserves. -/
theorem foldlM_invariant {step : σ → ι → Except ε σ} (inv : σ → Prop) {inputs : List ι}
    (hstep : ∀ s i t, i ∈ inputs → inv s → step s i = .ok t → inv t) {s t : σ}
    (hs : inv s) (hrun : inputs.foldlM step s = .ok t) : inv t := by
  induction inputs generalizing s with
  | nil =>
      cases hrun
      exact hs
  | cons i rest ih =>
      obtain ⟨mid, hmid, hrest⟩ := foldlM_cons_eq_ok.mp hrun
      exact ih (fun s j t hj => hstep s j t (List.mem_cons_of_mem _ hj))
        (hstep s i mid List.mem_cons_self hs hmid) hrest

/-- The same rule when the invariant also speaks of the inputs already consumed. -/
theorem foldlM_prefix_invariant {step : σ → ι → Except ε σ} (inv : List ι → σ → Prop)
    {inputs : List ι} (hstep : ∀ seen i rest s t, inputs = seen ++ i :: rest → inv seen s →
      step s i = .ok t → inv (seen ++ [i]) t) {s t : σ} (hs : inv [] s)
    (hrun : inputs.foldlM step s = .ok t) : inv inputs t := by
  suffices h : ∀ (rest seen : List ι) (s : σ), inputs = seen ++ rest → inv seen s →
      rest.foldlM step s = .ok t → inv inputs t from h inputs [] s rfl hs hrun
  intro rest
  induction rest with
  | nil =>
      intro seen s hsplit hseen hrest
      cases hrest
      rw [hsplit, List.append_nil]
      exact hseen
  | cons i rest ih =>
      intro seen s hsplit hseen hrest
      obtain ⟨mid, hmid, htail⟩ := foldlM_cons_eq_ok.mp hrest
      refine ih (seen ++ [i]) mid ?_ (hstep seen i rest s mid hsplit hseen hmid) htail
      rw [hsplit, List.append_assoc, List.singleton_append]

/-- What is said of every input of a run with the inputs before it, is said of the last input and of
every other. -/
theorem forall_split_concat {p : List ι → ι → Prop} {inputs : List ι} {last : ι} :
    (∀ seen i rest, inputs ++ [last] = seen ++ i :: rest → p seen i) ↔
      (∀ seen i rest, inputs = seen ++ i :: rest → p seen i) ∧ p inputs last := by
  constructor
  · intro h
    refine ⟨?_, h inputs last [] rfl⟩
    intro seen i rest hsplit
    exact h seen i (rest ++ [last]) (by rw [hsplit, List.append_assoc, List.cons_append])
  · rintro ⟨h, hlast⟩ seen i rest hsplit
    rcases List.eq_nil_or_concat rest with rfl | ⟨rest', other, rfl⟩
    · obtain ⟨rfl, heq⟩ := List.append_inj' hsplit rfl
      cases heq
      exact hlast
    · rw [List.concat_eq_append, ← List.cons_append, ← List.append_assoc] at hsplit
      exact h seen i rest' (List.append_inj' hsplit rfl).1

theorem exists_split_concat {p : List ι → ι → Prop} {inputs : List ι} {last : ι} :
    (∃ seen i rest, inputs ++ [last] = seen ++ i :: rest ∧ p seen i) ↔
      (∃ seen i rest, inputs = seen ++ i :: rest ∧ p seen i) ∨ p inputs last := by
  constructor
  · rintro ⟨seen, i, rest, hsplit, h⟩
    by_contra hnone
    obtain ⟨hbefore, hlast⟩ := not_or.mp hnone
    have hall := (forall_split_concat (p := fun seen i => ¬p seen i)).mpr
      ⟨fun seen i rest hsplit h => hbefore ⟨seen, i, rest, hsplit, h⟩, hlast⟩
    exact hall seen i rest hsplit h
  · rintro (⟨seen, i, rest, rfl, h⟩ | h)
    · exact ⟨seen, i, rest ++ [last], by rw [List.append_assoc, List.cons_append], h⟩
    · exact ⟨inputs, last, [], rfl, h⟩

/-- Two positions of one list are the same, or one of them comes first. -/
theorem split_cases {seen rest seen' rest' : List ι} {i j : ι}
    (h : seen ++ i :: rest = seen' ++ j :: rest') :
    (seen = seen' ∧ i = j) ∨ (∃ between, seen' = seen ++ i :: between) ∨
      ∃ between, seen = seen' ++ j :: between := by
  rcases List.append_eq_append_iff.mp h with ⟨tail, hseen, hrest⟩ | ⟨tail, hseen, hrest⟩
  · cases tail with
    | nil => exact .inl ⟨by simp [hseen], (List.cons.inj hrest).1⟩
    | cons first tail => exact .inr (.inl ⟨tail, by rw [hseen, (List.cons.inj hrest).1]⟩)
  · cases tail with
    | nil => exact .inl ⟨by simp [hseen], (List.cons.inj hrest).1.symm⟩
    | cons first tail => exact .inr (.inr ⟨tail, by rw [hseen, (List.cons.inj hrest).1]⟩)

theorem split_singleton {only i : ι} {seen rest : List ι}
    (h : [only] = seen ++ i :: rest) : seen = [] ∧ i = only ∧ rest = [] := by
  cases seen with
  | nil => simpa [eq_comm] using h
  | cons first seen => simp at h

theorem forall_split_nil {p : List ι → ι → Prop} :
    ∀ seen i rest, ([] : List ι) = seen ++ i :: rest → p seen i := by
  intro seen i rest h
  simp at h

/-- The inputs of a run one by one from its start. -/
theorem forall_split_cons {p : List ι → ι → Prop} {first : ι} {others : List ι} (hfirst : p [] first)
    (hothers : ∀ seen i rest, others = seen ++ i :: rest → p (first :: seen) i) :
    ∀ seen i rest, first :: others = seen ++ i :: rest → p seen i := by
  intro seen i rest h
  cases seen with
  | nil =>
      obtain ⟨rfl, -⟩ := List.cons.inj h
      exact hfirst
  | cons other seen =>
      obtain ⟨rfl, hrest⟩ := List.cons.inj h
      exact hothers seen i rest hrest

/-- A property that each step keeps exactly when it is allowed holds after a run exactly when every step
was allowed in the state it was taken in. -/
theorem foldlM_good_iff {step : σ → ι → Except ε σ} (inv good : σ → Prop) {allowed : σ → ι → Prop}
    {inputs : List ι} (hstep : ∀ s i t, inv s → step s i = .ok t →
      inv t ∧ (good t ↔ good s ∧ allowed s i)) {s t : σ} (hs : inv s) (hgood : good s)
    (hrun : inputs.foldlM step s = .ok t) :
    good t ↔ ∀ seen i rest, inputs = seen ++ i :: rest →
      ∀ mid, seen.foldlM step s = .ok mid → allowed mid i := by
  refine (foldlM_prefix_invariant (fun seen t => seen.foldlM step s = .ok t ∧ inv t ∧
    (good t ↔ ∀ before i rest, seen = before ++ i :: rest →
      ∀ mid, before.foldlM step s = .ok mid → allowed mid i)) ?_ ⟨rfl, hs, ?_⟩ hrun).2.2
  · rintro seen i - t u - ⟨hseen, hinv, hiff⟩ hok
    obtain ⟨hinv', hgood'⟩ := hstep t i u hinv hok
    refine ⟨foldlM_append_eq_ok.mpr ⟨t, hseen, foldlM_cons_eq_ok.mpr ⟨u, hok, rfl⟩⟩, hinv', ?_⟩
    rw [forall_split_concat (p := fun before i =>
      ∀ mid, before.foldlM step s = .ok mid → allowed mid i), hgood', hiff]
    refine and_congr_right fun _ => ?_
    constructor
    · intro hallowed mid hmid
      rw [hseen, Except.ok.injEq] at hmid
      exact hmid ▸ hallowed
    · exact fun hallowed => hallowed t hseen
  · simp [hgood]

/-- A property that every allowed step keeps holds throughout a run whose steps are all allowed in
the state they are taken in. -/
theorem foldl_always {step : σ → ι → σ} {good : σ → Prop} {allowed : σ → ι → Prop} {inputs : List ι}
    (hstep : ∀ s i, good s → allowed s i → good (step s i)) {s : σ} (hs : good s)
    (hallowed : ∀ seen i rest, inputs = seen ++ i :: rest → allowed (seen.foldl step s) i) :
    ∀ seen rest, inputs = seen ++ rest → good (seen.foldl step s) := by
  intro seen
  induction seen using List.reverseRecOn with
  | nil => exact fun _ _ => hs
  | append_singleton seen i ih =>
      intro rest hsplit
      have hsplit' : inputs = seen ++ i :: rest := by
        rw [hsplit, List.append_assoc, List.singleton_append]
      rw [List.foldl_append]
      exact hstep _ i (ih (i :: rest) hsplit') (hallowed seen i rest hsplit')

/-- A property that each step keeps exactly when it is allowed holds throughout a run exactly when every
step was allowed in the state it was taken in. -/
theorem foldl_always_iff {step : σ → ι → σ} {good : σ → Prop} {allowed : σ → ι → Prop}
    {inputs : List ι} (hstep : ∀ s i, good s → (good (step s i) ↔ allowed s i)) {s : σ} (hs : good s) :
    (∀ seen rest, inputs = seen ++ rest → good (seen.foldl step s)) ↔
      ∀ seen i rest, inputs = seen ++ i :: rest → allowed (seen.foldl step s) i := by
  constructor
  · intro hgood seen i rest hsplit
    have hnext := hgood (seen ++ [i]) rest (by rw [hsplit, List.append_assoc, List.singleton_append])
    rw [List.foldl_append] at hnext
    exact (hstep _ i (hgood seen (i :: rest) hsplit)).mp hnext
  · exact foldl_always (fun s i hs => (hstep s i hs).mpr) hs

/-- What every step does when the invariant holds at its input: it fails as the verdict says, or goes on
with the invariant. -/
def StepVerdict (step : σ → ι → Except ε σ) (inv : List ι → σ → Prop)
    (verdict : List ι → ι → Option ε) (inputs : List ι) : Prop :=
  ∀ seen i rest s, inputs = seen ++ i :: rest → inv seen s →
    match verdict seen i with
    | none => ∃ t, step s i = .ok t ∧ inv (seen ++ [i]) t
    | some e => step s i = .error e

/-- A run ends at the first input with a verdict against it, or succeeds when there is none. -/
theorem foldlM_verdict {step : σ → ι → Except ε σ} {inv : List ι → σ → Prop}
    {verdict : List ι → ι → Option ε} {inputs : List ι}
    (hstep : StepVerdict step inv verdict inputs) {s : σ} (hs : inv [] s) :
    (∃ t, inputs.foldlM step s = .ok t ∧ inv inputs t ∧
        ∀ seen i rest, inputs = seen ++ i :: rest → verdict seen i = none) ∨
      ∃ seen i rest e, inputs = seen ++ i :: rest ∧ verdict seen i = some e ∧
        inputs.foldlM step s = .error e ∧
        ∀ seen' i' rest', seen = seen' ++ i' :: rest' → verdict seen' i' = none := by
  induction inputs using List.reverseRecOn with
  | nil =>
      refine .inl ⟨s, rfl, hs, ?_⟩
      intro seen i rest hsplit
      simp at hsplit
  | append_singleton inputs last ih =>
      have hprefix : StepVerdict step inv verdict inputs := by
        intro seen i rest s hsplit
        exact hstep seen i (rest ++ [last]) s (by rw [hsplit]; simp)
      rw [List.foldlM_append]
      rcases ih hprefix with ⟨t, hrun, hinv, hnone⟩ |
        ⟨seen, i, rest, e, rfl, hverdict, hrun, hnone⟩
      · have hlast := hstep inputs last [] t rfl hinv
        rw [hrun]
        cases hverdict : verdict inputs last with
        | none =>
            rw [hverdict] at hlast
            obtain ⟨u, hu, hinvU⟩ := hlast
            refine .inl ⟨u, ?_, hinvU, ?_⟩
            · show [last].foldlM step t = .ok u
              rw [List.foldlM_cons, hu]
              rfl
            · exact forall_split_concat.mpr ⟨hnone, hverdict⟩
        | some e =>
            rw [hverdict] at hlast
            refine .inr ⟨inputs, last, [], e, rfl, hverdict, ?_, hnone⟩
            show [last].foldlM step t = .error e
            rw [List.foldlM_cons, hlast]
            rfl
      · refine .inr ⟨seen, i, rest ++ [last], e, by simp, hverdict, ?_, hnone⟩
        rw [hrun]
        rfl

/-- An invariant of the initial state and of every step holds in every reachable state. -/
theorem reachable_invariant {step : σ → σ → Prop} (inv : σ → Prop)
    (hstep : ∀ s t, inv s → step s t → inv t) {s t : σ} (hs : inv s)
    (hreach : Relation.ReflTransGen step s t) : inv t := by
  induction hreach with
  | refl => exact hs
  | tail _ hlast ih => exact hstep _ _ ih hlast

end Library
