import Micboard.LibraryRun

/-! Sources that answer one pull after another: with an item, with their end, or with an exception.
A source may go on for ever, so a reader is described by the pulls that it makes; what it has not
pulled it does not depend on. -/

namespace Library

inductive Pull (ε ι : Type*) where
  | item (value : ι)
  | stop
  | raise (error : ε)
  deriving DecidableEq, Repr

variable {ε ι σ : Type*} {source source' : Nat → Pull ε ι} {budget start : Nat} {items : List ι}

def sourceOf (items : List ι) (i : Nat) : Pull ε ι :=
  match items[i]? with
  | some value => .item value
  | none => .stop

/-- The items that the pulls from `start` on yield, `budget` of them at most. -/
def readItems (source : Nat → Pull ε ι) : Nat → Nat → Except ε (List ι)
  | 0, _ => .ok []
  | budget + 1, start =>
    match source start with
    | .stop => .ok []
    | .raise error => .error error
    | .item value => (readItems source budget (start + 1)).map (value :: ·)

/-- A reader depends on the pulls of its budget only. -/
theorem readItems_congr (h : ∀ i, start ≤ i → i < start + budget → source i = source' i) :
    readItems source budget start = readItems source' budget start := by
  induction budget generalizing start with
  | zero => rfl
  | succ budget ih =>
      rw [readItems, readItems, h start (Nat.le_refl start) (by omega)]
      cases source' start with
      | stop => rfl
      | raise error => rfl
      | item value => rw [ih fun i hi hlt => h i (by omega) (by omega)]

/-- What was read stands in the source in this order, and a reader that stops early has met the end. -/
theorem readItems_spec (h : readItems source budget start = .ok items) :
    items.length ≤ budget ∧ (∀ i (hi : i < items.length), source (start + i) = .item items[i]) ∧
      (items.length < budget → source (start + items.length) = .stop) := by
  induction budget generalizing start items with
  | zero =>
      obtain rfl := Except.ok.inj h
      exact ⟨Nat.le_refl 0, fun i hi => absurd hi (Nat.not_lt_zero i), fun hlt =>
        absurd hlt (Nat.lt_irrefl 0)⟩
  | succ budget ih =>
      rw [readItems] at h
      cases hpull : source start with
      | raise error => simp [hpull] at h
      | stop =>
          rw [hpull] at h
          obtain rfl := Except.ok.inj h
          exact ⟨Nat.zero_le _, fun i hi => absurd hi (Nat.not_lt_zero i), fun _ => hpull⟩
      | item value =>
          rw [hpull] at h
          obtain ⟨rest, hrest, rfl⟩ := map_eq_ok.mp h
          obtain ⟨hlength, hitems, hend⟩ := ih hrest
          refine ⟨Nat.succ_le_succ hlength, fun i hi => ?_, fun hlt => ?_⟩
          · cases i with
            | zero => exact hpull
            | succ i =>
                have hshift := hitems i (Nat.lt_of_succ_lt_succ hi)
                rw [show start + (i + 1) = start + 1 + i by omega, hshift]
                rfl
          · rw [show start + (value :: rest).length = start + 1 + rest.length by simp; omega]
            exact hend (Nat.lt_of_succ_lt_succ hlt)

/-- A loop that hands one item after another to a step until the source stops, or the step or the
source raises, with the number of its pulls; nothing when it goes on after `fuel` pulls. -/
def consumeFrom (step : σ → ι → Except ε σ) (source : Nat → Pull ε ι) : Nat → Nat → σ →
    Option (Except ε σ × Nat)
  | 0, _, _ => none
  | fuel + 1, i, state =>
    match source i with
    | .stop => some (.ok state, i + 1)
    | .raise error => some (.error error, i + 1)
    | .item value =>
      match step state value with
      | .error error => some (.error error, i + 1)
      | .ok state => consumeFrom step source fuel (i + 1) state

variable {step : σ → ι → Except ε σ} {fuel fuel' i : Nat} {state : σ} {outcome : Except ε σ × Nat}

/-- More fuel changes no result. -/
theorem consumeFrom_mono (h : consumeFrom step source fuel i state = some outcome)
    (hle : fuel ≤ fuel') :
    consumeFrom step source fuel' i state = some outcome := by
  induction fuel generalizing fuel' i state with
  | zero => cases h
  | succ fuel ih =>
      obtain ⟨fuel', rfl⟩ : ∃ more, fuel' = more + 1 := ⟨fuel' - 1, by omega⟩
      rw [consumeFrom] at h ⊢
      cases hpull : source i with
      | stop => rwa [hpull] at h
      | raise error => rwa [hpull] at h
      | item value =>
          rw [hpull] at h
          cases hstep : step state value with
          | error error => simpa [hstep] using h
          | ok state =>
              simp only [hstep] at h ⊢
              exact ih h (by omega)

/-- **A loop whose items add up to no more than a limit ends**, however long the source: after as
many pulls as are left up to the limit, and two. -/
theorem exists_consumeFrom (size : σ → Nat) {limit : Nat}
    (hstep : ∀ i value state state', source i = .item value → step state value = .ok state' →
      size state < size state' ∧ size state' ≤ limit) (i : Nat) (state : σ) :
    ∃ outcome, consumeFrom step source (limit - size state + 2) i state = some outcome := by
  obtain ⟨left, hleft⟩ : ∃ left, left = limit - size state := ⟨_, rfl⟩
  rw [← hleft]
  induction left using Nat.strongRecOn generalizing i state with
  | ind left ih =>
      rw [consumeFrom]
      cases hpull : source i with
      | stop => exact ⟨_, rfl⟩
      | raise error => exact ⟨_, rfl⟩
      | item value =>
          cases hnext : step state value with
          | error error => exact ⟨(.error error, i + 1), by simp only [hnext]⟩
          | ok next =>
              obtain ⟨hgrows, hwithin⟩ := hstep i value state next hpull hnext
              obtain ⟨outcome, houtcome⟩ := ih (limit - size next) (by omega) (i + 1) next rfl
              have hfuel : limit - size next + 2 ≤ left + 1 := by omega
              refine ⟨outcome, ?_⟩
              simp only [hnext]
              exact consumeFrom_mono houtcome hfuel

/-- How a loop ends: it accepts items up to a last pull, which brings the end, an exception, or an
item that the step refuses. -/
theorem consumeFrom_eq_some (h : consumeFrom step source fuel i state = some outcome) :
    ∃ (items : List ι) (last : σ), items.foldlM step state = .ok last ∧
      outcome.2 = i + items.length + 1 ∧
      (∀ j (hj : j < items.length), source (i + j) = .item items[j]) ∧
      (source (i + items.length) = .stop ∧ outcome.1 = .ok last ∨
        (∃ error, source (i + items.length) = .raise error ∧ outcome.1 = .error error) ∨
        ∃ value error, source (i + items.length) = .item value ∧ step last value = .error error ∧
          outcome.1 = .error error) := by
  induction fuel generalizing i state with
  | zero => cases h
  | succ fuel ih =>
      rw [consumeFrom] at h
      cases hpull : source i with
      | raise error =>
          rw [hpull] at h
          obtain rfl := Option.some.inj h
          exact ⟨[], state, rfl, rfl, fun j hj => absurd hj (Nat.not_lt_zero j),
            .inr (.inl ⟨error, hpull, rfl⟩)⟩
      | stop =>
          rw [hpull] at h
          obtain rfl := Option.some.inj h
          exact ⟨[], state, rfl, rfl, fun j hj => absurd hj (Nat.not_lt_zero j), .inl ⟨hpull, rfl⟩⟩
      | item value =>
          rw [hpull] at h
          cases hstep : step state value with
          | error error =>
              simp only [hstep, Option.some.injEq] at h
              subst h
              exact ⟨[], state, rfl, rfl, fun j hj => absurd hj (Nat.not_lt_zero j),
                .inr (.inr ⟨value, error, hpull, hstep, rfl⟩)⟩
          | ok next =>
              simp only [hstep] at h
              obtain ⟨items, last, hfold, hpulls, hitems, hlast⟩ := ih h
              have hlength : i + (value :: items).length = i + 1 + items.length := by simp; omega
              refine ⟨value :: items, last, foldlM_cons_eq_ok.mpr ⟨next, hstep, hfold⟩, ?_,
                fun j hj => ?_, ?_⟩
              · rw [hpulls, hlength]
              · cases j with
                | zero => exact hpull
                | succ j =>
                    have hshift := hitems j (Nat.lt_of_succ_lt_succ hj)
                    rw [show i + (j + 1) = i + 1 + j by omega, hshift]
                    rfl
              · rw [hlength]
                exact hlast

/-- On a source that ends, a loop is the fold over its items. -/
theorem consumeFrom_items (hitems : ∀ j (hj : j < items.length), source (i + j) = .item items[j])
    (hstop : source (i + items.length) = .stop) (hfuel : items.length < fuel) :
    ∃ pulls, consumeFrom step source fuel i state = some (items.foldlM step state, pulls) := by
  induction items generalizing fuel i state with
  | nil =>
      obtain ⟨fuel, rfl⟩ : ∃ more, fuel = more + 1 := ⟨fuel - 1, by simp at hfuel; omega⟩
      have hend : source i = .stop := hstop
      exact ⟨i + 1, by rw [consumeFrom, hend]; rfl⟩
  | cons value items ih =>
      obtain ⟨fuel, rfl⟩ : ∃ more, fuel = more + 1 := ⟨fuel - 1, by simp at hfuel; omega⟩
      have hpull : source i = .item value := hitems 0 (Nat.succ_pos _)
      cases hstep : step state value with
      | error error =>
          refine ⟨i + 1, ?_⟩
          rw [consumeFrom, hpull, List.foldlM_cons, hstep]
          simp only [hstep]
          rfl
      | ok next =>
          obtain ⟨pulls, hpulls⟩ := @ih fuel (i + 1) next (fun j hj => by
            have hshift := hitems (j + 1) (Nat.succ_lt_succ hj)
            rw [show i + 1 + j = i + (j + 1) by omega, hshift]
            rfl) (by rw [show i + 1 + items.length = i + (value :: items).length by
              simp; omega]; exact hstop)
            (Nat.lt_of_succ_lt_succ hfuel)
          refine ⟨pulls, ?_⟩
          rw [consumeFrom, hpull, List.foldlM_cons, hstep]
          simp only [hstep]
          exact hpulls

end Library
