import Mathlib.Data.List.Basic
import Mathlib.Tactic.Common

/-! Linear probing around a ring of slots. The loop moves on from a taken slot to the next one until
it meets a free one; nothing bounds it, and it stops exactly where one round of the ring meets a
free slot. -/

namespace Library.Probing

/-- The loop `while taken slot: slot = (slot + 1) % size` stops at `stop`. -/
inductive Stops (taken : Nat → Prop) (size : Nat) : Nat → Nat → Prop where
  | free {slot : Nat} (free : ¬ taken slot) : Stops taken size slot slot
  | next {slot stop : Nat} (busy : taken slot) (rest : Stops taken size ((slot + 1) % size) stop) :
      Stops taken size slot stop

/-- One round of the ring from a slot on. -/
def probes (size start : Nat) : List Nat := (List.range size).map fun i => (start + i) % size

variable {taken : Nat → Prop} {size start stop : Nat}

theorem mem_probes (start : Nat) (hsize : 0 < size) : stop ∈ probes size start ↔ stop < size := by
  simp only [probes, List.mem_map, List.mem_range]
  constructor
  · rintro ⟨i, -, rfl⟩
    exact Nat.mod_lt _ hsize
  · intro hstop
    -- the distance from the start, on past the end of the ring
    refine ⟨(stop + (size - start % size)) % size, Nat.mod_lt _ hsize, ?_⟩
    have hstart := Nat.mod_lt start hsize
    rw [Nat.add_mod, Nat.mod_mod, ← Nat.add_mod, ← Nat.mod_add_mod,
      show start % size + (stop + (size - start % size)) = stop + size by omega, Nat.add_mod_right,
      Nat.mod_eq_of_lt hstop]

theorem Stops.free_stop (h : Stops taken size start stop) : ¬ taken stop := by
  induction h with
  | free hfree => exact hfree
  | next _ _ ih => exact ih

theorem Stops.lt (h : Stops taken size start stop) (hstart : start < size) : stop < size := by
  induction h with
  | free _ => exact hstart
  | next _ _ ih => exact ih (Nat.mod_lt _ (Nat.zero_lt_of_lt hstart))

theorem Stops.unique {stop' : Nat} (h : Stops taken size start stop)
    (h' : Stops taken size start stop') :
    stop = stop' := by
  induction h with
  | free hfree =>
      cases h' with
      | free _ => rfl
      | next hbusy _ => exact absurd hbusy hfree
  | next hbusy _ ih =>
      cases h' with
      | free hfree => exact absurd hbusy hfree
      | next _ hrest => exact ih hrest

/-- The loop passes a stretch of taken slots. -/
theorem stops_of_stretch {distance : Nat} (hstart : start < size)
    (hbusy : ∀ i < distance, taken ((start + i) % size)) (hfree : ¬ taken ((start + distance) % size)) :
    Stops taken size start ((start + distance) % size) := by
  induction distance generalizing start with
  | zero =>
      rw [Nat.add_zero, Nat.mod_eq_of_lt hstart] at hfree ⊢
      exact .free hfree
  | succ distance ih =>
      have hfirst := hbusy 0 (Nat.succ_pos distance)
      rw [Nat.add_zero, Nat.mod_eq_of_lt hstart] at hfirst
      have hshift : ∀ i, ((start + 1) % size + i) % size = (start + (i + 1)) % size := by
        intro i
        rw [Nat.mod_add_mod, Nat.add_assoc, Nat.add_comm 1]
      rw [← hshift] at hfree ⊢
      refine .next hfirst (ih (Nat.mod_lt _ (Nat.zero_lt_of_lt hstart)) ?_ hfree)
      intro i hi
      rw [hshift]
      exact hbusy (i + 1) (Nat.succ_lt_succ hi)

variable [DecidablePred taken]

theorem stops_of_find? (hstart : start < size)
    (h : (probes size start).find? (fun slot => ¬ taken slot) = some stop) :
    Stops taken size start stop := by
  obtain ⟨hfree, before, after, hprobes, hbusy⟩ := List.find?_eq_some_iff_append.mp h
  have hlength := congrArg List.length hprobes
  simp only [probes, List.length_map, List.length_range, List.length_append,
    List.length_cons] at hlength
  have hget : ∀ i < size, (before ++ stop :: after)[i]? = some ((start + i) % size) := by
    intro i hi
    rw [← hprobes, probes, List.getElem?_map, List.getElem?_range hi, Option.map_some]
  have hstop : stop = (start + before.length) % size := by
    have hat := hget before.length (by omega)
    rwa [List.getElem?_append_right (Nat.le_refl _), Nat.sub_self, List.getElem?_cons_zero,
      Option.some.injEq] at hat
  rw [hstop] at hfree ⊢
  refine stops_of_stretch hstart ?_ (of_decide_eq_true hfree)
  intro i hi
  have hat := hget i (by omega)
  rw [List.getElem?_append_left hi] at hat
  have hmem := hbusy _ (List.mem_of_getElem? hat)
  simpa using hmem

/-- The loop stops where one round finds the first free slot. -/
theorem stops_iff_find? (hstart : start < size) :
    Stops taken size start stop ↔
      (probes size start).find? (fun slot => ¬ taken slot) = some stop := by
  refine ⟨fun h => ?_, stops_of_find? hstart⟩
  cases hfind : (probes size start).find? (fun slot => ¬ taken slot) with
  | some found => rw [(stops_of_find? hstart hfind).unique h]
  | none =>
      have hmem := (mem_probes start (Nat.zero_lt_of_lt hstart)).mpr (h.lt hstart)
      have hbusy := List.find?_eq_none.mp hfind stop hmem
      exact absurd h.free_stop (by simpa using hbusy)

/-- **The loop stops exactly when some slot of the ring is free.** -/
theorem exists_stops_iff (hstart : start < size) :
    (∃ stop, Stops taken size start stop) ↔ ∃ slot < size, ¬ taken slot := by
  constructor
  · rintro ⟨stop, h⟩
    exact ⟨stop, h.lt hstart, h.free_stop⟩
  · rintro ⟨slot, hslot, hfree⟩
    have hmem := (mem_probes start (Nat.zero_lt_of_lt hstart)).mpr hslot
    have hsome : ((probes size start).find? fun slot => ¬ taken slot).isSome := by
      rw [List.find?_isSome]
      exact ⟨slot, hmem, decide_eq_true hfree⟩
    obtain ⟨stop, hstop⟩ := Option.isSome_iff_exists.mp hsome
    exact ⟨stop, stops_of_find? hstart hstop⟩

end Library.Probing
