import Mathlib.Algebra.Order.BigOperators.Group.List
import Mathlib.Algebra.Order.Group.Nat
import Mathlib.Algebra.Ring.Nat
import Mathlib.Data.List.Sort

/-! Bounded enumeration of several sources. A page takes rows in circular order from a cursor on; a
budget is dealt to the sources in turns of one; iterators are consumed in rounds until the budget is
spent. Each says whether it has left anything out. -/

namespace Library.Budget

section Page

variable {α κ : Type*} [LinearOrder κ] (pk : α → κ)

/-- The rows in the order of their keys. -/
def byKey (rows : List α) : List α := rows.insertionSort fun a b => pk a ≤ pk b

/-- The rows in circular order: first those after the cursor, then the others. -/
def circular (cursor : κ) (rows : List α) : List α :=
  byKey pk (rows.filter fun row => cursor < pk row) ++
    byKey pk (rows.filter fun row => ¬ cursor < pk row)

/-- A page of at most `limit` rows, and whether these are all of them. -/
def circularPage (cursor : κ) (limit : Nat) (rows : List α) : List α × Bool :=
  let found := (circular pk cursor rows).take (limit + 1)
  (found.take limit, decide (found.length ≤ limit))

variable {pk} {cursor : κ} {limit : Nat} {rows : List α} {row : α}

theorem circular_perm (pk : α → κ) (cursor : κ) (rows : List α) :
    (circular pk cursor rows).Perm rows := by
  refine ((List.perm_insertionSort _ _).append (List.perm_insertionSort _ _)).trans ?_
  simpa only [decide_not] using
    List.filter_append_perm (fun row => decide (cursor < pk row)) rows

theorem mem_of_mem_circularPage (h : row ∈ (circularPage pk cursor limit rows).1) : row ∈ rows :=
  (circular_perm pk cursor rows).mem_iff.mp (List.mem_of_mem_take (List.mem_of_mem_take h))

theorem circularPage_complete_iff :
    (circularPage pk cursor limit rows).2 = true ↔ rows.length ≤ limit := by
  have hlength : ((circular pk cursor rows).take (limit + 1)).length = min (limit + 1) rows.length := by
    rw [List.length_take, (circular_perm pk cursor rows).length_eq]
  have hcomplete : (circularPage pk cursor limit rows).2 =
      decide (((circular pk cursor rows).take (limit + 1)).length ≤ limit) := rfl
  rw [hcomplete, decide_eq_true_eq, hlength]
  omega

theorem circularPage_perm (h : (circularPage pk cursor limit rows).2 = true) :
    (circularPage pk cursor limit rows).1.Perm rows := by
  have hall := circularPage_complete_iff.mp h
  have hlength := (circular_perm pk cursor rows).length_eq
  have hfound : (circularPage pk cursor limit rows).1 = circular pk cursor rows := by
    rw [circularPage, List.take_of_length_le (by omega : _ ≤ limit + 1),
      List.take_of_length_le (by omega)]
  rw [hfound]
  exact circular_perm pk cursor rows

end Page

/-- One round over the sources, each with its share and its size: every source that is not served
yet gets one more. Also what remains, and whether anyone got something. -/
def allocateRound : List (Nat × Nat) → Nat → List (Nat × Nat) × Nat × Bool
  | [], remaining => ([], remaining, false)
  | (share, size) :: rest, remaining =>
    if size ≤ share then
      let (rest, remaining, advanced) := allocateRound rest remaining
      ((share, size) :: rest, remaining, advanced)
    else if remaining ≤ 1 then ((share + 1, size) :: rest, 0, true)
    else
      let (rest, remaining, _) := allocateRound rest (remaining - 1)
      ((share + 1, size) :: rest, remaining, true)

/-- Rounds until the budget is spent or every source is served. -/
def allocateRounds : Nat → List (Nat × Nat) → Nat → List (Nat × Nat)
  | 0, sources, _ => sources
  | rounds + 1, sources, remaining =>
    if remaining = 0 then sources
    else
      let (sources, remaining, advanced) := allocateRound sources remaining
      if advanced then allocateRounds rounds sources remaining else sources

/-- The shares of sources with the given sizes. Every round but the last one spends something. -/
def allocate (limit : Nat) (sizes : List Nat) : List Nat :=
  (allocateRounds (limit + 1) (sizes.map fun size => (0, size)) limit).map Prod.fst

/-- Rounds keep the sizes, give no source more than its size, and spend what they deal. -/
structure Dealt (before : List (Nat × Nat)) (remaining : Nat) (after : List (Nat × Nat)) (left : Nat) :
    Prop where
  sizes : after.map Prod.snd = before.map Prod.snd
  within : ∀ source ∈ after, source.1 ≤ source.2
  spent : (after.map Prod.fst).sum + left = (before.map Prod.fst).sum + remaining

theorem length_allocateRound (sources : List (Nat × Nat)) (remaining : Nat) :
    (allocateRound sources remaining).1.length = sources.length := by
  induction sources generalizing remaining with
  | nil => rfl
  | cons source rest ih =>
      obtain ⟨share, size⟩ := source
      rw [allocateRound]
      split
      next => simp [ih]
      next =>
        split
        next => simp
        next => simp [ih]

theorem length_allocateRounds (rounds : Nat) (sources : List (Nat × Nat)) (remaining : Nat) :
    (allocateRounds rounds sources remaining).length = sources.length := by
  induction rounds generalizing sources remaining with
  | zero => rfl
  | succ rounds ih =>
      rw [allocateRounds]
      split
      next => rfl
      next =>
        simp only
        split
        next => rw [ih, length_allocateRound]
        next => exact length_allocateRound sources remaining

theorem allocateRound_spends {sources : List (Nat × Nat)} {remaining : Nat} (hremaining : 0 < remaining)
    (h : (allocateRound sources remaining).2.2 = true) :
    (allocateRound sources remaining).2.1 < remaining := by
  have hkept : ∀ (sources : List (Nat × Nat)) (remaining : Nat),
      (allocateRound sources remaining).2.1 ≤ remaining := by
    intro sources
    induction sources with
    | nil => exact fun remaining => Nat.le_refl _
    | cons source rest ih =>
        intro remaining
        rw [allocateRound]
        split
        next => exact ih remaining
        next =>
          split
          next => exact Nat.zero_le _
          next => exact (ih (remaining - 1)).trans (Nat.sub_le _ _)
  induction sources with
  | nil => cases h
  | cons source rest ih =>
      rw [allocateRound] at h ⊢
      split at h
      next hserved =>
        rw [if_pos hserved]
        exact ih h
      next hserved =>
        rw [if_neg hserved]
        split
        next => exact hremaining
        next =>
          exact Nat.lt_of_le_of_lt (hkept rest (remaining - 1)) (Nat.sub_lt hremaining Nat.one_pos)

theorem Dealt.trans {first second third : List (Nat × Nat)} {all some few : Nat}
    (h : Dealt first all second some) (hlater : Dealt second some third few) :
    Dealt first all third few :=
  ⟨hlater.sizes.trans h.sizes, hlater.within, hlater.spent.trans h.spent⟩

/-- A round deals; when no one gets anything every source is served. -/
theorem dealt_allocateRound {sources : List (Nat × Nat)} {remaining : Nat} (hremaining : 0 < remaining)
    (h : ∀ source ∈ sources, source.1 ≤ source.2) :
    Dealt sources remaining (allocateRound sources remaining).1 (allocateRound sources remaining).2.1 ∧
      ((allocateRound sources remaining).2.2 = false →
        ∀ source ∈ (allocateRound sources remaining).1, source.2 ≤ source.1) := by
  induction sources generalizing remaining with
  | nil => exact ⟨⟨rfl, h, rfl⟩, fun _ _ hsource => nomatch hsource⟩
  | cons source rest ih =>
      obtain ⟨share, size⟩ := source
      obtain ⟨hhead, hrest⟩ := List.forall_mem_cons.mp h
      rw [allocateRound]
      split
      next hserved =>
        obtain ⟨hdealt, hall⟩ := ih hremaining hrest
        generalize allocateRound rest remaining = later at hdealt hall ⊢
        obtain ⟨dealt, left, advanced⟩ := later
        refine ⟨⟨?_, List.forall_mem_cons.mpr ⟨hhead, hdealt.within⟩, ?_⟩, fun hnone => ?_⟩
        · rw [List.map_cons, List.map_cons, hdealt.sizes]
        · have hspent := hdealt.spent
          simp only [List.map_cons, List.sum_cons] at hspent ⊢
          omega
        · exact List.forall_mem_cons.mpr ⟨hserved, hall hnone⟩
      next hserved =>
        split
        next hlast =>
          refine ⟨⟨rfl, List.forall_mem_cons.mpr ⟨Nat.not_le.mp hserved, hrest⟩, ?_⟩,
            fun hnone => nomatch hnone⟩
          simp only [List.map_cons, List.sum_cons]
          omega
        next hlast =>
          obtain ⟨hdealt, -⟩ := @ih (remaining - 1) (by omega) hrest
          generalize allocateRound rest (remaining - 1) = later at hdealt ⊢
          obtain ⟨dealt, left, advanced⟩ := later
          refine ⟨⟨?_, List.forall_mem_cons.mpr ⟨Nat.not_le.mp hserved, hdealt.within⟩, ?_⟩,
            fun hnone => nomatch hnone⟩
          · rw [List.map_cons, List.map_cons, hdealt.sizes]
          · have hspent := hdealt.spent
            simp only [List.map_cons, List.sum_cons] at hspent ⊢
            omega

/-- The rounds deal until every source is served or nothing remains. -/
theorem dealt_allocateRounds {rounds : Nat} {sources : List (Nat × Nat)} {remaining : Nat}
    (hrounds : remaining < rounds) (h : ∀ source ∈ sources, source.1 ≤ source.2) :
    ∃ left, Dealt sources remaining (allocateRounds rounds sources remaining) left ∧
      (left = 0 ∨ ∀ source ∈ allocateRounds rounds sources remaining, source.2 ≤ source.1) := by
  induction rounds generalizing sources remaining with
  | zero => omega
  | succ rounds ih =>
      rw [allocateRounds]
      split
      next hspent => exact ⟨remaining, ⟨rfl, h, rfl⟩, .inl hspent⟩
      next hspent =>
        obtain ⟨hdealt, hall⟩ := dealt_allocateRound (Nat.pos_of_ne_zero hspent) h
        simp only
        split
        next hadvanced =>
          have hless := allocateRound_spends (Nat.pos_of_ne_zero hspent) hadvanced
          obtain ⟨left, hlater, hend⟩ := ih (Nat.lt_of_lt_of_le hless (by omega)) hdealt.within
          exact ⟨left, hdealt.trans hlater, hend⟩
        next hadvanced => exact ⟨_, hdealt, .inr (hall (by simpa using hadvanced))⟩

theorem length_allocate (limit : Nat) (sizes : List Nat) :
    (allocate limit sizes).length = sizes.length := by
  rw [allocate, List.length_map, length_allocateRounds, List.length_map]

theorem eq_of_forall₂_of_sum {shares sizes : List Nat} (h : List.Forall₂ (· ≤ ·) shares sizes)
    (hsum : sizes.sum ≤ shares.sum) : shares = sizes := by
  induction h with
  | nil => rfl
  | cons hhead htail ih =>
      have hrest := htail.sum_le_sum
      rw [List.sum_cons, List.sum_cons] at hsum
      rw [ih (by omega)]
      congr 1
      omega

theorem forall₂_of_map {sources : List (Nat × Nat)} {R : Nat → Nat → Prop}
    (h : ∀ source ∈ sources, R source.1 source.2) :
    List.Forall₂ R (sources.map Prod.fst) (sources.map Prod.snd) := by
  induction sources with
  | nil => exact .nil
  | cons source rest ih =>
      obtain ⟨hhead, hrest⟩ := List.forall_mem_cons.mp h
      exact .cons hhead (ih hrest)

/-- Rounds from nothing leave the sizes, and what they deal is the budget or all that is wanted. -/
theorem exists_dealt (limit : Nat) (sizes : List Nat) :
    ∃ left, (allocate limit sizes).zip sizes =
        allocateRounds (limit + 1) (sizes.map fun size => (0, size)) limit ∧
      List.Forall₂ (· ≤ ·) (allocate limit sizes) sizes ∧ (allocate limit sizes).sum + left = limit ∧
      (left = 0 ∨ allocate limit sizes = sizes) := by
  have hfst : ((sizes.map fun size => (0, size)).map Prod.fst).sum = 0 := by
    rw [List.map_map, List.sum_eq_zero]
    intro share hshare
    obtain ⟨_, -, rfl⟩ := List.mem_map.mp hshare
    rfl
  have hsnd : (sizes.map fun size => (0, size)).map Prod.snd = sizes := by simp
  obtain ⟨left, hdealt, hend⟩ := @dealt_allocateRounds (limit + 1) (sizes.map fun size => (0, size))
    limit (Nat.lt_succ_self limit) (by simp)
  have hsizes := hdealt.sizes.trans hsnd
  have hwithin := forall₂_of_map hdealt.within
  have hspent := hdealt.spent
  rw [hsizes] at hwithin
  rw [hfst, Nat.zero_add] at hspent
  refine ⟨left, (List.zip_of_prod rfl hsizes).symm, hwithin, hspent, hend.imp_right fun hserved => ?_⟩
  have hall := @forall₂_of_map _ (fun share size => size ≤ share) hserved
  rw [hsizes] at hall
  exact eq_of_forall₂_of_sum hwithin hall.flip.sum_le_sum

/-- The shares spend no more than the budget, and give every source its size if that is enough. -/
theorem allocate_spec (limit : Nat) (sizes : List Nat) :
    (allocate limit sizes).sum ≤ limit ∧ (sizes.sum ≤ limit → allocate limit sizes = sizes) := by
  obtain ⟨left, -, hwithin, hspent, hend⟩ := exists_dealt limit sizes
  refine ⟨Nat.le.intro hspent, fun hfits => hend.elim (fun hnone => ?_) id⟩
  exact eq_of_forall₂_of_sum hwithin (hfits.trans (by omega))

/-! ### Rounds over iterators -/

section Rounds

variable {κ α : Type*}

/-- One round: each iterator gives one item, an exhausted one is dropped, and the round breaks off
when the budget is spent. What was taken, the iterators that are left, and the total. -/
def consumeRound (limit : Nat) :
    List (κ × List α) → Nat → List (κ × α) × List (κ × List α) × Nat
  | [], total => ([], [], total)
  | (_, []) :: rest, total => consumeRound limit rest total
  | (key, item :: later) :: rest, total =>
    if total + 1 = limit then ([(key, item)], (key, later) :: rest, total + 1)
    else
      let (taken, active, total) := consumeRound limit rest (total + 1)
      ((key, item) :: taken, (key, later) :: active, total)

/-- Rounds until no iterator is left or the budget is spent. -/
def consumeRounds (limit : Nat) :
    Nat → List (κ × List α) → Nat → List (κ × α) × List (κ × List α) × Nat
  | 0, active, total => ([], active, total)
  | rounds + 1, active, total =>
    if active.isEmpty || limit ≤ total then ([], active, total)
    else
      let (taken, active, total) := consumeRound limit active total
      let (later, active, total) := consumeRounds limit rounds active total
      (taken ++ later, active, total)

/-- What a budget takes from the iterators, the total, and whether every iterator ended. Every round but
the last one takes something. -/
def consume (limit : Nat) (active : List (κ × List α)) : List (κ × α) × Nat × Bool :=
  let (taken, active, total) := consumeRounds limit (limit + 1) active 0
  (taken, total, active.all fun iterator => iterator.2.isEmpty)

/-- An iterator of the key still has the item. -/
def Pending (active : List (κ × List α)) (key : κ) (item : α) : Prop :=
  ∃ items, (key, items) ∈ active ∧ item ∈ items

theorem pending_cons {active : List (κ × List α)} {key first : κ} {items : List α} {item : α} :
    Pending ((first, items) :: active) key item ↔
      first = key ∧ item ∈ items ∨ Pending active key item := by
  constructor
  · rintro ⟨found, hfound, hitem⟩
    rcases List.mem_cons.mp hfound with heq | hfound
    · cases heq
      exact .inl ⟨rfl, hitem⟩
    · exact .inr ⟨found, hfound, hitem⟩
  · rintro (⟨rfl, hitem⟩ | ⟨found, hfound, hitem⟩)
    · exact ⟨items, List.mem_cons_self, hitem⟩
    · exact ⟨found, List.mem_cons_of_mem _ hfound, hitem⟩

theorem pending_nil {key : κ} {item : α} : ¬ Pending ([] : List (κ × List α)) key item := by
  rintro ⟨items, hitems, -⟩
  cases hitems

variable {limit : Nat} {key : κ} {item : α}

/-- A round neither loses nor invents an item. -/
theorem pending_consumeRound (active : List (κ × List α)) (total : Nat) :
    Pending active key item ↔ (key, item) ∈ (consumeRound limit active total).1 ∨
      Pending (consumeRound limit active total).2.1 key item := by
  induction active generalizing total with
  | nil => simp [consumeRound, pending_nil]
  | cons iterator rest ih =>
      obtain ⟨first, items⟩ := iterator
      cases items with
      | nil =>
          rw [pending_cons, consumeRound, ← ih]
          simp
      | cons head later =>
          rw [consumeRound, pending_cons]
          split
          next =>
            rw [pending_cons, List.mem_singleton, Prod.mk.injEq, List.mem_cons]
            constructor
            · rintro (⟨rfl, rfl | hlater⟩ | hrest)
              · exact .inl ⟨rfl, rfl⟩
              · exact .inr (.inl ⟨rfl, hlater⟩)
              · exact .inr (.inr hrest)
            · rintro (⟨rfl, rfl⟩ | ⟨rfl, hlater⟩ | hrest)
              · exact .inl ⟨rfl, .inl rfl⟩
              · exact .inl ⟨rfl, .inr hlater⟩
              · exact .inr hrest
          next =>
            simp only [pending_cons, List.mem_cons, Prod.mk.injEq]
            rw [ih (total + 1)]
            constructor
            · rintro (⟨rfl, rfl | hlater⟩ | htaken | hrest)
              · exact .inl (.inl ⟨rfl, rfl⟩)
              · exact .inr (.inl ⟨rfl, hlater⟩)
              · exact .inl (.inr htaken)
              · exact .inr (.inr hrest)
            · rintro ((⟨rfl, rfl⟩ | htaken) | ⟨rfl, hlater⟩ | hrest)
              · exact .inl ⟨rfl, .inl rfl⟩
              · exact .inr (.inl htaken)
              · exact .inl ⟨rfl, .inr hlater⟩
              · exact .inr (.inr hrest)

theorem pending_consumeRounds (rounds : Nat) (active : List (κ × List α)) (total : Nat) :
    Pending active key item ↔ (key, item) ∈ (consumeRounds limit rounds active total).1 ∨
      Pending (consumeRounds limit rounds active total).2.1 key item := by
  induction rounds generalizing active total with
  | zero => simp [consumeRounds]
  | succ rounds ih =>
      rw [consumeRounds]
      split
      next => simp
      next =>
        simp only [List.mem_append]
        rw [pending_consumeRound active total, ih, or_assoc]

theorem pending_of_mem_consume {active : List (κ × List α)}
    (h : (key, item) ∈ (consume limit active).1) : Pending active key item :=
  (pending_consumeRounds (limit + 1) active 0).mpr (.inl h)

/-- When every iterator ended, every item was taken. -/
theorem mem_consume_of_complete {active : List (κ × List α)}
    (h : (consume limit active).2.2 = true) (hpending : Pending active key item) :
    (key, item) ∈ (consume limit active).1 := by
  refine ((pending_consumeRounds (limit + 1) active 0).mp hpending).resolve_right ?_
  rintro ⟨items, hitems, hitem⟩
  have hempty : items.isEmpty = true := List.all_eq_true.mp h _ hitems
  rw [List.isEmpty_iff.mp hempty] at hitem
  cases hitem

/-- A round takes an item or leaves no iterator. -/
theorem consumeRound_advances (active : List (κ × List α)) (total : Nat) :
    total < (consumeRound limit active total).2.2 ∨
      (consumeRound limit active total).2.1 = [] ∧
        (consumeRound limit active total).2.2 = total := by
  induction active generalizing total with
  | nil => exact .inr ⟨rfl, rfl⟩
  | cons iterator rest ih =>
      obtain ⟨first, items⟩ := iterator
      cases items with
      | nil => exact ih total
      | cons head later =>
          rw [consumeRound]
          split
          next => exact .inl (Nat.lt_succ_self total)
          next =>
            left
            rcases ih (total + 1) with h | ⟨-, h⟩
            · exact Nat.lt_of_succ_lt h
            · simp only [h]
              exact Nat.lt_succ_self total

/-- The rounds end because no iterator is left or because the budget is spent. -/
theorem consumeRounds_ends (rounds : Nat) (active : List (κ × List α)) (total : Nat)
    (h : limit < total + rounds) :
    (consumeRounds limit rounds active total).2.1 = [] ∨
      limit ≤ (consumeRounds limit rounds active total).2.2 := by
  induction rounds generalizing active total with
  | zero => exact .inr (by simpa [consumeRounds] using h.le)
  | succ rounds ih =>
      rw [consumeRounds]
      split
      next hstop =>
        rcases Bool.or_eq_true_iff.mp hstop with hnone | hspent
        · exact .inl (List.isEmpty_iff.mp hnone)
        · exact .inr (of_decide_eq_true hspent)
      next =>
        simp only
        rcases @consumeRound_advances κ α limit active total with hmore | ⟨hnone, -⟩
        · have hrounds : limit < (consumeRound limit active total).2.2 + rounds := by omega
          exact ih _ _ hrounds
        · left
          rw [hnone]
          cases rounds with
          | zero => rfl
          | succ rounds => simp [consumeRounds]

/-- The budget of the loop is large enough: it ends by its own condition. -/
theorem consume_ends (active : List (κ × List α)) :
    (consumeRounds limit (limit + 1) active 0).2.1 = [] ∨ limit ≤ (consume limit active).2.1 :=
  consumeRounds_ends (limit + 1) active 0 (by omega)

/-- What the iterators still have. -/
def remainder (active : List (κ × List α)) : Nat :=
  (active.map fun iterator => iterator.2.length).sum

theorem consumeRound_counts (active : List (κ × List α)) (total : Nat) :
    (consumeRound limit active total).2.2 + remainder (consumeRound limit active total).2.1 =
      total + remainder active := by
  induction active generalizing total with
  | nil => rfl
  | cons iterator rest ih =>
      obtain ⟨first, items⟩ := iterator
      cases items with
      | nil =>
          have hrest := ih total
          simp only [consumeRound, remainder, List.map_cons, List.sum_cons, List.length_nil] at hrest ⊢
          omega
      | cons head later =>
          rw [consumeRound]
          split
          next =>
            simp only [remainder, List.map_cons, List.sum_cons, List.length_cons]
            omega
          next =>
            have hrest := ih (total + 1)
            generalize consumeRound limit rest (total + 1) = round at hrest ⊢
            obtain ⟨taken, active, total'⟩ := round
            simp only [remainder, List.map_cons, List.sum_cons, List.length_cons] at hrest ⊢
            omega

theorem consumeRound_le (active : List (κ × List α)) {total : Nat} (h : total < limit) :
    (consumeRound limit active total).2.2 ≤ limit := by
  induction active generalizing total with
  | nil => exact h.le
  | cons iterator rest ih =>
      obtain ⟨first, items⟩ := iterator
      cases items with
      | nil => exact ih h
      | cons head later =>
          rw [consumeRound]
          split
          next hlast => exact hlast.le
          next hlast => exact ih (Nat.lt_of_le_of_ne h hlast)

theorem consumeRounds_counts (rounds : Nat) (active : List (κ × List α)) {total : Nat}
    (h : total ≤ limit) :
    (consumeRounds limit rounds active total).2.2 ≤ limit ∧
      (consumeRounds limit rounds active total).2.2 +
        remainder (consumeRounds limit rounds active total).2.1 = total + remainder active := by
  induction rounds generalizing active total with
  | zero => exact ⟨h, rfl⟩
  | succ rounds ih =>
      rw [consumeRounds]
      split
      next => exact ⟨h, rfl⟩
      next hstop =>
        have hlimit : total < limit := by
          by_contra hspent
          exact hstop (Bool.or_eq_true_iff.mpr (.inr (decide_eq_true (Nat.not_lt.mp hspent))))
        obtain ⟨hle, hcount⟩ := ih (consumeRound limit active total).2.1
          (consumeRound_le active hlimit)
        exact ⟨hle, hcount.trans (consumeRound_counts active total)⟩

theorem remainder_eq_zero {active : List (κ × List α)} :
    remainder active = 0 ↔ active.all (fun iterator => iterator.2.isEmpty) = true := by
  rw [remainder, List.sum_eq_zero_iff, List.forall_mem_map, List.all_eq_true]
  simp only [List.length_eq_zero_iff, List.isEmpty_iff]

/-- Every iterator ends exactly if the budget is enough for all of them. -/
theorem consume_complete_iff (active : List (κ × List α)) :
    (consume limit active).2.2 = true ↔ remainder active ≤ limit := by
  obtain ⟨hle, hcount⟩ := @consumeRounds_counts _ _ limit (limit + 1) active 0 (Nat.zero_le limit)
  rw [Nat.zero_add] at hcount
  have hcomplete : (consume limit active).2.2 = true ↔
      remainder (consumeRounds limit (limit + 1) active 0).2.1 = 0 := remainder_eq_zero.symm
  rw [hcomplete]
  constructor
  · intro hnone
    rw [hnone, Nat.add_zero] at hcount
    exact hcount ▸ hle
  · intro hfits
    rcases @consume_ends _ _ limit active with hend | hspent
    · rw [hend]
      rfl
    · have htotal : limit ≤ (consumeRounds limit (limit + 1) active 0).2.2 := hspent
      omega

end Rounds

end Library.Budget
