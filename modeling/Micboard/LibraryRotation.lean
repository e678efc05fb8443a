import Micboard.LibraryBudget
import Mathlib.Algebra.Order.BigOperators.Group.Finset

/-! Rotation through rows with unique keys. A turn reads a page in circular order and leaves the
cursor at the last row of it, so that the next page goes on where this one ended and consecutive
turns reach every row. -/

namespace Library.Budget

variable {α κ : Type*} [LinearOrder κ] {pk : α → κ} {rows : List α} {cursor next : κ} {row : α}

theorem byKey_perm (pk : α → κ) (rows : List α) : (byKey pk rows).Perm rows :=
  List.perm_insertionSort _ _

/-- Unique keys are in strict order. -/
theorem byKey_sorted (hkeys : (rows.map pk).Nodup) :
    (byKey pk rows).Pairwise fun a b => pk a < pk b := by
  have htotal : Std.Total fun a b : α => pk a ≤ pk b := ⟨fun a b => le_total (pk a) (pk b)⟩
  have htrans : IsTrans α fun a b => pk a ≤ pk b := ⟨fun _ _ _ => le_trans⟩
  have hle : (byKey pk rows).Pairwise fun a b => pk a ≤ pk b := List.pairwise_insertionSort _ rows
  have hne : (byKey pk rows).Pairwise fun a b => pk a ≠ pk b :=
    List.pairwise_map.mp (((byKey_perm pk rows).map pk).nodup_iff.mpr hkeys)
  exact hle.imp₂ (fun _ _ => lt_of_le_of_ne) hne

/-- A list in strict order is the rows in the order of their keys. -/
theorem byKey_eq {sorted : List α} (hperm : sorted.Perm rows)
    (hsorted : sorted.Pairwise fun a b => pk a < pk b) : byKey pk rows = sorted := by
  have hkeys : (rows.map pk).Nodup :=
    ((hperm.map pk).nodup_iff).mp (List.pairwise_map.mpr (hsorted.imp fun h => h.ne))
  refine ((byKey_perm pk rows).trans hperm.symm).eq_of_pairwise ?_ (byKey_sorted hkeys) hsorted
  intro a b _ _ hab hba
  exact absurd hba hab.asymm

/-- What the circular order is: the keys after the cursor in order, then the others in order. -/
theorem circular_eq {later earlier : List α} (hperm : (later ++ earlier).Perm rows)
    (hlater : later.Pairwise fun a b => pk a < pk b)
    (hearlier : earlier.Pairwise fun a b => pk a < pk b) (hafter : ∀ row ∈ later, cursor < pk row)
    (hbefore : ∀ row ∈ earlier, pk row ≤ cursor) :
    circular pk cursor rows = later ++ earlier := by
  have hfirst : (later ++ earlier).filter (fun row => cursor < pk row) = later := by
    rw [List.filter_append, List.filter_eq_self.mpr fun row hrow => decide_eq_true (hafter row hrow),
      List.filter_eq_nil_iff.mpr fun row hrow => by simpa using hbefore row hrow, List.append_nil]
  have hrest : (later ++ earlier).filter (fun row => ¬ cursor < pk row) = earlier := by
    rw [List.filter_append,
      List.filter_eq_nil_iff.mpr fun row hrow => by simpa using hafter row hrow, List.nil_append,
      List.filter_eq_self.mpr fun row hrow => by simpa using hbefore row hrow]
  rw [circular, byKey_eq (hfirst ▸ hperm.filter _) hlater, byKey_eq (hrest ▸ hperm.filter _) hearlier]

/-- After a row of the sorted list the circular order goes on behind it and ends with it. -/
theorem circular_of_sorted {front more : List α} {last : α}
    (hperm : (front ++ last :: more).Perm rows)
    (hsorted : (front ++ last :: more).Pairwise fun a b => pk a < pk b) :
    circular pk (pk last) rows = more ++ (front ++ [last]) := by
  obtain ⟨hfront, hrest, hcross⟩ := List.pairwise_append.mp hsorted
  obtain ⟨hlast, hmore⟩ := List.pairwise_cons.mp hrest
  have hswap : (more ++ (front ++ [last])).Perm rows := by
    refine List.perm_append_comm.trans (List.Perm.trans ?_ hperm)
    rw [List.append_assoc, List.singleton_append]
  refine circular_eq hswap hmore ?_ hlast fun row hrow => ?_
  · refine List.pairwise_append.mpr ⟨hfront, List.pairwise_singleton _ _, fun a ha b hb => ?_⟩
    rw [List.mem_singleton.mp hb]
    exact hcross a ha last List.mem_cons_self
  · rcases List.mem_append.mp hrow with hrow | hrow
    · exact (hcross row hrow last List.mem_cons_self).le
    · rw [List.mem_singleton.mp hrow]

/-- The rows of a sorted list behind one of them. -/
theorem filter_lt_of_sorted {front more : List α} {last : α}
    (hsorted : (front ++ last :: more).Pairwise fun a b => pk a < pk b) :
    (front ++ last :: more).filter (fun row => pk last < pk row) = more := by
  obtain ⟨-, hrest, hcross⟩ := List.pairwise_append.mp hsorted
  obtain ⟨hlast, -⟩ := List.pairwise_cons.mp hrest
  have hfront : front.filter (fun row => pk last < pk row) = [] := by
    refine List.filter_eq_nil_iff.mpr fun row hrow h => ?_
    exact (hcross row hrow last List.mem_cons_self).asymm (of_decide_eq_true h)
  have hmore : more.filter (fun row => pk last < pk row) = more :=
    List.filter_eq_self.mpr fun row hrow => decide_eq_true (hlast row hrow)
  rw [List.filter_append, hfront, List.nil_append,
    List.filter_cons_of_neg (by simp), hmore]

/-- The circular order is a cut of the sorted list. -/
theorem circular_parts (pk : α → κ) (cursor : κ) (hkeys : (rows.map pk).Nodup) :
    ∃ later earlier, circular pk cursor rows = later ++ earlier ∧
      (earlier ++ later).Pairwise fun a b => pk a < pk b := by
  refine ⟨_, _, rfl, List.pairwise_append.mpr
    ⟨byKey_sorted (hkeys.sublist (List.filter_sublist.map pk)),
      byKey_sorted (hkeys.sublist (List.filter_sublist.map pk)), fun a ha b hb => ?_⟩⟩
  have hbefore := of_decide_eq_true (List.mem_filter.mp ((byKey_perm pk _).mem_iff.mp ha)).2
  have hafter := of_decide_eq_true (List.mem_filter.mp ((byKey_perm pk _).mem_iff.mp hb)).2
  exact lt_of_le_of_lt (not_lt.mp hbefore) hafter

/-- The circular order of unique keys does not depend on the order in which the rows are given. -/
theorem circular_congr {others : List α} (hkeys : (rows.map pk).Nodup) (h : rows.Perm others)
    (cursor : κ) : circular pk cursor rows = circular pk cursor others := by
  have hpart : ∀ p : α → Bool, byKey pk (rows.filter p) = byKey pk (others.filter p) := by
    intro p
    refine (byKey_eq ((byKey_perm pk _).trans (h.filter p)) (byKey_sorted ?_)).symm
    exact hkeys.sublist (List.filter_sublist.map pk)
  rw [circular, circular, hpart, hpart]

/-- A page that starts after the cursor and leaves the next cursor at its last row. -/
structure Visit (pk : α → κ) (rows : List α) (cursor : κ) (page : List α) (next : κ) : Prop where
  starts : page <+: circular pk cursor rows
  ends : page.getLast?.map pk = some next

/-- The rows left over come first in the next circular order, those of the page last. -/
theorem Visit.circular_next {page : List α} (h : Visit pk rows cursor page next)
    (hkeys : (rows.map pk).Nodup) :
    ∃ rest, circular pk cursor rows = page ++ rest ∧ circular pk next rows = rest ++ page := by
  obtain ⟨rest, hrest⟩ := h.starts
  obtain ⟨last, hlast, rfl⟩ := Option.map_eq_some_iff.mp h.ends
  obtain ⟨front, rfl⟩ := List.getLast?_eq_some_iff.mp hlast
  obtain ⟨later, earlier, hparts, hsorted⟩ := circular_parts pk cursor hkeys
  have hperm : (earlier ++ later).Perm rows := by
    refine List.perm_append_comm.trans ?_
    rw [← hparts]
    exact circular_perm pk cursor rows
  refine ⟨rest, hrest.symm, ?_⟩
  have hcut : front ++ last :: rest = later ++ earlier := by
    rw [← hparts, ← hrest, List.append_assoc, List.singleton_append]
  rcases List.append_eq_append_iff.mp hcut with ⟨more, rfl, hmore⟩ | ⟨more, rfl, rfl⟩
  · cases more with
    | nil =>
        rw [List.nil_append] at hmore
        subst hmore
        rw [List.append_nil, List.cons_append] at hperm hsorted
        have hnext := @circular_of_sorted _ _ _ pk rows [] (rest ++ front) last hperm hsorted
        rw [hnext, List.nil_append, List.append_assoc]
    | cons first more =>
        rw [List.cons_append] at hmore
        obtain ⟨rfl, hrest⟩ := List.cons.inj hmore
        rw [← List.append_assoc] at hperm hsorted
        rw [circular_of_sorted hperm hsorted, hrest]
        simp only [List.append_assoc]
  · rw [List.append_assoc, List.cons_append] at hperm hsorted
    rw [circular_of_sorted hperm hsorted]
    simp only [List.append_assoc]

/-- A row that the page leaves over has moved forward by the size of the page. -/
theorem Visit.mem_or_mem_take {page : List α} {more : Nat} (h : Visit pk rows cursor page next)
    (hkeys : (rows.map pk).Nodup)
    (hrow : row ∈ (circular pk cursor rows).take (page.length + more)) :
    row ∈ page ∨ row ∈ (circular pk next rows).take more := by
  obtain ⟨rest, hcursor, hnext⟩ := h.circular_next hkeys
  rw [hcursor, List.take_length_add_append, List.mem_append] at hrow
  refine hrow.imp id fun hrow => ?_
  rw [hnext, List.take_append]
  exact List.mem_append_left _ hrow

/-- A turn that visits the rows or leaves the cursor where it is. -/
def Continues (pk : α → κ) (rows : List α) (cursor : κ) (page : List α) (next : κ) : Prop :=
  page = [] ∧ next = cursor ∨ Visit pk rows cursor page next

theorem Continues.mem_or_mem_take {page : List α} {more : Nat} (h : Continues pk rows cursor page next)
    (hkeys : (rows.map pk).Nodup)
    (hrow : row ∈ (circular pk cursor rows).take (page.length + more)) :
    row ∈ page ∨ row ∈ (circular pk next rows).take more := by
  rcases h with ⟨rfl, rfl⟩ | h
  · rw [List.length_nil, Nat.zero_add] at hrow
    exact .inr hrow
  · exact h.mem_or_mem_take hkeys hrow

section Turns

variable {cursors : Nat → κ} {pages : Nat → List α}

/-- The first rows of the circular order are in the pages whose sizes they add up to. -/
theorem exists_mem_page_of_mem_take (hkeys : (rows.map pk).Nodup) (start turns : Nat)
    (h : ∀ i < turns, Continues pk rows (cursors (start + i)) (pages (start + i))
      (cursors (start + i + 1)))
    (hrow : row ∈ (circular pk (cursors start) rows).take
      (∑ i ∈ Finset.range turns, (pages (start + i)).length)) :
    ∃ i < turns, row ∈ pages (start + i) := by
  induction turns generalizing start with
  | zero => simp at hrow
  | succ turns ih =>
      have hshift : ∀ i, start + 1 + i = start + (i + 1) := fun i => by omega
      rw [Finset.sum_range_succ', Nat.add_zero, Nat.add_comm] at hrow
      rcases (h 0 (Nat.succ_pos turns)).mem_or_mem_take hkeys hrow with hpage | hlater
      · exact ⟨0, Nat.succ_pos turns, hpage⟩
      · have hrest : ∀ i < turns, Continues pk rows (cursors (start + 1 + i)) (pages (start + 1 + i))
            (cursors (start + 1 + i + 1)) := by
          intro i hi
          rw [hshift]
          exact h (i + 1) (Nat.succ_lt_succ hi)
        obtain ⟨i, hi, hpage⟩ := ih (start + 1) hrest (by simpa only [hshift] using hlater)
        exact ⟨i + 1, Nat.succ_lt_succ hi, hshift i ▸ hpage⟩

/-- Pages that add up to the number of rows reach every row. -/
theorem exists_mem_page (hkeys : (rows.map pk).Nodup) (start turns : Nat)
    (h : ∀ i < turns, Continues pk rows (cursors (start + i)) (pages (start + i))
      (cursors (start + i + 1)))
    (hsize : rows.length ≤ ∑ i ∈ Finset.range turns, (pages (start + i)).length)
    (hrow : row ∈ rows) : ∃ i < turns, row ∈ pages (start + i) := by
  have hperm := circular_perm pk (cursors start) rows
  refine exists_mem_page_of_mem_take hkeys start turns h ?_
  rw [List.take_of_length_le (hperm.length_eq.trans_le hsize)]
  exact hperm.mem_iff.mpr hrow

theorem exists_mem_page_of_visits (hkeys : (rows.map pk).Nodup) (start : Nat)
    (h : ∀ i, Visit pk rows (cursors i) (pages i) (cursors (i + 1))) (hrow : row ∈ rows) :
    ∃ i < rows.length, row ∈ pages (start + i) := by
  have hpages : ∀ i, 1 ≤ (pages i).length := by
    intro i
    obtain ⟨last, hlast, -⟩ := Option.map_eq_some_iff.mp (h i).ends
    exact List.length_pos_iff.mpr fun hnone => by simp [hnone] at hlast
  refine exists_mem_page hkeys start rows.length (fun i _ => .inr (h (start + i))) ?_ hrow
  have hsum := Finset.card_nsmul_le_sum (Finset.range rows.length)
    (fun i => (pages (start + i)).length) 1 fun i _ => hpages (start + i)
  rwa [Finset.card_range, Nat.nsmul_eq_mul, Nat.mul_one] at hsum

/-- Turns that visit once in every round of so many reach every row, in as many rounds as there are
rows. -/
theorem exists_mem_page_of_continues {round : Nat} (hkeys : (rows.map pk).Nodup)
    (h : ∀ i, Continues pk rows (cursors i) (pages i) (cursors (i + 1)))
    (hvisits : ∀ start, ∃ i < round, pages (start + i) ≠ []) (start : Nat) (hrow : row ∈ rows) :
    ∃ i < rows.length * round, row ∈ pages (start + i) := by
  refine exists_mem_page hkeys start (rows.length * round) (fun i _ => h (start + i)) ?_ hrow
  have hrounds : ∀ rounds, rounds ≤
      ∑ i ∈ Finset.range (rounds * round), (pages (start + i)).length := by
    intro rounds
    induction rounds with
    | zero => exact Nat.zero_le _
    | succ rounds ih =>
        obtain ⟨i, hi, hpage⟩ := hvisits (start + rounds * round)
        have hone : 1 ≤ ∑ i ∈ Finset.range round, (pages (start + (rounds * round + i))).length := by
          refine le_trans ?_ (Finset.single_le_sum (fun _ _ => Nat.zero_le _) (Finset.mem_range.mpr hi))
          rw [← Nat.add_assoc]
          exact List.length_pos_iff.mpr hpage
        rw [Nat.succ_mul, Finset.sum_range_add]
        exact Nat.add_le_add ih hone
  exact hrounds rows.length

end Turns

/-! ### Turns of a fixed size -/

/-- The first rows of the circular order. -/
def turn (pk : α → κ) (rows : List α) (limit : Nat) (cursor : κ) : List α :=
  (circular pk cursor rows).take limit

/-- The cursor after a page: the key of its last row. -/
def advance (pk : α → κ) (cursor : κ) (page : List α) : κ := (page.getLast?.map pk).getD cursor

theorem circularPage_fst (cursor : κ) (limit : Nat) :
    (circularPage pk cursor limit rows).1 = turn pk rows limit cursor := by
  rw [circularPage, turn, List.take_take, Nat.min_eq_left (Nat.le_succ limit)]

theorem length_turn (limit : Nat) (cursor : κ) :
    (turn pk rows limit cursor).length = min limit rows.length := by
  rw [turn, List.length_take, (circular_perm pk cursor rows).length_eq]

theorem nodup_turn {limit : Nat} (hkeys : (rows.map pk).Nodup) :
    ((turn pk rows limit cursor).map pk).Nodup := by
  have hall : ((circular pk cursor rows).map pk).Nodup :=
    ((circular_perm pk cursor rows).map pk).nodup_iff.mpr hkeys
  exact hall.sublist ((List.take_sublist _ _).map pk)

/-- A page from the rows after the cursor is filled up with the others. -/
theorem turn_eq_append (limit : Nat) (cursor : κ) :
    turn pk rows limit cursor =
      (byKey pk (rows.filter fun row => cursor < pk row)).take limit ++
        (byKey pk (rows.filter fun row => pk row ≤ cursor)).take
          (limit - ((byKey pk (rows.filter fun row => cursor < pk row)).take limit).length) := by
  have hothers : (rows.filter fun row => ¬ cursor < pk row) = rows.filter fun row => pk row ≤ cursor :=
    List.filter_congr fun row _ => decide_eq_decide.mpr not_lt
  rw [turn, circular, hothers, List.take_append, List.length_take]
  congr 2
  omega

theorem length_byKey_add_length_byKey (cursor : κ) :
    (byKey pk (rows.filter fun row => cursor < pk row)).length +
      (byKey pk (rows.filter fun row => pk row ≤ cursor)).length = rows.length := by
  have hothers : (rows.filter fun row => ¬ cursor < pk row) = rows.filter fun row => pk row ≤ cursor :=
    List.filter_congr fun row _ => decide_eq_decide.mpr not_lt
  rw [← (circular_perm pk cursor rows).length_eq, circular, hothers, List.length_append]

/-- At the zero cursor a page of positive keys has nothing to wrap around to. -/
theorem filter_le_zero {pk : α → Nat} (h : ∀ row ∈ rows, 0 < pk row) :
    (rows.filter fun row => pk row ≤ 0) = [] := by
  refine List.filter_eq_nil_iff.mpr fun row hrow hle => ?_
  exact absurd (of_decide_eq_true hle) (Nat.not_le.mpr (h row hrow))

theorem byKey_keys {keys : List κ} (hkeys : (rows.map pk).Perm keys) (hnodup : keys.Nodup) :
    byKey id keys = (byKey pk rows).map pk := by
  refine byKey_eq (((byKey_perm pk rows).map pk).trans hkeys) (List.pairwise_map.mpr ?_)
  exact byKey_sorted (hkeys.nodup_iff.mpr hnodup)

/-- Which keys a turn reads depends on the set of all keys only. -/
theorem turn_keys {keys : List κ} (hkeys : (rows.map pk).Perm keys) (hnodup : keys.Nodup) (limit : Nat)
    (cursor : κ) : (turn pk rows limit cursor).map pk = turn id keys limit cursor := by
  have hpart : ∀ p : κ → Bool,
      (byKey pk (rows.filter fun row => p (pk row))).map pk = byKey id (keys.filter p) := by
    intro p
    refine (byKey_keys ?_ (hnodup.filter p)).symm
    have hfilter := hkeys.filter p
    rwa [List.filter_map] at hfilter
  have hlater := hpart fun key => cursor < key
  have hearlier := hpart fun key => ¬ cursor < key
  rw [turn, List.map_take, circular, List.map_append, hlater, hearlier]
  rfl

theorem visit_turn {limit : Nat} (hlimit : 0 < limit) (hrows : rows ≠ []) (cursor : κ) :
    Visit pk rows cursor (turn pk rows limit cursor)
      (advance pk cursor (turn pk rows limit cursor)) := by
  refine ⟨List.take_prefix _ _, ?_⟩
  have hpage : turn pk rows limit cursor ≠ [] := by
    have hlength := @length_turn _ _ _ pk rows limit cursor
    have hpos := List.length_pos_iff.mpr hrows
    rw [← List.length_pos_iff]
    omega
  rw [advance, List.getLast?_eq_some_getLast hpage]
  rfl

/-- Any turns whose limits add up to the number of rows reach every row. -/
theorem exists_mem_turn {limit : Nat} {cursors : Nat → κ} (hlimit : 0 < limit)
    (hkeys : (rows.map pk).Nodup) (start turns : Nat)
    (h : ∀ i < turns, cursors (start + i + 1) =
      advance pk (cursors (start + i)) (turn pk rows limit (cursors (start + i))))
    (hsize : rows.length ≤ turns * limit) (hrow : row ∈ rows) :
    ∃ i < turns, row ∈ turn pk rows limit (cursors (start + i)) := by
  have hrows : rows ≠ [] := List.ne_nil_of_mem hrow
  refine @exists_mem_page _ _ _ pk rows row cursors (fun i => turn pk rows limit (cursors i)) hkeys
    start turns (fun i hi => ?_) ?_ hrow
  · rw [h i hi]
    exact .inr (visit_turn hlimit hrows (cursors (start + i)))
  · simp only [length_turn, Finset.sum_const, Finset.card_range, Nat.nsmul_eq_mul]
    have hpos := List.length_pos_iff.mpr hrows
    rcases Nat.le_total limit rows.length with hle | hle
    · rwa [Nat.min_eq_left hle]
    · rw [Nat.min_eq_right hle]
      exact Nat.le_mul_of_pos_left _ (Nat.pos_of_mul_pos_right (hpos.trans_le hsize))

end Library.Budget
