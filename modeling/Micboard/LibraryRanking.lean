import Mathlib.Data.List.MinMax
import Mathlib.Data.List.Sort
import Micboard.LibraryTable

/-! Result sets that are cut off, ranked and indexed. A page of a result set is read with one row
more than it may hold, which tells whether anything was left out. A window function numbers the rows
of each partition in the order of a rank; the rows numbered one are the preferred rows, one for each
partition that has rows. A dictionary of the rows by a key remembers which keys are ambiguous, or
keeps the last row of each key. -/

namespace Library.Ranking

variable {α β κ ρ : Type*}

/-- What a slice of `limit + 1` rows says of a result set: its first rows, and whether there are
more. -/
def page (limit : Nat) (rows : List α) : List α × Bool :=
  let loaded := rows.take (limit + 1)
  (loaded.take limit, decide (limit < loaded.length))

variable {limit : Nat} {rows : List α} {row : α}

@[simp] theorem page_rows : (page limit rows).1 = rows.take limit := by
  simp [page, List.take_take]

@[simp] theorem page_truncated : (page limit rows).2 = decide (limit < rows.length) := by
  simp only [page, List.length_take]
  congr 1
  apply propext
  omega

theorem mem_of_mem_page (h : row ∈ (page limit rows).1) : row ∈ rows := by
  rw [page_rows] at h
  exact List.mem_of_mem_take h

theorem length_page_le (limit : Nat) (rows : List α) : (page limit rows).1.length ≤ limit := by
  rw [page_rows]
  exact List.length_take_le limit rows

theorem page_complete (h : (page limit rows).2 = false) : (page limit rows).1 = rows := by
  rw [page_truncated, decide_eq_false_iff_not, not_lt] at h
  rw [page_rows, List.take_of_length_le h]

theorem filter_eq_singleton_iff (hnodup : rows.Nodup) {p : α → Bool} :
    rows.filter p = [row] ↔ row ∈ rows ∧ p row = true ∧ ∀ other ∈ rows, p other = true →
      other = row := by
  constructor
  · intro h
    have hmem : ∀ other, other ∈ rows.filter p ↔ other = row := fun other => by
      rw [h, List.mem_singleton]
    have hrow := List.mem_filter.mp ((hmem row).mpr rfl)
    exact ⟨hrow.1, hrow.2, fun other hother hp => (hmem other).mp (List.mem_filter.mpr ⟨hother, hp⟩)⟩
  · rintro ⟨hrow, hp, honly⟩
    have hunique : UniqueOn id rows := by rwa [UniqueOn, List.map_id]
    exact hunique.filter_eq_singleton hrow hp honly

/-- `ORDER BY` on a key. -/
def orderBy [LinearOrder ρ] (key : α → ρ) (rows : List α) : List α :=
  rows.insertionSort fun first second => key first ≤ key second

section Order

variable [LinearOrder ρ] {key : α → ρ}

theorem orderBy_perm (key : α → ρ) (rows : List α) : (orderBy key rows).Perm rows :=
  List.perm_insertionSort _ rows

@[simp] theorem mem_orderBy : row ∈ orderBy key rows ↔ row ∈ rows :=
  (orderBy_perm key rows).mem_iff

@[simp] theorem length_orderBy : (orderBy key rows).length = rows.length :=
  (orderBy_perm key rows).length_eq

theorem orderBy_sorted (key : α → ρ) (rows : List α) :
    (orderBy key rows).Pairwise fun first second => key first ≤ key second := by
  have : Std.Total fun first second : α => key first ≤ key second := ⟨fun _ _ => le_total _ _⟩
  have : IsTrans α fun first second => key first ≤ key second := ⟨fun _ _ _ => le_trans⟩
  exact List.pairwise_insertionSort _ rows

/-- The first rows of a sorted table are those that few rows come before. -/
theorem mem_take_of_sorted
    (h : rows.Pairwise fun first second => key first < key second) (limit : Nat) :
    row ∈ rows.take limit ↔ row ∈ rows ∧ (rows.countP fun other => key other < key row) < limit := by
  induction rows generalizing limit with
  | nil => simp
  | cons first rest ih =>
      obtain ⟨hfirst, hrest⟩ := List.pairwise_cons.mp h
      cases limit with
      | zero => simp
      | succ limit =>
          rw [List.take_succ_cons, List.mem_cons, List.mem_cons, ih hrest, List.countP_cons]
          by_cases heq : row = first
          · subst heq
            have hnone : rest.countP (fun other => key other < key row) = 0 := by
              refine List.countP_eq_zero.mpr fun other hother => ?_
              rw [decide_eq_true_eq, not_lt]
              exact (hfirst other hother).le
            rw [hnone, if_neg (by simp)]
            exact iff_of_true (.inl rfl) ⟨.inl rfl, Nat.succ_pos limit⟩
          · constructor
            · rintro (hmem | ⟨hmem, hcount⟩)
              · exact absurd hmem heq
              · refine ⟨.inr hmem, ?_⟩
                rw [if_pos (decide_eq_true (hfirst row hmem))]
                omega
            · rintro ⟨hmem | hmem, hcount⟩
              · exact absurd hmem heq
              · rw [if_pos (decide_eq_true (hfirst row hmem))] at hcount
                exact .inr ⟨hmem, by omega⟩

/-- A page of ordered rows holds those that fewer rows come before than it may hold. -/
theorem mem_page_orderBy (hkey : UniqueOn key rows) (limit : Nat) :
    row ∈ (page limit (orderBy key rows)).1 ↔
      row ∈ rows ∧ (rows.countP fun other => key other < key row) < limit := by
  have hsorted : (orderBy key rows).Pairwise fun first second => key first < key second := by
    have hunique : UniqueOn key (orderBy key rows) :=
      ((orderBy_perm key rows).map key).nodup_iff.mpr hkey
    refine ((orderBy_sorted key rows).and (List.pairwise_map.mp hunique)).imp fun h => ?_
    exact lt_of_le_of_ne h.1 h.2
  rw [page_rows, mem_take_of_sorted hsorted, mem_orderBy, (orderBy_perm key rows).countP_eq]

end Order

section Window

variable [DecidableEq κ] [LinearOrder ρ] {part : α → κ} {rank : α → ρ}

/-- `ROW_NUMBER() OVER (PARTITION BY part ORDER BY rank)`, for ranks that no two rows share. -/
def rowNumber (part : α → κ) (rank : α → ρ) (rows : List α) (row : α) : Nat :=
  1 + rows.countP fun other => part other = part row && rank other < rank row

/-- The rows that come first in their partitions. -/
def preferred (part : α → κ) (rank : α → ρ) (rows : List α) : List α :=
  rows.filter fun row => rowNumber part rank rows row = 1

theorem rowNumber_eq_one : rowNumber part rank rows row = 1 ↔
    ∀ other ∈ rows, part other = part row → rank row ≤ rank other := by
  rw [rowNumber, Nat.add_eq_left, List.countP_eq_zero]
  simp

theorem mem_preferred : row ∈ preferred part rank rows ↔
    row ∈ rows ∧ ∀ other ∈ rows, part other = part row → rank row ≤ rank other := by
  rw [preferred, List.mem_filter, decide_eq_true_iff, rowNumber_eq_one]

end Window

/-! ### Dictionaries of rows -/

section Entries

variable [DecidableEq κ] {key : α → κ} {k : κ}

/-- Enter a row under its key; a key that is entered again is ambiguous. -/
def enterUnique (key : α → κ) (entries : List (κ × Option α)) (row : α) : List (κ × Option α) :=
  if entries.any fun entry => entry.1 = key row then
    entries.map fun entry => if entry.1 = key row then (entry.1, none) else entry
  else entries ++ [(key row, some row)]

/-- The rows by their keys, with nothing for the keys that several rows have. -/
def indexUnique (key : α → κ) (rows : List α) : List (κ × Option α) :=
  rows.foldl (enterUnique key) []

/-- `entries.get(k)`. -/
def entryOf (entries : List (κ × Option α)) (k : κ) : Option α :=
  (entries.find? fun entry => entry.1 = k).bind Prod.snd

theorem indexUnique_concat (rows : List α) (row : α) :
    indexUnique key (rows ++ [row]) = enterUnique key (indexUnique key rows) row := by
  rw [indexUnique, List.foldl_concat]
  rfl

theorem mem_indexUnique_key {rows : List α} :
    (∃ value, (k, value) ∈ indexUnique key rows) ↔ ∃ row ∈ rows, key row = k := by
  induction rows using List.reverseRecOn with
  | nil => simp [indexUnique]
  | append_singleton rows row ih =>
      have hexists : (∃ other ∈ rows ++ [row], key other = k) ↔
          (∃ other ∈ rows, key other = k) ∨ key row = k := by simp [or_and_right, exists_or]
      rw [indexUnique_concat, enterUnique, hexists, ← ih]
      by_cases hany : (indexUnique key rows).any (fun entry => entry.1 = key row) = true
      · rw [if_pos hany]
        obtain ⟨⟨k', value'⟩, hmem', hk'⟩ := List.any_eq_true.mp hany
        obtain rfl : k' = key row := by simpa using hk'
        constructor
        · rintro ⟨value, hmem⟩
          obtain ⟨⟨k₀, value₀⟩, hmem₀, heq⟩ := List.mem_map.mp hmem
          have hk₀ : k₀ = k := by
            split at heq <;> exact (Prod.mk.inj heq).1
          exact .inl ⟨value₀, hk₀ ▸ hmem₀⟩
        · intro h
          have hold : ∃ value, (k, value) ∈ indexUnique key rows := by
            rcases h with h | rfl
            · exact h
            · exact ⟨value', hmem'⟩
          obtain ⟨value, hmem⟩ := hold
          by_cases hk : k = key row
          · exact ⟨none, List.mem_map.mpr ⟨(k, value), hmem, if_pos hk⟩⟩
          · exact ⟨value, List.mem_map.mpr ⟨(k, value), hmem, if_neg hk⟩⟩
      · rw [if_neg hany]
        simp [exists_or, eq_comm]

theorem mem_indexUnique {rows : List α} {row : α} :
    (k, some row) ∈ indexUnique key rows ↔ rows.filter (fun other => key other = k) = [row] := by
  induction rows using List.reverseRecOn with
  | nil => simp [indexUnique]
  | append_singleton rows last ih =>
      have hkeys : (∃ value, (key last, value) ∈ indexUnique key rows) ↔
          ∃ row ∈ rows, key row = key last :=
        mem_indexUnique_key
      rw [indexUnique_concat, enterUnique, List.filter_append]
      by_cases hany : (indexUnique key rows).any (fun entry => entry.1 = key last) = true
      · rw [if_pos hany]
        obtain ⟨⟨k', value'⟩, hmem', hk'⟩ := List.any_eq_true.mp hany
        obtain rfl : k' = key last := by simpa using hk'
        obtain ⟨earlier, hearlier, hsame⟩ := hkeys.mp ⟨value', hmem'⟩
        by_cases hk : key last = k
        · refine iff_of_false ?_ ?_
          · intro hmem
            obtain ⟨⟨k₀, value₀⟩, -, heq⟩ := List.mem_map.mp hmem
            split at heq
            next => cases heq
            next hne => exact hne ((Prod.mk.inj heq).1.trans hk.symm)
          · intro hfilter
            have hlength := congrArg List.length hfilter
            have hpos : 0 < (rows.filter fun other => key other = k).length :=
              List.length_pos_of_mem (List.mem_filter.mpr ⟨hearlier, by simp [hsame, hk]⟩)
            simp only [List.length_append, hk, decide_true, List.filter_cons_of_pos, List.filter_nil,
              List.length_singleton] at hlength
            omega
        · rw [List.filter_cons_of_neg (by simp [hk]), List.filter_nil, List.append_nil, ← ih]
          constructor
          · intro hmem
            obtain ⟨⟨k₀, value₀⟩, hmem₀, heq⟩ := List.mem_map.mp hmem
            split at heq
            next => cases heq
            next => exact heq ▸ hmem₀
          · intro hmem
            exact List.mem_map.mpr ⟨_, hmem, if_neg (Ne.symm hk)⟩
      · rw [if_neg hany, List.mem_append, List.mem_singleton, Prod.mk.injEq, Option.some.injEq]
        have hnone : rows.filter (fun other => key other = key last) = [] := by
          rw [List.filter_eq_nil_iff]
          intro other hother hsame
          obtain ⟨value, hmem⟩ := hkeys.mpr ⟨other, hother, by simpa using hsame⟩
          exact hany (List.any_eq_true.mpr ⟨_, hmem, by simp⟩)
        by_cases hk : key last = k
        · subst hk
          rw [ih, hnone]
          simp [eq_comm]
        · rw [List.filter_cons_of_neg (by simp [hk]), List.filter_nil, List.append_nil, ← ih]
          exact or_iff_left fun h => hk h.1.symm

theorem uniqueOn_indexUnique (rows : List α) : UniqueOn Prod.fst (indexUnique key rows) := by
  induction rows using List.reverseRecOn with
  | nil => exact List.nodup_nil
  | append_singleton rows row ih =>
      rw [indexUnique_concat, enterUnique]
      split
      next =>
        have hkeys : Prod.fst ∘ (fun entry : κ × Option α =>
            if entry.1 = key row then (entry.1, none) else entry) = Prod.fst := by
          funext entry
          simp only [Function.comp_apply]
          split <;> rfl
        rw [UniqueOn, List.map_map, hkeys]
        exact ih
      next hany =>
        refine ih.append_row fun entry hentry hk => hany ?_
        exact List.any_eq_true.mpr ⟨entry, hentry, by simp [hk]⟩

theorem entryOf_indexUnique {rows : List α} {row : α} :
    entryOf (indexUnique key rows) k = some row ↔ rows.filter (fun other => key other = k) = [row] := by
  rw [← mem_indexUnique, entryOf, Option.bind_eq_some_iff]
  constructor
  · rintro ⟨⟨k', value⟩, hfind, hvalue⟩
    have hk : k' = k := by simpa using List.find?_some hfind
    obtain rfl : value = some row := hvalue
    exact hk ▸ List.mem_of_find?_eq_some hfind
  · intro hmem
    exact ⟨_, (uniqueOn_indexUnique rows).find?_eq_some.mpr ⟨hmem, rfl⟩, rfl⟩

/-- `{key(row): row for row in rows}.get(k)`: a later row replaces an earlier one. -/
def lastEntry (key : α → κ) (rows : List α) (k : κ) : Option α :=
  rows.reverse.find? fun row => key row = k

theorem lastEntry_eq_none {rows : List α} : lastEntry key rows k = none ↔
    ∀ row ∈ rows, key row ≠ k := by
  simp [lastEntry]

theorem lastEntry_mem {rows : List α} {row : α} (h : lastEntry key rows k = some row) :
    row ∈ rows ∧ key row = k :=
  ⟨List.mem_reverse.mp (List.mem_of_find?_eq_some h), by simpa using List.find?_some h⟩

/-- In a table with unique keys the dictionary is the table. -/
theorem lastEntry_eq_some {rows : List α} (hunique : UniqueOn key rows) {row : α} :
    lastEntry key rows k = some row ↔ row ∈ rows ∧ key row = k := by
  refine ⟨lastEntry_mem, fun ⟨hmem, hk⟩ => ?_⟩
  cases hlast : lastEntry key rows k with
  | none => exact absurd hk (lastEntry_eq_none.mp hlast row hmem)
  | some other =>
      obtain ⟨hother, hk'⟩ := lastEntry_mem hlast
      rw [hunique.eq hother hmem (hk'.trans hk.symm)]

end Entries

end Library.Ranking
