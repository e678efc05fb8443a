import Mathlib.Data.List.Induction
import Mathlib.Data.List.Nodup
import Mathlib.Data.List.Perm.Basic

/-! Tables as lists of rows. A row is addressed by its primary key, a query is a filter, and a column
(or a tuple of columns) is unique when no two rows agree on it. -/

namespace Library

variable {ε α κ γ : Type*}

/-- The single row of a result set: nothing when it is empty, an ambiguity when it holds two rows. -/
def uniqueMatch (ambiguous : ε) : List α → Except ε (Option α)
  | [] => .ok none
  | [row] => .ok (some row)
  | _ :: _ :: _ => .error ambiguous

@[simp] theorem uniqueMatch_eq_none {ambiguous : ε} {rows : List α} :
    uniqueMatch ambiguous rows = .ok none ↔ rows = [] := by
  match rows with
  | [] => simp [uniqueMatch]
  | [_] => simp [uniqueMatch]
  | _ :: _ :: _ => simp [uniqueMatch]

@[simp] theorem uniqueMatch_eq_some {ambiguous : ε} {rows : List α} {row : α} :
    uniqueMatch ambiguous rows = .ok (some row) ↔ rows = [row] := by
  match rows with
  | [] => simp [uniqueMatch]
  | [_] => simp [uniqueMatch]
  | _ :: _ :: _ => simp [uniqueMatch]

@[simp] theorem uniqueMatch_eq_error {ambiguous e : ε} {rows : List α} :
    uniqueMatch ambiguous rows = .error e ↔ e = ambiguous ∧ 2 ≤ rows.length := by
  match rows with
  | [] => simp [uniqueMatch]
  | [_] => simp [uniqueMatch]
  | _ :: _ :: _ => simp [uniqueMatch, eq_comm]

section Filter

variable {ambiguous : ε} {rows : List α} {p : α → Bool}

theorem uniqueMatch_filter_eq_none :
    uniqueMatch ambiguous (rows.filter p) = .ok none ↔ ∀ row ∈ rows, ¬ p row = true := by
  rw [uniqueMatch_eq_none, List.filter_eq_nil_iff]

theorem uniqueMatch_filter_eq_some {row : α}
    (h : uniqueMatch ambiguous (rows.filter p) = .ok (some row)) :
    row ∈ rows ∧ p row = true ∧ ∀ other ∈ rows, p other = true → other = row := by
  rw [uniqueMatch_eq_some] at h
  have hmem : ∀ other, other ∈ rows.filter p ↔ other = row := by
    intro other
    rw [h, List.mem_singleton]
  have hrow := List.mem_filter.mp ((hmem row).mpr rfl)
  exact ⟨hrow.1, hrow.2, fun other hother hp => (hmem other).mp (List.mem_filter.mpr ⟨hother, hp⟩)⟩

/-- An ambiguous query matches two different rows. -/
theorem uniqueMatch_filter_eq_error {e : ε} (hnodup : rows.Nodup)
    (h : uniqueMatch ambiguous (rows.filter p) = .error e) :
    e = ambiguous ∧ ∃ row ∈ rows, ∃ other ∈ rows, row ≠ other ∧ p row = true ∧ p other = true := by
  obtain ⟨he, hlength⟩ := uniqueMatch_eq_error.mp h
  refine ⟨he, ?_⟩
  have hfilter := hnodup.filter p
  match hrows : rows.filter p with
  | [] => simp [hrows] at hlength
  | [_] => simp [hrows] at hlength
  | row :: other :: rest =>
      rw [hrows] at hfilter
      have hne : row ≠ other := fun heq => by simp [heq] at hfilter
      have hrow : row ∈ rows.filter p := by simp [hrows]
      have hother : other ∈ rows.filter p := by simp [hrows]
      exact ⟨row, (List.mem_filter.mp hrow).1, other, (List.mem_filter.mp hother).1, hne,
        (List.mem_filter.mp hrow).2, (List.mem_filter.mp hother).2⟩

end Filter

/-- A column value is held by at most one row. -/
def UniqueOn (key : α → κ) (rows : List α) : Prop := (rows.map key).Nodup

instance [DecidableEq κ] (key : α → κ) (rows : List α) : Decidable (UniqueOn key rows) :=
  inferInstanceAs (Decidable (rows.map key).Nodup)

theorem UniqueOn.eq {key : α → κ} {rows : List α} (h : UniqueOn key rows) {a b : α}
    (ha : a ∈ rows) (hb : b ∈ rows) (hab : key a = key b) : a = b :=
  List.inj_on_of_nodup_map h ha hb hab

theorem UniqueOn.nodup {key : α → κ} {rows : List α} (h : UniqueOn key rows) : rows.Nodup :=
  h.of_map key

theorem uniqueOn_nil (key : α → κ) : UniqueOn key [] := List.nodup_nil

/-- Uniqueness as a statement about pairs of rows, for a table without duplicate rows. -/
theorem uniqueOn_iff {key : α → κ} {rows : List α} (hnodup : rows.Nodup) :
    UniqueOn key rows ↔ ∀ a ∈ rows, ∀ b ∈ rows, key a = key b → a = b :=
  List.nodup_map_iff_inj_on hnodup

/-- A query on a unique column yields the only row that holds the value. -/
theorem UniqueOn.filter_eq_singleton {key : α → κ} {rows : List α} (h : UniqueOn key rows)
    {p : α → Bool} {a : α} (ha : a ∈ rows) (hpa : p a = true)
    (hp : ∀ b ∈ rows, p b = true → key b = key a) : rows.filter p = [a] := by
  have hperm : (rows.filter p).Perm [a] := by
    refine (List.perm_ext_iff_of_nodup (h.nodup.filter p) (List.nodup_singleton a)).mpr fun b => ?_
    simp only [List.mem_filter, List.mem_singleton]
    constructor
    · rintro ⟨hb, hpb⟩
      exact h.eq hb ha (hp b hb hpb)
    · rintro rfl
      exact ⟨ha, hpa⟩
  exact List.perm_singleton.mp hperm

theorem UniqueOn.map_rows {key : α → κ} {f : α → α} {rows : List α} (h : UniqueOn key rows)
    (hkey : ∀ row, key (f row) = key row) :
    UniqueOn key (rows.map f) := by
  have hkeys : (rows.map f).map key = rows.map key := by
    rw [List.map_map]
    exact List.map_congr_left fun row _ => hkey row
  unfold UniqueOn
  rw [hkeys]
  exact h

/-! ### Rewriting one row -/

section Replace

variable [DecidableEq κ] (pk : α → κ)

/-- The table with the row of `row`'s primary key replaced by `row`. -/
def replaceRow (row : α) (rows : List α) : List α :=
  rows.map fun old => if pk old = pk row then row else old

theorem mem_replaceRow {row b : α} {rows : List α} :
    b ∈ replaceRow pk row rows ↔
      (b = row ∧ ∃ old ∈ rows, pk old = pk row) ∨ (b ∈ rows ∧ pk b ≠ pk row) := by
  simp only [replaceRow, List.mem_map]
  constructor
  · rintro ⟨old, hold, rfl⟩
    split
    next h => exact .inl ⟨rfl, old, hold, h⟩
    next h => exact .inr ⟨hold, h⟩
  · rintro (⟨rfl, old, hold, hpk⟩ | ⟨hb, hpk⟩)
    · exact ⟨old, hold, by rw [if_pos hpk]⟩
    · exact ⟨b, hb, by rw [if_neg hpk]⟩

theorem mem_replaceRow_self {row old : α} {rows : List α} (hold : old ∈ rows)
    (hpk : pk old = pk row) : row ∈ replaceRow pk row rows :=
  (mem_replaceRow pk).mpr (.inl ⟨rfl, old, hold, hpk⟩)

@[simp] theorem map_pk_replaceRow (row : α) (rows : List α) :
    (replaceRow pk row rows).map pk = rows.map pk := by
  simp only [replaceRow, List.map_map]
  refine List.map_congr_left fun old _ => ?_
  rw [Function.comp_apply]
  split
  next h => exact h.symm
  next => rfl

/-- Writing some rows one after another replaces the rows that have their keys. -/
theorem mem_foldl_replaceRow {written table : List α} (hwritten : UniqueOn pk written) {b : α} :
    b ∈ written.foldl (fun table row => replaceRow pk row table) table ↔
      (b ∈ written ∧ ∃ old ∈ table, pk old = pk b) ∨ (b ∈ table ∧ ∀ row ∈ written, pk row ≠ pk b) := by
  induction written generalizing table with
  | nil => simp
  | cons first rest ih =>
      obtain ⟨hfirst, hrest⟩ := List.nodup_cons.mp hwritten
      have hpks : (∃ old ∈ replaceRow pk first table, pk old = pk b) ↔
          ∃ old ∈ table, pk old = pk b := by
        rw [← List.mem_map, ← List.mem_map, map_pk_replaceRow]
      rw [List.foldl_cons, ih hrest, hpks, mem_replaceRow, List.forall_mem_cons, List.mem_cons]
      constructor
      · rintro (⟨hmem, hold⟩ | ⟨⟨rfl, hold⟩ | ⟨hmem, hne⟩, hothers⟩)
        · exact .inl ⟨.inr hmem, hold⟩
        · exact .inl ⟨.inl rfl, hold⟩
        · exact .inr ⟨hmem, Ne.symm hne, hothers⟩
      · rintro (⟨rfl | hmem, hold⟩ | ⟨hmem, hne, hothers⟩)
        · exact .inr ⟨.inl ⟨rfl, hold⟩, fun row hrow heq => hfirst (heq ▸ List.mem_map_of_mem hrow)⟩
        · exact .inl ⟨hmem, hold⟩
        · exact .inr ⟨.inr ⟨hmem, Ne.symm hne⟩, hothers⟩

theorem map_pk_foldl_replaceRow (written table : List α) :
    (written.foldl (fun table row => replaceRow pk row table) table).map pk = table.map pk := by
  induction written generalizing table with
  | nil => rfl
  | cons first rest ih => rw [List.foldl_cons, ih, map_pk_replaceRow]

theorem replaceRow_of_mem {row : α} {rows : List α} (h : UniqueOn pk rows) (hrow : row ∈ rows) :
    replaceRow pk row rows = rows := by
  calc replaceRow pk row rows = rows.map id := List.map_congr_left fun old hold => by
        by_cases hpk : pk old = pk row
        · rw [if_pos hpk, h.eq hold hrow hpk, id]
        · rw [if_neg hpk, id]
    _ = rows := List.map_id rows

/-- A loop in which each row is rewritten by itself rewrites the table row by row. -/
theorem foldl_replaceRow_rowwise {f : α → α} {todo table : List α} (htable : UniqueOn pk table)
    (hmem : ∀ row ∈ todo, row ∈ table) (hpk : ∀ row, pk (f row) = pk row) :
    todo.foldl (fun table row => replaceRow pk (f row) table) table =
      table.map fun row => if pk row ∈ todo.map pk then f row else row := by
  induction todo using List.reverseRecOn with
  | nil => simp
  | append_singleton todo last ih =>
      have hlast : last ∈ table := hmem last (by simp)
      rw [List.foldl_concat, ih fun row hrow => hmem row (List.mem_append_left _ hrow),
        replaceRow, List.map_map]
      refine List.map_congr_left fun row hrow => ?_
      have hkept : pk (if pk row ∈ todo.map pk then f row else row) = pk row := by
        split
        next => exact hpk row
        next => rfl
      rw [Function.comp_apply, hkept, hpk]
      by_cases hsame : pk row = pk last
      · have heq : row = last := htable.eq hrow hlast hsame
        rw [if_pos hsame, if_pos (by simp [hsame]), heq]
      · simp [hsame]

/-- Of two writes of one row the second stands. -/
theorem replaceRow_replaceRow {first second : α} (h : pk first = pk second) (rows : List α) :
    replaceRow pk second (replaceRow pk first rows) = replaceRow pk second rows := by
  simp only [replaceRow, List.map_map]
  refine List.map_congr_left fun old _ => ?_
  rw [Function.comp_apply]
  by_cases hold : pk old = pk second
  · rw [if_pos (hold.trans h.symm), if_pos h, if_pos hold]
  · have hfirst : pk old ≠ pk first := by
      rw [h]
      exact hold
    rw [if_neg hfirst]

/-- A table holds a row of the key exactly when it held one before, and then it is the new row. -/
theorem find?_replaceRow {row old : α} {rows : List α}
    (h : rows.find? (fun r => pk r = pk row) = some old) :
    (replaceRow pk row rows).find? (fun r => pk r = pk row) = some row := by
  induction rows with
  | nil => cases h
  | cons r rest ih =>
      by_cases hr : pk r = pk row
      · simp [replaceRow, hr]
      · have hrest : rest.find? (fun r => pk r = pk row) = some old := by
          simpa [List.find?_cons, hr] using h
        simpa [replaceRow, List.find?_cons, hr] using ih hrest

/-- The rows of other keys are found as before. -/
theorem find?_replaceRow_of_ne {row : α} {rows : List α} {k : κ} (h : k ≠ pk row) :
    (replaceRow pk row rows).find? (fun r => pk r = k) = rows.find? (fun r => pk r = k) := by
  induction rows with
  | nil => rfl
  | cons r rest ih =>
      have hcons : replaceRow pk row (r :: rest) =
          (if pk r = pk row then row else r) :: replaceRow pk row rest := rfl
      rw [hcons, List.find?_cons, List.find?_cons, ih]
      by_cases hr : pk r = pk row
      · simp [hr, h.symm]
      · rw [if_neg hr]

theorem UniqueOn.find?_eq_some {rows : List α} (h : UniqueOn pk rows) {row : α} {k : κ} :
    rows.find? (fun r => pk r = k) = some row ↔ row ∈ rows ∧ pk row = k := by
  constructor
  · intro hfind
    exact ⟨List.mem_of_find?_eq_some hfind, by simpa using List.find?_some hfind⟩
  · rintro ⟨hrow, rfl⟩
    cases hfind : rows.find? (fun r => pk r = pk row) with
    | none =>
        have hnone := List.find?_eq_none.mp hfind row hrow
        simp at hnone
    | some found =>
        have hpk : pk found = pk row := by simpa using List.find?_some hfind
        rw [h.eq (List.mem_of_find?_eq_some hfind) hrow hpk]

/-- Replacing a row keeps a column unique when no other row holds the new value. -/
theorem UniqueOn.replaceRow {key : α → γ} {row : α} {rows : List α} (hpk : UniqueOn pk rows)
    (h : UniqueOn key rows) (hnew : ∀ other ∈ rows, pk other ≠ pk row → key other ≠ key row) :
    UniqueOn key (replaceRow pk row rows) := by
  have hpk' : UniqueOn pk (Library.replaceRow pk row rows) := by
    rw [UniqueOn, map_pk_replaceRow]
    exact hpk
  rw [uniqueOn_iff hpk'.nodup]
  intro a ha b hb hab
  rcases (mem_replaceRow pk).mp ha with ⟨rfl, -⟩ | ⟨ha, hane⟩
  · rcases (mem_replaceRow pk).mp hb with ⟨rfl, -⟩ | ⟨hb, hbne⟩
    · rfl
    · exact absurd hab.symm (hnew b hb hbne)
  · rcases (mem_replaceRow pk).mp hb with ⟨hbrow, -⟩ | ⟨hb, hbne⟩
    · exact absurd (hbrow ▸ hab) (hnew a ha hane)
    · exact h.eq ha hb hab

/-- Appending a row keeps a column unique when no row holds the new value. -/
theorem UniqueOn.append_row {key : α → γ} {row : α} {rows : List α} (h : UniqueOn key rows)
    (hnew : ∀ other ∈ rows, key other ≠ key row) : UniqueOn key (rows ++ [row]) := by
  rw [UniqueOn, List.map_append, List.nodup_append]
  refine ⟨h, List.nodup_singleton _, ?_⟩
  intro x hx y hy
  obtain ⟨other, hother, rfl⟩ := List.mem_map.mp hx
  rw [List.map_singleton, List.mem_singleton] at hy
  rw [hy]
  exact hnew other hother

end Replace

end Library
