import Micboard.LibraryTable

/-! Secondary indexes. An index of a column keeps, for the keys of a batch, the primary keys of the
objects whose column holds the key, each of them once. As long as it does, looking a key of the
batch up in the index and querying the table for it select the same primary keys. -/

namespace Library

variable {ε α β κ γ : Type*}

/-- Enter a primary key under an index key, once. -/
def appendMatch [DecidableEq β] [DecidableEq κ] (entries : β → List κ) (key : β) (k : κ) :
    β → List κ :=
  if k ∈ entries key then entries else Function.update entries key (entries key ++ [k])

section AppendMatch

variable [DecidableEq β] [DecidableEq κ] {entries : β → List κ}

theorem mem_appendMatch {key other : β} {k entry : κ} :
    entry ∈ appendMatch entries key k other ↔
      entry ∈ entries other ∨ (other = key ∧ entry = k) := by
  rw [appendMatch]
  by_cases hk : k ∈ entries key
  · rw [if_pos hk]
    constructor
    · exact .inl
    · rintro (h | ⟨rfl, rfl⟩)
      · exact h
      · exact hk
  rw [if_neg hk]
  by_cases hkey : other = key
  · subst hkey
    simp
  · simp [hkey]

theorem nodup_appendMatch {other : β} (h : (entries other).Nodup) (key : β) (k : κ) :
    (appendMatch entries key k other).Nodup := by
  rw [appendMatch]
  by_cases hk : k ∈ entries key
  · rw [if_pos hk]
    exact h
  rw [if_neg hk]
  by_cases hkey : other = key
  · subst hkey
    rw [Function.update_self]
    exact h.append (List.nodup_singleton k) (List.disjoint_singleton.mpr hk)
  · rw [Function.update_of_ne hkey]
    exact h

end AppendMatch

/-- The entries of every key of the batch are the primary keys of the objects whose column holds it. -/
structure Indexes (pk : α → κ) (column : α → Option β) (batch : List β) (objects : List α)
    (entries : β → List κ) : Prop where
  nodup : ∀ key ∈ batch, (entries key).Nodup
  mem_iff : ∀ key ∈ batch, ∀ k, k ∈ entries key ↔
    ∃ object ∈ objects, column object = some key ∧ pk object = k

theorem indexes_nil (pk : α → κ) (column : α → Option β) (batch : List β) :
    Indexes pk column batch [] fun _ => [] where
  nodup _ _ := List.nodup_nil
  mem_iff := by simp

section Maintenance

variable {pk : α → κ} {column : α → Option β} {batch : List β} {objects : List α}
  {entries : β → List κ}

theorem exists_mem_append_singleton {object : α} {key : β} {k : κ} :
    (∃ o ∈ objects ++ [object], column o = some key ∧ pk o = k) ↔
      (∃ o ∈ objects, column o = some key ∧ pk o = k) ∨ (column object = some key ∧ pk object = k) := by
  simp only [List.mem_append, List.mem_singleton, or_and_right, exists_or, exists_eq_left]

theorem Indexes.append_object [DecidableEq β] [DecidableEq κ]
    (h : Indexes pk column batch objects entries) {object : α} {key : β}
    (hkey : column object = some key) :
    Indexes pk column batch (objects ++ [object]) (appendMatch entries key (pk object)) where
  nodup other hother := nodup_appendMatch (h.nodup other hother) key (pk object)
  mem_iff other hother k := by
    rw [mem_appendMatch, h.mem_iff other hother, exists_mem_append_singleton, hkey, Option.some.injEq,
      eq_comm (a := other), eq_comm (a := k)]

theorem Indexes.append_unindexed (h : Indexes pk column batch objects entries) {object : α}
    (hkey : ∀ key ∈ batch, column object ≠ some key) :
    Indexes pk column batch (objects ++ [object]) entries where
  nodup := h.nodup
  mem_iff key hbatch k := by
    rw [h.mem_iff key hbatch, exists_mem_append_singleton]
    simp [hkey key hbatch]

/-- The entry of an object under a key says whether its column holds the key. -/
theorem Indexes.pk_mem_iff (h : Indexes pk column batch objects entries)
    (hunique : UniqueOn pk objects) {old : α} (hold : old ∈ objects) {key : β} (hbatch : key ∈ batch) :
    pk old ∈ entries key ↔ column old = some key := by
  rw [h.mem_iff key hbatch]
  constructor
  · rintro ⟨o, ho, hkey, hpk⟩
    rwa [hunique.eq hold ho hpk.symm]
  · intro hkey
    exact ⟨old, hold, hkey, rfl⟩

variable [DecidableEq κ]

theorem exists_mem_replaceRow {object old : α} (hold : old ∈ objects) (hpk : pk old = pk object)
    {key : β} {k : κ} :
    (∃ o ∈ replaceRow pk object objects, column o = some key ∧ pk o = k) ↔
      (column object = some key ∧ k = pk object) ∨
        (k ≠ pk object ∧ ∃ o ∈ objects, column o = some key ∧ pk o = k) := by
  constructor
  · rintro ⟨o, ho, hkey, rfl⟩
    rcases (mem_replaceRow pk).mp ho with ⟨rfl, -⟩ | ⟨ho, hne⟩
    · exact .inl ⟨hkey, rfl⟩
    · exact .inr ⟨hne, o, ho, hkey, rfl⟩
  · rintro (⟨hkey, rfl⟩ | ⟨hne, o, ho, hkey, rfl⟩)
    · exact ⟨object, mem_replaceRow_self pk hold hpk, hkey, rfl⟩
    · exact ⟨o, (mem_replaceRow pk).mpr (.inr ⟨ho, hne⟩), hkey, rfl⟩

/-- An object that keeps its key keeps its entry. -/
theorem Indexes.replace_same (h : Indexes pk column batch objects entries)
    (hunique : UniqueOn pk objects) {object old : α} (hold : old ∈ objects)
    (hpk : pk old = pk object) (hcolumn : column object = column old) :
    Indexes pk column batch (replaceRow pk object objects) entries where
  nodup := h.nodup
  mem_iff key hbatch k := by
    rw [exists_mem_replaceRow hold hpk, hcolumn, ← h.pk_mem_iff hunique hold hbatch, hpk,
      ← h.mem_iff key hbatch]
    by_cases hk : k = pk object
    · simp [hk]
    · simp [hk]

/-- An object that changes its key is taken out under the old one and entered under the new one. -/
theorem Indexes.replace_moved [DecidableEq β] (h : Indexes pk column batch objects entries)
    {object old : α} (hold : old ∈ objects) (hpk : pk old = pk object)
    (hunique : UniqueOn pk objects) {oldKey newKey : β} (holdKey : column old = some oldKey)
    (hnewKey : column object = some newKey) :
    Indexes pk column batch (replaceRow pk object objects)
      (appendMatch (Function.update entries oldKey ((entries oldKey).filter (· ≠ pk object))) newKey
        (pk object)) where
  nodup key hbatch := by
    apply nodup_appendMatch
    by_cases hkey : key = oldKey
    · subst hkey
      rw [Function.update_self]
      exact (h.nodup key hbatch).filter _
    · rw [Function.update_of_ne hkey]
      exact h.nodup key hbatch
  mem_iff key hbatch k := by
    have hrest : k ∈ Function.update entries oldKey ((entries oldKey).filter (· ≠ pk object)) key ↔
        k ∈ entries key ∧ k ≠ pk object := by
      by_cases hkey : key = oldKey
      · subst hkey
        simp [List.mem_filter]
      · rw [Function.update_of_ne hkey]
        refine ⟨fun hmem => ⟨hmem, ?_⟩, And.left⟩
        rintro rfl
        rw [← hpk, h.pk_mem_iff hunique hold hbatch, holdKey, Option.some.injEq] at hmem
        exact hkey hmem.symm
    rw [mem_appendMatch, hrest, exists_mem_replaceRow hold hpk, hnewKey, ← h.mem_iff key hbatch,
      Option.some.injEq, eq_comm (a := key), and_comm (a := k ∈ entries key), or_comm]

end Maintenance

theorem uniqueMatch_perm {ambiguous : ε} {first second : List α} (h : first.Perm second) :
    uniqueMatch ambiguous first = uniqueMatch ambiguous second := by
  have hlength := h.length_eq
  match first, second with
  | [], [] => rfl
  | [a], [b] => rw [List.singleton_perm_singleton.mp h]
  | _ :: _ :: _, _ :: _ :: _ => rfl
  | [], _ :: _ => simp at hlength
  | _ :: _, [] => simp at hlength
  | [_], _ :: _ :: _ => simp at hlength
  | _ :: _ :: _, [_] => simp at hlength

theorem uniqueMatch_map {ambiguous : ε} (f : α → γ) (rows : List α) :
    uniqueMatch ambiguous (rows.map f) = (uniqueMatch ambiguous rows).map (Option.map f) := by
  match rows with
  | [] => rfl
  | [_] => rfl
  | _ :: _ :: _ => rfl

/-- The entries of a key are what a query of the table for it selects. -/
theorem Indexes.uniqueMatch_eq {pk : α → κ} {column : α → Option β} {batch : List β}
    {objects rows : List α} {entries : β → List κ} (h : Indexes pk column batch objects entries)
    (hrows : UniqueOn pk rows) {key : β} (hbatch : key ∈ batch) {p : α → Bool} {ambiguous : ε}
    (hquery : ∀ k, (∃ row ∈ rows, p row = true ∧ pk row = k) ↔
      ∃ object ∈ objects, column object = some key ∧ pk object = k) :
    uniqueMatch ambiguous (entries key) =
      (uniqueMatch ambiguous (rows.filter p)).map (Option.map pk) := by
  rw [← uniqueMatch_map]
  apply uniqueMatch_perm
  have hnodup : ((rows.filter p).map pk).Nodup := hrows.sublist (List.filter_sublist.map pk)
  refine (List.perm_ext_iff_of_nodup (h.nodup key hbatch) hnodup).mpr fun k => ?_
  rw [h.mem_iff key hbatch, ← hquery]
  simp [List.mem_map, List.mem_filter, and_assoc]

end Library
