import Mathlib.Data.List.Induction
import Mathlib.Data.List.Nodup
import Mathlib.Data.List.Perm.Subperm
import Mathlib.Logic.Function.Basic
import Micboard.LibraryRun

/-! Dictionaries that a loop fills. A claim enters a value under a key that has none and is refused by a
key that has another one, so that the dictionary after a run of claims remembers what every one of them
asked for. Grouping collects the values of a loop under their keys, the keys in the order in which they
first occur. -/

namespace Library

variable {α κ ν ε : Type*}

section Claim

variable [DecidableEq κ] [DecidableEq ν] {refusal : ε} {entries entries' : κ → Option ν}
  {key other : κ} {value : ν}

/-- `setdefault` of a value that a key must have. -/
def claim (refusal : ε) (entries : κ → Option ν) (key : κ) (value : ν) :
    Except ε (κ → Option ν) :=
  match entries key with
  | none => .ok (Function.update entries key (some value))
  | some prior => if prior ≠ value then .error refusal else .ok entries

theorem claim_eq_ok : claim refusal entries key value = .ok entries' ↔
    (entries key = none ∨ entries key = some value) ∧
      entries' = Function.update entries key (some value) := by
  rw [claim]
  cases hkey : entries key with
  | none => simp [eq_comm]
  | some prior =>
      by_cases hvalue : prior = value
      · subst hvalue
        rw [← hkey, Function.update_eq_self]
        simp [hkey, eq_comm]
      · simp [hvalue]

/-- Every entry of the first dictionary is one of the second. -/
def Extends (entries entries' : κ → Option ν) : Prop :=
  ∀ key value, entries key = some value → entries' key = some value

omit [DecidableEq κ] [DecidableEq ν] in
theorem Extends.refl (entries : κ → Option ν) : Extends entries entries := fun _ _ h => h

omit [DecidableEq κ] [DecidableEq ν] in
theorem Extends.trans {entries'' : κ → Option ν} (h : Extends entries entries')
    (h' : Extends entries' entries'') : Extends entries entries'' :=
  fun key value hentry => h' key value (h key value hentry)

theorem claim_extends (h : claim refusal entries key value = .ok entries') :
    Extends entries entries' := by
  obtain ⟨hfree, rfl⟩ := claim_eq_ok.mp h
  intro other value' hentry
  by_cases hother : other = key
  · subst hother
    rcases hfree with hnone | hsome
    · rw [hnone] at hentry
      cases hentry
    · rw [Function.update_self, ← hsome, hentry]
  · rw [Function.update_of_ne hother, hentry]

theorem claim_self (h : claim refusal entries key value = .ok entries') :
    entries' key = some value := by
  obtain ⟨-, rfl⟩ := claim_eq_ok.mp h
  exact Function.update_self ..

end Claim

section Group

variable [DecidableEq κ]

theorem nodup_eraseDups (keys : List κ) : keys.eraseDups.Nodup := by
  induction keys using List.reverseRecOn with
  | nil => exact List.nodup_nil
  | append_singleton keys k ih =>
      rw [List.eraseDups_append]
      refine List.Nodup.append ih ?_ ?_
      · by_cases hk : k ∈ keys <;> simp [List.removeAll, hk, List.eraseDups_cons]
      · intro other hleft hright
        rw [List.mem_eraseDups, List.removeAll, List.mem_filter] at hright
        simp [List.mem_eraseDups.mp hleft] at hright

theorem length_eraseDups_le (keys : List κ) : keys.eraseDups.length ≤ keys.length :=
  ((nodup_eraseDups keys).subperm fun _ h => List.mem_eraseDups.mp h).length_le

theorem removeAll_singleton (k : κ) (keys : List κ) :
    [k].removeAll keys = if k ∈ keys then [] else [k] := by
  by_cases h : k ∈ keys
  · rw [if_pos h, List.removeAll, List.filter_eq_nil_iff]
    simpa using h
  · rw [if_neg h, List.removeAll, List.filter_eq_self]
    simpa using h

/-- Lists with the same members have as many distinct ones. -/
theorem length_eraseDups_congr {keys others : List κ} (h : ∀ k, k ∈ keys ↔ k ∈ others) :
    keys.eraseDups.length = others.eraseDups.length := by
  refine List.Perm.length_eq ?_
  refine (List.perm_ext_iff_of_nodup (nodup_eraseDups keys) (nodup_eraseDups others)).mpr fun k => ?_
  rw [List.mem_eraseDups, List.mem_eraseDups, h]

theorem length_eraseDups_append {keys others : List κ} (h : ∀ k ∈ keys, k ∉ others) :
    (keys ++ others).eraseDups.length = keys.eraseDups.length + others.eraseDups.length := by
  have hothers : others.removeAll keys = others := by
    rw [List.removeAll, List.filter_eq_self]
    intro k hk
    simpa using fun hmem => h k hmem hk
  rw [List.eraseDups_append, hothers, List.length_append]

/-- Two keys that tell the same values apart have as many values. -/
theorem length_eraseDups_map {ν : Type*} [DecidableEq ν] {f : α → κ} {g : α → ν} {values : List α}
    (h : ∀ a ∈ values, ∀ b ∈ values, f a = f b ↔ g a = g b) :
    (values.map f).eraseDups.length = (values.map g).eraseDups.length := by
  induction values using List.reverseRecOn with
  | nil => rfl
  | append_singleton values value ih =>
      have hrest := ih fun a ha b hb => h a (List.mem_append_left _ ha) b (List.mem_append_left _ hb)
      have hmem : f value ∈ values.map f ↔ g value ∈ values.map g := by
        simp only [List.mem_map]
        refine exists_congr fun a => and_congr_right fun ha => ?_
        exact h a (List.mem_append_left _ ha) value (by simp)
      rw [List.map_append, List.map_append, List.eraseDups_append, List.eraseDups_append,
        List.length_append, List.length_append, hrest, List.map_singleton, List.map_singleton,
        removeAll_singleton, removeAll_singleton]
      by_cases hf : f value ∈ values.map f
      · rw [if_pos hf, if_pos (hmem.mp hf)]
        rfl
      · rw [if_neg hf, if_neg (mt hmem.mpr hf)]
        simp [List.eraseDups_cons]

theorem eraseDups_first {before : List κ} (after : List κ) {k : κ} (h : k ∉ before) :
    ∃ tail, (before ++ k :: after).eraseDups = before.eraseDups ++ k :: tail := by
  have hhead : (k :: after).removeAll before = k :: after.removeAll before := by
    simp [List.removeAll, h]
  rw [List.eraseDups_append, hhead, List.eraseDups_cons]
  exact ⟨_, rfl⟩

variable (key : α → κ)

/-- `setdefault(key, []).append(value)`. -/
def appendTo (k : κ) (value : α) : List (κ × List α) → List (κ × List α)
  | [] => [(k, [value])]
  | (other, values) :: rest =>
    if other = k then (other, values ++ [value]) :: rest
    else (other, values) :: appendTo k value rest

def groupBy (values : List α) : List (κ × List α) :=
  values.foldl (fun groups value => appendTo (key value) value groups) []

def group (values : List α) (k : κ) : κ × List α := (k, values.filter fun value => key value = k)

theorem group_append_of_ne {values : List α} {k : κ} {value : α} (h : key value ≠ k) :
    group key (values ++ [value]) k = group key values k := by
  simp [group, h]

theorem appendTo_groups {values : List α} {value : α} {keys : List κ} (hkeys : keys.Nodup) :
    appendTo (key value) value (keys.map (group key values)) =
      if key value ∈ keys then keys.map (group key (values ++ [value]))
      else keys.map (group key (values ++ [value])) ++ [(key value, [value])] := by
  induction keys with
  | nil => simp [appendTo]
  | cons k keys ih =>
      obtain ⟨hk, hkeys⟩ := List.nodup_cons.mp hkeys
      rw [List.map_cons, group, appendTo]
      by_cases heq : k = key value
      · subst heq
        have hrest : keys.map (group key (values ++ [value])) = keys.map (group key values) := by
          apply List.map_congr_left
          intro other hother
          exact group_append_of_ne key fun h => hk (h ▸ hother)
        rw [if_pos rfl, if_pos List.mem_cons_self, List.map_cons, hrest]
        simp [group]
      · have hmem : key value ∈ k :: keys ↔ key value ∈ keys := by
          simp [Ne.symm heq]
        rw [if_neg heq, ih hkeys]
        simp only [hmem, List.map_cons]
        rw [group_append_of_ne key (Ne.symm heq)]
        split
        next => rfl
        next => rfl

/-- The groups are those of the keys, each key where it first occurs. -/
theorem groupBy_eq (values : List α) :
    groupBy key values = (values.map key).eraseDups.map (group key values) := by
  induction values using List.reverseRecOn with
  | nil => rfl
  | append_singleton values value ih =>
      have hstep : groupBy key (values ++ [value]) =
          appendTo (key value) value (groupBy key values) := by
        rw [groupBy, List.foldl_append]
        rfl
      rw [hstep, ih, appendTo_groups key (nodup_eraseDups _)]
      rw [List.map_append, List.eraseDups_append]
      by_cases hmem : key value ∈ values.map key
      · rw [if_pos (List.mem_eraseDups.mpr hmem)]
        rw [List.map_singleton, removeAll_singleton, if_pos hmem, List.eraseDups_nil, List.append_nil]
      · rw [if_neg (mt List.mem_eraseDups.mp hmem)]
        have hnone : values.filter (fun other => key other = key value) = [] := by
          rw [List.filter_eq_nil_iff]
          intro other hother
          simpa using fun h => hmem (List.mem_map.mpr ⟨other, hother, h⟩)
        rw [List.map_singleton, removeAll_singleton, if_neg hmem, List.map_append]
        simp [group, hnone, List.eraseDups_cons]

theorem mem_groupBy {values : List α} {g : κ × List α} :
    g ∈ groupBy key values ↔ ∃ value ∈ values, g = group key values (key value) := by
  rw [groupBy_eq, List.mem_map]
  constructor
  · rintro ⟨k, hk, rfl⟩
    obtain ⟨value, hvalue, rfl⟩ := List.mem_map.mp (List.mem_eraseDups.mp hk)
    exact ⟨value, hvalue, rfl⟩
  · rintro ⟨value, hvalue, rfl⟩
    exact ⟨key value, List.mem_eraseDups.mpr (List.mem_map_of_mem hvalue), rfl⟩

theorem exists_groupBy_keys (values : List α) : ∃ keys : List κ, keys.Nodup ∧
    (∀ value ∈ values, key value ∈ keys) ∧ groupBy key values = keys.map (group key values) :=
  ⟨_, nodup_eraseDups _, fun _ hvalue => List.mem_eraseDups.mpr (List.mem_map_of_mem hvalue),
    groupBy_eq key values⟩

theorem nodup_groupBy_keys (values : List α) : ((groupBy key values).map Prod.fst).Nodup := by
  have hkeys : (groupBy key values).map Prod.fst = (values.map key).eraseDups := by
    rw [groupBy_eq, List.map_map]
    exact List.map_id _
  rw [hkeys]
  exact nodup_eraseDups _

theorem length_groupBy (values : List α) :
    (groupBy key values).length = (values.map key).eraseDups.length := by
  rw [groupBy_eq, List.length_map]

/-- The values under distinct keys, collected key by key, are the values that have one of them. -/
theorem flatMap_group_perm {keys : List κ} (hkeys : keys.Nodup) (values : List α) :
    (keys.flatMap fun k => (group key values k).2).Perm
      (values.filter fun value => key value ∈ keys) := by
  induction keys with
  | nil => simp
  | cons k keys ih =>
      obtain ⟨hk, hkeys⟩ := List.nodup_cons.mp hkeys
      rw [List.flatMap_cons]
      refine (List.Perm.append_left _ (ih hkeys)).trans ?_
      refine (List.Perm.append ?_ ?_).trans
        (List.filter_append_perm (fun value => key value = k)
          (values.filter fun value => key value ∈ k :: keys))
      · rw [List.filter_filter]
        refine List.Perm.of_eq (List.filter_congr fun value _ => ?_)
        simp +contextual
      · rw [List.filter_filter]
        refine List.Perm.of_eq (List.filter_congr fun value _ => ?_)
        by_cases h : key value = k
        · simp [h, hk]
        · simp [h]

variable {key}

/-- Where a key first occurs, its group comes after the groups of the keys before it. -/
theorem groupBy_split {before : List α} (after : List α) {value : α}
    (hfirst : ∀ earlier ∈ before, key earlier ≠ key value) :
    ∃ pre post, groupBy key (before ++ value :: after) =
        pre ++ group key (before ++ value :: after) (key value) :: post ∧
      ∀ k, (∃ g ∈ pre, g.1 = k) ↔ ∃ earlier ∈ before, key earlier = k := by
  have hnotMem : key value ∉ before.map key := by
    intro hmem
    obtain ⟨earlier, hearlier, heq⟩ := List.mem_map.mp hmem
    exact hfirst earlier hearlier heq
  obtain ⟨tail, htail⟩ := eraseDups_first (after.map key) hnotMem
  refine ⟨(before.map key).eraseDups.map (group key (before ++ value :: after)),
    tail.map (group key (before ++ value :: after)), ?_, ?_⟩
  · rw [groupBy_eq, List.map_append, List.map_cons, htail, List.map_append, List.map_cons]
  · intro k
    simp [group, List.mem_eraseDups]

theorem exists_first_of_groupBy {values : List α} {pre post : List (κ × List α)} {g : κ × List α}
    (h : groupBy key values = pre ++ g :: post) :
    ∃ before value after, values = before ++ value :: after ∧
      (∀ earlier ∈ before, key earlier ≠ key value) ∧ g = group key values (key value) ∧
      ∀ k, (∃ g' ∈ pre, g'.1 = k) ↔ ∃ earlier ∈ before, key earlier = k := by
  obtain ⟨value, hvalue, hg⟩ :=
    (mem_groupBy key).mp (h ▸ List.mem_append_right pre (List.mem_cons_self (a := g)))
  obtain ⟨keysBefore, keysAfter, hkeys, hfirst⟩ :=
    List.eq_append_cons_of_mem (List.mem_map_of_mem (f := key) hvalue)
  obtain ⟨before, rest, rfl, hbefore, hrest⟩ := List.map_eq_append_iff.mp hkeys
  obtain ⟨first, after, rfl, hkey, -⟩ := List.map_eq_cons_iff.mp hrest
  have hfirst' : ∀ earlier ∈ before, key earlier ≠ key first := by
    intro earlier hearlier heq
    rw [hkey] at heq
    exact hfirst (hbefore ▸ List.mem_map.mpr ⟨earlier, hearlier, heq⟩)
  refine ⟨before, first, after, rfl, hfirst', hkey ▸ hg, ?_⟩
  obtain ⟨pre', post', hsplit, hpre⟩ := groupBy_split after hfirst'
  have hnodup : (pre ++ g :: post).Nodup := by
    rw [← h]
    exact (nodup_groupBy_keys key _).of_map Prod.fst
  obtain ⟨hnotPre, hnotPost⟩ : g ∉ pre ∧ g ∉ post := by
    rw [List.nodup_middle, List.nodup_cons, List.mem_append, not_or] at hnodup
    exact hnodup.1
  rw [h, hkey, ← hg] at hsplit
  rw [((List.append_cons_inj_of_notMem hnotPre hnotPost).mp hsplit).1]
  exact hpre

end Group

end Library
