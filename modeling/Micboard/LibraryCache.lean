import Mathlib.Logic.Function.Basic

/-! A cache whose entries expire. Reading and adding take the time of the call; an entry that has
expired is as good as absent, and one may be dropped at any time. -/

namespace Library

variable {κ ν : Type*}

structure CacheEntry (ν : Type*) where
  value : ν
  expires : Int

/-- The entries by key. -/
abbrev Cache (κ ν : Type*) := κ → Option (CacheEntry ν)

namespace Cache

def get (cache : Cache κ ν) (now : Int) (key : κ) : Option ν :=
  match cache key with
  | some entry => if now < entry.expires then some entry.value else none
  | none => none

theorem get_eq_some {cache : Cache κ ν} {now : Int} {key : κ} {value : ν} :
    get cache now key = some value ↔
      ∃ entry, cache key = some entry ∧ now < entry.expires ∧ entry.value = value := by
  rw [get]
  cases cache key with
  | none => simp
  | some entry => simp

variable [DecidableEq κ]

def delete (cache : Cache κ ν) (key : κ) : Cache κ ν := Function.update cache key none

def set (cache : Cache κ ν) (now : Int) (key : κ) (value : ν) (timeout : Int) : Cache κ ν :=
  Function.update cache key (some ⟨value, now + timeout⟩)

/-- Set a key that is absent; the answer says whether it was. -/
def add (cache : Cache κ ν) (now : Int) (key : κ) (value : ν) (timeout : Int) : Cache κ ν × Bool :=
  if (get cache now key).isSome then (cache, false) else (set cache now key value timeout, true)

/-- Give a key that is present a new timeout; the answer says whether it was. -/
def touch (cache : Cache κ ν) (now : Int) (key : κ) (timeout : Int) : Cache κ ν × Bool :=
  match get cache now key with
  | some value => (set cache now key value timeout, true)
  | none => (cache, false)

variable {cache : Cache κ ν} {now : Int} {key : κ} {value : ν}

theorem delete_eq_some {other : κ} {entry : CacheEntry ν}
    (h : delete cache key other = some entry) : cache other = some entry := by
  rw [delete, Function.update_apply] at h
  split at h
  next => cases h
  next => exact h

theorem set_eq_some {other : κ} {entry : CacheEntry ν} {timeout : Int}
    (h : set cache now key value timeout other = some entry) :
    other = key ∧ entry = ⟨value, now + timeout⟩ ∨ cache other = some entry := by
  rw [set, Function.update_apply] at h
  split at h
  next heq => exact .inl ⟨heq, (Option.some.inj h).symm⟩
  next => exact .inr h

theorem get_set {other : κ} {timeout : Int} (htimeout : 0 < timeout) :
    get (set cache now key value timeout) now other =
      if other = key then some value else get cache now other := by
  by_cases heq : other = key
  · rw [if_pos heq, get, set, heq, Function.update_self]
    exact if_pos (Int.lt_add_of_pos_right now htimeout)
  · rw [if_neg heq, get, set, Function.update_of_ne heq, get]

/-- A touch changes no value, and it puts no expiry forward that was within its timeout. -/
theorem exists_touch {other : κ} {entry : CacheEntry ν} {timeout : Int} (h : cache other = some entry)
    (hexpires : entry.expires ≤ now + timeout) :
    ∃ after, (touch cache now key timeout).1 other = some after ∧ after.value = entry.value ∧
      entry.expires ≤ after.expires := by
  rw [touch]
  split
  next found hfound =>
    by_cases heq : other = key
    · subst heq
      obtain ⟨before, hbefore, -, rfl⟩ := get_eq_some.mp hfound
      obtain rfl := Option.some.inj (hbefore.symm.trans h)
      exact ⟨⟨before.value, now + timeout⟩, Function.update_self .., rfl, hexpires⟩
    · exact ⟨entry, (Function.update_of_ne heq ..).trans h, rfl, Int.le_refl _⟩
  next => exact ⟨entry, h, rfl, Int.le_refl _⟩

theorem touch_eq_some {other : κ} {entry : CacheEntry ν} {timeout : Int}
    (h : (touch cache now key timeout).1 other = some entry) :
    ∃ before, cache other = some before ∧ before.value = entry.value := by
  rw [touch] at h
  split at h
  next found hfound =>
    rcases set_eq_some h with ⟨rfl, rfl⟩ | hother
    · obtain ⟨before, hbefore, -, hvalue⟩ := get_eq_some.mp hfound
      exact ⟨before, hbefore, hvalue⟩
    · exact ⟨entry, hother, rfl⟩
  next => exact ⟨entry, h, rfl⟩

theorem add_answer {timeout : Int} :
    (add cache now key value timeout).2 = true ↔ get cache now key = none := by
  rw [add]
  split
  next h => simp [Option.ne_none_iff_isSome.mpr h]
  next h => simpa using h

end Cache

end Library
