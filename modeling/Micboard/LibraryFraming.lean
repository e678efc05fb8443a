import Micboard.LibrarySha256
import Mathlib.Data.List.Basic

/-! Prefix codes: byte strings that stand one after the other and are still read in one way only.
Numbers of a fixed width, fields behind their length and records of several fields are such codes,
and so is the end mark that stops a leading number. -/

namespace Library.Framing

open Library.Sha256

variable {α β γ : Type*}

/-- A code word ends where it ends, whatever follows it. -/
def PrefixCode (code : α → List γ) : Prop :=
  ∀ a b rest rest', code a ++ rest = code b ++ rest' → a = b ∧ rest = rest'

theorem PrefixCode.injective {code : α → List γ} (h : PrefixCode code) : Function.Injective code := by
  intro a b heq
  exact (h a b [] [] (by rw [heq])).1

theorem prefixCode_of_length {code : α → List γ} {width : Nat} (hlength : ∀ a, (code a).length = width)
    (hinj : Function.Injective code) : PrefixCode code := by
  intro a b rest rest' heq
  have hsame := List.append_inj heq ((hlength a).trans (hlength b).symm)
  exact ⟨hinj hsame.1, hsame.2⟩

theorem PrefixCode.append {first : α → List γ} {second : β → List γ} (hfirst : PrefixCode first)
    (hsecond : PrefixCode second) : PrefixCode fun pair : α × β => first pair.1 ++ second pair.2 := by
  rintro ⟨a, b⟩ ⟨a', b'⟩ rest rest' heq
  simp only [List.append_assoc] at heq
  obtain ⟨rfl, hmiddle⟩ := hfirst a a' _ _ heq
  obtain ⟨rfl, hrest⟩ := hsecond b b' _ _ hmiddle
  exact ⟨rfl, hrest⟩

/-- Code words that are never empty can be read off one after the other. -/
theorem PrefixCode.flatMap_injective {code : α → List γ} (h : PrefixCode code)
    (hne : ∀ a, code a ≠ []) :
    Function.Injective fun values : List α => values.flatMap code := by
  intro values
  induction values with
  | nil =>
      intro others heq
      cases others with
      | nil => rfl
      | cons other others =>
          have hnil : code other ++ others.flatMap code = [] := heq.symm
          exact absurd (List.append_eq_nil_iff.mp hnil).1 (hne other)
  | cons value values ih =>
      intro others heq
      cases others with
      | nil =>
          have hnil : code value ++ values.flatMap code = [] := heq
          exact absurd (List.append_eq_nil_iff.mp hnil).1 (hne value)
      | cons other others =>
          have heq : code value ++ values.flatMap code = code other ++ others.flatMap code := heq
          obtain ⟨rfl, hrest⟩ := h value other _ _ heq
          rw [ih hrest]

@[simp]
theorem length_bigEndian (width value : Nat) : (bigEndian width value).length = width := by
  simp [bigEndian]

theorem bigEndian_succ (width value : Nat) :
    bigEndian (width + 1) value = bigEndian width (value / 256) ++ [value % 256] := by
  unfold bigEndian
  rw [List.range_succ, List.map_append]
  congr 1
  · refine List.map_congr_left fun i hi => ?_
    have hi : i < width := List.mem_range.mp hi
    have hexponent : width + 1 - 1 - i = width - 1 - i + 1 := by omega
    rw [hexponent, Nat.pow_succ', ← Nat.div_div_eq_div_mul]
  · simp

theorem ofBigEndian_bigEndian {width value : Nat} (h : value < 256 ^ width) :
    ofBigEndian (bigEndian width value) = value := by
  induction width generalizing value with
  | zero =>
      have hzero : value = 0 := by omega
      subst hzero
      rfl
  | succ width ih =>
      have hdiv : value / 256 < 256 ^ width := by
        apply Nat.div_lt_of_lt_mul
        rwa [← Nat.pow_succ']
      have hstep : ofBigEndian (bigEndian width (value / 256) ++ [value % 256]) =
          ofBigEndian (bigEndian width (value / 256)) * 256 + value % 256 := by
        simp [ofBigEndian]
      rw [bigEndian_succ, hstep, ih hdiv]
      omega

/-- A field behind its length. -/
def framed (width : Nat) (bytes : List Nat) : List Nat := bigEndian width bytes.length ++ bytes

/-- A field is read back as long as its length fits the width. -/
theorem framed_append_inj {width : Nat} {bytes bytes' rest rest' : List Nat}
    (hbytes : bytes.length < 256 ^ width) (hbytes' : bytes'.length < 256 ^ width)
    (heq : framed width bytes ++ rest = framed width bytes' ++ rest') : bytes = bytes' ∧
      rest = rest' := by
  unfold framed at heq
  rw [List.append_assoc, List.append_assoc] at heq
  obtain ⟨hlength, heq⟩ := List.append_inj heq (by simp)
  have hsame : bytes.length = bytes'.length := by
    calc bytes.length = ofBigEndian (bigEndian width bytes.length) :=
      (ofBigEndian_bigEndian hbytes).symm
      _ = ofBigEndian (bigEndian width bytes'.length) := by rw [hlength]
      _ = bytes'.length := ofBigEndian_bigEndian hbytes'
  exact List.append_inj heq hsame

theorem prefixCode_framed {width : Nat} {code : α → List Nat} (hinj : Function.Injective code)
    (hlength : ∀ a, (code a).length < 256 ^ width) : PrefixCode fun a => framed width (code a) := by
  intro a b rest rest' heq
  obtain ⟨hcode, hrest⟩ := framed_append_inj (hlength a) (hlength b) heq
  exact ⟨hinj hcode, hrest⟩

/-- A leading part ends before the first value that cannot belong to it. -/
theorem eq_of_append_eq {p : γ → Bool} {front front' back back' : List γ}
    (hfront : ∀ c ∈ front, p c = true) (hfront' : ∀ c ∈ front', p c = true)
    (hback : ∀ c ∈ back.head?, p c = false) (hback' : ∀ c ∈ back'.head?, p c = false)
    (heq : front ++ back = front' ++ back') : front = front' ∧ back = back' := by
  have hdrop : ∀ {front back : List γ}, (∀ c ∈ front, p c = true) → (∀ c ∈ back.head?, p c = false) →
      (front ++ back).dropWhile p = back := by
    intro front back hfront hback
    rw [List.dropWhile_append_of_pos hfront]
    cases back with
    | nil => rfl
    | cons c rest =>
        have hstop : p c = false := hback c rfl
        simp [hstop]
  have hsame : back = back' := by
    rw [← hdrop hfront hback, heq, hdrop hfront' hback']
  subst hsame
  exact ⟨List.append_cancel_right heq, rfl⟩

/-- The last part after a separator that it does not contain. -/
theorem append_separator_inj {sep : γ} {front front' last last' : List γ} (hlast : sep ∉ last)
    (hlast' : sep ∉ last') (heq : front ++ sep :: last = front' ++ sep :: last') :
    front = front' ∧ last = last' := by
  classical
  have hfree : ∀ {part : List γ}, sep ∉ part → ∀ c ∈ part.reverse, decide (c ≠ sep) = true := by
    intro part hpart c hc
    refine decide_eq_true fun hsep => hpart ?_
    rw [← hsep]
    exact List.mem_reverse.mp hc
  have hstop : ∀ {rest : List γ}, ∀ c ∈ (sep :: rest).head?, decide (c ≠ sep) = false := by
    intro rest c hc
    cases hc
    simp
  have hreverse : last.reverse ++ sep :: front.reverse = last'.reverse ++ sep :: front'.reverse := by
    simpa using congrArg List.reverse heq
  obtain ⟨hsame, hrest⟩ := eq_of_append_eq (hfree hlast) (hfree hlast') hstop hstop hreverse
  refine ⟨?_, List.reverse_injective hsame⟩
  exact List.reverse_injective (List.cons.inj hrest).2

/-- The first part before a separator that it does not contain. -/
theorem separator_append_inj {sep : γ} {first first' back back' : List γ} (hfirst : sep ∉ first)
    (hfirst' : sep ∉ first') (heq : first ++ sep :: back = first' ++ sep :: back') :
    first = first' ∧ back = back' := by
  have hreverse : back.reverse ++ sep :: first.reverse = back'.reverse ++ sep :: first'.reverse := by
    simpa using congrArg List.reverse heq
  obtain ⟨hback, hsame⟩ := append_separator_inj (mt List.mem_reverse.mp hfirst)
    (mt List.mem_reverse.mp hfirst') hreverse
  exact ⟨List.reverse_injective hsame, List.reverse_injective hback⟩

theorem encode_injective : Function.Injective encode := by
  intro text text' heq
  unfold encode at heq
  rw [← List.map_flatMap, ← List.map_flatMap] at heq
  have hbytes := List.map_injective_iff.mpr (fun _ _ => UInt8.toNat_inj.mp) heq
  have hutf8 : text.toList.utf8Encode = text'.toList.utf8Encode := by
    unfold List.utf8Encode
    rw [hbytes]
  rw [String.utf8Encode_toList, String.utf8Encode_toList] at hutf8
  exact String.toByteArray_inj.mp hutf8

theorem length_encode_le (text : String) : (encode text).length ≤ 4 * text.length := by
  unfold encode
  rw [← String.length_toList]
  induction text.toList with
  | nil => simp
  | cons c chars ih =>
      have hchar : (String.utf8EncodeChar c).length ≤ 4 := by
        rw [String.length_utf8EncodeChar]
        exact c.utf8Size_le_four
      rw [List.flatMap_cons, List.length_append, List.length_map, List.length_cons]
      omega

end Library.Framing
