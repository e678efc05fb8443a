import Micboard.LibraryText
import Mathlib.Data.Finset.Basic

/-! MAC addresses as hardware identities: the canonical spelling and the six stored spellings a
lookup asks for. A canonical address is the lowercase, colon-delimited rendering of twelve
hexadecimal digits, so every spelling of it is decided by those digits. -/

namespace Micboard

open Library.Text

/-- The digits of a text of digit pairs separated by single colons or hyphens. -/
def delimitedDigits : List Char → Option (List Char)
  | [a, b] => if isHexDigit a && isHexDigit b then some [a, b] else none
  | a :: b :: sep :: rest =>
    if isHexDigit a && isHexDigit b && (sep = ':' || sep = '-') then
      (delimitedDigits rest).map fun digits => a :: b :: digits
    else none
  | _ => none

/-- The twelve digits of a candidate, by the delimited pattern or else by the compact one. -/
def compactMac (candidate : List Char) : Option (List Char) :=
  match delimitedDigits candidate with
  | some digits => if digits.length = 12 then some digits else none
  | none => if candidate.all isHexDigit && candidate.length = 12 then some candidate else none

/-- `sep.join` over the consecutive pairs of digits. -/
def joinPairs (sep : Char) : List Char → List Char
  | [a, b] => [a, b]
  | a :: b :: rest => a :: b :: sep :: joinPairs sep rest
  | _ => []

/-- Return a lowercase colon-delimited MAC or `none` for invalid input. -/
def canonicalizeMacAddress : Option String → Option String
  | none => none
  | some value =>
    (compactMac (stripChars value.toList)).map fun compact =>
      String.ofList (joinPairs ':' (compact.map Char.toLower))

/-- Return bounded exact-match variants for canonical and legacy MAC storage. -/
def macAddressQueryVariants (value : String) : List String :=
  match canonicalizeMacAddress (some value) with
  | none => []
  | some canonical =>
    let colon := canonical.toList
    let hyphenated := colon.map fun c => if c = ':' then '-' else c
    let compact := colon.filter (· ≠ ':')
    [colon, colon.map Char.toUpper, hyphenated, hyphenated.map Char.toUpper, compact,
      compact.map Char.toUpper].map String.ofList

/-- The lowercase hexadecimal digits. -/
def lowerHexDigits : List Char := "0123456789abcdef".toList

theorem lowerHex_cases {c : Char} (hc : c ∈ lowerHexDigits) :
    isHexDigit c = true ∧ isHexDigit c.toUpper = true ∧ c.toLower = c ∧ c.toUpper.toLower = c ∧
      c ≠ ':' ∧ c ≠ '-' ∧ isSpace c = false ∧ isSpace c.toUpper = false := by
  have hall : lowerHexDigits.Forall fun c => isHexDigit c = true ∧ isHexDigit c.toUpper = true ∧
      c.toLower = c ∧ c.toUpper.toLower = c ∧ c ≠ ':' ∧ c ≠ '-' ∧ isSpace c = false ∧
      isSpace c.toUpper = false := by decide +kernel
  exact List.forall_iff_forall_mem.mp hall c hc

theorem toLower_mem_lowerHex {c : Char} (hc : isHexDigit c = true) :
    c.toLower ∈ lowerHexDigits := by
  have hall : ∀ n < 103, isHexDigit (Char.ofNat n) = true →
      (Char.ofNat n).toLower ∈ lowerHexDigits := by decide +kernel
  have hlt : c.toNat < 103 := by
    have := isHexDigit_toNat hc
    omega
  have hcn : Char.ofNat c.toNat = c := Char.ofNat_toNat c
  rw [← hcn]
  exact hall _ hlt (by rw [hcn]; exact hc)

/-- A pair of digits at a time: the shape both `joinPairs` and `delimitedDigits` recurse on. -/
inductive Pairs : List Char → Prop where
  | single (a b : Char) : Pairs [a, b]
  | cons (a b : Char) {rest : List Char} (h : Pairs rest) : Pairs (a :: b :: rest)

theorem pairs_of_length_eq_twelve {digits : List Char} (h : digits.length = 12) : Pairs digits := by
  match digits, h with
  | [a, b, c, d, e, f, g, i, j, k, l, m], _ =>
      exact .cons a b (.cons c d (.cons e f (.cons g i (.cons j k (.single l m)))))

theorem Pairs.ne_nil {digits : List Char} (h : Pairs digits) : digits ≠ [] := by
  cases h <;> simp

theorem joinPairs_cons {sep a b : Char} {rest : List Char} (h : Pairs rest) :
    joinPairs sep (a :: b :: rest) = a :: b :: sep :: joinPairs sep rest := by
  cases h <;> rfl

theorem joinPairs_ne_nil (sep : Char) {digits : List Char} (h : Pairs digits) :
    joinPairs sep digits ≠ [] := by
  cases h with
  | single a b => simp [joinPairs]
  | cons a b h => simp [joinPairs_cons h]

theorem Pairs.map {digits : List Char} (h : Pairs digits) (f : Char → Char) :
    Pairs (digits.map f) := by
  induction h with
  | single a b => exact .single _ _
  | cons a b _ ih => exact .cons _ _ ih

/-- Reading a delimited text back gives the digits it was written from. -/
theorem delimitedDigits_joinPairs {sep : Char} (hsep : sep = ':' ∨ sep = '-') {digits : List Char}
    (h : Pairs digits) (hhex : ∀ c ∈ digits, isHexDigit c = true) :
    delimitedDigits (joinPairs sep digits) = some digits := by
  induction h with
  | single a b =>
      simp only [List.mem_cons, List.not_mem_nil, or_false, forall_eq_or_imp, forall_eq] at hhex
      simp only [joinPairs, delimitedDigits, hhex.1, hhex.2, Bool.and_self, if_true]
  | @cons a b rest hrest ih =>
      simp only [List.mem_cons, forall_eq_or_imp] at hhex
      obtain ⟨ha, hb, hrest'⟩ := hhex
      have hsep' : (decide (sep = ':') || decide (sep = '-')) = true := by
        rcases hsep with rfl | rfl <;> rfl
      rw [joinPairs_cons hrest]
      obtain ⟨x, xs, hx⟩ := List.exists_cons_of_ne_nil (joinPairs_ne_nil sep hrest)
      rw [hx] at ih ⊢
      rw [delimitedDigits, ih hrest']
      simp only [ha, hb, hsep', Bool.and_self, if_true, Option.map_some]

/-- Compact digits do not parse as a delimited text of twelve digits. -/
theorem compactMac_of_compact {digits : List Char} (hlen : digits.length = 12)
    (hhex : ∀ c ∈ digits, isHexDigit c = true) : compactMac digits = some digits := by
  have hnone : delimitedDigits digits = none := by
    match digits, hlen with
    | a :: b :: c :: rest, _ =>
        have hc : isHexDigit c = true := hhex c (by simp)
        have hsep : (decide (c = ':') || decide (c = '-')) = false := by
          have hcolon : c ≠ ':' := by
            rintro rfl
            exact absurd hc (by decide)
          have hhyphen : c ≠ '-' := by
            rintro rfl
            exact absurd hc (by decide)
          simp [hcolon, hhyphen]
        cases rest with
        | nil => simp at *
        | cons d rest => simp [delimitedDigits, hsep]
  have hall : digits.all isHexDigit = true := List.all_eq_true.mpr hhex
  simp only [compactMac, hnone, hall, hlen, decide_true, Bool.and_self, if_true]

theorem compactMac_joinPairs {sep : Char} (hsep : sep = ':' ∨ sep = '-') {digits : List Char}
    (hlen : digits.length = 12) (hhex : ∀ c ∈ digits, isHexDigit c = true) :
    compactMac (joinPairs sep digits) = some digits := by
  rw [compactMac, delimitedDigits_joinPairs hsep (pairs_of_length_eq_twelve hlen) hhex]
  exact if_pos hlen

theorem delimitedDigits_hex {text digits : List Char} (h : delimitedDigits text = some digits) :
    ∀ c ∈ digits, isHexDigit c = true := by
  fun_induction delimitedDigits text generalizing digits with
  | case1 a b hab =>
      cases h
      simpa using hab
  | case2 => cases h
  | case3 a b sep rest hcond ih =>
      obtain ⟨tail, htail, rfl⟩ := Option.map_eq_some_iff.mp h
      simp only [Bool.and_eq_true] at hcond
      intro c hc
      rcases List.mem_cons.mp hc with rfl | hc
      · exact hcond.1.1
      rcases List.mem_cons.mp hc with rfl | hc
      · exact hcond.1.2
      · exact ih htail c hc
  | case4 => cases h
  | case5 => cases h

theorem compactMac_digits {candidate digits : List Char} (h : compactMac candidate = some digits) :
    digits.length = 12 ∧ ∀ c ∈ digits, isHexDigit c = true := by
  rw [compactMac] at h
  split at h
  next delimited hdelimited =>
    split at h
    next hlen =>
      cases h
      exact ⟨hlen, delimitedDigits_hex hdelimited⟩
    next => cases h
  next =>
    split at h
    next hcand =>
      cases h
      simpa [and_comm] using hcand
    next => cases h

theorem map_eq_self_of_forall {f : Char → Char} {chars : List Char} (h : ∀ c ∈ chars, f c = c) :
    chars.map f = chars :=
  (List.map_congr_left h).trans (List.map_id chars)

/-- The lowercase, colon-delimited rendering of twelve hexadecimal digits. -/
def IsCanonicalMac (value : String) : Prop :=
  ∃ digits : List Char, digits.length = 12 ∧ (∀ c ∈ digits, c ∈ lowerHexDigits) ∧
    value = String.ofList (joinPairs ':' digits)

theorem canonicalizeMacAddress_isCanonical {value : Option String} {canonical : String}
    (h : canonicalizeMacAddress value = some canonical) : IsCanonicalMac canonical := by
  cases value with
  | none => cases h
  | some value =>
      obtain ⟨compact, hcompact, rfl⟩ := Option.map_eq_some_iff.mp h
      obtain ⟨hlen, hhex⟩ := compactMac_digits hcompact
      refine ⟨compact.map Char.toLower, by rw [List.length_map, hlen], ?_, rfl⟩
      intro c hc
      obtain ⟨d, hd, rfl⟩ := List.mem_map.mp hc
      exact toLower_mem_lowerHex (hhex d hd)

/-- A joined text consists of its digits and its separators. -/
theorem mem_joinPairs {sep x : Char} {digits : List Char} (h : Pairs digits)
    (hx : x ∈ joinPairs sep digits) : x = sep ∨ x ∈ digits := by
  induction h with
  | single a b => exact .inr hx
  | cons a b h ih =>
      rw [joinPairs_cons h] at hx
      simp only [List.mem_cons] at hx ⊢
      rcases hx with rfl | rfl | rfl | hx
      · exact .inr (.inl rfl)
      · exact .inr (.inr (.inl rfl))
      · exact .inl rfl
      · exact (ih hx).imp id fun hx => .inr (.inr hx)

theorem map_joinPairs (f : Char → Char) (sep : Char) {digits : List Char} (h : Pairs digits) :
    (joinPairs sep digits).map f = joinPairs (f sep) (digits.map f) := by
  induction h with
  | single a b => rfl
  | cons a b h ih =>
      rw [joinPairs_cons h, List.map_cons, List.map_cons, List.map_cons, List.map_cons, List.map_cons,
        joinPairs_cons (h.map f), ih]

theorem filter_joinPairs {sep : Char} {digits : List Char} (h : Pairs digits)
    (hne : ∀ c ∈ digits, c ≠ sep) : (joinPairs sep digits).filter (· ≠ sep) = digits := by
  induction h with
  | single a b => simpa [joinPairs, List.filter_eq_self] using hne
  | cons a b h ih =>
      simp only [List.mem_cons, forall_eq_or_imp] at hne
      rw [joinPairs_cons h, List.filter_cons_of_pos (by simpa using hne.1),
        List.filter_cons_of_pos (by simpa using hne.2.1), List.filter_cons_of_neg (by simp),
        ih hne.2.2]

/-- Every spelling of the same digits, in either case and with any separators, reads as the canonical
address of those digits. -/
theorem canonicalizeMacAddress_spelling {digits spelled text : List Char} (hlen : digits.length = 12)
    (hlower : ∀ c ∈ digits, c ∈ lowerHexDigits)
    (hspelled : spelled = digits ∨ spelled = digits.map Char.toUpper)
    (htext : text = spelled ∨ ∃ sep, (sep = ':' ∨ sep = '-') ∧ text = joinPairs sep spelled) :
    canonicalizeMacAddress (some (String.ofList text)) =
      some (String.ofList (joinPairs ':' digits)) := by
  have hslen : spelled.length = 12 := by
    rcases hspelled with rfl | rfl
    · exact hlen
    · rw [List.length_map, hlen]
  have hshex : ∀ c ∈ spelled, isHexDigit c = true ∧ isSpace c = false := by
    rcases hspelled with rfl | rfl
    · intro c hc
      have := lowerHex_cases (hlower c hc)
      exact ⟨this.1, this.2.2.2.2.2.2.1⟩
    · intro c hc
      obtain ⟨d, hd, rfl⟩ := List.mem_map.mp hc
      have := lowerHex_cases (hlower d hd)
      exact ⟨this.2.1, this.2.2.2.2.2.2.2⟩
  have hslower : spelled.map Char.toLower = digits := by
    rcases hspelled with rfl | rfl
    · exact map_eq_self_of_forall fun c hc => (lowerHex_cases (hlower c hc)).2.2.1
    · rw [List.map_map]
      exact map_eq_self_of_forall fun c hc => (lowerHex_cases (hlower c hc)).2.2.2.1
  have hcompact : stripChars text = text ∧ compactMac text = some spelled := by
    rcases htext with rfl | ⟨sep, hsep, rfl⟩
    · exact ⟨stripChars_of_forall fun c hc => (hshex c hc).2,
        compactMac_of_compact hslen fun c hc => (hshex c hc).1⟩
    · refine ⟨stripChars_of_forall fun c hc => ?_,
        compactMac_joinPairs hsep hslen fun c hc => (hshex c hc).1⟩
      rcases mem_joinPairs (pairs_of_length_eq_twelve hslen) hc with rfl | hc
      · rcases hsep with rfl | rfl <;> decide
      · exact (hshex c hc).2
  rw [canonicalizeMacAddress, String.toList_ofList, hcompact.1, hcompact.2, Option.map_some, hslower]

theorem canonicalizeMacAddress_of_isCanonical {canonical : String} (h : IsCanonicalMac canonical) :
    canonicalizeMacAddress (some canonical) = some canonical := by
  obtain ⟨digits, hlen, hlower, rfl⟩ := h
  exact canonicalizeMacAddress_spelling hlen hlower (.inl rfl) (.inr ⟨':', .inl rfl, rfl⟩)

/-- The queried spellings of a canonical address, written from its digits. -/
theorem macAddressQueryVariants_eq {digits : List Char} (hlen : digits.length = 12)
    (hlower : ∀ c ∈ digits, c ∈ lowerHexDigits) :
    macAddressQueryVariants (String.ofList (joinPairs ':' digits)) =
      [joinPairs ':' digits, joinPairs ':' (digits.map Char.toUpper), joinPairs '-' digits,
        joinPairs '-' (digits.map Char.toUpper), digits,
        digits.map Char.toUpper].map String.ofList := by
  have hpairs := pairs_of_length_eq_twelve hlen
  have hcolon : ∀ c ∈ digits, c ≠ ':' := fun c hc => (lowerHex_cases (hlower c hc)).2.2.2.2.1
  have hhyphen : (joinPairs ':' digits).map (fun c => if c = ':' then '-' else c) =
      joinPairs '-' digits := by
    rw [map_joinPairs _ _ hpairs, if_pos rfl]
    rw [map_eq_self_of_forall fun c hc => if_neg (hcolon c hc)]
  simp only [macAddressQueryVariants,
    canonicalizeMacAddress_of_isCanonical ⟨digits, hlen, hlower, rfl⟩, String.toList_ofList, hhyphen,
    filter_joinPairs hpairs hcolon, map_joinPairs _ _ hpairs]
  rfl

/-- Every queried spelling stands for the address it was derived from. -/
theorem canonicalizeMacAddress_of_mem_variants {canonical spelling : String}
    (hcanonical : IsCanonicalMac canonical)
    (h : spelling ∈ macAddressQueryVariants canonical) :
    canonicalizeMacAddress (some spelling) = some canonical := by
  obtain ⟨digits, hlen, hlower, rfl⟩ := hcanonical
  rw [macAddressQueryVariants_eq hlen hlower] at h
  simp only [List.map_cons, List.map_nil, List.mem_cons, List.not_mem_nil, or_false] at h
  rcases h with rfl | rfl | rfl | rfl | rfl | rfl
  · exact canonicalizeMacAddress_spelling hlen hlower (.inl rfl) (.inr ⟨':', .inl rfl, rfl⟩)
  · exact canonicalizeMacAddress_spelling hlen hlower (.inr rfl) (.inr ⟨':', .inl rfl, rfl⟩)
  · exact canonicalizeMacAddress_spelling hlen hlower (.inl rfl) (.inr ⟨'-', .inr rfl, rfl⟩)
  · exact canonicalizeMacAddress_spelling hlen hlower (.inr rfl) (.inr ⟨'-', .inr rfl, rfl⟩)
  · exact canonicalizeMacAddress_spelling hlen hlower (.inl rfl) (.inl rfl)
  · exact canonicalizeMacAddress_spelling hlen hlower (.inr rfl) (.inl rfl)

theorem IsCanonicalMac.ne_empty {canonical : String} (h : IsCanonicalMac canonical) :
    canonical ≠ "" := by
  obtain ⟨digits, hlen, -, rfl⟩ := h
  intro hempty
  have hnil := congrArg String.toList hempty
  rw [String.toList_ofList] at hnil
  exact joinPairs_ne_nil ':' (pairs_of_length_eq_twelve hlen) hnil

theorem IsCanonicalMac.trim_eq {canonical : String} (h : IsCanonicalMac canonical) :
    trim canonical = canonical := by
  obtain ⟨digits, hlen, hlower, rfl⟩ := h
  have hplain : ∀ c ∈ joinPairs ':' digits, isWhiteSpace c = false := by
    intro c hc
    rcases mem_joinPairs (pairs_of_length_eq_twelve hlen) hc with rfl | hc
    · decide
    · rw [isWhiteSpace, (lowerHex_cases (hlower c hc)).2.2.2.2.2.2.1, Bool.false_and]
  rw [trim, String.toList_ofList, stripBy_eq_self]
  · intro c hc
    exact hplain c (List.mem_of_mem_head? (by rw [hc]; rfl))
  · intro c hc
    exact hplain c (List.mem_of_getLast? hc)

theorem mem_variants_self {canonical : String} (h : IsCanonicalMac canonical) :
    canonical ∈ macAddressQueryVariants canonical := by
  obtain ⟨digits, hlen, hlower, rfl⟩ := h
  rw [macAddressQueryVariants_eq hlen hlower]
  exact List.mem_cons_self

example : canonicalizeMacAddress (some " AA-bb-0C-dd-EE-ff ") = some "aa:bb:0c:dd:ee:ff" := by
  decide +kernel

end Micboard
