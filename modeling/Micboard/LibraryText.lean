import Mathlib.Data.List.Basic
import Mathlib.Data.List.TakeWhile

/-! Text operations of the Python standard library on which the program relies: `str.strip`,
`str.lower` and `str.upper` on ASCII letters, `str.split` and `str.join`, decimal and hexadecimal
numerals. Text is read as its list of characters. -/

namespace Library.Text

/-- The characters `str.isspace` accepts, which `str.strip` removes at both ends. -/
def isSpace (c : Char) : Bool :=
  let n := c.toNat
  (9 ≤ n && n ≤ 13) || (28 ≤ n && n ≤ 32) || n == 0x85 || n == 0xA0 || n == 0x1680 ||
    (0x2000 ≤ n && n ≤ 0x200A) || n == 0x2028 || n == 0x2029 || n == 0x202F || n == 0x205F ||
    n == 0x3000

/-- The Unicode white space that a validated text field is stripped of; the separator controls, which
`str.strip` also removes, are not among it. -/
def isWhiteSpace (c : Char) : Bool := isSpace c && !(28 ≤ c.toNat && c.toNat ≤ 31)

/-- The text without the characters of a class at its two ends. -/
def stripBy (p : Char → Bool) (chars : List Char) : List Char :=
  ((chars.dropWhile p).reverse.dropWhile p).reverse

def stripChars (chars : List Char) : List Char := stripBy isSpace chars

/-- `str.strip()`. -/
def strip (text : String) : String := String.ofList (stripChars text.toList)

/-- The text as a validated field keeps it. -/
def trim (text : String) : String := String.ofList (stripBy isWhiteSpace text.toList)

theorem dropWhile_of_forall {p : Char → Bool} {chars : List Char} (h : ∀ c ∈ chars, p c = false) :
    chars.dropWhile p = chars := by
  cases chars with
  | nil => rfl
  | cons c rest => rw [List.dropWhile_cons_of_neg (by simp [h c List.mem_cons_self])]

/-- Text without white space is left as it is. -/
theorem stripChars_of_forall {chars : List Char} (h : ∀ c ∈ chars, isSpace c = false) :
    stripChars chars = chars := by
  rw [stripChars, stripBy, dropWhile_of_forall h, dropWhile_of_forall, List.reverse_reverse]
  intro c hc
  exact h c (List.mem_reverse.mp hc)

/-- The first and the last character decide whether anything is stripped. -/
theorem stripBy_eq_self {p : Char → Bool} {chars : List Char}
    (hhead : ∀ c, chars.head? = some c → p c = false)
    (hlast : ∀ c, chars.getLast? = some c → p c = false) : stripBy p chars = chars := by
  have hdrop : ∀ xs : List Char, (∀ c, xs.head? = some c → p c = false) → xs.dropWhile p = xs := by
    intro xs hxs
    cases xs with
    | nil => rfl
    | cons x rest => rw [List.dropWhile_cons_of_neg (by simp [hxs x rfl])]
  rw [stripBy, hdrop chars hhead, hdrop, List.reverse_reverse]
  intro c hc
  exact hlast c (by rwa [List.head?_reverse] at hc)

theorem head_dropWhile {p : Char → Bool} {chars : List Char} {c : Char}
    (h : (chars.dropWhile p).head? = some c) : p c = false := by
  have hne : chars.dropWhile p ≠ [] := by
    intro hnil
    rw [hnil] at h
    cases h
  have hhead := List.head_dropWhile_not p hne
  rw [List.head?_eq_some_head hne, Option.some.injEq] at h
  rw [← h]
  exact hhead

/-- What is left by stripping neither starts nor ends with a stripped character. -/
theorem stripBy_ends {p : Char → Bool} (chars : List Char) :
    (∀ c, (stripBy p chars).head? = some c → p c = false) ∧
      ∀ c, (stripBy p chars).getLast? = some c → p c = false := by
  have hlast : ∀ c, (stripBy p chars).getLast? = some c → p c = false := by
    intro c hc
    rw [stripBy, List.getLast?_reverse] at hc
    exact head_dropWhile hc
  refine ⟨fun c hc => ?_, hlast⟩
  rw [stripBy, List.head?_reverse] at hc
  have hsuffix := List.dropWhile_suffix p (l := (chars.dropWhile p).reverse)
  obtain ⟨front, hfront⟩ := hsuffix
  have hend : (chars.dropWhile p).head? = some c := by
    rw [← List.getLast?_reverse, ← hfront, List.getLast?_append, hc]
    rfl
  exact head_dropWhile hend

theorem trim_trim (text : String) : trim (trim text) = trim text := by
  rw [trim, trim, String.toList_ofList, stripBy_eq_self (stripBy_ends _).1 (stripBy_ends _).2]

theorem strip_strip (text : String) : strip (strip text) = strip text := by
  rw [strip, strip, String.toList_ofList, stripChars, stripChars,
    stripBy_eq_self (stripBy_ends _).1 (stripBy_ends _).2]

theorem trim_strip (text : String) : trim (strip text) = strip text := by
  have hspace : ∀ c, isSpace c = false → isWhiteSpace c = false := by
    intro c hc
    rw [isWhiteSpace, hc, Bool.false_and]
  have hends := stripBy_ends (p := isSpace) text.toList
  rw [trim, strip, String.toList_ofList, stripChars,
    stripBy_eq_self (fun c hc => hspace c (hends.1 c hc)) fun c hc => hspace c (hends.2 c hc)]

theorem trim_of_forall {text : String} (h : ∀ c ∈ text.toList, isWhiteSpace c = false) :
    trim text = text := by
  have hends : stripBy isWhiteSpace text.toList = text.toList :=
    stripBy_eq_self (fun c hc => h c (List.mem_of_mem_head? hc))
      fun c hc => h c (List.mem_of_getLast? hc)
  rw [trim, hends, String.ofList_toList]

/-- A trimmed text after one that starts with no white space. -/
theorem trim_append {front back : String} {c : Char} (hfront : front.toList.head? = some c)
    (hc : isWhiteSpace c = false) (hne : back ≠ "") (hback : trim back = back) :
    trim (front ++ back) = front ++ back := by
  have hchars : stripBy isWhiteSpace back.toList = back.toList := by
    rw [← String.toList_ofList (l := stripBy isWhiteSpace back.toList)]
    exact congrArg String.toList hback
  have hnonempty : back.toList ≠ [] := by
    intro hnil
    exact hne (String.toList_eq_nil_iff.mp hnil)
  have hends : stripBy isWhiteSpace (front ++ back).toList = (front ++ back).toList := by
    rw [String.toList_append]
    apply stripBy_eq_self
    · intro other hother
      rw [List.head?_append, hfront, Option.some_or, Option.some.injEq] at hother
      rw [← hother]
      exact hc
    · intro other hother
      rw [List.getLast?_append_of_ne_nil _ hnonempty] at hother
      rw [← hchars] at hother
      exact (stripBy_ends back.toList).2 other hother
  rw [trim, hends, String.ofList_toList]

/-- Nothing is left of a text exactly when all of it is stripped. -/
theorem stripBy_eq_nil {p : Char → Bool} {chars : List Char} :
    stripBy p chars = [] ↔ ∀ c ∈ chars, p c = true := by
  rw [stripBy, List.reverse_eq_nil_iff, List.dropWhile_eq_nil_iff]
  constructor
  · intro h
    have hnil : chars.dropWhile p = [] := by
      by_contra hne
      have hhead := List.head_dropWhile_not p hne
      rw [h _ (List.mem_reverse.mpr (List.head_mem hne))] at hhead
      cases hhead
    exact List.dropWhile_eq_nil_iff.mp hnil
  · intro h c hc
    exact h c ((List.dropWhile_suffix p).subset (List.mem_reverse.mp hc))

/-- Of a text that the validation leaves nothing of, `str.strip` leaves nothing either. -/
theorem strip_eq_empty_of_trim {text : String} (h : trim text = "") : strip text = "" := by
  have hnil : stripBy isWhiteSpace text.toList = [] := by
    have hlist := congrArg String.toList h
    rwa [trim, String.toList_ofList] at hlist
  have hspace : stripBy isSpace text.toList = [] := by
    rw [stripBy_eq_nil] at hnil ⊢
    intro c hc
    have hwhite := hnil c hc
    rw [isWhiteSpace, Bool.and_eq_true] at hwhite
    exact hwhite.1
  rw [strip, stripChars, hspace]

theorem isSpace_of_trim {text : String} (h : trim text = "") : ∀ c ∈ text.toList, isSpace c = true := by
  have hstrip := congrArg String.toList (strip_eq_empty_of_trim h)
  rw [strip, String.toList_ofList] at hstrip
  exact stripBy_eq_nil.mp hstrip

@[simp] theorem strip_empty : strip "" = "" := by decide

@[simp] theorem trim_empty : trim "" = "" := by decide

/-- `sep.join(parts)`. -/
def join (sep : Char) (parts : List (List Char)) : List Char := [sep].intercalate parts

/-- `part in text`. -/
def containsText (text part : List Char) : Bool := text.tails.any fun rest => part.isPrefixOf rest

def isDigit (c : Char) : Bool := '0' ≤ c && c ≤ '9'

def digitValue (c : Char) : Nat := c.toNat - '0'.toNat

/-- The zeros of the decimal digits of Unicode 15.1; the nine other digits follow each of them. -/
def decimalZeros : List Nat :=
  [0x30, 0x660, 0x6F0, 0x7C0, 0x966, 0x9E6, 0xA66, 0xAE6, 0xB66, 0xBE6, 0xC66, 0xCE6, 0xD66, 0xDE6,
    0xE50, 0xED0, 0xF20, 0x1040, 0x1090, 0x17E0, 0x1810, 0x1946, 0x19D0, 0x1A80, 0x1A90, 0x1B50,
    0x1BB0, 0x1C40, 0x1C50, 0xA620, 0xA8D0, 0xA900, 0xA9D0, 0xA9F0, 0xAA50, 0xABF0, 0xFF10,
    0x104A0, 0x10D30, 0x11066, 0x110F0, 0x11136, 0x111D0, 0x112F0, 0x11450, 0x114D0, 0x11650,
    0x116C0, 0x11730, 0x118E0, 0x11950, 0x11C50, 0x11D50, 0x11DA0, 0x11F50, 0x16A60, 0x16AC0,
    0x16B50, 0x1D7CE, 0x1D7D8, 0x1D7E2, 0x1D7EC, 0x1D7F6, 0x1E140, 0x1E2F0, 0x1E4F0, 0x1E950,
    0x1FBF0]

/-- A decimal digit of any script as its ASCII digit, any other character as it is. -/
def asciiDecimal (c : Char) : Char :=
  match decimalZeros.find? fun first => first ≤ c.toNat && c.toNat < first + 10 with
  | some first => Char.ofNat ('0'.toNat + (c.toNat - first))
  | none => c

/-- `int(text)` for a text of ASCII digits. -/
def decimalValue (digits : List Char) : Nat :=
  digits.foldl (fun value c => 10 * value + digitValue c) 0

def decimal (n : Nat) : List Char := Nat.toDigits 10 n

def isHexDigit (c : Char) : Bool :=
  isDigit c || ('a' ≤ c && c ≤ 'f') || ('A' ≤ c && c ≤ 'F')

def hexDigitValue (c : Char) : Nat :=
  if isDigit c then digitValue c
  else if 'a' ≤ c then c.toNat - 'a'.toNat + 10
  else c.toNat - 'A'.toNat + 10

theorem isHexDigit_toNat {c : Char} (hc : isHexDigit c = true) :
    (48 ≤ c.toNat ∧ c.toNat ≤ 57) ∨ (97 ≤ c.toNat ∧ c.toNat ≤ 102) ∨
      (65 ≤ c.toNat ∧ c.toNat ≤ 70) := by
  simp only [isHexDigit, isDigit, Bool.or_eq_true, Bool.and_eq_true, decide_eq_true_eq,
    Char.le_def, UInt32.le_iff_toNat_le] at hc
  have h0 : ('0' : Char).val.toNat = 48 := rfl
  have h9 : ('9' : Char).val.toNat = 57 := rfl
  have ha : ('a' : Char).val.toNat = 97 := rfl
  have hf : ('f' : Char).val.toNat = 102 := rfl
  have hA : ('A' : Char).val.toNat = 65 := rfl
  have hF : ('F' : Char).val.toNat = 70 := rfl
  have hcv : c.toNat = c.val.toNat := rfl
  omega

theorem hexDigitValue_lt {c : Char} (hc : isHexDigit c = true) : hexDigitValue c < 16 := by
  have hall : ∀ n < 103, isHexDigit (Char.ofNat n) = true → hexDigitValue (Char.ofNat n) < 16 := by
    decide +kernel
  have hlt : c.toNat < 103 := by
    have := isHexDigit_toNat hc
    omega
  have hcn : Char.ofNat c.toNat = c := Char.ofNat_toNat c
  rw [← hcn]
  exact hall _ hlt (by rw [hcn]; exact hc)

/-- `int(text, 16)` for a text of hexadecimal digits. -/
def hexValue (digits : List Char) : Nat :=
  digits.foldl (fun value c => 16 * value + hexDigitValue c) 0

/-- `'%x' % n`. -/
def hexadecimal (n : Nat) : List Char := Nat.toDigits 16 n

end Library.Text
