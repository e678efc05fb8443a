import Micboard.DeviceSpecs

/-! The registry of band plans, and the ways in which a plan is found: by its key, by the text that
a vendor sends for a frequency band, and by the band code in the name of a model. A plan is known by
its key but found by its label, which also states its range. A missing argument is the empty text
throughout. -/

namespace Micboard

open Library Library.Text

/-- The zeros of the decimal digits of Unicode; the nine other digits follow each of them. -/
def decimalZeros : List Nat :=
  [
    0x30, 0x660, 0x6f0, 0x7c0, 0x966, 0x9e6, 0xa66, 0xae6, 0xb66, 0xbe6, 0xc66, 0xce6, 0xd66, 0xde6,
    0xe50, 0xed0, 0xf20, 0x1040, 0x1090, 0x17e0, 0x1810, 0x1946, 0x19d0, 0x1a80, 0x1a90, 0x1b50, 0x1bb0,
    0x1c40, 0x1c50, 0xa620, 0xa8d0, 0xa900, 0xa9d0, 0xa9f0, 0xaa50, 0xabf0, 0xff10, 0x104a0, 0x10d30,
    0x11066, 0x110f0, 0x11136, 0x111d0, 0x112f0, 0x11450, 0x114d0, 0x11650, 0x116c0, 0x11730, 0x118e0,
    0x11950, 0x11c50, 0x11d50, 0x11da0, 0x11f50, 0x16a60, 0x16ac0, 0x16b50, 0x1d7ce, 0x1d7d8, 0x1d7e2,
    0x1d7ec, 0x1d7f6, 0x1e140, 0x1e2f0, 0x1e4f0, 0x1e950, 0x1fbf0]

/-- `re.match(r"\d", c)`. -/
def isDecimalDigit (c : Char) : Bool :=
  decimalZeros.any fun start => start ≤ c.toNat && c.toNat < start + 10

def decimalDigitValue (c : Char) : Nat :=
  ((decimalZeros.find? fun start => start ≤ c.toNat && c.toNat < start + 10).map fun start =>
    c.toNat - start).getD 0

/-- The number with these digits before and after the point. -/
def decimalNumber (whole fraction : List Char) : ℚ :=
  ((whole ++ fraction).foldl (fun value c => 10 * value + decimalDigitValue c) 0 : Nat) / 10
    ^ fraction.length

/-- The greatest `n` with `2 ^ n ≤ value`, for a positive value. -/
def binaryExponent (value : ℚ) : ℤ :=
  let exponent : ℤ := value.num.natAbs.log2 - value.den.log2
  if 2 ^ exponent ≤ value then exponent else exponent - 1

/-- The double nearest to a nonnegative number, and of two the even one. -/
def nearestFloat (value : ℚ) : Frequency :=
  if value = 0 then ((0 : ℚ) : Frequency)
  else
    let unit : ℚ := 2 ^ max (binaryExponent value - 52) (-1074)
    let whole := ⌊value / unit⌋
    let rest := value / unit - whole
    let rounded := if rest < 1 / 2 ∨ (rest = 1 / 2 ∧ whole % 2 = 0) then whole else whole + 1
    if 2 ^ 1024 ≤ rounded * unit then ⊤ else ((rounded * unit : ℚ) : Frequency)

/-- A plan of `fixtures/band_plans.yaml`. -/
structure BandPlan where
  name : String
  minMhz : ℚ
  maxMhz : ℚ
  deriving DecidableEq, Repr

def bandPlanSpecifications : List (String × List (String × BandPlan)) :=
  [("shure", [
      ("g50", ⟨"G50 (470-534 MHz)", 470, 534⟩),
      ("h50", ⟨"H50 (534-598 MHz)", 534, 598⟩),
      ("j50", ⟨"J50 (572-636 MHz)", 572, 636⟩),
      ("l50", ⟨"L50 (632-696 MHz)", 632, 696⟩),
      ("x52", ⟨"X52 (902-928 MHz)", 902, 928⟩),
      ("z16", ⟨"Z16 (1.24-1.26 GHz)", 1240, 1260⟩)]),
    ("sennheiser", [
      ("aw_plus", ⟨"Aw+ (470-558 MHz)", 470, 558⟩),
      ("bw", ⟨"Bw (626-698 MHz)", 626, 698⟩),
      ("gw", ⟨"Gw (558-626 MHz)", 558, 626⟩),
      ("a", ⟨"A (516-558 MHz)", 516, 558⟩),
      ("g", ⟨"G (566-608 MHz)", 566, 608⟩),
      ("b", ⟨"B (626-668 MHz)", 626, 668⟩)]),
    ("wisycom", [
      ("b1", ⟨"B1 (470-663 MHz)", 470, 663⟩),
      ("b2", ⟨"B2 (470-800 MHz)", 470, 800⟩)])]

def BandPlan.Registered (plan : BandPlan) : Prop :=
  ∃ plans ∈ bandPlanSpecifications, ∃ key, (key, plan) ∈ plans.2

/-- `text.lower().replace(" ", "_").replace("-", "_")`. -/
def underscored (text : String) : String :=
  String.ofList ((lowerText text).toList.map fun c => if c = ' ' ∨ c = '-' then '_' else c)

/-- Look up band plan specifications by manufacturer and band plan key. -/
def getBandPlan (manufacturer bandPlanKey : String) : Option BandPlan :=
  if manufacturer = "" ∨ bandPlanKey = "" then none
  else (registered bandPlanSpecifications (lowerText manufacturer)).bind fun plans =>
    registered plans (underscored bandPlanKey)

/-- `\d+(?:\.\d+)?` at the start of a text: the value and the rest. -/
def matchNumber (text : List Char) : Option (Frequency × List Char) :=
  let whole := text.takeWhile isDecimalDigit
  let rest := text.dropWhile isDecimalDigit
  if whole = [] then none
  else
    match rest with
    | '.' :: tail =>
      let fraction := tail.takeWhile isDecimalDigit
      if fraction = [] then some (nearestFloat (decimalNumber whole []), rest)
      else some (nearestFloat (decimalNumber whole fraction), tail.dropWhile isDecimalDigit)
    | _ => some (nearestFloat (decimalNumber whole []), rest)

/-- `(\d+(?:\.\d+)?)\s*-\s*(\d+(?:\.\d+)?)` at the start of a text: the two values and the rest. -/
def matchRange (text : List Char) : Option ((Frequency × Frequency) × List Char) := do
  let (low, rest) ← matchNumber text
  match rest.dropWhile isSpace with
  | '-' :: rest =>
    let (high, rest) ← matchNumber (rest.dropWhile isSpace)
    some ((low, high), rest)
  | _ => none

/-- `\s*MHz` at the start of a text, in any case. -/
def matchUnit (text : List Char) : Bool :=
  "mhz".toList.isPrefixOf ((text.dropWhile isSpace).flatMap lowerChar)

/-- Parse frequency range from a band plan name string: the first range with its unit. -/
def parseBandPlanFromName (name : String) : Option (Frequency × Frequency) :=
  name.toList.tails.findSome? fun text => do
    let (range, rest) ← matchRange text
    if matchUnit rest then some range else none

def normalizeBandKey (value : String) : String :=
  String.ofList ((underscored value).toList.filter fun c => c ≠ '(' ∧ c ≠ ')')

/-- `[a-zA-Z0-9]`. -/
def isBandCodeChar (c : Char) : Bool :=
  isDigit c || ('a' ≤ c && c ≤ 'z') || ('A' ≤ c && c ≤ 'Z')

/-- `_extract_band_code`: empty where the text does not start with one. -/
def extractBandCode (value : String) : String :=
  lowerText (String.ofList (value.toList.takeWhile isBandCodeChar))

def extractFreqRange (value : String) : Option (Frequency × Frequency) :=
  value.toList.tails.findSome? fun text => (matchRange text).map Prod.fst

def findPlanByCode (bandPlans : List (String × BandPlan)) (apiBandValue : String) : Option String :=
  let code := extractBandCode apiBandValue
  if code = "" then none
  else (bandPlans.find? fun entry => code.toList.isPrefixOf entry.1.toList).map
    fun entry => entry.2.name

def findPlanByFrequencyRange (bandPlans : List (String × BandPlan))
    (apiBandValue : String) : Option String :=
  (extractFreqRange apiBandValue).bind fun (apiMin, apiMax) =>
    (bandPlans.find? fun entry =>
      (entry.2.minMhz : Frequency) = apiMin ∧ (entry.2.maxMhz : Frequency) = apiMax).map
      fun entry => entry.2.name

def findPlanByPartialKey (bandPlans : List (String × BandPlan))
    (apiBandValue : String) : Option String :=
  let normalizedValue := (normalizeBandKey apiBandValue).toList
  (bandPlans.find? fun entry =>
      containsText entry.1.toList normalizedValue || containsText normalizedValue entry.1.toList).map
    fun entry => entry.2.name

/-- Detect and return band plan name from API frequencyBand string. -/
def detectBandPlanFromApiString (apiBandValue manufacturer : String) : Option String :=
  let apiBandValue := strip apiBandValue
  if apiBandValue = "" then none
  else
    let mfg := lowerText (if manufacturer = "" then "shure" else manufacturer)
    let bandPlans := (registered bandPlanSpecifications mfg).getD []
    match registered bandPlans (normalizeBandKey apiBandValue) with
    | some plan => some plan.name
    | none =>
      (findPlanByCode bandPlans apiBandValue).orElse fun _ =>
        (findPlanByFrequencyRange bandPlans apiBandValue).orElse fun _ =>
          findPlanByPartialKey bandPlans apiBandValue

/-- `[GHJKLBCABw]` in any case. -/
def isBandLetter (c : Char) : Bool := (lowerChar c).all fun letter => letter ∈ "ghjklbcaw".toList

/-- `([GHJKLBCABw]+\d+(?:\+)?)` at the start of a text. -/
def matchBandCode (text : List Char) : Option (List Char) :=
  let letters := text.takeWhile isBandLetter
  let rest := text.dropWhile isBandLetter
  let digits := rest.takeWhile isDecimalDigit
  if letters = [] ∨ digits = [] then none
  else
    match rest.dropWhile isDecimalDigit with
    | '+' :: _ => some (letters ++ digits ++ ['+'])
    | _ => some (letters ++ digits)

/-- `[_-]?([GHJKLBCABw]+\d+(?:\+)?)` anywhere in the model. -/
def searchBandCode (model : List Char) : Option (List Char) :=
  model.tails.findSome? fun text =>
    match text with
    | '_' :: rest | '-' :: rest => (matchBandCode rest).orElse fun _ => matchBandCode text
    | _ => matchBandCode text

/-- The first match of each pattern, in the order in which they are tried. -/
def bandCodes (model : String) : List String :=
  ([searchBandCode model.toList, matchBandCode model.toList].filterMap id).map fun code =>
    lowerText (String.ofList code)

/-- Get default band plan for a device model based on manufacturer specs. -/
def getBandPlanFromModelCode (manufacturer model : String) : Option String :=
  if manufacturer = "" ∨ model = "" then none
  else (bandCodes model).findSome? fun bandCode => detectBandPlanFromApiString bandCode manufacturer

end Micboard
