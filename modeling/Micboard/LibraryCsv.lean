import Mathlib.Tactic

/-! Delimited text whose fields are quoted where they need it. The writer doubles the quotes of a
quoted field; the reader is a machine over the characters, which takes any of the three spellings of
the end of a line. What is read back from written rows are these rows, whatever their fields hold.
-/

namespace Library.Csv

/-- The characters with a meaning. -/
structure Dialect (α : Type*) where
  delimiter : α
  quote : α
  cr : α
  lf : α
  distinct : [delimiter, quote, cr, lf].Nodup

section Distinct

variable {α : Type*} (dialect : Dialect α)

theorem Dialect.delimiter_ne_cr : dialect.delimiter ≠ dialect.cr := fun h => by
  simpa [h] using dialect.distinct

theorem Dialect.delimiter_ne_lf : dialect.delimiter ≠ dialect.lf := fun h => by
  simpa [h] using dialect.distinct

theorem Dialect.delimiter_ne_quote : dialect.delimiter ≠ dialect.quote := fun h => by
  simpa [h] using dialect.distinct

theorem Dialect.cr_ne_quote : dialect.cr ≠ dialect.quote := fun h => by
  simpa [h] using dialect.distinct

theorem Dialect.quote_ne_lf : dialect.quote ≠ dialect.lf := fun h => by
  simpa [h] using dialect.distinct

end Distinct

section Writer

variable {α : Type*} [DecidableEq α] (dialect : Dialect α)

def special (c : α) : Bool :=
  c = dialect.delimiter || c = dialect.quote || c = dialect.cr || c = dialect.lf

def escape (field : List α) : List α :=
  field.flatMap fun c => if c = dialect.quote then [dialect.quote, dialect.quote] else [c]

/-- A field is quoted only if it holds a character with a meaning. -/
def writeField (field : List α) : List α :=
  if field.any (special dialect) then dialect.quote ::
    (escape dialect field ++ [dialect.quote]) else field

/-- A row of one empty field is quoted, as it would be an empty line. -/
def writeRow (row : List (List α)) : List α :=
  (if row = [[]] then [dialect.quote, dialect.quote] else [dialect.delimiter].intercalate
    (row.map (writeField dialect))) ++
    [dialect.cr, dialect.lf]

def writeRows (rows : List (List (List α))) : List α := rows.flatMap (writeRow dialect)

end Writer

/-- Where the reader stands: `afterCr` is behind a `cr` that ended a row, to which an `lf` still
belongs. -/
inductive Mode where
  | startRecord | startField | inField | inQuotedField | quoteInQuotedField | afterCr
  deriving DecidableEq

/-- The rows that were read, and the fields of the row at hand. -/
structure Reader (α : Type*) where
  rows : List (List (List α)) := []
  fields : List (List α) := []
  field : List α := []
  mode : Mode := .startRecord

namespace Reader

variable {α : Type*} [DecidableEq α] (dialect : Dialect α)

def saveField (reader : Reader α) (mode : Mode) : Reader α :=
  { reader with fields := reader.fields ++ [reader.field], field := [], mode }

def saveRow (reader : Reader α) (mode : Mode) : Reader α :=
  { rows := reader.rows ++ [reader.fields], fields := [], field := [], mode }

def addChar (reader : Reader α) (c : α) (mode : Mode) : Reader α :=
  { reader with field := reader.field ++ [c], mode }

/-- A character outside quotes. -/
def unquoted (reader : Reader α) (c : α) : Reader α :=
  if c = dialect.cr then (reader.saveField .inField).saveRow .afterCr
  else if c = dialect.lf then (reader.saveField .inField).saveRow .startRecord
  else if c = dialect.delimiter then reader.saveField .startField
  else reader.addChar c .inField

def firstOfField (reader : Reader α) (c : α) : Reader α :=
  if c = dialect.quote then { reader with mode := .inQuotedField } else unquoted dialect reader c

/-- The first character of a row: an empty line is a row without fields. -/
def firstOfRecord (reader : Reader α) (c : α) : Reader α :=
  if c = dialect.cr then reader.saveRow .afterCr
  else if c = dialect.lf then reader.saveRow .startRecord
  else firstOfField dialect reader c

def step (reader : Reader α) (c : α) : Reader α :=
  match reader.mode with
  | .startRecord => firstOfRecord dialect reader c
  | .startField => firstOfField dialect reader c
  | .inField => unquoted dialect reader c
  | .inQuotedField => if c = dialect.quote then { reader with mode := .quoteInQuotedField } else
      reader.addChar c .inQuotedField
  | .quoteInQuotedField =>
      if c = dialect.quote then reader.addChar c .inQuotedField else unquoted dialect reader c
  | .afterCr => if c = dialect.lf then
    { reader with mode := .startRecord } else firstOfRecord dialect reader c

def run (reader : Reader α) (text : List α) : Reader α := text.foldl (step dialect) reader

/-- The rows at the end of the text, of which the last one need not be ended. -/
def finish (reader : Reader α) : List (List (List α)) :=
  match reader.mode with
  | .startRecord | .afterCr => reader.rows
  | .startField | .inField | .inQuotedField | .quoteInQuotedField =>
      reader.rows ++ [reader.fields ++ [reader.field]]

end Reader

def readRows {α : Type*} [DecidableEq α] (dialect : Dialect α) (text : List α) : List (List (List α)) :=
  (Reader.run dialect {} text).finish

section RoundTrip

variable {α : Type*} [DecidableEq α] {dialect : Dialect α} {rows : List (List (List α))}
  {fields : List (List α)} {field part : List α} {mode : Mode}

theorem special_eq_false {c : α} (h : special dialect c = false) :
    c ≠ dialect.delimiter ∧ c ≠ dialect.quote ∧ c ≠ dialect.cr ∧ c ≠ dialect.lf := by
  simpa [special, and_assoc] using h

theorem run_append (reader : Reader α) (first second : List α) :
    reader.run dialect (first ++ second) = (reader.run dialect first).run dialect second :=
      List.foldl_append

theorem run_plain (h : ∀ c ∈ part, special dialect c = false) :
    Reader.run dialect ⟨rows, fields, field, .inField⟩ part = ⟨rows, fields,
      field ++ part, .inField⟩ := by
  induction part generalizing field with
  | nil => simp [Reader.run]
  | cons c rest ih =>
    obtain ⟨hdelimiter, -, hcr, hlf⟩ := special_eq_false (h c (by simp))
    have hstep : Reader.step dialect ⟨rows, fields, field, .inField⟩ c = ⟨rows, fields,
        field ++ [c], .inField⟩ := by
      simp [Reader.step, Reader.unquoted, Reader.addChar, hdelimiter, hcr, hlf]
    calc Reader.run dialect ⟨rows, fields, field, .inField⟩ (c :: rest)
        = Reader.run dialect ⟨rows, fields, field ++ [c], .inField⟩ rest := by rw [← hstep]; rfl
      _ = ⟨rows, fields, field ++ [c] ++ rest, .inField⟩ :=
        ih fun d hd => h d (List.mem_cons_of_mem _ hd)
      _ = ⟨rows, fields, field ++ c :: rest, .inField⟩ := by simp

/-- Within quotes everything joins the field, and a doubled quote as one. -/
theorem run_escape : Reader.run dialect ⟨rows, fields, field, .inQuotedField⟩ (escape dialect part) =
    ⟨rows, fields, field ++ part, .inQuotedField⟩ := by
  induction part generalizing field with
  | nil => simp [Reader.run, escape]
  | cons c rest ih =>
    have hchar : Reader.run dialect ⟨rows, fields, field, .inQuotedField⟩
        (if c = dialect.quote then [dialect.quote, dialect.quote] else [c]) =
          ⟨rows, fields, field ++ [c], .inQuotedField⟩ := by
      by_cases hquote : c = dialect.quote
      · simp [hquote, Reader.run, Reader.step, Reader.addChar]
      · simp [hquote, Reader.run, Reader.step, Reader.addChar]
    rw [escape, List.flatMap_cons, run_append, hchar]
    have hrest := @ih (field ++ [c])
    rw [escape] at hrest
    rw [hrest]
    simp

/-- The reader is at the first character of a field. -/
def AtField (dialect : Dialect α) (reader : Reader α) (rows : List (List (List α)))
    (fields : List (List α))
    (part : List α) : Prop :=
  reader = ⟨rows, fields, [], .startField⟩ ∨ reader = ⟨rows, fields, [], .startRecord⟩ ∧
    part.head?.any (fun c => c ≠ dialect.cr && c ≠ dialect.lf) = true

theorem AtField.step {reader : Reader α} {c : α} {rest : List α}
    (h : AtField dialect reader rows fields (c :: rest)) :
    reader.step dialect c = Reader.firstOfField dialect ⟨rows, fields, [], .startField⟩ c := by
  rcases h with rfl | ⟨rfl, hc⟩
  · rfl
  · have hchar : c ≠ dialect.cr ∧ c ≠ dialect.lf := by simpa using hc
    simp only [Reader.step, Reader.firstOfRecord, if_neg hchar.1, if_neg hchar.2, Reader.firstOfField,
      Reader.unquoted, Reader.saveField, Reader.addChar]

/-- A written field is read up to the character behind it. -/
theorem run_writeField {reader : Reader α} {next : α}
    (hnext : next = dialect.delimiter ∨ next = dialect.cr)
    (h : AtField dialect reader rows fields (writeField dialect field ++ [next])) :
    reader.run dialect (writeField dialect field ++ [next]) =
      Reader.unquoted dialect ⟨rows, fields, field, .inField⟩ next := by
  have hquote : next ≠ dialect.quote := by
    rcases hnext with rfl | rfl
    · exact dialect.delimiter_ne_quote
    · exact dialect.cr_ne_quote
  unfold writeField at h ⊢
  by_cases hspecial : field.any (special dialect) = true
  · rw [if_pos hspecial] at h ⊢
    have hfirst : reader.step dialect dialect.quote = ⟨rows, fields, [], .inQuotedField⟩ := by
      rw [AtField.step h, Reader.firstOfField, if_pos rfl]
    have hbody := @run_escape _ _ dialect rows fields [] field
    calc reader.run dialect (dialect.quote :: (escape dialect field ++ [dialect.quote]) ++ [next])
        = ((reader.step dialect dialect.quote).run dialect (escape dialect field)).run dialect
            [dialect.quote, next] := by
          rw [← run_append]
          simp [Reader.run]
      _ = Reader.run dialect ⟨rows, fields, field, .inQuotedField⟩ [dialect.quote, next] := by
          rw [hfirst, hbody, List.nil_append]
      _ = Reader.unquoted dialect ⟨rows, fields, field, .inField⟩ next := by
          simp [Reader.run, Reader.step, hquote, Reader.unquoted, Reader.saveField,
            Reader.saveRow, Reader.addChar]
  · rw [if_neg hspecial] at h ⊢
    have hplain : ∀ c ∈ field, special dialect c = false := by simpa using hspecial
    cases field with
    | nil =>
      rw [List.nil_append] at h ⊢
      have hfirst := AtField.step h
      rw [Reader.firstOfField, if_neg hquote] at hfirst
      simpa [Reader.run, Reader.unquoted, Reader.saveField, Reader.saveRow, Reader.addChar] using hfirst
    | cons c rest =>
      obtain ⟨hdelimiter, hcquote, hcr, hlf⟩ := special_eq_false (hplain c (by simp))
      have hfirst : reader.step dialect c = ⟨rows, fields, [c], .inField⟩ := by
        rw [AtField.step h]
        simp [Reader.firstOfField, Reader.unquoted, Reader.addChar, hdelimiter, hcquote, hcr, hlf]
      have hrest := @run_plain _ _ dialect rows fields [c] rest fun d hd =>
        hplain d (List.mem_cons_of_mem _ hd)
      calc reader.run dialect (c :: rest ++ [next])
          = ((reader.step dialect c).run dialect rest).step dialect next := by simp [Reader.run]
        _ = Reader.step dialect ⟨rows, fields, c :: rest, .inField⟩ next := by rw [hfirst, hrest]; rfl
        _ = Reader.unquoted dialect ⟨rows, fields, c :: rest, .inField⟩ next := rfl

theorem AtField.congr {reader : Reader α} {part' : List α} (h : AtField dialect reader rows fields part)
    (hhead : part.head? = part'.head?) : AtField dialect reader rows fields part' := by
  rcases h with rfl | ⟨rfl, hc⟩
  · exact .inl rfl
  · exact .inr ⟨rfl, hhead ▸ hc⟩

/-- A written row is read up to its line feed. -/
theorem run_fields {reader : Reader α} {rest : List (List α)}
    (h : AtField dialect reader rows fields
      ([dialect.delimiter].intercalate ((field :: rest).map (writeField dialect)) ++ [dialect.cr])) :
    reader.run dialect
      ([dialect.delimiter].intercalate ((field :: rest).map (writeField dialect)) ++ [dialect.cr]) =
      ⟨rows ++ [fields ++ field :: rest], [], [], .afterCr⟩ := by
  induction rest generalizing reader fields field with
  | nil =>
    have hsingle : [dialect.delimiter].intercalate
        ([field].map (writeField dialect)) = writeField dialect field := by
      simp [List.intercalate]
    rw [hsingle] at h ⊢
    rw [run_writeField (.inr rfl) h]
    simp [Reader.unquoted, Reader.saveField, Reader.saveRow]
  | cons second rest ih =>
    have hsplit : [dialect.delimiter].intercalate
        ((field :: second :: rest).map (writeField dialect)) ++ [dialect.cr] =
        (writeField dialect field ++ [dialect.delimiter]) ++
          ([dialect.delimiter].intercalate ((second :: rest).map (writeField dialect)) ++
            [dialect.cr]) := by
      simp [List.intercalate]
    rw [hsplit] at h ⊢
    have hfirst : AtField dialect reader rows fields
        (writeField dialect field ++ [dialect.delimiter]) :=
      h.congr (by cases writeField dialect field <;> rfl)
    have hsaved : Reader.unquoted dialect ⟨rows, fields, field, .inField⟩ dialect.delimiter =
        ⟨rows, fields ++ [field], [], .startField⟩ := by
      simp [Reader.unquoted, Reader.saveField, dialect.delimiter_ne_cr, dialect.delimiter_ne_lf]
    rw [run_append, run_writeField (.inl rfl) hfirst, hsaved, ih (.inl rfl)]
    simp

/-- A row that is no empty line does not begin like one. -/
theorem atField_of_row {rest : List (List α)} (h : field :: rest ≠ [[]]) :
    AtField dialect ⟨rows, [], [], .startRecord⟩ rows []
      ([dialect.delimiter].intercalate ((field :: rest).map (writeField dialect)) ++ [dialect.cr]) := by
  refine .inr ⟨rfl, ?_⟩
  cases field with
  | nil =>
    cases rest with
    | nil => exact absurd rfl h
    | cons second rest =>
        simp [List.intercalate, writeField, dialect.delimiter_ne_cr, dialect.delimiter_ne_lf]
  | cons c tail =>
    have hhead : ∃ d text, writeField dialect (c :: tail) = d :: text ∧ d ≠ dialect.cr ∧
        d ≠ dialect.lf := by
      unfold writeField
      split
      next => exact ⟨_, _, rfl, dialect.cr_ne_quote.symm, dialect.quote_ne_lf⟩
      next hspecial =>
        have hc : special dialect c = false := by
          have hall : ∀ d ∈ c :: tail, special dialect d = false := by simpa using hspecial
          exact hall c (by simp)
        obtain ⟨-, -, hcr, hlf⟩ := special_eq_false hc
        exact ⟨c, tail, rfl, hcr, hlf⟩
    obtain ⟨d, text, htext, hcr, hlf⟩ := hhead
    have hcons : ([dialect.delimiter].intercalate (((c :: tail) :: rest).map (writeField dialect)) ++
        [dialect.cr]).head? = some d := by
      cases rest with
      | nil => simp [List.intercalate, htext]
      | cons second rest => simp [List.intercalate, htext]
    rw [hcons]
    simp [hcr, hlf]

theorem run_writeRow (row : List (List α)) :
    Reader.run dialect ⟨rows, [], [], .startRecord⟩ (writeRow dialect row) = ⟨rows ++ [row], [], [],
      .startRecord⟩ := by
  have hlast : ∀ reader : Reader α, ∀ text, reader.run dialect
      (text ++ [dialect.cr]) = ⟨rows ++ [row], [], [], .afterCr⟩ →
      reader.run dialect (text ++ [dialect.cr, dialect.lf]) = ⟨rows ++ [row], [], [],
        .startRecord⟩ := by
    intro reader text h
    have hsplit : text ++ [dialect.cr, dialect.lf] = (text ++ [dialect.cr]) ++ [dialect.lf] := by simp
    rw [hsplit, run_append, h]
    simp [Reader.run, Reader.step]
  apply hlast
  by_cases hempty : row = [[]]
  · subst hempty
    rw [if_pos rfl]
    simp [Reader.run, Reader.step, Reader.firstOfRecord, Reader.firstOfField, dialect.cr_ne_quote,
      dialect.cr_ne_quote.symm, dialect.quote_ne_lf, Reader.unquoted, Reader.saveField, Reader.saveRow]
  · rw [if_neg hempty]
    cases row with
    | nil => simp [Reader.run, Reader.step, Reader.firstOfRecord, Reader.saveRow, List.intercalate]
    | cons field rest =>
      rw [run_fields (atField_of_row hempty)]
      rfl

/-- **What was written is read.** -/
theorem readRows_writeRows (written : List (List (List α))) : readRows dialect
    (writeRows dialect written) = written := by
  have hrun : Reader.run dialect {} (writeRows dialect written) = ⟨written, [], [], .startRecord⟩ := by
    induction written using List.reverseRecOn with
    | nil => rfl
    | append_singleton written row ih =>
      have hconcat : writeRows dialect (written ++ [row]) = writeRows dialect written ++
          writeRow dialect row := by
        simp [writeRows]
      rw [hconcat, run_append, ih, run_writeRow]
  rw [readRows, hrun]
  rfl

end RoundTrip

end Library.Csv
