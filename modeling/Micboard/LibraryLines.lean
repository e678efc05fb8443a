import Mathlib.Data.List.Basic

/-! Streams that arrive in chunks and are read in lines. A separator ends a line, and a reader whose
state is a function of the line that is still open reads the lines of the whole stream, wherever the
chunks are cut. -/

namespace Library.Lines

variable {α β σ : Type*}

section Split

variable [BEq α] {sep : α}

/-- The lines that a separator has ended. -/
def ended (sep : α) (stream : List α) : List (List α) :=
  (stream.splitOn sep).dropLast

/-- The line that is still open at the end. -/
def unfinished (sep : α) (stream : List α) : List α :=
  (stream.splitOn sep).getLast (List.splitOn_ne_nil sep stream)

@[simp] theorem ended_nil : ended sep [] = [] := by
  simp [ended]

@[simp] theorem unfinished_nil : unfinished sep [] = [] := by
  simp [unfinished]

variable (sep) in
theorem splitOn_eq_ended_unfinished (stream : List α) :
    stream.splitOn sep = ended sep stream ++ [unfinished sep stream] :=
  (List.dropLast_append_getLast (List.splitOn_ne_nil sep stream)).symm

theorem ended_unfinished_of_splitOn {stream open_ : List α} {lines : List (List α)}
    (h : stream.splitOn sep = lines ++ [open_]) :
    ended sep stream = lines ∧ unfinished sep stream = open_ := by
  rw [splitOn_eq_ended_unfinished] at h
  exact List.append_inj' h rfl |>.imp_right fun h => List.singleton_injective h

variable (sep) in
/-- What follows goes on with the open line. -/
theorem splitOn_append (stream more : List α) : (stream ++ more).splitOn sep =
    ended sep stream ++ (more.splitOn sep).modifyHead (unfinished sep stream ++ ·) := by
  induction stream with
  | nil =>
      rw [ended_nil, unfinished_nil, List.nil_append, List.nil_append]
      exact (congrFun List.modifyHead_id _).symm
  | cons x stream ih =>
      have hsplit := splitOn_eq_ended_unfinished sep stream
      have hcons := List.splitOn_cons_eq_if_modifyHead (a := sep) x stream
      rw [List.cons_append, List.splitOn_cons_eq_if_modifyHead, ih]
      cases hx : x == sep with
      | true =>
          rw [hx, if_pos rfl, hsplit, ← List.cons_append] at hcons
          obtain ⟨hended, hopen⟩ := ended_unfinished_of_splitOn hcons
          rw [if_pos rfl, hended, hopen, List.cons_append]
      | false =>
          rw [hx, if_neg Bool.false_ne_true, hsplit] at hcons
          rw [if_neg Bool.false_ne_true]
          cases hlines : ended sep stream with
          | nil =>
              rw [hlines] at hcons
              obtain ⟨hended, hopen⟩ :=
                ended_unfinished_of_splitOn (hcons.trans (List.nil_append _).symm)
              rw [hended, hopen, List.nil_append, List.nil_append, List.modifyHead_modifyHead]
              rfl
          | cons line lines =>
              rw [hlines, List.cons_append, List.modifyHead_cons, ← List.cons_append] at hcons
              obtain ⟨hended, hopen⟩ := ended_unfinished_of_splitOn hcons
              rw [hended, hopen]
              rfl

end Split

/-- What a reader does at a piece of a line and at the end of a line. -/
structure Reader (α β σ : Type*) where
  extend : List α → σ → σ
  complete : σ → β × σ

inductive Event (α : Type*) where
  | piece (piece : List α)
  | lineEnd
  deriving DecidableEq

/-- Every piece of a chunk but the last ends its line. -/
def pieceEvents : List (List α) → List (Event α)
  | [] => []
  | [piece] => [.piece piece]
  | piece :: rest => .piece piece :: .lineEnd :: pieceEvents rest

theorem pieceEvents_cons_cons (piece next : List α) (rest : List (List α)) :
    pieceEvents (piece :: next :: rest) = .piece piece :: .lineEnd :: pieceEvents (next :: rest) :=
  rfl

def chunkEvents [BEq α] (sep : α) (chunk : List α) : List (Event α) :=
  pieceEvents (chunk.splitOn sep)

namespace Reader

variable (reader : Reader α β σ)

def step (out : List β × σ) : Event α → List β × σ
  | .piece piece => (out.1, reader.extend piece out.2)
  | .lineEnd => (out.1 ++ [(reader.complete out.2).1], (reader.complete out.2).2)

def run (events : List (Event α)) (out : List β × σ) : List β × σ :=
  events.foldl reader.step out

/-- The state is a function of the open line, and a line's entry is one of the line. -/
structure Follows (during : List α → σ) (entry : List α → β) : Prop where
  extend : ∀ line piece, reader.extend piece (during line) = during (line ++ piece)
  complete : ∀ line, reader.complete (during line) = (entry line, during [])

variable {reader} {during : List α → σ} {entry : List α → β}

theorem Follows.step (h : reader.Follows during entry) (out : List β) (line : List α)
    (event : Event α) :
    ∃ out' line', reader.step (out, during line) event = (out', during line') := by
  cases event with
  | piece piece => exact ⟨out, line ++ piece, congrArg (Prod.mk out) (h.extend line piece)⟩
  | lineEnd =>
      refine ⟨out ++ [entry line], [], ?_⟩
      rw [Reader.step, h.complete]

/-- At every moment the state is that of some open line. -/
theorem Follows.run (h : reader.Follows during entry) (events : List (Event α)) (out : List β)
    (line : List α) : ∃ line', (reader.run events (out, during line)).2 = during line' := by
  induction events generalizing out line with
  | nil => exact ⟨line, rfl⟩
  | cons event events ih =>
      obtain ⟨out', line', hstep⟩ := h.step out line event
      rw [Reader.run, List.foldl_cons, hstep]
      exact ih out' line'

theorem Follows.run_pieces (h : reader.Follows during entry) (out : List β) (line piece : List α)
    (rest : List (List α)) : reader.run (pieceEvents (piece :: rest)) (out, during line) =
      (out ++ ((line ++ piece) :: rest).dropLast.map entry,
        during (((line ++ piece) :: rest).getLast (List.cons_ne_nil _ _))) := by
  induction rest generalizing out line piece with
  | nil =>
      have hextend : reader.step (out, during line) (.piece piece) = (out, during (line ++ piece)) :=
        congrArg (Prod.mk out) (h.extend line piece)
      simpa [pieceEvents, Reader.run] using hextend
  | cons next rest ih =>
      have hcomplete : reader.step (out, during (line ++ piece)) .lineEnd =
          (out ++ [entry (line ++ piece)], during []) := by
        rw [Reader.step, h.complete]
      have hextend : reader.step (out, during line) (.piece piece) = (out, during (line ++ piece)) :=
        congrArg (Prod.mk out) (h.extend line piece)
      rw [pieceEvents_cons_cons, Reader.run, List.foldl_cons, List.foldl_cons, hextend, hcomplete]
      refine (ih _ [] next).trans ?_
      rw [List.nil_append, List.dropLast_cons_cons, List.map_cons, List.getLast_cons_cons,
        List.append_assoc, List.singleton_append]

variable [BEq α] {sep : α}

variable (sep) in
/-- A chunk ends the lines that the stream has ended with it and leaves the line open that the
stream leaves. -/
theorem Follows.run_chunk (h : reader.Follows during entry) (stream chunk : List α) :
    reader.run (chunkEvents sep chunk) ((ended sep stream).map entry, during (unfinished sep stream)) =
      ((ended sep (stream ++ chunk)).map entry, during (unfinished sep (stream ++ chunk))) := by
  have hsplit := splitOn_append sep stream chunk
  have hne := List.splitOn_ne_nil sep chunk
  rw [chunkEvents]
  cases hpieces : chunk.splitOn sep with
  | nil => exact absurd hpieces hne
  | cons piece rest =>
      rw [hpieces, List.modifyHead_cons] at hsplit
      have hlines := List.dropLast_append_getLast
        (List.cons_ne_nil (unfinished sep stream ++ piece) rest)
      rw [← hlines, ← List.append_assoc] at hsplit
      obtain ⟨hended, hopen⟩ := ended_unfinished_of_splitOn hsplit
      rw [h.run_pieces, hended, hopen, List.map_append]

/-- **However a stream is cut into chunks, the reader has read the lines that the stream has ended.** -/
theorem Follows.run_chunks (h : reader.Follows during entry) (stream : List α)
    (chunks : List (List α)) :
    reader.run (chunks.flatMap (chunkEvents sep))
        ((ended sep stream).map entry, during (unfinished sep stream)) =
      ((ended sep (stream ++ chunks.flatten)).map entry,
        during (unfinished sep (stream ++ chunks.flatten))) := by
  induction chunks generalizing stream with
  | nil => simp [Reader.run]
  | cons chunk chunks ih =>
      have hchunk := h.run_chunk sep stream chunk
      rw [List.flatMap_cons, Reader.run, List.foldl_append, ← Reader.run, ← Reader.run, hchunk, ih,
        List.flatten_cons, List.append_assoc]

end Reader

end Library.Lines
