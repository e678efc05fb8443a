import Micboard.LibraryLines

/-! The line reader of the Sennheiser event stream: chunks of any size go in and lines within the
byte limit come out. An over-limit line is dropped as soon as it is known to be one, and so the
reader never holds more than the limit. -/

namespace Micboard

open Library.Lines

/-- What becomes of a line: the iterator yields it or logs that it was discarded. -/
inductive LineOutcome where
  | yielded (line : List UInt8)
  | discarded
  deriving DecidableEq

structure SseLineState where
  lineBuffer : List UInt8
  discardingLine : Bool
  deriving DecidableEq

def SseLineState.fresh : SseLineState := ⟨[], false⟩

def lineFeed : UInt8 := 10

def carriageReturn : UInt8 := 13

/-- The line without a carriage return at its end. -/
def withoutReturn (line : List UInt8) : List UInt8 :=
  if [carriageReturn].isSuffixOf line then line.dropLast else line

/-- The loop over the segments of a chunk. -/
def boundedSseLines (maxLineBytes : Nat) : Reader UInt8 LineOutcome SseLineState where
  extend segment s :=
    if s.discardingLine then s
    else if maxLineBytes < s.lineBuffer.length + segment.length then ⟨[], true⟩
    else { s with lineBuffer := s.lineBuffer ++ segment }
  complete s :=
    (if s.discardingLine then .discarded else .yielded (withoutReturn s.lineBuffer), .fresh)

/-- What follows the last line feed. -/
def lastSseLine (s : SseLineState) : List LineOutcome :=
  if s.discardingLine then [.discarded]
  else if s.lineBuffer = [] then []
  else [.yielded (withoutReturn s.lineBuffer)]

def iterBoundedSseLines (maxLineBytes : Nat) (chunks : List (List UInt8)) : List LineOutcome :=
  let (outcomes, s) :=
    (boundedSseLines maxLineBytes).run (chunks.flatMap (chunkEvents lineFeed)) ([], .fresh)
  outcomes ++ lastSseLine s

def LineOutcome.line? : LineOutcome → Option (List UInt8)
  | .yielded line => some line
  | .discarded => none

/-- The lines of a whole stream: those that a line feed ends, and a last one unless it is empty. -/
def sseLines (stream : List UInt8) : List (List UInt8) :=
  let lines := stream.splitOn lineFeed
  if lines.getLast? = some [] then lines.dropLast else lines

def duringSseLine (maxLineBytes : Nat) (line : List UInt8) : SseLineState :=
  if line.length ≤ maxLineBytes then ⟨line, false⟩ else ⟨[], true⟩

def sseLineOutcome (maxLineBytes : Nat) (line : List UInt8) : LineOutcome :=
  if line.length ≤ maxLineBytes then .yielded (withoutReturn line) else .discarded

variable {maxLineBytes : Nat}

theorem duringSseLine_bounded (line : List UInt8) :
    (duringSseLine maxLineBytes line).lineBuffer.length ≤ maxLineBytes := by
  unfold duringSseLine
  split
  · assumption
  · exact Nat.zero_le _

variable (maxLineBytes) in
/-- **The state is a function of the open line**, whatever pieces it came in. -/
theorem boundedSseLines_follows : (boundedSseLines maxLineBytes).Follows
    (duringSseLine maxLineBytes) (sseLineOutcome maxLineBytes) where
  extend line piece := by
    by_cases hline : line.length ≤ maxLineBytes
    · by_cases hpiece : maxLineBytes < line.length + piece.length
      · have hlong : ¬ (line ++ piece).length ≤ maxLineBytes := by
          rw [List.length_append]
          exact Nat.not_le.mpr hpiece
        simp [boundedSseLines, duringSseLine, hline, hpiece]
      · have hshort : (line ++ piece).length ≤ maxLineBytes := by
          rw [List.length_append]
          exact Nat.not_lt.mp hpiece
        simp [boundedSseLines, duringSseLine, hline, hpiece]
    · have hlong : ¬ (line ++ piece).length ≤ maxLineBytes := by
        rw [List.length_append]
        omega
      simp only [boundedSseLines, duringSseLine, if_neg hline, if_neg hlong, if_true]
  complete line := by
    have hempty : duringSseLine maxLineBytes [] = .fresh := if_pos (Nat.zero_le _)
    rw [hempty]
    by_cases hline : line.length ≤ maxLineBytes
    · simp [boundedSseLines, duringSseLine, sseLineOutcome, hline]
    · simp [boundedSseLines, duringSseLine, sseLineOutcome, hline]

theorem sseLines_eq (stream : List UInt8) : sseLines stream =
    ended lineFeed stream ++
      if unfinished lineFeed stream = [] then [] else [unfinished lineFeed stream] := by
  rw [sseLines, splitOn_eq_ended_unfinished, List.getLast?_concat, List.dropLast_concat]
  by_cases hopen : unfinished lineFeed stream = []
  · simp [hopen]
  · simp [hopen]

/-- The state at the end of a stream answers for the open line alone. -/
theorem lastSseLine_during (line : List UInt8) : lastSseLine (duringSseLine maxLineBytes line) =
    if line = [] then [] else [sseLineOutcome maxLineBytes line] := by
  by_cases hline : line.length ≤ maxLineBytes
  · simp [lastSseLine, duringSseLine, sseLineOutcome, hline]
  · have hne : line ≠ [] := by
      rintro rfl
      exact hline (Nat.zero_le _)
    simp [lastSseLine, duringSseLine, sseLineOutcome, hline, hne]

theorem iterBoundedSseLines_eq (chunks : List (List UInt8)) : iterBoundedSseLines maxLineBytes chunks =
    (sseLines chunks.flatten).map (sseLineOutcome maxLineBytes) := by
  have hfresh : SseLineState.fresh = duringSseLine maxLineBytes [] := (if_pos (Nat.zero_le _)).symm
  have hrun : (boundedSseLines maxLineBytes).run (chunks.flatMap (chunkEvents lineFeed)) ([], .fresh) =
      ((ended lineFeed chunks.flatten).map (sseLineOutcome maxLineBytes),
        duringSseLine maxLineBytes (unfinished lineFeed chunks.flatten)) := by
    rw [hfresh]
    exact (boundedSseLines_follows maxLineBytes).run_chunks [] chunks
  rw [iterBoundedSseLines, hrun, sseLines_eq, List.map_append]
  refine congrArg (_ ++ ·) ((lastSseLine_during _).trans ?_)
  split <;> rfl

theorem filterMap_line? (lines : List (List UInt8)) :
    (lines.map (sseLineOutcome maxLineBytes)).filterMap LineOutcome.line? =
      (lines.filter (·.length ≤ maxLineBytes)).map withoutReturn := by
  induction lines with
  | nil => rfl
  | cons line lines ih =>
      by_cases hline : line.length ≤ maxLineBytes
      · have hline? : (sseLineOutcome maxLineBytes line).line? = some (withoutReturn line) := by
          rw [sseLineOutcome, if_pos hline, LineOutcome.line?]
        rw [List.map_cons, List.filterMap_cons_some hline?, ih,
          List.filter_cons, if_pos (decide_eq_true hline), List.map_cons]
      · have hline? : (sseLineOutcome maxLineBytes line).line? = none := by
          rw [sseLineOutcome, if_neg hline, LineOutcome.line?]
        rw [List.map_cons, List.filterMap_cons_none hline?, ih,
          List.filter_cons, if_neg (by simpa using hline)]

/-- **However the stream is cut into chunks, the iterator yields its lines within the limit**, each
without the carriage return at its end, and at no moment holds more bytes than the limit. -/
theorem iterBoundedSseLines_spec (maxLineBytes : Nat) (chunks : List (List UInt8)) :
    (iterBoundedSseLines maxLineBytes chunks).filterMap LineOutcome.line? =
        ((sseLines chunks.flatten).filter (·.length ≤ maxLineBytes)).map withoutReturn ∧
      ∀ moment, ((boundedSseLines maxLineBytes).run
        ((chunks.flatMap (chunkEvents lineFeed)).take moment) ([], .fresh)).2.lineBuffer.length ≤
          maxLineBytes := by
  refine ⟨?_, fun moment => ?_⟩
  · rw [iterBoundedSseLines_eq, filterMap_line?]
  · have hfresh : SseLineState.fresh = duringSseLine maxLineBytes [] := (if_pos (Nat.zero_le _)).symm
    obtain ⟨line, hline⟩ := (boundedSseLines_follows maxLineBytes).run
      ((chunks.flatMap (chunkEvents lineFeed)).take moment) [] []
    rw [hfresh, hline]
    exact duringSseLine_bounded line

/-- The lines of a whole stream, each stripped of a carriage return at its end: those that a line
feed ends, and a last one unless nothing of it is left. -/
def strippedSseLines (stream : List UInt8) : List (List UInt8) :=
  let lines := (stream.splitOn lineFeed).map withoutReturn
  if lines.getLast? = some [] then lines.dropLast else lines

/-- The limit counts the carriage return: a line of three bytes that ends with one is dropped at a
limit of three. And a last line of a carriage return alone is yielded, empty. -/
theorem carriage_return_counts :
    (iterBoundedSseLines 3 [[97, 97, 97, 13, 10]]).filterMap LineOutcome.line? ≠
        (strippedSseLines [97, 97, 97, 13, 10]).filter (·.length ≤ 3) ∧
      (iterBoundedSseLines 3 [[13]]).filterMap LineOutcome.line? ≠
        (strippedSseLines [13]).filter (·.length ≤ 3) := by
  constructor
  · decide
  · decide

/-- A carriage return may come in one chunk and its line feed in the next; it counts as a byte of
its line. -/
example :
    (iterBoundedSseLines 2 [[97, 13], [], [10, 98, 98], [98, 10, 99]]).filterMap LineOutcome.line? =
    [[97], [99]] := by decide

end Micboard
