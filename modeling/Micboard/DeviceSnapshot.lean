import Micboard.ChassisModel
import Micboard.LibraryRotation

/-! The resumable broadcast of a manufacturer's chassis. One broadcast sends the window of rows
behind a cached cursor, in chunks; a look-ahead row tells whether more follow, and the snapshot
keeps its identifier until the inventory is complete. The routing of a sent update is that of the
broadcast service. -/

namespace Micboard

open Library.Budget

def maxDeviceBroadcastRows : Nat := 5000

/-- Continuation state for one manufacturer projection and namespace. -/
structure DeviceBroadcastCursor where
  afterId : Nat := 0
  snapshotId : String := ""
  deriving DecidableEq, Repr

/-- A row of the projection as it is sent. -/
structure SerializedDevice where
  id : Nat
  apiDeviceId : String
  name : String
  ip : Option String
  status : HardwareStatus
  model : String
  deriving DecidableEq, Repr

structure DeviceUpdate where
  manufacturerCode : String
  receivers : List SerializedDevice
  timestamp : Time
  snapshotId : String
  chunkIndex : Nat
  isFinalChunk : Bool
  inventoryComplete : Bool
  nextCursor : Option Nat
  broadcastNamespace : String
  deriving DecidableEq, Repr

/-- `secrets.token_urlsafe(12)`. -/
structure SnapshotToken where
  text : String
  nonempty : text ≠ ""

/-- What a caller asks for, with the clock and the token that the call would draw. -/
structure BroadcastCall where
  broadcastNamespace : String
  maxDevices : Int
  chunkSize : Int
  statuses : Option (List HardwareStatus)
  timestamp : Time
  token : SnapshotToken

structure DeviceBroadcastResult where
  rowsSent : Nat
  chunksSent : Nat
  inventoryComplete : Bool
  nextCursor : Nat
  deriving DecidableEq, Repr

/-- What a broadcast sends, returns and stores. -/
structure DeviceBroadcast where
  updates : List DeviceUpdate
  result : DeviceBroadcastResult
  cursor : DeviceBroadcastCursor
  deriving DecidableEq, Repr

namespace DeviceSnapshotBroadcastService

def serialize (row : Chassis) : SerializedDevice where
  id := row.pk
  apiDeviceId := row.apiDeviceId
  name := row.name
  ip := if row.ip = "" then none else some row.ip
  status := row.status
  model := row.model

/-- The manufacturer's rows with one of the statuses, by primary key. -/
def projection (manufacturer : Manufacturer) (statuses : Option (List HardwareStatus))
    (table : List Chassis) : List Chassis :=
  byKey Chassis.pk (table.filter fun row =>
    row.manufacturer = manufacturer && (statuses.all fun statuses => statuses.contains row.status))

/-- One row more than a window; a cursor behind the last row starts over. -/
def loadRows (projection : List Chassis) (state : DeviceBroadcastCursor) (maxDevices : Nat) :
    List Chassis × DeviceBroadcastCursor :=
  if state.afterId ≠ 0 then
    let rows := (projection.filter fun row => state.afterId < row.pk).take (maxDevices + 1)
    if rows.isEmpty then (projection.take (maxDevices + 1), {}) else (rows, state)
  else (projection.take (maxDevices + 1), state)

/-- The chunks that follow a current one, each with whether it is the last. -/
def chunksFrom {α : Type*} (chunkSize : Nat) : Nat → List α → List α → List (List α × Bool)
  | 0, _, _ => []
  | rounds + 1, current, iterator =>
    if current.isEmpty then []
    else
      let following := iterator.take chunkSize
      (current, following.isEmpty) :: chunksFrom chunkSize rounds following (iterator.drop chunkSize)

/-- Rows in chunks; no rows make one empty chunk. Every round but the last one takes a row. -/
def iterChunks {α : Type*} (rows : List α) (chunkSize : Nat) : List (List α × Bool) :=
  let current := rows.take chunkSize
  if current.isEmpty then [([], true)]
  else chunksFrom chunkSize (rows.length + 1) current (rows.drop chunkSize)

/-- What the cache holds for a manufacturer and a namespace; nothing where it fails or the value is
no cursor. -/
def readCursor (cached : Option DeviceBroadcastCursor) : DeviceBroadcastCursor := cached.getD {}

/-- The bound of a call within the hard ceiling. -/
def windowSize (call : BroadcastCall) : Nat :=
  min (max call.maxDevices.toNat 1) maxDeviceBroadcastRows

/-- Send the rows that were loaded and store where they end. -/
def sendWindow (manufacturer : Manufacturer) (call : BroadcastCall) (rows : List Chassis)
    (state : DeviceBroadcastCursor) : DeviceBroadcast :=
  let maxDevices := windowSize call
  let chunkSize := min (max call.chunkSize.toNat 1) maxDevices
  let inventoryComplete := decide (rows.length ≤ maxDevices)
  let boundedRows := rows.take maxDevices
  let nextCursor :=
    match boundedRows.getLast? with
    | some last => if inventoryComplete then 0 else last.pk
    | none => 0
  let snapshotId := if state.snapshotId = "" then call.token.text else state.snapshotId
  let chunks := iterChunks boundedRows chunkSize
  { updates := chunks.zipIdx.map fun item =>
      { manufacturerCode := manufacturer.code
        receivers := item.1.1.map serialize
        timestamp := call.timestamp
        snapshotId := snapshotId
        chunkIndex := item.2
        isFinalChunk := item.1.2
        inventoryComplete := inventoryComplete
        nextCursor := if nextCursor = 0 then none else some nextCursor
        broadcastNamespace := call.broadcastNamespace }
    result :=
      { rowsSent := boundedRows.length
        chunksSent := chunks.length
        inventoryComplete := inventoryComplete
        nextCursor := nextCursor }
    cursor :=
      { afterId := nextCursor
        snapshotId := if nextCursor = 0 then "" else snapshotId } }

/-- Send one resumable, hard-bounded projection batch. -/
def broadcast (manufacturer : Manufacturer) (table : List Chassis) (call : BroadcastCall)
    (state : DeviceBroadcastCursor) : DeviceBroadcast :=
  let (rows, state) := loadRows (projection manufacturer call.statuses table) state (windowSize call)
  sendWindow manufacturer call rows state

section Chunks

variable {α : Type*} {chunkSize : Nat}

/-- The chunks hold the rows in their order, and the last one and no other is marked. -/
theorem chunksFrom_spec (hsize : 0 < chunkSize) {rounds : Nat} {current iterator : List α}
    (hcurrent : current ≠ []) (hrounds : iterator.length < rounds) :
    (chunksFrom chunkSize rounds current iterator).flatMap Prod.fst = current ++ iterator ∧
      ∃ others, (chunksFrom chunkSize rounds current iterator).map Prod.snd =
        List.replicate others false ++ [true] := by
  induction rounds generalizing current iterator with
  | zero => omega
  | succ rounds ih =>
      rw [chunksFrom, if_neg (by simpa using hcurrent)]
      cases iterator with
      | nil =>
          have hend : chunksFrom chunkSize rounds ([] : List α) [] = [] := by
            cases rounds <;> rfl
          simp only [List.take_nil, List.drop_nil, hend]
          exact ⟨rfl, 0, rfl⟩
      | cons row rest =>
          have hfollowing : (row :: rest).take chunkSize ≠ [] := by
            rw [Ne, List.take_eq_nil_iff, not_or]
            exact ⟨hsize.ne', List.cons_ne_nil _ _⟩
          have hless : ((row :: rest).drop chunkSize).length < rounds := by
            rw [List.length_cons] at hrounds
            rw [List.length_drop, List.length_cons]
            omega
          obtain ⟨hrows, others, hflags⟩ := ih hfollowing hless
          refine ⟨?_, others + 1, ?_⟩
          · rw [List.flatMap_cons, hrows, List.take_append_drop]
          · have hmore : ((row :: rest).take chunkSize).isEmpty = false := by simpa using hfollowing
            rw [List.map_cons, hflags, hmore]
            rfl

theorem iterChunks_spec (hsize : 0 < chunkSize) (rows : List α) :
    (iterChunks rows chunkSize).flatMap Prod.fst = rows ∧
      ∃ others, (iterChunks rows chunkSize).map Prod.snd = List.replicate others false ++ [true] := by
  rw [iterChunks]
  split
  next hnone =>
    have hrows : rows = [] := by
      have hempty := List.isEmpty_iff.mp hnone
      rw [List.take_eq_nil_iff] at hempty
      exact hempty.resolve_left hsize.ne'
    subst hrows
    exact ⟨rfl, 0, rfl⟩
  next hsome =>
    have hcurrent : rows.take chunkSize ≠ [] := fun h => hsome (List.isEmpty_iff.mpr h)
    have hrounds : (rows.drop chunkSize).length < rows.length + 1 := by
      rw [List.length_drop]
      omega
    obtain ⟨hrows, hflags⟩ := chunksFrom_spec hsize hcurrent hrounds
    exact ⟨by rw [hrows, List.take_append_drop], hflags⟩

end Chunks

section Window

variable {manufacturer : Manufacturer} {table : List Chassis} {call : BroadcastCall}
  {state : DeviceBroadcastCursor}

/-- The rows behind a cursor. -/
def remaining (projection : List Chassis) (state : DeviceBroadcastCursor) : List Chassis :=
  projection.filter fun row => state.afterId < row.pk

/-- A cursor from which a broadcast goes on: it is empty, or rows follow it. -/
def Continues (projection : List Chassis) (state : DeviceBroadcastCursor) : Prop :=
  state.afterId = 0 ∨ remaining projection state ≠ []

theorem windowSize_pos (call : BroadcastCall) : 0 < windowSize call := by
  rw [windowSize, maxDeviceBroadcastRows]
  omega

theorem loadRows_eq {projection : List Chassis} (hpositive : ∀ row ∈ projection, 0 < row.pk)
    (h : Continues projection state) (maxDevices : Nat) :
    loadRows projection state maxDevices =
      ((remaining projection state).take (maxDevices + 1), state) := by
  rw [loadRows]
  split
  next hafter =>
    have hrows : ((remaining projection state).take (maxDevices + 1)).isEmpty = false := by
      have hmore := h.resolve_left hafter
      rw [List.isEmpty_eq_false_iff, Ne, List.take_eq_nil_iff, not_or]
      exact ⟨Nat.succ_ne_zero _, hmore⟩
    rw [remaining] at hrows ⊢
    simp only [hrows]
    rfl
  next hafter =>
    have hall : remaining projection state = projection := by
      rw [remaining, not_not.mp hafter]
      exact List.filter_eq_self.mpr fun row hrow => decide_eq_true (hpositive row hrow)
    rw [hall]

/-- What one broadcast sends and where it leaves the cursor. -/
structure Window (projection : List Chassis) (call : BroadcastCall) (state : DeviceBroadcastCursor)
    (sent : DeviceBroadcast) : Prop where
  rows : sent.updates.flatMap DeviceUpdate.receivers =
    ((remaining projection state).take (windowSize call)).map serialize
  snapshot : ∀ update ∈ sent.updates, update.snapshotId =
    if state.snapshotId = "" then call.token.text else state.snapshotId
  complete : sent.result.inventoryComplete = true ↔
    (remaining projection state).length ≤ windowSize call
  continues : sent.result.inventoryComplete = false →
    remaining projection sent.cursor =
        (remaining projection state).drop (windowSize call) ∧
      sent.cursor.snapshotId = if state.snapshotId = "" then call.token.text else state.snapshotId

theorem map_zipIdx {α β : Type*} (items : List α) (f : α → β) :
    items.zipIdx.map (fun item => f item.1) = items.map f := by
  have hmap := congrArg (List.map f) (List.zipIdx_map_fst 0 items)
  rwa [List.map_map] at hmap

theorem chunkSize_pos (call : BroadcastCall) : 0 < min (max call.chunkSize.toNat 1)
    (windowSize call) := by
  have := windowSize_pos call
  omega

theorem broadcast_finals (manufacturer : Manufacturer) (table : List Chassis) (call : BroadcastCall)
    (state : DeviceBroadcastCursor) :
    ∃ others, (broadcast manufacturer table call state).updates.map DeviceUpdate.isFinalChunk =
      List.replicate others false ++ [true] := by
  rw [broadcast]
  generalize loadRows (projection manufacturer call.statuses table) state (windowSize call) = loaded
  obtain ⟨rows, state⟩ := loaded
  obtain ⟨-, others, hflags⟩ := iterChunks_spec (chunkSize_pos call) (rows.take (windowSize call))
  refine ⟨others, ?_⟩
  simp only [sendWindow, List.map_map]
  exact (map_zipIdx _ Prod.snd).trans hflags

/-- A window of sorted rows, loaded with the row behind it. -/
theorem sendWindow_spec {rows : List Chassis} (hsorted : rows.Pairwise fun a b => a.pk < b.pk)
    (hpositive : ∀ row ∈ rows, 0 < row.pk) :
    let sent := sendWindow manufacturer call ((remaining rows state).take (windowSize call + 1)) state
    Window rows call state sent := by
  intro sent
  have hwindow : ((remaining rows state).take (windowSize call + 1)).take (windowSize call) =
      (remaining rows state).take (windowSize call) := by
    rw [List.take_take, Nat.min_eq_left (Nat.le_succ _)]
  obtain ⟨hflat, -⟩ :=
    iterChunks_spec (chunkSize_pos call) ((remaining rows state).take (windowSize call))
  have hlength : ((remaining rows state).take (windowSize call + 1)).length ≤ windowSize call ↔
      (remaining rows state).length ≤ windowSize call := by
    rw [List.length_take]
    omega
  refine ⟨?_, ?_, ?_, ?_⟩
  · simp only [sent, sendWindow, hwindow, List.flatMap_map]
    have hreceivers := map_zipIdx
      (iterChunks ((remaining rows state).take (windowSize call))
        (min (max call.chunkSize.toNat 1) (windowSize call)))
      fun chunk => chunk.1.map serialize
    rw [List.flatMap_def, hreceivers, ← List.flatMap_def, ← List.map_flatMap, hflat]
  · intro update hupdate
    obtain ⟨item, -, rfl⟩ := List.mem_map.mp hupdate
    rfl
  · exact decide_eq_true_iff.trans hlength
  · intro hincomplete
    have hmore : windowSize call < (remaining rows state).length := by
      have hrows : ¬ _ := of_decide_eq_false hincomplete
      rw [hlength] at hrows
      omega
    have hpage : (remaining rows state).take (windowSize call) ≠ [] := by
      have := windowSize_pos call
      rw [← List.length_pos_iff, List.length_take]
      omega
    obtain ⟨front, last, hfront⟩ : ∃ front last,
        (remaining rows state).take (windowSize call) = front ++ [last] :=
      ⟨_, _, (List.dropLast_concat_getLast hpage).symm⟩
    have hsplit : remaining rows state =
        front ++ last :: (remaining rows state).drop (windowSize call) := by
      have hall := List.take_append_drop (windowSize call) (remaining rows state)
      rw [hfront, List.append_assoc, List.singleton_append] at hall
      exact hall.symm
    have hlast : last ∈ remaining rows state := by
      rw [hsplit]
      exact List.mem_append_right _ List.mem_cons_self
    obtain ⟨hrow, hafter⟩ := List.mem_filter.mp hlast
    have hcursor : sent.cursor = ⟨last.pk,
        if state.snapshotId = "" then call.token.text else state.snapshotId⟩ := by
      have hpk : last.pk ≠ 0 := (hpositive last hrow).ne'
      have hlast? : (front ++ [last]).getLast? = some last := List.getLast?_concat ..
      have hflag : decide (((remaining rows state).take (windowSize call + 1)).length ≤
          windowSize call) = false := hincomplete
      simp only [sent, sendWindow, hwindow, hfront, hlast?, hflag, Bool.false_eq_true, if_false, hpk]
    refine ⟨?_, by rw [hcursor]⟩
    have hbehind : remaining rows sent.cursor =
        (remaining rows state).filter fun row => last.pk < row.pk := by
      rw [hcursor, remaining, remaining, List.filter_filter]
      refine List.filter_congr fun row _ => ?_
      rw [← Bool.decide_and]
      have hless := of_decide_eq_true hafter
      exact decide_eq_decide.mpr ⟨fun h => ⟨h, hless.trans h⟩, And.left⟩
    have hfiltered := hsorted.filter fun row => decide (state.afterId < row.pk)
    rw [hbehind]
    conv_lhs => rw [hsplit]
    rw [remaining] at hsplit
    rw [hsplit] at hfiltered
    exact filter_lt_of_sorted hfiltered

theorem broadcast_window (hkeys : (table.map Chassis.pk).Nodup) (hpositive : ∀ row ∈ table, 0 < row.pk)
    (h : Continues (projection manufacturer call.statuses table) state) :
    Window (projection manufacturer call.statuses table) call state
      (broadcast manufacturer table call state) := by
  generalize hproject : projection manufacturer call.statuses table = rows at h ⊢
  have hsorted : rows.Pairwise fun a b => a.pk < b.pk := by
    rw [← hproject]
    exact byKey_sorted (hkeys.sublist (List.filter_sublist.map Chassis.pk))
  have hrows : ∀ row ∈ rows, 0 < row.pk := by
    intro row hrow
    rw [← hproject] at hrow
    exact hpositive row (List.mem_of_mem_filter ((byKey_perm _ _).mem_iff.mp hrow))
  rw [broadcast, hproject, loadRows_eq hrows h (windowSize call)]
  exact sendWindow_spec hsorted hrows

end Window

/-! ### Consecutive broadcasts -/

section Run

variable (manufacturer : Manufacturer) (table : List Chassis) (calls : Nat → BroadcastCall)
  (cached : Nat → Option DeviceBroadcastCursor)

def broadcastAt (i : Nat) : DeviceBroadcast :=
  broadcast manufacturer table (calls i) (readCursor (cached i))

/-- The broadcasts are of one namespace and follow one another from an empty cursor on: the cache
keeps the cursor of each for the next one. -/
structure Consecutive : Prop where
  broadcastNamespace : ∀ i, (calls i).broadcastNamespace = (calls 0).broadcastNamespace
  start : readCursor (cached 0) = {}
  kept : ∀ i, readCursor (cached (i + 1)) = (broadcastAt manufacturer table calls cached i).cursor

/-- The rows that a broadcast sends. -/
def rowsAt (i : Nat) : List SerializedDevice :=
  (broadcastAt manufacturer table calls cached i).updates.flatMap DeviceUpdate.receivers

/-- The identifier under which a broadcast sends. -/
def snapshotAt (i : Nat) : String :=
  let state := readCursor (cached i)
  if state.snapshotId = "" then (calls i).token.text else state.snapshotId

variable {manufacturer table calls cached} {statuses : Option (List HardwareStatus)}

theorem snapshotAt_ne (i : Nat) : snapshotAt calls cached i ≠ "" := by
  rw [snapshotAt]
  split
  next => exact (calls i).token.nonempty
  next h => exact h

theorem exists_complete (hkeys : (table.map Chassis.pk).Nodup) (hpositive : ∀ row ∈ table, 0 < row.pk)
    (hconsecutive : Consecutive manufacturer table calls cached)
    (hstatuses : ∀ i, (calls i).statuses = statuses) (count start : Nat)
    (hcontinues : Continues (projection manufacturer statuses table)
      (readCursor (cached start)))
    (hcount : (remaining (projection manufacturer statuses table)
      (readCursor (cached start))).length < count) :
    ∃ more, (broadcastAt manufacturer table calls cached
      (start + more)).result.inventoryComplete = true ∧
      (∀ i < more, (broadcastAt manufacturer table calls cached
        (start + i)).result.inventoryComplete = false) ∧
      (List.range (more + 1)).flatMap (fun i => rowsAt manufacturer table calls cached (start + i)) =
        (remaining (projection manufacturer statuses table)
          (readCursor (cached start))).map serialize ∧
      ∀ i ≤ more, ∀ update ∈ (broadcastAt manufacturer table calls cached (start + i)).updates,
        update.snapshotId = snapshotAt calls cached start := by
  induction count generalizing start with
  | zero => omega
  | succ count ih =>
      rw [← hstatuses start] at hcontinues hcount ⊢
      have hwindow : Window (projection manufacturer (calls start).statuses table) (calls start)
          (readCursor (cached start)) (broadcastAt manufacturer table calls cached start) :=
        broadcast_window hkeys hpositive hcontinues
      have hsize := windowSize_pos (calls start)
      cases hcomplete :
        (broadcastAt manufacturer table calls cached start).result.inventoryComplete with
      | true =>
          refine ⟨0, hcomplete, fun i hi => absurd hi (Nat.not_lt_zero i), ?_, fun i hi => ?_⟩
          · have hrows := hwindow.rows
            rw [List.take_of_length_le (hwindow.complete.mp hcomplete)] at hrows
            simpa [rowsAt] using hrows
          · rw [Nat.le_zero.mp hi]
            exact hwindow.snapshot
      | false =>
          obtain ⟨hbehind, hsnapshot⟩ := hwindow.continues hcomplete
          have hmore : windowSize (calls start) < (remaining
              (projection manufacturer (calls start).statuses table)
              (readCursor (cached start))).length := by
            have hnot := hwindow.complete.not.mp (by rw [hcomplete]; exact Bool.false_ne_true)
            omega
          have hnext : remaining (projection manufacturer statuses table)
              (readCursor (cached (start + 1))) =
              (remaining (projection manufacturer (calls start).statuses table)
                (readCursor (cached start))).drop (windowSize (calls start)) := by
            rw [← hbehind, hstatuses, hconsecutive.kept]
          have hgoes : Continues (projection manufacturer statuses table)
              (readCursor (cached (start + 1))) := by
            refine .inr ?_
            rw [hnext, ← List.length_pos_iff, List.length_drop]
            omega
          obtain ⟨more, hlast, hbefore, hrows, hids⟩ := ih (start + 1) hgoes (by
            rw [hnext, List.length_drop]
            omega)
          have hshift : ∀ i, start + 1 + i = start + (i + 1) := fun i => by omega
          have hid : snapshotAt calls cached (start + 1) =
              snapshotAt calls cached start := by
            have hstored : (readCursor (cached (start + 1))).snapshotId =
                snapshotAt calls cached start := by
              rw [hconsecutive.kept]
              exact hsnapshot
            rw [snapshotAt, hstored, if_neg (snapshotAt_ne start)]
          refine ⟨more + 1, hshift more ▸ hlast, fun i hi => ?_, ?_, fun i hi => ?_⟩
          · cases i with
            | zero => exact hcomplete
            | succ i => exact hshift i ▸ hbefore i (Nat.lt_of_succ_lt_succ hi)
          · have hfirst : rowsAt manufacturer table calls cached start = _ := hwindow.rows
            rw [List.range_succ_eq_map, List.flatMap_cons, List.flatMap_map, Nat.add_zero, hfirst]
            simp only [hshift, hnext] at hrows
            rw [hrows, ← List.map_append, List.take_append_drop]
          · cases i with
            | zero => exact hwindow.snapshot
            | succ i =>
                rw [← hshift, ← hid]
                exact hids i (Nat.le_of_succ_le_succ hi)

/-- **A snapshot sends every row exactly once.** From an empty cursor on, consecutive broadcasts of
an inventory that stays the same complete it; they have then sent its rows in the order of their
keys under one identifier, and each has marked its last chunk and no other. -/
theorem snapshot_exactly_once (hkeys : (table.map Chassis.pk).Nodup)
    (hpositive : ∀ row ∈ table, 0 < row.pk) (hconsecutive : Consecutive manufacturer table calls cached)
    (hstatuses : ∀ i, (calls i).statuses = statuses) :
    ∃ last, (broadcastAt manufacturer table calls cached last).result.inventoryComplete = true ∧
      (∀ i < last, (broadcastAt manufacturer table calls cached i).result.inventoryComplete = false) ∧
      (List.range (last + 1)).flatMap (rowsAt manufacturer table calls cached) =
        (projection manufacturer statuses table).map serialize ∧
      (∃ snapshotId, ∀ i ≤ last, ∀ update ∈ (broadcastAt manufacturer table calls cached i).updates,
        update.snapshotId = snapshotId) ∧
      ∀ i ≤ last, ∃ others,
        (broadcastAt manufacturer table calls cached i).updates.map DeviceUpdate.isFinalChunk =
          List.replicate others false ++ [true] := by
  have hcontinues : Continues (projection manufacturer statuses table)
      (readCursor (cached 0)) := .inl (by rw [hconsecutive.start])
  obtain ⟨last, hlast, hbefore, hrows, hids⟩ :=
    exists_complete hkeys hpositive hconsecutive hstatuses _ 0 hcontinues (Nat.lt_succ_self _)
  simp only [Nat.zero_add] at hlast hbefore hrows hids
  refine ⟨last, hlast, hbefore, ?_, ⟨_, hids⟩, fun i _ => broadcast_finals ..⟩
  rw [hconsecutive.start] at hrows
  refine hrows.trans (congrArg (List.map serialize) (List.filter_eq_self.mpr fun row hrow => ?_))
  exact decide_eq_true (hpositive row (List.mem_of_mem_filter ((byKey_perm _ _).mem_iff.mp hrow)))

end Run

def racks : List Chassis :=
  [7, 3, 5].map fun pk => { Chassis.unsaved ⟨1, "shure", true⟩ with pk := pk }

def pairwiseCall : BroadcastCall where
  broadcastNamespace := "poll"
  maxDevices := 2
  chunkSize := 1
  statuses := none
  timestamp := 0
  token := ⟨"T", by decide⟩

/-- The first call finds nothing, every second one the cursor of the call before it. -/
def pairwiseCached (i : Nat) : Option DeviceBroadcastCursor :=
  if i = 0 then none else some (if i % 2 = 1 then ⟨5, "T"⟩ else {})

theorem pairwise_consecutive : Consecutive ⟨1, "shure", true⟩ racks
    (fun _ => pairwiseCall) pairwiseCached where
  broadcastNamespace _ := rfl
  start := rfl
  kept i := by
    have hcached : readCursor (pairwiseCached i) = if i % 2 = 1 then ⟨5, "T"⟩ else {} := by
      cases i <;> rfl
    have hsent : ∀ state ∈ [({} : DeviceBroadcastCursor), ⟨5, "T"⟩],
        (broadcast ⟨1, "shure", true⟩ racks pairwiseCall state).cursor =
          if state = {} then ⟨5, "T"⟩ else {} := by decide +kernel
    show (if (i + 1) % 2 = 1 then (⟨5, "T"⟩ : DeviceBroadcastCursor) else {}) =
      (broadcast ⟨1, "shure", true⟩ racks pairwiseCall (readCursor (pairwiseCached i))).cursor
    rw [hcached]
    rcases Nat.mod_two_eq_zero_or_one i with heven | hodd
    · rw [hsent _ (by simp [heven]), if_pos (by omega), if_pos (by simp [heven])]
    · rw [hsent _ (by simp [hodd]), if_neg (by omega), if_neg (by simp [hodd])]

theorem snapshot_exactly_once_racks :
    (∃ last, (List.range (last + 1)).flatMap
        (rowsAt ⟨1, "shure", true⟩ racks (fun _ => pairwiseCall) pairwiseCached) =
      (projection ⟨1, "shure", true⟩ none racks).map serialize) ∧
      (rowsAt ⟨1, "shure", true⟩ racks (fun _ => pairwiseCall) pairwiseCached 0).map
        SerializedDevice.id = [3, 5] ∧
      (rowsAt ⟨1, "shure", true⟩ racks (fun _ => pairwiseCall) pairwiseCached 1).map
        SerializedDevice.id = [7] := by
  obtain ⟨last, -, -, hrows, -⟩ :=
    @snapshot_exactly_once ⟨1, "shure", true⟩ racks (fun _ => pairwiseCall)
    pairwiseCached none (by decide) (by decide) pairwise_consecutive fun _ => rfl
  exact ⟨⟨last, hrows⟩, by decide +kernel, by decide +kernel⟩

end DeviceSnapshotBroadcastService

end Micboard
