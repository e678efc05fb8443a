import Micboard.ChassisModel
import Micboard.LibraryRun

/-! The stored status of a realtime connection. A subscription keeps one instance of the row and
decides by the status of that instance what to write for a message: the whole row, or only the time
of the message. Health sweeps change the row by bulk updates, between their queries and behind the
instance, and other workers save whole rows from instances of their own. -/

namespace Micboard

open Library

inductive ConnectionStatus where
  | connecting | connected | disconnected | error | stopped
  deriving DecidableEq, Repr

/-- A `RealTimeConnection` row or instance. -/
structure RealTimeConnection where
  pk : Nat
  connectionType : String
  status : ConnectionStatus := .disconnected
  connectedAt : Option Time := none
  lastMessageAt : Option Time := none
  disconnectedAt : Option Time := none
  errorMessage : String := ""
  errorCount : Nat := 0
  lastErrorAt : Option Time := none
  reconnectAttempts : Nat := 0
  maxReconnectAttempts : Nat := 5
  updatedAt : Time
  deriving DecidableEq, Repr

namespace RealTimeConnection

/-- `conn.save()`: the row is the instance, with the time of the save. -/
def save (conn : RealTimeConnection) (now : Time) : RealTimeConnection := { conn with updatedAt := now }

/-- Record a successful connection and reset its consecutive error state. -/
def markConnected (conn : RealTimeConnection) (now : Time) : RealTimeConnection :=
  { conn with
    status := .connected
    connectedAt := some now
    lastMessageAt := some now
    disconnectedAt := none
    errorCount := 0
    errorMessage := ""
    reconnectAttempts := 0 }

/-- Record one redacted transport error for an active connection row. -/
def markError (conn : RealTimeConnection) (errorMessage : String) (now : Time) : RealTimeConnection :=
  { conn with
    status := .error
    errorMessage
    errorCount := conn.errorCount + 1
    lastErrorAt := some now }

/-- Mark a connection attempt as in progress. -/
def markConnecting (conn : RealTimeConnection) : RealTimeConnection :=
  { conn with status := .connecting }

/-- Record an intentional connection stop. -/
def markStopped (conn : RealTimeConnection) (now : Time) : RealTimeConnection :=
  { conn with status := .stopped, disconnectedAt := some now }

end RealTimeConnection

/-- What a subscription records when it ends. -/
inductive Recording where
  | error (message : String)
  | stopped
  deriving DecidableEq, Repr

def Recording.mark (recording : Recording) (conn : RealTimeConnection)
    (now : Time) : RealTimeConnection :=
  match recording with
  | error message => (conn.markError message now).save now
  | stopped => (conn.markStopped now).save now

/-- Create connection tracking: the instance, and the row that it was saved as. A row that exists
takes the type first; `pk` is the key of a new one. -/
def getOrCreateConnection (existing : Option RealTimeConnection) (pk : Nat) (connectionType : String)
    (now : Time) : RealTimeConnection :=
  let connection : RealTimeConnection := match existing with
    | none => { pk, connectionType, updatedAt := now }
    | some row => { row with connectionType, updatedAt := now }
  connection.markConnecting.save now

namespace RealtimeConnectionHealthService

def maxConnectionsPerSweep : Nat := 500

def staleConnectionMessage : String := "Connection appears stale - no messages received"

/-- `timedelta(minutes=n)`. -/
def ofMinutes (n : Int) : Time := n * 60000000

/-- `filter(status=…, column__lt=limit)`: a null is not before the limit. -/
def eligible (status : ConnectionStatus) (column : RealTimeConnection → Option Time) (limit : Time)
    (row : RealTimeConnection) : Bool :=
  row.status = status && (column row).any fun time => time < limit

/-- `order_by(column, "pk")`, for rows that have the column. -/
def before (column : RealTimeConnection → Option Time) (first second : RealTimeConnection) : Bool :=
  (column first).getD 0 < (column second).getD 0 ||
    ((column first).getD 0 = (column second).getD 0 && first.pk ≤ second.pk)

/-- The oldest eligible rows, as many as one sweep takes. -/
def boundedIds (status : ConnectionStatus) (column : RealTimeConnection → Option Time) (limit : Time)
    (table : List RealTimeConnection) : List Nat :=
  (((table.filter (eligible status column limit)).mergeSort (before column)).map
    RealTimeConnection.pk).take
    maxConnectionsPerSweep

def staleIds (now : Time) (table : List RealTimeConnection) : List Nat :=
  boundedIds .connected RealTimeConnection.lastMessageAt (now - ofMinutes 10) table

def errorIds (now : Time) (table : List RealTimeConnection) : List Nat :=
  boundedIds .error RealTimeConnection.lastErrorAt (now - ofMinutes 60) table

/-- The bulk update of a stale row. -/
def disconnectStale (now : Time) (row : RealTimeConnection) : RealTimeConnection :=
  { row with
    status := .disconnected
    disconnectedAt := some now
    errorMessage := staleConnectionMessage
    errorCount := row.errorCount + 1
    lastErrorAt := some now
    updatedAt := now }

/-- The bulk update of a row with an old error. -/
def resetError (now : Time) (row : RealTimeConnection) : RealTimeConnection :=
  { row with
    status := .disconnected
    disconnectedAt := some now
    errorCount := 0
    errorMessage := ""
    updatedAt := now }

/-- Where a sweep is between its four statements; its time is read at its start. -/
inductive SweepPhase where
  | idle
  | staleSelected (now : Time) (ids : List Nat)
  | staleUpdated (now : Time)
  | errorsSelected (now : Time) (ids : List Nat)
  deriving DecidableEq, Repr

/-- The next statement of a sweep: what it does to the row, and its next phase. The other rows of
the table are whatever they are at that time. -/
def SweepPhase.next (phase : SweepPhase) (now : Time) (others : List RealTimeConnection)
    (row : RealTimeConnection) : RealTimeConnection × SweepPhase :=
  match phase with
  | idle => (row, staleSelected now (staleIds now (row :: others)))
  | staleSelected now ids => (if row.pk ∈ ids then disconnectStale now row else row, staleUpdated now)
  | staleUpdated now => (row, errorsSelected now (errorIds now (row :: others)))
  | errorsSelected now ids => (if row.pk ∈ ids then resetError now row else row, idle)

/-- The next statement of a sweep updates the row. -/
def SweepPhase.Updates (phase : SweepPhase) (row : RealTimeConnection) : Bool :=
  match phase with
  | staleSelected _ ids | errorsSelected _ ids => row.pk ∈ ids
  | idle | staleUpdated _ => false

end RealtimeConnectionHealthService

open RealtimeConnectionHealthService

/-! ### Interleavings -/

/-- The row, the instance of the subscription, those of other workers, and the sweeps on their way. -/
structure ConnectionSystem where
  row : RealTimeConnection
  object : RealTimeConnection
  workers : Nat → RealTimeConnection
  sweeps : Nat → SweepPhase

inductive ConnectionEvent where
  | message (now : Time)
  | record (recording : Recording) (now : Time)
  | workerLoads (worker : Nat)
  | workerRecords (worker : Nat) (recording : Recording) (now : Time)
  | sweep (sweep : Nat) (now : Time) (others : List RealTimeConnection)

namespace ConnectionSystem

/-- Record message activity and establish a previously pending connection. -/
def receivedMessage (system : ConnectionSystem) (now : Time) : ConnectionSystem :=
  if system.object.status ≠ .connected then
    let object := (system.object.markConnected now).save now
    { system with object, row := object }
  else
    { system with
      object := { system.object with lastMessageAt := some now }
      row := { system.row with lastMessageAt := some now } }

def step (system : ConnectionSystem) : ConnectionEvent → ConnectionSystem
  | .message now => system.receivedMessage now
  | .record recording now =>
    let object := recording.mark system.object now
    { system with object, row := object }
  | .workerLoads worker => { system with workers := Function.update system.workers worker system.row }
  | .workerRecords worker recording now =>
    let object := recording.mark (system.workers worker) now
    { system with workers := Function.update system.workers worker object, row := object }
  | .sweep sweep now others =>
    let (row, phase) := (system.sweeps sweep).next now others system.row
    { system with row, sweeps := Function.update system.sweeps sweep phase }

/-- A subscription has got its connection; the rest is as it happens to be. -/
def opened (existing : Option RealTimeConnection) (pk : Nat) (connectionType : String) (now : Time)
    (workers : Nat → RealTimeConnection) (sweeps : Nat → SweepPhase) : ConnectionSystem :=
  let connection := getOrCreateConnection existing pk connectionType now
  { row := connection, object := connection, workers, sweeps }

/-- The event writes the row from outside the subscription. -/
def Strikes (system : ConnectionSystem) : ConnectionEvent → Bool
  | .workerRecords _ _ _ => true
  | .sweep sweep _ _ => (system.sweeps sweep).Updates system.row
  | .message _ | .record _ _ | .workerLoads _ => false

/-- The event has the subscription write the whole row. -/
def Rewrites (system : ConnectionSystem) : ConnectionEvent → Bool
  | .message _ => system.object.status ≠ .connected
  | .record _ _ => true
  | .workerLoads _ | .workerRecords _ _ _ | .sweep _ _ _ => false

/-- One step, and whether the row was struck since the subscription last wrote the whole of it. -/
def observe (state : ConnectionSystem × Bool) (event : ConnectionEvent) : ConnectionSystem × Bool :=
  (state.1.step event, !state.1.Rewrites event && (state.2 || state.1.Strikes event))

/-- The row was struck since the subscription last wrote the whole of it. -/
def struckAfter (start : ConnectionSystem) (events : List ConnectionEvent) : Bool :=
  (events.foldl observe (start, false)).2

/-- The stored row says that a message of this time was received on an established connection. -/
def Recovered (system : ConnectionSystem) (now : Time) : Prop :=
  system.row.status = .connected ∧ system.row.disconnectedAt = none ∧
    system.row.lastMessageAt = some now

theorem foldl_observe_fst (events : List ConnectionEvent) (start : ConnectionSystem) (struck : Bool) :
    (events.foldl observe (start, struck)).1 = events.foldl step start := by
  induction events generalizing start struck with
  | nil => rfl
  | cons event rest ih => exact ih _ _

/-- While the instance says connected, the row does so exactly if it was not struck. -/
def Tracks (state : ConnectionSystem × Bool) : Prop :=
  state.1.object.status = .connected →
    (state.2 = false → state.1.row.status = .connected ∧ state.1.row.disconnectedAt = none) ∧
      (state.2 = true → state.1.row.status ≠ .connected)

theorem mark_status (recording : Recording) (conn : RealTimeConnection) (now : Time) :
    (recording.mark conn now).status ≠ .connected := by
  cases recording <;> exact ConnectionStatus.noConfusion

theorem next_row (phase : SweepPhase) (now : Time) (others : List RealTimeConnection)
    (row : RealTimeConnection) :
    (phase.Updates row = false → (phase.next now others row).1 = row) ∧
      (phase.Updates row = true → (phase.next now others row).1.status = .disconnected) := by
  cases phase with
  | idle => simp [SweepPhase.Updates, SweepPhase.next]
  | staleUpdated now => simp [SweepPhase.Updates, SweepPhase.next]
  | staleSelected now ids =>
      by_cases hids : row.pk ∈ ids
      · simp [SweepPhase.Updates, SweepPhase.next, hids, disconnectStale]
      · simp [SweepPhase.Updates, SweepPhase.next, hids]
  | errorsSelected now ids =>
      by_cases hids : row.pk ∈ ids
      · simp [SweepPhase.Updates, SweepPhase.next, hids, resetError]
      · simp [SweepPhase.Updates, SweepPhase.next, hids]

/-- **Every step keeps track of the row.** -/
theorem tracks_observe {state : ConnectionSystem × Bool} (h : Tracks state) (event : ConnectionEvent) :
    Tracks (observe state event) := by
  obtain ⟨system, struck⟩ := state
  intro hconnected
  cases event with
  | message now =>
      by_cases hobject : system.object.status = .connected
      · obtain ⟨hfresh, hstruck⟩ := h hobject
        simp only [observe, step, receivedMessage, Rewrites, Strikes, hobject, ne_eq, not_true_eq_false,
          decide_false, if_false, Bool.not_false, Bool.true_and, Bool.or_false]
        exact ⟨hfresh, hstruck⟩
      · simp only [observe, step, receivedMessage, Rewrites, hobject, ne_eq,
          not_false_eq_true, decide_true,
          if_true, Bool.not_true, Bool.false_and]
        exact ⟨fun _ => ⟨rfl, rfl⟩, fun h => absurd h Bool.false_ne_true⟩
  | record recording now => exact absurd hconnected (mark_status recording _ now)
  | workerLoads worker =>
      obtain ⟨hfresh, hstruck⟩ := h hconnected
      simp only [observe, step, Rewrites, Strikes, Bool.not_false, Bool.true_and, Bool.or_false]
      exact ⟨hfresh, hstruck⟩
  | workerRecords worker recording now =>
      simp only [observe, step, Rewrites, Strikes, Bool.not_false, Bool.true_and, Bool.or_true]
      exact ⟨fun h => absurd h.symm Bool.false_ne_true, fun _ => mark_status recording _ now⟩
  | sweep sweep now others =>
      obtain ⟨hfresh, hstruck⟩ := h hconnected
      obtain ⟨hkept, hupdated⟩ := next_row (system.sweeps sweep) now others system.row
      simp only [observe, step, Rewrites, Strikes, Bool.not_false, Bool.true_and]
      cases hupdates : (system.sweeps sweep).Updates system.row with
      | true =>
          rw [Bool.or_true, hupdated hupdates]
          exact ⟨fun h => absurd h.symm Bool.false_ne_true, fun _ => ConnectionStatus.noConfusion⟩
      | false =>
          rw [Bool.or_false, hkept hupdates]
          exact ⟨hfresh, hstruck⟩

/-- **What one message leaves** is a recovered row exactly if the instance is not connected or the
row was not struck. -/
theorem recovered_receivedMessage {system : ConnectionSystem} {struck : Bool}
    (h : Tracks (system, struck))
    (now : Time) : (system.receivedMessage now).Recovered now ↔
      (system.object.status = .connected → struck = false) := by
  rw [receivedMessage]
  by_cases hobject : system.object.status = .connected
  · obtain ⟨hfresh, hstruck⟩ := h hobject
    rw [if_neg (not_not.mpr hobject)]
    cases struck with
    | true => simp [Recovered, hobject, hstruck rfl]
    | false => simpa [Recovered, hobject] using hfresh rfl
  · rw [if_pos hobject]
    simp [Recovered, RealTimeConnection.markConnected, RealTimeConnection.save, hobject]

section Run

variable (existing : Option RealTimeConnection) (pk : Nat) (connectionType : String) (now : Time)
  (workers : Nat → RealTimeConnection) (sweeps : Nat → SweepPhase)

theorem tracks_opened : Tracks (opened existing pk connectionType now workers sweeps, false) :=
  fun h => absurd h ConnectionStatus.noConfusion

theorem tracks_run (events : List ConnectionEvent) :
    Tracks (events.foldl observe (opened existing pk connectionType now workers sweeps, false)) := by
  have hstep : ∀ state (event : ConnectionEvent), Tracks state → True → Tracks (observe state event) :=
    fun _ event htracks _ => tracks_observe htracks event
  exact foldl_always hstep (tracks_opened existing pk connectionType now workers sweeps)
    (fun _ _ _ _ => trivial)
    events [] (List.append_nil events).symm

/-- **Every message of a run leaves a recovered row** exactly if each one that comes while the
instance says connected comes before the row is struck. -/
theorem connection_recovers_iff (events : List ConnectionEvent) :
    let start := opened existing pk connectionType now workers sweeps
    (∀ seen time rest, events = seen ++ .message time :: rest →
        ((seen ++ [.message time]).foldl step start).Recovered time) ↔
      ∀ seen time rest, events = seen ++ .message time :: rest →
        (seen.foldl step start).object.status = .connected → start.struckAfter seen = false := by
  intro start
  refine forall_congr' fun seen => forall_congr' fun time => forall_congr' fun rest =>
    imp_congr_right fun _ => ?_
  have htracks := tracks_run existing pk connectionType now workers sweeps seen
  have hstate : seen.foldl observe (start, false) = (seen.foldl step start, start.struckAfter seen) :=
    Prod.ext (foldl_observe_fst seen start false) rfl
  rw [hstate] at htracks
  rw [List.foldl_append]
  exact recovered_receivedMessage htracks time

end Run

/-- A subscription that is opened, with an idle sweep. -/
def freshSubscription : ConnectionSystem :=
  opened none 1 "sse" 0 (fun _ => { pk := 1, connectionType := "sse", updatedAt := 0 }) fun _ => .idle

/-- A message, a sweep eleven minutes later, and another message. -/
def quietStream : List ConnectionEvent :=
  [.message 0, .sweep 0 (ofMinutes 11) [], .sweep 0 (ofMinutes 11) [], .message (ofMinutes 12)]

theorem message_leaves_disconnected :
    ¬∀ seen time rest, quietStream = seen ++ .message time :: rest →
      ((seen ++ [.message time]).foldl step freshSubscription).Recovered time := by
  intro h
  have hrecovered := h (quietStream.take 3) (ofMinutes 12) [] rfl
  have hdisconnected : (quietStream.foldl step freshSubscription).row.status = .disconnected := by
    decide +kernel
  exact absurd (hdisconnected.symm.trans hrecovered.1) ConnectionStatus.noConfusion

end ConnectionSystem

end Micboard
