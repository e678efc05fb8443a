import Micboard.AlertFanout

/-! The evaluation of a manufacturer's units after a poll: what a unit's conditions make of its
recipients, the deduplicated creation of alerts under the delivery budget, and the scan over the
units. A run reads the clock once. The exceptions that the scan catches for a single unit come from
the database and are not modelled, and neither is the snapshot that an alert stores of its unit. -/

namespace Micboard

open Library.Budget AlertFanoutService

inductive AlertType where
  | batteryLow | batteryCritical | signalLoss | audioLow | hardwareOffline | hardwareOnline
  deriving DecidableEq, Repr

inductive AlertStatus where
  | pending | sent | acknowledged | resolved | failed
  deriving DecidableEq, Repr

/-- What makes two alerts similar. -/
structure AlertKey where
  channel : Nat
  user : Nat
  alertType : AlertType
  deriving DecidableEq, Repr

structure Alert where
  id : Nat
  key : AlertKey
  assignment : Nat
  message : String
  status : AlertStatus
  createdAt : Time
  deriving DecidableEq, Repr

/-- The minutes between similar alerts of a user. -/
def alertInterval (user : AlertUser) : Nat :=
  (user.preferences.map UserAlertPreference.minAlertInterval).getD 5

/-- `timedelta(minutes=minutes)` in microseconds. -/
def minutes (count : Nat) : Time := 60000000 * count

/-- The pending or sent alerts of a key that were created within the interval. -/
def recentAlerts (alerts : List Alert) (key : AlertKey) (now : Time) (interval : Nat) : List Alert :=
  alerts.filter fun alert => alert.key = key &&
    (alert.status = .pending || alert.status = .sent) && now - minutes interval ≤ alert.createdAt

/-- A primary key that no alert has. -/
def nextAlertId (alerts : List Alert) : Nat := (alerts.map Alert.id).foldr max 0 + 1

/-- What an alert run works with: the users, the clock and the alerts whose e-mail fails. -/
structure AlertEnvironment where
  users : AlertUsers
  now : Time
  emailFails : Nat → Bool := fun _ => false

/-- What a run leaves behind for the next one. -/
structure AlertState where
  unitCursor : Nat := 0
  transmitterFirst : Bool := false
  fanout : FanoutCursors := {}
  alerts : List Alert := []

/-- A delivery that a run has claimed. -/
structure DeliveryAttempt where
  unit : Nat
  user : Nat
  alertType : AlertType
  deriving DecidableEq, Repr

/-- A run with its budget and the attempts that it has made so far. -/
structure AlertRun where
  state : AlertState
  budget : AlertFanoutBudget
  attempts : List DeliveryAttempt := []

/-- An alert that a check asks for. -/
structure AlertRequest where
  assignment : PerformerAssignment
  user : Nat
  alertType : AlertType
  message : String

namespace AlertDeliveryService

variable (env : AlertEnvironment) (unit : WirelessUnit)

/-- Deduplicate and persist one alert; a failed e-mail marks it. -/
def persistAlert (channel : Nat) (request : AlertRequest) (alerts : List Alert) : List Alert :=
  let key : AlertKey := ⟨channel, request.user, request.alertType⟩
  let interval := alertInterval (env.users.user request.user)
  if (recentAlerts alerts key env.now interval).isEmpty then
    let id := nextAlertId alerts
    alerts ++ [⟨id, key, request.assignment.pk, request.message,
      if env.emailFails id then .failed else .pending, env.now⟩]
  else alerts

/-- Revalidate, claim a delivery and persist. -/
def createScopedAlert (request : AlertRequest) (run : AlertRun) : AlertRun :=
  match unit.assignedResource with
  | none => run
  | some channel =>
    if currentAuthorizedRecipient env.users unit request.assignment request.user then
      let (claimed, budget) := run.budget.claimDelivery
      if claimed then
        { state := { run.state with alerts := persistAlert env channel request run.state.alerts }
          budget := budget
          attempts := run.attempts ++ [⟨unit.pk, request.user, request.alertType⟩] }
      else { run with budget := budget }
    else run

/-- Create an alert when the recipient remains active, assigned, and in scope. -/
def createAlert (run : AlertRun) (request : AlertRequest) : AlertRun :=
  if recipientHasUnitScope env.users unit request.user then
    if run.budget.remainingDeliveries = 0 then
      { run with budget := { run.budget with deliveriesTruncated := true } }
    else createScopedAlert env unit request run
  else run

end AlertDeliveryService

/-- Battery level as percentage of the 255-scale raw value. -/
def getBatteryPercentage (unit : WirelessUnit) : Option Nat :=
  if unit.battery = 255 then none else some (min 100 (unit.battery * 100 / 255))

def signalLoss (unit : WirelessUnit) : Bool := unit.rfLevel.any (· < -80)

def audioLow (unit : WirelessUnit) : Bool := unit.audioLevel.any (· < -40)

namespace AlertManager

open AlertDeliveryService

/-- Enabled transmitter alert candidates for one recipient. -/
def transmitterAlertsForRecipient (unit : WirelessUnit) (user : AlertUser)
    (assignment : PerformerAssignment) : List (AlertType × String) :=
  let critical := (user.preferences.map UserAlertPreference.batteryCriticalThreshold).getD 10
  let low := (user.preferences.map UserAlertPreference.batteryLowThreshold).getD 20
  (match getBatteryPercentage unit with
    | some percentage =>
      if !assignment.alertOnBatteryLow then []
      else if percentage ≤ critical then
        [(.batteryCritical, s!"Battery critically low: {percentage}% - {assignment.performer}")]
      else if percentage ≤ low then
        [(.batteryLow, s!"Battery low: {percentage}% - {assignment.performer}")]
      else []
    | none => []) ++
  (if assignment.alertOnSignalLoss && signalLoss unit then
    [(.signalLoss, s!"Signal loss detected: RF level {unit.rfLevel.getD 0}dB")] else []) ++
  (if assignment.alertOnAudioLow && audioLow unit then
    [(.audioLow, s!"Audio level too low: {unit.audioLevel.getD 0}dB")] else [])

def alertsForRecipient (unit : WirelessUnit) (user : AlertUser) (assignment : PerformerAssignment) :
    AlertScope → List (AlertType × String)
  | .transmitter => transmitterAlertsForRecipient unit user assignment
  | .offline => [(.hardwareOffline, s!"Device offline: {unit.name}")]

/-- The requests for a page of assignments and its recipients, in the order in which they are
delivered. -/
def requests (users : AlertUsers) (unit : WirelessUnit) (scope : AlertScope)
    (assignments : List PerformerAssignment) (recipients : List RecipientPair) : List AlertRequest :=
  assignments.flatMap fun assignment =>
    (recipientsOf recipients assignment).flatMap fun user =>
      (alertsForRecipient unit (users.user user) assignment scope).map fun alert =>
        ⟨assignment, user, alert.1, alert.2⟩

/-- Fan a scope out to a page of assignments and recipients. -/
def fanOut (env : AlertEnvironment) (unit : WirelessUnit) (scope : AlertScope) (run : AlertRun) :
    AlertRun :=
  let (assignments, cursors, budget) :=
    assignmentsForUnit unit scope run.state.fanout run.budget
  let (recipients, cursors, budget) :=
    recipientsForAssignments env.users unit assignments scope cursors budget
  (requests env.users unit scope assignments recipients).foldl (createAlert env unit)
    { run with state := { run.state with fanout := cursors }, budget := budget }

/-- Whether a unit's conditions give a scope anything to check. -/
def isChecked (unit : WirelessUnit) : AlertScope → Bool
  | .transmitter => (getBatteryPercentage unit).isSome || signalLoss unit || audioLow unit
  | .offline => unit.status ≠ .online

def checkWirelessUnitAlerts (env : AlertEnvironment) (unit : WirelessUnit)
    (run : AlertRun) : AlertRun :=
  if isChecked unit .transmitter then fanOut env unit .transmitter run else run

def checkHardwareOfflineAlerts (env : AlertEnvironment) (unit : WirelessUnit) (run : AlertRun) :
    AlertRun :=
  if isChecked unit .offline then fanOut env unit .offline run else run

end AlertManager

def hardPollAlertMaxUnits : Nat := 500

structure PollAlertScanResult where
  scanned : Nat
  truncated : Bool
  unitsTruncated : Bool
  limit : Nat
  budget : AlertFanoutBudget

/-- What a scan comes to: its result, the state it leaves, the units it selected and scanned, and the
deliveries it attempted. -/
structure PollAlertScan where
  result : PollAlertScanResult
  state : AlertState
  boundedUnits : List WirelessUnit
  scannedUnits : List WirelessUnit
  attempts : List DeliveryAttempt

namespace PollAlertService

open AlertManager

def scanLimit (settings : PollAlertSettings) : Nat :=
  min (max settings.maxUnits.toNat 1) hardPollAlertMaxUnits

/-- The units with an active recipient. -/
def candidates (users : AlertUsers) (units : List WirelessUnit) : List WirelessUnit :=
  units.filter fun unit => unit.assignments.any fun assignment =>
    assignment.isActive && assignment.monitoringGroup.isActive &&
      assignment.monitoringGroup.users.any fun user => (users.user user).isActive

/-- The units of a scan, and whether the limit leaves any over. -/
def selectUnits (limit cursor : Nat) (candidates : List WirelessUnit) : List WirelessUnit × Bool :=
  let afterCursor :=
    (byKey WirelessUnit.pk (candidates.filter fun unit => cursor < unit.pk)).take (limit + 1)
  let boundedUnits := afterCursor.take limit
  let truncated := decide (limit < afterCursor.length)
  if !truncated && 0 < cursor then
    let remaining := limit - boundedUnits.length
    let wrapped :=
      (byKey WirelessUnit.pk (candidates.filter fun unit => unit.pk ≤ cursor)).take (remaining + 1)
    (boundedUnits ++ wrapped.take remaining, decide (remaining < wrapped.length))
  else (boundedUnits, truncated)

/-- Both checks of a unit; the cursor moves on to it. -/
def evaluateUnit (env : AlertEnvironment) (transmitterFirst : Bool) (run : AlertRun)
    (unit : WirelessUnit) : AlertRun :=
  let run :=
    if transmitterFirst then
      checkHardwareOfflineAlerts env unit (checkWirelessUnitAlerts env unit run)
    else checkWirelessUnitAlerts env unit (checkHardwareOfflineAlerts env unit run)
  { run with state := { run.state with unitCursor := unit.pk } }

/-- Units one after the other until the budget is spent. Also the units that were scanned. -/
def scanUnits (env : AlertEnvironment) (transmitterFirst : Bool) :
    List WirelessUnit → AlertRun → List WirelessUnit × AlertRun
  | [], run => ([], run)
  | unit :: rest, run =>
    let run := evaluateUnit env transmitterFirst run unit
    if run.budget.truncated || run.budget.exhausted then ([unit], run)
    else
      let (scanned, run) := scanUnits env transmitterFirst rest run
      (unit :: scanned, run)

/-- Evaluate assigned units without allowing an unbounded post-poll scan. -/
def evaluateManufacturer (settings : PollAlertSettings) (env : AlertEnvironment)
    (units : List WirelessUnit) (state : AlertState) : PollAlertScan :=
  let limit := scanLimit settings
  let (boundedUnits, truncated) :=
    selectUnits limit state.unitCursor (candidates env.users units)
  let started :=
    if boundedUnits.isEmpty then state else { state with transmitterFirst := !state.transmitterFirst }
  let (scanned, run) := scanUnits env state.transmitterFirst boundedUnits
    ⟨started, .fromSettings settings, []⟩
  let unitsTruncated := truncated || decide (scanned.length < boundedUnits.length)
  { result :=
      { scanned := scanned.length
        truncated := unitsTruncated || run.budget.truncated
        unitsTruncated := unitsTruncated
        limit := limit
        budget := run.budget }
    state := run.state
    boundedUnits := boundedUnits
    scannedUnits := scanned
    attempts := run.attempts }

/-! ### The units of a scan -/

/-- The units of a scan are a turn, and they are truncated exactly if there are more. -/
theorem selectUnits_eq {units : List WirelessUnit} (hpositive : ∀ unit ∈ units, 0 < unit.pk)
    (limit cursor : Nat) :
    selectUnits limit cursor units =
      (turn WirelessUnit.pk units limit cursor, decide (limit < units.length)) := by
  have hcount := @length_byKey_add_length_byKey _ _ _ WirelessUnit.pk units cursor
  rw [selectUnits, turn_eq_append]
  generalize hafter : byKey WirelessUnit.pk (units.filter fun unit => cursor < unit.pk) =
    later at hcount ⊢
  generalize hbefore :
    byKey WirelessUnit.pk (units.filter fun unit => unit.pk ≤ cursor) = earlier at hcount ⊢
  have hzero : cursor = 0 → earlier = [] := by
    rintro rfl
    rw [← hbefore, filter_le_zero hpositive]
    rfl
  simp only [List.take_take, List.length_take, Nat.min_eq_left (Nat.le_succ limit)]
  split
  next hwrap =>
    simp only [Bool.and_eq_true, Bool.not_eq_true', decide_eq_false_iff_not, decide_eq_true_eq] at hwrap
    rw [Nat.min_eq_left (Nat.le_succ _)]
    refine Prod.ext rfl (decide_eq_decide.mpr ?_)
    omega
  next hwrap =>
    simp only [Bool.and_eq_true, Bool.not_eq_true', decide_eq_false_iff_not, decide_eq_true_eq,
      not_and_or, not_not] at hwrap
    rcases hwrap with hmore | hstart
    · have hnone : limit - min limit later.length = 0 := by omega
      rw [hnone, List.take_zero, List.append_nil]
      refine Prod.ext rfl (decide_eq_decide.mpr ?_)
      omega
    · have hnone := hzero (by omega)
      subst hnone
      rw [List.take_nil, List.append_nil]
      refine Prod.ext rfl (decide_eq_decide.mpr ?_)
      rw [List.length_nil] at hcount
      omega

/-- A scan starts with its first unit and leaves the cursor at its last one. -/
theorem scanUnits_visit (env : AlertEnvironment) (transmitterFirst : Bool) (units : List WirelessUnit)
    (run : AlertRun) :
    (scanUnits env transmitterFirst units run).1 <+: units ∧
      (scanUnits env transmitterFirst units run).2.state.unitCursor =
        advance WirelessUnit.pk run.state.unitCursor (scanUnits env transmitterFirst units run).1 ∧
      (units ≠ [] → (scanUnits env transmitterFirst units run).1 ≠ []) := by
  induction units generalizing run with
  | nil => exact ⟨List.prefix_refl _, rfl, fun h => absurd rfl h⟩
  | cons unit rest ih =>
      rw [scanUnits]
      split
      next => exact ⟨⟨rest, rfl⟩, rfl, fun _ => List.cons_ne_nil _ _⟩
      next =>
        obtain ⟨hstarts, hcursor, -⟩ := ih (evaluateUnit env transmitterFirst run unit)
        generalize scanUnits env transmitterFirst rest (evaluateUnit env transmitterFirst run unit) =
          later at hstarts hcursor ⊢
        obtain ⟨scanned, run'⟩ := later
        refine ⟨List.cons_prefix_cons.mpr ⟨rfl, hstarts⟩, ?_, fun _ => List.cons_ne_nil _ _⟩
        rw [hcursor]
        cases scanned with
        | nil => rfl
        | cons first more =>
            rw [advance, advance, List.getLast?_cons_cons]
            rfl

end PollAlertService

end Micboard
