import Micboard.AlertEvaluation
import Micboard.LibraryHoare

/-! The budget of an alert run under its range checks. Each access to the database sees what other
processes have made of it, or raises; the scan goes on with its next unit then, and the budget keeps
what has been recorded. Every call that records or claims is logged with its outcome. -/

namespace Micboard

open Library.Hoare

/-- What a record or claim call raises. -/
inductive BudgetError where
  | assignmentCount
  | recipientCount
  | counterRange
  deriving DecidableEq, Repr

/-- The text of a `ValueError`; a counter beyond its hard limit fails the validation of its
assignment. -/
def BudgetError.describe : BudgetError → Option String
  | .assignmentCount => some "Assignment count exceeds the remaining alert budget"
  | .recipientCount => some "Recipient count exceeds the remaining alert budget"
  | .counterRange => none

namespace AlertFanoutBudget

variable (budget : AlertFanoutBudget)

def checkedRecordAssignments (count : Nat) (truncated : Bool) : Except BudgetError AlertFanoutBudget :=
  if budget.assignmentLimit < budget.assignmentsEvaluated + count then .error .assignmentCount
  else if hardAlertMaxAssignments < budget.assignmentsEvaluated + count then .error .counterRange
  else .ok (budget.recordAssignments count truncated)

def checkedRecordRecipients (count : Nat) (truncated : Bool) : Except BudgetError AlertFanoutBudget :=
  if budget.recipientLimit < budget.recipientsEvaluated + count then .error .recipientCount
  else if hardAlertMaxRecipients < budget.recipientsEvaluated + count then .error .counterRange
  else .ok (budget.recordRecipients count truncated)

def checkedClaimDelivery : Except BudgetError (Bool × AlertFanoutBudget) :=
  if budget.remainingDeliveries ≠ 0 ∧ hardAlertMaxDeliveries < budget.deliveryAttempts + 1 then
    .error .counterRange
  else .ok budget.claimDelivery

/-- The limits are those of the settings, and no counter is above its limit. -/
structure Within (settings : PollAlertSettings) : Prop where
  assignmentLimit : budget.assignmentLimit =
    boundedSetting settings.maxAssignments hardAlertMaxAssignments
  recipientLimit : budget.recipientLimit = boundedSetting settings.maxRecipients hardAlertMaxRecipients
  deliveryLimit : budget.deliveryLimit = boundedSetting settings.maxDeliveries hardAlertMaxDeliveries
  assignments : budget.assignmentsEvaluated ≤ budget.assignmentLimit
  recipients : budget.recipientsEvaluated ≤ budget.recipientLimit
  deliveries : budget.deliveryAttempts ≤ budget.deliveryLimit

end AlertFanoutBudget

/-- What an access to the database finds: the users and the clock, and a unit as it is stored now. -/
structure AlertAccess where
  env : AlertEnvironment
  unit : WirelessUnit → WirelessUnit
  pk_unit : ∀ loaded, (unit loaded).pk = loaded.pk

/-- An access that finds the units as they were loaded. -/
def AlertAccess.steady (env : AlertEnvironment) : AlertAccess := ⟨env, id, fun _ => rfl⟩

/-- What interrupts the checks of a unit. -/
inductive AlertFault where
  | database
  | budget (error : BudgetError)
  deriving DecidableEq, Repr

/-- A run, how often it has accessed the database, and its record and claim calls. -/
structure AlertProgress where
  run : AlertRun
  accesses : Nat := 0
  calls : List (Except BudgetError AlertFanoutBudget) := []

abbrev AlertStep := ExceptT AlertFault (StateM AlertProgress)

namespace AlertProgress

variable (progress : AlertProgress)

def setBudget (budget : AlertFanoutBudget) : AlertProgress :=
  { progress with run := { progress.run with budget } }

def setFanout (fanout : FanoutCursors) : AlertProgress :=
  { progress with run := { progress.run with state := { progress.run.state with fanout } } }

def setAlerts (alerts : List Alert) : AlertProgress :=
  { progress with run := { progress.run with state := { progress.run.state with alerts } } }

def logCall (outcome : Except BudgetError AlertFanoutBudget) : AlertProgress :=
  { progress with calls := progress.calls ++ [outcome] }

def addAttempt (attempt : DeliveryAttempt) : AlertProgress :=
  { progress with run := { progress.run with attempts := progress.run.attempts ++ [attempt] } }

end AlertProgress

namespace CheckedAlerts

open AlertFanoutService AlertDeliveryService AlertManager PollAlertService

/-- A record or claim call: its outcome is logged, and what it raises is raised. -/
def callBudget (outcome : Except BudgetError AlertFanoutBudget) : AlertStep PUnit := do
  modify fun progress => progress.logCall outcome
  match outcome with
  | .ok budget => modify fun progress => progress.setBudget budget
  | .error e => throw (.budget e)

section Access

variable (found : Nat → Option AlertAccess)

def access : AlertStep AlertAccess := do
  let progress ← get
  set { progress with accesses := progress.accesses + 1 }
  match found progress.accesses with
  | some access => pure access
  | none => throw .database

def assignmentsForUnit (unit : WirelessUnit)
    (scope : AlertScope) : AlertStep (List PerformerAssignment) := do
  let progress ← get
  let limit := progress.run.budget.remainingAssignments
  if limit = 0 then
    set (progress.setBudget { progress.run.budget with assignmentsTruncated := true })
    pure []
  else
    let stored ← access found
    let progress ← get
    let fanout := progress.run.state.fanout
    let key := (scope, unit.pk)
    let page := rotatingPage PerformerAssignment.pk (assignmentRows (stored.unit unit) scope) limit
      (fanout.assignment key)
    set (progress.setFanout
      { fanout with assignment := Function.update fanout.assignment key page.2.2 })
    callBudget (progress.run.budget.checkedRecordAssignments page.1.length page.2.1)
    pure page.1

/-- `recipients_for_assignments`, up to the load of the users. -/
def recipientsForAssignments (unit : WirelessUnit) (assignments : List PerformerAssignment)
    (scope : AlertScope) : AlertStep (List RecipientPair) := do
  let progress ← get
  let limit := progress.run.budget.remainingRecipients
  if limit = 0 then
    set (progress.setBudget { progress.run.budget with recipientsTruncated := true })
    pure []
  else if assignments.isEmpty then pure []
  else
    let stored ← access found
    let progress ← get
    let fanout := progress.run.state.fanout
    let key := (scope, unit.pk)
    let page := rotatingPage (fun pair : RecipientPair => toLex pair)
      (recipientRows stored.env.users assignments) limit (fanout.recipient key)
    set (progress.setFanout { fanout with recipient := Function.update fanout.recipient key page.2.2 })
    callBudget (progress.run.budget.checkedRecordRecipients page.1.length page.2.1)
    pure page.1

def claimDelivery (attempt : DeliveryAttempt) : AlertStep Bool := do
  let progress ← get
  match progress.run.budget.checkedClaimDelivery with
  | .ok (claimed, budget) =>
    callBudget (.ok budget)
    if claimed then modify fun progress => progress.addAttempt attempt
    pure claimed
  | .error e =>
    callBudget (.error e)
    pure false

/-- The persistence of a claimed alert, and the e-mail for a new one. -/
def persistClaimed (channel : Nat) (request : AlertRequest) : AlertStep PUnit := do
  let stored ← access found
  let progress ← get
  let alerts := persistAlert stored.env channel request progress.run.state.alerts
  set (progress.setAlerts alerts)
  if progress.run.state.alerts.length < alerts.length then
    let _email ← access found
    pure ⟨⟩

/-- `_create_scoped_alert`. The claim is made in the transaction that persists the alert, and
survives it. -/
def createScopedAlert (unit : WirelessUnit) (request : AlertRequest) : AlertStep PUnit :=
  match unit.assignedResource with
  | none => pure ⟨⟩
  | some channel => do
    let stored ← access found
    if currentAuthorizedRecipient stored.env.users
      (stored.unit unit) request.assignment request.user then
      let claimed ← claimDelivery ⟨unit.pk, request.user, request.alertType⟩
      if claimed then persistClaimed found channel request

def createAlert (unit : WirelessUnit) (request : AlertRequest) : AlertStep PUnit := do
  let stored ← access found
  if recipientHasUnitScope stored.env.users unit request.user then
    let progress ← get
    if progress.run.budget.remainingDeliveries = 0 then
      set (progress.setBudget { progress.run.budget with deliveriesTruncated := true })
    else createScopedAlert found unit request

/-- The fan-out of a scope. One access stands for the load of the recipients and for the snapshot of the
unit. -/
def fanOut (unit : WirelessUnit) (scope : AlertScope) : AlertStep PUnit := do
  let assignments ← assignmentsForUnit found unit scope
  let recipients ← recipientsForAssignments found unit assignments scope
  let stored ← access found
  (requests stored.env.users unit scope assignments recipients).forM (createAlert found unit)

/-- `check_wireless_unit_alerts` or `check_hardware_offline_alerts`. -/
def checkScope (unit : WirelessUnit) (scope : AlertScope) : AlertStep PUnit :=
  if isChecked unit scope then fanOut found unit scope else pure ⟨⟩

def evaluateUnit (transmitterFirst : Bool) (unit : WirelessUnit) : AlertStep PUnit :=
  if transmitterFirst then do
    checkScope found unit .transmitter
    checkScope found unit .offline
  else do
    checkScope found unit .offline
    checkScope found unit .transmitter

/-- A unit has been scanned, whether its checks have failed or not. -/
def afterUnit (unit : WirelessUnit) (progress : AlertProgress) : AlertProgress :=
  { progress with
    run := { progress.run with state := { progress.run.state with unitCursor := unit.pk } } }

/-- The loop over the units. The units that were scanned, how many of them failed, and the run. -/
def scanUnits (transmitterFirst : Bool) :
    List WirelessUnit → AlertProgress → List WirelessUnit × Nat × AlertProgress
  | [], progress => ([], 0, progress)
  | unit :: rest, progress =>
    let (outcome, checked) := runFrom (evaluateUnit found transmitterFirst unit) progress
    let failed := if outcome.toBool then 0 else 1
    let progress := afterUnit unit checked
    if progress.run.budget.truncated || progress.run.budget.exhausted then ([unit], failed, progress)
    else
      let (scanned, more, progress) := scanUnits transmitterFirst rest progress
      (unit :: scanned, failed + more, progress)

/-- `evaluate_manufacturer`: how many units failed, what it returns or the exception of its first
access, and the run. -/
def evaluateManufacturer (settings : PollAlertSettings) (units : List WirelessUnit)
    (state : AlertState) :
    Nat × Except AlertFault PollAlertScanResult × AlertProgress :=
  let progress : AlertProgress := { run := ⟨state, .fromSettings settings, []⟩ }
  match runFrom (access found) progress with
  | (.error e, progress) => (0, .error e, progress)
  | (.ok stored, progress) =>
    let limit := scanLimit settings
    let (boundedUnits, truncated) :=
      selectUnits limit state.unitCursor (candidates stored.env.users (units.map stored.unit))
    let started :=
      if boundedUnits.isEmpty then state else { state with transmitterFirst := !state.transmitterFirst }
    let (scanned, failed, progress) := scanUnits found state.transmitterFirst boundedUnits
      { progress with run := { progress.run with state := started } }
    let unitsTruncated := truncated || decide (scanned.length < boundedUnits.length)
    let budget := progress.run.budget
    let result : PollAlertScanResult :=
      ⟨scanned.length, unitsTruncated || budget.truncated, unitsTruncated, limit, budget⟩
    (failed, .ok result, progress)

end Access

/-! ### The invariant -/

end CheckedAlerts

namespace AlertFanoutBudget

variable {budget : AlertFanoutBudget} {settings : PollAlertSettings}

theorem boundedSetting_le (value : Int)
    (hardLimit : Nat) : boundedSetting value hardLimit ≤ hardLimit :=
  Nat.min_le_right _ _

theorem within_fromSettings (settings : PollAlertSettings) : (fromSettings settings).Within settings :=
  ⟨rfl, rfl, rfl, Nat.zero_le _, Nat.zero_le _, Nat.zero_le _⟩

theorem Within.truncate (h : budget.Within settings) (assignments recipients deliveries : Bool) :
    { budget with
      assignmentsTruncated := assignments
      recipientsTruncated := recipients
      deliveriesTruncated := deliveries }.Within settings :=
  ⟨h.assignmentLimit, h.recipientLimit, h.deliveryLimit, h.assignments, h.recipients, h.deliveries⟩

theorem Within.assignmentLimit_le (h : budget.Within settings) :
    budget.assignmentLimit ≤ hardAlertMaxAssignments :=
  h.assignmentLimit ▸ boundedSetting_le _ _

theorem Within.recipientLimit_le (h : budget.Within settings) :
    budget.recipientLimit ≤ hardAlertMaxRecipients :=
  h.recipientLimit ▸ boundedSetting_le _ _

theorem Within.deliveryLimit_le (h : budget.Within settings) :
    budget.deliveryLimit ≤ hardAlertMaxDeliveries :=
  h.deliveryLimit ▸ boundedSetting_le _ _

section Record

variable {count : Nat} {truncated : Bool}

theorem Within.checkedRecordAssignments (h : budget.Within settings)
    (hcount : count ≤ budget.remainingAssignments) :
    budget.checkedRecordAssignments count truncated = .ok
      (budget.recordAssignments count truncated) := by
  have hassignments := h.assignments
  have hhard := h.assignmentLimit_le
  rw [remainingAssignments] at hcount
  rw [AlertFanoutBudget.checkedRecordAssignments, if_neg (by omega), if_neg (by omega)]

theorem Within.recordAssignments (h : budget.Within settings)
    (hcount : count ≤ budget.remainingAssignments) :
    (budget.recordAssignments count truncated).Within settings where
  assignmentLimit := h.assignmentLimit
  recipientLimit := h.recipientLimit
  deliveryLimit := h.deliveryLimit
  assignments := by
    have hassignments := h.assignments
    rw [remainingAssignments] at hcount
    show budget.assignmentsEvaluated + count ≤ budget.assignmentLimit
    omega
  recipients := h.recipients
  deliveries := h.deliveries

theorem Within.checkedRecordRecipients (h : budget.Within settings)
    (hcount : count ≤ budget.remainingRecipients) :
    budget.checkedRecordRecipients count truncated = .ok (budget.recordRecipients count truncated) := by
  have hrecipients := h.recipients
  have hhard := h.recipientLimit_le
  rw [remainingRecipients] at hcount
  rw [AlertFanoutBudget.checkedRecordRecipients, if_neg (by omega), if_neg (by omega)]

theorem Within.recordRecipients (h : budget.Within settings)
    (hcount : count ≤ budget.remainingRecipients) :
    (budget.recordRecipients count truncated).Within settings where
  assignmentLimit := h.assignmentLimit
  recipientLimit := h.recipientLimit
  deliveryLimit := h.deliveryLimit
  assignments := h.assignments
  recipients := by
    have hrecipients := h.recipients
    rw [remainingRecipients] at hcount
    show budget.recipientsEvaluated + count ≤ budget.recipientLimit
    omega
  deliveries := h.deliveries

end Record

theorem Within.checkedClaimDelivery (h : budget.Within settings) :
    budget.checkedClaimDelivery = .ok budget.claimDelivery := by
  have hdeliveries := h.deliveries
  have hhard := h.deliveryLimit_le
  rw [AlertFanoutBudget.checkedClaimDelivery, if_neg (by rw [remainingDeliveries]; omega)]

theorem claimDelivery_attempts : budget.claimDelivery.2.deliveryAttempts =
    budget.deliveryAttempts + if budget.claimDelivery.1 then 1 else 0 := by
  rw [claimDelivery]
  split <;> rfl

theorem Within.claimDelivery (h : budget.Within settings) : budget.claimDelivery.2.Within settings := by
  rw [AlertFanoutBudget.claimDelivery]
  split
  next => exact h.truncate _ _ true
  next hremaining =>
    rw [remainingDeliveries] at hremaining
    refine ⟨h.assignmentLimit, h.recipientLimit, h.deliveryLimit, h.assignments, h.recipients, ?_⟩
    show budget.deliveryAttempts + 1 ≤ budget.deliveryLimit
    omega

end AlertFanoutBudget

/-- The budget of the run is within its limits and was so after every call, none of which has
raised. No more alerts have been created than deliveries were claimed, where there were `before`
alerts at the start. -/
structure AlertProgress.Sound (settings : PollAlertSettings) (before : Nat) (progress : AlertProgress) :
    Prop where
  within : progress.run.budget.Within settings
  calls : ∀ call ∈ progress.calls, ∃ budget, call = .ok budget ∧ budget.Within settings
  created : progress.run.state.alerts.length ≤ before + progress.run.budget.deliveryAttempts

namespace CheckedAlerts

open AlertFanoutService AlertDeliveryService AlertManager PollAlertService

section Invariant

variable (found : Nat → Option AlertAccess) (env : AlertEnvironment) (settings : PollAlertSettings)
  (before : Nat)

/-- No access raises, and the users and units stay as they are. -/
def Steady : Prop := ∀ n, found n = some (.steady env)

/-- A sound run, which is `run` while the database is steady. -/
def At (run : AlertRun) (progress : AlertProgress) : Prop :=
  progress.Sound settings before ∧ (Steady found env → progress.run = run)

/-- What a step raises comes from the database, which has not been steady then. -/
def Raised (e : AlertFault) (progress : AlertProgress) : Prop :=
  e = .database ∧ ¬Steady found env ∧ progress.Sound settings before

variable {found env settings before} {progress : AlertProgress}

theorem At.congr {run run' : AlertRun} (h : At found env settings before run progress)
    (heq : Steady found env → run = run') : At found env settings before run' progress :=
  ⟨h.1, fun hsteady => (h.2 hsteady).trans (heq hsteady)⟩

theorem runFrom_access (progress : AlertProgress) :
    runFrom (access found) progress =
      (match found progress.accesses with
        | some stored => .ok stored
        | none => .error .database,
      { progress with accesses := progress.accesses + 1 }) := by
  rw [access, runFrom_bind_of_ok (runFrom_get progress), runFrom_bind_of_ok (runFrom_set _ _)]
  cases found progress.accesses with
  | some stored => rfl
  | none => rfl

theorem runFrom_callBudget_ok (budget : AlertFanoutBudget) (progress : AlertProgress) :
    runFrom (callBudget (.ok budget)) progress =
      (.ok ⟨⟩, (progress.logCall (.ok budget)).setBudget budget) := rfl

/-- A call that does not raise keeps a run sound, where it leaves no fewer attempts recorded. -/
theorem sound_call (h : progress.Sound settings before) {budget : AlertFanoutBudget}
    (hwithin : budget.Within settings)
    (hattempts : progress.run.budget.deliveryAttempts ≤ budget.deliveryAttempts) :
    ((progress.logCall (.ok budget)).setBudget budget).Sound settings before where
  within := hwithin
  calls := by
    intro call hcall
    rcases List.mem_append.mp hcall with hcall | hcall
    · exact h.calls call hcall
    · exact ⟨budget, List.mem_singleton.mp hcall, hwithin⟩
  created := by
    have hcreated := h.created
    show progress.run.state.alerts.length ≤ before + budget.deliveryAttempts
    omega

theorem sound_setFanout (h : progress.Sound settings before) (fanout : FanoutCursors) :
    (progress.setFanout fanout).Sound settings before :=
  ⟨h.within, h.calls, h.created⟩

theorem length_rotatingPage_le {α κ : Type*} [LinearOrder κ] (pk : α → κ) (rows : List α) (limit : Nat)
    (cursor : κ) : (rotatingPage pk rows limit cursor).1.length ≤ limit := by
  rw [rotatingPage]
  exact List.length_take_le _ _

variable (found env settings before)

theorem access_keeps (p : AlertRun → Prop) :
    Triple (fun progress => progress.Sound settings before ∧ p progress.run) (access found)
      (fun stored progress => (Steady found env → stored = .steady env) ∧
        progress.Sound settings before ∧ p progress.run)
      (Raised found env settings before) := by
  rintro progress ⟨hs, hp⟩
  rw [runFrom_access]
  cases hfound : found progress.accesses with
  | some stored =>
      refine ⟨fun hsteady => ?_, ⟨hs.within, hs.calls, hs.created⟩, hp⟩
      rw [hsteady] at hfound
      exact (Option.some.inj hfound).symm
  | none =>
      refine ⟨rfl, fun hsteady => ?_, ⟨hs.within, hs.calls, hs.created⟩⟩
      rw [hsteady] at hfound
      cases hfound

variable (run : AlertRun)

theorem assignmentsForUnit_at (unit : WirelessUnit) (scope : AlertScope) :
    Triple (At found env settings before run) (assignmentsForUnit found unit scope)
      (fun assignments progress =>
        let page := AlertFanoutService.assignmentsForUnit unit scope run.state.fanout run.budget
        (Steady found env → assignments = page.1) ∧
          At found env settings before
            ⟨{ run.state with fanout := page.2.1 }, page.2.2, run.attempts⟩ progress)
      (Raised found env settings before) := by
  rintro progress ⟨hs, hrun⟩
  rw [assignmentsForUnit, runFrom_bind_of_ok (runFrom_get progress)]
  by_cases hlimit : progress.run.budget.remainingAssignments = 0
  · rw [if_pos hlimit, runFrom_bind_of_ok (runFrom_set _ _), runFrom_pure]
    refine ⟨fun hsteady => ?_, ⟨hs.within.truncate true _ _, hs.calls, hs.created⟩, fun hsteady => ?_⟩
    · obtain rfl := hrun hsteady
      rw [AlertFanoutService.assignmentsForUnit, if_pos hlimit]
    · obtain rfl := hrun hsteady
      rw [AlertFanoutService.assignmentsForUnit, if_pos hlimit]
      rfl
  · rw [if_neg hlimit]
    refine (Triple.bind (access_keeps found env settings before (· = progress.run)) fun stored => ?_)
      progress ⟨hs, rfl⟩
    rintro ⟨_, accesses, calls⟩ ⟨hstored, hs', rfl⟩
    have hcount :=
      length_rotatingPage_le PerformerAssignment.pk (assignmentRows (stored.unit unit) scope)
      progress.run.budget.remainingAssignments (progress.run.state.fanout.assignment (scope, unit.pk))
    rw [runFrom_bind_of_ok (runFrom_get _), runFrom_bind_of_ok (runFrom_set _ _),
      hs.within.checkedRecordAssignments hcount, runFrom_bind_of_ok
        (runFrom_callBudget_ok _ _), runFrom_pure]
    refine ⟨fun hsteady => ?_, sound_call (sound_setFanout hs' _)
      (hs.within.recordAssignments hcount) (Nat.le_refl _), fun hsteady => ?_⟩
    · obtain rfl := hrun hsteady
      rw [AlertFanoutService.assignmentsForUnit, if_neg hlimit, hstored hsteady]
      rfl
    · obtain rfl := hrun hsteady
      rw [AlertFanoutService.assignmentsForUnit, if_neg hlimit, hstored hsteady]
      rfl

theorem recipientsForAssignments_at (unit : WirelessUnit) (assignments : List PerformerAssignment)
    (scope : AlertScope) :
    Triple (At found env settings before run) (recipientsForAssignments found unit assignments scope)
      (fun pairs progress =>
        let page := AlertFanoutService.recipientsForAssignments env.users unit assignments scope
          run.state.fanout run.budget
        (Steady found env → pairs = page.1) ∧
          At found env settings before
            ⟨{ run.state with fanout := page.2.1 }, page.2.2, run.attempts⟩ progress)
      (Raised found env settings before) := by
  rintro progress ⟨hs, hrun⟩
  rw [recipientsForAssignments, runFrom_bind_of_ok (runFrom_get progress)]
  by_cases hlimit : progress.run.budget.remainingRecipients = 0
  · rw [if_pos hlimit, runFrom_bind_of_ok (runFrom_set _ _), runFrom_pure]
    refine ⟨fun hsteady => ?_, ⟨hs.within.truncate _ true _, hs.calls, hs.created⟩, fun hsteady => ?_⟩
    · obtain rfl := hrun hsteady
      rw [AlertFanoutService.recipientsForAssignments, if_pos hlimit]
    · obtain rfl := hrun hsteady
      rw [AlertFanoutService.recipientsForAssignments, if_pos hlimit]
      rfl
  · rw [if_neg hlimit]
    by_cases hnone : assignments.isEmpty = true
    · rw [if_pos hnone, runFrom_pure]
      refine ⟨fun hsteady => ?_, hs, fun hsteady => ?_⟩
      · obtain rfl := hrun hsteady
        rw [AlertFanoutService.recipientsForAssignments, if_neg hlimit, if_pos hnone]
      · obtain rfl := hrun hsteady
        rw [AlertFanoutService.recipientsForAssignments, if_neg hlimit, if_pos hnone]
    rw [if_neg hnone]
    refine (Triple.bind (access_keeps found env settings before (· = progress.run)) fun stored => ?_)
      progress ⟨hs, rfl⟩
    rintro ⟨_, accesses, calls⟩ ⟨hstored, hs', rfl⟩
    have hcount := length_rotatingPage_le (fun pair : RecipientPair => toLex pair)
      (recipientRows stored.env.users assignments) progress.run.budget.remainingRecipients
      (progress.run.state.fanout.recipient (scope, unit.pk))
    rw [runFrom_bind_of_ok (runFrom_get _), runFrom_bind_of_ok (runFrom_set _ _),
      hs.within.checkedRecordRecipients hcount, runFrom_bind_of_ok
        (runFrom_callBudget_ok _ _), runFrom_pure]
    refine ⟨fun hsteady => ?_, sound_call (sound_setFanout hs' _)
      (hs.within.recordRecipients hcount) (Nat.le_refl _), fun hsteady => ?_⟩
    · obtain rfl := hrun hsteady
      rw [AlertFanoutService.recipientsForAssignments, if_neg hlimit, if_neg hnone, hstored hsteady]
      rfl
    · obtain rfl := hrun hsteady
      rw [AlertFanoutService.recipientsForAssignments, if_neg hlimit, if_neg hnone, hstored hsteady]
      rfl

/-- A claim that is granted has an alert left to create. -/
theorem claimDelivery_at (attempt : DeliveryAttempt) :
    Triple (At found env settings before run) (claimDelivery attempt)
      (fun claimed progress => (Steady found env → claimed = run.budget.claimDelivery.1) ∧
        (claimed = true →
          progress.run.state.alerts.length < before + progress.run.budget.deliveryAttempts) ∧
        At found env settings before
          ⟨run.state, run.budget.claimDelivery.2,
            if run.budget.claimDelivery.1 then run.attempts ++ [attempt] else run.attempts⟩ progress)
      (Raised found env settings before) := by
  rintro progress ⟨hs, hrun⟩
  have hattempts := @AlertFanoutBudget.claimDelivery_attempts progress.run.budget
  have hcreated := hs.created
  have hsound := sound_call hs hs.within.claimDelivery (by omega)
  rw [claimDelivery, runFrom_bind_of_ok (runFrom_get progress)]
  simp only [hs.within.checkedClaimDelivery]
  rw [runFrom_bind_of_ok (runFrom_callBudget_ok _ _)]
  by_cases hclaimed : progress.run.budget.claimDelivery.1 = true
  · rw [if_pos hclaimed] at hattempts
    rw [if_pos hclaimed, runFrom_bind_of_ok (runFrom_modify _ _), runFrom_pure]
    refine ⟨fun hsteady => ?_, fun _ => ?_, ⟨hsound.within, hsound.calls, hsound.created⟩,
      fun hsteady => ?_⟩
    · rw [hrun hsteady]
    · show progress.run.state.alerts.length <
          before + progress.run.budget.claimDelivery.2.deliveryAttempts
      omega
    · obtain rfl := hrun hsteady
      rw [if_pos hclaimed]
      rfl
  · rw [if_neg hclaimed, runFrom_pure]
    refine ⟨fun hsteady => ?_, fun h => absurd h hclaimed, hsound, fun hsteady => ?_⟩
    · rw [hrun hsteady]
    · obtain rfl := hrun hsteady
      rw [if_neg hclaimed]
      rfl

theorem length_persistAlert_le (channel : Nat) (request : AlertRequest) (alerts : List Alert) :
    (persistAlert env channel request alerts).length ≤ alerts.length + 1 := by
  rw [persistAlert]
  split
  · rw [List.length_append, List.length_singleton]
  · exact Nat.le_succ _

theorem persistClaimed_at (channel : Nat) (request : AlertRequest) :
    Triple (fun progress =>
      progress.run.state.alerts.length < before + progress.run.budget.deliveryAttempts ∧
        At found env settings before run progress)
      (persistClaimed found channel request)
      (fun _ => At found env settings before
        { run with state :=
          { run.state with alerts := persistAlert env channel request run.state.alerts } })
      (Raised found env settings before) := by
  rintro progress ⟨hleft, hs, hrun⟩
  refine (Triple.bind (access_keeps found env settings before (· = progress.run)) fun stored => ?_)
    progress ⟨hs, rfl⟩
  rintro ⟨_, accesses, calls⟩ ⟨hstored, hs', rfl⟩
  rw [runFrom_bind_of_ok (runFrom_get _), runFrom_bind_of_ok (runFrom_set _ _)]
  have hlength := length_persistAlert_le stored.env channel request progress.run.state.alerts
  have hpersisted : At found env settings before
      { run with state :=
        { run.state with alerts := persistAlert env channel request run.state.alerts } }
      (AlertProgress.setAlerts ⟨progress.run, accesses, calls⟩
        (persistAlert stored.env channel request progress.run.state.alerts)) := by
    refine ⟨⟨hs'.within, hs'.calls, ?_⟩, fun hsteady => ?_⟩
    · exact hlength.trans hleft
    · obtain rfl := hrun hsteady
      rw [hstored hsteady]
      rfl
  by_cases hnew : progress.run.state.alerts.length <
      (persistAlert stored.env channel request progress.run.state.alerts).length
  · rw [if_pos hnew]
    exact (Triple.bind (access_keeps found env settings before (Steady found env → · = _)) fun _ =>
      .pure fun _ h => h.2) _ hpersisted
  · rw [if_neg hnew, runFrom_pure]
    exact hpersisted

theorem createScopedAlert_at (unit : WirelessUnit) (request : AlertRequest) :
    Triple (At found env settings before run) (createScopedAlert found unit request)
      (fun _ =>
        At found env settings before (AlertDeliveryService.createScopedAlert env unit request run))
      (Raised found env settings before) := by
  rw [createScopedAlert, AlertDeliveryService.createScopedAlert]
  cases unit.assignedResource with
  | none => exact .pure fun _ hs => hs
  | some channel =>
      refine .bind (access_keeps found env settings before (Steady found env → · = run))
        fun stored => ?_
      refine .fact fun hstored => .ite (fun hcurrent => ?_) fun hcurrent => ?_
      · refine .bind (claimDelivery_at found env settings before run _) fun claimed => ?_
        refine .fact fun hclaimed => .ite (fun hgranted => ?_) fun hgranted => ?_
        · have hpersist := persistClaimed_at found env settings before
            ⟨run.state, run.budget.claimDelivery.2, if run.budget.claimDelivery.1 then
              run.attempts ++
                [⟨unit.pk, request.user, request.alertType⟩] else run.attempts⟩ channel request
          refine .mono (hpersist.weaken fun progress hs => ⟨hs.1 hgranted, hs.2⟩) fun _ _ h =>
            h.congr fun hsteady => ?_
          obtain rfl := hstored hsteady
          have hclaim : run.budget.claimDelivery.1 = true := (hclaimed hsteady).symm.trans hgranted
          refine Eq.trans ?_ ((if_pos hcurrent).trans (if_pos hclaim)).symm
          rw [if_pos hclaim]
          rfl
        · refine .pure fun progress hs => hs.2.congr fun hsteady => ?_
          obtain rfl := hstored hsteady
          have hclaim : ¬run.budget.claimDelivery.1 = true :=
            fun h => hgranted ((hclaimed hsteady).trans h)
          refine Eq.trans ?_ ((if_pos hcurrent).trans (if_neg hclaim)).symm
          rw [if_neg hclaim]
          rfl
      · refine .pure fun progress hs => At.congr hs fun hsteady => ?_
        obtain rfl := hstored hsteady
        exact (if_neg hcurrent).symm

theorem createAlert_at (unit : WirelessUnit) (request : AlertRequest) :
    Triple (At found env settings before run) (createAlert found unit request)
      (fun _ => At found env settings before (AlertDeliveryService.createAlert env unit run request))
      (Raised found env settings before) := by
  refine .bind (access_keeps found env settings before (Steady found env → · = run)) fun stored => ?_
  refine .fact fun hstored => .ite (fun hscope => .bind_get fun _ => ?_) fun hscope => ?_
  · rintro progress ⟨rfl, hs, hrun⟩
    have hpure (hsteady : Steady found env) : AlertDeliveryService.createAlert env unit run request =
        if run.budget.remainingDeliveries = 0 then
          { run with budget := { run.budget with deliveriesTruncated := true } }
        else AlertDeliveryService.createScopedAlert env unit request run := by
      obtain rfl := hstored hsteady
      exact if_pos hscope
    by_cases hnone : progress.run.budget.remainingDeliveries = 0
    · rw [if_pos hnone, runFrom_set]
      refine ⟨⟨hs.within.truncate _ _ true, hs.calls, hs.created⟩, fun hsteady => ?_⟩
      obtain rfl := hrun hsteady
      rw [hpure hsteady, if_pos hnone]
      rfl
    · rw [if_neg hnone]
      refine ((createScopedAlert_at found env settings before run unit request).mono fun _ _ h =>
        h.congr fun hsteady => ?_) progress ⟨hs, hrun⟩
      obtain rfl := hrun hsteady
      rw [hpure hsteady, if_neg hnone]
  · refine .pure fun progress hs => At.congr hs fun hsteady => ?_
    obtain rfl := hstored hsteady
    exact (if_neg hscope).symm

theorem forM_createAlert_at (unit : WirelessUnit) (requests : List AlertRequest) :
    Triple (At found env settings before run) (requests.forM (createAlert found unit))
      (fun _ => At found env settings before
        (requests.foldl (AlertDeliveryService.createAlert env unit) run))
      (Raised found env settings before) := by
  induction requests generalizing run with
  | nil => exact .pure fun _ hs => hs
  | cons request rest ih =>
      exact .bind (createAlert_at found env settings before run unit request) fun _ => ih _

theorem fanOut_at (unit : WirelessUnit) (scope : AlertScope) :
    Triple (At found env settings before run) (fanOut found unit scope)
      (fun _ => At found env settings before (AlertManager.fanOut env unit scope run))
      (Raised found env settings before) := by
  refine .bind (assignmentsForUnit_at found env settings before run unit scope) fun assignments =>
    .fact fun hassignments => ?_
  refine .bind (recipientsForAssignments_at found env settings before _ unit assignments scope)
    fun recipients => .fact fun hrecipients => ?_
  refine .bind (access_keeps found env settings before (Steady found env → · = _)) fun stored =>
    .fact fun hstored => ?_
  refine .mono (forM_createAlert_at found env settings before _ unit _) fun _ _ h =>
    h.congr fun hsteady => ?_
  obtain rfl := hstored hsteady
  obtain rfl := hassignments hsteady
  obtain rfl := hrecipients hsteady
  rfl

theorem checkScope_at (unit : WirelessUnit) (scope : AlertScope) :
    Triple (At found env settings before run) (checkScope found unit scope)
      (fun _ => At found env settings before
        (if isChecked unit scope then AlertManager.fanOut env unit scope run else run))
      (Raised found env settings before) := by
  rw [checkScope]
  split
  next => exact fanOut_at found env settings before run unit scope
  next => exact .pure fun _ hs => hs

def checkUnit (transmitterFirst : Bool) (unit : WirelessUnit) (run : AlertRun) : AlertRun :=
  if transmitterFirst then
    checkHardwareOfflineAlerts env unit (checkWirelessUnitAlerts env unit run)
  else checkWirelessUnitAlerts env unit (checkHardwareOfflineAlerts env unit run)

theorem evaluateUnit_at (transmitterFirst : Bool) (unit : WirelessUnit) :
    Triple (At found env settings before run) (evaluateUnit found transmitterFirst unit)
      (fun _ => At found env settings before (checkUnit env transmitterFirst unit run))
      (Raised found env settings before) := by
  rw [evaluateUnit, checkUnit]
  cases transmitterFirst with
  | true =>
      exact .bind (checkScope_at found env settings before run unit .transmitter) fun _ =>
        checkScope_at found env settings before _ unit .offline
  | false =>
      exact .bind (checkScope_at found env settings before run unit .offline) fun _ =>
        checkScope_at found env settings before _ unit .transmitter

variable {found env settings before run}

/-- One turn of the scan: a unit that fails leaves a sound run behind. -/
theorem afterUnit_at (h : At found env settings before run progress) (transmitterFirst : Bool)
    (unit : WirelessUnit) :
    let checked := runFrom (evaluateUnit found transmitterFirst unit) progress
    At found env settings before (PollAlertService.evaluateUnit env transmitterFirst run unit)
        (afterUnit unit checked.2) ∧
      (Steady found env → checked.1.toBool = true) := by
  have hunit := evaluateUnit_at found env settings before run transmitterFirst unit progress h
  simp only
  generalize runFrom (evaluateUnit found transmitterFirst unit) progress = result at hunit ⊢
  obtain ⟨outcome, checked⟩ := result
  cases outcome with
  | ok _ =>
      obtain ⟨hs, hrun⟩ := hunit
      refine ⟨⟨⟨hs.within, hs.calls, hs.created⟩, fun hsteady => ?_⟩, fun _ => rfl⟩
      rw [afterUnit, hrun hsteady]
      rfl
  | error e =>
      obtain ⟨-, hnot, hs⟩ := hunit
      exact ⟨⟨⟨hs.within, hs.calls, hs.created⟩, fun hsteady => absurd hsteady hnot⟩,
        fun hsteady => absurd hsteady hnot⟩

/-- A scan keeps a run sound. While the database is steady no unit fails, and the scan is the one
without checks. -/
theorem scanUnits_at (transmitterFirst : Bool) (units : List WirelessUnit)
    (h : At found env settings before run progress) :
    let scan := scanUnits found transmitterFirst units progress
    scan.2.2.Sound settings before ∧
      (Steady found env → scan.2.1 = 0 ∧
        (scan.1, scan.2.2.run) = PollAlertService.scanUnits env transmitterFirst units run) := by
  induction units generalizing run progress with
  | nil => exact ⟨h.1, fun hsteady => ⟨rfl, by rw [PollAlertService.scanUnits, ← h.2 hsteady]; rfl⟩⟩
  | cons unit rest ih =>
      obtain ⟨hnext, hok⟩ := afterUnit_at h transmitterFirst unit
      simp only [scanUnits] at hnext hok ⊢
      generalize runFrom (evaluateUnit found transmitterFirst unit) progress = checked at hnext hok ⊢
      obtain ⟨outcome, checked⟩ := checked
      simp only at hnext hok ⊢
      by_cases hstop : ((afterUnit unit checked).run.budget.truncated ||
          (afterUnit unit checked).run.budget.exhausted) = true
      · rw [if_pos hstop]
        refine ⟨hnext.1, fun hsteady => ⟨if_pos (hok hsteady), ?_⟩⟩
        simp only [PollAlertService.scanUnits]
        rw [← hnext.2 hsteady, if_pos hstop]
      · rw [if_neg hstop]
        obtain ⟨hrest, hsame⟩ := ih hnext
        refine ⟨hrest, fun hsteady => ?_⟩
        obtain ⟨hnone, hscan⟩ := hsame hsteady
        refine ⟨?_, ?_⟩
        · simp only [hok hsteady, hnone, if_true]
        · simp only [PollAlertService.scanUnits]
          rw [← hnext.2 hsteady, if_neg hstop]
          rw [← hnext.2 hsteady] at hscan
          rw [← hscan]

end Invariant

theorem sound_start (settings : PollAlertSettings) (state : AlertState) :
    AlertProgress.Sound settings state.alerts.length { run := ⟨state, .fromSettings settings, []⟩ } :=
  ⟨AlertFanoutBudget.within_fromSettings settings, fun _ h => absurd h List.not_mem_nil, Nat.le_refl _⟩

/-- The run after the first access, when it goes to its units. -/
theorem at_scan (found : Nat → Option AlertAccess) (env : AlertEnvironment)
    (settings : PollAlertSettings)
    {state started : AlertState} (halerts : started.alerts = state.alerts) :
    At found env settings state.alerts.length ⟨started, .fromSettings settings, []⟩
      ⟨⟨started, .fromSettings settings, []⟩, 1, []⟩ :=
  ⟨⟨(sound_start settings state).within, (sound_start settings state).calls,
    Nat.le_of_eq (halerts ▸ rfl)⟩,
    fun _ => rfl⟩

theorem evaluateManufacturer_sound (found : Nat → Option AlertAccess) (settings : PollAlertSettings)
    (units : List WirelessUnit) (state : AlertState) :
    (evaluateManufacturer found settings units state).2.2.Sound settings state.alerts.length := by
  simp only [evaluateManufacturer, runFrom_access]
  cases found 0 with
  | none =>
      obtain ⟨hwithin, hcalls, hcreated⟩ := sound_start settings state
      exact ⟨hwithin, hcalls, hcreated⟩
  | some stored =>
      refine (scanUnits_at state.transmitterFirst _ (at_scan found stored.env settings ?_)).1
      split <;> rfl

/-- Without interference the checks change nothing: no unit fails, and the scan is the one that the
other results are about. -/
theorem evaluateManufacturer_steady (env : AlertEnvironment) (settings : PollAlertSettings)
    (units : List WirelessUnit) (state : AlertState) :
    let checked := evaluateManufacturer (fun _ => some (.steady env)) settings units state
    let scan := PollAlertService.evaluateManufacturer settings env units state
    checked.1 = 0 ∧ checked.2.1 = .ok scan.result ∧ checked.2.2.run.state = scan.state ∧
      checked.2.2.run.attempts = scan.attempts := by
  simp only [evaluateManufacturer, runFrom_access, PollAlertService.evaluateManufacturer,
    AlertAccess.steady,
    List.map_id]
  generalize selectUnits (scanLimit settings) state.unitCursor (candidates env.users units) = selected
  obtain ⟨boundedUnits, truncated⟩ := selected
  simp only
  have halerts : (if boundedUnits.isEmpty then state
      else { state with transmitterFirst := !state.transmitterFirst }).alerts = state.alerts := by
    split <;> rfl
  obtain ⟨-, hscan⟩ := scanUnits_at state.transmitterFirst boundedUnits
    (at_scan (fun _ => some (.steady env)) env settings halerts)
  obtain ⟨hnone, hsame⟩ := hscan fun _ => rfl
  rw [← hsame]
  exact ⟨hnone, rfl, rfl, rfl⟩

/-- **In every run of `evaluate_manufacturer`, whatever its units and settings are and whichever
accesses to the database raise or find it changed, no record or claim call raises, every counter of
the budget is within its limit after each of them and at the end, and no more alerts are created
than the delivery limit.** -/
theorem evaluateManufacturer_within_budget (found : Nat → Option AlertAccess)
    (settings : PollAlertSettings)
    (units : List WirelessUnit) (state : AlertState) :
    let progress := (evaluateManufacturer found settings units state).2.2
    (∀ call ∈ progress.calls, ∃ budget, call = .ok budget ∧ budget.Within settings) ∧
      progress.run.budget.Within settings ∧
      progress.run.state.alerts.length ≤
        state.alerts.length + boundedSetting settings.maxDeliveries hardAlertMaxDeliveries := by
  obtain ⟨hwithin, hcalls, hcreated⟩ := evaluateManufacturer_sound found settings units state
  refine ⟨hcalls, hwithin, hcreated.trans ?_⟩
  have hdeliveries := hwithin.deliveries
  rw [hwithin.deliveryLimit] at hdeliveries
  exact Nat.add_le_add_left hdeliveries _

end CheckedAlerts

end Micboard
