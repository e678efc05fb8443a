import Micboard.ChassisModel
import Micboard.LibraryRotation
import Mathlib.Data.Prod.Lex

/-! The fan-out of alerts: the assignments of a wireless unit and their recipients, read in rotating
pages under the budget of one alert run. The range checks of a budget never fail, since a page is
never larger than what remains; a run under them is modelled apart. A cached cursor is kept: neither
an outage of the cache nor the expiry of a cursor after a week is modelled. -/

namespace Micboard

open Library.Budget

/-- `WirelessUnit.STATUS_CHOICES`. -/
inductive UnitStatus where
  | discovered | provisioning | online | degraded | idle | offline | maintenance | retired
  deriving DecidableEq, Repr

structure UserAlertPreference where
  batteryLowThreshold : Nat := 20
  batteryCriticalThreshold : Nat := 10
  minAlertInterval : Nat := 5
  deriving DecidableEq, Repr

structure AlertUser where
  isActive : Bool := true
  preferences : Option UserAlertPreference := none
  deriving DecidableEq, Repr

/-- The users by their keys, and the units that the tenant boundary lets a user see. Without tenancy
these are all of them. -/
structure AlertUsers where
  user : Nat → AlertUser
  inTenant : Nat → Nat → Bool

/-- A group with the keys of its users. -/
structure MonitoringGroup where
  isActive : Bool := true
  users : List Nat
  distinct : users.Nodup := by decide

structure PerformerAssignment where
  pk : Nat
  isActive : Bool := true
  monitoringGroup : MonitoringGroup
  performer : String
  alertOnBatteryLow : Bool := true
  alertOnSignalLoss : Bool := true
  alertOnAudioLow : Bool := false
  alertOnHardwareOffline : Bool := true

structure WirelessUnit where
  pk : Nat
  name : String
  status : UnitStatus
  battery : Nat
  rfLevel : Option Int
  audioLevel : Option Int
  assignedResource : Option Nat
  assignments : List PerformerAssignment
  distinct : (assignments.map PerformerAssignment.pk).Nodup := by decide

def hardAlertMaxAssignments : Nat := 500
def hardAlertMaxRecipients : Nat := 1000
def hardAlertMaxDeliveries : Nat := 1000

/-- A setting clamped to its package hard limit. -/
def boundedSetting (value : Int) (hardLimit : Nat) : Nat := min (max value.toNat 1) hardLimit

/-- The settings of an alert run, as whole numbers. -/
structure PollAlertSettings where
  maxUnits : Int
  maxAssignments : Int
  maxRecipients : Int
  maxDeliveries : Int

/-- Mutable counters enforcing one alert run's hard workload ceilings. -/
structure AlertFanoutBudget where
  assignmentLimit : Nat
  recipientLimit : Nat
  deliveryLimit : Nat
  assignmentsEvaluated : Nat := 0
  recipientsEvaluated : Nat := 0
  deliveryAttempts : Nat := 0
  assignmentsTruncated : Bool := false
  recipientsTruncated : Bool := false
  deliveriesTruncated : Bool := false
  deriving DecidableEq, Repr

namespace AlertFanoutBudget

def fromSettings (settings : PollAlertSettings) : AlertFanoutBudget where
  assignmentLimit := boundedSetting settings.maxAssignments hardAlertMaxAssignments
  recipientLimit := boundedSetting settings.maxRecipients hardAlertMaxRecipients
  deliveryLimit := boundedSetting settings.maxDeliveries hardAlertMaxDeliveries

variable (budget : AlertFanoutBudget)

def remainingAssignments : Nat := budget.assignmentLimit - budget.assignmentsEvaluated

def remainingRecipients : Nat := budget.recipientLimit - budget.recipientsEvaluated

def remainingDeliveries : Nat := budget.deliveryLimit - budget.deliveryAttempts

/-- Whether any fanout dimension reached a bounded partial page. -/
def truncated : Bool :=
  budget.assignmentsTruncated || budget.recipientsTruncated || budget.deliveriesTruncated

/-- Whether another unit could not receive the complete fanout pipeline. -/
def exhausted : Bool :=
  budget.remainingAssignments = 0 || budget.remainingRecipients = 0 || budget.remainingDeliveries = 0

def recordAssignments (count : Nat) (truncated : Bool) : AlertFanoutBudget :=
  { budget with
    assignmentsEvaluated := budget.assignmentsEvaluated + count
    assignmentsTruncated := budget.assignmentsTruncated || truncated }

def recordRecipients (count : Nat) (truncated : Bool) : AlertFanoutBudget :=
  { budget with
    recipientsEvaluated := budget.recipientsEvaluated + count
    recipientsTruncated := budget.recipientsTruncated || truncated }

/-- Reserve one alert persistence or delivery attempt if capacity remains. -/
def claimDelivery : Bool × AlertFanoutBudget :=
  if budget.remainingDeliveries = 0 then (false, { budget with deliveriesTruncated := true })
  else (true, { budget with deliveryAttempts := budget.deliveryAttempts + 1 })

end AlertFanoutBudget

inductive AlertScope where
  | transmitter | offline
  deriving DecidableEq, Repr

/-- The cached cursors, by scope and unit. A recipient cursor is a pair of an assignment and a user. -/
structure FanoutCursors where
  assignment : AlertScope × Nat → Nat := fun _ => 0
  recipient : AlertScope × Nat → Lex (Nat × Nat) := fun _ => toLex (0, 0)

/-- A user of an assignment's group, as a pair of their keys. -/
abbrev RecipientPair := Nat × Nat

namespace AlertFanoutService

/-- Read at most `limit + 1` rows in the circular order of their keys. What is selected, whether
rows are left over, and the next cursor. -/
def rotatingPage {α κ : Type*} [LinearOrder κ] (pk : α → κ) (rows : List α) (limit : Nat) (cursor : κ) :
    List α × Bool × κ :=
  let page := (circular pk cursor rows).take (limit + 1)
  let selected := page.take limit
  (selected, decide (limit < page.length), advance pk cursor selected)

def assignmentRows (unit : WirelessUnit) : AlertScope → List PerformerAssignment
  | .transmitter => unit.assignments.filter fun a => a.isActive && a.monitoringGroup.isActive
  | .offline => unit.assignments.filter fun a =>
      a.isActive && a.monitoringGroup.isActive && a.alertOnHardwareOffline

/-- A rotating bounded page of active assignments for one unit. -/
def assignmentsForUnit (unit : WirelessUnit) (scope : AlertScope) (cursors : FanoutCursors)
    (budget : AlertFanoutBudget) : List PerformerAssignment × FanoutCursors × AlertFanoutBudget :=
  let limit := budget.remainingAssignments
  if limit = 0 then ([], cursors, { budget with assignmentsTruncated := true })
  else
    let key := (scope, unit.pk)
    let (items, truncated, cursor) :=
      rotatingPage PerformerAssignment.pk (assignmentRows unit scope) limit (cursors.assignment key)
    (items, { cursors with assignment := Function.update cursors.assignment key cursor },
      budget.recordAssignments items.length truncated)

/-- The active users of the groups of assignments. -/
def recipientRows (users : AlertUsers) (assignments : List PerformerAssignment) : List RecipientPair :=
  (assignments.filter fun a => a.monitoringGroup.isActive).flatMap fun a =>
    (a.monitoringGroup.users.filter fun user => (users.user user).isActive).map fun user => (a.pk, user)

/-- A rotating page of the recipients of a page of assignments, by assignment and user. -/
def recipientsForAssignments (users : AlertUsers) (unit : WirelessUnit)
    (assignments : List PerformerAssignment) (scope : AlertScope) (cursors : FanoutCursors)
    (budget : AlertFanoutBudget) : List RecipientPair × FanoutCursors × AlertFanoutBudget :=
  let limit := budget.remainingRecipients
  if limit = 0 then ([], cursors, { budget with recipientsTruncated := true })
  else if assignments.isEmpty then ([], cursors, budget)
  else
    let key := (scope, unit.pk)
    let (pairs, truncated, cursor) :=
      rotatingPage (fun pair : RecipientPair => toLex pair) (recipientRows users assignments) limit
        (cursors.recipient key)
    (pairs, { cursors with recipient := Function.update cursors.recipient key cursor },
      budget.recordRecipients pairs.length truncated)

/-- `recipients_by_assignment.get(assignment.pk, [])`. -/
def recipientsOf (pairs : List RecipientPair) (assignment : PerformerAssignment) : List Nat :=
  (pairs.filter fun pair => pair.1 = assignment.pk).map Prod.snd

/-- An active recipient within the unit's tenant boundary. -/
def recipientHasUnitScope (users : AlertUsers) (unit : WirelessUnit) (user : Nat) : Bool :=
  (users.user user).isActive && users.inTenant user unit.pk

/-- Reload and authorize a recipient against the current assignment and tenant scope. -/
def currentAuthorizedRecipient (users : AlertUsers) (unit : WirelessUnit)
    (assignment : PerformerAssignment) (user : Nat) : Bool :=
  (users.user user).isActive &&
    unit.assignments.any (fun current => current.pk = assignment.pk && current.isActive &&
      current.monitoringGroup.isActive && current.monitoringGroup.users.contains user) &&
    recipientHasUnitScope users unit user

end AlertFanoutService

open AlertFanoutService

section Page

variable {α κ : Type*} [LinearOrder κ] {pk : α → κ} {rows : List α} {limit : Nat} {cursor : κ}

theorem rotatingPage_selected : (rotatingPage pk rows limit cursor).1 = turn pk rows limit cursor := by
  rw [rotatingPage, turn, List.take_take, Nat.min_eq_left (Nat.le_succ limit)]

theorem rotatingPage_truncated :
    (rotatingPage pk rows limit cursor).2.1 = decide (limit < rows.length) := by
  have hlength : ((circular pk cursor rows).take (limit + 1)).length = min (limit + 1) rows.length :=
    length_turn (limit + 1) cursor
  rw [rotatingPage, hlength]
  refine decide_eq_decide.mpr ?_
  omega

end Page

/-! ### The pages of a unit -/

section Unit

variable {users : AlertUsers} {unit : WirelessUnit} {scope : AlertScope} {cursors : FanoutCursors}
  {budget : AlertFanoutBudget}

theorem assignmentsForUnit_items : (assignmentsForUnit unit scope cursors budget).1 =
    turn PerformerAssignment.pk (assignmentRows unit scope) budget.remainingAssignments
      (cursors.assignment (scope, unit.pk)) := by
  simp only [assignmentsForUnit]
  split
  next hnone => rw [hnone, turn, List.take_zero]
  next => exact rotatingPage_selected

/-- Only the unit's own assignment cursor moves. -/
theorem assignmentsForUnit_cursors :
    (assignmentsForUnit unit scope cursors budget).2.1.recipient = cursors.recipient ∧
      (assignmentsForUnit unit scope cursors budget).2.1.assignment (scope, unit.pk) =
        advance PerformerAssignment.pk (cursors.assignment (scope, unit.pk))
          (assignmentsForUnit unit scope cursors budget).1 := by
  simp only [assignmentsForUnit]
  split
  next => exact ⟨rfl, rfl⟩
  next => exact ⟨rfl, Function.update_self ..⟩

theorem recipientsForAssignments_pairs {assignments : List PerformerAssignment} :
    (recipientsForAssignments users unit assignments scope cursors budget).1 =
      turn (fun pair : RecipientPair => toLex pair) (recipientRows users assignments)
        budget.remainingRecipients (cursors.recipient (scope, unit.pk)) := by
  simp only [recipientsForAssignments]
  split
  next hnone => rw [hnone, turn, List.take_zero]
  next =>
    split
    next hempty =>
      rw [List.isEmpty_iff.mp hempty]
      exact (List.take_nil).symm
    next => exact rotatingPage_selected

/-- Only the unit's own recipient cursor moves. -/
theorem recipientsForAssignments_cursors {assignments : List PerformerAssignment} :
    (recipientsForAssignments users unit assignments scope cursors budget).2.1.assignment =
        cursors.assignment ∧
      (recipientsForAssignments users unit assignments scope cursors budget).2.1.recipient
          (scope, unit.pk) =
        advance (fun pair : RecipientPair => toLex pair) (cursors.recipient (scope, unit.pk))
          (recipientsForAssignments users unit assignments scope cursors budget).1 := by
  simp only [recipientsForAssignments]
  split
  next => exact ⟨rfl, rfl⟩
  next =>
    split
    next => exact ⟨rfl, rfl⟩
    next => exact ⟨rfl, Function.update_self ..⟩

theorem mem_recipientRows {assignments : List PerformerAssignment} {pair : RecipientPair} :
    pair ∈ recipientRows users assignments ↔ ∃ assignment ∈ assignments,
      assignment.monitoringGroup.isActive = true ∧ assignment.pk = pair.1 ∧
        pair.2 ∈ assignment.monitoringGroup.users ∧ (users.user pair.2).isActive = true := by
  obtain ⟨pk, user⟩ := pair
  simp only [recipientRows, List.mem_flatMap, List.mem_filter, List.mem_map, Prod.mk.injEq]
  constructor
  · rintro ⟨assignment, ⟨hassignment, hgroup⟩, _, ⟨huser, hactive⟩, rfl, rfl⟩
    exact ⟨assignment, hassignment, hgroup, rfl, huser, hactive⟩
  · rintro ⟨assignment, hassignment, hgroup, rfl, huser, hactive⟩
    exact ⟨assignment, ⟨hassignment, hgroup⟩, user, ⟨huser, hactive⟩, rfl, rfl⟩

theorem assignmentRows_keys (unit : WirelessUnit) (scope : AlertScope) :
    ((assignmentRows unit scope).map PerformerAssignment.pk).Nodup := by
  cases scope with
  | transmitter => exact unit.distinct.sublist (List.filter_sublist.map _)
  | offline => exact unit.distinct.sublist (List.filter_sublist.map _)

/-- No pair of an assignment and a user occurs twice. -/
theorem nodup_recipientRows {assignments : List PerformerAssignment}
    (h : (assignments.map PerformerAssignment.pk).Nodup) : (recipientRows users assignments).Nodup := by
  have hactive := h.sublist
    ((List.filter_sublist (p := fun a => a.monitoringGroup.isActive)).map PerformerAssignment.pk)
  refine List.nodup_flatMap.mpr ⟨fun a _ => ?_, ?_⟩
  · refine List.Nodup.map (fun first second heq => ?_) (a.monitoringGroup.distinct.filter _)
    exact (Prod.mk.inj heq).2
  · refine (List.pairwise_map.mp hactive).imp fun {a b} hne pair hfirst hsecond => ?_
    obtain ⟨_, -, rfl⟩ := List.mem_map.mp hfirst
    obtain ⟨_, -, heq⟩ := List.mem_map.mp hsecond
    exact hne (Prod.mk.inj heq).1.symm

end Unit

end Micboard
