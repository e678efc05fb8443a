import Micboard.TenantScope

/-! The assignments of performers to wireless units: who sees them, and the operations that create,
update, deactivate and delete them. A table of assignments refers to rows of a hardware graph that
the operations only read. Keys are handed out in increasing order; the bounds of the commands' texts
and the time stamps are left out. -/

namespace Micboard.TenantAccess

open Library

structure Building where
  pk : Nat
  siteId : Option Int := none
  organizationId : Option Nat := none
  campusId : Option Nat := none
  deriving DecidableEq, Repr

structure Location where
  pk : Nat
  building : Building
  deriving DecidableEq, Repr

structure WirelessChassis where
  location : Option Location := none
  deriving DecidableEq, Repr

structure RFChannel where
  pk : Nat
  chassis : WirelessChassis
  deriving DecidableEq, Repr

structure WirelessUnit where
  pk : Nat
  baseChassis : WirelessChassis
  assignedResource : Option Nat := none
  deriving DecidableEq, Repr

/-- A location of a group, alone or with all rooms of its building. -/
structure MonitoringGroupLocation where
  location : Location
  includeAllRooms : Bool := false
  deriving DecidableEq, Repr

structure MonitoringGroup where
  pk : Nat
  isActive : Bool := true
  users : List Nat
  locations : List MonitoringGroupLocation := []
  channels : List RFChannel := []
  deriving DecidableEq, Repr

/-- The rows an assignment refers to; of a performer only the key matters. -/
structure HardwareGraph where
  units : List WirelessUnit
  groups : List MonitoringGroup
  performers : List Nat
  uniqueUnit : UniqueOn WirelessUnit.pk units := by decide
  uniqueGroup : UniqueOn MonitoringGroup.pk groups := by decide

/-- `PerformerAssignment.PRIORITY_CHOICES`. -/
inductive AssignmentPriority where
  | low | normal | high | critical
  deriving DecidableEq, Repr

structure PerformerAssignment where
  pk : Nat
  performer : Nat
  wirelessUnit : WirelessUnit
  monitoringGroup : MonitoringGroup
  priority : AssignmentPriority := .normal
  notes : String := ""
  isActive : Bool := true
  alertOnBatteryLow : Bool := true
  alertOnSignalLoss : Bool := true
  alertOnAudioLow : Bool := false
  alertOnHardwareOffline : Bool := true
  assignedBy : Option Nat := none
  deriving DecidableEq, Repr

/-- The columns of the unique constraint. -/
def PerformerAssignment.pair (row : PerformerAssignment) : Nat × Nat :=
  (row.performer, row.wirelessUnit.pk)

def PerformerAssignment.RefersTo (graph : HardwareGraph) (row : PerformerAssignment) : Prop :=
  row.performer ∈ graph.performers ∧ row.wirelessUnit ∈ graph.units ∧ row.monitoringGroup ∈ graph.groups

instance (graph : HardwareGraph) (row : PerformerAssignment) : Decidable (row.RefersTo graph) :=
  inferInstanceAs (Decidable (_ ∧ _))

structure AssignmentTable (graph : HardwareGraph) where
  rows : List PerformerAssignment
  nextPk : Nat
  uniquePk : UniqueOn PerformerAssignment.pk rows := by decide
  uniqueTogether : UniqueOn PerformerAssignment.pair rows := by decide
  refersTo : ∀ row ∈ rows, row.RefersTo graph := by decide
  fresh : ∀ row ∈ rows, row.pk < nextPk := by decide

/-- The fields an update names; one that is absent stays as it is. -/
structure AssignmentPatch where
  priority : Option AssignmentPriority := none
  notes : Option String := none
  isActive : Option Bool := none
  alertOnBatteryLow : Option Bool := none
  alertOnSignalLoss : Option Bool := none
  alertOnAudioLow : Option Bool := none
  alertOnHardwareOffline : Option Bool := none
  deriving DecidableEq, Repr

def PerformerAssignment.patch (row : PerformerAssignment)
    (values : AssignmentPatch) : PerformerAssignment :=
  { row with
    priority := values.priority.getD row.priority
    notes := values.notes.getD row.notes
    isActive := values.isActive.getD row.isActive
    alertOnBatteryLow := values.alertOnBatteryLow.getD row.alertOnBatteryLow
    alertOnSignalLoss := values.alertOnSignalLoss.getD row.alertOnSignalLoss
    alertOnAudioLow := values.alertOnAudioLow.getD row.alertOnAudioLow
    alertOnHardwareOffline := values.alertOnHardwareOffline.getD row.alertOnHardwareOffline }

namespace AssignmentTable

variable {graph : HardwareGraph} (table : AssignmentTable graph)

def patchRow (pk : Nat) (values : AssignmentPatch) (row : PerformerAssignment) : PerformerAssignment :=
  if row.pk = pk then row.patch values else row

section PatchRow

variable {pk : Nat} {values : AssignmentPatch} {row : PerformerAssignment}

@[simp] theorem patchRow_pk : (patchRow pk values row).pk = row.pk := by
  unfold patchRow
  split <;> rfl

@[simp] theorem patchRow_pair : (patchRow pk values row).pair = row.pair := by
  unfold patchRow
  split <;> rfl

theorem patchRow_refersTo (h : row.RefersTo graph) : (patchRow pk values row).RefersTo graph := by
  unfold patchRow
  split <;> exact h

end PatchRow

/-- `assignment.save()` after fields have been set. -/
def patch (pk : Nat) (values : AssignmentPatch) : AssignmentTable graph where
  rows := table.rows.map (patchRow pk values)
  nextPk := table.nextPk
  uniquePk := by
    rw [UniqueOn, List.map_map,
      show PerformerAssignment.pk ∘ patchRow pk values = PerformerAssignment.pk from
      funext fun _ => patchRow_pk]
    exact table.uniquePk
  uniqueTogether := by
    rw [UniqueOn, List.map_map,
      show PerformerAssignment.pair ∘ patchRow pk values = PerformerAssignment.pair from
      funext fun _ => patchRow_pair]
    exact table.uniqueTogether
  refersTo := by
    intro row hrow
    obtain ⟨before, hbefore, rfl⟩ := List.mem_map.mp hrow
    exact patchRow_refersTo (table.refersTo before hbefore)
  fresh := by
    intro row hrow
    obtain ⟨before, hbefore, rfl⟩ := List.mem_map.mp hrow
    rw [patchRow_pk]
    exact table.fresh before hbefore

/-- `assignment.delete()`. -/
def delete (pk : Nat) : AssignmentTable graph where
  rows := table.rows.filter fun row => row.pk ≠ pk
  nextPk := table.nextPk
  uniquePk := table.uniquePk.sublist (List.filter_sublist.map _)
  uniqueTogether := table.uniqueTogether.sublist (List.filter_sublist.map _)
  refersTo row hrow := table.refersTo row (List.mem_filter.mp hrow).1
  fresh row hrow := table.fresh row (List.mem_filter.mp hrow).1

/-- The save of a new row, which gets the next key. -/
def insert (row : PerformerAssignment) (hrefers : row.RefersTo graph)
    (hnew : ∀ other ∈ table.rows, other.pair ≠ row.pair) : AssignmentTable graph where
  rows := table.rows ++ [{ row with pk := table.nextPk }]
  nextPk := table.nextPk + 1
  uniquePk := table.uniquePk.append_row fun other hother => (table.fresh other hother).ne
  uniqueTogether := table.uniqueTogether.append_row hnew
  refersTo := by
    intro other hother
    rcases List.mem_append.mp hother with hold | hadded
    · exact table.refersTo other hold
    · obtain rfl := List.mem_singleton.mp hadded
      exact hrefers
  fresh := by
    intro other hother
    rcases List.mem_append.mp hother with hold | hadded
    · exact (table.fresh other hold).trans (Nat.lt_succ_self _)
    · obtain rfl := List.mem_singleton.mp hadded
      exact Nat.lt_succ_self _

end AssignmentTable

def Building.path (building : Building) : TenantPath :=
  ⟨building.organizationId, building.campusId, building.siteId⟩

def WirelessChassis.path (chassis : WirelessChassis) : TenantPath :=
  (chassis.location.map fun location => location.building.path).getD {}

def WirelessUnit.path (unit : WirelessUnit) : TenantPath := unit.baseChassis.path

section Visibility

variable (controls : DeploymentControls) (tenancy : Tenancy) {graph : HardwareGraph}
  (table : AssignmentTable graph) (user : User)

/-- `user.monitoring_groups.filter(is_active=True)`. -/
def isActiveMember (group : MonitoringGroup) : Bool := user.pk ∈ group.users && group.isActive

/-- The unit is at a location of the group, in a building the group has all rooms of, or on a
channel of it. -/
def groupReachesUnit (group : MonitoringGroup) (unit : WirelessUnit) : Bool :=
  (match unit.baseChassis.location with
    | none => false
    | some location => group.locations.any fun access =>
        access.location.pk = location.pk ||
          (access.includeAllRooms && access.location.building.pk = location.building.pk)) ||
  match unit.assignedResource with
    | none => false
    | some channelId => group.channels.any fun channel => channel.pk = channelId

/-- Return units reachable through the user's monitoring-group scope. -/
def WirelessUnit.forUser (graph : HardwareGraph) (unit : WirelessUnit) : Bool :=
  let tenantScope := TenantAccess.forUser controls tenancy user [unit.path]
  if !user.isAuthenticated || user.isSuperuser then tenantScope
  else tenantScope && graph.groups.any fun group =>
    isActiveMember user group && groupReachesUnit group unit

/-- Return assignments in the user's active monitoring groups. -/
def PerformerAssignment.forUser (row : PerformerAssignment) : Bool :=
  let tenantScope := TenantAccess.forUser controls tenancy user [row.wirelessUnit.path]
  if !user.isAuthenticated || user.isSuperuser then tenantScope
  else tenantScope && isActiveMember user row.monitoringGroup

/-- Return performers managed by one of the user's active monitoring groups. -/
def performerForUser (performer : Nat) : Bool :=
  let owners := table.rows.filter fun row => row.performer = performer
  let tenantScope := TenantAccess.forUser controls tenancy user
    (outerJoin (owners.map fun row => row.wirelessUnit.path))
  if !user.isAuthenticated || user.isSuperuser then tenantScope
  else tenantScope &&
    (owners.any (PerformerAssignment.forUser controls tenancy user) ||
      (!controls.mspEnabled && owners.isEmpty))

/-- A building the tenant boundary lets the user see. -/
def locationInScope (location : Option Location) : Bool :=
  match location with
  | none => false
  | some location => TenantAccess.forUser controls tenancy user [location.building.path]

/-- Get active monitoring groups inside the user's tenant scope. -/
def inUserMonitoringGroups (group : MonitoringGroup) : Bool :=
  (if hasUnrestrictedTenantAccess controls user then group.isActive else isActiveMember user group) &&
  (!(controls.mspEnabled || controls.multiSiteMode) ||
    group.locations.any (fun access => locationInScope controls tenancy user (some access.location)) ||
    group.channels.any
      (fun channel => locationInScope controls tenancy user channel.chassis.location) ||
    table.rows.any fun row => row.monitoringGroup.pk = group.pk &&
      locationInScope controls tenancy user row.wirelessUnit.baseChassis.location)

end Visibility

inductive AssignmentError where
  /-- An anonymous user has no monitoring groups. -/
  | attributeError
  | permissionDenied (message : String)
  /-- `PerformerAssignment.DoesNotExist`. -/
  | doesNotExist
  | validationError (message : String)
  deriving DecidableEq, Repr

section Permissions

variable (controls : DeploymentControls) (tenancy : Tenancy) (user : User)

def modifyRoles : List MembershipRole := [.operator, .admin, .owner]

/-- The query of `ensure_can_modify_unit`. -/
def canModify (building : Building) (organizationId : Nat)
    (membership : OrganizationMembership) : Bool :=
  membership.userId = user.pk && membership.organizationId = organizationId &&
    organizationActive tenancy organizationId && membership.isActive && membership.role ∈ modifyRoles &&
    (membership.campusId = none ||
      (building.campusId.isSome && membership.campusId = building.campusId))

/-- Require an MSP role that permits assignment changes for the unit. -/
def ensureCanModifyUnit (unit : WirelessUnit) : Except AssignmentError Unit :=
  if !controls.mspEnabled then .ok ()
  else if hasUnrestrictedTenantAccess controls user then .ok ()
  else if !controls.multitenancyInstalled then
    .error (.permissionDenied "Multi-tenant assignment access is unavailable")
  else match unit.baseChassis.location with
    | none => .error (.permissionDenied "The wireless unit is not assigned to an organization")
    | some location =>
      match location.building.organizationId with
      | none => .error (.permissionDenied "The wireless unit is not assigned to an organization")
      | some organizationId =>
        if tenancy.memberships.any (canModify tenancy user location.building organizationId) then .ok ()
        else .error (.permissionDenied "This membership cannot modify device assignments")

/-- Require the selected group to cover the unit in tenant-aware deployments. -/
def ensureGroupCanManageUnit (group : MonitoringGroup)
    (unit : WirelessUnit) : Except AssignmentError Unit :=
  if !(controls.mspEnabled || controls.multiSiteMode) then .ok ()
  else match unit.baseChassis.location with
    | none => .error (.permissionDenied "The wireless unit is not assigned to a managed location")
    | some _ =>
      if groupReachesUnit group unit then .ok ()
      else .error
        (.permissionDenied "The monitoring group does not manage the wireless unit's tenant scope")

/-- Enforce every tenant relationship required to mutate an assignment. -/
def ensureMutationScope (group : MonitoringGroup)
    (unit : WirelessUnit) : Except AssignmentError Unit := do
  ensureCanModifyUnit controls tenancy user unit
  ensureGroupCanManageUnit controls group unit

end Permissions

/-! ### Operations -/

structure CreatePerformerAssignment where
  performerId : Nat
  unitId : Nat
  groupId : Nat
  priority : AssignmentPriority := .normal
  notes : String := ""
  alertOnBatteryLow : Option Bool := none
  alertOnSignalLoss : Option Bool := none
  alertOnAudioLow : Option Bool := none
  alertOnHardwareOffline : Option Bool := none
  isActive : Bool := true
  deriving DecidableEq, Repr

structure UpdatePerformerAssignment where
  assignmentId : Nat
  values : AssignmentPatch := {}
  deriving DecidableEq, Repr

/-- The instance `create_assignment` builds, before it has a key. -/
def newAssignment (command : CreatePerformerAssignment) (unit : WirelessUnit) (group : MonitoringGroup)
    (user : User) : PerformerAssignment :=
  PerformerAssignment.patch
    { pk := 0, performer := command.performerId, wirelessUnit := unit, monitoringGroup := group
      priority := command.priority, notes := command.notes, isActive := command.isActive
      assignedBy := some user.pk }
    { alertOnBatteryLow := command.alertOnBatteryLow
      alertOnSignalLoss := command.alertOnSignalLoss
      alertOnAudioLow := command.alertOnAudioLow
      alertOnHardwareOffline := command.alertOnHardwareOffline }

def outsideScope : AssignmentError :=
  .permissionDenied "Assignment references an object outside the user's scope"

section Operations

variable (controls : DeploymentControls) (tenancy : Tenancy) {graph : HardwareGraph} (user : User)
  (table : AssignmentTable graph)

/-- Lock and return one user-visible assignment. -/
def getAssignmentForMutation (assignmentId : Nat) : Option PerformerAssignment :=
  table.rows.find? fun row => row.pk = assignmentId && row.forUser controls tenancy user

/-- Create an assignment after validating every object against user scope. -/
def createAssignment
    (command : CreatePerformerAssignment) : Except AssignmentError (AssignmentTable graph) :=
  if !user.isAuthenticated then .error .attributeError
  else match graph.groups.attach.find? fun (group : { row // row ∈ graph.groups }) =>
      group.val.pk = command.groupId &&
        inUserMonitoringGroups controls tenancy table user group.val with
    | none => .error outsideScope
    | some ⟨group, hgroup⟩ =>
      if hperformer : command.performerId ∈ graph.performers ∧
          performerForUser controls tenancy table user command.performerId = true then
        match graph.units.attach.find? fun (unit : { row // row ∈ graph.units }) =>
            unit.val.pk = command.unitId && unit.val.forUser controls tenancy user graph with
        | none => .error outsideScope
        | some ⟨unit, hunit⟩ =>
          match ensureMutationScope controls tenancy user group unit with
          | .error error => .error error
          | .ok () =>
            if hnew : ∀ other ∈ table.rows, other.pair ≠
              (newAssignment command unit group user).pair then
              .ok (table.insert (newAssignment command unit group user)
                ⟨hperformer.1, hunit, hgroup⟩ hnew)
            else
              .error (.validationError
                "Performer Assignment with this Performer and Wireless unit already exists.")
      else .error outsideScope

/-- Update fields on an existing assignment. None of them is in the unique constraint, so the
validation of the row passes. -/
def updateAssignment
    (command : UpdatePerformerAssignment) : Except AssignmentError (AssignmentTable graph) :=
  match getAssignmentForMutation controls tenancy user table command.assignmentId with
  | none => .error .doesNotExist
  | some row =>
    match ensureMutationScope controls tenancy user row.monitoringGroup row.wirelessUnit with
    | .error error => .error error
    | .ok () => .ok (table.patch row.pk command.values)

/-- Permanently delete an assignment: nothing when it is not found. -/
def deleteAssignment (assignmentId : Nat) : Except AssignmentError (Option (AssignmentTable graph)) :=
  match getAssignmentForMutation controls tenancy user table assignmentId with
  | none => .ok none
  | some row =>
    match ensureMutationScope controls tenancy user row.monitoringGroup row.wirelessUnit with
    | .error error => .error error
    | .ok () => .ok (some (table.delete row.pk))

/-- Deactivate an existing assignment: nothing when it is not found. -/
def deactivateAssignment
    (assignmentId : Nat) : Except AssignmentError (Option (AssignmentTable graph)) :=
  match getAssignmentForMutation controls tenancy user table assignmentId with
  | none => .ok none
  | some row =>
    match ensureMutationScope controls tenancy user row.monitoringGroup row.wirelessUnit with
    | .error error => .error error
    | .ok () => .ok (some (table.patch row.pk { isActive := some false }))

end Operations

inductive AssignmentMutation where
  | create (command : CreatePerformerAssignment)
  | update (command : UpdatePerformerAssignment)
  | delete (assignmentId : Nat)
  | deactivate (assignmentId : Nat)
  deriving DecidableEq, Repr

namespace AssignmentMutation

/-- What a mutation does: an error, nothing for an assignment that is not found, or the table it
leaves. -/
def perform (controls : DeploymentControls) (tenancy : Tenancy) {graph : HardwareGraph} (user : User)
    (table : AssignmentTable graph) : AssignmentMutation →
      Except AssignmentError (Option (AssignmentTable graph))
  | create command => (createAssignment controls tenancy user table command).map some
  | update command => (updateAssignment controls tenancy user table command).map some
  | delete assignmentId => deleteAssignment controls tenancy user table assignmentId
  | deactivate assignmentId => deactivateAssignment controls tenancy user table assignmentId

def targetUnit {graph : HardwareGraph} (table : AssignmentTable graph) : AssignmentMutation →
    Option WirelessUnit
  | create command => graph.units.find? fun unit => unit.pk = command.unitId
  | update command => (table.rows.find? fun row => row.pk = command.assignmentId).map (·.wirelessUnit)
  | delete assignmentId => (table.rows.find? fun row => row.pk = assignmentId).map (·.wirelessUnit)
  | deactivate assignmentId => (table.rows.find? fun row => row.pk = assignmentId).map (·.wirelessUnit)

end AssignmentMutation

end Micboard.TenantAccess
