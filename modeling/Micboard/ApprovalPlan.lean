import Micboard.ApprovalResolution

/-! The plan of an approval batch: every selected row is resolved in the locked inventory and checked
against the owners of its address and against what the rows before it claimed. Nothing is written. -/

namespace Micboard

open Library LockedApprovalInventory

/-- What the rows of a batch claimed so far. -/
structure DiscoveryApprovalBatchPolicy where
  owners : ApprovalIPOwners
  ipClaims : String → Option ApprovalTargetKey
  targetIps : ApprovalTargetKey → Option String
  identitySerials : ChassisIdentity → Option String
  identityRoles : ChassisIdentity → Option String
  serialIdentities : Nat × String → Option ChassisIdentity
  existingChassisIdentities : Nat → Option ChassisIdentity
  existingChargerManufacturers : Nat → Option Nat

namespace DiscoveryApprovalBatchPolicy

def start (owners : ApprovalIPOwners) : DiscoveryApprovalBatchPolicy where
  owners
  ipClaims := fun _ => none
  targetIps := fun _ => none
  identitySerials := fun _ => none
  identityRoles := fun _ => none
  serialIdentities := fun _ => none
  existingChassisIdentities := fun _ => none
  existingChargerManufacturers := fun _ => none

/-- Return one owner and reject legacy data with ambiguous owners. -/
def singleOwnerId (ownerIds : List Nat) (ip ownerLabel : String) :
    Except ApprovalError (Option Nat) :=
  if ownerIds.length > 1 then .error (.ambiguousOwner ip ownerLabel) else .ok ownerIds.head?

/-- Require a one-to-one mapping between requested addresses and targets. -/
def claimAddress (policy : DiscoveryApprovalBatchPolicy) (item : DiscoveryQueue)
    (targetKey : ApprovalTargetKey) : Except ApprovalError DiscoveryApprovalBatchPolicy := do
  let ipClaims ← claim (.assignedToMultiple item.ip) policy.ipClaims item.ip targetKey
  let targetIps ←
    claim (.multipleAddresses item.name targetKey) policy.targetIps targetKey item.ip
  .ok { policy with ipClaims, targetIps }

/-- Validate existing and in-batch address ownership for a charger target. -/
def validateCharger (policy : DiscoveryApprovalBatchPolicy) (item : DiscoveryQueue)
    (charger : Charger) : Except ApprovalError DiscoveryApprovalBatchPolicy := do
  let chassisOwnerId ← singleOwnerId (policy.owners.chassisIds item.ip) item.ip "wireless chassis"
  if chassisOwnerId ≠ none then .error (.ownedByWirelessChassis item.ip)
  else
    let chargerOwnerId ← singleOwnerId (policy.owners.chargerIds item.ip) item.ip "chargers"
    if chargerOwnerId.any (· ≠ charger.pk) then .error (.ownedByAnotherCharger item.ip)
    else
      let existingChargerManufacturers ← claim (.conflictingManufacturers charger.pk)
        policy.existingChargerManufacturers charger.pk item.manufacturer.pk
      claimAddress { policy with existingChargerManufacturers } item (.charger charger.pk)

/-- The identity a row gives its target. -/
def identityOf (item : DiscoveryQueue) (target : ChassisApprovalTarget) : ChassisIdentity :=
  (item.manufacturer.pk, target.apiDeviceId)

/-- One stable key for an existing chassis or a new durable identity. -/
def targetKeyOf (item : DiscoveryQueue) (target : ChassisApprovalTarget) : ApprovalTargetKey :=
  match target.chassis with
  | none => .chassisIdentity item.manufacturer.pk target.apiDeviceId
  | some chassis => .chassis chassis.pk

/-- The rows for one existing chassis agree on its identity. -/
def claimExisting (policy : DiscoveryApprovalBatchPolicy) (item : DiscoveryQueue)
    (target : ChassisApprovalTarget) : Except ApprovalError DiscoveryApprovalBatchPolicy :=
  match target.chassis with
  | none => .ok policy
  | some chassis => do
    let existingChassisIdentities ← claim (.conflictingApiIds chassis)
      policy.existingChassisIdentities chassis.pk (identityOf item target)
    .ok { policy with existingChassisIdentities }

/-- A serial number and an API identity belong to one another within a batch. -/
def claimSerial (policy : DiscoveryApprovalBatchPolicy) (item : DiscoveryQueue)
    (target : ChassisApprovalTarget) : Except ApprovalError DiscoveryApprovalBatchPolicy :=
  let identity := identityOf item target
  let serialNumber := text item.serialNumber
  if serialNumber = "" then .ok policy
  else do
    let identitySerials ← claim (.conflictingSerials item.name identity) policy.identitySerials
      identity serialNumber
    let serialIdentities ← claim (.conflictingSerialIdentities serialNumber)
      policy.serialIdentities (item.manufacturer.pk, serialNumber) identity
    .ok { policy with identitySerials, serialIdentities }

/-- Validate durable identity, role, and address ownership for one chassis entry. -/
def validateChassis (policy : DiscoveryApprovalBatchPolicy) (item : DiscoveryQueue)
    (target : ChassisApprovalTarget) : Except ApprovalError DiscoveryApprovalBatchPolicy := do
  let chargerOwnerId ← singleOwnerId (policy.owners.chargerIds item.ip) item.ip "chargers"
  if chargerOwnerId ≠ none then .error (.ownedByCharger item.ip)
  else
    let chassisOwnerId ←
      singleOwnerId (policy.owners.chassisIds item.ip) item.ip "wireless chassis"
    if chassisOwnerId.any fun owner => target.chassis.map Chassis.pk ≠ some owner then
      .error (.ownedByAnotherChassis item.ip)
    else
      let policy ← claimExisting policy item target
      let policy ← claimAddress policy item (targetKeyOf item target)
      let identityRoles ← claim (.conflictingRoles item.name (identityOf item target))
        policy.identityRoles (identityOf item target) item.role
      claimSerial { policy with identityRoles } item target

end DiscoveryApprovalBatchPolicy

/-- Validated inventory targets and permissions for one approval batch. -/
structure DiscoveryApprovalPlan where
  chargers : Nat → Option Charger
  chassis : Nat → Option ChassisApprovalTarget
  requiredPermissions : List String

/-- The plan and the policy while the rows are handled one by one. -/
structure PlanningState where
  policy : DiscoveryApprovalBatchPolicy
  plan : DiscoveryApprovalPlan

namespace DiscoveryApprovalPlan

open DiscoveryApprovalResolver

/-- `required_permissions.add(permission)`. -/
def addPermission (permissions : List String) (permission : String) : List String :=
  if permission ∈ permissions then permissions else permissions ++ [permission]

def start (inventory : LockedApprovalInventory) : PlanningState where
  policy := .start inventory.owners
  plan := {
    chargers := fun _ => none
    chassis := fun _ => none
    requiredPermissions := ["micboard.change_discoveryqueue"] }

def chassisPermission (target : ChassisApprovalTarget) : String :=
  if target.chassis = none then "micboard.add_wirelesschassis"
  else "micboard.change_wirelesschassis"

section

variable (sha256 : String → Nat)

/-- Resolve one selected row into the plan. -/
def planItem (inventory : LockedApprovalInventory) (state : PlanningState) (item : DiscoveryQueue) :
    Except ApprovalError PlanningState := do
  validateRole item
  if item.isCharger then
    let charger ← resolveCharger item inventory
    let policy ← state.policy.validateCharger item charger
    .ok {
      policy
      plan := { state.plan with
        chargers := Function.update state.plan.chargers item.pk (some charger)
        requiredPermissions :=
          addPermission state.plan.requiredPermissions "micboard.change_charger" } }
  else
    let target ← resolveChassis sha256 item inventory
    let policy ← state.policy.validateChassis item target
    .ok {
      policy
      plan := { state.plan with
        chassis := Function.update state.plan.chassis item.pk (some target)
        requiredPermissions :=
          addPermission state.plan.requiredPermissions (chassisPermission target) } }

/-- Lock inventory and resolve every selected row into one coherent plan. -/
def build (db : Inventory) (items : List DiscoveryQueue) :
    Except ApprovalError DiscoveryApprovalPlan := do
  let inventory ← lock db items
  let state ← items.foldlM (planItem sha256 inventory) (start inventory)
  .ok state.plan

end

end DiscoveryApprovalPlan

end Micboard
