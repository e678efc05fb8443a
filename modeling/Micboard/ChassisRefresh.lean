import Micboard.AccessBoundary
import Micboard.PromotionAgreement

/-! The refresh of selected chassis. A queued selection is cut to a page, read again with the
authority of the operator who asked for it, and refreshed one chassis at a time: each is fetched
from its manufacturer and written in a transaction of its own, so a failure leaves its siblings
alone. Instances are those the queryset loaded at its start; the times that one write reads are one
time, and a rejected plugin or device is an error of its own. -/

namespace Micboard

open Library Library.Ranking TenantAccess

def maxChassisRefreshBatch : Nat := 100

/-- The adapter of one manufacturer; `Raw` is what its API returns. An empty answer counts as none. -/
structure DevicePlugin (Raw : Type*) where
  getDevice : String → Except String (Option Raw)
  transformDeviceData : Raw → Except String (Option VendorPayload)

/-- What makes the refresh of one chassis fail. -/
inductive RefreshError where
  | plugin (message : String)
  | persistence (error : PersistenceError)
  deriving DecidableEq, Repr

/-- Summary of one tenant-scoped chassis refresh operation. -/
structure ChassisRefreshResult where
  syncedCount : Nat
  failedCount : Nat
  denied : Bool := false
  truncated : Bool := false
  deriving DecidableEq, Repr

namespace ChassisRefreshService

/-- The values that an update names for a transformed device. -/
def updateValues (now : Time) (data : VendorPayload) : List FieldValue :=
  [.lastSeen (some now)] ++
    (if (data.get "name").isTruthy then [.name (data.get "name").str] else []) ++
    (if (data.get "firmware").isTruthy then [.firmwareVersion (data.get "firmware").str] else [])

/-- Persist fetched details and lifecycle changes in one short transaction. -/
def applyRefresh (now : Time) (db : Inventory) (chassisId : Nat) (data : VendorPayload) :
    Except PersistenceError (Inventory × Bool) :=
  match db.find chassisId with
  | none => .error (.save (.chassisDoesNotExist chassisId))
  | some chassis => do
    let (db, chassis) ← WirelessChassisPersistenceService.update now db chassis
      (WirelessChassisWrite.ofValues (updateValues now data)) false
    if chassis.status = .retired then .ok (db, true)
    else
      -- Both transitions may decline; their answers are not looked at.
      let (db, _) ← provisionDiscovered now db chassis
      let (db, _) ← HardwareLifecycleManager.markOnline now db chassis.pk
      .ok (db, true)

section Loop

variable {Raw : Type*} (registry : String → Except String (DevicePlugin Raw)) (clock : Nat → Time)

/-- Fetch one chassis outside a transaction, then persist atomically. -/
def refreshChassis (db : Inventory) (chassis : Chassis) : Except RefreshError (Inventory × Bool) :=
  match registry chassis.manufacturer.code with
  | .error message => .error (.plugin message)
  | .ok plugin =>
    match plugin.getDevice chassis.apiDeviceId with
    | .error message => .error (.plugin message)
    | .ok none => .ok (db, false)
    | .ok (some deviceData) =>
      match plugin.transformDeviceData deviceData with
      | .error message => .error (.plugin message)
      | .ok none => .ok (db, false)
      | .ok (some transformedData) =>
        if transformedData = [] then .ok (db, false)
        else match applyRefresh (clock chassis.pk) db chassis.pk transformedData with
          | .ok outcome => .ok outcome
          | .error error => .error (.persistence error)

/-- One round of the loop: the table, and the chassis synced and failed so far. -/
def refreshStep (state : Inventory × Nat × Nat) (chassis : Chassis) : Inventory × Nat × Nat :=
  match refreshChassis registry clock state.1 chassis with
  | .ok (db, true) => (db, state.2.1 + 1, state.2.2)
  | .ok (db, false) => (db, state.2.1, state.2.2 + 1)
  | .error _ => (state.1, state.2.1, state.2.2 + 1)

/-- Refresh a scoped selection and report successes without aborting siblings. -/
def refresh (db : Inventory) (queryset : List Chassis) : Inventory × ChassisRefreshResult :=
  let (db, syncedCount, failedCount) :=
    (orderBy Chassis.pk queryset).foldl (refreshStep registry clock) (db, 0, 0)
  (db, { syncedCount, failedCount })

end Loop

/-- An element of a queued selection: a number, or something else that JSON holds. -/
inductive QueuedId where
  | int (value : Int)
  | bool (value : Bool)
  | other
  deriving DecidableEq, Repr

def QueuedId.validKey : QueuedId → Option Nat
  | int value => if 0 < value then some value.toNat else none
  | bool _ | other => none

/-- The keys of the bounded selection, once each and in order. -/
def selectedIds (chassisIds : List QueuedId) : List Nat :=
  orderBy id ((page maxChassisRefreshBatch chassisIds).1.filterMap QueuedId.validKey).dedup

/-- The operator who asked for a refresh. -/
structure Operator extends TenantAccess.User where
  isActive : Bool := true
  isStaff : Bool := false
  permissions : List String := []
  deriving DecidableEq, Repr

/-- `user.has_perm(permission)`. -/
def Operator.hasPerm (actor : Operator) (permission : String) : Bool :=
  actor.isActive && (actor.isSuperuser || permission ∈ actor.permissions)

/-- The deployment that an authorization reads; a chassis is at a location or at none. -/
structure Deployment where
  controls : TenantAccess.DeploymentControls
  tenancy : TenantAccess.Tenancy
  groups : List TenantAccess.MonitoringGroup
  users : List Operator
  locationOf : Nat → Option TenantAccess.Location

namespace Deployment

variable (deployment : Deployment) (actor : Operator)

def chassisRow (pk : Nat) : TenantRow :=
  match deployment.locationOf pk with
  | none => { pk, tenantEnds := [(none, none)], siteEnds := [none] }
  | some location => locatedRow pk location

/-- The operator is one who may refresh chassis at all. -/
def mayRefresh : Bool :=
  actor.isActive && actor.isStaff && actor.hasPerm "micboard.change_wirelesschassis" &&
    TenantRoleAccessService.canManageModel deployment.controls deployment.tenancy actor.toUser
      wirelessChassisModel

/-- The operator sees the chassis and may change it. -/
def inScope (chassis : Chassis) : Bool :=
  TenantOptimizedQuerySet.forUser deployment.controls deployment.tenancy deployment.groups actor.toUser
      wirelessChassisModel (deployment.chassisRow chassis.pk) &&
    TenantRoleAccessService.scopeManageable deployment.controls deployment.tenancy actor.toUser
      wirelessChassisModel
      (TenantRoleAccessService.scopeSharedOwnership deployment.controls deployment.tenancy actor.toUser
        wirelessChassisModel []) (deployment.chassisRow chassis.pk)

end Deployment

section Authorized

variable {Raw : Type*} (registry : String → Except String (DevicePlugin Raw)) (clock : Nat → Time)
  (deployment : Deployment)

/-- Revalidate a bounded queued selection against the initiating operator. -/
def refreshAuthorizedIds (db : Inventory) (chassisIds : List QueuedId) (actorId : Nat) :
    Inventory × ChassisRefreshResult :=
  let truncated := (page maxChassisRefreshBatch chassisIds).2
  let selected := selectedIds chassisIds
  let denied : Inventory × ChassisRefreshResult :=
    (db, { syncedCount := 0, failedCount := selected.length, denied := true, truncated })
  match deployment.users.find? fun user => user.pk = actorId with
  | none => denied
  | some actor =>
    if !deployment.mayRefresh actor then denied
    else
      let queryset :=
        db.chassis.filter fun chassis => chassis.pk ∈ selected && deployment.inScope actor chassis
      let (db, result) := refresh registry clock db queryset
      (db, {
        syncedCount := result.syncedCount
        failedCount := result.failedCount + selected.length - queryset.length
        truncated })

end Authorized

end ChassisRefreshService

end Micboard
