import Micboard.ApprovalPlan

/-! The approval of staged queue rows: the pending rows of a selection are locked, planned, persisted
target by target and marked imported in one transaction, so that whatever is raised leaves the tables as
they were. -/

namespace Micboard

open Library Library.Text LockedApprovalInventory DiscoveryApprovalResolver
  DiscoveryApprovalBatchPolicy

def liftApprovalSave {α : Type} : Except SaveError α → Except ApprovalError α
  | .ok a => .ok a
  | .error e => .error (.save e)

def liftApproval {α : Type} : Except PersistenceError α → Except ApprovalError α
  | .ok a => .ok a
  | .error e => .error (.persistence e)

@[simp] theorem liftApprovalSave_eq_ok {α : Type} {x : Except SaveError α} {a : α} :
    liftApprovalSave x = .ok a ↔ x = .ok a := by
  cases x <;> simp [liftApprovalSave]

@[simp] theorem liftApproval_eq_ok {α : Type} {x : Except PersistenceError α} {a : α} :
    liftApproval x = .ok a ↔ x = .ok a := by
  cases x <;> simp [liftApproval]

/-- `plan[pk]`. -/
def planned {α : Type} (entries : Nat → Option α) (pk : Nat) : Except ApprovalError α :=
  match entries pk with
  | some entry => .ok entry
  | none => .error (.unplanned pk)

/-- Persisted inventory targets and unique write counts. -/
structure DiscoveryApprovalPersistence where
  chargers : Nat → Option Charger
  chassis : Nat → Option Chassis
  createdCount : Nat
  updatedCount : Nat

/-- Summary of one discovery approval transaction. -/
structure DiscoveryApprovalResult where
  importedCount : Nat
  createdCount : Nat
  updatedCount : Nat
  deriving DecidableEq, Repr

/-- The tables an approval reads and writes. -/
structure ApprovalState where
  inventory : Inventory
  queue : List DiscoveryQueue

structure Reviewer where
  pk : Nat
  hasPerms : List String → Bool

/-- `charger.save(update_fields=…)` of an instance that was read in the same transaction: the columns it
does not name hold what the instance holds. -/
def saveCharger (db : Inventory) (charger : Charger) : Except SaveError (Inventory × Charger) := do
  HardwareIPOwnershipService.validateForCharger db charger
  let row := { charger with ip := getDbPrepValue charger.ip }
  if db.chargers.any fun other => other.pk ≠ row.pk && row.ip ≠ none && other.ip = row.ip then
    .error .integrityError
  else
    .ok ({ db with chargers := replaceRow Charger.pk row db.chargers }, charger)

namespace DiscoveryApprovalService

/-- Apply an ordered logical-target group with one inventory save. -/
def adoptWirelessChassis (now : Time) (db : Inventory)
    (entries : List (DiscoveryQueue × ChassisApprovalTarget)) :
    Except ApprovalError (Inventory × Chassis × Bool) := do
  let values ← entries.mapM fun entry => chassisValues entry.1 entry.2
  let write := WirelessChassisWrite.ofValues values.flatten
  match entries.head?.bind fun entry => entry.2.chassis with
  | none =>
    let (db, chassis) ← liftApproval (WirelessChassisPersistenceService.create now db none write)
    .ok (db, chassis, true)
  | some chassis =>
    let (db, chassis) ←
      liftApproval (WirelessChassisPersistenceService.update now db chassis write true)
    .ok (db, chassis, false)

/-- The fields one row gives a charger. -/
def assignCharger (charger : Charger) (item : DiscoveryQueue) : Charger :=
  { charger with
    manufacturer := some item.manufacturer
    ip := some item.ip
    status := .online
    isActive := true
    name := WirelessChassisPersistenceService.textOr (text item.name) charger.name
    fqdn := WirelessChassisPersistenceService.textOr (text item.fqdn) charger.fqdn
    model := WirelessChassisPersistenceService.textOr (text item.model) charger.model
    firmwareVersion := WirelessChassisPersistenceService.textOr (text item.firmwareVersion)
      charger.firmwareVersion }

/-- Apply an ordered charger-target group with one inventory save. -/
def adoptCharger (db : Inventory) (items : List DiscoveryQueue) (charger : Charger) :
    Except ApprovalError (Inventory × Charger) :=
  liftApprovalSave (saveCharger db (items.foldl assignCharger charger))

/-- The tables and the persisted targets while the groups are handled one by one. -/
structure PersistingState where
  inventory : Inventory
  persistence : DiscoveryApprovalPersistence

/-- `approved.update({item.pk: row for item in items})`. -/
def approveAll {α : Type} (approved : Nat → Option α) (pks : List Nat) (row : α) :
    Nat → Option α :=
  pks.foldl (fun approved pk => Function.update approved pk (some row)) approved

def persistChargerGroup (state : PersistingState)
    (group : Nat × List (DiscoveryQueue × Charger)) : Except ApprovalError PersistingState := do
  match group.2 with
  | [] => .ok state
  | entry :: _ =>
    let (inventory, charger) ←
      adoptCharger state.inventory (group.2.map Prod.fst) entry.2
    .ok {
      inventory
      persistence := { state.persistence with
        chargers := approveAll state.persistence.chargers (group.2.map (·.1.pk)) charger
        updatedCount := state.persistence.updatedCount + 1 } }

def persistChassisGroup (now : Time) (state : PersistingState)
    (group : ApprovalTargetKey × List (DiscoveryQueue × ChassisApprovalTarget)) :
    Except ApprovalError PersistingState := do
  let (inventory, chassis, created) ← adoptWirelessChassis now state.inventory group.2
  .ok {
    inventory
    persistence := { state.persistence with
      chassis := approveAll state.persistence.chassis (group.2.map (·.1.pk)) chassis
      createdCount := state.persistence.createdCount + created.toNat
      updatedCount := state.persistence.updatedCount + (!created).toNat } }

/-- The chassis rows of a batch with their planned targets. -/
def chassisEntries (items : List DiscoveryQueue) (plan : DiscoveryApprovalPlan) :
    Except ApprovalError (List (DiscoveryQueue × ChassisApprovalTarget)) :=
  (items.filter fun item => !item.isCharger).mapM fun item =>
    (planned plan.chassis item.pk).map (Prod.mk item)

def chargerEntries (items : List DiscoveryQueue) (plan : DiscoveryApprovalPlan) :
    Except ApprovalError (List (DiscoveryQueue × Charger)) :=
  (items.filter DiscoveryQueue.isCharger).mapM fun item =>
    (planned plan.chargers item.pk).map (Prod.mk item)

/-- Coalesce queue rows by logical target and persist each target once: `_persist_targets`. -/
def persistTargets (now : Time) (db : Inventory) (items : List DiscoveryQueue)
    (plan : DiscoveryApprovalPlan) : Except ApprovalError PersistingState := do
  let chargers ← chargerEntries items plan
  let chassis ← chassisEntries items plan
  let start : PersistingState := {
    inventory := db
    persistence := {
      chargers := fun _ => none
      chassis := fun _ => none
      createdCount := 0
      updatedCount := 0 } }
  let state ← (groupBy (fun entry => entry.2.pk) chargers).foldlM persistChargerGroup start
  (groupBy (fun entry => targetKeyOf entry.1 entry.2) chassis).foldlM (persistChassisGroup now) state

/-- Record inventory links and review metadata of one imported row. -/
def importedRow (now : Time) (reviewer : Reviewer) (persistence : DiscoveryApprovalPersistence)
    (item : DiscoveryQueue) : Except ApprovalError DiscoveryQueue :=
  if item.isCharger then do
    let charger ← planned persistence.chargers item.pk
    .ok { item with
      existingChargerId := some charger.pk
      status := .imported
      reviewedAt := some now
      reviewedBy := some reviewer.pk }
  else do
    let chassis ← planned persistence.chassis item.pk
    .ok { item with
      existingDeviceId := some chassis.pk
      status := .imported
      reviewedAt := some now
      reviewedBy := some reviewer.pk }

/-- The queue after the rows of a batch were marked imported. -/
def markImported (now : Time) (queue items : List DiscoveryQueue)
    (persistence : DiscoveryApprovalPersistence) (reviewer : Reviewer) :
    Except ApprovalError (List DiscoveryQueue) := do
  let rows ← items.mapM (importedRow now reviewer persistence)
  .ok (rows.foldl (fun queue row => replaceRow DiscoveryQueue.pk row queue) queue)

/-- SQL `TRIM`: only blanks are stripped. -/
def sqlTrim (value : String) : String :=
  String.ofList (stripBy (· = ' ') value.toList)

/-- The permission that one selected row seems to need before anything is locked. -/
def preflightPermission (db : Inventory) (item : DiscoveryQueue) : String :=
  let apiDeviceId := sqlTrim item.apiDeviceId
  let serialNumber := sqlTrim item.serialNumber
  let stored (column : Chassis → String) (value : String) : Bool :=
    db.chassis.any fun row => row.manufacturer.pk = item.manufacturer.pk && column row = value
  if item.isCharger then "micboard.change_charger"
  else if item.existingDeviceId ≠ none ∨
      (apiDeviceId ≠ "" ∧ stored Chassis.apiDeviceId apiDeviceId = true) ∨
      (serialNumber ≠ "" ∧ stored Chassis.serialNumber serialNumber = true) then
    "micboard.change_wirelesschassis"
  else "micboard.add_wirelesschassis"

/-- The pending rows of a queryset in primary-key order, one more than a batch at most. -/
def pendingRows (queue : List DiscoveryQueue) (queryset : DiscoveryQueue → Bool) :
    List DiscoveryQueue :=
  ((queue.filter fun item => queryset item && item.status = .pending).insertionSort
    fun a b => a.pk ≤ b.pk).take (maxDiscoveryApprovalBatch + 1)

/-- Reject missing target permissions before validation or row locks. -/
def preflightTargetPermissions (state : ApprovalState) (queryset : DiscoveryQueue → Bool)
    (reviewer : Reviewer) : Except ApprovalError Unit :=
  let required := (pendingRows state.queue queryset).foldl
    (fun permissions item => DiscoveryApprovalPlan.addPermission permissions
      (preflightPermission state.inventory item)) []
  if required ≠ [] ∧ reviewer.hasPerms required = false then .error .permissionDenied else .ok ()

/-- Lock every pending queue row sharing a requested address in stable order; the selected ones. -/
def lockItems (queue : List DiscoveryQueue) (queryset : DiscoveryQueue → Bool) :
    Except ApprovalError (List DiscoveryQueue) :=
  let requested := pendingRows queue queryset
  let locked := pendingRows queue fun item =>
    (requestedIps requested).any fun ip => item.ip = getPrepValue ip
  if requested.length > maxDiscoveryApprovalBatch then .error .batchLimit
  else if requested = [] then .ok []
  else if locked.length > maxDiscoveryApprovalBatch then .error .conflictScopeLimit
  else
    .ok ((queue.filter fun item => locked.any (fun row => row.pk = item.pk &&
      requested.any fun selected => selected.pk = row.pk) && item.status = .pending).insertionSort
      fun a b => a.pk ≤ b.pk)

/-- Import pending entries once and record their reviewer atomically. -/
def approve (sha256 : String → Nat) (now : Time) (state : ApprovalState)
    (queryset : DiscoveryQueue → Bool) (reviewer : Reviewer) :
    Except ApprovalError (ApprovalState × DiscoveryApprovalResult) :=
  if reviewer.hasPerms ["micboard.change_discoveryqueue"] = false then .error .permissionDenied
  else do
    preflightTargetPermissions state queryset reviewer
    let items ← lockItems state.queue queryset
    let _ ← items.mapM fun item =>
      liftApprovalSave (HardwareIPOwnershipService.canonicalIp (some item.ip))
    let plan ← DiscoveryApprovalPlan.build sha256 state.inventory items
    if reviewer.hasPerms plan.requiredPermissions = false then .error .permissionDenied
    else
      let persisted ← persistTargets now state.inventory items plan
      let queue ← markImported now state.queue items persisted.persistence reviewer
      .ok ({ inventory := persisted.inventory, queue }, {
        importedCount := items.length
        createdCount := persisted.persistence.createdCount
        updatedCount := persisted.persistence.updatedCount })

end DiscoveryApprovalService

end Micboard
