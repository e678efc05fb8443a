import Micboard.PersistenceEffect

/-! Synchronizing a manufacturer's device inventory. The normalized devices of a batch are handled
one by one: each is checked against the chassis table, through the identity index that was built for
the batch, and then created, moved or refreshed. An exception undoes the whole batch. Movement
records and discovery scheduling are written to other tables and are not part of the model. -/

namespace Micboard

open Library WirelessChassisPersistenceService

inductive SyncOutcome where
  | created | updated
  deriving DecidableEq, Repr

/-- The tables and the running identity index. -/
structure SyncState where
  inventory : Inventory
  identityIndex : Option DeviceIdentityIndex

/-- The index after a move was persisted: its instance is the moved one, and is found under the new
address only. -/
def noteMoved (identityIndex : Option DeviceIdentityIndex) (moved : Chassis) (oldIp : String) :
    Except IdentityError (Option DeviceIdentityIndex) :=
  match identityIndex with
  | none => .ok none
  | some index =>
    if oldIp = "" then .ok (some (index.setObject moved))
    else do
      let index ← (index.setObject moved).moveIp moved oldIp
      .ok (some index)

/-- Persist an address move and keep the batch identity index current. -/
def persistMovedChassis (now : Time) (state : SyncState) (chassis : Chassis)
    (payload : NormalizedHardware) : Except PersistenceError SyncState := do
  let (inventory, moved) ← updateFromNormalized now state.inventory chassis payload true
  let identityIndex ← liftIdentity (noteMoved state.identityIndex moved chassis.ip)
  let (inventory, responding) ← transitionRespondingChassisOnline now inventory moved
  .ok { inventory, identityIndex := identityIndex.map fun index => index.setObject responding }

/-- A device that is degraded or under maintenance keeps its status when it responds. -/
def respondUnlessServiced (now : Time) (db : Inventory) (existing : Chassis) :
    Except PersistenceError (Inventory × Chassis) :=
  if existing.status = .degraded ∨ existing.status = .maintenance then .ok (db, existing)
  else transitionRespondingChassisOnline now db existing

/-- Refresh a device that is stored with its address. -/
def persistDuplicate (now : Time) (state : SyncState) (existing : Chassis)
    (payload : NormalizedHardware) : Except PersistenceError SyncState := do
  let (inventory, existing) ← updateFromNormalized now state.inventory existing payload false
  let (inventory, existing) ← respondUnlessServiced now inventory existing
  .ok { inventory, identityIndex := state.identityIndex.map fun index => index.setObject existing }

/-- A new device is created online and added to the index. -/
def persistNew (now : Time) (manufacturer : Manufacturer) (state : SyncState)
    (payload : NormalizedHardware) : Except PersistenceError SyncState := do
  let (inventory, chassis) ←
    createFromNormalized now state.inventory manufacturer payload (some .online)
  match state.identityIndex with
  | none => .ok { inventory, identityIndex := none }
  | some index =>
    let index ← liftIdentity (index.add chassis)
    .ok { inventory, identityIndex := some index }

def checkPayload (manufacturer : Manufacturer) (state : SyncState) (payload : NormalizedHardware) :
    Except IdentityError DeduplicationResult :=
  checkDevice state.inventory payload.serial payload.mac payload.ip payload.apiDeviceId
    (some manufacturer) state.identityIndex

/-- Persist one normalized device and return its sync outcome. -/
def syncNormalizedDevice (now : Time) (manufacturer : Manufacturer) (state : SyncState)
    (payload : NormalizedHardware) : Except PersistenceError (SyncState × Option SyncOutcome) := do
  match ← liftIdentity (checkPayload manufacturer state payload) with
  | .conflict _ _ _ => .ok (state, none)
  | .moved existing _ _ =>
    if existing.manufacturer.pk ≠ manufacturer.pk then .ok (state, none)
    else
      let state ← persistMovedChassis now state existing payload
      .ok (state, some .updated)
  | .duplicate existing _ =>
    if existing.manufacturer.pk ≠ manufacturer.pk then .ok (state, none)
    else
      let state ← persistDuplicate now state existing payload
      .ok (state, some .updated)
  | .new =>
    let state ← persistNew now manufacturer state payload
    .ok (state, some .created)

/-- The tables and the index during a batch, with the devices created and updated so far. -/
structure SyncRun extends SyncState where
  createdCount : Nat
  updatedCount : Nat

/-- One turn of the loop over the batch. -/
def syncStep (now : Time) (manufacturer : Manufacturer) (run : SyncRun)
    (payload : NormalizedHardware) : Except PersistenceError SyncRun := do
  let (state, outcome) ← syncNormalizedDevice now manufacturer run.toSyncState payload
  .ok {
    state with
    createdCount := run.createdCount + if outcome = some .created then 1 else 0
    updatedCount := run.updatedCount + if outcome = some .updated then 1 else 0 }

/-- The state in which a batch starts. -/
def SyncRun.start (db : Inventory) (index : DeviceIdentityIndex) : SyncRun where
  inventory := db
  identityIndex := some index
  createdCount := 0
  updatedCount := 0

/-- `_persist_normalized_devices`: the tables after the batch and its counts, or nothing when the
manufacturer became inactive. -/
def persistNormalizedDevices (now : Time) (db : Inventory) (payloads : List NormalizedHardware)
    (manufacturer : Manufacturer) (force : Bool) :
    Except PersistenceError (Inventory × Option (Nat × Nat)) :=
  if !force && !manufacturer.isActive then .ok (db, none)
  else do
    let index ← liftIdentity (DeviceIdentityIndex.build db payloads manufacturer)
    let run ← payloads.foldlM (syncStep now manufacturer) (.start db index)
    .ok (run.inventory, some (run.createdCount, run.updatedCount))

end Micboard
