import Micboard.SyncInventory

/-! Polling a manufacturer's devices. Each polled device is upserted on its vendor identifier alone
and its lifecycle is reconciled; what fails for one device is logged and the next one is handled. A
complete snapshot then marks the manufacturer's other chassis offline. Channels and units are
written to other tables: of them the model keeps whether their update succeeded. -/

namespace Micboard

open Library Library.Text WirelessChassisPersistenceService HardwareLifecycleManager

/-- What aborts the update of one polled device. -/
inductive PollingError where
  | missingIdentifier
  | payload (error : PayloadError)
  | persistence (error : PersistenceError)
  | channels
  deriving DecidableEq, Repr

/-- A text field that is not nullable: `None` passes validation and is refused by the column. -/
def requiredText (field : String) (value : PyValue) : Except PollingError String :=
  match optionalText field value with
  | .error e => .error (.payload e)
  | .ok none => .error (.persistence (.save .integrityError))
  | .ok (some text) => .ok text

/-- The identifier of a polled device: a false `api_device_id` gives way to `id`. -/
def polledApiDeviceId (data : VendorPayload) : String :=
  match (data.get "api_device_id").orElse (data.get "id") with
  | .none => ""
  | raw => strip raw.str

/-- The fields that a polled device supplies. -/
def polledValues (now : Time) (data : VendorPayload) : Except PollingError (List FieldValue) := do
  let ip ← requiredText "ip" (data.getD "ip" (.text ""))
  let model ← requiredText "model" (data.getD "type" (.text "unknown"))
  let name ← requiredText "name" (data.getD "name" (.text ""))
  let firmwareVersion ← requiredText "firmware_version" (data.getD "firmware" (.text ""))
  .ok [.ip ip, .model model, .name name, .firmwareVersion firmwareVersion, .lastSeen (some now)]

def liftPersistence {α : Type} : Except PersistenceError α → Except PollingError α
  | .ok a => .ok a
  | .error e => .error (.persistence e)

@[simp] theorem liftPersistence_eq_ok {α : Type} {x : Except PersistenceError α} {a : α} :
    liftPersistence x = .ok a ↔ x = .ok a := by
  cases x <;> simp [liftPersistence]

def upsertPolled (now : Time) (db : Inventory) (manufacturer : Manufacturer) (data : VendorPayload) :
    Except PollingError (Inventory × Chassis × Bool) :=
  if polledApiDeviceId data = "" then .error .missingIdentifier
  else do
    let values ← polledValues now data
    let defaults := WirelessChassisWrite.ofValues values
    liftPersistence (upsert now db manufacturer (polledApiDeviceId data) defaults
      (defaults ++ [.status .online]))

/-- Restore the expected operational lifecycle state of a polled device. Each transition is committed by
itself. -/
def reconcileChassisLifecycle (now : Time) (db : Inventory) (chassis : Chassis) (created : Bool) :
    Inventory × Except PersistenceError Unit :=
  if created ∨ chassis.status ∈ [.online, .degraded, .maintenance] then (db, .ok ())
  else
    match provisionDiscovered now db chassis with
    | .error e => (db, .error e)
    | .ok (db, false) => (db, .error (.couldNotProvision chassis.pk))
    | .ok (db, true) =>
      match markOnline now db chassis.pk with
      | .error e => (db, .error e)
      | .ok (db, false) => (db, .error (.couldNotMarkOnline chassis.pk))
      | .ok (db, true) => (db, (refreshLifecycle db chassis).map fun _ => ())

/-- A raw device as the plugin transformed it, empty when it could not, and whether its channels
could be updated. -/
structure PolledDevice where
  transformed : VendorPayload
  channelsUpdated : Bool

/-- The tables during a poll. -/
structure PollRun where
  inventory : Inventory
  updatedCount : Nat
  activeChassisIds : List Nat
  snapshotFailed : Bool

/-- The update of one polled device, its failure included. -/
def pollDevice (now : Time) (manufacturer : Manufacturer) (run : PollRun) (device : PolledDevice) :
    PollRun :=
  if device.transformed = [] then { run with snapshotFailed := true }
  else
    match upsertPolled now run.inventory manufacturer device.transformed with
    | .error _ => { run with snapshotFailed := true }
    | .ok (db, chassis, created) =>
      match reconcileChassisLifecycle now db chassis created with
      | (db, .error _) => { run with inventory := db, snapshotFailed := true }
      | (db, .ok ()) =>
        { inventory := db
          activeChassisIds := run.activeChassisIds ++ [chassis.pk]
          updatedCount := if device.channelsUpdated then run.updatedCount + 1 else run.updatedCount
          snapshotFailed := run.snapshotFailed || !device.channelsUpdated }

/-- A chassis that a snapshot may mark offline. -/
def isAbsent (manufacturer : Manufacturer) (activeChassisIds : List Nat) (chassis : Chassis) : Bool :=
  chassis.manufacturer.pk = manufacturer.pk &&
    chassis.status ∈ [HardwareStatus.online, .degraded, .provisioning] &&
    chassis.pk ∉ activeChassisIds

/-- Mark one absent chassis offline; an error is logged. -/
def markOfflineStep (now : Time) (db : Inventory) (chassis : Chassis) : Inventory :=
  match transitionDevice now db chassis.pk .offline with
  | .ok (db, _) => db
  | .error _ => db

/-- Mark chassis missing from an authoritative snapshot offline. -/
def markOfflineReceivers (now : Time) (db : Inventory) (manufacturer : Manufacturer)
    (activeChassisIds : List Nat) : Inventory :=
  (db.chassis.filter (isAbsent manufacturer activeChassisIds)).foldl (markOfflineStep now) db

/-- Persist raw API data and return the number of updated chassis. -/
def updateModelsFromApiData (now : Time) (db : Inventory) (apiData : List PolledDevice)
    (manufacturer : Manufacturer) (authoritativeSnapshot : Bool) : Inventory × Nat :=
  let run := apiData.foldl (pollDevice now manufacturer)
    { inventory := db, updatedCount := 0, activeChassisIds := [], snapshotFailed := false }
  if authoritativeSnapshot && !run.snapshotFailed then
    (markOfflineReceivers now run.inventory manufacturer run.activeChassisIds, run.updatedCount)
  else
    (run.inventory, run.updatedCount)

end Micboard
