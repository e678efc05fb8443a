import Micboard.DeviceSnapshot
import Micboard.LibrarySource
import Micboard.PayloadNormalization
import Micboard.SyncIndexed

/-! The poll of one manufacturer: its inventory is fetched within the configured limits, normalized
and synchronized in one transaction; what is stored then is broadcast, and the run is recorded.
Nothing that goes wrong gets out. -/

namespace Micboard

open Library

/-- A whole number from 1 up to a hard limit. -/
abbrev BoundedLimit (hardLimit : Nat) := { value : Nat // 1 ≤ value ∧ value ≤ hardLimit }

def hardMaxPollDevices : Nat := 5000

def hardMaxBroadcastChunkSize : Nat := 500

def defaultMaxPollDevices : BoundedLimit hardMaxPollDevices := ⟨500, by decide⟩

def defaultBroadcastChunkSize : BoundedLimit hardMaxBroadcastChunkSize := ⟨100, by decide⟩

/-- What a setting holds, as `int` reads it. -/
inductive LimitSetting where
  | boolean
  | number (value : Int)
  | unreadable
  /-- A float without a whole part, for which `int` raises what the caller does not catch. -/
  | infinite
  deriving DecidableEq, Repr

/-- Parse a positive integer setting and enforce a package hard ceiling. -/
def boundedPositiveSetting {hardLimit : Nat} (default : BoundedLimit hardLimit) :
    LimitSetting → Except String (BoundedLimit hardLimit)
  | .boolean | .unreadable => .ok default
  | .number value => .ok ⟨min (max value 1).toNat hardLimit, by have := default.2; omega⟩
  | .infinite => .error "OverflowError"

structure ManufacturerPollLimits where
  maxDevices : BoundedLimit hardMaxPollDevices
  broadcastChunkSize : BoundedLimit hardMaxBroadcastChunkSize

structure PollSettings where
  maxDevices : LimitSetting
  broadcastChunkSize : LimitSetting

def ManufacturerPollLimits.fromSettings (settings : PollSettings) :
    Except String ManufacturerPollLimits := do
  let maxDevices ← boundedPositiveSetting defaultMaxPollDevices settings.maxDevices
  let broadcastChunkSize ← boundedPositiveSetting defaultBroadcastChunkSize settings.broadcastChunkSize
  .ok { maxDevices, broadcastChunkSize }

/-- A plugin: what it answers for its devices (a missing or empty answer is `none`), how an answered
item is read as a dictionary, and how one is transformed. -/
structure InventoryPlugin (ρ : Type) where
  getDevices : Except String (Option (Nat → Pull String ρ))
  asDict : ρ → Option ρ
  transformDeviceData : ρ → Option VendorPayload

/-- What goes wrong between the fetch and the commit. -/
inductive SyncFault where
  | raised (typeName : String)
  | payload (error : PayloadError)
  | persistence (error : PersistenceError)
  deriving DecidableEq, Repr

inductive PollError where
  | notFound (code : String)
  | pluginNotFound (code : String)
  | exceededLimit
  | becameInactive
  | syncFailed (fault : SyncFault)
  | pollFailed (typeName : String)
  deriving DecidableEq, Repr

/-- The text of an error; the class of an exception gives its name. -/
def PollError.describe (typeName : SyncFault → String) : PollError → String
  | .notFound code => "Manufacturer not found or inactive: " ++ code
  | .pluginNotFound code => "Plugin not found: " ++ code
  | .exceededLimit =>
    "Manufacturer inventory exceeded the configured device limit; no devices were synchronized."
  | .becameInactive => "Manufacturer became inactive during polling; no devices were synchronized."
  | .syncFailed fault => "Device synchronization failed (" ++ typeName fault ++ "); details redacted."
  | .pollFailed typeName => typeName ++ ": polling failed"

/-- `ManufacturerSyncResult` as a poll goes on with it; it succeeded when it holds no errors. -/
structure ManufacturerSyncResult where
  devicesAdded : Nat := 0
  devicesUpdated : Nat := 0
  errors : List PollError := []
  devicesExamined : Nat := 0
  deviceLimit : Nat
  inventoryComplete : Bool := true
  deriving DecidableEq, Repr

/-- What a poll meets: the settings, the plugins, the clock, the active flag of the locked row
(`none` when the row is gone), an exception of the transaction, the token of the broadcast, after
how many chunks its routing raises, and whether the audit row cannot be written. -/
structure PollInput (ρ : Type) where
  settings : PollSettings
  getPlugin : String → Except String (Option (InventoryPlugin ρ))
  startedAt : Time
  now : Time
  completedAt : Time
  lockedActive : Option Bool
  transactionFault : Option String := none
  token : SnapshotToken
  interrupted : Option Nat := none
  auditFails : Bool := false

section Sync

variable {ρ : Type} (input : PollInput ρ) (force : Bool)

/-- Consume at most `device_limit + 1` items to detect overflow. -/
def consumeInventory (plugin : InventoryPlugin ρ) (deviceLimit : Nat) : Except String (List ρ) :=
  match plugin.getDevices with
  | .error typeName => .error typeName
  | .ok none => .ok []
  | .ok (some source) =>
    match readItems source (deviceLimit + 1) 0 with
    | .error typeName => .error typeName
    | .ok devices =>
      match devices.mapM plugin.asDict with
      | none => .error "ValidationError"
      | some devices => .ok devices

/-- The transaction: what it raises undoes it. -/
def persistLocked (manufacturer : Manufacturer) (db : Inventory) (payloads : List NormalizedHardware) :
    Except SyncFault (Inventory × Option (Nat × Nat)) :=
  match input.lockedActive with
  | none => .error (.raised "DoesNotExist")
  | some isActive =>
    match persistNormalizedDevices input.now db payloads { manufacturer with isActive } force,
      input.transactionFault with
    | .error error, _ => .error (.persistence error)
    | .ok _, some typeName => .error (.raised typeName)
    | .ok result, none => .ok result

/-- The part of a synchronization whose exceptions become an error of its result. -/
def synchronize (limits : ManufacturerPollLimits) (manufacturer : Manufacturer)
    (plugin : InventoryPlugin ρ)
    (db : Inventory) : Except SyncFault (Inventory × ManufacturerSyncResult) :=
  let deviceLimit := limits.maxDevices.1
  match consumeInventory plugin deviceLimit with
  | .error typeName => .error (.raised typeName)
  | .ok devices =>
    let examined : ManufacturerSyncResult :=
      { devicesExamined := devices.length, deviceLimit := deviceLimit }
    if deviceLimit < devices.length then
      .ok (db, { examined with errors := [.exceededLimit], inventoryComplete := false })
    else
      match normalizeDevices plugin.transformDeviceData devices with
      | .error error => .error (.payload error)
      | .ok [] => .ok (db, examined)
      | .ok (payload :: payloads) =>
        match persistLocked input force manufacturer db (payload :: payloads) with
        | .error fault => .error fault
        | .ok (_, none) => .ok (db, { examined with errors := [.becameInactive] })
        | .ok (db, some (created, updated)) =>
          .ok (db, { examined with devicesAdded := created, devicesUpdated := updated })

def syncDevicesForManufacturer (manufacturers : List Manufacturer) (code : String) (db : Inventory) :
    Except String (Inventory × ManufacturerSyncResult) :=
  match ManufacturerPollLimits.fromSettings input.settings with
  | .error typeName => .error typeName
  | .ok limits =>
    let failed (error : PollError) : ManufacturerSyncResult :=
      { errors := [error], deviceLimit := limits.maxDevices.1 }
    match manufacturers.find? fun manufacturer =>
      manufacturer.code = code && (force || manufacturer.isActive) with
    | none => .ok (db, failed (.notFound code))
    | some manufacturer =>
      match input.getPlugin code with
      | .error typeName => .error typeName
      | .ok none => .ok (db, failed (.pluginNotFound code))
      | .ok (some plugin) =>
        match synchronize input force limits manufacturer plugin db with
        | .error fault => .ok (db, failed (.syncFailed fault))
        | .ok result => .ok result

end Sync

/-! ### The poll -/

inductive SyncLogStatus where
  | success | failed
  deriving DecidableEq, Repr

/-- What a `ServiceSyncLog` row records of a run. -/
structure ServiceSyncAudit where
  service : Nat
  syncType : String := "full"
  startedAt : Time
  completedAt : Time
  deviceCount : Nat
  onlineCount : Nat := 0
  offlineCount : Nat := 0
  updatedCount : Nat
  status : SyncLogStatus
  errorMessage : String
  createdCount : Nat
  deviceLimit : Option Nat
  inventoryComplete : Bool
  deriving DecidableEq, Repr

/-- What a poll returns; a failed one names what failed. -/
structure PollResult where
  devicesCreated : Nat := 0
  devicesUpdated : Nat := 0
  unitsSynced : Nat := 0
  errors : List PollError
  devicesExamined : Nat := 0
  deviceLimit : Option Nat := none
  inventoryComplete : Bool := true
  failure : Option String := none
  deriving DecidableEq, Repr

/-- The tables, the cursor cache by manufacturer, and what was broadcast. -/
structure PollState where
  manufacturers : List Manufacturer
  inventory : Inventory
  syncLogs : List ServiceSyncAudit := []
  cursor : Nat → DeviceBroadcastCursor := fun _ => {}
  updates : List DeviceUpdate := []

namespace PollingService

/-- The statuses of the chassis that a poll broadcasts. -/
def activeStatuses : List HardwareStatus := [.online, .degraded, .provisioning]

/-- The rows with the manufacturer that they refer to by its key. -/
def referring (manufacturer : Manufacturer) (rows : List Chassis) : List Chassis :=
  rows.map fun row => if row.manufacturer.pk = manufacturer.pk then { row with manufacturer } else row

variable {ρ : Type} (input : PollInput ρ) (manufacturer : Manufacturer)

/-- Broadcast device updates; what fails is logged. A broadcast that is interrupted stores no cursor. -/
def broadcastDeviceUpdates (state : PollState) : PollState :=
  match ManufacturerPollLimits.fromSettings input.settings with
  | .error _ => state
  | .ok limits =>
    let call : BroadcastCall :=
      { broadcastNamespace := "poll"
        maxDevices := limits.maxDevices.1
        chunkSize := limits.broadcastChunkSize.1
        statuses := some activeStatuses
        timestamp := input.now
        token := input.token }
    let sending := DeviceSnapshotBroadcastService.broadcast manufacturer
      (referring manufacturer state.inventory.chassis) call (state.cursor manufacturer.pk)
    match input.interrupted with
    | some sent => { state with updates := state.updates ++ sending.updates.take sent }
    | none =>
      { state with
        updates := state.updates ++ sending.updates
        cursor := Function.update state.cursor manufacturer.pk sending.cursor }

/-- The audit row of a run. -/
def fromPollResult (result : PollResult) : ServiceSyncAudit where
  service := manufacturer.pk
  startedAt := input.startedAt
  completedAt := input.completedAt
  deviceCount := result.devicesExamined
  updatedCount := result.devicesUpdated
  status := if result.errors.length ≠ 0 then .failed else .success
  errorMessage :=
    if result.errors.length ≠ 0 then
      "Polling reported " ++ toString result.errors.length ++ " error(s); details redacted."
    else ""
  createdCount := result.devicesCreated
  deviceLimit := result.deviceLimit
  inventoryComplete := result.inventoryComplete

/-- Record one bounded run, containing audit failures. -/
def recordPollResult (result : PollResult) (state : PollState) : PollState :=
  if input.auditFails then state
  else { state with syncLogs := state.syncLogs ++ [fromPollResult input manufacturer result] }

/-- The public result of a synchronization. -/
def resultOf (sync : ManufacturerSyncResult) : PollResult where
  devicesCreated := sync.devicesAdded
  devicesUpdated := sync.devicesUpdated
  errors := sync.errors
  devicesExamined := sync.devicesExamined
  deviceLimit := some sync.deviceLimit
  inventoryComplete := sync.inventoryComplete

/-- Poll a specific manufacturer for hardware updates. -/
def pollManufacturer (force : Bool) (state : PollState) : PollState × PollResult :=
  match syncDevicesForManufacturer input force state.manufacturers manufacturer.code
    state.inventory with
  | .error typeName =>
    let result : PollResult := { errors := [.pollFailed typeName], failure := some typeName }
    (recordPollResult input manufacturer result state, result)
  | .ok (inventory, sync) =>
    let result := resultOf sync
    let state := { state with inventory }
    let state := if result.errors = [] then broadcastDeviceUpdates input manufacturer state else state
    (recordPollResult input manufacturer result state, result)

/-- Poll one currently active manufacturer unless an operator explicitly forced it. -/
def pollManufacturerDevices (manufacturerId : Nat) (force : Bool) (state : PollState) :
    PollState × Option PollResult :=
  match state.manufacturers.find? fun manufacturer =>
    manufacturer.pk = manufacturerId && (force || manufacturer.isActive) with
  | none => (state, none)
  | some manufacturer =>
    let (state, result) := pollManufacturer input manufacturer force state
    (state, some result)

end PollingService

end Micboard
