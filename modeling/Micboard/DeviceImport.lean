import Micboard.ChassisPersistence
import Micboard.OrganizationQuota
import Micboard.VendorTransform

/-! Importing a device from an API server. The payload is read directly, without a transformer. A
device without a serial number, an address or an identifier is skipped, and so is one whose identity
is a conflict or belongs to another manufacturer; a chassis that is found is updated, location
included, and its status is reconciled through valid transitions. An exception undoes the whole
import. -/

namespace Micboard

open Library Library.Text WirelessChassisPersistenceService HardwareLifecycleManager

/-- The hardware tables with the location column of the chassis. -/
structure HardwareTables where
  inventory : Inventory
  location : Nat → Option Nat

namespace HardwareTables

/-- The chassis as a quota counts them. -/
def placed (tables : HardwareTables) : PlacedTable :=
  tables.inventory.chassis.map fun chassis =>
    ⟨chassis.pk, chassis.manufacturer.pk, chassis.apiDeviceId, tables.location chassis.pk⟩

/-- The tables after a save that wrote the location of one chassis. -/
def save (tables : HardwareTables) (inventory : Inventory) (pk : Nat) (location : Option Nat) :
    HardwareTables where
  inventory
  location := Function.update tables.location pk location

end HardwareTables

inductive ImportError where
  | payload (error : PayloadError)
  | quotaExceeded (organizationId maxDevices currentDevices : Nat)
  | persistence (error : PersistenceError)
  deriving DecidableEq, Repr

def liftImport {α : Type} : Except PersistenceError α → Except ImportError α
  | .ok a => .ok a
  | .error e => .error (.persistence e)

@[simp] theorem liftImport_eq_ok {α : Type} {x : Except PersistenceError α} {a : α} :
    liftImport x = .ok a ↔ x = .ok a := by
  cases x <;> simp [liftImport]

namespace Tenancy

variable (tenancy : Tenancy) (tables : HardwareTables)

/-- Reject only a new organization-owned chassis above a finite quota. -/
def checkCreateQuota (organization : Option QuotaOrganization) : Except ImportError Unit :=
  match organization with
  | none => .ok ()
  | some organization =>
    match organization.maxDevices with
    | none => .ok ()
    | some maxDevices =>
      let currentDevices := tenancy.currentDevices organization.pk tables.placed
      if currentDevices + 1 ≤ maxDevices then .ok ()
      else .error (.quotaExceeded organization.pk maxDevices currentDevices)

/-- A chassis that belongs to the organization already is not counted again. -/
def checkTransferQuota (chassisId : Nat) (location : Option Nat) : Except ImportError Unit :=
  let organization := tenancy.owningOrganization { location := some location }
  if organization.isSome ∧ tenancy.persistedOrganizationId tables.placed (some chassisId) ≠
      organization.map QuotaOrganization.pk then
    checkCreateQuota tenancy tables organization
  else .ok ()

end Tenancy

namespace HardwareLifecycleManager

/-- Map a manufacturer's API state to a status. -/
def mapApiStateToStatus (apiState : String) (currentStatus : HardwareStatus) : HardwareStatus :=
  match apiState with
  | "ONLINE" => .online
  | "DISCOVERING" => .provisioning
  | "OFFLINE" => .offline
  | "UNKNOWN" => .discovered
  | _ => currentStatus

end HardwareLifecycleManager

/-- `text.upper()`, as far as it is compared with capitals. -/
def upperText (text : String) : String := String.ofList (text.toList.flatMap upperChar)

namespace ImportService

/-- `str(raw).strip() if raw is not None else ""`. -/
def identityText : JsonValue → String
  | .null => ""
  | raw => strip raw.str

/-- `canonicalize_mac_address(str(raw)) if raw is not None else None`. -/
def identityMac : JsonValue → Option String
  | .null => none
  | raw => canonicalizeMacAddress (some raw.str)

/-- Map untrusted manufacturer type text to one supported chassis role. -/
def deviceRole : JsonValue → String
  | .text deviceType => roleForDeviceType deviceType
  | _ => roleForDeviceType ""

section Payload

variable (device : JsonObject)

def serialNumber : String := identityText ((device.get "serial").orElse (device.get "serialNumber"))

def ip : String := identityText ((device.get "ip").orElse (device.get "ipAddress"))

def apiDeviceId : String := identityText ((device.get "id").orElse (device.get "deviceId"))

def macAddress : Option String := identityMac ((device.get "mac").orElse (device.get "macAddress"))

/-- `model or "Unknown"`. -/
def model : JsonValue :=
  ((device.get "model").orElse (device.get "deviceType")).orElse (.text "Unknown")

def role : String := deviceRole (device.getD "type" (.text "UNKNOWN"))

def status : HardwareStatus :=
  mapApiStateToStatus (upperText ((device.get "state").orElse (.text "UNKNOWN")).str) .discovered

end Payload

/-- The validation of the model, which is never `None`. -/
def validatedModel : JsonValue → Except ImportError String
  | .text value => .ok (trim value)
  | _ => .error (.payload (.validationError "model"))

/-- The transitions to a target status: a discovered device is provisioned on its way online. -/
def transitionStatuses (current target : HardwareStatus) : List HardwareStatus :=
  if current = .discovered ∧ target = .online then [.provisioning, target] else [target]

/-- One transition of an import, which must be valid. -/
def requireTransition (now : Time) (pk : Nat) (db : Inventory) (nextStatus : HardwareStatus) :
    Except PersistenceError Inventory := do
  let (db, done) ← transitionDevice now db pk nextStatus
  if done then .ok db else .error (.rejectedImportedStatus nextStatus pk)

/-- Apply an imported status through valid lifecycle transitions: `_reconcile_status`. -/
def reconcileStatus (now : Time) (db : Inventory) (chassis : Chassis) (targetStatus : HardwareStatus) :
    Except PersistenceError Inventory :=
  (transitionStatuses chassis.status targetStatus).foldlM (requireTransition now chassis.pk) db

/-- An imported status that is stored already needs no transition. -/
def reconcileChanged (now : Time) (db : Inventory) (chassis : Chassis) (targetStatus : HardwareStatus) :
    Except PersistenceError Inventory :=
  if targetStatus = chassis.status then .ok db else reconcileStatus now db chassis targetStatus

section Import

variable (tenancy : Tenancy) (now : Time) (tables : HardwareTables) (device : JsonObject)
  (manufacturer : Manufacturer) (location : Option Nat)

/-- A new device is created with everything it says. -/
def importNew : Except ImportError HardwareTables := do
  let model ← validatedModel (model device)
  tenancy.checkCreateQuota tables (tenancy.owningOrganization { location := some location })
  let (inventory, chassis) ← liftImport (create now tables.inventory (some manufacturer) (.ofValues [
    .serialNumber (serialNumber device), .model model, .role (role device), .ip (ip device),
    .macAddress (macAddress device), .status (status device), .isOnline (status device = .online),
    .apiDeviceId (apiDeviceId device)]))
  .ok (tables.save inventory chassis.pk location)

/-- The fields of an update, without its location. -/
def metadataWrite (model : String) : WirelessChassisWrite :=
  .ofValues ([.model model, .role (role device), .ip (ip device), .apiDeviceId (apiDeviceId device)] ++
    ((macAddress device).map fun mac => .macAddress (some mac)).toList)

/-- A device that is found is updated and its status reconciled. -/
def importExisting (chassis : Chassis) : Except ImportError HardwareTables := do
  let model ← validatedModel (model device)
  tenancy.checkTransferQuota tables chassis.pk location
  let (inventory, saved) ←
    liftImport (update now tables.inventory chassis (metadataWrite device model) false)
  let inventory ← liftImport (reconcileChanged now inventory saved (status device))
  .ok (tables.save inventory chassis.pk location)

inductive ImportOutcome where
  | skipped | created
  | updated (pk : Nat)
  deriving DecidableEq, Repr

/-- The tuple `(created, updated)` that is returned. -/
def ImportOutcome.flags : ImportOutcome → Bool × Bool
  | skipped => (false, false)
  | created => (true, false)
  | updated _ => (false, true)

/-- The identity check of a device. -/
def checkImported : Except ImportError DeduplicationResult :=
  liftImport (liftIdentity (checkDevice tables.inventory (some (serialNumber device))
    (macAddress device) (ip device) (apiDeviceId device) (some manufacturer) none))

/-- Import or update a single device. -/
def importDevice (dryRun : Bool) : Except ImportError (HardwareTables × ImportOutcome) :=
  if serialNumber device = "" ∨ ip device = "" ∨ apiDeviceId device = "" then .ok (tables, .skipped)
  else do
    let deduplication ← checkImported tables device manufacturer
    if deduplication.outcome = .conflict then .ok (tables, .skipped)
    else
      match deduplication.existingDevice with
      | none =>
        if dryRun then .ok (tables, .created)
        else do
          let tables ← importNew tenancy now tables device manufacturer location
          .ok (tables, .created)
      | some chassis =>
        if chassis.manufacturer.pk ≠ manufacturer.pk then .ok (tables, .skipped)
        else if dryRun then .ok (tables, .updated chassis.pk)
        else do
          let tables ← importExisting tenancy now tables device location chassis
          .ok (tables, .updated chassis.pk)

end Import

end ImportService

end Micboard
