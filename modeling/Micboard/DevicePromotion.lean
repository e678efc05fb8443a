import Micboard.IdentitySoundness
import Micboard.PayloadNormalization
import Micboard.SyncInventory
import Micboard.VendorTransform

/-! Promotion of a discovered device to a managed chassis. The vendor's payload is transformed, its
identity is read from the transformed dictionary and checked against the chassis table, and the
outcome decides between refreshing the existing chassis and creating one from the normalized
payload. What is raised on the way is caught. An identity value that is neither text nor absent
fails in the check here; in the source it may fail later, in the normalization. Channel counts,
which no check reads, are left out. -/

namespace Micboard

open Library Library.Text WirelessChassisPersistenceService

/-- What promotion reads of a `DiscoveredDevice`. -/
structure PromotionCandidate where
  manufacturer : Option Manufacturer
  ip : String
  deviceType : String
  deriving DecidableEq, Repr

/-- A vendor plugin: the catalog of its transformer, and what `get_devices` returns, if it does not
raise. -/
structure PromotionPlugin where
  catalog : VendorCatalog
  devices : Option (List JsonObject)

/-- How a promotion ends. -/
inductive PromotionOutcome where
  | noManufacturer
  | alreadyManaged (existing : Chassis)
  | pluginUnavailable
  | createdBasic (chassis : Chassis)
  | untransformable
  | conflict (conflictType : String)
  | duplicateNotNormalized
  | updated (chassis : Chassis)
  | created (chassis : Chassis)
  | notNormalized
  | failed
  deriving DecidableEq, Repr

namespace PromotionOutcome

def success : PromotionOutcome → Bool
  | createdBasic _ | updated _ | created _ => true
  | _ => false

/-- The message, where it does not render a chassis or an exception. -/
def message : PromotionOutcome → Option String
  | noManufacturer => some "No manufacturer specified for discovered device"
  | pluginUnavailable => some "Plugin not available for manufacturer"
  | createdBasic _ => some "Created basic chassis (limited API data)"
  | untransformable => some "Failed to transform device data"
  | conflict conflictType => some ("Device conflict: " ++ conflictType)
  | duplicateNotNormalized => some "Failed to normalize duplicate device data"
  | updated _ => some "Updated existing chassis"
  | created _ => some "Created new managed chassis"
  | notNormalized => some "Failed to normalize device data"
  | alreadyManaged _ | failed => none

def chassis : PromotionOutcome → Option Chassis
  | alreadyManaged existing => some existing
  | createdBasic chassis | updated chassis | created chassis => some chassis
  | _ => none

end PromotionOutcome

namespace DevicePromotionService

/-- `WirelessChassis.objects.filter(ip=…, manufacturer=…).first()`. -/
def findExistingChassis (db : Inventory) (ip : String) (manufacturer : Manufacturer) : Option Chassis :=
  db.chassis.find? fun chassis =>
    chassis.ip = getPrepValue ip && chassis.manufacturer.pk = manufacturer.pk

def isText (value : JsonValue) (text : String) : Bool :=
  match value with
  | .text value => value = text
  | _ => false

/-- The first device of the vendor's list with the discovered address. -/
def PromotionPlugin.deviceData (plugin : PromotionPlugin) (ip : String) : Option JsonObject :=
  (plugin.devices.getD []).find? fun device =>
    isText (device.get "ip") ip || isText (device.get "ipAddress") ip

/-- An identity value of a transformed dictionary. -/
def identityText : PyValue → Option (Option String)
  | .none => some none
  | .text value => some (some value)
  | .unpaired | .other _ _ => none

/-- The identity check of a transformed dictionary, under the keys that promotion reads. -/
def checkTransformed (db : Inventory) (manufacturer : Manufacturer) (transformed : VendorPayload) :
    Option DeduplicationResult := do
  let serialNumber ← identityText (transformed.get "serial_number")
  let macAddress ← identityText (transformed.get "mac_address")
  let ip ← (← identityText (transformed.get "ip"))
  let apiDeviceId ← (← identityText (transformed.get "api_device_id"))
  (checkDevice db serialNumber macAddress ip apiDeviceId (some manufacturer) none).toOption

/-- The dictionary that a vendor's transformer makes of a payload. -/
def transformedFields (catalog : VendorCatalog) (deviceData : JsonObject) : Option VendorPayload :=
  (transformDeviceData catalog deviceData).map TransformedDevice.fields

def updateDuplicate (now : Time) (db : Inventory) (catalog : VendorCatalog) (chassis : Chassis)
    (deviceData : JsonObject) : Inventory × PromotionOutcome :=
  match normalizeDevices (transformedFields catalog) [deviceData] with
  | .error _ => (db, .failed)
  | .ok [] => (db, .duplicateNotNormalized)
  | .ok (payload :: _) =>
    match updateFromNormalized now db chassis payload false with
    | .ok (db, chassis) => (db, .updated chassis)
    | .error _ => (db, .failed)

/-- Create a chassis from the normalized payload. -/
def createManaged (now : Time) (db : Inventory) (manufacturer : Manufacturer) (catalog : VendorCatalog)
    (deviceData : JsonObject) : Inventory × PromotionOutcome :=
  match normalizeDevices (transformedFields catalog) [deviceData] with
  | .error _ => (db, .failed)
  | .ok [] => (db, .notNormalized)
  | .ok (payload :: _) =>
    match createFromNormalized now db manufacturer payload none with
    | .ok (db, chassis) => (db, .created chassis)
    | .error _ => (db, .failed)

def attemptPromotionWithDeviceData (now : Time) (db : Inventory) (manufacturer : Manufacturer)
    (catalog : VendorCatalog) (deviceData : JsonObject) : Inventory × PromotionOutcome :=
  match transformedFields catalog deviceData with
  | none => (db, .untransformable)
  | some transformed =>
    match checkTransformed db manufacturer transformed with
    | none => (db, .failed)
    | some (.conflict _ conflictType _) => (db, .conflict conflictType)
    | some (.duplicate chassis _) => updateDuplicate now db catalog chassis deviceData
    | some (.moved _ _ _) | some .new => createManaged now db manufacturer catalog deviceData

/-- A device without vendor data is created from what was discovered. -/
def createBasic (now : Time) (db : Inventory) (manufacturer : Manufacturer)
    (discovered : PromotionCandidate) : Inventory × PromotionOutcome :=
  let write := WirelessChassisWrite.ofValues [
    .apiDeviceId discovered.ip,
    .ip discovered.ip,
    .name (discovered.deviceType ++ " at " ++ discovered.ip),
    .model discovered.deviceType,
    .role "receiver",
    .status .discovered]
  match create now db (some manufacturer) write with
  | .ok (db, chassis) => (db, .createdBasic chassis)
  | .error _ => (db, .failed)

/-- Promote a discovered device to a managed WirelessChassis. -/
def promoteDiscoveredDevice (now : Time) (db : Inventory) (discovered : PromotionCandidate)
    (plugin : Option PromotionPlugin) : Inventory × PromotionOutcome :=
  match discovered.manufacturer with
  | none => (db, .noManufacturer)
  | some manufacturer =>
    match findExistingChassis db discovered.ip manufacturer with
    | some existing => (db, .alreadyManaged existing)
    | none =>
      match plugin with
      | none => (db, .pluginUnavailable)
      | some plugin =>
        match PromotionPlugin.deviceData plugin discovered.ip with
        | none | some [] => createBasic now db manufacturer discovered
        | some deviceData =>
          attemptPromotionWithDeviceData now db manufacturer plugin.catalog deviceData

end DevicePromotionService

end Micboard
