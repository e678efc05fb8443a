import Micboard.IdentityIndex

/-! Hardware deduplication: the identity check of one device against the chassis table, or against the
identity index of a batch. Serial number, hardware address, network address and vendor identifier are
tried in this order, after the durable keys were compared with each other and with the owner. -/

namespace Micboard

open Library

inductive DetailValue where
  | null
  | text (value : String)
  | pk (value : Nat)
  deriving DecidableEq, Repr

abbrev Details := List (String × DetailValue)

def DetailValue.ofOption : Option String → DetailValue
  | none => .null
  | some value => .text value

inductive DeduplicationOutcome where
  | new | duplicate | moved | conflict
  deriving DecidableEq, Repr

/-- Validated result of one device identity check: a duplicate and a moved device have their existing
chassis, a new one has none, and every other outcome names its conflict type. -/
inductive DeduplicationResult where
  | new
  | duplicate (existing : Chassis) (details : Details)
  | moved (existing : Chassis) (conflictType : String) (details : Details)
  | conflict (existing : Option Chassis) (conflictType : String) (details : Details)
  deriving DecidableEq, Repr

namespace DeduplicationResult

def outcome : DeduplicationResult → DeduplicationOutcome
  | new => .new
  | duplicate _ _ => .duplicate
  | moved _ _ _ => .moved
  | conflict _ _ _ => .conflict

def existingDevice : DeduplicationResult → Option Chassis
  | new => none
  | duplicate existing _ => some existing
  | moved existing _ _ => some existing
  | conflict existing _ _ => existing

def conflictType : DeduplicationResult → Option String
  | new => none
  | duplicate _ _ => some "duplicate"
  | moved _ conflictType _ => some conflictType
  | conflict _ conflictType _ => some conflictType

end DeduplicationResult

/-- A supplied text that is not empty. -/
def supplied (value : Option String) : Option String := value.filter (· ≠ "")

/-- The chassis with a serial number: `WirelessChassis.objects.get(serial_number=…)`. -/
def Inventory.getSerial (db : Inventory) (serialNumber : String) :
    Except IdentityError (Option Chassis) :=
  uniqueMatch .multipleObjectsReturned
    (db.chassis.filter fun chassis => chassis.serialNumber = serialNumber)

/-- `WirelessChassis.objects.get(mac_address__in=mac_address_query_variants(…))`. -/
def Inventory.getMac (db : Inventory) (macAddress : String) :
    Except IdentityError (Option Chassis) :=
  uniqueMatch .multipleObjectsReturned
    (db.chassis.filter fun chassis =>
      chassis.macAddress.any fun mac => mac ∈ macAddressQueryVariants macAddress)

/-- `WirelessChassis.objects.get(ip=…)`. -/
def Inventory.getIp (db : Inventory) (ip : String) : Except IdentityError (Option Chassis) :=
  uniqueMatch .multipleObjectsReturned
    (db.chassis.filter fun chassis => chassis.ip = getPrepValue ip)

/-- `WirelessChassis.objects.get(manufacturer=…, api_device_id=…)`. -/
def Inventory.getApiId (db : Inventory) (manufacturer : Manufacturer) (apiDeviceId : String) :
    Except IdentityError (Option Chassis) :=
  uniqueMatch .multipleObjectsReturned
    (db.chassis.filter fun chassis =>
      chassis.manufacturer.pk = manufacturer.pk ∧ chassis.apiDeviceId = apiDeviceId)

/-- Resolve a supplied serial once across indexed and query paths. -/
def resolveSerialIdentity (db : Inventory) (serialNumber : Option String)
    (identityIndex : Option DeviceIdentityIndex) : Except IdentityError (Option Chassis) :=
  match supplied serialNumber with
  | none => .ok none
  | some serialNumber =>
    match identityIndex with
    | some index => index.serial serialNumber
    | none => db.getSerial serialNumber

/-- Resolve a supplied canonical MAC once across indexed and query paths. -/
def resolveMacIdentity (db : Inventory) (macAddress : Option String)
    (identityIndex : Option DeviceIdentityIndex) : Except IdentityError (Option Chassis) :=
  match supplied macAddress with
  | none => .ok none
  | some macAddress =>
    match identityIndex with
    | some index => index.mac macAddress
    | none => db.getMac macAddress

/-- Reject a hardware identity owned by another manufacturer. -/
def checkManufacturerConflict (existing : Chassis) (manufacturer : Manufacturer)
    (matchType : String) : Option DeduplicationResult :=
  if existing.manufacturer.pk = manufacturer.pk then none
  else
    some (.conflict (some existing) "manufacturer_mismatch"
      [("existing_manufacturer", .text existing.manufacturer.code),
        ("new_manufacturer", .text manufacturer.code), ("match_type", .text matchType)])

/-- Reject foreign ownership or two durable keys that resolve to different rows. -/
def checkDurableIdentityConflict (serialExisting macExisting : Option Chassis)
    (manufacturer : Manufacturer) : Option DeduplicationResult :=
  let owned := fun (existing : Option Chassis) matchType =>
    existing.bind fun existing => checkManufacturerConflict existing manufacturer matchType
  (owned serialExisting "serial_number").or <| (owned macExisting "mac_address").or <|
    match serialExisting, macExisting with
    | some serialExisting, some macExisting =>
      if serialExisting.pk = macExisting.pk then none
      else
        some (.conflict none "durable_identity_mismatch"
          [("serial_device_id", .pk serialExisting.pk), ("mac_device_id", .pk macExisting.pk)])
    | _, _ => none

/-- A match that keeps its address is a duplicate, one that does not has moved. -/
def matchResult (existing : Chassis) (ip matchType : String) : DeduplicationResult :=
  if existing.ip ≠ ip then
    .moved existing "ip_changed"
      [("old_ip", .text existing.ip), ("new_ip", .text ip), ("match_type", .text matchType)]
  else
    .duplicate existing [("match_type", .text matchType)]

/-- Check for a duplicate by a durable key, the serial number or the MAC address. -/
def checkByDurableKey (matchType ip : String) (manufacturer : Manufacturer)
    (existing : Option Chassis) : Option DeduplicationResult :=
  existing.map fun existing =>
    (checkManufacturerConflict existing manufacturer matchType).getD
      (matchResult existing ip matchType)

def checkBySerial (ip : String) (manufacturer : Manufacturer) (existing : Option Chassis) :
    Option DeduplicationResult :=
  checkByDurableKey "serial_number" ip manufacturer existing

def checkByMac (ip : String) (manufacturer : Manufacturer) (existing : Option Chassis) :
    Option DeduplicationResult :=
  checkByDurableKey "mac_address" ip manufacturer existing

def checkByIp (serialNumber macAddress : Option String) (existing : Option Chassis) :
    Option DeduplicationResult :=
  existing.map fun existing =>
    if (supplied serialNumber).any fun serial => existing.serialNumber ≠ serial then
      .conflict (some existing) "ip_conflict"
        [("existing_serial", .text existing.serialNumber),
          ("new_serial", .ofOption serialNumber), ("existing_mac", .ofOption existing.macAddress),
          ("new_mac", .ofOption macAddress), ("match_type", .text "ip")]
    else if (supplied macAddress).any fun mac =>
        canonicalizeMacAddress existing.macAddress ≠ some mac then
      .conflict (some existing) "ip_conflict"
        [("existing_mac", .ofOption existing.macAddress), ("new_mac", .ofOption macAddress),
          ("match_type", .text "ip")]
    else
      .duplicate existing [("match_type", .text "ip")]

/-- Check by the manufacturer's API device ID. -/
def checkByApiId (ip : String) (existing : Option Chassis) : Option DeduplicationResult :=
  existing.map fun existing => matchResult existing ip "api_device_id"

/-- Check if a device is duplicate, moved, or conflicting. -/
def checkDevice (db : Inventory) (serialNumber macAddress : Option String) (ip apiDeviceId : String)
    (manufacturer : Option Manufacturer) (identityIndex : Option DeviceIdentityIndex) :
    Except IdentityError DeduplicationResult :=
  match manufacturer with
  | none => .error .manufacturerRequired
  | some manufacturer => do
    let macAddress := canonicalizeMacAddress macAddress
    let serialExisting ← resolveSerialIdentity db serialNumber identityIndex
    let macExisting ← resolveMacIdentity db macAddress identityIndex
    match checkDurableIdentityConflict serialExisting macExisting manufacturer with
    | some conflict => .ok conflict
    | none =>
    match (checkBySerial ip manufacturer serialExisting).or
        (checkByMac ip manufacturer macExisting) with
    | some result => .ok result
    | none =>
    let ipExisting ←
      match identityIndex with
      | some index => index.ip ip
      | none => db.getIp ip
    match checkByIp serialNumber macAddress ipExisting with
    | some result => .ok result
    | none =>
    let apiExisting ←
      match identityIndex with
      | some index => index.apiId manufacturer.pk apiDeviceId
      | none => db.getApiId manufacturer apiDeviceId
    match checkByApiId ip apiExisting with
    | some result => .ok result
    | none => .ok .new

end Micboard
