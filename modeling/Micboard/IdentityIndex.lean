import Micboard.ChassisModel
import Micboard.HardwarePayload
import Micboard.LibraryIndex

/-! The bulk identity index of a batch: four dictionaries from identity keys to the chassis instances
loaded or created during the batch. The dictionaries share one instance for each primary key, so they
hold keys and the instances are kept once; an absent dictionary key is an empty list, and `_append` is
`appendMatch`. -/

namespace Micboard

open Library Library.Address

/-- What an identity lookup raises. -/
inductive IdentityError where
  | manufacturerRequired
  | multipleObjectsReturned
  | invalidAddress (ip : String)
  deriving DecidableEq, Repr

/-- `_ip_key`: match the canonical IPv6 representation of the address column. -/
def ipKey (value : String) : Except IdentityError String :=
  if ':' ∈ value.toList then
    match cleanIPv6 value with
    | some address => .ok address
    | none => .error (.invalidAddress value)
  else
    .ok value

theorem getPrepValue_of_ipKey {value key : String} (h : ipKey value = .ok key) :
    getPrepValue value = key := by
  rw [ipKey] at h
  rw [getPrepValue]
  split at h
  next hcolon =>
    rw [if_pos hcolon]
    split at h
    next address haddress =>
      cases h
      rw [haddress, Option.getD_some]
    next => cases h
  next hcolon =>
    cases h
    rw [if_neg hcolon]

structure DeviceIdentityIndex where
  objects : List Chassis
  bySerial : String → List Nat
  byMac : String → List Nat
  byIp : String → List Nat
  byApiId : Nat × String → List Nat

/-- The identities of a batch. A blank serial number and a malformed hardware address are none. -/
structure IdentityKeys where
  serials : List String
  macs : List String
  ips : List String
  apiIds : List String
  serials_ne : ∀ serial ∈ serials, serial ≠ ""
  macs_canonical : ∀ mac ∈ macs, IsCanonicalMac mac

def IdentityKeys.ofPayloads (payloads : List NormalizedHardware) :
    Except IdentityError IdentityKeys := do
  let ips ← payloads.mapM fun payload => ipKey payload.ip
  .ok {
    serials := (payloads.map NormalizedHardware.serialNumber).filter (· ≠ "")
    macs := payloads.filterMap NormalizedHardware.mac
    ips
    apiIds := payloads.map NormalizedHardware.apiDeviceId
    serials_ne := fun serial hserial => by simpa using (List.mem_filter.mp hserial).2
    macs_canonical := fun mac hmac =>
      have ⟨_, _, h⟩ := List.mem_filterMap.mp hmac
      (NormalizedHardware.mac_eq_some.mp h).2 }

/-- A row that one of the bulk queries selects: `_identity_querysets`. The queries are split into chunks
and a row that several of them select is taken once. -/
def IdentityKeys.selects (keys : IdentityKeys) (manufacturer : Manufacturer) (row : Chassis) : Bool :=
  row.serialNumber ∈ keys.serials ||
    row.macAddress.any (fun mac => mac ∈ keys.macs.flatMap macAddressQueryVariants) ||
    row.ip ∈ keys.ips.map getPrepValue ||
    (row.manufacturer.pk = manufacturer.pk && row.apiDeviceId ∈ keys.apiIds)

theorem selects_eq_true {keys : IdentityKeys} {manufacturer : Manufacturer} {row : Chassis} :
    keys.selects manufacturer row = true ↔ row.serialNumber ∈ keys.serials ∨
      (∃ stored ∈ row.macAddress, ∃ mac ∈ keys.macs, stored ∈ macAddressQueryVariants mac) ∨
      row.ip ∈ keys.ips.map getPrepValue ∨
      (row.manufacturer.pk = manufacturer.pk ∧ row.apiDeviceId ∈ keys.apiIds) := by
  simp only [IdentityKeys.selects, Bool.or_eq_true, Bool.and_eq_true, decide_eq_true_eq,
    Option.any_eq_true, List.mem_flatMap, or_assoc]
  rfl

namespace DeviceIdentityIndex

def empty : DeviceIdentityIndex where
  objects := []
  bySerial _ := []
  byMac _ := []
  byIp _ := []
  byApiId _ := []

/-- One turn of the loop of `build` over the loaded rows. -/
def register (keys : IdentityKeys) (manufacturer : Manufacturer) (index : DeviceIdentityIndex)
    (chassis : Chassis) : Except IdentityError DeviceIdentityIndex := do
  let chassisIp ← ipKey chassis.ip
  .ok {
    objects := index.objects ++ [chassis]
    bySerial :=
      if chassis.serialNumber ∈ keys.serials then
        appendMatch index.bySerial chassis.serialNumber chassis.pk
      else index.bySerial
    byMac :=
      match canonicalizeMacAddress chassis.macAddress with
      | some chassisMac =>
        if chassisMac ∈ keys.macs then appendMatch index.byMac chassisMac chassis.pk
        else index.byMac
      | none => index.byMac
    byIp :=
      if chassisIp ∈ keys.ips then appendMatch index.byIp chassisIp chassis.pk else index.byIp
    byApiId :=
      if chassis.manufacturer.pk = manufacturer.pk ∧ chassis.apiDeviceId ∈ keys.apiIds then
        appendMatch index.byApiId (chassis.manufacturer.pk, chassis.apiDeviceId) chassis.pk
      else index.byApiId }

/-- Fetch relevant identities in bulk, never per device. -/
def build (db : Inventory) (payloads : List NormalizedHardware) (manufacturer : Manufacturer) :
    Except IdentityError DeviceIdentityIndex := do
  let keys ← IdentityKeys.ofPayloads payloads
  (db.chassis.filter (keys.selects manufacturer)).foldlM (register keys manufacturer) empty

/-- `_unique`: the same ambiguity behaviour as `QuerySet.get`. -/
def unique (index : DeviceIdentityIndex) (entries : List Nat) :
    Except IdentityError (Option Chassis) := do
  match ← uniqueMatch .multipleObjectsReturned entries with
  | none => .ok none
  | some pk => .ok (index.objects.find? fun chassis => chassis.pk = pk)

def serial (index : DeviceIdentityIndex) (value : String) : Except IdentityError (Option Chassis) :=
  index.unique (index.bySerial value)

def mac (index : DeviceIdentityIndex) (value : String) : Except IdentityError (Option Chassis) :=
  match canonicalizeMacAddress (some value) with
  | none => .ok none
  | some canonical => index.unique (index.byMac canonical)

def ip (index : DeviceIdentityIndex) (value : String) : Except IdentityError (Option Chassis) := do
  let key ← ipKey value
  index.unique (index.byIp key)

def apiId (index : DeviceIdentityIndex) (manufacturerId : Nat) (value : String) :
    Except IdentityError (Option Chassis) :=
  index.unique (index.byApiId (manufacturerId, value))

/-- Add a chassis created during this batch so later payloads see it. -/
def add (index : DeviceIdentityIndex) (chassis : Chassis) :
    Except IdentityError DeviceIdentityIndex := do
  let chassisIp ← ipKey chassis.ip
  .ok {
    objects := index.objects ++ [chassis]
    bySerial :=
      if chassis.serialNumber ≠ "" then
        appendMatch index.bySerial chassis.serialNumber chassis.pk
      else index.bySerial
    byMac :=
      match canonicalizeMacAddress chassis.macAddress with
      | some canonicalMac => appendMatch index.byMac canonicalMac chassis.pk
      | none => index.byMac
    byIp := appendMatch index.byIp chassisIp chassis.pk
    byApiId := appendMatch index.byApiId (chassis.manufacturer.pk, chassis.apiDeviceId) chassis.pk }

/-- Refresh the IP index after a moved chassis is persisted. -/
def moveIp (index : DeviceIdentityIndex) (chassis : Chassis) (oldIp : String) :
    Except IdentityError DeviceIdentityIndex := do
  let oldKey ← ipKey oldIp
  let newKey ← ipKey chassis.ip
  let remaining := (index.byIp oldKey).filter (· ≠ chassis.pk)
  .ok { index with
    byIp := appendMatch (Function.update index.byIp oldKey remaining) newKey chassis.pk }

/-- The instance of a row changes in place. -/
def setObject (index : DeviceIdentityIndex) (chassis : Chassis) : DeviceIdentityIndex :=
  { index with objects := replaceRow Chassis.pk chassis index.objects }

end DeviceIdentityIndex

end Micboard
