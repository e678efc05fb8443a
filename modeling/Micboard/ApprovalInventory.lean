import Mathlib.Data.List.Sort
import Micboard.ChassisPersistence
import Micboard.LibraryDictionary

/-! The discovery queue and the inventory an approval locks: every chassis and charger that can own one
of the requested addresses or be the target of one of the rows, indexed once. -/

namespace Micboard

open Library Library.Text Library.Address

inductive QueueStatus where
  | pending | approved | rejected | imported | duplicate
  deriving DecidableEq, Repr

/-- A `DiscoveryQueue` row. Its address column holds an address as it is stored. -/
structure DiscoveryQueue where
  pk : Nat
  manufacturer : Manufacturer
  serialNumber : String
  apiDeviceId : String
  ip : String
  deviceType : String
  model : String
  name : String
  fqdn : String
  firmwareVersion : String
  metadata : Option VendorPayload
  status : QueueStatus
  reviewedAt : Option Time
  reviewedBy : Option Nat
  existingDeviceId : Option Nat
  existingChargerId : Option Nat
  isIpConflict : Bool
  ip_stored : (ipAddress ip).map getPrepValue = some ip
  ip_trimmed : trim ip = ip

namespace DiscoveryQueue

variable (item : DiscoveryQueue)

/-- `item.device_type.lower()`. -/
def role : String := String.ofList (item.deviceType.toList.map Char.toLower)

def isCharger : Bool := item.role = "charger"

/-- `item.name or item.ip`. -/
def label : String := WirelessChassisPersistenceService.textOr item.name item.ip

theorem ip_eq : getPrepValue item.ip = item.ip ∧ item.ip ≠ "" ∧
    ∃ address, ipAddress item.ip = some address ∧ getPrepValue address = item.ip := by
  obtain ⟨address, haddress, hip⟩ := Option.map_eq_some_iff.mp item.ip_stored
  refine ⟨?_, ?_, address, haddress, hip⟩
  · rw [← hip, getPrepValue_getPrepValue]
  · intro hempty
    have hnone : ipAddress "" = none := by decide +kernel
    rw [hempty, hnone] at haddress
    cases haddress

end DiscoveryQueue

/-- What an approval plans for: a charger, a new chassis by its identity, or a stored chassis. -/
inductive ApprovalTargetKey where
  | charger (pk : Nat)
  | chassisIdentity (manufacturer : Nat) (apiDeviceId : String)
  | chassis (pk : Nat)
  deriving DecidableEq, Repr

/-- A manufacturer and an API device id of it. -/
abbrev ChassisIdentity := Nat × String

inductive ApprovalError where
  | permissionDenied
  | batchLimit
  | conflictScopeLimit
  | inventoryLockLimit
  | chargerGone (label : String)
  | chargerForeign (label : String)
  | chargerConflict (label : String)
  | chargerNeedsIdentity (label : String)
  | chargerNeedsLocation (label : String)
  | chargerAmbiguous (label : String)
  | serialConflict (label : String)
  | chassisForeign (label : String)
  | apiConflict (label : String)
  | chassisConflict (label : String)
  | chassisAmbiguous (label : String)
  | missingIdentity (label : String)
  | unsupportedRole (deviceType label : String)
  | retired (chassis : Chassis)
  | ambiguousOwner (ip ownerLabel : String)
  | ownedByWirelessChassis (ip : String)
  | ownedByAnotherCharger (ip : String)
  | ownedByCharger (ip : String)
  | ownedByAnotherChassis (ip : String)
  | assignedToMultiple (ip : String)
  | multipleAddresses (name : String) (targetKey : ApprovalTargetKey)
  | conflictingManufacturers (chargerId : Nat)
  | conflictingApiIds (chassis : Chassis)
  | conflictingRoles (name : String) (identity : ChassisIdentity)
  | conflictingSerials (name : String) (identity : ChassisIdentity)
  | conflictingSerialIdentities (serialNumber : String)
  | unplanned (pk : Nat)
  | save (error : SaveError)
  | persistence (error : PersistenceError)
  deriving DecidableEq, Repr

namespace ApprovalError

/-- `str(…)` of the key and identity tuples, given the `repr` of a text. -/
def describeKey (quote : String → String) : ApprovalTargetKey → String
  | .charger pk => "('charger', " ++ toString pk ++ ", '')"
  | .chassisIdentity manufacturer apiDeviceId =>
    "('chassis_identity', " ++ toString manufacturer ++ ", " ++ quote apiDeviceId ++ ")"
  | .chassis pk => "('chassis', " ++ toString pk ++ ", '')"

def describeIdentity (quote : String → String) (identity : ChassisIdentity) : String :=
  "(" ++ toString identity.1 ++ ", " ++ quote identity.2 ++ ")"

open WirelessChassisPersistenceService in
/-- The message of a validation error, given the `repr` of a text and the `str` of a chassis. -/
def message (quote : String → String) (display : Chassis → String) : ApprovalError → Option String
  | batchLimit => some "Discovery approval batch exceeds hard limit of 100."
  | conflictScopeLimit => some "Discovery approval conflict scope exceeds hard limit of 100."
  | inventoryLockLimit =>
    some "Discovery approval inventory lock scope exceeds hard limit of 400 per hardware type."
  | chargerGone label => some ("The charger linked to " ++ label ++ " no longer exists.")
  | chargerForeign label =>
    some ("The charger linked to " ++ label ++ " belongs to another manufacturer.")
  | chargerConflict label =>
    some ("The IP conflict for " ++ label ++ " lacks a matching charger identity.")
  | chargerNeedsIdentity label =>
    some ("Charger " ++ label ++ " needs an explicit inventory link or serial number.")
  | chargerNeedsLocation label =>
    some ("Charger " ++ label ++ " needs a location before it can be imported.")
  | chargerAmbiguous label => some ("Charger " ++ label ++ " matches multiple inventory records.")
  | serialConflict label =>
    some ("The serial number for " ++ label ++ " conflicts with existing inventory.")
  | chassisForeign label =>
    some ("The chassis linked to " ++ label ++ " belongs to another manufacturer.")
  | apiConflict label =>
    some ("The API identity for " ++ label ++ " conflicts with existing inventory.")
  | chassisConflict label =>
    some ("The IP conflict for " ++ label ++ " lacks a matching chassis identity.")
  | chassisAmbiguous label =>
    some ("Discovery identities for " ++ label ++ " match multiple chassis.")
  | missingIdentity label =>
    some ("Device " ++ label ++ " needs an API ID or serial number before import.")
  | unsupportedRole deviceType label =>
    some ("Unsupported wireless chassis role " ++ quote deviceType ++ " for " ++ label ++ ".")
  | retired chassis =>
    some ("Retired chassis " ++ display chassis ++ " cannot be imported from discovery.")
  | ambiguousOwner ip ownerLabel =>
    some ("IP address " ++ ip ++ " ambiguously belongs to multiple " ++ ownerLabel ++ ".")
  | ownedByWirelessChassis ip =>
    some ("IP address " ++ ip ++ " already belongs to a wireless chassis.")
  | ownedByAnotherCharger ip =>
    some ("IP address " ++ ip ++ " already belongs to another charger.")
  | ownedByCharger ip => some ("IP address " ++ ip ++ " already belongs to a charger.")
  | ownedByAnotherChassis ip =>
    some ("IP address " ++ ip ++ " already belongs to another chassis.")
  | assignedToMultiple ip =>
    some ("Selected entries assign " ++ ip ++ " to multiple devices.")
  | multipleAddresses name key =>
    some ("Selected entries assign multiple IP addresses to " ++
      textOr name (describeKey quote key) ++ ".")
  | conflictingManufacturers chargerId =>
    some ("Selected entries assign conflicting manufacturers to charger " ++
      toString chargerId ++ ".")
  | conflictingApiIds chassis =>
    some ("Selected entries assign conflicting API IDs to " ++ display chassis ++ ".")
  | conflictingRoles name identity =>
    some ("Selected entries assign conflicting roles to " ++
      textOr name (describeIdentity quote identity) ++ ".")
  | conflictingSerials name identity =>
    some ("Selected entries assign conflicting serial numbers to " ++
      textOr name (describeIdentity quote identity) ++ ".")
  | conflictingSerialIdentities serialNumber =>
    some ("Selected entries assign conflicting API IDs to serial " ++ serialNumber ++ ".")
  | permissionDenied | unplanned _ | save _ | persistence _ => none

end ApprovalError

def maxDiscoveryApprovalBatch : Nat := 100

def maxDiscoveryApprovalInventoryLocks : Nat := maxDiscoveryApprovalBatch * 4

/-- Inventory rows locked for the addresses in one approval batch. -/
structure ApprovalIPOwners where
  chassisIds : String → List Nat
  chargerIds : String → List Nat

/-- The locked candidates of one approval batch, in primary-key order. -/
structure LockedApprovalInventory where
  chassis : List Chassis
  chargers : List Charger
  owners : ApprovalIPOwners

namespace LockedApprovalInventory

/-- Normalize identity text used while building snapshot indexes. -/
def text (value : String) : String := strip value

def requestedIps (items : List DiscoveryQueue) : List String := items.map DiscoveryQueue.ip

/-- The explicit and durable chassis identifiers of one row. -/
def chassisIdentityFilter (item : DiscoveryQueue) (row : Chassis) : Bool :=
  item.existingDeviceId = some row.pk ||
    (text item.apiDeviceId ≠ "" && row.manufacturer.pk = item.manufacturer.pk &&
      row.apiDeviceId = text item.apiDeviceId) ||
    (text item.serialNumber ≠ "" && row.manufacturer.pk = item.manufacturer.pk &&
      row.serialNumber = text item.serialNumber)

/-- The chassis that one locked query selects. -/
def chassisFilter (items : List DiscoveryQueue) (row : Chassis) : Bool :=
  (requestedIps items).any (fun ip => row.ip = getPrepValue ip) ||
    items.any fun item => !item.isCharger && chassisIdentityFilter item row

def chargerIdentityFilter (item : DiscoveryQueue) (row : Charger) : Bool :=
  item.existingChargerId = some row.pk ||
    (text item.serialNumber ≠ "" &&
      row.manufacturer.map Manufacturer.pk = some item.manufacturer.pk &&
      row.serialNumber = text item.serialNumber)

/-- The chargers that the other query selects. -/
def chargerFilter (items : List DiscoveryQueue) (row : Charger) : Bool :=
  (requestedIps items).any (fun ip => row.ip = some (getPrepValue ip)) ||
    items.any fun item => item.isCharger && chargerIdentityFilter item row

/-- `str(charger.ip)` of a nullable address. -/
def addressText (ip : Option String) : String := ip.getD "None"

/-- The locked rows of an address: every one of them, in primary-key order. -/
def ownerIdsByIp {α : Type} (address : α → String) (pk : α → Nat) (requested : List String)
    (rows : List α) (ip : String) : List Nat :=
  ((rows.filter fun row => address row ∈ requested).filter fun row => address row = ip).map pk

/-- Lock every possible owner and target once in stable primary-key order. -/
def lock (db : Inventory) (items : List DiscoveryQueue) :
    Except ApprovalError LockedApprovalInventory :=
  let requested := requestedIps items
  let chassis := (db.chassis.filter (chassisFilter items)).insertionSort fun a b => a.pk ≤ b.pk
  let chargers := (db.chargers.filter (chargerFilter items)).insertionSort fun a b => a.pk ≤ b.pk
  if chassis.length > maxDiscoveryApprovalInventoryLocks then .error .inventoryLockLimit
  else if chargers.length > maxDiscoveryApprovalInventoryLocks then .error .inventoryLockLimit
  else
    .ok {
      chassis
      chargers
      owners := {
        chassisIds := ownerIdsByIp Chassis.ip Chassis.pk requested chassis
        chargerIds :=
          ownerIdsByIp (fun charger => addressText charger.ip) Charger.pk requested chargers } }

variable (inventory : LockedApprovalInventory)

def chassisByPk (pk : Nat) : Option Chassis :=
  inventory.chassis.find? fun row => row.pk = pk

def chargersByPk (pk : Nat) : Option Charger :=
  inventory.chargers.find? fun row => row.pk = pk

/-- The locked chassis of an API identity that is not blank. -/
def chassisByApiIdentity (manufacturer : Nat) (apiDeviceId : String) : List Chassis :=
  inventory.chassis.filter fun row => text row.apiDeviceId ≠ "" &&
    row.manufacturer.pk = manufacturer && text row.apiDeviceId = apiDeviceId

def chassisBySerialIdentity (manufacturer : Nat) (serialNumber : String) : List Chassis :=
  inventory.chassis.filter fun row => text row.serialNumber ≠ "" &&
    row.manufacturer.pk = manufacturer && text row.serialNumber = serialNumber

def chargersBySerialIdentity (manufacturer : Nat) (serialNumber : String) : List Charger :=
  inventory.chargers.filter fun row => text row.serialNumber ≠ "" &&
    row.manufacturer.map Manufacturer.pk = some manufacturer &&
    text row.serialNumber = serialNumber

/-! ### What the lock selects -/

variable {inventory} {db : Inventory} {items : List DiscoveryQueue}

theorem lock_chassis (h : lock db items = .ok inventory) {row : Chassis} :
    row ∈ inventory.chassis ↔ row ∈ db.chassis ∧ chassisFilter items row = true := by
  unfold lock at h
  simp only at h
  split at h
  next => cases h
  split at h
  next => cases h
  cases h
  rw [List.mem_insertionSort, List.mem_filter]

theorem lock_chargers (h : lock db items = .ok inventory) {row : Charger} :
    row ∈ inventory.chargers ↔ row ∈ db.chargers ∧ chargerFilter items row = true := by
  unfold lock at h
  simp only at h
  split at h
  next => cases h
  split at h
  next => cases h
  cases h
  rw [List.mem_insertionSort, List.mem_filter]

theorem lock_unique (h : lock db items = .ok inventory) (hunique : UniqueOn Chassis.pk db.chassis) :
    UniqueOn Chassis.pk inventory.chassis := by
  unfold lock at h
  simp only at h
  split at h
  next => cases h
  split at h
  next => cases h
  cases h
  have hperm := (List.perm_insertionSort (fun a b : Chassis => a.pk ≤ b.pk)
    (db.chassis.filter (chassisFilter items))).map Chassis.pk
  exact hperm.nodup_iff.mpr (hunique.sublist (List.filter_sublist.map Chassis.pk))

theorem mem_ownerIdsByIp {α : Type} {address : α → String} {pk : α → Nat}
    {requested : List String} {rows : List α} {ip : String} {k : Nat} (hip : ip ∈ requested) :
    k ∈ ownerIdsByIp address pk requested rows ip ↔
      ∃ row ∈ rows, address row = ip ∧ pk row = k := by
  simp only [ownerIdsByIp, List.mem_map, List.mem_filter, decide_eq_true_eq]
  constructor
  · rintro ⟨row, ⟨⟨hrow, -⟩, hip⟩, rfl⟩
    exact ⟨row, hrow, hip, rfl⟩
  · rintro ⟨row, hrow, rfl, rfl⟩
    exact ⟨row, ⟨⟨hrow, hip⟩, rfl⟩, rfl⟩

theorem lock_owners (h : lock db items = .ok inventory) :
    inventory.owners = {
      chassisIds := ownerIdsByIp Chassis.ip Chassis.pk (requestedIps items) inventory.chassis
      chargerIds := ownerIdsByIp (fun charger => addressText charger.ip) Charger.pk
        (requestedIps items) inventory.chargers } := by
  unfold lock at h
  simp only at h
  split at h
  next => cases h
  split at h
  next => cases h
  cases h
  rfl

/-- The locked owners of a requested address are all the chassis that hold it. -/
theorem mem_chassisIds (h : lock db items = .ok inventory) {item : DiscoveryQueue}
    (hitem : item ∈ items) {k : Nat} :
    k ∈ inventory.owners.chassisIds item.ip ↔
      ∃ row ∈ db.chassis, row.ip = item.ip ∧ row.pk = k := by
  have hrequested : item.ip ∈ requestedIps items := List.mem_map_of_mem hitem
  rw [lock_owners h, mem_ownerIdsByIp hrequested]
  constructor
  · rintro ⟨row, hrow, hip, hpk⟩
    exact ⟨row, ((lock_chassis h).mp hrow).1, hip, hpk⟩
  · rintro ⟨row, hrow, hip, hpk⟩
    refine ⟨row, (lock_chassis h).mpr ⟨hrow, ?_⟩, hip, hpk⟩
    rw [chassisFilter, Bool.or_eq_true, List.any_eq_true]
    exact .inl ⟨item.ip, hrequested, by simpa [item.ip_eq.1] using hip⟩

theorem mem_chargerIds (h : lock db items = .ok inventory) {item : DiscoveryQueue}
    (hitem : item ∈ items) {row : Charger} (hrow : row ∈ db.chargers)
    (hip : row.ip = some item.ip) : row.pk ∈ inventory.owners.chargerIds item.ip := by
  have hrequested : item.ip ∈ requestedIps items := List.mem_map_of_mem hitem
  rw [lock_owners h, mem_ownerIdsByIp hrequested]
  refine ⟨row, (lock_chargers h).mpr ⟨hrow, ?_⟩, by rw [hip]; rfl, rfl⟩
  rw [chargerFilter, Bool.or_eq_true, List.any_eq_true]
  exact .inl ⟨item.ip, hrequested, by simpa [item.ip_eq.1] using hip⟩

/-- A chassis that a row's own identifiers name is locked. -/
theorem lock_named (h : lock db items = .ok inventory) {item : DiscoveryQueue}
    (hitem : item ∈ items) (hchassis : item.isCharger = false) {row : Chassis}
    (hrow : row ∈ db.chassis) (hnamed : chassisIdentityFilter item row = true) :
    row ∈ inventory.chassis := by
  refine (lock_chassis h).mpr ⟨hrow, ?_⟩
  rw [chassisFilter, Bool.or_eq_true, List.any_eq_true, List.any_eq_true]
  exact .inr ⟨item, hitem, by rw [hchassis, hnamed]; rfl⟩

end LockedApprovalInventory

end Micboard
