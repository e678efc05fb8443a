import Micboard.LibraryAddressFormat
import Micboard.LibraryTable
import Micboard.LibraryRun

/-! The managed inventory: wireless chassis and chargers as the rows of their tables, the in-memory
instances that are saved into them, and the columns a save may name. A row and an instance have the
same type; they differ in that an instance may be stale or hold an address as it was typed, while a
row holds what the columns store. Regulatory, capacity and location columns are read by no identity,
address or lifecycle decision and are not part of the model. -/

namespace Micboard

open Library Library.Text Library.Address

/-- Microseconds since the epoch. -/
abbrev Time := Int

/-- Device lifecycle states: `HardwareStatus` and the chassis `STATUS_CHOICES`. -/
inductive HardwareStatus where
  | discovered | provisioning | online | degraded | offline | maintenance | retired
  deriving DecidableEq, Repr

namespace HardwareStatus

def value : HardwareStatus → String
  | discovered => "discovered"
  | provisioning => "provisioning"
  | online => "online"
  | degraded => "degraded"
  | offline => "offline"
  | maintenance => "maintenance"
  | retired => "retired"

/-- Membership in `_OPERATIONAL_STATES`. -/
def isOperational : HardwareStatus → Bool
  | online | degraded => true
  | _ => false

end HardwareStatus

/-- `_VALID_STATUS_TRANSITIONS`, the table the chassis save hook checks. -/
def validStatusTransitions : HardwareStatus → List HardwareStatus
  | .discovered => [.provisioning, .offline, .retired]
  | .provisioning => [.online, .offline, .discovered]
  | .online => [.degraded, .offline, .maintenance]
  | .degraded => [.online, .offline, .maintenance]
  | .offline => [.online, .degraded, .maintenance, .retired]
  | .maintenance => [.online, .offline, .retired]
  | .retired => []

/-- `HardwareLifecycleManager.VALID_TRANSITIONS`, the table the lifecycle manager checks. -/
def validTransitions : HardwareStatus → List HardwareStatus
  | .discovered => [.provisioning, .offline, .retired]
  | .provisioning => [.online, .offline, .discovered]
  | .online => [.degraded, .offline, .maintenance]
  | .degraded => [.online, .offline, .maintenance]
  | .offline => [.online, .degraded, .maintenance, .retired]
  | .maintenance => [.online, .offline, .retired]
  | .retired => []

/-- The manager never requests a transition that the save hook of its own table would refuse. -/
theorem validTransitions_eq (status : HardwareStatus) :
    validTransitions status = validStatusTransitions status := by
  cases status <;> rfl

structure Manufacturer where
  pk : Nat
  code : String
  isActive : Bool
  deriving DecidableEq, Repr

/-- A `WirelessChassis` row or instance. -/
structure Chassis where
  pk : Nat
  manufacturer : Manufacturer
  apiDeviceId : String
  serialNumber : String
  macAddress : Option String
  ip : String
  name : String
  fqdn : String
  model : String
  description : String
  firmwareVersion : String
  hostedFirmwareVersion : String
  subnetMask : Option String
  gateway : Option String
  networkMode : String
  interfaceId : String
  role : String
  status : HardwareStatus
  lastSeen : Option Time
  isOnline : Bool
  lastOnlineAt : Option Time
  lastOfflineAt : Option Time
  totalUptimeMinutes : Int
  deriving DecidableEq, Repr

/-- An unsaved instance of a manufacturer with the defaults of its fields. -/
def Chassis.unsaved (manufacturer : Manufacturer) : Chassis where
  pk := 0
  manufacturer
  apiDeviceId := ""
  serialNumber := ""
  macAddress := none
  ip := ""
  name := ""
  fqdn := ""
  model := ""
  description := ""
  firmwareVersion := ""
  hostedFirmwareVersion := ""
  subnetMask := none
  gateway := none
  networkMode := "auto"
  interfaceId := ""
  role := ""
  status := .discovered
  lastSeen := none
  isOnline := false
  lastOnlineAt := none
  lastOfflineAt := none
  totalUptimeMinutes := 0

/-- A `Charger` row or instance. Its status is one of the chassis states but never `provisioning`. -/
structure Charger where
  pk : Nat
  manufacturer : Option Manufacturer
  serialNumber : String
  ip : Option String
  name : String
  fqdn : String
  model : String
  firmwareVersion : String
  status : HardwareStatus
  isActive : Bool
  deriving DecidableEq, Repr

/-- The chassis columns that `update_fields` can name. -/
inductive Column where
  | manufacturer | apiDeviceId | serialNumber | macAddress | ip | name | fqdn | model | description
  | firmwareVersion | hostedFirmwareVersion | subnetMask | gateway | networkMode | interfaceId
  | role | status | lastSeen | isOnline | lastOnlineAt | lastOfflineAt | totalUptimeMinutes
  deriving DecidableEq, Repr

/-- Every column: the `update_fields` of a full save. -/
def Column.all : List Column :=
  [.manufacturer, .apiDeviceId, .serialNumber, .macAddress, .ip, .name, .fqdn, .model, .description,
    .firmwareVersion, .hostedFirmwareVersion, .subnetMask, .gateway, .networkMode, .interfaceId,
    .role, .status, .lastSeen, .isOnline, .lastOnlineAt, .lastOfflineAt, .totalUptimeMinutes]

theorem Column.mem_all (column : Column) : column ∈ Column.all := by
  cases column <;> decide

/-- `GenericIPAddressField.get_prep_value`: IPv6 text is stored in its canonical form, any other
text as it is. -/
def getPrepValue (value : String) : String :=
  if ':' ∈ value.toList then (cleanIPv6 value).getD value else value

/-- What the column stores is stored as it is. -/
theorem getPrepValue_getPrepValue (value : String) :
    getPrepValue (getPrepValue value) = getPrepValue value := by
  have hkeep : ∀ stored, cleanIPv6 stored = none ∨ cleanIPv6 stored = some stored →
      getPrepValue stored = stored := by
    intro stored h
    rw [getPrepValue]
    rcases h with h | h <;> rw [h] <;> simp
  by_cases hcolon : ':' ∈ value.toList
  · cases hclean : cleanIPv6 value with
    | none =>
        rw [hkeep value (.inl hclean), hkeep value (.inl hclean)]
    | some canonical =>
        have hvalue : getPrepValue value = canonical := by
          rw [getPrepValue, if_pos hcolon, hclean, Option.getD_some]
        rw [hvalue]
        exact hkeep canonical (.inr (cleanIPv6_idempotent hclean))
  · have hvalue : getPrepValue value = value := if_neg hcolon
    rw [hvalue, hvalue]

/-- A canonical address is stored as it is, unless it names a scope. -/
theorem getPrepValue_eq_self_iff {text ip : String} (h : ipAddress text = some ip) :
    getPrepValue ip = ip ↔ '%' ∉ ip.toList := by
  have hself := ipAddress_ipAddress h
  constructor
  · intro hstored hscope
    obtain ⟨hcolon, clean, hclean, hplain⟩ := cleanIPv6_of_scope hscope hself
    rw [getPrepValue, if_pos hcolon, hclean, Option.getD_some] at hstored
    rw [hstored] at hplain
    exact hplain hscope
  · intro hscope
    have hcanonical := ipAddress_of_no_scope hscope hself
    rw [getPrepValue]
    split
    next hcolon =>
      rw [if_pos hcolon] at hcanonical
      rw [hcanonical, Option.getD_some]
    next => rfl

/-- What an address column that is not null holds: text that it stores as it is. -/
def StoredAddress (ip : String) : Prop := ip ≠ "" ∧ getPrepValue ip = ip

instance (ip : String) : Decidable (StoredAddress ip) :=
  inferInstanceAs (Decidable (ip ≠ "" ∧ getPrepValue ip = ip))

theorem storedAddress_getPrepValue {value : String} (h : value ≠ "") :
    StoredAddress (getPrepValue value) := by
  refine ⟨?_, getPrepValue_getPrepValue value⟩
  rw [getPrepValue]
  split
  next =>
    cases hclean : cleanIPv6 value with
    | none => exact h
    | some canonical =>
        rintro rfl
        have hempty : cleanIPv6 "" = some "" := cleanIPv6_idempotent hclean
        revert hempty
        decide +kernel
  next => exact h

/-- `get_db_prep_value` of a nullable address column: empty text is stored as `NULL`. -/
def getDbPrepValue : Option String → Option String
  | none => none
  | some value => if value = "" then none else some (getPrepValue value)

/-- The columns of an `UPDATE` or `INSERT`: the named ones come from the instance, the others from the
row as it was. -/
def Chassis.writeTo (fields : List Column) (chassis row : Chassis) : Chassis where
  pk := row.pk
  manufacturer := if .manufacturer ∈ fields then chassis.manufacturer else row.manufacturer
  apiDeviceId := if .apiDeviceId ∈ fields then chassis.apiDeviceId else row.apiDeviceId
  serialNumber := if .serialNumber ∈ fields then chassis.serialNumber else row.serialNumber
  macAddress := if .macAddress ∈ fields then chassis.macAddress else row.macAddress
  ip := if .ip ∈ fields then getPrepValue chassis.ip else row.ip
  name := if .name ∈ fields then chassis.name else row.name
  fqdn := if .fqdn ∈ fields then chassis.fqdn else row.fqdn
  model := if .model ∈ fields then chassis.model else row.model
  description := if .description ∈ fields then chassis.description else row.description
  firmwareVersion :=
    if .firmwareVersion ∈ fields then chassis.firmwareVersion else row.firmwareVersion
  hostedFirmwareVersion :=
    if .hostedFirmwareVersion ∈ fields then chassis.hostedFirmwareVersion
    else row.hostedFirmwareVersion
  subnetMask := if .subnetMask ∈ fields then getDbPrepValue chassis.subnetMask else row.subnetMask
  gateway := if .gateway ∈ fields then getDbPrepValue chassis.gateway else row.gateway
  networkMode := if .networkMode ∈ fields then chassis.networkMode else row.networkMode
  interfaceId := if .interfaceId ∈ fields then chassis.interfaceId else row.interfaceId
  role := if .role ∈ fields then chassis.role else row.role
  status := if .status ∈ fields then chassis.status else row.status
  lastSeen := if .lastSeen ∈ fields then chassis.lastSeen else row.lastSeen
  isOnline := if .isOnline ∈ fields then chassis.isOnline else row.isOnline
  lastOnlineAt := if .lastOnlineAt ∈ fields then chassis.lastOnlineAt else row.lastOnlineAt
  lastOfflineAt := if .lastOfflineAt ∈ fields then chassis.lastOfflineAt else row.lastOfflineAt
  totalUptimeMinutes :=
    if .totalUptimeMinutes ∈ fields then chassis.totalUptimeMinutes else row.totalUptimeMinutes

section WriteTo

variable (fields : List Column) (chassis row : Chassis)

@[simp] theorem writeTo_pk : (chassis.writeTo fields row).pk = row.pk := rfl

@[simp] theorem writeTo_manufacturer : (chassis.writeTo fields row).manufacturer =
    if .manufacturer ∈ fields then chassis.manufacturer else row.manufacturer := rfl

@[simp] theorem writeTo_apiDeviceId : (chassis.writeTo fields row).apiDeviceId =
    if .apiDeviceId ∈ fields then chassis.apiDeviceId else row.apiDeviceId := rfl

@[simp] theorem writeTo_serialNumber : (chassis.writeTo fields row).serialNumber =
    if .serialNumber ∈ fields then chassis.serialNumber else row.serialNumber := rfl

@[simp] theorem writeTo_macAddress : (chassis.writeTo fields row).macAddress =
    if .macAddress ∈ fields then chassis.macAddress else row.macAddress := rfl

@[simp] theorem writeTo_ip : (chassis.writeTo fields row).ip =
    if .ip ∈ fields then getPrepValue chassis.ip else row.ip := rfl

@[simp] theorem writeTo_status : (chassis.writeTo fields row).status =
    if .status ∈ fields then chassis.status else row.status := rfl

@[simp] theorem writeTo_isOnline : (chassis.writeTo fields row).isOnline =
    if .isOnline ∈ fields then chassis.isOnline else row.isOnline := rfl

@[simp] theorem writeTo_lastOnlineAt : (chassis.writeTo fields row).lastOnlineAt =
    if .lastOnlineAt ∈ fields then chassis.lastOnlineAt else row.lastOnlineAt := rfl

@[simp] theorem writeTo_lastOfflineAt : (chassis.writeTo fields row).lastOfflineAt =
    if .lastOfflineAt ∈ fields then chassis.lastOfflineAt else row.lastOfflineAt := rfl

@[simp] theorem writeTo_totalUptimeMinutes : (chassis.writeTo fields row).totalUptimeMinutes =
    if .totalUptimeMinutes ∈ fields then chassis.totalUptimeMinutes
    else row.totalUptimeMinutes := rfl

variable {fields}

theorem ite_mem_append {α : Type} {first second : List Column} (column : Column) (new old : α) :
    (if column ∈ second then new else if column ∈ first then new else old) =
      if column ∈ first ++ second then new else old := by
  by_cases hsecond : column ∈ second
  · rw [if_pos hsecond, if_pos (List.mem_append_right _ hsecond)]
  · rw [if_neg hsecond]
    simp only [List.mem_append, hsecond, or_false]

/-- Two statements that write one instance to one row write the columns either of them names. -/
theorem writeTo_writeTo (first second : List Column) :
    chassis.writeTo second (chassis.writeTo first row) = chassis.writeTo (first ++ second) row := by
  simp only [Chassis.writeTo, ite_mem_append]

theorem writeTo_congr {first second : List Column}
    (h : ∀ column, column ∈ first ↔ column ∈ second) :
    chassis.writeTo first row = chassis.writeTo second row := by
  simp only [Chassis.writeTo, h]

end WriteTo

/-! ### The database -/

/-- The two hardware tables, with the next primary key of the chassis table. -/
structure Inventory where
  chassis : List Chassis
  chargers : List Charger
  nextPk : Nat
  deriving DecidableEq, Repr

namespace Inventory

def empty : Inventory := { chassis := [], chargers := [], nextPk := 1 }

/-- What the columns, the table constraints and the key sequence guarantee of every stored inventory. -/
structure Consistent (db : Inventory) : Prop where
  pk_unique : UniqueOn Chassis.pk db.chassis
  pk_lt : ∀ chassis ∈ db.chassis, chassis.pk < db.nextPk
  ip_stored : ∀ chassis ∈ db.chassis, StoredAddress chassis.ip
  ip_unique : UniqueOn Chassis.ip db.chassis
  api_unique : UniqueOn (fun chassis => (chassis.manufacturer.pk, chassis.apiDeviceId)) db.chassis

theorem consistent_of_chassis_nil {db : Inventory} (h : db.chassis = []) : db.Consistent where
  pk_unique := by rw [h]; exact uniqueOn_nil _
  pk_lt := by simp [h]
  ip_stored := by simp [h]
  ip_unique := by rw [h]; exact uniqueOn_nil _
  api_unique := by rw [h]; exact uniqueOn_nil _

/-- Another row already holds the address or the API identity of `row`. -/
def violatesUnique (db : Inventory) (row : Chassis) : Bool :=
  db.chassis.any fun other => other.pk ≠ row.pk && (other.ip = row.ip ||
    (other.manufacturer.pk = row.manufacturer.pk && other.apiDeviceId = row.apiDeviceId))

theorem violatesUnique_eq_false {db : Inventory} {row : Chassis} :
    db.violatesUnique row = false ↔ ∀ other ∈ db.chassis, other.pk ≠ row.pk →
      other.ip ≠ row.ip ∧
        (other.manufacturer.pk, other.apiDeviceId) ≠ (row.manufacturer.pk, row.apiDeviceId) := by
  simp only [violatesUnique, List.any_eq_false, Bool.and_eq_true, Bool.or_eq_true,
    decide_eq_true_eq, not_and, not_or, ne_eq, Prod.mk.injEq]

/-- Only the keys of a row decide whether it violates a constraint. -/
theorem violatesUnique_congr {db : Inventory} {row other : Chassis} (hpk : row.pk = other.pk)
    (hip : row.ip = other.ip) (hmanufacturer : row.manufacturer = other.manufacturer)
    (hapi : row.apiDeviceId = other.apiDeviceId) :
    db.violatesUnique row = db.violatesUnique other := by
  simp only [violatesUnique, hpk, hip, hmanufacturer, hapi]

/-- The row with a primary key. -/
def find (db : Inventory) (pk : Nat) : Option Chassis :=
  db.chassis.find? fun chassis => chassis.pk = pk

theorem find_mem {db : Inventory} {pk : Nat} {row : Chassis} (h : db.find pk = some row) :
    row ∈ db.chassis := List.mem_of_find?_eq_some h

theorem find_pk {db : Inventory} {pk : Nat} {row : Chassis} (h : db.find pk = some row) :
    row.pk = pk := by
  simpa using List.find?_some h

theorem Consistent.find_eq_some {db : Inventory} (h : db.Consistent) {pk : Nat} {row : Chassis} :
    db.find pk = some row ↔ row ∈ db.chassis ∧ row.pk = pk :=
  h.pk_unique.find?_eq_some Chassis.pk

def updateRow (db : Inventory) (row : Chassis) : Inventory :=
  { db with chassis := replaceRow Chassis.pk row db.chassis }

def insertRow (db : Inventory) (row : Chassis) : Inventory :=
  { db with chassis := db.chassis ++ [row], nextPk := db.nextPk + 1 }

@[simp] theorem updateRow_chassis (db : Inventory) (row : Chassis) :
    (db.updateRow row).chassis = replaceRow Chassis.pk row db.chassis := rfl

@[simp] theorem updateRow_chargers (db : Inventory) (row : Chassis) :
    (db.updateRow row).chargers = db.chargers := rfl

@[simp] theorem insertRow_chassis (db : Inventory) (row : Chassis) :
    (db.insertRow row).chassis = db.chassis ++ [row] := rfl

@[simp] theorem insertRow_chargers (db : Inventory) (row : Chassis) :
    (db.insertRow row).chargers = db.chargers := rfl

theorem find_updateRow {db : Inventory} {row old : Chassis} (h : db.find row.pk = some old) :
    (db.updateRow row).find row.pk = some row :=
  find?_replaceRow Chassis.pk h

theorem updateRow_updateRow (db : Inventory) {first second : Chassis} (h : first.pk = second.pk) :
    (db.updateRow first).updateRow second = db.updateRow second := by
  simp only [Inventory.updateRow, replaceRow_replaceRow Chassis.pk h]

theorem Consistent.updateRow {db : Inventory} (h : db.Consistent) {old row : Chassis}
    (hold : old ∈ db.chassis) (hpk : old.pk = row.pk) (hip : StoredAddress row.ip)
    (hfree : db.violatesUnique row = false) : (db.updateRow row).Consistent where
  pk_unique := by
    rw [updateRow_chassis, UniqueOn, map_pk_replaceRow]
    exact h.pk_unique
  pk_lt := by
    intro chassis hchassis
    rw [updateRow_chassis, mem_replaceRow] at hchassis
    rcases hchassis with ⟨rfl, -⟩ | ⟨hmem, -⟩
    · exact hpk ▸ h.pk_lt old hold
    · exact h.pk_lt chassis hmem
  ip_stored := by
    intro chassis hchassis
    rw [updateRow_chassis, mem_replaceRow] at hchassis
    rcases hchassis with ⟨rfl, -⟩ | ⟨hmem, -⟩
    · exact hip
    · exact h.ip_stored chassis hmem
  ip_unique := UniqueOn.replaceRow Chassis.pk h.pk_unique h.ip_unique fun other hother hne =>
    (violatesUnique_eq_false.mp hfree other hother hne).1
  api_unique := UniqueOn.replaceRow Chassis.pk h.pk_unique h.api_unique fun other hother hne =>
    (violatesUnique_eq_false.mp hfree other hother hne).2

theorem Consistent.insertRow {db : Inventory} (h : db.Consistent) {row : Chassis}
    (hpk : row.pk = db.nextPk) (hip : StoredAddress row.ip)
    (hfree : db.violatesUnique row = false) : (db.insertRow row).Consistent := by
  have hne : ∀ other ∈ db.chassis, other.pk ≠ row.pk := fun other hother heq =>
    absurd (h.pk_lt other hother) (by omega)
  refine ⟨h.pk_unique.append_row hne, ?_, ?_, ?_, ?_⟩
  · intro chassis hchassis
    rw [insertRow_chassis, List.mem_append, List.mem_singleton] at hchassis
    show chassis.pk < db.nextPk + 1
    rcases hchassis with hmem | rfl
    · exact Nat.lt_succ_of_lt (h.pk_lt chassis hmem)
    · omega
  · intro chassis hchassis
    rw [insertRow_chassis, List.mem_append, List.mem_singleton] at hchassis
    rcases hchassis with hmem | rfl
    · exact h.ip_stored chassis hmem
    · exact hip
  · exact h.ip_unique.append_row fun other hother =>
      (violatesUnique_eq_false.mp hfree other hother (hne other hother)).1
  · exact h.api_unique.append_row fun other hother =>
      (violatesUnique_eq_false.mp hfree other hother (hne other hother)).2

end Inventory

end Micboard
