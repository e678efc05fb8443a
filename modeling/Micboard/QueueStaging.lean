import Mathlib.Data.List.MinMax
import Mathlib.Data.Prod.Lex
import Micboard.ApprovalService
import Micboard.QueueNormalization

/-! Staging of normalized devices. A queue row is found by its manufacturer and serial number, takes
over the device's fields, and is classified against the inventory. The order in which rows are read
is that of the models: the columns of it that no other code of this model reads, and how the
database compares texts, are parameters, and rows that tie in it come in primary-key order. The
summary's counts are left out, and the duplicate flag of a row, which no approval reads, is the
classification that staging returns. -/

namespace Micboard

open Library Library.Text Library.Address

/-- The columns of `Meta.ordering` that are not modelled: the `order` of a chassis, the name of a
manufacturer and that of a charger's location, with the sort keys of texts. Rows that tie come as
the database has them. -/
structure MetaOrdering (τ : Type) where
  order : Nat → Nat
  manufacturerName : Nat → τ
  locationName : Nat → τ
  collate : String → τ
  tieBreak : Nat → Nat
  manufacturerName_unique : Function.Injective manufacturerName
  tieBreak_injective : Function.Injective tieBreak

namespace MetaOrdering

variable {τ : Type} (ordering : MetaOrdering τ)

/-- The position of a chassis with a primary key, a manufacturer and a name. -/
def chassisPosition (pk manufacturer : Nat) (name : String) : Nat ×ₗ τ ×ₗ τ ×ₗ Nat :=
  toLex (ordering.order pk, toLex
    (ordering.manufacturerName manufacturer, toLex (ordering.collate name, ordering.tieBreak pk)))

def chassisRank (row : Chassis) : Nat ×ₗ τ ×ₗ τ ×ₗ Nat :=
  ordering.chassisPosition row.pk row.manufacturer.pk row.name

/-- The position of a charger with a primary key and a name. -/
def chargerPosition (pk : Nat) (name : String) : τ ×ₗ τ ×ₗ Nat :=
  toLex (ordering.locationName pk, toLex (ordering.collate name, ordering.tieBreak pk))

def chargerRank (row : Charger) : τ ×ₗ τ ×ₗ Nat := ordering.chargerPosition row.pk row.name

variable {ordering}

theorem chassisRank_pk {row other : Chassis}
    (h : ordering.chassisRank row = ordering.chassisRank other) :
    row.pk = other.pk := by
  simp only [chassisRank, chassisPosition, toLex_inj, Prod.mk.injEq] at h
  exact ordering.tieBreak_injective h.2.2.2

theorem chargerRank_pk {row other : Charger}
    (h : ordering.chargerRank row = ordering.chargerRank other) :
    row.pk = other.pk := by
  simp only [chargerRank, chargerPosition, toLex_inj, Prod.mk.injEq] at h
  exact ordering.tieBreak_injective h.2.2

end MetaOrdering

/-- The first selected row, where no two rows have one position. -/
theorem argmin_filter_eq_some {α β : Type} [LinearOrder β] {rows : List α} {p : α → Bool} {rank : α → β}
    (hrank : ∀ a ∈ rows, ∀ b ∈ rows, rank a = rank b → a = b) {row : α} :
    (rows.filter p).argmin rank = some row ↔
      row ∈ rows ∧ p row = true ∧ ∀ other ∈ rows, p other = true → rank row ≤ rank other := by
  constructor
  · intro h
    obtain ⟨hrow, hp⟩ := List.mem_filter.mp (List.argmin_mem h)
    refine ⟨hrow, hp, fun other hother hpother => ?_⟩
    exact List.le_of_mem_argmin (List.mem_filter.mpr ⟨hother, hpother⟩) h
  · rintro ⟨hrow, hp, hleast⟩
    have hmem : row ∈ rows.filter p := List.mem_filter.mpr ⟨hrow, hp⟩
    cases hfirst : (rows.filter p).argmin rank with
    | none =>
        rw [List.argmin_eq_none.mp hfirst] at hmem
        cases hmem
    | some first =>
        obtain ⟨hfirstMem, hfirstP⟩ := List.mem_filter.mp (List.argmin_mem hfirst)
        have hle := List.le_of_mem_argmin hmem hfirst
        rw [hrank first hfirstMem row hrow (le_antisymm hle (hleast first hfirstMem hfirstP))]

/-- Typed snapshot of one staged device's inventory conflicts. -/
structure DiscoveryQueueConflict where
  isDuplicate : Bool := false
  isIpConflict : Bool := false
  existingDevice : Option Chassis := none
  existingCharger : Option Charger := none
  conflictType : Option String := none

/-- What staging raises: several rows for one device, or an address that the column does not hold. -/
inductive StagingError where
  | multipleObjectsReturned
  | dataError
  deriving DecidableEq, Repr

section Staging

variable {τ : Type} [LinearOrder τ] (ordering : MetaOrdering τ)

/-- `WirelessChassis.objects.filter(…).first()`. -/
def firstChassis (db : Inventory) (condition : Chassis → Bool) : Option Chassis :=
  (db.chassis.filter condition).argmin ordering.chassisRank

/-- `Charger.objects.filter(…).first()`. -/
def firstCharger (db : Inventory) (condition : Charger → Bool) : Option Charger :=
  (db.chargers.filter condition).argmin ordering.chargerRank

variable {ordering}

theorem firstChassis_eq_some {db : Inventory} (hdb : UniqueOn Chassis.pk db.chassis)
    {condition : Chassis → Bool} {row : Chassis} :
    firstChassis ordering db condition = some row ↔ row ∈ db.chassis ∧ condition row = true ∧
      ∀ other ∈ db.chassis, condition other = true →
        ordering.chassisRank row ≤ ordering.chassisRank other :=
  argmin_filter_eq_some fun _ ha _ hb hrank => hdb.eq ha hb (MetaOrdering.chassisRank_pk hrank)

theorem firstChassis_eq_none {db : Inventory} {condition : Chassis → Bool} :
    firstChassis ordering db condition = none ↔ ∀ row ∈ db.chassis, ¬condition row = true := by
  rw [firstChassis, List.argmin_eq_none, List.filter_eq_nil_iff]

theorem firstCharger_eq_some {db : Inventory} (hdb : UniqueOn Charger.pk db.chargers)
    {condition : Charger → Bool} {row : Charger} :
    firstCharger ordering db condition = some row ↔ row ∈ db.chargers ∧ condition row = true ∧
      ∀ other ∈ db.chargers, condition other = true →
        ordering.chargerRank row ≤ ordering.chargerRank other :=
  argmin_filter_eq_some fun _ ha _ hb hrank => hdb.eq ha hb (MetaOrdering.chargerRank_pk hrank)

variable (ordering)

namespace DiscoveryQueueConflictService

/-- The duplicate among the stored serial numbers: a chassis before a charger. -/
def checkSerial (db : Inventory) (serialNumber ip : String) : Option DiscoveryQueueConflict :=
  let conflictType (moved : Bool) : Option String := some (if moved then "moved" else "duplicate")
  match firstChassis ordering db fun row => row.serialNumber = serialNumber with
  | some chassis =>
    some { isDuplicate := true, existingDevice := some chassis,
           conflictType := conflictType (chassis.ip ≠ ip) }
  | none =>
    (firstCharger ordering db fun row => row.serialNumber = serialNumber).map fun charger =>
      { isDuplicate := true, existingCharger := some charger,
        conflictType := conflictType (charger.ip ≠ some ip) }

def checkAddress (db : Inventory) (serialNumber ip : String) : DiscoveryQueueConflict :=
  let conflictType (stored : String) : Option String :=
    some (if serialNumber ≠ "" ∧ stored ≠ serialNumber then "ip_conflict" else "metadata_update")
  match firstChassis ordering db fun row => row.ip = getPrepValue ip with
  | some chassis =>
    { isIpConflict := true, existingDevice := some chassis,
      conflictType := conflictType chassis.serialNumber }
  | none =>
    match firstCharger ordering db fun row => row.ip = some (getPrepValue ip) with
    | some charger =>
      { isIpConflict := true
        existingCharger := some charger
        conflictType := conflictType charger.serialNumber }
    | none => {}

/-- Return the strongest chassis or charger conflict for one queue entry. -/
def check (db : Inventory) (serialNumber ip : String) : DiscoveryQueueConflict :=
  if serialNumber = "" then checkAddress ordering db serialNumber ip
  else (checkSerial ordering db serialNumber ip).getD (checkAddress ordering db serialNumber ip)

end DiscoveryQueueConflictService

namespace DiscoveryQueueService

/-- The text of an address as the queue stores it, where it is an address. -/
def storedIp (ip : String) :
    Option { stored : String // (ipAddress stored).map getPrepValue = some stored ∧
      trim stored = stored } :=
  if h : (ipAddress (getPrepValue ip)).map getPrepValue = some (getPrepValue ip) ∧
      trim (getPrepValue ip) = getPrepValue ip then some ⟨getPrepValue ip, h⟩
  else none

def assignDevice (device : DiscoveryQueueDevice) (ip : { stored : String //
    (ipAddress stored).map getPrepValue = some stored ∧ trim stored = stored }) (row : DiscoveryQueue) :
    DiscoveryQueue :=
  { row with
    apiDeviceId := device.apiDeviceId
    deviceType := device.deviceType
    firmwareVersion := device.firmwareVersion
    fqdn := device.fqdn
    ip := ip.1
    metadata := some device.metadata
    model := device.model
    name := device.name
    ip_stored := ip.2.1
    ip_trimmed := ip.2.2 }

def newRow (pk : Nat) (manufacturer : Manufacturer) (device : DiscoveryQueueDevice)
    (ip : { stored : String //
    (ipAddress stored).map getPrepValue = some stored ∧ trim stored = stored }) : DiscoveryQueue where
  pk
  manufacturer
  serialNumber := device.serialNumber
  apiDeviceId := device.apiDeviceId
  ip := ip.1
  deviceType := device.deviceType
  model := device.model
  name := device.name
  fqdn := device.fqdn
  firmwareVersion := device.firmwareVersion
  metadata := some device.metadata
  status := .pending
  reviewedAt := none
  reviewedBy := none
  existingDeviceId := none
  existingChargerId := none
  isIpConflict := false
  ip_stored := ip.2.1
  ip_trimmed := ip.2.2

/-- The primary key of the next queue row. -/
def nextQueuePk (queue : List DiscoveryQueue) : Nat := (queue.map DiscoveryQueue.pk).foldr max 0 + 1

/-- Whether a row is that of a manufacturer's device. -/
def isRowOf (manufacturer : Manufacturer) (serialNumber : String) (row : DiscoveryQueue) : Bool :=
  row.manufacturer.pk = manufacturer.pk && row.serialNumber = serialNumber

/-- `DiscoveryQueue.objects.update_or_create(…)`. -/
def updateOrCreate (queue : List DiscoveryQueue) (manufacturer : Manufacturer)
    (device : DiscoveryQueueDevice) :
    Except StagingError (List DiscoveryQueue × DiscoveryQueue) :=
  match storedIp device.ip with
  | none => .error .dataError
  | some ip =>
    match queue.filter (isRowOf manufacturer device.serialNumber) with
    | [] =>
      let row := newRow (nextQueuePk queue) manufacturer device ip
      .ok (queue ++ [row], row)
    | [row] =>
      let row := assignDevice device ip row
      .ok (replaceRow DiscoveryQueue.pk row queue, row)
    | _ => .error .multipleObjectsReturned

/-- A row with its classification; a pending row is not reviewed. -/
def classified (row : DiscoveryQueue) (conflicts : DiscoveryQueueConflict) : DiscoveryQueue :=
  { row with
    isIpConflict := conflicts.isIpConflict
    existingDeviceId := conflicts.existingDevice.map Chassis.pk
    existingChargerId := conflicts.existingCharger.map Charger.pk
    reviewedAt := if row.status = .pending then none else row.reviewedAt
    reviewedBy := if row.status = .pending then none else row.reviewedBy }

/-- What staging leaves: the tables, the row and its classification. -/
structure Staged where
  state : ApprovalState
  row : DiscoveryQueue
  conflicts : DiscoveryQueueConflict

/-- Upsert a queue item and refresh its duplicate-conflict snapshot. -/
def upsert (state : ApprovalState) (manufacturer : Manufacturer) (device : DiscoveryQueueDevice) :
    Except StagingError Staged := do
  let (queue, row) ← updateOrCreate state.queue manufacturer device
  let conflicts :=
    DiscoveryQueueConflictService.check ordering state.inventory row.serialNumber device.ip
  let row := classified row conflicts
  .ok { state := { state with queue := replaceRow DiscoveryQueue.pk row queue }, row, conflicts }

end DiscoveryQueueService

end Staging

end Micboard
