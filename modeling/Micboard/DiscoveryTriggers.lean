import Mathlib.Data.List.Dedup
import Mathlib.Data.List.Sort
import Micboard.ChassisCoherence
import Micboard.DiscoveryScheduling

/-! The lifecycle hooks that request a discovery: which manufacturers a write of a chassis or of an
entry of the scan registry affects, and which changes of the wanted addresses the requests of a
transaction cover. The registry entries have a save hook each, but only the FQDN entries have a
delete hook, and a hook knows the manufacturer of the instance, not the one of the stored row. -/

namespace Micboard

open Library Library.Address

/-- The two kinds of registry entries: `DiscoveryCIDR` and `DiscoveryFQDN`. -/
inductive ScanSource where
  | cidr | fqdn
deriving DecidableEq

/-- A registry entry, with its range or host name as `value`. -/
structure RegistryEntry where
  pk : Nat
  manufacturerId : Nat
  value : String
deriving DecidableEq

/-- The entry columns that `update_fields` can name. -/
inductive EntryColumn where
  | manufacturer | value
deriving DecidableEq

def EntryColumn.all : List EntryColumn := [.manufacturer, .value]

def RegistryEntry.writeTo (fields : List EntryColumn) (entry row : RegistryEntry) :
    RegistryEntry where
  pk := row.pk
  manufacturerId := if .manufacturer ∈ fields then entry.manufacturerId else row.manufacturerId
  value := if .value ∈ fields then entry.value else row.value

/-- The tables the wanted addresses come from. -/
structure DiscoveryTables where
  inventory : Inventory
  cidrs : List RegistryEntry
  fqdns : List RegistryEntry

namespace DiscoveryTables

def entries (tables : DiscoveryTables) : ScanSource → List RegistryEntry
  | .cidr => tables.cidrs
  | .fqdn => tables.fqdns

def setEntries (tables : DiscoveryTables) (rows : List RegistryEntry) :
    ScanSource → DiscoveryTables
  | .cidr => { tables with cidrs := rows }
  | .fqdn => { tables with fqdns := rows }

@[simp] theorem setEntries_inventory (tables : DiscoveryTables) (rows : List RegistryEntry)
    (source : ScanSource) : (tables.setEntries rows source).inventory = tables.inventory := by
  cases source <;> rfl

@[simp] theorem entries_setEntries (tables : DiscoveryTables) (rows : List RegistryEntry)
    (source other : ScanSource) :
    (tables.setEntries rows source).entries other =
      if other = source then rows else tables.entries other := by
  cases source <;> cases other <;> rfl

end DiscoveryTables

/-- Persisted chassis fields used by discovery deduplication. -/
structure ChassisDiscoveryIdentity where
  manufacturerId : Nat
  apiDeviceId : String
  serialNumber : String
  macAddress : Option String
  ip : String

def ChassisDiscoveryIdentity.fromChassis (chassis : Chassis) : ChassisDiscoveryIdentity where
  manufacturerId := chassis.manufacturer.pk
  apiDeviceId := chassis.apiDeviceId
  serialNumber := chassis.serialNumber
  macAddress := chassis.macAddress
  ip := chassis.ip

/-- The two identities differ in the field of a column. -/
def ChassisDiscoveryIdentity.differsIn (previous current : ChassisDiscoveryIdentity) :
    Column → Bool
  | .manufacturer => previous.manufacturerId ≠ current.manufacturerId
  | .apiDeviceId => previous.apiDeviceId ≠ current.apiDeviceId
  | .serialNumber => previous.serialNumber ≠ current.serialNumber
  | .macAddress => previous.macAddress ≠ current.macAddress
  | .ip => previous.ip ≠ current.ip
  | _ => false

/-- `sorted(set(…))`. -/
def sortedSet (ids : List Nat) : List Nat := ids.dedup.insertionSort (· ≤ ·)

@[simp] theorem mem_sortedSet {ids : List Nat} {id : Nat} : id ∈ sortedSet ids ↔ id ∈ ids := by
  rw [sortedSet, List.mem_insertionSort, List.mem_dedup]

namespace ChassisDiscoveryScheduleService

def updateFields : List Column := [.manufacturer, .apiDeviceId, .serialNumber, .macAddress, .ip]

/-- The `compared_fields` of a save: those it writes. -/
def comparedFields : Option (List Column) → List Column
  | none => updateFields
  | some written => updateFields.filter (· ∈ written)

/-- `affected_manufacturer_ids`, before the write. -/
def affectedManufacturerIds (db : Inventory) (chassis : Chassis) (created : Bool)
    (written : Option (List Column)) : Except SaveError (List Nat) :=
  if created then .ok [chassis.manufacturer.pk]
  else
    if comparedFields written = [] then .ok []
    else
      match db.find chassis.pk with
      | none => .error (.chassisDoesNotExist chassis.pk)
      | some row =>
        let previous := ChassisDiscoveryIdentity.fromChassis row
        let current := ChassisDiscoveryIdentity.fromChassis chassis
        if (comparedFields written).any (previous.differsIn current) then
          .ok (sortedSet [previous.manufacturerId, current.manufacturerId])
        else .ok []

end ChassisDiscoveryScheduleService

/-- A discovery that reconciles the managed chassis only. -/
def inventoryDiscovery (manufacturerId : Nat) : DiscoveryKey := ⟨manufacturerId, false, false⟩

/-- A discovery that expands the scan registry too. -/
def registryDiscovery (manufacturerId : Nat) : DiscoveryKey := ⟨manufacturerId, true, true⟩

def handleChassisBulkDelete (chassisList : List Chassis) : List DiscoveryKey :=
  (sortedSet (chassisList.map fun chassis => chassis.manufacturer.pk)).map inventoryDiscovery

def registryEntryChanged (entry : RegistryEntry) : List DiscoveryKey :=
  if entry.manufacturerId = 0 then [] else [registryDiscovery entry.manufacturerId]

/-- An instance write of a transaction, or the bulk deletion of the admin. -/
inductive LifecycleWrite where
  | writeChassis (write : ChassisWrite)
  | deleteChassis (chassis : Chassis)
  | deleteChassisQueryset (pks : List Nat)
  | createEntry (source : ScanSource) (entry : RegistryEntry)
  | saveEntry (source : ScanSource) (entry : RegistryEntry) (written : Option (List EntryColumn))
  | deleteEntry (source : ScanSource) (entry : RegistryEntry)

inductive WriteError where
  | save (error : SaveError)
  | didNotAffectAnyRows

def liftWrite {α : Type} : Except SaveError α → Except WriteError α
  | .ok a => .ok a
  | .error error => .error (.save error)

def ChassisWrite.affected (db : Inventory) : ChassisWrite → Except SaveError (List Nat)
  | .create _ chassis =>
    ChassisDiscoveryScheduleService.affectedManufacturerIds db chassis true none
  | .save _ chassis updateFields =>
    ChassisDiscoveryScheduleService.affectedManufacturerIds db chassis false updateFields

namespace LifecycleWrite

/-- The tables after a write, with the discoveries its hooks schedule. -/
def apply (tables : DiscoveryTables) :
    LifecycleWrite → Except WriteError (DiscoveryTables × List DiscoveryKey)
  | .writeChassis write => do
    let (inventory, _) ← liftWrite (write.apply tables.inventory)
    let ids ← liftWrite (write.affected tables.inventory)
    .ok ({ tables with inventory }, ids.map inventoryDiscovery)
  | .deleteChassis chassis =>
    let rows := tables.inventory.chassis.filter fun row => row.pk ≠ chassis.pk
    .ok ({ tables with inventory := { tables.inventory with chassis := rows } },
      handleChassisBulkDelete [chassis])
  | .deleteChassisQueryset pks =>
    -- the rows are read under a lock and their hooks are suppressed
    let deleted := tables.inventory.chassis.filter fun row => row.pk ∈ pks
    let rows := tables.inventory.chassis.filter fun row => row.pk ∉ pks
    .ok ({ tables with inventory := { tables.inventory with chassis := rows } },
      handleChassisBulkDelete deleted)
  | .createEntry source entry =>
    if (tables.entries source).any fun row => row.pk = entry.pk then .error (.save .integrityError)
    else .ok (tables.setEntries (tables.entries source ++ [entry]) source,
      registryEntryChanged entry)
  | .saveEntry source entry written =>
    if written = some [] then .ok (tables, [])
    else if (tables.entries source).any fun row => row.pk = entry.pk then
      let rows := (tables.entries source).map fun row =>
        if row.pk = entry.pk then entry.writeTo (written.getD EntryColumn.all) row else row
      .ok (tables.setEntries rows source, registryEntryChanged entry)
    else
      match written with
      | none => .ok (tables.setEntries (tables.entries source ++ [entry]) source,
          registryEntryChanged entry)
      | some _ => .error .didNotAffectAnyRows
  | .deleteEntry source entry =>
    let rows := (tables.entries source).filter fun row => row.pk ≠ entry.pk
    .ok (tables.setEntries rows source,
      match source with
      | .cidr => []
      | .fqdn => registryEntryChanged entry)

/-- The writes of a transaction, with everything they schedule. -/
def run (writes : List LifecycleWrite) (tables : DiscoveryTables) :
    Except WriteError (DiscoveryTables × List DiscoveryKey) :=
  match writes with
  | [] => .ok (tables, [])
  | write :: rest => do
    let (tables, keys) ← write.apply tables
    let (tables, later) ← run rest tables
    .ok (tables, keys ++ later)

/-- The writes whose hooks know what they change: no stored CIDR entry is deleted, and where a registry
entry is saved or deleted, or a chassis deleted, the instance has the manufacturer of the stored row. -/
def KnowsOwner (tables : DiscoveryTables) : LifecycleWrite → Prop
  | .writeChassis _ | .deleteChassisQueryset _ => True
  | .deleteChassis chassis => ∀ row ∈ tables.inventory.chassis, row.pk = chassis.pk →
    row.manufacturer.pk = chassis.manufacturer.pk
  | .createEntry _ entry => entry.manufacturerId ≠ 0
  | .saveEntry source entry _ => entry.manufacturerId ≠ 0 ∧
    ∀ row ∈ tables.entries source, row.pk = entry.pk → row.manufacturerId = entry.manufacturerId
  | .deleteEntry .cidr entry => ∀ row ∈ tables.cidrs, row.pk ≠ entry.pk
  | .deleteEntry .fqdn entry => entry.manufacturerId ≠ 0 ∧
    ∀ row ∈ tables.fqdns, row.pk = entry.pk → row.manufacturerId = entry.manufacturerId

instance (tables : DiscoveryTables) (write : LifecycleWrite) :
    Decidable (write.KnowsOwner tables) :=
  match write with
  | .writeChassis _ | .deleteChassisQueryset _ => .isTrue trivial
  | .deleteChassis chassis => inferInstanceAs (Decidable (∀ row ∈ tables.inventory.chassis,
      row.pk = chassis.pk → row.manufacturer.pk = chassis.manufacturer.pk))
  | .createEntry _ entry => inferInstanceAs (Decidable (entry.manufacturerId ≠ 0))
  | .saveEntry source entry _ => inferInstanceAs (Decidable (entry.manufacturerId ≠ 0 ∧
      ∀ row ∈ tables.entries source, row.pk = entry.pk →
        row.manufacturerId = entry.manufacturerId))
  | .deleteEntry .cidr entry =>
    inferInstanceAs (Decidable (∀ row ∈ tables.cidrs, row.pk ≠ entry.pk))
  | .deleteEntry .fqdn entry => inferInstanceAs (Decidable (entry.manufacturerId ≠ 0 ∧
      ∀ row ∈ tables.fqdns, row.pk = entry.pk → row.manufacturerId = entry.manufacturerId))

/-- Every write of the transaction knows what it changes, in the tables it finds. -/
def AllKnowOwner : List LifecycleWrite → DiscoveryTables → Prop
  | [], _ => True
  | write :: rest, tables => write.KnowsOwner tables ∧
    ∀ after keys, write.apply tables = .ok (after, keys) → AllKnowOwner rest after

end LifecycleWrite

/-- The addresses of a registry entry, for a resolver of host names. -/
def scanAddresses (resolve : String → List String) : ScanSource → String → List String
  | .cidr, range => (networkHosts range).getD []
  | .fqdn, name => resolve name

namespace DiscoveryTables

variable (resolve : String → List String) (tables : DiscoveryTables)

/-- A chassis of a manufacturer has an address. -/
def Manages (manufacturerId : Nat) (ip : String) : Prop :=
  ∃ row ∈ tables.inventory.chassis, row.manufacturer.pk = manufacturerId ∧ row.ip = ip

/-- A registry entry of a manufacturer has an address. -/
def Scans (source : ScanSource) (manufacturerId : Nat) (ip : String) : Prop :=
  ∃ row ∈ tables.entries source, row.manufacturerId = manufacturerId ∧
    ip ∈ scanAddresses resolve source row.value

/-- The addresses a manufacturer wants on its vendor list. -/
def Wants (manufacturerId : Nat) (ip : String) : Prop :=
  tables.Manages manufacturerId ip ∨ ∃ source, tables.Scans resolve source manufacturerId ip

/-- The chassis `pk` is stored with a manufacturer and an address. -/
def HasChassis (pk manufacturerId : Nat) (ip : String) : Prop :=
  ∃ row ∈ tables.inventory.chassis, row.pk = pk ∧ row.manufacturer.pk = manufacturerId ∧ row.ip = ip

/-- A registry entry is stored. -/
def HasEntry (source : ScanSource) (manufacturerId : Nat) (value : String) : Prop :=
  ∃ row ∈ tables.entries source, row.manufacturerId = manufacturerId ∧ row.value = value

end DiscoveryTables

def DiscoveryKey.includes (key : DiscoveryKey) : ScanSource → Bool
  | .cidr => key.scanCidrs
  | .fqdn => key.scanFqdns

/-- Every manufacturer whose wanted addresses changed is discovered with the scans that changed, and a
chassis that changed its manufacturer has both discovered. -/
structure TriggersCover (resolve : String → List String) (before after : DiscoveryTables)
    (scheduled : List DiscoveryKey) : Prop where
  wanted : ∀ manufacturerId ip,
    ¬ (before.Wants resolve manufacturerId ip ↔ after.Wants resolve manufacturerId ip) →
      ∃ key ∈ scheduled, key.manufacturerId = manufacturerId ∧ ∀ source other,
        ¬ (before.Scans resolve source manufacturerId other ↔
          after.Scans resolve source manufacturerId other) → key.includes source = true
  moved : ∀ row ∈ before.inventory.chassis, ∀ row' ∈ after.inventory.chassis, row.pk = row'.pk →
    row.manufacturer.pk ≠ row'.manufacturer.pk →
      (∃ key ∈ scheduled, key.manufacturerId = row.manufacturer.pk) ∧
        ∃ key ∈ scheduled, key.manufacturerId = row'.manufacturer.pk

/-- What was scheduled covers the rows that changed: a discovery for the manufacturer of a chassis row,
one with all scans for the manufacturer of a registry entry. -/
structure Covers (before after : DiscoveryTables) (scheduled : List DiscoveryKey) : Prop where
  chassis : ∀ pk manufacturerId ip,
    (before.HasChassis pk manufacturerId ip ↔ after.HasChassis pk manufacturerId ip) ∨
      inventoryDiscovery manufacturerId ∈ scheduled
  entries : ∀ source manufacturerId value,
    (before.HasEntry source manufacturerId value ↔ after.HasEntry source manufacturerId value) ∨
      registryDiscovery manufacturerId ∈ scheduled

theorem Covers.refl (tables : DiscoveryTables) : Covers tables tables [] :=
  ⟨fun _ _ _ => .inl .rfl, fun _ _ _ => .inl .rfl⟩

theorem Covers.trans {a b c : DiscoveryTables} {keys later : List DiscoveryKey}
    (h : Covers a b keys) (h' : Covers b c later) : Covers a c (keys ++ later) where
  chassis pk manufacturerId ip := by
    rcases h.chassis pk manufacturerId ip with hfirst | hkey
    · rcases h'.chassis pk manufacturerId ip with hsecond | hkey
      · exact .inl (hfirst.trans hsecond)
      · exact .inr (List.mem_append_right _ hkey)
    · exact .inr (List.mem_append_left _ hkey)
  entries source manufacturerId value := by
    rcases h.entries source manufacturerId value with hfirst | hkey
    · rcases h'.entries source manufacturerId value with hsecond | hkey
      · exact .inl (hfirst.trans hsecond)
      · exact .inr (List.mem_append_right _ hkey)
    · exact .inr (List.mem_append_left _ hkey)

section Chassis

variable {tables : DiscoveryTables}

/-- A change that leaves the registry alone. -/
theorem covers_inventory {inventory : Inventory} {keys : List DiscoveryKey}
    (h : ∀ pk manufacturerId ip,
      (tables.HasChassis pk manufacturerId ip ↔
        DiscoveryTables.HasChassis { tables with inventory } pk manufacturerId ip) ∨
          inventoryDiscovery manufacturerId ∈ keys) :
    Covers tables { tables with inventory } keys :=
  ⟨h, fun source _ _ => .inl (by cases source <;> exact .rfl)⟩

theorem covers_createChassis {now : Time} {chassis saved : Chassis} {inventory : Inventory}
    (hok : createChassis now tables.inventory chassis = .ok (inventory, saved)) :
    Covers tables { tables with inventory } [inventoryDiscovery chassis.manufacturer.pk] := by
  obtain ⟨-, -, -, rfl, rfl⟩ := createChassis_eq_ok.mp hok
  obtain ⟨isOnline, on, heq⟩ := startLifecycle_eq now tables.inventory chassis
  refine covers_inventory fun pk manufacturerId ip => ?_
  by_cases howner : chassis.manufacturer.pk = manufacturerId
  · rw [howner]
    exact .inr (List.mem_singleton_self _)
  · refine .inl ⟨?_, ?_⟩
    · rintro ⟨row, hrow, h⟩
      exact ⟨row, List.mem_append_left _ hrow, h⟩
    · rintro ⟨row, hrow, hpk, hmanufacturer, hip⟩
      rcases List.mem_append.mp hrow with hrow | hrow
      · exact ⟨row, hrow, hpk, hmanufacturer, hip⟩
      · rw [List.mem_singleton.mp hrow, heq] at hmanufacturer
        exact absurd hmanufacturer howner

theorem affectedManufacturerIds_of_changed {db : Inventory} {chassis previous : Chassis}
    {written : Option (List Column)} {ids : List Nat} (hfind : db.find chassis.pk = some previous)
    (hstored : StoredAddress previous.ip)
    (hids : ChassisDiscoveryScheduleService.affectedManufacturerIds db chassis false written =
      .ok ids)
    (hchanged : (chassis.writeTo (written.getD Column.all) previous).manufacturer.pk ≠
        previous.manufacturer.pk ∨
      (chassis.writeTo (written.getD Column.all) previous).ip ≠ previous.ip) :
    ids = sortedSet [previous.manufacturer.pk, chassis.manufacturer.pk] := by
  have hcolumn : ∃ column ∈ ChassisDiscoveryScheduleService.updateFields,
      column ∈ written.getD Column.all ∧
        (ChassisDiscoveryIdentity.fromChassis previous).differsIn
          (ChassisDiscoveryIdentity.fromChassis chassis) column = true := by
    rcases hchanged with hmanufacturer | hip
    · refine ⟨.manufacturer, by decide, ?_⟩
      rw [writeTo_manufacturer] at hmanufacturer
      split at hmanufacturer
      next hwritten => exact ⟨hwritten, decide_eq_true fun heq => hmanufacturer heq.symm⟩
      next => exact absurd rfl hmanufacturer
    · refine ⟨.ip, by decide, ?_⟩
      rw [writeTo_ip] at hip
      split at hip
      next hwritten =>
        refine ⟨hwritten, decide_eq_true fun heq => hip ?_⟩
        have heq : previous.ip = chassis.ip := heq
        rw [← heq]
        exact hstored.2
      next => exact absurd rfl hip
  obtain ⟨column, hupdate, hwritten, hdiffers⟩ := hcolumn
  have hcompared : column ∈ ChassisDiscoveryScheduleService.comparedFields written := by
    cases written with
    | none => exact hupdate
    | some written => exact List.mem_filter.mpr ⟨hupdate, decide_eq_true hwritten⟩
  rw [ChassisDiscoveryScheduleService.affectedManufacturerIds, if_neg Bool.false_ne_true, hfind,
    if_neg (List.ne_nil_of_mem hcompared)] at hids
  dsimp only at hids
  rw [if_pos (List.any_eq_true.mpr ⟨column, hcompared, hdiffers⟩)] at hids
  cases hids
  rfl

/-- Rewriting a row is covered if its manufacturer and address stay, or its manufacturers before and
after are both scheduled. -/
theorem covers_updateRow (hconsistent : tables.inventory.Consistent) {previous row : Chassis}
    (hprevious : previous ∈ tables.inventory.chassis) (hpk : row.pk = previous.pk)
    {keys : List DiscoveryKey}
    (h : row.manufacturer.pk = previous.manufacturer.pk ∧ row.ip = previous.ip ∨
      inventoryDiscovery previous.manufacturer.pk ∈ keys ∧
        inventoryDiscovery row.manufacturer.pk ∈ keys) :
    Covers tables { tables with inventory := tables.inventory.updateRow row } keys := by
  have hafter : ∀ other, other ∈ (tables.inventory.updateRow row).chassis ↔
      other = row ∨ other ∈ tables.inventory.chassis ∧ other.pk ≠ row.pk := by
    intro other
    rw [Inventory.updateRow_chassis, mem_replaceRow]
    exact or_congr_left (and_iff_left ⟨previous, hprevious, hpk.symm⟩)
  have hbefore : ∀ other, other ∈ tables.inventory.chassis ↔
      other = previous ∨ other ∈ tables.inventory.chassis ∧ other.pk ≠ row.pk := by
    intro other
    constructor
    · intro hother
      by_cases heq : other.pk = row.pk
      · exact .inl (hconsistent.pk_unique.eq hother hprevious (heq.trans hpk))
      · exact .inr ⟨hother, heq⟩
    · rintro (rfl | ⟨hother, -⟩)
      · exact hprevious
      · exact hother
  refine covers_inventory fun pk manufacturerId ip => ?_
  have hiff : (previous.pk = pk ∧ previous.manufacturer.pk = manufacturerId ∧ previous.ip = ip ↔
      row.pk = pk ∧ row.manufacturer.pk = manufacturerId ∧ row.ip = ip) ∨
        inventoryDiscovery manufacturerId ∈ keys := by
    rcases h with ⟨howner, hip⟩ | ⟨hprevious, hrow⟩
    · rw [hpk, howner, hip]
      exact .inl .rfl
    · by_cases hold : previous.manufacturer.pk = manufacturerId
      · exact .inr (hold ▸ hprevious)
      · by_cases hnew : row.manufacturer.pk = manufacturerId
        · exact .inr (hnew ▸ hrow)
        · exact .inl ⟨fun h => absurd h.2.1 hold, fun h => absurd h.2.1 hnew⟩
  refine hiff.imp_left fun hiff => ⟨?_, ?_⟩
  · rintro ⟨other, hother, hmatch⟩
    rcases (hbefore other).mp hother with rfl | hother
    · exact ⟨row, (hafter row).mpr (.inl rfl), hiff.mp hmatch⟩
    · exact ⟨other, (hafter other).mpr (.inr hother), hmatch⟩
  · rintro ⟨other, hother, hmatch⟩
    rcases (hafter other).mp hother with rfl | hother
    · exact ⟨previous, hprevious, hiff.mpr hmatch⟩
    · exact ⟨other, hother.1, hmatch⟩

theorem covers_saveChassis {now : Time} {chassis saved : Chassis} {inventory : Inventory}
    {written : Option (List Column)} {ids : List Nat} (hconsistent : tables.inventory.Consistent)
    (hok : saveChassis now tables.inventory chassis written = .ok (inventory, saved))
    (hids : ChassisDiscoveryScheduleService.affectedManufacturerIds tables.inventory chassis false
      written = .ok ids) :
    Covers tables { tables with inventory } (ids.map inventoryDiscovery) := by
  by_cases hfields : written = some []
  · rw [saveChassis, if_pos hfields] at hok
    cases hok
    exact covers_inventory fun _ _ _ => .inl .rfl
  obtain ⟨previous, derived, hfind, -, hstep, -, -, rfl⟩ := (saveChassis_eq_ok hfields).mp hok
  have hprevious := Inventory.find_mem hfind
  obtain ⟨isOnline, on, off, uptime, heq⟩ := hstep.written (written.getD Column.all)
  have hpk : (saved.writeTo (written.getD Column.all ++ derived) previous).pk = previous.pk := rfl
  refine covers_updateRow hconsistent hprevious hpk ?_
  rw [heq, withLifecycle_manufacturer, withLifecycle_ip]
  by_cases hsame :
      (chassis.writeTo (written.getD Column.all) previous).manufacturer.pk =
        previous.manufacturer.pk ∧
      (chassis.writeTo (written.getD Column.all) previous).ip = previous.ip
  · exact .inl hsame
  · right
    rw [affectedManufacturerIds_of_changed hfind (hconsistent.ip_stored previous hprevious) hids
      (not_and_or.mp hsame)]
    constructor
    · exact List.mem_map_of_mem (mem_sortedSet.mpr List.mem_cons_self)
    · apply List.mem_map_of_mem
      rw [mem_sortedSet, writeTo_manufacturer]
      split
      next => exact List.mem_cons_of_mem _ (List.mem_singleton_self _)
      next => exact List.mem_cons_self

/-- Deleted rows are covered if their manufacturers are scheduled. -/
theorem covers_filter {p : Chassis → Bool} {keys : List DiscoveryKey}
    (h : ∀ row ∈ tables.inventory.chassis, p row = false →
      inventoryDiscovery row.manufacturer.pk ∈ keys) :
    Covers tables { tables with
      inventory := { tables.inventory with chassis := tables.inventory.chassis.filter p } }
      keys := by
  refine covers_inventory fun pk manufacturerId ip => ?_
  by_cases hkey : inventoryDiscovery manufacturerId ∈ keys
  · exact .inr hkey
  refine .inl ⟨?_, ?_⟩
  · rintro ⟨row, hrow, hpk, howner, hip⟩
    refine ⟨row, List.mem_filter.mpr ⟨hrow, ?_⟩, hpk, howner, hip⟩
    by_contra hdeleted
    exact hkey (howner ▸ h row hrow (Bool.eq_false_iff.mpr hdeleted))
  · rintro ⟨row, hrow, hrest⟩
    exact ⟨row, (List.mem_filter.mp hrow).1, hrest⟩

theorem mem_handleChassisBulkDelete {chassisList : List Chassis} {manufacturerId : Nat} :
    inventoryDiscovery manufacturerId ∈ handleChassisBulkDelete chassisList ↔
      ∃ chassis ∈ chassisList, chassis.manufacturer.pk = manufacturerId := by
  have hinjective : Function.Injective inventoryDiscovery := fun _ _ h => (DiscoveryKey.mk.inj h).1
  rw [handleChassisBulkDelete, List.mem_map_of_injective hinjective, mem_sortedSet, List.mem_map]

end Chassis

section Entries

variable {tables : DiscoveryTables} {source : ScanSource}

/-- A change of one registry table is covered if the manufacturer of every entry that comes or goes is
scheduled. -/
theorem covers_setEntries {rows : List RegistryEntry} {keys : List DiscoveryKey}
    (hgone : ∀ row ∈ tables.entries source, row ∉ rows →
      registryDiscovery row.manufacturerId ∈ keys)
    (hnew : ∀ row ∈ rows, row ∉ tables.entries source →
      registryDiscovery row.manufacturerId ∈ keys) :
    Covers tables (tables.setEntries rows source) keys := by
  constructor
  · intro pk manufacturerId ip
    rw [DiscoveryTables.HasChassis, DiscoveryTables.HasChassis,
      DiscoveryTables.setEntries_inventory]
    exact .inl .rfl
  · intro other manufacturerId value
    rw [DiscoveryTables.HasEntry, DiscoveryTables.HasEntry, DiscoveryTables.entries_setEntries]
    split
    next heq =>
      subst heq
      by_cases hkey : registryDiscovery manufacturerId ∈ keys
      · exact .inr hkey
      refine .inl ⟨?_, ?_⟩
      · rintro ⟨row, hrow, howner, hvalue⟩
        refine ⟨row, by_contra fun hmissing => hkey ?_, howner, hvalue⟩
        exact howner ▸ hgone row hrow hmissing
      · rintro ⟨row, hrow, howner, hvalue⟩
        refine ⟨row, by_contra fun hmissing => hkey ?_, howner, hvalue⟩
        exact howner ▸ hnew row hrow hmissing
    next => exact .inl .rfl

theorem mem_registryEntryChanged {entry : RegistryEntry} (h : entry.manufacturerId ≠ 0) :
    registryDiscovery entry.manufacturerId ∈ registryEntryChanged entry := by
  rw [registryEntryChanged, if_neg h]
  exact List.mem_singleton_self _

theorem covers_saveEntry {entry : RegistryEntry} (hzero : entry.manufacturerId ≠ 0)
    (howner : ∀ row ∈ tables.entries source, row.pk = entry.pk →
      row.manufacturerId = entry.manufacturerId) (written : List EntryColumn) :
    Covers tables (tables.setEntries ((tables.entries source).map fun row =>
        if row.pk = entry.pk then entry.writeTo written row else row) source)
      (registryEntryChanged entry) := by
  refine covers_setEntries (fun row hrow hgone => ?_) fun row hrow hnew => ?_
  · by_cases hpk : row.pk = entry.pk
    · rw [howner row hrow hpk]
      exact mem_registryEntryChanged hzero
    · refine absurd (List.mem_map.mpr ⟨row, hrow, ?_⟩) hgone
      exact if_neg hpk
  · obtain ⟨old, hold, rfl⟩ := List.mem_map.mp hrow
    by_cases hpk : old.pk = entry.pk
    · have hsame : (entry.writeTo written old).manufacturerId = entry.manufacturerId := by
        rw [RegistryEntry.writeTo, howner old hold hpk]
        exact ite_self _
      rw [if_pos hpk, hsame]
      exact mem_registryEntryChanged hzero
    · rw [if_neg hpk] at hnew
      exact absurd hold hnew

theorem covers_insertEntry {entry : RegistryEntry} (hzero : entry.manufacturerId ≠ 0) :
    Covers tables (tables.setEntries (tables.entries source ++ [entry]) source)
      (registryEntryChanged entry) := by
  refine covers_setEntries (fun row hrow hgone => ?_) fun row hrow hnew => ?_
  · exact absurd (List.mem_append_left _ hrow) hgone
  · rcases List.mem_append.mp hrow with hrow | hrow
    · exact absurd hrow hnew
    · rw [List.mem_singleton.mp hrow]
      exact mem_registryEntryChanged hzero

theorem covers_deleteEntry {entry : RegistryEntry} (hzero : entry.manufacturerId ≠ 0)
    (howner : ∀ row ∈ tables.entries source, row.pk = entry.pk →
      row.manufacturerId = entry.manufacturerId) :
    Covers tables
      (tables.setEntries ((tables.entries source).filter fun row => row.pk ≠ entry.pk) source)
      (registryEntryChanged entry) := by
  refine covers_setEntries (fun row hrow hgone => ?_) fun row hrow hnew => ?_
  · by_cases hpk : row.pk = entry.pk
    · rw [howner row hrow hpk]
      exact mem_registryEntryChanged hzero
    · exact absurd (List.mem_filter.mpr ⟨hrow, decide_eq_true hpk⟩) hgone
  · exact absurd (List.mem_filter.mp hrow).1 hnew

end Entries

theorem liftWrite_eq_ok {α : Type} {x : Except SaveError α} {a : α} :
    liftWrite x = .ok a ↔ x = .ok a := by
  cases x <;> simp [liftWrite]

theorem Inventory.Consistent.filter {db : Inventory} (h : db.Consistent) (p : Chassis → Bool) :
    Inventory.Consistent { db with chassis := db.chassis.filter p } where
  pk_unique := h.pk_unique.sublist (List.filter_sublist.map _)
  pk_lt row hrow := h.pk_lt row (List.mem_filter.mp hrow).1
  ip_stored row hrow := h.ip_stored row (List.mem_filter.mp hrow).1
  ip_unique := h.ip_unique.sublist (List.filter_sublist.map _)
  api_unique := h.api_unique.sublist (List.filter_sublist.map _)

namespace LifecycleWrite

variable {tables after : DiscoveryTables} {keys scheduled : List DiscoveryKey}

theorem consistent_tables {write : LifecycleWrite} (h : tables.inventory.Consistent)
    (hok : write.apply tables = .ok (after, keys)) : after.inventory.Consistent := by
  cases write with
  | writeChassis write =>
      simp only [apply, bind_eq_ok, liftWrite_eq_ok, Prod.exists, Except.ok.injEq,
        Prod.mk.injEq] at hok
      obtain ⟨inventory, saved, hwrite, ids, -, rfl, -⟩ := hok
      exact consistent_apply h hwrite
  | deleteChassis chassis =>
      cases hok
      exact h.filter _
  | deleteChassisQueryset pks =>
      cases hok
      exact h.filter _
  | createEntry source entry =>
      simp only [apply] at hok
      split at hok
      next => cases hok
      next =>
        cases hok
        rwa [DiscoveryTables.setEntries_inventory]
  | saveEntry source entry written =>
      simp only [apply] at hok
      split at hok
      next =>
        cases hok
        exact h
      next =>
        split at hok
        next =>
          cases hok
          rwa [DiscoveryTables.setEntries_inventory]
        next =>
          split at hok
          next =>
            cases hok
            rwa [DiscoveryTables.setEntries_inventory]
          next => cases hok
  | deleteEntry source entry =>
      cases hok
      rwa [DiscoveryTables.setEntries_inventory]

/-- A write whose hooks know what it changes schedules what it changes. -/
theorem covers_apply {write : LifecycleWrite} (h : tables.inventory.Consistent)
    (hknows : write.KnowsOwner tables) (hok : write.apply tables = .ok (after, keys)) :
    Covers tables after keys := by
  cases write with
  | writeChassis write =>
      simp only [apply, bind_eq_ok, liftWrite_eq_ok, Prod.exists, Except.ok.injEq,
        Prod.mk.injEq] at hok
      obtain ⟨inventory, saved, hwrite, ids, hids, rfl, rfl⟩ := hok
      cases write with
      | create now chassis =>
          cases hids
          exact covers_createChassis hwrite
      | save now chassis written => exact covers_saveChassis h hwrite hids
  | deleteChassis chassis =>
      cases hok
      refine covers_filter fun row hrow hdeleted => ?_
      rw [mem_handleChassisBulkDelete]
      exact ⟨chassis, List.mem_singleton_self _, (hknows row hrow (by simpa using hdeleted)).symm⟩
  | deleteChassisQueryset pks =>
      cases hok
      refine covers_filter fun row hrow hdeleted => ?_
      rw [mem_handleChassisBulkDelete]
      exact ⟨row, List.mem_filter.mpr ⟨hrow, by simpa using hdeleted⟩, rfl⟩
  | createEntry source entry =>
      simp only [apply] at hok
      split at hok
      next => cases hok
      next =>
        cases hok
        exact covers_insertEntry hknows
  | saveEntry source entry written =>
      simp only [apply] at hok
      split at hok
      next =>
        cases hok
        exact .refl _
      next =>
        split at hok
        next =>
          cases hok
          exact covers_saveEntry hknows.1 hknows.2 _
        next =>
          split at hok
          next =>
            cases hok
            exact covers_insertEntry hknows.1
          next => cases hok
  | deleteEntry source entry =>
      cases source with
      | cidr =>
          cases hok
          refine covers_setEntries (fun row hrow hgone => ?_) fun row hrow hnew => ?_
          · exact absurd (List.mem_filter.mpr ⟨hrow, decide_eq_true (hknows row hrow)⟩) hgone
          · exact absurd (List.mem_filter.mp hrow).1 hnew
      | fqdn =>
          cases hok
          exact covers_deleteEntry hknows.1 hknows.2

theorem covers_run {writes : List LifecycleWrite} (h : tables.inventory.Consistent)
    (hknows : AllKnowOwner writes tables) (hrun : run writes tables = .ok (after, scheduled)) :
    Covers tables after scheduled ∧ after.inventory.Consistent := by
  induction writes generalizing tables scheduled with
  | nil =>
      cases hrun
      exact ⟨.refl _, h⟩
  | cons write rest ih =>
      simp only [run, bind_eq_ok, Prod.exists, Except.ok.injEq, Prod.mk.injEq] at hrun
      obtain ⟨middle, keys, happly, _, later, hrest, rfl, rfl⟩ := hrun
      obtain ⟨hcovers, hconsistent⟩ :=
        ih (consistent_tables h happly) (hknows.2 middle keys happly) hrest
      exact ⟨(covers_apply h hknows.1 happly).trans hcovers, hconsistent⟩

end LifecycleWrite

/-! ### What a transaction schedules -/

section Transaction

variable {resolve : String → List String} {before after : DiscoveryTables}
  {scheduled : List DiscoveryKey}

theorem manages_iff {manufacturerId : Nat} {ip : String} (h : Covers before after scheduled)
    (hkey : inventoryDiscovery manufacturerId ∉ scheduled) :
    before.Manages manufacturerId ip ↔ after.Manages manufacturerId ip := by
  have hrows : ∀ pk, before.HasChassis pk manufacturerId ip ↔
      after.HasChassis pk manufacturerId ip := fun pk =>
    (h.chassis pk manufacturerId ip).resolve_right hkey
  constructor
  · rintro ⟨row, hrow, howner, hip⟩
    obtain ⟨other, hother, -, hsame⟩ := (hrows row.pk).mp ⟨row, hrow, rfl, howner, hip⟩
    exact ⟨other, hother, hsame⟩
  · rintro ⟨row, hrow, howner, hip⟩
    obtain ⟨other, hother, -, hsame⟩ := (hrows row.pk).mpr ⟨row, hrow, rfl, howner, hip⟩
    exact ⟨other, hother, hsame⟩

theorem scans_iff {source : ScanSource} {manufacturerId : Nat} {ip : String}
    (h : Covers before after scheduled) (hkey : registryDiscovery manufacturerId ∉ scheduled) :
    before.Scans resolve source manufacturerId ip ↔
      after.Scans resolve source manufacturerId ip := by
  have hrows : ∀ value, before.HasEntry source manufacturerId value ↔
      after.HasEntry source manufacturerId value := fun value =>
    (h.entries source manufacturerId value).resolve_right hkey
  constructor
  · rintro ⟨row, hrow, howner, hip⟩
    obtain ⟨other, hother, hsame, hvalue⟩ := (hrows row.value).mp ⟨row, hrow, howner, rfl⟩
    exact ⟨other, hother, hsame, hvalue ▸ hip⟩
  · rintro ⟨row, hrow, howner, hip⟩
    obtain ⟨other, hother, hsame, hvalue⟩ := (hrows row.value).mpr ⟨row, hrow, howner, rfl⟩
    exact ⟨other, hother, hsame, hvalue ▸ hip⟩

theorem Covers.triggersCover (h : Covers before after scheduled)
    (hbefore : before.inventory.Consistent) (hafter : after.inventory.Consistent) :
    TriggersCover resolve before after scheduled := by
  constructor
  case wanted =>
    intro manufacturerId ip hchanged
    by_cases hregistry : registryDiscovery manufacturerId ∈ scheduled
    · exact ⟨_, hregistry, rfl, fun source _ _ => by cases source <;> rfl⟩
    have hscans : ∀ source other, before.Scans resolve source manufacturerId other ↔
        after.Scans resolve source manufacturerId other := fun _ _ => scans_iff h hregistry
    refine ⟨inventoryDiscovery manufacturerId, ?_, rfl, fun source other hsource =>
      absurd (hscans source other) hsource⟩
    by_contra hinventory
    refine hchanged (or_congr (manages_iff h hinventory) (exists_congr fun source => ?_))
    exact hscans source ip
  case moved =>
    intro row hrow row' hrow' hpk howner
    constructor
    · refine ⟨_, (h.chassis row.pk row.manufacturer.pk row.ip).resolve_left fun hiff => ?_, rfl⟩
      obtain ⟨other, hother, hotherPk, hsame, -⟩ := hiff.mp ⟨row, hrow, rfl, rfl, rfl⟩
      rw [hafter.pk_unique.eq hother hrow' (hotherPk.trans hpk)] at hsame
      exact howner hsame.symm
    · refine ⟨_, (h.chassis row'.pk row'.manufacturer.pk row'.ip).resolve_left fun hiff => ?_, rfl⟩
      obtain ⟨other, hother, hotherPk, hsame, -⟩ := hiff.mpr ⟨row', hrow', rfl, rfl, rfl⟩
      rw [hbefore.pk_unique.eq hother hrow (hotherPk.trans hpk.symm)] at hsame
      exact howner hsame

/-- In a transaction whose hooks know what they change, the scheduled discoveries cover every change of
the wanted addresses. -/
theorem discovery_triggers_cover {writes : List LifecycleWrite}
    (hconsistent : before.inventory.Consistent)
    (hknows : LifecycleWrite.AllKnowOwner writes before)
    (hrun : LifecycleWrite.run writes before = .ok (after, scheduled)) :
    TriggersCover resolve before after scheduled := by
  obtain ⟨hcovers, hafter⟩ := LifecycleWrite.covers_run hconsistent hknows hrun
  exact hcovers.triggersCover hconsistent hafter

theorem scheduled_discoveries_run (scheduled : List DiscoveryKey) (nextSavepoint : Nat)
    (earlier : List CommitCallback) :
    ∃ ran, ((SchedulingProgram.transaction false true
        (scheduled.foldr .schedule .done) false).run
          (SchedulingContext.idle nextSavepoint earlier)).connection.executed = earlier ++ ran ∧
      ran.Nodup ∧ ∀ callback, callback ∈ ran ↔ callback ∈ scheduled.map .discovery := by
  have hcalls : ∀ keys : List DiscoveryKey,
      (keys.foldr SchedulingProgram.schedule .done).requests = keys.map .discovery ∧
        (keys.foldr SchedulingProgram.schedule .done).standing false = keys.map .discovery ∧
        (keys.foldr SchedulingProgram.schedule .done).marksRollback false = false := by
    intro keys
    induction keys with
    | nil => exact ⟨rfl, rfl, rfl⟩
    | cons key keys ih =>
        exact ⟨congrArg _ ih.1, congrArg _ ih.2.1, ih.2.2⟩
  obtain ⟨hrequests, hstanding, hmarked⟩ := hcalls scheduled
  obtain ⟨ran, hexecuted, hnodup, hrequested, hran⟩ := SchedulingProgram.runsOnCommit_transaction
    true false (scheduled.foldr .schedule .done) nextSavepoint earlier
  rw [hstanding, SchedulingProgram.commits, hmarked] at hran
  rw [hrequests] at hrequested
  exact ⟨ran, hexecuted, hnodup, fun callback => ⟨hrequested callback, hran rfl callback⟩⟩

end Transaction

/-- A manufacturer with a range of two hosts. -/
def rangeTables : DiscoveryTables where
  inventory := .empty
  cidrs := [⟨1, 1, "10.0.0.5/30"⟩]
  fqdns := []

/-- Deleting the range schedules nothing. -/
theorem cidr_deletion_not_covered :
    rangeTables.inventory.Consistent ∧ ∃ after,
      LifecycleWrite.run [.deleteEntry .cidr ⟨1, 1, "10.0.0.5/30"⟩] rangeTables =
        .ok (after, []) ∧ ¬ TriggersCover (fun _ => []) rangeTables after [] := by
  refine ⟨Inventory.consistent_of_chassis_nil rfl, _, rfl, fun h => ?_⟩
  have hhosts : "10.0.0.5" ∈ (networkHosts "10.0.0.5/30").getD [] := by decide +kernel
  have hwanted : rangeTables.Wants (fun _ => []) 1 "10.0.0.5" :=
    .inr ⟨.cidr, _, List.mem_singleton_self _, rfl, hhosts⟩
  obtain ⟨key, hkey, -⟩ := h.wanted 1 "10.0.0.5" fun hiff => by
    rcases hiff.mp hwanted with ⟨row, hrow, -⟩ | ⟨source, row, hrow, -⟩
    · cases hrow
    · cases source <;> cases hrow
  cases hkey

/-- A host name comes and goes, and the range is narrowed. -/
def rangeWrites : List LifecycleWrite :=
  [.createEntry .fqdn ⟨1, 1, "receiver.example"⟩, .saveEntry .cidr ⟨1, 1, "10.0.0.9/32"⟩ none,
    .deleteEntry .fqdn ⟨1, 1, "receiver.example"⟩]

theorem discovery_triggers_cover_rangeTables : ∃ after,
    LifecycleWrite.run rangeWrites rangeTables =
      .ok (after, [registryDiscovery 1, registryDiscovery 1, registryDiscovery 1]) ∧
    TriggersCover (fun _ => []) rangeTables after
      [registryDiscovery 1, registryDiscovery 1, registryDiscovery 1] := by
  obtain ⟨after, hrun⟩ : ∃ after, LifecycleWrite.run rangeWrites rangeTables =
      .ok (after, [registryDiscovery 1, registryDiscovery 1, registryDiscovery 1]) := ⟨_, rfl⟩
  have hknows : LifecycleWrite.AllKnowOwner rangeWrites rangeTables := by
    refine ⟨by decide, fun _ _ h => ?_⟩
    cases h
    refine ⟨by decide, fun _ _ h => ?_⟩
    cases h
    exact ⟨by decide, fun _ _ _ => trivial⟩
  exact ⟨after, hrun, discovery_triggers_cover (Inventory.consistent_of_chassis_nil rfl) hknows hrun⟩

end Micboard
