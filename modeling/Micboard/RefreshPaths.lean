import Micboard.DevicePromotion
import Micboard.ImportEffect
import Micboard.SyncProfile

/-! The paths that refresh a stored chassis from a vendor payload: the upsert of a poll or a
realtime event, the inventory synchronization, and the import. Each reads the columns of a chassis
under keys of its own, and any of them may be absent from a payload, or blank. A refresh is not
destructive when it succeeds as it would with the absent values supplied, and keeps what is stored
of them. -/

namespace Micboard

open Library Library.Text DevicePromotionService

/-- A value that says nothing: none, or a text of white space. -/
def JsonValue.IsBlank : JsonValue → Prop
  | .null => True
  | .text value => trim value = ""
  | .bool _ | .number _ _ | .array _ _ | .object _ _ => False

/-- `data[key]`, if the key is present. -/
def JsonObject.lookup (data : JsonObject) (key : String) : Option JsonValue :=
  (data.find? fun item => item.1 = key).map Prod.snd

/-- The stored values that a refresh is about. -/
inductive RefreshedColumn where
  | name | model | role | firmware | ip | location
  deriving DecidableEq, Repr

inductive Vendor where
  | shure | sennheiser
  deriving DecidableEq, Repr

def Vendor.catalog : Vendor → VendorCatalog
  | shure => shureCatalog
  | sennheiser => sennheiserCatalog

/-- A way to refresh a chassis: through a vendor's transformer by a poll or a realtime event,
through it by a step of the inventory synchronization with its running index, or by an import for a
location. -/
inductive RefreshPath where
  | polled (vendor : Vendor)
  | synced (vendor : Vendor) (identityIndex : Option DeviceIdentityIndex)
  | imported (tenancy : Tenancy) (location : Option Nat)

/-- The keys under which the transformers read the values. -/
def transformedKeys : RefreshedColumn → List String
  | .name => ["name", "device_name", "deviceName"]
  | .model | .role => ["type"]
  | .firmware => ["firmware_version", "firmwareVersion"]
  | .ip => ["ip", "ip_address", "ipAddress"]
  | .location => ["location"]

/-- The keys under which an import reads them; it reads neither a name nor a firmware version. -/
def importedKeys : RefreshedColumn → List String
  | .model => ["model", "deviceType"]
  | .role => ["type"]
  | .ip => ["ip", "ipAddress"]
  | .name | .firmware | .location => []

def RefreshPath.keys : RefreshPath → RefreshedColumn → List String
  | .polled _ | .synced _ _ => transformedKeys
  | .imported _ _ => importedKeys

/-- The payload says nothing of a value, and for the location of an import, nor does its caller. -/
def RefreshPath.Absent (path : RefreshPath) (raw : JsonObject) (column : RefreshedColumn) : Prop :=
  (∀ key ∈ path.keys column, (raw.get key).IsBlank) ∧
    ∀ tenancy location, path = .imported tenancy (some location) → column ≠ .location

/-- The payload is supplied with values that are absent, and otherwise the same. -/
def RefreshPath.Supplies (path : RefreshPath) (raw supplied : JsonObject) : Prop :=
  ∀ key, (∀ column, path.Absent raw column → key ∉ path.keys column) →
    supplied.lookup key = raw.lookup key

section Refresh

variable (now : Time) (manufacturer : Manufacturer)

/-- The update of a stored chassis from one polled or pushed payload, with the chassis that was
updated. -/
def updatePolled (db : Inventory) (catalog : VendorCatalog) (raw : JsonObject) :
    Option (Inventory × Nat) :=
  match transformedFields catalog raw with
  | none => none
  | some data =>
    match upsertPolled now db manufacturer data with
    | .ok (db, chassis, false) => some ((reconcileChassisLifecycle now db chassis false).1, chassis.pk)
    | .ok (_, _, true) | .error _ => none

/-- The update of a stored chassis in one step of a synchronization. -/
def updateSynced (state : SyncState) (catalog : VendorCatalog) (raw : JsonObject) :
    Option (Inventory × Nat) :=
  match normalizeDevices (transformedFields catalog) [raw] with
  | .ok (payload :: _) =>
    match checkPayload manufacturer state payload,
      syncNormalizedDevice now manufacturer state payload with
    | .ok result, .ok (state, some .updated) =>
      result.resolvedDevice.map fun existing => (state.inventory, existing.pk)
    | _, _ => none
  | .ok [] | .error _ => none

/-- The update of a stored chassis by an import. -/
def updateImported (tables : HardwareTables) (tenancy : Tenancy) (location : Option Nat)
    (raw : JsonObject) : Option (HardwareTables × Nat) :=
  match ImportService.importDevice tenancy now tables raw manufacturer location false with
  | .ok (tables, .updated pk) => some (tables, pk)
  | .ok (_, .skipped) | .ok (_, .created) | .error _ => none

def HardwareTables.withInventory (tables : HardwareTables) (inventory : Inventory) : HardwareTables :=
  { tables with inventory }

/-- The tables after a payload was handled, and the stored chassis that it updated; nothing where it was
skipped or refused, or created a chassis. -/
def RefreshPath.refresh (tables : HardwareTables) (raw : JsonObject) :
    RefreshPath → Option (HardwareTables × Nat)
  | .polled vendor =>
    (updatePolled now manufacturer tables.inventory vendor.catalog raw).map fun updated =>
      (tables.withInventory updated.1, updated.2)
  | .synced vendor identityIndex =>
    (updateSynced now manufacturer ⟨tables.inventory, identityIndex⟩ vendor.catalog raw).map
    fun updated =>
      (tables.withInventory updated.1, updated.2)
  | .imported tenancy location => updateImported now manufacturer tables tenancy location raw

end Refresh

theorem updatePolled_pollDevice {now : Time} {manufacturer : Manufacturer} {run : PollRun}
    {catalog : VendorCatalog} {raw : JsonObject} {data : VendorPayload} {db : Inventory} {pk : Nat}
    (hdata : transformedFields catalog raw = some data) (hne : data ≠ [])
    (h : updatePolled now manufacturer run.inventory catalog raw = some (db, pk))
    (channelsUpdated : Bool) :
    (pollDevice now manufacturer run ⟨data, channelsUpdated⟩).inventory = db := by
  rw [updatePolled, hdata] at h
  dsimp only at h
  unfold pollDevice
  rw [if_neg hne]
  dsimp only
  cases hupsert : upsertPolled now run.inventory manufacturer data with
  | error e =>
      rw [hupsert] at h
      cases h
  | ok upserted =>
      obtain ⟨mid, chassis, created⟩ := upserted
      rw [hupsert] at h
      cases created with
      | true => cases h
      | false =>
          obtain ⟨rfl, -⟩ := Prod.mk.inj (Option.some.inj h)
          dsimp only
          cases hreconcile : reconcileChassisLifecycle now mid chassis false with
          | mk reconciled outcome => cases outcome <;> rfl

section Property

variable (path : RefreshPath) (now : Time) (manufacturer : Manufacturer) (tables : HardwareTables)
  (row : Chassis) (raw : JsonObject)

/-- What is stored of a chassis did not change. -/
def KeepsColumn (tables' : HardwareTables) (row' : Chassis) : RefreshedColumn → Prop
  | .name => row'.name = row.name
  | .model => row'.model = row.model
  | .role => row'.role = row.role
  | .firmware => row'.firmwareVersion = row.firmwareVersion
  | .ip => row'.ip = row.ip
  | .location => tables'.location row.pk = tables.location row.pk

/-- The payload updates the chassis, and what it does not say is kept. -/
def NonDestructive : Prop :=
  ∃ tables' row', path.refresh now manufacturer tables raw = some (tables', row.pk) ∧
    tables'.inventory.find row.pk = some row' ∧
    ∀ column, path.Absent raw column → KeepsColumn tables row tables' row' column

/-- Supplied with what is absent, the payload would update the chassis. -/
def Refreshable : Prop :=
  ∃ supplied tables', path.Supplies raw supplied ∧
    path.refresh now manufacturer tables supplied = some (tables', row.pk)

/-- The instance that a synchronization has of a chassis holds the stored profile. -/
def RefreshPath.SeesProfiles (path : RefreshPath) (db : Inventory) : Prop :=
  ∀ vendor index, path = .synced vendor (some index) → IndexProfiles db index

/-- The name that the transformers read, or put in its place: the label of the model. -/
def transformedName (catalog : VendorCatalog) (raw : JsonObject) : String :=
  ((raw.get "name").orElse ((raw.get "device_name").orElse ((raw.get "deviceName").orElse
    (.text (((identifyDeviceModel catalog raw).map DeviceModel.model).getD ""))))).str

/-- What a path writes for an absent value is what is stored. Without an address nothing is written
at all. -/
def RefreshPath.Harmless : RefreshPath → RefreshedColumn → Prop
  | .polled vendor, .name => row.name = trim (transformedName vendor.catalog raw)
  | .polled _, .model => row.model = "unknown"
  | .polled _, .firmware => row.firmwareVersion = ""
  | .synced vendor _, .name =>
    row.name = trim
      (WirelessChassisPersistenceService.textOr (strip (transformedName vendor.catalog raw))
      row.name)
  | .synced _ _, .model => row.model = trim row.model
  | .synced _ _, .role => row.role = trim row.role
  | .synced _ _, .firmware => row.firmwareVersion = trim row.firmwareVersion
  | .imported _ _, .model => row.model = trim (ImportService.model raw).str
  | .imported _ _, .role => row.role = "receiver"
  | .imported _ _, .location => tables.location row.pk = none
  | _, .ip => False
  | _, _ => True

end Property

section Assembly

variable {path : RefreshPath} {now : Time} {manufacturer : Manufacturer} {tables : HardwareTables}
  {row : Chassis} {raw : JsonObject}

/-- A path is harmful exactly where it writes an absent value, when it refuses a payload only for
its absent address. -/
theorem nonDestructive_iff
    (hrefused : path.Absent raw .ip →
      ∀ tables', path.refresh now manufacturer tables raw ≠ some (tables', row.pk))
    (hupdated : ¬path.Absent raw .ip → ∃ tables' row',
      path.refresh now manufacturer tables raw = some (tables', row.pk) ∧
      tables'.inventory.find row.pk = some row' ∧ ∀ column, column ≠ .ip → path.Absent raw column →
        (KeepsColumn tables row tables' row' column ↔ path.Harmless tables row raw column)) :
    NonDestructive path now manufacturer tables row raw ↔
      ∀ column, path.Absent raw column → path.Harmless tables row raw column := by
  by_cases hip : path.Absent raw .ip
  · refine iff_of_false ?_ ?_
    · rintro ⟨tables', row', hrefresh, -⟩
      exact hrefused hip tables' hrefresh
    · intro h
      have hfalse := h .ip hip
      cases path <;> exact hfalse
  · obtain ⟨tables', row', hrefresh, hfind, hkept⟩ := hupdated hip
    have hne : ∀ column, path.Absent raw column → column ≠ .ip := by
      rintro column hcolumn rfl
      exact hip hcolumn
    constructor
    · rintro ⟨tables'', row'', hrefresh', hfind', hall⟩ column hcolumn
      rw [hrefresh] at hrefresh'
      obtain ⟨rfl, -⟩ := Prod.mk.inj (Option.some.inj hrefresh')
      rw [hfind] at hfind'
      obtain rfl := Option.some.inj hfind'
      exact (hkept column (hne column hcolumn) hcolumn).mp (hall column hcolumn)
    · intro h
      exact ⟨tables', row', hrefresh, hfind, fun column hcolumn =>
        (hkept column (hne column hcolumn) hcolumn).mpr (h column hcolumn)⟩

end Assembly

/-! ### Reading what is supplied -/

section Supplied

variable {path : RefreshPath} {raw supplied : JsonObject} {key : String}

theorem transformedKeys_eq {column other : RefreshedColumn} :
    ∀ key ∈ transformedKeys column, key ∈ transformedKeys other →
      transformedKeys column = transformedKeys other := by
  cases column <;> cases other <;> decide

theorem importedKeys_eq {column other : RefreshedColumn} :
    ∀ key ∈ importedKeys column, key ∈ importedKeys other →
      importedKeys column = importedKeys other := by
  cases column <;> cases other <;> decide

theorem RefreshPath.Absent.of_key {column other : RefreshedColumn} (h : path.Absent raw column)
    (hkey : key ∈ path.keys column) (hother : key ∈ path.keys other) : path.Absent raw other := by
  have hkeys : path.keys column = path.keys other := by
    cases path with
    | polled | synced => exact transformedKeys_eq key hkey hother
    | imported => exact importedKeys_eq key hkey hother
  refine ⟨by rw [← hkeys]; exact h.1, ?_⟩
  rintro tenancy location rfl rfl
  cases hother

theorem RefreshPath.Supplies.lookup_eq (h : path.Supplies raw supplied)
    (hkey : ∀ column, key ∉ path.keys column) : supplied.lookup key = raw.lookup key :=
  h key fun column _ => hkey column

theorem RefreshPath.Supplies.lookup_present (h : path.Supplies raw supplied) {column : RefreshedColumn}
    (hcolumn : ¬path.Absent raw column) (hkey : key ∈ path.keys column) :
    supplied.lookup key = raw.lookup key :=
  h key fun _ hother hmem => hcolumn (hother.of_key hmem hkey)

end Supplied

section Values

theorem JsonObject.getD_congr {raw supplied : JsonObject} {key : String}
    (h : supplied.lookup key = raw.lookup key) (default : JsonValue) :
    supplied.getD key default = raw.getD key default := congrArg (Option.getD · default) h

theorem JsonObject.get_congr {raw supplied : JsonObject} {key : String}
    (h : supplied.lookup key = raw.lookup key) : supplied.get key = raw.get key :=
  JsonObject.getD_congr h .null

theorem JsonValue.text_orElse (text : String) (default : JsonValue) :
    (JsonValue.text text).orElse default = if text = "" then default else .text text := by
  by_cases hempty : text = "" <;> simp [JsonValue.orElse, JsonValue.isTruthy, JsonValue.toPyValue,
    PyValue.isTruthy, hempty]

/-- Where all values are blank, a text of white space is read or the default. -/
theorem JsonValue.orElse_blank {values : List JsonValue} (h : ∀ value ∈ values, value.IsBlank)
    (default : String) : ∃ text, values.foldr JsonValue.orElse (.text default) = .text text ∧
      (trim text = "" ∨ text = default) := by
  induction values with
  | nil => exact ⟨default, rfl, .inr rfl⟩
  | cons value rest ih =>
      obtain ⟨hvalue, hrest⟩ := List.forall_mem_cons.mp h
      rw [List.foldr_cons]
      cases value with
      | null => exact ih hrest
      | text text =>
          rw [JsonValue.text_orElse]
          split
          next => exact ih hrest
          next => exact ⟨text, rfl, .inl hvalue⟩
      | bool | number | array | object => cases hvalue

/-- Whether a text is read does not depend on a default that is one. -/
theorem JsonValue.orElse_text {values : List JsonValue} {default : String}
    (h : ∃ text, values.foldr JsonValue.orElse (.text default) = .text text) (other : String) :
    ∃ text, values.foldr JsonValue.orElse (.text other) = .text text := by
  induction values with
  | nil => exact ⟨other, rfl⟩
  | cons value rest ih =>
      rw [List.foldr_cons, JsonValue.orElse] at h ⊢
      split
      next htruthy => rwa [if_pos htruthy] at h
      next htruthy =>
        rw [if_neg htruthy] at h
        exact ih h

end Values

end Micboard
