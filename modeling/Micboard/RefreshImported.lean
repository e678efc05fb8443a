import Mathlib.Data.List.Infix
import Micboard.RefreshSynced

/-! The import as a refresh, and the refreshes together. An import writes a model, a role and a
location whether its payload says them or not. -/

namespace Micboard

open Library Library.Text DevicePromotionService WirelessChassisPersistenceService ImportService

section Read

variable {tenancy : Tenancy} {location : Option Nat} {raw supplied : JsonObject}

/-- A text without a letter that a part starts with does not contain it. -/
theorem containsText_eq_false {text part : List Char} {c : Char} (hpart : part.head? = some c)
    (hc : c ∉ text) : containsText text part = false := by
  rw [containsText, List.any_eq_false]
  intro rest hrest hprefix
  obtain ⟨tail, rfl⟩ : ∃ tail, part = c :: tail := List.head?_eq_some_iff.mp hpart
  obtain ⟨more, rfl⟩ := List.isPrefixOf_iff_prefix.mp hprefix
  have hmem : c ∈ c :: tail ++ more := by simp
  exact hc (((List.mem_tails _ _).mp hrest).subset hmem)

theorem toLower_of_isSpace {c : Char} (h : isSpace c = true) : c.toLower = c := by
  have hall : spaceCodes.Forall fun n => (Char.ofNat n).toLower = Char.ofNat n := by decide +kernel
  have hc := List.forall_iff_forall_mem.mp hall c.toNat (mem_spaceCodes h)
  rwa [Char.ofNat_toNat] at hc

theorem roleForDeviceType_of_blank {text : String} (h : trim text = "") :
    roleForDeviceType text = "receiver" := by
  have hspace := isSpace_of_trim h
  have hletter : 't' ∉ text.toList.map Char.toLower := by
    intro hmem
    obtain ⟨c, hc, hlower⟩ := List.mem_map.mp hmem
    rw [toLower_of_isSpace (hspace c hc)] at hlower
    have hblank := hspace c hc
    rw [hlower] at hblank
    exact absurd hblank (by decide)
  unfold roleForDeviceType
  dsimp only
  rw [containsText_eq_false (by decide) hletter, containsText_eq_false (by decide) hletter]
  rfl

theorem imported_absent_iff {column : RefreshedColumn} (hcolumn : column ≠ .location) :
    (RefreshPath.imported tenancy location).Absent raw column ↔
      ∀ key ∈ importedKeys column, (raw.get key).IsBlank :=
  and_iff_left fun _ _ _ => hcolumn

/-- An absent type is read as that of a receiver. -/
theorem role_of_blank (h : ∀ key ∈ importedKeys .role, (raw.get key).IsBlank) :
    ImportService.role raw = "receiver" := by
  have hblank := h "type" (by decide)
  unfold ImportService.role
  rw [JsonObject.get, JsonObject.getD] at hblank
  rw [JsonObject.getD]
  cases hfind : (raw.find? fun item => item.1 = "type").map Prod.snd with
  | none => decide
  | some value =>
      rw [hfind] at hblank
      cases value with
      | null => decide
      | text text => exact roleForDeviceType_of_blank hblank
      | bool | number | array | object => cases hblank

/-- An absent address is read as none. -/
theorem importedIp_of_blank (h : ∀ key ∈ importedKeys .ip, (raw.get key).IsBlank) :
    ImportService.ip raw = "" := by
  have hfirst := h "ip" (by decide)
  have hsecond := h "ipAddress" (by decide)
  have hvalue : ((raw.get "ip").orElse (raw.get "ipAddress")).IsBlank := by
    rw [JsonValue.orElse]
    split
    next => exact hfirst
    next => exact hsecond
  unfold ImportService.ip
  cases hread : (raw.get "ip").orElse (raw.get "ipAddress") with
  | null => rfl
  | text text =>
      rw [hread] at hvalue
      exact strip_eq_empty_of_trim hvalue
  | bool | number | array | object =>
      rw [hread] at hvalue
      cases hvalue

theorem model_eq (raw : JsonObject) : ImportService.model raw =
    ((raw.get "model").orElse (raw.get "deviceType")).orElse (.text "Unknown") := rfl

theorem model_of_blank (h : ∀ key ∈ importedKeys .model, (raw.get key).IsBlank) :
    ∃ text, ImportService.model raw = .text text := by
  have hvalue : ((raw.get "model").orElse (raw.get "deviceType")).IsBlank := by
    rw [JsonValue.orElse]
    split
    next => exact h "model" (by decide)
    next => exact h "deviceType" (by decide)
  obtain ⟨text, htext, -⟩ := JsonValue.orElse_blank (List.forall_mem_singleton.mpr hvalue) "Unknown"
  exact ⟨text, htext⟩

theorem RefreshPath.Supplies.sameDevice
    (h : (RefreshPath.imported tenancy location).Supplies raw supplied)
    (hip : ¬(RefreshPath.imported tenancy location).Absent raw .ip) : SameDevice raw supplied := by
  have hother : ∀ key, (∀ column, key ∉ importedKeys column) → raw.get key = supplied.get key :=
    fun key hkey => (JsonObject.get_congr (h.lookup_eq hkey)).symm
  have hnone : ∀ key ∈ ["serial", "serialNumber", "id", "deviceId", "mac", "macAddress", "state"],
      ∀ column, key ∉ importedKeys column := by
    intro key hmem column
    revert key hmem
    cases column <;> decide
  have hpresent : ∀ key ∈ importedKeys .ip, raw.get key = supplied.get key :=
    fun key hkey => (JsonObject.get_congr (h.lookup_present hip hkey)).symm
  constructor
  · unfold ImportService.serialNumber
    rw [hother _ (hnone "serial" (by decide)), hother _ (hnone "serialNumber" (by decide))]
  · unfold ImportService.ip
    rw [hpresent "ip" (by decide), hpresent "ipAddress" (by decide)]
  · unfold ImportService.apiDeviceId
    rw [hother _ (hnone "id" (by decide)), hother _ (hnone "deviceId" (by decide))]
  · unfold ImportService.macAddress
    rw [hother _ (hnone "mac" (by decide)), hother _ (hnone "macAddress" (by decide))]
  · unfold ImportService.status
    rw [hother _ (hnone "state" (by decide))]

theorem RefreshPath.Supplies.validatedModel {text' : String}
    (h : (RefreshPath.imported tenancy location).Supplies raw supplied)
    (hmodel : ImportService.validatedModel (ImportService.model supplied) = .ok text') :
    ∃ text, ImportService.model raw = .text text := by
  by_cases habsent : (RefreshPath.imported tenancy location).Absent raw .model
  · exact model_of_blank habsent.1
  · have hpresent : ∀ key ∈ importedKeys .model, raw.get key = supplied.get key :=
      fun key hkey => (JsonObject.get_congr (h.lookup_present habsent hkey)).symm
    rw [model_eq, hpresent "model" (by decide), hpresent "deviceType" (by decide), ← model_eq]
    cases hvalue : ImportService.model supplied with
    | text text => exact ⟨text, rfl⟩
    | null | bool | number | array | object =>
        rw [hvalue] at hmodel
        cases hmodel

end Read

section Imported

variable {now : Time} {manufacturer : Manufacturer} {tables tables' : HardwareTables} {row : Chassis}
  {tenancy : Tenancy} {location : Option Nat} {raw : JsonObject} {pk : Nat}

theorem updateImported_eq_some :
    updateImported now manufacturer tables tenancy location raw = some (tables', pk) ↔
      importDevice tenancy now tables raw manufacturer location false = .ok (tables', .updated pk) := by
  unfold updateImported
  constructor
  · intro h
    split at h
    next himport =>
      obtain ⟨rfl, rfl⟩ := Prod.mk.inj (Option.some.inj h)
      exact himport
    next => cases h
    next => cases h
    next => cases h
  · intro h
    rw [h]

theorem checkImported_mem (hdb : tables.inventory.Consistent) {result : DeduplicationResult}
    {existing : Chassis} (hcheck : checkImported tables raw manufacturer = .ok result)
    (hconflict : result.outcome ≠ .conflict) (hexisting : result.existingDevice = some existing) :
    existing ∈ tables.inventory.chassis := by
  have hok := liftIdentity_eq_ok.mp (liftImport_eq_ok.mp hcheck)
  have hresolved : result.resolvedDevice = some existing := by
    cases result with
    | conflict => exact absurd rfl hconflict
    | new => cases hexisting
    | moved | duplicate => exact hexisting
  exact ((checkDevice_resolves_iff hdb _ _ _ _ _).mp ⟨result, hok, hresolved⟩).1

/-- **Imports.** A payload without an address is skipped; any other overwrites a missing model, type and
location. -/
theorem imported_nonDestructive_iff (hdb : tables.inventory.Consistent)
    (hrow : row ∈ tables.inventory.chassis)
    (h : Refreshable (.imported tenancy location) now manufacturer tables row raw) :
    NonDestructive (.imported tenancy location) now manufacturer tables row raw ↔
      ∀ column, (RefreshPath.imported tenancy location).Absent raw column →
        (RefreshPath.imported tenancy location).Harmless tables row raw column := by
  obtain ⟨supplied, suppliedTables, hsupplies, hrefresh⟩ := h
  obtain ⟨hserial, hip, hapi, result, chassis, hcheck, hconflict, hexisting, howner, hpk, himport⟩ :=
    importDevice_updated_iff.mp (updateImported_eq_some.mp hrefresh)
  obtain rfl := hdb.pk_unique.eq (checkImported_mem hdb hcheck hconflict hexisting) hrow hpk
  have hfind : tables.inventory.find chassis.pk = some chassis := hdb.find_eq_some.mpr ⟨hrow, rfl⟩
  apply nonDestructive_iff
  · -- Without an address the device is skipped.
    intro habsent tables' hrefused
    obtain ⟨-, hip, -⟩ := importDevice_updated_iff.mp (updateImported_eq_some.mp hrefused)
    have hcolumn : RefreshedColumn.ip ≠ .location := by decide
    exact hip (importedIp_of_blank ((imported_absent_iff hcolumn).mp habsent))
  · intro hpresent
    have hsame := hsupplies.sameDevice hpresent
    obtain ⟨_, hvalidated, -⟩ := importExisting_profile hfind himport
    obtain ⟨model, hmodel⟩ := hsupplies.validatedModel hvalidated
    have hvalid : validatedModel (ImportService.model raw) = .ok (trim model) := by
      rw [hmodel]
      rfl
    obtain ⟨imported, himported⟩ := importExisting_succeeds hsame ⟨_, hvalid⟩ ⟨_, himport⟩
    have hchecked : checkImported tables raw manufacturer = .ok result := by
      rw [← hcheck, checkImported, checkImported, hsame.serialNumber, hsame.macAddress, hsame.ip,
        hsame.apiDeviceId]
    have hupdated : updateImported now manufacturer tables tenancy location raw =
        some (imported, chassis.pk) := by
      rw [updateImported_eq_some, importDevice_updated_iff, hsame.serialNumber, hsame.ip,
        hsame.apiDeviceId]
      exact ⟨hserial, hip, hapi, result, chassis, hchecked, hconflict, hexisting,
        howner, rfl, himported⟩
    obtain ⟨text, htext, hstored, hlocation⟩ := importExisting_profile hfind himported
    obtain rfl := Except.ok.inj (hvalid.symm.trans htext)
    obtain ⟨row', hrow', hprofile⟩ := Inventory.profile_eq_some.mp hstored
    obtain ⟨hname, hwritten, hrole, hfirmware⟩ := Profile.mk.inj hprofile
    refine ⟨imported, row', hupdated, hrow', ?_⟩
    intro column hcolumn habsent
    cases column with
    | ip => exact absurd rfl hcolumn
    | name => exact iff_of_true hname trivial
    | firmware => exact iff_of_true hfirmware trivial
    | location =>
        have hnone : location = none := by
          cases location with
          | none => rfl
          | some location => exact absurd rfl (habsent.2 tenancy location rfl)
        show imported.location chassis.pk = tables.location chassis.pk ↔
            tables.location chassis.pk = none
        rw [hlocation, hnone, eq_comm]
    | model =>
        show row'.model = chassis.model ↔ chassis.model = trim (ImportService.model raw).str
        rw [hwritten, hmodel, trim_trim, eq_comm]
        rfl
    | role =>
        have hcolumn : RefreshedColumn.role ≠ .location := by decide
        show row'.role = chassis.role ↔ chassis.role = "receiver"
        rw [hrole, role_of_blank ((imported_absent_iff hcolumn).mp habsent), eq_comm,
          show trim "receiver" = "receiver" by decide +kernel]

end Imported

/-! ### The refreshes together -/

/-- A synchronization that holds an index is at some step of a batch. -/
def RefreshPath.Arises (path : RefreshPath) (manufacturer : Manufacturer) (db : Inventory) : Prop :=
  ∀ vendor index, path = .synced vendor (some index) → ∃ now initial payloads built,
    ∃ (seen : List NormalizedHardware) (run : SyncRun), initial.Consistent ∧
      DeviceIdentityIndex.build initial payloads manufacturer = .ok built ∧
      seen.foldlM (syncStep now manufacturer) (.start initial built) = .ok run ∧
      run.toSyncState = ⟨db, some index⟩

section Paths

variable {path : RefreshPath} {now : Time} {manufacturer : Manufacturer} {tables : HardwareTables}
  {row : Chassis} {raw : JsonObject}

theorem RefreshPath.Arises.seesProfiles {db : Inventory} (h : path.Arises manufacturer db) :
    path.SeesProfiles db := by
  intro vendor index hpath
  obtain ⟨now, initial, payloads, built, seen, run, hinitial, hbuild, hrun, hstate⟩ :=
    h vendor index hpath
  have hkeys := hbuild
  unfold DeviceIdentityIndex.build at hkeys
  obtain ⟨keys, hkeys, -⟩ := bind_eq_ok.mp hkeys
  obtain ⟨reached, hreached, -, hprofiles⟩ := indexProfiles_run hinitial hkeys hbuild hrun
  obtain ⟨rfl, hindex⟩ := SyncState.mk.inj hstate
  obtain rfl := Option.some.inj (hindex.symm.trans hreached)
  exact hprofiles

/-- **A refresh destroys nothing exactly when its payload has an address and what it writes for the
absent values is what is stored.** -/
theorem refresh_nonDestructive_iff (hdb : tables.inventory.Consistent)
    (hrow : row ∈ tables.inventory.chassis) (harises : path.Arises manufacturer tables.inventory)
    (h : Refreshable path now manufacturer tables row raw) :
    NonDestructive path now manufacturer tables row raw ↔
      ∀ column, path.Absent raw column → path.Harmless tables row raw column := by
  cases path with
  | polled vendor => exact polled_nonDestructive_iff hdb hrow h
  | synced vendor index => exact synced_nonDestructive_iff hdb hrow harises.seesProfiles h
  | imported tenancy location => exact imported_nonDestructive_iff hdb hrow h

end Paths

/-- A receiver with the name that an operator gave it, and no known firmware version. -/
def rackReceiver : Chassis := { storedReceiver with name := "Rack 1", model := "ulxd" }

def rackTables : HardwareTables where
  inventory := { chassis := [rackReceiver], chargers := [], nextPk := 2 }
  location := fun _ => none

theorem rackTables_consistent : rackTables.inventory.Consistent where
  pk_unique := by decide
  pk_lt := by decide
  ip_stored := by decide
  ip_unique := by decide
  api_unique := by decide

/-- A realtime event with everything but a firmware version and a location. -/
def namedEvent : JsonObject :=
  [("id", .text "dev-1"), ("ip", .text "10.0.0.1"), ("type", .text "ULXD"), ("name", .text "Rack 1")]

/-- A realtime event with nothing but the identifier and the address. -/
def partialEvent : JsonObject := [("id", .text "dev-1"), ("ip", .text "10.0.0.1")]

theorem rackReceiver_refreshable {event : JsonObject}
    (hupdated : ((RefreshPath.polled .shure).refresh 0 shure rackTables event).map Prod.snd = some 1) :
    Refreshable (.polled .shure) 0 shure rackTables rackReceiver event := by
  obtain ⟨⟨tables', pk⟩, hrefresh, rfl⟩ := Option.map_eq_some_iff.mp hupdated
  exact ⟨event, tables', fun _ _ => rfl, hrefresh⟩

theorem refresh_nonDestructive_iff_namedEvent :
    NonDestructive (.polled .shure) 0 shure rackTables rackReceiver namedEvent := by
  refine (refresh_nonDestructive_iff rackTables_consistent List.mem_cons_self
    (fun _ _ h => by cases h) (rackReceiver_refreshable (by decide +kernel))).mpr ?_
  rintro column ⟨hblank, -⟩
  cases column with
  | name =>
      have hname : trim "Rack 1" = "" := hblank "name" (by decide)
      exact absurd hname (by decide)
  | model =>
      have htype : trim "ULXD" = "" := hblank "type" (by decide)
      exact absurd htype (by decide)
  | ip =>
      have hip : trim "10.0.0.1" = "" := hblank "ip" (by decide)
      exact absurd hip (by decide)
  | firmware => exact show rackReceiver.firmwareVersion = "" from rfl
  | role | location => trivial

/-- A partial event overwrites the name of the receiver. -/
theorem partial_event_overwrites_name :
    ¬ ∀ path now manufacturer (tables : HardwareTables) row raw, tables.inventory.Consistent →
      row ∈ tables.inventory.chassis → RefreshPath.Arises path manufacturer tables.inventory →
      Refreshable path now manufacturer tables row raw →
      NonDestructive path now manufacturer tables row raw := by
  intro hclaim
  obtain ⟨tables', row', hrefresh, hfind, hkeeps⟩ :=
    hclaim (.polled .shure) 0 shure rackTables rackReceiver
    partialEvent rackTables_consistent List.mem_cons_self (fun _ _ h => by cases h)
    (rackReceiver_refreshable (by decide +kernel))
  have hname : row'.name = "Rack 1" := by
    refine hkeeps .name ⟨?_, fun _ _ h => by cases h⟩
    intro key hkey
    have hall : (transformedKeys .name).Forall fun key => partialEvent.lookup key = none := by decide
    have hnone := List.forall_iff_forall_mem.mp hall key hkey
    have hget : partialEvent.get key = (none : Option JsonValue).getD .null :=
      congrArg (fun value : Option JsonValue => value.getD .null) hnone
    rw [hget]
    trivial
  have hwritten : ((RefreshPath.polled .shure).refresh 0 shure rackTables partialEvent).bind
      (fun updated => (updated.1.inventory.find 1).map Chassis.name) = some "Unknown" := by
        decide +kernel
  have hstored : tables'.inventory.find 1 = some row' := hfind
  rw [hrefresh, Option.bind_some, hstored, Option.map_some, hname] at hwritten
  exact absurd hwritten (by decide)

end Micboard
