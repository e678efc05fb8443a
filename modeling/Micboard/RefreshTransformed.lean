import Micboard.RefreshPaths

/-! The refreshes that go through a vendor's transformer. It puts the label of the model in the
place of a missing name, `unknown` in that of a missing type and an empty text in that of a missing
address or firmware version. A poll writes all of this; the synchronization falls back on what is
stored where the text is empty, but not on the name. -/

namespace Micboard

open Library Library.Text DevicePromotionService WirelessChassisPersistenceService

section Transform

variable {catalog : VendorCatalog} {raw supplied : JsonObject}

/-- The identified model of a device whose type is mapped. -/
def identityOf (catalog : VendorCatalog) (raw : JsonObject) (type : String) : DeviceModel where
  model :=
    if (raw.getAlias "model_name" "modelName" .null).isTruthy then
      (raw.getAlias "model_name" "modelName" .null).str
    else lookupText catalog.fallbackModel type "Unknown"
  type
  firmware := ((raw.getAlias "firmware_version" "firmwareVersion" .null).orElse (.text "")).str

theorem identifyDeviceModel_eq_some {identity : DeviceModel} :
    identifyDeviceModel catalog raw = some identity ↔
      ∃ type, mapDeviceType catalog ((raw.get "type").orElse (.text "unknown")) = some type ∧
        identity = identityOf catalog raw type := by
  unfold identifyDeviceModel
  simp only [Option.bind_eq_bind, Option.bind_eq_some_iff, Option.some.injEq]
  constructor
  · rintro ⟨type, htype, rfl⟩
    exact ⟨type, htype, rfl⟩
  · rintro ⟨type, htype, rfl⟩
    exact ⟨type, htype, rfl⟩

def addressValue (raw : JsonObject) : JsonValue :=
  (raw.get "ip").orElse ((raw.get "ip_address").orElse ((raw.get "ipAddress").orElse (.text "")))

/-- The name that is read, or the label in its place. -/
def nameValue (raw : JsonObject) (label : String) : JsonValue :=
  (raw.get "name").orElse ((raw.get "device_name").orElse ((raw.get "deviceName").orElse (.text label)))

/-- The dictionary that a transformer makes of a payload with an identified model. -/
def vendorFields (raw : JsonObject) (identity : DeviceModel) : VendorPayload :=
  [("api_device_id", (raw.get "id").toPyValue),
    ("ip", (addressValue raw).toPyValue),
    ("type", .text identity.type),
    ("name", (nameValue raw identity.model).toPyValue),
    ("firmware", .text identity.firmware),
    ("serial", (raw.getAlias "serial_number" "serialNumber" .null).toPyValue),
    ("hostname", (raw.get "hostname").toPyValue),
    ("mac_address", (raw.getAlias "mac_address" "macAddress" .null).toPyValue),
    ("model_variant", (raw.getAlias "model_variant" "modelVariant" .null).toPyValue),
    ("band", (raw.getAlias "frequency_band" "frequencyBand" .null).toPyValue),
    ("location", (raw.get "location").toPyValue)]

theorem transformedFields_eq_some {data : VendorPayload} :
    transformedFields catalog raw = some data ↔ (raw.get "id").isTruthy = true ∧
      (∃ channels, transformChannels (raw.getD "channels" (.array [] "[]")) = some channels) ∧
      ∃ identity, identifyDeviceModel catalog raw = some identity ∧
        data = vendorFields raw identity := by
  unfold transformedFields transformDeviceData
  cases hid : (raw.get "id").isTruthy with
  | false => simp [hid]
  | true =>
      simp only [hid, Bool.not_true, Bool.false_eq_true, if_false, Option.bind_eq_bind,
        Option.map_eq_some_iff, Option.bind_eq_some_iff, Option.some.injEq, true_and]
      constructor
      · rintro ⟨device, ⟨identity, hidentity, channels, hchannels, rfl⟩, rfl⟩
        exact ⟨⟨channels, hchannels⟩, identity, hidentity, rfl⟩
      · rintro ⟨⟨channels, hchannels⟩, identity, hidentity, rfl⟩
        exact ⟨_, ⟨identity, hidentity, channels, hchannels, rfl⟩, rfl⟩

theorem transformedName_eq {identity : DeviceModel}
    (h : identifyDeviceModel catalog raw = some identity) :
    transformedName catalog raw = (nameValue raw identity.model).str := by
  rw [transformedName, h]
  rfl

/-- The code points of white space. -/
def spaceCodes : List Nat :=
  [9, 10, 11, 12, 13, 28, 29, 30, 31, 32, 0x85, 0xA0, 0x1680, 0x2000, 0x2001, 0x2002,
    0x2003, 0x2004, 0x2005,
    0x2006, 0x2007, 0x2008, 0x2009, 0x200A, 0x2028, 0x2029, 0x202F, 0x205F, 0x3000]

theorem mem_spaceCodes {c : Char} (h : isSpace c = true) : c.toNat ∈ spaceCodes := by
  simp only [isSpace, Bool.or_eq_true, Bool.and_eq_true, decide_eq_true_eq, beq_iff_eq] at h
  simp only [spaceCodes, List.mem_cons, List.not_mem_nil, or_false]
  omega

theorem upperChar_of_isSpace {c : Char} (h : isSpace c = true) : upperChar c = [c] := by
  have hall : spaceCodes.Forall fun n => upperChar (Char.ofNat n) = [Char.ofNat n] := by decide +kernel
  have hc := List.forall_iff_forall_mem.mp hall c.toNat (mem_spaceCodes h)
  rwa [Char.ofNat_toNat] at hc

theorem catalogKey_of_blank {text : String} (h : trim text = "") :
    ∀ c ∈ (catalogKey text).toList, c = '_' ∨ isSpace c = true := by
  have hspace := isSpace_of_trim h
  intro c hc
  rw [catalogKey, String.toList_ofList, List.mem_map] at hc
  obtain ⟨upper, hupper, rfl⟩ := hc
  obtain ⟨original, horiginal, hupper⟩ := List.mem_flatMap.mp hupper
  rw [upperChar_of_isSpace (hspace original horiginal), List.mem_singleton] at hupper
  subst hupper
  split
  next => exact .inl rfl
  next => exact .inr (hspace upper horiginal)

theorem typeMap_letters (vendor : Vendor) : vendor.catalog.typeMap.Forall fun item =>
    ∃ c, item.1.toList.head? = some c ∧ c ≠ '_' ∧ isSpace c = false := by
  cases vendor <;>
    simp [Vendor.catalog, shureCatalog, sennheiserCatalog, List.Forall] <;> decide +kernel

theorem lookupText_of_blank (vendor : Vendor) {text : String} (h : trim text = "") :
    lookupText vendor.catalog.typeMap (catalogKey text) "unknown" = "unknown" := by
  have hnone : (vendor.catalog.typeMap.find? fun item => item.1 = catalogKey text) = none := by
    rw [List.find?_eq_none]
    intro item hitem
    rw [decide_eq_true_eq]
    intro heq
    obtain ⟨c, hhead, hunderscore, hspace⟩ :=
      List.forall_iff_forall_mem.mp (typeMap_letters vendor) item hitem
    rw [heq] at hhead
    rcases catalogKey_of_blank h c (List.mem_of_head? hhead) with rfl | hspace'
    · exact hunderscore rfl
    · rw [hspace] at hspace'
      cases hspace'
  rw [lookupText, hnone]
  rfl

theorem mapDeviceType_of_blank (vendor : Vendor) {value : JsonValue} (h : value.IsBlank) :
    mapDeviceType vendor.catalog (value.orElse (.text "unknown")) = some "unknown" := by
  have hunknown : mapDeviceType vendor.catalog (.text "unknown") = some "unknown" := by
    cases vendor <;> decide +kernel
  cases value with
  | null => exact hunknown
  | text text =>
      rw [JsonValue.text_orElse]
      split
      next => exact hunknown
      next hne =>
        rw [mapDeviceType]
        split
        next => rfl
        next => exact congrArg some (lookupText_of_blank vendor h)
  | bool | number | array | object => cases h

end Transform

/-! ### The poll -/

section Polled

variable {now : Time} {manufacturer : Manufacturer} {db db' : Inventory} {raw supplied : JsonObject}
  {pk : Nat}

theorem requiredText_eq_ok_iff {field text : String} {value : JsonValue} :
    requiredText field value.toPyValue = .ok text ↔ ∃ raw, value = .text raw ∧ text = trim raw := by
  cases value with
  | text raw => simp [requiredText, optionalText, JsonValue.toPyValue, eq_comm]
  | null | bool | number | array | object => simp [requiredText, optionalText, JsonValue.toPyValue]

/-- The identifier of a polled device, as its payload gives it. -/
def polledId (raw : JsonObject) : String :=
  polledApiDeviceId [("api_device_id", (raw.get "id").toPyValue)]

theorem polledApiDeviceId_vendorFields (identity : DeviceModel) :
    polledApiDeviceId (vendorFields raw identity) = polledId raw := by
  simp [polledId, polledApiDeviceId, vendorFields, VendorPayload.get, VendorPayload.getD]

/-- The instance that a poll saves, which keeps its address as it was typed. -/
def polledInstance (now : Time) (row : Chassis) (catalog : VendorCatalog) (raw : JsonObject)
    (type ip name : String) : Chassis :=
  row.polled now (trim ip) (trim type) (trim name) (trim (identityOf catalog raw type).firmware)

/-- **A poll updates a chassis** exactly when its payload is transformed, names the chassis and has
a free address, and its name is text. -/
theorem updatePolled_eq_some {catalog : VendorCatalog} (hdb : db.Consistent) :
    updatePolled now manufacturer db catalog raw = some (db', pk) ↔
      (raw.get "id").isTruthy = true ∧
      (∃ channels, transformChannels (raw.getD "channels" (.array [] "[]")) = some channels) ∧
      ∃ type row ip name, mapDeviceType catalog
        ((raw.get "type").orElse (.text "unknown")) = some type ∧
        db.getApiId manufacturer (polledId raw) = .ok (some row) ∧ row.pk = pk ∧ polledId raw ≠ "" ∧
        addressValue raw = .text ip ∧ nameValue raw (identityOf catalog raw type).model = .text name ∧
        OwnableAddress db (trim ip) ∧ trim ip ≠ "" ∧
          db.violatesUnique (row.storedAt (trim ip)) = false ∧
        db' = (reconcileChassisLifecycle now (db.updateRow
            (row.polled now (getPrepValue (trim ip)) (trim type) (trim name)
              (trim (identityOf catalog raw type).firmware)))
          (polledInstance now row catalog raw type ip name) false).1 := by
  have hvalues : ∀ identity : DeviceModel,
      (vendorFields raw identity).getD "ip" (.text "") = (addressValue raw).toPyValue ∧
      (vendorFields raw identity).getD "type"
      (.text "unknown") = (JsonValue.text identity.type).toPyValue ∧
      (vendorFields raw identity).getD "name" (.text "") = (nameValue raw identity.model).toPyValue ∧
      (vendorFields raw identity).getD "firmware" (.text "") =
        (JsonValue.text identity.firmware).toPyValue := by
    intro identity
    simp [vendorFields, VendorPayload.getD, JsonValue.toPyValue]
  constructor
  · intro h
    unfold updatePolled at h
    cases hdata : transformedFields catalog raw with
    | none =>
        rw [hdata] at h
        cases h
    | some data =>
        rw [hdata] at h
        obtain ⟨hid, hchannels, identity, hidentity, rfl⟩ := transformedFields_eq_some.mp hdata
        obtain ⟨type, htype, rfl⟩ := identifyDeviceModel_eq_some.mp hidentity
        refine ⟨hid, hchannels, type, ?_⟩
        dsimp only at h
        cases hupsert : upsertPolled now db manufacturer
            (vendorFields raw (identityOf catalog raw type)) with
        | error e =>
            rw [hupsert] at h
            cases h
        | ok upserted =>
            obtain ⟨mid, chassis, created⟩ := upserted
            rw [hupsert] at h
            obtain ⟨found, hfound⟩ := upsertPolled_getApiId hupsert
            cases found with
            | none =>
                obtain ⟨rfl, -⟩ := upsertPolled_unstored hfound hupsert
                cases h
            | some row =>
                obtain ⟨hne, rfl, ip, model, name, firmware, hip, hmodel, hname, hfirmware, hownable,
                  hipne, hunique, rfl, rfl⟩ := (upsertPolled_stored_eq_ok hdb hfound).mp hupsert
                obtain ⟨hipValue, htypeValue, hnameValue, hfirmwareValue⟩ :=
                  hvalues (identityOf catalog raw type)
                rw [hipValue] at hip
                rw [htypeValue] at hmodel
                rw [hnameValue] at hname
                rw [hfirmwareValue] at hfirmware
                obtain ⟨ipText, hipText, rfl⟩ := requiredText_eq_ok_iff.mp hip
                obtain ⟨nameText, hnameText, rfl⟩ := requiredText_eq_ok_iff.mp hname
                obtain ⟨_, ⟨rfl⟩, rfl⟩ := requiredText_eq_ok_iff.mp hmodel
                obtain ⟨_, ⟨rfl⟩, rfl⟩ := requiredText_eq_ok_iff.mp hfirmware
                rw [polledApiDeviceId_vendorFields] at hfound hne
                obtain ⟨rfl, rfl⟩ := Prod.mk.inj (Option.some.inj h)
                exact ⟨row, ipText, nameText, htype, hfound, rfl, hne, hipText, hnameText, hownable,
                  hipne, hunique, rfl⟩
  · rintro ⟨hid, hchannels, type, row, ip, name, htype, hfound, rfl, hne, hip, hname, hownable, hipne,
      hunique, rfl⟩
    have hdata : transformedFields catalog raw = some
        (vendorFields raw (identityOf catalog raw type)) :=
      transformedFields_eq_some.mpr
        ⟨hid, hchannels, _, identifyDeviceModel_eq_some.mpr ⟨type, htype, rfl⟩,
        rfl⟩
    obtain ⟨hipValue, htypeValue, hnameValue, hfirmwareValue⟩ := hvalues (identityOf catalog raw type)
    rw [← polledApiDeviceId_vendorFields (identityOf catalog raw type)] at hfound hne
    have hupsert : upsertPolled now db manufacturer (vendorFields raw (identityOf catalog raw type)) =
        .ok (db.updateRow (row.polled now (getPrepValue (trim ip)) (trim type) (trim name)
          (trim (identityOf catalog raw type).firmware)),
          polledInstance now row catalog raw type ip name, false) :=
      (upsertPolled_stored_eq_ok hdb hfound).mpr
      ⟨hne, rfl, trim ip, trim type, trim name, trim (identityOf catalog raw type).firmware,
        by rw [hipValue]; exact requiredText_eq_ok_iff.mpr ⟨ip, hip, rfl⟩,
        by rw [htypeValue]; rfl,
        by rw [hnameValue]; exact requiredText_eq_ok_iff.mpr ⟨name, hname, rfl⟩,
        by rw [hfirmwareValue]; rfl, hownable, hipne, hunique, rfl, rfl⟩
    unfold updatePolled
    rw [hdata]
    dsimp only
    rw [hupsert]
    rfl

theorem addressValue_eq (raw : JsonObject) : addressValue raw =
    (["ip", "ip_address", "ipAddress"].map raw.get).foldr JsonValue.orElse (.text "") := rfl

/-- An absent address is read as a text of which nothing is left. -/
theorem addressValue_blank (h : ∀ key ∈ transformedKeys .ip, (raw.get key).IsBlank) :
    ∃ text, addressValue raw = .text text ∧ trim text = "" := by
  rw [addressValue_eq]
  obtain ⟨text, htext, hblank⟩ := JsonValue.orElse_blank (List.forall_mem_map.mpr h) ""
  refine ⟨text, htext, ?_⟩
  rcases hblank with hblank | rfl
  · exact hblank
  · exact trim_empty

/-- An absent firmware version is read as a text of which nothing is left. -/
theorem firmware_blank {catalog : VendorCatalog} {type : String}
    (h : ∀ key ∈ transformedKeys .firmware, (raw.get key).IsBlank) :
    trim (identityOf catalog raw type).firmware = "" := by
  have hvalue : (raw.getAlias "firmware_version" "firmwareVersion" .null).IsBlank := by
    have hfirst := h "firmware_version" (by decide)
    have hsecond := h "firmwareVersion" (by decide)
    rw [JsonObject.getAlias, JsonObject.getD]
    rw [JsonObject.get, JsonObject.getD] at hfirst
    cases hfind : (raw.find? fun item => item.1 = "firmware_version").map Prod.snd with
    | none => exact hsecond
    | some value =>
        rw [hfind] at hfirst
        exact hfirst
  obtain ⟨text, htext, hblank⟩ := JsonValue.orElse_blank (List.forall_mem_singleton.mpr hvalue) ""
  have hfirmware : (identityOf catalog raw type).firmware = text :=
    congrArg JsonValue.str (show (raw.getAlias "firmware_version" "firmwareVersion" .null).orElse
      (.text "") = .text text from htext)
  rw [hfirmware]
  rcases hblank with hblank | rfl
  · exact hblank
  · exact trim_empty

theorem polled_absent_iff {vendor : Vendor} {column : RefreshedColumn} :
    (RefreshPath.polled vendor).Absent raw column ↔
      ∀ key ∈ transformedKeys column, (raw.get key).IsBlank :=
  and_iff_left fun _ _ h => by cases h

theorem synced_absent_iff {vendor : Vendor} {index : Option DeviceIdentityIndex}
    {column : RefreshedColumn} :
    (RefreshPath.synced vendor index).Absent raw column ↔
      ∀ key ∈ transformedKeys column, (raw.get key).IsBlank :=
  and_iff_left fun _ _ h => by cases h

/-- What a transformer reads of a payload that was supplied with what is absent. -/
structure ReadsLike (raw supplied : JsonObject) : Prop where
  other : ∀ key, (∀ column, key ∉ transformedKeys column) → supplied.lookup key = raw.lookup key
  present : ∀ column, ¬(∀ key ∈ transformedKeys column, (raw.get key).IsBlank) →
    ∀ key ∈ transformedKeys column, supplied.lookup key = raw.lookup key

theorem RefreshPath.Supplies.readsLike_polled {vendor : Vendor}
    (h : (RefreshPath.polled vendor).Supplies raw supplied) : ReadsLike raw supplied where
  other _ hkey := h.lookup_eq hkey
  present _ hcolumn _ hkey := h.lookup_present (fun habsent => hcolumn habsent.1) hkey

theorem RefreshPath.Supplies.readsLike_synced {vendor : Vendor} {index : Option DeviceIdentityIndex}
    (h : (RefreshPath.synced vendor index).Supplies raw supplied) : ReadsLike raw supplied where
  other _ hkey := h.lookup_eq hkey
  present _ hcolumn _ hkey := h.lookup_present (fun habsent => hcolumn habsent.1) hkey

namespace ReadsLike

theorem getD_eq (h : ReadsLike raw supplied) {key : String}
    (hkey : ∀ column, key ∉ transformedKeys column) (default : JsonValue) :
    raw.getD key default = supplied.getD key default :=
  (JsonObject.getD_congr (h.other key hkey) default).symm

theorem map_get_eq (h : ReadsLike raw supplied) {column : RefreshedColumn}
    (hpresent : ¬∀ key ∈ transformedKeys column, (raw.get key).IsBlank) :
    (transformedKeys column).map raw.get = (transformedKeys column).map supplied.get :=
  List.map_congr_left fun key hkey => (JsonObject.get_congr (h.present column hpresent key hkey)).symm

theorem addressValue_eq (h : ReadsLike raw supplied)
    (hip : ¬∀ key ∈ transformedKeys .ip, (raw.get key).IsBlank) :
    addressValue raw = addressValue supplied :=
  congrArg (List.foldr JsonValue.orElse (.text "")) (h.map_get_eq hip)

theorem mapDeviceType (h : ReadsLike raw supplied) (vendor : Vendor) {type' : String}
    (htype : mapDeviceType vendor.catalog
      ((supplied.get "type").orElse (.text "unknown")) = some type') :
    ∃ type, Micboard.mapDeviceType vendor.catalog
      ((raw.get "type").orElse (.text "unknown")) = some type ∧
      ((∀ key ∈ transformedKeys .model, (raw.get key).IsBlank) → type = "unknown") := by
  by_cases habsent : ∀ key ∈ transformedKeys .model, (raw.get key).IsBlank
  · exact ⟨"unknown", mapDeviceType_of_blank vendor (habsent "type" (by decide)), fun _ => rfl⟩
  · refine ⟨type', ?_, fun h => absurd h habsent⟩
    rw [← JsonObject.get_congr (h.present .model habsent "type" (by decide))]
    exact htype

theorem nameValue (h : ReadsLike raw supplied) {label' name' : String}
    (hname : nameValue supplied label' = .text name') (label : String) :
    ∃ name, Micboard.nameValue raw label = .text name := by
  by_cases habsent : ∀ key ∈ transformedKeys .name, (raw.get key).IsBlank
  · obtain ⟨name, hname, -⟩ := JsonValue.orElse_blank (List.forall_mem_map.mpr habsent) label
    exact ⟨name, hname⟩
  · have hvalues := congrArg (List.foldr JsonValue.orElse (.text label')) (h.map_get_eq habsent)
    exact JsonValue.orElse_text ⟨name', hvalues.trans hname⟩ label

end ReadsLike

theorem Inventory.profile_eq_some {profile : Profile} :
    db.profile pk = some profile ↔ ∃ row, db.find pk = some row ∧ row.profile = profile :=
  Option.map_eq_some_iff

theorem polled_profile (now : Time) {row polled : Chassis} (hdb : db.Consistent)
    (hrow : row ∈ db.chassis)
    (hpk : polled.pk = row.pk) (ip model name firmware : String) :
    (reconcileChassisLifecycle now (db.updateRow (row.polled now ip model name firmware)) polled
      false).1.profile row.pk = some ⟨name, model, row.role, firmware⟩ := by
  have hrewrites : Rewrites db (db.updateRow (row.polled now ip model name firmware)) row
      (row.polled now ip model name firmware) :=
    ⟨hdb.find_eq_some.mpr ⟨hrow, rfl⟩, rfl, rfl⟩
  rw [← hpk, reconcileChassisLifecycle_profile, hpk]
  exact hrewrites.profile.2

theorem polledInstance_pk (now : Time) (row : Chassis) (catalog : VendorCatalog) (raw : JsonObject)
    (type ip name : String) :
    (polledInstance now row catalog raw type ip name).pk = row.pk := by
  rw [polledInstance, Chassis.polled]

/-- **Polls.** A payload without an address is refused; any other overwrites a missing name, type and
firmware version. -/
theorem polled_nonDestructive_iff {vendor : Vendor} {tables : HardwareTables} {row : Chassis}
    (hdb : tables.inventory.Consistent) (hrow : row ∈ tables.inventory.chassis)
    (h : Refreshable (.polled vendor) now manufacturer tables row raw) :
    NonDestructive (.polled vendor) now manufacturer tables row raw ↔
      ∀ column, (RefreshPath.polled vendor).Absent raw column →
        (RefreshPath.polled vendor).Harmless tables row raw column := by
  obtain ⟨supplied, suppliedTables, hsupplies, hrefresh⟩ := h
  have hreads := hsupplies.readsLike_polled
  obtain ⟨⟨_, _⟩, hupdate, hresult⟩ := Option.map_eq_some_iff.mp hrefresh
  obtain ⟨-, rfl⟩ := Prod.mk.inj hresult
  obtain ⟨hid, hchannels, type', row₀, ip, name', htype', hfound, hpk, hne, hip, hname',
      hownable, hipne,
    hunique, -⟩ := (updatePolled_eq_some hdb).mp hupdate
  obtain rfl : row₀ = row := by
    have hresolves := resolves_apiId hdb.pk_unique.nodup manufacturer (polledId supplied)
    rw [hfound] at hresolves
    exact hdb.pk_unique.eq hresolves.1 hrow hpk
  apply nonDestructive_iff
  · -- Without an address the upsert is refused.
    intro habsent tables' hrefused
    obtain ⟨⟨_, _⟩, hupdate, -⟩ := Option.map_eq_some_iff.mp hrefused
    obtain ⟨-, -, _, _, ip', _, -, -, -, -, hip', -, -, hipne', -⟩ :=
      (updatePolled_eq_some hdb).mp hupdate
    obtain ⟨text, htext, hblank⟩ := addressValue_blank (polled_absent_iff.mp habsent)
    rw [htext] at hip'
    obtain rfl := JsonValue.text.inj hip'
    exact hipne' hblank
  · intro hpresent
    have haddress := hreads.addressValue_eq (fun h => hpresent (polled_absent_iff.mpr h))
    have hidEq : raw.get "id" = supplied.get "id" :=
      hreads.getD_eq (by intro column; cases column <;> decide) .null
    have hpolledId : polledId raw = polledId supplied := by rw [polledId, polledId, hidEq]
    have hchannelsEq : raw.getD "channels" (.array [] "[]") = supplied.getD "channels"
        (.array [] "[]") :=
      hreads.getD_eq (by intro column; cases column <;> decide) _
    obtain ⟨type, htype, hunknown⟩ := hreads.mapDeviceType vendor htype'
    obtain ⟨name, hname⟩ := hreads.nameValue hname' (identityOf vendor.catalog raw type).model
    rw [← hidEq] at hid
    rw [← hpolledId] at hfound hne
    rw [← hchannelsEq] at hchannels
    have hprofile := polled_profile now hdb hrow
      (polledInstance_pk now row₀ vendor.catalog raw type ip name)
      (getPrepValue (trim ip)) (trim type) (trim name)
      (trim (identityOf vendor.catalog raw type).firmware)
    have hupdated : updatePolled now manufacturer tables.inventory vendor.catalog raw =
        some (_, row₀.pk) :=
      (updatePolled_eq_some hdb).mpr ⟨hid, hchannels, type, row₀, ip, name, htype, hfound, rfl, hne,
        haddress.trans hip, hname, hownable, hipne, hunique, rfl⟩
    generalize (reconcileChassisLifecycle now _ _ false).1 = db' at hupdated hprofile
    obtain ⟨row', hrow', hprofile⟩ := Inventory.profile_eq_some.mp hprofile
    obtain ⟨hrowName, hrowModel, hrowRole, hrowFirmware⟩ := Profile.mk.inj hprofile
    refine ⟨tables.withInventory db', row', by rw [RefreshPath.refresh, hupdated]; rfl, hrow', ?_⟩
    intro column hcolumn habsent
    have hblank := polled_absent_iff.mp habsent
    cases column with
    | ip => exact absurd rfl hcolumn
    | location => exact iff_of_true rfl trivial
    | role => exact iff_of_true hrowRole trivial
    | name =>
        have hread := transformedName_eq (identifyDeviceModel_eq_some.mpr ⟨type, htype, rfl⟩)
        rw [hname] at hread
        show row'.name = row₀.name ↔ row₀.name = trim (transformedName vendor.catalog raw)
        rw [hrowName, hread, eq_comm]
        rfl
    | model =>
        show row'.model = row₀.model ↔ row₀.model = "unknown"
        rw [hrowModel, hunknown hblank, eq_comm, show trim "unknown" = "unknown" by decide +kernel]
    | firmware =>
        show row'.firmwareVersion = row₀.firmwareVersion ↔ row₀.firmwareVersion = ""
        rw [hrowFirmware, firmware_blank hblank, eq_comm]

end Polled

end Micboard
