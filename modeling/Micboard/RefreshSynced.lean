import Micboard.RefreshTransformed

/-! The inventory synchronization as a refresh. It reads the transformed payload once more, into a
normalized one, and falls back on the instance of the chassis where a text is empty. The transformer
leaves the label of the model in the place of a missing name, so that this one never is. -/

namespace Micboard

open Library Library.Text DevicePromotionService WirelessChassisPersistenceService

/-- Two texts that are read from the same value are the same. -/
theorem Reads.unique {value value' : PyValue} {read read' : String} (h : Reads value read)
    (h' : Reads value' read') (heq : value = value') : read = read' := by
  obtain ⟨text, hvalue, rfl⟩ := h
  obtain ⟨text', hvalue', rfl⟩ := h'
  rw [hvalue, hvalue'] at heq
  rw [PyValue.text.inj heq]

theorem VendorPayload.firstOf_congr {data data' : VendorPayload} {keys : List String}
    (h : ∀ key ∈ keys, data.get key = data'.get key) : data.firstOf keys = data'.firstOf keys := by
  induction keys with
  | nil => rfl
  | cons key rest ih =>
      obtain ⟨hkey, hrest⟩ := List.forall_mem_cons.mp h
      show (data.get key).orElse (data.firstOf rest) = (data'.get key).orElse (data'.firstOf rest)
      rw [hkey, ih hrest]

/-- The keys that are read for the profile of a chassis. -/
def profileKeys : List String := ["type", "name", "firmware", "location"]

theorem ReadFrom.sameButProfile {data data' : VendorPayload} {payload payload' : NormalizedHardware}
    (h : ReadFrom data payload) (h' : ReadFrom data' payload')
    (hget : ∀ key ∉ profileKeys, data.get key = data'.get key) : SameButProfile payload payload' := by
  have hfirst : ∀ keys : List String, (∀ key ∈ keys, key ∉ profileKeys) →
      data.firstOf keys = data'.firstOf keys :=
    fun _ hkeys => VendorPayload.firstOf_congr fun key hkey => hget key (hkeys key hkey)
  have hmask := h.subnetMask
  rw [hget _ (by decide), hget _ (by decide), h'.subnetMask] at hmask
  have hgateway := h.gateway
  rw [hget _ (by decide), h'.gateway] at hgateway
  have hmac : data.hardwareAddress = data'.hardwareAddress := hfirst _ (by decide)
  exact ⟨h.apiDeviceId.unique h'.apiDeviceId (hfirst _ (by decide)),
    h.ip.unique h'.ip (hfirst _ (by decide)),
    h.serialNumber.unique h'.serialNumber (hfirst _ (by decide)),
    by rw [h.macAddress, h'.macAddress, hmac],
    h.hostedFirmwareVersion.unique h'.hostedFirmwareVersion (hfirst _ (by decide)),
    h.description.unique h'.description (hfirst _ (by decide)),
    (Except.ok.inj hmask).symm, (Except.ok.inj hgateway).symm,
    h.networkMode.unique h'.networkMode
      (by rw [hget "network_mode" (by decide), hget "networkMode" (by decide)]),
    h.interfaceId.unique h'.interfaceId (hfirst _ (by decide))⟩

section Transformed

variable {catalog : VendorCatalog} {raw supplied : JsonObject} {identity identity' : DeviceModel}
  {payload : NormalizedHardware}

theorem vendorFields_get_eq (h : ReadsLike raw supplied)
    (hip : addressValue raw = addressValue supplied)
    {key : String} (hkey : key ∉ profileKeys) :
    (vendorFields raw identity).get key = (vendorFields supplied identity').get key := by
  have hother : ∀ key, (∀ column, key ∉ transformedKeys column) → ∀ default,
      raw.getD key default = supplied.getD key default := fun key hkey => h.getD_eq hkey
  have hnone : ∀ key ∈ ["id", "serial_number", "serialNumber", "hostname", "mac_address", "macAddress",
      "model_variant", "modelVariant", "frequency_band", "frequencyBand"],
      ∀ column, key ∉ transformedKeys column := by
    intro key hmem column
    revert key hmem
    cases column <;> decide
  simp only [profileKeys, List.mem_cons, List.not_mem_nil, or_false, not_or] at hkey
  obtain ⟨htype, hname, hfirmware, hlocation⟩ := hkey
  have hfields : ∀ data identity, (vendorFields data identity).get key = VendorPayload.get
      [("api_device_id", (data.get "id").toPyValue), ("ip", (addressValue data).toPyValue),
        ("serial", (data.getAlias "serial_number" "serialNumber" .null).toPyValue),
        ("hostname", (data.get "hostname").toPyValue),
        ("mac_address", (data.getAlias "mac_address" "macAddress" .null).toPyValue),
        ("model_variant", (data.getAlias "model_variant" "modelVariant" .null).toPyValue),
        ("band", (data.getAlias "frequency_band" "frequencyBand" .null).toPyValue)] key := by
    intro data identity
    simp [vendorFields, VendorPayload.get, VendorPayload.getD, List.find?_cons,
      Ne.symm htype, Ne.symm hname,
      Ne.symm hfirmware, Ne.symm hlocation]
  rw [hfields, hfields, hip]
  simp only [JsonObject.getAlias, JsonObject.get]
  rw [hother _ (hnone "id" (by decide)), hother _ (hnone "serial_number" (by decide)),
    hother _ (hnone "serialNumber" (by decide)), hother _ (hnone "hostname" (by decide)),
    hother _ (hnone "mac_address" (by decide)), hother _ (hnone "macAddress" (by decide)),
    hother _ (hnone "model_variant" (by decide)), hother _ (hnone "modelVariant" (by decide)),
    hother _ (hnone "frequency_band" (by decide)), hother _ (hnone "frequencyBand" (by decide))]

/-- What a choice falls back on is read as it is. -/
theorem foldr_orElse_text (values : List JsonValue) (label : String) :
    (values.foldr JsonValue.orElse (.text label)).toPyValue.orElse (.text "") =
      (values.foldr JsonValue.orElse (.text label)).toPyValue := by
  induction values with
  | nil =>
      by_cases hempty : label = "" <;>
        simp [JsonValue.toPyValue, PyValue.orElse, PyValue.isTruthy, hempty]
  | cons value rest ih =>
      rw [List.foldr_cons, JsonValue.orElse]
      split
      next htruthy => exact if_pos htruthy
      next => exact ih

theorem vendorFields_name :
    (vendorFields raw identity).firstOf
    ["name", "model"] = (nameValue raw identity.model).toPyValue := by
  have hfirst : (vendorFields raw identity).firstOf ["name", "model"] =
      (nameValue raw identity.model).toPyValue.orElse (.text "") := by
    simp [VendorPayload.firstOf, vendorFields, VendorPayload.get, VendorPayload.getD,
      show PyValue.none.orElse (.text "") = .text "" from rfl]
  rw [hfirst]
  exact foldr_orElse_text (["name", "device_name", "deviceName"].map raw.get) identity.model

theorem vendorFields_ip : (vendorFields raw identity).deviceIp = (addressValue raw).toPyValue := by
  have hfirst : (vendorFields raw identity).deviceIp = (addressValue raw).toPyValue.orElse
      (.text "") := by
    simp [VendorPayload.deviceIp, VendorPayload.firstOf, vendorFields, VendorPayload.get,
      VendorPayload.getD,
      show PyValue.none.orElse (.text "") = .text "" from rfl]
  rw [hfirst]
  exact foldr_orElse_text (["ip", "ip_address", "ipAddress"].map raw.get) ""

theorem vendorFields_firmware :
    (vendorFields raw identity).firstOf ["firmware", "firmware_version", "firmwareVersion"] =
      .text identity.firmware := by
  by_cases hempty : identity.firmware = "" <;>
    simp [VendorPayload.firstOf, vendorFields, VendorPayload.get, VendorPayload.getD, PyValue.orElse,
      PyValue.isTruthy, hempty]

/-- A key that a transformer does not write is read as the empty text. -/
theorem vendorFields_unwritten {key : String} (hkey : key ∈ ["model", "device_type"]) :
    (vendorFields raw identity).firstOf [key] = .text "" := by
  simp only [List.mem_cons, List.not_mem_nil, or_false] at hkey
  rcases hkey with rfl | rfl <;>
    simp [VendorPayload.firstOf, vendorFields, VendorPayload.get, VendorPayload.getD, PyValue.orElse,
      PyValue.isTruthy]

theorem ReadFrom.profile (h : ReadFrom (vendorFields raw identity) payload) :
    (∃ name, nameValue raw identity.model = .text name ∧ payload.name = strip name) ∧
      payload.model = "" ∧ payload.deviceType = "" ∧
      payload.firmwareVersion = strip identity.firmware := by
  have hstrip : strip "" = "" := by decide
  obtain ⟨name, hname, hnameRead⟩ := h.name
  obtain ⟨model, hmodel, hmodelRead⟩ := h.model
  obtain ⟨type, htype, htypeRead⟩ := h.deviceType
  obtain ⟨firmware, hfirmware, hfirmwareRead⟩ := h.firmwareVersion
  rw [vendorFields_name] at hname
  rw [vendorFields_unwritten (by decide)] at hmodel htype
  rw [vendorFields_firmware] at hfirmware
  obtain rfl := PyValue.text.inj hmodel
  obtain rfl := PyValue.text.inj htype
  obtain rfl := PyValue.text.inj hfirmware
  refine ⟨⟨name, ?_, hnameRead⟩, hmodelRead.trans hstrip, htypeRead.trans hstrip, hfirmwareRead⟩
  cases hvalue : nameValue raw identity.model with
  | text text =>
      rw [hvalue] at hname
      rw [PyValue.text.inj hname]
  | null | bool | number | array | object =>
      rw [hvalue] at hname
      cases hname

theorem normalizeDevices_cons_iff {rest : List NormalizedHardware} :
    normalizeDevices (transformedFields catalog) [raw] = .ok (payload :: rest) ↔ rest = [] ∧
      ∃ data, transformedFields catalog raw = some data ∧ data ≠ [] ∧
        NormalizedHardware.fromApi data = .ok (some payload) := by
  rcases normalizeDevices_cons raw [] with ⟨hskip, hnone⟩ | ⟨data, htransforms, hstep⟩
  · rw [hskip]
    refine iff_of_false (fun h => by cases h) ?_
    rintro ⟨-, data, hdata, hne, -⟩
    exact hnone data ⟨hdata, hne⟩
  · rw [hstep]
    constructor
    · intro h
      obtain ⟨result, hresult, h⟩ := bind_eq_ok.mp h
      cases result with
      | none => cases h
      | some found =>
          obtain ⟨rfl, rfl⟩ := List.cons.inj (Except.ok.inj h)
          exact ⟨rfl, data, htransforms.1, htransforms.2, hresult⟩
    · rintro ⟨rfl, data', hdata', -, hresult⟩
      obtain rfl := Option.some.inj (htransforms.1.symm.trans hdata')
      rw [hresult]
      rfl

theorem fromApi_vendorFields (h : ReadsLike raw supplied)
    (hip : addressValue raw = addressValue supplied)
    (hread : NormalizedHardware.fromApi (vendorFields supplied identity') = .ok (some payload)) :
    ∃ payload', NormalizedHardware.fromApi (vendorFields raw identity) = .ok (some payload') := by
  have hget : ∀ key ∉ profileKeys,
      (vendorFields raw identity).get key = (vendorFields supplied identity').get key :=
    fun key hkey => vendorFields_get_eq h hip hkey
  have hfirst : ∀ keys : List String, (∀ key ∈ keys, key ∉ profileKeys) →
      (vendorFields raw identity).firstOf keys = (vendorFields supplied identity').firstOf keys :=
    fun _ hkeys => VendorPayload.firstOf_congr fun key hkey => hget key (hkeys key hkey)
  obtain ⟨name', hname', -⟩ := (fromApi_readFrom hread).profile.1
  obtain ⟨name, hname⟩ := h.nameValue hname' identity.model
  have hreadable := fromApi_eq_ok_iff.mp ⟨_, hread⟩
  have hidentity' : (vendorFields supplied identity').HasIdentity := (fromApi_isSome_iff hread).mp rfl
  have hid : (vendorFields raw identity).deviceId = (vendorFields supplied identity').deviceId :=
    hfirst _ (by decide)
  have haddress : (vendorFields raw identity).deviceIp = (vendorFields supplied identity').deviceIp :=
    hfirst _ (by decide)
  have hidentity : (vendorFields raw identity).HasIdentity := by
    unfold VendorPayload.HasIdentity
    rw [hid, haddress]
    exact hidentity'
  have htexts : ∀ keys ∈ VendorPayload.textKeys, ((vendorFields raw identity).firstOf keys).IsText := by
    intro keys hkeys
    by_cases hprofile : ∀ key ∈ keys, key ∉ profileKeys
    · rw [hfirst keys hprofile]
      exact hreadable.texts hidentity' keys hkeys
    · simp only [VendorPayload.textKeys, List.mem_cons, List.not_mem_nil, or_false] at hkeys
      rcases hkeys with rfl | rfl | rfl | rfl | rfl | rfl | rfl | rfl | rfl | rfl | rfl
      · exact absurd (by decide) hprofile
      · exact absurd (by decide) hprofile
      · exact absurd (by decide) hprofile
      · rw [vendorFields_name, hname]
        trivial
      · exact absurd (by decide) hprofile
      · exact absurd (by decide) hprofile
      · rw [vendorFields_firmware]
        trivial
      all_goals exact absurd (by decide) hprofile
  have hmac : (vendorFields raw identity).hardwareAddress =
      (vendorFields supplied identity').hardwareAddress := hfirst _ (by decide)
  obtain ⟨result, hresult⟩ := fromApi_eq_ok_iff.mpr (show (vendorFields raw identity).Readable from
    ⟨hid ▸ hreadable.deviceId, haddress ▸ hreadable.deviceIp, fun _ => htexts,
      fun _ => hmac ▸ hreadable.hardwareAddress hidentity',
      fun _ => by
        rw [hget "subnet_mask" (by decide), hget "subnetMask" (by decide)]
        exact hreadable.subnetMask hidentity',
      fun _ => by
        rw [hget "gateway" (by decide)]
        exact hreadable.gateway hidentity'⟩)
  obtain ⟨payload', rfl⟩ := Option.isSome_iff_exists.mp ((fromApi_isSome_iff hresult).mpr hidentity)
  exact ⟨payload', hresult⟩

end Transformed

/-! ### The synchronization -/

section Synced

variable {now : Time} {manufacturer : Manufacturer} {state : SyncState} {db' : Inventory}
  {catalog : VendorCatalog} {raw supplied : JsonObject} {pk : Nat}

/-- A step of a synchronization updates the chassis that its check resolves to. -/
theorem updateSynced_eq_some :
    updateSynced now manufacturer state catalog raw = some (db', pk) ↔
      ∃ data payload result state' existing, transformedFields catalog raw = some data ∧ data ≠ [] ∧
        NormalizedHardware.fromApi data = .ok (some payload) ∧
        checkPayload manufacturer state payload = .ok result ∧
        syncNormalizedDevice now manufacturer state payload = .ok (state', some .updated) ∧
        result.resolvedDevice = some existing ∧ state'.inventory = db' ∧ existing.pk = pk := by
  unfold updateSynced
  constructor
  · intro h
    split at h
    next payload rest hnormalized =>
      obtain ⟨-, data, hdata, hne, hread⟩ := normalizeDevices_cons_iff.mp hnormalized
      split at h
      next result state' hcheck hsync =>
        obtain ⟨existing, hresolved, heq⟩ := Option.map_eq_some_iff.mp h
        obtain ⟨rfl, rfl⟩ := Prod.mk.inj heq
        exact ⟨data, payload, result, state', existing, hdata, hne, hread, hcheck, hsync,
          hresolved, rfl, rfl⟩
      next => cases h
    next => cases h
    next => cases h
  · rintro ⟨data, payload, result, state', existing, hdata, hne, hread, hcheck, hsync,
      hresolved, rfl, rfl⟩
    rw [normalizeDevices_cons_iff.mpr ⟨rfl, data, hdata, hne, hread⟩]
    dsimp only
    rw [hcheck, hsync]
    dsimp only
    rw [hresolved]
    rfl

/-- The instance that a check resolves to holds the profile that is stored. -/
theorem resolved_profile {vendor : Vendor} {index : Option DeviceIdentityIndex} {db : Inventory}
    {payload : NormalizedHardware} {result : DeduplicationResult} {existing row : Chassis}
    (hdb : db.Consistent) (hsees : (RefreshPath.synced vendor index).SeesProfiles db)
    (hcheck : checkPayload manufacturer ⟨db, index⟩ payload = .ok result)
    (hresolved : result.resolvedDevice = some existing) (hrow : row ∈ db.chassis)
    (hpk : existing.pk = row.pk) : row.profile = existing.profile := by
  cases index with
  | some index =>
      exact hsees vendor index rfl existing
        (checkDevice_resolved_mem hcheck hresolved) row hrow hpk.symm
  | none => rw [hdb.pk_unique.eq hrow ((checkDevice_resolves_iff hdb _ _ _ _ _).mp
      ⟨result, hcheck, hresolved⟩).1 hpk.symm]

/-- **Synchronizations.** A payload without an address is skipped; any other overwrites a missing
name, and what is stored of the other texts is stripped. -/
theorem synced_nonDestructive_iff {vendor : Vendor} {index : Option DeviceIdentityIndex}
    {tables : HardwareTables} {row : Chassis} (hdb : tables.inventory.Consistent)
    (hrow : row ∈ tables.inventory.chassis)
    (hsees : (RefreshPath.synced vendor index).SeesProfiles tables.inventory)
    (h : Refreshable (.synced vendor index) now manufacturer tables row raw) :
    NonDestructive (.synced vendor index) now manufacturer tables row raw ↔
      ∀ column, (RefreshPath.synced vendor index).Absent raw column →
        (RefreshPath.synced vendor index).Harmless tables row raw column := by
  obtain ⟨supplied, suppliedTables, hsupplies, hrefresh⟩ := h
  have hreads := hsupplies.readsLike_synced
  obtain ⟨⟨_, _⟩, hupdate, hresult⟩ := Option.map_eq_some_iff.mp hrefresh
  obtain ⟨-, rfl⟩ := Prod.mk.inj hresult
  obtain ⟨data', payload', result, state', existing, hdata', -, hread', hcheck', hsync',
      hresolved, -, hpk⟩ :=
    updateSynced_eq_some.mp hupdate
  obtain ⟨hid, hchannels, identity', hidentity', rfl⟩ := transformedFields_eq_some.mp hdata'
  obtain ⟨type', htype', rfl⟩ := identifyDeviceModel_eq_some.mp hidentity'
  apply nonDestructive_iff
  · -- Without an address the payload has no identity, and is not normalized.
    intro habsent tables' hrefused
    obtain ⟨⟨_, _⟩, hupdate, -⟩ := Option.map_eq_some_iff.mp hrefused
    obtain ⟨data, payload, -, -, -, hdata, -, hread, -⟩ := updateSynced_eq_some.mp hupdate
    obtain ⟨-, -, identity, -, rfl⟩ := transformedFields_eq_some.mp hdata
    obtain ⟨text, htext, hblank⟩ := addressValue_blank (synced_absent_iff.mp habsent)
    have hnonblank := ((fromApi_isSome_iff hread).mp rfl).2
    rw [vendorFields_ip, htext] at hnonblank
    exact hnonblank (strip_eq_empty_of_trim hblank)
  · intro hpresent
    have haddress := hreads.addressValue_eq (fun h => hpresent (synced_absent_iff.mpr h))
    have hidEq : raw.get "id" = supplied.get "id" :=
      hreads.getD_eq (by intro column; cases column <;> decide) .null
    have hchannelsEq : raw.getD "channels" (.array [] "[]") = supplied.getD "channels"
        (.array [] "[]") :=
      hreads.getD_eq (by intro column; cases column <;> decide) _
    obtain ⟨type, htype, -⟩ := hreads.mapDeviceType vendor htype'
    rw [← hidEq] at hid
    rw [← hchannelsEq] at hchannels
    have hidentity : identifyDeviceModel vendor.catalog raw = some
        (identityOf vendor.catalog raw type) :=
      identifyDeviceModel_eq_some.mpr ⟨type, htype, rfl⟩
    have hdata := transformedFields_eq_some.mpr ⟨hid, hchannels, _, hidentity, rfl⟩
    obtain ⟨payload, hread⟩ : ∃ payload, NormalizedHardware.fromApi
        (vendorFields raw (identityOf vendor.catalog raw type)) = .ok (some payload) :=
      fromApi_vendorFields hreads haddress hread'
    have hreadFrom := fromApi_readFrom hread
    have hsame : SameButProfile payload payload' := hreadFrom.sameButProfile (fromApi_readFrom hread')
      fun key hkey => vendorFields_get_eq hreads haddress hkey
    obtain ⟨written, hsync⟩ := syncNormalizedDevice_succeeds hsame ⟨state', hsync'⟩
    have hcheck := (hsame.checkPayload_eq manufacturer ⟨tables.inventory, index⟩).trans hcheck'
    obtain ⟨found, hfound, hwritten⟩ := syncNormalizedDevice_profile hcheck hsync
    obtain rfl := Option.some.inj (hresolved.symm.trans hfound)
    have hupdated : updateSynced now manufacturer ⟨tables.inventory, index⟩ vendor.catalog raw =
        some (written.inventory, row.pk) :=
      updateSynced_eq_some.mpr ⟨_, payload, result, written, existing, hdata,
        List.cons_ne_nil _ _, hread,
        hcheck, hsync, hresolved, rfl, hpk⟩
    have hseen := resolved_profile hdb hsees hcheck hresolved hrow hpk
    have hstored := hwritten.stored
    rw [hpk] at hstored
    obtain ⟨row', hrow', hprofile⟩ := Inventory.profile_eq_some.mp hstored
    obtain ⟨hname, hmodel, hrole, hfirmware⟩ := Profile.mk.inj hprofile
    obtain ⟨hrowName, hrowModel, hrowRole, hrowFirmware⟩ := Profile.mk.inj hseen
    obtain ⟨⟨name, hnameValue, hnameRead⟩, hmodelRead, htypeRead, hfirmwareRead⟩ := hreadFrom.profile
    refine ⟨tables.withInventory written.inventory, row',
      by rw [RefreshPath.refresh, hupdated]; rfl, hrow', ?_⟩
    intro column hcolumn habsent
    have hblank := synced_absent_iff.mp habsent
    cases column with
    | ip => exact absurd rfl hcolumn
    | location => exact iff_of_true rfl trivial
    | name =>
        have hread := transformedName_eq hidentity
        rw [hnameValue] at hread
        show row'.name = row.name ↔
          row.name = trim (textOr (strip (transformedName vendor.catalog raw)) row.name)
        rw [hname, hread, hnameRead, hrowName, eq_comm]
        rfl
    | model =>
        show row'.model = row.model ↔ row.model = trim row.model
        rw [hmodel, hmodelRead, hrowModel, eq_comm]
        rfl
    | role =>
        show row'.role = row.role ↔ row.role = trim row.role
        rw [hrole, htypeRead, hrowRole, eq_comm]
        rfl
    | firmware =>
        show row'.firmwareVersion = row.firmwareVersion ↔ row.firmwareVersion = trim row.firmwareVersion
        rw [hfirmware, hfirmwareRead, strip_eq_empty_of_trim (firmware_blank hblank),
          hrowFirmware, eq_comm]
        rfl

end Synced

end Micboard
