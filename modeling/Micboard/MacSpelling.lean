import Micboard.ApprovalPersist
import Micboard.IdentitySoundness
import Micboard.IndexAgreement

/-! Spellings of hardware addresses from the writes to the lookups. A lookup asks for the six
uniform spellings of an address. What a create and a refresh store is the canonical one of them; an
approval stores the text of the queue row as it is. -/

namespace Micboard

open Library Library.Text WirelessChassisPersistenceService DiscoveryApprovalService
  DiscoveryApprovalResolver

/-- The hardware address that a queue row names, empty if it names none. -/
def itemMac (item : DiscoveryQueue) : String := metadataText item ["mac_address", "macAddress"]

/-- The hardware address that a group of rows names: of several the last one. -/
def groupMac (entries : List ChassisEntry) : Option String :=
  (entries.map fun entry => itemMac entry.1).reverse.find? (· ≠ "")

/-- Fields of other columns leave the hardware address alone. -/
theorem assignTo_macAddress {write : WirelessChassisWrite} (chassis : Chassis)
    (h : ∀ value ∈ write, value.column ≠ .macAddress) :
    (write.assignTo chassis).macAddress = chassis.macAddress := by
  refine assignTo_unchanged Chassis.macAddress chassis fun value hvalue other => ?_
  have hcolumn := h value hvalue
  cases value with
  | macAddress => exact absurd rfl hcolumn
  | _ => rfl

theorem trim_metadataText (item : DiscoveryQueue) (keys : List String) :
    trim (metadataText item keys) = metadataText item keys := by
  have htext : ∀ value, trim (textOf value) = textOf value := by
    intro value
    cases value with
    | none => rfl
    | _ => exact trim_strip _
  rw [metadataText]
  cases hfound : (keys.map fun key => textOf ((item.metadata.getD []).get key)).find? (· ≠ "") with
  | none => rfl
  | some found =>
      obtain ⟨key, -, rfl⟩ := List.mem_map.mp (List.mem_of_find?_eq_some hfound)
      exact htext _

/-- An optional value of another column leaves the hardware address alone. -/
theorem assignTo_given (value : String) (field : String → FieldValue) (chassis : Chassis)
    (hcolumn : ∀ value, (field value).column ≠ .macAddress) :
    (WirelessChassisWrite.assignTo ((if value = "" then [] else [field value]).map FieldValue.validated)
      chassis).macAddress = chassis.macAddress := by
  refine assignTo_macAddress chassis fun other hother => ?_
  split at hother
  next => cases hother
  next =>
    rw [List.map_singleton, List.mem_singleton] at hother
    rw [hother, FieldValue.validated_column]
    exact hcolumn value

/-- The values of a row set the hardware address that the row names. -/
theorem assign_entryValues_mac (entry : ChassisEntry) (chassis : Chassis) :
    ((WirelessChassisWrite.ofValues (entryValues entry)).assignTo chassis).macAddress =
      if itemMac entry.1 = "" then chassis.macAddress else some (itemMac entry.1) := by
  simp only [entryValues, optionalValues, WirelessChassisWrite.ofValues, List.map_append,
    assignTo_append]
  rw [assignTo_given _ (fun value => .gateway (some value)) _ (by simp [FieldValue.column]),
    assignTo_given _ (fun value => .subnetMask (some value)) _ (by simp [FieldValue.column]), ← itemMac]
  by_cases hempty : itemMac entry.1 = ""
  · rw [if_pos hempty, if_pos hempty, List.map_nil, WirelessChassisWrite.assignTo, List.foldl_nil,
      assignTo_given _ .firmwareVersion _ (by simp [FieldValue.column]),
      assignTo_given _ .model _ (by simp [FieldValue.column]),
      assignTo_given _ .fqdn _ (by simp [FieldValue.column]),
      assignTo_given _ .name _ (by simp [FieldValue.column]),
      assignTo_given _ .serialNumber _ (by simp [FieldValue.column])]
    rfl
  · rw [if_neg hempty, if_neg hempty]
    show some (trim (itemMac entry.1)) = _
    rw [itemMac, trim_metadataText]

theorem groupInstance_mac (entries : List ChassisEntry) (chassis : Chassis) :
    (groupInstance entries chassis).macAddress = (groupMac entries).or chassis.macAddress := by
  induction entries using List.reverseRecOn with
  | nil => rfl
  | append_singleton entries entry ih =>
      rw [groupInstance_append, assign_entryValues_mac, ih, groupMac, groupMac, List.map_append,
        List.reverse_append]
      by_cases hempty : itemMac entry.1 = ""
      · simp [hempty]
      · simp [hempty]

section Writes

variable {now : Time} {db db' : Inventory}

theorem chassisValues_ok {entry : ChassisEntry} {values : List FieldValue}
    (h : chassisValues entry.1 entry.2 = .ok values) : values = entryValues entry := by
  rw [chassisValues_eq] at h
  split at h
  next => cases h
  next => exact (Except.ok.inj h).symm

/-- The row that a group of queue rows writes holds the address that the group names. -/
theorem adoptWirelessChassis_mac (hdb : db.Consistent) {entries : List ChassisEntry}
    {saved row : Chassis}
    {created : Bool} {text : String}
    (hok : adoptWirelessChassis now db entries = .ok (db', saved, created))
    (hgiven : groupMac entries = some text) (hrow : row ∈ db'.chassis) (hpk : row.pk = saved.pk) :
    db'.Consistent ∧ row.macAddress = some text := by
  obtain ⟨values, hvalues, hok⟩ := bind_eq_ok.mp hok
  have hmap : (entries.mapM fun entry => chassisValues entry.1 entry.2) = .ok
      (entries.map entryValues) := by
    refine mapM_eq_ok_map fun entry hentry => ?_
    obtain ⟨output, -, hentry⟩ := mem_of_mapM_eq_ok hvalues hentry
    rw [hentry, chassisValues_ok hentry]
  obtain rfl := Except.ok.inj (hvalues.symm.trans hmap)
  have hmac : ∀ chassis, (groupInstance entries chassis).macAddress = some text := by
    intro chassis
    rw [groupInstance_mac, hgiven]
    rfl
  cases htarget : entries.head?.bind fun entry => entry.2.chassis with
  | none =>
      rw [htarget] at hok
      obtain ⟨⟨_, _⟩, hcreate, hok⟩ := bind_eq_ok.mp hok
      cases hok
      rw [liftApproval_eq_ok] at hcreate
      obtain ⟨selected, hselected, -, -, hcreate⟩ := create_eq_ok.mp hcreate
      have hinstance : WirelessChassisWrite.assignTo (WirelessChassisWrite.withoutManufacturer
          (.ofValues (entries.map entryValues).flatten)) (Chassis.unsaved selected) =
          groupInstance entries (Chassis.unsaved selected) := by
        rw [Option.none_or] at hselected
        exact withoutManufacturer_assignTo hselected
      rw [hinstance] at hcreate
      refine ⟨hdb.createChassis hcreate, ?_⟩
      obtain ⟨-, -, -, rfl, rfl⟩ := createChassis_eq_ok.mp hcreate
      obtain ⟨isOnline, on, heq⟩ :=
        startLifecycle_eq now db (groupInstance entries (Chassis.unsaved selected))
      rw [Inventory.insertRow_chassis, List.mem_append, List.mem_singleton] at hrow
      rcases hrow with hold | rfl
      · have hlt := hdb.pk_lt row hold
        rw [hpk, heq] at hlt
        exact absurd hlt (Nat.lt_irrefl _)
      · rw [heq, Chassis.stored, writeTo_macAddress, if_pos (Column.mem_all _)]
        exact hmac _
  | some chassis =>
      rw [htarget] at hok
      obtain ⟨⟨_, _⟩, hupdate, hok⟩ := bind_eq_ok.mp hok
      cases hok
      rw [liftApproval_eq_ok, update] at hupdate
      split at hupdate
      next hempty =>
        -- a group that names an address has a row, and every row sets its manufacturer
        cases entries with
        | nil => cases hgiven
        | cons => cases hempty
      next =>
        rw [liftSave_eq_ok, if_pos rfl, ← groupInstance] at hupdate
        refine ⟨hdb.saveChassis hupdate, ?_⟩
        have hnone : (none : Option (List Column)) ≠ some [] := by simp
        obtain ⟨previous, derived, hfind, -, hstep, -, -, rfl⟩ := (saveChassis_eq_ok hnone).mp hupdate
        obtain ⟨isOnline, on, off, uptime, heq⟩ := hstep.eq_withLifecycle
        have hprevious := Inventory.find_pk hfind
        rw [Inventory.updateRow_chassis, mem_replaceRow] at hrow
        rcases hrow with ⟨rfl, -⟩ | ⟨hold, hne⟩
        · have hwritten : Column.macAddress ∈ none.getD Column.all ++ derived :=
            List.mem_append_left _ (Column.mem_all _)
          rw [writeTo_macAddress, if_pos hwritten, heq]
          exact hmac _
        · refine absurd ?_ hne
          rw [hpk, heq, withLifecycle_pk, writeTo_pk, hprevious]

/-- The row that a create stores holds the canonical address of the payload. -/
theorem createFromNormalized_mac (hdb : db.Consistent) {manufacturer : Manufacturer}
    {payload : NormalizedHardware} {initialStatus : Option HardwareStatus} {chassis row : Chassis}
    (hok : createFromNormalized now db manufacturer payload initialStatus = .ok (db', chassis))
    (hrow : row ∈ db'.chassis) (hpk : row.pk = chassis.pk) :
    db'.Consistent ∧ row.macAddress = payload.mac := by
  refine ⟨hdb.createFromNormalized hok, ?_⟩
  obtain ⟨hnext, -, -, -, hmac, -, -, inserted, rfl, hidentity, -⟩ := createFromNormalized_inserts hok
  rw [Inventory.insertRow_chassis, List.mem_append, List.mem_singleton] at hrow
  rcases hrow with hold | rfl
  · have hlt := hdb.pk_lt row hold
    rw [hpk, hnext] at hlt
    exact absurd hlt (Nat.lt_irrefl _)
  · exact hidentity.macAddress.trans hmac

/-- The row that a refresh stores holds the address it held, or the canonical one where the instance
spells the payload's address otherwise. -/
theorem updateFromNormalized_mac (hdb : db.Consistent) {chassis chassis' row' : Chassis}
    {payload : NormalizedHardware} {setIp : Bool}
    (hok : updateFromNormalized now db chassis payload setIp = .ok (db', chassis'))
    (hrow : row' ∈ db'.chassis) (hpk : row'.pk = chassis'.pk) :
    db'.Consistent ∧ ∃ row, db.find chassis.pk = some row ∧ row'.macAddress =
      if refreshedMac payload chassis.macAddress = chassis.macAddress then row.macAddress
      else refreshedMac payload chassis.macAddress := by
  refine ⟨hdb.updateFromNormalized hok, ?_⟩
  obtain ⟨row, written, hrowPk, hrewrites, hidentity, -, hinstance, -⟩ :=
    updateFromNormalized_rewrites hok
  refine ⟨row, hrowPk ▸ hrewrites.find, ?_⟩
  rcases hrewrites.mem.mp hrow with rfl | ⟨-, hne⟩
  · exact hidentity.macAddress
  · refine absurd ?_ hne
    rw [hpk, hinstance.pk, hrowPk]

end Writes

/-- A write that can store the hardware address of a chassis: the create of a sync, the refresh from
a payload and the approval of a group of queue rows. -/
inductive MacWrite where
  | create (manufacturer : Manufacturer) (payload : NormalizedHardware)
      (initialStatus : Option HardwareStatus)
  | update (chassis : Chassis) (payload : NormalizedHardware) (setIp : Bool)
  | approve (entries : List ChassisEntry)

namespace MacWrite

/-- The tables after a write that succeeds, and the key of the row it writes. -/
def perform (now : Time) (db : Inventory) : MacWrite → Option (Inventory × Nat)
  | create manufacturer payload initialStatus =>
    (createFromNormalized now db manufacturer payload initialStatus).toOption.map fun saved =>
      (saved.1, saved.2.pk)
  | update chassis payload setIp =>
    (updateFromNormalized now db chassis payload setIp).toOption.map fun saved => (saved.1, saved.2.pk)
  | approve entries =>
    (adoptWirelessChassis now db entries).toOption.map fun saved => (saved.1, saved.2.1.pk)

/-- The hardware address that a write is given. -/
def given : MacWrite → Option String
  | create _ payload _ => payload.mac
  | update _ payload _ => payload.mac
  | approve entries => groupMac entries

/-- The write leaves a spelling that a lookup asks for: an approval is given one of them, and a
refresh finds one stored if it does not respell the address. -/
def Spelled (db : Inventory) (canonical : String) : MacWrite → Prop
  | create _ _ _ => True
  | update chassis _ _ =>
    (canonicalizeMacAddress chassis.macAddress = some canonical ∧ chassis.macAddress ≠ some canonical) ∨
      ∃ row ∈ db.find chassis.pk, ∃ stored ∈ row.macAddress, stored ∈ macAddressQueryVariants canonical
  | approve entries => ∀ text ∈ groupMac entries, text ∈ macAddressQueryVariants canonical

variable {now : Time} {db db' : Inventory} {write : MacWrite} {pk : Nat} {text canonical : String}

theorem payload_mac_eq {payload : NormalizedHardware} (hgiven : payload.mac = some text)
    (hcanonical : canonicalizeMacAddress (some text) = some canonical) : payload.mac =
      some canonical := by
  rw [← hcanonical, ← hgiven]
  exact (payload_mac_canonical payload).symm

theorem refreshedMac_of_mac {payload : NormalizedHardware} (hmac : payload.mac = some canonical)
    (stored : Option String) : refreshedMac payload stored =
      if canonicalizeMacAddress stored = some canonical then some canonical else stored := by
  rw [refreshedMac, hmac]
  simp

/-- A lookup asks for what a write stored exactly when the write leaves a spelling that it asks for. -/
theorem queried_iff (hdb : db.Consistent) (hperform : write.perform now db = some (db', pk))
    (hgiven : write.given = some text)
    (hcanonical : canonicalizeMacAddress (some text) = some canonical)
    {row : Chassis} (hrow : row ∈ db'.chassis) (hpk : row.pk = pk) :
    db'.Consistent ∧ ((∃ stored ∈ row.macAddress, stored ∈ macAddressQueryVariants canonical) ↔
      write.Spelled db canonical) := by
  have hself := mem_variants_self (canonicalizeMacAddress_isCanonical hcanonical)
  cases write with
  | create manufacturer payload initialStatus =>
      obtain ⟨⟨_, chassis⟩, hok, heq⟩ := Option.map_eq_some_iff.mp hperform
      obtain ⟨rfl, rfl⟩ := Prod.mk.inj heq
      obtain ⟨hconsistent, hmac⟩ := createFromNormalized_mac hdb (toOption_eq_some.mp hok) hrow hpk
      refine ⟨hconsistent, iff_of_true ⟨canonical, ?_, hself⟩ trivial⟩
      rw [hmac, payload_mac_eq hgiven hcanonical]
      rfl
  | update chassis payload setIp =>
      obtain ⟨⟨_, chassis'⟩, hok, heq⟩ := Option.map_eq_some_iff.mp hperform
      obtain ⟨rfl, rfl⟩ := Prod.mk.inj heq
      obtain ⟨hconsistent, before, hbefore, hmac⟩ :=
        updateFromNormalized_mac hdb (toOption_eq_some.mp hok) hrow hpk
      refine ⟨hconsistent, ?_⟩
      have hcases := refreshedMac_of_mac (payload_mac_eq hgiven hcanonical) chassis.macAddress
      rw [hmac, Spelled, hbefore, hcases]
      by_cases hsame : canonicalizeMacAddress chassis.macAddress = some canonical
      · rw [if_pos hsame]
        by_cases hspelled : chassis.macAddress = some canonical
        · simp [hspelled]
        · rw [if_neg (Ne.symm hspelled)]
          exact iff_of_true ⟨canonical, rfl, hself⟩ (.inl ⟨hsame, hspelled⟩)
      · simp [hsame]
  | approve entries =>
      obtain ⟨⟨_, saved, created⟩, hok, heq⟩ := Option.map_eq_some_iff.mp hperform
      obtain ⟨rfl, rfl⟩ := Prod.mk.inj heq
      have hgroup : groupMac entries = some text := hgiven
      obtain ⟨hconsistent, hmac⟩ :=
        adoptWirelessChassis_mac hdb (toOption_eq_some.mp hok) hgroup hrow hpk
      refine ⟨hconsistent, ?_⟩
      rw [hmac, Spelled, hgroup]
      simp

/-- A refresh through an instance that knows the stored address leaves a spelling that a lookup asks
for. -/
theorem update_spelled (hdb : db.Consistent) {chassis row : Chassis} {payload : NormalizedHardware}
    {setIp : Bool} (hperform : (update chassis payload setIp).perform now db = some (db', pk))
    (hgiven : payload.mac = some text)
    (hcanonical : canonicalizeMacAddress (some text) = some canonical)
    (hrow : row ∈ db'.chassis) (hpk : row.pk = pk)
    (hstored : canonicalizeMacAddress row.macAddress = some canonical)
    (hcurrent : ∀ before ∈ db.find chassis.pk, before.macAddress = chassis.macAddress) :
    (update chassis payload setIp).Spelled db canonical := by
  obtain ⟨⟨_, chassis'⟩, hok, heq⟩ := Option.map_eq_some_iff.mp hperform
  obtain ⟨rfl, rfl⟩ := Prod.mk.inj heq
  obtain ⟨-, before, hbefore, hmac⟩ := updateFromNormalized_mac hdb (toOption_eq_some.mp hok) hrow hpk
  have hsame := hcurrent before hbefore
  rw [refreshedMac_of_mac (payload_mac_eq hgiven hcanonical)] at hmac
  by_cases hcase : canonicalizeMacAddress chassis.macAddress = some canonical
  · by_cases hspelled : chassis.macAddress = some canonical
    · refine .inr ⟨before, hbefore, canonical, hsame.trans hspelled, ?_⟩
      exact mem_variants_self (canonicalizeMacAddress_isCanonical hcanonical)
    · exact .inl ⟨hcase, hspelled⟩
  · rw [if_neg hcase, if_pos rfl, hsame] at hmac
    rw [hmac] at hstored
    exact absurd hstored hcase

end MacWrite

/-! ### What a lookup finds -/

/-- The lookup is made for the manufacturer of the chassis, no stored chassis holds another identity
of it and no other one the hardware address. -/
structure OnlyMac (db : Inventory) (row : Chassis) (canonical : String) (serialNumber : Option String)
    (ip apiDeviceId : String) (manufacturer : Manufacturer) : Prop where
  owner : row.manufacturer.pk = manufacturer.pk
  serial : ∀ other ∈ db.chassis, ¬ HoldsSerial serialNumber other
  ip : ∀ other ∈ db.chassis, ¬ HoldsIp ip other
  apiId : ∀ other ∈ db.chassis, ¬ HoldsApiId manufacturer apiDeviceId other
  mac : ∀ other ∈ db.chassis, canonicalizeMacAddress other.macAddress = some canonical → other = row

section Lookup

variable {db : Inventory} {row : Chassis} {canonical : String} {serialNumber spelling : Option String}
  {ip apiDeviceId : String} {manufacturer : Manufacturer}

theorem holdsMac_iff (hspelling : canonicalizeMacAddress spelling = some canonical) (row : Chassis) :
    HoldsMac spelling row ↔ ∃ stored ∈ row.macAddress, stored ∈ macAddressQueryVariants canonical := by
  simp [HoldsMac, hspelling]

/-- A lookup by the hardware address alone finds the chassis exactly when it asks for the stored
spelling. -/
theorem checkDevice_mac_iff (h : db.Consistent) (hrow : row ∈ db.chassis)
    (hspelling : canonicalizeMacAddress spelling = some canonical)
    (honly : OnlyMac db row canonical serialNumber ip apiDeviceId manufacturer) :
    (∃ result, checkDevice db serialNumber spelling ip apiDeviceId
      (some manufacturer) none = .ok result ∧
        result.resolvedDevice = some row) ↔
      ∃ stored ∈ row.macAddress, stored ∈ macAddressQueryVariants canonical := by
  rw [checkDevice_resolves_iff h, ← holdsMac_iff hspelling]
  have hcanonical := canonicalizeMacAddress_isCanonical hspelling
  constructor
  · rintro ⟨-, ⟨hserial | hmac, -⟩ | ⟨-, hip, -⟩ | ⟨-, -, hapi⟩⟩
    · exact absurd hserial (honly.serial row hrow)
    · exact hmac
    · exact absurd hip (honly.ip row hrow)
    · exact absurd hapi (honly.apiId row hrow)
  · intro hholds
    refine ⟨hrow, .inl ⟨.inr hholds, ?_, honly.owner⟩⟩
    rintro other hother (hserial | hmac)
    · exact absurd hserial (honly.serial other hother)
    · obtain ⟨stored, hstored, hvariant⟩ := (holdsMac_iff hspelling other).mp hmac
      refine honly.mac other hother ?_
      rw [Option.mem_def.mp hstored]
      exact canonicalizeMacAddress_of_mem_variants hcanonical hvariant

/-- An index that is built for a batch finds what the table finds. -/
theorem checkPayload_built (h : db.Consistent) {payloads : List NormalizedHardware}
    {payload : NormalizedHardware} {index : DeviceIdentityIndex}
    (hbuild : DeviceIdentityIndex.build db payloads manufacturer = .ok index)
    (hpayload : payload ∈ payloads)
    (hmac : payload.mac = some canonical)
    (hqueried : ∃ stored ∈ row.macAddress, stored ∈ macAddressQueryVariants canonical)
    (honly : OnlyMac db row canonical payload.serial payload.ip payload.apiDeviceId manufacturer) :
    SameCheck (checkPayload manufacturer ⟨db, some index⟩ payload)
      (checkPayload manufacturer ⟨db, none⟩ payload) := by
  obtain ⟨keys, hkeys, -⟩ := bind_eq_ok.mp hbuild
  obtain ⟨hinv, hobjects⟩ := build_indexInv h hkeys hbuild
  have hcanonical : canonicalizeMacAddress payload.mac = some canonical :=
    (payload_mac_canonical payload).trans hmac
  have hagrees : MacAgrees (fun _ => True) db payload := by
    rintro other hother - ⟨mac, hother', hstored⟩
    rw [hmac] at hother'
    obtain rfl := Option.some.inj hother'
    rw [honly.mac other hother hstored]
    exact .inl ((holdsMac_iff hcanonical row).mpr hqueried)
  refine checkPayload_same hinv h hkeys hpayload (fun _ _ _ _ _ => trivial) hagrees ?_
  intro chassis hchassis other hother hmirrors
  rw [hobjects] at hchassis
  rw [h.pk_unique.eq (List.mem_filter.mp hchassis).1 hother hmirrors.pk]

end Lookup

theorem SameCheck.resolved {checked checked' : Except IdentityError DeduplicationResult}
    (h : SameCheck checked checked') {row : Chassis}
    (hresolved : ∃ result, checked' = .ok result ∧ result.resolvedDevice = some row) :
    ∃ result device, checked = .ok result ∧ result.resolvedDevice = some device ∧
      device.pk = row.pk := by
  obtain ⟨result', rfl, hdevice⟩ := hresolved
  cases h with
  | ok hsame =>
      cases hsame with
      | new => cases hdevice
      | duplicate hmirrors =>
          obtain rfl := Option.some.inj hdevice
          exact ⟨_, _, rfl, rfl, hmirrors.pk⟩
      | moved hmirrors =>
          obtain rfl := Option.some.inj hdevice
          exact ⟨_, _, rfl, rfl, hmirrors.pk⟩
      | conflict => cases hdevice

/-- **After a write that was given a hardware address in some spelling, a lookup of the address in any
spelling and of no other stored identity finds the chassis that stores it exactly when the write left a
uniform spelling; an index that is built for a batch then finds it as well.** -/
theorem mac_spelling_iff {now : Time} {db db' : Inventory} (hdb : db.Consistent)
    {write : MacWrite} {pk : Nat}
    (hperform : write.perform now db = some (db', pk)) {text canonical : String}
    (hgiven : write.given = some text)
    (hcanonical : canonicalizeMacAddress (some text) = some canonical)
    {row : Chassis} (hrow : row ∈ db'.chassis) (hpk : row.pk = pk)
    (hstored : canonicalizeMacAddress row.macAddress = some canonical) (manufacturer : Manufacturer) :
    (∀ serialNumber spelling ip apiDeviceId, canonicalizeMacAddress spelling = some canonical →
      OnlyMac db' row canonical serialNumber ip apiDeviceId manufacturer →
        ((∃ result, checkDevice db' serialNumber spelling ip apiDeviceId (some manufacturer) none =
            .ok result ∧ result.resolvedDevice = some row) ↔ write.Spelled db canonical)) ∧
    (write.Spelled db canonical → ∀ payloads index, ∀ payload ∈ payloads,
      DeviceIdentityIndex.build db' payloads manufacturer = .ok index → payload.mac = some canonical →
        OnlyMac db' row canonical payload.serial payload.ip payload.apiDeviceId manufacturer →
          ∃ result device, checkPayload manufacturer ⟨db', some index⟩ payload = .ok result ∧
            result.resolvedDevice = some device ∧ device.pk = row.pk) ∧
    ((∃ chassis payload setIp, write = .update chassis payload setIp ∧
        ∀ before ∈ db.find chassis.pk, before.macAddress = chassis.macAddress) →
      write.Spelled db canonical) := by
  obtain ⟨hconsistent, hqueried⟩ := MacWrite.queried_iff hdb hperform hgiven hcanonical hrow hpk
  refine ⟨?_, ?_, ?_⟩
  · intro serialNumber spelling ip apiDeviceId hspelling honly
    rw [checkDevice_mac_iff hconsistent hrow hspelling honly, hqueried]
  · intro hspelled payloads index payload hpayload hbuild hmac honly
    rw [← hqueried] at hspelled
    have hsame := checkPayload_built hconsistent hbuild hpayload hmac hspelled honly
    refine hsame.resolved ((checkDevice_mac_iff hconsistent hrow ?_ honly).mpr hspelled)
    exact (payload_mac_canonical payload).trans hmac
  · rintro ⟨chassis, payload, setIp, rfl, hcurrent⟩
    exact MacWrite.update_spelled hdb hperform hgiven hcanonical hrow hpk hstored hcurrent

/-- A payload of a receiver that is not stored. -/
def newcomer : NormalizedHardware :=
  .identified "dev-2" "10.0.0.2" "" (some "AA-BB-CC-DD-EE-02")

/-- The tables after the newcomer was created. -/
def newcomerInventory : Inventory :=
  (((MacWrite.create shure newcomer none).perform 0 receiverInventory).map Prod.fst).getD
    receiverInventory

theorem newcomerInventory_created :
    (MacWrite.create shure newcomer none).perform 0 receiverInventory = some
    (newcomerInventory, 2) := by
  decide +kernel

/-- A created receiver is found by another spelling of its hardware address. -/
theorem mac_spelling_iff_newcomer :
    ∃ result device, checkDevice newcomerInventory none
      (some "aabbccddee02") "10.0.0.9" "dev-9" (some shure)
      none = .ok result ∧ result.resolvedDevice = some device ∧ device.pk = 2 := by
  obtain ⟨row, hrow, hpk, howner, hstored⟩ : ∃ row ∈ newcomerInventory.chassis, row.pk = 2 ∧
      row.manufacturer.pk = shure.pk ∧
      canonicalizeMacAddress row.macAddress = some "aa:bb:cc:dd:ee:02" := by decide +kernel
  have hgiven : (MacWrite.create shure newcomer none).given = some "aa:bb:cc:dd:ee:02" := by
    decide +kernel
  have honly : OnlyMac newcomerInventory row "aa:bb:cc:dd:ee:02" none "10.0.0.9" "dev-9" shure := by
    refine ⟨howner, ?_, ?_, ?_, ?_⟩
    · unfold HoldsSerial
      decide +kernel
    · unfold HoldsIp
      decide +kernel
    · unfold HoldsApiId
      decide +kernel
    · intro other hother hmac
      have hunique : ∀ other ∈ newcomerInventory.chassis,
          canonicalizeMacAddress other.macAddress = some "aa:bb:cc:dd:ee:02" → other.pk = 2 := by
        decide +kernel
      have hkeys : UniqueOn Chassis.pk newcomerInventory.chassis := by decide +kernel
      exact hkeys.eq hother hrow ((hunique other hother hmac).trans hpk.symm)
  obtain ⟨result, hresult, hdevice⟩ := ((mac_spelling_iff receiverInventory_consistent
    newcomerInventory_created hgiven (by decide +kernel) hrow hpk hstored shure).1 none
    (some "aabbccddee02") "10.0.0.9" "dev-9" (by decide +kernel) honly).mpr trivial
  exact ⟨result, row, hresult, hdevice, hpk⟩

/-- A queue row whose metadata spells a hardware address in mixed case. -/
def mixedCaseItem : DiscoveryQueue where
  pk := 1
  manufacturer := shure
  serialNumber := "SN-3"
  apiDeviceId := "dev-3"
  ip := "10.0.0.3"
  deviceType := "receiver"
  model := ""
  name := ""
  fqdn := ""
  firmwareVersion := ""
  metadata := some [("mac_address", .text "AA:bb:CC:dd:EE:03")]
  status := .pending
  reviewedAt := none
  reviewedBy := none
  existingDeviceId := none
  existingChargerId := none
  isIpConflict := false
  ip_stored := by decide +kernel
  ip_trimmed := by decide +kernel

/-- The approval of the row stores a chassis with the address, and a lookup of the address in the
spelling of the row itself calls it new. -/
theorem mixedCase_approval_not_found :
    canonicalizeMacAddress (some "AA:bb:CC:dd:EE:03") = some "aa:bb:cc:dd:ee:03" ∧
    (approve (fun _ => 0) 0 ⟨receiverInventory, [mixedCaseItem]⟩ (fun _ => true)
      ⟨1, fun _ => true⟩).toOption.map
      (fun approved => (approved.1.inventory.chassis.map Chassis.macAddress,
        checkDevice approved.1.inventory none (some "AA:bb:CC:dd:EE:03") "10.0.0.9" "dev-9"
          (some shure) none)) =
    some ([some "aa:bb:cc:dd:ee:01", some "AA:bb:CC:dd:EE:03"], .ok .new) := by
  decide +kernel

end Micboard
