import Micboard.IndexInvariant

/-! Lookups in the running index. Each of them finds an instance of the row that the query of the table
finds, or both find nothing, or both are ambiguous. Only the index recognizes a hardware address that is
stored in a spelling the query does not ask for. -/

namespace Micboard

open Library

/-- The index and the table answer a lookup with an instance of the same row. -/
inductive SameLookup (db : Inventory) (index : DeviceIdentityIndex) :
    Except IdentityError (Option Chassis) → Except IdentityError (Option Chassis) → Prop where
  | error (e : IdentityError) : SameLookup db index (.error e) (.error e)
  | none : SameLookup db index (.ok none) (.ok none)
  | found {chassis row : Chassis} (hchassis : chassis ∈ index.objects) (hrow : row ∈ db.chassis)
      (hmirrors : Mirrors chassis row) : SameLookup db index (.ok (some chassis)) (.ok (some row))

section Lookup

variable {keys : IdentityKeys} {manufacturer : Manufacturer} {db : Inventory}
  {index : DeviceIdentityIndex}

/-- A lookup that finds an entry yields the instance with this primary key. -/
theorem unique_singleton (hunique : UniqueOn Chassis.pk index.objects) {entries : List Nat}
    {chassis : Chassis} (hchassis : chassis ∈ index.objects)
    (hmatch : uniqueMatch IdentityError.multipleObjectsReturned entries = .ok (some chassis.pk)) :
    index.unique entries = .ok (some chassis) := by
  have hfind : index.objects.find? (fun c => c.pk = chassis.pk) = some chassis :=
    (hunique.find?_eq_some Chassis.pk).mpr ⟨hchassis, rfl⟩
  unfold DeviceIdentityIndex.unique
  rw [hmatch]
  exact congrArg Except.ok hfind

/-- As long as a key selects the same rows in the index and in a query, the lookups agree. -/
theorem IndexInv.sameLookup {β : Type} (h : IndexInv keys manufacturer db index)
    (hdb : db.Consistent) {column : Chassis → Option β} {batch : List β} {entries : β → List Nat}
    (hindexes : Indexes Chassis.pk column batch index.objects entries) {key : β}
    (hbatch : key ∈ batch) {p : Chassis → Bool}
    (hcovers : ∀ row ∈ db.chassis, p row = true → keys.selects manufacturer row = true)
    (hquery : ∀ chassis ∈ index.objects, ∀ row ∈ db.chassis, Mirrors chassis row →
      (p row = true ↔ column chassis = some key)) :
    SameLookup db index (index.unique (entries key))
      (uniqueMatch .multipleObjectsReturned (db.chassis.filter p)) := by
  have hselects : ∀ k, (∃ row ∈ db.chassis, p row = true ∧ row.pk = k) ↔
      ∃ chassis ∈ index.objects, column chassis = some key ∧ chassis.pk = k := by
    intro k
    constructor
    · rintro ⟨row, hrow, hp, rfl⟩
      obtain ⟨chassis, hchassis, hpk⟩ := h.covers row hrow (hcovers row hrow hp)
      have hmirrors := h.mirrors_row hdb hchassis hrow hpk.symm
      exact ⟨chassis, hchassis, (hquery chassis hchassis row hrow hmirrors).mp hp, hpk⟩
    · rintro ⟨chassis, hchassis, hcolumn, rfl⟩
      obtain ⟨row, hrow, hmirrors⟩ := h.mirrors chassis hchassis
      exact ⟨row, hrow, (hquery chassis hchassis row hrow hmirrors).mpr hcolumn, hmirrors.pk.symm⟩
  have hsame : uniqueMatch IdentityError.multipleObjectsReturned (entries key) =
      (uniqueMatch .multipleObjectsReturned (db.chassis.filter p)).map (Option.map Chassis.pk) :=
    hindexes.uniqueMatch_eq hdb.pk_unique hbatch hselects
  cases hrows : uniqueMatch IdentityError.multipleObjectsReturned (db.chassis.filter p) with
  | error e =>
      rw [hrows] at hsame
      have hindex : index.unique (entries key) = .error e := by
        unfold DeviceIdentityIndex.unique
        rw [hsame]
        rfl
      rw [hindex]
      exact .error e
  | ok found =>
      rw [hrows] at hsame
      cases found with
      | none =>
          have hindex : index.unique (entries key) = .ok none := by
            unfold DeviceIdentityIndex.unique
            rw [hsame]
            rfl
          rw [hindex]
          exact .none
      | some row =>
          obtain ⟨hrow, hp, -⟩ := uniqueMatch_filter_eq_some hrows
          obtain ⟨chassis, hchassis, hpk⟩ := h.covers row hrow (hcovers row hrow hp)
          have hmatch : uniqueMatch IdentityError.multipleObjectsReturned (entries key) =
              .ok (some chassis.pk) := by
            rw [hsame, hpk]
            rfl
          rw [unique_singleton h.unique hchassis hmatch]
          exact .found hchassis hrow (h.mirrors_row hdb hchassis hrow hpk.symm)

variable {payloads : List NormalizedHardware} {payload : NormalizedHardware}

/-- Every device of a batch has its identities among those of the batch. -/
theorem mem_ofPayloads (hkeys : IdentityKeys.ofPayloads payloads = .ok keys)
    (hpayload : payload ∈ payloads) :
    (∀ serial, payload.serial = some serial → serial ∈ keys.serials) ∧
      (∀ mac, payload.mac = some mac → mac ∈ keys.macs) ∧
      (∃ key ∈ keys.ips, ipKey payload.ip = .ok key) ∧ payload.apiDeviceId ∈ keys.apiIds := by
  unfold IdentityKeys.ofPayloads at hkeys
  obtain ⟨ips, hips, hkeys⟩ := bind_eq_ok.mp hkeys
  cases hkeys
  refine ⟨fun serial hserial => ?_, fun mac hmac => ?_, mem_of_mapM_eq_ok hips hpayload, ?_⟩
  · obtain ⟨rfl, hne⟩ := NormalizedHardware.serial_eq_some.mp hserial
    exact List.mem_filter.mpr ⟨List.mem_map_of_mem hpayload, by simpa using hne⟩
  · exact List.mem_filterMap.mpr ⟨payload, hpayload, hmac⟩
  · exact List.mem_map_of_mem hpayload

/-- The row stores the hardware address of the device, in any spelling. -/
def HoldsCanonicalMac (payload : NormalizedHardware) (row : Chassis) : Prop :=
  ∃ mac ∈ payload.mac, canonicalizeMacAddress row.macAddress = some mac

/-- Each known row with the hardware address of the device spells it in a way the query asks for. A
single row that does not makes no difference if the serial number finds it as well. -/
def MacAgrees (known : Chassis → Prop) (db : Inventory) (payload : NormalizedHardware) : Prop :=
  ∀ row ∈ db.chassis, known row → HoldsCanonicalMac payload row → HoldsMac payload.mac row ∨
    (HoldsSerial payload.serial row ∧
      ∀ other ∈ db.chassis, known other → HoldsCanonicalMac payload other → other = row)

theorem resolveMacIdentity_some (db : Inventory) (index : DeviceIdentityIndex) {mac : String}
    (hcanonical : IsCanonicalMac mac) :
    resolveMacIdentity db (some mac) (some index) = index.unique (index.byMac mac) ∧
      resolveMacIdentity db (some mac) none = db.getMac mac := by
  have hsupplied : supplied (some mac) = some mac := by
    rw [supplied, Option.filter_some, if_pos (by simpa using hcanonical.ne_empty)]
  unfold resolveMacIdentity
  rw [hsupplied]
  constructor
  · simp only [DeviceIdentityIndex.mac, canonicalizeMacAddress_of_isCanonical hcanonical]
  · rfl

theorem HoldsMac.holdsCanonicalMac {payload : NormalizedHardware} {row : Chassis}
    (h : HoldsMac payload.mac row) : HoldsCanonicalMac payload row := by
  obtain ⟨mac, hmac, stored, hstored, hvariant⟩ := h
  rw [payload_mac_canonical] at hmac
  refine ⟨mac, hmac, ?_⟩
  have hcanonical := (NormalizedHardware.mac_eq_some.mp hmac).2
  rw [Option.mem_def.mp hstored]
  exact canonicalizeMacAddress_of_mem_variants hcanonical hvariant

/-! ### The lookups of a device -/

section Device

variable (h : IndexInv keys manufacturer db index) (hdb : db.Consistent)
  (hkeys : IdentityKeys.ofPayloads payloads = .ok keys) (hpayload : payload ∈ payloads)
include h hdb hkeys hpayload

theorem serial_sameLookup :
    SameLookup db index (resolveSerialIdentity db payload.serial (some index))
      (resolveSerialIdentity db payload.serial none) := by
  unfold resolveSerialIdentity
  cases hserial : payload.serial with
  | none => exact .none
  | some serial =>
      have hne := (NormalizedHardware.serial_eq_some.mp hserial).2
      have hbatch := (mem_ofPayloads hkeys hpayload).1 serial hserial
      have hsupplied : supplied (some serial) = some serial := by
        rw [supplied, Option.filter_some, if_pos (by simpa using hne)]
      rw [hsupplied]
      refine h.sameLookup hdb h.indexes.serial hbatch (fun row _ hp => ?_)
        fun chassis _ row _ hmirrors => ?_
      · rw [decide_eq_true_eq] at hp
        exact selects_eq_true.mpr (.inl (hp ▸ hbatch))
      · rw [decide_eq_true_eq, serialColumn, Option.some.injEq, hmirrors.serialNumber]

theorem ip_sameLookup : SameLookup db index (index.ip payload.ip) (db.getIp payload.ip) := by
  obtain ⟨key, hbatch, hkey⟩ := (mem_ofPayloads hkeys hpayload).2.2.1
  have hstored := getPrepValue_of_ipKey hkey
  have hlookup : index.ip payload.ip = index.unique (index.byIp key) := by
    unfold DeviceIdentityIndex.ip
    rw [hkey]
    rfl
  rw [hlookup]
  refine h.sameLookup hdb h.indexes.ip hbatch (fun row _ hp => ?_) fun chassis _ row _ hmirrors => ?_
  · rw [decide_eq_true_eq] at hp
    have hmem : row.ip ∈ keys.ips.map getPrepValue := by
      refine List.mem_map.mpr ⟨key, hbatch, ?_⟩
      rw [hp, ← hstored, getPrepValue_getPrepValue]
    exact selects_eq_true.mpr (.inr (.inr (.inl hmem)))
  · rw [decide_eq_true_eq, ipColumn_eq hmirrors.ip, Option.some.injEq, hstored]

theorem apiId_sameLookup :
    SameLookup db index (index.apiId manufacturer.pk payload.apiDeviceId)
      (db.getApiId manufacturer payload.apiDeviceId) := by
  have hbatch := (mem_ofPayloads hkeys hpayload).2.2.2
  refine h.sameLookup hdb h.indexes.apiId (List.mem_map_of_mem hbatch) (fun row _ hp => ?_)
    fun chassis _ row _ hmirrors => ?_
  · rw [decide_eq_true_eq] at hp
    exact selects_eq_true.mpr (.inr (.inr (.inr ⟨hp.1, hp.2 ▸ hbatch⟩)))
  · rw [decide_eq_true_eq, apiIdColumn, Option.some.injEq, Prod.mk.injEq, hmirrors.manufacturer,
      hmirrors.apiDeviceId]

/-- The lookups by hardware address agree, or differ only in a row that the serial number finds. -/
theorem mac_sameLookup {known : Chassis → Prop}
    (hknown : ∀ chassis ∈ index.objects, ∀ row ∈ db.chassis, Mirrors chassis row → known row)
    (hagrees : MacAgrees known db payload) :
    SameLookup db index (resolveMacIdentity db payload.mac (some index))
        (resolveMacIdentity db payload.mac none) ∨
      ∃ chassis ∈ index.objects, ∃ row ∈ db.chassis, Mirrors chassis row ∧
        HoldsSerial payload.serial row ∧
        resolveMacIdentity db payload.mac (some index) = .ok (some chassis) ∧
        resolveMacIdentity db payload.mac none = .ok none := by
  cases hmac : payload.mac with
  | none => exact .inl .none
  | some mac =>
      have hbatch := (mem_ofPayloads hkeys hpayload).2.1 mac hmac
      have hcanonical := (NormalizedHardware.mac_eq_some.mp hmac).2
      have hholds : ∀ row : Chassis,
          (row.macAddress.any fun stored => stored ∈ macAddressQueryVariants mac) = true ↔
            HoldsMac payload.mac row := by
        intro row
        simp only [HoldsMac, hmac, canonicalizeMacAddress_of_isCanonical hcanonical,
          Option.mem_some_iff, exists_eq_left', Option.any_eq_true, decide_eq_true_eq]
        rfl
      have hcolumn : ∀ chassis row, Mirrors chassis row →
          (macColumn chassis = some mac ↔ HoldsCanonicalMac payload row) := by
        intro chassis row hmirrors
        simp [HoldsCanonicalMac, macColumn, hmac, hmirrors.macAddress]
      have hcovers : ∀ row ∈ db.chassis, HoldsMac payload.mac row →
          keys.selects manufacturer row = true := by
        intro row _ hrow
        obtain ⟨stored, hstored, hvariant⟩ := (Option.any_eq_true _ _).mp ((hholds row).mpr hrow)
        exact selects_eq_true.mpr
          (.inr (.inl ⟨stored, hstored, mac, hbatch, of_decide_eq_true hvariant⟩))
      obtain ⟨hindex, htable⟩ := resolveMacIdentity_some db index hcanonical
      rw [hindex, htable]
      by_cases hspelled : ∀ row ∈ db.chassis, known row → HoldsCanonicalMac payload row →
          HoldsMac payload.mac row
      · refine .inl (h.sameLookup hdb h.indexes.mac hbatch
          (fun row hrow hp => hcovers row hrow ((hholds row).mp hp))
          fun chassis hchassis row hrow hmirrors => ?_)
        rw [hholds, hcolumn chassis row hmirrors]
        exact ⟨HoldsMac.holdsCanonicalMac,
          hspelled row hrow (hknown chassis hchassis row hrow hmirrors)⟩
      · push Not at hspelled
        obtain ⟨row, hrow, hrowKnown, hrowMac, hrowSpelled⟩ := hspelled
        obtain ⟨hserial, honly⟩ := (hagrees row hrow hrowKnown hrowMac).resolve_left hrowSpelled
        have hserialBatch := (mem_ofPayloads hkeys hpayload).1 row.serialNumber
        have hselects : keys.selects manufacturer row = true := by
          have hpayloadSerial : payload.serial = some row.serialNumber :=
            (Option.filter_eq_some_iff.mp hserial).1
          exact selects_eq_true.mpr (.inl (hserialBatch hpayloadSerial))
        obtain ⟨chassis, hchassis, hpk⟩ := h.covers row hrow hselects
        have hmirrors := h.mirrors_row hdb hchassis hrow hpk.symm
        refine .inr ⟨chassis, hchassis, row, hrow, hmirrors, hserial, ?_, ?_⟩
        · apply unique_singleton h.unique hchassis
          rw [uniqueMatch_eq_some]
          have hentries : ∀ k, k ∈ index.byMac mac ↔ k ∈ [chassis.pk] := by
            intro k
            rw [h.indexes.mac.mem_iff mac hbatch, List.mem_singleton]
            constructor
            · rintro ⟨other, hother, hotherMac, rfl⟩
              obtain ⟨otherRow, hotherRow, hotherMirrors⟩ := h.mirrors other hother
              have heq :=
                honly otherRow hotherRow (hknown other hother otherRow hotherRow hotherMirrors)
                ((hcolumn other otherRow hotherMirrors).mp hotherMac)
              rw [hotherMirrors.pk, heq, hmirrors.pk]
            · rintro rfl
              exact ⟨chassis, hchassis, (hcolumn chassis row hmirrors).mpr hrowMac, rfl⟩
          exact List.perm_singleton.mp ((List.perm_ext_iff_of_nodup
            (h.indexes.mac.nodup mac hbatch) (List.nodup_singleton _)).mpr hentries)
        · refine uniqueMatch_filter_eq_none.mpr fun other hother hp => hrowSpelled ?_
          have hotherHolds := (hholds other).mp hp
          obtain ⟨object, hobject, hobjectPk⟩ :=
            h.covers other hother (hcovers other hother hotherHolds)
          have hobjectMirrors := h.mirrors_row hdb hobject hother hobjectPk.symm
          rw [← honly other hother (hknown object hobject other hother hobjectMirrors)
            hotherHolds.holdsCanonicalMac]
          exact hotherHolds

end Device

end Lookup

end Micboard
