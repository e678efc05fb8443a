import Micboard.SyncEffect

/-! The identity index stays a view of the chassis table. Its instances stand for stored rows, every
row that holds an identity of the batch has one, and its four dictionaries index them. This holds of
the index that is built for a batch, and handling a device keeps it. -/

namespace Micboard

open Library

/-- The instance stands for the row. It may spell the address as it was typed. -/
structure Mirrors (chassis row : Chassis) : Prop where
  pk : chassis.pk = row.pk
  manufacturer : chassis.manufacturer = row.manufacturer
  apiDeviceId : chassis.apiDeviceId = row.apiDeviceId
  serialNumber : chassis.serialNumber = row.serialNumber
  macAddress : chassis.macAddress = row.macAddress
  status : chassis.status = row.status
  ip : ipKey chassis.ip = .ok row.ip

def serialColumn (chassis : Chassis) : Option String := some chassis.serialNumber

def macColumn (chassis : Chassis) : Option String := canonicalizeMacAddress chassis.macAddress

def ipColumn (chassis : Chassis) : Option String := (ipKey chassis.ip).toOption

def apiIdColumn (chassis : Chassis) : Option (Nat × String) :=
  some (chassis.manufacturer.pk, chassis.apiDeviceId)

theorem ipColumn_eq {chassis : Chassis} {key : String} (h : ipKey chassis.ip = .ok key) :
    ipColumn chassis = some key := by
  rw [ipColumn, h]
  rfl

section

variable (keys : IdentityKeys) (manufacturer : Manufacturer)

/-- The dictionaries index the instances by the identities of the batch. -/
structure IndexesObjects (index : DeviceIdentityIndex) : Prop where
  serial : Indexes Chassis.pk serialColumn keys.serials index.objects index.bySerial
  mac : Indexes Chassis.pk macColumn keys.macs index.objects index.byMac
  ip : Indexes Chassis.pk ipColumn keys.ips index.objects index.byIp
  apiId : Indexes Chassis.pk apiIdColumn (keys.apiIds.map (manufacturer.pk, ·)) index.objects
    index.byApiId

/-- The index is a view of the table. -/
structure IndexInv (db : Inventory) (index : DeviceIdentityIndex) : Prop where
  unique : UniqueOn Chassis.pk index.objects
  mirrors : ∀ chassis ∈ index.objects, ∃ row ∈ db.chassis, Mirrors chassis row
  covers : ∀ row ∈ db.chassis, keys.selects manufacturer row = true →
    ∃ chassis ∈ index.objects, chassis.pk = row.pk
  indexes : IndexesObjects keys manufacturer index

end

section Build

variable {keys : IdentityKeys} {manufacturer : Manufacturer}

theorem indexesObjects_empty : IndexesObjects keys manufacturer DeviceIdentityIndex.empty where
  serial := indexes_nil _ _ _
  mac := indexes_nil _ _ _
  ip := indexes_nil _ _ _
  apiId := indexes_nil _ _ _

theorem IndexesObjects.register {index index' : DeviceIdentityIndex}
    (h : IndexesObjects keys manufacturer index) {chassis : Chassis}
    (hok : DeviceIdentityIndex.register keys manufacturer index chassis = .ok index') :
    IndexesObjects keys manufacturer index' ∧ index'.objects = index.objects ++ [chassis] ∧
      ∃ key, ipKey chassis.ip = .ok key := by
  unfold DeviceIdentityIndex.register at hok
  simp only [bind_eq_ok, Except.ok.injEq] at hok
  obtain ⟨key, hkey, rfl⟩ := hok
  refine ⟨⟨?_, ?_, ?_, ?_⟩, rfl, key, hkey⟩
  · show Indexes _ _ _ (index.objects ++ [chassis]) (if _ then _ else _)
    split
    next => exact h.serial.append_object rfl
    next hbatch =>
      refine h.serial.append_unindexed ?_
      rintro serial hserial ⟨⟩
      exact hbatch hserial
  · dsimp only
    cases hmac : canonicalizeMacAddress chassis.macAddress with
    | none => exact h.mac.append_unindexed fun mac _ heq => by simp [macColumn, hmac] at heq
    | some mac =>
        simp only
        split
        next => exact h.mac.append_object hmac
        next hbatch =>
          refine h.mac.append_unindexed fun other hother heq => hbatch ?_
          rw [macColumn, hmac, Option.some.injEq] at heq
          exact heq ▸ hother
  · show Indexes _ _ _ (index.objects ++ [chassis]) (if _ then _ else _)
    split
    next => exact h.ip.append_object (ipColumn_eq hkey)
    next hbatch =>
      refine h.ip.append_unindexed fun other hother heq => hbatch ?_
      rw [ipColumn_eq hkey, Option.some.injEq] at heq
      exact heq ▸ hother
  · show Indexes _ _ _ (index.objects ++ [chassis]) (if _ then _ else _)
    split
    next => exact h.apiId.append_object rfl
    next hbatch =>
      refine h.apiId.append_unindexed ?_
      rintro _ hother ⟨⟩
      rw [List.mem_map] at hother
      obtain ⟨apiDeviceId, hmem, heq⟩ := hother
      obtain ⟨howner, rfl⟩ := Prod.mk.inj heq
      exact hbatch ⟨howner.symm, hmem⟩

/-- The index that is built for a batch holds the selected rows and is a view of the table. -/
theorem build_indexInv {db : Inventory} {payloads : List NormalizedHardware}
    {index : DeviceIdentityIndex} (hdb : db.Consistent)
    (hkeys : IdentityKeys.ofPayloads payloads = .ok keys)
    (hbuild : DeviceIdentityIndex.build db payloads manufacturer = .ok index) :
    IndexInv keys manufacturer db index ∧
      index.objects = db.chassis.filter (keys.selects manufacturer) := by
  unfold DeviceIdentityIndex.build at hbuild
  obtain ⟨keys', hkeys', hfold⟩ := bind_eq_ok.mp hbuild
  rw [hkeys, Except.ok.injEq] at hkeys'
  subst hkeys'
  have hloaded := foldlM_prefix_invariant
    (fun seen index => IndexesObjects keys manufacturer index ∧ index.objects = seen ∧
      ∀ chassis ∈ seen, ∃ key, ipKey chassis.ip = .ok key) ?_
    ⟨indexesObjects_empty, rfl, by simp⟩ hfold
  · obtain ⟨hindexes, hobjects, hkey⟩ := hloaded
    refine ⟨⟨?_, ?_, ?_, hindexes⟩, hobjects⟩
    · rw [hobjects]
      exact hdb.pk_unique.sublist (List.filter_sublist.map Chassis.pk)
    · intro chassis hchassis
      rw [hobjects] at hchassis
      obtain ⟨key, hip⟩ := hkey chassis hchassis
      have hmem := (List.mem_filter.mp hchassis).1
      refine ⟨chassis, hmem, rfl, rfl, rfl, rfl, rfl, rfl, ?_⟩
      rw [hip, ← getPrepValue_of_ipKey hip, (hdb.ip_stored chassis hmem).2]
    · intro row hrow hselects
      rw [hobjects]
      exact ⟨row, List.mem_filter.mpr ⟨hrow, hselects⟩, rfl⟩
  · rintro seen chassis rest index index' - ⟨hindexes, hobjects, hkey⟩ hok
    obtain ⟨hindexes', hobjects', hip⟩ := hindexes.register hok
    refine ⟨hindexes', by rw [hobjects', hobjects], ?_⟩
    intro other hother
    rcases List.mem_append.mp hother with hother | hother
    · exact hkey other hother
    · rwa [List.mem_singleton.mp hother]

end Build

/-! ### Handling a device -/

section Step

variable {keys : IdentityKeys} {manufacturer : Manufacturer} {db db' : Inventory}
  {index index' : DeviceIdentityIndex} {payload : NormalizedHardware}

theorem IndexInv.mirrors_row (h : IndexInv keys manufacturer db index) (hdb : db.Consistent)
    {chassis row : Chassis} (hchassis : chassis ∈ index.objects) (hrow : row ∈ db.chassis)
    (hpk : row.pk = chassis.pk) : Mirrors chassis row := by
  obtain ⟨row', hrow', hmirrors⟩ := h.mirrors chassis hchassis
  rwa [hdb.pk_unique.eq hrow hrow' (hpk.trans hmirrors.pk)]

/-- What a refresh does to the index: the instance is rewritten, and is found under its new address. -/
theorem indexFollows_some {setIp : Bool} {existing saved : Chassis} {oldKey : String}
    {next : Option DeviceIdentityIndex} (hne : existing.ip ≠ "") (hkey : ipKey existing.ip = .ok oldKey)
    (h : IndexFollows (some index) next setIp existing saved) :
    ∃ index', next = some index' ∧ index'.objects = replaceRow Chassis.pk saved index.objects ∧
      index'.bySerial = index.bySerial ∧ index'.byMac = index.byMac ∧
      index'.byApiId = index.byApiId ∧
      ((setIp = false ∧ index'.byIp = index.byIp) ∨
        (setIp = true ∧ ∃ newKey, ipKey saved.ip = .ok newKey ∧ index'.byIp =
          appendMatch (Function.update index.byIp oldKey
            ((index.byIp oldKey).filter (· ≠ saved.pk))) newKey saved.pk)) := by
  unfold IndexFollows at h
  cases setIp with
  | false =>
      refine ⟨_, h, rfl, rfl, rfl, rfl, .inl ⟨rfl, rfl⟩⟩
  | true =>
      rw [if_pos rfl, noteMoved] at h
      simp only [if_neg hne, DeviceIdentityIndex.moveIp, bind_eq_ok, Except.ok.injEq] at h
      obtain ⟨index', ⟨oldKey', hold, newKey, hnew, rfl⟩, rfl⟩ := h
      rw [hkey, Except.ok.injEq] at hold
      subst hold
      exact ⟨_, rfl, rfl, rfl, rfl, rfl, .inr ⟨rfl, newKey, hnew, rfl⟩⟩

/-- The refreshed instance stands for the rewritten row. -/
theorem Refreshed.mirrors {setIp : Bool} {existing saved row row' : Chassis}
    (hrefreshed : Refreshed db db' payload setIp existing saved row row')
    (hmirrors : Mirrors existing row) (hkey : setIp = true → ∃ newKey, ipKey saved.ip = .ok newKey) :
    Mirrors saved row' := by
  obtain ⟨hpk, hmanufacturer, hapiId, hserialNumber, hmacAddress, hip⟩ := hrefreshed.saved_identity
  have hrow := hrefreshed.row_identity
  refine ⟨?_, ?_, ?_, ?_, ?_, ?_, ?_⟩
  · exact hpk.trans (hrefreshed.pk.symm.trans hrefreshed.rewrites.pk.symm)
  · exact hmanufacturer.trans (hmirrors.manufacturer.trans hrow.manufacturer.symm)
  · exact hapiId.trans (hmirrors.apiDeviceId.trans hrow.apiDeviceId.symm)
  · exact hserialNumber.trans (hmirrors.serialNumber.trans hrow.serialNumber.symm)
  · rw [hrow.macAddress, refreshedRow_macAddress payload setIp hmirrors.macAddress,
      ← hmirrors.macAddress]
    exact hmacAddress
  · rcases hrefreshed.status with ⟨-, hrowStatus, hsavedStatus⟩ | ⟨-, hrowStatus, hsavedStatus⟩
    · rw [hrowStatus, hsavedStatus, hmirrors.status]
    · rw [hrowStatus, hsavedStatus]
  · rw [hrow.ip]
    cases setIp with
    | false =>
        rw [hip]
        exact hmirrors.ip
    | true =>
        obtain ⟨newKey, hnew⟩ := hkey rfl
        have hsaved : saved.ip = payload.ip := hip
        rw [hnew, ← getPrepValue_of_ipKey hnew, hsaved]
        rfl

/-- Refreshing a device keeps the index a view of the table. -/
theorem IndexInv.refreshed (h : IndexInv keys manufacturer db index) (hdb : db.Consistent)
    {setIp : Bool} {existing saved row row' : Chassis} {next : Option DeviceIdentityIndex}
    (hexisting : existing ∈ index.objects)
    (hrefreshed : Refreshed db db' payload setIp existing saved row row')
    (hfollows : IndexFollows (some index) next setIp existing saved) :
    ∃ index', next = some index' ∧ IndexInv keys manufacturer db' index' ∧
      index'.objects = replaceRow Chassis.pk saved index.objects := by
  have hrow : row ∈ db.chassis := Inventory.find_mem hrefreshed.rewrites.find
  have hmirrors := h.mirrors_row hdb hexisting hrow hrefreshed.pk
  have hne : existing.ip ≠ "" := by
    intro hempty
    have hkey := hmirrors.ip
    rw [hempty, show ipKey "" = .ok "" from rfl, Except.ok.injEq] at hkey
    exact (hdb.ip_stored row hrow).1 hkey.symm
  obtain ⟨index', hnext, hobjects, hserial, hmac, hapi, hip⟩ :=
    indexFollows_some hne hmirrors.ip hfollows
  obtain ⟨hpk, hmanufacturer, hapiId, hserialNumber, hmacAddress, hsavedIp⟩ :=
    hrefreshed.saved_identity
  have hpk' : existing.pk = saved.pk := hpk.symm
  have hsaved : Mirrors saved row' := by
    refine hrefreshed.mirrors hmirrors ?_
    rintro rfl
    rcases hip with ⟨hfalse, -⟩ | ⟨-, newKey, hnew, -⟩
    · cases hfalse
    · exact ⟨newKey, hnew⟩
  refine ⟨index', hnext, ⟨?_, ?_, ?_, ?_, ?_, ?_, ?_⟩, hobjects⟩
  · rw [hobjects, UniqueOn, map_pk_replaceRow]
    exact h.unique
  · intro chassis hchassis
    rw [hobjects, mem_replaceRow] at hchassis
    rcases hchassis with ⟨rfl, -⟩ | ⟨hchassis, hother⟩
    · exact ⟨row', hrefreshed.rewrites.mem.mpr (.inl rfl), hsaved⟩
    · obtain ⟨other, hotherMem, hotherMirrors⟩ := h.mirrors chassis hchassis
      refine ⟨other, hrefreshed.rewrites.mem.mpr (.inr ⟨hotherMem, ?_⟩), hotherMirrors⟩
      rw [← hotherMirrors.pk, hrefreshed.pk, hpk']
      exact hother
  · intro other hother hselects
    rw [hobjects]
    rcases hrefreshed.rewrites.mem.mp hother with rfl | ⟨hother, hne⟩
    · exact ⟨saved, mem_replaceRow_self Chassis.pk hexisting hpk', hsaved.pk⟩
    · obtain ⟨chassis, hchassis, hchassisPk⟩ := h.covers other hother hselects
      refine ⟨chassis, (mem_replaceRow Chassis.pk).mpr (.inr ⟨hchassis, ?_⟩), hchassisPk⟩
      rw [hchassisPk, hpk, ← hrefreshed.pk]
      exact hne
  · rw [hobjects, hserial]
    refine h.indexes.serial.replace_same h.unique hexisting hpk' ?_
    exact congrArg some hserialNumber
  · rw [hobjects, hmac]
    refine h.indexes.mac.replace_same h.unique hexisting hpk' ?_
    rw [macColumn, hmacAddress]
    exact canonicalizeMacAddress_refreshedMac payload existing.macAddress
  · rw [hobjects]
    rcases hip with ⟨rfl, hip⟩ | ⟨-, newKey, hnew, hip⟩
    · rw [hip]
      refine h.indexes.ip.replace_same h.unique hexisting hpk' ?_
      rw [ipColumn, ipColumn, hsavedIp]
      rfl
    · rw [hip]
      exact h.indexes.ip.replace_moved hexisting hpk' h.unique (ipColumn_eq hmirrors.ip)
        (ipColumn_eq hnew)
  · rw [hobjects, hapi]
    refine h.indexes.apiId.replace_same h.unique hexisting hpk' ?_
    rw [apiIdColumn, hmanufacturer, hapiId]
    rfl

/-- Adding a created device keeps the index a view of the table. -/
theorem IndexInv.created (h : IndexInv keys manufacturer db index) (hdb : db.Consistent)
    {owner : Manufacturer} {chassis row : Chassis}
    (hcreated : Created db db' owner payload chassis row) (hadd : index.add chassis = .ok index') :
    IndexInv keys manufacturer db' index' ∧ index'.objects = index.objects ++ [chassis] := by
  unfold DeviceIdentityIndex.add at hadd
  simp only [bind_eq_ok, Except.ok.injEq] at hadd
  obtain ⟨key, hkey, rfl⟩ := hadd
  obtain ⟨hpk, hmanufacturer, hapi, hserial, hmac, hip⟩ := hcreated.row_identity
  have hmirrors : Mirrors chassis row := by
    refine ⟨hpk.symm, hmanufacturer.symm, hapi.symm, hserial.symm, hmac.symm,
      hcreated.row_status.symm, ?_⟩
    rw [hip, hkey, ← getPrepValue_of_ipKey hkey]
  have hrows : db'.chassis = db.chassis ++ [row] := by
    rw [hcreated.inserts, Inventory.insertRow_chassis]
  refine ⟨⟨?_, ?_, ?_, ?_, ?_, ?_, ?_⟩, rfl⟩
  · refine h.unique.append_row fun other hother heq => ?_
    obtain ⟨otherRow, hotherRow, hotherMirrors⟩ := h.mirrors other hother
    have hlt := hdb.pk_lt otherRow hotherRow
    rw [← hotherMirrors.pk, heq, hcreated.pk] at hlt
    exact lt_irrefl _ hlt
  · intro other hother
    rw [hrows]
    rcases List.mem_append.mp hother with hother | hother
    · obtain ⟨otherRow, hotherRow, hotherMirrors⟩ := h.mirrors other hother
      exact ⟨otherRow, List.mem_append_left _ hotherRow, hotherMirrors⟩
    · rw [List.mem_singleton.mp hother]
      exact ⟨row, by simp, hmirrors⟩
  · intro other hother hselects
    rw [hrows] at hother
    rcases List.mem_append.mp hother with hother | hother
    · obtain ⟨object, hobject, hobjectPk⟩ := h.covers other hother hselects
      exact ⟨object, List.mem_append_left _ hobject, hobjectPk⟩
    · rw [List.mem_singleton.mp hother]
      exact ⟨chassis, by simp, hmirrors.pk⟩
  · show Indexes _ _ _ (index.objects ++ [chassis]) (if _ then _ else _)
    split
    next => exact h.indexes.serial.append_object rfl
    next hempty =>
      refine h.indexes.serial.append_unindexed ?_
      rintro serial hbatch ⟨⟩
      exact hempty (keys.serials_ne _ hbatch)
  · dsimp only
    cases hcanonical : canonicalizeMacAddress chassis.macAddress with
    | none =>
        exact h.indexes.mac.append_unindexed fun mac _ heq => by simp [macColumn, hcanonical] at heq
    | some mac => exact h.indexes.mac.append_object hcanonical
  · exact h.indexes.ip.append_object (ipColumn_eq hkey)
  · exact h.indexes.apiId.append_object rfl

end Step

end Micboard
