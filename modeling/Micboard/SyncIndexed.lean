import Micboard.IndexAgreement

/-! A batch with its index. The index that is built once and maintained by the batch stays a view of
the table at every step, so each device is judged as a fresh query of the table would judge it,
unless a stored hardware address is spelled outside the queried ways or an earlier device of the
batch typed an address in another way than it is stored. -/

namespace Micboard

open Library Library.Text

section Resolved

variable {db : Inventory} {index : DeviceIdentityIndex} {existing : Chassis}

theorem unique_mem {entries : List Nat} (h : index.unique entries = .ok (some existing)) :
    existing ∈ index.objects := by
  unfold DeviceIdentityIndex.unique at h
  obtain ⟨found, -, h⟩ := bind_eq_ok.mp h
  cases found with
  | none => cases h
  | some pk => exact List.mem_of_find?_eq_some (Except.ok.inj h)

theorem checkByDurableKey_resolved {matchType ip : String} {manufacturer : Manufacturer}
    {found : Option Chassis} {result : DeduplicationResult}
    (h : checkByDurableKey matchType ip manufacturer found = some result)
    (hresolved : result.resolvedDevice = some existing) : found = some existing := by
  unfold checkByDurableKey at h
  obtain ⟨device, rfl, rfl⟩ := Option.map_eq_some_iff.mp h
  unfold checkManufacturerConflict at hresolved
  split at hresolved
  next =>
    rw [Option.getD_none, resolvedDevice_matchResult] at hresolved
    exact hresolved
  next => cases hresolved

theorem checkByIp_resolved {serialNumber macAddress : Option String} {found : Option Chassis}
    {result : DeduplicationResult} (h : checkByIp serialNumber macAddress found = some result)
    (hresolved : result.resolvedDevice = some existing) : found = some existing := by
  unfold checkByIp at h
  obtain ⟨device, rfl, rfl⟩ := Option.map_eq_some_iff.mp h
  split at hresolved
  next => cases hresolved
  next =>
    split at hresolved
    next => cases hresolved
    next => exact hresolved

/-- A device that is found through the index is one of its instances. -/
theorem checkDevice_resolved_mem {serialNumber macAddress : Option String} {ip apiDeviceId : String}
    {manufacturer : Manufacturer} {result : DeduplicationResult}
    (h : checkDevice db serialNumber macAddress ip apiDeviceId (some manufacturer) (some index) =
      .ok result) (hresolved : result.resolvedDevice = some existing) :
    existing ∈ index.objects := by
  rw [checkDevice_eq] at h
  obtain ⟨serialExisting, hserial, h⟩ := bind_eq_ok.mp h
  obtain ⟨macExisting, hmac, h⟩ := bind_eq_ok.mp h
  have hserialMem : serialExisting = some existing → existing ∈ index.objects := by
    rintro rfl
    unfold resolveSerialIdentity at hserial
    split at hserial
    next => cases hserial
    next => exact unique_mem hserial
  have hmacMem : macExisting = some existing → existing ∈ index.objects := by
    rintro rfl
    unfold resolveMacIdentity at hmac
    split at hmac
    next => cases hmac
    next =>
      unfold DeviceIdentityIndex.mac at hmac
      simp only at hmac
      split at hmac
      next => cases hmac
      next => exact unique_mem hmac
  unfold checkAfterDurable at h
  simp only at h
  split at h
  next hconflict =>
    cases h
    obtain ⟨_, _, _, rfl⟩ := checkDurableIdentityConflict_conflict hconflict
    cases hresolved
  next =>
  split at h
  next hfound =>
    cases h
    rcases Option.or_eq_some_iff.mp hfound with hfound | ⟨-, hfound⟩
    · exact hserialMem (checkByDurableKey_resolved hfound hresolved)
    · exact hmacMem (checkByDurableKey_resolved hfound hresolved)
  next =>
  obtain ⟨ipExisting, hip, h⟩ := bind_eq_ok.mp h
  split at h
  next hfound =>
    cases h
    rw [checkByIp_resolved hfound hresolved] at hip
    unfold DeviceIdentityIndex.ip at hip
    obtain ⟨key, -, hip⟩ := bind_eq_ok.mp hip
    exact unique_mem hip
  next =>
  obtain ⟨apiExisting, hapi, h⟩ := bind_eq_ok.mp h
  split at h
  next hfound =>
    cases h
    obtain ⟨device, rfl, rfl⟩ := Option.map_eq_some_iff.mp hfound
    rw [resolvedDevice_matchResult, Option.some.injEq] at hresolved
    rw [hresolved] at hapi
    exact unique_mem hapi
  next =>
    cases h
    cases hresolved

end Resolved

/-- The rows a batch knows: those its bulk queries selected, and those created since. -/
def KnownRow (keys : IdentityKeys) (manufacturer : Manufacturer) (initial : Inventory)
    (row : Chassis) : Prop :=
  ∀ old ∈ initial.chassis, old.pk = row.pk → keys.selects manufacturer old = true

/-- What holds after the devices `seen` of a batch that started with the tables `initial`. -/
structure BatchInv (keys : IdentityKeys) (manufacturer : Manufacturer) (initial : Inventory)
    (seen : List NormalizedHardware) (db : Inventory) (index : DeviceIdentityIndex) : Prop where
  consistent : db.Consistent
  nextPk_le : initial.nextPk ≤ db.nextPk
  view : IndexInv keys manufacturer db index
  known : ∀ chassis ∈ index.objects, KnownRow keys manufacturer initial chassis
  typed : ∀ chassis ∈ index.objects, getPrepValue chassis.ip = chassis.ip ∨
    ∃ payload ∈ seen, chassis.ip = payload.ip

section Batch

variable {keys : IdentityKeys} {manufacturer : Manufacturer} {initial : Inventory}
  {payloads seen : List NormalizedHardware} {payload : NormalizedHardware} {now : Time}

theorem batchInv_start {index : DeviceIdentityIndex} (hdb : initial.Consistent)
    (hkeys : IdentityKeys.ofPayloads payloads = .ok keys)
    (hbuild : DeviceIdentityIndex.build initial payloads manufacturer = .ok index) :
    BatchInv keys manufacturer initial [] initial index := by
  obtain ⟨hview, hobjects⟩ := build_indexInv hdb hkeys hbuild
  refine ⟨hdb, le_rfl, hview, ?_, ?_⟩
  · intro chassis hchassis old hold hpk
    rw [hobjects, List.mem_filter] at hchassis
    rw [hdb.pk_unique.eq hold hchassis.1 hpk]
    exact hchassis.2
  · intro chassis hchassis
    rw [hobjects, List.mem_filter] at hchassis
    exact .inl (hdb.ip_stored chassis hchassis.1).2

/-- Handling a device keeps the invariant of the batch. -/
theorem BatchInv.step {db : Inventory} {index : DeviceIdentityIndex}
    (h : BatchInv keys manufacturer initial seen db index) (hdb : initial.Consistent)
    {state' : SyncState} {outcome : Option SyncOutcome}
    (hok : syncNormalizedDevice now manufacturer ⟨db, some index⟩ payload = .ok (state', outcome)) :
    ∃ index', state'.identityIndex = some index' ∧
      BatchInv keys manufacturer initial (seen ++ [payload]) state'.inventory index' := by
  obtain ⟨hconsistent', result, hcheck, heffect⟩ := syncNormalizedDevice_effect h.consistent hok
  have htyped : ∀ chassis ∈ index.objects, getPrepValue chassis.ip = chassis.ip ∨
      ∃ earlier ∈ seen ++ [payload], chassis.ip = earlier.ip := by
    intro chassis hchassis
    refine (h.typed chassis hchassis).imp_right ?_
    rintro ⟨earlier, hearlier, heq⟩
    exact ⟨earlier, List.mem_append_left _ hearlier, heq⟩
  cases heffect with
  | skipped hnew hforeign hstate =>
      subst hstate
      exact ⟨index, rfl, h.consistent, h.nextPk_le, h.view, h.known, htyped⟩
  | @refreshed _ existing saved row row' hresolved howner hrefreshed hindex =>
      have hexisting := checkDevice_resolved_mem hcheck hresolved
      obtain ⟨index', hindex', hview, hobjects⟩ :=
        h.view.refreshed h.consistent hexisting hrefreshed hindex
      have hnextPk : state'.inventory.nextPk = db.nextPk := by
        rw [hrefreshed.rewrites.eq]
        rfl
      have hsaved := hrefreshed.saved_identity
      refine ⟨index', hindex', hconsistent', hnextPk ▸ h.nextPk_le, hview, ?_, ?_⟩
      · intro chassis hchassis
        rw [hobjects, mem_replaceRow] at hchassis
        rcases hchassis with ⟨rfl, -⟩ | ⟨hchassis, -⟩
        · intro old hold hpk
          exact h.known existing hexisting old hold (hpk.trans hsaved.pk)
        · exact h.known chassis hchassis
      · intro chassis hchassis
        rw [hobjects, mem_replaceRow] at hchassis
        rcases hchassis with ⟨rfl, -⟩ | ⟨hchassis, -⟩
        · rw [hsaved.ip]
          split
          next => exact .inr ⟨payload, by simp, rfl⟩
          next => exact htyped existing hexisting
        · exact htyped chassis hchassis
  | @created chassis row hcreated hindex =>
      obtain ⟨index', hadd, hindex'⟩ := hindex
      obtain ⟨hview, hobjects⟩ := h.view.created h.consistent hcreated hadd
      have hnextPk : state'.inventory.nextPk = db.nextPk + 1 := by
        rw [hcreated.inserts]
        rfl
      refine ⟨index', hindex', hconsistent', ?_, hview, ?_, ?_⟩
      · rw [hnextPk]
        exact Nat.le_succ_of_le h.nextPk_le
      · intro other hother
        rw [hobjects, List.mem_append, List.mem_singleton] at hother
        rcases hother with hother | rfl
        · exact h.known other hother
        · intro old hold hpk
          have hlt := hdb.pk_lt old hold
          rw [hpk, hcreated.pk] at hlt
          exact absurd h.nextPk_le (Nat.not_le.mpr hlt)
      · intro other hother
        rw [hobjects, List.mem_append, List.mem_singleton] at hother
        rcases hother with hother | rfl
        · exact htyped other hother
        · exact .inr ⟨payload, by simp, hcreated.ip⟩

/-- The invariant holds after every part of a batch. -/
theorem batchInv_run {index : DeviceIdentityIndex} {run : SyncRun} (hdb : initial.Consistent)
    (hkeys : IdentityKeys.ofPayloads payloads = .ok keys)
    (hbuild : DeviceIdentityIndex.build initial payloads manufacturer = .ok index)
    (hrun : seen.foldlM (syncStep now manufacturer) (.start initial index) = .ok run) :
    ∃ index', run.identityIndex = some index' ∧
      BatchInv keys manufacturer initial seen run.inventory index' := by
  refine foldlM_prefix_invariant (fun seen (run : SyncRun) => ∃ index',
    run.identityIndex = some index' ∧ BatchInv keys manufacturer initial seen run.inventory index')
    ?_ ⟨index, rfl, batchInv_start hdb hkeys hbuild⟩ hrun
  rintro seen payload rest run run' - ⟨index', hindex', hinv⟩ hstep
  unfold syncStep at hstep
  simp only [bind_eq_ok, Prod.exists, Except.ok.injEq] at hstep
  obtain ⟨state', outcome, hok, rfl⟩ := hstep
  have hstate : run.toSyncState = ⟨run.inventory, some index'⟩ := by rw [← hindex']
  rw [hstate] at hok
  exact hinv.step hdb hok

end Batch

/-! ### Agreement -/

/-- What a caller sees of a result: its kind, the existing device and the conflict type. -/
def DeduplicationResult.summary (result : DeduplicationResult) :
    DeduplicationOutcome × Option Nat × Option String :=
  (result.outcome, result.existingDevice.map Chassis.pk, result.conflictType)

theorem SameResult.summary_eq {result result' : DeduplicationResult} (h : SameResult result result') :
    result.summary = result'.summary := by
  cases h with
  | new => rfl
  | duplicate h => simp [DeduplicationResult.summary, DeduplicationResult.outcome,
      DeduplicationResult.existingDevice, DeduplicationResult.conflictType, h.pk]
  | moved h => simp [DeduplicationResult.summary, DeduplicationResult.outcome,
      DeduplicationResult.existingDevice, DeduplicationResult.conflictType, h.pk]
  | conflict h =>
      cases h with
      | none => rfl
      | some h => simp [DeduplicationResult.summary, DeduplicationResult.outcome,
          DeduplicationResult.existingDevice, DeduplicationResult.conflictType, h.pk]

/-- No earlier device of the batch typed the address of the device, or typed in another way what is
stored as its address. -/
def AddressesAgree (seen : List NormalizedHardware) (payload : NormalizedHardware) : Prop :=
  ∀ earlier ∈ seen, ipKey earlier.ip = .ok earlier.ip ∨
    (earlier.ip ≠ payload.ip ∧ ipKey earlier.ip ≠ .ok payload.ip)

/-- At every step of a batch at which the spellings agree, a check against the running index returns the
same kind of result with the same existing device as a check against the table, and raises exactly when
that one does. -/
theorem indexed_check_agrees {now : Time} {db : Inventory} {manufacturer : Manufacturer}
    {payloads seen rest : List NormalizedHardware} {payload : NormalizedHardware}
    {keys : IdentityKeys} {index : DeviceIdentityIndex} {run : SyncRun} (hdb : db.Consistent)
    (hkeys : IdentityKeys.ofPayloads payloads = .ok keys)
    (hbuild : DeviceIdentityIndex.build db payloads manufacturer = .ok index)
    (hsplit : payloads = seen ++ payload :: rest)
    (hrun : seen.foldlM (syncStep now manufacturer) (.start db index) = .ok run)
    (hmac : MacAgrees (KnownRow keys manufacturer db) run.inventory payload)
    (hip : AddressesAgree seen payload) :
    (checkPayload manufacturer run.toSyncState payload).map DeduplicationResult.summary =
        (checkPayload manufacturer ⟨run.inventory, none⟩ payload).map DeduplicationResult.summary ∧
      ∀ e, checkPayload manufacturer run.toSyncState payload = .error e →
        e = .multipleObjectsReturned := by
  obtain ⟨index', hindex', hinv⟩ := batchInv_run hdb hkeys hbuild hrun
  have hpayload : payload ∈ payloads := by simp [hsplit]
  have hstate : run.toSyncState = ⟨run.inventory, some index'⟩ := by rw [← hindex']
  have hsame : SameCheck (checkPayload manufacturer run.toSyncState payload)
      (checkPayload manufacturer ⟨run.inventory, none⟩ payload) := by
    rw [hstate]
    refine checkPayload_same hinv.view hinv.consistent hkeys hpayload ?_ hmac ?_
    · intro chassis hchassis row _ hmirrors old hold hpk
      exact hinv.known chassis hchassis old hold (hpk.trans hmirrors.pk.symm)
    · intro chassis hchassis row _ hmirrors
      rcases hinv.typed chassis hchassis with hstored | ⟨earlier, hearlier, htyped⟩
      · rw [← getPrepValue_of_ipKey hmirrors.ip, hstored]
      · have hkey := hmirrors.ip
        rw [htyped] at hkey ⊢
        rcases hip earlier hearlier with hcanonical | ⟨hne, hne'⟩
        · rw [hcanonical, Except.ok.injEq] at hkey
          rw [hkey]
        · rw [hkey, ne_eq, Except.ok.injEq] at hne'
          exact iff_of_false hne hne'
  have herror : ∀ e, checkPayload manufacturer ⟨run.inventory, none⟩ payload = .error e →
      e = .multipleObjectsReturned := fun e he => (checkDevice_error hinv.consistent _ _ _ _ _ he).1
  generalize checkPayload manufacturer run.toSyncState payload = first at hsame ⊢
  generalize checkPayload manufacturer ⟨run.inventory, none⟩ payload = second at hsame herror ⊢
  cases hsame with
  | error e => exact ⟨rfl, herror⟩
  | ok h =>
      refine ⟨congrArg Except.ok h.summary_eq, ?_⟩
      rintro e ⟨⟩

theorem firstId_given : trim "dev-1" = "dev-1" ∧ "dev-1" ≠ "" := by decide +kernel

theorem secondId_given : trim "dev-2" = "dev-2" ∧ "dev-2" ≠ "" := by decide +kernel

theorem firstAddress_given : trim "10.0.0.1" = "10.0.0.1" ∧ "10.0.0.1" ≠ "" := by decide +kernel

theorem firstSerial_trimmed : trim "SN-1" = "SN-1" := by decide +kernel

theorem secondSerial_trimmed : trim "SN-2" = "SN-2" := by decide +kernel

def movedReceiver : NormalizedHardware :=
  .identified "dev-1" "10.0.0.9" "SN-1" (some "aa:bb:cc:dd:ee:01") firstId_given
    (by decide +kernel) firstSerial_trimmed

def secondReceiver : NormalizedHardware :=
  .identified "dev-2" "10.0.0.1" "" none secondId_given firstAddress_given trim_empty

/-- After a device moved, its former address is free in the index as it is in the table. -/
theorem indexed_check_agrees_secondReceiver :
    ∃ index run, DeviceIdentityIndex.build receiverInventory [movedReceiver, secondReceiver] shure =
        .ok index ∧
      [movedReceiver].foldlM (syncStep 0 shure) (.start receiverInventory index) = .ok run ∧
      (checkPayload shure run.toSyncState secondReceiver).map DeduplicationResult.summary =
        (checkPayload shure ⟨run.inventory, none⟩ secondReceiver).map DeduplicationResult.summary := by
  have hruns : (liftIdentity (DeviceIdentityIndex.build receiverInventory
      [movedReceiver, secondReceiver] shure) >>= fun index =>
        [movedReceiver].foldlM (syncStep 0 shure) (.start receiverInventory index)).toBool = true := by
    decide +kernel
  obtain ⟨run, hrun⟩ := exists_eq_ok hruns
  obtain ⟨index, hbuild, hrun⟩ := bind_eq_ok.mp hrun
  rw [liftIdentity_eq_ok] at hbuild
  have hkeys : (IdentityKeys.ofPayloads [movedReceiver, secondReceiver]).toBool = true := by
    decide +kernel
  obtain ⟨keys, hkeys⟩ := exists_eq_ok hkeys
  refine ⟨index, run, hbuild, hrun, (indexed_check_agrees receiverInventory_consistent hkeys hbuild
    (List.singleton_append (x := movedReceiver) (l := [secondReceiver])).symm hrun ?_ ?_).1⟩
  · rintro row - - ⟨mac, hmac, -⟩
    have hnone : secondReceiver.mac = none := by decide +kernel
    rw [hnone] at hmac
    cases hmac
  · intro earlier hearlier
    rw [List.mem_singleton.mp hearlier]
    exact .inl (by decide +kernel)

/-- A receiver that was stored with a hardware address in mixed case and without a serial number. -/
def legacyReceiver : Chassis :=
  { storedReceiver with serialNumber := "", macAddress := some "AA:bb:CC:dd:EE:01" }

def legacyInventory : Inventory := { chassis := [legacyReceiver], chargers := [], nextPk := 2 }

theorem legacyInventory_consistent : legacyInventory.Consistent where
  pk_unique := by decide
  pk_lt := by decide
  ip_stored := by decide
  ip_unique := by decide
  api_unique := by decide

/-- The same receiver as the vendor lists it now. -/
def relistedReceiver : NormalizedHardware :=
  .identified "dev-2" "10.0.0.1" "SN-2" (some "aa:bb:cc:dd:ee:01") secondId_given firstAddress_given
    secondSerial_trimmed

/-- Only the index recognizes a hardware address that is stored in mixed case: it reports a duplicate
where the query of the table reports a conflict of addresses. -/
theorem indexed_check_differs_legacyReceiver :
    ¬ ∀ (now : Time) (db : Inventory) (manufacturer : Manufacturer)
        (payloads seen rest : List NormalizedHardware) (payload : NormalizedHardware)
        (index : DeviceIdentityIndex) (run : SyncRun), db.Consistent →
      DeviceIdentityIndex.build db payloads manufacturer = .ok index →
      payloads = seen ++ payload :: rest →
      seen.foldlM (syncStep now manufacturer) (.start db index) = .ok run →
      (checkPayload manufacturer run.toSyncState payload).map DeduplicationResult.summary =
        (checkPayload manufacturer ⟨run.inventory, none⟩ payload).map DeduplicationResult.summary := by
  intro hclaim
  have hindexed : (DeviceIdentityIndex.build legacyInventory [relistedReceiver] shure >>= fun index =>
      (checkPayload shure ⟨legacyInventory, some index⟩ relistedReceiver).map
        DeduplicationResult.summary) = .ok (.duplicate, some 1, some "duplicate") := by
    decide +kernel
  obtain ⟨index, hbuild, hindexed⟩ := bind_eq_ok.mp hindexed
  have hagree := hclaim 0 legacyInventory shure [relistedReceiver] [] [] relistedReceiver index
    (.start legacyInventory index) legacyInventory_consistent hbuild rfl rfl
  have hqueried : (checkPayload shure ⟨legacyInventory, none⟩ relistedReceiver).map
      DeduplicationResult.summary = .ok (.conflict, some 1, some "ip_conflict") := by decide +kernel
  exact absurd (hindexed.symm.trans (hagree.trans hqueried)) (by decide)

end Micboard
