import Micboard.ManufacturerPolling

/-! What the synchronization of a manufacturer does to the chassis table. The rows that it counts as
created are the new ones, rows of other manufacturers stay, and a synchronization that reports an
error has changed nothing. -/

namespace Micboard

open Library

/-- Rows of other manufacturers stay, and no row is lost or changes its owner. -/
structure Grows (manufacturerId : Nat) (db db' : Inventory) : Prop where
  others : ∀ row, row.manufacturer.pk ≠ manufacturerId → (row ∈ db'.chassis ↔ row ∈ db.chassis)
  kept : ∀ row ∈ db.chassis, ∃ row' ∈ db'.chassis, row'.pk = row.pk ∧
    row'.manufacturer = row.manufacturer ∧
    row'.apiDeviceId = row.apiDeviceId ∧ row'.serialNumber = row.serialNumber

theorem kept_trans {db db' db'' : Inventory}
    (h : ∀ row ∈ db.chassis, ∃ row' ∈ db'.chassis, row'.pk = row.pk ∧
      row'.manufacturer = row.manufacturer ∧
      row'.apiDeviceId = row.apiDeviceId ∧ row'.serialNumber = row.serialNumber)
    (h' : ∀ row ∈ db'.chassis, ∃ row' ∈ db''.chassis, row'.pk = row.pk ∧
      row'.manufacturer = row.manufacturer ∧
      row'.apiDeviceId = row.apiDeviceId ∧ row'.serialNumber = row.serialNumber) :
    ∀ row ∈ db.chassis, ∃ row' ∈ db''.chassis, row'.pk = row.pk ∧ row'.manufacturer = row.manufacturer ∧
      row'.apiDeviceId = row.apiDeviceId ∧ row'.serialNumber = row.serialNumber := by
  intro row hrow
  obtain ⟨row', hrow', hpk, hmanufacturer, hapi, hserial⟩ := h row hrow
  obtain ⟨row'', hrow'', hpk', hmanufacturer', hapi', hserial'⟩ := h' row' hrow'
  exact ⟨row'', hrow'', hpk'.trans hpk, hmanufacturer'.trans hmanufacturer, hapi'.trans hapi,
    hserial'.trans hserial⟩

section Grows

variable {manufacturerId : Nat} {db db' db'' : Inventory}

theorem Grows.refl (manufacturerId : Nat) (db : Inventory) : Grows manufacturerId db db where
  others _ _ := Iff.rfl
  kept row hrow := ⟨row, hrow, rfl, rfl, rfl, rfl⟩

theorem Grows.trans (h : Grows manufacturerId db db') (h' : Grows manufacturerId db' db'') :
    Grows manufacturerId db db'' where
  others row hrow := (h'.others row hrow).trans (h.others row hrow)
  kept := kept_trans h.kept h'.kept

theorem Rewrites.grows {row row' : Chassis} (h : Rewrites db db' row row') (hdb : db.Consistent)
    (hidentity : row'.manufacturer = row.manufacturer ∧ row'.apiDeviceId = row.apiDeviceId ∧
      row'.serialNumber = row.serialNumber) (howner : row.manufacturer.pk = manufacturerId) :
    Grows manufacturerId db db' where
  others other hother := by
    have hrow := Inventory.find_mem h.find
    rw [h.mem]
    constructor
    · rintro (rfl | ⟨hmem, -⟩)
      · exact absurd (hidentity.1 ▸ howner) hother
      · exact hmem
    · intro hmem
      refine .inr ⟨hmem, fun hpk => hother ?_⟩
      rw [hdb.pk_unique.eq hmem hrow hpk]
      exact howner
  kept other hother := by
    by_cases hpk : other.pk = row.pk
    · obtain rfl := hdb.pk_unique.eq hother (Inventory.find_mem h.find) hpk
      exact ⟨row', h.mem.mpr (.inl rfl), h.pk, hidentity.1, hidentity.2.1, hidentity.2.2⟩
    · exact ⟨other, h.mem.mpr (.inr ⟨hother, hpk⟩), rfl, rfl, rfl, rfl⟩

theorem grows_insertRow {row : Chassis} (howner : row.manufacturer.pk = manufacturerId) :
    Grows manufacturerId db (db.insertRow row) where
  others other hother := by
    show other ∈ db.chassis ++ [row] ↔ _
    rw [List.mem_append, List.mem_singleton]
    constructor
    · rintro (hmem | rfl)
      · exact hmem
      · exact absurd howner hother
    · exact .inl
  kept other hother := ⟨other, List.mem_append_left _ hother, rfl, rfl, rfl, rfl⟩

end Grows

section Batch

variable {keys : IdentityKeys} {manufacturer : Manufacturer} {initial : Inventory}
  {payloads seen : List NormalizedHardware} {payload : NormalizedHardware} {now : Time}

/-- What handling one device does to the table, beside the count of its outcome. -/
theorem syncNormalizedDevice_grows {db : Inventory} {index : DeviceIdentityIndex}
    (h : BatchInv keys manufacturer initial seen db index) {state' : SyncState}
    {outcome : Option SyncOutcome}
    (hok : syncNormalizedDevice now manufacturer ⟨db, some index⟩ payload = .ok (state', outcome)) :
    Grows manufacturer.pk db state'.inventory ∧
      state'.inventory.chassis.length = db.chassis.length + if outcome =
        some .created then 1 else 0 := by
  obtain ⟨-, result, hcheck, heffect⟩ := syncNormalizedDevice_effect h.consistent hok
  cases heffect with
  | skipped hnew hforeign hstate =>
      rw [hstate]
      exact ⟨.refl _ _, rfl⟩
  | @refreshed _ existing saved row row' hresolved howner hrefreshed hindex =>
      have hrewrites := hrefreshed.rewrites
      have hidentity := hrefreshed.row_identity
      obtain ⟨stored, hstored, hmirrors⟩ :=
        h.view.mirrors existing (checkDevice_resolved_mem hcheck hresolved)
      have hrow : row = stored :=
        h.consistent.pk_unique.eq (Inventory.find_mem hrewrites.find) hstored
          (hrefreshed.pk.trans hmirrors.pk)
      refine ⟨hrewrites.grows h.consistent
        ⟨hidentity.manufacturer, hidentity.apiDeviceId, hidentity.serialNumber⟩ ?_, ?_⟩
      · rw [hrow, ← hmirrors.manufacturer]
        exact howner
      · rw [hrewrites.eq]
        simp [replaceRow]
  | @created chassis row hcreated hindex =>
      rw [hcreated.inserts]
      refine ⟨grows_insertRow ?_, by simp [Inventory.insertRow]⟩
      rw [hcreated.row_identity.manufacturer]
      exact congrArg Manufacturer.pk hcreated.manufacturer

/-- What a batch has done to the table so far: the rows that it counts as created are the new ones. -/
structure SyncAccount (manufacturer : Manufacturer) (initial : Inventory)
    (seen : List NormalizedHardware)
    (run : SyncRun) : Prop where
  consistent : run.inventory.Consistent
  grows : Grows manufacturer.pk initial run.inventory
  created : run.inventory.chassis.length = initial.chassis.length + run.createdCount
  handled : run.createdCount + run.updatedCount ≤ seen.length

theorem syncAccount_run {index : DeviceIdentityIndex} {run : SyncRun} (hdb : initial.Consistent)
    (hbuild : DeviceIdentityIndex.build initial payloads manufacturer = .ok index)
    (hrun : payloads.foldlM (syncStep now manufacturer) (.start initial index) = .ok run) :
    SyncAccount manufacturer initial payloads run := by
  obtain ⟨keys, hkeys, -⟩ := bind_eq_ok.mp hbuild
  have hstart : SyncAccount manufacturer initial [] (.start initial index) :=
    ⟨hdb, .refl _ _, rfl, Nat.le_refl 0⟩
  have hinv :=
    foldlM_prefix_invariant (fun seen (run : SyncRun) => SyncAccount manufacturer initial seen run ∧
    ∃ index', run.identityIndex = some index' ∧
      BatchInv keys manufacturer initial seen run.inventory index') ?_
    ⟨hstart, index, rfl, batchInv_start hdb hkeys hbuild⟩ hrun
  · exact hinv.1
  rintro seen payload rest run run' - ⟨haccount, index', hindex', hbatch⟩ hstep
  unfold syncStep at hstep
  simp only [bind_eq_ok, Prod.exists, Except.ok.injEq] at hstep
  obtain ⟨state', outcome, hok, rfl⟩ := hstep
  have hstate : run.toSyncState = ⟨run.inventory, some index'⟩ := by rw [← hindex']
  rw [hstate] at hok
  obtain ⟨hgrows, hlength⟩ := syncNormalizedDevice_grows hbatch hok
  obtain ⟨index'', hindex'', hbatch'⟩ := hbatch.step hdb hok
  refine ⟨⟨hbatch'.consistent, haccount.grows.trans hgrows, ?_, ?_⟩, index'', hindex'', hbatch'⟩
  · show state'.inventory.chassis.length = _
    rw [hlength, haccount.created, Nat.add_assoc]
  · have hhandled := haccount.handled
    simp only [List.length_append, List.length_singleton]
    cases outcome with
    | none => simp; omega
    | some outcome => cases outcome <;> simp <;> omega

/-- What a batch that is not undone does to the table. -/
theorem persistNormalizedDevices_account {db db' : Inventory} {force : Bool}
    {counts : Option (Nat × Nat)}
    (hdb : db.Consistent)
    (hok : persistNormalizedDevices now db payloads manufacturer force = .ok (db', counts)) :
    db'.Consistent ∧ Grows manufacturer.pk db db' ∧
      db'.chassis.length = db.chassis.length + (counts.getD (0, 0)).1 ∧
      (counts.getD (0, 0)).1 + (counts.getD (0, 0)).2 ≤ payloads.length ∧
      (db' ≠ db → (force || manufacturer.isActive) = true) := by
  unfold persistNormalizedDevices at hok
  split at hok
  next =>
    cases hok
    exact ⟨hdb, .refl _ _, rfl, Nat.zero_le _, fun hne => absurd rfl hne⟩
  next hactive =>
    simp only [bind_eq_ok, liftIdentity_eq_ok, Except.ok.injEq, Prod.mk.injEq] at hok
    obtain ⟨index, hbuild, run, hrun, rfl, rfl⟩ := hok
    have haccount := syncAccount_run hdb hbuild hrun
    refine ⟨haccount.consistent, haccount.grows, haccount.created, haccount.handled, fun _ => ?_⟩
    rwa [← Bool.not_or, Bool.not_eq_true, Bool.not_eq_false'] at hactive

end Batch

theorem length_mapM_option {α β : Type} {f : α → Option β} {items : List α} {results : List β}
    (h : items.mapM f = some results) : results.length = items.length := by
  induction items generalizing results with
  | nil =>
      obtain rfl := Option.some.inj h
      rfl
  | cons item items ih =>
      simp only [List.mapM_cons, Option.bind_eq_bind, Option.bind_eq_some_iff, Option.pure_def,
        Option.some.injEq] at h
      obtain ⟨result, -, rest, hrest, rfl⟩ := h
      rw [List.length_cons, List.length_cons, ih hrest]

theorem length_normalizeDevices_le {ρ : Type} {transformDeviceData : ρ → Option VendorPayload}
    {devices : List ρ}
    {normalized : List NormalizedHardware}
    (h : normalizeDevices transformDeviceData devices = .ok normalized) :
    normalized.length ≤ devices.length := by
  induction devices generalizing normalized with
  | nil =>
      obtain rfl := Except.ok.inj h
      exact Nat.le_refl 0
  | cons raw rest ih =>
      rcases @normalizeDevices_cons _ transformDeviceData raw rest with ⟨hskip, -⟩ | ⟨data, -, hstep⟩
      · rw [hskip] at h
        exact (ih h).trans (Nat.le_succ _)
      · rw [hstep] at h
        obtain ⟨result, -, h⟩ := bind_eq_ok.mp h
        cases result with
        | none => exact (ih h).trans (Nat.le_succ _)
        | some payload =>
            obtain ⟨tail, htail, h⟩ := bind_eq_ok.mp h
            obtain rfl := Except.ok.inj h
            exact Nat.succ_le_succ (ih htail)

/-! ### What a synchronization reports -/

section Sync

variable {ρ : Type} {input : PollInput ρ} {force : Bool} {limits : ManufacturerPollLimits}
  {manufacturer : Manufacturer} {plugin : InventoryPlugin ρ} {db db' : Inventory}
  {result : ManufacturerSyncResult}

theorem length_consumeInventory_le {deviceLimit : Nat} {devices : List ρ}
    (h : consumeInventory plugin deviceLimit = .ok devices) : devices.length ≤ deviceLimit + 1 := by
  unfold consumeInventory at h
  cases hanswer : plugin.getDevices with
  | error typeName => simp [hanswer] at h
  | ok answer =>
      cases answer with
      | none =>
          rw [hanswer] at h
          obtain rfl := Except.ok.inj h
          exact Nat.zero_le _
      | some source =>
          cases hread : readItems source (deviceLimit + 1) 0 with
          | error typeName => simp [hanswer, hread] at h
          | ok items =>
              cases hdicts : items.mapM plugin.asDict with
              | none => simp [hanswer, hread, hdicts] at h
              | some dicts =>
                  simp only [hanswer, hread, hdicts, Except.ok.injEq] at h
                  rw [← h, length_mapM_option hdicts]
                  exact (readItems_spec hread).1

/-- A synchronization that reports an error has changed nothing; one that reports none accounts for
the table. -/
structure SyncReport (allowed : Prop) (manufacturerId deviceLimit : Nat) (db db' : Inventory)
    (result : ManufacturerSyncResult) : Prop where
  allowed : db' ≠ db → allowed
  consistent : db'.Consistent
  grows : Grows manufacturerId db db'
  added : db'.chassis.length = db.chassis.length + result.devicesAdded
  handled : result.devicesAdded + result.devicesUpdated ≤ result.devicesExamined
  limit : result.deviceLimit = deviceLimit
  failed : result.errors ≠ [] → db' = db ∧ result.devicesAdded = 0 ∧ result.devicesUpdated = 0
  within : result.errors = [] → result.devicesExamined ≤ deviceLimit ∧ result.inventoryComplete = true

theorem syncReport_unchanged {allowed : Prop} {manufacturerId deviceLimit : Nat} (hdb : db.Consistent)
    (hadded : result.devicesAdded = 0) (hupdated : result.devicesUpdated = 0)
    (hlimit : result.deviceLimit = deviceLimit)
    (hwithin : result.errors = [] → result.devicesExamined ≤ deviceLimit ∧
      result.inventoryComplete = true) :
    SyncReport allowed manufacturerId deviceLimit db db result where
  allowed hne := absurd rfl hne
  consistent := hdb
  grows := .refl _ _
  added := by rw [hadded]; rfl
  handled := by omega
  limit := hlimit
  failed _ := ⟨rfl, hadded, hupdated⟩
  within := hwithin

theorem synchronize_report (hdb : db.Consistent)
    (h : synchronize input force limits manufacturer plugin db = .ok (db', result)) :
    SyncReport (force = true ∨ input.lockedActive = some true) manufacturer.pk limits.maxDevices.1
      db db' result := by
  unfold synchronize at h
  simp only at h
  cases hconsume : consumeInventory plugin limits.maxDevices.1 with
  | error typeName => simp [hconsume] at h
  | ok devices =>
      rw [hconsume] at h
      simp only at h
      split at h
      next hover =>
        obtain ⟨rfl, rfl⟩ := Prod.mk.inj (Except.ok.inj h)
        exact syncReport_unchanged hdb rfl rfl rfl nofun
      next hwithin =>
        cases hnormalize : normalizeDevices plugin.transformDeviceData devices with
        | error error => simp [hnormalize] at h
        | ok normalized =>
            have hlength := length_normalizeDevices_le hnormalize
            have hlimit : devices.length ≤ limits.maxDevices.1 := Nat.not_lt.mp hwithin
            rw [hnormalize] at h
            cases normalized with
            | nil =>
                obtain ⟨rfl, rfl⟩ := Prod.mk.inj (Except.ok.inj h)
                exact syncReport_unchanged hdb rfl rfl rfl fun _ => ⟨hlimit, rfl⟩
            | cons payload payloads =>
                simp only at h
                cases hpersist : persistLocked input force manufacturer db (payload :: payloads) with
                | error fault => simp [hpersist] at h
                | ok persisted =>
                    obtain ⟨stored, counts⟩ := persisted
                    obtain ⟨isActive, hlocked, hok⟩ : ∃ isActive, input.lockedActive = some isActive ∧
                        persistNormalizedDevices input.now db (payload :: payloads)
                        { manufacturer with isActive } force = .ok (stored, counts) := by
                      unfold persistLocked at hpersist
                      cases hlocked : input.lockedActive with
                      | none => simp [hlocked] at hpersist
                      | some isActive =>
                          refine ⟨isActive, rfl, ?_⟩
                          rw [hlocked] at hpersist
                          simp only at hpersist
                          split at hpersist
                          next => cases hpersist
                          next => cases hpersist
                          next result hresult _ => rwa [← Except.ok.inj hpersist]
                    obtain ⟨hconsistent, hgrows, hadded, hhandled, hactive⟩ :=
                      persistNormalizedDevices_account hdb hok
                    cases counts with
                    | none =>
                        rw [hpersist] at h
                        obtain ⟨rfl, rfl⟩ := Prod.mk.inj (Except.ok.inj h)
                        exact syncReport_unchanged hdb rfl rfl rfl nofun
                    | some counts =>
                        rw [hpersist] at h
                        obtain ⟨rfl, rfl⟩ := Prod.mk.inj (Except.ok.inj h)
                        refine ⟨fun hne => ?_, hconsistent, hgrows, hadded, hhandled.trans hlength, rfl,
                          fun hne => absurd rfl hne, fun _ => ⟨hlimit, rfl⟩⟩
                        rw [hlocked]
                        exact (Bool.or_eq_true _ _ |>.mp (hactive hne)).imp_right
                          fun h => congrArg some h

theorem syncDevicesForManufacturer_report {manufacturers : List Manufacturer} {code : String}
    (hdb : db.Consistent)
    (hcodes : UniqueOn Manufacturer.code manufacturers) (hmem : manufacturer ∈ manufacturers)
    (hcode : manufacturer.code = code)
    (h : syncDevicesForManufacturer input force manufacturers code db = .ok (db', result)) :
    ∃ limits, ManufacturerPollLimits.fromSettings input.settings = .ok limits ∧
      SyncReport (force = true ∨ input.lockedActive = some true) manufacturer.pk
        limits.maxDevices.1 db db'
        result := by
  unfold syncDevicesForManufacturer at h
  cases hlimits : ManufacturerPollLimits.fromSettings input.settings with
  | error typeName => simp [hlimits] at h
  | ok limits =>
      refine ⟨limits, rfl, ?_⟩
      have hfailed (error : PollError) :
          SyncReport (force = true ∨ input.lockedActive = some true) manufacturer.pk
          limits.maxDevices.1 db db { errors := [error], deviceLimit := limits.maxDevices.1 } :=
        syncReport_unchanged hdb rfl rfl rfl nofun
      rw [hlimits] at h
      simp only at h
      split at h
      next =>
        obtain ⟨rfl, rfl⟩ := Prod.mk.inj (Except.ok.inj h)
        exact hfailed _
      next found hfound =>
        have hfoundCode := List.find?_some hfound
        simp only [Bool.and_eq_true, decide_eq_true_eq] at hfoundCode
        obtain rfl := hcodes.eq (List.mem_of_find?_eq_some hfound) hmem (hfoundCode.1.trans hcode.symm)
        split at h
        next => cases h
        next =>
          obtain ⟨rfl, rfl⟩ := Prod.mk.inj (Except.ok.inj h)
          exact hfailed _
        next plugin _ =>
          cases hsync : synchronize input force limits found plugin db with
          | error fault =>
              rw [hsync] at h
              obtain ⟨rfl, rfl⟩ := Prod.mk.inj (Except.ok.inj h)
              exact hfailed _
          | ok synced =>
              rw [hsync] at h
              rw [Except.ok.inj h] at hsync
              exact synchronize_report hdb hsync

end Sync

end Micboard
