import Micboard.ImportEffect
import Micboard.SyncIndexed

/-! Serial numbers under the write paths of deduplication. A sync and an import look a serial number
up among the chassis of every manufacturer before they create one, and neither rewrites the serial
number of a chassis; so both keep the owner of every serial number single. -/

namespace Micboard

open Library Library.Text WirelessChassisPersistenceService HardwareLifecycleManager

/-- No two chassis hold one serial number. -/
def UniqueSerials (db : Inventory) : Prop :=
  ∀ a ∈ db.chassis, ∀ b ∈ db.chassis, a.serialNumber = b.serialNumber → a.serialNumber ≠ "" → a = b

/-- What every write path relies on: the constraints of the tables, and a single owner for each serial
number. -/
structure SerialInv (db : Inventory) : Prop where
  consistent : db.Consistent
  chargers : UniqueOn Charger.pk db.chargers
  serials : UniqueSerials db

section Tables

variable {db db' : Inventory}

theorem SerialInv.of_chassis_nil (h : db.chassis = []) (hchargers : UniqueOn Charger.pk db.chargers) :
    SerialInv db :=
  ⟨Inventory.consistent_of_chassis_nil h, hchargers, by rw [UniqueSerials, h]; simp⟩

/-- With a single owner for each serial number a query for one is never ambiguous. -/
theorem SerialInv.unambiguous (h : SerialInv db) (serialNumber : Option String) :
    ∃ found, resolveSerialIdentity db serialNumber none = .ok found := by
  unfold resolveSerialIdentity
  cases hsupplied : supplied serialNumber with
  | none => exact ⟨none, rfl⟩
  | some serial =>
      have hne : serial ≠ "" := by
        simpa using (Option.filter_eq_some_iff.mp hsupplied).2
      cases hget : db.getSerial serial with
      | ok found => exact ⟨found, hget⟩
      | error e =>
          obtain ⟨-, a, ha, b, hb, hab, hserial, hserial'⟩ :=
            uniqueMatch_filter_eq_error h.consistent.pk_unique.nodup hget
          rw [decide_eq_true_eq] at hserial hserial'
          exact absurd (h.serials a ha b hb (hserial.trans hserial'.symm) (hserial ▸ hne)) hab

theorem SerialInv.rewrites (h : SerialInv db) {row row' : Chassis}
    (hrewrites : Rewrites db db' row row')
    (hconsistent : db'.Consistent) (hserial : row'.serialNumber = row.serialNumber) :
      SerialInv db' := by
  have hrow : row ∈ db.chassis := Inventory.find_mem hrewrites.find
  refine ⟨hconsistent, by rw [hrewrites.eq]; exact h.chargers, ?_⟩
  intro a ha b hb hsame hne
  rcases hrewrites.mem.mp ha with rfl | ⟨ha, haPk⟩
  · rcases hrewrites.mem.mp hb with rfl | ⟨hb, hbPk⟩
    · rfl
    · rw [h.serials b hb row hrow (hsame.symm.trans hserial) (hsame ▸ hne)] at hbPk
      exact absurd rfl hbPk
  · rcases hrewrites.mem.mp hb with rfl | ⟨hb, -⟩
    · rw [h.serials a ha row hrow (hsame.trans hserial) hne] at haPk
      exact absurd rfl haPk
    · exact h.serials a ha b hb hsame hne

theorem SerialInv.insertRow (h : SerialInv db) {row : Chassis}
    (hconsistent : (db.insertRow row).Consistent)
    (hfree : row.serialNumber ≠ "" → ∀ other ∈ db.chassis, other.serialNumber ≠ row.serialNumber) :
    SerialInv (db.insertRow row) := by
  refine ⟨hconsistent, h.chargers, ?_⟩
  intro a ha b hb hsame hne
  rw [Inventory.insertRow_chassis, List.mem_append, List.mem_singleton] at ha hb
  rcases ha with ha | rfl
  · rcases hb with hb | rfl
    · exact h.serials a ha b hb hsame hne
    · exact absurd hsame (hfree (hsame ▸ hne) a ha)
  · rcases hb with hb | rfl
    · exact absurd hsame.symm (hfree hne b hb)
    · rfl

end Tables

section New

variable {db : Inventory} {serialNumber macAddress : Option String} {ip apiDeviceId : String}
  {manufacturer : Manufacturer} {identityIndex : Option DeviceIdentityIndex}

theorem checkManufacturerConflict_ne_new (existing : Chassis) (matchType : String) :
    checkManufacturerConflict existing manufacturer matchType ≠ some .new := by
  unfold checkManufacturerConflict
  split <;> simp

theorem checkDurableIdentityConflict_ne_new (serialExisting macExisting : Option Chassis) :
    checkDurableIdentityConflict serialExisting macExisting manufacturer ≠ some .new := by
  intro h
  unfold checkDurableIdentityConflict at h
  rcases Option.or_eq_some_iff.mp h with h | ⟨-, h⟩
  · obtain ⟨existing, -, h⟩ := Option.bind_eq_some_iff.mp h
    exact checkManufacturerConflict_ne_new existing _ h
  rcases Option.or_eq_some_iff.mp h with h | ⟨-, h⟩
  · obtain ⟨existing, -, h⟩ := Option.bind_eq_some_iff.mp h
    exact checkManufacturerConflict_ne_new existing _ h
  · split at h
    · split at h <;> cases h
    · cases h

theorem checkByDurableKey_some (matchType : String) (existing : Chassis) :
    ∃ result, checkByDurableKey matchType ip manufacturer (some existing) = some result ∧
      result ≠ .new := by
  refine ⟨(checkManufacturerConflict existing manufacturer matchType).getD
    (matchResult existing ip matchType), rfl, ?_⟩
  unfold checkManufacturerConflict matchResult
  split
  · split <;> simp
  · simp

theorem checkDevice_new_serial
    (h : checkDevice db serialNumber macAddress ip apiDeviceId (some manufacturer)
    identityIndex = .ok .new) : resolveSerialIdentity db serialNumber identityIndex = .ok none := by
  unfold checkDevice at h
  simp only at h
  obtain ⟨serialExisting, hserial, h⟩ := bind_eq_ok.mp h
  obtain ⟨macExisting, -, h⟩ := bind_eq_ok.mp h
  rw [hserial]
  cases serialExisting with
  | none => rfl
  | some existing =>
      exfalso
      split at h
      next conflict hconflict =>
        rw [Except.ok.inj h] at hconflict
        exact checkDurableIdentityConflict_ne_new _ _ hconflict
      next =>
        obtain ⟨result, hresult, hne⟩ :=
          @checkByDurableKey_some ip manufacturer "serial_number" existing
        rw [checkBySerial, hresult] at h
        exact hne (Except.ok.inj h)

/-- Nobody holds the serial number of a device that the query did not find. -/
theorem forall_ne_of_resolveSerialIdentity {serial : String}
    (h : resolveSerialIdentity db (some serial) none = .ok none) (hne : serial ≠ "") :
    ∀ row ∈ db.chassis, row.serialNumber ≠ serial := by
  have hsupplied : supplied (some serial) = some serial := by
    rw [supplied, Option.filter_some, if_pos (by simpa using hne)]
  rw [resolveSerialIdentity, hsupplied] at h
  intro row hrow hserial
  exact uniqueMatch_filter_eq_none.mp h row hrow (decide_eq_true hserial)

end New

section Sync

variable {keys : IdentityKeys} {manufacturer : Manufacturer} {initial db : Inventory}
  {payloads seen : List NormalizedHardware} {payload : NormalizedHardware} {now : Time}

/-- Handling a device of a batch keeps the owners of serial numbers single. -/
theorem SerialInv.syncedDevice (h : SerialInv db) {index : DeviceIdentityIndex}
    (hbatch : BatchInv keys manufacturer initial seen db index)
    (hkeys : IdentityKeys.ofPayloads payloads = .ok keys) (hpayload : payload ∈ payloads)
    {state' : SyncState} {outcome : Option SyncOutcome}
    (hok : syncNormalizedDevice now manufacturer ⟨db, some index⟩ payload = .ok (state', outcome)) :
    SerialInv state'.inventory := by
  obtain ⟨hconsistent', result, hcheck, heffect⟩ := syncNormalizedDevice_effect h.consistent hok
  cases heffect with
  | skipped hnew hforeign hstate =>
      rw [hstate]
      exact h
  | @refreshed _ existing saved row row' hresolved howner hrefreshed hindex =>
      exact h.rewrites hrefreshed.rewrites hconsistent' hrefreshed.row_identity.serialNumber
  | @created chassis row hcreated hindex =>
      have hinserts := hcreated.inserts
      rw [hinserts] at hconsistent' ⊢
      refine h.insertRow hconsistent' fun hne => ?_
      have hserial : row.serialNumber = payload.serialNumber :=
        hcreated.row_identity.serialNumber.trans hcreated.serialNumber
      have hsupplied : payload.serial = some payload.serialNumber :=
        NormalizedHardware.serial_eq_some.mpr ⟨rfl, hserial ▸ hne⟩
      have hindexed := checkDevice_new_serial hcheck
      have hsame := serial_sameLookup hbatch.view h.consistent hkeys hpayload
      rw [show resolveSerialIdentity db payload.serial (some index) = .ok none from hindexed] at hsame
      have hqueried : resolveSerialIdentity db payload.serial none = .ok none := by
        generalize resolveSerialIdentity db payload.serial none = queried at hsame
        cases hsame
        rfl
      rw [hsupplied] at hqueried
      rw [hserial] at hne ⊢
      exact forall_ne_of_resolveSerialIdentity hqueried hne

/-- The owners of serial numbers stay single throughout a batch. -/
theorem SerialInv.syncRun (h : SerialInv initial) {index : DeviceIdentityIndex} {run : SyncRun}
    (hkeys : IdentityKeys.ofPayloads payloads = .ok keys)
    (hbuild : DeviceIdentityIndex.build initial payloads manufacturer = .ok index)
    {rest : List NormalizedHardware} (hsplit : payloads = seen ++ rest)
    (hrun : seen.foldlM (syncStep now manufacturer) (.start initial index) = .ok run) :
    ∃ index', run.identityIndex = some index' ∧
      BatchInv keys manufacturer initial seen run.inventory index' ∧ SerialInv run.inventory := by
  have hinv := foldlM_prefix_invariant (fun seen (run : SyncRun) => ∃ index',
    run.identityIndex = some index' ∧ BatchInv keys manufacturer initial seen run.inventory index' ∧
      SerialInv run.inventory) ?_ ⟨index, rfl, batchInv_start h.consistent hkeys hbuild, h⟩ hrun
  · exact hinv
  rintro before payload after run run' hseen ⟨index', hindex', hbatch, hserials⟩ hstep
  unfold syncStep at hstep
  simp only [bind_eq_ok, Prod.exists, Except.ok.injEq] at hstep
  obtain ⟨state', outcome, hok, rfl⟩ := hstep
  have hstate : run.toSyncState = ⟨run.inventory, some index'⟩ := by rw [← hindex']
  rw [hstate] at hok
  obtain ⟨index'', hindex'', hbatch'⟩ := hbatch.step h.consistent hok
  refine ⟨index'', hindex'', hbatch', ?_⟩
  exact hserials.syncedDevice hbatch hkeys (by rw [hsplit, hseen]; simp) hok

theorem SerialInv.synced (h : SerialInv db) {force : Bool} {db' : Inventory}
    {counts : Option (Nat × Nat)}
    (hok : persistNormalizedDevices now db payloads manufacturer force = .ok (db', counts)) :
    SerialInv db' := by
  unfold persistNormalizedDevices at hok
  split at hok
  next =>
    cases hok
    exact h
  next =>
    simp only [bind_eq_ok, liftIdentity_eq_ok, Except.ok.injEq, Prod.mk.injEq] at hok
    obtain ⟨index, hbuild, run, hrun, rfl, -⟩ := hok
    obtain ⟨keys, hkeys, -⟩ := bind_eq_ok.mp hbuild
    obtain ⟨-, -, -, hserials⟩ := h.syncRun hkeys hbuild (List.append_nil payloads).symm hrun
    exact hserials

/-- With a single owner for each serial number no serial number is ambiguous at any step of a sync. -/
theorem SerialInv.serial_resolved (h : SerialInv db) {index : DeviceIdentityIndex} {run : SyncRun}
    (hbuild : DeviceIdentityIndex.build db payloads manufacturer = .ok index)
    {rest : List NormalizedHardware} (hsplit : payloads = seen ++ payload :: rest)
    (hrun : seen.foldlM (syncStep now manufacturer) (.start db index) = .ok run) :
    ∃ found, resolveSerialIdentity run.inventory payload.serial run.identityIndex = .ok found := by
  obtain ⟨keys, hkeys, -⟩ := bind_eq_ok.mp hbuild
  obtain ⟨index', hindex', hbatch, hserials⟩ := h.syncRun hkeys hbuild hsplit hrun
  obtain ⟨found, hqueried⟩ := hserials.unambiguous payload.serial
  have hsame := serial_sameLookup hbatch.view hserials.consistent hkeys
    (show payload ∈ payloads by simp [hsplit])
  rw [hqueried] at hsame
  rw [hindex']
  generalize resolveSerialIdentity run.inventory payload.serial (some index') = indexed at hsame
  cases hsame with
  | none => exact ⟨none, rfl⟩
  | @found chassis row hchassis hrow hmirrors => exact ⟨some chassis, rfl⟩

end Sync

/-! ### An import -/

section Import

variable {tenancy : Tenancy} {now : Time} {tables tables' : HardwareTables} {device : JsonObject}
  {manufacturer : Manufacturer} {location : Option Nat} {db db' : Inventory}

theorem trim_identityText (raw : JsonValue) : trim (ImportService.identityText raw) =
    ImportService.identityText raw := by
  cases raw with
  | null => exact trim_empty
  | _ => exact trim_strip _

theorem create_inserts {selected : Manufacturer} {write : WirelessChassisWrite} {saved : Chassis}
    (hok : create now db (some selected) write = .ok (db', saved)) : ∃ row, db' = db.insertRow row ∧
      row.serialNumber =
        (write.withoutManufacturer.assignTo (Chassis.unsaved selected)).serialNumber := by
  obtain ⟨_, ⟨rfl⟩, -, -, hcreate⟩ := create_eq_ok.mp hok
  obtain ⟨-, -, -, rfl, rfl⟩ := createChassis_eq_ok.mp hcreate
  refine ⟨_, rfl, ?_⟩
  generalize WirelessChassisWrite.assignTo _ (Chassis.unsaved selected) = chassis
  obtain ⟨isOnline, on, heq⟩ := startLifecycle_eq now db chassis
  rw [heq]
  simp [Chassis.stored, Column.mem_all, Chassis.withLifecycle]

namespace SerialInv

theorem importNew (h : SerialInv tables.inventory) (hne : ImportService.serialNumber device ≠ "")
    (hnew : ImportService.checkImported tables device manufacturer = .ok .new)
    (hok : ImportService.importNew tenancy now tables device manufacturer location = .ok tables') :
    SerialInv tables'.inventory := by
  unfold ImportService.importNew at hok
  obtain ⟨model, -, hok⟩ := bind_eq_ok.mp hok
  obtain ⟨_, -, hok⟩ := bind_eq_ok.mp hok
  obtain ⟨⟨inventory, chassis⟩, hcreate, hok⟩ := bind_eq_ok.mp hok
  obtain rfl := Except.ok.inj hok
  rw [liftImport_eq_ok] at hcreate
  have hconsistent : inventory.Consistent := by
    obtain ⟨_, _, _, _, hcreated⟩ := create_eq_ok.mp hcreate
    exact h.consistent.createChassis hcreated
  obtain ⟨row, rfl, hserial⟩ := create_inserts hcreate
  have hgiven : row.serialNumber = ImportService.serialNumber device := by
    have htrimmed : trim (ImportService.serialNumber device) = ImportService.serialNumber device :=
      trim_identityText _
    rw [hserial]
    simp [WirelessChassisWrite.ofValues, WirelessChassisWrite.assignTo,
      WirelessChassisWrite.withoutManufacturer, FieldValue.column, FieldValue.validated,
        FieldValue.assign,
      htrimmed]
  refine h.insertRow hconsistent fun _ => ?_
  rw [ImportService.checkImported, liftImport_eq_ok, liftIdentity_eq_ok] at hnew
  rw [hgiven]
  exact forall_ne_of_resolveSerialIdentity (checkDevice_new_serial hnew) hne

theorem requireTransition (h : SerialInv db) {pk : Nat} {nextStatus : HardwareStatus}
    (hok : ImportService.requireTransition now pk db nextStatus = .ok db') : SerialInv db' := by
  unfold ImportService.requireTransition at hok
  obtain ⟨⟨moved, done⟩, htransition, hok⟩ := bind_eq_ok.mp hok
  cases done with
  | false => cases hok
  | true =>
      obtain rfl := Except.ok.inj hok
      obtain ⟨row, row', -, hrewrites, hidentity, -⟩ := transitionDevice_rewrites htransition
      exact h.rewrites hrewrites (h.consistent.transitionDevice htransition) hidentity.serialNumber

theorem importExisting (h : SerialInv tables.inventory) {chassis : Chassis}
    (hok : ImportService.importExisting tenancy now tables device location chassis = .ok tables') :
    SerialInv tables'.inventory := by
  unfold ImportService.importExisting at hok
  obtain ⟨model, -, hok⟩ := bind_eq_ok.mp hok
  obtain ⟨_, -, hok⟩ := bind_eq_ok.mp hok
  obtain ⟨⟨inventory, saved⟩, hupdate, hok⟩ := bind_eq_ok.mp hok
  obtain ⟨reconciled, hreconcile, hok⟩ := bind_eq_ok.mp hok
  obtain rfl := Except.ok.inj hok
  rw [liftImport_eq_ok, ImportService.update_metadataWrite, liftSave_eq_ok] at hupdate
  have hcolumns := @ImportService.metadataWrite_columns device model
  have hupdated : SerialInv inventory := by
    obtain ⟨row, row', -, hrewrites, hidentity, -⟩ := saveChassis_rewrites (by simp [hcolumns]) hupdate
    refine h.rewrites hrewrites (h.consistent.saveChassis hupdate) (hidentity.serialNumber.trans ?_)
    rw [writeTo_serialNumber, if_neg]
    rw [hcolumns]
    cases ImportService.macAddress device <;> simp
  rw [liftImport_eq_ok] at hreconcile
  unfold ImportService.reconcileChanged at hreconcile
  split at hreconcile
  next => exact Except.ok.inj hreconcile ▸ hupdated
  next =>
    exact foldlM_invariant SerialInv (fun _ _ _ _ h hstep =>
      h.requireTransition hstep) hupdated hreconcile

/-- An import keeps the owners of serial numbers single. -/
theorem imported (h : SerialInv tables.inventory) {dryRun : Bool}
    {outcome : ImportService.ImportOutcome}
    (hok : ImportService.importDevice tenancy now tables device manufacturer location dryRun =
      .ok (tables', outcome)) : SerialInv tables'.inventory := by
  unfold ImportService.importDevice at hok
  split at hok
  next =>
    cases hok
    exact h
  next hgiven =>
  obtain ⟨result, hcheck, hok⟩ := bind_eq_ok.mp hok
  split at hok
  next =>
    cases hok
    exact h
  next hconflict =>
  split at hok
  next hnone =>
    split at hok
    next =>
      cases hok
      exact h
    next =>
      obtain ⟨created, hcreate, hok⟩ := bind_eq_ok.mp hok
      cases hok
      refine h.importNew (fun hempty => hgiven (.inl hempty)) ?_ hcreate
      cases result with
      | new => exact hcheck
      | duplicate existing details => cases hnone
      | moved existing conflictType details => cases hnone
      | conflict existing conflictType details => exact absurd rfl hconflict
  next chassis hexisting =>
    split at hok
    next =>
      cases hok
      exact h
    next =>
      split at hok
      next =>
        cases hok
        exact h
      next =>
        obtain ⟨updated, hupdate, hok⟩ := bind_eq_ok.mp hok
        cases hok
        exact h.importExisting hupdate

end SerialInv

end Import

end Micboard
