import Micboard.SyncIndexed

/-! Inventory synchronization and the states an operator sets. A device that is degraded or under
maintenance keeps its status when it is found at its stored address; one that is found at another
address is brought online whatever its status was. Over a whole batch the operator states survive
exactly when no step moves a device that is in one. -/

namespace Micboard

open Library WirelessChassisPersistenceService

/-- Membership in `{DEGRADED, MAINTENANCE}`. -/
def HardwareStatus.isServiced (status : HardwareStatus) : Prop :=
  status = .degraded ∨ status = .maintenance

/-- A row is stored in one of the operator states. -/
def Inventory.Serviced (db : Inventory) (pk : Nat) (status : HardwareStatus) : Prop :=
  status.isServiced ∧ ∃ row ∈ db.chassis, row.pk = pk ∧ row.status = status

/-- Every chassis that was degraded or under maintenance still is. -/
def KeepsServiced (db db' : Inventory) : Prop :=
  ∀ row ∈ db.chassis, row.status = .maintenance ∨ row.status = .degraded →
    ∃ row' ∈ db'.chassis, row'.pk = row.pk ∧ row'.status = row.status

theorem keepsServiced_iff {db db' : Inventory} :
    KeepsServiced db db' ↔ ∀ pk status, db.Serviced pk status → db'.Serviced pk status := by
  constructor
  · rintro h pk status ⟨hserviced, row, hrow, rfl, rfl⟩
    exact ⟨hserviced, h row hrow hserviced.symm⟩
  · intro h row hrow hserviced
    exact (h row.pk row.status ⟨hserviced.symm, row, hrow, rfl, rfl⟩).2

/-- The device is found at another address than the one it is stored with, and its chassis, one of the
manufacturer, is degraded or under maintenance. -/
def MovesServiced (manufacturer : Manufacturer) (state : SyncState) (payload : NormalizedHardware) :
    Prop :=
  ∃ existing conflictType details,
    checkPayload manufacturer state payload = .ok (.moved existing conflictType details) ∧
      existing.manufacturer.pk = manufacturer.pk ∧ existing.status.isServiced

section Step

variable {db db' : Inventory} {row row' : Chassis}

/-- A rewrite that keeps the status keeps the rows in an operator state. -/
theorem Rewrites.serviced_of_status_eq (h : Rewrites db db' row row') (hdb : db.Consistent)
    (hstatus : row'.status = row.status) (pk : Nat) (status : HardwareStatus) :
    db'.Serviced pk status ↔ db.Serviced pk status := by
  have hrow := Inventory.find_mem h.find
  refine and_congr_right fun _ => ?_
  constructor
  · rintro ⟨other, hother, hpk, hotherStatus⟩
    rcases h.mem.mp hother with rfl | ⟨hother, -⟩
    · exact ⟨row, hrow, h.pk.symm.trans hpk, hstatus.symm.trans hotherStatus⟩
    · exact ⟨other, hother, hpk, hotherStatus⟩
  · rintro ⟨other, hother, hpk, hotherStatus⟩
    by_cases hsame : other.pk = row.pk
    · rw [hdb.pk_unique.eq hother hrow hsame] at hpk hotherStatus
      exact ⟨row', h.mem.mpr (.inl rfl), h.pk.trans hpk, hstatus.trans hotherStatus⟩
    · exact ⟨other, h.mem.mpr (.inr ⟨hother, hsame⟩), hpk, hotherStatus⟩

/-- A rewrite to a status of its own takes the row out of the operator states, and no other. -/
theorem Rewrites.serviced_of_not_serviced (h : Rewrites db db' row row')
    (hstatus : ¬row'.status.isServiced) (pk : Nat) (status : HardwareStatus) :
    db'.Serviced pk status ↔ db.Serviced pk status ∧ pk ≠ row.pk := by
  rw [Inventory.Serviced, Inventory.Serviced, and_assoc]
  refine and_congr_right fun hserviced => ?_
  constructor
  · rintro ⟨other, hother, rfl, rfl⟩
    rcases h.mem.mp hother with rfl | ⟨hother, hne⟩
    · exact absurd hserviced hstatus
    · exact ⟨⟨other, hother, rfl, rfl⟩, hne⟩
  · rintro ⟨⟨other, hother, rfl, rfl⟩, hne⟩
    exact ⟨other, h.mem.mpr (.inr ⟨hother, hne⟩), rfl, rfl⟩

theorem online_not_serviced : ¬HardwareStatus.online.isServiced := by simp [HardwareStatus.isServiced]

end Step

/-- **One device.** Handling it leaves the operator states as they are, unless it moves a chassis
that is in one; then that chassis is in none afterwards. -/
theorem syncNormalizedDevice_serviced {keys : IdentityKeys} {manufacturer : Manufacturer}
    {db : Inventory} {index : DeviceIdentityIndex} {now : Time} {payload : NormalizedHardware}
    {state' : SyncState} {outcome : Option SyncOutcome} (hdb : db.Consistent)
    (hview : IndexInv keys manufacturer db index)
    (hok : syncNormalizedDevice now manufacturer ⟨db, some index⟩ payload = .ok (state', outcome)) :
    (¬MovesServiced manufacturer ⟨db, some index⟩ payload ∧
      ∀ pk status, state'.inventory.Serviced pk status ↔ db.Serviced pk status) ∨
    (MovesServiced manufacturer ⟨db, some index⟩ payload ∧
      ∃ moved status, db.Serviced moved status ∧
        ∀ pk status, state'.inventory.Serviced pk status ↔ db.Serviced pk status ∧ pk ≠ moved) := by
  obtain ⟨-, result, hcheck, heffect⟩ := syncNormalizedDevice_effect hdb hok
  cases heffect with
  | skipped hnew hforeign hstate =>
      subst hstate
      refine .inl ⟨?_, fun pk status => Iff.rfl⟩
      rintro ⟨existing, conflictType, details, hmoved, howner, -⟩
      rw [hcheck, Except.ok.injEq] at hmoved
      exact hforeign existing (by rw [hmoved]; rfl) howner
  | @created chassis row hcreated hindex =>
      refine .inl ⟨?_, fun pk status => and_congr_right fun hserviced => ?_⟩
      · rintro ⟨existing, conflictType, details, hmoved, -⟩
        rw [hcheck] at hmoved
        cases hmoved
      · have honline : row.status = .online := hcreated.row_status.trans hcreated.status
        rw [hcreated.inserts, Inventory.insertRow_chassis]
        constructor
        · rintro ⟨other, hother, hpk, rfl⟩
          rcases List.mem_append.mp hother with hother | hother
          · exact ⟨other, hother, hpk, rfl⟩
          · rw [List.mem_singleton.mp hother, honline] at hserviced
            exact absurd hserviced online_not_serviced
        · rintro ⟨other, hother, hpk, hstatus⟩
          exact ⟨other, List.mem_append_left _ hother, hpk, hstatus⟩
  | @refreshed _ existing saved row row' hresolved howner hrefreshed hindex =>
      have hexisting := checkDevice_resolved_mem hcheck hresolved
      have hrow := Inventory.find_mem hrefreshed.rewrites.find
      have hmirrors := hview.mirrors_row hdb hexisting hrow hrefreshed.pk
      have hmoves : MovesServiced manufacturer ⟨db, some index⟩ payload ↔
          result.outcome = .moved ∧ existing.status.isServiced := by
        constructor
        · rintro ⟨other, conflictType, details, hmoved, -, hserviced⟩
          rw [hcheck, Except.ok.injEq] at hmoved
          rw [hmoved] at hresolved ⊢
          cases hresolved
          exact ⟨rfl, hserviced⟩
        · rintro ⟨hmoved, hserviced⟩
          cases result with
          | moved other conflictType details =>
              cases hresolved
              exact ⟨existing, conflictType, details, hcheck, howner, hserviced⟩
          | new | duplicate | conflict => cases hmoved
      rw [hmoves, hmirrors.status]
      rcases hrefreshed.status with ⟨hkept, hstatus, -⟩ | ⟨hkept, honline, -⟩
      · refine .inl ⟨?_, hrefreshed.rewrites.serviced_of_status_eq hdb hstatus⟩
        rintro ⟨hmoved, hserviced⟩
        rw [hmirrors.status, hmoved] at hkept
        rcases hserviced with hserviced | hserviced
        · simp [hserviced, keptStatuses] at hkept
        · simp [hserviced, keptStatuses] at hkept
      · have hnot := hrefreshed.rewrites.serviced_of_not_serviced (honline ▸ online_not_serviced)
        by_cases hserviced : row.status.isServiced
        · -- Only the moved branch brings a serviced device online.
          refine .inr ⟨⟨?_, hserviced⟩, row.pk, row.status, ⟨hserviced, row, hrow, rfl, rfl⟩, hnot⟩
          by_contra hmoved
          apply hkept
          rw [hmirrors.status, decide_eq_false hmoved]
          rcases hserviced with hserviced | hserviced
          · simp [hserviced, keptStatuses]
          · simp [hserviced, keptStatuses]
        · refine .inl ⟨fun h => hserviced h.2, fun pk status => ?_⟩
          rw [hnot, and_iff_left_iff_imp]
          rintro ⟨hother, other, hmem, rfl, rfl⟩ hsame
          rw [hdb.pk_unique.eq hmem hrow hsame] at hother
          exact hserviced hother

/-- The condition on a batch: none of its steps moves a device in an operator state. -/
def NeverMovesServiced (now : Time) (db : Inventory) (manufacturer : Manufacturer)
    (index : DeviceIdentityIndex) (payloads : List NormalizedHardware) : Prop :=
  ∀ seen payload rest, payloads = seen ++ payload :: rest →
    ∀ run, seen.foldlM (syncStep now manufacturer) (.start db index) = .ok run →
      ¬MovesServiced manufacturer run.toSyncState payload

theorem syncRun_keepsServiced_iff {keys : IdentityKeys} {manufacturer : Manufacturer}
    {db : Inventory} {index : DeviceIdentityIndex} {now : Time}
    {payloads : List NormalizedHardware} {run : SyncRun} (hdb : db.Consistent)
    (hkeys : IdentityKeys.ofPayloads payloads = .ok keys)
    (hbuild : DeviceIdentityIndex.build db payloads manufacturer = .ok index)
    (hrun : payloads.foldlM (syncStep now manufacturer) (.start db index) = .ok run) :
    KeepsServiced db run.inventory ↔ NeverMovesServiced now db manufacturer index payloads := by
  -- What is in an operator state during the batch was so before it, so a device that lost its state
  -- never has it back.
  refine foldlM_good_iff (fun run : SyncRun => (∃ seen index', run.identityIndex = some index' ∧
    BatchInv keys manufacturer db seen run.inventory index') ∧
    ∀ pk status, run.inventory.Serviced pk status → db.Serviced pk status)
    (fun run => KeepsServiced db run.inventory) ?_ ?_ ?_ hrun
  · rintro run payload run' ⟨⟨seen, index', hindex, hinv⟩, horigin⟩ hstep
    unfold syncStep at hstep
    simp only [bind_eq_ok, Prod.exists, Except.ok.injEq] at hstep
    obtain ⟨state', outcome, hok, rfl⟩ := hstep
    have hstate : run.toSyncState = ⟨run.inventory, some index'⟩ := by rw [← hindex]
    rw [hstate] at hok ⊢
    obtain ⟨index'', hindex'', hinv'⟩ := hinv.step hdb hok
    rw [keepsServiced_iff, keepsServiced_iff]
    rcases syncNormalizedDevice_serviced hinv.consistent hinv.view hok with
      ⟨hmoves, hsame⟩ | ⟨hmoves, moved, status, hmoved, hsame⟩
    · refine ⟨⟨⟨_, index'', hindex'', hinv'⟩, fun pk status h =>
        horigin pk status ((hsame _ _).mp h)⟩, ?_⟩
      simp only [hsame, hmoves, not_false_eq_true, and_true]
    · refine ⟨⟨⟨_, index'', hindex'', hinv'⟩,
        fun pk status h => horigin pk status ((hsame _ _).mp h).1⟩, ?_⟩
      simp only [hmoves, not_true_eq_false, and_false, iff_false]
      intro hkeeps
      exact ((hsame _ _).mp (hkeeps moved status (horigin _ _ hmoved))).2 rfl
  · exact ⟨⟨[], index, rfl, batchInv_start hdb hkeys hbuild⟩, fun _ _ h => h⟩
  · exact keepsServiced_iff.mpr fun _ _ h => h

/-- The tables after a synchronization: a batch that fails is rolled back. -/
def syncedInventory (now : Time) (db : Inventory) (payloads : List NormalizedHardware)
    (manufacturer : Manufacturer) (force : Bool) : Inventory :=
  match persistNormalizedDevices now db payloads manufacturer force with
  | .ok (db', _) => db'
  | .error _ => db

structure BatchRuns (now : Time) (db : Inventory) (payloads : List NormalizedHardware)
    (manufacturer : Manufacturer) (force : Bool) (index : DeviceIdentityIndex) (run : SyncRun) :
    Prop where
  active : (force || manufacturer.isActive) = true
  build : DeviceIdentityIndex.build db payloads manufacturer = .ok index
  run : payloads.foldlM (syncStep now manufacturer) (.start db index) = .ok run

theorem persistNormalizedDevices_eq_ok {now : Time} {db db' : Inventory}
    {payloads : List NormalizedHardware} {manufacturer : Manufacturer} {force : Bool}
    {counts : Option (Nat × Nat)} :
    persistNormalizedDevices now db payloads manufacturer force = .ok (db', counts) ↔
      ((force || manufacturer.isActive) = false ∧ db' = db ∧ counts = none) ∨
      ∃ index run, BatchRuns now db payloads manufacturer force index run ∧ db' = run.inventory ∧
        counts = some (run.createdCount, run.updatedCount) := by
  have hguard : (!force && !manufacturer.isActive) = !(force || manufacturer.isActive) :=
    (Bool.not_or _ _).symm
  rw [persistNormalizedDevices, hguard]
  cases hactive : (force || manufacturer.isActive) with
  | false =>
      simp only [Bool.not_false, if_true, Except.ok.injEq, Prod.mk.injEq, true_and]
      constructor
      · rintro ⟨rfl, rfl⟩
        exact .inl ⟨rfl, rfl⟩
      · rintro (⟨rfl, rfl⟩ | ⟨index, run, h, -⟩)
        · exact ⟨rfl, rfl⟩
        · exact absurd (hactive.symm.trans h.active) Bool.false_ne_true
  | true =>
      simp only [Bool.not_true, Bool.false_eq_true, if_false, bind_eq_ok, liftIdentity_eq_ok,
        Except.ok.injEq, Prod.mk.injEq, reduceCtorEq, false_and, false_or]
      constructor
      · rintro ⟨index, hbuild, run, hrun, rfl, rfl⟩
        exact ⟨index, run, ⟨hactive, hbuild, hrun⟩, rfl, rfl⟩
      · rintro ⟨index, run, h, rfl, rfl⟩
        exact ⟨index, h.build, run, h.run, rfl, rfl⟩

theorem syncedInventory_cases (now : Time) (db : Inventory) (payloads : List NormalizedHardware)
    (manufacturer : Manufacturer) (force : Bool) :
    (∃ index run, BatchRuns now db payloads manufacturer force index run ∧
        syncedInventory now db payloads manufacturer force = run.inventory) ∨
      ((∀ index run, ¬BatchRuns now db payloads manufacturer force index run) ∧
        syncedInventory now db payloads manufacturer force = db) := by
  rw [syncedInventory]
  cases hok : persistNormalizedDevices now db payloads manufacturer force with
  | error e =>
      refine .inr ⟨fun index run h => ?_, rfl⟩
      have hruns := persistNormalizedDevices_eq_ok.mpr (.inr ⟨index, run, h, rfl, rfl⟩)
      rw [hok] at hruns
      cases hruns
  | ok result =>
      obtain ⟨db', counts⟩ := result
      rcases persistNormalizedDevices_eq_ok.mp hok with ⟨hactive, rfl, rfl⟩ | ⟨index, run, h, rfl, -⟩
      · refine .inr ⟨fun index run h => ?_, rfl⟩
        rw [h.active] at hactive
        cases hactive
      · exact .inl ⟨index, run, h, rfl⟩

theorem BatchRuns.unique {now : Time} {db : Inventory} {payloads : List NormalizedHardware}
    {manufacturer : Manufacturer} {force : Bool} {index index' : DeviceIdentityIndex}
    {run run' : SyncRun} (h : BatchRuns now db payloads manufacturer force index run)
    (h' : BatchRuns now db payloads manufacturer force index' run') : index = index' ∧ run = run' := by
  obtain rfl : index = index' := Except.ok.inj (h.build.symm.trans h'.build)
  exact ⟨rfl, Except.ok.inj (h.run.symm.trans h'.run)⟩

/-- **A synchronization keeps the operator states exactly when it moves no device that is in one.** Of a
batch that is not run, or fails and is rolled back, nothing is asked. -/
theorem sync_keeps_operator_states_iff {now : Time} {db : Inventory}
    {payloads : List NormalizedHardware} {manufacturer : Manufacturer} {force : Bool}
    (hdb : db.Consistent) :
    KeepsServiced db (syncedInventory now db payloads manufacturer force) ↔
      ∀ index run, BatchRuns now db payloads manufacturer force index run →
        NeverMovesServiced now db manufacturer index payloads := by
  rcases syncedInventory_cases now db payloads manufacturer force with
    ⟨index, run, hruns, heq⟩ | ⟨hnone, heq⟩
  · have hkeys := hruns.build
    unfold DeviceIdentityIndex.build at hkeys
    obtain ⟨keys, hkeys, -⟩ := bind_eq_ok.mp hkeys
    rw [heq, syncRun_keepsServiced_iff hdb hkeys hruns.build hruns.run]
    constructor
    · intro h index' run' hruns'
      rwa [← (hruns.unique hruns').1]
    · exact fun h => h index run hruns
  · rw [heq]
    refine iff_of_true (keepsServiced_iff.mpr fun _ _ h => h) ?_
    intro index run hruns
    exact absurd hruns (hnone index run)

/-- A receiver in the workshop, which answers at its address. -/
def workshopReceiver : Chassis := { storedReceiver with status := .maintenance }

def workshopInventory : Inventory := { chassis := [workshopReceiver], chargers := [], nextPk := 2 }

theorem workshopInventory_consistent : workshopInventory.Consistent where
  pk_unique := by decide
  pk_lt := by decide
  ip_stored := by decide
  ip_unique := by decide
  api_unique := by decide

def stationaryReceiver : NormalizedHardware :=
  .identified "dev-1" "10.0.0.1" "SN-1" (some "aa:bb:cc:dd:ee:01") firstId_given firstAddress_given
    firstSerial_trimmed

theorem sync_keeps_operator_states_iff_stationaryReceiver :
    KeepsServiced workshopInventory
      (syncedInventory 0 workshopInventory [stationaryReceiver] shure false) := by
  refine (sync_keeps_operator_states_iff workshopInventory_consistent).mpr ?_
  rintro index final hruns seen payload rest hsplit run hrun
    ⟨existing, conflictType, details, hmoved, -⟩
  obtain ⟨rfl, rfl, rfl⟩ := split_singleton hsplit
  cases hrun
  have hduplicate : (DeviceIdentityIndex.build workshopInventory [stationaryReceiver] shure).map
      (fun index => (checkPayload shure ⟨workshopInventory, some index⟩ stationaryReceiver).map
        DeduplicationResult.outcome) = .ok (.ok .duplicate) := by decide +kernel
  rw [hruns.build] at hduplicate
  have hcheck : checkPayload shure ⟨workshopInventory, some index⟩ stationaryReceiver =
      .ok (.moved existing conflictType details) := hmoved
  simp [Except.map, hcheck, DeduplicationResult.outcome] at hduplicate

/-- The same receiver found at another address is brought online. -/
theorem sync_overrides_maintenance :
    ¬ ∀ now db payloads manufacturer force, db.Consistent →
      KeepsServiced db (syncedInventory now db payloads manufacturer force) := by
  intro hclaim
  have hkeeps := hclaim 0 workshopInventory [movedReceiver] shure false workshopInventory_consistent
  obtain ⟨row, hrow, -, hstatus⟩ := hkeeps workshopReceiver List.mem_cons_self (.inl rfl)
  have honline : ∀ row ∈ (syncedInventory 0 workshopInventory [movedReceiver] shure false).chassis,
      row.status = .online := by decide +kernel
  rw [honline row hrow] at hstatus
  cases hstatus

end Micboard
