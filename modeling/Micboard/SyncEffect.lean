import Micboard.IdentitySoundness
import Micboard.SyncInventory

/-! What handling one device of a batch does. A device that is found again has its one row rewritten, a
new device has one row appended, and any other leaves the tables alone; the index follows. -/

namespace Micboard

open Library WirelessChassisPersistenceService

/-- The statuses in which a device found again is left: it is brought online in any other. -/
def keptStatuses (setIp : Bool) : List HardwareStatus :=
  if setIp then [.online] else [.online, .degraded, .maintenance]

/-- An existing device was refreshed from a payload: its row was rewritten, and its instance with it. -/
structure Refreshed (db db' : Inventory) (payload : NormalizedHardware) (setIp : Bool)
    (existing saved row row' : Chassis) : Prop where
  pk : row.pk = existing.pk
  rewrites : Rewrites db db' row row'
  row_identity : SameIdentity row' (refreshedRow existing payload setIp row)
  saved_identity : SameIdentity saved { existing with
    macAddress := refreshedMac payload existing.macAddress
    ip := if setIp then payload.ip else existing.ip }
  status : (existing.status ∈ keptStatuses setIp ∧ row'.status = row.status ∧
      saved.status = existing.status) ∨
    (existing.status ∉ keptStatuses setIp ∧ row'.status = .online ∧ saved.status = .online)

section Existing

variable {now : Time} {db db' : Inventory} {chassis chassis' row : Chassis}

theorem transitionResponding_rewrites (hconsistent : db.Consistent)
    (hfind : db.find chassis.pk = some row)
    (hok : transitionRespondingChassisOnline now db chassis = .ok (db', chassis')) :
    ∃ row', Rewrites db db' row row' ∧ SameIdentity row' row ∧ SameIdentity chassis' chassis ∧
      ((chassis.status = .online ∧ row'.status = row.status ∧ chassis'.status = chassis.status) ∨
        (chassis.status ≠ .online ∧ row'.status = .online ∧ chassis'.status = .online)) := by
  have hpk := Inventory.find_pk hfind
  unfold transitionRespondingChassisOnline at hok
  by_cases honline : chassis.status = .online
  · rw [if_pos honline] at hok
    cases hok
    refine ⟨row, Rewrites.self hconsistent ?_, .refl row, .refl chassis, .inl ⟨honline, rfl, rfl⟩⟩
    rw [hpk]
    exact hfind
  · rw [if_neg honline] at hok
    obtain ⟨row₀, row', hrow, hrewrites, hidentity, hstatus, hidentity', hstatus'⟩ :=
      bringOnline_rewrites hconsistent hok
    have hsame : row₀ = row := by
      have hfound := hrewrites.find
      rw [hrow] at hfound
      exact Option.some.inj (hfound.symm.trans hfind)
    subst hsame
    exact ⟨row', hrewrites, hidentity, hidentity', .inr ⟨honline, hstatus, hstatus'⟩⟩

theorem Refreshed.of_transition (hconsistent : db.Consistent) {payload : NormalizedHardware}
    {setIp : Bool} {mid : Inventory} {existing refreshed : Chassis}
    (hupdate : updateFromNormalized now db existing payload setIp = .ok (mid, refreshed))
    (htransition : (existing.status ∈ keptStatuses setIp ∧ (db', chassis') = (mid, refreshed)) ∨
      (transitionRespondingChassisOnline now mid refreshed = .ok (db', chassis') ∧
        (refreshed.status = .online ↔ existing.status ∈ keptStatuses setIp))) :
    ∃ row row', Refreshed db db' payload setIp existing chassis' row row' ∧ db'.Consistent ∧
      SameIdentity chassis' refreshed := by
  have hmid := hconsistent.updateFromNormalized hupdate
  obtain ⟨row, row₁, hpk, hrewrites, hrow, hstatus, hsaved, hsavedStatus⟩ :=
    updateFromNormalized_rewrites hupdate
  rcases htransition with ⟨hkept, heq⟩ | ⟨hresponding, hkept⟩
  · obtain ⟨rfl, rfl⟩ := Prod.mk.inj heq
    exact ⟨row, row₁, ⟨hpk, hrewrites, hrow, hsaved, .inl ⟨hkept, hstatus, hsavedStatus⟩⟩, hmid,
      .refl _⟩
  · have hfind : mid.find refreshed.pk = some row₁ := by
      rw [hsaved.pk, ← hpk]
      exact hrewrites.find'
    obtain ⟨row', hrewrites', hrow', hsaved', hstatus'⟩ :=
      transitionResponding_rewrites hmid hfind hresponding
    refine ⟨row, row', ⟨hpk, hrewrites.trans hrewrites', hrow'.trans hrow, hsaved'.trans hsaved, ?_⟩,
      hmid.transitionRespondingChassisOnline hresponding, hsaved'⟩
    rcases hstatus' with ⟨honline, hrowStatus, hsavedStatus'⟩ | ⟨honline, hrowStatus, hsavedStatus'⟩
    · exact .inl ⟨hkept.mp honline, hrowStatus.trans hstatus, hsavedStatus'.trans hsavedStatus⟩
    · exact .inr ⟨fun hmem => honline (hkept.mpr hmem), hrowStatus, hsavedStatus'⟩

end Existing

/-- The index after an existing device was refreshed. -/
def IndexFollows (index index' : Option DeviceIdentityIndex) (setIp : Bool)
    (existing saved : Chassis) : Prop :=
  if setIp then noteMoved index saved existing.ip = .ok index'
  else index' = index.map fun index => index.setObject saved

/-- Of the moved instance the index uses the primary key and the address. -/
theorem noteMoved_setObject {index index' : Option DeviceIdentityIndex} {moved saved : Chassis}
    {oldIp : String} (hpk : saved.pk = moved.pk) (hip : saved.ip = moved.ip)
    (h : noteMoved index moved oldIp = .ok index') :
    noteMoved index saved oldIp = .ok (index'.map fun index => index.setObject saved) := by
  have hset : ∀ index : DeviceIdentityIndex,
      (index.setObject moved).setObject saved = index.setObject saved := by
    intro index
    simp only [DeviceIdentityIndex.setObject, replaceRow_replaceRow Chassis.pk hpk.symm]
  cases index with
  | none =>
      cases h
      rfl
  | some index =>
      unfold noteMoved at h ⊢
      simp only at h ⊢
      split at h
      next hempty =>
        cases h
        rw [if_pos hempty, Option.map_some, hset]
      next hempty =>
        rw [if_neg hempty]
        simp only [bind_eq_ok, DeviceIdentityIndex.moveIp, Except.ok.injEq] at h ⊢
        obtain ⟨_, ⟨oldKey, hold, newKey, hnew, rfl⟩, rfl⟩ := h
        rw [← hip] at hnew
        refine ⟨_, ⟨oldKey, hold, newKey, hnew, rfl⟩, ?_⟩
        simp only [Option.map_some, DeviceIdentityIndex.setObject,
          replaceRow_replaceRow Chassis.pk hpk.symm, hpk]

section Existing

variable {now : Time} {state state' : SyncState} {existing : Chassis} {payload : NormalizedHardware}

theorem persistMovedChassis_refreshed (hconsistent : state.inventory.Consistent)
    (hok : persistMovedChassis now state existing payload = .ok state') :
    ∃ saved row row', Refreshed state.inventory state'.inventory payload true existing saved row row' ∧
      IndexFollows state.identityIndex state'.identityIndex true existing saved ∧
      state'.inventory.Consistent := by
  unfold persistMovedChassis at hok
  simp only [bind_eq_ok, liftIdentity_eq_ok, Prod.exists, Except.ok.injEq] at hok
  obtain ⟨mid, moved, hupdate, index, hindex, db', saved, hresponding, rfl⟩ := hok
  obtain ⟨-, -, -, -, -, -, -, hstatus⟩ := updateFromNormalized_rewrites hupdate
  have hkept : moved.status = .online ↔ existing.status ∈ keptStatuses true := by
    rw [hstatus]
    simp [keptStatuses]
  obtain ⟨row, row', hrefreshed, hconsistent', hidentity⟩ :=
    Refreshed.of_transition hconsistent hupdate (.inr ⟨hresponding, hkept⟩)
  refine ⟨saved, row, row', hrefreshed, ?_, hconsistent'⟩
  exact noteMoved_setObject hidentity.pk hidentity.ip hindex

theorem persistDuplicate_refreshed (hconsistent : state.inventory.Consistent)
    (hok : persistDuplicate now state existing payload = .ok state') :
    ∃ saved row row', Refreshed state.inventory state'.inventory payload false existing saved row row' ∧
      IndexFollows state.identityIndex state'.identityIndex false existing saved ∧
      state'.inventory.Consistent := by
  unfold persistDuplicate respondUnlessServiced at hok
  simp only [bind_eq_ok, Prod.exists, Except.ok.injEq] at hok
  obtain ⟨mid, refreshed, hupdate, db', saved, hresponding, rfl⟩ := hok
  obtain ⟨-, -, -, -, -, -, -, hstatus⟩ := updateFromNormalized_rewrites hupdate
  have htransition : (existing.status ∈ keptStatuses false ∧ (db', saved) = (mid, refreshed)) ∨
      (transitionRespondingChassisOnline now mid refreshed = .ok (db', saved) ∧
        (refreshed.status = .online ↔ existing.status ∈ keptStatuses false)) := by
    rw [hstatus] at hresponding ⊢
    by_cases hkept : existing.status = .degraded ∨ existing.status = .maintenance
    · rw [if_pos hkept] at hresponding
      cases hresponding
      exact .inl ⟨by simp [keptStatuses, hkept], rfl⟩
    · rw [if_neg hkept] at hresponding
      refine .inr ⟨hresponding, ?_⟩
      simp [keptStatuses, not_or.mp hkept]
  obtain ⟨row, row', hrefreshed, hconsistent', -⟩ :=
    Refreshed.of_transition hconsistent hupdate htransition
  exact ⟨saved, row, row', hrefreshed, rfl, hconsistent'⟩

end Existing

structure Created (db db' : Inventory) (manufacturer : Manufacturer) (payload : NormalizedHardware)
    (chassis row : Chassis) : Prop where
  pk : chassis.pk = db.nextPk
  manufacturer : chassis.manufacturer = manufacturer
  apiDeviceId : chassis.apiDeviceId = payload.apiDeviceId
  serialNumber : chassis.serialNumber = payload.serialNumber
  macAddress : chassis.macAddress = payload.mac
  ip : chassis.ip = payload.ip
  status : chassis.status = .online
  inserts : db' = db.insertRow row
  row_identity : SameIdentity row { chassis with ip := getPrepValue chassis.ip }
  row_status : row.status = chassis.status

/-- The index after a device was created. -/
def IndexAdds (index index' : Option DeviceIdentityIndex) (chassis : Chassis) : Prop :=
  match index with
  | none => index' = none
  | some index => ∃ added, index.add chassis = .ok added ∧ index' = some added

theorem persistNew_created {now : Time} {manufacturer : Manufacturer} {state state' : SyncState}
    {payload : NormalizedHardware} (hconsistent : state.inventory.Consistent)
    (hok : persistNew now manufacturer state payload = .ok state') :
    ∃ chassis row, Created state.inventory state'.inventory manufacturer payload chassis row ∧
      IndexAdds state.identityIndex state'.identityIndex chassis ∧ state'.inventory.Consistent := by
  unfold persistNew at hok
  simp only [bind_eq_ok, Prod.exists] at hok
  obtain ⟨db', chassis, hcreate, hok⟩ := hok
  have hconsistent' := hconsistent.createFromNormalized hcreate
  obtain ⟨hpk, hmanufacturer, hapi, hserial, hmac, hip, hstatus, row, hinserts, hrow, hrowStatus⟩ :=
    createFromNormalized_inserts hcreate
  have hcreated : Created state.inventory db' manufacturer payload chassis row :=
    ⟨hpk, hmanufacturer, hapi, hserial, hmac, hip, hstatus, hinserts, hrow, hrowStatus⟩
  cases hindex : state.identityIndex with
  | none =>
      rw [hindex] at hok
      cases hok
      exact ⟨chassis, row, hcreated, rfl, hconsistent'⟩
  | some index =>
      rw [hindex] at hok
      simp only [bind_eq_ok, liftIdentity_eq_ok, Except.ok.injEq] at hok
      obtain ⟨added, hadded, rfl⟩ := hok
      exact ⟨chassis, row, hcreated, ⟨added, hadded, rfl⟩, hconsistent'⟩

/-- The ways handling a device ends, by the result of its identity check. -/
inductive SyncEffect (manufacturer : Manufacturer) (payload : NormalizedHardware)
    (state state' : SyncState) : DeduplicationResult → Option SyncOutcome → Prop where
  | skipped {result : DeduplicationResult} (hnew : result ≠ .new)
      (hforeign : ∀ existing, result.resolvedDevice = some existing →
        existing.manufacturer.pk ≠ manufacturer.pk)
      (hstate : state' = state) : SyncEffect manufacturer payload state state' result none
  | refreshed {result : DeduplicationResult} {existing saved row row' : Chassis}
      (hresolved : result.resolvedDevice = some existing)
      (howner : existing.manufacturer.pk = manufacturer.pk)
      (hrefreshed : Refreshed state.inventory state'.inventory payload
        (result.outcome = .moved) existing saved row row')
      (hindex : IndexFollows state.identityIndex state'.identityIndex (result.outcome = .moved)
        existing saved) :
      SyncEffect manufacturer payload state state' result (some .updated)
  | created {chassis row : Chassis}
      (hcreated : Created state.inventory state'.inventory manufacturer payload chassis row)
      (hindex : IndexAdds state.identityIndex state'.identityIndex chassis) :
      SyncEffect manufacturer payload state state' .new (some .created)

theorem syncNormalizedDevice_effect {now : Time} {manufacturer : Manufacturer}
    {state state' : SyncState} {payload : NormalizedHardware} {outcome : Option SyncOutcome}
    (hconsistent : state.inventory.Consistent)
    (hok : syncNormalizedDevice now manufacturer state payload = .ok (state', outcome)) :
    state'.inventory.Consistent ∧ ∃ result, checkPayload manufacturer state payload = .ok result ∧
      SyncEffect manufacturer payload state state' result outcome := by
  unfold syncNormalizedDevice at hok
  simp only [bind_eq_ok, liftIdentity_eq_ok] at hok
  obtain ⟨result, hcheck, hok⟩ := hok
  cases result with
  | conflict existing conflictType details =>
      cases hok
      exact ⟨hconsistent, _, hcheck, .skipped (by simp) (by rintro _ ⟨⟩) rfl⟩
  | moved existing conflictType details =>
      by_cases howner : existing.manufacturer.pk = manufacturer.pk
      · simp only [ne_eq, howner, not_true_eq_false, if_false, bind_eq_ok, Except.ok.injEq,
          Prod.mk.injEq] at hok
        obtain ⟨_, hmoved, rfl, rfl⟩ := hok
        obtain ⟨saved, row, row', hrefreshed, hindex, hconsistent'⟩ :=
          persistMovedChassis_refreshed hconsistent hmoved
        exact ⟨hconsistent', _, hcheck, .refreshed rfl howner hrefreshed hindex⟩
      · simp only [ne_eq, howner, not_false_eq_true, if_true] at hok
        cases hok
        refine ⟨hconsistent, _, hcheck, .skipped (by simp) ?_ rfl⟩
        rintro _ ⟨⟩
        exact howner
  | duplicate existing details =>
      by_cases howner : existing.manufacturer.pk = manufacturer.pk
      · simp only [ne_eq, howner, not_true_eq_false, if_false, bind_eq_ok, Except.ok.injEq,
          Prod.mk.injEq] at hok
        obtain ⟨_, hduplicate, rfl, rfl⟩ := hok
        obtain ⟨saved, row, row', hrefreshed, hindex, hconsistent'⟩ :=
          persistDuplicate_refreshed hconsistent hduplicate
        exact ⟨hconsistent', _, hcheck, .refreshed rfl howner hrefreshed hindex⟩
      · simp only [ne_eq, howner, not_false_eq_true, if_true] at hok
        cases hok
        refine ⟨hconsistent, _, hcheck, .skipped (by simp) ?_ rfl⟩
        rintro _ ⟨⟩
        exact howner
  | new =>
      simp only [bind_eq_ok, Except.ok.injEq, Prod.mk.injEq] at hok
      obtain ⟨_, hnew, rfl, rfl⟩ := hok
      obtain ⟨chassis, row, hcreated, hindex, hconsistent'⟩ := persistNew_created hconsistent hnew
      exact ⟨hconsistent', _, hcheck, .created hcreated hindex⟩

/-- A batch that is not undone leaves consistent tables. -/
theorem Inventory.Consistent.persistNormalizedDevices {now : Time} {db db' : Inventory}
    (h : db.Consistent) {payloads : List NormalizedHardware} {manufacturer : Manufacturer}
    {force : Bool} {counts : Option (Nat × Nat)}
    (hok : persistNormalizedDevices now db payloads manufacturer force = .ok (db', counts)) :
    db'.Consistent := by
  unfold Micboard.persistNormalizedDevices at hok
  split at hok
  next =>
    cases hok
    exact h
  next =>
    simp only [bind_eq_ok, liftIdentity_eq_ok, Except.ok.injEq, Prod.mk.injEq] at hok
    obtain ⟨index, -, run, hrun, rfl, -⟩ := hok
    refine foldlM_invariant (fun run : SyncRun => run.inventory.Consistent) ?_ h hrun
    intro run payload run' _ hconsistent hstep
    unfold syncStep at hstep
    simp only [bind_eq_ok, Prod.exists, Except.ok.injEq] at hstep
    obtain ⟨state', outcome, hok, rfl⟩ := hstep
    exact (syncNormalizedDevice_effect hconsistent hok).1

end Micboard
