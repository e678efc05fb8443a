import Micboard.IdentitySoundness
import Micboard.SyncPolling
import Micboard.SyncEffect

/-! What polling does to the table. The upsert of a polled device writes the one chassis that holds
its vendor identifier, or creates it without a serial number and a hardware address; the lifecycle
transitions that follow keep every identity. -/

namespace Micboard

open Library Library.Text WirelessChassisPersistenceService HardwareLifecycleManager

/-- At most the row of one primary key is rewritten, and it keeps its identity. -/
def KeepsIdentity (db db' : Inventory) (pk : Nat) : Prop :=
  db' = db ∨ ∃ row row', row.pk = pk ∧ Rewrites db db' row row' ∧ SameIdentity row' row

theorem KeepsIdentity.trans {db db' db'' : Inventory} {pk : Nat} (h : KeepsIdentity db db' pk)
    (h' : KeepsIdentity db' db'' pk) : KeepsIdentity db db'' pk := by
  rcases h with rfl | ⟨row, row', hpk, hrewrites, hidentity⟩
  · exact h'
  rcases h' with rfl | ⟨row₁, row₂, hpk', hrewrites', hidentity'⟩
  · exact .inr ⟨row, row', hpk, hrewrites, hidentity⟩
  have hsame : row₁ = row' := by
    have hfound := hrewrites'.find
    rw [hpk', ← hpk, hrewrites.find'] at hfound
    exact (Option.some.inj hfound).symm
  subst hsame
  exact .inr ⟨row, row₂, hpk, hrewrites.trans hrewrites', hidentity'.trans hidentity⟩

theorem transitionDevice_keepsIdentity {now : Time} {db db' : Inventory} {pk : Nat}
    {toStatus : HardwareStatus} {done : Bool}
    (hok : transitionDevice now db pk toStatus = .ok (db', done)) : KeepsIdentity db db' pk := by
  cases done with
  | true =>
      obtain ⟨row, row', hpk, hrewrites, hidentity, -⟩ := transitionDevice_rewrites hok
      exact .inr ⟨row, row', hpk, hrewrites, hidentity⟩
  | false =>
      unfold transitionDevice at hok
      split at hok
      next => cases hok
      next =>
        split at hok
        next =>
          cases hok
          exact .inl rfl
        next => simp [bind_eq_ok] at hok

theorem provisionDiscovered_keepsIdentity {now : Time} {db db' : Inventory} {chassis : Chassis}
    {done : Bool} (hok : provisionDiscovered now db chassis = .ok (db', done)) :
    KeepsIdentity db db' chassis.pk := by
  unfold provisionDiscovered at hok
  split at hok
  next => exact transitionDevice_keepsIdentity hok
  next =>
    cases hok
    exact .inl rfl

theorem reconcileChassisLifecycle_effect (now : Time) {db : Inventory} (h : db.Consistent)
    (chassis : Chassis) (created : Bool) :
    (reconcileChassisLifecycle now db chassis created).1.Consistent ∧
      KeepsIdentity db (reconcileChassisLifecycle now db chassis created).1 chassis.pk := by
  unfold reconcileChassisLifecycle
  split
  next => exact ⟨h, .inl rfl⟩
  next =>
  split
  next => exact ⟨h, .inl rfl⟩
  next _ db₁ hprovision =>
    exact ⟨h.provisionDiscovered hprovision, provisionDiscovered_keepsIdentity hprovision⟩
  next _ db₁ hprovision =>
    have h₁ := h.provisionDiscovered hprovision
    have hkeeps := provisionDiscovered_keepsIdentity hprovision
    split
    next => exact ⟨h₁, hkeeps⟩
    next honline =>
      exact ⟨h₁.transitionDevice honline, hkeeps.trans (transitionDevice_keepsIdentity honline)⟩
    next honline =>
      exact ⟨h₁.transitionDevice honline, hkeeps.trans (transitionDevice_keepsIdentity honline)⟩

theorem markOfflineReceivers_consistent (now : Time) {db : Inventory} (h : db.Consistent)
    (manufacturer : Manufacturer) (activeChassisIds : List Nat) :
    (markOfflineReceivers now db manufacturer activeChassisIds).Consistent := by
  unfold markOfflineReceivers
  generalize db.chassis.filter _ = absent
  induction absent generalizing db with
  | nil => exact h
  | cons chassis rest ih =>
      apply ih
      unfold markOfflineStep
      split
      next hok => exact h.transitionDevice hok
      next => exact h

/-! ### The upsert -/

/-- The address of a polled device. -/
def polledIp (data : VendorPayload) : String :=
  match data.getD "ip" (.text "") with
  | .text value => trim value
  | _ => ""

theorem requiredText_eq_ok {field text : String} {value : PyValue}
    (h : requiredText field value = .ok text) : ∃ raw, value = .text raw ∧ text = trim raw := by
  unfold requiredText at h
  cases value with
  | none => cases h
  | text raw =>
      cases h
      exact ⟨raw, rfl, rfl⟩
  | unpaired | other => cases h

/-- What a polled device supplies: its address and columns that tell no devices apart. -/
theorem polledValues_eq_ok {now : Time} {data : VendorPayload} {values : List FieldValue}
    (h : polledValues now data = .ok values) :
    ∃ model name firmwareVersion, values = [.ip (polledIp data), .model model, .name name,
      .firmwareVersion firmwareVersion, .lastSeen (some now)] := by
  unfold polledValues at h
  simp only [bind_eq_ok, Except.ok.injEq] at h
  obtain ⟨ip, hip, model, -, name, -, firmwareVersion, -, rfl⟩ := h
  obtain ⟨raw, hraw, rfl⟩ := requiredText_eq_ok hip
  refine ⟨model, name, firmwareVersion, ?_⟩
  rw [polledIp, hraw]

/-- The row that a polled device is written to, in the table `db'` after it. -/
structure PolledWrite (db db' : Inventory) (manufacturer : Manufacturer) (data : VendorPayload)
    (pk : Nat) (written : Chassis) : Prop where
  written_pk : written.pk = pk
  holds : HoldsApiId manufacturer (polledApiDeviceId data) written
  ip : written.ip = getPrepValue (polledIp data)
  origin : (∃ row ∈ db.chassis, HoldsApiId manufacturer (polledApiDeviceId data) row ∧
      row.pk = pk ∧ written.serialNumber = row.serialNumber ∧ written.macAddress = row.macAddress) ∨
    ((∀ row ∈ db.chassis, ¬ HoldsApiId manufacturer (polledApiDeviceId data) row ∧ row.pk ≠ pk) ∧
      written.serialNumber = "" ∧ written.macAddress = none)
  mem : ∀ row, row ∈ db'.chassis ↔ row = written ∨
    (row ∈ db.chassis ∧ ¬ HoldsApiId manufacturer (polledApiDeviceId data) row)

theorem Inventory.Consistent.upsertPolled {now : Time} {db db' : Inventory} (h : db.Consistent)
    {manufacturer : Manufacturer} {data : VendorPayload} {chassis : Chassis} {created : Bool}
    (hok : upsertPolled now db manufacturer data = .ok (db', chassis, created)) :
    db'.Consistent := by
  unfold Micboard.upsertPolled at hok
  split at hok
  next => cases hok
  next =>
    simp only [bind_eq_ok, liftPersistence_eq_ok] at hok
    obtain ⟨values, -, hok⟩ := hok
    unfold upsert at hok
    simp only at hok
    split at hok
    next => cases hok
    next =>
      simp only [bind_eq_ok, liftIdentity_eq_ok] at hok
      obtain ⟨found, -, hok⟩ := hok
      cases found with
      | some row =>
          simp only [bind_eq_ok, liftSave_eq_ok, Prod.exists, Except.ok.injEq, Prod.mk.injEq] at hok
          obtain ⟨_, _, hsave, rfl, -⟩ := hok
          exact h.saveChassis hsave
      | none =>
          simp only [bind_eq_ok, liftSave_eq_ok, Prod.exists, Except.ok.injEq, Prod.mk.injEq] at hok
          obtain ⟨_, _, hcreate, rfl, -⟩ := hok
          exact h.createChassis hcreate

theorem upsertPolled_write {now : Time} {db db' : Inventory} (h : db.Consistent)
    {manufacturer : Manufacturer} {data : VendorPayload} {chassis : Chassis} {created : Bool}
    (hok : upsertPolled now db manufacturer data = .ok (db', chassis, created)) :
    ∃ written, PolledWrite db db' manufacturer data chassis.pk written := by
  unfold upsertPolled at hok
  split at hok
  next => cases hok
  next =>
  simp only [bind_eq_ok, liftPersistence_eq_ok] at hok
  obtain ⟨values, hvalues, hok⟩ := hok
  obtain ⟨model, name, firmwareVersion, rfl⟩ := polledValues_eq_ok hvalues
  have htrim : trim (polledIp data) = polledIp data := by
    unfold polledIp
    split
    next => exact trim_trim _
    next => decide
  unfold upsert at hok
  simp only at hok
  split at hok
  next => cases hok
  next =>
  simp only [bind_eq_ok, liftIdentity_eq_ok] at hok
  obtain ⟨found, hfound, hok⟩ := hok
  have hresolves := resolves_apiId h.pk_unique.nodup manufacturer (polledApiDeviceId data)
  rw [hfound] at hresolves
  cases found with
  | some row =>
      obtain ⟨hrow, hholds, honly⟩ := hresolves
      simp only [bind_eq_ok, liftSave_eq_ok, Prod.exists, Except.ok.injEq, Prod.mk.injEq] at hok
      obtain ⟨_, saved, hsave, rfl, rfl, -⟩ := hok
      obtain ⟨found, row', hpk, hrewrites, hidentity, hsaved, -⟩ :=
        saveChassis_rewrites (by simp [WirelessChassisWrite.ofValues, WirelessChassisWrite.columns,
          WirelessChassisWrite.withoutManufacturer, FieldValue.validated, FieldValue.column]) hsave
      have hsame : found = row :=
        h.pk_unique.eq (Inventory.find_mem hrewrites.find) hrow (hpk.trans (by
          simp [WirelessChassisWrite.ofValues, WirelessChassisWrite.assignTo,
            WirelessChassisWrite.withoutManufacturer, FieldValue.validated, FieldValue.column,
            FieldValue.assign]))
      subst hsame
      have hrow' : SameIdentity row' { found with ip := getPrepValue (polledIp data) } := by
        refine hidentity.trans ⟨rfl, ?_, ?_, ?_, ?_, ?_⟩ <;>
          simp [WirelessChassisWrite.ofValues, WirelessChassisWrite.assignTo,
            WirelessChassisWrite.withoutManufacturer, WirelessChassisWrite.columns,
              FieldValue.validated, FieldValue.column, FieldValue.assign,
            htrim]
      have hsavedPk : saved.pk = found.pk := by
        rw [hsaved.pk, hpk]
      refine ⟨row', hrow'.pk.trans hsavedPk.symm, ?_, hrow'.ip, .inl ⟨found, hrow, hholds,
        hsavedPk.symm, hrow'.serialNumber, hrow'.macAddress⟩, fun other => ?_⟩
      · rw [HoldsApiId, hrow'.manufacturer, hrow'.apiDeviceId]
        exact hholds
      · rw [hrewrites.mem]
        refine or_congr_right (and_congr_right fun hother => not_congr ?_)
        constructor
        · intro hpkOther
          rwa [h.pk_unique.eq hother hrow hpkOther]
        · intro hotherHolds
          rw [honly other hother hotherHolds]
  | none =>
      simp only [bind_eq_ok, liftSave_eq_ok, Prod.exists, Except.ok.injEq, Prod.mk.injEq] at hok
      obtain ⟨_, saved, hcreate, rfl, rfl, -⟩ := hok
      obtain ⟨-, -, -, hsavedEq, hinserts⟩ := createChassis_eq_ok.mp hcreate
      generalize hinstance : (WirelessChassisWrite.assignTo _ _) = device at hsavedEq
      have hidentity : device.manufacturer = manufacturer ∧
          device.apiDeviceId = polledApiDeviceId data ∧ device.serialNumber = "" ∧
          device.macAddress = none ∧ device.ip = polledIp data := by
        rw [← hinstance]
        simp [WirelessChassisWrite.ofValues, WirelessChassisWrite.assignTo,
          WirelessChassisWrite.withoutManufacturer, FieldValue.validated, FieldValue.column,
          FieldValue.assign, htrim, Chassis.unsaved]
      obtain ⟨hmanufacturer, hapi, hserial, hmac, hip⟩ := hidentity
      obtain ⟨isOnline, on, heq⟩ := startLifecycle_eq now db device
      rw [heq] at hsavedEq
      have hpk : saved.pk = db.nextPk := by
        rw [hsavedEq]
      have hstored : SameIdentity saved.stored { device with
          pk := db.nextPk
          ip := getPrepValue (polledIp data) } := by
        rw [hsavedEq, ← hip]
        refine ⟨rfl, ?_, ?_, ?_, ?_, ?_⟩ <;> simp [Chassis.stored, Column.mem_all]
      refine ⟨saved.stored, rfl, ⟨?_, ?_⟩, hstored.ip, .inr ⟨fun row hrow => ⟨hresolves row hrow, ?_⟩,
        hstored.serialNumber.trans hserial, hstored.macAddress.trans hmac⟩, fun other => ?_⟩
      · rw [hstored.manufacturer, ← hmanufacturer]
      · rw [hstored.apiDeviceId, ← hapi]
      · rw [hpk]
        exact (h.pk_lt row hrow).ne
      · rw [hinserts, Inventory.insertRow_chassis, List.mem_append, List.mem_singleton, or_comm]
        refine or_congr_right ?_
        simp only [iff_self_and]
        exact hresolves other

end Micboard
