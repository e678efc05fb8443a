import Micboard.ChassisPersistence

/-! What the persistence operations do to the table: each successful one rewrites one row, or appends
one, and changes no identity column that it does not write. -/

namespace Micboard

open Library Library.Text WirelessChassisPersistenceService HardwareLifecycleManager

/-- The two chassis agree on every column that tells devices apart. -/
structure SameIdentity (a b : Chassis) : Prop where
  pk : a.pk = b.pk
  manufacturer : a.manufacturer = b.manufacturer
  apiDeviceId : a.apiDeviceId = b.apiDeviceId
  serialNumber : a.serialNumber = b.serialNumber
  macAddress : a.macAddress = b.macAddress
  ip : a.ip = b.ip

theorem SameIdentity.refl (a : Chassis) : SameIdentity a a := ⟨rfl, rfl, rfl, rfl, rfl, rfl⟩

theorem SameIdentity.trans {a b c : Chassis} (h : SameIdentity a b) (h' : SameIdentity b c) :
    SameIdentity a c :=
  ⟨h.pk.trans h'.pk, h.manufacturer.trans h'.manufacturer, h.apiDeviceId.trans h'.apiDeviceId,
    h.serialNumber.trans h'.serialNumber, h.macAddress.trans h'.macAddress, h.ip.trans h'.ip⟩

theorem sameIdentity_withLifecycle (chassis : Chassis) (isOnline : Bool) (on off : Option Time)
    (uptime : Int) : SameIdentity (chassis.withLifecycle isOnline on off uptime) chassis :=
  ⟨rfl, rfl, rfl, rfl, rfl, rfl⟩

/-- One row is rewritten and keeps its primary key. -/
structure Rewrites (db db' : Inventory) (row row' : Chassis) : Prop where
  find : db.find row.pk = some row
  pk : row'.pk = row.pk
  eq : db' = db.updateRow row'

theorem Rewrites.find' {db db' : Inventory} {row row' : Chassis} (h : Rewrites db db' row row') :
    db'.find row.pk = some row' := by
  rw [h.eq, ← h.pk]
  have hfind : db.find row'.pk = some row := by
    rw [h.pk]
    exact h.find
  exact Inventory.find_updateRow hfind

theorem Rewrites.trans {db db' db'' : Inventory} {row row' row'' : Chassis}
    (h : Rewrites db db' row row') (h' : Rewrites db' db'' row' row'') :
    Rewrites db db'' row row'' where
  find := h.find
  pk := h'.pk.trans h.pk
  eq := by
    rw [h'.eq, h.eq]
    exact Inventory.updateRow_updateRow db h'.pk.symm

theorem Rewrites.self {db : Inventory} (hconsistent : db.Consistent) {row : Chassis}
    (h : db.find row.pk = some row) : Rewrites db db row row where
  find := h
  pk := rfl
  eq := by
    have hrows : replaceRow Chassis.pk row db.chassis = db.chassis := by
      rw [replaceRow]
      calc db.chassis.map (fun old => if old.pk = row.pk then row else old)
          = db.chassis.map id := by
            apply List.map_congr_left
            intro old hold
            by_cases hpk : old.pk = row.pk
            · rw [if_pos hpk, hconsistent.pk_unique.eq hold (Inventory.find_mem h) hpk]
              rfl
            · exact if_neg hpk
        _ = db.chassis := List.map_id _
    rw [Inventory.updateRow, hrows]

theorem Rewrites.mem {db db' : Inventory} {row row' : Chassis} (h : Rewrites db db' row row')
    {other : Chassis} : other ∈ db'.chassis ↔
      other = row' ∨ (other ∈ db.chassis ∧ other.pk ≠ row.pk) := by
  rw [h.eq, Inventory.updateRow_chassis, mem_replaceRow, h.pk]
  constructor
  · rintro (⟨rfl, -⟩ | hother)
    · exact .inl rfl
    · exact .inr hother
  · rintro (rfl | hother)
    · exact .inl ⟨rfl, row, Inventory.find_mem h.find, rfl⟩
    · exact .inr hother

/-- A partial save rewrites the row as its columns say, and keeps the instance's identity. -/
theorem saveChassis_rewrites {now : Time} {db db' : Inventory} {chassis saved : Chassis}
    {fields : List Column} (hfields : fields ≠ [])
    (hok : saveChassis now db chassis (some fields) = .ok (db', saved)) :
    ∃ row row', row.pk = chassis.pk ∧ Rewrites db db' row row' ∧
      SameIdentity row' (chassis.writeTo fields row) ∧ SameIdentity saved chassis ∧
      row'.status = (chassis.writeTo fields row).status ∧ saved.status = chassis.status := by
  have hne : some fields ≠ some [] := by simpa using hfields
  obtain ⟨previous, derived, hfind, -, hstep, -, -, rfl⟩ := (saveChassis_eq_ok hne).mp hok
  obtain ⟨isOnline, on, off, uptime, hrow⟩ := hstep.written fields
  obtain ⟨isOnline', on', off', uptime', hsaved⟩ := hstep.eq_withLifecycle
  have hpk := Inventory.find_pk hfind
  refine ⟨previous, saved.writeTo (fields ++ derived) previous, hpk, ⟨?_, rfl, rfl⟩, ?_, ?_, ?_, ?_⟩
  · rw [hpk]
    exact hfind
  · rw [hrow]
    exact sameIdentity_withLifecycle _ _ _ _ _
  · rw [hsaved]
    exact sameIdentity_withLifecycle _ _ _ _ _
  · rw [hrow, withLifecycle_status]
  · rw [hsaved, withLifecycle_status]

/-- A transition that succeeds sets the status of the row and keeps its identity. -/
theorem transitionDevice_rewrites {now : Time} {db db' : Inventory} {pk : Nat}
    {toStatus : HardwareStatus} (hok : transitionDevice now db pk toStatus = .ok (db', true)) :
    ∃ row row', row.pk = pk ∧ Rewrites db db' row row' ∧ SameIdentity row' row ∧
      row'.status = toStatus := by
  unfold transitionDevice at hok
  cases hfind : db.find pk with
  | none =>
      rw [hfind] at hok
      cases hok
  | some device =>
      simp only [hfind] at hok
      split at hok
      next => cases hok
      next =>
        simp only [bind_eq_ok, liftSave_eq_ok, Prod.exists, Except.ok.injEq, Prod.mk.injEq,
          and_true] at hok
        obtain ⟨_, saved, hsave, rfl⟩ := hok
        obtain ⟨row, row', hpk, hrewrites, hidentity, -, hstatus, -⟩ :=
          saveChassis_rewrites (by simp) hsave
        have hrow : row = device := by
          have hdevice : device.pk = pk := Inventory.find_pk hfind
          have hfound := hrewrites.find
          rw [hpk] at hfound
          exact Option.some.inj (hfound.symm.trans (hdevice ▸ hfind))
        subst hrow
        refine ⟨row, row', Inventory.find_pk hfind, hrewrites, hidentity.trans ?_, ?_⟩
        · exact ⟨rfl, by simp, by simp, by simp, by simp, by simp⟩
        · rw [hstatus]
          simp

theorem refreshLifecycle_identity {db : Inventory} {chassis refreshed : Chassis}
    (hok : refreshLifecycle db chassis = .ok refreshed) : SameIdentity refreshed chassis := by
  unfold refreshLifecycle at hok
  split at hok
  next => cases hok
  next =>
    cases hok
    exact ⟨rfl, rfl, rfl, rfl, rfl, rfl⟩

theorem refreshLifecycle_status {db : Inventory} {chassis refreshed row : Chassis}
    (hok : refreshLifecycle db chassis = .ok refreshed) (hfind : db.find chassis.pk = some row) :
    refreshed.status = row.status := by
  unfold refreshLifecycle at hok
  rw [hfind] at hok
  cases hok
  rfl

/-- Bringing a device online rewrites its row with status online and keeps its identity. -/
theorem bringOnline_rewrites {now : Time} {db db' : Inventory} (hconsistent : db.Consistent)
    {chassis chassis' : Chassis} (hok : bringOnline now db chassis = .ok (db', chassis')) :
    ∃ row row', row.pk = chassis.pk ∧ Rewrites db db' row row' ∧ SameIdentity row' row ∧
      row'.status = .online ∧ SameIdentity chassis' chassis ∧ chassis'.status = .online := by
  unfold bringOnline at hok
  simp only [bind_eq_ok, Prod.exists] at hok
  obtain ⟨db₁, provisioned, hprovision, hok⟩ := hok
  cases provisioned with
  | false => cases hok
  | true =>
      simp only [Bool.not_true, Bool.false_eq_true, if_false, bind_eq_ok, Prod.exists] at hok
      obtain ⟨db₂, online, honline, hok⟩ := hok
      cases online with
      | false => cases hok
      | true =>
          simp only [Bool.not_true, Bool.false_eq_true, if_false, bind_eq_ok, Except.ok.injEq,
            Prod.mk.injEq] at hok
          obtain ⟨refreshed, hrefresh, rfl, rfl⟩ := hok
          obtain ⟨mid, row', hmidPk, hrewrites, hidentity, hstatus⟩ :=
            transitionDevice_rewrites honline
          have hfirst : ∃ row, row.pk = chassis.pk ∧ Rewrites db db₁ row mid ∧
              SameIdentity mid row := by
            unfold provisionDiscovered at hprovision
            by_cases hdiscovered : chassis.status = .discovered
            · rw [if_pos hdiscovered] at hprovision
              obtain ⟨row, row₁, hpk, hrewrites₁, hidentity₁, -⟩ :=
                transitionDevice_rewrites hprovision
              have hmid : mid = row₁ := by
                have hfound := hrewrites₁.find'
                rw [hpk, ← hmidPk] at hfound
                exact Option.some.inj (hrewrites.find.symm.trans hfound)
              exact ⟨row, hpk, hmid ▸ hrewrites₁, hmid ▸ hidentity₁⟩
            · rw [if_neg hdiscovered] at hprovision
              cases hprovision
              exact ⟨mid, hmidPk, Rewrites.self hconsistent hrewrites.find, SameIdentity.refl mid⟩
          obtain ⟨row, hpk, hrewrites₁, hidentity₁⟩ := hfirst
          have hboth := hrewrites₁.trans hrewrites
          have hrefreshed : db₂.find chassis.pk = some row' := by
            rw [← hpk]
            exact hboth.find'
          refine ⟨row, row', hpk, hboth, hidentity.trans hidentity₁, hstatus,
            refreshLifecycle_identity hrefresh, ?_⟩
          rw [refreshLifecycle_status hrefresh hrefreshed, hstatus]

/-- The identity a refresh leaves in the row: the address when it is set, and the hardware address when
the instance's one is respelled. -/
def refreshedRow (chassis : Chassis) (payload : NormalizedHardware) (setIp : Bool) (row : Chassis) :
    Chassis :=
  { row with
    macAddress :=
      if refreshedMac payload chassis.macAddress = chassis.macAddress then row.macAddress
      else refreshedMac payload chassis.macAddress
    ip := if setIp then getPrepValue payload.ip else row.ip }

/-- A refresh through an instance that knows the stored hardware address respells the stored one. -/
theorem refreshedRow_macAddress {chassis row : Chassis} (payload : NormalizedHardware) (setIp : Bool)
    (h : chassis.macAddress = row.macAddress) :
    (refreshedRow chassis payload setIp row).macAddress = refreshedMac payload row.macAddress := by
  unfold refreshedRow
  rw [h]
  split
  next hsame => exact hsame.symm
  next => rfl

theorem updateFromNormalized_rewrites {now : Time} {db db' : Inventory} {chassis chassis' : Chassis}
    {payload : NormalizedHardware} {setIp : Bool}
    (hok : updateFromNormalized now db chassis payload setIp = .ok (db', chassis')) :
    ∃ row row', row.pk = chassis.pk ∧ Rewrites db db' row row' ∧
      SameIdentity row' (refreshedRow chassis payload setIp row) ∧ row'.status = row.status ∧
      SameIdentity chassis' { chassis with
        macAddress := refreshedMac payload chassis.macAddress
        ip := if setIp then payload.ip else chassis.ip } ∧
      chassis'.status = chassis.status := by
  rw [updateFromNormalized_eq, liftSave_eq_ok] at hok
  obtain ⟨row, row', hpk, hrewrites, hidentity, hsaved, hstatus, hsavedStatus⟩ :=
    saveChassis_rewrites (refreshedColumns_ne_nil now chassis payload setIp) hok
  obtain ⟨hpk', hmanufacturer, hapi, hserial, hmac, hip, hstatus', -⟩ :=
    refreshedInstance_identity now chassis payload setIp
  obtain ⟨hipColumn, hmacColumn, hothers⟩ := mem_refreshedColumns now chassis payload setIp
  refine ⟨row, row', hpk.trans hpk', hrewrites, hidentity.trans ?_, ?_, hsaved.trans ?_, ?_⟩
  · refine ⟨rfl, ?_, ?_, ?_, ?_, ?_⟩
    · rw [writeTo_manufacturer, if_neg (hothers _ (by decide))]
      rfl
    · rw [writeTo_apiDeviceId, if_neg (hothers _ (by decide))]
      rfl
    · rw [writeTo_serialNumber, if_neg (hothers _ (by decide))]
      rfl
    · rw [writeTo_macAddress, hmac]
      simp only [hmacColumn, refreshedRow, ne_eq, ite_not]
    · rw [writeTo_ip, hip]
      cases setIp
      · simp [hipColumn, refreshedRow]
      · simp [hipColumn, refreshedRow]
  · rw [hstatus, writeTo_status, if_neg (hothers _ (by decide))]
  · exact ⟨hpk', hmanufacturer, hapi, hserial, hmac, hip⟩
  · rw [hsavedStatus, hstatus']

theorem createFromNormalized_inserts {now : Time} {db db' : Inventory} {manufacturer : Manufacturer}
    {payload : NormalizedHardware} {initialStatus : Option HardwareStatus} {chassis : Chassis}
    (hok : createFromNormalized now db manufacturer payload initialStatus = .ok (db', chassis)) :
    chassis.pk = db.nextPk ∧ chassis.manufacturer = manufacturer ∧
      chassis.apiDeviceId = payload.apiDeviceId ∧ chassis.serialNumber = payload.serialNumber ∧
      chassis.macAddress = payload.mac ∧ chassis.ip = payload.ip ∧
      chassis.status = initialStatus.getD .discovered ∧
      ∃ row, db' = db.insertRow row ∧ SameIdentity row { chassis with ip := getPrepValue chassis.ip } ∧
        row.status = chassis.status := by
  unfold createFromNormalized at hok
  obtain ⟨_, ⟨rfl⟩, -, -, hcreate⟩ := create_eq_ok.mp hok
  obtain ⟨-, -, -, rfl, rfl⟩ := createChassis_eq_ok.mp hcreate
  have hmac := map_trim_mac payload
  generalize hinstance : (WirelessChassisWrite.assignTo _ (Chassis.unsaved manufacturer)) = chassis
  have hidentity : chassis.manufacturer = manufacturer ∧
      chassis.apiDeviceId = payload.apiDeviceId ∧
      chassis.serialNumber = payload.serialNumber ∧ chassis.macAddress = payload.mac ∧
      chassis.ip = payload.ip ∧ chassis.status = initialStatus.getD .discovered := by
    rw [← hinstance]
    cases initialStatus <;> simp [WirelessChassisWrite.ofValues, WirelessChassisWrite.assignTo,
      WirelessChassisWrite.withoutManufacturer, FieldValue.column, FieldValue.validated,
      FieldValue.assign, payload.api_trimmed, payload.ip_trimmed, payload.serial_trimmed, hmac,
      Chassis.unsaved]
  obtain ⟨hmanufacturer, hapi, hserial, hmac, hip, hstatus⟩ := hidentity
  obtain ⟨isOnline, on, heq⟩ := startLifecycle_eq now db chassis
  rw [heq]
  refine ⟨rfl, hmanufacturer, hapi, hserial, hmac, hip, hstatus, _, rfl, ?_, ?_⟩
  · refine ⟨rfl, ?_, ?_, ?_, ?_, ?_⟩ <;> simp [Chassis.stored, Column.mem_all]
  · simp [Chassis.stored, Column.mem_all]

/-! ### The tables stay consistent -/

section Consistent

variable {now : Time} {db db' : Inventory} (h : db.Consistent)
include h

theorem Inventory.Consistent.transitionDevice {pk : Nat} {toStatus : HardwareStatus} {done : Bool}
    (hok : transitionDevice now db pk toStatus = .ok (db', done)) : db'.Consistent := by
  unfold HardwareLifecycleManager.transitionDevice at hok
  split at hok
  next => cases hok
  next =>
    split at hok
    next =>
      cases hok
      exact h
    next =>
      simp only [bind_eq_ok, liftSave_eq_ok, Prod.exists, Except.ok.injEq, Prod.mk.injEq] at hok
      obtain ⟨_, _, hsave, rfl, -⟩ := hok
      exact h.saveChassis hsave

theorem Inventory.Consistent.provisionDiscovered {chassis : Chassis} {done : Bool}
    (hok : provisionDiscovered now db chassis = .ok (db', done)) : db'.Consistent := by
  unfold Micboard.provisionDiscovered at hok
  split at hok
  next => exact h.transitionDevice hok
  next =>
    cases hok
    exact h

theorem Inventory.Consistent.transitionRespondingChassisOnline {chassis chassis' : Chassis}
    (hok : transitionRespondingChassisOnline now db chassis = .ok (db', chassis')) :
    db'.Consistent := by
  unfold Micboard.transitionRespondingChassisOnline at hok
  split at hok
  next =>
    cases hok
    exact h
  next =>
    unfold bringOnline at hok
    simp only [bind_eq_ok, Prod.exists] at hok
    obtain ⟨db₁, provisioned, hprovision, hok⟩ := hok
    have h₁ := h.provisionDiscovered hprovision
    split at hok
    next => cases hok
    next =>
      simp only [bind_eq_ok, Prod.exists] at hok
      obtain ⟨db₂, online, honline, hok⟩ := hok
      have h₂ := h₁.transitionDevice honline
      split at hok
      next => cases hok
      next =>
        simp only [bind_eq_ok, Except.ok.injEq, Prod.mk.injEq] at hok
        obtain ⟨_, -, rfl, -⟩ := hok
        exact h₂

theorem Inventory.Consistent.updateFromNormalized {chassis chassis' : Chassis}
    {payload : NormalizedHardware} {setIp : Bool}
    (hok : updateFromNormalized now db chassis payload setIp = .ok (db', chassis')) :
    db'.Consistent := by
  rw [updateFromNormalized_eq, liftSave_eq_ok] at hok
  exact h.saveChassis hok

theorem Inventory.Consistent.createFromNormalized {manufacturer : Manufacturer}
    {payload : NormalizedHardware} {initialStatus : Option HardwareStatus} {chassis : Chassis}
    (hok : createFromNormalized now db manufacturer payload initialStatus = .ok (db', chassis)) :
    db'.Consistent := by
  unfold WirelessChassisPersistenceService.createFromNormalized at hok
  obtain ⟨_, _, _, _, hcreate⟩ := create_eq_ok.mp hok
  exact h.createChassis hcreate

end Consistent

end Micboard
