import Micboard.ChassisProfile
import Micboard.DeviceImport

/-! What an import does to a chassis that it finds. Its model, role and location are overwritten,
its name and firmware version are not; and whether the import succeeds depends neither on the model,
as long as that is text, nor on the role. -/

namespace Micboard

open Library Library.Text WirelessChassisPersistenceService HardwareLifecycleManager

namespace ImportService

section Reconciliation

variable (now : Time)

theorem requireTransition_bare (pk : Nat) (db : Inventory) (nextStatus : HardwareStatus) :
    requireTransition now pk db.bare nextStatus =
      (requireTransition now pk db nextStatus).map Inventory.bare := by
  unfold requireTransition
  refine bind_of_map (transitionDevice_bare now db pk nextStatus) ?_
  rintro ⟨moved, done⟩ -
  cases done <;> rfl

theorem reconcileStatus_bare (db : Inventory) (chassis : Chassis) (targetStatus : HardwareStatus) :
    reconcileStatus now db.bare chassis.bare targetStatus =
      (reconcileStatus now db chassis targetStatus).map Inventory.bare :=
  foldlM_of_map (requireTransition_bare now chassis.pk) _ db

theorem reconcileStatus_profile {db db' : Inventory} {chassis : Chassis} {targetStatus : HardwareStatus}
    (hok : reconcileStatus now db chassis targetStatus = .ok db') :
    db'.profile chassis.pk = db.profile chassis.pk := by
  refine foldlM_invariant
    (fun reached : Inventory => reached.profile chassis.pk = db.profile chassis.pk)
    ?_ rfl hok
  intro reached next reached' _ hreached hstep
  unfold requireTransition at hstep
  obtain ⟨⟨moved, done⟩, htransition, hstep⟩ := bind_eq_ok.mp hstep
  cases done with
  | false => cases hstep
  | true =>
      obtain rfl := Except.ok.inj hstep
      exact (transitionDevice_profile htransition).trans hreached

theorem reconcileChanged_bare (db : Inventory) (chassis : Chassis) (targetStatus : HardwareStatus) :
    reconcileChanged now db.bare chassis.bare targetStatus =
      (reconcileChanged now db chassis targetStatus).map Inventory.bare := by
  unfold reconcileChanged
  show (if targetStatus = chassis.status then _ else _) = _
  by_cases hsame : targetStatus = chassis.status
  · simp only [if_pos hsame]
    rfl
  · simp only [if_neg hsame]
    exact reconcileStatus_bare now db chassis targetStatus

theorem reconcileChanged_profile {db db' : Inventory} {chassis : Chassis}
    {targetStatus : HardwareStatus}
    (hok : reconcileChanged now db chassis targetStatus = .ok db') :
    db'.profile chassis.pk = db.profile chassis.pk := by
  unfold reconcileChanged at hok
  split at hok
  next => rw [Except.ok.inj hok]
  next => exact reconcileStatus_profile now hok

end Reconciliation

section Update

variable {now : Time} {db db' : Inventory} {chassis saved : Chassis} {device device' : JsonObject}

/-- The two payloads have the same identity and state. -/
structure SameDevice (device device' : JsonObject) : Prop where
  serialNumber : serialNumber device = serialNumber device'
  ip : ip device = ip device'
  apiDeviceId : apiDeviceId device = apiDeviceId device'
  macAddress : macAddress device = macAddress device'
  status : status device = status device'

/-- The profile an update leaves. -/
def importedProfile (chassis : Chassis) (device : JsonObject) (model : String) : Profile where
  name := chassis.name
  model := trim model
  role := trim (role device)
  firmwareVersion := chassis.firmwareVersion

theorem metadataWrite_columns (model : String) : (metadataWrite device model).columns =
    [.model, .role, .ip, .apiDeviceId] ++
      ((macAddress device).map fun _ => Column.macAddress).toList := by
  unfold metadataWrite
  cases macAddress device <;> rfl

theorem metadataWrite_bare (h : SameDevice device device') (model model' : String) :
    ((metadataWrite device model).assignTo chassis).bare =
      ((metadataWrite device' model').assignTo chassis).bare := by
  unfold metadataWrite
  rw [h.ip, h.apiDeviceId, h.macAddress]
  cases macAddress device' <;> simp [WirelessChassisWrite.ofValues, WirelessChassisWrite.assignTo,
    FieldValue.validated, FieldValue.assign, Chassis.bare]

theorem metadataWrite_profile (model : String) :
    ((metadataWrite device model).assignTo chassis).profile = importedProfile chassis device model := by
  unfold metadataWrite
  cases macAddress device <;> simp [WirelessChassisWrite.ofValues, WirelessChassisWrite.assignTo,
    FieldValue.validated, FieldValue.assign, Chassis.profile, importedProfile]

theorem metadataWrite_pk (model : String) :
    ((metadataWrite device model).assignTo chassis).pk = chassis.pk := by
  unfold metadataWrite
  cases macAddress device <;> simp [WirelessChassisWrite.ofValues, WirelessChassisWrite.assignTo,
    FieldValue.validated, FieldValue.assign]

theorem update_metadataWrite (model : String) :
    update now db chassis (metadataWrite device model) false =
      liftSave (saveChassis now db ((metadataWrite device model).assignTo chassis)
        (some (metadataWrite device model).columns)) := by
  rw [update, if_neg]
  · rfl
  · unfold metadataWrite
    cases macAddress device <;> simp [WirelessChassisWrite.ofValues]

theorem update_metadataWrite_bare (h : SameDevice device device') (model model' : String) :
    (update now db chassis (metadataWrite device model) false).map bareSaved =
      (update now db chassis (metadataWrite device' model') false).map bareSaved := by
  have hsave : ∀ device model,
      (update now db chassis (metadataWrite device model) false).map bareSaved =
      liftSave (saveChassis now db.bare ((metadataWrite device model).assignTo chassis).bare
        (some (metadataWrite device model).columns)) := by
    intro device model
    rw [update_metadataWrite]
    exact (liftSave_map (saveChassis_bare now db _ _)).symm
  rw [hsave, hsave, metadataWrite_bare h model model', metadataWrite_columns, metadataWrite_columns,
    h.macAddress]

theorem update_metadataWrite_profile {model : String} (hfind : db.find chassis.pk = some chassis)
    (hok : update now db chassis (metadataWrite device model) false = .ok (db', saved)) :
    saved.pk = chassis.pk ∧ db'.profile chassis.pk = some (importedProfile chassis device model) := by
  rw [update_metadataWrite, liftSave_eq_ok] at hok
  have hne : some (metadataWrite device model).columns ≠ some [] := by
    rw [metadataWrite_columns]
    simp
  obtain ⟨previous, derived, hprevious, -, hstep, -, -, rfl⟩ := (saveChassis_eq_ok hne).mp hok
  rw [metadataWrite_pk, hfind] at hprevious
  obtain rfl := Option.some.inj hprevious
  obtain ⟨isOnline, on, off, uptime, hsaved⟩ := hstep.eq_withLifecycle
  obtain ⟨isOnline', on', off', uptime', hrow⟩ := hstep.written (metadataWrite device model).columns
  refine ⟨by rw [hsaved, withLifecycle_pk, metadataWrite_pk], ?_⟩
  have hrewrites : Rewrites db (db.updateRow (saved.writeTo
      ((metadataWrite device model).columns ++ derived) chassis)) chassis (saved.writeTo
      ((metadataWrite device model).columns ++ derived) chassis) := ⟨hfind, rfl, rfl⟩
  refine hrewrites.profile.2.trans (congrArg some ?_)
  have hprofile := @metadataWrite_profile chassis device model
  rw [hrow, ← hprofile]
  rw [Chassis.profile, importedProfile, Profile.mk.injEq] at hprofile
  simp [Chassis.profile, Chassis.withLifecycle, Chassis.writeTo, metadataWrite_columns, hprofile]

end Update

section Import

variable {tenancy : Tenancy} {now : Time} {tables tables' : HardwareTables} {chassis : Chassis}
  {device device' : JsonObject} {manufacturer : Manufacturer} {location : Option Nat}

/-- What an update of a found chassis leaves. -/
theorem importExisting_profile (hfind : tables.inventory.find chassis.pk = some chassis)
    (hok : importExisting tenancy now tables device location chassis = .ok tables') :
    ∃ text, validatedModel (model device) = .ok text ∧
      tables'.inventory.profile chassis.pk = some (importedProfile chassis device text) ∧
      tables'.location chassis.pk = location := by
  unfold importExisting at hok
  obtain ⟨text, hmodel, hok⟩ := bind_eq_ok.mp hok
  obtain ⟨_, -, hok⟩ := bind_eq_ok.mp hok
  obtain ⟨⟨inventory, saved⟩, hupdate, hok⟩ := bind_eq_ok.mp hok
  obtain ⟨hpk, hprofile⟩ := update_metadataWrite_profile hfind (liftImport_eq_ok.mp hupdate)
  obtain ⟨reconciled, hreconcile, hok⟩ := bind_eq_ok.mp hok
  obtain rfl := Except.ok.inj hok
  refine ⟨text, hmodel, ?_, Function.update_self _ _ _⟩
  have hkept : reconciled.profile chassis.pk = inventory.profile chassis.pk := by
    rw [← hpk]
    exact reconcileChanged_profile now (liftImport_eq_ok.mp hreconcile)
  exact hkept.trans hprofile

/-- **An update does not fail because of what it says of the profile**, if the model is text. -/
theorem importExisting_succeeds (h : SameDevice device device')
    (hmodel : ∃ text, validatedModel (model device) = .ok text)
    (hok : ∃ tables', importExisting tenancy now tables device' location chassis = .ok tables') :
    ∃ tables', importExisting tenancy now tables device location chassis = .ok tables' := by
  obtain ⟨text, hmodel⟩ := hmodel
  obtain ⟨tables', hok⟩ := hok
  unfold importExisting at hok ⊢
  obtain ⟨text', -, hok⟩ := bind_eq_ok.mp hok
  obtain ⟨_, hquota, hok⟩ := bind_eq_ok.mp hok
  obtain ⟨saved', hupdate', hok⟩ := bind_eq_ok.mp hok
  obtain ⟨reconciled', hreconcile', -⟩ := bind_eq_ok.mp hok
  have hbare := @update_metadataWrite_bare now tables.inventory chassis device device' h text text'
  rw [liftImport_eq_ok.mp hupdate'] at hbare
  obtain ⟨saved, hupdate, hsaved⟩ := map_eq_ok.mp hbare
  obtain ⟨hinventory, hinstance⟩ := Prod.mk.inj hsaved
  have hmap := reconcileChanged_bare now saved'.1 saved'.2 (status device')
  rw [liftImport_eq_ok.mp hreconcile', ← hinventory, ← hinstance, reconcileChanged_bare,
    ← h.status] at hmap
  obtain ⟨reconciled, hreconcile, -⟩ := map_eq_ok.mp hmap
  refine ⟨_, bind_eq_ok.mpr ⟨text, hmodel, bind_eq_ok.mpr ⟨_, hquota, bind_eq_ok.mpr ⟨saved,
    liftImport_eq_ok.mpr hupdate, bind_eq_ok.mpr ⟨reconciled, liftImport_eq_ok.mpr hreconcile,
    rfl⟩⟩⟩⟩⟩

theorem importDevice_updated_iff {pk : Nat} :
    importDevice tenancy now tables device manufacturer location false = .ok (tables', .updated pk) ↔
      serialNumber device ≠ "" ∧ ip device ≠ "" ∧ apiDeviceId device ≠ "" ∧
        ∃ result chassis, checkImported tables device manufacturer = .ok result ∧
          result.outcome ≠ .conflict ∧ result.existingDevice = some chassis ∧
          chassis.manufacturer.pk = manufacturer.pk ∧ chassis.pk = pk ∧
          importExisting tenancy now tables device location chassis = .ok tables' := by
  unfold importDevice
  by_cases hblank : serialNumber device = "" ∨ ip device = "" ∨ apiDeviceId device = ""
  · rw [if_pos hblank]
    refine iff_of_false (fun h => by cases h) ?_
    rintro ⟨hserial, hip, hapi, -⟩
    rcases hblank with h | h | h
    · exact hserial h
    · exact hip h
    · exact hapi h
  obtain ⟨hserial, hip, hapi⟩ := not_or.mp hblank |>.imp_right not_or.mp
  rw [if_neg hblank, bind_eq_ok]
  constructor
  · rintro ⟨result, hcheck, hok⟩
    refine ⟨hserial, hip, hapi, result, ?_⟩
    split at hok
    next => cases hok
    next hconflict =>
      split at hok
      next =>
        rw [if_neg Bool.false_ne_true] at hok
        obtain ⟨_, -, hok⟩ := bind_eq_ok.mp hok
        cases hok
      next chassis hexisting =>
        split at hok
        next => cases hok
        next howner =>
          rw [if_neg Bool.false_ne_true] at hok
          obtain ⟨imported, himport, hok⟩ := bind_eq_ok.mp hok
          obtain ⟨rfl, hpk⟩ := Prod.mk.inj (Except.ok.inj hok)
          exact ⟨chassis, hcheck, hconflict, hexisting, not_not.mp howner,
            ImportOutcome.updated.inj hpk, himport⟩
  · rintro ⟨-, -, -, result, chassis, hcheck, hconflict, hexisting, howner, rfl, himport⟩
    refine ⟨result, hcheck, ?_⟩
    rw [if_neg hconflict, hexisting]
    simp only [howner, ne_eq, not_true_eq_false, if_false, Bool.false_eq_true, himport]
    rfl

end Import

end ImportService

end Micboard
