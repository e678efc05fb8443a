import Micboard.PollingEffect

/-! The columns that describe a chassis: its name, model, role and firmware version. No save,
transition or refresh reads them to decide anything, so each of these operations commutes with
leaving them out; and only a write that names one of them changes it. -/

namespace Micboard

open Library Library.Text WirelessChassisPersistenceService HardwareLifecycleManager

/-- What the descriptive columns of a chassis hold. -/
structure Profile where
  name : String
  model : String
  role : String
  firmwareVersion : String
  deriving DecidableEq, Repr

def Chassis.profile (chassis : Chassis) : Profile where
  name := chassis.name
  model := chassis.model
  role := chassis.role
  firmwareVersion := chassis.firmwareVersion

/-- The stored profile of a chassis. -/
def Inventory.profile (db : Inventory) (pk : Nat) : Option Profile := (db.find pk).map Chassis.profile

/-- The chassis without its profile. -/
def Chassis.bare (chassis : Chassis) : Chassis :=
  { chassis with name := "", model := "", role := "", firmwareVersion := "" }

/-- The tables without the profiles. -/
def Inventory.bare (db : Inventory) : Inventory := { db with chassis := db.chassis.map Chassis.bare }

/-- The result of a save without the profiles. -/
def bareSaved (saved : Inventory × Chassis) : Inventory × Chassis := (saved.1.bare, saved.2.bare)

section Tables

variable (db : Inventory) (chassis row : Chassis) (fields : List Column)

theorem writeTo_bare : chassis.bare.writeTo fields row.bare = (chassis.writeTo fields row).bare := by
  simp [Chassis.writeTo, Chassis.bare]

theorem find_bare (pk : Nat) : db.bare.find pk = (db.find pk).map Chassis.bare := by
  rw [Inventory.find, Inventory.bare, List.find?_map]
  rfl

theorem violatesUnique_bare : db.bare.violatesUnique chassis.bare = db.violatesUnique chassis := by
  rw [Inventory.violatesUnique, Inventory.bare, List.any_map]
  rfl

theorem updateRow_bare : db.bare.updateRow row.bare = (db.updateRow row).bare := by
  simp only [Inventory.updateRow, Inventory.bare, replaceRow, List.map_map,
    Inventory.mk.injEq, and_true]
  apply List.map_congr_left
  intro other _
  show (if other.pk = row.pk then row.bare else other.bare) =
    (if other.pk = row.pk then row else other).bare
  split
  next => rfl
  next => rfl

theorem deriveLifecycleFields_bare (now : Time) (previous : Chassis) :
    deriveLifecycleFields now previous.bare chassis.bare =
      ((deriveLifecycleFields now previous chassis).1.bare,
        (deriveLifecycleFields now previous chassis).2) := by
  cases hoperational : chassis.status.isOperational with
  | true =>
      cases hwas : (previous.isOnline || previous.status.isOperational) with
      | true => simp only [deriveLifecycleFields, Chassis.bare, hoperational, hwas]; rfl
      | false => simp only [deriveLifecycleFields, Chassis.bare, hoperational, hwas]; rfl
  | false =>
      cases hwas : (previous.isOnline || previous.status.isOperational) with
      | true =>
          cases hon : previous.lastOnlineAt with
          | none => simp only [deriveLifecycleFields, Chassis.bare, hoperational, hwas, hon]; rfl
          | some => simp only [deriveLifecycleFields, Chassis.bare, hoperational, hwas, hon]; rfl
      | false => simp only [deriveLifecycleFields, Chassis.bare, hoperational, hwas]; rfl

end Tables

section Operations

variable (now : Time) (db : Inventory) (chassis : Chassis)

theorem prepareChassisForSave_bare : prepareChassisForSave now db.bare false chassis.bare =
    (prepareChassisForSave now db false chassis).map fun prepared => (prepared.1.bare, prepared.2) := by
  have hfields : prepareLifecycleFields now db.bare false chassis.bare =
      (prepareLifecycleFields now db false chassis).map fun prepared =>
        (prepared.1.bare, prepared.2) := by
    rw [prepareLifecycleFields, prepareLifecycleFields, if_neg Bool.false_ne_true,
      if_neg Bool.false_ne_true]
    have hfind : db.bare.find chassis.bare.pk = (db.find chassis.pk).map Chassis.bare := find_bare db _
    cases hrow : db.find chassis.pk with
    | none =>
        rw [hfind, hrow]
        rfl
    | some previous =>
        rw [hfind, hrow]
        show (if previous.status = chassis.status then _ else _) = _
        by_cases hstatus : previous.status = chassis.status
        · simp only [if_pos hstatus]
          rfl
        by_cases hallowed : chassis.status ∉ validStatusTransitions previous.status
        · simp only [if_neg hstatus, if_pos hallowed]
          exact (if_pos hallowed).trans rfl
        · simp only [if_neg hstatus, if_neg hallowed]
          refine (if_neg hallowed).trans ?_
          rw [deriveLifecycleFields_bare]
          rfl
  unfold prepareChassisForSave
  exact bind_of_map hfields fun prepared _ => rfl

theorem persistDerivedFields_bare (context : ChassisSaveContext) (fields : Option (List Column)) :
    persistDerivedFields db.bare chassis.bare context fields =
      (persistDerivedFields db chassis context fields).bare := by
  unfold persistDerivedFields
  cases fields with
  | none => rfl
  | some fields =>
      by_cases hderived : context.updateFields.filter (· ∉ fields) = []
      · simp only [if_pos hderived]
      · have hfind : db.bare.find chassis.bare.pk = (db.find chassis.pk).map Chassis.bare :=
          find_bare db _
        simp only [if_neg hderived, hfind]
        cases db.find chassis.pk with
        | none => rfl
        | some row =>
            simp only [Option.map_some, writeTo_bare, updateRow_bare]

/-- **A save does not read the profile.** -/
theorem saveChassis_bare (fields : Option (List Column)) :
    saveChassis now db.bare chassis.bare fields =
      (saveChassis now db chassis fields).map bareSaved := by
  unfold saveChassis
  by_cases hfields : fields = some []
  · simp only [if_pos hfields]
    rfl
  simp only [if_neg hfields]
  have hvalidate : HardwareIPOwnershipService.validateForInstance db.bare chassis.bare =
      (HardwareIPOwnershipService.validateForInstance db chassis).map id := by
    cases hresult : HardwareIPOwnershipService.validateForInstance db chassis <;> exact hresult
  refine bind_of_map hvalidate fun _ _ => bind_of_map (prepareChassisForSave_bare now db chassis) ?_
  rintro ⟨prepared, context⟩ -
  have hfind : db.bare.find prepared.bare.pk = (db.find prepared.pk).map Chassis.bare := find_bare db _
  simp only [hfind]
  cases db.find prepared.pk with
  | none => rfl
  | some row =>
      have hwrite : writeRow db.bare
          (fields.getD Column.all) prepared.bare row.bare Inventory.updateRow =
          (writeRow db (fields.getD Column.all) prepared row Inventory.updateRow).map
            Inventory.bare := by
        unfold writeRow
        simp only [writeTo_bare, violatesUnique_bare, updateRow_bare]
        by_cases hip : Column.ip ∈ fields.getD Column.all ∧ prepared.ip = ""
        · exact (if_pos hip).trans (by rw [if_pos hip]; rfl)
        · refine (if_neg hip).trans ?_
          rw [if_neg hip]
          split
          next => rfl
          next => rfl
      refine bind_of_map hwrite fun written _ => ?_
      rw [persistDerivedFields_bare]
      rfl

omit now db chassis in
theorem liftSave_map {α β : Type} {x : Except SaveError α} {x' : Except SaveError β} {f : α → β}
    (h : x' = x.map f) : liftSave x' = (liftSave x).map f := by
  subst h
  cases x <;> rfl

theorem transitionDevice_bare (pk : Nat) (toStatus : HardwareStatus) :
    transitionDevice now db.bare pk toStatus =
      (transitionDevice now db pk toStatus).map fun moved => (moved.1.bare, moved.2) := by
  unfold transitionDevice
  rw [find_bare]
  cases db.find pk with
  | none => rfl
  | some device =>
      show (if (!isValidTransition device.status toStatus) = true then _ else _) = _
      by_cases hvalid : (!isValidTransition device.status toStatus) = true
      · simp only [if_pos hvalid]
        rfl
      · simp only [if_neg hvalid]
        have hsave := saveChassis_bare now db { device with status := toStatus, lastSeen := some now }
          (some [.status, .lastSeen])
        exact bind_of_map (liftSave_map hsave) fun saved _ => rfl

theorem provisionDiscovered_bare : provisionDiscovered now db.bare chassis.bare =
    (provisionDiscovered now db chassis).map fun moved => (moved.1.bare, moved.2) := by
  unfold provisionDiscovered
  show (if chassis.status = .discovered then _ else _) = _
  by_cases hstatus : chassis.status = .discovered
  · simp only [if_pos hstatus]
    exact transitionDevice_bare now db chassis.pk .provisioning
  · simp only [if_neg hstatus]
    rfl

theorem refreshLifecycle_bare : refreshLifecycle db.bare chassis.bare =
    (refreshLifecycle db chassis).map Chassis.bare := by
  unfold refreshLifecycle
  have hfind : db.bare.find chassis.bare.pk = (db.find chassis.pk).map Chassis.bare := find_bare db _
  rw [hfind]
  cases db.find chassis.pk <;> rfl

theorem bringOnline_bare : bringOnline now db.bare chassis.bare =
    (bringOnline now db chassis).map bareSaved := by
  unfold bringOnline
  refine bind_of_map (provisionDiscovered_bare now db chassis) ?_
  rintro ⟨provisioned, done⟩ -
  cases done with
  | false => rfl
  | true =>
      refine bind_of_map (transitionDevice_bare now provisioned chassis.pk .online) ?_
      rintro ⟨online, done⟩ -
      cases done with
      | false => rfl
      | true => exact bind_of_map (refreshLifecycle_bare online chassis) fun refreshed _ => rfl

/-- Bringing a responding device online does not read its profile. -/
theorem transitionResponding_bare : transitionRespondingChassisOnline now db.bare chassis.bare =
    (transitionRespondingChassisOnline now db chassis).map bareSaved := by
  unfold transitionRespondingChassisOnline
  show (if chassis.status = .online then _ else _) = _
  by_cases hstatus : chassis.status = .online
  · simp only [if_pos hstatus]
    rfl
  · simp only [if_neg hstatus]
    exact bringOnline_bare now db chassis

theorem respondUnlessServiced_bare : respondUnlessServiced now db.bare chassis.bare =
    (respondUnlessServiced now db chassis).map bareSaved := by
  unfold respondUnlessServiced
  show (if chassis.status = .degraded ∨ chassis.status = .maintenance then _ else _) = _
  by_cases hserviced : chassis.status = .degraded ∨ chassis.status = .maintenance
  · simp only [if_pos hserviced]
    rfl
  · simp only [if_neg hserviced]
    exact transitionResponding_bare now db chassis

end Operations

section Written

variable {now : Time} {db db' : Inventory} {chassis saved : Chassis}

theorem Rewrites.profile {row row' : Chassis} (h : Rewrites db db' row row') :
    db.profile row.pk = some row.profile ∧ db'.profile row.pk = some row'.profile := by
  rw [Inventory.profile, Inventory.profile, h.find, h.find']
  exact ⟨rfl, rfl⟩

/-- A save that names no descriptive column keeps the stored profile. -/
theorem saveChassis_profile {fields : List Column} (hfields : fields ≠ [])
    (hkeeps : ∀ column ∈ fields, column ∉ [Column.name, .model, .role, .firmwareVersion])
    (hok : saveChassis now db chassis (some fields) = .ok (db', saved)) :
    db'.profile chassis.pk = db.profile chassis.pk := by
  have hne : some fields ≠ some [] := by simpa using hfields
  obtain ⟨previous, derived, hfind, -, hstep, -, -, rfl⟩ := (saveChassis_eq_ok hne).mp hok
  obtain ⟨isOnline, on, off, uptime, hrow⟩ := hstep.written fields
  have hpk := Inventory.find_pk hfind
  have hnot : ∀ column ∈ [Column.name, .model, .role, .firmwareVersion], column ∉ fields :=
    fun column hcolumn hmem => hkeeps column hmem hcolumn
  have hprofile : (saved.writeTo (fields ++ derived) previous).profile = previous.profile := by
    rw [hrow]
    simp [Chassis.profile, Chassis.withLifecycle, Chassis.writeTo, hnot]
  have hrewrites : Rewrites db (db.updateRow (saved.writeTo (fields ++ derived) previous)) previous
      (saved.writeTo (fields ++ derived) previous) := by
    refine ⟨?_, rfl, rfl⟩
    rw [hpk]
    exact hfind
  obtain ⟨hbefore, hafter⟩ := hrewrites.profile
  rw [hpk] at hbefore hafter
  rw [Option.getD_some, hafter, hbefore, hprofile]

theorem transitionDevice_profile {pk : Nat} {toStatus : HardwareStatus} {done : Bool}
    (hok : transitionDevice now db pk toStatus = .ok (db', done)) :
    db'.profile pk = db.profile pk := by
  unfold transitionDevice at hok
  cases hfind : db.find pk with
  | none =>
      rw [hfind] at hok
      cases hok
  | some device =>
      simp only [hfind] at hok
      split at hok
      next =>
        cases hok
        rfl
      next =>
        obtain ⟨⟨_, saved⟩, hsave, hok⟩ := bind_eq_ok.mp hok
        obtain ⟨rfl, -⟩ := Prod.mk.inj (Except.ok.inj hok)
        have hpk : device.pk = pk := Inventory.find_pk hfind
        have hkept := saveChassis_profile (by simp) (by simp) (liftSave_eq_ok.mp hsave)
        rw [← hpk]
        exact hkept

theorem provisionDiscovered_profile {done : Bool}
    (hok : provisionDiscovered now db chassis = .ok (db', done)) :
    db'.profile chassis.pk = db.profile chassis.pk := by
  unfold provisionDiscovered at hok
  split at hok
  next => exact transitionDevice_profile hok
  next =>
    cases hok
    rfl

theorem refreshLifecycle_profile (hok : refreshLifecycle db chassis = .ok saved) :
    saved.pk = chassis.pk ∧ saved.profile = chassis.profile := by
  unfold refreshLifecycle at hok
  split at hok
  next => cases hok
  next =>
    cases hok
    exact ⟨rfl, rfl⟩

theorem transitionResponding_profile
    (hok : transitionRespondingChassisOnline now db chassis = .ok (db', saved)) :
    saved.pk = chassis.pk ∧ saved.profile = chassis.profile ∧
      db'.profile chassis.pk = db.profile chassis.pk := by
  unfold transitionRespondingChassisOnline bringOnline at hok
  split at hok
  next =>
    cases hok
    exact ⟨rfl, rfl, rfl⟩
  next =>
    obtain ⟨⟨provisioned, done⟩, hprovision, hok⟩ := bind_eq_ok.mp hok
    cases done with
    | false => cases hok
    | true =>
        obtain ⟨⟨online, done⟩, honline, hok⟩ := bind_eq_ok.mp hok
        cases done with
        | false => cases hok
        | true =>
            obtain ⟨refreshed, hrefresh, hok⟩ := bind_eq_ok.mp hok
            obtain ⟨rfl, rfl⟩ := Prod.mk.inj (Except.ok.inj hok)
            obtain ⟨hpk, hprofile⟩ := refreshLifecycle_profile hrefresh
            exact ⟨hpk, hprofile,
              (transitionDevice_profile honline).trans (provisionDiscovered_profile hprovision)⟩

theorem respondUnlessServiced_profile
    (hok : respondUnlessServiced now db chassis = .ok (db', saved)) :
    saved.pk = chassis.pk ∧ saved.profile = chassis.profile ∧
      db'.profile chassis.pk = db.profile chassis.pk := by
  unfold respondUnlessServiced at hok
  split at hok
  next =>
    cases hok
    exact ⟨rfl, rfl, rfl⟩
  next => exact transitionResponding_profile hok

theorem reconcileChassisLifecycle_profile (created : Bool) :
    (reconcileChassisLifecycle now db chassis created).1.profile chassis.pk =
      db.profile chassis.pk := by
  unfold reconcileChassisLifecycle
  split
  next => rfl
  next =>
  split
  next => rfl
  next _ _ hprovision => exact provisionDiscovered_profile hprovision
  next _ _ hprovision =>
    have hkept := provisionDiscovered_profile hprovision
    split
    next => exact hkept
    next honline => exact (transitionDevice_profile honline).trans hkept
    next honline => exact (transitionDevice_profile honline).trans hkept

end Written

/-! ### The metadata refresh -/

/-- The profile that a refresh writes: what the payload does not say is taken from the chassis. -/
def refreshedProfile (chassis : Chassis) (payload : NormalizedHardware) : Profile where
  name := trim (textOr payload.name chassis.name)
  model := trim (textOr payload.model chassis.model)
  role := trim (if payload.deviceType = "" then chassis.role else roleForDeviceType payload.deviceType)
  firmwareVersion := trim (textOr payload.firmwareVersion chassis.firmwareVersion)

/-- The two payloads differ at most in what they say of the profile. -/
structure SameButProfile (payload payload' : NormalizedHardware) : Prop where
  apiDeviceId : payload.apiDeviceId = payload'.apiDeviceId
  ip : payload.ip = payload'.ip
  serialNumber : payload.serialNumber = payload'.serialNumber
  macAddress : payload.macAddress = payload'.macAddress
  hostedFirmwareVersion : payload.hostedFirmwareVersion = payload'.hostedFirmwareVersion
  description : payload.description = payload'.description
  subnetMask : payload.subnetMask = payload'.subnetMask
  gateway : payload.gateway = payload'.gateway
  networkMode : payload.networkMode = payload'.networkMode
  interfaceId : payload.interfaceId = payload'.interfaceId

namespace SameButProfile

variable {payload payload' : NormalizedHardware}

theorem mac_eq (h : SameButProfile payload payload') : payload.mac = payload'.mac := by
  rw [NormalizedHardware.mac, NormalizedHardware.mac, h.macAddress]

theorem serial_eq (h : SameButProfile payload payload') : payload.serial = payload'.serial := by
  rw [NormalizedHardware.serial, NormalizedHardware.serial, h.serialNumber]

theorem rewrittenMac_eq (h : SameButProfile payload payload') {chassis : Chassis} :
    rewrittenMac chassis payload = rewrittenMac chassis payload' := by
  rw [rewrittenMac, rewrittenMac, h.mac_eq]

theorem checkPayload_eq (h : SameButProfile payload payload') (manufacturer : Manufacturer)
    (state : SyncState) :
    checkPayload manufacturer state payload = checkPayload manufacturer state payload' := by
  rw [checkPayload, checkPayload, h.mac_eq, h.serial_eq, h.ip, h.apiDeviceId]

end SameButProfile

section Refresh

variable (now : Time) (chassis : Chassis) {payload payload' : NormalizedHardware} (setIp : Bool)

theorem refreshedInstance_profile (payload : NormalizedHardware) :
    (refreshedInstance now chassis payload setIp).profile = refreshedProfile chassis payload := by
  unfold refreshedInstance normalizedValues
  rcases rewrittenMac_cases chassis payload with ⟨hrewritten, -⟩ | ⟨hrewritten, -⟩
  · rw [hrewritten]
    cases setIp <;> rfl
  · rw [hrewritten]
    cases setIp <;> rfl

theorem refreshedInstance_bare (h : SameButProfile payload payload') :
    (refreshedInstance now chassis payload setIp).bare =
      (refreshedInstance now chassis payload' setIp).bare := by
  unfold refreshedInstance normalizedValues
  rw [h.rewrittenMac_eq, h.ip, h.hostedFirmwareVersion, h.description, h.subnetMask, h.gateway,
    h.networkMode, h.interfaceId]
  rcases rewrittenMac_cases chassis payload' with ⟨hrewritten, -⟩ | ⟨hrewritten, -⟩
  · rw [hrewritten]
    cases setIp <;> simp [WirelessChassisWrite.ofValues, WirelessChassisWrite.assignTo,
      FieldValue.validated, FieldValue.assign, Chassis.bare]
  · rw [hrewritten]
    cases setIp <;> simp [WirelessChassisWrite.ofValues, WirelessChassisWrite.assignTo,
      FieldValue.validated, FieldValue.assign, Chassis.bare]

theorem refreshedColumns_eq (h : SameButProfile payload payload') :
    refreshedColumns now chassis payload setIp = refreshedColumns now chassis payload' setIp := by
  unfold refreshedColumns normalizedValues
  rw [h.rewrittenMac_eq]
  rcases rewrittenMac_cases chassis payload' with ⟨hrewritten, -⟩ | ⟨hrewritten, -⟩
  · rw [hrewritten]
    cases setIp <;> simp [WirelessChassisWrite.ofValues, WirelessChassisWrite.columns,
      FieldValue.validated, FieldValue.column]
  · rw [hrewritten]
    cases setIp <;> simp [WirelessChassisWrite.ofValues, WirelessChassisWrite.columns,
      FieldValue.validated, FieldValue.column]

theorem mem_refreshedColumns_profile (payload : NormalizedHardware) :
    ∀ column ∈ [Column.name, .model, .role, .firmwareVersion],
      column ∈ refreshedColumns now chassis payload setIp := by
  unfold refreshedColumns normalizedValues
  cases setIp <;> simp [WirelessChassisWrite.ofValues, WirelessChassisWrite.columns,
    FieldValue.validated, FieldValue.column]

/-- **A refresh writes its profile and decides nothing by it.** -/
theorem updateFromNormalized_bare (db : Inventory) (h : SameButProfile payload payload') :
    (updateFromNormalized now db chassis payload setIp).map bareSaved =
      (updateFromNormalized now db chassis payload' setIp).map bareSaved := by
  have hsave : ∀ payload, (updateFromNormalized now db chassis payload setIp).map bareSaved =
      liftSave (saveChassis now db.bare (refreshedInstance now chassis payload setIp).bare
        (some (refreshedColumns now chassis payload setIp))) := by
    intro payload
    rw [updateFromNormalized_eq]
    exact (liftSave_map (saveChassis_bare now db _ _)).symm
  rw [hsave, hsave, refreshedInstance_bare now chassis setIp h, refreshedColumns_eq now chassis setIp h]

variable {now} {chassis} {setIp}

theorem updateFromNormalized_profile {db db' : Inventory} {saved : Chassis}
    (hok : updateFromNormalized now db chassis payload setIp = .ok (db', saved)) :
    saved.pk = chassis.pk ∧ saved.profile = refreshedProfile chassis payload ∧
      db'.profile chassis.pk = some (refreshedProfile chassis payload) := by
  rw [updateFromNormalized_eq, liftSave_eq_ok] at hok
  have hne : some (refreshedColumns now chassis payload setIp) ≠ some [] := by
    simpa using refreshedColumns_ne_nil now chassis payload setIp
  obtain ⟨previous, derived, hfind, -, hstep, -, -, rfl⟩ := (saveChassis_eq_ok hne).mp hok
  have hprofile := refreshedInstance_profile now chassis setIp payload
  have hinstance : (refreshedInstance now chassis payload setIp).pk = chassis.pk :=
    (refreshedInstance_identity now chassis payload setIp).1
  obtain ⟨isOnline, on, off, uptime, hsaved⟩ := hstep.eq_withLifecycle
  obtain ⟨isOnline', on', off', uptime', hrow⟩ :=
    hstep.written (refreshedColumns now chassis payload setIp)
  have hpk := Inventory.find_pk hfind
  rw [hinstance] at hpk
  refine ⟨?_, ?_, ?_⟩
  · rw [hsaved, withLifecycle_pk, hinstance]
  · rw [hsaved, ← hprofile]
    rfl
  · have hrewrites : Rewrites db (db.updateRow (saved.writeTo
        (refreshedColumns now chassis payload setIp ++ derived) previous)) previous (saved.writeTo
        (refreshedColumns now chassis payload setIp ++ derived) previous) := by
      refine ⟨?_, rfl, rfl⟩
      rw [hpk, ← hinstance]
      exact hfind
    have hafter := hrewrites.profile.2
    rw [hpk] at hafter
    refine hafter.trans (congrArg some ?_)
    have hmem := mem_refreshedColumns_profile now chassis setIp payload
    rw [hrow, ← hprofile]
    simp [Chassis.profile, Chassis.withLifecycle, Chassis.writeTo, hmem]

end Refresh

end Micboard
