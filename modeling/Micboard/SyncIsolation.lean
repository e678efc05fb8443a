import Micboard.PollingSnapshot
import Micboard.SyncServiced

/-! What one stubborn chassis does to its siblings. Of all stored statuses only `retired` admits no way
online, so a device that responds for a retired chassis is rejected by the lifecycle. The inventory
synchronization raises for it and is rolled back as a whole; a poll counts it as a failed device and
skips the offline pass. -/

namespace Micboard

open Library Library.Text WirelessChassisPersistenceService HardwareLifecycleManager

/-- The errors by which a lifecycle transition is rejected: `could not provision`, `could not mark
online`. -/
def PersistenceError.IsRejection : PersistenceError → Prop
  | .couldNotProvision _ | .couldNotMarkOnline _ => True
  | _ => False

section Transitions

variable {now : Time} {db db' : Inventory} {pk : Nat} {toStatus : HardwareStatus}

theorem transitionDevice_error {e : PersistenceError}
    (h : transitionDevice now db pk toStatus = .error e) : ∃ cause, e = .save cause := by
  unfold transitionDevice at h
  split at h
  next =>
    cases h
    exact ⟨_, rfl⟩
  next =>
    split at h
    next => cases h
    next =>
      rcases bind_eq_error.mp h with h | ⟨_, _, h⟩
      · revert h
        cases saveChassis now db _ _ with
        | error cause =>
            rintro ⟨⟩
            exact ⟨cause, rfl⟩
        | ok => exact fun h => by cases h
      · cases h

theorem transitionDevice_done {device : Chassis} {done : Bool} (hfind : db.find pk = some device)
    (h : transitionDevice now db pk toStatus = .ok (db', done)) :
    done = isValidTransition device.status toStatus := by
  unfold transitionDevice at h
  rw [hfind] at h
  cases hvalid : isValidTransition device.status toStatus with
  | false =>
      simp only [hvalid, Bool.not_false, if_true] at h
      cases h
      rfl
  | true =>
      simp only [hvalid, Bool.not_true, Bool.false_eq_true, if_false, bind_eq_ok, Prod.exists,
        Except.ok.injEq, Prod.mk.injEq] at h
      obtain ⟨_, _, -, -, rfl⟩ := h
      rfl

theorem transitionDevice_invalid {device : Chassis} (hfind : db.find pk = some device)
    (h : isValidTransition device.status toStatus = false) :
    transitionDevice now db pk toStatus = .ok (db, false) := by
  unfold transitionDevice
  simp [hfind, h]

/-- From every status but `retired` a device comes online through valid transitions. -/
theorem isValidTransition_online {status : HardwareStatus} (hretired : status ≠ .retired)
    (hdiscovered : status ≠ .discovered) : isValidTransition status .online = true := by
  revert hretired hdiscovered
  cases status <;> decide

variable {chassis row : Chassis} (hfind : db.find chassis.pk = some row)
  (hstatus : chassis.status = row.status)
include hfind hstatus

/-- After a device was provisioned its row may come online, or is retired. -/
theorem provisionDiscovered_cases {provisioned : Bool}
    (h : provisionDiscovered now db chassis = .ok (db', provisioned)) :
    provisioned = true ∧ ∃ device, db'.find chassis.pk = some device ∧
      (isValidTransition device.status .online = false ↔ chassis.status = .retired) := by
  unfold provisionDiscovered at h
  by_cases hdiscovered : chassis.status = .discovered
  · rw [if_pos hdiscovered] at h
    have hdone := transitionDevice_done hfind h
    rw [← hstatus, hdiscovered] at hdone
    obtain rfl : provisioned = true := hdone
    obtain ⟨row', device, hpk, hrewrites, -, hprovisioning⟩ := transitionDevice_rewrites h
    refine ⟨rfl, device, ?_, ?_⟩
    · rw [← hpk]
      exact hrewrites.find'
    · rw [hprovisioning, hdiscovered]
      decide
  · rw [if_neg hdiscovered] at h
    cases h
    refine ⟨rfl, row, hfind, ?_⟩
    rw [← hstatus]
    by_cases hretired : chassis.status = .retired
    · rw [hretired]
      decide
    · simp [isValidTransition_online hretired hdiscovered, hretired]

omit hfind hstatus in
theorem provisionDiscovered_error {e : PersistenceError}
    (h : provisionDiscovered now db chassis = .error e) : ∃ cause, e = .save cause := by
  unfold provisionDiscovered at h
  split at h
  next => exact transitionDevice_error h
  next => cases h

omit hfind hstatus in
theorem refreshLifecycle_error {e : PersistenceError} (h : refreshLifecycle db chassis = .error e) :
    ∃ cause, e = .save cause := by
  unfold refreshLifecycle at h
  split at h
  next =>
    cases h
    exact ⟨_, rfl⟩
  next => cases h

omit hfind hstatus in
theorem not_isRejection_of_save {e : PersistenceError} (h : ∃ cause, e = .save cause) :
    ¬e.IsRejection := by
  obtain ⟨cause, rfl⟩ := h
  exact id

theorem bringOnline_rejected_iff :
    (∃ e, bringOnline now db chassis = .error e ∧ e.IsRejection) ↔ chassis.status = .retired := by
  unfold bringOnline
  constructor
  · rintro ⟨e, h, hrejected⟩
    rcases bind_eq_error.mp h with h | ⟨⟨db₁, provisioned⟩, hprovision, h⟩
    · exact absurd hrejected (not_isRejection_of_save (provisionDiscovered_error h))
    obtain ⟨rfl, device, hdevice, hretired⟩ := provisionDiscovered_cases hfind hstatus hprovision
    simp only [Bool.not_true, Bool.false_eq_true, if_false] at h
    rcases bind_eq_error.mp h with h | ⟨⟨db₂, online⟩, honline, h⟩
    · exact absurd hrejected (not_isRejection_of_save (transitionDevice_error h))
    have hdone := transitionDevice_done hdevice honline
    cases hvalid : isValidTransition device.status .online with
    | false => exact hretired.mp hvalid
    | true =>
        rw [hvalid] at hdone
        subst hdone
        simp only [Bool.not_true, Bool.false_eq_true, if_false] at h
        rcases bind_eq_error.mp h with h | ⟨_, _, h⟩
        · exact absurd hrejected (not_isRejection_of_save (refreshLifecycle_error h))
        · cases h
  · intro hretired
    have hprovision : provisionDiscovered now db chassis = .ok (db, true) := by
      rw [provisionDiscovered, hretired]
      rfl
    have honline : markOnline now db chassis.pk = .ok (db, false) := by
      refine transitionDevice_invalid hfind ?_
      rw [← hstatus, hretired]
      decide
    refine ⟨.couldNotMarkOnline chassis.pk, ?_, trivial⟩
    rw [hprovision]
    simp only [bind, Except.bind, Bool.not_true, Bool.false_eq_true, if_false, honline,
      Bool.not_false, if_true]

theorem transitionResponding_rejected_iff :
    (∃ e, transitionRespondingChassisOnline now db chassis = .error e ∧ e.IsRejection) ↔
      chassis.status = .retired := by
  unfold transitionRespondingChassisOnline
  by_cases honline : chassis.status = .online
  · rw [if_pos honline, honline]
    simp
  · rw [if_neg honline]
    exact bringOnline_rejected_iff hfind hstatus

omit hfind hstatus in
/-- The poll reconciles a lifecycle through the transitions of the synchronization. -/
theorem reconcileChassisLifecycle_outcome {created : Bool}
    (h : ¬(created = true ∨ chassis.status ∈ [HardwareStatus.online, .degraded, .maintenance])) :
    (reconcileChassisLifecycle now db chassis created).2 =
      (bringOnline now db chassis).map fun _ => () := by
  rw [reconcileChassisLifecycle, if_neg h, bringOnline]
  cases provisionDiscovered now db chassis with
  | error e => rfl
  | ok result =>
      obtain ⟨db₁, provisioned⟩ := result
      cases provisioned with
      | false => rfl
      | true =>
          cases honline : markOnline now db₁ chassis.pk with
          | error e => simp [bind, Except.bind, honline, Except.map]
          | ok result =>
              obtain ⟨db₂, online⟩ := result
              cases online with
              | false => simp [bind, Except.bind, honline, Except.map]
              | true =>
                  cases hrefresh : refreshLifecycle db₂ chassis <;>
                    simp [bind, Except.bind, honline, hrefresh, Except.map]

/-- A polled device is rejected exactly when its chassis was stored as retired. -/
theorem reconcile_rejected_iff {created : Bool} :
    (∃ e, (reconcileChassisLifecycle now db chassis created).2 = .error e ∧ e.IsRejection) ↔
      created = false ∧ chassis.status = .retired := by
  by_cases hkept : created = true ∨ chassis.status ∈ [HardwareStatus.online, .degraded, .maintenance]
  · rw [reconcileChassisLifecycle, if_pos hkept]
    refine iff_of_false (by simp) ?_
    rintro ⟨rfl, hretired⟩
    rw [hretired] at hkept
    simp at hkept
  · have hcreated : created = false := by simpa using (not_or.mp hkept).1
    rw [reconcileChassisLifecycle_outcome hkept, hcreated, ← bringOnline_rejected_iff hfind hstatus]
    simp only [true_and]
    cases bringOnline now db chassis with
    | error e => simp [Except.map]
    | ok => simp [Except.map]

end Transitions

/-- The metadata refresh of a device found again is accepted, and so is the move of its index entry. -/
def RefreshAccepted (now : Time) (state : SyncState) (existing : Chassis)
    (payload : NormalizedHardware) (setIp : Bool) : Prop :=
  ∃ mid refreshed, updateFromNormalized now state.inventory existing payload setIp =
    .ok (mid, refreshed) ∧
    (setIp = true → ∃ index, noteMoved state.identityIndex refreshed existing.ip = .ok index)

/-- The device is found again as a retired chassis of the manufacturer. -/
def RetiredResponds (now : Time) (manufacturer : Manufacturer) (state : SyncState)
    (payload : NormalizedHardware) : Prop :=
  ∃ result existing, checkPayload manufacturer state payload = .ok result ∧
    result.resolvedDevice = some existing ∧ existing.manufacturer.pk = manufacturer.pk ∧
    existing.status = .retired ∧
    RefreshAccepted now state existing payload (result.outcome = .moved)

section Sync

variable {now : Time} {keys : IdentityKeys} {manufacturer : Manufacturer} {db : Inventory}
  {index : DeviceIdentityIndex} {existing : Chassis} {payload : NormalizedHardware}

/-- After a refresh the instance and its row have the status they had. -/
theorem updateFromNormalized_status {mid : Inventory} {refreshed : Chassis} {setIp : Bool}
    (hdb : db.Consistent) (hview : IndexInv keys manufacturer db index)
    (hexisting : existing ∈ index.objects)
    (hupdate : updateFromNormalized now db existing payload setIp = .ok (mid, refreshed)) :
    refreshed.status = existing.status ∧
      ∃ row, mid.find refreshed.pk = some row ∧ refreshed.status = row.status := by
  obtain ⟨row, row', hpk, hrewrites, -, hstatus, hidentity, hsaved⟩ :=
    updateFromNormalized_rewrites hupdate
  have hmirrors := hview.mirrors_row hdb hexisting (Inventory.find_mem hrewrites.find) hpk
  refine ⟨hsaved, row', ?_, ?_⟩
  · rw [hidentity.pk, ← hpk]
    exact hrewrites.find'
  · rw [hsaved, hstatus, hmirrors.status]

theorem liftSave_not_rejection {α : Type} {x : Except SaveError α} {e : PersistenceError}
    (h : liftSave x = .error e) : ¬e.IsRejection := by
  cases x with
  | error cause =>
      cases h
      exact id
  | ok a => cases h

theorem liftIdentity_not_rejection {α : Type} {x : Except IdentityError α} {e : PersistenceError}
    (h : liftIdentity x = .error e) : ¬e.IsRejection := by
  cases x with
  | error cause =>
      cases h
      exact id
  | ok a => cases h

theorem updateFromNormalized_not_rejection {setIp : Bool} {e : PersistenceError}
    (h : updateFromNormalized now db existing payload setIp = .error e) : ¬e.IsRejection := by
  rw [updateFromNormalized_eq] at h
  exact liftSave_not_rejection h

variable (hdb : db.Consistent) (hview : IndexInv keys manufacturer db index)
  (hexisting : existing ∈ index.objects)
include hdb hview hexisting

theorem persistMovedChassis_rejected_iff :
    (∃ e, persistMovedChassis now ⟨db, some index⟩ existing payload = .error e ∧ e.IsRejection) ↔
      existing.status = .retired ∧ RefreshAccepted now ⟨db, some index⟩ existing payload true := by
  unfold persistMovedChassis RefreshAccepted
  constructor
  · rintro ⟨e, h, hrejected⟩
    rcases bind_eq_error.mp h with h | ⟨⟨mid, moved⟩, hupdate, h⟩
    · exact absurd hrejected (updateFromNormalized_not_rejection h)
    rcases bind_eq_error.mp h with h | ⟨next, hnext, h⟩
    · exact absurd hrejected (liftIdentity_not_rejection h)
    obtain ⟨hstatus, row, hfind, hrow⟩ := updateFromNormalized_status hdb hview hexisting hupdate
    rcases bind_eq_error.mp h with h | ⟨_, _, h⟩
    · have hretired := (transitionResponding_rejected_iff hfind hrow).mp ⟨e, h, hrejected⟩
      exact ⟨hstatus ▸ hretired, mid, moved, hupdate, fun _ => ⟨next, liftIdentity_eq_ok.mp hnext⟩⟩
    · cases h
  · rintro ⟨hretired, mid, moved, hupdate, hnext⟩
    obtain ⟨next, hnext⟩ := hnext rfl
    obtain ⟨hstatus, row, hfind, hrow⟩ := updateFromNormalized_status hdb hview hexisting hupdate
    obtain ⟨e, h, hrejected⟩ := (@transitionResponding_rejected_iff now mid moved row hfind hrow).mpr
      (hstatus.trans hretired)
    refine ⟨e, ?_, hrejected⟩
    rw [hupdate]
    simp only [bind, Except.bind, hnext, liftIdentity, h]

theorem persistDuplicate_rejected_iff :
    (∃ e, persistDuplicate now ⟨db, some index⟩ existing payload = .error e ∧ e.IsRejection) ↔
      existing.status = .retired ∧ RefreshAccepted now ⟨db, some index⟩ existing payload false := by
  unfold persistDuplicate RefreshAccepted respondUnlessServiced
  constructor
  · rintro ⟨e, h, hrejected⟩
    rcases bind_eq_error.mp h with h | ⟨⟨mid, refreshed⟩, hupdate, h⟩
    · exact absurd hrejected (updateFromNormalized_not_rejection h)
    obtain ⟨hstatus, row, hfind, hrow⟩ := updateFromNormalized_status hdb hview hexisting hupdate
    rcases bind_eq_error.mp h with h | ⟨_, _, h⟩
    · split at h
      next => cases h
      next =>
        have hretired := (transitionResponding_rejected_iff hfind hrow).mp ⟨e, h, hrejected⟩
        exact ⟨hstatus ▸ hretired, mid, refreshed, hupdate, fun hfalse => by cases hfalse⟩
    · cases h
  · rintro ⟨hretired, mid, refreshed, hupdate, -⟩
    obtain ⟨hstatus, row, hfind, hrow⟩ := updateFromNormalized_status hdb hview hexisting hupdate
    obtain ⟨e, h, hrejected⟩ :=
      (@transitionResponding_rejected_iff now mid refreshed row hfind hrow).mpr
        (hstatus.trans hretired)
    refine ⟨e, ?_, hrejected⟩
    have hserviced : ¬(refreshed.status = .degraded ∨ refreshed.status = .maintenance) := by
      rw [hstatus, hretired]
      decide
    rw [hupdate]
    simp only [bind, Except.bind, if_neg hserviced, h]

end Sync

theorem persistNew_not_rejection {now : Time} {manufacturer : Manufacturer} {state : SyncState}
    {payload : NormalizedHardware} {e : PersistenceError}
    (h : persistNew now manufacturer state payload = .error e) : ¬e.IsRejection := by
  unfold persistNew at h
  rcases bind_eq_error.mp h with h | ⟨⟨db', chassis⟩, -, h⟩
  · unfold createFromNormalized create at h
    simp only at h
    split at h
    next =>
      cases h
      exact id
    next =>
      split at h
      next =>
        cases h
        exact id
      next => exact liftSave_not_rejection h
  · simp only at h
    split at h
    next => cases h
    next =>
      rcases bind_eq_error.mp h with h | ⟨_, _, h⟩
      · exact liftIdentity_not_rejection h
      · cases h

/-- What is done with a checked device. -/
def persistChecked (now : Time) (manufacturer : Manufacturer) (state : SyncState)
    (payload : NormalizedHardware) :
    DeduplicationResult → Except PersistenceError (SyncState × Option SyncOutcome)
  | .conflict _ _ _ => .ok (state, none)
  | .moved existing _ _ =>
    if existing.manufacturer.pk ≠ manufacturer.pk then .ok (state, none)
    else persistMovedChassis now state existing payload >>= fun s => .ok (s, some .updated)
  | .duplicate existing _ =>
    if existing.manufacturer.pk ≠ manufacturer.pk then .ok (state, none)
    else persistDuplicate now state existing payload >>= fun s => .ok (s, some .updated)
  | .new => persistNew now manufacturer state payload >>= fun s => .ok (s, some .created)

theorem syncNormalizedDevice_of_check {now : Time} {manufacturer : Manufacturer} {state : SyncState}
    {payload : NormalizedHardware} {result : DeduplicationResult}
    (hcheck : checkPayload manufacturer state payload = .ok result) :
    syncNormalizedDevice now manufacturer state payload =
      persistChecked now manufacturer state payload result := by
  rw [syncNormalizedDevice, hcheck]
  cases result <;> rfl

/-- A successful tail does not decide how a step is rejected. -/
theorem rejected_bind_ok_iff {α β : Type} {x : Except PersistenceError α} {f : α → β} :
    (∃ e, (x >>= fun a => .ok (f a)) = .error e ∧ e.IsRejection) ↔
      ∃ e, x = .error e ∧ e.IsRejection := by
  cases x with
  | error e => simp [bind, Except.bind]
  | ok a => simp [bind, Except.bind]

/-- **One device.** Handling it is rejected by the lifecycle exactly when it responds for a retired
chassis. -/
theorem syncNormalizedDevice_rejected_iff {now : Time} {keys : IdentityKeys}
    {manufacturer : Manufacturer} {db : Inventory} {index : DeviceIdentityIndex}
    {payload : NormalizedHardware} (hdb : db.Consistent)
    (hview : IndexInv keys manufacturer db index) :
    (∃ e, syncNormalizedDevice now manufacturer ⟨db, some index⟩ payload = .error e ∧
        e.IsRejection) ↔ RetiredResponds now manufacturer ⟨db, some index⟩ payload := by
  cases hcheck : checkPayload manufacturer ⟨db, some index⟩ payload with
  | error cause =>
      refine iff_of_false ?_ ?_
      · rintro ⟨e, h, hrejected⟩
        rw [syncNormalizedDevice, hcheck] at h
        cases h
        exact hrejected
      · rintro ⟨_, _, h, -⟩
        rw [hcheck] at h
        cases h
  | ok result =>
      have hretired : RetiredResponds now manufacturer ⟨db, some index⟩ payload ↔
          ∃ existing, result.resolvedDevice = some existing ∧
            existing.manufacturer.pk = manufacturer.pk ∧ existing.status = .retired ∧
            RefreshAccepted now ⟨db, some index⟩ existing payload (result.outcome = .moved) := by
        unfold RetiredResponds
        rw [hcheck]
        simp only [Except.ok.injEq, exists_and_left, exists_eq_left']
      have hmem : ∀ existing, result.resolvedDevice = some existing → existing ∈ index.objects :=
        fun existing hresolved => checkDevice_resolved_mem hcheck hresolved
      rw [hretired, syncNormalizedDevice_of_check hcheck]
      cases result with
      | conflict existing conflictType details =>
          simp [persistChecked, DeduplicationResult.resolvedDevice]
      | new =>
          rw [persistChecked, rejected_bind_ok_iff]
          refine iff_of_false ?_ (by simp [DeduplicationResult.resolvedDevice])
          rintro ⟨e, h, hrejected⟩
          exact persistNew_not_rejection h hrejected
      | moved existing conflictType details =>
          have hexisting := hmem existing rfl
          simp only [DeduplicationResult.resolvedDevice, Option.some.injEq, exists_eq_left']
          by_cases howner : existing.manufacturer.pk = manufacturer.pk
          · rw [persistChecked, if_neg (not_not.mpr howner), rejected_bind_ok_iff,
              persistMovedChassis_rejected_iff hdb hview hexisting]
            exact (and_iff_right howner).symm
          · simp [persistChecked, howner]
      | duplicate existing details =>
          have hexisting := hmem existing rfl
          simp only [DeduplicationResult.resolvedDevice, Option.some.injEq, exists_eq_left']
          by_cases howner : existing.manufacturer.pk = manufacturer.pk
          · rw [persistChecked, if_neg (not_not.mpr howner), rejected_bind_ok_iff,
              persistDuplicate_rejected_iff hdb hview hexisting]
            exact (and_iff_right howner).symm
          · simp [persistChecked, howner]

/-- The lifecycle does not make the synchronization of other devices fail: a batch that it rejects holds
no other device. -/
def SyncUnblocked (now : Time) (db : Inventory) (payloads : List NormalizedHardware)
    (manufacturer : Manufacturer) (force : Bool) : Prop :=
  ∀ e, persistNormalizedDevices now db payloads manufacturer force = .error e → e.IsRejection →
    payloads.length ≤ 1

/-- A device of the batch responds for a retired chassis at its turn. -/
def BatchMeetsRetired (now : Time) (db : Inventory) (payloads : List NormalizedHardware)
    (manufacturer : Manufacturer) : Prop :=
  ∃ index, DeviceIdentityIndex.build db payloads manufacturer = .ok index ∧
    ∃ seen payload rest run, payloads = seen ++ payload :: rest ∧
      seen.foldlM (syncStep now manufacturer) (.start db index) = .ok run ∧
      RetiredResponds now manufacturer run.toSyncState payload

theorem persistNormalizedDevices_rejected_iff {now : Time} {db : Inventory} (hdb : db.Consistent)
    {payloads : List NormalizedHardware} {manufacturer : Manufacturer} {force : Bool} :
    (∃ e, persistNormalizedDevices now db payloads manufacturer force = .error e ∧ e.IsRejection) ↔
      (force || manufacturer.isActive) = true ∧ BatchMeetsRetired now db payloads manufacturer := by
  have hguard : (!force && !manufacturer.isActive) = !(force || manufacturer.isActive) :=
    (Bool.not_or _ _).symm
  rw [persistNormalizedDevices, hguard]
  cases (force || manufacturer.isActive) with
  | false => simp
  | true =>
      simp only [Bool.not_true, Bool.false_eq_true, if_false, true_and]
      unfold BatchMeetsRetired
      cases hbuild : DeviceIdentityIndex.build db payloads manufacturer with
      | error cause =>
          refine iff_of_false ?_ (by simp)
          rintro ⟨e, h, hrejected⟩
          cases h
          exact hrejected
      | ok index =>
          have hkeys := hbuild
          unfold DeviceIdentityIndex.build at hkeys
          obtain ⟨keys, hkeys, -⟩ := bind_eq_ok.mp hkeys
          simp only [Except.ok.injEq, exists_eq_left']
          have hstep : ∀ (seen : List NormalizedHardware) (run : SyncRun) payload,
              seen.foldlM (syncStep now manufacturer) (.start db index) = .ok run →
                ((∃ e, syncStep now manufacturer run payload = .error e ∧ e.IsRejection) ↔
                RetiredResponds now manufacturer run.toSyncState payload) := by
            intro seen run payload hseen
            obtain ⟨index', hindex, hinv⟩ := batchInv_run hdb hkeys hbuild hseen
            have hstate : run.toSyncState = ⟨run.inventory, some index'⟩ := by rw [← hindex]
            rw [hstate, ← syncNormalizedDevice_rejected_iff hinv.consistent hinv.view, ← hstate]
            exact rejected_bind_ok_iff
          have hrun : (∃ e, (payloads.foldlM (syncStep now manufacturer) (.start db index) >>=
                fun run => .ok (run.inventory, some (run.createdCount, run.updatedCount))) =
                .error e ∧ e.IsRejection) ↔
              ∃ e, payloads.foldlM (syncStep now manufacturer) (.start db index) = .error e ∧
                e.IsRejection := rejected_bind_ok_iff
          refine hrun.trans ?_
          constructor
          · rintro ⟨e, h, hrejected⟩
            obtain ⟨seen, payload, rest, run, hsplit, hseen, hfailed⟩ := foldlM_eq_error.mp h
            exact ⟨seen, payload, rest, run, hsplit, hseen,
              (hstep seen run payload hseen).mp ⟨e, hfailed, hrejected⟩⟩
          · rintro ⟨seen, payload, rest, run, hsplit, hseen, hretired⟩
            obtain ⟨e, hfailed, hrejected⟩ := (hstep seen run payload hseen).mpr hretired
            exact ⟨e, foldlM_eq_error.mpr ⟨seen, payload, rest, run, hsplit, hseen, hfailed⟩,
              hrejected⟩

/-! ### Polling -/

/-- Everything about the device but the status of its chassis is in order: it is transformed, its upsert
and its channels are accepted, and so are the saves of its transitions. -/
def Readable (now : Time) (manufacturer : Manufacturer) (db : Inventory) (device : PolledDevice) :
    Prop :=
  device.transformed ≠ [] ∧ device.channelsUpdated = true ∧ ∃ mid chassis created,
    upsertPolled now db manufacturer device.transformed = .ok (mid, chassis, created) ∧
    ∀ e, (reconcileChassisLifecycle now mid chassis created).2 = .error e → e.IsRejection

def SnapshotReadable (now : Time) (manufacturer : Manufacturer) (db : Inventory)
    (devices : List PolledDevice) : Prop :=
  ∀ seen device rest, devices = seen ++ device :: rest →
    Readable now manufacturer (pollDevices now manufacturer db seen).inventory device

/-- A readable snapshot does not skip the reconciliation of the absent devices. -/
def PollUnblocked (now : Time) (db : Inventory) (devices : List PolledDevice)
    (manufacturer : Manufacturer) : Prop :=
  SnapshotReadable now manufacturer db devices →
    (pollDevices now manufacturer db devices).snapshotFailed = false

/-- A device of the snapshot is polled as a chassis that is retired at its turn. -/
def SnapshotMeetsRetired (now : Time) (db : Inventory) (devices : List PolledDevice)
    (manufacturer : Manufacturer) : Prop :=
  ∃ seen device rest, devices = seen ++ device :: rest ∧
    ∃ row ∈ (pollDevices now manufacturer db seen).inventory.chassis,
      HoldsPolled manufacturer device.transformed row ∧ row.status = .retired

/-- **One polled device.** A readable device persists exactly when its chassis is not retired. -/
theorem Readable.persists_iff {now : Time} {manufacturer : Manufacturer} {db : Inventory}
    {device : PolledDevice} (h : Readable now manufacturer db device) (hdb : db.Consistent) :
    Persists now manufacturer db device ↔
      ∀ row ∈ db.chassis, HoldsPolled manufacturer device.transformed row → row.status ≠ .retired := by
  obtain ⟨hempty, hchannels, mid, chassis, created, hupsert, honly⟩ := h
  rw [Micboard.persists_iff hempty hupsert, and_iff_right hchannels]
  have hresolves :=
    resolves_apiId hdb.pk_unique.nodup manufacturer (polledApiDeviceId device.transformed)
  have houtcome : (∃ db', reconcileChassisLifecycle now mid chassis created = (db', .ok ())) ↔
      ¬∃ e, (reconcileChassisLifecycle now mid chassis created).2 = .error e ∧ e.IsRejection := by
    cases hreconcile : reconcileChassisLifecycle now mid chassis created with
    | mk db' outcome =>
        rw [hreconcile] at honly
        cases outcome with
        | error e => simp [honly e rfl]
        | ok => simp
  rw [houtcome]
  obtain ⟨found, hfound⟩ := upsertPolled_getApiId hupsert
  rw [hfound] at hresolves
  cases found with
  | some row =>
      obtain ⟨hrow, hholds, honlyRow⟩ := hresolves
      obtain ⟨-, rfl, ip, model, name, firmwareVersion, -, -, -, -, -, -, -, rfl, rfl⟩ :=
        (upsertPolled_stored_eq_ok hdb hfound).mp hupsert
      have hfind : (db.updateRow (row.polled now (getPrepValue ip) model name
          firmwareVersion)).find row.pk =
          some (row.polled now (getPrepValue ip) model name firmwareVersion) :=
        Inventory.find_updateRow (hdb.find_eq_some.mpr ⟨hrow, rfl⟩)
      rw [@reconcile_rejected_iff now _ (row.polled now ip model name firmwareVersion) _ hfind rfl]
      constructor
      · intro hnot other hother hpolled
        rw [honlyRow other hother hpolled]
        exact fun hretired => hnot ⟨rfl, hretired⟩
      · rintro hnone ⟨-, hretired⟩
        exact hnone row hrow hholds hretired
  | none =>
      obtain ⟨rfl, -⟩ := upsertPolled_unstored hfound hupsert
      refine iff_of_true ?_ fun row hrow hholds => absurd hholds (hresolves row hrow)
      rintro ⟨e, he, -⟩
      simp [reconcileChassisLifecycle] at he

theorem snapshotComplete_iff {now : Time} {manufacturer : Manufacturer} {db : Inventory}
    {devices : List PolledDevice} (hdb : db.Consistent)
    (hreadable : SnapshotReadable now manufacturer db devices) :
    SnapshotComplete now manufacturer db devices ↔
      ¬SnapshotMeetsRetired now db devices manufacturer := by
  have hturn : ∀ seen device rest, devices = seen ++ device :: rest →
      (Persists now manufacturer (pollDevices now manufacturer db seen).inventory device ↔
        ∀ row ∈ (pollDevices now manufacturer db seen).inventory.chassis,
          HoldsPolled manufacturer device.transformed row → row.status ≠ .retired) :=
    fun seen device rest hsplit =>
      (hreadable seen device rest hsplit).persists_iff (pollDevices_consistent hdb)
  constructor
  · rintro hcomplete ⟨seen, device, rest, hsplit, row, hrow, hpolled, hretired⟩
    exact (hturn seen device rest hsplit).mp (hcomplete seen device rest hsplit) row hrow hpolled
      hretired
  · intro hnone seen device rest hsplit
    refine (hturn seen device rest hsplit).mpr fun row hrow hpolled hretired => ?_
    exact hnone ⟨seen, device, rest, hsplit, row, hrow, hpolled, hretired⟩

/-- **Siblings are blocked by retired chassis only.** The lifecycle makes a batch of several devices
fail exactly when one of them responds for a retired chassis, and makes a readable snapshot skip its
reconciliation exactly when one of its devices is polled as a retired chassis. -/
theorem siblings_unblocked_iff {db : Inventory} (hdb : db.Consistent) (now : Time)
    (manufacturer : Manufacturer) :
    (∀ payloads force, SyncUnblocked now db payloads manufacturer force ↔
      payloads.length ≤ 1 ∨ (force || manufacturer.isActive) = false ∨
        ¬BatchMeetsRetired now db payloads manufacturer) ∧
    ∀ devices, PollUnblocked now db devices manufacturer ↔
      (SnapshotReadable now manufacturer db devices →
        ¬SnapshotMeetsRetired now db devices manufacturer) := by
  refine ⟨fun payloads force => ?_, fun devices => ?_⟩
  · have hrejected := @persistNormalizedDevices_rejected_iff now db hdb payloads manufacturer force
    rw [← Bool.not_eq_true, ← not_and_or, ← hrejected, SyncUnblocked]
    constructor
    · intro h
      rw [or_iff_not_imp_left]
      rintro hmany ⟨e, he, hrej⟩
      exact hmany (h e he hrej)
    · rintro (hfew | hnone) e he hrej
      · exact hfew
      · exact absurd ⟨e, he, hrej⟩ hnone
  · refine forall_congr' fun hreadable => ?_
    rw [← snapshotComplete_iff hdb hreadable, ← Bool.not_eq_true, pollDevices_snapshotFailed, not_not]

/-- The receiver is retired, and still answers. -/
def retiredInventory : Inventory :=
  { chassis := [{ storedReceiver with status := .retired }], chargers := [], nextPk := 2 }

theorem retiredInventory_consistent : retiredInventory.Consistent where
  pk_unique := by decide
  pk_lt := by decide
  ip_stored := by decide
  ip_unique := by decide
  api_unique := by decide

theorem secondAddress_given : trim "10.0.0.2" = "10.0.0.2" ∧ "10.0.0.2" ≠ "" := by decide +kernel

def siblingReceiver : NormalizedHardware :=
  .identified "dev-2" "10.0.0.2" "SN-2" none secondId_given secondAddress_given secondSerial_trimmed

/-- A receiver and a new sibling: the batch fails if the receiver is retired, and only then; and a
poll of receivers that are in service blocks nothing. -/
theorem siblings_unblocked_iff_receivers :
    BatchMeetsRetired 0 retiredInventory [stationaryReceiver, siblingReceiver] shure ∧
      ¬BatchMeetsRetired 0 receiverInventory [stationaryReceiver, siblingReceiver] shure ∧
      PollUnblocked 0 listedInventory [⟨plainPoll, true⟩] shure := by
  obtain ⟨hretired, -⟩ := siblings_unblocked_iff retiredInventory_consistent 0 shure
  obtain ⟨hserving, -⟩ := siblings_unblocked_iff receiverInventory_consistent 0 shure
  obtain ⟨-, hpoll⟩ := siblings_unblocked_iff listedInventory_consistent 0 shure
  refine ⟨?_, ?_, (hpoll _).mpr fun _ => ?_⟩
  · have hfailed : persistNormalizedDevices 0 retiredInventory
        [stationaryReceiver, siblingReceiver] shure false = .error (.couldNotMarkOnline 1) := by
      decide +kernel
    by_contra hnone
    exact absurd ((hretired _ false).mpr (.inr (.inr hnone)) _ hfailed trivial) (by decide)
  · have hstored : (persistNormalizedDevices 0 receiverInventory
        [stationaryReceiver, siblingReceiver] shure false).toBool = true := by decide +kernel
    obtain ⟨after, hafter⟩ := exists_eq_ok hstored
    have hunblocked : SyncUnblocked 0 receiverInventory
        [stationaryReceiver, siblingReceiver] shure false :=
      fun e he => nomatch hafter.symm.trans he
    rcases (hserving _ false).mp hunblocked with hfew | hinactive | hnone
    · exact absurd hfew (by decide)
    · exact absurd hinactive (by decide)
    · exact hnone
  · rintro ⟨seen, device, rest, hsplit, row, hrow, -, hretiredRow⟩
    obtain ⟨rfl, -, -⟩ := split_singleton hsplit
    have hnone : ∀ row ∈ listedInventory.chassis, row.status ≠ .retired := by decide
    exact hnone row hrow hretiredRow

/-- A retired receiver makes the synchronization of a new sibling fail, and a readable poll skip the
absent devices. -/
theorem retired_blocks_siblings :
    ¬ (∀ now db payloads manufacturer force, db.Consistent →
        SyncUnblocked now db payloads manufacturer force) ∧
      ¬ ∀ now db devices manufacturer, db.Consistent →
        PollUnblocked now db devices manufacturer := by
  constructor
  · intro hclaim
    have hfailed : persistNormalizedDevices 0 retiredInventory
        [stationaryReceiver, siblingReceiver] shure false = .error (.couldNotMarkOnline 1) := by
      decide +kernel
    have hfew := hclaim 0 _ _ shure false retiredInventory_consistent _ hfailed trivial
    exact absurd hfew (by decide)
  · intro hclaim
    have hreadable : SnapshotReadable 0 shure retiredInventory [⟨plainPoll, true⟩] := by
      intro seen device rest hsplit
      obtain ⟨rfl, rfl, -⟩ := split_singleton hsplit
      have hupsert : (upsertPolled 0 retiredInventory shure plainPoll).map (fun result =>
          (reconcileChassisLifecycle 0 result.1 result.2.1 result.2.2).2) =
          .ok (.error (.couldNotMarkOnline 1)) := by decide +kernel
      refine ⟨by decide, rfl, ?_⟩
      cases hok : upsertPolled 0 retiredInventory shure plainPoll with
      | error e =>
          rw [hok] at hupsert
          cases hupsert
      | ok result =>
          rw [hok] at hupsert
          refine ⟨result.1, result.2.1, result.2.2, hok, fun e he => ?_⟩
          have hrejected : (reconcileChassisLifecycle 0 result.1 result.2.1 result.2.2).2 =
              .error (.couldNotMarkOnline 1) := Except.ok.inj hupsert
          rw [he] at hrejected
          cases hrejected
          trivial
    have hflag : (pollDevices 0 shure retiredInventory [⟨plainPoll, true⟩]).snapshotFailed = true := by
      decide +kernel
    have hskipped := hclaim 0 _ _ shure retiredInventory_consistent hreadable
    rw [hflag] at hskipped
    cases hskipped

end Micboard
