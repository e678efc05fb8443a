import Micboard.ChassisProfile
import Micboard.SyncIsolation

/-! The profiles in a batch. The inventory synchronization takes what a payload does not say from
the instance that its identity index holds. At every step of a batch these instances hold the stored
profiles, so that a refresh falls back on what is stored. -/

namespace Micboard

open Library WirelessChassisPersistenceService

/-- The instances of the index hold the stored profiles. -/
def IndexProfiles (db : Inventory) (index : DeviceIdentityIndex) : Prop :=
  ∀ existing ∈ index.objects, ∀ row ∈ db.chassis, row.pk = existing.pk → row.profile = existing.profile

/-- A chassis was given a profile, in the table and in the index. -/
structure ProfileWritten (state state' : SyncState) (existing : Chassis)
    (profile : Profile) : Prop where
  stored : state'.inventory.profile existing.pk = some profile
  index : ∀ index', state'.identityIndex = some index' → ∃ index saved,
    state.identityIndex = some index ∧ saved.pk = existing.pk ∧ saved.profile = profile ∧
      index'.objects = replaceRow Chassis.pk saved index.objects

section Step

variable {now : Time} {state state' : SyncState} {existing : Chassis} {payload : NormalizedHardware}
  {manufacturer : Manufacturer}

theorem noteMoved_objects {index : Option DeviceIdentityIndex} {moved : Chassis} {oldIp : String}
    {index' : DeviceIdentityIndex} (h : noteMoved index moved oldIp = .ok (some index')) :
    ∃ old, index = some old ∧ index'.objects = replaceRow Chassis.pk moved old.objects := by
  cases index with
  | none => cases h
  | some old =>
      refine ⟨old, rfl, ?_⟩
      unfold noteMoved at h
      simp only at h
      split at h
      next =>
        cases h
        rfl
      next =>
        obtain ⟨noted, hnoted, h⟩ := bind_eq_ok.mp h
        obtain ⟨_, -, hnoted⟩ := bind_eq_ok.mp hnoted
        obtain ⟨_, -, hnoted⟩ := bind_eq_ok.mp hnoted
        cases h
        cases hnoted
        rfl

theorem persistMovedChassis_profile
    (hok : persistMovedChassis now state existing payload = .ok state') :
    ProfileWritten state state' existing (refreshedProfile existing payload) := by
  unfold persistMovedChassis at hok
  obtain ⟨⟨mid, moved⟩, hupdate, hok⟩ := bind_eq_ok.mp hok
  obtain ⟨noted, hnoted, hok⟩ := bind_eq_ok.mp hok
  obtain ⟨⟨db', responding⟩, hresponding, hok⟩ := bind_eq_ok.mp hok
  obtain rfl := Except.ok.inj hok
  obtain ⟨hpk, hprofile, hstored⟩ := updateFromNormalized_profile hupdate
  obtain ⟨hresponds, hkept, hkeptStored⟩ := transitionResponding_profile hresponding
  refine ⟨?_, ?_⟩
  · rw [← hpk, hkeptStored, hpk]
    exact hstored
  · intro index' hindex'
    obtain ⟨middle, rfl, rfl⟩ := Option.map_eq_some_iff.mp hindex'
    obtain ⟨index, hindex, hobjects⟩ := noteMoved_objects (liftIdentity_eq_ok.mp hnoted)
    refine ⟨index, responding, hindex, hresponds.trans hpk, hkept.trans hprofile, ?_⟩
    show replaceRow Chassis.pk responding middle.objects = _
    rw [hobjects, replaceRow_replaceRow Chassis.pk hresponds.symm]

theorem persistDuplicate_profile (hok : persistDuplicate now state existing payload = .ok state') :
    ProfileWritten state state' existing (refreshedProfile existing payload) := by
  unfold persistDuplicate at hok
  obtain ⟨⟨mid, refreshed⟩, hupdate, hok⟩ := bind_eq_ok.mp hok
  obtain ⟨⟨db', responding⟩, hresponding, hok⟩ := bind_eq_ok.mp hok
  obtain rfl := Except.ok.inj hok
  obtain ⟨hpk, hprofile, hstored⟩ := updateFromNormalized_profile hupdate
  obtain ⟨hresponds, hkept, hkeptStored⟩ := respondUnlessServiced_profile hresponding
  refine ⟨?_, ?_⟩
  · rw [← hpk, hkeptStored, hpk]
    exact hstored
  · intro index' hindex'
    obtain ⟨index, hindex, rfl⟩ := Option.map_eq_some_iff.mp hindex'
    exact ⟨index, responding, hindex, hresponds.trans hpk, hkept.trans hprofile, rfl⟩

/-- **A device found again** is given the profile of its refresh. -/
theorem syncNormalizedDevice_profile {result : DeduplicationResult}
    (hcheck : checkPayload manufacturer state payload = .ok result)
    (hok : syncNormalizedDevice now manufacturer state payload = .ok (state', some .updated)) :
    ∃ existing, result.resolvedDevice = some existing ∧
      ProfileWritten state state' existing (refreshedProfile existing payload) := by
  rw [syncNormalizedDevice_of_check hcheck] at hok
  cases result with
  | conflict existing conflictType details => cases hok
  | new =>
      obtain ⟨created, -, hok⟩ := bind_eq_ok.mp hok
      cases hok
  | moved existing conflictType details =>
      refine ⟨existing, rfl, ?_⟩
      unfold persistChecked at hok
      dsimp only at hok
      split at hok
      next => cases hok
      next =>
        obtain ⟨moved, hpersist, hok⟩ := bind_eq_ok.mp hok
        obtain ⟨rfl, -⟩ := Prod.mk.inj (Except.ok.inj hok)
        exact persistMovedChassis_profile hpersist
  | duplicate existing details =>
      refine ⟨existing, rfl, ?_⟩
      unfold persistChecked at hok
      dsimp only at hok
      split at hok
      next => cases hok
      next =>
        obtain ⟨refreshed, hpersist, hok⟩ := bind_eq_ok.mp hok
        obtain ⟨rfl, -⟩ := Prod.mk.inj (Except.ok.inj hok)
        exact persistDuplicate_profile hpersist

theorem noteMoved_succeeds {index : Option DeviceIdentityIndex} {moved moved' : Chassis}
    {oldIp : String}
    (hip : moved.ip = moved'.ip) (hok : ∃ noted, noteMoved index moved' oldIp = .ok noted) :
    ∃ noted, noteMoved index moved oldIp = .ok noted := by
  obtain ⟨noted, hok⟩ := hok
  cases index with
  | none => exact ⟨none, rfl⟩
  | some index =>
      unfold noteMoved at hok ⊢
      dsimp only at hok ⊢
      split at hok
      next hempty => exact ⟨_, if_pos hempty⟩
      next hempty =>
        obtain ⟨_, hmove, -⟩ := bind_eq_ok.mp hok
        unfold DeviceIdentityIndex.moveIp at hmove
        obtain ⟨oldKey, hold, hmove⟩ := bind_eq_ok.mp hmove
        obtain ⟨newKey, hnew, -⟩ := bind_eq_ok.mp hmove
        rw [if_neg hempty]
        rw [← hip] at hnew
        exact ⟨_, bind_eq_ok.mpr ⟨_, bind_eq_ok.mpr ⟨oldKey, hold, bind_eq_ok.mpr ⟨newKey, hnew, rfl⟩⟩,
          rfl⟩⟩

variable {payload' : NormalizedHardware}

/-- A refresh succeeds with any payload that differs in the profile only, and with the same results
but for the profile. -/
theorem updateFromNormalized_succeeds (h : SameButProfile payload payload') {db : Inventory}
    {setIp : Bool} {saved' : Inventory × Chassis}
    (hok : updateFromNormalized now db existing payload' setIp = .ok saved') :
    ∃ saved, updateFromNormalized now db existing payload setIp = .ok saved ∧
      saved.1.bare = saved'.1.bare ∧ saved.2.bare = saved'.2.bare := by
  have hbare := updateFromNormalized_bare now existing setIp db h
  rw [hok] at hbare
  obtain ⟨saved, hsaved, heq⟩ := map_eq_ok.mp hbare
  exact ⟨saved, hsaved, Prod.mk.inj heq⟩

theorem persistMovedChassis_succeeds (h : SameButProfile payload payload')
    (hok : ∃ state', persistMovedChassis now state existing payload' = .ok state') :
    ∃ state', persistMovedChassis now state existing payload = .ok state' := by
  obtain ⟨state', hok⟩ := hok
  unfold persistMovedChassis at hok ⊢
  obtain ⟨saved', hupdate', hok⟩ := bind_eq_ok.mp hok
  obtain ⟨noted', hnoted', hok⟩ := bind_eq_ok.mp hok
  obtain ⟨responding', hresponding', -⟩ := bind_eq_ok.mp hok
  obtain ⟨saved, hupdate, hinventory, hinstance⟩ := updateFromNormalized_succeeds h hupdate'
  have hip : saved.2.ip = saved'.2.ip := by
    have hbare := congrArg Chassis.ip hinstance
    exact hbare
  obtain ⟨noted, hnoted⟩ := noteMoved_succeeds hip ⟨noted', liftIdentity_eq_ok.mp hnoted'⟩
  have hmap := transitionResponding_bare now saved'.1 saved'.2
  rw [hresponding', ← hinventory, ← hinstance, transitionResponding_bare] at hmap
  obtain ⟨responding, hresponding, -⟩ := map_eq_ok.mp hmap
  exact ⟨_, bind_eq_ok.mpr ⟨saved, hupdate, bind_eq_ok.mpr ⟨noted, liftIdentity_eq_ok.mpr hnoted,
    bind_eq_ok.mpr ⟨responding, hresponding, rfl⟩⟩⟩⟩

theorem persistDuplicate_succeeds (h : SameButProfile payload payload')
    (hok : ∃ state', persistDuplicate now state existing payload' = .ok state') :
    ∃ state', persistDuplicate now state existing payload = .ok state' := by
  obtain ⟨state', hok⟩ := hok
  unfold persistDuplicate at hok ⊢
  obtain ⟨saved', hupdate', hok⟩ := bind_eq_ok.mp hok
  obtain ⟨responding', hresponding', -⟩ := bind_eq_ok.mp hok
  obtain ⟨saved, hupdate, hinventory, hinstance⟩ := updateFromNormalized_succeeds h hupdate'
  have hmap := respondUnlessServiced_bare now saved'.1 saved'.2
  rw [hresponding', ← hinventory, ← hinstance, respondUnlessServiced_bare] at hmap
  obtain ⟨responding, hresponding, -⟩ := map_eq_ok.mp hmap
  exact ⟨_, bind_eq_ok.mpr ⟨saved, hupdate, bind_eq_ok.mpr ⟨responding, hresponding, rfl⟩⟩⟩

/-- **A device found again is refreshed whatever its payload says of the profile.** -/
theorem syncNormalizedDevice_succeeds (h : SameButProfile payload payload')
    (hok : ∃ state', syncNormalizedDevice now manufacturer state payload' =
      .ok (state', some .updated)) :
    ∃ state', syncNormalizedDevice now manufacturer state payload = .ok (state', some .updated) := by
  obtain ⟨state', hok⟩ := hok
  cases hcheck : checkPayload manufacturer state payload' with
  | error e =>
      rw [syncNormalizedDevice, hcheck] at hok
      cases hok
  | ok result =>
      rw [syncNormalizedDevice_of_check hcheck] at hok
      rw [syncNormalizedDevice_of_check ((h.checkPayload_eq manufacturer state).trans hcheck)]
      unfold persistChecked at hok ⊢
      cases result with
      | conflict existing conflictType details => cases hok
      | new =>
          obtain ⟨created, -, hok⟩ := bind_eq_ok.mp hok
          cases hok
      | moved existing conflictType details =>
          dsimp only at hok ⊢
          split at hok
          next => cases hok
          next howner =>
            obtain ⟨moved, hpersist, -⟩ := bind_eq_ok.mp hok
            obtain ⟨refreshed, hrefreshed⟩ := persistMovedChassis_succeeds h ⟨moved, hpersist⟩
            exact ⟨refreshed, (if_neg howner).trans (bind_eq_ok.mpr ⟨refreshed, hrefreshed, rfl⟩)⟩
      | duplicate existing details =>
          dsimp only at hok ⊢
          split at hok
          next => cases hok
          next howner =>
            obtain ⟨duplicate, hpersist, -⟩ := bind_eq_ok.mp hok
            obtain ⟨refreshed, hrefreshed⟩ := persistDuplicate_succeeds h ⟨duplicate, hpersist⟩
            exact ⟨refreshed, (if_neg howner).trans (bind_eq_ok.mpr ⟨refreshed, hrefreshed, rfl⟩)⟩

end Step

/-! ### A batch -/

section Batch

variable {keys : IdentityKeys} {manufacturer : Manufacturer} {initial : Inventory}
  {payloads seen : List NormalizedHardware} {payload : NormalizedHardware} {now : Time}

theorem indexProfiles_start {index : DeviceIdentityIndex} (hdb : initial.Consistent)
    (hkeys : IdentityKeys.ofPayloads payloads = .ok keys)
    (hbuild : DeviceIdentityIndex.build initial payloads manufacturer = .ok index) :
    IndexProfiles initial index := by
  obtain ⟨-, hobjects⟩ := build_indexInv hdb hkeys hbuild
  intro existing hexisting row hrow hpk
  rw [hobjects, List.mem_filter] at hexisting
  rw [hdb.pk_unique.eq hrow hexisting.1 hpk]

theorem persistNew_profile {state state' : SyncState}
    (hok : persistNew now manufacturer state payload = .ok state') :
    ∃ chassis row, state'.inventory = state.inventory.insertRow row ∧ row.pk = state.inventory.nextPk ∧
      chassis.pk = row.pk ∧ row.profile = chassis.profile ∧
      ∀ index', state'.identityIndex = some index' → ∃ index, state.identityIndex = some index ∧
        index'.objects = index.objects ++ [chassis] := by
  unfold persistNew at hok
  obtain ⟨⟨db', chassis⟩, hcreate, hok⟩ := bind_eq_ok.mp hok
  unfold createFromNormalized at hcreate
  obtain ⟨_, -, -, -, hcreated⟩ := create_eq_ok.mp hcreate
  obtain ⟨-, -, -, rfl, rfl⟩ := createChassis_eq_ok.mp hcreated
  generalize (WirelessChassisWrite.assignTo _ _) = chassis at hok
  have hprofile : (startLifecycle now state.inventory chassis).stored.profile =
      (startLifecycle now state.inventory chassis).profile := by
    simp [Chassis.stored, Chassis.profile, Chassis.writeTo, Column.mem_all]
  have hpk : (startLifecycle now state.inventory chassis).pk = state.inventory.nextPk := by
    obtain ⟨isOnline, on, heq⟩ := startLifecycle_eq now state.inventory chassis
    rw [heq]
  cases hindex : state.identityIndex with
  | none =>
      rw [hindex] at hok
      obtain rfl := Except.ok.inj hok
      exact ⟨startLifecycle now state.inventory chassis, _, rfl, hpk, rfl, hprofile,
        fun index' h => by cases h⟩
  | some index =>
      rw [hindex] at hok
      obtain ⟨added, hadd, hok⟩ := bind_eq_ok.mp hok
      obtain rfl := Except.ok.inj hok
      refine ⟨startLifecycle now state.inventory chassis, _, rfl, hpk, rfl, hprofile, ?_⟩
      rintro index' ⟨⟩
      refine ⟨index, rfl, ?_⟩
      rw [liftIdentity_eq_ok, DeviceIdentityIndex.add] at hadd
      obtain ⟨_, -, hadd⟩ := bind_eq_ok.mp hadd
      obtain rfl := Except.ok.inj hadd
      rfl

/-- **One device.** The instances of the index keep the stored profiles. -/
theorem IndexProfiles.step {db : Inventory} {index index' : DeviceIdentityIndex} {state' : SyncState}
    {outcome : Option SyncOutcome} (h : IndexProfiles db index) (hdb : db.Consistent)
    (hview : IndexInv keys manufacturer db index)
    (hok : syncNormalizedDevice now manufacturer ⟨db, some index⟩ payload = .ok (state', outcome))
    (hindex : state'.identityIndex = some index') : IndexProfiles state'.inventory index' := by
  obtain ⟨-, result, hcheck, heffect⟩ := syncNormalizedDevice_effect hdb hok
  cases heffect with
  | skipped hnew hforeign hstate =>
      subst hstate
      obtain rfl := Option.some.inj hindex
      exact h
  | @refreshed _ existing saved row row' hresolved howner hrefreshed hfollows =>
      obtain ⟨found, hfound, hwritten⟩ := syncNormalizedDevice_profile hcheck hok
      obtain rfl := Option.some.inj (hresolved.symm.trans hfound)
      obtain ⟨old, written, hold, hpk, hprofile, hobjects⟩ := hwritten.index index' hindex
      obtain rfl := Option.some.inj hold
      have hrow' : row'.profile = refreshedProfile existing payload := by
        have hstored := hrefreshed.rewrites.profile.2
        rw [hrefreshed.pk, hwritten.stored] at hstored
        exact (Option.some.inj hstored).symm
      intro object hobject other hother hsame
      rw [hobjects, mem_replaceRow] at hobject
      rw [hrefreshed.rewrites.mem, hrefreshed.pk] at hother
      rcases hobject with ⟨rfl, -⟩ | ⟨hobject, hne⟩
      · rcases hother with rfl | ⟨-, hne⟩
        · rw [hrow', hprofile]
        · exact absurd (hsame.trans hpk) hne
      · rcases hother with rfl | ⟨hother, -⟩
        · exact absurd (hsame.symm.trans ((hrefreshed.rewrites.pk.trans hrefreshed.pk).trans hpk.symm))
            hne
        · exact h object hobject other hother hsame
  | @created chassis row hcreated hadds =>
      rw [syncNormalizedDevice_of_check hcheck] at hok
      obtain ⟨created, hnew, hok⟩ := bind_eq_ok.mp hok
      obtain ⟨rfl, -⟩ := Prod.mk.inj (Except.ok.inj hok)
      obtain ⟨added, stored, hinserts, hstored, hadded, hprofile, hobjects⟩ := persistNew_profile hnew
      obtain ⟨old, hold, hobjects⟩ := hobjects index' hindex
      obtain rfl := Option.some.inj hold
      have hfresh : ∀ object ∈ index.objects, object.pk ≠ db.nextPk := by
        intro object hobject heq
        obtain ⟨mirrored, hmirrored, hmirrors⟩ := hview.mirrors object hobject
        have hlt := hdb.pk_lt mirrored hmirrored
        rw [← hmirrors.pk, heq] at hlt
        exact lt_irrefl _ hlt
      intro object hobject other hother hsame
      rw [hobjects, List.mem_append, List.mem_singleton] at hobject
      rw [hinserts, Inventory.insertRow_chassis, List.mem_append, List.mem_singleton] at hother
      rcases hobject with hobject | rfl
      · rcases hother with hother | rfl
        · exact h object hobject other hother hsame
        · exact absurd (hsame.symm.trans hstored) (hfresh object hobject)
      · rcases hother with hother | rfl
        · have hlt := hdb.pk_lt other hother
          rw [hsame, hadded, hstored] at hlt
          exact absurd hlt (lt_irrefl _)
        · exact hprofile

/-- **At every step of a batch** the instances of the index hold the stored profiles. -/
theorem indexProfiles_run {index : DeviceIdentityIndex} {run : SyncRun} (hdb : initial.Consistent)
    (hkeys : IdentityKeys.ofPayloads payloads = .ok keys)
    (hbuild : DeviceIdentityIndex.build initial payloads manufacturer = .ok index)
    (hrun : seen.foldlM (syncStep now manufacturer) (.start initial index) = .ok run) :
    ∃ index', run.identityIndex = some index' ∧
      BatchInv keys manufacturer initial seen run.inventory index' ∧
      IndexProfiles run.inventory index' := by
  refine foldlM_prefix_invariant (fun seen (run : SyncRun) => ∃ index',
    run.identityIndex = some index' ∧ BatchInv keys manufacturer initial seen run.inventory index' ∧
      IndexProfiles run.inventory index') ?_
    ⟨index, rfl, batchInv_start hdb hkeys hbuild, indexProfiles_start hdb hkeys hbuild⟩ hrun
  rintro seen payload rest run run' - ⟨index', hindex', hinv, hprofiles⟩ hstep
  unfold syncStep at hstep
  obtain ⟨⟨state', outcome⟩, hok, hstep⟩ := bind_eq_ok.mp hstep
  obtain rfl := Except.ok.inj hstep
  have hstate : run.toSyncState = ⟨run.inventory, some index'⟩ := by rw [← hindex']
  rw [hstate] at hok
  obtain ⟨next, hnext, hinv'⟩ := hinv.step hdb hok
  exact ⟨next, hnext, hinv', hprofiles.step hinv.consistent hinv.view hok hnext⟩

end Batch

end Micboard
