import Micboard.ApprovalRun

/-! The approval of a selection with one pending row: the row resolves to one target, which is written
once, and the row is linked to it. -/

namespace Micboard

open Library Library.Text LockedApprovalInventory DiscoveryApprovalResolver
  DiscoveryApprovalBatchPolicy DiscoveryApprovalService WirelessChassisPersistenceService

section Lock

variable {queue items : List DiscoveryQueue} {queryset : DiscoveryQueue → Bool} {item : DiscoveryQueue}

theorem mem_pendingRows (h : item ∈ pendingRows queue queryset) :
    item ∈ queue ∧ queryset item = true ∧ item.status = .pending := by
  have hsorted := List.mem_of_mem_take h
  rw [List.mem_insertionSort, List.mem_filter] at hsorted
  simpa using hsorted

/-- Below the limit every pending row of a selection is read. -/
theorem mem_pendingRows_of_length
    (hlength : ¬(pendingRows queue queryset).length > maxDiscoveryApprovalBatch)
    (hitem : item ∈ queue) (hselected : queryset item = true) (hpending : item.status = .pending) :
    item ∈ pendingRows queue queryset := by
  rw [pendingRows] at hlength ⊢
  rw [List.take_of_length_le]
  · rw [List.mem_insertionSort, List.mem_filter]
    simp [hitem, hselected, hpending]
  · rw [List.length_take] at hlength
    omega

/-- A selection with one pending row locks that row. -/
theorem lockItems_single (hunique : UniqueOn DiscoveryQueue.pk queue)
    (hpending : pendingRows queue queryset = [item]) (hok : lockItems queue queryset = .ok items) :
    items = [item] := by
  obtain ⟨hitem, -, hstatus⟩ := mem_pendingRows (hpending ▸ List.mem_singleton_self item)
  rw [lockItems, hpending] at hok
  split at hok
  next hlimit => simp [maxDiscoveryApprovalBatch] at hlimit
  split at hok
  next hempty => cases hempty
  split at hok
  next => cases hok
  next hscope =>
  have hlocked : item ∈ pendingRows queue fun other =>
      (requestedIps [item]).any fun ip => other.ip = getPrepValue ip := by
    refine mem_pendingRows_of_length hscope hitem ?_ hstatus
    simp [requestedIps, item.ip_eq.1]
  rw [← Except.ok.inj hok, hunique.filter_eq_singleton hitem]
  · rfl
  · simp only [Bool.and_eq_true, List.any_eq_true, decide_eq_true_eq, hstatus, and_true]
    exact ⟨item, hlocked, rfl, item, List.mem_singleton_self item, rfl⟩
  · intro other _ hother
    simp only [Bool.and_eq_true, List.any_eq_true, decide_eq_true_eq, List.mem_singleton] at hother
    obtain ⟨⟨row, -, hrow, selected, rfl, hselected⟩, -⟩ := hother
    rw [← hrow, hselected]

end Lock

section Plan

variable {sha256 : String → Nat} {db : Inventory} {item : DiscoveryQueue} {plan : DiscoveryApprovalPlan}

/-- The charger that the plan of one row holds is the one that the row resolves to. -/
theorem build_single_charger (hrole : item.isCharger = true)
    (hbuild : DiscoveryApprovalPlan.build sha256 db [item] = .ok plan) :
    ∃ inventory charger, lock db [item] = .ok inventory ∧
      resolveCharger item inventory = .ok charger ∧ plan.chargers item.pk = some charger := by
  simp only [DiscoveryApprovalPlan.build, bind_eq_ok, Except.ok.injEq, List.foldlM_cons,
    List.foldlM_nil,
    DiscoveryApprovalPlan.planItem, hrole, if_true] at hbuild
  obtain ⟨inventory, hlock, _, ⟨_, ⟨_, -, charger, hresolve, _, -, rfl⟩, hpure⟩, rfl⟩ := hbuild
  refine ⟨inventory, charger, hlock, hresolve, ?_⟩
  rw [← Except.ok.inj hpure]
  exact Function.update_self ..

end Plan

theorem assignTo_name {write : WirelessChassisWrite} (chassis : Chassis)
    (h : ∀ value ∈ write, value.column ≠ .name) : (write.assignTo chassis).name = chassis.name := by
  refine assignTo_unchanged Chassis.name chassis fun value hvalue other => ?_
  have hcolumn := h value hvalue
  cases value with
  | name => exact absurd rfl hcolumn
  | _ => rfl

theorem entryValues_eq (entry : ChassisEntry) :
    ∃ front back, entryValues entry =
        front ++ (if text entry.1.name = "" then [] else [.name (text entry.1.name)]) ++ back ∧
      ∀ value ∈ front ++ back, value.column ≠ .name := by
  refine ⟨[.manufacturer entry.1.manufacturer, .apiDeviceId entry.2.apiDeviceId, .ip entry.1.ip,
      .role entry.1.role, .isOnline true, .status (approvedStatus entry.2.chassis)] ++
      if text entry.1.serialNumber = "" then [] else [.serialNumber (text entry.1.serialNumber)], _,
    by simp only [entryValues, optionalValues, List.append_assoc]; rfl, ?_⟩
  intro value hvalue
  simp only [List.mem_append] at hvalue
  rcases hvalue with (h | h) | h | h | h | h | h | h
  · simp only [List.mem_cons, List.not_mem_nil, or_false] at h
    rcases h with rfl | rfl | rfl | rfl | rfl | rfl <;> simp [FieldValue.column]
  all_goals
    split at h
    next => cases h
    next =>
      rw [List.mem_singleton] at h
      rw [h]
      simp [FieldValue.column]

/-- The instance of one row is named after the row, when the row has a name. -/
theorem groupInstance_name (entry : ChassisEntry) (chassis : Chassis) :
    (groupInstance [entry] chassis).name = textOr (text entry.1.name) chassis.name := by
  obtain ⟨front, back, heq, hothers⟩ := entryValues_eq entry
  have hvalidated : ∀ values : List FieldValue, (∀ value ∈ values, value.column ≠ .name) →
      ∀ value ∈ values.map FieldValue.validated, value.column ≠ .name := by
    intro values h value hvalue
    obtain ⟨raw, hraw, rfl⟩ := List.mem_map.mp hvalue
    rw [FieldValue.validated_column]
    exact h raw hraw
  rw [groupInstance, List.map_singleton, List.flatten_singleton, heq, WirelessChassisWrite.ofValues,
    List.map_append, List.map_append, assignTo_append, assignTo_append,
    assignTo_name _
      (hvalidated back fun value hvalue => hothers value (List.mem_append_right _ hvalue))]
  have hfront := assignTo_name chassis
    (hvalidated front fun value hvalue => hothers value (List.mem_append_left _ hvalue))
  rw [textOr]
  split
  next => exact hfront
  next =>
    show trim (text entry.1.name) = text entry.1.name
    exact trim_strip entry.1.name

section Adopted

/-- The row that the approval of one queue row wrote. -/
structure AdoptedRow (db db' : Inventory) (item : DiscoveryQueue) (chassis : Option Chassis)
    (row : Chassis) :
    Prop where
  writes : WritesRow db db' row
  stored : ∀ old, chassis = some old → row.pk = old.pk
  fresh : chassis = none → row.pk = db.nextPk
  manufacturer : row.manufacturer.pk = item.manufacturer.pk
  serialNumber : row.serialNumber =
    textOr (text item.serialNumber) ((chassis.map Chassis.serialNumber).getD "")
  name : row.name = textOr (text item.name) ((chassis.map Chassis.name).getD "")

variable {now : Time} {db db' : Inventory} {item : DiscoveryQueue} {target : ChassisApprovalTarget}
  {saved : Chassis} {created : Bool}

theorem agree_single (item : DiscoveryQueue) (target : ChassisApprovalTarget) :
    Agree [(item, target)] item target := by
  refine ⟨List.mem_singleton_self _, ?_, ?_, ?_⟩
  all_goals
    intro entry hentry
    rw [List.mem_singleton.mp hentry]

theorem groupInstance_single (item : DiscoveryQueue) (target : ChassisApprovalTarget)
    (chassis : Chassis) :
    (groupInstance [(item, target)] chassis).pk = chassis.pk ∧
      (groupInstance [(item, target)] chassis).manufacturer.pk = item.manufacturer.pk ∧
      (groupInstance [(item, target)] chassis).serialNumber =
        textOr (text item.serialNumber) chassis.serialNumber ∧
      (groupInstance [(item, target)] chassis).name = textOr (text item.name) chassis.name := by
  refine ⟨groupInstance_pk _ _, ((agree_single item target).instanceKeys chassis).1, ?_,
    groupInstance_name (item, target) chassis⟩
  have hkeys := assign_entryValues (item, target) (groupInstance [] chassis)
  rw [← groupInstance_append, List.nil_append] at hkeys
  exact hkeys.serialNumber

theorem writeTo_name (fields : List Column) (chassis row : Chassis) :
    (chassis.writeTo fields row).name = if .name ∈ fields then chassis.name else row.name := rfl

/-- A full save of the row's instance adopts the stored chassis. -/
theorem saveChassis_adopts (hdb : db.Consistent) {chassis : Chassis} (hchassis : chassis ∈ db.chassis)
    (hsave : saveChassis now db (groupInstance [(item, target)] chassis) none = .ok (db', saved)) :
    ∃ row, saved.pk = row.pk ∧ AdoptedRow db db' item (some chassis) row := by
  have hfind : db.find chassis.pk = some chassis := hdb.find_eq_some.mpr ⟨hchassis, rfl⟩
  have hconsistent := hdb.saveChassis hsave
  obtain ⟨hpk, hmanufacturer, hserial, hname⟩ := groupInstance_single item target chassis
  generalize groupInstance [(item, target)] chassis = instanceRow at *
  obtain ⟨previous, derived, hprevious, -, hstep, -, -, heq⟩ := (saveChassis_eq_ok (by simp)).mp hsave
  rw [hpk] at hprevious
  obtain rfl := Option.some.inj (hfind.symm.trans hprevious)
  obtain ⟨isOnline, on, off, uptime, rfl⟩ := hstep.eq_withLifecycle
  have hall : ∀ column, column ∈ (none : Option (List Column)).getD Column.all ++
      derived := fun column =>
    List.mem_append_left _ (Column.mem_all column)
  generalize (none : Option (List Column)).getD Column.all ++ derived = columns at *
  have hrewrites : Rewrites db db' chassis
      ((instanceRow.withLifecycle isOnline on off uptime).writeTo columns chassis) := ⟨hfind, rfl, heq⟩
  refine ⟨_, ?_, ⟨fun other => hrewrites.mem, ?_, ?_, hconsistent⟩, ?_, ?_, ?_, ?_, ?_⟩
  · rw [withLifecycle_pk, hpk, writeTo_pk]
  · rw [heq, Inventory.updateRow_chargers]
  · rw [heq]
    exact Nat.le_refl _
  · intro old hold
    rw [← Option.some.inj hold, writeTo_pk]
  · intro hnone
    cases hnone
  · rw [writeTo_manufacturer, if_pos (hall _), withLifecycle_manufacturer, hmanufacturer]
  · rw [writeTo_serialNumber, if_pos (hall _), Option.map_some, Option.getD_some, ← hserial]
    rfl
  · rw [writeTo_name, if_pos (hall _), Option.map_some, Option.getD_some, ← hname]
    rfl

theorem createChassis_adopts (hdb : db.Consistent) {selected : Manufacturer}
    (hcreate : createChassis now db (groupInstance [(item, target)] (Chassis.unsaved selected)) =
      .ok (db', saved)) :
    ∃ row, saved.pk = row.pk ∧ AdoptedRow db db' item none row := by
  have hconsistent := hdb.createChassis hcreate
  obtain ⟨-, hmanufacturer, hserial, hname⟩ :=
    groupInstance_single item target (Chassis.unsaved selected)
  generalize groupInstance [(item, target)] (Chassis.unsaved selected) = instanceRow at *
  obtain ⟨-, -, -, hsaved, hinsert⟩ := createChassis_eq_ok.mp hcreate
  obtain ⟨isOnline, on, heq⟩ := startLifecycle_eq now db instanceRow
  have hpk : saved.stored.pk = db.nextPk := by
    rw [Chassis.stored, writeTo_pk, hsaved, heq]
  refine ⟨saved.stored, rfl, ⟨?_, ?_, ?_, hconsistent⟩, ?_, fun _ => hpk, ?_, ?_, ?_⟩
  · intro other
    rw [hinsert, Inventory.insertRow_chassis, List.mem_append, List.mem_singleton, hpk]
    constructor
    · rintro (hother | hother)
      · exact .inr ⟨hother, Nat.ne_of_lt (hdb.pk_lt other hother)⟩
      · exact .inl hother
    · rintro (hother | ⟨hother, -⟩)
      · exact .inr hother
      · exact .inl hother
  · rw [hinsert]
    rfl
  · rw [hinsert]
    exact Nat.le_succ _
  · intro old hold
    cases hold
  · rw [Chassis.stored, writeTo_manufacturer, ite_self, hsaved, heq]
    exact hmanufacturer
  · rw [Chassis.stored, writeTo_serialNumber, ite_self, hsaved, heq]
    exact hserial
  · rw [Chassis.stored, writeTo_name, ite_self, hsaved, heq]
    exact hname

theorem adoptWirelessChassis_single (hdb : db.Consistent) (hlocked : ∀ row, target.chassis = some row →
      row ∈ db.chassis)
    (hapi : trim target.apiDeviceId = target.apiDeviceId) (hne : target.apiDeviceId ≠ "")
    (hok : adoptWirelessChassis now db [(item, target)] = .ok (db', saved, created)) :
    ∃ row, saved.pk = row.pk ∧ AdoptedRow db db' item target.chassis row := by
  have hagree := agree_single item target
  cases hchassis : target.chassis with
  | some chassis =>
      have hactive : chassis.status ≠ .retired := by
        intro hretired
        rw [adopt_retired hagree hchassis hretired] at hok
        cases hok
      rw [adopt_existing hagree hchassis hactive] at hok
      cases hsave : saveChassis now db (groupInstance [(item, target)] chassis) none with
      | error e =>
          rw [hsave] at hok
          cases hok
      | ok result =>
          rw [hsave] at hok
          cases hok
          exact saveChassis_adopts hdb (hlocked chassis hchassis) hsave
  | none =>
      obtain ⟨selected, hadopt⟩ := @adopt_new now db _ _ _ hagree hchassis hapi hne
      rw [hadopt] at hok
      cases hcreate : createChassis now db
        (groupInstance [(item, target)] (Chassis.unsaved selected)) with
      | error e =>
          rw [hcreate] at hok
          cases hok
      | ok result =>
          rw [hcreate] at hok
          cases hok
          exact createChassis_adopts hdb hcreate

end Adopted

/-! ### The approval -/

section Approve

variable {sha256 : String → Nat} {now : Time} {item : DiscoveryQueue} {plan : DiscoveryApprovalPlan}
  {db : Inventory} {persisted : PersistingState}

theorem persistTargets_single_chassis {target : ChassisApprovalTarget} (hrole : item.isCharger = false)
    (hplan : plan.chassis item.pk = some target)
    (hok : persistTargets now db [item] plan = .ok persisted) :
    ∃ saved created, adoptWirelessChassis now db [(item, target)] = .ok
      (persisted.inventory, saved, created) ∧
      persisted.persistence.chassis item.pk = some saved := by
  have hchargers : chargerEntries [item] plan = .ok [] := by
    simp [chargerEntries, hrole]
    rfl
  have hchassis : chassisEntries [item] plan = .ok [(item, target)] := by
    simp [chassisEntries, hrole, planned, hplan]
    rfl
  simp only [persistTargets, hchargers, hchassis, bind_eq_ok, Except.ok.injEq, exists_eq_left'] at hok
  obtain ⟨state, hstart, hgroup⟩ := hok
  obtain rfl := Except.ok.inj hstart
  obtain ⟨state, hstep, hpure⟩ := bind_eq_ok.mp hgroup
  obtain rfl := Except.ok.inj hpure
  simp only [persistChassisGroup, bind_eq_ok] at hstep
  obtain ⟨⟨inventory, saved, created⟩, hadopt, hstep⟩ := hstep
  cases hstep
  refine ⟨saved, created, hadopt, ?_⟩
  show approveAll _ _ _ _ = _
  rw [approveAll_eq, if_pos (List.mem_map_of_mem (List.mem_singleton_self _))]

theorem persistTargets_single_charger {charger : Charger} (hrole : item.isCharger = true)
    (hplan : plan.chargers item.pk = some charger)
    (hok : persistTargets now db [item] plan = .ok persisted) :
    ∃ saved, adoptCharger db [item] charger = .ok (persisted.inventory, saved) ∧
      persisted.persistence.chargers item.pk = some saved := by
  have hchargers : chargerEntries [item] plan = .ok [(item, charger)] := by
    simp [chargerEntries, hrole, planned, hplan]
    rfl
  have hchassis : chassisEntries [item] plan = .ok [] := by
    simp [chassisEntries, hrole]
    rfl
  simp only [persistTargets, hchargers, hchassis, bind_eq_ok, Except.ok.injEq, exists_eq_left'] at hok
  obtain ⟨state, hgroup, hpure⟩ := hok
  obtain rfl := Except.ok.inj hpure
  obtain ⟨state, hstep, hpure⟩ := bind_eq_ok.mp hgroup
  obtain rfl := Except.ok.inj hpure
  simp only [persistChargerGroup, bind_eq_ok] at hstep
  obtain ⟨⟨inventory, saved⟩, hadopt, hstep⟩ := hstep
  cases hstep
  refine ⟨saved, hadopt, ?_⟩
  show approveAll _ _ _ _ = _
  rw [approveAll_eq, if_pos (List.mem_map_of_mem (List.mem_singleton_self _))]

/-- The charger that is adopted keeps its primary key and its serial number. -/
theorem adoptCharger_single {db' : Inventory} {charger saved : Charger}
    (hok : adoptCharger db [item] charger = .ok (db', saved)) :
    saved.pk = charger.pk ∧ db'.chassis = db.chassis ∧
      ∃ row, db'.chargers = replaceRow Charger.pk row db.chargers ∧ row.pk = charger.pk ∧
        row.serialNumber = charger.serialNumber ∧ row.name = textOr (text item.name) charger.name := by
  rw [adoptCharger, liftApprovalSave_eq_ok, saveCharger, bind_eq_ok] at hok
  obtain ⟨_, -, hok⟩ := hok
  dsimp only at hok
  split at hok
  next => cases hok
  next =>
    cases hok
    exact ⟨rfl, rfl, _, rfl, rfl, rfl, rfl⟩

/-- An imported row keeps its keys, and is linked to what was persisted for it. -/
theorem importedRow_eq_ok {reviewer : Reviewer} {persistence : DiscoveryApprovalPersistence}
    {imported : DiscoveryQueue} (hok : importedRow now reviewer persistence item = .ok imported) :
    imported.pk = item.pk ∧ imported.manufacturer = item.manufacturer ∧
      imported.serialNumber = item.serialNumber ∧ imported.isCharger = item.isCharger ∧
      (item.isCharger = true → ∀ charger, persistence.chargers item.pk = some charger →
        imported.existingChargerId = some charger.pk) ∧
      (item.isCharger = false → ∀ chassis, persistence.chassis item.pk = some chassis →
        imported.existingDeviceId = some chassis.pk) := by
  rw [importedRow] at hok
  cases hrole : item.isCharger with
  | true =>
      rw [hrole, if_pos rfl] at hok
      obtain ⟨charger, hcharger, hok⟩ := bind_eq_ok.mp hok
      cases hok
      refine ⟨rfl, rfl, rfl, hrole, fun _ other hother => ?_, fun h => absurd h (by simp)⟩
      simp only [planned, hother, Except.ok.injEq] at hcharger
      rw [hcharger]
  | false =>
      rw [hrole, if_neg Bool.false_ne_true] at hok
      obtain ⟨chassis, hchassis, hok⟩ := bind_eq_ok.mp hok
      cases hok
      refine ⟨rfl, rfl, rfl, hrole, fun h => absurd h (by simp), fun _ other hother => ?_⟩
      simp only [planned, hother, Except.ok.injEq] at hchassis
      rw [hchassis]

variable {state approved : ApprovalState} {queryset : DiscoveryQueue → Bool} {reviewer : Reviewer}
  {result : DiscoveryApprovalResult}

theorem approve_single (hunique : UniqueOn DiscoveryQueue.pk state.queue)
    (hpending : pendingRows state.queue queryset = [item])
    (hok : approve sha256 now state queryset reviewer = .ok (approved, result)) :
    ∃ plan persisted imported, DiscoveryApprovalPlan.build sha256 state.inventory [item] = .ok plan ∧
      persistTargets now state.inventory [item] plan = .ok persisted ∧
      importedRow now reviewer persisted.persistence item = .ok imported ∧
      approved = { inventory := persisted.inventory
                   queue := replaceRow DiscoveryQueue.pk imported state.queue } := by
  rw [approve] at hok
  split at hok
  next => cases hok
  next =>
  obtain ⟨_, -, hok⟩ := bind_eq_ok.mp hok
  obtain ⟨items, hitems, hok⟩ := bind_eq_ok.mp hok
  obtain rfl := lockItems_single hunique hpending hitems
  obtain ⟨_, -, hok⟩ := bind_eq_ok.mp hok
  obtain ⟨plan, hplan, hok⟩ := bind_eq_ok.mp hok
  split at hok
  next => cases hok
  next =>
  obtain ⟨persisted, hpersisted, hok⟩ := bind_eq_ok.mp hok
  obtain ⟨queue, hqueue, hok⟩ := bind_eq_ok.mp hok
  cases hok
  simp only [markImported, List.mapM_cons, List.mapM_nil, bind_eq_ok] at hqueue
  obtain ⟨rows, ⟨imported, himported, _, hnil, hrows⟩, hqueue⟩ := hqueue
  cases hnil
  cases hrows
  cases hqueue
  exact ⟨plan, persisted, imported, hplan, hpersisted, himported, rfl⟩

end Approve

end Micboard
