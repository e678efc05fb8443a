import Micboard.ApprovalRun

/-! An accepted plan persisted as a whole. The charger groups come first and none of them fails; the
chassis groups follow in the tables that these leave, and the run ends at the first group that has a
verdict against it. -/

namespace Micboard

open Library Library.Text LockedApprovalInventory DiscoveryApprovalResolver
  DiscoveryApprovalBatchPolicy DiscoveryApprovalService

/-- A charger row of the queue with its planned charger. -/
abbrev ChargerEntry := DiscoveryQueue × Charger

abbrev ChargerGroup := Nat × List ChargerEntry

def chargerKey (entry : ChargerEntry) : Nat := entry.2.pk

section Groups

variable {α κ : Type*} [DecidableEq κ] {key : α → κ} {values : List α} {seen rest : List (κ × List α)}
  {g : κ × List α}

/-- A group of a batch is the one of its first value, and the groups before it have other keys. -/
theorem groupBy_position (h : groupBy key values = seen ++ g :: rest) :
    ∃ value ∈ values, g = group key values (key value) ∧ g.2.head? = some value ∧
      ∀ g' ∈ seen, ∀ other ∈ g'.2, other ∈ values ∧ key other ≠ key value := by
  obtain ⟨before, value, after, hvalues, hfirst, hg, -⟩ := exists_first_of_groupBy h
  refine ⟨value, by simp [hvalues], hg, ?_, ?_⟩
  · have hnone : before.filter (fun other => key other = key value) = [] := by
      rw [List.filter_eq_nil_iff]
      simpa using hfirst
    rw [hg, group, hvalues, List.filter_append, hnone, List.nil_append, List.filter_cons,
      if_pos (decide_eq_true rfl), List.head?_cons]
  · intro g' hg' other hother
    obtain ⟨found, -, rfl⟩ := (mem_groupBy key).mp (h ▸ List.mem_append_left _ hg')
    obtain ⟨hmem, hkey⟩ := List.mem_filter.mp hother
    refine ⟨hmem, ?_⟩
    have hnodup := nodup_groupBy_keys key values
    rw [h, List.map_append, List.map_cons, List.nodup_append] at hnodup
    rw [of_decide_eq_true hkey]
    have hne := hnodup.2.2 _ (List.mem_map_of_mem hg') _ List.mem_cons_self
    rwa [hg] at hne

theorem ne_nil_of_mem_groupBy (h : g ∈ groupBy key values) : g.2 ≠ [] := by
  obtain ⟨value, hvalue, rfl⟩ := (mem_groupBy key).mp h
  exact List.ne_nil_of_mem (List.mem_filter.mpr ⟨hvalue, decide_eq_true rfl⟩)

variable (key) in
theorem exists_mem_groupBy {value : α} (h : value ∈ values) : ∃ g ∈ groupBy key values, value ∈ g.2 :=
  ⟨_, (mem_groupBy key).mpr ⟨value, h, rfl⟩, List.mem_filter.mpr ⟨h, decide_eq_true rfl⟩⟩

end Groups

/-- The accepted charger rows of one plan. -/
structure AcceptedChargers (db : Inventory) (policy : DiscoveryApprovalBatchPolicy)
    (entries : List ChargerEntry) : Prop where
  accepted : ∀ entry ∈ entries, AcceptedCharger db policy entry.1 entry.2
  unique : UniqueOn (fun entry : ChargerEntry => entry.1.pk) entries
  chargers : UniqueOn Charger.pk db.chargers

/-- A charger as its group wrote it. -/
structure ChargerOutcome (entries : List ChargerEntry) (row : Charger) : Prop where
  pk : ∀ entry ∈ entries, row.pk = entry.2.pk
  manufacturer : ∀ entry ∈ entries,
    row.manufacturer.map Manufacturer.pk = some entry.1.manufacturer.pk
  ip : ∀ entry ∈ entries, row.ip = some entry.1.ip

/-- The written chargers and the untouched ones. -/
structure ChargerInv (db : Inventory) (done : List ChargerGroup) (state : PersistingState) : Prop where
  chassis : state.inventory.chassis = db.chassis
  nextPk : state.inventory.nextPk = db.nextPk
  pks : state.inventory.chargers.map Charger.pk = db.chargers.map Charger.pk
  cases : ∀ row ∈ state.inventory.chargers, row ∈ db.chargers ∨ ∃ g ∈ done, ChargerOutcome g.2 row
  recorded : ∀ g ∈ done, ∀ entry ∈ g.2, ∃ saved row,
    state.persistence.chargers entry.1.pk = some saved ∧ row ∈ state.inventory.chargers ∧
      row.pk = saved.pk ∧ ChargerOutcome g.2 row
  created : state.persistence.createdCount = 0
  updated : state.persistence.updatedCount = done.length

/-- A charger that some rows are assigned to keeps its key and ends up with what the last of them
says. -/
theorem foldl_assignCharger {items : List DiscoveryQueue} (hne : items ≠ []) (charger : Charger) :
    (items.foldl assignCharger charger).pk = charger.pk ∧
      ∃ last ∈ items, (items.foldl assignCharger charger).manufacturer = some last.manufacturer ∧
        (items.foldl assignCharger charger).ip = some last.ip := by
  have hpk : ∀ (front : List DiscoveryQueue), (front.foldl assignCharger charger).pk = charger.pk := by
    intro front
    induction front using List.reverseRecOn with
    | nil => rfl
    | append_singleton front last ih =>
        rw [List.foldl_append]
        exact ih
  refine ⟨hpk items, ?_⟩
  obtain ⟨front, last, rfl⟩ : ∃ front last, items = front ++ [last] := by
    rcases List.eq_nil_or_concat items with rfl | ⟨front, last, rfl⟩
    · exact absurd rfl hne
    · exact ⟨front, last, List.concat_eq_append⟩
  refine ⟨last, by simp, ?_, ?_⟩ <;>
  · rw [List.foldl_append]
    rfl

section Charger

variable {db : Inventory} {policy : DiscoveryApprovalBatchPolicy} {entries : List ChargerEntry}
  (h : AcceptedChargers db policy entries) {a b : ChargerEntry}
include h

/-- Rows for one charger agree on it, on its manufacturer and on its address. -/
theorem AcceptedChargers.of_key (ha : a ∈ entries) (hb : b ∈ entries)
    (hkey : chargerKey a = chargerKey b) :
    a.2 = b.2 ∧ a.1.manufacturer.pk = b.1.manufacturer.pk ∧ a.1.ip = b.1.ip := by
  have hcharger : a.2 = b.2 := h.chargers.eq (h.accepted a ha).mem (h.accepted b hb).mem hkey
  have hmanufacturer := (h.accepted a ha).manufacturer
  have haddress := (h.accepted a ha).claims.2
  rw [hcharger, (h.accepted b hb).manufacturer] at hmanufacturer
  rw [hcharger, (h.accepted b hb).claims.2] at haddress
  exact ⟨hcharger, (Option.some.inj hmanufacturer).symm, (Option.some.inj haddress).symm⟩

theorem AcceptedChargers.key_of_ip (ha : a ∈ entries) (hb : b ∈ entries) (hip : a.1.ip = b.1.ip) :
    chargerKey a = chargerKey b := by
  have hclaim := (h.accepted a ha).claims.1
  rw [hip, (h.accepted b hb).claims.1, Option.some.injEq, ApprovalTargetKey.charger.injEq] at hclaim
  exact hclaim.symm

variable {done : List ChargerGroup} {state : PersistingState} {entry : ChargerEntry}
  (hentry : entry ∈ entries)
  (hdone : ∀ g ∈ done, ∀ other ∈ g.2, other ∈ entries ∧ chargerKey other ≠ chargerKey entry)
  (hne : ∀ g ∈ done, g.2 ≠ [])
include hentry hdone hne

/-- A charger can be saved under the address of its rows: no chassis holds it and no other charger. -/
theorem saveCharger_accepted (hinv : ChargerInv db done state) {charger : Charger}
    (hpk : charger.pk = entry.2.pk) (hip : charger.ip = some entry.1.ip) :
    saveCharger state.inventory charger = .ok
      ({ state.inventory with chargers := replaceRow Charger.pk charger state.inventory.chargers },
        charger) := by
  obtain ⟨hstored, hipNe, address, haddress, hcanonical⟩ := entry.1.ip_eq
  have hcolumn : getDbPrepValue charger.ip = charger.ip := by
    rw [hip, getDbPrepValue, if_neg hipNe, hstored]
  have hvalid : HardwareIPOwnershipService.validateForCharger state.inventory charger = .ok () := by
    have hfree : state.inventory.chassis.any
        (fun chassis => chassis.ip = getPrepValue address) = false := by
      rw [List.any_eq_false, hinv.chassis]
      intro chassis hchassis hsame
      rw [decide_eq_true_eq, hcanonical] at hsame
      exact (h.accepted entry hentry).no_chassis chassis hchassis hsame
    simp only [HardwareIPOwnershipService.validateForCharger,
      HardwareIPOwnershipService.canonicalIp, hip,
      if_neg hipNe, haddress, bind, Except.bind, hfree, Bool.false_eq_true, if_false]
  have hfree : (state.inventory.chargers.any fun other => decide (other.pk ≠ charger.pk) &&
      decide (charger.ip ≠ none) && decide (other.ip = charger.ip)) = false := by
    rw [List.any_eq_false]
    intro other hother hviolates
    simp only [Bool.and_eq_true, decide_eq_true_eq] at hviolates
    obtain ⟨⟨hotherPk, -⟩, hotherIp⟩ := hviolates
    rw [hip] at hotherIp
    rw [hpk] at hotherPk
    rcases hinv.cases other hother with hmem | ⟨g, hg, houtcome⟩
    · exact hotherPk ((h.accepted entry hentry).owner other hmem hotherIp)
    · obtain ⟨first, hfirst⟩ := List.exists_mem_of_ne_nil g.2 (hne g hg)
      obtain ⟨hfirstMem, hfirstKey⟩ := hdone g hg first hfirst
      rw [houtcome.ip first hfirst, Option.some.injEq] at hotherIp
      exact hfirstKey (h.key_of_ip hfirstMem hentry hotherIp)
  rw [saveCharger, hvalid]
  simp only [bind, Except.bind, hcolumn]
  rw [if_neg]
  rw [Bool.not_eq_true]
  exact hfree

theorem persistChargerGroup_accepted (hinv : ChargerInv db done state) {g : ChargerGroup}
    (hg : g = group chargerKey entries (chargerKey entry)) (hhead : g.2.head? = some entry) :
    ∃ t, persistChargerGroup state g = .ok t ∧ ChargerInv db (done ++ [g]) t := by
  have hmem : ∀ other ∈ g.2, other ∈ entries ∧ chargerKey other = chargerKey entry := by
    intro other hother
    rw [hg] at hother
    simpa [group] using hother
  have hitems : g.2.map Prod.fst ≠ [] := by
    intro hnil
    rw [List.map_eq_nil_iff.mp hnil] at hhead
    cases hhead
  obtain ⟨hpk, last, hlast, hmanufacturer, hip⟩ := foldl_assignCharger hitems entry.2
  obtain ⟨other, hother, rfl⟩ := List.mem_map.mp hlast
  have hagree := h.of_key (hmem other hother).1 hentry (hmem other hother).2
  rw [hagree.2.2] at hip
  generalize hassigned : (g.2.map Prod.fst).foldl assignCharger entry.2 =
    charger at hpk hmanufacturer hip
  have hadopt : adoptCharger state.inventory (g.2.map Prod.fst) entry.2 = .ok
      ({ state.inventory with chargers := replaceRow Charger.pk charger state.inventory.chargers },
        charger) := by
    rw [adoptCharger, liftApprovalSave_eq_ok, hassigned,
      saveCharger_accepted h hentry hdone hne hinv hpk hip]
  have hstep : persistChargerGroup state g = .ok {
      inventory := { state.inventory with
        chargers := replaceRow Charger.pk charger state.inventory.chargers }
      persistence := { state.persistence with
        chargers := approveAll state.persistence.chargers (g.2.map (·.1.pk)) charger
        updatedCount := state.persistence.updatedCount + 1 } } := by
    unfold persistChargerGroup
    split
    next hnil => simp [hnil] at hhead
    next first rest hcons =>
      rw [hcons, List.head?_cons, Option.some.injEq] at hhead
      rw [hhead, hadopt]
      rfl
  have houtcome : ChargerOutcome g.2 charger := by
    refine ⟨fun first hfirst => ?_, fun first hfirst => ?_, fun first hfirst => ?_⟩
    · rw [hpk, (h.of_key (hmem first hfirst).1 hentry (hmem first hfirst).2).1]
    · rw [hmanufacturer, Option.map_some, hagree.2.1,
        (h.of_key (hmem first hfirst).1 hentry (hmem first hfirst).2).2.1]
    · rw [hip, (h.of_key (hmem first hfirst).1 hentry (hmem first hfirst).2).2.2]
  have hold : ∃ old ∈ state.inventory.chargers, old.pk = charger.pk := by
    have hpks : charger.pk ∈ state.inventory.chargers.map Charger.pk := by
      rw [hinv.pks, hpk]
      exact List.mem_map_of_mem (h.accepted entry hentry).mem
    obtain ⟨old, hold, heq⟩ := List.mem_map.mp hpks
    exact ⟨old, hold, heq⟩
  obtain ⟨old, hold, holdPk⟩ := hold
  refine ⟨_, hstep, hinv.chassis, hinv.nextPk, ?_, ?_, ?_, hinv.created, ?_⟩
  · show (replaceRow Charger.pk charger state.inventory.chargers).map Charger.pk = _
    rw [map_pk_replaceRow, hinv.pks]
  · intro row hrow
    rcases (mem_replaceRow Charger.pk).mp hrow with ⟨rfl, -⟩ | ⟨hrow, -⟩
    · exact .inr ⟨g, by simp, houtcome⟩
    · rcases hinv.cases row hrow with hdb | ⟨g', hg', hother⟩
      · exact .inl hdb
      · exact .inr ⟨g', List.mem_append_left _ hg', hother⟩
  · intro g' hg' first hfirst
    rcases List.mem_append.mp hg' with hg' | hg'
    · obtain ⟨saved, row, hrecorded, hrow, hrowPk, hrowOutcome⟩ := hinv.recorded g' hg' first hfirst
      have hfirstKey := hdone g' hg' first hfirst
      refine ⟨saved, row, ?_, ?_, hrowPk, hrowOutcome⟩
      · show approveAll _ _ _ _ = _
        rw [approveAll_eq, if_neg]
        · exact hrecorded
        · intro hsame
          obtain ⟨third, hthird, hthirdPk⟩ := List.mem_map.mp hsame
          have heq : third = first := h.unique.eq (hmem third hthird).1 hfirstKey.1 hthirdPk
          exact hfirstKey.2 (heq ▸ (hmem third hthird).2)
      · refine (mem_replaceRow Charger.pk).mpr (.inr ⟨hrow, ?_⟩)
        rw [hrowOutcome.pk first hfirst, hpk]
        exact hfirstKey.2
    · rw [List.mem_singleton.mp hg'] at hfirst ⊢
      refine ⟨charger, charger, ?_, mem_replaceRow_self Charger.pk hold holdPk, rfl, houtcome⟩
      show approveAll _ _ _ _ = _
      rw [approveAll_eq, if_pos (List.mem_map_of_mem hfirst)]
  · show state.persistence.updatedCount + 1 = _
    rw [hinv.updated, List.length_append, List.length_singleton]

end Charger

theorem persistChargers {db : Inventory} {policy : DiscoveryApprovalBatchPolicy}
    {entries : List ChargerEntry}
    (h : AcceptedChargers db policy entries) {start : PersistingState}
    (hstart : ChargerInv db [] start) :
    ∃ t, (groupBy chargerKey entries).foldlM persistChargerGroup start = .ok t ∧
      ChargerInv db (groupBy chargerKey entries) t := by
  have hsteps : StepVerdict persistChargerGroup (ChargerInv db) (fun _ _ => none)
      (groupBy chargerKey entries) := by
    intro seen g rest state hsplit hinv
    obtain ⟨entry, hentry, hg, hhead, hseen⟩ := groupBy_position hsplit
    refine persistChargerGroup_accepted h hentry hseen (fun g' hg' => ?_) hinv hg hhead
    exact ne_nil_of_mem_groupBy (hsplit ▸ List.mem_append_left _ hg')
  rcases foldlM_verdict hsteps hstart with ⟨t, hrun, hinv, -⟩ | ⟨_, _, _, _, _, hnone, _⟩
  · exact ⟨t, hrun, hinv⟩
  · cases hnone

/-! ### The planned entries of a batch -/

/-- Planned rows give their entries in order. -/
theorem plannedEntries {α : Type} {plan : Nat → Option α} {items : List DiscoveryQueue}
    (h : ∀ item ∈ items, ∃ target, plan item.pk = some target) :
    ∃ entries : List (DiscoveryQueue × α),
      (items.mapM fun item => (planned plan item.pk).map (Prod.mk item)) = .ok entries ∧
      entries.map Prod.fst = items ∧ ∀ entry ∈ entries, plan entry.1.pk = some entry.2 := by
  induction items with
  | nil => exact ⟨[], rfl, rfl, by simp⟩
  | cons item rest ih =>
      obtain ⟨target, htarget⟩ := h item List.mem_cons_self
      obtain ⟨entries, hrun, hitems, hplan⟩ :=
        ih fun other hother => h other (List.mem_cons_of_mem _ hother)
      refine ⟨(item, target) :: entries, ?_, by rw [List.map_cons, hitems], ?_⟩
      · rw [List.mapM_cons, hrun, planned, htarget]
        rfl
      · intro entry hentry
        rcases List.mem_cons.mp hentry with rfl | hentry
        · exact htarget
        · exact hplan entry hentry

/-- The charger and chassis rows of a selection with their accepted targets. -/
structure PlannedBatch (sha256 : String → Nat) (db : Inventory) (items : List DiscoveryQueue)
    (plan : DiscoveryApprovalPlan) (inventory : LockedApprovalInventory)
    (policy : DiscoveryApprovalBatchPolicy) (chargers : List ChargerEntry)
    (chassis : List ChassisEntry) : Prop where
  locked : lock db items = .ok inventory
  chargerEntries : chargerEntries items plan = .ok chargers
  chassisEntries : chassisEntries items plan = .ok chassis
  charger_items : chargers.map Prod.fst = items.filter DiscoveryQueue.isCharger
  chassis_items : chassis.map Prod.fst = items.filter fun item => !item.isCharger
  acceptedChargers : AcceptedChargers db policy chargers
  acceptedChassis : AcceptedBatch sha256 db inventory policy chassis

section Batch

variable {sha256 : String → Nat} {now : Time} {db : Inventory} {items : List DiscoveryQueue}
  {plan : DiscoveryApprovalPlan} {inventory : LockedApprovalInventory}
  {policy : DiscoveryApprovalBatchPolicy} {chargers : List ChargerEntry} {chassis : List ChassisEntry}

/-- An accepted selection plans every row of it. -/
theorem exists_plannedBatch (hdb : db.Consistent) (hchargers : UniqueOn Charger.pk db.chargers)
    (hitems : UniqueOn DiscoveryQueue.pk items)
    (h : DiscoveryApprovalPlan.build sha256 db items = .ok plan) :
    ∃ inventory policy chargers chassis,
      PlannedBatch sha256 db items plan inventory policy chargers chassis := by
  obtain ⟨inventory, policy, hlock, hrows⟩ := build_accepted hdb.pk_unique hitems h
  obtain ⟨chargers, hchargerRun, hchargerItems, hchargerPlan⟩ := @plannedEntries _ plan.chargers
    (items.filter DiscoveryQueue.isCharger) (by
      intro item hitem
      obtain ⟨hitem, hrole⟩ := List.mem_filter.mp hitem
      obtain ⟨charger, hplan, -⟩ := (hrows item hitem).2 hrole
      exact ⟨charger, hplan⟩)
  obtain ⟨chassis, hchassisRun, hchassisItems, hchassisPlan⟩ := @plannedEntries _ plan.chassis
    (items.filter fun item => !item.isCharger) (by
      intro item hitem
      obtain ⟨hitem, hrole⟩ := List.mem_filter.mp hitem
      obtain ⟨target, hplan, -⟩ := (hrows item hitem).1 (by simpa using hrole)
      exact ⟨target, hplan⟩)
  have hunique : ∀ {α : Type} {p : DiscoveryQueue → Bool} {entries : List (DiscoveryQueue × α)},
      entries.map Prod.fst = items.filter p → UniqueOn (fun entry => entry.1.pk) entries := by
    intro α p entries hfst
    have hpks : entries.map (fun entry => entry.1.pk) = (items.filter p).map DiscoveryQueue.pk := by
      rw [← hfst, List.map_map]
      rfl
    rw [UniqueOn, hpks]
    exact hitems.sublist (List.filter_sublist.map _)
  refine ⟨inventory, policy, chargers, chassis, hlock, hchargerRun, hchassisRun, hchargerItems,
    hchassisItems, ⟨?_, hunique hchargerItems, hchargers⟩, ⟨?_, ?_, hunique hchassisItems⟩⟩
  · intro entry hentry
    obtain ⟨hitem, hrole⟩ := List.mem_filter.mp (hchargerItems ▸ List.mem_map_of_mem hentry)
    obtain ⟨charger, hplan, haccepted⟩ := (hrows entry.1 hitem).2 hrole
    rw [hchargerPlan entry hentry, Option.some.injEq] at hplan
    exact hplan ▸ haccepted
  · intro entry hentry
    obtain ⟨hitem, hrole⟩ := List.mem_filter.mp (hchassisItems ▸ List.mem_map_of_mem hentry)
    obtain ⟨target, hplan, haccepted⟩ := (hrows entry.1 hitem).1 (by simpa using hrole)
    rw [hchassisPlan entry hentry, Option.some.injEq] at hplan
    exact hplan ▸ haccepted
  · exact fun row hrow => ((lock_chassis hlock).mp hrow).1

variable (h : PlannedBatch sha256 db items plan inventory policy chargers chassis)
include h

theorem PlannedBatch.mem_chassis {item : DiscoveryQueue} :
    (∃ target, (item, target) ∈ chassis) ↔ item ∈ items ∧ item.isCharger = false := by
  have hmem : item ∈ chassis.map Prod.fst ↔ item ∈ items.filter fun item => !item.isCharger := by
    rw [h.chassis_items]
  simpa using hmem

theorem PlannedBatch.mem_chargers {item : DiscoveryQueue} :
    (∃ charger, (item, charger) ∈ chargers) ↔ item ∈ items ∧ item.isCharger = true := by
  have hmem : item ∈ chargers.map Prod.fst ↔ item ∈ items.filter DiscoveryQueue.isCharger := by
    rw [h.charger_items]
  simpa using hmem

/-- A charger row and a chassis row claim different addresses. -/
theorem PlannedBatch.ip_ne {a : ChargerEntry} {b : ChassisEntry} (ha : a ∈ chargers)
    (hb : b ∈ chassis) :
    a.1.ip ≠ b.1.ip := by
  intro hip
  have hclaim := (h.acceptedChargers.accepted a ha).claims.1
  rw [hip, (h.acceptedChassis.accepted b hb).claims.address.1, Option.some.injEq] at hclaim
  unfold targetKeyOf at hclaim
  split at hclaim <;> cases hclaim

/-- No charger that the charger groups leave holds the address of a chassis row. -/
theorem PlannedBatch.no_charger {start : PersistingState}
    (hstart : ChargerInv db (groupBy chargerKey chargers) start) {entry : ChassisEntry}
    (hentry : entry ∈ chassis) : ∀ charger ∈ start.inventory.chargers, charger.ip ≠
      some entry.1.ip := by
  intro charger hcharger hip
  rcases hstart.cases charger hcharger with hmem | ⟨g, hg, houtcome⟩
  · exact (h.acceptedChassis.accepted entry hentry).no_charger charger hmem hip
  · obtain ⟨first, hfirst, rfl⟩ := (mem_groupBy chargerKey).mp hg
    have hown : first ∈ (group chargerKey chargers (chargerKey first)).2 :=
      List.mem_filter.mpr ⟨hfirst, decide_eq_true rfl⟩
    rw [houtcome.ip first hown, Option.some.injEq] at hip
    exact h.ip_ne hfirst hentry hip

/-- **What persisting an accepted selection does**: the charger groups are persisted, and the
chassis groups up to the first one with a verdict against it. -/
theorem PlannedBatch.persistTargets_cases (hdb : db.Consistent) :
    ∃ start, ChargerInv db (groupBy chargerKey chargers) start ∧
      ((∃ t, persistTargets now db items plan = .ok t ∧
        PersistInv db start (groupBy entryKey chassis) t ∧
          ∀ seen g rest, groupBy entryKey chassis = seen ++ g :: rest → groupVerdict db seen g = none) ∨
        ∃ seen g rest e, groupBy entryKey chassis = seen ++ g :: rest ∧
          groupVerdict db seen g = some e ∧
          persistTargets now db items plan = .error e ∧
          ∀ seen' g' rest', seen = seen' ++ g' :: rest' → groupVerdict db seen' g' = none) := by
  obtain ⟨start, hchargers, hstart⟩ := @persistChargers _ _ _ h.acceptedChargers {
      inventory := db
      persistence := {
        chargers := fun _ => none
        chassis := fun _ => none
        createdCount := 0
        updatedCount := 0 } }
    ⟨rfl, rfl, rfl, fun row hrow => .inl hrow, by simp, rfl, rfl⟩
  have hrun : persistTargets now db items plan =
      (groupBy entryKey chassis).foldlM (persistChassisGroup now) start := by
    rw [persistTargets, h.chargerEntries, h.chassisEntries]
    exact congrArg
      (· >>= fun state => (groupBy entryKey chassis).foldlM (persistChassisGroup now) state)
      hchargers
  have hconsistent : start.inventory.Consistent := by
    refine ⟨?_, ?_, ?_, ?_, ?_⟩
    all_goals rw [hstart.chassis]
    · exact hdb.pk_unique
    · rw [hstart.nextPk]
      exact hdb.pk_lt
    · exact hdb.ip_stored
    · exact hdb.ip_unique
    · exact hdb.api_unique
  have hinv : PersistInv db start [] start := by
    refine ⟨hconsistent, rfl, rfl, hstart.nextPk.ge, ?_, ?_, by simp, rfl⟩
    · intro row hrow
      rw [hstart.chassis] at hrow
      exact .inl ⟨hrow, by simp⟩
    · intro row hrow _
      rw [hstart.chassis]
      exact hrow
  have hsteps : StepVerdict (persistChassisGroup now) (PersistInv db start) (groupVerdict db)
      (groupBy entryKey chassis) := by
    intro seen g rest state hsplit hseen
    obtain ⟨entry, hentry, hg, hhead, hkeys⟩ := groupBy_position hsplit
    have hfull : ∀ g' ∈ seen, g'.2 ≠ [] := fun g' hg' =>
      ne_nil_of_mem_groupBy (hsplit ▸ List.mem_append_left _ hg')
    have hstep :=
      @persistChassisGroup_verdict _ _ _ _ _ h.acceptedChassis hdb _ _ _ _ hentry hkeys hfull now
      hseen _ hg hhead (hseen.chargers ▸ h.no_charger hstart hentry)
    cases hverdict : groupVerdict db seen g with
    | none =>
        rw [hverdict] at hstep
        exact hstep
    | some e =>
        rw [hverdict] at hstep
        exact hstep
  rw [hrun]
  exact ⟨start, hstart, foldlM_verdict hsteps hinv⟩

end Batch

end Micboard
