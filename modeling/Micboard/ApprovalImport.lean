import Micboard.ApprovalBatch
import Micboard.ApprovalSingle
import Micboard.IdentitySoundness

/-! The approval of a whole selection. The locked rows are the selected pending ones; every one of
them is planned, its target is persisted, and its row in the queue is rewritten with a link to that
target. -/

namespace Micboard

open Library Library.Text LockedApprovalInventory DiscoveryApprovalResolver
  DiscoveryApprovalBatchPolicy DiscoveryApprovalService

/-- What the primary keys and the table constraints guarantee of the stored tables. -/
structure ApprovalState.Consistent (state : ApprovalState) : Prop where
  inventory : state.inventory.Consistent
  chargers : UniqueOn Charger.pk state.inventory.chargers
  queue : UniqueOn DiscoveryQueue.pk state.queue

/-- The selected pending rows. -/
def Selected (state : ApprovalState) (queryset : DiscoveryQueue → Bool)
    (item : DiscoveryQueue) : Prop :=
  item ∈ state.queue ∧ queryset item = true ∧ item.status = .pending

section Lock

variable {queue items : List DiscoveryQueue} {queryset : DiscoveryQueue → Bool}

/-- The rows that are locked for an approval are the selected pending ones. -/
theorem mem_lockItems (hunique : UniqueOn DiscoveryQueue.pk queue)
    (hok : lockItems queue queryset = .ok items) :
    UniqueOn DiscoveryQueue.pk items ∧
      ∀ item, item ∈ items ↔ item ∈ queue ∧ queryset item = true ∧ item.status = .pending := by
  rw [lockItems] at hok
  split at hok
  next => cases hok
  next hbatch =>
  split at hok
  next hempty =>
    cases hok
    refine ⟨uniqueOn_nil _, fun item => iff_of_false (by simp) ?_⟩
    rintro ⟨hitem, hselected, hpending⟩
    have hmem := mem_pendingRows_of_length hbatch hitem hselected hpending
    rw [hempty] at hmem
    cases hmem
  split at hok
  next => cases hok
  next hscope =>
  cases hok
  refine ⟨?_, fun item => ?_⟩
  · refine ((List.perm_insertionSort _ _).map DiscoveryQueue.pk).nodup_iff.mpr ?_
    exact hunique.sublist (List.filter_sublist.map _)
  rw [List.mem_insertionSort, List.mem_filter]
  simp only [Bool.and_eq_true, List.any_eq_true, decide_eq_true_eq]
  constructor
  · rintro ⟨hitem, ⟨row, hrow, hpk, selected, hselected, hselectedPk⟩, hpending⟩
    obtain ⟨hmem, hquery, -⟩ := mem_pendingRows hselected
    have heq : selected = item := hunique.eq hmem hitem (hselectedPk.trans hpk)
    exact ⟨hitem, heq ▸ hquery, hpending⟩
  · rintro ⟨hitem, hselected, hpending⟩
    have hrequested := mem_pendingRows_of_length hbatch hitem hselected hpending
    have hlocked : item ∈ pendingRows queue fun other =>
        (requestedIps (pendingRows queue queryset)).any fun ip => other.ip = getPrepValue ip := by
      refine mem_pendingRows_of_length hscope hitem ?_ hpending
      exact List.any_eq_true.mpr
        ⟨item.ip, List.mem_map_of_mem hrequested, decide_eq_true item.ip_eq.1.symm⟩
    exact ⟨hitem, ⟨item, hlocked, rfl, item, hrequested, rfl⟩, hpending⟩

end Lock

/-- The row of an imported item, linked to a target of its kind. -/
def linkedRow (now : Time) (reviewer : Reviewer) (item : DiscoveryQueue)
    (target : Nat) : DiscoveryQueue :=
  if item.isCharger then
    { item with
      existingChargerId := some target
      status := .imported
      reviewedAt := some now
      reviewedBy := some reviewer.pk }
  else
    { item with
      existingDeviceId := some target
      status := .imported
      reviewedAt := some now
      reviewedBy := some reviewer.pk }

section Linked

variable {now : Time} {reviewer : Reviewer} {item : DiscoveryQueue} {target : Nat}

theorem linkedRow_charger (h : item.isCharger = true) : linkedRow now reviewer item target =
    { item with
      existingChargerId := some target
      status := .imported
      reviewedAt := some now
      reviewedBy := some reviewer.pk } := by
  rw [linkedRow, if_pos h]

theorem linkedRow_chassis (h : item.isCharger = false) : linkedRow now reviewer item target =
    { item with
      existingDeviceId := some target
      status := .imported
      reviewedAt := some now
      reviewedBy := some reviewer.pk } := by
  rw [linkedRow, h, if_neg Bool.false_ne_true]

@[simp] theorem linkedRow_pk : (linkedRow now reviewer item target).pk = item.pk := by
  rw [linkedRow]
  split <;> rfl

@[simp] theorem linkedRow_status : (linkedRow now reviewer item target).status = .imported := by
  rw [linkedRow]
  split <;> rfl

@[simp] theorem linkedRow_isCharger : (linkedRow now reviewer item target).isCharger =
    item.isCharger := by
  rw [linkedRow]
  split <;> rfl

end Linked

/-- The key of what was persisted for a row. -/
def persistedTarget (persistence : DiscoveryApprovalPersistence) (item : DiscoveryQueue) : Option Nat :=
  if item.isCharger then (persistence.chargers item.pk).map Charger.pk
  else (persistence.chassis item.pk).map Chassis.pk

theorem importedRow_eq {now : Time} {reviewer : Reviewer} {persistence : DiscoveryApprovalPersistence}
    {item : DiscoveryQueue} {target : Nat} (h : persistedTarget persistence item = some target) :
    importedRow now reviewer persistence item = .ok (linkedRow now reviewer item target) := by
  rw [persistedTarget] at h
  cases hrole : item.isCharger with
  | true =>
      rw [hrole, if_pos rfl] at h
      obtain ⟨charger, hcharger, rfl⟩ := Option.map_eq_some_iff.mp h
      rw [importedRow, hrole, if_pos rfl, linkedRow_charger hrole, planned, hcharger]
      rfl
  | false =>
      rw [hrole, if_neg Bool.false_ne_true] at h
      obtain ⟨chassis, hchassis, rfl⟩ := Option.map_eq_some_iff.mp h
      rw [importedRow, hrole, if_neg Bool.false_ne_true, linkedRow_chassis hrole, planned, hchassis]
      rfl

/-- The queue after the rows of a batch were linked to their targets. -/
structure MarkedQueue (now : Time) (reviewer : Reviewer) (persistence : DiscoveryApprovalPersistence)
    (queue items marked : List DiscoveryQueue) : Prop where
  pks : marked.map DiscoveryQueue.pk = queue.map DiscoveryQueue.pk
  mem : ∀ row, row ∈ marked ↔
    (∃ item ∈ items, ∃ target, persistedTarget persistence item = some target ∧
      row = linkedRow now reviewer item target) ∨ (row ∈ queue ∧ ∀ item ∈ items, item.pk ≠ row.pk)

/-- Marking rows that all have a target succeeds and rewrites just them. -/
theorem markImported_eq {now : Time} {reviewer : Reviewer} {persistence : DiscoveryApprovalPersistence}
    {queue items : List DiscoveryQueue} (hitems : UniqueOn DiscoveryQueue.pk items)
    (hqueue : ∀ item ∈ items, item ∈ queue)
    (htargets : ∀ item ∈ items, ∃ target, persistedTarget persistence item = some target) :
    ∃ marked, markImported now queue items persistence reviewer = .ok marked ∧
      MarkedQueue now reviewer persistence queue items marked := by
  let mark (item : DiscoveryQueue) : DiscoveryQueue :=
    linkedRow now reviewer item ((persistedTarget persistence item).getD 0)
  have hmark : ∀ item ∈ items, importedRow now reviewer persistence item = .ok (mark item) := by
    intro item hitem
    obtain ⟨target, htarget⟩ := htargets item hitem
    rw [importedRow_eq htarget]
    simp only [mark, htarget, Option.getD_some]
  have hpks : (items.map mark).map DiscoveryQueue.pk = items.map DiscoveryQueue.pk := by
    rw [List.map_map]
    exact List.map_congr_left fun item _ => linkedRow_pk
  have hrows : UniqueOn DiscoveryQueue.pk (items.map mark) := by
    rw [UniqueOn, hpks]
    exact hitems
  refine ⟨_,
    by rw [markImported, mapM_eq_ok_map hmark]; rfl, map_pk_foldl_replaceRow _ _ _, fun row => ?_⟩
  rw [mem_foldl_replaceRow DiscoveryQueue.pk hrows, List.forall_mem_map]
  constructor
  · rintro (⟨hrow, -⟩ | ⟨hrow, hothers⟩)
    · obtain ⟨item, hitem, rfl⟩ := List.mem_map.mp hrow
      obtain ⟨target, htarget⟩ := htargets item hitem
      exact .inl ⟨item, hitem, target, htarget, by simp only [mark, htarget, Option.getD_some]⟩
    · exact .inr ⟨hrow, fun item hitem heq => hothers item hitem (linkedRow_pk.trans heq)⟩
  · rintro (⟨item, hitem, target, htarget, rfl⟩ | ⟨hrow, hothers⟩)
    · refine .inl ⟨List.mem_map.mpr ⟨item, hitem, ?_⟩, item, hqueue item hitem, linkedRow_pk.symm⟩
      simp only [mark, htarget, Option.getD_some]
    · exact .inr ⟨hrow, fun item hitem heq => hothers item hitem (linkedRow_pk.symm.trans heq)⟩

/-- What a successful approval went through. -/
structure Approved (sha256 : String → Nat) (now : Time) (reviewer : Reviewer)
    (state after : ApprovalState)
    (result : DiscoveryApprovalResult) (items : List DiscoveryQueue) (plan : DiscoveryApprovalPlan)
    (inventory : LockedApprovalInventory) (policy : DiscoveryApprovalBatchPolicy)
    (chargers : List ChargerEntry) (chassis : List ChassisEntry)
    (start final : PersistingState) : Prop where
  batch : PlannedBatch sha256 state.inventory items plan inventory policy chargers chassis
  chargerGroups : ChargerInv state.inventory (groupBy chargerKey chargers) start
  chassisGroups : PersistInv state.inventory start (groupBy entryKey chassis) final
  free : ∀ seen g rest, groupBy entryKey chassis = seen ++ g :: rest →
    groupVerdict state.inventory seen g = none
  marked : MarkedQueue now reviewer final.persistence state.queue items after.queue
  inventory : after.inventory = final.inventory
  result : result = {
    importedCount := items.length
    createdCount := final.persistence.createdCount
    updatedCount := final.persistence.updatedCount }

section Targets

variable {sha256 : String → Nat} {now : Time} {reviewer : Reviewer} {db : Inventory}
  {items : List DiscoveryQueue} {plan : DiscoveryApprovalPlan} {inventory : LockedApprovalInventory}
  {policy : DiscoveryApprovalBatchPolicy} {chargers : List ChargerEntry} {chassis : List ChassisEntry}
  {start final : PersistingState}
  (hbatch : PlannedBatch sha256 db items plan inventory policy chargers chassis)
  (hchargers : ChargerInv db (groupBy chargerKey chargers) start)
  (hchassis : PersistInv db start (groupBy entryKey chassis) final)
include hbatch hchargers hchassis

omit hchargers in
theorem persistedTarget_chassis {entry : ChassisEntry} (hentry : entry ∈ chassis) :
    ∃ row ∈ final.inventory.chassis, persistedTarget final.persistence entry.1 = some row.pk ∧
      ∃ g ∈ groupBy entryKey chassis, entry ∈ g.2 ∧ GroupOutcome db g.2 row := by
  obtain ⟨g, hg, hmem⟩ := exists_mem_groupBy entryKey hentry
  obtain ⟨saved, row, hrecorded, hrow, hpk, houtcome⟩ := hchassis.recorded g hg entry hmem
  have hrole : entry.1.isCharger = false := (hbatch.mem_chassis.mp ⟨entry.2, hentry⟩).2
  refine ⟨row, hrow, ?_, g, hg, hmem, houtcome⟩
  rw [persistedTarget, hrole, if_neg Bool.false_ne_true, hrecorded, Option.map_some, hpk]

theorem persistedTarget_charger {entry : ChargerEntry} (hentry : entry ∈ chargers) :
    ∃ row ∈ final.inventory.chargers, persistedTarget final.persistence entry.1 = some row.pk ∧
      ∃ g ∈ groupBy chargerKey chargers, entry ∈ g.2 ∧ ChargerOutcome g.2 row := by
  obtain ⟨g, hg, hmem⟩ := exists_mem_groupBy chargerKey hentry
  obtain ⟨saved, row, hrecorded, hrow, hpk, houtcome⟩ := hchargers.recorded g hg entry hmem
  have hrole : entry.1.isCharger = true := (hbatch.mem_chargers.mp ⟨entry.2, hentry⟩).2
  refine ⟨row, by rw [hchassis.chargers]; exact hrow, ?_, g, hg, hmem, houtcome⟩
  rw [persistedTarget, hrole, if_pos rfl, hchassis.approvedChargers, hrecorded, Option.map_some, hpk]

theorem exists_persistedTarget {item : DiscoveryQueue} (hitem : item ∈ items) :
    ∃ target, persistedTarget final.persistence item = some target := by
  cases hrole : item.isCharger with
  | true =>
      obtain ⟨charger, hentry⟩ := hbatch.mem_chargers.mpr ⟨hitem, hrole⟩
      obtain ⟨row, -, htarget, -⟩ := persistedTarget_charger hbatch hchargers hchassis hentry
      exact ⟨row.pk, htarget⟩
  | false =>
      obtain ⟨target, hentry⟩ := hbatch.mem_chassis.mpr ⟨hitem, hrole⟩
      obtain ⟨row, -, htarget, -⟩ := persistedTarget_chassis hbatch hchassis hentry
      exact ⟨row.pk, htarget⟩

end Targets

section Approve

variable {sha256 : String → Nat} {now : Time} {state after : ApprovalState}
  {queryset : DiscoveryQueue → Bool} {reviewer : Reviewer} {result : DiscoveryApprovalResult}

/-- A successful approval locks, plans, persists and marks the selected rows. -/
theorem approve_eq_ok (hok : approve sha256 now state queryset reviewer = .ok (after, result)) :
    ∃ items plan final, lockItems state.queue queryset = .ok items ∧
      DiscoveryApprovalPlan.build sha256 state.inventory items = .ok plan ∧
      persistTargets now state.inventory items plan = .ok final ∧
      markImported now state.queue items final.persistence reviewer = .ok after.queue ∧
      after.inventory = final.inventory ∧ result = {
        importedCount := items.length
        createdCount := final.persistence.createdCount
        updatedCount := final.persistence.updatedCount } := by
  rw [approve] at hok
  split at hok
  next => cases hok
  next =>
  obtain ⟨_, -, hok⟩ := bind_eq_ok.mp hok
  obtain ⟨items, hitems, hok⟩ := bind_eq_ok.mp hok
  obtain ⟨_, -, hok⟩ := bind_eq_ok.mp hok
  obtain ⟨plan, hplan, hok⟩ := bind_eq_ok.mp hok
  split at hok
  next => cases hok
  next =>
  obtain ⟨final, hfinal, hok⟩ := bind_eq_ok.mp hok
  obtain ⟨queue, hqueue, hok⟩ := bind_eq_ok.mp hok
  cases hok
  exact ⟨items, plan, final, hitems, hplan, hfinal, hqueue, rfl, rfl⟩

/-- **A successful approval**: the selected rows, their accepted plan, the tables it left and the marked
queue. -/
theorem exists_approved (hstate : state.Consistent)
    (hok : approve sha256 now state queryset reviewer = .ok (after, result)) :
    ∃ items plan inventory policy chargers chassis start final,
      Approved sha256 now reviewer state after result items plan inventory policy chargers chassis start
        final ∧ UniqueOn DiscoveryQueue.pk items ∧ ∀ item, item ∈ items ↔
          Selected state queryset item := by
  obtain ⟨items, plan, final, hitems, hplan, hfinal, hqueue, hinventory, hresult⟩ := approve_eq_ok hok
  obtain ⟨hunique, hmem⟩ := mem_lockItems hstate.queue hitems
  obtain ⟨inventory, policy, chargers, chassis, hbatch⟩ :=
    exists_plannedBatch hstate.inventory hstate.chargers hunique hplan
  obtain ⟨start, hstart, hcases⟩ := @PlannedBatch.persistTargets_cases _ now _ _ _ _ _ _ _ hbatch
    hstate.inventory
  rw [hfinal] at hcases
  rcases hcases with ⟨t, heq, hchassis, hfree⟩ | ⟨_, _, _, _, _, _, herror, _⟩
  · obtain rfl := Except.ok.inj heq
    obtain ⟨marked, hmarked, hmarkedQueue⟩ :=
      @markImported_eq now reviewer final.persistence state.queue
      items hunique (fun item hitem => ((hmem item).mp hitem).1)
      (fun item hitem => exists_persistedTarget hbatch hstart hchassis hitem)
    obtain rfl := Except.ok.inj (hqueue.symm.trans hmarked)
    exact ⟨items, plan, inventory, policy, chargers, chassis, start, final,
      ⟨hbatch, hstart, hchassis, hfree, hmarkedQueue, hinventory, hresult⟩, hunique, hmem⟩
  · cases herror

end Approve

/-! ### A queue of one receiver -/

def pendingReceiver (apiDeviceId serialNumber : String)
    (existingDeviceId existingChargerId : Option Nat) :
    DiscoveryQueue where
  pk := 1
  manufacturer := shure
  serialNumber
  apiDeviceId
  ip := "10.0.0.9"
  deviceType := "receiver"
  model := ""
  name := ""
  fqdn := ""
  firmwareVersion := ""
  metadata := none
  status := .pending
  reviewedAt := none
  reviewedBy := none
  existingDeviceId
  existingChargerId
  isIpConflict := false
  ip_stored := by decide +kernel
  ip_trimmed := by decide +kernel

def fullReviewer : Reviewer := ⟨1, fun _ => true⟩

/-- The approval of one pending receiver by a reviewer with every permission. -/
def approveReceiver (db : Inventory) (item : DiscoveryQueue) :
    Except ApprovalError (ApprovalState × DiscoveryApprovalResult) :=
  approve (fun _ => 0) 0 ⟨db, [item]⟩ (fun _ => true) fullReviewer

theorem consistent_singleton {db : Inventory} (hdb : db.Consistent)
    (hchargers : UniqueOn Charger.pk db.chargers) (item : DiscoveryQueue) :
    ApprovalState.Consistent ⟨db, [item]⟩ :=
  ⟨hdb, hchargers, List.nodup_singleton _⟩

theorem selected_singleton {db : Inventory} {item other : DiscoveryQueue}
    (h : Selected ⟨db, [item]⟩ (fun _ => true) other) : other = item := List.mem_singleton.mp h.1

/-- The stored receiver beside a second one. -/
def stageInventory : Inventory where
  chassis := [storedReceiver,
    { Chassis.unsaved shure with
      pk := 2, apiDeviceId := "dev-2", serialNumber := "SN-2", ip := "10.0.0.2" }]
  chargers := []
  nextPk := 3

theorem stageInventory_consistent : stageInventory.Consistent where
  pk_unique := by decide
  pk_lt := by decide
  ip_stored := by decide
  ip_unique := by decide
  api_unique := by decide

/-- Rows for both stored receivers, of which the second one changes its API device id, and for a new
receiver. -/
def stageQueue : List DiscoveryQueue :=
  [pendingReceiver "dev-1" "SN-1" (some 1) none,
    { pendingReceiver "dev-7" "SN-2" (some 2) none with
      pk := 2
      ip := "10.0.0.8"
      ip_stored := by decide +kernel
      ip_trimmed := by decide +kernel },
    { pendingReceiver "dev-3" "SN-3" none none with
      pk := 3
      ip := "10.0.0.7"
      ip_stored := by decide +kernel
      ip_trimmed := by decide +kernel }]

theorem stage_consistent : ApprovalState.Consistent ⟨stageInventory, stageQueue⟩ :=
  ⟨stageInventory_consistent, uniqueOn_nil _, by decide⟩

end Micboard
