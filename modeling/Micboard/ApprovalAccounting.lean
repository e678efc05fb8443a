import Micboard.ApprovalImport
import Micboard.LibraryRollback

/-! The approval as a program that writes the tables as it goes, group by group, inside one
transaction. It comes to what `approve` says and leaves nothing behind when it raises; and what it
leaves otherwise is accounted for: every selected row is linked to its target, and the counts are
those of the targets. -/

namespace Micboard

open Library Library.Text Library.Hoare Library.Rollback LockedApprovalInventory
  DiscoveryApprovalResolver
  DiscoveryApprovalBatchPolicy DiscoveryApprovalService

/-- A program that reads and writes the approval tables. -/
abbrev ApprovalProgram (α : Type) := ExceptT ApprovalError (StateM ApprovalState) α

namespace DiscoveryApprovalService

def writeGroup {κ : Type} (persistGroup : PersistingState → κ → Except ApprovalError PersistingState)
    (persistence : DiscoveryApprovalPersistence)
    (group : κ) : ApprovalProgram DiscoveryApprovalPersistence :=
  statement fun state => (persistGroup ⟨state.inventory, persistence⟩ group).map fun next =>
    (next.persistence, { state with inventory := next.inventory })

/-- `_persist_targets`, one save for each group. -/
def writeTargets (now : Time) (items : List DiscoveryQueue) (plan : DiscoveryApprovalPlan) :
    ApprovalProgram DiscoveryApprovalPersistence := do
  let chargers ← query fun _ => chargerEntries items plan
  let chassis ← query fun _ => chassisEntries items plan
  let persistence ← (groupBy (fun entry => entry.2.pk) chargers).foldlM
      (writeGroup persistChargerGroup) {
    chargers := fun _ => none
    chassis := fun _ => none
    createdCount := 0
    updatedCount := 0 }
  (groupBy (fun entry => targetKeyOf entry.1 entry.2) chassis).foldlM
    (writeGroup (persistChassisGroup now)) persistence

def approveAtomic (sha256 : String → Nat) (now : Time) (queryset : DiscoveryQueue → Bool)
    (reviewer : Reviewer) : ApprovalProgram DiscoveryApprovalResult := atomic do
  let items ← query fun state => lockItems state.queue queryset
  let _ ← query fun _ => items.mapM fun item =>
    liftApprovalSave (HardwareIPOwnershipService.canonicalIp (some item.ip))
  let plan ← query fun state => DiscoveryApprovalPlan.build sha256 state.inventory items
  let _ ← query fun _ =>
    if reviewer.hasPerms plan.requiredPermissions = false then .error .permissionDenied else .ok ()
  let persistence ← writeTargets now items plan
  let _ ← statement fun state =>
    (markImported now state.queue items persistence reviewer).map fun queue =>
    ((), { state with queue })
  pure {
    importedCount := items.length
    createdCount := persistence.createdCount
    updatedCount := persistence.updatedCount }

/-- `approve`: the permissions are checked before the transaction. -/
def approveProgram (sha256 : String → Nat) (now : Time) (queryset : DiscoveryQueue → Bool)
    (reviewer : Reviewer) : ApprovalProgram DiscoveryApprovalResult := do
  let _ ← query fun state =>
    if reviewer.hasPerms ["micboard.change_discoveryqueue"] = false then .error .permissionDenied
    else preflightTargetPermissions state queryset reviewer
  approveAtomic sha256 now queryset reviewer

end DiscoveryApprovalService

section Program

variable {sha256 : String → Nat} {now : Time} {queryset : DiscoveryQueue → Bool} {reviewer : Reviewer}

/-- The groups come to what their run says, with the queue as it was. -/
theorem outcome_writeGroups {κ : Type}
    (persistGroup : PersistingState → κ → Except ApprovalError PersistingState) (groups : List κ)
    (persistence : DiscoveryApprovalPersistence) (state : ApprovalState) :
    outcome (groups.foldlM (writeGroup persistGroup) persistence) state =
      (groups.foldlM persistGroup ⟨state.inventory, persistence⟩).map fun next =>
        (next.persistence, { state with inventory := next.inventory }) := by
  rw [outcome_foldlM]
  exact foldlM_of_map (g := fun next : PersistingState =>
    (next.persistence, ({ state with inventory := next.inventory } : ApprovalState)))
    (fun next group => outcome_statement _ _) groups ⟨state.inventory, persistence⟩

theorem outcome_writeTargets (items : List DiscoveryQueue) (plan : DiscoveryApprovalPlan)
    (state : ApprovalState) : outcome (writeTargets now items plan) state =
      (persistTargets now state.inventory items plan).map fun next =>
        (next.persistence, { state with inventory := next.inventory }) := by
  rw [writeTargets, persistTargets, outcome_bind]
  refine bind_of_map (outcome_query _ _) fun chargers _ => ?_
  rw [outcome_bind]
  refine bind_of_map (outcome_query _ _) fun chassis _ => ?_
  rw [outcome_bind]
  exact bind_of_map (outcome_writeGroups _ _ _ _) fun next _ => outcome_writeGroups _ _ _ _

/-- **The program comes to what `approve` says.** -/
theorem outcome_approveProgram (state : ApprovalState) :
    outcome (approveProgram sha256 now queryset reviewer) state =
      (approve sha256 now state queryset reviewer).map fun approved => (approved.2, approved.1) := by
  rw [approveProgram, approve, outcome_bind, outcome_query]
  split
  next => rfl
  next =>
  refine bind_of_map rfl fun _ _ => ?_
  rw [approveAtomic, outcome_atomic, outcome_bind]
  refine bind_of_map (outcome_query _ _) fun items _ => ?_
  rw [outcome_bind]
  refine bind_of_map (outcome_query _ _) fun _ _ => ?_
  rw [outcome_bind]
  refine bind_of_map (outcome_query _ _) fun plan _ => ?_
  rw [outcome_bind, outcome_query]
  split
  next => rfl
  next =>
  show outcome (writeTargets now items plan >>= _) state = _
  rw [outcome_bind]
  refine bind_of_map (outcome_writeTargets _ _ _) fun persisted _ => ?_
  rw [outcome_bind]
  refine bind_of_map (outcome_statement _ _) fun queue _ => ?_
  rfl

/-- The approval leaves nothing behind when it raises. -/
theorem restores_approveProgram : Restores (approveProgram sha256 now queryset reviewer) :=
  restores_query_bind _ fun _ => restores_atomic _

end Program

/-! ### What is accounted for -/

/-- An inventory row that a queue row can be linked to. -/
inductive InventoryTarget where
  | charger (pk : Nat)
  | chassis (pk : Nat)
  deriving DecidableEq, Repr

def inventoryLinks (row : DiscoveryQueue) : List InventoryTarget :=
  row.existingChargerId.toList.map .charger ++ row.existingDeviceId.toList.map .chassis

def HoldsTarget (db : Inventory) (manufacturer : Nat) (ip : String) : InventoryTarget → Prop
  | .charger pk => ∃ charger ∈ db.chargers, charger.pk = pk ∧
    charger.manufacturer.map Manufacturer.pk = some manufacturer ∧ charger.ip = some ip
  | .chassis pk => ∃ chassis ∈ db.chassis, chassis.pk = pk ∧ chassis.manufacturer.pk = manufacturer ∧
    chassis.ip = ip

/-- The rows that the selected pending rows have become. -/
def importedRows (state after : ApprovalState)
    (queryset : DiscoveryQueue → Bool) : List DiscoveryQueue :=
  after.queue.filter fun row => state.queue.any fun item =>
    item.pk = row.pk && queryset item && item.status = .pending

/-- How many inventory rows the selected rows are linked to. -/
def distinctTargets (state after : ApprovalState) (queryset : DiscoveryQueue → Bool) : Nat :=
  ((importedRows state after queryset).flatMap inventoryLinks).eraseDups.length

/-- A successful approval is accounted for: the selected rows are imported, each with one target of its
manufacturer and address, the other rows are as they were, and the counts are those of the targets. -/
structure AccountedFor (state after : ApprovalState) (queryset : DiscoveryQueue → Bool)
    (result : DiscoveryApprovalResult) : Prop where
  imported : ∀ item, Selected state queryset item → ∃ row ∈ after.queue, row.pk = item.pk ∧
    row.status = .imported ∧ ∃ target, inventoryLinks row = [target] ∧
      HoldsTarget after.inventory item.manufacturer.pk item.ip target
  unselected : ∀ row, (∀ item, Selected state queryset item → item.pk ≠ row.pk) →
    (row ∈ after.queue ↔ row ∈ state.queue)
  counts : result.createdCount + result.updatedCount = distinctTargets state after queryset

/-- The row has no link of the other kind. -/
def Unmixed (item : DiscoveryQueue) : Prop :=
  (item.isCharger = true → item.existingDeviceId = none) ∧
    (item.isCharger = false → item.existingChargerId = none)

/-- The target of a row's kind. -/
def targetOf (item : DiscoveryQueue) (pk : Nat) : InventoryTarget :=
  if item.isCharger then .charger pk else .chassis pk

/-- An imported row has one link exactly if it had none of the other kind, and then it is its target. -/
theorem inventoryLinks_linkedRow {now : Time} {reviewer : Reviewer} {item : DiscoveryQueue} {pk : Nat} :
    (Unmixed item → inventoryLinks (linkedRow now reviewer item pk) = [targetOf item pk]) ∧
      ∀ target, inventoryLinks (linkedRow now reviewer item pk) = [target] → Unmixed item := by
  cases hrole : item.isCharger with
  | true =>
      rw [linkedRow_charger hrole, inventoryLinks, targetOf, hrole, if_pos rfl]
      refine ⟨fun h => ?_, fun target h => ⟨fun _ => ?_, fun hfalse => ?_⟩⟩
      · simp [h.1 hrole]
      · have hlinks : InventoryTarget.charger pk = target ∧ item.existingDeviceId = none := by
          simpa using h
        exact hlinks.2
      · rw [hrole] at hfalse
        cases hfalse
  | false =>
      rw [linkedRow_chassis hrole, inventoryLinks, targetOf, hrole, if_neg Bool.false_ne_true]
      refine ⟨fun h => ?_, fun target h => ⟨fun htrue => ?_, fun _ => ?_⟩⟩
      · simp [h.2 hrole]
      · rw [hrole] at htrue
        cases htrue
      · cases hlink : item.existingChargerId with
        | none => rfl
        | some charger => simp [hlink] at h

section Accounts

variable {sha256 : String → Nat} {now : Time} {reviewer : Reviewer} {state after : ApprovalState}
  {queryset : DiscoveryQueue → Bool} {result : DiscoveryApprovalResult} {items : List DiscoveryQueue}
  {plan : DiscoveryApprovalPlan} {inventory : LockedApprovalInventory}
  {policy : DiscoveryApprovalBatchPolicy} {chargers : List ChargerEntry} {chassis : List ChassisEntry}
  {start final : PersistingState}
  (h : Approved sha256 now reviewer state after result items plan inventory policy
    chargers chassis start
    final)
include h

/-- The target of a row is held under its manufacturer and address. -/
theorem Approved.holdsTarget {item : DiscoveryQueue} (hitem : item ∈ items) :
    ∃ pk, persistedTarget final.persistence item = some pk ∧
      HoldsTarget after.inventory item.manufacturer.pk item.ip (targetOf item pk) := by
  rw [h.inventory]
  unfold targetOf
  cases hrole : item.isCharger with
  | true =>
      obtain ⟨charger, hentry⟩ := h.batch.mem_chargers.mpr ⟨hitem, hrole⟩
      obtain ⟨row, hrow, htarget, g, -, hmem, houtcome⟩ :=
        persistedTarget_charger h.batch h.chargerGroups h.chassisGroups hentry
      exact ⟨row.pk, htarget, row, hrow, rfl, houtcome.manufacturer _ hmem, houtcome.ip _ hmem⟩
  | false =>
      obtain ⟨target, hentry⟩ := h.batch.mem_chassis.mpr ⟨hitem, hrole⟩
      obtain ⟨row, hrow, htarget, g, -, hmem, houtcome⟩ :=
        persistedTarget_chassis h.batch h.chassisGroups hentry
      exact ⟨row.pk, htarget, row, hrow, rfl, congrArg Prod.fst (houtcome.identity _ hmem),
        houtcome.ip _ hmem⟩

/-- Two chassis rows have one target exactly if they are in one group. -/
theorem Approved.persistedTarget_eq_iff {a b : ChassisEntry} (ha : a ∈ chassis) (hb : b ∈ chassis) :
    persistedTarget final.persistence a.1 = persistedTarget final.persistence b.1 ↔
      entryKey a = entryKey b := by
  obtain ⟨row, hrow, htarget, g, hg, hmem, houtcome⟩ :=
    persistedTarget_chassis h.batch h.chassisGroups ha
  obtain ⟨other, hother, htarget', g', hg', hmem', houtcome'⟩ :=
    persistedTarget_chassis h.batch h.chassisGroups hb
  rw [htarget, htarget', Option.some.injEq]
  constructor
  · intro hpk
    have heq := h.chassisGroups.consistent.pk_unique.eq hrow hother hpk
    apply h.batch.acceptedChassis.key_of_ip ha hb
    rw [← houtcome.ip a hmem, heq, houtcome'.ip b hmem']
  · intro hkey
    obtain ⟨first, -, rfl⟩ := (mem_groupBy entryKey).mp hg
    have hsame : b ∈ (group entryKey chassis (entryKey first)).2 :=
      List.mem_filter.mpr
        ⟨hb, decide_eq_true (hkey.symm.trans (of_decide_eq_true (List.mem_filter.mp hmem).2))⟩
    have hidentity := (houtcome.identity b hsame).trans (houtcome'.identity b hmem').symm
    rw [h.chassisGroups.consistent.api_unique.eq hrow hother hidentity]

variable (hselected : ∀ item, item ∈ items ↔ Selected state queryset item)
include hselected

theorem Approved.mem_importedRows {row : DiscoveryQueue} : row ∈ importedRows state after queryset ↔
    ∃ item ∈ items, ∃ pk, persistedTarget final.persistence item = some pk ∧
      row = linkedRow now reviewer item pk := by
  rw [importedRows, List.mem_filter, h.marked.mem, List.any_eq_true]
  constructor
  · rintro ⟨hlinked | ⟨-, hothers⟩, item, hitem, hkeys⟩
    · exact hlinked
    · simp only [Bool.and_eq_true, decide_eq_true_eq] at hkeys
      exact absurd hkeys.1.1 (hothers item ((hselected item).mpr ⟨hitem, hkeys.1.2, hkeys.2⟩))
  · rintro ⟨item, hitem, pk, htarget, rfl⟩
    obtain ⟨hmem, hquery, hpending⟩ := (hselected item).mp hitem
    exact ⟨.inl ⟨item, hitem, pk, htarget, rfl⟩, item, hmem, by simp [hquery, hpending]⟩

/-- The targets of rows without a link of the other kind are counted once each. -/
theorem Approved.counts (hunmixed : ∀ item ∈ items, Unmixed item) :
    result.createdCount + result.updatedCount = distinctTargets state after queryset := by
  have hcharger : ∀ entry ∈ chargers,
      persistedTarget final.persistence entry.1 = some (chargerKey entry) := by
    intro entry hentry
    obtain ⟨row, -, htarget, g, -, hmem, houtcome⟩ :=
      persistedTarget_charger h.batch h.chargerGroups h.chassisGroups hentry
    rw [htarget, houtcome.pk entry hmem, chargerKey]
  let chargerTargets := chargers.map fun entry => InventoryTarget.charger (chargerKey entry)
  let chassisTargets := chassis.map fun entry =>
    InventoryTarget.chassis ((persistedTarget final.persistence entry.1).getD 0)
  have hmem : ∀ target, target ∈ (importedRows state after queryset).flatMap inventoryLinks ↔
      target ∈ chargerTargets ++ chassisTargets := by
    intro target
    rw [List.mem_flatMap, List.mem_append, List.mem_map, List.mem_map]
    constructor
    · rintro ⟨row, hrow, htarget⟩
      obtain ⟨item, hitem, pk, hpk, rfl⟩ := (h.mem_importedRows hselected).mp hrow
      rw [inventoryLinks_linkedRow.1 (hunmixed item hitem), List.mem_singleton, targetOf] at htarget
      rw [htarget]
      cases hrole : item.isCharger with
      | true =>
          obtain ⟨charger, hentry⟩ := h.batch.mem_chargers.mpr ⟨hitem, hrole⟩
          refine .inl ⟨_, hentry, ?_⟩
          rw [Option.some.inj ((hcharger _ hentry).symm.trans hpk), if_pos rfl]
      | false =>
          obtain ⟨chassisTarget, hentry⟩ := h.batch.mem_chassis.mpr ⟨hitem, hrole⟩
          refine .inr ⟨_, hentry, ?_⟩
          rw [hpk, Option.getD_some, if_neg Bool.false_ne_true]
    · rintro (⟨entry, hentry, rfl⟩ | ⟨entry, hentry, rfl⟩)
      · obtain ⟨hitem, hrole⟩ := h.batch.mem_chargers.mp ⟨entry.2, hentry⟩
        refine ⟨_,
          (h.mem_importedRows hselected).mpr ⟨entry.1, hitem, _, hcharger entry hentry, rfl⟩, ?_⟩
        rw [inventoryLinks_linkedRow.1 (hunmixed _ hitem), targetOf, hrole, if_pos rfl]
        exact List.mem_singleton_self _
      · obtain ⟨hitem, hrole⟩ := h.batch.mem_chassis.mp ⟨entry.2, hentry⟩
        obtain ⟨row, -, htarget, -⟩ := persistedTarget_chassis h.batch h.chassisGroups hentry
        refine ⟨_, (h.mem_importedRows hselected).mpr ⟨entry.1, hitem, _, htarget, rfl⟩, ?_⟩
        rw [inventoryLinks_linkedRow.1 (hunmixed _ hitem), targetOf, hrole, if_neg Bool.false_ne_true,
          htarget]
        exact List.mem_singleton_self _
  have hchargers : chargerTargets.eraseDups.length = (groupBy chargerKey chargers).length := by
    rw [length_groupBy]
    exact length_eraseDups_map fun a _ b _ => by rw [InventoryTarget.charger.injEq]
  have hchassis : chassisTargets.eraseDups.length = (groupBy entryKey chassis).length := by
    rw [length_groupBy]
    refine length_eraseDups_map fun a ha b hb => ?_
    rw [InventoryTarget.chassis.injEq, ← h.persistedTarget_eq_iff ha hb]
    obtain ⟨row, -, htarget, -⟩ := persistedTarget_chassis h.batch h.chassisGroups ha
    obtain ⟨other, -, htarget', -⟩ := persistedTarget_chassis h.batch h.chassisGroups hb
    rw [htarget, htarget', Option.getD_some, Option.getD_some, Option.some.injEq]
  have hdisjoint : ∀ target ∈ chargerTargets, target ∉ chassisTargets := by
    intro target hfirst hsecond
    obtain ⟨a, -, rfl⟩ := List.mem_map.mp hfirst
    obtain ⟨b, -, hb⟩ := List.mem_map.mp hsecond
    cases hb
  calc result.createdCount + result.updatedCount
      = (groupBy chargerKey chargers).length + (groupBy entryKey chassis).length := by
        rw [h.result]
        show final.persistence.createdCount + final.persistence.updatedCount = _
        rw [h.chassisGroups.counts, h.chargerGroups.created, h.chargerGroups.updated, Nat.zero_add]
    _ = (chargerTargets ++ chassisTargets).eraseDups.length := by
        rw [length_eraseDups_append hdisjoint, hchargers, hchassis]
    _ = distinctTargets state after queryset := (length_eraseDups_congr hmem).symm

/-- **A successful approval is accounted for exactly if no selected row had a link of the other
kind.** -/
theorem Approved.accounted_iff (hitems : UniqueOn DiscoveryQueue.pk items) :
    AccountedFor state after queryset result ↔ ∀ item, Selected state queryset item → Unmixed item := by
  constructor
  · intro haccounted item hitem
    obtain ⟨row, hrow, hpk, -, target, hlinks, -⟩ := haccounted.imported item hitem
    rcases (h.marked.mem row).mp hrow with ⟨other, hother, pk, -, rfl⟩ | ⟨-, hothers⟩
    · rw [linkedRow_pk] at hpk
      rw [← hitems.eq hother ((hselected item).mpr hitem) hpk]
      exact inventoryLinks_linkedRow.2 target hlinks
    · exact absurd hpk.symm (hothers item ((hselected item).mpr hitem))
  · intro hunmixed
    refine ⟨fun item hitem => ?_, fun row hnone => ?_,
      h.counts hselected fun item hitem => hunmixed item ((hselected item).mp hitem)⟩
    · have hmem := (hselected item).mpr hitem
      obtain ⟨pk, htarget, hholds⟩ := h.holdsTarget hmem
      exact ⟨linkedRow now reviewer item pk, (h.marked.mem _).mpr (.inl ⟨item, hmem, pk, htarget, rfl⟩),
        linkedRow_pk, linkedRow_status, _, inventoryLinks_linkedRow.1 (hunmixed item hitem), hholds⟩
    · rw [h.marked.mem]
      constructor
      · rintro (⟨item, hitem, pk, -, rfl⟩ | ⟨hrow, -⟩)
        · exact absurd linkedRow_pk.symm (hnone item ((hselected item).mp hitem))
        · exact hrow
      · exact fun hrow => .inr ⟨hrow, fun item hitem => hnone item ((hselected item).mp hitem)⟩

end Accounts

/-- What an approval is to come to: it raises and leaves the tables as they were, or it is accounted
for. -/
def ApprovalKept (state : ApprovalState) (queryset : DiscoveryQueue → Bool) :
    Except ApprovalError DiscoveryApprovalResult × ApprovalState → Prop
  | (.error _, after) => after = state
  | (.ok result, after) => AccountedFor state after queryset result

/-- **An approval is atomic and accounted for, unless it is accepted with a selected row that is
linked to a target of the other kind.** -/
theorem approval_kept_iff {sha256 : String → Nat} {now : Time} {queryset : DiscoveryQueue → Bool}
    {reviewer : Reviewer} {state : ApprovalState} (hstate : state.Consistent) :
    ApprovalKept state queryset (runFrom (approveProgram sha256 now queryset reviewer) state) ↔
      ((approve sha256 now state queryset reviewer).toBool = true →
        ∀ item, Selected state queryset item → Unmixed item) := by
  rw [runFrom_of_outcome restores_approveProgram, outcome_approveProgram]
  cases hok : approve sha256 now state queryset reviewer with
  | error e => exact iff_of_true rfl fun htrue => absurd htrue Bool.false_ne_true
  | ok approved =>
      obtain ⟨after, result⟩ := approved
      obtain ⟨items, plan, inventory, policy, chargers, chassis, start, final, happroved, hitems,
        hselected⟩ := exists_approved hstate hok
      exact (happroved.accounted_iff hselected hitems).trans ⟨fun h _ => h, fun h => h rfl⟩

/-- Three receivers of the queue, for two stored chassis and a new one. -/
theorem approval_kept_iff_stage :
    ApprovalKept ⟨stageInventory, stageQueue⟩ (fun _ => true)
      (runFrom (approveProgram (fun _ => 0) 0 (fun _ => true) fullReviewer)
        ⟨stageInventory, stageQueue⟩) := by
  have hunmixed : ∀ item ∈ stageQueue, item.existingChargerId = none ∧ item.isCharger = false := by
    decide +kernel
  have hselected : ∀ item, Selected ⟨stageInventory, stageQueue⟩ (fun _ => true) item →
      Unmixed item := by
    intro item hitem
    obtain ⟨hcharger, hrole⟩ := hunmixed item hitem.1
    exact ⟨fun htrue => absurd (hrole.symm.trans htrue) Bool.false_ne_true, fun _ => hcharger⟩
  rw [approval_kept_iff stage_consistent]
  exact fun _ => hselected

/-- A charger that has left the address of the receiver in the queue. -/
def movedCharger : Charger where
  pk := 7
  manufacturer := some shure
  serialNumber := "CH-7"
  ip := some "10.0.0.7"
  name := ""
  fqdn := ""
  model := ""
  firmwareVersion := ""
  status := .online
  isActive := true

def movedInventory : Inventory := { chassis := [], chargers := [movedCharger], nextPk := 1 }

/-- A receiver of the queue that was linked to the former charger of its address is linked to both. -/
theorem receiver_linked_twice :
    ¬ ∀ sha256 now queryset reviewer (state : ApprovalState), state.Consistent →
      ApprovalKept state queryset (runFrom (approveProgram sha256 now queryset reviewer) state) := by
  intro hclaim
  let item := pendingReceiver "dev-2" "SN-2" none (some 7)
  have hrun : (approveReceiver movedInventory item).map (fun approved =>
      approved.1.queue.map fun row => (row.pk, (inventoryLinks row).length)) = .ok [(1, 2)] := by
    decide +kernel
  obtain ⟨⟨after, result⟩, hok, hrows⟩ := map_eq_ok.mp hrun
  have hkept := hclaim (fun _ => 0) 0 (fun _ => true) fullReviewer ⟨movedInventory, [item]⟩
    (consistent_singleton (Inventory.consistent_of_chassis_nil rfl) (by decide) item)
  rw [runFrom_of_outcome restores_approveProgram, outcome_approveProgram,
    show approve _ _ _ _ _ = .ok (after, result) from hok] at hkept
  have haccounted : AccountedFor ⟨movedInventory, [item]⟩ after (fun _ => true) result := hkept
  obtain ⟨row, hrow, -, -, target, hlinks, -⟩ :=
    haccounted.imported item ⟨List.mem_singleton_self _, rfl, rfl⟩
  have hlength := List.mem_map_of_mem (f := fun row => (row.pk, (inventoryLinks row).length)) hrow
  rw [show after.queue.map _ = _ from hrows, hlinks, List.mem_singleton] at hlength
  cases congrArg Prod.snd hlength

end Micboard
