import Micboard.ApprovalImport

/-! For which rows an approval writes a stored chassis. A row is entitled to a chassis of its
manufacturer by an API device id or a serial number that both have; a row that is linked to a
chassis without any identity is accepted without one. -/

namespace Micboard

open Library Library.Text LockedApprovalInventory DiscoveryApprovalResolver
  DiscoveryApprovalBatchPolicy DiscoveryApprovalService

def ImportedInto (after : ApprovalState) (item : DiscoveryQueue) (chassis : Chassis) : Prop :=
  item.isCharger = false ∧
    ∃ row ∈ after.queue, row.pk = item.pk ∧ row.existingDeviceId = some chassis.pk

/-- A durable identity of the manufacturer belongs to the row and to the chassis. -/
def EntitledTo (item : DiscoveryQueue) (chassis : Chassis) : Prop :=
  chassis.manufacturer.pk = item.manufacturer.pk ∧ DurableMatch item chassis

/-- The stored chassis are written for rows that are entitled to them, and the other ones are as
they were. -/
structure NoTakeover (state after : ApprovalState) (queryset : DiscoveryQueue → Bool) : Prop where
  entitled : ∀ chassis ∈ state.inventory.chassis, ∀ item, Selected state queryset item →
    ImportedInto after item chassis → EntitledTo item chassis
  modified : ∀ chassis ∈ state.inventory.chassis, chassis ∉ after.inventory.chassis →
    ∃ item, Selected state queryset item ∧ ImportedInto after item chassis
  kept : ∀ chassis ∈ state.inventory.chassis, (∀ item, Selected state queryset item →
    item.isCharger = false → ¬EntitledTo item chassis) → chassis ∈ after.inventory.chassis

/-- A chassis that neither the vendor's API nor a serial number identifies. -/
def Unidentified (chassis : Chassis) : Prop :=
  text chassis.apiDeviceId = "" ∧ text chassis.serialNumber = ""

theorem Unidentified.not_durableMatch {chassis : Chassis} (h : Unidentified chassis)
    (item : DiscoveryQueue) :
    ¬DurableMatch item chassis := by
  rintro (⟨hne, heq⟩ | ⟨hne, heq⟩)
  · exact hne (heq.symm.trans h.1)
  · exact hne (heq.symm.trans h.2)

section Import

variable {sha256 : String → Nat} {now : Time} {reviewer : Reviewer} {state after : ApprovalState}
  {result : DiscoveryApprovalResult} {items : List DiscoveryQueue} {plan : DiscoveryApprovalPlan}
  {inventory : LockedApprovalInventory} {policy : DiscoveryApprovalBatchPolicy}
  {chargers : List ChargerEntry} {chassis : List ChassisEntry} {start final : PersistingState}
  (h : Approved sha256 now reviewer state after result items plan inventory policy
    chargers chassis start
    final) (hdb : state.inventory.Consistent) (hitems : UniqueOn DiscoveryQueue.pk items)
include h hdb hitems

theorem Approved.importedInto_iff {entry : ChassisEntry} (hentry : entry ∈ chassis) {row : Chassis}
    (hrow : row ∈ state.inventory.chassis) :
    ImportedInto after entry.1 row ↔ entry.2.chassis = some row := by
  obtain ⟨hitem, hrole⟩ := h.batch.mem_chassis.mp ⟨entry.2, hentry⟩
  obtain ⟨written, -, htarget, g, hg, hmem, houtcome⟩ :=
    persistedTarget_chassis h.batch h.chassisGroups hentry
  constructor
  · rintro ⟨-, imported, himported, hpk, hlink⟩
    rcases (h.marked.mem imported).mp himported with ⟨other, hother, target, hother',
      rfl⟩ | ⟨-, hothers⟩
    · rw [linkedRow_pk] at hpk
      obtain rfl := hitems.eq hother hitem hpk
      rw [htarget, Option.some.injEq] at hother'
      rw [linkedRow_chassis hrole, Option.some.injEq, ← hother'] at hlink
      cases hchassis : entry.2.chassis with
      | none =>
          have hfresh := houtcome.fresh entry hmem hchassis
          have hlt := hdb.pk_lt row hrow
          omega
      | some found =>
          have hexisting := houtcome.existing entry hmem found hchassis
          rw [hdb.pk_unique.eq (h.batch.acceptedChassis.target_mem hentry hchassis).1 hrow
            (hexisting.symm.trans hlink)]
    · exact absurd hpk.symm (hothers entry.1 hitem)
  · intro hchassis
    refine ⟨hrole, linkedRow now reviewer entry.1 written.pk, ?_, linkedRow_pk, ?_⟩
    · exact (h.marked.mem _).mpr (.inl ⟨entry.1, hitem, _, htarget, rfl⟩)
    · rw [linkedRow_chassis hrole, houtcome.existing entry hmem row hchassis]

/-- A stored chassis that is written is the target of a row. -/
theorem Approved.exists_importedInto {row : Chassis} (hrow : row ∈ state.inventory.chassis)
    (hmodified : row ∉ after.inventory.chassis) : ∃ item ∈ items, ImportedInto after item row := by
  by_contra hnone
  rw [h.inventory] at hmodified
  refine hmodified (h.chassisGroups.kept row hrow fun g hg entry hentry htarget => hnone ?_)
  obtain ⟨first, -, rfl⟩ := (mem_groupBy entryKey).mp hg
  have hmem : entry ∈ chassis := (List.mem_filter.mp hentry).1
  exact ⟨entry.1, (h.batch.mem_chassis.mp ⟨entry.2, hmem⟩).1,
    (h.importedInto_iff hdb hitems hmem hrow).mpr htarget⟩

theorem Approved.entitled_or_linked {item : DiscoveryQueue} (hitem : item ∈ items) {row : Chassis}
    (hrow : row ∈ state.inventory.chassis) (himported : ImportedInto after item row) :
    EntitledTo item row ∨ (item.existingDeviceId = some row.pk ∧ Unidentified row) := by
  obtain ⟨target, hentry⟩ := h.batch.mem_chassis.mpr ⟨hitem, himported.1⟩
  have htarget := (h.importedInto_iff hdb hitems hentry hrow).mp himported
  obtain ⟨hmanufacturer, hcases⟩ :=
    (h.batch.acceptedChassis.accepted _ hentry).resolves.match_cases htarget
  rcases hcases with hdurable | ⟨hlink, hapi, hserial⟩
  · exact .inl ⟨hmanufacturer, hdurable⟩
  · exact .inr ⟨hlink, hapi, hserial⟩

theorem Approved.importedInto_linked {item : DiscoveryQueue} (hitem : item ∈ items)
    (hrole : item.isCharger = false) {row : Chassis} (hrow : row ∈ state.inventory.chassis)
    (hlink : item.existingDeviceId = some row.pk) : ImportedInto after item row := by
  obtain ⟨target, hentry⟩ := h.batch.mem_chassis.mpr ⟨hitem, hrole⟩
  have hlocked : row ∈ inventory.chassis := by
    refine lock_named h.batch.locked hitem hrole hrow ?_
    rw [chassisIdentityFilter, hlink, decide_eq_true rfl, Bool.true_or, Bool.true_or]
  exact (h.importedInto_iff hdb hitems hentry hrow).mpr
    (((h.batch.acceptedChassis.accepted _ hentry).resolves.chassis_iff row).mpr ⟨hlocked, .inl hlink⟩)

end Import

/-- **An accepted approval takes over no chassis exactly if none of the selected chassis rows is
linked to a stored chassis without any identity.** -/
theorem no_takeover_iff {sha256 : String → Nat} {now : Time} {state after : ApprovalState}
    {queryset : DiscoveryQueue → Bool} {reviewer : Reviewer} {result : DiscoveryApprovalResult}
    (hstate : state.Consistent)
    (hok : approve sha256 now state queryset reviewer = .ok (after, result)) :
    NoTakeover state after queryset ↔ ∀ item, Selected state queryset item → item.isCharger = false →
      ∀ chassis ∈ state.inventory.chassis, item.existingDeviceId = some chassis.pk →
        ¬Unidentified chassis := by
  obtain ⟨items, plan, inventory, policy, chargers, chassis, start, final, happroved,
      hitems, hselected⟩ :=
    exists_approved hstate hok
  constructor
  · intro h item hitem hrole row hrow hlink hunidentified
    have himported :=
      happroved.importedInto_linked hstate.inventory hitems ((hselected item).mpr hitem) hrole
      hrow hlink
    exact hunidentified.not_durableMatch item (h.entitled row hrow item hitem himported).2
  · intro h
    have hentitled : ∀ row ∈ state.inventory.chassis, ∀ item, Selected state queryset item →
        ImportedInto after item row → EntitledTo item row := by
      intro row hrow item hitem himported
      rcases happroved.entitled_or_linked hstate.inventory hitems
        ((hselected item).mpr hitem) hrow himported
        with hentitled | ⟨hlink, hunidentified⟩
      · exact hentitled
      · exact absurd hunidentified (h item hitem himported.1 row hrow hlink)
    have hmodified : ∀ row ∈ state.inventory.chassis, row ∉ after.inventory.chassis →
        ∃ item, Selected state queryset item ∧ ImportedInto after item row := by
      intro row hrow hchanged
      obtain ⟨item, hitem, himported⟩ :=
        happroved.exists_importedInto hstate.inventory hitems hrow hchanged
      exact ⟨item, (hselected item).mp hitem, himported⟩
    refine ⟨hentitled, hmodified, fun row hrow hnone => ?_⟩
    by_contra hchanged
    obtain ⟨item, hitem, himported⟩ := hmodified row hrow hchanged
    exact hnone item hitem himported.1 (hentitled row hrow item hitem himported)

/-- Two stored receivers are approved under their serial numbers, and a new one beside them. -/
theorem no_takeover_iff_stage : ∃ after result,
    approve (fun _ => 0) 0 ⟨stageInventory, stageQueue⟩ (fun _ => true) fullReviewer = .ok
      (after, result) ∧
      NoTakeover ⟨stageInventory, stageQueue⟩ after fun _ => true := by
  have hrun : (approve (fun _ => 0) 0 ⟨stageInventory, stageQueue⟩
      (fun _ => true) fullReviewer).toBool = true := by
    decide +kernel
  obtain ⟨⟨after, result⟩, hok⟩ := exists_eq_ok hrun
  refine ⟨after, result, hok, (no_takeover_iff stage_consistent hok).mpr ?_⟩
  intro item _ _ chassis hchassis _ hunidentified
  have hidentified : ∀ chassis ∈ stageInventory.chassis, text chassis.serialNumber ≠ "" := by
    decide +kernel
  exact hidentified chassis hchassis hunidentified.2

/-- A stored receiver without any identity. -/
def unidentifiedReceiver : Chassis := { storedReceiver with apiDeviceId := "", serialNumber := "" }

def unidentifiedInventory : Inventory :=
  { chassis := [unidentifiedReceiver], chargers := [], nextPk := 2 }

/-- The receiver gets the serial number and the address of the row that is linked to it. -/
theorem unidentified_receiver_taken_over :
    ¬ ∀ sha256 now (state after : ApprovalState) queryset reviewer result, state.Consistent →
      approve sha256 now state queryset reviewer = .ok (after, result) →
        NoTakeover state after queryset := by
  intro hclaim
  let item := pendingReceiver "" "SN-9" (some 1) none
  have hrun : (approveReceiver unidentifiedInventory item).map (fun approved =>
      approved.1.inventory.chassis.map fun row => (row.serialNumber, row.ip)) =
      .ok [("SN-9", "10.0.0.9")] := by decide +kernel
  obtain ⟨⟨after, result⟩, hok, hrows⟩ := map_eq_ok.mp hrun
  have hconsistent : unidentifiedInventory.Consistent :=
    ⟨by decide, by decide, by decide, by decide, by decide⟩
  have hkept := (hclaim _ _ _ _ _ _ _ (consistent_singleton hconsistent (uniqueOn_nil _) item) hok).kept
    unidentifiedReceiver (List.mem_singleton_self _) (by
      intro other _ _ hentitled
      have hunidentified : Unidentified unidentifiedReceiver := by
        rw [Unidentified]
        decide +kernel
      exact hunidentified.not_durableMatch other hentitled.2)
  have hold := List.mem_map_of_mem (f := fun row : Chassis => (row.serialNumber, row.ip)) hkept
  rw [show after.inventory.chassis.map _ = _ from hrows] at hold
  exact absurd hold (by decide)

end Micboard
