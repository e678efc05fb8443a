import Micboard.ApprovalSafety
import Micboard.SerialWrites

/-! Serial numbers under every write path. An approval looks a serial number up among the chassis of
one manufacturer only; so it makes the owner of a serial number ambiguous exactly if it accepts the
serial number of another manufacturer's chassis, or one serial number for two manufacturers. -/

namespace Micboard

open Library Library.Text LockedApprovalInventory DiscoveryApprovalResolver
  DiscoveryApprovalBatchPolicy DiscoveryApprovalService

theorem UniqueSerials.serialsOwned {db : Inventory} (h : UniqueSerials db) : SerialsOwned db :=
  fun a ha b hb _ hserial hne => congrArg Chassis.pk (h a ha b hb hserial hne)

/-- The selected chassis rows name no serial number of another manufacturer. -/
structure SerialsApart (state : ApprovalState) (queryset : DiscoveryQueue → Bool) : Prop where
  stored : ∀ item, Selected state queryset item → item.isCharger = false → text item.serialNumber ≠ "" →
    ∀ chassis ∈ state.inventory.chassis, chassis.serialNumber = text item.serialNumber →
      chassis.manufacturer.pk = item.manufacturer.pk
  selected : ∀ item, Selected state queryset item → item.isCharger = false →
    text item.serialNumber ≠ "" →
    ∀ other, Selected state queryset other → other.isCharger = false →
      text other.serialNumber = text item.serialNumber → other.manufacturer.pk = item.manufacturer.pk

def HoldsSerialFor (db : Inventory) (manufacturer : Nat) (serialNumber : String) : Prop :=
  ∃ row ∈ db.chassis, row.serialNumber = serialNumber ∧ row.manufacturer.pk = manufacturer

section Batch

variable {sha256 : String → Nat} {db : Inventory} {items : List DiscoveryQueue}
  {plan : DiscoveryApprovalPlan} {inventory : LockedApprovalInventory}
  {policy : DiscoveryApprovalBatchPolicy} {chargers : List ChargerEntry} {chassis : List ChassisEntry}
  {start final : PersistingState}
  (hbatch : PlannedBatch sha256 db items plan inventory policy chargers chassis)
  (hchassis : PersistInv db start (groupBy entryKey chassis) final)
include hbatch hchassis

/-- A serial number of the final table is a stored chassis' or a row's of the queue. -/
theorem PlannedBatch.serial_origin {row : Chassis} (hrow : row ∈ final.inventory.chassis)
    (hne : row.serialNumber ≠ "") : HoldsSerialFor db row.manufacturer.pk row.serialNumber ∨
      ∃ entry ∈ chassis, text entry.1.serialNumber = row.serialNumber ∧
        entry.1.manufacturer.pk = row.manufacturer.pk := by
  rcases hbatch.serial_source hchassis hrow hne with hmem |
    ⟨entry, hentry, -, hserial, hidentity, -⟩ | ⟨target, htarget, hserial, howner, -⟩
  · exact .inl ⟨row, hmem, rfl, rfl⟩
  · exact .inr ⟨entry, hentry, hserial.symm, (congrArg Prod.fst hidentity).symm⟩
  · exact .inl ⟨target, htarget, hserial.symm, howner.symm⟩

omit hchassis in
/-- Rows that are given one identity and have a serial number have the same. -/
theorem PlannedBatch.serial_of_identity {a b : ChassisEntry} (ha : a ∈ chassis) (hb : b ∈ chassis)
    (hidentity : entryIdentity a = entryIdentity b) (haNe : text a.1.serialNumber ≠ "")
    (hbNe : text b.1.serialNumber ≠ "") : text a.1.serialNumber = text b.1.serialNumber := by
  have hclaim := ((hbatch.acceptedChassis.accepted a ha).claims.serial haNe).1
  rw [show DiscoveryApprovalBatchPolicy.identityOf a.1 a.2 =
    DiscoveryApprovalBatchPolicy.identityOf b.1 b.2
      from hidentity,
    ((hbatch.acceptedChassis.accepted b hb).claims.serial hbNe).1] at hclaim
  exact (Option.some.inj hclaim).symm

/-- A row's serial number is in the final table. -/
theorem PlannedBatch.holdsSerial_entry {entry : ChassisEntry} (hentry : entry ∈ chassis)
    (hne : text entry.1.serialNumber ≠ "") :
    HoldsSerialFor final.inventory entry.1.manufacturer.pk (text entry.1.serialNumber) := by
  obtain ⟨row, hrow, -, g, hg, hmem, houtcome⟩ := persistedTarget_chassis hbatch hchassis hentry
  refine ⟨row, hrow, ?_, congrArg Prod.fst (houtcome.identity entry hmem)⟩
  rcases houtcome.serial entry hmem with ⟨other, hother, hotherNe, hserial⟩ | ⟨hblank, -⟩
  · obtain ⟨first, -, rfl⟩ := (mem_groupBy entryKey).mp hg
    have hidentity := (houtcome.identity other hother).symm.trans (houtcome.identity entry hmem)
    rw [hserial, hbatch.serial_of_identity (List.mem_filter.mp hother).1 hentry hidentity hotherNe hne]
  · exact absurd (hblank entry hmem) hne

/-- A stored serial number that a row could name is still in the final table. -/
theorem PlannedBatch.holdsSerial_stored (hdb : db.Consistent) {stored : Chassis}
    (hstored : stored ∈ db.chassis) (htrimmed : text stored.serialNumber = stored.serialNumber)
    (hne : stored.serialNumber ≠ "") :
    HoldsSerialFor final.inventory stored.manufacturer.pk stored.serialNumber := by
  by_cases hwritten : ∃ entry ∈ chassis, entry.2.chassis = some stored
  · obtain ⟨entry, hentry, htarget⟩ := hwritten
    obtain ⟨row, hrow, -, g, hg, hmem, houtcome⟩ := persistedTarget_chassis hbatch hchassis hentry
    obtain ⟨-, howner⟩ := hbatch.acceptedChassis.target_mem hentry htarget
    refine ⟨row, hrow, ?_, (congrArg Prod.fst (houtcome.identity entry hmem)).trans howner.symm⟩
    rcases houtcome.serial entry hmem with ⟨other, hother, hotherNe, hserial⟩ | ⟨-, hserial⟩
    · obtain ⟨first, -, rfl⟩ := (mem_groupBy entryKey).mp hg
      obtain ⟨hotherMem, hotherKey⟩ := List.mem_filter.mp hother
      have hkey : entryKey other = entryKey entry :=
        (of_decide_eq_true hotherKey).trans (of_decide_eq_true (List.mem_filter.mp hmem).2).symm
      have hsame := (hbatch.acceptedChassis.of_key hdb.pk_unique hotherMem hentry hkey).1
      have hvalid := (hbatch.acceptedChassis.accepted other hotherMem).resolves.validated stored
        (hsame ▸ htarget)
      rcases (validateMatchedChassis_eq_ok.mp hvalid).2.1 with hblank | hblank | hmatch
      · exact absurd hblank hotherNe
      · exact absurd (htrimmed.symm.trans hblank) hne
      · rw [hserial, hmatch, htrimmed]
    · rw [hserial, htarget]
      rfl
  · refine ⟨stored, hchassis.kept stored hstored fun g hg entry hentry htarget => hwritten ?_, rfl, rfl⟩
    obtain ⟨first, -, rfl⟩ := (mem_groupBy entryKey).mp hg
    exact ⟨entry, (List.mem_filter.mp hentry).1, htarget⟩

end Batch

section Import

variable {sha256 : String → Nat} {now : Time} {reviewer : Reviewer} {state after : ApprovalState}
  {queryset : DiscoveryQueue → Bool} {result : DiscoveryApprovalResult} {items : List DiscoveryQueue}
  {plan : DiscoveryApprovalPlan} {inventory : LockedApprovalInventory}
  {policy : DiscoveryApprovalBatchPolicy} {chargers : List ChargerEntry} {chassis : List ChassisEntry}
  {start final : PersistingState}
  (h : Approved sha256 now reviewer state after result items plan inventory policy
    chargers chassis start
    final)
include h

/-- A successful approval keeps the constraints of the tables. -/
theorem Approved.keeps (hchargers : UniqueOn Charger.pk state.inventory.chargers) :
    after.inventory.Consistent ∧ UniqueOn Charger.pk after.inventory.chargers := by
  rw [h.inventory]
  refine ⟨h.chassisGroups.consistent, ?_⟩
  rw [UniqueOn, h.chassisGroups.chargers, h.chargerGroups.pks]
  exact hchargers

variable (hselected : ∀ item, item ∈ items ↔ Selected state queryset item)
include hselected

theorem Approved.exists_entry {item : DiscoveryQueue} (hitem : Selected state queryset item)
    (hrole : item.isCharger = false) : ∃ entry ∈ chassis, entry.1 = item := by
  obtain ⟨target, hentry⟩ := h.batch.mem_chassis.mpr ⟨(hselected item).mpr hitem, hrole⟩
  exact ⟨(item, target), hentry, rfl⟩

theorem Approved.selected_of_entry {entry : ChassisEntry} (hentry : entry ∈ chassis) :
    Selected state queryset entry.1 ∧ entry.1.isCharger = false := by
  obtain ⟨hitem, hrole⟩ := h.batch.mem_chassis.mp ⟨entry.2, hentry⟩
  exact ⟨(hselected _).mp hitem, hrole⟩

/-- If the owner of every serial number stays single, no selected row names another manufacturer's
one. -/
theorem Approved.serialsApart (hdb : state.inventory.Consistent)
    (hserials : UniqueSerials after.inventory) :
    SerialsApart state queryset := by
  rw [h.inventory] at hserials
  have hsame : ∀ manufacturer manufacturer' serialNumber, serialNumber ≠ "" →
      HoldsSerialFor final.inventory manufacturer serialNumber →
      HoldsSerialFor final.inventory manufacturer' serialNumber → manufacturer = manufacturer' := by
    rintro _ _ _ hne ⟨a, ha, rfl, rfl⟩ ⟨b, hb, hserial, rfl⟩
    rw [hserials a ha b hb hserial.symm hne]
  refine ⟨?_, ?_⟩
  · intro item hitem hrole hne stored hstored hserial
    obtain ⟨entry, hentry, rfl⟩ := h.exists_entry hselected hitem hrole
    have htrimmed : text stored.serialNumber = stored.serialNumber := by
      rw [hserial]
      exact strip_strip entry.1.serialNumber
    have hkept := h.batch.holdsSerial_stored h.chassisGroups hdb hstored htrimmed (by rwa [hserial])
    rw [hserial] at hkept
    exact hsame _ _ _ hne hkept (h.batch.holdsSerial_entry h.chassisGroups hentry hne)
  · intro item hitem hrole hne other hother hotherRole hserial
    obtain ⟨entry, hentry, rfl⟩ := h.exists_entry hselected hitem hrole
    obtain ⟨entry', hentry', rfl⟩ := h.exists_entry hselected hother hotherRole
    have hgiven := h.batch.holdsSerial_entry h.chassisGroups hentry' (by rwa [hserial])
    rw [hserial] at hgiven
    exact hsame _ _ _ hne hgiven (h.batch.holdsSerial_entry h.chassisGroups hentry hne)

/-- If no selected row names another manufacturer's serial number, its holders share a manufacturer. -/
theorem Approved.manufacturer_eq (hserials : UniqueSerials state.inventory)
    (hapart : SerialsApart state queryset) {a b : Chassis} (ha : a ∈ final.inventory.chassis)
    (hb : b ∈ final.inventory.chassis) (hserial : a.serialNumber = b.serialNumber)
    (hne : a.serialNumber ≠ "") :
    a.manufacturer.pk = b.manufacturer.pk := by
  have hstored : ∀ {manufacturer : Nat} {entry : ChassisEntry}, entry ∈ chassis →
      text entry.1.serialNumber = a.serialNumber →
      HoldsSerialFor state.inventory manufacturer a.serialNumber →
      manufacturer = entry.1.manufacturer.pk := by
    rintro _ entry hentry hgiven ⟨stored, hmem, hheld, rfl⟩
    obtain ⟨hitem, hrole⟩ := h.selected_of_entry hselected hentry
    exact hapart.stored _ hitem hrole (by rwa [hgiven]) stored hmem (hheld.trans hgiven.symm)
  have hb' := h.batch.serial_origin h.chassisGroups hb (by rwa [← hserial])
  rw [← hserial] at hb'
  rcases h.batch.serial_origin h.chassisGroups ha hne with haStored | ⟨entry, hentry, haSerial, haOwner⟩
  · rcases hb' with ⟨stored', hmem', hbSerial, hbOwner⟩ | ⟨entry', hentry', hbSerial, hbOwner⟩
    · obtain ⟨stored, hmem, haSerial, haOwner⟩ := haStored
      have hsame :=
        hserials stored hmem stored' hmem' (haSerial.trans hbSerial.symm) (by rwa [haSerial])
      rw [← haOwner, ← hbOwner, hsame]
    · exact (hstored hentry' hbSerial haStored).trans hbOwner
  · rcases hb' with hbStored | ⟨entry', hentry', hbSerial, hbOwner⟩
    · exact haOwner.symm.trans (hstored hentry haSerial hbStored).symm
    · obtain ⟨hitem, hrole⟩ := h.selected_of_entry hselected hentry
      obtain ⟨hitem', hrole'⟩ := h.selected_of_entry hselected hentry'
      have hsame := hapart.selected _ hitem hrole (by rwa [haSerial]) _ hitem' hrole'
        (hbSerial.trans haSerial.symm)
      exact haOwner.symm.trans (hsame.symm.trans hbOwner)

/-- **A successful approval keeps the owner of every serial number single exactly if the selected
rows name no serial number of another manufacturer.** -/
theorem Approved.uniqueSerials_iff (hinv : SerialInv state.inventory) :
    UniqueSerials after.inventory ↔ SerialsApart state queryset := by
  refine ⟨h.serialsApart hselected hinv.consistent, fun hapart => ?_⟩
  rw [h.inventory]
  intro a ha b hb hserial hne
  exact h.chassisGroups.consistent.pk_unique.eq ha hb (h.batch.serial_unique hinv.serials.serialsOwned
    h.chassisGroups ha hb
      (h.manufacturer_eq hselected hinv.serials hapart ha hb hserial hne) hserial hne)

end Import

end Micboard
