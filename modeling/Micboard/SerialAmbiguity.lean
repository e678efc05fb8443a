import Micboard.SerialOwnership

/-! Runs over every operation that writes chassis: syncs, imports and approvals, in any order. An
operation that raises leaves the tables as they were. The lookup of a serial number stays
unambiguous throughout a run exactly as long as no approval accepts a serial number of another
manufacturer. -/

namespace Micboard

open Library Library.Text LockedApprovalInventory DiscoveryApprovalService

/-- An operation that writes chassis, with everything it is called with. -/
inductive InventoryWrite where
  | sync (now : Time) (payloads : List NormalizedHardware) (manufacturer : Manufacturer) (force : Bool)
  | importDevice (tenancy : Tenancy) (now : Time) (device : JsonObject) (manufacturer : Manufacturer)
      (location : Option Nat) (dryRun : Bool)
  | approve (now : Time) (queue : List DiscoveryQueue) (unique : UniqueOn DiscoveryQueue.pk queue)
      (queryset : DiscoveryQueue → Bool) (reviewer : Reviewer)

section Runs

variable (sha256 : String → Nat)

def InventoryWrite.run (tables : HardwareTables) : InventoryWrite → HardwareTables
  | sync now payloads manufacturer force =>
    match persistNormalizedDevices now tables.inventory payloads manufacturer force with
    | .ok (inventory, _) => { tables with inventory }
    | .error _ => tables
  | importDevice tenancy now device manufacturer location dryRun =>
    match ImportService.importDevice tenancy now tables device manufacturer location dryRun with
    | .ok (tables, _) => tables
    | .error _ => tables
  | approve now queue _ queryset reviewer =>
    match DiscoveryApprovalService.approve sha256 now ⟨tables.inventory, queue⟩ queryset reviewer with
    | .ok (after, _) => { tables with inventory := after.inventory }
    | .error _ => tables

/-- The operation is no approval of another manufacturer's serial number. -/
def InventoryWrite.KeepsSerials (tables : HardwareTables) : InventoryWrite → Prop
  | sync _ _ _ _ => True
  | importDevice _ _ _ _ _ _ => True
  | approve now queue _ queryset reviewer =>
    (DiscoveryApprovalService.approve sha256 now
      ⟨tables.inventory, queue⟩ queryset reviewer).toBool = true →
      SerialsApart ⟨tables.inventory, queue⟩ queryset

/-- Every serial number has one owner; so no query for one is ambiguous, and none at any step of any
sync. -/
structure SerialsUnambiguous (db : Inventory) : Prop where
  unique : UniqueSerials db
  query : ∀ serialNumber, ∃ found, resolveSerialIdentity db serialNumber none = .ok found
  sync : ∀ now payloads manufacturer index seen payload rest run,
    DeviceIdentityIndex.build db payloads manufacturer = .ok index →
      payloads = seen ++ payload :: rest →
    seen.foldlM (syncStep now manufacturer) (.start db index) = .ok run →
    ∃ found, resolveSerialIdentity run.inventory payload.serial run.identityIndex = .ok found

theorem SerialInv.serialsUnambiguous {db : Inventory} (h : SerialInv db) : SerialsUnambiguous db where
  unique := h.serials
  query := h.unambiguous
  sync _ _ _ _ _ _ _ _ hbuild hsplit hrun := h.serial_resolved hbuild hsplit hrun

variable {sha256} {tables : HardwareTables}

/-- What one operation does to the owners of serial numbers. -/
theorem InventoryWrite.run_serialInv (h : SerialInv tables.inventory) (op : InventoryWrite) :
    (UniqueSerials (op.run sha256 tables).inventory → SerialInv (op.run sha256 tables).inventory) ∧
      (UniqueSerials (op.run sha256 tables).inventory ↔ op.KeepsSerials sha256 tables) := by
  have hkept : ∀ {db : Inventory}, SerialInv db →
      (UniqueSerials db → SerialInv db) ∧ (UniqueSerials db ↔ True) := fun h =>
    ⟨fun _ => h, iff_of_true h.serials trivial⟩
  cases op with
  | sync now payloads manufacturer force =>
      simp only [run]
      split
      next inventory counts hok => exact hkept (h.synced hok)
      next => exact hkept h
  | importDevice tenancy now device manufacturer location dryRun =>
      simp only [run]
      split
      next tables' outcome hok => exact hkept (h.imported hok)
      next => exact hkept h
  | approve now queue unique queryset reviewer =>
      simp only [run, KeepsSerials]
      cases hok : DiscoveryApprovalService.approve sha256 now
        ⟨tables.inventory, queue⟩ queryset reviewer with
      | error e =>
          exact ⟨fun _ => h, iff_of_true h.serials fun htrue => absurd htrue Bool.false_ne_true⟩
      | ok approved =>
          obtain ⟨after, result⟩ := approved
          obtain ⟨items, plan, inventory, policy, chargers, chassis, start, final, happroved, hitems,
            hselected⟩ := exists_approved ⟨h.consistent, h.chargers, unique⟩ hok
          obtain ⟨hconsistent, hchargers⟩ := happroved.keeps h.chargers
          refine ⟨fun hserials => ⟨hconsistent, hchargers, hserials⟩, ?_⟩
          exact (happroved.uniqueSerials_iff hselected h).trans
            ⟨fun hapart _ => hapart, fun hapart => hapart rfl⟩

/-- **The lookup of a serial number is unambiguous throughout a run from an empty chassis table
exactly if no approval of the run accepts a serial number of another manufacturer.** -/
theorem serials_unambiguous_iff {start : HardwareTables} {ops : List InventoryWrite}
    (hempty : start.inventory.chassis = []) (hchargers : UniqueOn Charger.pk start.inventory.chargers) :
    (∀ seen rest, ops = seen ++ rest →
        SerialsUnambiguous (seen.foldl (InventoryWrite.run sha256) start).inventory) ↔
      ∀ seen op rest, ops = seen ++ op :: rest →
        op.KeepsSerials sha256 (seen.foldl (InventoryWrite.run sha256) start) := by
  have hstart : SerialInv start.inventory := .of_chassis_nil hempty hchargers
  have hstep : ∀ (tables : HardwareTables) (op : InventoryWrite), SerialInv tables.inventory →
      (SerialInv (op.run sha256 tables).inventory ↔ op.KeepsSerials sha256 tables) := by
    intro tables op h
    obtain ⟨hkeeps, hiff⟩ := op.run_serialInv h
    exact ⟨fun hinv => hiff.mp hinv.serials, fun hallowed => hkeeps (hiff.mpr hallowed)⟩
  refine Iff.trans ?_ (foldl_always_iff hstep hstart)
  constructor
  · intro hunambiguous seen
    induction seen using List.reverseRecOn with
    | nil => exact fun _ _ => hstart
    | append_singleton seen op ih =>
        intro rest hsplit
        have hserials := (hunambiguous _ _ hsplit).unique
        have hbefore := ih (op :: rest) (by rw [hsplit, List.append_assoc, List.singleton_append])
        rw [List.foldl_append] at hserials ⊢
        exact (op.run_serialInv hbefore).1 hserials
  · exact fun hinv seen rest hsplit => (hinv seen rest hsplit).serialsUnambiguous

end Runs

def noTables : HardwareTables := { inventory := Inventory.empty, location := fun _ => none }

def approvalOf (item : DiscoveryQueue) : InventoryWrite :=
  .approve 0 [item] (List.nodup_singleton _) (fun _ => true) fullReviewer

/-- A receiver of another manufacturer. -/
def foreignReceiver (serialNumber : String) : DiscoveryQueue :=
  { pendingReceiver "dev-2" serialNumber none none with
    manufacturer := ⟨2, "sennheiser", true⟩
    ip := "10.0.0.6"
    ip_stored := by decide +kernel
    ip_trimmed := by decide +kernel }

/-- The approval of one row keeps the serial numbers apart if the table has none of them. -/
theorem keepsSerials_approvalOf {tables : HardwareTables} {item : DiscoveryQueue}
    (h : ∀ chassis ∈ tables.inventory.chassis, chassis.serialNumber ≠ text item.serialNumber) :
    (approvalOf item).KeepsSerials (fun _ => 0) tables := by
  intro _
  refine ⟨fun other hother _ _ chassis hchassis hserial => ?_,
    fun other hother _ _ third hthird _ _ => ?_⟩
  · rw [selected_singleton hother] at hserial
    exact absurd hserial (h chassis hchassis)
  · rw [selected_singleton hother, selected_singleton hthird]

/-- Receivers of two manufacturers are approved one after the other into an empty table. -/
theorem serials_unambiguous_iff_receivers :
    (([approvalOf (pendingReceiver "dev-1" "SN-1" none none), approvalOf (foreignReceiver "SN-2")].foldl
        (InventoryWrite.run fun _ => 0) noTables).inventory.chassis.map (·.serialNumber)) =
          ["SN-1", "SN-2"] ∧
      ∀ seen rest,
        [approvalOf (pendingReceiver "dev-1" "SN-1" none none),
          approvalOf (foreignReceiver "SN-2")] = seen ++ rest →
        SerialsUnambiguous (seen.foldl (InventoryWrite.run fun _ => 0) noTables).inventory := by
  refine ⟨by decide +kernel, (serials_unambiguous_iff rfl (uniqueOn_nil _)).mpr ?_⟩
  refine forall_split_cons ?_ (forall_split_cons ?_ forall_split_nil)
  · exact keepsSerials_approvalOf (by decide +kernel)
  · exact keepsSerials_approvalOf (by decide +kernel)

/-- Both receivers are approved, and no device with their serial number can be checked any more. -/
theorem serial_of_two_manufacturers :
    ¬ ∀ sha256 (start : HardwareTables) (ops : List InventoryWrite), start.inventory.chassis = [] →
      UniqueOn Charger.pk start.inventory.chargers → ∀ seen rest, ops = seen ++ rest →
        SerialsUnambiguous (seen.foldl (InventoryWrite.run sha256) start).inventory := by
  intro hclaim
  let ops :=
    [approvalOf (pendingReceiver "dev-1" "SN-1" none none), approvalOf (foreignReceiver "SN-1")]
  obtain ⟨found, hfound⟩ := (hclaim (fun _ => 0) noTables ops rfl (uniqueOn_nil _) ops []
    (List.append_nil ops).symm).query (some "SN-1")
  have hambiguous : resolveSerialIdentity (ops.foldl (InventoryWrite.run fun _ => 0) noTables).inventory
      (some "SN-1") none = .error .multipleObjectsReturned := by
    decide +kernel
  cases hambiguous.symm.trans hfound

end Micboard
