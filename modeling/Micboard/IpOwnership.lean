import Mathlib.Data.List.Dedup
import Mathlib.Data.List.Sort
import Micboard.LibrarySha256
import Micboard.LibraryTransaction
import Micboard.ChassisLifecycle

/-! Ownership of an address across the two hardware tables under concurrent saves. A save takes the
advisory lock of the canonical form of its address, reads the other table and writes its row; the lock
is held until the transaction of the save commits. A transaction may make any number of saves. -/

namespace Micboard

open Library Library.Address Library.Sha256 Library.Transaction

/-- The charger columns that `update_fields` can name. -/
inductive ChargerColumn where
  | manufacturer | serialNumber | ip | name | fqdn | model | firmwareVersion | status | isActive
  deriving DecidableEq, Repr

def ChargerColumn.all : List ChargerColumn :=
  [.manufacturer, .serialNumber, .ip, .name, .fqdn, .model, .firmwareVersion, .status, .isActive]

/-- The columns of an `UPDATE` or `INSERT` of a charger. -/
def Charger.writeTo (fields : List ChargerColumn) (charger row : Charger) : Charger where
  pk := row.pk
  manufacturer := if .manufacturer ∈ fields then charger.manufacturer else row.manufacturer
  serialNumber := if .serialNumber ∈ fields then charger.serialNumber else row.serialNumber
  ip := if .ip ∈ fields then getDbPrepValue charger.ip else row.ip
  name := if .name ∈ fields then charger.name else row.name
  fqdn := if .fqdn ∈ fields then charger.fqdn else row.fqdn
  model := if .model ∈ fields then charger.model else row.model
  firmwareVersion :=
    if .firmwareVersion ∈ fields then charger.firmwareVersion else row.firmwareVersion
  status := if .status ∈ fields then charger.status else row.status
  isActive := if .isActive ∈ fields then charger.isActive else row.isActive

namespace HardwareIPOwnershipService

/-- Derive a stable signed PostgreSQL advisory-lock key. -/
def advisoryLockKey (ip : String) : Int :=
  let value := ofBigEndian ((sha256 (encode ("micboard:hardware-ip:" ++ ip))).take 8)
  if value < 2 ^ 63 then value else value - 2 ^ 64

/-- Lock unique canonical addresses in one deterministic order. -/
def lockAddresses (values : List (Option String)) (next : Program Inventory Int) :
    Program Inventory Int :=
  match values.mapM canonicalIp with
  | .error _ => .rollback
  | .ok addresses => (addresses.reduceOption.dedup.insertionSort (· ≤ ·)).foldr
      (fun address next => .lock (advisoryLockKey address) next) next

/-- Lock an address and reject it when the other kind of hardware owns it: `validate_for_instance`. -/
def lockAndValidate (ip : Option String) (conflicts : Inventory → String → Bool)
    (next : Program Inventory Int) : Program Inventory Int :=
  match canonicalIp ip with
  | .error _ => .rollback
  | .ok none => next
  | .ok (some address) => .lock (advisoryLockKey address) <| .read fun db =>
      if conflicts db (getPrepValue address) then .rollback else next

end HardwareIPOwnershipService

def chargerConflict (db : Inventory) (ip : String) : Bool :=
  db.chargers.any fun charger => charger.ip = some ip

def chassisConflict (db : Inventory) (ip : String) : Bool :=
  db.chassis.any fun chassis => chassis.ip = ip

section Rows

variable {α : Type} (pk : α → Nat) (address : α → Option String)

def RowPresent (rows : List α) (key : Nat) : Prop := ∃ row ∈ rows, pk row = key

def RowHolds (rows : List α) (key : Nat) (ip : String) : Prop :=
  ∃ row ∈ rows, pk row = key ∧ address row = some ip

/-- The table after an `UPDATE` of the row with a key. -/
def updateRows (key : Nat) (update : α → α) (rows : List α) : List α :=
  rows.map fun row => if pk row = key then update row else row

/-- The table after an `INSERT` of a row whose key the sequence issued for it. -/
def insertRows (row : α) (rows : List α) : List α :=
  rows.filter (fun other => pk other ≠ pk row) ++ [row]

variable {pk address} {rows : List α} {key : Nat} {update : α → α}

theorem mem_updateRows {row : α} : row ∈ updateRows pk key update rows ↔
    ∃ old ∈ rows, (if pk old = key then update old else old) = row := List.mem_map

theorem pk_update (hpk : ∀ row, pk (update row) = pk row) (old : α) :
    pk (if pk old = key then update old else old) = pk old := by
  split
  next => exact hpk old
  next => rfl

theorem rowPresent_updateRows (hpk : ∀ row, pk (update row) = pk row) {other : Nat} :
    RowPresent pk (updateRows pk key update rows) other ↔ RowPresent pk rows other := by
  constructor
  · rintro ⟨row, hrow, rfl⟩
    obtain ⟨old, hold, rfl⟩ := mem_updateRows.mp hrow
    exact ⟨old, hold, (pk_update hpk old).symm⟩
  · rintro ⟨old, hold, rfl⟩
    exact ⟨_, mem_updateRows.mpr ⟨old, hold, rfl⟩, pk_update hpk old⟩

theorem rowHolds_updateRows (hpk : ∀ row, pk (update row) = pk row) {given : Option String}
    (hgiven : ∀ row, address (update row) = given) (hpresent : RowPresent pk rows key) {ip : String} :
    RowHolds pk address (updateRows pk key update rows) key ip ↔ given = some ip := by
  constructor
  · rintro ⟨row, hrow, hkey, hip⟩
    obtain ⟨old, -, rfl⟩ := mem_updateRows.mp hrow
    rw [pk_update hpk] at hkey
    rw [if_pos hkey, hgiven] at hip
    exact hip
  · rintro rfl
    obtain ⟨old, hold, hkey⟩ := hpresent
    refine ⟨_, mem_updateRows.mpr ⟨old, hold, rfl⟩, (pk_update hpk old).trans hkey, ?_⟩
    rw [if_pos hkey, hgiven]

/-- A row whose address the update leaves alone keeps it. -/
theorem rowHolds_updateRows_of_eq (hpk : ∀ row, pk (update row) = pk row) {other : Nat}
    (hkept : other = key → ∀ row, address (update row) = address row) {ip : String} :
    RowHolds pk address (updateRows pk key update rows) other ip ↔
      RowHolds pk address rows other ip := by
  have hsame : ∀ old, pk old = other →
      address (if pk old = key then update old else old) = address old := by
    intro old hold
    split
    next hkey => exact hkept (hold.symm.trans hkey) old
    next => rfl
  constructor
  · rintro ⟨row, hrow, hkey, hip⟩
    obtain ⟨old, hold, rfl⟩ := mem_updateRows.mp hrow
    rw [pk_update hpk] at hkey
    exact ⟨old, hold, hkey, (hsame old hkey).symm.trans hip⟩
  · rintro ⟨old, hold, hkey, hip⟩
    exact ⟨_, mem_updateRows.mpr ⟨old, hold, rfl⟩, (pk_update hpk old).trans hkey,
      (hsame old hkey).trans hip⟩

theorem mem_insertRows {row other : α} : other ∈ insertRows pk row rows ↔
    other ∈ rows ∧ pk other ≠ pk row ∨ other = row := by
  simp [insertRows]

theorem rowPresent_insertRows {row : α} {other : Nat} :
    RowPresent pk (insertRows pk row rows) other ↔ RowPresent pk rows other ∨ other = pk row := by
  constructor
  · rintro ⟨found, hfound, rfl⟩
    rcases mem_insertRows.mp hfound with ⟨hfound, -⟩ | rfl
    · exact .inl ⟨found, hfound, rfl⟩
    · exact .inr rfl
  · by_cases heq : other = pk row
    · exact fun _ => ⟨row, mem_insertRows.mpr (.inr rfl), heq.symm⟩
    · rintro (⟨found, hfound, rfl⟩ | hsame)
      · exact ⟨found, mem_insertRows.mpr (.inl ⟨hfound, heq⟩), rfl⟩
      · exact absurd hsame heq

theorem rowHolds_insertRows {row : α} {ip : String} :
    RowHolds pk address (insertRows pk row rows) (pk row) ip ↔ address row = some ip := by
  constructor
  · rintro ⟨found, hfound, hkey, hip⟩
    rcases mem_insertRows.mp hfound with ⟨-, hne⟩ | rfl
    · exact absurd hkey hne
    · exact hip
  · exact fun hip => ⟨row, mem_insertRows.mpr (.inr rfl), rfl, hip⟩

theorem rowHolds_insertRows_of_ne {row : α} {other : Nat} (hne : other ≠ pk row) {ip : String} :
    RowHolds pk address (insertRows pk row rows) other ip ↔ RowHolds pk address rows other ip := by
  constructor
  · rintro ⟨found, hfound, hkey, hip⟩
    rcases mem_insertRows.mp hfound with ⟨hfound, -⟩ | rfl
    · exact ⟨found, hfound, hkey, hip⟩
    · exact absurd hkey.symm hne
  · rintro ⟨found, hfound, hkey, hip⟩
    exact ⟨found, mem_insertRows.mpr (.inl ⟨hfound, hkey ▸ hne⟩), hkey, hip⟩

end Rows

def insertChassis (chassis : Chassis) (db : Inventory) : Inventory :=
  { db with chassis := insertRows Chassis.pk chassis.stored db.chassis }

def updateChassis (fields : List Column) (chassis : Chassis) (db : Inventory) : Inventory :=
  { db with chassis := updateRows Chassis.pk chassis.pk (chassis.writeTo fields) db.chassis }

def insertCharger (charger : Charger) (db : Inventory) : Inventory :=
  { db with
    chargers := insertRows Charger.pk (charger.writeTo ChargerColumn.all charger) db.chargers }

def updateCharger (fields : List ChargerColumn) (charger : Charger) (db : Inventory) : Inventory :=
  { db with chargers := updateRows Charger.pk charger.pk (charger.writeTo fields) db.chargers }

/-- One `save()`. An instance that is being added has the key its row will get. -/
inductive HardwareSave where
  | saveChassis (now : Time) (adding : Bool) (chassis : Chassis) (updateFields : Option (List Column))
  | saveCharger (adding : Bool) (charger : Charger) (updateFields : Option (List ChargerColumn))

open HardwareIPOwnershipService

/-- The `UPDATE` of a chassis, with the one of the derived columns a partial save has left out. -/
def writeChassis (chassis : Chassis) (updateFields : Option (List Column)) (derived : List Column)
    (next : Program Inventory Int) : Program Inventory Int :=
  let omitted := (updateFields.map fun fields => derived.filter (· ∉ fields)).getD []
  .write (updateChassis (updateFields.getD Column.all) chassis) <|
    if omitted = [] then next else .write (updateChassis omitted chassis) next

/-- `WirelessChassis.save`. -/
def chassisProgram (now : Time) (adding : Bool) (chassis : Chassis)
    (updateFields : Option (List Column)) (next : Program Inventory Int) : Program Inventory Int :=
  if updateFields = some [] then next
  else lockAndValidate (some chassis.ip) chargerConflict <| .read fun db =>
    match prepareLifecycleFields now db adding chassis with
    | .error _ => .rollback
    | .ok (chassis, _, derived) =>
      -- an empty address is stored as `NULL`, which the column refuses
      if .ip ∈ updateFields.getD Column.all ∧ chassis.ip = "" then .rollback
      else if adding then
        if updateFields = none then .write (insertChassis chassis) next else .rollback
      else writeChassis chassis updateFields derived next

/-- `Charger.save`. A full save inserts the row if there is none, a partial one fails. -/
def chargerProgram (adding : Bool) (charger : Charger) (updateFields : Option (List ChargerColumn))
    (next : Program Inventory Int) : Program Inventory Int :=
  if updateFields = some [] then next
  else lockAndValidate charger.ip chassisConflict <| .read fun db =>
    if !adding && db.chargers.any fun row => row.pk = charger.pk then
      .write (updateCharger (updateFields.getD ChargerColumn.all) charger) next
    else if updateFields = none then .write (insertCharger charger) next
    else .rollback

def HardwareSave.program : HardwareSave → Program Inventory Int → Program Inventory Int
  | .saveChassis now adding chassis updateFields => chassisProgram now adding chassis updateFields
  | .saveCharger adding charger updateFields => chargerProgram adding charger updateFields

/-- A transaction: the addresses it locks beforehand and its saves. -/
structure HardwareTransaction where
  lockFirst : List (Option String)
  saves : List HardwareSave

def HardwareTransaction.program (call : HardwareTransaction) : Program Inventory Int :=
  lockAddresses call.lockFirst (call.saves.foldr HardwareSave.program .commit)

/-- The address that a save writes, as the instance has it. -/
def HardwareSave.given : HardwareSave → Option String
  | .saveChassis _ _ chassis updateFields =>
    if .ip ∈ updateFields.getD Column.all then some chassis.ip else none
  | .saveCharger _ charger updateFields =>
    if .ip ∈ updateFields.getD ChargerColumn.all then charger.ip else none

/-- The address that the save writes names no IPv6 scope. -/
def HardwareSave.ScopeFree (save : HardwareSave) : Prop :=
  ∀ ip ∈ save.given, '%' ∉ ip.toList

instance (save : HardwareSave) : Decidable save.ScopeFree :=
  inferInstanceAs (Decidable (∀ ip ∈ save.given, '%' ∉ ip.toList))

/-- A row of one of the two tables. -/
inductive HardwareOwner where
  | chassis (pk : Nat)
  | charger (pk : Nat)
  deriving DecidableEq

/-- The owners of the two kinds. -/
def HardwareOwner.Opposes : HardwareOwner → HardwareOwner → Prop
  | .chassis _, .charger _ | .charger _, .chassis _ => True
  | _, _ => False

theorem HardwareOwner.Opposes.ne {owner other : HardwareOwner} (h : owner.Opposes other) :
    owner ≠ other := by
  rintro rfl
  cases owner <;> exact h

theorem HardwareOwner.Opposes.symm {owner other : HardwareOwner} (h : owner.Opposes other) :
    other.Opposes owner := by
  cases owner <;> cases other <;> exact h

namespace Inventory

def Present (db : Inventory) : HardwareOwner → Prop
  | .chassis pk => RowPresent Chassis.pk db.chassis pk
  | .charger pk => RowPresent Charger.pk db.chargers pk

def Holds (db : Inventory) : HardwareOwner → String → Prop
  | .chassis pk, ip => RowHolds Chassis.pk (fun chassis => some chassis.ip) db.chassis pk ip
  | .charger pk, ip => RowHolds Charger.pk Charger.ip db.chargers pk ip

/-- Every address is stored as it was, and no two rows of different kinds hold one. -/
structure Apart (db : Inventory) : Prop where
  stored : ∀ owner ip, db.Holds owner ip → StoredAddress ip
  apart : ∀ owner other ip, owner.Opposes other → db.Holds owner ip → ¬ db.Holds other ip

end Inventory

/-! ### What the statements assign -/

/-- Whether an owner holds an address, given what was assigned to it and whether it held it before. -/
def HeldBy (given : Option (Option String)) (before : Prop) (ip : String) : Prop :=
  match given with
  | some address => address = some ip
  | none => before

/-- A statement that assigns an address, no address or nothing new to one row, which it may create. -/
structure Assigns (write : Inventory → Inventory) (owner : HardwareOwner)
    (given : Option (Option String)) (creates : Bool) : Prop where
  holds : ∀ s, s.Present owner ∨ creates = true → ∀ ip,
    (write s).Holds owner ip ↔ HeldBy given (s.Holds owner ip) ip
  others : ∀ s other ip, other ≠ owner → ((write s).Holds other ip ↔ s.Holds other ip)
  present : ∀ s other, (write s).Present other ↔
    s.Present other ∨ creates = true ∧ other = owner

theorem assigns_updateChassis (fields : List Column) (chassis : Chassis) :
    Assigns (updateChassis fields chassis) (.chassis chassis.pk)
      (if .ip ∈ fields then some (some (getPrepValue chassis.ip)) else none) false := by
  have hpk : ∀ row, (chassis.writeTo fields row).pk = row.pk := fun _ => rfl
  constructor
  case holds =>
    intro s hpresent ip
    by_cases hfield : .ip ∈ fields
    · rw [if_pos hfield]
      refine rowHolds_updateRows hpk (fun row => ?_) (hpresent.resolve_right Bool.false_ne_true)
      rw [writeTo_ip, if_pos hfield]
    · rw [if_neg hfield]
      refine rowHolds_updateRows_of_eq hpk fun _ row => ?_
      rw [writeTo_ip, if_neg hfield]
  case others =>
    intro s other ip hother
    cases other with
    | charger pk => exact .rfl
    | chassis pk => exact rowHolds_updateRows_of_eq hpk fun heq => absurd (heq ▸ rfl) hother
  case present =>
    intro s other
    rw [or_iff_left fun h => Bool.false_ne_true h.1]
    cases other with
    | charger pk => exact .rfl
    | chassis pk => exact rowPresent_updateRows hpk

theorem assigns_updateCharger (fields : List ChargerColumn) (charger : Charger) :
    Assigns (updateCharger fields charger) (.charger charger.pk)
      (if .ip ∈ fields then some (getDbPrepValue charger.ip) else none) false := by
  have hpk : ∀ row, (charger.writeTo fields row).pk = row.pk := fun _ => rfl
  have hip : ∀ row, (charger.writeTo fields row).ip =
      if .ip ∈ fields then getDbPrepValue charger.ip else row.ip := fun _ => rfl
  constructor
  case holds =>
    intro s hpresent ip
    by_cases hfield : .ip ∈ fields
    · rw [if_pos hfield]
      refine rowHolds_updateRows hpk (fun row => ?_) (hpresent.resolve_right Bool.false_ne_true)
      rw [hip, if_pos hfield]
    · rw [if_neg hfield]
      refine rowHolds_updateRows_of_eq hpk fun _ row => ?_
      rw [hip, if_neg hfield]
  case others =>
    intro s other ip hother
    cases other with
    | chassis pk => exact .rfl
    | charger pk => exact rowHolds_updateRows_of_eq hpk fun heq => absurd (heq ▸ rfl) hother
  case present =>
    intro s other
    rw [or_iff_left fun h => Bool.false_ne_true h.1]
    cases other with
    | chassis pk => exact .rfl
    | charger pk => exact rowPresent_updateRows hpk

theorem assigns_insertChassis (chassis : Chassis) :
    Assigns (insertChassis chassis) (.chassis chassis.pk) (some (some (getPrepValue chassis.ip)))
      true := by
  have hip : chassis.stored.ip = getPrepValue chassis.ip := by
    rw [Chassis.stored, writeTo_ip, if_pos (Column.mem_all _)]
  constructor
  case holds =>
    intro s _ ip
    rw [← hip]
    exact rowHolds_insertRows
  case others =>
    intro s other ip hother
    cases other with
    | charger pk => exact .rfl
    | chassis pk =>
        have hne : pk ≠ chassis.stored.pk := fun heq => hother (congrArg HardwareOwner.chassis heq)
        exact rowHolds_insertRows_of_ne hne
  case present =>
    intro s other
    cases other with
    | charger pk => exact (or_iff_left fun h => by cases h.2).symm
    | chassis pk =>
        refine rowPresent_insertRows.trans (or_congr_right ?_)
        exact ⟨fun heq => ⟨rfl, heq ▸ rfl⟩, fun h => by cases h.2; rfl⟩

theorem assigns_insertCharger (charger : Charger) :
    Assigns (insertCharger charger) (.charger charger.pk) (some (getDbPrepValue charger.ip)) true := by
  constructor
  case holds =>
    intro s _ ip
    exact rowHolds_insertRows
  case others =>
    intro s other ip hother
    cases other with
    | chassis pk => exact .rfl
    | charger pk =>
        have hne : pk ≠ (charger.writeTo ChargerColumn.all charger).pk := fun heq =>
          hother (congrArg HardwareOwner.charger heq)
        exact rowHolds_insertRows_of_ne hne
  case present =>
    intro s other
    cases other with
    | chassis pk => exact (or_iff_left fun h => by cases h.2).symm
    | charger pk =>
        refine rowPresent_insertRows.trans (or_congr_right ?_)
        exact ⟨fun heq => ⟨rfl, heq ▸ rfl⟩, fun h => by cases h.2; rfl⟩

end Micboard
