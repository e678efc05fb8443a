import Micboard.ApprovalSingle
import Micboard.IdentitySoundness
import Micboard.QueueStaging

/-! Approval and rediscovery. Staging looks a serial number up as it was staged, among all
manufacturers and in the chassis before the chargers; an approval strips it, looks it up among the
manufacturer's rows of the role's table, and writes it back to a chassis only. So whether the staged
row of an approved device finds what was adopted depends on the text of the serial number, on the
role and on the rows that store the text. -/

namespace Micboard

open Library Library.Text LockedApprovalInventory DiscoveryApprovalResolver
  DiscoveryApprovalService DiscoveryQueueService DiscoveryQueueConflictService

open WirelessChassisPersistenceService (textOr)

section Classification

variable {τ : Type} [LinearOrder τ] {ordering : MetaOrdering τ} {db : Inventory}
  {serialNumber ip : String}

/-- The classification is a duplicate, with these links. -/
structure Duplicates (conflicts : DiscoveryQueueConflict) (device charger : Option Nat) : Prop where
  isDuplicate : conflicts.isDuplicate = true
  isIpConflict : conflicts.isIpConflict = false
  device : conflicts.existingDevice.map Chassis.pk = device
  charger : conflicts.existingCharger.map Charger.pk = charger

theorem checkAddress_not_duplicate :
    (checkAddress ordering db serialNumber ip).isDuplicate = false := by
  unfold checkAddress
  dsimp only
  split
  next => rfl
  next =>
    split
    next => rfl
    next => rfl

theorem duplicates_chassis_iff (hserial : serialNumber ≠ "") {pk : Nat} :
    Duplicates (check ordering db serialNumber ip) (some pk) none ↔
      ∃ row, firstChassis ordering db (fun row => row.serialNumber = serialNumber) = some row ∧
        row.pk = pk := by
  rw [check, if_neg hserial, checkSerial]
  cases hchassis : firstChassis ordering db (fun row => row.serialNumber = serialNumber) with
  | some row =>
      simp only [Option.getD_some, Option.some.injEq, exists_eq_left']
      constructor
      · rintro ⟨-, -, hdevice, -⟩
        exact Option.some.inj hdevice
      · rintro rfl
        exact ⟨rfl, rfl, rfl, rfl⟩
  | none =>
      refine iff_of_false ?_ ?_
      · intro h
        cases hcharger : firstCharger ordering db (fun row => row.serialNumber = serialNumber) with
        | some row =>
            simp only [hcharger, Option.map_some, Option.getD_some] at h
            cases h.device
        | none =>
            simp only [hcharger, Option.map_none, Option.getD_none] at h
            have hduplicate := h.isDuplicate
            rw [checkAddress_not_duplicate] at hduplicate
            cases hduplicate
      · rintro ⟨row, hrow, -⟩
        cases hrow

theorem duplicates_charger_iff (hserial : serialNumber ≠ "") {pk : Nat} :
    Duplicates (check ordering db serialNumber ip) none (some pk) ↔
      firstChassis ordering db (fun row => row.serialNumber = serialNumber) = none ∧
      ∃ row, firstCharger ordering db (fun row => row.serialNumber = serialNumber) = some row ∧
        row.pk = pk := by
  rw [check, if_neg hserial, checkSerial]
  cases hchassis : firstChassis ordering db (fun row => row.serialNumber = serialNumber) with
  | some row =>
      refine iff_of_false ?_ ?_
      · intro h
        cases h.device
      · rintro ⟨hnone, -⟩
        cases hnone
  | none =>
      cases hcharger : firstCharger ordering db (fun row => row.serialNumber = serialNumber) with
      | some row =>
          simp only [Option.map_some, Option.getD_some, Option.some.injEq, exists_eq_left', true_and]
          constructor
          · rintro ⟨-, -, -, hcharger⟩
            exact Option.some.inj hcharger
          · rintro rfl
            exact ⟨rfl, rfl, rfl, rfl⟩
      | none =>
          refine iff_of_false ?_ ?_
          · intro h
            have hduplicate := h.isDuplicate
            simp only [Option.map_none, Option.getD_none] at hduplicate
            rw [checkAddress_not_duplicate] at hduplicate
            cases hduplicate
          · rintro ⟨-, row, hrow, -⟩
            cases hrow

end Classification

section Row

variable {τ : Type} [LinearOrder τ] {ordering : MetaOrdering τ} {state : ApprovalState}
  {manufacturer : Manufacturer} {device : DiscoveryQueueDevice} {staged : Staged}

structure StagedRow (ordering : MetaOrdering τ) (state : ApprovalState) (manufacturer : Manufacturer)
    (device : DiscoveryQueueDevice) (staged : Staged) : Prop where
  inventory : staged.state.inventory = state.inventory
  conflicts : staged.conflicts = check ordering state.inventory device.serialNumber device.ip
  owner : staged.row.manufacturer.pk = manufacturer.pk
  serialNumber : staged.row.serialNumber = device.serialNumber
  deviceType : staged.row.deviceType = device.deviceType
  name : staged.row.name = device.name
  existingDeviceId : staged.row.existingDeviceId = staged.conflicts.existingDevice.map Chassis.pk
  existingChargerId : staged.row.existingChargerId = staged.conflicts.existingCharger.map Charger.pk
  queue_unique : UniqueOn DiscoveryQueue.pk staged.state.queue
  mem : staged.row ∈ staged.state.queue
  only : ∀ row ∈ staged.state.queue, isRowOf manufacturer device.serialNumber row = true →
    row.pk = staged.row.pk
  stored : (storedIp device.ip).isSome

theorem pk_lt_nextQueuePk {queue : List DiscoveryQueue} {row : DiscoveryQueue} (h : row ∈ queue) :
    row.pk < nextQueuePk queue := by
  rw [nextQueuePk]
  induction queue with
  | nil => cases h
  | cons first rest ih =>
      rw [List.map_cons, List.foldr_cons]
      rcases List.mem_cons.mp h with rfl | h
      · omega
      · have hlt := ih h
        omega

theorem updateOrCreate_eq_ok {queue queue' : List DiscoveryQueue} {row : DiscoveryQueue}
    (hunique : UniqueOn DiscoveryQueue.pk queue)
    (hok : updateOrCreate queue manufacturer device = .ok (queue', row)) :
    row.manufacturer.pk = manufacturer.pk ∧ row.serialNumber = device.serialNumber ∧
      row.deviceType = device.deviceType ∧ row.name = device.name ∧
      UniqueOn DiscoveryQueue.pk queue' ∧ row ∈ queue' ∧
      (∀ other ∈ queue', isRowOf manufacturer device.serialNumber other = true → other.pk = row.pk) ∧
      (storedIp device.ip).isSome := by
  rw [updateOrCreate] at hok
  cases hip : storedIp device.ip with
  | none =>
      rw [hip] at hok
      cases hok
  | some ip =>
  rw [hip] at hok
  dsimp only at hok
  split at hok
  next hnone =>
    cases hok
    refine ⟨rfl, rfl, rfl, rfl, ?_, List.mem_append_right _ (List.mem_singleton_self _), ?_, rfl⟩
    · exact hunique.append_row fun other hother => Nat.ne_of_lt (pk_lt_nextQueuePk hother)
    · intro other hother hrow
      rcases List.mem_append.mp hother with hother | hother
      · exact absurd hrow (List.filter_eq_nil_iff.mp hnone other hother)
      · rw [List.mem_singleton.mp hother]
  next old hold =>
    have hmem : old ∈ queue ∧ isRowOf manufacturer device.serialNumber old = true :=
      List.mem_filter.mp (hold ▸ List.mem_singleton_self old)
    have hkeys := hmem.2
    simp only [isRowOf, Bool.and_eq_true, decide_eq_true_eq] at hkeys
    cases hok
    refine ⟨hkeys.1, hkeys.2, rfl, rfl, ?_, mem_replaceRow_self _ hmem.1 rfl, ?_, rfl⟩
    · rw [UniqueOn, map_pk_replaceRow]
      exact hunique
    · intro other hother hrow
      rcases (mem_replaceRow _).mp hother with ⟨rfl, -⟩ | ⟨hother, hne⟩
      · rfl
      · have hfound : other ∈ queue.filter (isRowOf manufacturer device.serialNumber) :=
          List.mem_filter.mpr ⟨hother, hrow⟩
        rw [hold, List.mem_singleton] at hfound
        rw [hfound]
        rfl
  next => cases hok

theorem upsert_stagedRow (hunique : UniqueOn DiscoveryQueue.pk state.queue)
    (hok : upsert ordering state manufacturer device = .ok staged) :
    StagedRow ordering state manufacturer device staged := by
  rw [upsert] at hok
  obtain ⟨⟨queue, row⟩, hrow, hok⟩ := bind_eq_ok.mp hok
  obtain ⟨howner, hserial, htype, hname, hqueue, hmem, honly, hstored⟩ :=
    updateOrCreate_eq_ok hunique hrow
  cases hok
  refine ⟨rfl, ?_, howner, hserial, htype, hname, rfl, rfl, ?_,
    mem_replaceRow_self _ hmem rfl, ?_, hstored⟩
  · dsimp only
    rw [hserial]
  · rw [UniqueOn, map_pk_replaceRow]
    exact hqueue
  · intro other hother hisRow
    rcases (mem_replaceRow _).mp hother with ⟨rfl, -⟩ | ⟨hother, -⟩
    · rfl
    · exact honly other hother hisRow

theorem upsert_of_single {row : DiscoveryQueue} (hstored : (storedIp device.ip).isSome)
    (hrow : state.queue.filter (isRowOf manufacturer device.serialNumber) = [row]) :
    ∃ staged, upsert ordering state manufacturer device = .ok staged ∧ staged.row.pk = row.pk ∧
      staged.conflicts = check ordering state.inventory device.serialNumber device.ip ∧
      staged.row.existingDeviceId = staged.conflicts.existingDevice.map Chassis.pk ∧
      staged.row.existingChargerId = staged.conflicts.existingCharger.map Charger.pk := by
  obtain ⟨ip, hip⟩ := Option.isSome_iff_exists.mp hstored
  have hkeys := (List.mem_filter.mp (hrow ▸ List.mem_singleton_self row)).2
  simp only [isRowOf, Bool.and_eq_true, decide_eq_true_eq] at hkeys
  have hcreate : updateOrCreate state.queue manufacturer device =
      .ok (replaceRow DiscoveryQueue.pk (assignDevice device ip row) state.queue,
        assignDevice device ip row) := by
    rw [updateOrCreate, hip, hrow]
  refine ⟨_, by rw [upsert, hcreate]; rfl, rfl, ?_, rfl, rfl⟩
  show check ordering state.inventory row.serialNumber device.ip = _
  rw [hkeys.2]

end Row

section Condition

variable {τ : Type} [LinearOrder τ] (ordering : MetaOrdering τ) (db : Inventory)
  (device : DiscoveryQueueDevice)

/-- The name of a row that is approved for the device. -/
def approvedName (name : String) : String := textOr (text device.name) name

/-- A chassis stores the serial number, and the first one stays first under its approved name. -/
def ChassisStaysFirst : Prop :=
  ∃ chassis, firstChassis ordering db
    (fun row => row.serialNumber = device.serialNumber) = some chassis ∧
    ∀ other ∈ db.chassis, other.serialNumber = device.serialNumber → other.pk ≠ chassis.pk →
      ordering.chassisPosition chassis.pk chassis.manufacturer.pk (approvedName device chassis.name) ≤
        ordering.chassisRank other

def ChargerStaysFirst : Prop :=
  ∃ charger, firstCharger ordering db
    (fun row => row.serialNumber = device.serialNumber) = some charger ∧
    ∀ other ∈ db.chargers, other.serialNumber = device.serialNumber → other.pk ≠ charger.pk →
      ordering.chargerPosition charger.pk (approvedName device charger.name) ≤
        ordering.chargerRank other

/-- A charger's serial number is stored by chargers only, by one at least, and the first of them
stays first. Any other device's serial number is not changed by stripping it, or nothing is left of
it and a chassis that stores it stays first. -/
def IdentityFixed : Prop :=
  if device.deviceType = "charger" then
    (∀ row ∈ db.chassis, row.serialNumber ≠ device.serialNumber) ∧ ChargerStaysFirst ordering db device
  else text device.serialNumber = device.serialNumber ∨
    (text device.serialNumber = "" ∧ ChassisStaysFirst ordering db device)

end Condition

section Adopted

variable {τ : Type} [LinearOrder τ] {ordering : MetaOrdering τ} {db db' : Inventory}
  {device : DiscoveryQueueDevice} {item : DiscoveryQueue}

/-- Between rows of different manufacturers the name does not decide. -/
theorem chassisPosition_le_of_ne {pk pk' manufacturer manufacturer' : Nat} {name name' other : String}
    (h : ordering.chassisPosition pk manufacturer name ≤
      ordering.chassisPosition pk' manufacturer' name')
    (hne : manufacturer ≠ manufacturer') :
    ordering.chassisPosition pk manufacturer other ≤
      ordering.chassisPosition pk' manufacturer' name' := by
  have hname : ordering.manufacturerName manufacturer ≠ ordering.manufacturerName manufacturer' :=
    fun heq => hne (ordering.manufacturerName_unique heq)
  simp only [MetaOrdering.chassisPosition, Prod.Lex.toLex_le_toLex] at h ⊢
  rcases h with h | ⟨heq, h | ⟨hsame, -⟩⟩
  · exact .inl h
  · exact .inr ⟨heq, .inl h⟩
  · exact absurd hsame hname

/-- The adopted chassis is found again when it stores the serial number and is the first that does. -/
theorem duplicates_adopted_iff {chassis : Option Chassis} {row : Chassis} {serialNumber ip : String}
    (hserial : serialNumber ≠ "") (h : AdoptedRow db db' item chassis row) :
    Duplicates (check ordering db' serialNumber ip) (some row.pk) none ↔
      row.serialNumber = serialNumber ∧ ∀ other ∈ db.chassis, other.serialNumber = serialNumber →
        other.pk ≠ row.pk → ordering.chassisRank row ≤ ordering.chassisRank other := by
  have hunique := h.writes.consistent.pk_unique
  have hmem : row ∈ db'.chassis := (h.writes.mem row).mpr (.inl rfl)
  rw [duplicates_chassis_iff hserial]
  constructor
  · rintro ⟨first, hfirst, hpk⟩
    obtain ⟨hfirstMem, hstores, hleast⟩ := (firstChassis_eq_some hunique).mp hfirst
    obtain rfl := hunique.eq hfirstMem hmem hpk
    refine ⟨of_decide_eq_true hstores, fun other hother hsame hne => ?_⟩
    exact hleast other ((h.writes.mem other).mpr (.inr ⟨hother, hne⟩)) (decide_eq_true hsame)
  · rintro ⟨hstores, hleast⟩
    refine ⟨row, (firstChassis_eq_some hunique).mpr ⟨hmem, decide_eq_true hstores, ?_⟩, rfl⟩
    intro other hother hsame
    rcases (h.writes.mem other).mp hother with rfl | ⟨hold, hne⟩
    · exact le_refl _
    · exact hleast other hold (of_decide_eq_true hsame) hne

/-- What the chassis that a staged row is linked to says of its target. -/
theorem target_of_link {sha256 : String → Nat} {inventory : LockedApprovalInventory}
    {policy : DiscoveryApprovalBatchPolicy} {target : ChassisApprovalTarget}
    (hlock : lock db [item] = .ok inventory) (hrole : item.isCharger = false)
    (haccepted : AcceptedChassis sha256 db inventory policy item target) {chassis : Chassis}
    (hchassis : chassis ∈ db.chassis) (hnames : chassisIdentityFilter item chassis = true)
    (hmatch : NamesChassis item chassis) : target.chassis = some chassis := by
  refine (haccepted.resolves.chassis_iff chassis).mpr ⟨(lock_chassis hlock).mpr ⟨hchassis, ?_⟩, hmatch⟩
  rw [chassisFilter, Bool.or_eq_true]
  right
  simp [hrole, hnames]

variable {state : ApprovalState} {manufacturer : Manufacturer} {staged : Staged} {sha256 : String → Nat}
  {inventory : LockedApprovalInventory} {policy : DiscoveryApprovalBatchPolicy}

theorem exists_firstChassis (ordering : MetaOrdering τ) {serialNumber : String} {chassis : Chassis}
    (hmem : chassis ∈ db.chassis)
    (hstores : chassis.serialNumber = serialNumber) :
    ∃ first, firstChassis ordering db (fun row => row.serialNumber = serialNumber) = some first := by
  refine Option.ne_none_iff_exists'.mp fun hnone => ?_
  exact firstChassis_eq_none.mp hnone chassis hmem (decide_eq_true hstores)

theorem target_of_first {target : ChassisApprovalTarget} {first : Chassis}
    (hdb : state.inventory.Consistent) (hstaged : StagedRow ordering state manufacturer device staged)
    (hrole : staged.row.isCharger = false) (hlock : lock state.inventory [staged.row] = .ok inventory)
    (haccepted : AcceptedChassis sha256 state.inventory inventory policy staged.row target)
    (hfirst : firstChassis ordering state.inventory
      (fun row => row.serialNumber = device.serialNumber) =
      some first) :
    first ∈ state.inventory.chassis ∧ first.serialNumber = device.serialNumber ∧
      (∀ other ∈ state.inventory.chassis, other.serialNumber = device.serialNumber →
        ordering.chassisRank first ≤ ordering.chassisRank other) ∧ target.chassis = some first := by
  obtain ⟨hmem, hstores, hleast⟩ := (firstChassis_eq_some hdb.pk_unique).mp hfirst
  refine ⟨hmem, of_decide_eq_true hstores, fun other hother hsame =>
    hleast other hother (decide_eq_true hsame), ?_⟩
  have hduplicates :=
    (@duplicates_chassis_iff τ _ ordering state.inventory device.serialNumber device.ip
    device.serial_ne first.pk).mpr ⟨first, hfirst, rfl⟩
  have hlink : staged.row.existingDeviceId = some first.pk := by
    rw [hstaged.existingDeviceId, hstaged.conflicts]
    exact hduplicates.device
  exact target_of_link hlock hrole haccepted hmem (by simp [chassisIdentityFilter, hlink]) (.inl hlink)

theorem chassis_found_again_iff {target : ChassisApprovalTarget} {row : Chassis}
    (hdb : state.inventory.Consistent) (hstaged : StagedRow ordering state manufacturer device staged)
    (hrole : staged.row.isCharger = false) (hlock : lock state.inventory [staged.row] = .ok inventory)
    (haccepted : AcceptedChassis sha256 state.inventory inventory policy staged.row target)
    (hadopted : AdoptedRow state.inventory db' staged.row target.chassis row) :
    Duplicates (check ordering db' device.serialNumber device.ip) (some row.pk) none ↔
      text device.serialNumber = device.serialNumber ∨
        (text device.serialNumber = "" ∧ ChassisStaysFirst ordering state.inventory device) := by
  have hserial := hadopted.serialNumber
  have hname := hadopted.name
  rw [hstaged.serialNumber] at hserial
  rw [hstaged.name] at hname
  rw [duplicates_adopted_iff device.serial_ne hadopted]
  constructor
  · rintro ⟨hstores, hleast⟩
    by_cases htext : text device.serialNumber = device.serialNumber
    · exact .inl htext
    rw [hstores, textOr] at hserial
    split at hserial
    next hblank =>
      refine .inr ⟨hblank, ?_⟩
      cases hchassis : target.chassis with
      | none =>
          rw [hchassis] at hserial
          exact absurd hserial device.serial_ne
      | some chassis =>
          rw [hchassis, Option.map_some, Option.getD_some] at hserial hname
          have hmem := ((lock_chassis hlock).mp
            ((haccepted.resolves.chassis_iff chassis).mp hchassis).1).1
          obtain ⟨first, hfirst⟩ := exists_firstChassis ordering hmem hserial.symm
          obtain ⟨-, -, -, htarget⟩ := target_of_first hdb hstaged hrole hlock haccepted hfirst
          obtain rfl := Option.some.inj (hchassis.symm.trans htarget)
          refine ⟨chassis, hfirst, fun other hother hsame hne => ?_⟩
          have hpk := hadopted.stored chassis hchassis
          have hle := hleast other hother hsame (hpk ▸ hne)
          rw [MetaOrdering.chassisRank, hpk, hadopted.manufacturer,
            ← (haccepted.resolves.match_cases hchassis).1, hname] at hle
          exact hle
    next => exact absurd hserial.symm htext
  · intro hcondition
    have hstores : row.serialNumber = device.serialNumber := by
      rw [hserial, textOr]
      rcases hcondition with htext | ⟨hblank, first, hfirst, -⟩
      · rw [htext, if_neg device.serial_ne]
      · obtain ⟨-, hsame, -, htarget⟩ := target_of_first hdb hstaged hrole hlock haccepted hfirst
        rw [if_pos hblank, htarget]
        exact hsame
    refine ⟨hstores, fun other hother hsame hne => ?_⟩
    obtain ⟨first, hfirst⟩ := exists_firstChassis ordering hother hsame
    obtain ⟨hmem, -, hleast, htarget⟩ := target_of_first hdb hstaged hrole hlock haccepted hfirst
    have hpk := hadopted.stored first htarget
    have howner := (haccepted.resolves.match_cases htarget).1
    rw [htarget, Option.map_some, Option.getD_some] at hname
    rw [MetaOrdering.chassisRank, hpk, hadopted.manufacturer, ← howner, hname]
    rcases hcondition with htext | ⟨hblank, chassis, hchassis, hstays⟩
    · -- another chassis of the manufacturer would be a second match
      refine chassisPosition_le_of_ne (hleast other hother hsame) fun hforeign => hne ?_
      have hmatch : text other.serialNumber = text staged.row.serialNumber := by
        rw [hstaged.serialNumber, hsame]
      have hne : text staged.row.serialNumber ≠ "" := by
        rw [hstaged.serialNumber, htext]
        exact device.serial_ne
      have hother := target_of_link hlock hrole haccepted hother (by
        rw [hstaged.serialNumber] at hne
        simp [chassisIdentityFilter, hstaged.serialNumber, htext, hsame, ← howner, hforeign,
          device.serial_ne])
        (.inr ⟨hforeign.symm.trans howner, .inr ⟨hne, hmatch⟩⟩)
      rw [Option.some.inj (hother.symm.trans htarget), hpk]
    · obtain rfl := Option.some.inj (hfirst.symm.trans hchassis)
      exact hstays other hother hsame (hpk ▸ hne)

theorem resolveCharger_linked {pk : Nat} {charger : Charger} (hlink : item.existingChargerId = some pk)
    (h : resolveCharger item inventory = .ok charger) : charger.pk = pk := by
  unfold resolveCharger at h
  rw [hlink] at h
  cases hfind : inventory.chargersByPk pk with
  | none =>
      simp only [hfind] at h
      cases h
  | some found =>
      simp only [hfind] at h
      repeat' split at h
      all_goals cases h
      simpa using List.find?_some hfind

theorem charger_found_again_iff {charger saved : Charger}
    (hchargers : UniqueOn Charger.pk state.inventory.chargers)
    (hstaged : StagedRow ordering state manufacturer device staged)
    (hlock : lock state.inventory [staged.row] = .ok inventory)
    (hresolve : resolveCharger staged.row inventory = .ok charger)
    (hadopt : adoptCharger state.inventory [staged.row] charger = .ok (db', saved)) :
    Duplicates (check ordering db' device.serialNumber device.ip) none (some saved.pk) ↔
      (∀ row ∈ state.inventory.chassis, row.serialNumber ≠ device.serialNumber) ∧
        ChargerStaysFirst ordering state.inventory device := by
  obtain ⟨hsaved, hchassis, row, hrows, hpk, hserial, hname⟩ := adoptCharger_single hadopt
  rw [hstaged.name] at hname
  have hcharger : charger ∈ state.inventory.chargers :=
    ((lock_chargers hlock).mp (resolveCharger_mem hresolve)).1
  have hunique : UniqueOn Charger.pk db'.chargers := by
    rw [UniqueOn, hrows, map_pk_replaceRow]
    exact hchargers
  have hrow : row ∈ db'.chargers := by
    rw [hrows]
    exact mem_replaceRow_self _ hcharger hpk.symm
  rw [duplicates_charger_iff device.serial_ne, firstChassis_eq_none, hchassis, hsaved]
  simp only [decide_eq_true_eq]
  refine and_congr_right fun hnone => ?_
  -- without such a chassis the first charger that stores the serial number is linked
  have hlinked : ∀ first,
      firstCharger ordering state.inventory
        (fun row => row.serialNumber = device.serialNumber) = some first →
      first = charger := by
    intro first hfirst
    have hduplicates :=
      (@duplicates_charger_iff τ _ ordering state.inventory device.serialNumber device.ip
      device.serial_ne first.pk).mpr ⟨firstChassis_eq_none.mpr (by simpa using hnone),
        first, hfirst, rfl⟩
    have hlink : staged.row.existingChargerId = some first.pk := by
      rw [hstaged.existingChargerId, hstaged.conflicts]
      exact hduplicates.charger
    exact hchargers.eq ((firstCharger_eq_some hchargers).mp hfirst).1 hcharger
      (resolveCharger_linked hlink hresolve).symm
  constructor
  · rintro ⟨first, hfirst, hfirstPk⟩
    obtain ⟨hfirstMem, hstores, hleast⟩ := (firstCharger_eq_some hunique).mp hfirst
    obtain rfl := hunique.eq hfirstMem hrow (hfirstPk.trans hpk.symm)
    have hsame : charger.serialNumber = device.serialNumber :=
      hserial.symm.trans (of_decide_eq_true hstores)
    obtain ⟨old, hold⟩ : ∃ old, firstCharger ordering state.inventory
        (fun row => row.serialNumber = device.serialNumber) = some old := by
      refine Option.ne_none_iff_exists'.mp fun hempty => ?_
      rw [firstCharger, List.argmin_eq_none, List.filter_eq_nil_iff] at hempty
      exact hempty charger hcharger (decide_eq_true hsame)
    obtain rfl := hlinked old hold
    refine ⟨old, hold, fun other hother hothers hne => ?_⟩
    have hle := hleast other (by
      rw [hrows]
      exact (mem_replaceRow _).mpr (.inr ⟨hother, hpk ▸ hne⟩)) (decide_eq_true hothers)
    rw [MetaOrdering.chargerRank, hpk, hname] at hle
    exact hle
  · rintro ⟨first, hfirst, hstays⟩
    obtain rfl := hlinked first hfirst
    have hstores := ((firstCharger_eq_some hchargers).mp hfirst).2.1
    refine ⟨row, (firstCharger_eq_some hunique).mpr ⟨hrow, ?_, ?_⟩, hpk⟩
    · rw [hserial]
      exact hstores
    · intro other hother hothers
      rw [hrows] at hother
      rcases (mem_replaceRow _).mp hother with ⟨rfl, -⟩ | ⟨hold, hne⟩
      · exact le_refl _
      · have hle := hstays other hold (of_decide_eq_true hothers) (hpk ▸ hne)
        rw [MetaOrdering.chargerRank, hpk, hname]
        exact hle

end Adopted

/-- The chassis that the approval of a row adopted. -/
def adoptedDevice (imported : DiscoveryQueue) : Option Nat :=
  if imported.isCharger then none else imported.existingDeviceId

def adoptedCharger (imported : DiscoveryQueue) : Option Nat :=
  if imported.isCharger then imported.existingChargerId else none

/-- Staging the device again finds its imported row, classifies it as a duplicate and links it to
what the approval adopted. -/
def RestagesAsAdopted {τ : Type} [LinearOrder τ] (ordering : MetaOrdering τ) (approved : ApprovalState)
    (manufacturer : Manufacturer) (device : DiscoveryQueueDevice) (pk : Nat) : Prop :=
  ∃ imported ∈ approved.queue, imported.pk = pk ∧ ∃ staged,
    upsert ordering approved manufacturer device = .ok staged ∧ staged.row.pk = pk ∧
    Duplicates staged.conflicts (adoptedDevice imported) (adoptedCharger imported) ∧
    staged.row.existingDeviceId = adoptedDevice imported ∧
    staged.row.existingChargerId = adoptedCharger imported

theorem validated_deviceType
    {apiDeviceId deviceType firmwareVersion fqdn ip model name serialNumber : String}
    {metadata : VendorPayload} {device : DiscoveryQueueDevice}
    (h : DiscoveryQueueDevice.validated apiDeviceId deviceType firmwareVersion fqdn ip
      metadata model name
      serialNumber = some device) : device.deviceType = trim deviceType := by
  unfold DiscoveryQueueDevice.validated at h
  split at h
  next => cases h
  next =>
    split at h
    next =>
      cases h
      rfl
    next => cases h

theorem normalizeDevice_deviceType {python : PythonText} {payload : JsonObject}
    {device : DiscoveryQueueDevice} (h : normalizeDevice python payload = some device) :
    device.deviceType ∈ ["charger", "transmitter", "transceiver", "receiver"] := by
  have hclassified : ∀ model rawType,
      trim (classifyDeviceType python model rawType) ∈ ["charger", "transmitter", "transceiver",
        "receiver"] := by
    intro model rawType
    unfold classifyDeviceType
    dsimp only
    repeat' split
    all_goals decide +kernel
  rw [normalizeDevice] at h
  extract_lets deviceId serial ip model at h
  split at h
  next => cases h
  next =>
  split at h
  next => cases h
  next =>
    rw [validated_deviceType h]
    exact hclassified _ _

section Fixpoint

variable {τ : Type} [LinearOrder τ] {ordering : MetaOrdering τ} {sha256 : String → Nat} {now : Time}
  {state approved : ApprovalState} {manufacturer : Manufacturer} {device : DiscoveryQueueDevice}
  {staged : Staged} {queryset : DiscoveryQueue → Bool} {reviewer : Reviewer}
  {result : DiscoveryApprovalResult}

theorem restagesAsAdopted_iff (hstaged : StagedRow ordering state manufacturer device staged)
    {imported : DiscoveryQueue} {db' : Inventory} (hpk : imported.pk = staged.row.pk)
    (howner : imported.manufacturer = staged.row.manufacturer)
    (hserial : imported.serialNumber = staged.row.serialNumber) :
    RestagesAsAdopted ordering
      ⟨db', replaceRow DiscoveryQueue.pk imported staged.state.queue⟩ manufacturer
        device staged.row.pk ↔
      Duplicates (check ordering db' device.serialNumber device.ip) (adoptedDevice imported)
        (adoptedCharger imported) := by
  have hmem : imported ∈ replaceRow DiscoveryQueue.pk imported staged.state.queue :=
    mem_replaceRow_self _ hstaged.mem hpk.symm
  have hunique :
      UniqueOn DiscoveryQueue.pk (replaceRow DiscoveryQueue.pk imported staged.state.queue) := by
    rw [UniqueOn, map_pk_replaceRow]
    exact hstaged.queue_unique
  have hfilter : (replaceRow DiscoveryQueue.pk imported staged.state.queue).filter
      (isRowOf manufacturer device.serialNumber) = [imported] := by
    refine hunique.filter_eq_singleton hmem ?_ fun other hother hrow => ?_
    · simp [isRowOf, howner, hserial, hstaged.owner, hstaged.serialNumber]
    · rcases (mem_replaceRow _).mp hother with ⟨rfl, -⟩ | ⟨hold, hne⟩
      · rfl
      · rw [hpk]
        exact hstaged.only other hold hrow
  obtain ⟨again, hok, hagain, hconflicts, hdevice, hcharger⟩ :=
    @upsert_of_single τ _ ordering
      ⟨db', replaceRow DiscoveryQueue.pk imported staged.state.queue⟩ manufacturer
      device imported hstaged.stored hfilter
  constructor
  · rintro ⟨other, hother, hotherPk, restaged, hrestaged, -, hduplicates, -⟩
    obtain rfl := hunique.eq hother hmem (hotherPk.trans hpk.symm)
    obtain rfl := Except.ok.inj (hrestaged.symm.trans hok)
    rw [← hconflicts]
    exact hduplicates
  · intro hduplicates
    rw [← hconflicts] at hduplicates
    exact ⟨imported, hmem, hpk, again, hok, hagain.trans hpk, hduplicates,
      hdevice.trans hduplicates.device,
      hcharger.trans hduplicates.charger⟩

/-- **Approval followed by rediscovery is a fixed point exactly where the staged serial number finds
what was adopted.** -/
theorem rediscovery_fixed_iff {python : PythonText} {payload : JsonObject}
    (hdb : state.inventory.Consistent) (hchargers : UniqueOn Charger.pk state.inventory.chargers)
    (hqueue : UniqueOn DiscoveryQueue.pk state.queue)
    (hnormalized : normalizeDevice python payload = some device)
    (hstaged : upsert ordering state manufacturer device = .ok staged)
    (hselected : pendingRows staged.state.queue queryset = [staged.row])
    (happroved : approve sha256 now staged.state queryset reviewer = .ok (approved, result)) :
    RestagesAsAdopted ordering approved manufacturer device staged.row.pk ↔
      IdentityFixed ordering state.inventory device := by
  have hrow := upsert_stagedRow hqueue hstaged
  obtain ⟨plan, persisted, imported, hplan, hpersisted, himported, rfl⟩ :=
    approve_single hrow.queue_unique hselected happroved
  rw [hrow.inventory] at hplan hpersisted
  have hrole : staged.row.isCharger = decide (device.deviceType = "charger") := by
    have htype := normalizeDevice_deviceType hnormalized
    simp only [List.mem_cons, List.not_mem_nil, or_false] at htype
    rw [DiscoveryQueue.isCharger, DiscoveryQueue.role, hrow.deviceType]
    rcases htype with h | h | h | h
    all_goals
      rw [h]
      decide +kernel
  rw [IdentityFixed]
  by_cases htype : device.deviceType = "charger"
  · rw [if_pos htype]
    replace hrole : staged.row.isCharger = true := hrole.trans (decide_eq_true htype)
    obtain ⟨inventory, charger, hlock, hresolve, hcharger⟩ := build_single_charger hrole hplan
    obtain ⟨saved, hadopt, hsaved⟩ := persistTargets_single_charger hrole hcharger hpersisted
    obtain ⟨hpk, howner, hserial, hsameRole, hlink, -⟩ := importedRow_eq_ok himported
    rw [restagesAsAdopted_iff hrow hpk howner hserial, adoptedDevice, adoptedCharger, hsameRole,
      hrole, if_pos rfl,
      if_pos rfl, hlink hrole saved hsaved]
    exact charger_found_again_iff hchargers hrow hlock hresolve hadopt
  · rw [if_neg htype]
    replace hrole : staged.row.isCharger = false := hrole.trans (decide_eq_false htype)
    have hitems : UniqueOn DiscoveryQueue.pk [staged.row] := List.nodup_singleton _
    obtain ⟨inventory, policy, hlock, haccepted⟩ := build_accepted hdb.pk_unique hitems hplan
    obtain ⟨target, htarget, haccepted⟩ := (haccepted staged.row (List.mem_singleton_self _)).1 hrole
    obtain ⟨saved, created, hadopt, hsaved⟩ := persistTargets_single_chassis hrole htarget hpersisted
    obtain ⟨hpk, howner, hserial, hsameRole, -, hlink⟩ := importedRow_eq_ok himported
    have hapi : trim target.apiDeviceId = target.apiDeviceId := by
      rw [haccepted.resolves.apiDeviceId]
      exact trim_persistedApiDeviceId sha256 staged.row target.chassis
    have hlocked : ∀ chassis, target.chassis = some chassis → chassis ∈ state.inventory.chassis :=
      fun chassis hchassis =>
        ((lock_chassis hlock).mp ((haccepted.resolves.chassis_iff chassis).mp hchassis).1).1
    obtain ⟨row, hsavedPk, hadopted⟩ :=
      adoptWirelessChassis_single hdb hlocked hapi haccepted.resolves.apiDeviceId_ne hadopt
    rw [restagesAsAdopted_iff hrow hpk howner hserial, adoptedDevice, adoptedCharger, hsameRole, hrole,
      if_neg Bool.false_ne_true, if_neg Bool.false_ne_true, hlink hrole saved hsaved, hsavedPk]
    exact chassis_found_again_iff hdb hrow hrole hlock haccepted hadopted

end Fixpoint

/-! ### Devices that are found again, and one that is not -/

/-- Texts of ASCII characters; no container is built for the payloads below. -/
def asciiText : PythonText where
  lower text := String.ofList (text.toList.map Char.toLower)
  upper text := String.ofList (text.toList.map Char.toUpper)
  casefold text := String.ofList (text.toList.map Char.toLower)
  capitalize text :=
    String.ofList ((text.toList.take 1).map Char.toUpper ++ (text.toList.drop 1).map Char.toLower)
  isAlnum c := c.isAlphanum
  isDecimal := isDigit
  reprArray _ := "[]"
  reprObject _ := "\x7b\x7d"

def plainOrdering : MetaOrdering Nat where
  order _ := 0
  manufacturerName := id
  locationName _ := 0
  collate := String.length
  tieBreak := id
  manufacturerName_unique := Function.injective_id
  tieBreak_injective := Function.injective_id

def administrator : Reviewer := ⟨1, fun _ => true⟩

/-- Stage a payload in an empty queue and approve its row. -/
def stageAndApprove (db : Inventory) (payload : JsonObject) :
    Option (DiscoveryQueueDevice × Staged × ApprovalState × DiscoveryApprovalResult) := do
  let device ← normalizeDevice asciiText payload
  let staged ← (upsert plainOrdering ⟨db, []⟩ shure device).toOption
  let approved ← (approve (fun _ => 0) 0 staged.state (fun _ => true) administrator).toOption
  some (device, staged, approved)

theorem stageAndApprove_eq_some {db : Inventory} {payload : JsonObject} {device : DiscoveryQueueDevice}
    {staged : Staged} {approved : ApprovalState} {result : DiscoveryApprovalResult}
    (h : stageAndApprove db payload = some (device, staged, approved, result)) :
    normalizeDevice asciiText payload = some device ∧
      upsert plainOrdering ⟨db, []⟩ shure device = .ok staged ∧
      approve (fun _ => 0) 0 staged.state (fun _ => true) administrator = .ok (approved, result) := by
  simp only [stageAndApprove, Option.bind_eq_bind, Option.bind_eq_some_iff, Option.some.injEq,
    Prod.mk.injEq] at h
  obtain ⟨_, hdevice, _, hstaged, _, happroved, rfl, rfl, rfl⟩ := h
  exact ⟨hdevice, toOption_eq_some.mp hstaged, toOption_eq_some.mp happroved⟩

theorem pendingRows_of_pks {db : Inventory} {device : DiscoveryQueueDevice} {staged : Staged}
    (hstaged : upsert plainOrdering ⟨db, []⟩ shure device = .ok staged)
    (hpks : (pendingRows staged.state.queue fun _ => true).map DiscoveryQueue.pk = [staged.row.pk]) :
    (pendingRows staged.state.queue fun _ => true) = [staged.row] := by
  have hrow := upsert_stagedRow (uniqueOn_nil _) hstaged
  cases hrows : pendingRows staged.state.queue fun _ => true with
  | nil =>
      rw [hrows] at hpks
      cases hpks
  | cons first rest =>
      have hfirst : first ∈ pendingRows staged.state.queue fun _ => true := hrows ▸ List.mem_cons_self
      rw [hrows, List.map_cons, List.cons.injEq, List.map_eq_nil_iff] at hpks
      rw [hpks.2, hrow.queue_unique.eq (mem_pendingRows hfirst).1 hrow.mem hpks.1]

def newReceiverPayload : JsonObject :=
  [("id", .text "rx-5"), ("serial", .text "SN-5"), ("ip", .text "10.0.0.5")]

theorem rediscovery_fixed_iff_newReceiver :
    ∃ device staged approved result,
      stageAndApprove receiverInventory newReceiverPayload = some (device, staged, approved, result) ∧
      RestagesAsAdopted plainOrdering approved shure device staged.row.pk := by
  have hrun : (stageAndApprove receiverInventory newReceiverPayload).map (fun run =>
      (run.1.deviceType, run.1.serialNumber,
        (pendingRows run.2.1.state.queue fun _ => true).map DiscoveryQueue.pk, run.2.1.row.pk)) =
      some ("receiver", "SN-5", [1], 1) := by decide +kernel
  obtain ⟨⟨device, staged, approved, result⟩, hsome, hfacts⟩ := Option.map_eq_some_iff.mp hrun
  simp only [Prod.mk.injEq] at hfacts
  obtain ⟨htype, hserial, hpks, hpk⟩ := hfacts
  obtain ⟨hnormalized, hstaged, happroved⟩ := stageAndApprove_eq_some hsome
  refine ⟨device, staged, approved, result, hsome, ?_⟩
  refine (rediscovery_fixed_iff receiverInventory_consistent (uniqueOn_nil _)
    (uniqueOn_nil _) hnormalized hstaged
    (pendingRows_of_pks hstaged (by rw [hpks, hpk])) happroved).mpr ?_
  rw [IdentityFixed, htype, hserial]
  exact .inl (by decide +kernel)

/-- A charger of one manufacturer with the serial number of another one's receiver. -/
def sharedSerialInventory : Inventory where
  chassis := [{ storedReceiver with manufacturer := ⟨2, "sennheiser", true⟩ }]
  chargers := [{
    pk := 1
    manufacturer := some shure
    serialNumber := "SN-1"
    ip := some "10.0.0.5"
    name := ""
    fqdn := ""
    model := "SBC250"
    firmwareVersion := ""
    status := .online
    isActive := true }]
  nextPk := 2

def chargerPayload : JsonObject :=
  [("id", .text "sbc-1"), ("serial", .text "SN-1"), ("ip", .text "10.0.0.5"), ("model", .text "SBC250")]

/-- The rediscovered charger is linked to the receiver, and the link to the charger is lost. -/
theorem rediscovered_charger_relinked :
    ¬ ∀ (db : Inventory) payload device staged approved result, db.Consistent →
      UniqueOn Charger.pk db.chargers →
      stageAndApprove db payload = some (device, staged, approved, result) →
      RestagesAsAdopted plainOrdering approved shure device staged.row.pk := by
  intro hclaim
  have hrun : (stageAndApprove sharedSerialInventory chargerPayload).map (fun run =>
      (run.2.2.1.queue.map fun row => (row.isCharger, row.existingChargerId),
        (upsert plainOrdering run.2.2.1 shure run.1).toOption.map fun again =>
          again.row.existingChargerId)) =
      some ([(true, some 1)], some none) := by decide +kernel
  obtain ⟨⟨device, staged, approved, result⟩, hsome, hfacts⟩ := Option.map_eq_some_iff.mp hrun
  simp only [Prod.mk.injEq] at hfacts
  obtain ⟨hqueue, hagain⟩ := hfacts
  have hconsistent : sharedSerialInventory.Consistent :=
    ⟨by decide, by decide, by decide, by decide, by decide⟩
  obtain ⟨imported, himported, -, again, hok, -, -, -, hcharger⟩ :=
    hclaim sharedSerialInventory chargerPayload device staged approved result hconsistent
      (by decide) hsome
  have hadopted : (imported.isCharger, imported.existingChargerId) = (true, some 1) :=
    List.mem_singleton.mp (hqueue ▸ List.mem_map_of_mem himported)
  rw [hok] at hagain
  have hlost : again.row.existingChargerId = none := Option.some.inj hagain
  obtain ⟨hrole, hlink⟩ := Prod.mk.inj hadopted
  rw [hlost, adoptedCharger, hrole, if_pos rfl, hlink] at hcharger
  cases hcharger

end Micboard
