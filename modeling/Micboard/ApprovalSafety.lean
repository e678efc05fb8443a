import Micboard.ApprovalImport

/-! What an accepted plan keeps unique. Whatever persisting it leaves has one owner for each
identity, serial number and address; and it fails on a constraint exactly if a target is given an
API identity that another chassis has at that time. -/

namespace Micboard

open Library Library.Text LockedApprovalInventory DiscoveryApprovalResolver
  DiscoveryApprovalBatchPolicy DiscoveryApprovalService

/-- No two chassis of one manufacturer hold one serial number. -/
def SerialsOwned (db : Inventory) : Prop :=
  ∀ a ∈ db.chassis, ∀ b ∈ db.chassis, a.manufacturer.pk = b.manufacturer.pk →
    a.serialNumber = b.serialNumber → a.serialNumber ≠ "" → a.pk = b.pk

/-- Every API identity, serial number and address has one owner. -/
structure UniquelyOwned (db : Inventory) : Prop where
  api : ∀ a ∈ db.chassis, ∀ b ∈ db.chassis, a.manufacturer.pk = b.manufacturer.pk →
    a.apiDeviceId = b.apiDeviceId → a.apiDeviceId ≠ "" → a.pk = b.pk
  serial : SerialsOwned db
  chassisIp : ∀ a ∈ db.chassis, ∀ b ∈ db.chassis, a.ip = b.ip → a.pk = b.pk
  chargerIp : ∀ a ∈ db.chargers, ∀ b ∈ db.chargers, a.ip = b.ip → a.ip ≠ none → a.pk = b.pk
  separate : ∀ a ∈ db.chassis, ∀ b ∈ db.chargers, b.ip ≠ some a.ip

section Final

variable {sha256 : String → Nat} {db : Inventory} {items : List DiscoveryQueue}
  {plan : DiscoveryApprovalPlan} {inventory : LockedApprovalInventory}
  {policy : DiscoveryApprovalBatchPolicy} {chargers : List ChargerEntry} {chassis : List ChassisEntry}
  {start final : PersistingState}
  (hbatch : PlannedBatch sha256 db items plan inventory policy chargers chassis)
include hbatch

theorem PlannedBatch.target_of_serial {entry : ChassisEntry} (hentry : entry ∈ chassis) {row : Chassis}
    (hrow : row ∈ db.chassis) (hmanufacturer : row.manufacturer.pk = entry.1.manufacturer.pk)
    (hserial : row.serialNumber = text entry.1.serialNumber) (hne : text entry.1.serialNumber ≠ "") :
    entry.2.chassis = some row := by
  obtain ⟨hitem, hrole⟩ := hbatch.mem_chassis.mp ⟨entry.2, hentry⟩
  have hlocked : row ∈ inventory.chassis := by
    refine lock_named hbatch.locked hitem hrole hrow ?_
    rw [chassisIdentityFilter, decide_eq_true hne, decide_eq_true hmanufacturer, decide_eq_true hserial]
    simp
  have hmatch : text row.serialNumber = text entry.1.serialNumber := by
    rw [hserial]
    exact strip_strip entry.1.serialNumber
  exact ((hbatch.acceptedChassis.accepted entry hentry).resolves.chassis_iff row).mpr
    ⟨hlocked, .inr ⟨hmanufacturer, .inr ⟨hne, hmatch⟩⟩⟩

/-- Where a row of the final table has its serial number from: nobody wrote it, a row of the queue
gave it one, or it kept the one of its stored chassis. -/
theorem PlannedBatch.serial_source (hchassis : PersistInv db start (groupBy entryKey chassis) final)
    {row : Chassis} (hrow : row ∈ final.inventory.chassis) (hne : row.serialNumber ≠ "") :
    row ∈ db.chassis ∨
      (∃ entry ∈ chassis, text entry.1.serialNumber ≠ "" ∧
        row.serialNumber = text entry.1.serialNumber ∧
        (row.manufacturer.pk, row.apiDeviceId) = entryIdentity entry ∧
        ∀ target, entry.2.chassis = some target → row.pk = target.pk) ∨
      ∃ target ∈ db.chassis, row.serialNumber = target.serialNumber ∧
        row.manufacturer.pk = target.manufacturer.pk ∧ row.pk = target.pk := by
  rcases hchassis.cases row hrow with ⟨hmem, -⟩ | ⟨g, hg, houtcome⟩
  · exact .inl hmem
  · obtain ⟨first, hfirst, rfl⟩ := (mem_groupBy entryKey).mp hg
    have hown : first ∈ (group entryKey chassis (entryKey first)).2 :=
      List.mem_filter.mpr ⟨hfirst, decide_eq_true rfl⟩
    rcases houtcome.serial first hown with ⟨entry, hentry, hserial, heq⟩ | ⟨-, heq⟩
    · exact .inr
        (.inl ⟨entry, (List.mem_filter.mp hentry).1, hserial, heq, houtcome.identity entry hentry,
        fun target htarget => houtcome.existing entry hentry target htarget⟩)
    · cases htarget : first.2.chassis with
      | none =>
          rw [htarget] at heq
          exact absurd heq hne
      | some target =>
          rw [htarget, Option.map_some, Option.getD_some] at heq
          obtain ⟨hmem, hmanufacturer⟩ := hbatch.acceptedChassis.target_mem hfirst htarget
          refine .inr (.inr ⟨target, hmem, heq, ?_, houtcome.existing first hown target htarget⟩)
          rw [hmanufacturer]
          exact congrArg Prod.fst (houtcome.identity first hown)

theorem PlannedBatch.pk_of_stored_serial (hserials : SerialsOwned db)
    (hchassis : PersistInv db start (groupBy entryKey chassis) final) {row stored : Chassis}
    (hrow : row ∈ final.inventory.chassis) (hstored : stored ∈ db.chassis)
    (hmanufacturer : row.manufacturer.pk = stored.manufacturer.pk)
    (hserial : row.serialNumber = stored.serialNumber) (hne : row.serialNumber ≠ "") :
    row.pk = stored.pk := by
  rcases hbatch.serial_source hchassis hrow hne with hmem |
    ⟨entry, hentry, hentryNe, hgiven, hidentity, hexisting⟩ | ⟨target, htarget, hkept, howner, hpk⟩
  · exact hserials row hmem stored hstored hmanufacturer hserial hne
  · have howner : row.manufacturer.pk = entry.1.manufacturer.pk := congrArg Prod.fst hidentity
    exact hexisting stored (hbatch.target_of_serial hentry hstored (hmanufacturer.symm.trans howner)
      (hserial.symm.trans hgiven) hentryNe)
  · rw [hpk]
    exact hserials target htarget stored hstored (howner.symm.trans hmanufacturer)
      (hkept.symm.trans hserial) (hkept ▸ hne)

/-- No two rows of the final table share a manufacturer and a serial number. -/
theorem PlannedBatch.serial_unique (hserials : SerialsOwned db)
    (hchassis : PersistInv db start (groupBy entryKey chassis) final) {a b : Chassis}
    (ha : a ∈ final.inventory.chassis) (hb : b ∈ final.inventory.chassis)
    (hmanufacturer : a.manufacturer.pk = b.manufacturer.pk) (hserial : a.serialNumber = b.serialNumber)
    (hne : a.serialNumber ≠ "") : a.pk = b.pk := by
  rcases hbatch.serial_source hchassis hb (hserial ▸ hne) with hmem |
    ⟨other, hother, hotherNe, hbSerial, hbIdentity, -⟩ | ⟨target, htarget, hbSerial, hbOwner, hbPk⟩
  · exact hbatch.pk_of_stored_serial hserials hchassis ha hmem hmanufacturer hserial hne
  · rcases hbatch.serial_source hchassis ha hne with hmem |
      ⟨first, hfirst, hfirstNe, haSerial, haIdentity, -⟩ | ⟨target, htarget, haSerial, haOwner, haPk⟩
    · exact (hbatch.pk_of_stored_serial hserials hchassis hb hmem hmanufacturer.symm hserial.symm
        (hserial ▸ hne)).symm
    · -- the batch gives rows of one serial number one API identity
      have hrows : first.1.manufacturer.pk = other.1.manufacturer.pk :=
        (congrArg Prod.fst haIdentity).symm.trans (hmanufacturer.trans (congrArg Prod.fst hbIdentity))
      have hsame := hbatch.acceptedChassis.identity_of_serial hfirst hother hrows
        (haSerial.symm.trans (hserial.trans hbSerial)) hfirstNe
      rw [hchassis.consistent.api_unique.eq ha hb (haIdentity.trans (hsame.trans hbIdentity.symm))]
    · rw [haPk]
      exact (hbatch.pk_of_stored_serial hserials hchassis hb htarget (hmanufacturer.symm.trans haOwner)
        (hserial.symm.trans haSerial) (hserial ▸ hne)).symm
  · rw [hbPk]
    exact hbatch.pk_of_stored_serial hserials hchassis ha htarget (hmanufacturer.trans hbOwner)
      (hserial.trans hbSerial) hne

omit hbatch in
/-- A charger that the charger groups leave is a stored one or holds the address of a row. -/
theorem charger_source (hchargers : ChargerInv db (groupBy chargerKey chargers) start)
    {row : Charger} (hrow : row ∈ start.inventory.chargers) :
    row ∈ db.chargers ∨ ∃ entry ∈ chargers, row.pk = entry.2.pk ∧ row.ip = some entry.1.ip := by
  rcases hchargers.cases row hrow with hmem | ⟨g, hg, houtcome⟩
  · exact .inl hmem
  · obtain ⟨first, hfirst, rfl⟩ := (mem_groupBy chargerKey).mp hg
    have hown : first ∈ (group chargerKey chargers (chargerKey first)).2 :=
      List.mem_filter.mpr ⟨hfirst, decide_eq_true rfl⟩
    exact .inr ⟨first, hfirst, houtcome.pk first hown, houtcome.ip first hown⟩

/-- **The tables that a plan leaves have one owner for everything.** -/
theorem PlannedBatch.uniquelyOwned (hunique : UniquelyOwned db)
    (hchargers : ChargerInv db (groupBy chargerKey chargers) start)
    (hchassis : PersistInv db start (groupBy entryKey chassis) final) :
      UniquelyOwned final.inventory := by
  refine ⟨?_, fun a ha b hb => hbatch.serial_unique hunique.serial hchassis ha hb, ?_, ?_, ?_⟩
  · intro a ha b hb hmanufacturer hapi _
    rw [hchassis.consistent.api_unique.eq ha hb (Prod.ext hmanufacturer hapi)]
  · intro a ha b hb hip
    rw [hchassis.consistent.ip_unique.eq ha hb hip]
  · intro a ha b hb hip hne
    rw [hchassis.chargers] at ha hb
    rcases charger_source hchargers ha with haDb | ⟨first, hfirst, haPk, haIp⟩
    · rcases charger_source hchargers hb with hbDb | ⟨other, hother, hbPk, hbIp⟩
      · exact hunique.chargerIp a haDb b hbDb hip hne
      · rw [hbPk]
        exact (hbatch.acceptedChargers.accepted other hother).owner a haDb (hip.trans hbIp)
    · rcases charger_source hchargers hb with hbDb | ⟨other, hother, hbPk, hbIp⟩
      · rw [haPk]
        exact ((hbatch.acceptedChargers.accepted first hfirst).owner b hbDb (hip.symm.trans haIp)).symm
      · have hrows : first.1.ip = other.1.ip := Option.some.inj (haIp.symm.trans (hip.trans hbIp))
        rw [haPk, hbPk]
        exact hbatch.acceptedChargers.key_of_ip hfirst hother hrows
  · intro a ha b hb hip
    rw [hchassis.chargers] at hb
    rcases hchassis.cases a ha with ⟨haDb, -⟩ | ⟨g, hg, houtcome⟩
    · rcases charger_source hchargers hb with hbDb | ⟨entry, hentry, -, hbIp⟩
      · exact hunique.separate a haDb b hbDb hip
      · exact (hbatch.acceptedChargers.accepted entry hentry).no_chassis a haDb
          (Option.some.inj (hip.symm.trans hbIp))
    · obtain ⟨first, hfirst, rfl⟩ := (mem_groupBy entryKey).mp hg
      have hown : first ∈ (group entryKey chassis (entryKey first)).2 :=
        List.mem_filter.mpr ⟨hfirst, decide_eq_true rfl⟩
      rw [houtcome.ip first hown] at hip
      exact hbatch.no_charger hchargers hfirst b hb hip

end Final

/-- The error of a save that the identity or the address of another row prevents. -/
def SaveError.isUniqueness : SaveError → Bool
  | .integrityError | .assignedToCharger | .assignedToWirelessChassis => true
  | _ => false

def ApprovalError.isUniqueness : ApprovalError → Bool
  | .save error | .persistence (.save error) => error.isUniqueness
  | _ => false

/-- Persisting the plan fails on no uniqueness constraint and leaves one owner for everything. -/
def PlanSafe (now : Time) (db : Inventory) (items : List DiscoveryQueue)
    (plan : DiscoveryApprovalPlan) :
    Prop :=
  (∀ error, persistTargets now db items plan = .error error → error.isUniqueness = false) ∧
    ∀ final, persistTargets now db items plan = .ok final → UniquelyOwned final.inventory

def RetiredTarget (entry : ChassisEntry) : Prop :=
  ∃ chassis, entry.2.chassis = some chassis ∧ chassis.status = .retired

/-- As far as no planned target is retired, none is given an API identity that another chassis has when
its turn comes. -/
def IdentitiesFree (db : Inventory) (items : List DiscoveryQueue)
    (plan : DiscoveryApprovalPlan) : Prop :=
  ∀ entries seen g rest, chassisEntries items plan = .ok entries →
    groupBy entryKey entries = seen ++ g :: rest →
    (∀ reached ∈ seen ++ [g], ∀ entry ∈ reached.2, ¬RetiredTarget entry) →
    ∀ entry ∈ g.2, ¬IdentityTaken db seen entry

section Verdict

variable {db : Inventory} {seen : List ChassisGroup} {g : ChassisGroup} {entry : ChassisEntry}

theorem retiredTarget_iff :
    RetiredTarget entry ↔ ∃ chassis, entry.2.chassis.filter (·.status = .retired) = some chassis := by
  simp [RetiredTarget, Option.filter_eq_some_iff]

/-- What the first row of a group says of the group. -/
theorem groupVerdict_cases (hhead : g.2.head? = some entry) :
    (RetiredTarget entry ∧ ∃ chassis, groupVerdict db seen g = some (.retired chassis)) ∨
      (¬RetiredTarget entry ∧ IdentityTaken db seen entry ∧
        groupVerdict db seen g = some (.persistence (.save .integrityError))) ∨
      (¬RetiredTarget entry ∧ ¬IdentityTaken db seen entry ∧ groupVerdict db seen g = none) := by
  rw [retiredTarget_iff, groupVerdict, hhead, Option.bind_some]
  cases entry.2.chassis.filter (·.status = .retired) with
  | some chassis => exact .inl ⟨⟨chassis, rfl⟩, chassis, rfl⟩
  | none =>
      right
      by_cases htaken : IdentityTaken db seen entry
      · exact .inl ⟨by simp, htaken, if_pos htaken⟩
      · exact .inr ⟨by simp, htaken, if_neg htaken⟩

end Verdict

section Plan

variable {sha256 : String → Nat} {now : Time} {db : Inventory} {items : List DiscoveryQueue}
  {plan : DiscoveryApprovalPlan} {inventory : LockedApprovalInventory}
  {policy : DiscoveryApprovalBatchPolicy} {chargers : List ChargerEntry} {chassis : List ChassisEntry}
  (hbatch : PlannedBatch sha256 db items plan inventory policy chargers chassis) (hdb : db.Consistent)
include hbatch hdb

theorem PlannedBatch.group_agree {first entry : ChassisEntry} (hfirst : first ∈ chassis)
    (hentry : entry ∈ (group entryKey chassis (entryKey first)).2) (seen : List ChassisGroup) :
    (RetiredTarget entry ↔ RetiredTarget first) ∧
      (IdentityTaken db seen entry ↔ IdentityTaken db seen first) := by
  obtain ⟨hmem, hkey⟩ := List.mem_filter.mp hentry
  obtain ⟨htarget, hmanufacturer, -⟩ :=
    hbatch.acceptedChassis.of_key hdb.pk_unique hmem hfirst (of_decide_eq_true hkey)
  have hidentity : entryIdentity entry = entryIdentity first := by
    rw [entryIdentity, entryIdentity, DiscoveryApprovalBatchPolicy.identityOf,
      DiscoveryApprovalBatchPolicy.identityOf, htarget, hmanufacturer]
  rw [RetiredTarget, RetiredTarget, IdentityTaken, IdentityTaken, htarget, hidentity]
  exact ⟨Iff.rfl, Iff.rfl⟩

theorem PlannedBatch.verdict_cases {seen rest : List ChassisGroup} {g : ChassisGroup}
    (hsplit : groupBy entryKey chassis = seen ++ g :: rest) :
    ((∀ entry ∈ g.2, RetiredTarget entry) ∧ ∃ row, groupVerdict db seen g = some (.retired row)) ∨
      ((∀ entry ∈ g.2, ¬RetiredTarget entry ∧ IdentityTaken db seen entry) ∧
        groupVerdict db seen g = some (.persistence (.save .integrityError))) ∨
      ((∀ entry ∈ g.2, ¬RetiredTarget entry ∧ ¬IdentityTaken db seen entry) ∧
        groupVerdict db seen g = none) := by
  obtain ⟨first, hfirst, rfl, hhead, -⟩ := groupBy_position hsplit
  have hagree :=
    fun entry hentry => @PlannedBatch.group_agree _ _ _ _ _ _ _ _ hbatch hdb first entry hfirst
    hentry seen
  rcases groupVerdict_cases hhead with ⟨hretired, hverdict⟩ | ⟨hactive, htaken, hverdict⟩ |
    ⟨hactive, hfree, hverdict⟩
  · exact .inl ⟨fun entry hentry => (hagree entry hentry).1.mpr hretired, hverdict⟩
  · exact .inr (.inl ⟨fun entry hentry => ⟨mt (hagree entry hentry).1.mp hactive,
      (hagree entry hentry).2.mpr htaken⟩, hverdict⟩)
  · exact .inr (.inr ⟨fun entry hentry => ⟨mt (hagree entry hentry).1.mp hactive,
      mt (hagree entry hentry).2.mp hfree⟩, hverdict⟩)

theorem PlannedBatch.free_of_none {seen rest : List ChassisGroup} {g : ChassisGroup}
    (hsplit : groupBy entryKey chassis = seen ++ g :: rest) (hnone : groupVerdict db seen g = none) :
    ∀ entry ∈ g.2, ¬RetiredTarget entry ∧ ¬IdentityTaken db seen entry := by
  rcases hbatch.verdict_cases hdb hsplit with ⟨-, row, hretired⟩ | ⟨-, htaken⟩ | ⟨hfree, -⟩
  · cases hnone.symm.trans hretired
  · cases hnone.symm.trans htaken
  · exact hfree

/-- An accepted plan without an identity that is taken is safe. -/
theorem PlannedBatch.planSafe (hunique : UniquelyOwned db) (hfree : IdentitiesFree db items plan) :
    PlanSafe now db items plan := by
  obtain ⟨start, hstart, hcases⟩ := @PlannedBatch.persistTargets_cases _ now _ _ _ _ _ _ _ hbatch hdb
  rcases hcases with ⟨t, hrun, hinv, -⟩ | ⟨seen, g, rest, e, hsplit, hverdict, hrun, hbefore⟩
  · refine ⟨fun error herror => ?_, fun final hfinal => ?_⟩
    · cases hrun.symm.trans herror
    · obtain rfl := Except.ok.inj (hrun.symm.trans hfinal)
      exact hbatch.uniquelyOwned hunique hstart hinv
  refine ⟨fun error herror => ?_, fun final hfinal => ?_⟩
  · obtain rfl := Except.error.inj (hrun.symm.trans herror)
    rcases hbatch.verdict_cases hdb hsplit with ⟨-, row, hretired⟩ | ⟨htaken, -⟩ | ⟨-, hnone⟩
    · obtain rfl := Option.some.inj (hverdict.symm.trans hretired)
      rfl
    · -- no group that was reached has a retired target, so this one is free
      exfalso
      have hg : g ∈ groupBy entryKey chassis := by simp [hsplit]
      obtain ⟨entry, hentry⟩ := List.exists_mem_of_ne_nil _ (ne_nil_of_mem_groupBy hg)
      refine hfree chassis seen g rest hbatch.chassisEntries hsplit ?_ entry hentry
        (htaken entry hentry).2
      intro reached hreached other hother
      rcases List.mem_append.mp hreached with hreached | hreached
      · obtain ⟨before, after, rfl⟩ := List.append_of_mem hreached
        rw [List.append_assoc, List.cons_append] at hsplit
        exact (hbatch.free_of_none hdb hsplit (hbefore before reached after rfl) other hother).1
      · rw [List.mem_singleton.mp hreached] at hother
        exact (htaken other hother).1
    · cases hnone.symm.trans hverdict
  · cases hrun.symm.trans hfinal

/-- A safe plan gives no target an identity that is taken. -/
theorem PlannedBatch.identitiesFree (hsafe : PlanSafe now db items plan) :
    IdentitiesFree db items plan := by
  intro entries seen g rest hentries hsplit hactive entry hentry
  obtain rfl := Except.ok.inj (hbatch.chassisEntries.symm.trans hentries)
  obtain ⟨start, -, hcases⟩ := @PlannedBatch.persistTargets_cases _ now _ _ _ _ _ _ _ hbatch hdb
  rcases hcases with ⟨-, -, -, hnone⟩ | ⟨seen', g', rest', e, hsplit', hverdict, hrun, hbefore⟩
  · exact (hbatch.free_of_none hdb hsplit (hnone seen g rest hsplit) entry hentry).2
  -- a group that fails although no target up to it is retired fails on a taken identity
  have hstopped : ∀ other ∈ g'.2, RetiredTarget other := by
    rcases hbatch.verdict_cases hdb hsplit' with ⟨hretired, -⟩ | ⟨-, htaken⟩ | ⟨-, hnone⟩
    · exact hretired
    · have herror := hsafe.1 e hrun
      rw [← Option.some.inj (htaken.symm.trans hverdict)] at herror
      cases herror
    · cases hnone.symm.trans hverdict
  have hunreached : g' ∉ seen ++ [g] := by
    intro hmem
    have hg' : g' ∈ groupBy entryKey chassis := by simp [hsplit']
    obtain ⟨other, hother⟩ := List.exists_mem_of_ne_nil _ (ne_nil_of_mem_groupBy hg')
    exact hactive g' hmem other hother (hstopped other hother)
  rcases split_cases (hsplit.symm.trans hsplit') with ⟨-, rfl⟩ | ⟨between, rfl⟩ | ⟨between, rfl⟩
  · simp at hunreached
  · exact (hbatch.free_of_none hdb hsplit (hbefore seen g between rfl) entry hentry).2
  · simp at hunreached

end Plan

/-- **An accepted plan is safe exactly if it gives no target an API identity that is taken.** -/
theorem plan_safe_iff {sha256 : String → Nat} {now : Time} {db : Inventory}
    {items : List DiscoveryQueue}
    {plan : DiscoveryApprovalPlan} (hdb : db.Consistent) (hchargers : UniqueOn Charger.pk db.chargers)
    (hunique : UniquelyOwned db) (hitems : UniqueOn DiscoveryQueue.pk items)
    (hplan : DiscoveryApprovalPlan.build sha256 db items = .ok plan) :
    PlanSafe now db items plan ↔ IdentitiesFree db items plan := by
  obtain ⟨inventory, policy, chargers, chassis, hbatch⟩ :=
    exists_plannedBatch hdb hchargers hitems hplan
  exact ⟨hbatch.identitiesFree hdb, hbatch.planSafe hdb hunique⟩

/-! ### An identity that is taken -/

theorem receiverInventory_uniquelyOwned : UniquelyOwned receiverInventory := by
  refine ⟨?_, ?_, ?_, ?_, ?_⟩
  all_goals simp [receiverInventory, SerialsOwned]

theorem stageInventory_uniquelyOwned : UniquelyOwned stageInventory := by
  refine ⟨by decide, ?_, by decide, ?_, ?_⟩
  · rw [SerialsOwned]
    decide
  all_goals simp [stageInventory]

/-- No group of an approval gives an identity that is taken when its turn comes. -/
def groupsFree (db : Inventory) (groups : List ChassisGroup) : Bool :=
  (List.range groups.length).all fun i =>
    (groups[i]?.toList.flatMap Prod.snd).all fun entry =>
      !decide (IdentityTaken db (groups.take i) entry)

theorem groupsFree_split {db : Inventory} {groups seen rest : List ChassisGroup} {g : ChassisGroup}
    (h : groupsFree db groups = true) (hsplit : groups = seen ++ g :: rest) :
    ∀ entry ∈ g.2, ¬IdentityTaken db seen entry := by
  intro entry hentry
  rw [groupsFree, List.all_eq_true] at h
  have hlength : seen.length ∈ List.range groups.length := by simp [hsplit]
  have hfree := List.all_eq_true.mp (h seen.length hlength) entry (by simp [hsplit, hentry])
  simpa [hsplit] using hfree

/-- Two receivers that are approved into the stored ones, and a new one. -/
theorem plan_safe_iff_stage : ∃ plan,
    DiscoveryApprovalPlan.build (fun _ => 0) stageInventory stageQueue = .ok plan ∧
    PlanSafe 0 stageInventory stageQueue plan := by
  have hrun : (DiscoveryApprovalPlan.build (fun _ => 0) stageInventory stageQueue).bind (fun plan =>
      (chassisEntries stageQueue plan).map fun entries =>
        groupsFree stageInventory (groupBy entryKey entries)) =
      .ok true := by
    decide +kernel
  obtain ⟨plan, hplan, hentries⟩ := bind_eq_ok.mp hrun
  obtain ⟨entries, hentries, hfree⟩ := map_eq_ok.mp hentries
  refine ⟨plan, hplan, (plan_safe_iff stageInventory_consistent (uniqueOn_nil _)
    stageInventory_uniquelyOwned (by decide) hplan).mpr ?_⟩
  intro entries' seen g rest hentries' hsplit _
  obtain rfl := Except.ok.inj (hentries.symm.trans hentries')
  exact groupsFree_split hfree hsplit

/-- A second receiver of the queue, under the API device id that the first one brings to its chassis. -/
def rivalReceiver : DiscoveryQueue :=
  { pendingReceiver "dev-9" "" none none with
    pk := 2
    ip := "10.0.0.18"
    ip_stored := by decide +kernel
    ip_trimmed := by decide +kernel }

/-- A row that gives a stored chassis a new API device id and a row that creates a chassis under it
are both accepted, and the second one cannot be saved. -/
theorem identity_taken_within_batch :
    ¬ ∀ sha256 now (db : Inventory) items plan, db.Consistent → UniqueOn Charger.pk db.chargers →
      UniquelyOwned db → UniqueOn DiscoveryQueue.pk items →
      DiscoveryApprovalPlan.build sha256 db items = .ok plan → PlanSafe now db items plan := by
  intro hclaim
  let items := [pendingReceiver "dev-9" "SN-1" (some 1) none, rivalReceiver]
  have hbuild : (DiscoveryApprovalPlan.build (fun _ => 0) receiverInventory items).toBool = true := by
    decide +kernel
  obtain ⟨plan, hplan⟩ := exists_eq_ok hbuild
  have hrun : (DiscoveryApprovalPlan.build (fun _ => 0) receiverInventory items).bind (fun plan =>
      (persistTargets 0 receiverInventory items plan).map fun _ => ()) =
      .error (.persistence (.save .integrityError)) := by
    decide +kernel
  rw [hplan] at hrun
  have hsafe := hclaim (fun _ => 0) 0 receiverInventory items plan receiverInventory_consistent
    (uniqueOn_nil _) receiverInventory_uniquelyOwned (by decide) hplan
  cases hpersist : persistTargets 0 receiverInventory items plan with
  | ok final =>
      have hfailed : (persistTargets 0 receiverInventory items plan).map (fun _ => ()) = _ := hrun
      rw [hpersist] at hfailed
      cases hfailed
  | error error =>
      have hfailed : (persistTargets 0 receiverInventory items plan).map (fun _ => ()) = _ := hrun
      rw [hpersist] at hfailed
      have herror := hsafe.1 error hpersist
      rw [Except.error.inj hfailed] at herror
      cases herror

end Micboard
