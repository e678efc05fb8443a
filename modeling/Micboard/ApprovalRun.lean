import Micboard.ApprovalPersist

/-! The groups of an accepted plan, persisted one after another. Before every group the tables hold the
untouched rows and one written row for each group before it; so whether a group fails is decided by the
inventory the plan was made for and by the rows before it. -/

namespace Micboard

open Library Library.Text LockedApprovalInventory DiscoveryApprovalResolver
  DiscoveryApprovalBatchPolicy DiscoveryApprovalService

def entryKey (entry : ChassisEntry) : ApprovalTargetKey := targetKeyOf entry.1 entry.2

def entryIdentity (entry : ChassisEntry) : ChassisIdentity := identityOf entry.1 entry.2

abbrev ChassisGroup := ApprovalTargetKey × List ChassisEntry

/-- Rows with different targets and one identity do not resolve to the same chassis. -/
theorem chassis_ne_of_key_ne {a b : ChassisEntry} (hkey : entryKey a ≠ entryKey b)
    (hidentity : entryIdentity a = entryIdentity b) : a.2.chassis ≠ b.2.chassis := by
  intro heq
  apply hkey
  unfold entryKey targetKeyOf
  cases hrow : a.2.chassis with
  | none =>
      rw [heq] at hrow
      simp only [hrow, ApprovalTargetKey.chassisIdentity.injEq]
      exact ⟨congrArg Prod.fst hidentity, congrArg Prod.snd hidentity⟩
  | some row =>
      rw [heq] at hrow
      simp only [hrow]

/-- The accepted chassis rows of one plan. -/
structure AcceptedBatch (sha256 : String → Nat) (db : Inventory)
    (inventory : LockedApprovalInventory) (policy : DiscoveryApprovalBatchPolicy)
    (entries : List ChassisEntry) : Prop where
  accepted : ∀ entry ∈ entries, AcceptedChassis sha256 db inventory policy entry.1 entry.2
  locked : ∀ row ∈ inventory.chassis, row ∈ db.chassis
  unique : UniqueOn (fun entry : ChassisEntry => entry.1.pk) entries

section Batch

variable {sha256 : String → Nat} {db : Inventory} {inventory : LockedApprovalInventory}
  {policy : DiscoveryApprovalBatchPolicy} {entries : List ChassisEntry}
  (h : AcceptedBatch sha256 db inventory policy entries) {a b : ChassisEntry}
include h

theorem AcceptedBatch.target_mem (ha : a ∈ entries) {row : Chassis} (hrow : a.2.chassis = some row) :
    row ∈ db.chassis ∧ row.manufacturer.pk = a.1.manufacturer.pk :=
  ⟨h.locked row (((h.accepted a ha).resolves.chassis_iff row).mp hrow).1,
    ((h.accepted a ha).resolves.match_cases hrow).1⟩

theorem AcceptedBatch.key_of_ip (ha : a ∈ entries) (hb : b ∈ entries) (hip : a.1.ip = b.1.ip) :
    entryKey a = entryKey b := by
  have hclaim := (h.accepted a ha).claims.address.1
  rw [hip, (h.accepted b hb).claims.address.1] at hclaim
  exact (Option.some.inj hclaim).symm

theorem AcceptedBatch.identity_of_serial (ha : a ∈ entries) (hb : b ∈ entries)
    (hmanufacturer : a.1.manufacturer.pk = b.1.manufacturer.pk)
    (hserial : text a.1.serialNumber = text b.1.serialNumber)
    (hne : text a.1.serialNumber ≠ "") : entryIdentity a = entryIdentity b := by
  have hclaim := ((h.accepted a ha).claims.serial hne).2
  rw [hmanufacturer, hserial, ((h.accepted b hb).claims.serial (hserial ▸ hne)).2] at hclaim
  exact (Option.some.inj hclaim).symm

/-- Rows with one target key resolve to the same target and agree on the address. -/
theorem AcceptedBatch.of_key (hdb : UniqueOn Chassis.pk db.chassis) (ha : a ∈ entries)
    (hb : b ∈ entries) (hkey : entryKey a = entryKey b) :
    a.2 = b.2 ∧ a.1.manufacturer.pk = b.1.manufacturer.pk ∧ a.1.ip = b.1.ip := by
  have hip : a.1.ip = b.1.ip := by
    have hclaim := (h.accepted a ha).claims.address.2
    rw [show targetKeyOf a.1 a.2 = targetKeyOf b.1 b.2 from hkey,
      (h.accepted b hb).claims.address.2] at hclaim
    exact (Option.some.inj hclaim).symm
  have hchassis : a.2.chassis = b.2.chassis := by
    unfold entryKey targetKeyOf at hkey
    cases hrow : a.2.chassis with
    | none =>
        cases hother : b.2.chassis with
        | none => rfl
        | some other => simp [hrow, hother] at hkey
    | some row =>
        cases hother : b.2.chassis with
        | none => simp [hrow, hother] at hkey
        | some other =>
            simp only [hrow, hother, ApprovalTargetKey.chassis.injEq] at hkey
            rw [hdb.eq (h.target_mem ha hrow).1 (h.target_mem hb hother).1 hkey]
  have hidentity : entryIdentity a = entryIdentity b := by
    cases hrow : a.2.chassis with
    | none =>
        have hother : b.2.chassis = none := hchassis ▸ hrow
        unfold entryKey targetKeyOf at hkey
        simp only [hrow, hother, ApprovalTargetKey.chassisIdentity.injEq] at hkey
        exact Prod.ext hkey.1 hkey.2
    | some row =>
        have hclaim := (h.accepted a ha).claims.existing row hrow
        rw [(h.accepted b hb).claims.existing row (hchassis ▸ hrow)] at hclaim
        exact (Option.some.inj hclaim).symm
  have hapi : a.2.apiDeviceId = b.2.apiDeviceId := congrArg Prod.snd hidentity
  refine ⟨?_, congrArg Prod.fst hidentity, hip⟩
  rw [show a.2 = ⟨a.2.chassis, a.2.apiDeviceId⟩ from rfl, hchassis, hapi]

theorem AcceptedBatch.agree (hdb : UniqueOn Chassis.pk db.chassis) (ha : a ∈ entries) :
    Agree (group entryKey entries (entryKey a)).2 a.1 a.2 := by
  have hmem : ∀ b ∈ (group entryKey entries (entryKey a)).2, b ∈ entries ∧
      entryKey b = entryKey a := by
    intro b hb
    simpa [group] using hb
  refine ⟨by simpa [group] using ha, ?_, ?_, ?_⟩
  · intro b hb
    exact (h.of_key hdb (hmem b hb).1 ha (hmem b hb).2).1
  · intro b hb
    exact (h.of_key hdb (hmem b hb).1 ha (hmem b hb).2).2.1
  · intro b hb
    exact (h.of_key hdb (hmem b hb).1 ha (hmem b hb).2).2.2

end Batch

/-! ### The tables before a group -/

structure GroupOutcome (db : Inventory) (entries : List ChassisEntry) (row : Chassis) : Prop where
  existing : ∀ entry ∈ entries, ∀ chassis, entry.2.chassis = some chassis → row.pk = chassis.pk
  fresh : ∀ entry ∈ entries, entry.2.chassis = none → db.nextPk ≤ row.pk
  identity : ∀ entry ∈ entries, (row.manufacturer.pk, row.apiDeviceId) = entryIdentity entry
  ip : ∀ entry ∈ entries, row.ip = entry.1.ip
  serial : ∀ entry ∈ entries,
    GroupSerial entries ((entry.2.chassis.map Chassis.serialNumber).getD "") row.serialNumber

/-- The written rows and the untouched ones. -/
structure PersistInv (db : Inventory) (start : PersistingState) (done : List ChassisGroup)
    (state : PersistingState) : Prop where
  consistent : state.inventory.Consistent
  chargers : state.inventory.chargers = start.inventory.chargers
  approvedChargers : state.persistence.chargers = start.persistence.chargers
  nextPk : db.nextPk ≤ state.inventory.nextPk
  cases : ∀ row ∈ state.inventory.chassis,
    (row ∈ db.chassis ∧ ∀ g ∈ done, ∀ entry ∈ g.2, entry.2.chassis ≠ some row) ∨
      ∃ g ∈ done, GroupOutcome db g.2 row
  kept : ∀ row ∈ db.chassis, (∀ g ∈ done, ∀ entry ∈ g.2, entry.2.chassis ≠ some row) →
    row ∈ state.inventory.chassis
  recorded : ∀ g ∈ done, ∀ entry ∈ g.2, ∃ saved row,
    state.persistence.chassis entry.1.pk = some saved ∧ row ∈ state.inventory.chassis ∧
      row.pk = saved.pk ∧ GroupOutcome db g.2 row
  counts : state.persistence.createdCount + state.persistence.updatedCount =
    start.persistence.createdCount + start.persistence.updatedCount + done.length

/-- The identity a row gives its target is taken when the groups before it are done: a group with
another target was given it, or a stored chassis that none of them wrote holds it. -/
def IdentityTaken (db : Inventory) (done : List ChassisGroup) (entry : ChassisEntry) : Prop :=
  (∃ g ∈ done, ∃ other ∈ g.2, other.2.chassis ≠ entry.2.chassis ∧
      entryIdentity other = entryIdentity entry) ∨
    ∃ row ∈ db.chassis, entry.2.chassis ≠ some row ∧
      (row.manufacturer.pk, row.apiDeviceId) = entryIdentity entry ∧
      ∀ g ∈ done, ∀ other ∈ g.2, other.2.chassis ≠ some row

instance (db : Inventory) (done : List ChassisGroup) (entry : ChassisEntry) :
    Decidable (IdentityTaken db done entry) := inferInstanceAs (Decidable (_ ∨ _))

open Classical in
/-- What a group fails with after the groups before it. -/
noncomputable def groupVerdict (db : Inventory) (done : List ChassisGroup) (g : ChassisGroup) :
    Option ApprovalError :=
  g.2.head?.bind fun entry =>
    match entry.2.chassis.filter (·.status = .retired) with
    | some chassis => some (.retired chassis)
    | none =>
      if IdentityTaken db done entry then some (.persistence (.save .integrityError)) else none

theorem approveAll_eq {α : Type} (approved : Nat → Option α) (pks : List Nat) (row : α) (pk : Nat) :
    approveAll approved pks row pk = if pk ∈ pks then some row else approved pk := by
  induction pks using List.reverseRecOn with
  | nil => rfl
  | append_singleton pks last ih =>
      rw [approveAll, List.foldl_append, ← approveAll]
      show Function.update (approveAll approved pks row) last (some row) pk = _
      by_cases hlast : pk = last
      · subst hlast
        simp
      · rw [Function.update_of_ne hlast, ih]
        simp [hlast]

theorem target_untouched {done : List ChassisGroup} {entry : ChassisEntry}
    (hdone : ∀ g ∈ done, ∀ other ∈ g.2, entryKey other ≠ entryKey entry) {row : Chassis}
    (hrow : entry.2.chassis = some row) : ∀ g ∈ done, ∀ other ∈ g.2, other.2.chassis ≠ some row := by
  intro g hg other hother hsame
  apply hdone g hg other hother
  unfold entryKey targetKeyOf
  simp only [hrow, hsame]

section Step

variable {sha256 : String → Nat} {db : Inventory} {inventory : LockedApprovalInventory}
  {policy : DiscoveryApprovalBatchPolicy} {entries : List ChassisEntry}
  (h : AcceptedBatch sha256 db inventory policy entries) (hdb : db.Consistent)
  {start state : PersistingState} {done : List ChassisGroup} {entry : ChassisEntry}
  {es : List ChassisEntry}
  (hentry : entry ∈ entries)
  (hdone : ∀ g ∈ done, ∀ other ∈ g.2, other ∈ entries ∧ entryKey other ≠ entryKey entry)
  (hne : ∀ g ∈ done, g.2 ≠ [])
include h hdb hentry hdone

include hne in
/-- A row with the group's keys violates a constraint exactly if its identity is taken. -/
theorem violatesUnique_iff_taken (hinv : PersistInv db start done state) {row : Chassis}
    {stored : String} {pk : Nat} (hwritten : WrittenRow es entry.1 entry.2 pk stored row)
    (hpk : (∃ chassis, entry.2.chassis = some chassis ∧ pk = chassis.pk) ∨
      (entry.2.chassis = none ∧ pk = state.inventory.nextPk)) :
    state.inventory.violatesUnique row = true ↔ IdentityTaken db done entry := by
  have hpkEq := hwritten.pk
  rw [Inventory.violatesUnique, List.any_eq_true]
  constructor
  · rintro ⟨other, hother, hviolates⟩
    simp only [Bool.and_eq_true, Bool.or_eq_true, decide_eq_true_eq, ne_eq] at hviolates
    obtain ⟨hnePk, hkeys⟩ := hviolates
    rcases hinv.cases other hother with ⟨hmem, huntouched⟩ | ⟨g, hg, houtcome⟩
    · rcases hkeys with hip | hidentity
      · exfalso
        rw [hwritten.ip] at hip
        have howner := (h.accepted entry hentry).owner other hmem hip
        rcases hpk with ⟨chassis, hchassis, hpk⟩ | ⟨hnone, -⟩
        · rw [hchassis, Option.map_some, Option.some.injEq] at howner
          exact hnePk (by rw [hpkEq, hpk, howner])
        · rw [hnone] at howner
          cases howner
      · refine .inr ⟨other, hmem, ?_, ?_, huntouched⟩
        · intro hsame
          rcases hpk with ⟨chassis, hchassis, hpk⟩ | ⟨hnone, -⟩
          · rw [hchassis, Option.some.injEq] at hsame
            exact hnePk (by rw [hpkEq, hpk, hsame])
          · rw [hnone] at hsame
            cases hsame
        · exact (Prod.ext hidentity.1 hidentity.2).trans hwritten.identity
    · obtain ⟨first, hfirst⟩ := List.exists_mem_of_ne_nil g.2 (hne g hg)
      obtain ⟨hfirstMem, hfirstKey⟩ := hdone g hg first hfirst
      rcases hkeys with hip | hidentity
      · exfalso
        apply hfirstKey
        apply h.key_of_ip hfirstMem hentry
        rw [← houtcome.ip first hfirst, hip, hwritten.ip]
      · have hsame : entryIdentity first = entryIdentity entry := by
          rw [← houtcome.identity first hfirst]
          exact (Prod.ext hidentity.1 hidentity.2).trans hwritten.identity
        exact .inl ⟨g, hg, first, hfirst, chassis_ne_of_key_ne hfirstKey hsame, hsame⟩
  · have hviolates : ∀ other ∈ state.inventory.chassis, other.pk ≠ row.pk →
        (other.manufacturer.pk, other.apiDeviceId) = entryIdentity entry →
        ∃ other ∈ state.inventory.chassis, (decide (other.pk ≠ row.pk) &&
          (decide (other.ip = row.ip) || (decide (other.manufacturer.pk = row.manufacturer.pk) &&
            decide (other.apiDeviceId = row.apiDeviceId)))) = true := by
      intro other hother hnePk hidentity
      have hkeys := hidentity.trans hwritten.identity.symm
      refine ⟨other, hother, ?_⟩
      simp only [Bool.and_eq_true, Bool.or_eq_true, decide_eq_true_eq]
      exact ⟨hnePk, .inr ⟨congrArg Prod.fst hkeys, congrArg Prod.snd hkeys⟩⟩
    rintro (⟨g, hg, first, hfirst, hneTarget, hidentity⟩ |
      ⟨other, hother, hneTarget, hidentity, huntouched⟩)
    · obtain ⟨-, written, -, hmem, -, houtcome⟩ := hinv.recorded g hg first hfirst
      refine hviolates written hmem ?_ ((houtcome.identity first hfirst).trans hidentity)
      intro heq
      rw [hpkEq] at heq
      rcases hpk with ⟨chassis, hchassis, hpk⟩ | ⟨-, hpk⟩
      · cases hrow : first.2.chassis with
        | none =>
            have hfresh := houtcome.fresh first hfirst hrow
            have hlt := hdb.pk_lt chassis (h.target_mem hentry hchassis).1
            omega
        | some other =>
            have hpkOther := houtcome.existing first hfirst other hrow
            apply hneTarget
            rw [hrow, hchassis, hdb.pk_unique.eq (h.target_mem (hdone g hg first hfirst).1 hrow).1
              (h.target_mem hentry hchassis).1 (by omega)]
      · have hlt := hinv.consistent.pk_lt written hmem
        omega
    · have hmem := hinv.kept other hother huntouched
      refine hviolates other hmem ?_ hidentity
      intro heq
      rw [hpkEq] at heq
      rcases hpk with ⟨chassis, hchassis, hpk⟩ | ⟨-, hpk⟩
      · apply hneTarget
        rw [hchassis, hdb.pk_unique.eq hother (h.target_mem hentry hchassis).1 (by omega)]
      · have hlt := hinv.consistent.pk_lt other hmem
        omega

/-- A row that a group before this one wrote is not the row that this one writes. -/
theorem outcome_pk_ne (hinv : PersistInv db start done state) {pk : Nat}
    (hpk : (∃ chassis, entry.2.chassis = some chassis ∧ pk = chassis.pk) ∨
      (entry.2.chassis = none ∧ pk = state.inventory.nextPk))
    {g : ChassisGroup} (hg : g ∈ done) {first : ChassisEntry} (hfirst : first ∈ g.2) {row : Chassis}
    (hrow : row ∈ state.inventory.chassis) (houtcome : GroupOutcome db g.2 row) : row.pk ≠ pk := by
  intro heq
  rcases hpk with ⟨chassis, hchassis, hpk⟩ | ⟨-, hpk⟩
  · cases hother : first.2.chassis with
    | none =>
        have hfresh := houtcome.fresh first hfirst hother
        have hlt := hdb.pk_lt chassis (h.target_mem hentry hchassis).1
        omega
    | some other =>
        have hpkOther := houtcome.existing first hfirst other hother
        have hsame : other = chassis :=
          hdb.pk_unique.eq (h.target_mem (hdone g hg first hfirst).1 hother).1
            (h.target_mem hentry hchassis).1 (by omega)
        exact target_untouched (fun g hg other hother => (hdone g hg other hother).2) hchassis
          g hg first hfirst (hsame ▸ hother)
  · have hlt := hinv.consistent.pk_lt row hrow
    omega

/-- Writing a group's row keeps the invariant. -/
theorem PersistInv.write (hinv : PersistInv db start done state) {g : ChassisGroup}
    (hg : g = group entryKey entries (entryKey entry)) {db' : Inventory} {saved row : Chassis}
    {stored : String} (hsaved : saved.pk = row.pk)
    (hwritten : WrittenRow g.2 entry.1 entry.2 row.pk stored row)
    (hstored : stored = (entry.2.chassis.map Chassis.serialNumber).getD "")
    (hwrites : WritesRow state.inventory db' row)
    (hpk : (∃ chassis, entry.2.chassis = some chassis ∧ row.pk = chassis.pk) ∨
      (entry.2.chassis = none ∧ row.pk = state.inventory.nextPk))
    {created updated : Nat} (hcount : created + updated =
      state.persistence.createdCount + state.persistence.updatedCount + 1) :
    PersistInv db start (done ++ [g]) {
      inventory := db'
      persistence := { state.persistence with
        chassis := approveAll state.persistence.chassis (g.2.map (·.1.pk)) saved
        createdCount := created
        updatedCount := updated } } := by
  have hagree : Agree g.2 entry.1 entry.2 := hg ▸ h.agree hdb.pk_unique hentry
  have hmem : ∀ other ∈ g.2, other ∈ entries ∧ entryKey other = entryKey entry := by
    intro other hother
    rw [hg] at hother
    simpa [group] using hother
  have houtcome : GroupOutcome db g.2 row := by
    refine ⟨?_, ?_, ?_, ?_, ?_⟩
    · intro other hother chassis hchassis
      rw [hagree.target other hother] at hchassis
      rcases hpk with ⟨chassis', hchassis', hpk⟩ | ⟨hnone, -⟩
      · rw [hchassis', Option.some.injEq] at hchassis
        rw [hpk, hchassis]
      · rw [hnone] at hchassis
        cases hchassis
    · intro other hother hnone
      rw [hagree.target other hother] at hnone
      rcases hpk with ⟨chassis', hchassis', -⟩ | ⟨-, hpk⟩
      · rw [hchassis'] at hnone
        cases hnone
      · rw [hpk]
        exact hinv.nextPk
    · intro other hother
      rw [hwritten.identity, entryIdentity, identityOf, identityOf, hagree.target other hother,
        hagree.manufacturer other hother]
    · intro other hother
      rw [hwritten.ip, hagree.ip other hother]
    · intro other hother
      rw [hagree.target other hother, ← hstored]
      exact hwritten.serial
  have hforall : ∀ P : ChassisGroup → Prop, (∀ g' ∈ done ++ [g], P g') ↔ (∀ g' ∈ done, P g') ∧ P g := by
    intro P
    simp [or_imp, forall_and]
  refine ⟨hwrites.consistent, hwrites.chargers.trans hinv.chargers, hinv.approvedChargers,
    hinv.nextPk.trans hwrites.nextPk, ?_, ?_, ?_, ?_⟩
  · intro other hother
    rcases (hwrites.mem other).mp hother with rfl | ⟨hother, hnePk⟩
    · exact .inr ⟨g, by simp, houtcome⟩
    rcases hinv.cases other hother with ⟨hdbMem, huntouched⟩ | ⟨g', hg', hother'⟩
    · refine .inl ⟨hdbMem, (hforall _).mpr ⟨huntouched, ?_⟩⟩
      intro target htarget hsame
      rw [houtcome.existing target htarget other hsame] at hnePk
      exact hnePk rfl
    · exact .inr ⟨g', List.mem_append_left _ hg', hother'⟩
  · intro other hother huntouched
    obtain ⟨hbefore, hlast⟩ := (hforall _).mp huntouched
    refine (hwrites.mem other).mpr (.inr ⟨hinv.kept other hother hbefore, ?_⟩)
    intro heq
    rcases hpk with ⟨chassis, hchassis, hpk⟩ | ⟨-, hpk⟩
    · refine hlast (entry.1, entry.2) hagree.mem ?_
      rw [hchassis, hdb.pk_unique.eq hother (h.target_mem hentry hchassis).1 (heq.trans hpk)]
    · have hlt := hdb.pk_lt other hother
      have hle := hinv.nextPk
      omega
  · refine (hforall _).mpr ⟨?_, ?_⟩
    · intro g' hg' other hother
      obtain ⟨saved', row', hrecorded, hrow', hpk', houtcome'⟩ := hinv.recorded g' hg' other hother
      refine ⟨saved', row', ?_, ?_, hpk', houtcome'⟩
      · show approveAll _ _ _ _ = _
        rw [approveAll_eq, if_neg]
        · exact hrecorded
        · intro hsame
          obtain ⟨third, hthird, hpkThird⟩ := List.mem_map.mp hsame
          have heq : third = other :=
            h.unique.eq (hmem third hthird).1 (hdone g' hg' other hother).1 hpkThird
          exact (hdone g' hg' other hother).2 (heq ▸ (hmem third hthird).2)
      · refine (hwrites.mem row').mpr (.inr ⟨hrow', ?_⟩)
        exact outcome_pk_ne h hdb hentry hdone hinv hpk hg' hother hrow' houtcome'
    · intro other hother
      refine ⟨saved, row, ?_, (hwrites.mem row).mpr (.inl rfl), hsaved.symm, houtcome⟩
      show approveAll _ _ _ _ = _
      rw [approveAll_eq, if_pos (List.mem_map_of_mem hother)]
  · show created + updated = _
    rw [hcount, hinv.counts, List.length_append, List.length_singleton, Nat.add_assoc]

include hne in
/-- A group does what the rows before it and the inventory say. -/
theorem persistChassisGroup_verdict {now : Time} (hinv : PersistInv db start done state)
    {g : ChassisGroup} (hg : g = group entryKey entries (entryKey entry))
    (hhead : g.2.head? = some entry)
    (hcharger : ∀ charger ∈ state.inventory.chargers, charger.ip ≠ some entry.1.ip) :
    match groupVerdict db done g with
    | none => ∃ t, persistChassisGroup now state g = .ok t ∧ PersistInv db start (done ++ [g]) t
    | some e => persistChassisGroup now state g = .error e := by
  have hagree : Agree g.2 entry.1 entry.2 := hg ▸ h.agree hdb.pk_unique hentry
  have hresolves := (h.accepted entry hentry).resolves
  have hapi : trim entry.2.apiDeviceId = entry.2.apiDeviceId := by
    rw [hresolves.apiDeviceId]
    exact trim_persistedApiDeviceId sha256 entry.1 entry.2.chassis
  rw [groupVerdict, hhead, Option.bind_some]
  cases hretired : entry.2.chassis.filter (·.status = .retired) with
  | some chassis =>
      obtain ⟨hchassis, hstatus⟩ := Option.filter_eq_some_iff.mp hretired
      simp only
      rw [persistChassisGroup, adopt_retired hagree hchassis (of_decide_eq_true hstatus)]
      rfl
  | none =>
  have hactive : ∀ chassis, entry.2.chassis = some chassis → chassis.status ≠ .retired := by
    intro chassis hchassis hstatus
    have hsome : entry.2.chassis.filter (·.status = .retired) = some chassis :=
      Option.filter_eq_some_iff.mpr ⟨hchassis, decide_eq_true hstatus⟩
    rw [hretired] at hsome
    cases hsome
  cases hchassis : entry.2.chassis with
  | some chassis =>
      have hfind : state.inventory.find chassis.pk = some chassis := by
        rw [hinv.consistent.find_eq_some]
        refine ⟨hinv.kept chassis (h.target_mem hentry hchassis).1 ?_, rfl⟩
        exact target_untouched (fun g hg other hother => (hdone g hg other hother).2) hchassis
      obtain ⟨row, hwritten, hfails, hsucceeds⟩ := @adopt_existing_cases now _ _ _ _ hagree hapi
        hinv.consistent hcharger chassis hchassis (hactive chassis hchassis) hfind
      have hiff := violatesUnique_iff_taken h hdb hentry hdone hne hinv hwritten
        (.inl ⟨chassis, hchassis, rfl⟩)
      by_cases htaken : IdentityTaken db done entry
      · simp only [if_pos htaken]
        rw [persistChassisGroup, hfails (hiff.mpr htaken)]
        rfl
      · simp only [if_neg htaken]
        obtain ⟨db', saved, row', hok, hsaved, hwritten', hwrites⟩ :=
          hsucceeds (Bool.eq_false_iff.mpr fun hviolates => htaken (hiff.mp hviolates))
        refine ⟨_, by rw [persistChassisGroup, hok]; rfl, ?_⟩
        refine hinv.write h hdb hentry hdone hg hsaved (hwritten'.pk ▸ hwritten') ?_ hwrites
          (.inl ⟨chassis, hchassis, hwritten'.pk⟩) ?_
        · rw [hchassis]
          rfl
        · simp only [Bool.toNat_false, Bool.not_false, Bool.toNat_true]
          omega
  | none =>
      obtain ⟨row, hwritten, hfails, hsucceeds⟩ := @adopt_new_cases now _ _ _ _ hagree hapi
        hresolves.apiDeviceId_ne hinv.consistent hcharger hchassis
      have hiff := violatesUnique_iff_taken h hdb hentry hdone hne hinv hwritten
        (.inr ⟨hchassis, rfl⟩)
      by_cases htaken : IdentityTaken db done entry
      · simp only [if_pos htaken]
        rw [persistChassisGroup, hfails (hiff.mpr htaken)]
        rfl
      · simp only [if_neg htaken]
        obtain ⟨db', saved, hok, hsaved, hwrites⟩ :=
          hsucceeds (Bool.eq_false_iff.mpr fun hviolates => htaken (hiff.mp hviolates))
        refine ⟨_, by rw [persistChassisGroup, hok]; rfl, ?_⟩
        refine hinv.write h hdb hentry hdone hg hsaved (hwritten.pk ▸ hwritten) ?_ hwrites
          (.inr ⟨hchassis, hwritten.pk⟩) ?_
        · rw [hchassis]
          rfl
        · simp only [Bool.toNat_false, Bool.not_true, Bool.toNat_true]
          omega

end Step

end Micboard
