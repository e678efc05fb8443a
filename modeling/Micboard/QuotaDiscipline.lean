import Mathlib.Data.List.Perm.Subperm
import Micboard.OrganizationQuota

/-! The device quota over any number of transactions: a commit brings a chassis into an organization
only under the lock of the organization and after a count that the lock has protected since, as long
as the location it writes is the one whose organization was checked. -/

namespace Micboard

open Library Library.Transaction OrganizationQuota

/-- What the constraints of the table guarantee. -/
structure PlacedTable.Consistent (rows : PlacedTable) : Prop where
  pk_unique : UniqueOn PlacedChassis.pk rows
  identity_unique : UniqueOn PlacedChassis.identity rows

variable (tenancy : Tenancy)

/-- The chassis with the key is in the organization. -/
def Tenancy.Belongs (rows : PlacedTable) (organization pk : Nat) : Prop :=
  ∃ row ∈ rows, row.pk = pk ∧ tenancy.organizationOf row.location = some organization

/-- One more chassis fits into the organization. -/
def Tenancy.HasRoom (rows : PlacedTable) (organization : QuotaOrganization) : Prop :=
  ∀ maxDevices, organization.maxDevices = some maxDevices →
    tenancy.currentDevices organization.pk rows + 1 ≤ maxDevices

section Count

variable {tenancy} {organization : Nat} {rows others : PlacedTable}

/-- The keys of the chassis in the organization. -/
def Tenancy.members (tenancy : Tenancy) (organization : Nat) (rows : PlacedTable) : List Nat :=
  (rows.filter fun row => tenancy.organizationOf row.location = some organization).map
    PlacedChassis.pk

theorem mem_members {pk : Nat} :
    pk ∈ tenancy.members organization rows ↔ tenancy.Belongs rows organization pk := by
  simp only [Tenancy.members, Tenancy.Belongs, List.mem_map, List.mem_filter, decide_eq_true_eq]
  exact ⟨fun ⟨row, ⟨hrow, horganization⟩, hpk⟩ => ⟨row, hrow, hpk, horganization⟩,
    fun ⟨row, hrow, hpk, horganization⟩ => ⟨row, ⟨hrow, horganization⟩, hpk⟩⟩

theorem length_members :
    (tenancy.members organization rows).length = tenancy.currentDevices organization rows := by
  rw [Tenancy.members, List.length_map, Tenancy.currentDevices, List.countP_eq_length_filter]

theorem nodup_members (h : UniqueOn PlacedChassis.pk rows) :
    (tenancy.members organization rows).Nodup :=
  List.Nodup.sublist (List.filter_sublist.map _) h

theorem currentDevices_le (hunique : UniqueOn PlacedChassis.pk rows)
    (h : ∀ pk, tenancy.Belongs rows organization pk → tenancy.Belongs others organization pk) :
    tenancy.currentDevices organization rows ≤ tenancy.currentDevices organization others := by
  rw [← length_members, ← length_members]
  refine ((nodup_members hunique).subperm fun pk hpk => ?_).length_le
  exact mem_members.mpr (h pk (mem_members.mp hpk))

/-- Where one has come in, there is at most one more. -/
theorem currentDevices_le_succ (hunique : UniqueOn PlacedChassis.pk rows) {key : Nat}
    (h : ∀ pk, tenancy.Belongs rows organization pk →
      tenancy.Belongs others organization pk ∨ pk = key) :
    tenancy.currentDevices organization rows ≤ tenancy.currentDevices organization others + 1 := by
  rw [← length_members, ← length_members]
  have hsubset : tenancy.members organization rows ⊆ key :: tenancy.members organization others := by
    intro pk hpk
    rcases h pk (mem_members.mp hpk) with hold | rfl
    · exact List.mem_cons_of_mem _ (mem_members.mpr hold)
    · exact List.mem_cons_self
  exact ((nodup_members hunique).subperm hsubset).length_le

end Count

/-- A transaction changes only the rows it has locked, gives out only identities it has locked, brings
chassis only into organizations it has locked, and none into one that is then above its quota. -/
structure QuotaChange (held : QuotaLock → Prop) (s t : PlacedTable) : Prop where
  rows : ∀ row, ¬ held (.chassis row.pk) → (row ∈ t ↔ row ∈ s)
  identity : ∀ row ∈ t, (∃ old ∈ s, old.identity = row.identity) ∨ held (.identity row.identity)
  entry : ∀ organization ∈ tenancy.organizations, ∀ pk, tenancy.Belongs t organization.pk pk →
    tenancy.Belongs s organization.pk pk ∨ held (.organization organization.pk)
  quota : ∀ organization ∈ tenancy.organizations, ∀ maxDevices,
    organization.maxDevices = some maxDevices →
      tenancy.currentDevices organization.pk t ≤ maxDevices ∨
        tenancy.currentDevices organization.pk t ≤ tenancy.currentDevices organization.pk s

def quotaDiscipline : Discipline PlacedTable QuotaLock QuotaCall where
  inv := PlacedTable.Consistent
  change _ := QuotaChange tenancy

/-- What the locks have protected since the state `s`. -/
structure Protected (held : QuotaLock → Prop) (s t : PlacedTable) : Prop where
  rows : ∀ row, held (.chassis row.pk) → (row ∈ t ↔ row ∈ s)
  identity : ∀ row ∈ t, held (.identity row.identity) → ∃ old ∈ s, old.identity = row.identity
  entry : ∀ organization ∈ tenancy.organizations, held (.organization organization.pk) →
    ∀ pk, tenancy.Belongs t organization.pk pk → tenancy.Belongs s organization.pk pk

theorem Protected.refl (held : QuotaLock → Prop) (s : PlacedTable) : Protected tenancy held s s :=
  ⟨fun _ _ => .rfl, fun row hrow _ => ⟨row, hrow, rfl⟩, fun _ _ _ _ h => h⟩

theorem stable_protected (held : QuotaLock → Prop) (s : PlacedTable) :
    (quotaDiscipline tenancy).Stable held (Protected tenancy held s) := by
  intro call others t u hothers _ _ hchange hprotected
  constructor
  case rows =>
    intro row hheld
    exact (hchange.rows row fun hother => hothers _ hother hheld).trans (hprotected.rows row hheld)
  case identity =>
    intro row hrow hheld
    rcases hchange.identity row hrow with ⟨old, hold, heq⟩ | hother
    · rw [← heq] at hheld ⊢
      exact hprotected.identity old hold hheld
    · exact absurd hheld (hothers _ hother)
  case entry =>
    intro organization horganization hheld pk hbelongs
    rcases hchange.entry organization horganization pk hbelongs with hbefore | hother
    · exact hprotected.entry organization horganization hheld pk hbefore
    · exact absurd hheld (hothers _ hother)

namespace QuotaCall

/-- The location whose organization the service checks. -/
def checkedLocation : QuotaCall → Option Nat
  | .create _ _ write | .update _ _ write _ => write.location.getD none
  | .upsert _ _ _ defaults createDefaults => (createDefaults.getD defaults).location.getD none

def givenLocation (rows : PlacedTable) : QuotaCall → Option (Option Nat)
  | .create _ _ write => some (write.location.getD none)
  | .update _ chassis write saveAllFields =>
    if write.isEmpty then none
    else if write.location.isSome then write.location
    else if saveAllFields then some chassis.location
    else none
  | .upsert _ manufacturer apiDeviceId defaults createDefaults =>
    if (Tenancy.lookup rows (manufacturer, apiDeviceId)).isSome then defaults.location
    else some ((createDefaults.getD defaults).location.getD none)

def currentOrganization (rows : PlacedTable) : QuotaCall → Option Nat
  | .create _ _ _ => none
  | .update adding chassis _ _ =>
    tenancy.persistedOrganizationId rows (if adding then none else some chassis.pk)
  | .upsert _ manufacturer apiDeviceId _ _ =>
    (Tenancy.lookup rows (manufacturer, apiDeviceId)).bind fun row =>
      tenancy.organizationOf row.location

end QuotaCall

/-- The organization of the location that is written has the chassis already, or it is the organization
that the service checks and did not find the chassis in. -/
def Covered (session : Session PlacedTable QuotaLock QuotaCall) (rows : PlacedTable) : Prop :=
  ∀ organization ∈ tenancy.organizations, ∀ location ∈ session.call.givenLocation rows,
    tenancy.organizationOf location = some organization.pk →
      session.call.currentOrganization tenancy rows = some organization.pk ∨
      (tenancy.organizationOf session.call.checkedLocation = some organization.pk ∧
        ∀ first ∈ session.seen.getLast?,
          session.call.currentOrganization tenancy first ≠ some organization.pk)

section Saves

variable {tenancy} {held later : QuotaLock → Prop} {know knowLater : PlacedTable → Prop}
  {seen seenLater : List PlacedTable} {call : QuotaCall} {rows : PlacedTable}

/-- A transaction holds no fewer locks than before, knows no less and has read no less. -/
structure Later (tenancy : Tenancy) (held : QuotaLock → Prop) (know : PlacedTable → Prop)
    (seen : List PlacedTable) (later : QuotaLock → Prop) (knowLater : PlacedTable → Prop)
    (seenLater : List PlacedTable) : Prop where
  locks : ∀ key, held key → later key
  stable : (quotaDiscipline tenancy).Stable later knowLater
  knows : ∀ t, knowLater t → know t
  reads : ∃ more, seenLater = more ++ seen

theorem Later.refl (h : (quotaDiscipline tenancy).Stable held know) :
    Later tenancy held know seen held know seen :=
  ⟨fun _ h => h, h, fun _ h => h, [], rfl⟩

theorem Later.trans {held' : QuotaLock → Prop} {know' : PlacedTable → Prop}
    {seen' : List PlacedTable} (h : Later tenancy held know seen later knowLater seenLater)
    (h' : Later tenancy later knowLater seenLater held' know' seen') :
    Later tenancy held know seen held' know' seen' := by
  obtain ⟨more, rfl⟩ := h.reads
  obtain ⟨last, rfl⟩ := h'.reads
  exact ⟨fun key hkey => h'.locks key (h.locks key hkey), h'.stable,
    fun t ht => h.knows t (h'.knows t ht), last ++ more, (List.append_assoc ..).symm⟩

theorem Later.lock (h : Later tenancy held know seen later knowLater seenLater) (key : QuotaLock) :
    Later tenancy held know seen (fun k => k = key ∨ later k) knowLater seenLater :=
  ⟨fun k hk => .inr (h.locks k hk), h.stable.mono fun _ => .inr, h.knows, h.reads⟩

theorem Later.read (h : Later tenancy held know seen later knowLater seenLater) (s : PlacedTable) :
    Later tenancy held know seen later (fun t => knowLater t ∧ Protected tenancy later s t)
      (s :: seenLater) := by
  obtain ⟨more, rfl⟩ := h.reads
  exact ⟨h.locks, h.stable.and (stable_protected tenancy later s), fun t ht => h.knows t ht.1,
    s :: more, rfl⟩

/-- The transaction goes on with `next` whatever it has locked and read besides. -/
def Proceeds (tenancy : Tenancy) (call : QuotaCall) (held : QuotaLock → Prop)
    (know : PlacedTable → Prop) (seen : List PlacedTable) (next : QuotaProgram) : Prop :=
  ∀ ⦃later knowLater seenLater⦄, Later tenancy held know seen later knowLater seenLater →
    Follows (quotaDiscipline tenancy) (Covered tenancy) call later knowLater seenLater id next

theorem Proceeds.weaken (h : Later tenancy held know seen later knowLater seenLater)
    {next : QuotaProgram} (hnext : Proceeds tenancy call held know seen next) :
    Proceeds tenancy call later knowLater seenLater next :=
  fun _ _ _ h' => hnext (h.trans h')

/-- A read goes on with what it returned and with what the locks protect from then on. -/
theorem proceeds_read {next : PlacedTable → QuotaProgram}
    (hnext : ∀ s ⦃later knowLater seenLater⦄, s.Consistent →
      Later tenancy held know seen later knowLater seenLater → knowLater s →
      Proceeds tenancy call later (fun t => knowLater t ∧ Protected tenancy later s t)
        (s :: seenLater) (next s)) :
    Proceeds tenancy call held know seen (.read next) := by
  intro later knowLater seenLater h
  refine .read (fun s t => knowLater t ∧ Protected tenancy later s t)
    (fun s _ hs => ⟨hs, .refl tenancy later s⟩) (fun s _ _ => (h.read s).stable) fun s hs hknow => ?_
  exact hnext s hs h hknow (.refl (h.read s).stable)

theorem proceeds_lock {key : QuotaLock} {next : QuotaProgram}
    (hnext : ∀ ⦃later knowLater seenLater⦄, Later tenancy held know seen later knowLater seenLater →
      Proceeds tenancy call (fun k => k = key ∨ later k) knowLater seenLater next) :
    Proceeds tenancy call held know seen (.lock key next) := by
  intro later knowLater seenLater h
  exact .lock (hnext h (.refl (h.lock key).stable))

theorem proceeds_rollback : Proceeds tenancy call held know seen .rollback :=
  fun _ _ _ _ => .rollback

/-! ### The write -/

/-- The organization of the location has the chassis already, or its lock is held and there is room. -/
def Charged (tenancy : Tenancy) (held : QuotaLock → Prop) (rows : PlacedTable) (key : Nat)
    (location : Option Nat) : Prop :=
  ∀ organization ∈ tenancy.organizations,
    tenancy.organizationOf location = some organization.pk →
      tenancy.Belongs rows organization.pk key ∨
        held (.organization organization.pk) ∧ tenancy.HasRoom rows organization

/-- A commit of one row, whose key and identity are locked and whose location is charged. -/
theorem quotaChange_of_charged {t : PlacedTable} {written : PlacedChassis}
    (ht : t.Consistent) (hothers : ∀ row, row.pk ≠ written.pk → (row ∈ t ↔ row ∈ rows))
    (hwritten : ∀ row ∈ t, row.pk = written.pk → row = written) (hkey : held (.chassis written.pk))
    (hidentity : (∃ old ∈ rows, old.identity = written.identity) ∨ held (.identity written.identity))
    (hcharged : Charged tenancy held rows written.pk written.location) :
    QuotaChange tenancy held rows t := by
  have hbelongs : ∀ organization pk, tenancy.Belongs t organization pk →
      tenancy.Belongs rows organization pk ∨
        pk = written.pk ∧ tenancy.organizationOf written.location = some organization := by
    rintro organization pk ⟨row, hrow, rfl, horganization⟩
    by_cases hpk : row.pk = written.pk
    · rw [hwritten row hrow hpk] at horganization ⊢
      exact .inr ⟨rfl, horganization⟩
    · exact .inl ⟨row, (hothers row hpk).mp hrow, rfl, horganization⟩
  constructor
  case rows =>
    intro row hfree
    refine hothers row fun hpk => hfree ?_
    rw [hpk]
    exact hkey
  case identity =>
    intro row hrow
    by_cases hpk : row.pk = written.pk
    · rw [hwritten row hrow hpk]
      exact hidentity
    · exact .inl ⟨row, (hothers row hpk).mp hrow, rfl⟩
  case entry =>
    intro organization horganization pk hpk
    rcases hbelongs _ _ hpk with hold | ⟨rfl, hnew⟩
    · exact .inl hold
    · exact (hcharged organization horganization hnew).imp_right And.left
  case quota =>
    intro organization horganization maxDevices hmax
    by_cases hnew : tenancy.organizationOf written.location = some organization.pk
    · rcases hcharged organization horganization hnew with hold | ⟨-, hroom⟩
      · refine .inr (currentDevices_le ht.pk_unique fun pk hpk => ?_)
        rcases hbelongs _ _ hpk with h | ⟨rfl, -⟩
        · exact h
        · exact hold
      · have hcount := currentDevices_le_succ ht.pk_unique fun pk hpk =>
          (hbelongs organization.pk pk hpk).imp_right And.left
        exact .inl (Nat.le_trans hcount (hroom maxDevices hmax))
    · refine .inr (currentDevices_le ht.pk_unique fun pk hpk => ?_)
      exact (hbelongs _ _ hpk).resolve_right fun h => hnew h.2

/-- What a transaction must know of the location it writes when it commits. -/
def ChargedAtCommit (tenancy : Tenancy) (call : QuotaCall) (held : QuotaLock → Prop)
    (know : PlacedTable → Prop) (seen : List PlacedTable) (pk : Nat)
    (written : PlacedTable → Option Nat → Prop) : Prop :=
  ∀ ⦃later knowLater seenLater⦄, Later tenancy held know seen later knowLater seenLater →
    ∀ (pending : PlacedTable → PlacedTable) (t : PlacedTable), t.Consistent → knowLater t →
      Covered tenancy ⟨call, seenLater, pending, .commit⟩ t →
        ∀ location, written t location → Charged tenancy later t pk location

theorem proceeds_insertChassis {row : PlacedChassis} {conflict : QuotaProgram}
    (hcharged : ChargedAtCommit tenancy call held know seen row.pk fun t location =>
      location = row.location ∧ ∀ other ∈ t, other.identity ≠ row.identity)
    (hconflict : Proceeds tenancy call held know seen conflict) :
    Proceeds tenancy call held know seen (OrganizationQuota.insertChassis row .commit conflict) := by
  refine proceeds_lock fun _ _ _ hfirst => proceeds_lock fun _ _ _ hsecond =>
    proceeds_read fun s _ _ _ hs hread _ => ?_
  have hlater := (((hfirst.lock (.chassis row.pk)).trans
    (hsecond.lock (.identity row.identity))).trans hread).read s
  split
  next => exact proceeds_rollback
  next hpk =>
    split
    next => exact hconflict.weaken hlater
    next hidentity =>
      intro last knowLast seenLast hlast
      refine .write (.commit fun t ht hknow hcovered => ?_)
      have hprotected := (hlast.knows t hknow).2
      have hkeyHeld : last (.chassis row.pk) :=
        hlast.locks _ (hread.locks _ (.inr (hsecond.locks _ (.inl rfl))))
      have hidentityHeld : last (.identity row.identity) := hlast.locks _ (hread.locks _ (.inl rfl))
      have hfreshPk : ∀ other ∈ t, other.pk ≠ row.pk := by
        intro other hother heq
        have hheld := hread.locks _ (.inr (hsecond.locks _ (.inl rfl)))
        rw [← heq] at hheld
        have hseen := (hprotected.rows other hheld).mp hother
        exact hpk (List.any_eq_true.mpr ⟨other, hseen, decide_eq_true heq⟩)
      have hfreshIdentity : ∀ other ∈ t, other.identity ≠ row.identity := by
        intro other hother heq
        have hheld := hread.locks (.identity row.identity) (.inl rfl)
        rw [← heq] at hheld
        obtain ⟨old, hold, hsame⟩ := hprotected.identity other hother hheld
        exact hidentity (List.any_eq_true.mpr ⟨old, hold, decide_eq_true (hsame.trans heq)⟩)
      have hconsistent : PlacedTable.Consistent (t ++ [row]) :=
        ⟨ht.pk_unique.append_row hfreshPk, ht.identity_unique.append_row hfreshIdentity⟩
      refine ⟨hconsistent, quotaChange_of_charged hconsistent (fun other hother => ?_)
        (fun other hother heq => ?_) hkeyHeld (.inr hidentityHeld) ?_⟩
      · have hne : other ≠ row := fun heq => hother (by rw [heq])
        simp [hne]
      · rcases List.mem_append.mp hother with hother | hother
        · exact absurd heq (hfreshPk other hother)
        · exact List.mem_singleton.mp hother
      · exact hcharged (hlater.trans hlast) _ t ht hknow hcovered _ ⟨rfl, hfreshIdentity⟩

theorem ChargedAtCommit.weaken {pk : Nat} {written narrower : PlacedTable → Option Nat → Prop}
    (hcharged : ChargedAtCommit tenancy call held know seen pk written)
    (h : Later tenancy held know seen later knowLater seenLater)
    (hwritten : ∀ t, knowLater t → ∀ location, narrower t location → written t location) :
    ChargedAtCommit tenancy call later knowLater seenLater pk narrower :=
  fun _ _ _ hlast pending t ht hknow hcovered location hlocation =>
    hcharged (h.trans hlast) pending t ht hknow hcovered location
      (hwritten t (hlast.knows t hknow) location hlocation)

/-- The write of a row that is locked, with an identity that is its own or locked and free. -/
theorem proceeds_replaceRow {row written : PlacedChassis} (hpk : written.pk = row.pk)
    (hheld : held (.chassis row.pk)) (hrow : ∀ t, know t → row ∈ t)
    (hidentity : written.identity = row.identity ∨ held (.identity written.identity) ∧
      ∀ t, know t → ∀ other ∈ t, other.identity ≠ written.identity)
    (hcharged : ChargedAtCommit tenancy call held know seen row.pk fun _ location =>
      location = written.location) :
    Proceeds tenancy call held know seen
      (.write (replaceRow PlacedChassis.pk written) .commit) := by
  intro later knowLater seenLater h
  refine .write (.commit fun t ht hknow hcovered => ?_)
  have hmem : row ∈ t := hrow t (h.knows t hknow)
  have hfresh : ∀ other ∈ t, other.pk ≠ written.pk → other.identity ≠ written.identity := by
    intro other hother hne heq
    rcases hidentity with hsame | ⟨-, hfree⟩
    · exact hne (by rw [ht.identity_unique.eq hother hmem (heq.trans hsame), hpk])
    · exact hfree t (h.knows t hknow) other hother heq
  have hconsistent : PlacedTable.Consistent (replaceRow PlacedChassis.pk written t) := by
    refine ⟨?_, ht.pk_unique.replaceRow _ ht.identity_unique hfresh⟩
    rw [UniqueOn, map_pk_replaceRow]
    exact ht.pk_unique
  have hmemWritten : ∀ other, other.pk ≠ written.pk →
      (other ∈ replaceRow PlacedChassis.pk written t ↔ other ∈ t) := by
    intro other hne
    rw [mem_replaceRow]
    constructor
    · rintro (⟨rfl, -⟩ | ⟨hother, -⟩)
      · exact absurd rfl hne
      · exact hother
    · exact fun hother => .inr ⟨hother, hne⟩
  refine ⟨hconsistent, quotaChange_of_charged hconsistent hmemWritten (fun other hother heq => ?_)
    ?_ ?_ ?_⟩
  · rcases (mem_replaceRow PlacedChassis.pk).mp hother with ⟨rfl, -⟩ | ⟨-, hne⟩
    · rfl
    · exact absurd heq hne
  · rw [hpk]
    exact h.locks _ hheld
  · rcases hidentity with hsame | ⟨hlocked, -⟩
    · exact .inl ⟨row, hmem, hsame.symm⟩
    · exact .inr (h.locks _ hlocked)
  · rw [hpk]
    exact hcharged h _ t ht hknow hcovered _ rfl

theorem proceeds_updateChassis {write : PlacedWrite} {saveAllFields : Bool} {chassis : PlacedChassis}
    (hcharged : ChargedAtCommit tenancy call held know seen chassis.pk fun t location =>
      ∃ row ∈ t, row.pk = chassis.pk ∧
        location = (write.updateRow saveAllFields chassis row).location) :
    Proceeds tenancy call held know seen
      (OrganizationQuota.updateChassis write saveAllFields chassis .commit) := by
  refine proceeds_lock fun _ _ _ hfirst => proceeds_read fun s later _ _ hs hread hknows => ?_
  have hlocked := (hfirst.lock (.chassis chassis.pk)).trans hread
  have hheld : later (.chassis chassis.pk) := hread.locks _ (.inl rfl)
  cases hfind : s.find? fun row => row.pk = chassis.pk with
  | none => exact proceeds_rollback
  | some row =>
      obtain ⟨hrow, hpk⟩ := hs.pk_unique.find?_eq_some.mp hfind
      rw [← hpk] at hheld hcharged
      have hkept : ∀ t, Protected tenancy later s t → row ∈ t := fun t hprotected =>
        (hprotected.rows row hheld).mpr hrow
      have hwritten : (write.updateRow saveAllFields chassis row).pk = row.pk := rfl
      simp only
      split
      next hsame =>
        refine proceeds_replaceRow hwritten hheld (fun t ht => hkept t ht.2) (.inl hsame)
          (hcharged.weaken (hlocked.read s) fun t ht location heq => ?_)
        exact ⟨row, hkept t ht.2, rfl, heq⟩
      next =>
        refine proceeds_lock fun _ _ _ hthird => proceeds_read fun u last knowLast _ _ hlast _ => ?_
        have hfinal := (((hlocked.read s).trans (hthird.lock (.identity
          (write.updateRow saveAllFields chassis row).identity))).trans hlast).read u
        have hidentityHeld := hlast.locks _ (.inl rfl)
        split
        next => exact proceeds_rollback
        next hfree =>
          have hkeptLast : ∀ t, knowLast t → row ∈ t := fun t ht =>
            hkept t (hthird.knows t (hlast.knows t ht)).2
          refine proceeds_replaceRow hwritten (hlast.locks _ (.inr (hthird.locks _ hheld)))
            (fun t ht => hkeptLast t ht.1)
            (.inr ⟨hidentityHeld, fun t ht other hother heq => ?_⟩)
            (hcharged.weaken hfinal fun t ht location heq =>
              ⟨row, hkeptLast t ht.1, rfl, heq⟩)
          rw [← heq] at hidentityHeld
          obtain ⟨old, hold, hold'⟩ := ht.2.identity other hother hidentityHeld
          exact hfree (List.any_eq_true.mpr ⟨old, hold, decide_eq_true (hold'.trans heq)⟩)

end Saves

end Micboard
