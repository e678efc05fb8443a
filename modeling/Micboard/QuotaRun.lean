import Micboard.QuotaDiscipline

/-! Every create, update and upsert keeps to the quota discipline, so no commit of a run brings an
organization above its quota. -/

namespace Micboard

open Library Library.Transaction OrganizationQuota

variable {tenancy : Tenancy} {held later : QuotaLock → Prop} {know knowLater : PlacedTable → Prop}
  {seen seenLater : List PlacedTable} {call : QuotaCall} {identity : Nat × String}

/-- The organization that the service checks is locked, and has room unless the first read found the
chassis in it. -/
def Checked (tenancy : Tenancy) (call : QuotaCall) (held : QuotaLock → Prop)
    (know : PlacedTable → Prop) (seen : List PlacedTable) : Prop :=
  ∀ t, t.Consistent → know t → ∀ organization ∈ tenancy.organizations,
    tenancy.organizationOf call.checkedLocation = some organization.pk →
    (∀ first ∈ seen.getLast?, call.currentOrganization tenancy first ≠ some organization.pk) →
      held (.organization organization.pk) ∧ tenancy.HasRoom t organization

theorem Checked.weaken (h : Checked tenancy call held know seen)
    (hlater : Later tenancy held know seen later knowLater seenLater) :
    Checked tenancy call later knowLater seenLater := by
  intro t ht hknow organization horganization hchecked hfirst
  obtain ⟨more, rfl⟩ := hlater.reads
  refine (h t ht (hlater.knows t hknow) organization horganization hchecked ?_).imp_left
    (hlater.locks _)
  intro first hmem
  refine hfirst first ?_
  rw [List.getLast?_append, Option.mem_def.mp hmem]
  rfl

theorem Checked.charged (h : Checked tenancy call held know seen) {pk : Nat}
    {written : PlacedTable → Option Nat → Prop}
    (hwritten : ∀ t, t.Consistent → know t → ∀ location, written t location →
      (∀ organization, tenancy.organizationOf location = some organization →
        tenancy.Belongs t organization pk) ∨
      location ∈ call.givenLocation t ∧ ∀ organization,
        call.currentOrganization tenancy t = some organization → tenancy.Belongs t organization pk) :
    ChargedAtCommit tenancy call held know seen pk written := by
  intro later knowLater seenLater hlater pending t ht hknow hcovered location hlocation
    organization horganization heq
  rcases hwritten t ht (hlater.knows t hknow) location hlocation with hthere | ⟨hgiven, hcurrent⟩
  · exact .inl (hthere _ heq)
  · rcases hcovered organization horganization location hgiven heq with hhere | ⟨hchecked, hfirst⟩
    · exact .inl (hcurrent _ hhere)
    · exact .inr (h.weaken hlater t ht hknow organization horganization hchecked hfirst)

theorem mem_owningOrganization {write : PlacedWrite} {organization : QuotaOrganization} :
    organization ∈ tenancy.owningOrganization write ↔ organization ∈ tenancy.organizations ∧
      tenancy.organizationOf (write.location.getD none) = some organization.pk := by
  rw [Tenancy.owningOrganization, Tenancy.organizationIdForValues, Option.mem_def,
    Option.bind_eq_some_iff]
  constructor
  · rintro ⟨pk, hpk, hfind⟩
    obtain ⟨hmem, rfl⟩ := tenancy.unique.find?_eq_some.mp hfind
    rw [if_pos (tenancy.installed organization hmem)] at hpk
    exact ⟨hmem, hpk⟩
  · rintro ⟨hmem, hpk⟩
    rw [if_pos (tenancy.installed organization hmem)]
    exact ⟨organization.pk, hpk, tenancy.unique.find?_eq_some.mpr ⟨hmem, rfl⟩⟩

theorem proceeds_enforceCreateQuota {organization : Option QuotaOrganization} {next : QuotaProgram}
    (hlocked : ∀ owner ∈ organization,
      owner ∈ tenancy.organizations ∧ held (.organization owner.pk))
    (hnext : ∀ ⦃later knowLater seenLater⦄, Later tenancy held know seen later knowLater seenLater →
      (∀ t, t.Consistent → knowLater t → ∀ owner ∈ organization, tenancy.HasRoom t owner) →
      Proceeds tenancy call later knowLater seenLater next) :
    Proceeds tenancy call held know seen (enforceCreateQuota tenancy organization next) := by
  intro later knowLater seenLater h
  cases organization with
  | none => exact hnext h (fun t _ _ owner howner => by cases howner) (.refl h.stable)
  | some organization =>
      obtain ⟨horganization, hheld⟩ := hlocked organization rfl
      cases hmax : organization.maxDevices with
      | none =>
          simp only [enforceCreateQuota, hmax]
          refine hnext h (fun t _ _ owner howner maxDevices heq => ?_) (.refl h.stable)
          cases howner
          rw [hmax] at heq
          cases heq
      | some maxDevices =>
          simp only [enforceCreateQuota, hmax]
          refine proceeds_read (fun s last knowLast seenLast _ hlast _ => ?_) (.refl h.stable)
          split
          next hroom =>
            refine hnext (h.trans (hlast.read s)) fun t ht hknow owner howner limit heq => ?_
            cases howner
            rw [hmax] at heq
            cases heq
            have hcount : tenancy.currentDevices organization.pk t ≤
                tenancy.currentDevices organization.pk s :=
              currentDevices_le ht.pk_unique fun pk hpk => hknow.2.entry organization horganization
                (hlast.locks _ (h.locks _ hheld)) pk hpk
            omega
          next => exact proceeds_rollback

theorem proceeds_enforceTransferQuota {organization : Option QuotaOrganization} {current : Option Nat}
    {next : QuotaProgram}
    (hlocked : ∀ owner ∈ organization,
      owner ∈ tenancy.organizations ∧ held (.organization owner.pk))
    (hnext : ∀ ⦃later knowLater seenLater⦄, Later tenancy held know seen later knowLater seenLater →
      (∀ t, t.Consistent → knowLater t → ∀ owner ∈ organization, current ≠ some owner.pk →
        tenancy.HasRoom t owner) →
      Proceeds tenancy call later knowLater seenLater next) :
    Proceeds tenancy call held know seen
      (enforceTransferQuota tenancy organization current next) := by
  rw [enforceTransferQuota]
  split
  next =>
    exact proceeds_enforceCreateQuota hlocked fun later knowLater seenLater hlater hroom =>
      hnext hlater fun t ht hknow owner howner _ => hroom t ht hknow owner howner
  next hskip =>
    intro later knowLater seenLater hlater
    refine hnext hlater (fun t _ _ owner howner hne => ?_) (.refl hlater.stable)
    cases howner
    exact absurd ⟨rfl, hne⟩ hskip

/-- The organization is locked before anything is read. -/
theorem follows_lockedOrganization {write : PlacedWrite}
    {next : Option QuotaOrganization → QuotaProgram}
    (hstable : (quotaDiscipline tenancy).Stable held know)
    (hnext : ∀ ⦃later⦄, (quotaDiscipline tenancy).Stable later know →
      (∀ owner ∈ tenancy.owningOrganization write,
        owner ∈ tenancy.organizations ∧ later (.organization owner.pk)) →
      Follows (quotaDiscipline tenancy) (Covered tenancy) call later know seen id
        (next (tenancy.owningOrganization write))) :
    Follows (quotaDiscipline tenancy) (Covered tenancy) call held know seen id
      (lockedOrganization tenancy write next) := by
  have hmem : ∀ owner ∈ tenancy.owningOrganization write, owner ∈ tenancy.organizations :=
    fun owner howner => (mem_owningOrganization.mp howner).1
  rw [lockedOrganization]
  cases hfind : tenancy.owningOrganization write with
  | none =>
      rw [hfind] at hnext
      exact hnext hstable fun owner howner => by cases howner
  | some organization =>
      rw [hfind] at hnext hmem
      refine .lock (hnext (hstable.mono fun _ => .inr) fun owner howner => ?_)
      cases howner
      exact ⟨hmem organization rfl, .inl rfl⟩

theorem follows_firstRead {next : PlacedTable → QuotaProgram}
    (hstable : (quotaDiscipline tenancy).Stable held know)
    (hnext : ∀ s, s.Consistent → know s → Proceeds tenancy call held
      (fun t => know t ∧ Protected tenancy held s t) (s :: seen) (next s)) :
    Follows (quotaDiscipline tenancy) (Covered tenancy) call held know seen id (.read next) := by
  have hlater : Later tenancy held know seen held know seen := .refl hstable
  exact .read (fun s t => know t ∧ Protected tenancy held s t)
    (fun s _ hs => ⟨hs, .refl tenancy held s⟩) (fun s _ _ => (hlater.read s).stable)
    fun s hs hknow => hnext s hs hknow (.refl (hlater.read s).stable)

theorem proceeds_getForUpdate {found : PlacedChassis → QuotaProgram} {missing : QuotaProgram}
    (hfound : ∀ ⦃later knowLater seenLater⦄ row,
      Later tenancy held know seen later knowLater seenLater → row.identity = identity →
      (∀ t, knowLater t → row ∈ t) → Proceeds tenancy call later knowLater seenLater (found row))
    (hmissing : Proceeds tenancy call held know seen missing) :
    Proceeds tenancy call held know seen (getForUpdate identity found missing) := by
  refine proceeds_read fun s _ _ _ _ hread _ => ?_
  split
  next => exact hmissing.weaken (hread.read s)
  next candidate _ =>
    refine proceeds_lock fun _ _ _ hlock => proceeds_read fun u later _ _ hu hlast _ => ?_
    have hlater := (((hread.read s).trans (hlock.lock (.chassis candidate.pk))).trans hlast).read u
    split
    next => exact hmissing.weaken hlater
    next row hfind =>
      have hrow : row ∈ u := List.mem_of_find?_eq_some hfind
      obtain ⟨hpk, hidentity⟩ : row.pk = candidate.pk ∧ row.identity = identity := by
        simpa using List.find?_some hfind
      have hheld : later (.chassis row.pk) := by
        rw [hpk]
        exact hlast.locks _ (.inl rfl)
      exact hfound row hlater hidentity fun t ht => (ht.2.rows row hheld).mpr hrow

theorem refl_quotaChange (s : PlacedTable) : QuotaChange tenancy held s s where
  rows _ _ := .rfl
  identity row hrow := .inl ⟨row, hrow, rfl⟩
  entry _ _ _ h := .inl h
  quota _ _ _ _ := .inr (Nat.le_refl _)

theorem proceeds_commit : Proceeds tenancy call held know seen .commit :=
  fun _ _ _ _ => .commit fun s hs _ _ => ⟨hs, refl_quotaChange s⟩

theorem follows_create (pk : Nat) (manufacturer : Option Nat) (write : PlacedWrite) :
    Follows (quotaDiscipline tenancy) (Covered tenancy) (.create pk manufacturer write)
      (fun _ => False) (fun _ => True) [] id (create tenancy pk manufacturer write) := by
  rw [create]
  split
  next => exact .rollback
  next selected _ =>
    split
    next apiDeviceId ip _ _ =>
      split
      next => exact .rollback
      next =>
        refine follows_lockedOrganization ((quotaDiscipline tenancy).stable_true _)
          fun later hstable hlocked => ?_
        refine proceeds_enforceCreateQuota hlocked (fun last knowLast seenLast hlast hroom => ?_)
          (.refl hstable)
        have hchecked : Checked tenancy (.create pk manufacturer write) last knowLast seenLast := by
          intro t ht hknow organization horganization heq _
          have howner := mem_owningOrganization.mpr ⟨horganization, heq⟩
          exact ⟨hlast.locks _ (hlocked organization howner).2, hroom t ht hknow organization howner⟩
        refine proceeds_insertChassis (hchecked.charged fun t _ _ location hlocation => .inr ?_)
          proceeds_rollback
        refine ⟨?_, fun organization hcurrent => by cases hcurrent⟩
        rw [hlocation.1]
        rfl
    next => exact .rollback

theorem organizationOf_none : tenancy.organizationOf none = none := rfl

theorem proceeds_persist {adding : Bool} {chassis : PlacedChassis} {write : PlacedWrite}
    {saveAllFields : Bool} (hempty : write.isEmpty = false)
    (hchecked : Checked tenancy (.update adding chassis write saveAllFields) held know seen) :
    Proceeds tenancy (.update adding chassis write saveAllFields) held know seen
      (persist adding chassis write saveAllFields) := by
  have hgiven : ∀ t, saveAllFields = true ∨ write.location.isSome = true →
      write.location.getD chassis.location ∈
        (QuotaCall.update adding chassis write saveAllFields).givenLocation t := by
    intro t h
    simp only [QuotaCall.givenLocation, hempty, Bool.false_eq_true, if_false]
    cases hlocation : write.location with
    | some location => simp
    | none =>
        rw [hlocation] at h
        simpa using h
  rw [persist]
  split
  next => exact proceeds_rollback
  next =>
    split
    next hadding =>
      split
      next hall =>
        refine proceeds_insertChassis (hchecked.charged fun t _ _ location hlocation => .inr ?_)
          proceeds_rollback
        refine ⟨?_, fun organization hcurrent => ?_⟩
        · rw [hlocation.1]
          exact hgiven t (.inl hall)
        · simp [QuotaCall.currentOrganization, Tenancy.persistedOrganizationId, hadding] at hcurrent
      next => exact proceeds_rollback
    next hstored =>
      refine proceeds_updateChassis (hchecked.charged ?_)
      rintro t ht - location ⟨row, hrow, hpk, rfl⟩
      by_cases hwrites : (saveAllFields || write.location.isSome) = true
      · refine .inr ⟨?_, fun organization hcurrent => ?_⟩
        · rw [PlacedWrite.updateRow, if_pos hwrites]
          exact hgiven t (by simpa using hwrites)
        · simp only [QuotaCall.currentOrganization, Tenancy.persistedOrganizationId, hstored,
            Bool.false_eq_true, if_false, Option.bind_some] at hcurrent
          split at hcurrent
          next =>
            obtain ⟨current, hfind, hcurrent⟩ := Option.bind_eq_some_iff.mp hcurrent
            obtain ⟨hmem, hkey⟩ := ht.pk_unique.find?_eq_some.mp hfind
            exact ⟨current, hmem, hkey, hcurrent⟩
          next => cases hcurrent
      · refine .inl fun organization horganization => ⟨row, hrow, hpk, ?_⟩
        rw [PlacedWrite.updateRow, if_neg hwrites] at horganization
        exact horganization

theorem follows_update (adding : Bool) (chassis : PlacedChassis) (write : PlacedWrite)
    (saveAllFields : Bool) :
    Follows (quotaDiscipline tenancy) (Covered tenancy) (.update adding chassis write saveAllFields)
      (fun _ => False) (fun _ => True) [] id
      (update tenancy adding chassis write saveAllFields) := by
  have hstart := (quotaDiscipline tenancy).stable_true fun _ => False
  rw [update]
  split
  next => exact proceeds_commit (.refl hstart)
  next hwrites =>
    have hempty : write.isEmpty = false := by simpa using hwrites
    split
    next hlocation =>
      refine proceeds_persist hempty (fun t _ _ organization _ heq _ => ?_) (.refl hstart)
      rw [QuotaCall.checkedLocation, Option.isNone_iff_eq_none.mp hlocation, Option.getD_none,
        organizationOf_none] at heq
      cases heq
    next =>
      refine follows_lockedOrganization hstart fun later hstable hlocked => ?_
      refine follows_firstRead hstable fun s _ _ => proceeds_enforceTransferQuota hlocked
        fun last knowLast seenLast hlast hroom => proceeds_persist hempty ?_
      intro t ht hknow organization horganization heq hfirst
      have howner := mem_owningOrganization.mpr ⟨horganization, heq⟩
      refine ⟨hlast.locks _ (hlocked organization howner).2,
        hroom t ht hknow organization howner (hfirst s ?_)⟩
      obtain ⟨more, rfl⟩ := hlast.reads
      rw [List.getLast?_append]
      rfl

theorem lookup_eq_some {rows : PlacedTable} (h : rows.Consistent) {row : PlacedChassis} :
    Tenancy.lookup rows identity = some row ↔ row ∈ rows ∧ row.identity = identity :=
  h.identity_unique.find?_eq_some

theorem proceeds_updateFound {pk manufacturer : Nat} {apiDeviceId : String} {defaults : PlacedWrite}
    {createDefaults : Option PlacedWrite} {row : PlacedChassis}
    (hchecked : Checked tenancy (.upsert pk manufacturer apiDeviceId defaults createDefaults) held
      know seen)
    (hrow : ∀ t, know t → row ∈ t) (hidentity : row.identity = (manufacturer, apiDeviceId)) :
    Proceeds tenancy (.upsert pk manufacturer apiDeviceId defaults createDefaults) held know seen
      (if defaults.withoutIdentity.isRefused then .rollback
        else OrganizationQuota.updateChassis defaults.withoutIdentity false
          (defaults.withoutIdentity.assignTo row) .commit) := by
  split
  next => exact proceeds_rollback
  next =>
    refine proceeds_updateChassis (hchecked.charged ?_)
    rintro t ht hknow location ⟨other, hother, hpk, rfl⟩
    obtain rfl : other = row := ht.pk_unique.eq hother (hrow t hknow) hpk
    have hlookup := (lookup_eq_some ht).mpr ⟨hother, hidentity⟩
    have hlocation : (defaults.withoutIdentity.updateRow false
        (defaults.withoutIdentity.assignTo other) other).location =
        defaults.location.getD other.location := by
      simp only [PlacedWrite.updateRow, PlacedWrite.assignTo, PlacedWrite.withoutIdentity,
        Bool.false_or]
      split
      next => rfl
      next hnone => rw [Option.not_isSome_iff_eq_none.mp hnone, Option.getD_none]
    rw [hlocation]
    cases hgiven : defaults.location with
    | none => exact .inl fun organization horganization => ⟨other, hother, rfl, horganization⟩
    | some location =>
        refine .inr ⟨?_, fun organization hcurrent => ?_⟩
        · simp only [QuotaCall.givenLocation, hlookup, Option.isSome_some, if_true, hgiven]
          rfl
        · simp only [QuotaCall.currentOrganization, hlookup, Option.bind_some] at hcurrent
          exact ⟨other, hother, rfl, hcurrent⟩

theorem proceeds_updateOrCreate {pk manufacturer : Nat} {apiDeviceId : String}
    {defaults : PlacedWrite} {createDefaults : Option PlacedWrite}
    (hchecked : Checked tenancy (.upsert pk manufacturer apiDeviceId defaults createDefaults) held
      know seen) :
    Proceeds tenancy (.upsert pk manufacturer apiDeviceId defaults createDefaults) held know seen
      (updateOrCreate pk (manufacturer, apiDeviceId) defaults.withoutIdentity
        (createDefaults.getD defaults).withoutIdentity) := by
  have hfound : ∀ ⦃later knowLater seenLater⦄ row,
      Later tenancy held know seen later knowLater seenLater →
      row.identity = (manufacturer, apiDeviceId) → (∀ t, knowLater t → row ∈ t) →
      Proceeds tenancy (.upsert pk manufacturer apiDeviceId defaults createDefaults) later knowLater
        seenLater (if defaults.withoutIdentity.isRefused then .rollback
          else OrganizationQuota.updateChassis defaults.withoutIdentity false
            (defaults.withoutIdentity.assignTo row) .commit) :=
    fun _ _ _ row hlater hidentity hrow =>
      proceeds_updateFound (hchecked.weaken hlater) hrow hidentity
  have hretry := proceeds_getForUpdate hfound proceeds_rollback
  rw [updateOrCreate]
  refine proceeds_getForUpdate hfound ?_
  split
  next => exact hretry
  next =>
    refine proceeds_insertChassis (hchecked.charged fun t _ _ location hlocation => .inr ?_) hretry
    obtain ⟨rfl, hfresh⟩ := hlocation
    have hnone : Tenancy.lookup t (manufacturer, apiDeviceId) = none :=
      List.find?_eq_none.mpr fun other hother heq => hfresh other hother (of_decide_eq_true heq)
    refine ⟨?_, fun organization hcurrent => ?_⟩
    · simp only [QuotaCall.givenLocation, hnone, Option.isSome_none, Bool.false_eq_true, if_false]
      rfl
    · simp [QuotaCall.currentOrganization, hnone] at hcurrent

theorem follows_upsert (pk manufacturer : Nat) (apiDeviceId : String) (defaults : PlacedWrite)
    (createDefaults : Option PlacedWrite) :
    Follows (quotaDiscipline tenancy) (Covered tenancy)
      (.upsert pk manufacturer apiDeviceId defaults createDefaults) (fun _ => False) (fun _ => True)
      [] id (upsert tenancy pk manufacturer apiDeviceId defaults createDefaults) := by
  rw [upsert]
  split
  next => exact .rollback
  next =>
    refine follows_lockedOrganization ((quotaDiscipline tenancy).stable_true _)
      fun later hstable hlocked => ?_
    refine follows_firstRead hstable fun s _ _ => proceeds_enforceTransferQuota hlocked
      fun last knowLast seenLast hlast hroom => proceeds_updateOrCreate ?_
    intro t ht hknow organization horganization heq hfirst
    have howner := mem_owningOrganization.mpr ⟨horganization, heq⟩
    refine ⟨hlast.locks _ (hlocked organization howner).2,
      hroom t ht hknow organization howner (hfirst s ?_)⟩
    obtain ⟨more, rfl⟩ := hlast.reads
    rw [List.getLast?_append]
    rfl

theorem follows_quotaCall :
    AllFollow (quotaDiscipline tenancy) (Covered tenancy) (QuotaCall.program tenancy) := by
  intro call
  cases call with
  | create pk manufacturer write => exact follows_create pk manufacturer write
  | update adding chassis write saveAllFields => exact follows_update adding chassis write saveAllFields
  | upsert pk manufacturer apiDeviceId defaults createDefaults =>
      exact follows_upsert pk manufacturer apiDeviceId defaults createDefaults

/-! ### Any number of transactions -/

/-- Over every interleaving of creates, updates and upserts in which what each commit writes is covered,
no step brings the number of chassis of an organization to a value above its finite quota. -/
theorem organization_quota_kept {ι : Type*} [DecidableEq ι] {rows : PlacedTable}
    {state next : State PlacedTable QuotaLock QuotaCall ι} (hrows : rows.Consistent)
    (hrun : Relation.ReflTransGen (Step (QuotaCall.program tenancy) (Covered tenancy))
      (State.quiet rows) state)
    (hstep : Step (QuotaCall.program tenancy) (Covered tenancy) state next) :
    ∀ organization ∈ tenancy.organizations, ∀ maxDevices,
      organization.maxDevices = some maxDevices →
        tenancy.currentDevices organization.pk next.store ≤ maxDevices ∨
          tenancy.currentDevices organization.pk next.store ≤
            tenancy.currentDevices organization.pk state.store := by
  have hstate := (disciplined_quiet hrows).run follows_quotaCall hrun
  rcases (hstate.step follows_quotaCall hstep).2 with heq | ⟨call, i, hchange⟩
  · intro organization _ maxDevices _
    rw [heq]
    exact .inr (Nat.le_refl _)
  · exact hchange.quota

/-- One organization with room for one chassis, and one location of it. -/
def smallTenancy : Tenancy where
  isInstalled := true
  locations := [⟨10, some 1⟩]
  organizations := [⟨1, some 1⟩]
  unique := by decide
  installed := by simp

instance (session : Session PlacedTable QuotaLock QuotaCall) (rows : PlacedTable) :
    Decidable (Covered tenancy session rows) := by
  unfold Covered
  infer_instance

/-- Two sessions create a chassis in the last place; the first one takes `steps` statements. -/
def contendingCreates (steps : Nat) : List (Event QuotaCall Bool) :=
  let write (apiDeviceId ip : String) : PlacedWrite := {
    apiDeviceId := some (some apiDeviceId)
    ip := some (some ip)
    location := some (some 10) }
  .start true (.create 1 (some 1) (write "dev-1" "192.0.2.1")) ::
    .start false (.create 2 (some 1) (write "dev-2" "192.0.2.2")) :: List.replicate steps (.go true)

/-- The second session waits for the organization of the first one, then finds it full and rolls
back. -/
theorem organization_quota_kept_contending :
    ((contendingCreates 1 ++ [Event.go false]).foldlM (State.perform (QuotaCall.program smallTenancy)
        (Covered smallTenancy)) (State.quiet [])).isNone = true ∧
      ∃ state next : State PlacedTable QuotaLock QuotaCall Bool,
        Step (QuotaCall.program smallTenancy) (Covered smallTenancy) state next ∧
        smallTenancy.currentDevices 1 state.store = 0 ∧ smallTenancy.currentDevices 1 next.store = 1 ∧
        (∀ organization ∈ smallTenancy.organizations, ∀ maxDevices,
          organization.maxDevices = some maxDevices →
            smallTenancy.currentDevices organization.pk next.store ≤ maxDevices ∨
              smallTenancy.currentDevices organization.pk next.store ≤
                smallTenancy.currentDevices organization.pk state.store) ∧
        ((List.replicate 3 (Event.go false)).foldlM (State.perform (QuotaCall.program smallTenancy)
          (Covered smallTenancy)) next).any (fun later => (later.sessions false).isNone = true ∧
            smallTenancy.currentDevices 1 later.store = 1) = true := by
  have hruns : ((contendingCreates 6).foldlM (State.perform (QuotaCall.program smallTenancy)
      (Covered smallTenancy)) (State.quiet [])).any (fun state =>
        (state.perform (QuotaCall.program smallTenancy) (Covered smallTenancy)
          (.go true)).any fun next =>
          smallTenancy.currentDevices 1 state.store = 0 ∧ smallTenancy.currentDevices 1 next.store = 1 ∧
          ((List.replicate 3 (Event.go false)).foldlM (State.perform (QuotaCall.program smallTenancy)
            (Covered smallTenancy)) next).any (fun later => (later.sessions false).isNone = true ∧
              smallTenancy.currentDevices 1 later.store = 1) = true) = true := by
    decide +kernel
  obtain ⟨state, hstate, hnext⟩ := (Option.any_eq_true _ _).mp hruns
  obtain ⟨next, hnext, hcount⟩ := (Option.any_eq_true _ _).mp hnext
  obtain ⟨hbefore, hafter, hlater⟩ := of_decide_eq_true hcount
  exact ⟨by decide +kernel, state, next, step_of_perform hnext, hbefore, hafter,
    organization_quota_kept ⟨uniqueOn_nil _, uniqueOn_nil _⟩ (run_of_schedule hstate)
      (step_of_perform hnext),
    hlater⟩

/-- A chassis in the organization, and one without a location. -/
def fullOrganization : PlacedTable := [⟨1, 1, "dev-1", some 10⟩, ⟨2, 1, "dev-2", none⟩]

/-- Moves the second chassis to the location by the update arm of an upsert, up to its commit. -/
def uncheckedUpsert : List (Event QuotaCall Unit) :=
  .start () (.upsert 3 1 "dev-2" { location := some (some 10) }
    (some { ip := some (some "192.0.2.2") })) :: List.replicate 7 (.go ())

/-- The organization that an upsert checks is the one of the location for a new chassis, so its update
arm fills an organization above its quota. -/
theorem organization_quota_exceeded :
    ¬ ∀ (tenancy : Tenancy) (rows : PlacedTable)
      (state next : State PlacedTable QuotaLock QuotaCall Unit), rows.Consistent →
      Relation.ReflTransGen (Step (QuotaCall.program tenancy) fun _ _ => True) (State.quiet rows)
        state →
      Step (QuotaCall.program tenancy) (fun _ _ => True) state next →
      ∀ organization ∈ tenancy.organizations, ∀ maxDevices,
        organization.maxDevices = some maxDevices →
          tenancy.currentDevices organization.pk next.store ≤ maxDevices ∨
            tenancy.currentDevices organization.pk next.store ≤
              tenancy.currentDevices organization.pk state.store := by
  intro h
  have hruns : ((uncheckedUpsert.foldlM (State.perform (QuotaCall.program smallTenancy)
      fun _ _ => True) (State.quiet fullOrganization)).any fun state =>
      (state.perform (QuotaCall.program smallTenancy) (fun _ _ => True) (.go ())).any
        fun next => smallTenancy.currentDevices 1 state.store = 1 ∧
          smallTenancy.currentDevices 1 next.store = 2) = true := by
    decide +kernel
  obtain ⟨state, hstate, hnext⟩ := (Option.any_eq_true _ _).mp hruns
  obtain ⟨next, hnext, hcount⟩ := (Option.any_eq_true _ _).mp hnext
  obtain ⟨hbefore, hafter⟩ := of_decide_eq_true hcount
  have hquota := h smallTenancy fullOrganization state next ⟨by decide, by decide⟩
    (run_of_schedule hstate) (step_of_perform hnext) ⟨1, some 1⟩ List.mem_cons_self 1 rfl
  rw [hbefore, hafter] at hquota
  omega

end Micboard
