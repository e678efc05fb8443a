import Micboard.AccessPolicy

/-! What a change through the admin site can reach. A row that may be changed may also be seen, but
for rows of another site in the hands of an unrestricted superuser and rows outside the monitoring
groups of an ordinary user; the permission for one object, the queryset of a changing request and
the permission for the whole model agree with one another; and a performer that tenants share may be
changed only by who may change all of its assignments. -/

namespace Micboard.TenantAccess

open Library TenantRoleAccessService MicboardModelAdmin

def locatedRow (pk : Nat) (location : Location) : TenantRow where
  pk
  tenantEnds := [(location.building.organizationId, location.building.campusId)]
  siteEnds := [location.building.siteId]
  location := some location

section Gates

variable {controls : DeploymentControls} {tenancy : Tenancy}
  {groups : List MonitoringGroup} {user : User}
  {model : TenantModel} {owned : Bool} {row : TenantRow} {assignments : List TenantRow}

/-- An administering membership is one that its holder reads through. -/
theorem managementMemberships_subset {scope : Nat × Option Nat}
    (h : scope ∈ managementMemberships controls tenancy user) :
    controls.multitenancyInstalled = true ∧
      scope ∈ (tenancy.memberships.filter (validForUser tenancy user)).map fun membership =>
        (membership.organizationId, membership.campusId) := by
  rw [managementMemberships] at h
  split at h
  next => cases h
  next hmode =>
    simp only [Bool.or_eq_true, Bool.not_eq_true', not_or, Bool.not_eq_false] at hmode
    obtain ⟨membership, hmem, rfl⟩ := List.mem_map.mp h
    obtain ⟨hstored, hvalid⟩ := List.mem_filter.mp hmem
    rw [Bool.and_eq_true, validForManagement_iff] at hvalid
    exact ⟨hmode.2, List.mem_map.mpr ⟨membership, List.mem_filter.mpr ⟨hstored, hvalid.1.1⟩, rfl⟩⟩

theorem forMemberships_mono {first second : List (Nat × Option Nat)} (hsubset : first ⊆ second)
    (h : TenantOptimizedQuerySet.forMemberships model first row = true) :
    TenantOptimizedQuerySet.forMemberships model second row = true := by
  unfold TenantOptimizedQuerySet.forMemberships at h ⊢
  split at h
  next => cases h
  next =>
    simp only [List.any_eq_true] at h ⊢
    obtain ⟨tenantEnd, hend, scope, hscope, hadmits⟩ := h
    exact ⟨tenantEnd, hend, scope, hsubset hscope, hadmits⟩

/-- The cases in which a row may be changed. -/
inductive Manageable (controls : DeploymentControls) (tenancy : Tenancy) (user : User)
    (model : TenantModel)
    (owned : Bool) (row : TenantRow) : Prop where
  | unbounded (hmode : tenantModeEnabled controls = false)
  | platform (hmode : tenantModeEnabled controls = true) (hglobal : isPlatformGlobalModel model = true)
      (hsuperuser : user.isSuperuser = true)
  | unrestricted (hmode : tenantModeEnabled controls = true)
    (hglobal : isPlatformGlobalModel model = false)
      (huser : hasUnrestrictedTenantAccess controls user = true)
  | site (hsites : controls.multiSiteMode = true) (hglobal : isPlatformGlobalModel model = false)
      (huser : hasUnrestrictedTenantAccess controls user = false) (hmsp : controls.mspEnabled = false)
      (hscope : TenantOptimizedQuerySet.supportsMembershipScope model = true)
      (hsite : TenantOptimizedQuerySet.forSite controls model row = true) (howned : owned = true)
  | membership (hmsp : controls.mspEnabled = true) (hglobal : isPlatformGlobalModel model = false)
      (huser : hasUnrestrictedTenantAccess controls user = false)
      (hscope : TenantOptimizedQuerySet.supportsMembershipScope model = true)
      (hmember : TenantOptimizedQuerySet.forMemberships model
        (managementMemberships controls tenancy user) row = true)
      (hsite : TenantOptimizedQuerySet.forSite controls model row = true) (howned : owned = true)

theorem forSite_of_singleSite (h : controls.multiSiteMode = false) :
    TenantOptimizedQuerySet.forSite controls model row = true := by
  rw [TenantOptimizedQuerySet.forSite, h]
  rfl

theorem forMemberships_nil : TenantOptimizedQuerySet.forMemberships model [] row = false := by
  unfold TenantOptimizedQuerySet.forMemberships
  split <;> simp

theorem scopeManageable_iff : scopeManageable controls tenancy user model owned row = true ↔
    Manageable controls tenancy user model owned row := by
  unfold scopeManageable
  cases hmode : tenantModeEnabled controls with
  | false => exact ⟨fun _ => .unbounded hmode, fun _ => rfl⟩
  | true =>
    cases hglobal : isPlatformGlobalModel model with
    | true =>
      rw [hasPlatformGlobalAccess, hglobal]
      simp only [Bool.not_true, Bool.false_eq_true, if_false, if_true, Bool.and_true]
      refine ⟨fun h => .platform hmode hglobal h, fun h => ?_⟩
      cases h <;> simp_all
    | false =>
      cases huser : hasUnrestrictedTenantAccess controls user with
      | true => exact ⟨fun _ => .unrestricted hmode hglobal huser, fun _ => rfl⟩
      | false =>
        cases hscope : TenantOptimizedQuerySet.supportsMembershipScope model with
        | false =>
          refine ⟨fun h => absurd h Bool.false_ne_true, fun h => ?_⟩
          cases h <;> simp_all
        | true =>
          cases hmsp : controls.mspEnabled with
          | false =>
            have hsites : controls.multiSiteMode = true := by
              simpa [tenantModeEnabled, hmsp] using hmode
            simp only [Bool.not_true, Bool.not_false, Bool.false_eq_true, if_false, if_true,
              Bool.and_eq_true]
            refine ⟨fun h => .site hsites hglobal huser hmsp hscope h.1 h.2, fun h => ?_⟩
            cases h <;> simp_all
          | true =>
            simp only [Bool.not_true, Bool.false_eq_true, if_false]
            constructor
            · intro h
              split at h
              next => cases h
              next =>
                split at h
                next =>
                  simp only [Bool.and_eq_true] at h
                  exact .membership hmsp hglobal huser hscope h.1.1 h.1.2 h.2
                next hsites =>
                  rw [Bool.and_eq_true] at h
                  exact .membership hmsp hglobal huser hscope h.1
                    (forSite_of_singleSite (Bool.not_eq_true _ ▸ hsites)) h.2
            · intro h
              cases h with
              | unbounded => simp_all
              | platform => simp_all
              | unrestricted => simp_all
              | site => simp_all
              | membership _ _ _ _ hmember hsite howned =>
                have hsome : (managementMemberships controls tenancy user).isEmpty = false := by
                  rw [← Bool.not_eq_true, List.isEmpty_iff]
                  intro hnil
                  rw [hnil, forMemberships_nil] at hmember
                  cases hmember
                simp [hsome, hmember, hsite, howned]

/-- What hides a row that may be changed: another site from an unrestricted superuser, and within a
boundary the manager of the model from everybody but superusers. -/
structure Shown (controls : DeploymentControls) (tenancy : Tenancy) (groups : List MonitoringGroup)
    (user : User)
    (model : TenantModel) (assignments : List TenantRow) (row : TenantRow) : Prop where
  site : hasUnrestrictedTenantAccess controls user = true → isPlatformGlobalModel model = false →
    TenantOptimizedQuerySet.forSite controls model row = true
  kept : tenantModeEnabled controls = true → user.isSuperuser = false →
    managerKeeps controls tenancy groups user model assignments row = true

theorem managerForUser_of_superuser (hsuperuser : user.isSuperuser = true) :
    managerForUser controls tenancy groups user model assignments row =
      TenantOptimizedQuerySet.forUser controls tenancy groups user model row := by
  rw [managerForUser, hsuperuser, Bool.or_true]
  rfl

/-- Of a row in the tenant scope of a restricted user the manager of the model decides. -/
theorem shown_iff_managerForUser (hauthenticated : user.isAuthenticated = true)
    (hmode : tenantModeEnabled controls = true)
    (huser : hasUnrestrictedTenantAccess controls user = false)
    (hscope : TenantOptimizedQuerySet.forUser controls tenancy groups user model row = true) :
    managerForUser controls tenancy groups user model assignments row = true ↔
      Shown controls tenancy groups user model assignments row := by
  have hsite : hasUnrestrictedTenantAccess controls user = true → isPlatformGlobalModel model = false →
      TenantOptimizedQuerySet.forSite controls model row = true := by
    rw [huser]
    exact fun h => absurd h Bool.false_ne_true
  cases hsuperuser : user.isSuperuser with
  | true =>
    rw [managerForUser_of_superuser hsuperuser]
    refine iff_of_true hscope ⟨hsite, fun _ h => ?_⟩
    rw [hsuperuser] at h
    cases h
  | false =>
    rw [managerForUser, hauthenticated, hsuperuser, hscope]
    exact ⟨fun h => ⟨hsite, fun _ _ => h⟩, fun h => h.kept hmode hsuperuser⟩

/-- The admin site shows a row that its user may change unless another site or the manager hides it. -/
theorem manageable_visible_iff (hauthenticated : user.isAuthenticated = true)
    (h : Manageable controls tenancy user model owned row) :
    scopeQuerysetForUser controls tenancy groups user model assignments row = true ↔
      Shown controls tenancy groups user model assignments row := by
  unfold scopeQuerysetForUser
  cases h with
  | unbounded hmode =>
    have hoff := hmode
    rw [tenantModeEnabled] at hoff
    have hsingle : controls.multiSiteMode = false := (Bool.or_eq_false_iff.mp hoff).2
    rw [hoff]
    refine iff_of_true rfl ⟨fun _ _ => forSite_of_singleSite hsingle, fun h => ?_⟩
    rw [hmode] at h
    cases h
  | platform hmode hglobal hsuperuser =>
    refine iff_of_true (by simp [hglobal, hsuperuser]) ⟨fun _ h => ?_, fun _ h => ?_⟩
    · rw [hglobal] at h
      cases h
    · rw [hsuperuser] at h
      cases h
  | unrestricted hmode hglobal huser =>
    have hcross := huser
    rw [hasUnrestrictedTenantAccess, Bool.and_eq_true] at hcross
    have hkept : tenantModeEnabled controls = true → user.isSuperuser = false →
        managerKeeps controls tenancy groups user model assignments row = true := by
      rw [hcross.1]
      exact fun _ h => absurd h.symm Bool.false_ne_true
    cases hsites : controls.multiSiteMode with
    | false =>
      have hmsp : controls.mspEnabled = true := by simpa [tenantModeEnabled, hsites] using hmode
      refine iff_of_true (by simp [hmsp, hcross.1, hcross.2])
        ⟨fun _ _ => forSite_of_singleSite hsites, hkept⟩
    | true =>
      have hvisible : managerForUser controls tenancy groups user model assignments row =
          TenantOptimizedQuerySet.forSite controls model row := by
        rw [managerForUser_of_superuser hcross.1]
        simp [TenantOptimizedQuerySet.forUser, hauthenticated, hcross.1, hcross.2, hsites]
      simp only [Bool.or_true, Bool.not_true, Bool.and_false, Bool.false_and, Bool.false_eq_true,
        if_false, hglobal,
        hvisible]
      exact ⟨fun hsite => ⟨fun _ _ => hsite, hkept⟩, fun h => h.site huser hglobal⟩
  | site hsites hglobal huser hmsp hscope hsite howned =>
    have hcross := huser
    rw [hasUnrestrictedTenantAccess] at hcross
    have hmode : tenantModeEnabled controls = true := by rw [tenantModeEnabled, hsites, Bool.or_true]
    have hvisible : TenantOptimizedQuerySet.forUser controls tenancy groups user model row = true := by
      simp [TenantOptimizedQuerySet.forUser, hauthenticated, hcross, hmsp, hsites, hsite]
    rw [← shown_iff_managerForUser hauthenticated hmode huser hvisible]
    simp [hmsp, hsites, hglobal]
  | membership hmsp hglobal huser hscope hmember hsite howned =>
    have hcross := huser
    rw [hasUnrestrictedTenantAccess] at hcross
    have hread :=
      forMemberships_mono (fun scope hscope => (managementMemberships_subset hscope).2) hmember
    obtain ⟨scope, hsome⟩ : ∃ scope, scope ∈ managementMemberships controls tenancy user := by
      apply List.exists_mem_of_ne_nil
      intro hnil
      rw [hnil, forMemberships_nil] at hmember
      cases hmember
    obtain ⟨hinstalled, hvalid⟩ := managementMemberships_subset hsome
    have hmemberships : ((tenancy.memberships.filter (validForUser tenancy user)).map fun membership =>
        (membership.organizationId, membership.campusId)).isEmpty = false := by
      rw [← Bool.not_eq_true, List.isEmpty_iff]
      exact List.ne_nil_of_mem hvalid
    have hvisible : TenantOptimizedQuerySet.forUser controls tenancy groups user model row = true := by
      unfold TenantOptimizedQuerySet.forUser
      simp [hauthenticated, hcross, hmsp, hinstalled, hmemberships, hread, hsite]
    have hmode : tenantModeEnabled controls = true := by rw [tenantModeEnabled, hmsp, Bool.true_or]
    rw [← shown_iff_managerForUser hauthenticated hmode huser hvisible]
    have hguard : (controls.mspEnabled && !controls.multiSiteMode && user.isSuperuser &&
        controls.allowCrossOrgView) = false := by
      rw [Bool.and_assoc, hcross, Bool.and_false]
    rw [hguard]
    simp [hmsp, hglobal]

/-- The permission for the whole model is granted to whoever may change one of its rows. -/
theorem canManageModel_of_manageable (h : Manageable controls tenancy user model owned row) :
    canManageModel controls tenancy user model = true := by
  unfold canManageModel
  cases h with
  | unbounded hmode => simp [hmode]
  | platform hmode hglobal hsuperuser => simp [hmode, hglobal, hasPlatformGlobalAccess, hsuperuser]
  | unrestricted hmode hglobal huser => simp [hglobal, huser]
  | site hsites hglobal huser hmsp hscope hsite howned => simp [hglobal, huser, hscope, hmsp]
  | membership hmsp hglobal huser hscope hmember hsite howned =>
    have hsome : managementMemberships controls tenancy user ≠ [] := by
      intro hnil
      rw [hnil, forMemberships_nil] at hmember
      cases hmember
    simp [hglobal, huser, hscope, hsome]

variable {owners : TenantRow → List TenantRow} {table : List TenantRow}

theorem mem_scopeManageableQueryset :
    row ∈ scopeManageableQueryset controls tenancy user model owners table ↔
    row ∈ table ∧ Manageable controls tenancy user model
      (scopeSharedOwnership controls tenancy user model (owners row)) row := by
  rw [scopeManageableQueryset, List.mem_filter, scopeManageable_iff]

/-- The permission for one stored object says whether its row may be changed. -/
theorem canManageObject_iff (hunique : UniqueOn TenantRow.pk table) (hrow : row ∈ table) :
    canManageObject controls tenancy user model owners table row.pk = true ↔
      Manageable controls tenancy user model
        (scopeSharedOwnership controls tenancy user model (owners row)) row := by
  have honly : table.filter (fun other => other.pk = row.pk) = [row] := by
    apply hunique.filter_eq_singleton hrow
    · simp
    · simp
  unfold canManageObject
  rw [honly, scopeManageableQueryset, ← scopeManageable_iff]
  unfold scopeManageable
  cases tenantModeEnabled controls <;> cases isPlatformGlobalModel model <;>
    cases hasUnrestrictedTenantAccess controls user <;> simp

/-- **A bulk delete is whole or refused**: it removes exactly its queryset, if every row of that may
be changed. -/
theorem deleteQueryset_eq_ok {queryset rest : List TenantRow} :
    deleteQueryset controls tenancy user model owners queryset table = .ok rest ↔
      (∀ row ∈ queryset, Manageable controls tenancy user model
        (scopeSharedOwnership controls tenancy user model (owners row)) row) ∧
        rest = table.filter fun row => row.pk ∉ queryset.map TenantRow.pk := by
  have hwhole : (scopeManageableQueryset controls tenancy user model owners queryset).length =
      queryset.length ↔
      ∀ row ∈ queryset, Manageable controls tenancy user model
        (scopeSharedOwnership controls tenancy user model (owners row)) row := by
    rw [scopeManageableQueryset, List.length_filter_eq_length_iff]
    simp only [scopeManageable_iff]
  unfold deleteQueryset
  by_cases h :
    (scopeManageableQueryset controls tenancy user model owners queryset).length = queryset.length
  · have hself : scopeManageableQueryset controls tenancy user model owners queryset = queryset := by
      rw [scopeManageableQueryset, List.filter_eq_self]
      intro row hrow
      rw [scopeManageable_iff]
      exact hwhole.mp h row hrow
    simp only [hself, ne_eq, not_true_eq_false, if_false, Except.ok.injEq]
    constructor
    · intro hrest
      exact ⟨hwhole.mp h, hrest.symm⟩
    · intro hrest
      exact hrest.2.symm
  · simp only [ne_eq, h, not_false_eq_true, if_true, reduceCtorEq, false_iff, not_and]
    intro hall
    exact absurd (hwhole.mpr hall) h

/-- Two tenants of one deployment, and an administrator of the first who only reads the second. -/
def venueControls : DeploymentControls := { mspEnabled := true, multiSiteMode := false }

def venueTenancy : Tenancy where
  organizations := [⟨1, none, true⟩, ⟨2, none, true⟩]
  campuses := []
  memberships := [
    { userId := 5, organizationId := 1, campusId := none, isActive := true, role := .admin },
    { userId := 5, organizationId := 2, campusId := none, isActive := true, role := .viewer }]

def venueAdmin : User := { pk := 5 }

def venueRows : List TenantRow :=
  [{ pk := 10, tenantEnds := [(some 1, none)] }, { pk := 20, tenantEnds := [(some 2, none)] }]

end Gates

/-! ### Shared performers -/

/-- A performer's row: its paths lead through its assignments. -/
def performerRow (pk : Nat) (owners : List TenantRow) : TenantRow where
  pk
  tenantEnds := if owners.isEmpty then [(none, none)] else owners.flatMap TenantRow.tenantEnds
  siteEnds := if owners.isEmpty then [none] else owners.flatMap TenantRow.siteEnds

/-- The user holds an active administering membership whose scope the end of a path is in. -/
def Administers (tenancy : Tenancy) (user : User) (tenantEnd : Option Nat × Option Nat) : Prop :=
  ∃ membership ∈ tenancy.memberships, membership.userId = user.pk ∧ membership.isActive = true ∧
    membership.role ∈ tenantAdminRoles ∧ tenantEnd.1 = some membership.organizationId ∧
    (membership.campusId = none ∨ membership.campusId = tenantEnd.2)

section Shared

variable {controls : DeploymentControls} {tenancy : Tenancy} {user : User} {pk : Nat}
  {owner : TenantRow}
  {owners : List TenantRow} {memberships : List (Nat × Option Nat)}

/-- Which columns lead to the tenant does not matter, as long as one leads to the campus. -/
theorem scopeAdmits_congr (organization organization' campus campus' : String)
    (scope : Nat × Option Nat)
    (tenantEnd : Option Nat × Option Nat) :
    TenantOptimizedQuerySet.scopeAdmits (organization, some campus) scope tenantEnd =
      TenantOptimizedQuerySet.scopeAdmits (organization', some campus') scope tenantEnd := by
  obtain ⟨organizationId, campusId⟩ := scope
  cases campusId <;> rfl

theorem forMemberships_performerRow (howner : owner ∈ owners)
    (h : TenantOptimizedQuerySet.forMemberships performerAssignmentModel memberships owner = true) :
    TenantOptimizedQuerySet.forMemberships performerModel memberships
      (performerRow pk owners) = true := by
  obtain ⟨tenantEnd, hend, hscope⟩ := List.any_eq_true.mp h
  have hsome : owners.isEmpty = false := by
    rw [← Bool.not_eq_true, List.isEmpty_iff]
    exact List.ne_nil_of_mem howner
  apply List.any_eq_true.mpr
  obtain ⟨scope, hmem, hadmits⟩ := List.any_eq_true.mp hscope
  rw [scopeAdmits_congr] at hadmits
  refine ⟨tenantEnd, ?_, List.any_eq_true.mpr ⟨scope, hmem, hadmits⟩⟩
  rw [performerRow, hsome]
  exact List.mem_flatMap.mpr ⟨owner, howner, hend⟩

theorem forSite_performerRow (howner : owner ∈ owners)
    (h : TenantOptimizedQuerySet.forSite controls performerAssignmentModel owner = true) :
    TenantOptimizedQuerySet.forSite controls performerModel (performerRow pk owners) = true := by
  have hsome : owners.isEmpty = false := by
    rw [← Bool.not_eq_true, List.isEmpty_iff]
    exact List.ne_nil_of_mem howner
  unfold TenantOptimizedQuerySet.forSite at h ⊢
  rw [Bool.or_eq_true, Bool.and_eq_true] at h ⊢
  apply h.imp_right
  intro hsite
  obtain ⟨site, hend, heq⟩ := List.any_eq_true.mp hsite.2
  refine ⟨rfl, List.any_eq_true.mpr ⟨site, ?_, heq⟩⟩
  rw [performerRow, hsome]
  exact List.mem_flatMap.mpr ⟨owner, howner, hend⟩

theorem scopeSharedOwnership_performer :
    scopeSharedOwnership controls tenancy user performerModel owners = true ↔
      owners ≠ [] ∧
        ∀ owner ∈ owners, Manageable controls tenancy user performerAssignmentModel true owner := by
  have hshared : ¬performerModel.labelLower ∉ sharedTenantOwnershipModelLabels := by decide
  rw [scopeSharedOwnership, if_neg hshared]
  simp only [Bool.and_eq_true, Bool.not_eq_true', List.isEmpty_eq_false_iff, List.any_eq_false,
    Bool.not_eq_false, scopeManageable_iff]

/-- An administering membership covers an end of a row that is changed within a tenant. -/
theorem administers_of_manageable {row : TenantRow} (hmsp : controls.mspEnabled = true)
    (huser : hasUnrestrictedTenantAccess controls user = false)
    (h : Manageable controls tenancy user performerAssignmentModel true row) :
    ∃ tenantEnd ∈ row.tenantEnds, Administers tenancy user tenantEnd := by
  cases h with
  | unbounded hmode =>
    rw [tenantModeEnabled, hmsp] at hmode
    cases hmode
  | platform _ hglobal => exact absurd hglobal (by decide)
  | unrestricted _ _ hfree =>
    rw [huser] at hfree
    cases hfree
  | site _ _ _ hsingle =>
    rw [hmsp] at hsingle
    cases hsingle
  | membership _ _ _ _ hmember =>
    obtain ⟨tenantEnd, hend, hscope⟩ := List.any_eq_true.mp hmember
    obtain ⟨scope, hmem, hadmits⟩ := List.any_eq_true.mp hscope
    refine ⟨tenantEnd, hend, ?_⟩
    rw [managementMemberships] at hmem
    split at hmem
    next => cases hmem
    next =>
      obtain ⟨membership, hchosen, rfl⟩ := List.mem_map.mp hmem
      obtain ⟨hstored, hvalid⟩ := List.mem_filter.mp hchosen
      rw [Bool.and_eq_true, decide_eq_true_iff] at hvalid
      obtain ⟨hvalid, hrole⟩ := hvalid
      rw [validForManagement] at hvalid
      simp only [Bool.and_eq_true, decide_eq_true_iff] at hvalid
      refine ⟨membership, hstored, hvalid.1.1.1.2, hvalid.1.1.2, hrole, ?_⟩
      rw [TenantOptimizedQuerySet.scopeAdmits, Bool.and_eq_true, decide_eq_true_iff] at hadmits
      refine ⟨hadmits.1, ?_⟩
      cases hcampus : membership.campusId with
      | none => exact .inl rfl
      | some campusId =>
        have hadmitted := hadmits.2
        rw [hcampus] at hadmitted
        exact .inr (by simpa using Eq.symm (of_decide_eq_true hadmitted))

end Shared

end Micboard.TenantAccess
