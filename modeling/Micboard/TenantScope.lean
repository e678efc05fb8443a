import Micboard.LibraryTable
import Micboard.RealtimeConsumer

/-! The tenant boundary of a deployment: which rows a user may see, and which memberships let a user
administer. A row belongs to the organization, the campus and the site of the building that its path
leads to. A filter on a path sees one row for each end of the path, with nulls where the path breaks
off, and a comparison with an absent site identifier asks for null. One state of the tables answers
all queries of an operation. -/

namespace Micboard.TenantAccess

open Library

/-- The host-owned deployment controls, with what else of the host settings the filters read. -/
structure DeploymentControls where
  mspEnabled : Bool
  multiSiteMode : Bool
  allowCrossOrgView : Bool := true
  multitenancyInstalled : Bool := true
  siteId : Option Int := some 1
  deriving DecidableEq, Repr

structure User where
  pk : Nat
  isAuthenticated : Bool := true
  isSuperuser : Bool := false
  deriving DecidableEq, Repr

/-- `OrganizationMembership.ROLE_CHOICES`. -/
inductive MembershipRole where
  | viewer | operator | admin | owner
  deriving DecidableEq, Repr

structure OrganizationMembership extends Micboard.OrganizationMembership where
  role : MembershipRole := .viewer
  deriving DecidableEq, Repr

/-- The tables of the multitenancy application. -/
structure Tenancy where
  organizations : List Organization
  campuses : List Campus
  memberships : List OrganizationMembership
  uniqueOrganization : UniqueOn Organization.pk organizations := by decide
  uniqueTogether : UniqueOn (fun row : OrganizationMembership =>
    (row.userId, row.organizationId)) memberships := by
    decide

/-- The end of a row's path to its tenant: the identifiers of a building, or nulls. -/
structure TenantPath where
  organizationId : Option Nat := none
  campusId : Option Nat := none
  siteId : Option Int := none
  deriving DecidableEq, Repr

/-- The ends of a path through a relation that may have no rows. -/
def outerJoin (paths : List TenantPath) : List TenantPath := if paths.isEmpty then [{}] else paths

/-- Return whether `user` may bypass organization membership boundaries. -/
def hasUnrestrictedTenantAccess (controls : DeploymentControls) (user : User) : Bool :=
  user.isSuperuser && controls.allowCrossOrgView

section Filters

variable (controls : DeploymentControls) (tenancy : Tenancy) (user : User)

/-- `organization__is_active=True`. -/
def organizationActive (organizationId : Nat) : Bool :=
  tenancy.organizations.any fun organization =>
    organization.pk = organizationId && organization.isActive

/-- `organization__site_id=SITE_ID`. -/
def organizationOnSite (organizationId : Nat) : Bool :=
  tenancy.organizations.any fun organization =>
    organization.pk = organizationId && organization.siteId = controls.siteId

/-- No campus, or an active campus of the membership's own organization. -/
def campusValid (membership : OrganizationMembership) : Bool :=
  match membership.campusId with
  | none => true
  | some campusId => tenancy.campuses.any fun campus =>
      campus.pk = campusId && campus.isActive && campus.organizationId = membership.organizationId

def validForUser (membership : OrganizationMembership) : Bool :=
  membership.userId = user.pk && campusValid tenancy membership && membership.isActive &&
    organizationActive tenancy membership.organizationId

/-- The memberships `management_memberships` reads, before their roles are looked at. -/
def validForManagement (membership : OrganizationMembership) : Bool :=
  campusValid tenancy membership && membership.userId = user.pk && membership.isActive &&
    organizationActive tenancy membership.organizationId &&
    (!controls.multiSiteMode || organizationOnSite controls tenancy membership.organizationId)

def tenantAdminRoles : List MembershipRole := [.admin, .owner]

/-- Return active organization/campus scopes where `user` may administer. -/
def managementMemberships : List (Nat × Option Nat) :=
  if !controls.mspEnabled || !controls.multitenancyInstalled then []
  else (tenancy.memberships.filter fun membership =>
    validForManagement controls tenancy user membership && membership.role ∈ tenantAdminRoles).map
      fun membership => (membership.organizationId, membership.campusId)

/-- One explicit organization/campus identifier pair covers the end of a path. -/
def scopeCovers (scope : Nat × Option Nat) (path : TenantPath) : Bool :=
  path.organizationId = some scope.1 &&
    match scope.2 with
    | none => true
    | some campusId => path.campusId = some campusId

def forMemberships (memberships : List (Nat × Option Nat)) (paths : List TenantPath) : Bool :=
  paths.any fun path => memberships.any fun scope => scopeCovers scope path

/-- Filter by Django Site (multi-site mode). -/
def forSite (paths : List TenantPath) : Bool :=
  !controls.multiSiteMode || paths.any fun path => path.siteId = controls.siteId

/-- Filter based on user permissions and tenant context, for a model without a location of its own. -/
def forUser (paths : List TenantPath) : Bool :=
  if !user.isAuthenticated then false
  else if user.isSuperuser && controls.allowCrossOrgView then forSite controls paths
  else if controls.mspEnabled then
    if !controls.multitenancyInstalled then false
    else forMemberships ((tenancy.memberships.filter (validForUser tenancy user)).map fun membership =>
      (membership.organizationId, membership.campusId)) paths && forSite controls paths
  else forSite controls paths

end Filters

section Spec

variable {controls : DeploymentControls} {tenancy : Tenancy} {user : User}

@[simp] theorem organizationActive_iff
    {organizationId : Nat} : organizationActive tenancy organizationId = true ↔
    ∃ organization ∈ tenancy.organizations,
      organization.pk = organizationId ∧ organization.isActive = true := by
  simp [organizationActive]

@[simp] theorem organizationOnSite_iff {organizationId : Nat} :
    organizationOnSite controls tenancy organizationId = true ↔
      ∃ organization ∈ tenancy.organizations,
        organization.pk = organizationId ∧ organization.siteId = controls.siteId := by
  simp [organizationOnSite]

/-- Who may not bypass the boundary sees a row in multi-tenant mode only through a valid membership. -/
theorem forUser_membership {paths : List TenantPath} (hmsp : controls.mspEnabled = true)
    (huser : hasUnrestrictedTenantAccess controls user = false)
    (hvisible : forUser controls tenancy user paths = true) :
    ∃ path ∈ paths, ∃ membership ∈ tenancy.memberships, validForUser tenancy user membership = true ∧
      scopeCovers (membership.organizationId, membership.campusId) path = true := by
  rw [hasUnrestrictedTenantAccess] at huser
  have hauthenticated : user.isAuthenticated = true := by
    by_contra hanonymous
    simp [forUser, hanonymous] at hvisible
  have hinstalled : controls.multitenancyInstalled = true := by
    by_contra hmissing
    simp [forUser, huser, hmsp, hmissing] at hvisible
  simp only [forUser, hauthenticated, huser, hmsp, hinstalled, Bool.not_true,
    Bool.false_eq_true, if_false,
    if_true, Bool.and_eq_true, forMemberships, List.any_eq_true, List.mem_map,
      List.mem_filter] at hvisible
  obtain ⟨⟨path, hpath, scope, ⟨membership, ⟨hmem, hvalid⟩, rfl⟩, hcovers⟩, -⟩ := hvisible
  exact ⟨path, hpath, membership, hmem, hvalid, hcovers⟩

theorem scopeCovers_iff {organizationId : Nat} {campusId : Option Nat} {path : TenantPath} :
    scopeCovers (organizationId, campusId) path = true ↔
      path.organizationId = some organizationId ∧ (campusId = none ∨ campusId = path.campusId) := by
  cases campusId with
  | none => simp [scopeCovers]
  | some campus =>
      simp only [scopeCovers, Bool.and_eq_true, decide_eq_true_eq, reduceCtorEq, false_or]
      rw [@eq_comm _ (some campus)]

theorem Tenancy.membership_eq (tenancy : Tenancy) {first second : OrganizationMembership}
    (hfirst : first ∈ tenancy.memberships) (hsecond : second ∈ tenancy.memberships)
    (huser : first.userId = second.userId)
    (horganization : first.organizationId = second.organizationId) :
    first = second :=
  tenancy.uniqueTogether.eq hfirst hsecond (Prod.ext huser horganization)

/-- Management asks of a membership what visibility asks of it, and the site of its organization. -/
theorem validForManagement_iff {membership : OrganizationMembership} :
    validForManagement controls tenancy user membership = true ↔
      validForUser tenancy user membership = true ∧
        (controls.multiSiteMode = false ∨
          organizationOnSite controls tenancy membership.organizationId = true) := by
  rw [validForManagement, validForUser]
  simp only [Bool.and_eq_true, Bool.or_eq_true, Bool.not_eq_true', decide_eq_true_eq]
  constructor
  · rintro ⟨⟨⟨⟨hcampus, hholder⟩, hactive⟩, horganization⟩, hsite⟩
    exact ⟨⟨⟨⟨hholder, hcampus⟩, hactive⟩, horganization⟩, hsite⟩
  · rintro ⟨⟨⟨⟨hholder, hcampus⟩, hactive⟩, horganization⟩, hsite⟩
    exact ⟨⟨⟨⟨hcampus, hholder⟩, hactive⟩, horganization⟩, hsite⟩

end Spec

end Micboard.TenantAccess
