import Micboard.DisplayModel

/-! Who may change which rows. A model is known by its label and by the attributes its class has;
these decide through which columns its rows lead to a tenant. A row carries what the lookups of its
model read at the end of every path they join. Reading is bounded by memberships of any role,
changing by those of administering roles, and a performer is shared by the tenants of its
assignments. One state of the tables answers all queries of a decision. -/

namespace Micboard.TenantAccess

open Library

/-- A model class, with those of its attributes that the filters ask for. -/
structure TenantModel where
  labelLower : String
  attributes : List String
  deriving DecidableEq, Repr

def TenantModel.hasattr (model : TenantModel) (name : String) : Bool := name ∈ model.attributes

/-- A row, with the organization and campus, and with the site, at the end of each path of its
model's lookups, and with the monitoring groups that the filters of its manager lead to; `location`
is the column of that name. -/
structure TenantRow where
  pk : Nat
  tenantEnds : List (Option Nat × Option Nat) := []
  siteEnds : List (Option Int) := []
  groupEnds : List Nat := []
  location : Option Location := none
  deriving DecidableEq, Repr

def explicitTenantLookups : List (String × String × Option String) :=
  [("micboard_multitenancy.organization", "pk", none),
    ("micboard_multitenancy.campus", "organization_id", some "pk"),
    ("micboard.alert", "channel__chassis__location__building__organization_id",
      some "channel__chassis__location__building__campus_id"),
    ("micboard.chargerslot", "charger__location__building__organization_id",
      some "charger__location__building__campus_id"),
    ("micboard.devicemovementlog", "device__location__building__organization_id",
      some "device__location__building__campus_id"),
    ("micboard.wallsection", "wall__location__building__organization_id",
      some "wall__location__building__campus_id")]

def explicitSiteLookups : List (String × String) :=
  [("micboard.alert", "channel__chassis__location__building__site_id"),
    ("micboard.chargerslot", "charger__location__building__site_id"),
    ("micboard.devicemovementlog", "device__location__building__site_id"),
    ("micboard.wallsection", "wall__location__building__site_id")]

def relationshipTenantLookups : List (String × String × Option String) :=
  [("building", "building__organization_id", some "building__campus_id"),
    ("location", "location__building__organization_id", some "location__building__campus_id"),
    ("base_chassis", "base_chassis__location__building__organization_id",
      some "base_chassis__location__building__campus_id"),
    ("chassis", "chassis__location__building__organization_id",
      some "chassis__location__building__campus_id"),
    ("wireless_unit", "wireless_unit__base_chassis__location__building__organization_id",
      some "wireless_unit__base_chassis__location__building__campus_id"),
    ("assignments", "assignments__wireless_unit__base_chassis__location__building__organization_id",
      some "assignments__wireless_unit__base_chassis__location__building__campus_id"),
    ("campus", "campus__organization_id", some "campus_id")]

def relationshipSiteLookups : List (String × String) :=
  [("building", "building__site_id"),
    ("location", "location__building__site_id"),
    ("base_chassis", "base_chassis__location__building__site_id"),
    ("chassis", "chassis__location__building__site_id"),
    ("wireless_unit", "wireless_unit__base_chassis__location__building__site_id"),
    ("assignments", "assignments__wireless_unit__base_chassis__location__building__site_id"),
    ("organization", "organization__site_id"),
    ("campus", "campus__organization__site_id")]

namespace TenantOptimizedQuerySet

/-- Return organization and campus lookups for the queryset model. -/
def tenantLookups (model : TenantModel) : Option (String × Option String) :=
  match explicitTenantLookups.find? fun entry => entry.1 = model.labelLower with
  | some entry => some entry.2
  | none =>
    if model.hasattr "organization_id" then
      some ("organization_id", if model.hasattr "campus_id" then some "campus_id" else none)
    else (relationshipTenantLookups.find? fun entry => model.hasattr entry.1).map Prod.snd

/-- Return whether this model has an explicit tenant ownership path. -/
def supportsMembershipScope (model : TenantModel) : Bool := (tenantLookups model).isSome

/-- Return the Django Site lookup for the queryset model. -/
def siteLookup (model : TenantModel) : Option String :=
  if model.hasattr "site_id" then some "site_id"
  else match explicitSiteLookups.find? fun entry => entry.1 = model.labelLower with
    | some entry => some entry.2
    | none => (relationshipSiteLookups.find? fun entry => model.hasattr entry.1).map Prod.snd

/-- Filter by Django Site (multi-site mode). -/
def forSite (controls : DeploymentControls) (model : TenantModel) (row : TenantRow) : Bool :=
  !controls.multiSiteMode || ((siteLookup model).isSome && row.siteEnds.any fun site =>
    site = controls.siteId)

/-- The condition of one scope on the end of a path. A model without campuses is out of a campus's
reach, but for the organizations themselves. -/
def scopeAdmits (lookups : String × Option String) (scope : Nat × Option Nat)
    (tenantEnd : Option Nat × Option Nat) :
    Bool :=
  tenantEnd.1 = some scope.1 &&
    match scope.2, lookups.2 with
    | none, _ => true
    | some _, none => lookups.1 = "pk"
    | some campusId, some _ => tenantEnd.2 = some campusId

/-- Filter through explicit organization/campus membership identifiers. -/
def forMemberships (model : TenantModel) (memberships : List (Nat × Option Nat))
    (row : TenantRow) : Bool :=
  match tenantLookups model with
  | none => false
  | some lookups => row.tenantEnds.any fun tenantEnd => memberships.any fun scope =>
      scopeAdmits lookups scope tenantEnd

/-- Filter based on user permissions and tenant context. -/
def forUser (controls : DeploymentControls) (tenancy : Tenancy)
    (groups : List MonitoringGroup) (user : User)
    (model : TenantModel) (row : TenantRow) : Bool :=
  if !user.isAuthenticated then false
  else if user.isSuperuser && controls.allowCrossOrgView then
    if controls.multiSiteMode then forSite controls model row else true
  else if controls.mspEnabled then
    if !controls.multitenancyInstalled then false
    else
      let memberships := (tenancy.memberships.filter (validForUser tenancy user)).map fun membership =>
        (membership.organizationId, membership.campusId)
      if memberships.isEmpty then false
      else if controls.multiSiteMode then forMemberships model memberships row &&
        forSite controls model row
      else forMemberships model memberships row
  else if controls.multiSiteMode then forSite controls model row
  else if model.hasattr "location" then
    match row.location with
    | none => false
    | some location => groups.any fun group =>
        isActiveMember user group && Display.groupHoldsLocation group location
  else true

end TenantOptimizedQuerySet

/-- Explicit host-wide administration surfaces, which carry no tenant key. -/
def platformGlobalAdminModelLabels : List String :=
  ["micboard.activitylog", "micboard.configurationauditlog", "micboard.discovereddevice",
    "micboard.discoverycidr",
    "micboard.discoveryfqdn", "micboard.discoveryjob", "micboard.discoveryqueue",
      "micboard.manufacturer",
    "micboard.manufacturerapiserver", "micboard.manufacturerconfiguration", "micboard.micboardconfig",
    "micboard.servicesynclog", "micboard.settingdefinition", "micboard.useralertpreference"]

def sharedTenantOwnershipModelLabels : List String := ["micboard.performer"]

def performerModel : TenantModel :=
  { labelLower := "micboard.performer", attributes := ["assignments"] }

def performerAssignmentModel : TenantModel :=
  { labelLower := "micboard.performerassignment", attributes := ["wireless_unit"] }

def wirelessUnitModel : TenantModel :=
  { labelLower := "micboard.wirelessunit", attributes := ["base_chassis"] }

def wirelessChassisModel : TenantModel :=
  { labelLower := "micboard.wirelesschassis", attributes := ["location"] }

namespace TenantRoleAccessService

variable (controls : DeploymentControls) (tenancy : Tenancy) (user : User)

/-- Return whether a tenant or site mutation boundary is active. -/
def tenantModeEnabled : Bool := controls.mspEnabled || controls.multiSiteMode

/-- Return whether `model` is a reviewed host-wide admin surface. -/
def isPlatformGlobalModel (model : TenantModel) : Bool :=
  model.labelLower ∈ platformGlobalAdminModelLabels

/-- Authorize host-wide catalogs independently from tenant view scope. -/
def hasPlatformGlobalAccess (model : TenantModel) : Bool :=
  user.isSuperuser && isPlatformGlobalModel model

/-- The filter of `scope_manageable_queryset`; `owned` is what `_scope_shared_ownership` keeps of
the row. -/
def scopeManageable (model : TenantModel) (owned : Bool) (row : TenantRow) : Bool :=
  if !tenantModeEnabled controls then true
  else if isPlatformGlobalModel model then hasPlatformGlobalAccess user model
  else if hasUnrestrictedTenantAccess controls user then true
  else if !TenantOptimizedQuerySet.supportsMembershipScope model then false
  else if !controls.mspEnabled then TenantOptimizedQuerySet.forSite controls model row && owned
  else
    let memberships := managementMemberships controls tenancy user
    if memberships.isEmpty then false
    else if controls.multiSiteMode then
      TenantOptimizedQuerySet.forMemberships model memberships row &&
        TenantOptimizedQuerySet.forSite controls model row && owned
    else TenantOptimizedQuerySet.forMemberships model memberships row && owned

/-- Require every owner of a shared performer to be writable; `owners` are the assignments of the
row. -/
def scopeSharedOwnership (model : TenantModel) (owners : List TenantRow) : Bool :=
  if model.labelLower ∉ sharedTenantOwnershipModelLabels then true
  else !owners.isEmpty &&
    !owners.any fun owner => !scopeManageable controls tenancy user performerAssignmentModel true owner

/-- Intersect a queryset with scopes where the user has an admin role. -/
def scopeManageableQueryset (model : TenantModel) (owners : TenantRow → List TenantRow)
    (rows : List TenantRow) :
    List TenantRow :=
  rows.filter fun row =>
    scopeManageable controls tenancy user model
      (scopeSharedOwnership controls tenancy user model (owners row)) row

/-- Authorize adding or bulk-mutating rows of one tenant-owned model. -/
def canManageModel (model : TenantModel) : Bool :=
  if !tenantModeEnabled controls then true
  else if isPlatformGlobalModel model then hasPlatformGlobalAccess user model
  else if hasUnrestrictedTenantAccess controls user then true
  else if !TenantOptimizedQuerySet.supportsMembershipScope model then false
  else if !controls.mspEnabled then true
  else !(managementMemberships controls tenancy user).isEmpty

/-- Authorize adds only where a new row can carry exclusive tenant ownership. -/
def canAddModel (model : TenantModel) : Bool :=
  if hasPlatformGlobalAccess user model then true
  else if tenantModeEnabled controls && model.labelLower ∈ sharedTenantOwnershipModelLabels then
    hasUnrestrictedTenantAccess controls user && !controls.multiSiteMode
  else if hasUnrestrictedTenantAccess controls user then true
  else canManageModel controls tenancy user model

/-- Authorize mutation only when the exact tenant role of the stored object permits it. -/
def canManageObject (model : TenantModel) (owners : TenantRow → List TenantRow)
    (table : List TenantRow) (pk : Nat) :
    Bool :=
  if !tenantModeEnabled controls then true
  else if isPlatformGlobalModel model then hasPlatformGlobalAccess user model
  else if hasUnrestrictedTenantAccess controls user then true
  else !(scopeManageableQueryset controls tenancy user model owners
    (table.filter fun row => row.pk = pk)).isEmpty

end TenantRoleAccessService

/-! ### The admin site -/

namespace MicboardModelAdmin

open TenantRoleAccessService

variable (controls : DeploymentControls) (tenancy : Tenancy)
  (groups : List MonitoringGroup) (user : User)

/-- The models whose managers keep to the monitoring groups of an ordinary user. -/
def monitoredModelLabels : List String :=
  ["micboard.performerassignment", "micboard.wirelessunit", "micboard.rfchannel"]

/-- The row is in one of the user's active monitoring groups. -/
def isMonitored (row : TenantRow) : Bool :=
  groups.any fun group => isActiveMember user group && group.pk ∈ row.groupEnds

/-- What the manager of the model keeps of an ordinary user's tenant scope; `owners` are the
assignments of the row. A performer without any is kept outside multi-tenant mode, so that it can
get its first one. -/
def managerKeeps (model : TenantModel) (owners : List TenantRow) (row : TenantRow) : Bool :=
  if model.labelLower ∈ monitoredModelLabels then isMonitored groups user row
  else if model.labelLower = performerModel.labelLower then
    (owners.any fun owner =>
      TenantOptimizedQuerySet.forUser controls tenancy groups user performerAssignmentModel owner &&
        isMonitored groups user owner) || (!controls.mspEnabled && owners.isEmpty)
  else true

def managerForUser (model : TenantModel) (owners : List TenantRow) (row : TenantRow) : Bool :=
  let tenantScope := TenantOptimizedQuerySet.forUser controls tenancy groups user model row
  if !user.isAuthenticated || user.isSuperuser then tenantScope
  else tenantScope && managerKeeps controls tenancy groups user model owners row

/-- Intersect a queryset with the user's active tenant memberships. -/
def scopeQuerysetForUser (model : TenantModel) (owners : List TenantRow) (row : TenantRow) : Bool :=
  if !(controls.mspEnabled || controls.multiSiteMode) then true
  else if controls.mspEnabled && !controls.multiSiteMode && user.isSuperuser &&
    controls.allowCrossOrgView then true
  else if user.isSuperuser && isPlatformGlobalModel model then true
  else managerForUser controls tenancy groups user model owners row

def safeMethods : List String := ["GET", "HEAD", "OPTIONS", "TRACE"]

/-- Return only objects visible through the request user's tenant scope. -/
def getQueryset (model : TenantModel) (owners : TenantRow → List TenantRow) (method : String)
    (table : List TenantRow) : List TenantRow :=
  let queryset :=
    table.filter fun row => scopeQuerysetForUser controls tenancy groups user model (owners row) row
  if method ∉ safeMethods then scopeManageableQueryset controls tenancy user model owners
    queryset else queryset

inductive AdminError where
  | permissionDenied
  deriving DecidableEq, Repr

/-- Reject mixed-role bulk deletes instead of partially applying them. -/
def deleteQueryset (model : TenantModel) (owners : TenantRow → List TenantRow)
    (queryset table : List TenantRow) :
    Except AdminError (List TenantRow) :=
  let manageable := scopeManageableQueryset controls tenancy user model owners queryset
  if manageable.length ≠ queryset.length then .error .permissionDenied
  else .ok (table.filter fun row => row.pk ∉ manageable.map TenantRow.pk)

end MicboardModelAdmin

end Micboard.TenantAccess
