import Micboard.AssignmentService

/-! The authority behind a mutation of an assignment. Visibility comes from one query of the
memberships and the role from another; since a user holds one membership of an organization, both
see the same one. Visibility looks at its campus and at its organization, the role query at the role
and the cover; neither looks at the site of the organization, as the management query does. -/

namespace Micboard.TenantAccess

open Library

/-- The membership answers the role query for the unit. -/
def grantsModification (tenancy : Tenancy) (user : User) (unit : WirelessUnit)
    (membership : OrganizationMembership) : Bool :=
  match unit.baseChassis.location with
  | none => false
  | some location =>
    match location.building.organizationId with
    | none => false
    | some organizationId => canModify tenancy user location.building organizationId membership

/-- The unit's building is in the membership's organization, and on its campus if it has one. -/
def CoversUnit (unit : WirelessUnit) (membership : OrganizationMembership) : Prop :=
  ∃ location, unit.baseChassis.location = some location ∧
    location.building.organizationId = some membership.organizationId ∧
    (membership.campusId = none ∨ membership.campusId = location.building.campusId)

/-- A membership that may stand behind a mutation of the unit. -/
structure ModifyingMembership (tenancy : Tenancy) (user : User) (unit : WirelessUnit)
    (membership : OrganizationMembership) : Prop where
  holder : membership.userId = user.pk
  active : membership.isActive = true
  role : membership.role ∈ modifyRoles
  organization : organizationActive tenancy membership.organizationId = true
  campus : membership.campusId = none ∨
    ∃ campus ∈ tenancy.campuses, membership.campusId = some campus.pk ∧
    campus.isActive = true ∧ campus.organizationId = membership.organizationId
  covers : CoversUnit unit membership

/-- The organization of the unit's building lies on the current site. -/
def unitOrganizationOnSite (controls : DeploymentControls) (tenancy : Tenancy)
    (unit : WirelessUnit) : Bool :=
  match unit.path.organizationId with
  | none => false
  | some organizationId => organizationOnSite controls tenancy organizationId

/-- The mutation of the unit is authorized: a membership stands behind it, and none grants it that
visibility or management rejects. -/
structure AuthorityHeld (controls : DeploymentControls) (tenancy : Tenancy) (user : User)
    (unit : WirelessUnit) :
    Prop where
  modifying : ∃ membership ∈ tenancy.memberships, ModifyingMembership tenancy user unit membership
  visible : ∀ membership ∈ tenancy.memberships, grantsModification tenancy user unit membership = true →
    validForUser tenancy user membership = true
  manageable : ∀ membership ∈ tenancy.memberships,
    grantsModification tenancy user unit membership = true →
    validForManagement controls tenancy user membership = true

section Permissions

variable {controls : DeploymentControls} {tenancy : Tenancy} {user : User} {unit : WirelessUnit}

theorem ensureCanModifyUnit_ok (hmsp : controls.mspEnabled = true)
    (huser : hasUnrestrictedTenantAccess controls user = false)
    (h : ensureCanModifyUnit controls tenancy user unit = .ok ()) :
    ∃ membership ∈ tenancy.memberships, grantsModification tenancy user unit membership = true := by
  rw [ensureCanModifyUnit, hmsp, huser] at h
  cases hinstalled : controls.multitenancyInstalled with
  | false => simp [hinstalled] at h
  | true =>
      cases hlocation : unit.baseChassis.location with
      | none => simp [hinstalled, hlocation] at h
      | some location =>
          cases horganization : location.building.organizationId with
          | none => simp [hinstalled, hlocation, horganization] at h
          | some organizationId =>
              simp only [grantsModification, hlocation, horganization]
              by_contra hnone
              rw [← List.any_eq_true] at hnone
              simp [hinstalled, hlocation, horganization, hnone] at h

theorem ensureMutationScope_ok {group : MonitoringGroup}
    (h : ensureMutationScope controls tenancy user group unit = .ok ()) :
    ensureCanModifyUnit controls tenancy user unit = .ok () ∧
      ensureGroupCanManageUnit controls group unit = .ok () := by
  rw [ensureMutationScope] at h
  cases hmodify : ensureCanModifyUnit controls tenancy user unit with
  | error error => simp [hmodify, bind, Except.bind] at h
  | ok _ =>
      rw [hmodify] at h
      exact ⟨rfl, h⟩

theorem WirelessUnit.forUser_tenant {graph : HardwareGraph}
    (h : unit.forUser controls tenancy user graph = true) :
    TenantAccess.forUser controls tenancy user [unit.path] = true := by
  unfold WirelessUnit.forUser at h
  split at h
  · exact h
  · exact (Bool.and_eq_true_iff.mp h).1

theorem PerformerAssignment.forUser_tenant {row : PerformerAssignment}
    (h : row.forUser controls tenancy user = true) :
    TenantAccess.forUser controls tenancy user [row.wirelessUnit.path] = true := by
  unfold PerformerAssignment.forUser at h
  split at h
  · exact h
  · exact (Bool.and_eq_true_iff.mp h).1

theorem grantsModification_spec {membership : OrganizationMembership}
    (h : grantsModification tenancy user unit membership = true) :
    membership.userId = user.pk ∧ membership.role ∈ modifyRoles ∧
      unit.path.organizationId = some membership.organizationId ∧ CoversUnit unit membership := by
  unfold grantsModification at h
  split at h
  · contradiction
  next location hlocation =>
    split at h
    · contradiction
    next organizationId horganization =>
      simp only [canModify, Bool.and_eq_true, Bool.or_eq_true, decide_eq_true_eq] at h
      obtain ⟨⟨⟨⟨⟨hholder, rfl⟩, -⟩, -⟩, hrole⟩, hcampus⟩ := h
      refine ⟨hholder, hrole, ?_, location, hlocation, horganization, hcampus.imp id And.right⟩
      simp only [WirelessUnit.path, WirelessChassis.path, hlocation, Option.map_some, Option.getD_some,
        Building.path, horganization]

/-- The one membership of the unit's organization answers both queries. -/
theorem grantsModification_visible (hmsp : controls.mspEnabled = true)
    (huser : hasUnrestrictedTenantAccess controls user = false)
    (hvisible : TenantAccess.forUser controls tenancy user [unit.path] = true)
    {membership : OrganizationMembership} (hmem : membership ∈ tenancy.memberships)
    (hgrants : grantsModification tenancy user unit membership = true) :
    validForUser tenancy user membership = true := by
  obtain ⟨path, hpath, other, hother, hvalid, hcovers⟩ := forUser_membership hmsp huser hvisible
  obtain rfl := List.mem_singleton.mp hpath
  obtain ⟨hholder, -, horganization, -⟩ := grantsModification_spec hgrants
  have hholder' : other.userId = user.pk := by
    simp only [validForUser, Bool.and_eq_true, decide_eq_true_eq] at hvalid
    exact hvalid.1.1.1
  have hsame : some membership.organizationId = some other.organizationId := by
    rw [← horganization]
    exact (scopeCovers_iff.mp hcovers).1
  rwa [tenancy.membership_eq hmem hother (hholder.trans hholder'.symm) (Option.some.inj hsame)]

/-- A membership that grants and that is visible has all that a mutation asks for. -/
theorem modifyingMembership {membership : OrganizationMembership}
    (hgrants : grantsModification tenancy user unit membership = true)
    (hvalid : validForUser tenancy user membership = true) :
    ModifyingMembership tenancy user unit membership := by
  obtain ⟨hholder, hrole, -, hcovers⟩ := grantsModification_spec hgrants
  simp only [validForUser, Bool.and_eq_true, decide_eq_true_eq] at hvalid
  obtain ⟨⟨⟨-, hcampus⟩, hactive⟩, horganization⟩ := hvalid
  refine ⟨hholder, hactive, hrole, horganization, ?_, hcovers⟩
  unfold campusValid at hcampus
  split at hcampus
  next hnone => exact .inl hnone
  next campusId hsome =>
    simp only [List.any_eq_true, Bool.and_eq_true, decide_eq_true_eq] at hcampus
    obtain ⟨campus, hmem, ⟨rfl, hcampusActive⟩, hsame⟩ := hcampus
    exact .inr ⟨campus, hmem, hsome, hcampusActive, hsame⟩

end Permissions

section Operations

variable {controls : DeploymentControls} {tenancy : Tenancy} {graph : HardwareGraph} {user : User}
  {table after : AssignmentTable graph}

theorem getAssignmentForMutation_eq_some {assignmentId : Nat} {row : PerformerAssignment}
    (h : getAssignmentForMutation controls tenancy user table assignmentId = some row) :
    (table.rows.find? fun row => row.pk = assignmentId) = some row ∧
      row.forUser controls tenancy user = true := by
  have hfound := List.find?_some h
  simp only [Bool.and_eq_true, decide_eq_true_eq] at hfound
  exact ⟨table.uniquePk.find?_eq_some.mpr ⟨List.mem_of_find?_eq_some h, hfound.1⟩, hfound.2⟩

/-- A unit whose place is in the user's scope and in that of a group that manages it. -/
def InMutationScope (controls : DeploymentControls) (tenancy : Tenancy) (user : User)
    (unit : WirelessUnit) :
    Prop :=
  TenantAccess.forUser controls tenancy user [unit.path] = true ∧
    ∃ group, ensureMutationScope controls tenancy user group unit = .ok ()

theorem createAssignment_scope {command : CreatePerformerAssignment}
    (h : createAssignment controls tenancy user table command = .ok after) :
    ∃ unit, (graph.units.find? fun unit => unit.pk = command.unitId) = some unit ∧
      InMutationScope controls tenancy user unit := by
  unfold createAssignment at h
  split at h
  · contradiction
  split at h
  · contradiction
  next group hgroup _ =>
    split at h
    case isFalse => contradiction
    split at h
    · contradiction
    next unit hunit hfound =>
      split at h
      · contradiction
      next hscope =>
        have hpredicate := List.find?_some hfound
        simp only [Bool.and_eq_true, decide_eq_true_eq] at hpredicate
        exact ⟨unit, graph.uniqueUnit.find?_eq_some.mpr ⟨hunit, hpredicate.1⟩,
          WirelessUnit.forUser_tenant hpredicate.2, group, hscope⟩

theorem getAssignmentForMutation_scope {assignmentId : Nat} {row : PerformerAssignment}
    (hrow : getAssignmentForMutation controls tenancy user table assignmentId = some row)
    (hscope : ensureMutationScope controls tenancy user row.monitoringGroup row.wirelessUnit = .ok ()) :
    ∃ unit, (table.rows.find? fun row => row.pk = assignmentId).map (·.wirelessUnit) = some unit ∧
      InMutationScope controls tenancy user unit := by
  obtain ⟨hfind, hvisible⟩ := getAssignmentForMutation_eq_some hrow
  refine ⟨row.wirelessUnit, ?_, PerformerAssignment.forUser_tenant hvisible, _, hscope⟩
  rw [hfind, Option.map_some]

/-- A mutation that succeeds has found its unit in the user's scope, by the same checks in every
operation. -/
theorem perform_scope {mutation : AssignmentMutation}
    (h : mutation.perform controls tenancy user table = .ok (some after)) :
    ∃ unit, mutation.targetUnit table = some unit ∧ InMutationScope controls tenancy user unit := by
  cases mutation with
  | create command =>
      rw [AssignmentMutation.perform] at h
      cases hcreate : createAssignment controls tenancy user table command with
      | error error => simp [hcreate, Except.map] at h
      | ok created => exact createAssignment_scope hcreate
  | update command =>
      rw [AssignmentMutation.perform, updateAssignment] at h
      split at h
      · contradiction
      next row hrow =>
        split at h
        · contradiction
        next hscope => exact getAssignmentForMutation_scope hrow hscope
  | delete assignmentId =>
      rw [AssignmentMutation.perform, deleteAssignment] at h
      split at h
      · cases h
      next row hrow =>
        split at h
        · contradiction
        next hscope => exact getAssignmentForMutation_scope hrow hscope
  | deactivate assignmentId =>
      rw [AssignmentMutation.perform, deactivateAssignment] at h
      split at h
      · cases h
      next row hrow =>
        split at h
        · contradiction
        next hscope => exact getAssignmentForMutation_scope hrow hscope

/-- A mutation that succeeds in multi-tenant mode, by a user without unrestricted access, has a
membership behind it that is active, may modify, belongs to an active organization, has no campus or
an active one of that organization, and covers the unit; and no membership that visibility rejects
grants it. That management does not reject it either is the question of whether its organization
lies on the current site. -/
theorem assignment_mutation_authority (hmsp : controls.mspEnabled = true)
    (huser : hasUnrestrictedTenantAccess controls user = false) {mutation : AssignmentMutation}
    (h : mutation.perform controls tenancy user table = .ok (some after)) :
    ∃ unit, mutation.targetUnit table = some unit ∧
      (∃ membership ∈ tenancy.memberships, ModifyingMembership tenancy user unit membership) ∧
      (∀ membership ∈ tenancy.memberships, grantsModification tenancy user unit membership = true →
        validForUser tenancy user membership = true) ∧
      (AuthorityHeld controls tenancy user unit ↔
        controls.multiSiteMode = false ∨ unitOrganizationOnSite controls tenancy unit = true) := by
  obtain ⟨unit, htarget, hvisible, group, hscope⟩ := perform_scope h
  obtain ⟨granting, hgranting, hgrants⟩ :=
    ensureCanModifyUnit_ok hmsp huser (ensureMutationScope_ok hscope).1
  have hvalid : ∀ membership ∈ tenancy.memberships,
      grantsModification tenancy user unit membership = true →
      validForUser tenancy user membership = true :=
    fun membership hmem hgrant => grantsModification_visible hmsp huser hvisible hmem hgrant
  have hmodifying : ∃ membership ∈ tenancy.memberships,
      ModifyingMembership tenancy user unit membership :=
    ⟨granting, hgranting, modifyingMembership hgrants (hvalid granting hgranting hgrants)⟩
  have hsite : ∀ membership, grantsModification tenancy user unit membership = true →
      unitOrganizationOnSite controls tenancy unit =
        organizationOnSite controls tenancy membership.organizationId := by
    intro membership hgrant
    rw [unitOrganizationOnSite, (grantsModification_spec hgrant).2.2.1]
  refine ⟨unit, htarget, hmodifying, hvalid, fun hheld => ?_, fun hcondition =>
    ⟨hmodifying, hvalid, ?_⟩⟩
  · rw [hsite granting hgrants]
    exact (validForManagement_iff.mp (hheld.manageable granting hgranting hgrants)).2
  · intro membership hmem hgrant
    rw [hsite membership hgrant] at hcondition
    exact validForManagement_iff.mpr ⟨hvalid membership hmem hgrant, hcondition⟩

end Operations

/-! ### An organization on another site -/

/-- Multi-tenant and multi-site mode on site 1. -/
def bothModes : DeploymentControls := { mspEnabled := true, multiSiteMode := true }

/-- An organization on `site` and its administrator. -/
def siteTenancy (site : Option Int) : Tenancy where
  organizations := [{ pk := 7, siteId := site, isActive := true }]
  campuses := []
  memberships :=
    [{ userId := 4, organizationId := 7, campusId := none, isActive := true, role := .admin }]
  uniqueOrganization := List.nodup_singleton _
  uniqueTogether := List.nodup_singleton _

def stage : Location := ⟨20, { pk := 30, siteId := some 1, organizationId := some 7 }⟩

def stageUnit (pk : Nat) : WirelessUnit := { pk, baseChassis := { location := some stage } }

def stageGroup : MonitoringGroup := { pk := 50, users := [4], locations := [{ location := stage }] }

def stageGraph : HardwareGraph where
  units := [stageUnit 40, stageUnit 41]
  groups := [stageGroup]
  performers := [60]

/-- The performer has the first unit. -/
def stageTable : AssignmentTable stageGraph where
  rows := [{ pk := 1, performer := 60, wirelessUnit := stageUnit 40, monitoringGroup := stageGroup }]
  nextPk := 2

def giveSecondUnit : AssignmentMutation := .create { performerId := 60, unitId := 41, groupId := 50 }

theorem assignment_mutation_authority_administrator :
    ∃ after, giveSecondUnit.perform bothModes (siteTenancy (some 1)) ⟨4, true, false⟩ stageTable =
        .ok (some after) ∧
      ∃ unit, giveSecondUnit.targetUnit stageTable = some unit ∧
        (∃ membership ∈ (siteTenancy (some 1)).memberships,
          ModifyingMembership (siteTenancy (some 1)) ⟨4, true, false⟩ unit membership) ∧
        (∀ membership ∈ (siteTenancy (some 1)).memberships,
          grantsModification (siteTenancy (some 1)) ⟨4, true, false⟩ unit membership = true →
            validForUser (siteTenancy (some 1)) ⟨4, true, false⟩ membership = true) ∧
        (AuthorityHeld bothModes (siteTenancy (some 1)) ⟨4, true, false⟩ unit ↔
          bothModes.multiSiteMode = false ∨
            unitOrganizationOnSite bothModes (siteTenancy (some 1)) unit = true) := by
  refine ⟨_, rfl, ?_⟩
  exact assignment_mutation_authority rfl rfl rfl

/-- The organization is on no site and its building on the current one: the administrator of the
organization, who may manage nothing there, assigns a unit. -/
theorem off_site_membership_modifies :
    (∃ after, giveSecondUnit.perform bothModes (siteTenancy none) ⟨4, true, false⟩ stageTable =
      .ok (some after)) ∧
    giveSecondUnit.targetUnit stageTable = some (stageUnit 41) ∧
    managementMemberships bothModes (siteTenancy none) ⟨4, true, false⟩ = [] ∧
    ¬ AuthorityHeld bothModes (siteTenancy none) ⟨4, true, false⟩ (stageUnit 41) := by
  refine ⟨⟨_, rfl⟩, by decide, by decide, fun hheld => ?_⟩
  exact absurd (hheld.manageable _ (List.mem_singleton.mpr rfl) (by decide)) (by decide)

end Micboard.TenantAccess
