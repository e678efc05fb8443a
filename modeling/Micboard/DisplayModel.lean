import Mathlib.Data.Prod.Lex
import Micboard.AssignmentService
import Micboard.BatteryWarnings
import Micboard.LibraryRanking

/-! What display walls and charger dashboards show: walls and their sections, chargers with their
slots, the wireless units docked in them, and the performers these are assigned to. Rows carry what
the projections read of them; a reference is carried as the row it refers to. The queries of a
projection see one state of the tables, the database orders text by code points, and the images
behind performer photos are out of the model. -/

namespace Micboard.TenantAccess.Display

open Library Library.Ranking

structure Performer where
  pk : Nat
  name : String
  title : String := ""
  photoUrl : Option String := none
  deriving DecidableEq, Repr

/-- RF channel state shown beside one performer. -/
structure RFChannelSnapshot where
  frequency : Option Rat
  channelNumber : Nat
  rfSignalStrength : Option Int
  audioLevel : Option Int
  linkDirection : String
  deriving DecidableEq, Repr

structure WirelessUnit extends TenantAccess.WirelessUnit where
  serialNumber : String
  deviceType : String := "mic_transmitter"
  battery : Nat := 255
  status : String := "discovered"
  rfLevel : Option Int := none
  audioLevel : Option Int := none
  channel : Option RFChannelSnapshot := none
  deriving DecidableEq, Repr

structure PerformerAssignment where
  pk : Nat
  performer : Performer
  wirelessUnit : WirelessUnit
  monitoringGroup : TenantAccess.MonitoringGroup
  priority : AssignmentPriority := .normal
  isActive : Bool := true
  updatedAt : Time
  deriving DecidableEq, Repr

structure ChargerSlot where
  pk : Nat
  slotNumber : Nat
  occupied : Bool := false
  deviceSerial : String := ""
  deviceModel : String := ""
  batteryPercent : Option Int := none
  deviceFirmwareVersion : String := ""
  deviceStatus : String := ""
  isFunctional : Bool := true
  deriving DecidableEq, Repr

structure Charger where
  pk : Nat
  name : String := ""
  model : String := ""
  ip : Option String := none
  location : Location
  order : Nat := 0
  slotCount : Nat := 4
  isActive : Bool := true
  status : String := "discovered"
  lastSeen : Option Time := none
  slots : List ChargerSlot := []
  deriving DecidableEq, Repr

/-- A section of a wall, with the keys of its chargers. -/
structure WallSection where
  pk : Nat
  name : String := ""
  layout : String := "grid"
  columns : Nat := 3
  isActive : Bool := true
  displayOrder : Nat := 0
  chargers : List Nat := []
  deriving DecidableEq, Repr

structure DisplayWall where
  pk : Nat
  location : Location
  name : String := ""
  kioskId : String
  displayWidthPx : Nat := 1920
  displayHeightPx : Nat := 1080
  orientation : String := "landscape"
  showPerformerPhotos : Bool := true
  showRfLevels : Bool := true
  showBatteryLevels : Bool := true
  showAudioLevels : Bool := false
  refreshIntervalSeconds : Int := 5
  isActive : Bool := true
  sections : List WallSection := []
  deriving DecidableEq, Repr

/-- The tables the projections read. -/
structure DisplayTables where
  graph : HardwareGraph
  units : List WirelessUnit
  assignments : List PerformerAssignment
  chargers : List Charger
  walls : List DisplayWall
  uniqueUnit : UniqueOn (fun unit : WirelessUnit => unit.pk) units := by decide
  uniqueAssignment : UniqueOn PerformerAssignment.pk assignments := by decide
  uniqueCharger : UniqueOn Charger.pk chargers := by decide
  uniqueWall : UniqueOn DisplayWall.pk walls := by decide
  uniqueKiosk : UniqueOn DisplayWall.kioskId walls := by decide
  uniqueSection : UniqueOn WallSection.pk (walls.flatMap (·.sections)) := by decide
  assignedUnit : ∀ row ∈ assignments, row.wirelessUnit ∈ units := by decide

section Visibility

variable (controls : DeploymentControls) (tenancy : Tenancy) (user : User) (tables : DisplayTables)

/-- A location of the group, or any location of a building the group has all rooms of. -/
def groupHoldsLocation (group : TenantAccess.MonitoringGroup) (location : Location) : Bool :=
  group.locations.any fun access => access.location.pk = location.pk ||
    (access.includeAllRooms && access.location.building.pk = location.building.pk)

/-- `TenantOptimizedQuerySet.for_user`, for a model with a location of its own. -/
def locatedForUser (location : Location) : Bool :=
  if !user.isAuthenticated || hasUnrestrictedTenantAccess controls user || controls.mspEnabled ||
      controls.multiSiteMode then
    TenantAccess.forUser controls tenancy user [location.building.path]
  else tables.graph.groups.any fun group =>
    isActiveMember user group && groupHoldsLocation group location

/-- `WirelessUnit.objects.for_user`. -/
def visibleUnits : List WirelessUnit :=
  tables.units.filter fun unit => unit.forUser controls tenancy user tables.graph

/-- What the visibility of an assignment depends on. -/
def PerformerAssignment.row (assignment : PerformerAssignment) : TenantAccess.PerformerAssignment where
  pk := assignment.pk
  performer := assignment.performer.pk
  wirelessUnit := assignment.wirelessUnit.toWirelessUnit
  monitoringGroup := assignment.monitoringGroup
  priority := assignment.priority
  isActive := assignment.isActive

/-- The visible active assignments of the units that `requested` asks for. -/
def activeAssignments (requested : WirelessUnit → Bool) : List PerformerAssignment :=
  tables.assignments.filter fun assignment =>
    assignment.row.forUser controls tenancy user && assignment.isActive &&
      requested assignment.wirelessUnit

end Visibility

/-- The `Case` expression of the ranking. -/
def priorityRank : AssignmentPriority → Nat
  | .critical => 0
  | .high => 1
  | .normal => 2
  | .low => 3

/-- `priority.asc(), updated_at.desc(), pk.desc()`. -/
def preferenceRank (assignment : PerformerAssignment) : Nat ×ₗ Intᵒᵈ ×ₗ Natᵒᵈ :=
  toLex (priorityRank assignment.priority,
    toLex (OrderDual.toDual assignment.updatedAt, OrderDual.toDual assignment.pk))

def unitId (assignment : PerformerAssignment) : Nat := assignment.wirelessUnit.pk

section Preferred

variable (controls : DeploymentControls) (tenancy : Tenancy) (user : User) (tables : DisplayTables)

/-- Rank candidates so that only one preferred row per unit is materialized, in the order of the
units. -/
def getPreferredActiveAssignments (requested : WirelessUnit → Bool) : List PerformerAssignment :=
  orderBy unitId
    (preferred unitId preferenceRank (activeAssignments controls tenancy user tables requested))

/-- Return at most one deterministic active assignment for each requested unit. -/
def getPreferredActiveAssignmentsForUnits (unitIds : List Nat) : List PerformerAssignment :=
  if unitIds.isEmpty then []
  else getPreferredActiveAssignments controls tenancy user tables fun unit => unit.pk ∈ unitIds

/-- Return at most one deterministic active assignment of each unit with a requested serial. -/
def getPreferredActiveAssignmentsForSerials (serialNumbers : List String) : List PerformerAssignment :=
  if serialNumbers.isEmpty then []
  else getPreferredActiveAssignments controls tenancy user tables fun unit =>
    unit.serialNumber ∈ serialNumbers

end Preferred

/-! ### What the ranking selects -/

section Spec

variable {controls : DeploymentControls} {tenancy : Tenancy} {user : User} {tables : DisplayTables}
  {requested : WirelessUnit → Bool} {assignment : PerformerAssignment}

theorem mem_visibleUnits {unit : WirelessUnit} : unit ∈ visibleUnits controls tenancy user tables ↔
    unit ∈ tables.units ∧ unit.forUser controls tenancy user tables.graph = true :=
  List.mem_filter

theorem mem_activeAssignments : assignment ∈ activeAssignments controls tenancy user tables requested ↔
    assignment ∈ tables.assignments ∧ assignment.row.forUser controls tenancy user = true ∧
      assignment.isActive = true ∧ requested assignment.wirelessUnit = true := by
  simp [activeAssignments, and_assoc]

theorem preferenceRank_injective {first second : PerformerAssignment}
    (h : preferenceRank first = preferenceRank second) : first.pk = second.pk := by
  have hrest := (Prod.mk.inj (toLex.injective h)).2
  exact OrderDual.toDual.injective (Prod.mk.inj (toLex.injective hrest)).2

theorem uniqueOn_activeAssignments (tables : DisplayTables) :
    UniqueOn PerformerAssignment.pk (activeAssignments controls tenancy user tables requested) :=
  tables.uniqueAssignment.sublist (List.filter_sublist.map _)

/-- The preferred assignment of its unit, among the visible active ones. -/
structure IsPreferred (controls : DeploymentControls) (tenancy : Tenancy) (user : User)
    (tables : DisplayTables)
    (assignment : PerformerAssignment) : Prop where
  stored : assignment ∈ tables.assignments
  visible : assignment.row.forUser controls tenancy user = true
  active : assignment.isActive = true
  first : ∀ other ∈ tables.assignments, other.row.forUser controls tenancy user = true →
    other.isActive = true →
    other.wirelessUnit.pk = assignment.wirelessUnit.pk →
      preferenceRank assignment ≤ preferenceRank other

theorem IsPreferred.unique {other : PerformerAssignment}
    (h : IsPreferred controls tenancy user tables assignment)
    (h' : IsPreferred controls tenancy user tables other)
    (hunit : assignment.wirelessUnit.pk = other.wirelessUnit.pk) : assignment = other := by
  refine tables.uniqueAssignment.eq h.stored h'.stored (preferenceRank_injective (le_antisymm ?_ ?_))
  · exact h.first other h'.stored h'.visible h'.active hunit.symm
  · exact h'.first assignment h.stored h.visible h.active hunit

/-- Requests that ask for whole units select their preferred assignments. -/
theorem mem_getPreferredActiveAssignments
    (hrequested : ∀ first ∈ tables.units, ∀ second ∈ tables.units, first.pk = second.pk →
      requested first = requested second) :
    assignment ∈ getPreferredActiveAssignments controls tenancy user tables requested ↔
      IsPreferred controls tenancy user tables assignment ∧
        requested assignment.wirelessUnit = true := by
  rw [getPreferredActiveAssignments, mem_orderBy, mem_preferred, mem_activeAssignments]
  constructor
  · rintro ⟨⟨hstored, hvisible, hactive, hasked⟩, hfirst⟩
    refine ⟨⟨hstored, hvisible, hactive, fun other hother hvisible' hactive' hunit => ?_⟩, hasked⟩
    refine hfirst other (mem_activeAssignments.mpr ⟨hother, hvisible', hactive', ?_⟩) hunit
    rw [hrequested _ (tables.assignedUnit other hother) _ (tables.assignedUnit _ hstored) hunit]
    exact hasked
  · rintro ⟨⟨hstored, hvisible, hactive, hfirst⟩, hasked⟩
    refine ⟨⟨hstored, hvisible, hactive, hasked⟩, fun other hother hunit => ?_⟩
    obtain ⟨hother, hvisible', hactive', -⟩ := mem_activeAssignments.mp hother
    exact hfirst other hother hvisible' hactive' hunit

theorem mem_getPreferredActiveAssignmentsForUnits {unitIds : List Nat} :
    assignment ∈ getPreferredActiveAssignmentsForUnits controls tenancy user tables unitIds ↔
      IsPreferred controls tenancy user tables assignment ∧ assignment.wirelessUnit.pk ∈ unitIds := by
  rw [getPreferredActiveAssignmentsForUnits]
  cases unitIds with
  | nil => simp
  | cons first rest =>
      rw [if_neg (by simp), mem_getPreferredActiveAssignments fun first _ second _ hpk => by rw [hpk],
        decide_eq_true_iff]

theorem mem_getPreferredActiveAssignmentsForSerials {serialNumbers : List String} :
    assignment ∈ getPreferredActiveAssignmentsForSerials controls tenancy user tables serialNumbers ↔
      IsPreferred controls tenancy user tables assignment ∧
        assignment.wirelessUnit.serialNumber ∈ serialNumbers := by
  rw [getPreferredActiveAssignmentsForSerials]
  cases serialNumbers with
  | nil => simp
  | cons first rest =>
      rw [if_neg (by simp), mem_getPreferredActiveAssignments fun unit hunit other hother hpk => by
        rw [tables.uniqueUnit.eq hunit hother hpk], decide_eq_true_iff]

end Spec

end Micboard.TenantAccess.Display
