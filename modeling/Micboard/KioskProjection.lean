import Mathlib.Data.String.Basic
import Micboard.DisplayModel

/-! What a kiosk shows of a display wall. The sections of a wall are loaded with their chargers and
the occupied slots of these, each list cut off at its bound; one lookup over all slots finds the
units that are docked, another one the assignments of these units. A slot shows a performer when its
serial belongs to one visible unit and that unit has a preferred assignment. -/

namespace Micboard.TenantAccess.Display

open Library Library.Ranking

def maxKioskSections : Nat := 16
def maxKioskChargersPerSection : Nat := 32
def maxKioskSlotsPerCharger : Nat := 32
def maxKioskOccupiedSlotsPerCharger : Nat := maxKioskSlotsPerCharger

structure KioskPerformerSnapshot where
  performerId : Nat
  performerName : String
  performerTitle : String
  performerPhoto : Option String
  unitId : Nat
  unitType : String
  unitBattery : Nat
  unitBatteryPercent : Option Nat
  unitStatus : String
  unitRfLevel : Option Int
  unitAudioLevel : Option Int
  channel : Option RFChannelSnapshot
  assignmentPriority : AssignmentPriority
  slotNumber : Nat
  chargerId : Nat
  deriving DecidableEq, Repr

structure KioskChargerGroupSnapshot where
  id : Nat
  name : String
  locationId : Nat
  performers : List KioskPerformerSnapshot
  occupiedSlotsTruncated : Bool
  occupiedSlotLimit : Nat := maxKioskOccupiedSlotsPerCharger
  deriving DecidableEq, Repr

structure WallSectionSnapshot where
  id : Nat
  name : String
  layout : String
  columns : Nat
  performers : List KioskChargerGroupSnapshot
  chargersTruncated : Bool
  chargerLimit : Nat := maxKioskChargersPerSection
  occupiedSlotsTruncated : Bool
  occupiedSlotLimit : Nat := maxKioskOccupiedSlotsPerCharger
  deriving DecidableEq, Repr

structure DisplayWallMetadata where
  id : Nat
  name : String
  kioskId : String
  displayWidthPx : Nat
  displayHeightPx : Nat
  orientation : String
  refreshIntervalSeconds : Int
  showPerformerPhotos : Bool
  showRfLevels : Bool
  showBatteryLevels : Bool
  showAudioLevels : Bool
  deriving DecidableEq, Repr

structure DisplayWallSnapshot where
  wall : DisplayWallMetadata
  sections : List WallSectionSnapshot
  sectionsTruncated : Bool
  sectionLimit : Nat := maxKioskSections
  deriving DecidableEq, Repr

namespace KioskService

variable (controls : DeploymentControls) (tenancy : Tenancy) (user : User) (tables : DisplayTables)

/-- The occupied slots of a charger, up to the bound. -/
def loadedSlots (charger : Charger) : List ChargerSlot × Bool :=
  page maxKioskOccupiedSlotsPerCharger
    (orderBy (fun slot : ChargerSlot => toLex (slot.slotNumber, slot.pk))
      (charger.slots.filter (·.occupied)))

def visibleChargers (wallSection : WallSection) : List Charger :=
  orderBy (fun charger : Charger => toLex (charger.order, toLex (charger.name, charger.pk)))
    (tables.chargers.filter fun charger => charger.pk ∈ wallSection.chargers &&
      locatedForUser controls tenancy user tables charger.location && charger.isActive)

def loadedChargers (wallSection : WallSection) : List Charger × Bool :=
  page maxKioskChargersPerSection (visibleChargers controls tenancy user tables wallSection)

def loadedSections (wall : DisplayWall) : List WallSection × Bool :=
  page maxKioskSections
    (orderBy (fun wallSection : WallSection => toLex (wallSection.displayOrder, wallSection.pk))
      (wall.sections.filter (·.isActive)))

/-- Bulk-load visible units while rejecting ambiguous serial numbers. -/
def getUnitsBySerial (slots : List ChargerSlot) : List (String × Option WirelessUnit) :=
  let deviceSerials := (slots.map (·.deviceSerial)).filter (· ≠ "")
  if deviceSerials.isEmpty then []
  else indexUnique WirelessUnit.serialNumber
    ((visibleUnits controls tenancy user tables).filter fun unit => unit.serialNumber ∈ deviceSerials)

/-- Bulk-load the preferred active assignment for each unit. -/
def getAssignmentsByUnit (unitsBySerial : List (String × Option WirelessUnit)) :
    List PerformerAssignment :=
  let unitIds := (unitsBySerial.filterMap Prod.snd).map fun unit => unit.pk
  if unitIds.isEmpty then
    [] else getPreferredActiveAssignmentsForUnits controls tenancy user tables unitIds

/-- Serialize one already-loaded performer assignment. -/
def serializePerformer (charger : Charger) (slot : ChargerSlot) (unit : WirelessUnit)
    (assignment : PerformerAssignment) : KioskPerformerSnapshot where
  performerId := assignment.performer.pk
  performerName := assignment.performer.name
  performerTitle := assignment.performer.title
  performerPhoto := assignment.performer.photoUrl
  unitId := unit.pk
  unitType := unit.deviceType
  unitBattery := unit.battery
  unitBatteryPercent := readingPercentage unit.battery
  unitStatus := unit.status
  unitRfLevel := unit.rfLevel
  unitAudioLevel := unit.audioLevel
  channel := unit.channel
  assignmentPriority := assignment.priority
  slotNumber := slot.slotNumber
  chargerId := charger.pk

def slotPerformer (unitsBySerial : List (String × Option WirelessUnit))
    (assignmentsByUnit : List PerformerAssignment) (charger : Charger) (slot : ChargerSlot) :
    Option KioskPerformerSnapshot :=
  match entryOf unitsBySerial slot.deviceSerial with
  | none => none
  | some unit => (lastEntry unitId assignmentsByUnit unit.pk).map (serializePerformer charger slot unit)

/-- A charger with performers to show, and nothing for a charger without. -/
def serializeCharger (unitsBySerial : List (String × Option WirelessUnit))
    (assignmentsByUnit : List PerformerAssignment)
    (charger : Charger) : Option KioskChargerGroupSnapshot :=
  let (slots, slotsTruncated) := loadedSlots charger
  let performers := slots.filterMap (slotPerformer unitsBySerial assignmentsByUnit charger)
  if performers.isEmpty then none
  else some {
    id := charger.pk
    name := charger.name
    locationId := charger.location.pk
    performers
    occupiedSlotsTruncated := slotsTruncated }

def serializeSection (unitsBySerial : List (String × Option WirelessUnit))
    (assignmentsByUnit : List PerformerAssignment) (wallSection : WallSection) : WallSectionSnapshot :=
  let (chargers, chargersTruncated) := loadedChargers controls tenancy user tables wallSection
  { id := wallSection.pk
    name := wallSection.name
    layout := wallSection.layout
    columns := wallSection.columns
    performers := chargers.filterMap (serializeCharger unitsBySerial assignmentsByUnit)
    chargersTruncated
    occupiedSlotsTruncated := chargers.any fun charger => (loadedSlots charger).2 }

def occupiedSlots (sections : List WallSection) : List ChargerSlot :=
  sections.flatMap fun wallSection =>
    (loadedChargers controls tenancy user tables wallSection).1.flatMap fun charger =>
      (loadedSlots charger).1

/-- Serialize a prefetched section graph without per-row queries. -/
def serializeSections (sections : List WallSection) : List WallSectionSnapshot :=
  let unitsBySerial := getUnitsBySerial controls tenancy user tables
    (occupiedSlots controls tenancy user tables sections)
  let assignmentsByUnit := getAssignmentsByUnit controls tenancy user tables unitsBySerial
  sections.map (serializeSection controls tenancy user tables unitsBySerial assignmentsByUnit)

def minRefreshIntervalSeconds : Int := 2
def maxRefreshIntervalSeconds : Int := 3600

def accessibleDisplayWalls : List DisplayWall :=
  tables.walls.filter fun wall => locatedForUser controls tenancy user tables wall.location

/-- Build a typed snapshot for one visible active wall lookup. -/
def snapshotFor (lookup : DisplayWall → Bool) : Option DisplayWallSnapshot := do
  let wall ← (accessibleDisplayWalls controls tenancy user tables).find? fun wall =>
    wall.isActive && lookup wall
  let (activeSections, sectionsTruncated) := loadedSections wall
  some {
    wall := {
      id := wall.pk
      name := wall.name
      kioskId := wall.kioskId
      displayWidthPx := wall.displayWidthPx
      displayHeightPx := wall.displayHeightPx
      orientation := wall.orientation
      refreshIntervalSeconds :=
        max minRefreshIntervalSeconds (min wall.refreshIntervalSeconds maxRefreshIntervalSeconds)
      showPerformerPhotos := wall.showPerformerPhotos
      showRfLevels := wall.showRfLevels
      showBatteryLevels := wall.showBatteryLevels
      showAudioLevels := wall.showAudioLevels }
    sections := serializeSections controls tenancy user tables activeSections
    sectionsTruncated }

/-- Return one visible active wall by database identifier. -/
def getWallSnapshot (wallId : Nat) : Option DisplayWallSnapshot :=
  snapshotFor controls tenancy user tables fun wall => wall.pk = wallId

/-- Return one visible active wall by stable kiosk identifier. -/
def getKioskSnapshot (kioskId : String) : Option DisplayWallSnapshot :=
  snapshotFor controls tenancy user tables fun wall => wall.kioskId = kioskId

/-- Return one visible active section through the same bulk projection; its wall may be inactive. -/
def getSectionSnapshot (sectionId : Nat) : Option WallSectionSnapshot := do
  let wallSection ← ((accessibleDisplayWalls controls tenancy user tables).flatMap (·.sections)).find?
    fun wallSection => wallSection.isActive && wallSection.pk = sectionId
  (serializeSections controls tenancy user tables [wallSection]).head?

end KioskService

end Micboard.TenantAccess.Display
