import Micboard.KioskSoundness

/-! The charger dashboard, a second projection of the docked units. It looks assignments up by the
serials of the occupied slots, without asking whether the user sees the unit or whether other units
have the serial; of several preferred assignments it keeps the one of the latest unit. Where it
shows the assignment of the docked unit it agrees with the kiosk, and nowhere else. -/

namespace Micboard.TenantAccess.Display

open Library Library.Ranking

def maxDashboardChargers : Nat := 64
def maxDashboardSlotsPerCharger : Nat := 32

structure ChargerDashboardPerformerSnapshot where
  name : String
  title : String
  photoUrl : Option String
  deriving DecidableEq, Repr

/-- A slot is shown under a number from one on; the column holds zero too. -/
structure ChargerDashboardSlotSnapshot where
  slotNumber : Nat
  slotNumber_pos : 1 ≤ slotNumber
  occupied : Bool
  deviceSerial : String
  deviceModel : String
  batteryPercent : Option Int
  deviceFirmwareVersion : String
  deviceStatus : String
  isFunctional : Bool
  performer : Option ChargerDashboardPerformerSnapshot
  deriving DecidableEq, Repr

structure ChargerDashboardChargerSnapshot where
  id : Nat
  name : String
  modelName : String
  ipAddress : Option String
  slots : List ChargerDashboardSlotSnapshot
  slotsTruncated : Bool
  slotLimit : Nat := maxDashboardSlotsPerCharger
  deriving DecidableEq, Repr

structure ChargerDashboardSnapshot where
  chargers : List ChargerDashboardChargerSnapshot
  chargersTruncated : Bool
  chargerLimit : Nat := maxDashboardChargers
  deriving DecidableEq, Repr

namespace ChargerDashboardService

variable (controls : DeploymentControls) (tenancy : Tenancy) (user : User) (tables : DisplayTables)

/-- The slots loaded for a charger, one more than are shown. -/
def dashboardSlots (charger : Charger) : List ChargerSlot :=
  (orderBy (fun slot : ChargerSlot => toLex (slot.slotNumber, slot.pk)) charger.slots).take
    (maxDashboardSlotsPerCharger + 1)

/-- Load a bounded visible charger prefix and detect overflow. -/
def getChargers : List Charger × Bool :=
  page maxDashboardChargers
    (orderBy (fun charger : Charger => toLex (charger.order, toLex (charger.name, charger.pk)))
      (tables.chargers.filter fun charger =>
        locatedForUser controls tenancy user tables charger.location && charger.isActive))

/-- The serials of the occupied slots of the loaded chargers. -/
def occupiedSerials (chargers : List Charger) : List String :=
  chargers.flatMap fun charger =>
    ((dashboardSlots charger).filter fun slot => slot.occupied && slot.deviceSerial ≠ "").map
    (·.deviceSerial)

def unitSerial (assignment : PerformerAssignment) : String := assignment.wirelessUnit.serialNumber

def performerSnapshot (assignment : PerformerAssignment) : ChargerDashboardPerformerSnapshot where
  name := assignment.performer.name
  title := assignment.performer.title
  photoUrl := assignment.performer.photoUrl

def assignmentBySerial (serials : List String) (serial : String) : Option PerformerAssignment :=
  lastEntry unitSerial
    (getPreferredActiveAssignmentsForSerials controls tenancy user tables serials) serial

/-- `performers_by_serial.get(serial)`. -/
def performerBySerial (serials : List String)
    (serial : String) : Option ChargerDashboardPerformerSnapshot :=
  (assignmentBySerial controls tenancy user tables serials serial).map performerSnapshot

def toSlotSnapshot (serials : List String) (slot : ChargerSlot) : Option ChargerDashboardSlotSnapshot :=
  if h : 1 ≤ slot.slotNumber then
    some {
      slotNumber := slot.slotNumber
      slotNumber_pos := h
      occupied := slot.occupied
      deviceSerial := slot.deviceSerial
      deviceModel := slot.deviceModel
      batteryPercent := slot.batteryPercent
      deviceFirmwareVersion := slot.deviceFirmwareVersion
      deviceStatus := slot.deviceStatus
      isFunctional := slot.isFunctional
      performer :=
        if slot.occupied then performerBySerial controls tenancy user tables serials
          slot.deviceSerial else none }
  else none

/-- Map one prefetched graph to a primitive nested projection. -/
def toSnapshot (serials : List String) (charger : Charger) : Option ChargerDashboardChargerSnapshot :=
  (((dashboardSlots charger).take maxDashboardSlotsPerCharger).mapM
    (toSlotSnapshot controls tenancy user tables serials)).map fun slots => {
      id := charger.pk
      name := charger.name
      modelName := charger.model
      ipAddress := charger.ip
      slots
      slotsTruncated := decide (maxDashboardSlotsPerCharger < (dashboardSlots charger).length) }

/-- Return the complete charger-grid projection for one user; a slot that cannot be shown raises. -/
def getSnapshot : Option ChargerDashboardSnapshot :=
  let (chargers, chargersTruncated) := getChargers controls tenancy user tables
  let serials := occupiedSerials chargers
  (chargers.mapM (toSnapshot controls tenancy user tables serials)).map fun chargers => {
    chargers, chargersTruncated }

end ChargerDashboardService

namespace ChargerDashboardService

open KioskService

variable {controls : DeploymentControls} {tenancy : Tenancy} {user : User} {tables : DisplayTables}
  {serials : List String} {serial : String} {assignment : PerformerAssignment}

theorem assignmentBySerial_isPreferred
    (h : assignmentBySerial controls tenancy user tables serials serial = some assignment) :
    IsPreferred controls tenancy user tables assignment ∧
      assignment.wirelessUnit.serialNumber = serial := by
  obtain ⟨hmem, hserial⟩ := lastEntry_mem h
  exact ⟨(mem_getPreferredActiveAssignmentsForSerials.mp hmem).1, hserial⟩

theorem assignmentBySerial_eq_none (hserial : serial ∈ serials) :
    assignmentBySerial controls tenancy user tables serials serial = none ↔
      ∀ assignment, IsPreferred controls tenancy user tables assignment →
        assignment.wirelessUnit.serialNumber ≠ serial := by
  rw [assignmentBySerial, lastEntry_eq_none]
  constructor
  · rintro h assignment hpreferred rfl
    exact h assignment (mem_getPreferredActiveAssignmentsForSerials.mpr ⟨hpreferred, hserial⟩) rfl
  · intro h assignment hmem
    exact h assignment (mem_getPreferredActiveAssignmentsForSerials.mp hmem).1

/-- The preferred assignment of the unit that a slot's serial stands for on the kiosk. -/
def KioskAssigns (controls : DeploymentControls) (tenancy : Tenancy) (user : User)
    (tables : DisplayTables)
    (slot : ChargerSlot) (assignment : PerformerAssignment) : Prop :=
  Docked controls tenancy user tables slot assignment.wirelessUnit ∧
    IsPreferred controls tenancy user tables assignment

theorem slotPerformerIn_iff_kioskAssigns {slots : List ChargerSlot} {slot : ChargerSlot}
    (hslot : slot ∈ slots)
    {charger : Charger} {shown : KioskPerformerSnapshot} :
    slotPerformerIn controls tenancy user tables slots charger slot = some shown ↔
      ∃ assignment, KioskAssigns controls tenancy user tables slot assignment ∧
        shown = serializePerformer charger slot assignment.wirelessUnit assignment := by
  rw [slotPerformerIn_eq_some hslot]
  constructor
  · rintro ⟨unit, assignment, hdocked, hpreferred, hpk, rfl⟩
    obtain rfl := tables.uniqueUnit.eq (tables.assignedUnit _ hpreferred.stored) hdocked.stored hpk
    exact ⟨assignment, ⟨hdocked, hpreferred⟩, rfl⟩
  · rintro ⟨assignment, ⟨hdocked, hpreferred⟩, rfl⟩
    exact ⟨_, assignment, hdocked, hpreferred, rfl, rfl⟩

/-- **Dashboard and kiosk.** For an occupied slot with a serial the two projections choose the same
assignment, or none, exactly when the unit of the dashboard's choice is the one visible unit with
the serial. -/
theorem dashboard_agrees_kiosk_iff {slot : ChargerSlot} (hserial : slot.deviceSerial ∈ serials) :
    (∀ assignment, assignmentBySerial controls tenancy user tables serials slot.deviceSerial =
      some assignment ↔
        KioskAssigns controls tenancy user tables slot assignment) ↔
      ∀ assignment, assignmentBySerial controls tenancy user tables serials slot.deviceSerial =
        some assignment →
        Docked controls tenancy user tables slot assignment.wirelessUnit := by
  constructor
  · intro h assignment hchoice
    exact ((h assignment).mp hchoice).1
  · intro h assignment
    constructor
    · intro hchoice
      exact ⟨h assignment hchoice, (assignmentBySerial_isPreferred hchoice).1⟩
    · rintro ⟨hdocked, hpreferred⟩
      cases hchoice : assignmentBySerial controls tenancy user tables serials slot.deviceSerial with
      | none =>
          exact absurd hdocked.serial.symm
            ((assignmentBySerial_eq_none hserial).mp hchoice _ hpreferred)
      | some other =>
          have hsame := hdocked.unique (h other hchoice)
          rw [(assignmentBySerial_isPreferred hchoice).1.unique hpreferred (by rw [hsame])]

def hallSlot : ChargerSlot := { pk := 71, slotNumber := 1, occupied := true, deviceSerial := "SN-1" }

theorem dashboard_agrees_kiosk_hall :
    ∃ assignment, assignmentBySerial hallControls hallTenancy hallUser hallTables
      ["SN-1"] hallSlot.deviceSerial =
        some assignment ∧
      KioskAssigns hallControls hallTenancy hallUser hallTables hallSlot assignment := by
  have hserial : hallSlot.deviceSerial ∈ ["SN-1"] := by decide
  have hsome : (assignmentBySerial hallControls hallTenancy hallUser hallTables ["SN-1"]
      hallSlot.deviceSerial).isSome = true := by decide +kernel
  obtain ⟨assignment, hassignment⟩ := Option.isSome_iff_exists.mp hsome
  refine ⟨assignment, hassignment,
    ((dashboard_agrees_kiosk_iff hserial).mpr fun chosen hchoice => ?_) assignment
    |>.mp hassignment⟩
  have hunit := hallTables.assignedUnit _ (assignmentBySerial_isPreferred hchoice).1.stored
  obtain hhall : chosen.wirelessUnit = hallUnit := List.mem_singleton.mp hunit
  rw [hhall]
  refine ⟨by decide, by decide, by decide, by decide, fun other hother _ _ => ?_⟩
  exact List.mem_singleton.mp hother

theorem isSome_mapM {α β : Type} {f : α → Option β} :
    ∀ values : List α, (values.mapM f).isSome ↔ ∀ value ∈ values, (f value).isSome
  | [] => by simp
  | value :: values => by
      rw [List.mapM_cons, List.forall_mem_cons, ← isSome_mapM values]
      cases f value <;> cases values.mapM f <;> simp

/-- The grid is refused exactly when a shown slot has number zero. -/
theorem getSnapshot_isSome_iff :
    (getSnapshot controls tenancy user tables).isSome ↔
      ∀ charger ∈ (getChargers controls tenancy user tables).1,
        ∀ slot ∈ (dashboardSlots charger).take maxDashboardSlotsPerCharger, 1 ≤ slot.slotNumber := by
  rw [getSnapshot, Option.isSome_map, isSome_mapM]
  refine forall₂_congr fun charger _ => ?_
  rw [toSnapshot, Option.isSome_map, isSome_mapM]
  refine forall₂_congr fun slot _ => ?_
  by_cases h : 1 ≤ slot.slotNumber <;> simp [toSlotSnapshot, h]

end ChargerDashboardService

end Micboard.TenantAccess.Display
