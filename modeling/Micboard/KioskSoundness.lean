import Micboard.KioskProjection

/-! What a kiosk snapshot says of the tables. The lookups of a snapshot are made once for all slots
of a wall, and say of each slot what a lookup for its own section would have said; so a section is
shown the same within its wall and alone. A performer that is shown is the preferred performer of
the unit docked in an occupied slot that the user may see, and a snapshot without a truncation mark
shows all of them. -/

namespace Micboard.TenantAccess.Display.KioskService

open Library Library.Ranking

variable {controls : DeploymentControls} {tenancy : Tenancy} {user : User} {tables : DisplayTables}

/-- The serial of the slot belongs to this unit, among all units the user sees. -/
structure Docked (controls : DeploymentControls) (tenancy : Tenancy) (user : User)
    (tables : DisplayTables)
    (slot : ChargerSlot) (unit : WirelessUnit) : Prop where
  serial : slot.deviceSerial = unit.serialNumber
  nonempty : slot.deviceSerial ≠ ""
  stored : unit ∈ tables.units
  visible : unit.forUser controls tenancy user tables.graph = true
  only : ∀ other ∈ tables.units, other.forUser controls tenancy user tables.graph = true →
    other.serialNumber = unit.serialNumber → other = unit

theorem Docked.unique {slot : ChargerSlot} {first second : WirelessUnit}
    (hfirst : Docked controls tenancy user tables slot first)
    (hsecond : Docked controls tenancy user tables slot second) : first = second :=
  hsecond.only first hfirst.stored hfirst.visible (hfirst.serial.symm.trans hsecond.serial)

theorem entryOf_getUnitsBySerial {slots : List ChargerSlot} {slot : ChargerSlot} (hslot : slot ∈ slots)
    {unit : WirelessUnit} :
    entryOf (getUnitsBySerial controls tenancy user tables slots) slot.deviceSerial = some unit ↔
      Docked controls tenancy user tables slot unit := by
  have hserials : slot.deviceSerial ∈ (slots.map (·.deviceSerial)).filter (· ≠ "") ↔
      slot.deviceSerial ≠ "" := by
    rw [List.mem_filter, decide_eq_true_iff]
    exact and_iff_right (List.mem_map_of_mem hslot)
  have hnodup : ((visibleUnits controls tenancy user tables).filter fun unit =>
      unit.serialNumber ∈ (slots.map (·.deviceSerial)).filter (· ≠ "")).Nodup :=
    (tables.uniqueUnit.nodup.filter _).filter _
  unfold getUnitsBySerial
  by_cases hempty : ((slots.map (·.deviceSerial)).filter (· ≠ "")).isEmpty = true
  · rw [if_pos hempty]
    refine iff_of_false (by simp [entryOf]) fun hdocked => ?_
    rw [List.isEmpty_iff.mp hempty] at hserials
    exact absurd (hserials.mpr hdocked.nonempty) List.not_mem_nil
  · rw [if_neg hempty, entryOf_indexUnique, filter_eq_singleton_iff hnodup]
    simp only [List.mem_filter (p := fun unit : WirelessUnit => decide (unit.serialNumber ∈ _)),
      mem_visibleUnits, decide_eq_true_iff]
    constructor
    · rintro ⟨⟨⟨hstored, hvisible⟩, hasked⟩, hserial, honly⟩
      rw [hserial] at hasked
      refine ⟨hserial.symm, hserials.mp hasked, hstored, hvisible,
        fun other hother hvisible' hsame => ?_⟩
      have hserial' := hsame.trans hserial
      exact honly other ⟨⟨hother, hvisible'⟩, by rw [hserial']; exact hasked⟩ hserial'
    · rintro ⟨hserial, hnonempty, hstored, hvisible, honly⟩
      have hasked := hserials.mpr hnonempty
      refine ⟨⟨⟨hstored, hvisible⟩, hserial ▸ hasked⟩, hserial.symm, ?_⟩
      rintro other ⟨⟨hother, hvisible'⟩, -⟩ hserial'
      exact honly other hother hvisible' (hserial'.trans hserial)

theorem lastEntry_getAssignmentsByUnit {slots : List ChargerSlot} {slot : ChargerSlot}
    (hslot : slot ∈ slots)
    {unit : WirelessUnit} (hdocked : Docked controls tenancy user tables slot unit)
    {assignment : PerformerAssignment} :
    lastEntry unitId (getAssignmentsByUnit controls tenancy user tables
        (getUnitsBySerial controls tenancy user tables slots)) unit.pk = some assignment ↔
      IsPreferred controls tenancy user tables assignment ∧ assignment.wirelessUnit.pk = unit.pk := by
  have hentry := (entryOf_getUnitsBySerial hslot).mpr hdocked
  have hunit : unit.pk ∈ ((getUnitsBySerial controls tenancy user tables slots).filterMap Prod.snd).map
      fun unit => unit.pk := by
    refine List.mem_map_of_mem (List.mem_filterMap.mpr ?_)
    obtain ⟨entry, hfind, hvalue⟩ := Option.bind_eq_some_iff.mp hentry
    exact ⟨entry, List.mem_of_find?_eq_some hfind, hvalue⟩
  have hnonempty : ¬(((getUnitsBySerial controls tenancy user tables slots).filterMap Prod.snd).map
      fun unit => unit.pk).isEmpty = true := by
    rw [List.isEmpty_iff]
    exact List.ne_nil_of_mem hunit
  unfold getAssignmentsByUnit
  rw [if_neg hnonempty, lastEntry_eq_some, mem_getPreferredActiveAssignmentsForUnits]
  · constructor
    · rintro ⟨⟨hpreferred, -⟩, hpk⟩
      exact ⟨hpreferred, hpk⟩
    · rintro ⟨hpreferred, hpk⟩
      exact ⟨⟨hpreferred, hpk ▸ hunit⟩, hpk⟩
  · rw [uniqueOn_iff]
    · intro first hfirst second hsecond hpk
      exact (mem_getPreferredActiveAssignmentsForUnits.mp hfirst).1.unique
        (mem_getPreferredActiveAssignmentsForUnits.mp hsecond).1 hpk
    · unfold getPreferredActiveAssignmentsForUnits
      split
      next => exact List.nodup_nil
      next =>
        refine (orderBy_perm _ _).nodup_iff.mpr (List.Nodup.filter _ ?_)
        exact (uniqueOn_activeAssignments tables).nodup

/-- What a slot shows by the lookups of a batch of slots. -/
def slotPerformerIn (controls : DeploymentControls) (tenancy : Tenancy) (user : User)
    (tables : DisplayTables)
    (slots : List ChargerSlot) : Charger → ChargerSlot → Option KioskPerformerSnapshot :=
  let unitsBySerial := getUnitsBySerial controls tenancy user tables slots
  slotPerformer unitsBySerial (getAssignmentsByUnit controls tenancy user tables unitsBySerial)

/-- It says so in terms of the tables alone. -/
theorem slotPerformerIn_eq_some {slots : List ChargerSlot} {slot : ChargerSlot} (hslot : slot ∈ slots)
    {charger : Charger} {shown : KioskPerformerSnapshot} :
    slotPerformerIn controls tenancy user tables slots charger slot = some shown ↔
      ∃ unit assignment, Docked controls tenancy user tables slot unit ∧
        IsPreferred controls tenancy user tables assignment ∧ assignment.wirelessUnit.pk = unit.pk ∧
        shown = serializePerformer charger slot unit assignment := by
  unfold slotPerformerIn slotPerformer
  constructor
  · intro h
    split at h
    next => cases h
    next unit hentry =>
      have hdocked := (entryOf_getUnitsBySerial hslot).mp hentry
      obtain ⟨assignment, hlast, rfl⟩ := Option.map_eq_some_iff.mp h
      obtain ⟨hpreferred, hpk⟩ := (lastEntry_getAssignmentsByUnit hslot hdocked).mp hlast
      exact ⟨unit, assignment, hdocked, hpreferred, hpk, rfl⟩
  · rintro ⟨unit, assignment, hdocked, hpreferred, hpk, rfl⟩
    have hlast := (lastEntry_getAssignmentsByUnit hslot hdocked).mpr ⟨hpreferred, hpk⟩
    rw [(entryOf_getUnitsBySerial hslot).mpr hdocked]
    simp only [hlast, Option.map_some]

theorem slotPerformerIn_congr {slots others : List ChargerSlot} {slot : ChargerSlot}
    (hslot : slot ∈ slots)
    (hother : slot ∈ others) (charger : Charger) :
    slotPerformerIn controls tenancy user tables slots charger slot =
      slotPerformerIn controls tenancy user tables others charger slot := by
  ext shown
  rw [slotPerformerIn_eq_some hslot, slotPerformerIn_eq_some hother]

/-- The snapshot of a section within a batch of sections. -/
def sectionIn (controls : DeploymentControls) (tenancy : Tenancy) (user : User) (tables : DisplayTables)
    (batch : List WallSection) (wallSection : WallSection) : WallSectionSnapshot :=
  let unitsBySerial := getUnitsBySerial controls tenancy user tables
    (occupiedSlots controls tenancy user tables batch)
  serializeSection controls tenancy user tables unitsBySerial
    (getAssignmentsByUnit controls tenancy user tables unitsBySerial) wallSection

theorem serializeSections_eq (batch : List WallSection) :
    serializeSections controls tenancy user tables batch =
      batch.map (sectionIn controls tenancy user tables batch) := rfl

theorem mem_occupiedSlots {batch : List WallSection} {wallSection : WallSection}
    (hsection : wallSection ∈ batch)
    {charger : Charger}
    (hcharger : charger ∈ (loadedChargers controls tenancy user tables wallSection).1)
    {slot : ChargerSlot} (hslot : slot ∈ (loadedSlots charger).1) :
    slot ∈ occupiedSlots controls tenancy user tables batch :=
  List.mem_flatMap.mpr ⟨wallSection, hsection, List.mem_flatMap.mpr ⟨charger, hcharger, hslot⟩⟩

theorem sectionIn_congr {batch others : List WallSection} {wallSection : WallSection}
    (hbatch : wallSection ∈ batch) (hothers : wallSection ∈ others) :
    sectionIn controls tenancy user tables batch wallSection =
      sectionIn controls tenancy user tables others wallSection := by
  unfold sectionIn serializeSection
  simp only [WallSectionSnapshot.mk.injEq, true_and, and_true]
  refine List.filterMap_congr fun charger hcharger => ?_
  have hslots : ∀ slot ∈ (loadedSlots charger).1,
      slotPerformerIn controls tenancy user tables
        (occupiedSlots controls tenancy user tables batch) charger slot =
        slotPerformerIn controls tenancy user tables
          (occupiedSlots controls tenancy user tables others) charger
          slot := fun slot hslot => slotPerformerIn_congr (mem_occupiedSlots hbatch hcharger hslot)
    (mem_occupiedSlots hothers hcharger hslot) charger
  have hperformers := List.filterMap_congr hslots
  simp only [slotPerformerIn] at hperformers
  simp only [serializeCharger, hperformers]

/-- **The bulk projection is the projection of each section alone.** -/
theorem serializeSections_eq_flatMap (batch : List WallSection) :
    serializeSections controls tenancy user tables batch =
      batch.flatMap fun wallSection =>
        serializeSections controls tenancy user tables [wallSection] := by
  have hsingle : ∀ wallSection ∈ batch,
      serializeSections controls tenancy user tables [wallSection] =
        [sectionIn controls tenancy user tables batch wallSection] := by
    intro wallSection hsection
    rw [serializeSections_eq, List.map_singleton,
      sectionIn_congr (List.mem_singleton.mpr rfl) hsection]
  rw [serializeSections_eq, List.flatMap_congr hsingle, List.map_eq_flatMap]

theorem mem_sectionIn {batch : List WallSection} {wallSection : WallSection}
    (hsection : wallSection ∈ batch)
    {shown : KioskPerformerSnapshot} :
    (∃ group ∈ (sectionIn controls tenancy user tables batch wallSection).performers,
      shown ∈ group.performers) ↔
      ∃ charger ∈ (loadedChargers controls tenancy user tables wallSection).1,
        ∃ slot ∈ (loadedSlots charger).1,
        ∃ unit assignment, Docked controls tenancy user tables slot unit ∧
          IsPreferred controls tenancy user tables assignment ∧ assignment.wirelessUnit.pk = unit.pk ∧
          shown = serializePerformer charger slot unit assignment := by
  simp only [sectionIn, serializeSection, List.mem_filterMap]
  constructor
  · rintro ⟨group, ⟨charger, hcharger, hgroup⟩, hshown⟩
    simp only [serializeCharger] at hgroup
    split at hgroup
    next => cases hgroup
    next =>
      obtain rfl := Option.some.inj hgroup
      obtain ⟨slot, hslot, hsome⟩ := List.mem_filterMap.mp hshown
      exact ⟨charger, hcharger, slot, hslot,
        (slotPerformerIn_eq_some (mem_occupiedSlots hsection hcharger hslot)).mp hsome⟩
  · rintro ⟨charger, hcharger, slot, hslot, hdocked⟩
    have hsome := (slotPerformerIn_eq_some (mem_occupiedSlots hsection hcharger hslot)).mpr hdocked
    have hshown := List.mem_filterMap.mpr ⟨slot, hslot, hsome⟩
    refine ⟨_, ⟨charger, hcharger, if_neg ?_⟩, hshown⟩
    rw [List.isEmpty_iff]
    exact List.ne_nil_of_mem hshown

theorem mem_loadedSlots {charger : Charger} {slot : ChargerSlot} (h : slot ∈ (loadedSlots charger).1) :
    slot ∈ charger.slots ∧ slot.occupied = true :=
  List.mem_filter.mp (mem_orderBy.mp (mem_of_mem_page h))

theorem mem_visibleChargers {wallSection : WallSection} {charger : Charger} :
    charger ∈ visibleChargers controls tenancy user tables wallSection ↔
      charger ∈ tables.chargers ∧ charger.pk ∈ wallSection.chargers ∧
        locatedForUser controls tenancy user tables charger.location = true ∧
          charger.isActive = true := by
  simp [visibleChargers, and_assoc]

/-- What `snapshotFor` looks for. -/
structure IsShownWall (controls : DeploymentControls) (tenancy : Tenancy) (user : User)
    (tables : DisplayTables)
    (wall : DisplayWall) : Prop where
  stored : wall ∈ tables.walls
  visible : locatedForUser controls tenancy user tables wall.location = true
  active : wall.isActive = true

theorem snapshotFor_eq_some {lookup : DisplayWall → Bool} {snapshot : DisplayWallSnapshot}
    (h : snapshotFor controls tenancy user tables lookup = some snapshot) :
    ∃ wall, IsShownWall controls tenancy user tables wall ∧ lookup wall = true ∧
      snapshot.wall.id = wall.pk ∧
      snapshot.sections = serializeSections controls tenancy user tables (loadedSections wall).1 ∧
      snapshot.sectionsTruncated = (loadedSections wall).2 := by
  unfold snapshotFor at h
  obtain ⟨wall, hfind, hsnapshot⟩ := Option.bind_eq_some_iff.mp h
  obtain ⟨hstored, hvisible⟩ := List.mem_filter.mp (List.mem_of_find?_eq_some hfind)
  have hfound := List.find?_some hfind
  obtain ⟨hactive, hlookup⟩ := Bool.and_eq_true_iff.mp hfound
  obtain rfl := Option.some.inj hsnapshot
  exact ⟨wall, ⟨hstored, hvisible, hactive⟩, hlookup, rfl, rfl, rfl⟩

def Shows (snapshot : DisplayWallSnapshot) (shown : KioskPerformerSnapshot) : Prop :=
  ∃ wallSection ∈ snapshot.sections, ∃ group ∈ wallSection.performers, shown ∈ group.performers

/-- No list of the snapshot was cut off. -/
structure IsComplete (snapshot : DisplayWallSnapshot) : Prop where
  sections : snapshot.sectionsTruncated = false
  chargers : ∀ wallSection ∈ snapshot.sections, wallSection.chargersTruncated = false
  slots : ∀ wallSection ∈ snapshot.sections, wallSection.occupiedSlotsTruncated = false

/-- A performer that the wall has to show: the slot is occupied, its charger is active and visible
and in an active section, and it holds the serial of a visible unit with a preferred assignment. -/
def Showable (controls : DeploymentControls) (tenancy : Tenancy) (user : User) (tables : DisplayTables)
    (wall : DisplayWall) (shown : KioskPerformerSnapshot) : Prop :=
  ∃ wallSection ∈ wall.sections, wallSection.isActive = true ∧
    ∃ charger ∈ tables.chargers, charger.pk ∈ wallSection.chargers ∧
      locatedForUser controls tenancy user tables charger.location = true ∧ charger.isActive = true ∧
      ∃ slot ∈ charger.slots, slot.occupied = true ∧
        ∃ unit assignment, Docked controls tenancy user tables slot unit ∧
          IsPreferred controls tenancy user tables assignment ∧ assignment.wirelessUnit.pk = unit.pk ∧
          shown = serializePerformer charger slot unit assignment

/-- A wall shows only performers that it has to show, and one that marks no list as cut off shows
them all. -/
theorem shows_of_snapshot {wall : DisplayWall} {snapshot : DisplayWallSnapshot}
    {shown : KioskPerformerSnapshot}
    (hsections : snapshot.sections = serializeSections controls tenancy user tables
      (loadedSections wall).1)
    (htruncated : snapshot.sectionsTruncated = (loadedSections wall).2) :
    (Shows snapshot shown → Showable controls tenancy user tables wall shown) ∧
      (IsComplete snapshot → Showable controls tenancy user tables wall shown →
        Shows snapshot shown) := by
  constructor
  · rintro ⟨shownSection, hshown, hgroup⟩
    rw [hsections, serializeSections_eq] at hshown
    obtain ⟨wallSection, hloaded, rfl⟩ := List.mem_map.mp hshown
    obtain ⟨charger, hcharger, slot, hslot, hdocked⟩ := (mem_sectionIn hloaded).mp hgroup
    obtain ⟨hstored, hactive⟩ := List.mem_filter.mp (mem_orderBy.mp (mem_of_mem_page hloaded))
    obtain ⟨hmem, hin, hvisible, hactive'⟩ := mem_visibleChargers.mp (mem_of_mem_page hcharger)
    obtain ⟨hslot', hoccupied⟩ := mem_loadedSlots hslot
    exact ⟨wallSection, hstored, hactive, charger, hmem, hin, hvisible, hactive', slot, hslot',
      hoccupied, hdocked⟩
  · rintro ⟨hall, hchargers, hslots⟩ ⟨wallSection, hstored, hactive, charger, hmem, hin,
      hvisible, hactive', slot,
      hslot, hoccupied, hdocked⟩
    rw [htruncated] at hall
    have hloaded : wallSection ∈ (loadedSections wall).1 := by
      rw [loadedSections, page_complete hall, mem_orderBy, List.mem_filter]
      exact ⟨hstored, hactive⟩
    have hshown : sectionIn controls tenancy user tables (loadedSections wall).1 wallSection ∈
        snapshot.sections := by
      rw [hsections, serializeSections_eq]
      exact List.mem_map_of_mem hloaded
    have hcharger : charger ∈ (loadedChargers controls tenancy user tables wallSection).1 := by
      rw [loadedChargers, page_complete (hchargers _ hshown), mem_visibleChargers]
      exact ⟨hmem, hin, hvisible, hactive'⟩
    have hslot' : slot ∈ (loadedSlots charger).1 := by
      have hcut : (loadedSlots charger).2 = false := by
        have hnone := List.any_eq_false.mp (hslots _ hshown) charger hcharger
        simpa using hnone
      rw [loadedSlots, page_complete hcut, mem_orderBy, List.mem_filter]
      exact ⟨hslot, hoccupied⟩
    exact ⟨_, hshown, (mem_sectionIn hloaded).mpr ⟨charger, hcharger, slot, hslot', hdocked⟩⟩

/-- **A kiosk shows the wall it is asked for.** What the snapshot of a wall shows is visible to the
user down to the assignment, and without a truncation mark nothing is missing. -/
theorem wall_snapshot_shows {wallId : Nat} {snapshot : DisplayWallSnapshot}
    (h : getWallSnapshot controls tenancy user tables wallId = some snapshot) :
    ∃ wall, wall.pk = wallId ∧ IsShownWall controls tenancy user tables wall ∧ ∀ shown,
      (Shows snapshot shown → Showable controls tenancy user tables wall shown) ∧
        (IsComplete snapshot →
          (Shows snapshot shown ↔ Showable controls tenancy user tables wall shown)) := by
  obtain ⟨wall, hshown, hlookup, -, hsections, htruncated⟩ := snapshotFor_eq_some h
  refine ⟨wall, by simpa using hlookup, hshown, fun shown => ?_⟩
  obtain ⟨hsound, hcomplete⟩ :
      (Shows snapshot shown → Showable controls tenancy user tables wall shown) ∧
      (IsComplete snapshot → Showable controls tenancy user tables wall shown → Shows snapshot shown) :=
    shows_of_snapshot hsections htruncated
  exact ⟨hsound, fun hwhole => ⟨hsound, hcomplete hwhole⟩⟩

/-- **A section is shown alone as it is shown within its wall.** -/
theorem section_snapshot_of_wall {wallId sectionId : Nat} {snapshot : DisplayWallSnapshot}
    {shown : WallSectionSnapshot}
    (h : getWallSnapshot controls tenancy user tables wallId = some snapshot)
    (hshown : shown ∈ snapshot.sections) (hid : shown.id = sectionId) :
    getSectionSnapshot controls tenancy user tables sectionId = some shown := by
  obtain ⟨wall, hwall, -, -, hsections, -⟩ := snapshotFor_eq_some h
  rw [hsections, serializeSections_eq] at hshown
  obtain ⟨wallSection, hloaded, rfl⟩ := List.mem_map.mp hshown
  obtain ⟨hstored, hactive⟩ := List.mem_filter.mp (mem_orderBy.mp (mem_of_mem_page hloaded))
  obtain rfl : wallSection.pk = sectionId := hid
  have hmem :
      wallSection ∈ (accessibleDisplayWalls controls tenancy user tables).flatMap (·.sections) :=
    List.mem_flatMap.mpr ⟨wall, List.mem_filter.mpr ⟨hwall.stored, hwall.visible⟩, hstored⟩
  have hfind : ((accessibleDisplayWalls controls tenancy user tables).flatMap (·.sections)).find?
      (fun other => other.isActive && other.pk = wallSection.pk) = some wallSection := by
    cases hfound : ((accessibleDisplayWalls controls tenancy user tables).flatMap (·.sections)).find?
        fun other => other.isActive && other.pk = wallSection.pk with
    | none => simpa [hactive] using List.find?_eq_none.mp hfound wallSection hmem
    | some other =>
        obtain ⟨wall', hwall', hother⟩ := List.mem_flatMap.mp (List.mem_of_find?_eq_some hfound)
        have hpk : other.pk = wallSection.pk := by
          have hp := List.find?_some hfound
          simp only [Bool.and_eq_true, decide_eq_true_iff] at hp
          exact hp.2
        rw [tables.uniqueSection.eq
          (List.mem_flatMap.mpr ⟨wall', (List.mem_filter.mp hwall').1, hother⟩)
          (List.mem_flatMap.mpr ⟨wall, hwall.stored, hstored⟩) hpk]
  rw [getSectionSnapshot, hfind]
  rw [Option.bind_eq_bind, Option.bind_some, serializeSections_eq, List.map_singleton, List.head?_cons,
    sectionIn_congr (List.mem_singleton.mpr rfl) hloaded]

/-! ### A wall with one docked unit -/

def hall : Location := ⟨20, { pk := 30 }⟩

def hallControls : DeploymentControls := { mspEnabled := false, multiSiteMode := false }

def hallTenancy : Tenancy where
  organizations := []
  campuses := []
  memberships := []

def hallUser : User := { pk := 4 }

def hallGroup : TenantAccess.MonitoringGroup :=
  { pk := 50, users := [4], locations := [{ location := hall }] }

def hallUnit : WirelessUnit :=
  { pk := 40, baseChassis := { location := some hall }, serialNumber := "SN-1" }

def hallSinger : Performer := { pk := 60, name := "Ada" }

/-- A singer whose unit is docked in the first slot of the only charger. -/
def hallTables : DisplayTables where
  graph := { units := [hallUnit.toWirelessUnit], groups := [hallGroup], performers := [60] }
  units := [hallUnit]
  assignments :=
    [{ pk := 1, performer := hallSinger, wirelessUnit := hallUnit, monitoringGroup := hallGroup,
       updatedAt := 0 }]
  chargers :=
    [{ pk := 70, location := hall,
       slots := [{ pk := 71, slotNumber := 1, occupied := true, deviceSerial := "SN-1" }] }]
  walls :=
    [{ pk := 80, location := hall, kioskId := "foyer",
       sections := [{ pk := 81, chargers := [70] }] }]

theorem wall_snapshot_shows_hall :
    ∃ snapshot, getWallSnapshot hallControls hallTenancy hallUser hallTables 80 = some snapshot ∧
      (snapshot.sections.flatMap fun shown => shown.performers.flatMap fun group =>
        group.performers.map (·.performerName)) = ["Ada"] ∧
      ∃ wall, wall.pk = 80 ∧ IsShownWall hallControls hallTenancy hallUser hallTables wall ∧ ∀ shown,
        Shows snapshot shown → Showable hallControls hallTenancy hallUser hallTables wall shown := by
  have hsome : (getWallSnapshot hallControls hallTenancy hallUser hallTables 80).isSome = true := by
    decide +kernel
  obtain ⟨snapshot, hsnapshot⟩ := Option.isSome_iff_exists.mp hsome
  have hnames : (getWallSnapshot hallControls hallTenancy hallUser hallTables 80).map (fun snapshot =>
      snapshot.sections.flatMap fun shown => shown.performers.flatMap fun group =>
        group.performers.map (·.performerName)) = some ["Ada"] := by decide +kernel
  rw [hsnapshot] at hnames
  obtain ⟨wall, hpk, hshown, hshows⟩ := wall_snapshot_shows hsnapshot
  exact ⟨snapshot, hsnapshot, Option.some.inj hnames, wall, hpk, hshown, fun shown => (hshows shown).1⟩

theorem section_snapshot_of_wall_hall :
    ∃ snapshot, getWallSnapshot hallControls hallTenancy hallUser hallTables 80 = some snapshot ∧
      ∃ shown, snapshot.sections = [shown] ∧
        getSectionSnapshot hallControls hallTenancy hallUser hallTables 81 = some shown ∧
        (shown.performers.flatMap fun group => group.performers.map (·.performerName)) = ["Ada"] := by
  have hshows : (getWallSnapshot hallControls hallTenancy hallUser hallTables 80).map (fun snapshot =>
      snapshot.sections.map fun shown => (shown.id, shown.performers.flatMap fun group =>
        group.performers.map (·.performerName))) = some [(81, ["Ada"])] := by decide +kernel
  obtain ⟨snapshot, hsnapshot, hsections⟩ := Option.map_eq_some_iff.mp hshows
  obtain ⟨shown, rest, hsplit, hshown, hrest⟩ := List.map_eq_cons_iff.mp hsections
  obtain rfl := List.map_eq_nil_iff.mp hrest
  obtain ⟨hid, hnames⟩ := Prod.mk.inj hshown
  have hmem : shown ∈ snapshot.sections := by simp [hsplit]
  exact ⟨snapshot, hsnapshot, shown, hsplit, section_snapshot_of_wall hsnapshot hmem hid, hnames⟩

end Micboard.TenantAccess.Display.KioskService
