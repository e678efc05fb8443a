import Mathlib.Algebra.Order.BigOperators.Group.List
import Micboard.DeviceSpecs
import Micboard.KioskProjection

/-! The health of a display wall: its chargers, each of them once, with an assessment of every slot.
Times count microseconds; the heartbeat of a charger is read twice, for the charger in whole seconds
and for its slots as it is. -/

namespace Micboard.TenantAccess.Display

open Library Library.Ranking

def heartbeatTimeoutSeconds : Int := 120

def microseconds : Int := 1000000

/-- `int(age.total_seconds())`, which cuts towards zero. -/
def wholeSeconds (age : Int) : Int := age.tdiv microseconds

/-- `f"{age.total_seconds():.0f}"` of an age that is past the timeout: to the nearest second, a half
to the even one. -/
def roundedSeconds (age : Int) : Int :=
  let seconds := age / microseconds
  let rest := age % microseconds
  if 2 * rest < microseconds then seconds
  else if microseconds < 2 * rest then seconds + 1
  else if seconds % 2 = 0 then seconds else seconds + 1

structure KioskSlotHealthSnapshot where
  slotId : Nat
  slotNumber : Nat
  chargerId : Nat
  occupied : Bool
  connected : Bool := false
  isValid : Bool := false
  issues : List String
  deriving DecidableEq, Repr

structure KioskChargerHealthSnapshot where
  id : Nat
  name : String
  status : String
  ip : Option String
  health : String
  connected : Bool
  lastHeartbeatSecondsAgo : Option Int
  occupiedSlots : Nat
  connectedSlots : Nat
  totalSlots : Nat
  issueCount : Nat
  slots : List KioskSlotHealthSnapshot
  slotsTruncated : Bool
  slotLimit : Nat := maxKioskSlotsPerCharger
  deriving DecidableEq, Repr

structure DisplayWallHealthSnapshot where
  wallId : Nat
  chargers : List KioskChargerHealthSnapshot
  sectionsTruncated : Bool
  chargersTruncated : Bool
  slotsTruncated : Bool
  sectionLimit : Nat := maxKioskSections
  chargerLimit : Nat := maxKioskSections * maxKioskChargersPerSection
  slotLimit : Nat := maxKioskSlotsPerCharger
  deriving DecidableEq, Repr

namespace KioskHealthService

def failedStatuses : List String := ["error", "offline", "fault"]

def batteryIssues (slot : ChargerSlot) : List String :=
  match slot.batteryPercent with
  | none => []
  | some percent => if percent < 5 then [s!"Battery critically low: {percent}%"] else []

/-- Assess one prefetched slot of a charger. -/
def checkSlot (now : Time) (charger : Charger) (slot : ChargerSlot) : KioskSlotHealthSnapshot :=
  let result (issues : List String) : KioskSlotHealthSnapshot :=
    { slotId := slot.pk, slotNumber := slot.slotNumber, chargerId := charger.pk,
      occupied := slot.occupied, issues }
  if !slot.occupied then result ["Slot not marked as occupied"]
  else if slot.deviceSerial = "" then result ["No device serial number"]
  else if lowerText slot.deviceStatus ∈ failedStatuses then result
    [s!"Device status is {slot.deviceStatus}"]
  else match charger.lastSeen with
    | none => result (batteryIssues slot ++ ["Charger has never reported a heartbeat"])
    | some lastSeen =>
      if heartbeatTimeoutSeconds * microseconds < now - lastSeen then
        result (batteryIssues slot ++ [
          s!"Charger not seen for {roundedSeconds (now - lastSeen)}s (timeout: {heartbeatTimeoutSeconds}s)"])
      else
        { result (batteryIssues slot) with
          connected := true, isValid := (batteryIssues slot).isEmpty }

def healthSlots (charger : Charger) : List ChargerSlot × Bool :=
  page maxKioskSlotsPerCharger
    (orderBy (fun slot : ChargerSlot => toLex (slot.slotNumber, slot.pk)) charger.slots)

def heartbeatAgeSeconds (now : Time) (charger : Charger) : Option Int :=
  charger.lastSeen.map fun lastSeen => wholeSeconds (now - lastSeen)

/-- Build one charger result from its prefetched slots. -/
def buildChargerHealth (now : Time) (charger : Charger) : KioskChargerHealthSnapshot :=
  let connected := (heartbeatAgeSeconds now charger).any fun age => age ≤ heartbeatTimeoutSeconds
  let (loaded, slotsTruncated) := healthSlots charger
  let slots := loaded.map (checkSlot now charger)
  let occupied := slots.filter (·.occupied)
  let issueCount := (occupied.map fun slot => slot.issues.length).sum
  { id := charger.pk
    name := charger.name
    status := charger.status
    ip := charger.ip
    health :=
      if !connected then "offline"
      else if issueCount ≠ 0 then "degraded"
      else if occupied.length = 0 then "idle"
      else "healthy"
    connected
    lastHeartbeatSecondsAgo := heartbeatAgeSeconds now charger
    occupiedSlots := occupied.length
    connectedSlots := (occupied.filter (·.connected)).length
    totalSlots := charger.slotCount
    issueCount
    slots
    slotsTruncated }

section Wall

variable (controls : DeploymentControls) (tenancy : Tenancy) (user : User) (tables : DisplayTables)

/-- The chargers of a section, in the order of their keys and up to the bound. -/
def accessibleChargers (wallSection : WallSection) : List Charger × Bool :=
  page maxKioskChargersPerSection
    (orderBy Charger.pk (tables.chargers.filter fun charger => charger.pk ∈ wallSection.chargers &&
      locatedForUser controls tenancy user tables charger.location && charger.isActive))

/-- The snapshots of the loop and whether slots were left out. -/
structure HealthRun where
  chargers : List KioskChargerHealthSnapshot := []
  slotsTruncated : Bool := false

/-- One turn of the loop; the seen keys are those of the snapshots. -/
def healthStep (now : Time) (run : HealthRun) (charger : Charger) : HealthRun :=
  if run.chargers.any fun snapshot => snapshot.id = charger.pk then run
  else
    let snapshot := buildChargerHealth now charger
    { chargers := run.chargers ++ [snapshot], slotsTruncated := run.slotsTruncated ||
      snapshot.slotsTruncated }

/-- Return one accessible wall's health. -/
def getWallHealth (now : Time) (wallId : Nat) : Option DisplayWallHealthSnapshot := do
  let wall ← (KioskService.accessibleDisplayWalls controls tenancy user tables).find? fun wall =>
    wall.isActive && wall.pk = wallId
  let (sections, sectionsTruncated) := KioskService.loadedSections wall
  let run := (sections.flatMap fun wallSection =>
    (accessibleChargers controls tenancy user tables wallSection).1).foldl (healthStep now) {}
  some {
    wallId := wall.pk
    chargers := run.chargers
    sectionsTruncated
    chargersTruncated := sections.any fun wallSection =>
      (accessibleChargers controls tenancy user tables wallSection).2
    slotsTruncated := run.slotsTruncated }

end Wall

section Slot

variable {now : Time} {charger : Charger} {slot : ChargerSlot}

@[simp] theorem checkSlot_occupied : (checkSlot now charger slot).occupied = slot.occupied := by
  simp only [checkSlot]
  repeat' split
  all_goals rfl

/-- The charger's last heartbeat is not older than the timeout, to the microsecond. -/
def Beating (now : Time) (charger : Charger) : Prop :=
  ∃ lastSeen, charger.lastSeen = some lastSeen ∧ now - lastSeen ≤ heartbeatTimeoutSeconds * microseconds

/-- The docked device is identified, works and is charged. -/
structure InOrder (slot : ChargerSlot) : Prop where
  serial : slot.deviceSerial ≠ ""
  status : lowerText slot.deviceStatus ∉ failedStatuses
  battery : ∀ percent, slot.batteryPercent = some percent → 5 ≤ percent

theorem batteryIssues_eq_nil : batteryIssues slot = [] ↔
    ∀ percent, slot.batteryPercent = some percent → 5 ≤ percent := by
  unfold batteryIssues
  cases slot.batteryPercent with
  | none => simp
  | some percent =>
      by_cases h : percent < 5
      · simp [h]
      · simp [h, not_lt.mp h]

theorem checkSlot_issues (hoccupied : slot.occupied = true) :
    (checkSlot now charger slot).issues = [] ↔ InOrder slot ∧ Beating now charger := by
  simp only [checkSlot, hoccupied, Bool.not_true, Bool.false_eq_true, if_false]
  by_cases hserial : slot.deviceSerial = ""
  · rw [if_pos hserial]
    exact iff_of_false (by simp) fun h => h.1.serial hserial
  rw [if_neg hserial]
  by_cases hstatus : lowerText slot.deviceStatus ∈ failedStatuses
  · rw [if_pos hstatus]
    exact iff_of_false (by simp) fun h => h.1.status hstatus
  rw [if_neg hstatus]
  cases hseen : charger.lastSeen with
  | none => exact iff_of_false (by simp) fun ⟨_, _, hbeat, _⟩ => by simp [hseen] at hbeat
  | some lastSeen =>
      simp only
      by_cases hlate : heartbeatTimeoutSeconds * microseconds < now - lastSeen
      · rw [if_pos hlate]
        refine iff_of_false (by simp) fun ⟨_, beat, hbeat, hage⟩ => ?_
        rw [hseen] at hbeat
        obtain rfl := Option.some.inj hbeat
        exact absurd hlate (not_lt.mpr hage)
      · rw [if_neg hlate]
        show batteryIssues slot = [] ↔ _
        rw [batteryIssues_eq_nil]
        constructor
        · exact fun hbattery => ⟨⟨hserial, hstatus, hbattery⟩, lastSeen, hseen, not_lt.mp hlate⟩
        · exact fun h => h.1.battery

end Slot

section Charger

variable {now : Time} {charger : Charger}

/-- The last heartbeat of the charger is less than a second past the timeout. -/
def Heard (now : Time) (charger : Charger) : Prop :=
  ∃ lastSeen, charger.lastSeen = some lastSeen ∧
    now - lastSeen < (heartbeatTimeoutSeconds + 1) * microseconds

theorem Beating.heard (h : Beating now charger) : Heard now charger := by
  obtain ⟨lastSeen, hseen, hage⟩ := h
  refine ⟨lastSeen, hseen, lt_of_le_of_lt hage ?_⟩
  decide

/-- The slot is one of the charger's first ones, by number and key, up to the bound. -/
def Shows (charger : Charger) (slot : ChargerSlot) : Prop :=
  slot ∈ charger.slots ∧ (charger.slots.countP fun other =>
    toLex (other.slotNumber, other.pk) < toLex (slot.slotNumber, slot.pk)) < maxKioskSlotsPerCharger

theorem mem_healthSlots {slot : ChargerSlot} (hslots : UniqueOn ChargerSlot.pk charger.slots) :
    slot ∈ (healthSlots charger).1 ↔ Shows charger slot := by
  refine mem_page_orderBy ?_ maxKioskSlotsPerCharger
  refine (uniqueOn_iff hslots.nodup).mpr fun first hfirst second hsecond heq => ?_
  exact hslots.eq hfirst hsecond (Prod.mk.inj (toLex.injective heq)).2

theorem connected_iff : (buildChargerHealth now charger).connected = true ↔ Heard now charger := by
  have hwhole : ∀ age : Int, wholeSeconds age ≤ heartbeatTimeoutSeconds ↔
      age < (heartbeatTimeoutSeconds + 1) * microseconds := by
    intro age
    simp only [wholeSeconds, heartbeatTimeoutSeconds, microseconds]
    rw [Int.tdiv_eq_ediv]
    have hsign : Int.sign 1000000 = 1 := rfl
    rw [hsign]
    split <;> omega
  show (heartbeatAgeSeconds now charger).any (fun age => age ≤ heartbeatTimeoutSeconds) = true ↔ _
  simp [Heard, heartbeatAgeSeconds, Option.any_eq_true, hwhole]

/-- The issues of the occupied slots add up to nothing when none of them has any. -/
theorem issueCount_eq_zero : (buildChargerHealth now charger).issueCount = 0 ↔
    ∀ slot ∈ (healthSlots charger).1, slot.occupied = true → InOrder slot ∧ Beating now charger := by
  show (((((healthSlots charger).1.map (checkSlot now charger)).filter (·.occupied)).map
    fun slot => slot.issues.length).sum) = 0 ↔ _
  rw [List.sum_eq_zero_iff]
  simp only [List.mem_map, List.mem_filter]
  constructor
  · intro h slot hslot hoccupied
    rw [← checkSlot_issues hoccupied]
    exact List.length_eq_zero_iff.mp (h _ ⟨_, ⟨⟨slot, hslot, rfl⟩, by simpa using hoccupied⟩, rfl⟩)
  · rintro h _ ⟨_, ⟨⟨slot, hslot, rfl⟩, hoccupied⟩, rfl⟩
    rw [checkSlot_occupied] at hoccupied
    rw [(checkSlot_issues hoccupied).mpr (h slot hslot hoccupied), List.length_nil]

theorem occupiedSlots_eq_zero : (buildChargerHealth now charger).occupiedSlots = 0 ↔
    ∀ slot ∈ (healthSlots charger).1, slot.occupied = false := by
  show (((healthSlots charger).1.map (checkSlot now charger)).filter (·.occupied)).length = 0 ↔ _
  rw [List.length_eq_zero_iff, List.filter_eq_nil_iff]
  simp

/-- **What a charger's health says**, in terms of its stored heartbeat and slots. -/
theorem health_spec (now : Time) (charger : Charger) (hslots : UniqueOn ChargerSlot.pk charger.slots) :
    ((buildChargerHealth now charger).health = "offline" ↔ ¬Heard now charger) ∧
    ((buildChargerHealth now charger).health = "degraded" ↔ Heard now charger ∧
      ∃ slot, Shows charger slot ∧ slot.occupied = true ∧ (InOrder slot → ¬Beating now charger)) ∧
    ((buildChargerHealth now charger).health = "idle" ↔ Heard now charger ∧
      ∀ slot, Shows charger slot → slot.occupied = false) ∧
    ((buildChargerHealth now charger).health = "healthy" ↔
      (∃ slot, Shows charger slot ∧ slot.occupied = true) ∧ Beating now charger ∧
        ∀ slot, Shows charger slot → slot.occupied = true → InOrder slot) := by
  have hissues : (buildChargerHealth now charger).issueCount = 0 ↔
      ∀ slot, Shows charger slot → slot.occupied = true → InOrder slot ∧ Beating now charger := by
    simp only [issueCount_eq_zero, mem_healthSlots hslots]
  have hempty : (buildChargerHealth now charger).occupiedSlots = 0 ↔
      ∀ slot, Shows charger slot → slot.occupied = false := by
    simp only [occupiedSlots_eq_zero, mem_healthSlots hslots]
  have hhealth : (buildChargerHealth now charger).health =
      if !(buildChargerHealth now charger).connected then "offline"
      else if (buildChargerHealth now charger).issueCount ≠ 0 then "degraded"
      else if (buildChargerHealth now charger).occupiedSlots = 0 then "idle"
      else "healthy" := rfl
  rw [hhealth]
  by_cases hheard : Heard now charger
  · rw [connected_iff.mpr hheard]
    by_cases hnone : ∀ slot, Shows charger slot → slot.occupied = false
    · have hvacant : ∀ slot, Shows charger slot → ¬slot.occupied = true := fun slot hslot => by
        rw [hnone slot hslot]
        exact Bool.false_ne_true
      have hzero := hissues.mpr fun slot hslot hoccupied => absurd hoccupied (hvacant slot hslot)
      rw [if_neg (by simp), if_neg (not_not.mpr hzero), if_pos (hempty.mpr hnone)]
      refine ⟨?_, ?_, iff_of_true rfl ⟨hheard, hnone⟩, ?_⟩
      · exact iff_of_false (by decide) (not_not.mpr hheard)
      · exact iff_of_false (by decide) fun ⟨_, slot, hslot, hoccupied, _⟩ =>
          hvacant slot hslot hoccupied
      · exact iff_of_false (by decide) fun ⟨⟨slot, hslot, hoccupied⟩, _⟩ => hvacant slot hslot hoccupied
    · obtain ⟨slot, hslot, hoccupied⟩ : ∃ slot, Shows charger slot ∧ slot.occupied = true := by
        simpa using hnone
      by_cases hall : ∀ slot, Shows charger slot → slot.occupied = true → InOrder slot ∧
        Beating now charger
      · rw [if_neg (by simp), if_neg (not_not.mpr (hissues.mpr hall)), if_neg (mt hempty.mp hnone)]
        refine ⟨?_, ?_, ?_, iff_of_true rfl ⟨⟨slot, hslot, hoccupied⟩, (hall slot hslot hoccupied).2,
          fun other hother hoccupied' => (hall other hother hoccupied').1⟩⟩
        · exact iff_of_false (by decide) (not_not.mpr hheard)
        · refine iff_of_false (by decide) fun ⟨_, other, hother, hoccupied', hbad⟩ => ?_
          obtain ⟨horder, hbeat⟩ := hall other hother hoccupied'
          exact hbad horder hbeat
        · exact iff_of_false (by decide) fun h => hnone h.2
      · rw [if_neg (by simp), if_pos (mt hissues.mp hall)]
        refine ⟨?_, iff_of_true rfl ⟨hheard, ?_⟩, ?_, ?_⟩
        · exact iff_of_false (by decide) (not_not.mpr hheard)
        · simpa [and_assoc] using hall
        · exact iff_of_false (by decide) fun h => hnone h.2
        · exact iff_of_false (by decide) fun ⟨_, hbeat, horder⟩ =>
            hall fun other hother hoccupied' => ⟨horder other hother hoccupied', hbeat⟩
  · have hoff : (buildChargerHealth now charger).connected = false :=
      Bool.eq_false_iff.mpr (mt connected_iff.mp hheard)
    rw [hoff, if_pos (by simp)]
    refine ⟨iff_of_true rfl hheard, ?_, ?_, ?_⟩
    · exact iff_of_false (by decide) fun h => hheard h.1
    · exact iff_of_false (by decide) fun h => hheard h.1
    · exact iff_of_false (by decide) fun h => hheard h.2.1.heard

end Charger

/-- A charger with one docked transmitter. -/
def rackCharger : Charger :=
  { pk := 1, location := ⟨20, { pk := 30 }⟩, lastSeen := some 0
    slots := [{ pk := 1, slotNumber := 1, occupied := true, deviceSerial := "SN-1" },
      { pk := 2, slotNumber := 2 }] }

/-- Between the two readings of its heartbeat the charger is connected, and its docked device has an
issue. -/
theorem health_spec_rack : (buildChargerHealth 120500000 rackCharger).health = "degraded" := by
  refine (health_spec 120500000 rackCharger (by decide)).2.1.mpr ⟨⟨0, rfl, by decide⟩, _,
    ⟨List.mem_cons_self, by decide +kernel⟩, rfl, ?_⟩
  rintro - ⟨lastSeen, hseen, hage⟩
  obtain rfl := Option.some.inj hseen
  exact absurd hage (by decide)

/-! ### Walls -/

section Wall

variable {controls : DeploymentControls} {tenancy : Tenancy} {user : User}
  {tables : DisplayTables} {now : Time}

/-- The run over some chargers: each is assessed once, at its first occurrence. -/
structure Assessed (now : Time) (chargers : List Charger) (run : HealthRun) : Prop where
  once : UniqueOn KioskChargerHealthSnapshot.id run.chargers
  sound : ∀ snapshot ∈ run.chargers, ∃ charger ∈ chargers, snapshot = buildChargerHealth now charger
  complete : ∀ charger ∈ chargers, ∃ snapshot ∈ run.chargers, snapshot.id = charger.pk
  truncated : run.slotsTruncated = run.chargers.any (·.slotsTruncated)

theorem assessed_foldl (now : Time) (chargers : List Charger) :
    Assessed now chargers (chargers.foldl (healthStep now) {}) := by
  induction chargers using List.reverseRecOn with
  | nil => exact ⟨List.nodup_nil, by simp, by simp, rfl⟩
  | append_singleton chargers charger ih =>
      rw [List.foldl_concat]
      generalize chargers.foldl (healthStep now) {} = run at ih
      unfold healthStep
      by_cases hseen : run.chargers.any (fun snapshot => snapshot.id = charger.pk) = true
      · rw [if_pos hseen]
        refine ⟨ih.once, fun snapshot hmem => ?_, fun other hother => ?_, ih.truncated⟩
        · obtain ⟨other, hother, heq⟩ := ih.sound snapshot hmem
          exact ⟨other, List.mem_append_left _ hother, heq⟩
        · rcases List.mem_append.mp hother with hold | hnew
          · exact ih.complete other hold
          · obtain rfl := List.mem_singleton.mp hnew
            simpa using hseen
      · rw [if_neg hseen]
        refine ⟨ih.once.append_row fun other hother heq => hseen ?_, fun snapshot hmem => ?_,
          fun other hother => ?_, by simp [ih.truncated]⟩
        · exact List.any_eq_true.mpr ⟨other, hother, decide_eq_true heq⟩
        · rcases List.mem_append.mp hmem with hold | hnew
          · obtain ⟨other, hother, heq⟩ := ih.sound snapshot hold
            exact ⟨other, List.mem_append_left _ hother, heq⟩
          · exact ⟨charger, List.mem_append_right _ (List.mem_singleton.mpr rfl),
              List.mem_singleton.mp hnew⟩
        · rcases List.mem_append.mp hother with hold | hnew
          · obtain ⟨snapshot, hmem, heq⟩ := ih.complete other hold
            exact ⟨snapshot, List.mem_append_left _ hmem, heq⟩
          · obtain rfl := List.mem_singleton.mp hnew
            exact ⟨_, List.mem_append_right _ (List.mem_singleton.mpr rfl), rfl⟩

def Assessable (controls : DeploymentControls) (tenancy : Tenancy) (user : User)
    (tables : DisplayTables)
    (wall : DisplayWall) (charger : Charger) : Prop :=
  charger ∈ tables.chargers ∧ locatedForUser controls tenancy user tables charger.location = true ∧
    charger.isActive = true ∧ ∃ wallSection ∈ wall.sections, wallSection.isActive = true ∧
      charger.pk ∈ wallSection.chargers

theorem mem_accessibleChargers {wallSection : WallSection} {charger : Charger}
    (h : charger ∈ (accessibleChargers controls tenancy user tables wallSection).1) :
    charger ∈ tables.chargers ∧ charger.pk ∈ wallSection.chargers ∧
      locatedForUser controls tenancy user tables charger.location = true ∧
        charger.isActive = true := by
  have hmem := mem_orderBy.mp (mem_of_mem_page h)
  simpa [and_assoc] using hmem

/-- **The health of a wall.** Every charger is assessed at most once, however many sections show it;
what is listed is the assessment of an active charger that the user may see, and unless a list was
cut off none is missing. -/
theorem wall_health_spec {wallId : Nat} {snapshot : DisplayWallHealthSnapshot}
    (h : getWallHealth controls tenancy user tables now wallId = some snapshot) :
    ∃ wall ∈ tables.walls, wall.pk = wallId ∧ wall.isActive = true ∧
      locatedForUser controls tenancy user tables wall.location = true ∧
      UniqueOn KioskChargerHealthSnapshot.id snapshot.chargers ∧
      (∀ health ∈ snapshot.chargers, ∃ charger, Assessable controls tenancy user tables wall charger ∧
        health = buildChargerHealth now charger) ∧
      (snapshot.sectionsTruncated = false → snapshot.chargersTruncated = false →
        ∀ charger, Assessable controls tenancy user tables wall charger →
          buildChargerHealth now charger ∈ snapshot.chargers) := by
  unfold getWallHealth at h
  obtain ⟨wall, hfind, hsnapshot⟩ := Option.bind_eq_some_iff.mp h
  obtain ⟨hstored, hvisible⟩ := List.mem_filter.mp (List.mem_of_find?_eq_some hfind)
  have hfound := List.find?_some hfind
  simp only [Bool.and_eq_true, decide_eq_true_iff] at hfound
  obtain rfl := Option.some.inj hsnapshot
  have hrun := assessed_foldl now ((KioskService.loadedSections wall).1.flatMap fun wallSection =>
    (accessibleChargers controls tenancy user tables wallSection).1)
  refine ⟨wall, hstored, hfound.2, hfound.1, hvisible, hrun.once, fun health hmem => ?_,
    fun hsections hchargers charger hassess => ?_⟩
  · obtain ⟨charger, hcharger, rfl⟩ := hrun.sound health hmem
    obtain ⟨wallSection, hloaded, hin⟩ := List.mem_flatMap.mp hcharger
    obtain ⟨hsection, hactive⟩ := List.mem_filter.mp (mem_orderBy.mp (mem_of_mem_page hloaded))
    obtain ⟨hcharger', hkey, hvisible', hactive'⟩ := mem_accessibleChargers hin
    exact ⟨charger, ⟨hcharger', hvisible', hactive', wallSection, hsection, hactive, hkey⟩, rfl⟩
  · obtain ⟨hcharger, hvisible', hactive, wallSection, hsection, hactive', hkey⟩ := hassess
    have hloaded : wallSection ∈ (KioskService.loadedSections wall).1 := by
      rw [KioskService.loadedSections, page_complete hsections, mem_orderBy, List.mem_filter]
      exact ⟨hsection, hactive'⟩
    have hin : charger ∈ (accessibleChargers controls tenancy user tables wallSection).1 := by
      have hcut : (accessibleChargers controls tenancy user tables wallSection).2 = false := by
        simpa using List.any_eq_false.mp hchargers wallSection hloaded
      rw [accessibleChargers, page_complete hcut, mem_orderBy]
      simp [hcharger, hkey, hvisible', hactive]
    obtain ⟨listed, hlisted, hid⟩ :=
      hrun.complete charger (List.mem_flatMap.mpr ⟨wallSection, hloaded, hin⟩)
    obtain ⟨other, hother, rfl⟩ := hrun.sound listed hlisted
    obtain ⟨_, _, hother'⟩ := List.mem_flatMap.mp hother
    obtain rfl := tables.uniqueCharger.eq (mem_accessibleChargers hother').1 hcharger hid
    exact hlisted

end Wall

/-- A wall with one charger, which beat a minute ago. -/
def foyerTables : DisplayTables where
  graph := {
    units := []
    groups := [{ pk := 50, users := [4], locations := [{ location := ⟨20, { pk := 30 }⟩ }] }]
    performers := [] }
  units := []
  assignments := []
  chargers := [{ pk := 70, location := ⟨20, { pk := 30 }⟩, lastSeen := some 0 }]
  walls := [{ pk := 80, location := ⟨20, { pk := 30 }⟩, kioskId := "foyer", sections := [
    { pk := 81, chargers := [70] }, { pk := 82, chargers := [70] }] }]

theorem wall_health_spec_foyer :
    ∃ snapshot, getWallHealth { mspEnabled := false, multiSiteMode := false }
        { organizations := [], campuses := [], memberships := [] } { pk := 4 } foyerTables 60000000 80 =
          some snapshot ∧
      snapshot.chargers.map (·.health) = ["idle"] ∧
        UniqueOn KioskChargerHealthSnapshot.id snapshot.chargers := by
  have hhealth : (getWallHealth { mspEnabled := false, multiSiteMode := false }
      { organizations := [], campuses := [], memberships := [] }
      { pk := 4 } foyerTables 60000000 80).map
        (fun snapshot => snapshot.chargers.map (·.health)) = some ["idle"] := by decide +kernel
  obtain ⟨snapshot, hsnapshot, hlist⟩ := Option.map_eq_some_iff.mp hhealth
  obtain ⟨_, -, -, -, -, honce, -⟩ := wall_health_spec hsnapshot
  exact ⟨snapshot, hsnapshot, hlist, honce⟩

end KioskHealthService

end Micboard.TenantAccess.Display
