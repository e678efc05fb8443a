import Micboard.UnitTelemetry

/-! Battery warnings. The save hook of a stored wireless unit compares the battery reading that the
unit carries with the stored one, and writes an audit entry where the percentage falls past a
threshold. What the audit keeps depends on the logging mode, which is cached and may expire. -/

namespace Micboard

open Library Library.Transition

inductive LogMode where
  | passive
  | normal
  | high
  deriving DecidableEq, Repr

/-- The priority mapping of `should_log`. -/
def LogMode.priority : LogMode → Nat
  | .passive => 0
  | .normal => 1
  | .high => 2

/-- A cached mode; what is none of the modes counts as normal. -/
def LogMode.ofCached : Option String → LogMode
  | some "passive" => .passive
  | some "high" => .high
  | _ => .normal

/-- The cache entries of the logging mode and of its expiry. -/
structure LoggingCache where
  mode : Option String := none
  expiry : Option Time := none

namespace LoggingCache

/-- `set_mode`: the lifetime is given in seconds, and one of zero is none. -/
def setMode (now : Time) (mode : String) (ttlSeconds : Option Int) : LoggingCache :=
  match ttlSeconds with
  | some seconds =>
    if seconds ≠ 0 then ⟨some mode, some (now + seconds * 1000000)⟩ else ⟨some mode, none⟩
  | none => ⟨some mode, none⟩

/-- Whether `get_current_mode` finds the mode expired. -/
def expired (cache : LoggingCache) (now : Time) : Bool :=
  match cache.expiry with
  | some expiry => expiry ≠ 0 && expiry < now
  | none => false

/-- `get_current_mode`, with the cache as it leaves it: an expired mode is reset. -/
def getCurrentMode (cache : LoggingCache) (now : Time) : LogMode × LoggingCache :=
  if cache.expired now then (.normal, setMode now "normal" none)
  else (LogMode.ofCached cache.mode, cache)

theorem getCurrentMode_idem (cache : LoggingCache) (now : Time) :
    (cache.getCurrentMode now).2.getCurrentMode now = cache.getCurrentMode now := by
  by_cases h : cache.expired now
  · have hreset : cache.getCurrentMode now = (.normal, setMode now "normal" none) := if_pos h
    rw [hreset]
    rfl
  · have hkept : cache.getCurrentMode now = (LogMode.ofCached cache.mode, cache) := if_neg h
    rw [hkept]
    exact hkept

def modeAt (cache : LoggingCache) (now : Time) : LogMode := (cache.getCurrentMode now).1

end LoggingCache

/-- What an `ActivityLog` row of a wireless unit says. -/
structure ActivityEntry where
  activityType : String
  operation : String
  summary : String
  oldValues : JsonObject
  newValues : JsonObject
  status : String

/-- Whether an entry is a low-battery warning. -/
def ActivityEntry.isBatteryWarning (entry : ActivityEntry) : Bool :=
  entry.operation = "battery_warning"

/-- The entries of a unit, and the logging mode they are written under. -/
structure AuditLog where
  logging : LoggingCache := {}
  entries : List ActivityEntry := []

namespace AuditLog

/-- `log_activity`: an entry is created when the logging mode permits its level. -/
def logActivity (log : AuditLog) (now : Time) (entry : ActivityEntry) (logMode : LogMode) : AuditLog :=
  let current := log.logging.getCurrentMode now
  {
    logging := current.2
    entries := if logMode.priority ≤ current.1.priority then log.entries ++ [entry] else log.entries }

def batteryWarnings (log : AuditLog) : List ActivityEntry :=
  log.entries.filter ActivityEntry.isBatteryWarning

variable (log : AuditLog) (now : Time) (entry : ActivityEntry) (level : LogMode)

@[simp]
theorem modeAt_logActivity :
    (log.logActivity now entry level).logging.modeAt now = log.logging.modeAt now :=
  congrArg Prod.fst (log.logging.getCurrentMode_idem now)

variable {entry}

theorem batteryWarnings_logActivity_of_other (hentry : entry.isBatteryWarning = false) :
    (log.logActivity now entry level).batteryWarnings = log.batteryWarnings := by
  rw [batteryWarnings, logActivity]
  split
  · rw [List.filter_append, List.filter_singleton, hentry, cond_false, List.append_nil, batteryWarnings]
  · rfl

variable {level}

theorem batteryWarnings_logActivity (hentry : entry.isBatteryWarning = true)
    (hmode : level.priority ≤ (log.logging.modeAt now).priority) :
    (log.logActivity now entry level).batteryWarnings = log.batteryWarnings ++ [entry] := by
  rw [batteryWarnings, logActivity]
  simp only [LoggingCache.modeAt] at hmode
  rw [if_pos hmode, List.filter_append, List.filter_singleton, hentry, cond_true, batteryWarnings]

theorem batteryWarnings_logActivity_of_not
    (hmode : ¬level.priority ≤ (log.logging.modeAt now).priority) :
    (log.logActivity now entry level).batteryWarnings = log.batteryWarnings := by
  rw [batteryWarnings, logActivity]
  simp only [LoggingCache.modeAt] at hmode
  rw [if_neg hmode, batteryWarnings]

end AuditLog

def unknownByteValue : Nat := 255

/-- The thresholds of `finalize_unit_save`, in percent. -/
def warningThresholds : List Nat := [15, 25]

/-- A known level as a percentage; a level that is negative is not stored. -/
def levelPercentage (battery : Nat) : Nat := min 100 (battery * 100 / unknownByteValue)

/-- `get_battery_percentage` of the reading that a unit carries. -/
def readingPercentage (battery : Nat) : Option Nat :=
  if battery = unknownByteValue then none else some (levelPercentage battery)

/-- The stored columns that the save hooks read or write. -/
structure StoredUnit where
  status : String
  battery : Nat
  lastSeen : Option Time

/-- A save of the unit: what the instance carries, and `update_fields`. -/
structure UnitSave where
  now : Time
  status : String
  battery : Nat
  lastSeen : Option Time
  updateFields : Option (List String)

/-- Whether the save writes a column. -/
def UnitSave.writes (save : UnitSave) (field : String) : Bool :=
  match save.updateFields with
  | none => true
  | some fields => field ∈ fields

/-- What `prepare_unit_for_save` hands to `finalize_unit_save`. -/
structure UnitSaveContext where
  oldStatus : Option String
  oldBattery : Option Nat
  statusChanged : Bool
  batteryChanged : Bool
  updateFields : List String

/-- `prepare_unit_for_save`, with `last_seen` as it leaves it; a unit that is being added has no
previous row. -/
def unitSaveContext (previous : Option StoredUnit) (save : UnitSave) :
    Except UnitError (UnitSaveContext × Option Time) :=
  match previous with
  | none => .ok (⟨none, none, false, false, []⟩, save.lastSeen)
  | some previous =>
    let context (updateFields : List String) : UnitSaveContext := {
      oldStatus := some previous.status
      oldBattery := some previous.battery
      statusChanged := previous.status ≠ save.status
      batteryChanged := previous.battery ≠ save.battery
      updateFields }
    if previous.status = save.status then .ok (context [], save.lastSeen)
    else if save.status ∉ allowed validUnitStatusTransitions previous.status then
      .error (.invalidTransition previous.status save.status)
    else if save.status ∈ ["online", "degraded", "offline"] then
      .ok (context ["last_seen"], some save.now)
    else .ok (context [], save.lastSeen)

/-- The audit entry of a change of status. -/
def statusEntry (old new : String) : ActivityEntry where
  activityType := "wireless_unit"
  operation := "status_change"
  summary := "Wireless unit status changed: " ++ old ++ " → " ++ new
  oldValues := [("status", .text old)]
  newValues := [("status", .text new)]
  status := "success"

/-- The audit entry of a battery that falls past a threshold. -/
def batteryWarning (oldPct newPct : Nat) : ActivityEntry where
  activityType := "wireless_unit"
  operation := "battery_warning"
  summary := "Wireless unit battery: " ++ toString newPct ++ "%"
  oldValues := [("battery_percentage", .number oldPct (toString oldPct))]
  newValues := [("battery_percentage", .number newPct (toString newPct))]
  status := "warning"

/-- The level a warning is logged at: a critical one is kept in passive mode. -/
def warningLevel (newPct : Nat) : LogMode := if newPct ≤ 15 then .passive else .normal

/-- The first part of `finalize_unit_save`: a change of the status is logged. -/
def logStatusChange (log : AuditLog) (save : UnitSave) (context : UnitSaveContext) : AuditLog :=
  if context.statusChanged then
    log.logActivity save.now (statusEntry (context.oldStatus.getD "None") save.status) .normal
  else log

/-- The second part of `finalize_unit_save`: a battery that falls past a threshold is logged. -/
def logBatteryFall (log : AuditLog) (save : UnitSave) (context : UnitSaveContext) : AuditLog :=
  if !context.batteryChanged || save.battery = unknownByteValue then log
  else
    match context.oldBattery with
    | none => log
    | some oldBattery =>
      if oldBattery = unknownByteValue then log
      else
        let oldPct := levelPercentage oldBattery
        match readingPercentage save.battery with
        | none => log
        | some newPct =>
          if oldPct ≤ newPct then log
          else
            match warningThresholds.find? fun threshold => threshold < oldPct && newPct ≤ threshold with
            | none => log
            | some _ =>
              log.logActivity save.now (batteryWarning oldPct newPct) (warningLevel newPct)

def finalizeUnitSave (log : AuditLog) (save : UnitSave) (context : UnitSaveContext) : AuditLog :=
  logBatteryFall (logStatusChange log save context) save context

structure UnitWorld where
  stored : StoredUnit
  audit : AuditLog

/-- The save of a stored unit with its hooks. A save of no fields is skipped; one that does not
write the time the unit was last seen writes it afterwards where the hook has set it. -/
def saveUnit (world : UnitWorld) (save : UnitSave) : Except UnitError UnitWorld :=
  if save.updateFields = some [] then .ok world
  else do
    let (context, lastSeen) ← unitSaveContext (some world.stored) save
    .ok {
      stored := {
        status := if save.writes "status" then save.status else world.stored.status
        battery := if save.writes "battery" then save.battery else world.stored.battery
        lastSeen :=
          if save.writes "last_seen" || "last_seen" ∈ context.updateFields then lastSeen
          else world.stored.lastSeen }
      audit := finalizeUnitSave world.audit save context }

/-- What happens to a stored unit: it is saved, or the logging mode is set. -/
inductive UnitEvent where
  | saved (save : UnitSave)
  | setMode (now : Time) (mode : String) (ttlSeconds : Option Int)

/-- One event; a save that is refused changes nothing. -/
def unitEvent (world : UnitWorld) : UnitEvent → UnitWorld
  | .saved save =>
    match saveUnit world save with
    | .ok world => world
    | .error _ => world
  | .setMode now mode ttlSeconds =>
    { world with audit := { world.audit with logging := .setMode now mode ttlSeconds } }

def unitEvents (world : UnitWorld) (events : List UnitEvent) : UnitWorld :=
  events.foldl unitEvent world

/-- A save that the hooks let through. -/
def UnitSave.Accepted (stored : StoredUnit) (save : UnitSave) : Prop :=
  save.updateFields ≠ some [] ∧ Accepts validUnitStatusTransitions stored.status save.status

instance (stored : StoredUnit) (save : UnitSave) : Decidable (save.Accepted stored) := by
  unfold UnitSave.Accepted Accepts
  infer_instance

def UnitEvent.savedReading (world : UnitWorld) : UnitEvent → Option Nat
  | .saved save =>
      if save.Accepted world.stored ∧ save.writes "battery" then some save.battery else none
  | .setMode .. => none

/-- The readings that a sequence of events saves, in order. -/
def savedReadings (world : UnitWorld) : List UnitEvent → List Nat
  | [] => []
  | event :: rest => (event.savedReading world).toList ++ savedReadings (unitEvent world event) rest

/-- A percentage is at or below a warning threshold that an earlier one was above. -/
def FallsPast (old new : Option Nat) : Prop :=
  ∃ oldPct newPct, old = some oldPct ∧ new = some newPct ∧
    ∃ threshold ∈ warningThresholds, newPct ≤ threshold ∧ threshold < oldPct

/-- The logging mode keeps a warning: in passive mode only a critical one. -/
def WarningKept (mode : LogMode) (new : Option Nat) : Prop :=
  mode ≠ .passive ∨ ∃ newPct ∈ new, newPct ≤ 15

/-- Exactly one warning is written where one is due, and none otherwise. -/
structure WarnsOnce (due : Prop) (before after : AuditLog) : Prop where
  warned : due → ∃ warning, after.batteryWarnings = before.batteryWarnings ++ [warning]
  silent : ¬due → after.batteryWarnings = before.batteryWarnings

theorem warningLevel_priority_le_iff (newPct : Nat) (mode : LogMode) :
    (warningLevel newPct).priority ≤ mode.priority ↔ WarningKept mode (some newPct) := by
  by_cases h : newPct ≤ 15
  · simp [warningLevel, WarningKept, h, LogMode.priority]
  · cases mode <;> simp [warningLevel, WarningKept, h, LogMode.priority]

theorem readingPercentage_eq_some {battery pct : Nat} (h : readingPercentage battery = some pct) :
    battery ≠ unknownByteValue ∧ levelPercentage battery = pct := by
  rw [readingPercentage] at h
  split at h
  next => cases h
  next hknown => exact ⟨hknown, Option.some.inj h⟩

section Finalize

variable {log : AuditLog} {save : UnitSave} {context : UnitSaveContext}

theorem batteryWarnings_logStatusChange :
    (logStatusChange log save context).batteryWarnings = log.batteryWarnings := by
  rw [logStatusChange]
  split
  · exact log.batteryWarnings_logActivity_of_other _ _ rfl
  · rfl

theorem modeAt_logStatusChange :
    (logStatusChange log save context).logging.modeAt save.now = log.logging.modeAt save.now := by
  rw [logStatusChange]
  split
  · exact log.modeAt_logActivity _ _ _
  · rfl

variable {previous : Nat}

theorem logBatteryFall_of_fallsPast (hold : context.oldBattery = some previous)
    (hchanged : context.batteryChanged = decide (previous ≠ save.battery)) {oldPct newPct : Nat}
    (holdPct : readingPercentage previous = some oldPct)
    (hnewPct : readingPercentage save.battery = some newPct)
    (hfalls : ∃ threshold ∈ warningThresholds, newPct ≤ threshold ∧ threshold < oldPct) :
    logBatteryFall log save context =
      log.logActivity save.now (batteryWarning oldPct newPct) (warningLevel newPct) := by
  obtain ⟨holdKnown, hlevel⟩ := readingPercentage_eq_some holdPct
  obtain ⟨hnewKnown, -⟩ := readingPercentage_eq_some hnewPct
  obtain ⟨threshold, hthreshold, hle, hlt⟩ := hfalls
  have hne : previous ≠ save.battery := by
    rintro rfl
    rw [holdPct] at hnewPct
    have hpct := Option.some.inj hnewPct
    omega
  have hfind : (warningThresholds.find? fun threshold =>
      threshold < oldPct && newPct ≤ threshold).isSome :=
    List.find?_isSome.mpr ⟨threshold, hthreshold, by simp [hle, hlt]⟩
  obtain ⟨crossed, hcrossed⟩ := Option.isSome_iff_exists.mp hfind
  have hrun : (!context.batteryChanged || decide (save.battery = unknownByteValue)) = false := by
    simp [hchanged, hne, hnewKnown]
  simp only [logBatteryFall, hrun, hold, holdKnown, hnewPct, hlevel, hcrossed,
    if_neg (show ¬oldPct ≤ newPct by omega), if_false, Bool.false_eq_true]

theorem logBatteryFall_of_not (hold : context.oldBattery = some previous)
    (hnot : ¬FallsPast (readingPercentage previous) (readingPercentage save.battery)) :
    logBatteryFall log save context = log := by
  rw [logBatteryFall, hold]
  split
  next => rfl
  next =>
    simp only
    split
    next => rfl
    next hknown =>
      split
      next => rfl
      next newPct hnewPct =>
        split
        next => rfl
        next =>
          split
          next => rfl
          next threshold hfind =>
            have hmem := List.mem_of_find?_eq_some hfind
            have hcrossed := List.find?_some hfind
            simp only [Bool.and_eq_true, decide_eq_true_eq] at hcrossed
            exact absurd ⟨_, newPct, if_neg hknown, hnewPct, threshold, hmem, hcrossed.2,
              hcrossed.1⟩ hnot

/-- What is written after a save, from the stored reading and the one that the unit carries. -/
theorem finalizeUnitSave_warnsOnce (hold : context.oldBattery = some previous)
    (hchanged : context.batteryChanged = decide (previous ≠ save.battery)) :
    WarnsOnce (FallsPast (readingPercentage previous) (readingPercentage save.battery) ∧
        WarningKept (log.logging.modeAt save.now) (readingPercentage save.battery))
      log (finalizeUnitSave log save context) := by
  rw [finalizeUnitSave]
  by_cases hfalls : FallsPast (readingPercentage previous) (readingPercentage save.battery)
  · obtain ⟨oldPct, newPct, holdPct, hnewPct, hthreshold⟩ := id hfalls
    rw [logBatteryFall_of_fallsPast hold hchanged holdPct hnewPct hthreshold, hnewPct,
      ← warningLevel_priority_le_iff, ← @modeAt_logStatusChange log save context]
    constructor
    · rintro ⟨-, hkept⟩
      refine ⟨batteryWarning oldPct newPct, ?_⟩
      rw [AuditLog.batteryWarnings_logActivity _ _ rfl hkept, batteryWarnings_logStatusChange]
    · intro hsilent
      rw [hnewPct] at hfalls
      rw [AuditLog.batteryWarnings_logActivity_of_not _ _ fun hkept => hsilent ⟨hfalls, hkept⟩,
        batteryWarnings_logStatusChange]
  · rw [logBatteryFall_of_not hold hfalls]
    exact ⟨fun hdue => absurd hdue.1 hfalls, fun _ => batteryWarnings_logStatusChange⟩

end Finalize

/-! ### Runs of saves -/

theorem unitSaveContext_eq_ok {previous : StoredUnit} {save : UnitSave} {context : UnitSaveContext}
    {lastSeen : Option Time} (h : unitSaveContext (some previous) save = .ok (context, lastSeen)) :
    Accepts validUnitStatusTransitions previous.status save.status ∧
      context.oldBattery = some previous.battery ∧
      context.batteryChanged = decide (previous.battery ≠ save.battery) := by
  simp only [unitSaveContext] at h
  split at h
  next hsame =>
    obtain ⟨rfl, -⟩ := Prod.mk.inj (Except.ok.inj h)
    exact ⟨.inl hsame.symm, rfl, rfl⟩
  next =>
    split at h
    next => cases h
    next hallowed =>
      split at h
      all_goals
        obtain ⟨rfl, -⟩ := Prod.mk.inj (Except.ok.inj h)
        exact ⟨.inr (not_not.mp hallowed), rfl, rfl⟩

theorem unitSaveContext_of_accepts {previous : StoredUnit} {save : UnitSave}
    (h : Accepts validUnitStatusTransitions previous.status save.status) :
    ∃ context, unitSaveContext (some previous) save = .ok context := by
  simp only [unitSaveContext]
  split
  next => exact ⟨_, rfl⟩
  next hne =>
    have hallowed := h.resolve_left (Ne.symm hne)
    rw [if_neg (not_not.mpr hallowed)]
    split
    · exact ⟨_, rfl⟩
    · exact ⟨_, rfl⟩

section Event

variable {world : UnitWorld} {save : UnitSave}

theorem unitEvent_of_accepted (h : save.Accepted world.stored) :
    (unitEvent world (.saved save)).stored.battery =
        (if save.writes "battery" then save.battery else world.stored.battery) ∧
      WarnsOnce (FallsPast (readingPercentage world.stored.battery) (readingPercentage save.battery) ∧
          WarningKept (world.audit.logging.modeAt save.now) (readingPercentage save.battery))
        world.audit (unitEvent world (.saved save)).audit := by
  obtain ⟨⟨context, lastSeen⟩, hcontext⟩ := unitSaveContext_of_accepts h.2
  obtain ⟨-, hold, hchanged⟩ := unitSaveContext_eq_ok hcontext
  simp only [unitEvent, saveUnit, if_neg h.1, hcontext]
  exact ⟨rfl, finalizeUnitSave_warnsOnce hold hchanged⟩

theorem unitEvent_of_refused (h : ¬save.Accepted world.stored) :
    unitEvent world (.saved save) = world := by
  simp only [unitEvent]
  cases hsave : saveUnit world save with
  | error e => rfl
  | ok world' =>
      rw [saveUnit] at hsave
      split at hsave
      next => exact (Except.ok.inj hsave).symm
      next hfields =>
        obtain ⟨⟨context, lastSeen⟩, hcontext, -⟩ := bind_eq_ok.mp hsave
        exact absurd ⟨hfields, (unitSaveContext_eq_ok hcontext).1⟩ h

theorem stored_battery_unitEvent (event : UnitEvent) :
    (unitEvent world event).stored.battery = (event.savedReading world).getD world.stored.battery := by
  cases event with
  | setMode now mode ttlSeconds => rfl
  | saved save =>
      by_cases h : save.Accepted world.stored
      · rw [(unitEvent_of_accepted h).1, UnitEvent.savedReading]
        by_cases hwrites : save.writes "battery" = true
        · rw [if_pos hwrites, if_pos ⟨h, hwrites⟩]
          rfl
        · rw [if_neg hwrites, if_neg fun hboth => hwrites hboth.2]
          rfl
      · rw [unitEvent_of_refused h, UnitEvent.savedReading, if_neg fun hboth => h hboth.1]
        rfl

end Event

theorem stored_battery_unitEvents (world : UnitWorld) (events : List UnitEvent) :
    (unitEvents world events).stored.battery =
      (savedReadings world events).getLastD world.stored.battery := by
  induction events generalizing world with
  | nil => rfl
  | cons event rest ih =>
      have hrest := ih (unitEvent world event)
      rw [stored_battery_unitEvent] at hrest
      rw [savedReadings]
      cases hreading : event.savedReading world with
      | none =>
          rw [hreading] at hrest
          exact hrest
      | some reading =>
          rw [hreading] at hrest
          exact hrest.trans (List.getLastD_cons ..).symm

/-- A save of a reading, or one of other columns by an instance that carries the stored reading. -/
def UnitSave.Consistent (save : UnitSave) (stored : StoredUnit) : Prop :=
  save.writes "battery" = true ∨ save.battery = stored.battery

/-- The save writes a reading below a threshold that the reading saved last before it was above, and the
logging mode keeps the warning. -/
def WarningDue (world : UnitWorld) (seen : List UnitEvent) (save : UnitSave) : Prop :=
  save.Accepted (unitEvents world seen).stored ∧ save.writes "battery" = true ∧
    FallsPast (readingPercentage ((savedReadings world seen).getLastD world.stored.battery))
      (readingPercentage save.battery) ∧
    WarningKept ((unitEvents world seen).audit.logging.modeAt save.now)
      (readingPercentage save.battery)

theorem not_fallsPast_self (reading : Option Nat) : ¬FallsPast reading reading := by
  rintro ⟨oldPct, newPct, hold, hnew, threshold, -, hle, hlt⟩
  cases hold.symm.trans hnew
  omega

/-- **In every sequence of saves and changes of the logging mode, a save writes exactly one
low-battery warning when it is let through and writes a reading, this one and the one saved last
before it are known, the percentage falls from above a threshold to it or below, and the logging
mode keeps the warning. Otherwise it writes none, if it writes a reading or its instance carries the
stored one.** -/
theorem saves_warn_once (world : UnitWorld) (seen : List UnitEvent) (save : UnitSave)
    (hconsistent : save.Consistent (unitEvents world seen).stored) :
    WarnsOnce (WarningDue world seen save) (unitEvents world seen).audit
      (unitEvents world (seen ++ [.saved save])).audit := by
  have hlast : unitEvents world (seen ++ [.saved save]) =
      unitEvent (unitEvents world seen) (.saved save) := by
    rw [unitEvents, unitEvents, List.foldl_append, List.foldl_cons, List.foldl_nil]
  rw [hlast, WarningDue, ← stored_battery_unitEvents]
  by_cases h : save.Accepted (unitEvents world seen).stored
  · have hwarns := (unitEvent_of_accepted h).2
    rcases hconsistent with hwrites | hcarried
    · simpa only [h, hwrites, true_and] using hwarns
    · rw [hcarried] at hwarns ⊢
      exact ⟨fun hdue => absurd hdue.2.2.1 (not_fallsPast_self _),
        fun _ => hwarns.silent fun hfalls => not_fallsPast_self _ hfalls.1⟩
  · rw [unitEvent_of_refused h]
    exact ⟨fun hdue => absurd hdue.1 h, fun _ => rfl⟩

/-- The percentage of the most recent known reading. -/
def lastKnownPercentage (readings : List Nat) : Option Nat :=
  (readings.filterMap readingPercentage).getLast?

/-- A save that is let through warns of a fall from the most recent known reading, and of nothing
else. -/
def ReportsCrossing (world : UnitWorld) (seen : List UnitEvent) (save : UnitSave) : Prop :=
  save.Accepted (unitEvents world seen).stored →
    WarnsOnce
      (FallsPast (lastKnownPercentage (world.stored.battery :: savedReadings world seen))
        (readingPercentage save.battery))
      (unitEvents world seen).audit (unitEvents world (seen ++ [.saved save])).audit

theorem not_reportsCrossing {world : UnitWorld} {seen : List UnitEvent} {save : UnitSave}
    (haccepted : save.Accepted (unitEvents world seen).stored)
    (hfalls : FallsPast (lastKnownPercentage (world.stored.battery :: savedReadings world seen))
      (readingPercentage save.battery))
    (hnone : (unitEvents world (seen ++ [.saved save])).audit.batteryWarnings = []) :
    ¬ReportsCrossing world seen save := by
  intro h
  obtain ⟨warning, hwarning⟩ := (h haccepted).warned hfalls
  rw [hnone] at hwarning
  exact List.append_ne_nil_of_right_ne_nil _ (List.cons_ne_nil warning []) hwarning.symm

/-- An online unit with a stored reading of 39 percent. -/
def onlineUnit : UnitWorld where
  stored := { status := "online", battery := 100, lastSeen := none }
  audit := {}

/-- A full save of a reading of an online unit. -/
def readingSave (battery : Nat) : UnitSave where
  now := 0
  status := "online"
  battery
  lastSeen := none
  updateFields := none

/-- A fall to 23 percent and one to 11 percent are reported, one after the other; the save of
another column between them reports nothing. -/
theorem saves_warn_once_onlineUnit :
    let seen := [.saved (readingSave 60), .saved { readingSave 60 with updateFields := some ["name"] }]
    ∃ warning, (unitEvents onlineUnit (seen ++ [.saved (readingSave 30)])).audit.batteryWarnings =
      (unitEvents onlineUnit seen).audit.batteryWarnings ++ [warning] ∧
        (unitEvents onlineUnit seen).audit.batteryWarnings.length = 1 := by
  intro seen
  obtain ⟨warning, hwarning⟩ := (saves_warn_once onlineUnit seen (readingSave 30) (.inl rfl)).warned
    ⟨by decide, rfl, ⟨23, 11, by decide, by decide, 15, by decide, by decide, by decide⟩,
      .inl (by decide)⟩
  exact ⟨warning, hwarning, rfl⟩

/-- The fall to 11 percent is not reported after an unknown reading, and the fall to 23 percent is not
reported in passive mode. -/
theorem falls_unreported :
    ¬ReportsCrossing onlineUnit [.saved (readingSave unknownByteValue)] (readingSave 30) ∧
      ¬ReportsCrossing onlineUnit [.setMode 0 "passive" none] (readingSave 60) := by
  constructor
  · refine not_reportsCrossing (by decide) ⟨39, 11, by decide, by decide, ?_⟩ rfl
    exact ⟨15, by decide, by decide, by decide⟩
  · refine not_reportsCrossing (by decide) ⟨39, 23, by decide, by decide, ?_⟩ rfl
    exact ⟨25, by decide, by decide, by decide⟩

end Micboard
