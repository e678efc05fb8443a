import Micboard.ChassisModel

/-! The chassis save hook: the address-ownership check, the lifecycle columns derived from the
in-memory status, the write of the named columns and of the derived ones, all in one transaction. -/

namespace Micboard

open Library Library.Address

/-- What aborts a save: the errors of the hooks and of the table constraints. -/
inductive SaveError where
  | notAnAddress (ip : String)
  | assignedToCharger
  | assignedToWirelessChassis
  | chassisDoesNotExist (pk : Nat)
  | invalidStatusTransition (old new : HardwareStatus)
  | integrityError
  deriving DecidableEq, Repr

/-- The names of a transition's targets as the error lists them. -/
def allowedLabel (status : HardwareStatus) : String :=
  match (validStatusTransitions status).map HardwareStatus.value with
  | [] => "none (terminal state)"
  | allowed => ", ".intercalate (allowed.mergeSort fun a b => a ≤ b)

/-- The field an error names, with its text. -/
def SaveError.describe : SaveError → Option (String × String)
  | .assignedToCharger => some ("ip", "This address is already assigned to a charger.")
  | .assignedToWirelessChassis =>
    some ("ip", "This address is already assigned to a wireless chassis.")
  | .invalidStatusTransition old new =>
    some ("", "Invalid status transition: " ++ old.value ++ " → " ++ new.value ++ ". Allowed: " ++
      allowedLabel old)
  | .notAnAddress _ | .chassisDoesNotExist _ | .integrityError => none

namespace HardwareIPOwnershipService

def canonicalIp : Option String → Except SaveError (Option String)
  | none => .ok none
  | some value =>
    if value = "" then .ok none
    else
      match ipAddress value with
      | some address => .ok (some address)
      | none => .error (.notAnAddress value)

/-- Reject the address of a chassis when a charger owns it. -/
def validateForInstance (db : Inventory) (chassis : Chassis) : Except SaveError Unit := do
  match ← canonicalIp (some chassis.ip) with
  | none => .ok ()
  | some ip =>
    if db.chargers.any fun charger => charger.ip = some (getPrepValue ip) then
      .error .assignedToCharger
    else
      .ok ()

/-- Reject the address of a charger when a chassis owns it. -/
def validateForCharger (db : Inventory) (charger : Charger) : Except SaveError Unit := do
  match ← canonicalIp charger.ip with
  | none => .ok ()
  | some ip =>
    if db.chassis.any fun chassis => chassis.ip = getPrepValue ip then
      .error .assignedToWirelessChassis
    else
      .ok ()

end HardwareIPOwnershipService

/-- `int((now - since).total_seconds() // 60)`, at least zero. -/
def elapsedMinutes (now since : Time) : Int := max 0 ((now - since) / 60000000)

/-- The columns a status change from the stored row `previous` derives, with their names. -/
def deriveLifecycleFields (now : Time) (previous chassis : Chassis) : Chassis × List Column :=
  let wasOperational := previous.isOnline || previous.status.isOperational
  let isOperational := chassis.status.isOperational
  let chassis := { chassis with isOnline := isOperational }
  if isOperational && !wasOperational then
    ({ chassis with lastOnlineAt := some now }, [.isOnline, .lastOnlineAt])
  else if !isOperational && wasOperational then
    let chassis := { chassis with lastOfflineAt := some now }
    match previous.lastOnlineAt with
    | some lastOnlineAt =>
      ({ chassis with
          totalUptimeMinutes := previous.totalUptimeMinutes + elapsedMinutes now lastOnlineAt },
        [.isOnline, .lastOfflineAt, .totalUptimeMinutes])
    | none => (chassis, [.isOnline, .lastOfflineAt])
  else
    (chassis, [.isOnline])

/-- The prepared instance, the stored status and the derived columns: `_prepare_lifecycle_fields`. -/
def prepareLifecycleFields (now : Time) (db : Inventory) (created : Bool) (chassis : Chassis) :
    Except SaveError (Chassis × Option HardwareStatus × List Column) :=
  if created then
    if chassis.status.isOperational then
      .ok ({ chassis with isOnline := true, lastOnlineAt := some now }, none,
        [.isOnline, .lastOnlineAt])
    else
      .ok (chassis, none, [])
  else
    match db.find chassis.pk with
    | none => .error (.chassisDoesNotExist chassis.pk)
    | some previous =>
      if previous.status = chassis.status then
        .ok (chassis, some previous.status, [])
      else if chassis.status ∉ validStatusTransitions previous.status then
        .error (.invalidStatusTransition previous.status chassis.status)
      else
        let (chassis, derived) := deriveLifecycleFields now previous chassis
        .ok (chassis, some previous.status, derived)

structure ChassisSaveContext where
  created : Bool
  oldStatus : Option HardwareStatus
  statusChanged : Bool
  updateFields : List Column

def prepareChassisForSave (now : Time) (db : Inventory) (created : Bool) (chassis : Chassis) :
    Except SaveError (Chassis × ChassisSaveContext) := do
  let (chassis, oldStatus, updateFields) ← prepareLifecycleFields now db created chassis
  .ok (chassis, {
    created
    oldStatus
    statusChanged := oldStatus.any (· ≠ chassis.status)
    updateFields })

/-- The write of one statement: a null address or a taken key violates a constraint. -/
def writeRow (db : Inventory) (fields : List Column) (chassis row : Chassis)
    (write : Inventory → Chassis → Inventory) : Except SaveError Inventory :=
  let written := chassis.writeTo fields row
  if .ip ∈ fields ∧ chassis.ip = "" then .error .integrityError
  else if db.violatesUnique written then .error .integrityError
  else .ok (write db written)

/-- Persist lifecycle fields omitted by a caller's partial update. -/
def persistDerivedFields (db : Inventory) (chassis : Chassis) (context : ChassisSaveContext)
    (updateFields : Option (List Column)) : Inventory :=
  match updateFields with
  | none => db
  | some updateFields =>
    let derivedFields := context.updateFields.filter (· ∉ updateFields)
    if derivedFields = [] then db
    else
      match db.find chassis.pk with
      | none => db
      | some row => db.updateRow (chassis.writeTo derivedFields row)

/-- `save()` of a new instance: the stored inventory and the instance, which keeps its address as it
was typed. -/
def createChassis (now : Time) (db : Inventory) (chassis : Chassis) :
    Except SaveError (Inventory × Chassis) := do
  HardwareIPOwnershipService.validateForInstance db chassis
  let (chassis, _) ← prepareChassisForSave now db true chassis
  let chassis := { chassis with pk := db.nextPk }
  let db ← writeRow db Column.all chassis chassis Inventory.insertRow
  .ok (db, chassis)

/-- `save(update_fields=…)` of an instance of a stored row; no `updateFields` saves every column and
an empty list saves nothing. -/
def saveChassis (now : Time) (db : Inventory) (chassis : Chassis)
    (updateFields : Option (List Column)) : Except SaveError (Inventory × Chassis) := do
  if updateFields = some [] then
    .ok (db, chassis)
  else
    HardwareIPOwnershipService.validateForInstance db chassis
    let (chassis, context) ← prepareChassisForSave now db false chassis
    match db.find chassis.pk with
    | none => .error (.chassisDoesNotExist chassis.pk)
    | some row =>
      let db ← writeRow db (updateFields.getD Column.all) chassis row Inventory.updateRow
      .ok (persistDerivedFields db chassis context updateFields, chassis)

/-- The address passes the ownership check: it is empty, or an address no charger owns. -/
def OwnableAddress (db : Inventory) (ip : String) : Prop :=
  ip = "" ∨ ∃ address, ipAddress ip = some address ∧
    ∀ charger ∈ db.chargers, charger.ip ≠ some (getPrepValue address)

theorem validateForInstance_eq_ok {db : Inventory} {chassis : Chassis} {u : Unit} :
    HardwareIPOwnershipService.validateForInstance db chassis = .ok u ↔
      OwnableAddress db chassis.ip := by
  rw [HardwareIPOwnershipService.validateForInstance, bind_eq_ok, OwnableAddress]
  by_cases hempty : chassis.ip = ""
  · simp [HardwareIPOwnershipService.canonicalIp, hempty]
  cases haddress : ipAddress chassis.ip with
  | none => simp [HardwareIPOwnershipService.canonicalIp, hempty, haddress]
  | some address => simp [HardwareIPOwnershipService.canonicalIp, hempty, haddress]

def derivedColumns : List Column := [.isOnline, .lastOnlineAt, .lastOfflineAt, .totalUptimeMinutes]

/-- An instance with its derived columns set. -/
def Chassis.withLifecycle (chassis : Chassis) (isOnline : Bool)
    (lastOnlineAt lastOfflineAt : Option Time) (totalUptimeMinutes : Int) : Chassis :=
  { chassis with isOnline, lastOnlineAt, lastOfflineAt, totalUptimeMinutes }

section WithLifecycle

variable (chassis : Chassis) (isOnline : Bool) (on off : Option Time) (uptime : Int)

@[simp] theorem withLifecycle_pk : (chassis.withLifecycle isOnline on off uptime).pk = chassis.pk :=
  rfl

@[simp] theorem withLifecycle_manufacturer :
    (chassis.withLifecycle isOnline on off uptime).manufacturer = chassis.manufacturer := rfl

@[simp] theorem withLifecycle_apiDeviceId :
    (chassis.withLifecycle isOnline on off uptime).apiDeviceId = chassis.apiDeviceId := rfl

@[simp] theorem withLifecycle_serialNumber :
    (chassis.withLifecycle isOnline on off uptime).serialNumber = chassis.serialNumber := rfl

@[simp] theorem withLifecycle_macAddress :
    (chassis.withLifecycle isOnline on off uptime).macAddress = chassis.macAddress := rfl

@[simp] theorem withLifecycle_ip : (chassis.withLifecycle isOnline on off uptime).ip = chassis.ip :=
  rfl

@[simp] theorem withLifecycle_status :
    (chassis.withLifecycle isOnline on off uptime).status = chassis.status := rfl

@[simp] theorem withLifecycle_isOnline :
    (chassis.withLifecycle isOnline on off uptime).isOnline = isOnline := rfl

end WithLifecycle

theorem deriveLifecycleFields_eq (now : Time) (previous chassis : Chassis) :
    ∃ on off uptime, (deriveLifecycleFields now previous chassis).1 =
      chassis.withLifecycle chassis.status.isOperational on off uptime := by
  rw [deriveLifecycleFields]
  split
  next => exact ⟨_, _, _, rfl⟩
  next =>
    split
    next =>
      split
      next => exact ⟨_, _, _, rfl⟩
      next => exact ⟨_, _, _, rfl⟩
    next => exact ⟨_, _, _, rfl⟩

theorem deriveLifecycleFields_columns (now : Time) (previous chassis : Chassis) :
    .isOnline ∈ (deriveLifecycleFields now previous chassis).2 ∧
      ∀ column ∈ (deriveLifecycleFields now previous chassis).2, column ∈ derivedColumns := by
  rw [deriveLifecycleFields]
  split
  next => simp [derivedColumns]
  next =>
    split
    next =>
      split
      next => simp [derivedColumns]
      next => simp [derivedColumns]
    next => simp [derivedColumns]

/-- A status change that leaves the device as operational as its row says it is derives the online
flag alone. -/
theorem deriveLifecycleFields_of_eq {now : Time} {previous chassis : Chassis}
    (h : (previous.isOnline || previous.status.isOperational) = chassis.status.isOperational) :
    (deriveLifecycleFields now previous chassis).2 = [.isOnline] := by
  rw [deriveLifecycleFields]
  simp only [h, Bool.and_not_self, Bool.not_and_self, Bool.false_eq_true, if_false]

/-- The two ways a save of a stored row passes the lifecycle check: the in-memory status is the stored
one, or it is an allowed transition and the lifecycle columns are derived from it. -/
inductive LifecycleStep (now : Time) (previous chassis : Chassis) : Chassis → List Column → Prop where
  | unchanged (h : previous.status = chassis.status) : LifecycleStep now previous chassis chassis []
  | changed (hne : previous.status ≠ chassis.status)
      (hallowed : chassis.status ∈ validStatusTransitions previous.status) :
      LifecycleStep now previous chassis (deriveLifecycleFields now previous chassis).1
        (deriveLifecycleFields now previous chassis).2

theorem LifecycleStep.eq_withLifecycle {now : Time} {previous chassis saved : Chassis}
    {derived : List Column} (h : LifecycleStep now previous chassis saved derived) :
    ∃ isOnline on off uptime, saved = chassis.withLifecycle isOnline on off uptime := by
  cases h with
  | unchanged h => exact ⟨chassis.isOnline, chassis.lastOnlineAt, chassis.lastOfflineAt, _, rfl⟩
  | changed hne hallowed =>
      obtain ⟨on, off, uptime, heq⟩ := deriveLifecycleFields_eq now previous chassis
      exact ⟨_, on, off, uptime, heq⟩

theorem LifecycleStep.columns {now : Time} {previous chassis saved : Chassis}
    {derived : List Column} (h : LifecycleStep now previous chassis saved derived) :
    ∀ column ∈ derived, column ∈ derivedColumns := by
  cases h with
  | unchanged h => simp
  | changed hne hallowed => exact (deriveLifecycleFields_columns now previous chassis).2

/-- The row a save leaves is the row its named columns make, with the lifecycle columns set. -/
theorem LifecycleStep.written {now : Time} {previous chassis saved : Chassis}
    {derived : List Column} (h : LifecycleStep now previous chassis saved derived)
    (fields : List Column) :
    ∃ isOnline on off uptime, saved.writeTo (fields ++ derived) previous =
      (chassis.writeTo fields previous).withLifecycle isOnline on off uptime := by
  have hmem : ∀ column ∉ derivedColumns, (column ∈ fields ++ derived) = (column ∈ fields) := by
    intro column hcolumn
    have : column ∉ derived := fun hmem => hcolumn (h.columns column hmem)
    simp only [List.mem_append, this, or_false]
  obtain ⟨isOnline, on, off, uptime, rfl⟩ := h.eq_withLifecycle
  refine ⟨((chassis.withLifecycle isOnline on off uptime).writeTo (fields ++ derived)
      previous).isOnline, ((chassis.withLifecycle isOnline on off uptime).writeTo
      (fields ++ derived) previous).lastOnlineAt, ((chassis.withLifecycle isOnline on off
      uptime).writeTo (fields ++ derived) previous).lastOfflineAt, ((chassis.withLifecycle isOnline
      on off uptime).writeTo (fields ++ derived) previous).totalUptimeMinutes, ?_⟩
  simp (disch := decide) only [Chassis.writeTo, Chassis.withLifecycle, hmem]

/-- A save is possible exactly when the status stays or makes an allowed transition. -/
theorem exists_lifecycleStep {now : Time} {previous chassis : Chassis} :
    (∃ saved derived, LifecycleStep now previous chassis saved derived) ↔
      previous.status = chassis.status ∨ chassis.status ∈ validStatusTransitions previous.status := by
  constructor
  · rintro ⟨saved, derived, h | h⟩
    · exact .inl h
    · exact .inr ‹_›
  · intro h
    by_cases hstatus : previous.status = chassis.status
    · exact ⟨_, _, .unchanged hstatus⟩
    · exact ⟨_, _, .changed hstatus (h.resolve_left hstatus)⟩

theorem prepareLifecycleFields_eq_ok {now : Time} {db : Inventory} {chassis saved : Chassis}
    {oldStatus : Option HardwareStatus} {derived : List Column} :
    prepareLifecycleFields now db false chassis = .ok (saved, oldStatus, derived) ↔
      ∃ previous, db.find chassis.pk = some previous ∧ oldStatus = some previous.status ∧
        LifecycleStep now previous chassis saved derived := by
  rw [prepareLifecycleFields, if_neg Bool.false_ne_true]
  cases hfind : db.find chassis.pk with
  | none => simp
  | some previous =>
      by_cases hstatus : previous.status = chassis.status
      · simp only [if_pos hstatus, Except.ok.injEq, Prod.mk.injEq, Option.some.injEq,
          exists_eq_left']
        constructor
        · rintro ⟨rfl, rfl, rfl⟩
          exact ⟨rfl, .unchanged hstatus⟩
        · rintro ⟨rfl, h | ⟨hne, -⟩⟩
          · exact ⟨rfl, rfl, rfl⟩
          · exact absurd hstatus hne
      by_cases hallowed : chassis.status ∈ validStatusTransitions previous.status
      · simp only [if_neg hstatus, not_true_eq_false, hallowed, if_false, Except.ok.injEq,
          Prod.mk.injEq, Option.some.injEq, exists_eq_left']
        constructor
        · rintro ⟨rfl, rfl, rfl⟩
          exact ⟨rfl, .changed hstatus hallowed⟩
        · rintro ⟨rfl, h | ⟨-, -⟩⟩
          · exact absurd h hstatus
          · exact ⟨rfl, rfl, rfl⟩
      · simp only [if_neg hstatus, hallowed, not_false_eq_true, if_true, reduceCtorEq, false_iff,
          Option.some.injEq, exists_eq_left', not_and]
        rintro - (h | ⟨-, h⟩)
        · exact hstatus h
        · exact hallowed h

theorem writeRow_eq_ok {db db' : Inventory} {fields : List Column} {chassis row : Chassis}
    {write : Inventory → Chassis → Inventory} :
    writeRow db fields chassis row write = .ok db' ↔
      (.ip ∈ fields → chassis.ip ≠ "") ∧ db.violatesUnique (chassis.writeTo fields row) = false ∧
        db' = write db (chassis.writeTo fields row) := by
  rw [writeRow]
  by_cases hip : Column.ip ∈ fields ∧ chassis.ip = ""
  · simp [hip]
  · have hip' : Column.ip ∈ fields → chassis.ip ≠ "" := fun hmem hempty => hip ⟨hmem, hempty⟩
    by_cases hunique : db.violatesUnique (chassis.writeTo fields row) = true
    · simp [hip, hunique]
    · simp only [if_neg hip, if_neg hunique, Except.ok.injEq, Bool.not_eq_true] at hunique ⊢
      constructor
      · rintro rfl
        exact ⟨hip', hunique, rfl⟩
      · rintro ⟨-, -, rfl⟩
        rfl

/-- The derived columns that the first statement leaves out are written by the second one. -/
theorem persistDerivedFields_updateRow {db : Inventory} {chassis previous : Chassis}
    (context : ChassisSaveContext) (updateFields : Option (List Column))
    (hfind : db.find chassis.pk = some previous) :
    persistDerivedFields (db.updateRow (chassis.writeTo (updateFields.getD Column.all) previous))
        chassis context updateFields =
      db.updateRow
        (chassis.writeTo (updateFields.getD Column.all ++ context.updateFields) previous) := by
  have hpk : chassis.pk = previous.pk := (Inventory.find_pk hfind).symm
  cases updateFields with
  | none =>
      have hall : chassis.writeTo Column.all previous =
          chassis.writeTo (Column.all ++ context.updateFields) previous := by
        apply writeTo_congr
        intro column
        simp only [List.mem_append, Column.mem_all, true_or]
      rw [persistDerivedFields, Option.getD_none, hall]
  | some fields =>
      have hmerge : chassis.writeTo
            (fields ++ context.updateFields.filter (· ∉ fields)) previous =
          chassis.writeTo (fields ++ context.updateFields) previous := by
        apply writeTo_congr
        intro column
        by_cases hcolumn : column ∈ fields <;> simp [hcolumn]
      rw [persistDerivedFields, Option.getD_some]
      by_cases hderived : context.updateFields.filter (· ∉ fields) = []
      · rw [if_pos hderived, ← hmerge, hderived, List.append_nil]
      · have hrow : (db.updateRow (chassis.writeTo fields previous)).find chassis.pk =
            some (chassis.writeTo fields previous) := by
          rw [hpk] at hfind ⊢
          apply Inventory.find_updateRow
          exact hfind
        rw [if_neg hderived, hrow]
        simp only [writeTo_writeTo, hmerge]
        exact Inventory.updateRow_updateRow db rfl

/-- A save succeeds exactly when the row exists, the address is free, the status may follow and no
constraint is violated; it writes the named columns and the derived ones. -/
theorem saveChassis_eq_ok {now : Time} {db db' : Inventory} {chassis saved : Chassis}
    {updateFields : Option (List Column)} (hfields : updateFields ≠ some []) :
    saveChassis now db chassis updateFields = .ok (db', saved) ↔
      ∃ previous derived, db.find chassis.pk = some previous ∧ OwnableAddress db chassis.ip ∧
        LifecycleStep now previous chassis saved derived ∧
        (.ip ∈ updateFields.getD Column.all → chassis.ip ≠ "") ∧
        db.violatesUnique (chassis.writeTo (updateFields.getD Column.all) previous) = false ∧
        db' = db.updateRow
          (saved.writeTo (updateFields.getD Column.all ++ derived) previous) := by
  rw [saveChassis, if_neg hfields]
  simp only [bind_eq_ok, validateForInstance_eq_ok, Prod.exists, prepareChassisForSave,
    prepareLifecycleFields_eq_ok, Except.ok.injEq, Prod.mk.injEq]
  have hsame : ∀ {previous saved derived}, LifecycleStep now previous chassis saved derived →
      saved.pk = chassis.pk ∧ saved.ip = chassis.ip ∧
        db.violatesUnique (saved.writeTo (updateFields.getD Column.all) previous) =
          db.violatesUnique (chassis.writeTo (updateFields.getD Column.all) previous) := by
    intro previous saved derived hstep
    obtain ⟨isOnline, on, off, uptime, rfl⟩ := hstep.eq_withLifecycle
    exact ⟨rfl, rfl, Inventory.violatesUnique_congr rfl (by simp) (by simp) (by simp)⟩
  constructor
  · rintro ⟨-, hownable, saved', context, ⟨_, oldStatus, derived, ⟨previous, hfind, rfl, hstep⟩,
      rfl, rfl⟩, hwrite⟩
    obtain ⟨hpk, hip, hunique⟩ := hsame hstep
    rw [hpk, hfind] at hwrite
    simp only [bind_eq_ok, writeRow_eq_ok, Except.ok.injEq, Prod.mk.injEq] at hwrite
    obtain ⟨_, ⟨hempty, hviolates, rfl⟩, rfl, rfl⟩ := hwrite
    rw [hip] at hempty
    rw [hunique] at hviolates
    refine ⟨previous, derived, hfind, hownable, hstep, hempty, hviolates, ?_⟩
    exact persistDerivedFields_updateRow _ updateFields (by rw [hpk]; exact hfind)
  · rintro ⟨previous, derived, hfind, hownable, hstep, hempty, hviolates, rfl⟩
    obtain ⟨hpk, hip, hunique⟩ := hsame hstep
    refine ⟨(), hownable, saved, _, ⟨saved, _, derived, ⟨previous, hfind, rfl, hstep⟩, rfl, rfl⟩, ?_⟩
    rw [hpk, hfind]
    simp only [bind_eq_ok, writeRow_eq_ok, Except.ok.injEq, Prod.mk.injEq, hip, hunique]
    refine ⟨_, ⟨hempty, hviolates, rfl⟩, ?_, trivial⟩
    exact persistDerivedFields_updateRow _ updateFields (by rw [hpk]; exact hfind)

/-- A save through an instance with the stored status writes exactly the named columns. -/
theorem saveChassis_eq_ok_of_status {now : Time} {db db' : Inventory} {chassis row saved : Chassis}
    {updateFields : Option (List Column)} (hfields : updateFields ≠ some [])
    (hfind : db.find chassis.pk = some row) (hstatus : row.status = chassis.status) :
    saveChassis now db chassis updateFields = .ok (db', saved) ↔
      OwnableAddress db chassis.ip ∧ (.ip ∈ updateFields.getD Column.all → chassis.ip ≠ "") ∧
        db.violatesUnique (chassis.writeTo (updateFields.getD Column.all) row) = false ∧
        saved = chassis ∧ db' = db.updateRow (chassis.writeTo (updateFields.getD Column.all) row) := by
  rw [saveChassis_eq_ok hfields]
  constructor
  · rintro ⟨previous, derived, hprevious, hownable, hstep, hne, hunique, rfl⟩
    obtain rfl : row = previous := Option.some.inj (hfind.symm.trans hprevious)
    cases hstep with
    | unchanged =>
        rw [List.append_nil]
        exact ⟨hownable, hne, hunique, rfl, rfl⟩
    | changed hdiff => exact absurd hstatus hdiff
  · rintro ⟨hownable, hne, hunique, rfl, rfl⟩
    refine ⟨row, [], hfind, hownable, .unchanged hstatus, hne, hunique, ?_⟩
    rw [List.append_nil]

theorem writeRow_eq_integrityError {db : Inventory} {fields : List Column} {chassis row : Chassis}
    {write : Inventory → Chassis → Inventory}
    (h : db.violatesUnique (chassis.writeTo fields row) = true) :
    writeRow db fields chassis row write = .error .integrityError := by
  simp only [writeRow, h, if_true, ite_self]

/-- A save that passes every hook fails on the constraint it violates. -/
theorem saveChassis_eq_integrityError {now : Time} {db : Inventory} {chassis previous : Chassis}
    {updateFields : Option (List Column)} (hfields : updateFields ≠ some [])
    (hfind : db.find chassis.pk = some previous) (hownable : OwnableAddress db chassis.ip)
    (hstatus : previous.status = chassis.status ∨
      chassis.status ∈ validStatusTransitions previous.status)
    (hviolates : db.violatesUnique
      (chassis.writeTo (updateFields.getD Column.all) previous) = true) :
    saveChassis now db chassis updateFields = .error .integrityError := by
  obtain ⟨saved, derived, hstep⟩ := exists_lifecycleStep.mpr hstatus
  have hvalid : HardwareIPOwnershipService.validateForInstance db chassis = .ok () :=
    validateForInstance_eq_ok.mpr hownable
  have hprepare : prepareLifecycleFields now db false chassis =
      .ok (saved, some previous.status, derived) :=
    prepareLifecycleFields_eq_ok.mpr ⟨previous, hfind, rfl, hstep⟩
  obtain ⟨isOnline, on, off, uptime, rfl⟩ := hstep.eq_withLifecycle
  have hwrite : writeRow db (updateFields.getD Column.all)
      (chassis.withLifecycle isOnline on off uptime) previous Inventory.updateRow =
        .error .integrityError := by
    apply writeRow_eq_integrityError
    rw [← hviolates]
    exact Inventory.violatesUnique_congr rfl (by simp) (by simp) (by simp)
  rw [saveChassis, if_neg hfields, hvalid, prepareChassisForSave, hprepare]
  simp only [bind, Except.bind, withLifecycle_pk, hfind, hwrite]

/-- The instance a create inserts: an operational status starts an online period. -/
def startLifecycle (now : Time) (db : Inventory) (chassis : Chassis) : Chassis :=
  if chassis.status.isOperational then
    { chassis with pk := db.nextPk, isOnline := true, lastOnlineAt := some now }
  else
    { chassis with pk := db.nextPk }

/-- What a full insert of an instance stores. -/
def Chassis.stored (chassis : Chassis) : Chassis := chassis.writeTo Column.all chassis

theorem startLifecycle_eq (now : Time) (db : Inventory) (chassis : Chassis) :
    ∃ isOnline on, startLifecycle now db chassis =
      { chassis.withLifecycle isOnline on chassis.lastOfflineAt chassis.totalUptimeMinutes with
        pk := db.nextPk } := by
  rw [startLifecycle]
  split
  next => exact ⟨true, some now, rfl⟩
  next => exact ⟨chassis.isOnline, chassis.lastOnlineAt, rfl⟩

theorem createChassis_eq (now : Time) (db : Inventory) (chassis : Chassis) :
    createChassis now db chassis = (do
      HardwareIPOwnershipService.validateForInstance db chassis
      let db' ← writeRow db Column.all (startLifecycle now db chassis)
        (startLifecycle now db chassis) Inventory.insertRow
      .ok (db', startLifecycle now db chassis)) := by
  have hprepare : ∃ context, prepareChassisForSave now db true chassis =
      .ok ((if chassis.status.isOperational then
        { chassis with isOnline := true, lastOnlineAt := some now } else chassis), context) := by
    simp only [prepareChassisForSave, prepareLifecycleFields, if_true]
    split
    next => exact ⟨_, rfl⟩
    next => exact ⟨_, rfl⟩
  obtain ⟨context, hprepare⟩ := hprepare
  have hstart : ({ (if chassis.status.isOperational then
      { chassis with isOnline := true, lastOnlineAt := some now } else chassis) with
      pk := db.nextPk } : Chassis) = startLifecycle now db chassis := by
    rw [startLifecycle]
    split <;> rfl
  rw [createChassis, hprepare, ← hstart]
  rfl

theorem startLifecycle_ip (now : Time) (db : Inventory) (chassis : Chassis) :
    (startLifecycle now db chassis).ip = chassis.ip := by
  obtain ⟨isOnline, on, heq⟩ := startLifecycle_eq now db chassis
  rw [heq]
  rfl

theorem createChassis_eq_ok {now : Time} {db db' : Inventory} {chassis saved : Chassis} :
    createChassis now db chassis = .ok (db', saved) ↔
      OwnableAddress db chassis.ip ∧ chassis.ip ≠ "" ∧
        db.violatesUnique (startLifecycle now db chassis).stored = false ∧
        saved = startLifecycle now db chassis ∧ db' = db.insertRow saved.stored := by
  rw [createChassis_eq, bind_eq_ok]
  simp only [validateForInstance_eq_ok, exists_const, bind_eq_ok, writeRow_eq_ok, Column.mem_all,
    true_imp_iff, startLifecycle_ip, Except.ok.injEq, Prod.mk.injEq]
  refine and_congr_right fun _ => ?_
  constructor
  · rintro ⟨_, ⟨hempty, hunique, rfl⟩, rfl, rfl⟩
    exact ⟨hempty, hunique, rfl, rfl⟩
  · rintro ⟨hempty, hunique, rfl, rfl⟩
    exact ⟨_, ⟨hempty, hunique, rfl⟩, rfl, rfl⟩

/-- A create that passes the address check fails on the constraint it violates. -/
theorem createChassis_eq_integrityError {now : Time} {db : Inventory} {chassis : Chassis}
    (hownable : OwnableAddress db chassis.ip)
    (hviolates : db.violatesUnique (startLifecycle now db chassis).stored = true) :
    createChassis now db chassis = .error .integrityError := by
  have hvalid : HardwareIPOwnershipService.validateForInstance db chassis = .ok () :=
    validateForInstance_eq_ok.mpr hownable
  rw [createChassis_eq, hvalid]
  simp only [bind, Except.bind, writeRow_eq_integrityError hviolates]

theorem Inventory.Consistent.createChassis {db db' : Inventory} (h : db.Consistent) {now : Time}
    {chassis saved : Chassis} (hok : createChassis now db chassis = .ok (db', saved)) :
    db'.Consistent := by
  obtain ⟨-, hne, hunique, rfl, rfl⟩ := createChassis_eq_ok.mp hok
  obtain ⟨isOnline, on, heq⟩ := startLifecycle_eq now db chassis
  refine h.insertRow ?_ ?_ hunique
  · rw [heq]
    rfl
  · rw [Chassis.stored, writeTo_ip, if_pos (Column.mem_all _), heq]
    exact storedAddress_getPrepValue hne

theorem Inventory.Consistent.saveChassis {db db' : Inventory} (h : db.Consistent) {now : Time}
    {chassis saved : Chassis} {updateFields : Option (List Column)}
    (hok : saveChassis now db chassis updateFields = .ok (db', saved)) : db'.Consistent := by
  by_cases hfields : updateFields = some []
  · subst hfields
    cases hok
    exact h
  obtain ⟨previous, derived, hfind, -, hstep, hne, hunique, rfl⟩ :=
    (saveChassis_eq_ok hfields).mp hok
  obtain ⟨isOnline, on, off, uptime, heq⟩ := hstep.written (updateFields.getD Column.all)
  refine h.updateRow (Inventory.find_mem hfind) ?_ ?_ ?_
  · rfl
  · rw [heq, withLifecycle_ip, writeTo_ip]
    split
    next hmem => exact storedAddress_getPrepValue (hne hmem)
    next => exact h.ip_stored previous (Inventory.find_mem hfind)
  · rw [heq, ← hunique]
    exact Inventory.violatesUnique_congr rfl rfl rfl rfl

end Micboard
