import Micboard.ChassisRefresh

/-! What a refresh does to the table. One chassis is written where it stands, from its own row and
the chargers alone, so a selection is refreshed row by row whatever becomes of the others: a row
that is selected, in the operator's scope, answered for and free to keep its address takes the
fetched details and comes online unless it is retired, and every other row stays as it is. -/

namespace Micboard

open Library Library.Ranking Library.Text TenantAccess HardwareLifecycleManager
  WirelessChassisPersistenceService

/-- Rows that keep what tells devices apart keep the table consistent. -/
theorem Inventory.Consistent.mapRows {db : Inventory} (h : db.Consistent) {f : Chassis → Chassis}
    (hf : ∀ row, SameIdentity (f row) row) :
      ({ db with chassis := db.chassis.map f } : Inventory).Consistent where
  pk_unique := by
    rw [UniqueOn, List.map_map, show Chassis.pk ∘ f = Chassis.pk from funext fun row => (hf row).pk]
    exact h.pk_unique
  pk_lt := by
    intro chassis hchassis
    obtain ⟨row, hrow, rfl⟩ := List.mem_map.mp hchassis
    rw [(hf row).pk]
    exact h.pk_lt row hrow
  ip_stored := by
    intro chassis hchassis
    obtain ⟨row, hrow, rfl⟩ := List.mem_map.mp hchassis
    rw [(hf row).ip]
    exact h.ip_stored row hrow
  ip_unique := by
    rw [UniqueOn, List.map_map, show Chassis.ip ∘ f = Chassis.ip from funext fun row => (hf row).ip]
    exact h.ip_unique
  api_unique := by
    have hkey : (fun chassis : Chassis => (chassis.manufacturer.pk, chassis.apiDeviceId)) ∘ f =
        fun chassis => (chassis.manufacturer.pk, chassis.apiDeviceId) := by
      funext row
      simp only [Function.comp_apply, (hf row).manufacturer, (hf row).apiDeviceId]
    rw [UniqueOn, List.map_map, hkey]
    exact h.api_unique

/-- What a transition that is valid makes of its row. -/
def transitionedRow (now : Time) (toStatus : HardwareStatus) (row : Chassis) : Chassis :=
  let device := { row with status := toStatus, lastSeen := some now }
  if row.status = toStatus then device
  else (deriveLifecycleFields now row device).1.writeTo
    ([.status, .lastSeen] ++ (deriveLifecycleFields now row device).2) row

theorem transitionedRow_identity (now : Time) (toStatus : HardwareStatus) (row : Chassis) :
    SameIdentity (transitionedRow now toStatus row) row ∧
      (transitionedRow now toStatus row).status = toStatus := by
  unfold transitionedRow
  split
  next => exact ⟨⟨rfl, rfl, rfl, rfl, rfl, rfl⟩, rfl⟩
  next hne =>
    obtain ⟨on, off, uptime, heq⟩ :=
      deriveLifecycleFields_eq now row { row with status := toStatus, lastSeen := some now }
    have hcolumns := (deriveLifecycleFields_columns now row
      { row with status := toStatus, lastSeen := some now }).2
    have hkept : ∀ column ∉ derivedColumns, column ≠ .status → column ≠ .lastSeen →
        column ∉ [Column.status, .lastSeen] ++
          (deriveLifecycleFields now row { row with status := toStatus, lastSeen := some now }).2 := by
      intro column hderived hstatus hseen hmem
      rcases List.mem_append.mp hmem with hnamed | hnamed
      · simp_all
      · exact hderived (hcolumns column hnamed)
    refine ⟨⟨rfl, ?_, ?_, ?_, ?_, ?_⟩, ?_⟩
    · rw [writeTo_manufacturer, if_neg (hkept _ (by decide) (by decide) (by decide))]
    · rw [writeTo_apiDeviceId, if_neg (hkept _ (by decide) (by decide) (by decide))]
    · rw [writeTo_serialNumber, if_neg (hkept _ (by decide) (by decide) (by decide))]
    · rw [writeTo_macAddress, if_neg (hkept _ (by decide) (by decide) (by decide))]
    · rw [writeTo_ip, if_neg (hkept _ (by decide) (by decide) (by decide))]
    · rw [writeTo_status, if_pos (by simp), heq]
      rfl

section InPlace

variable {now : Time} {db : Inventory} (hdb : db.Consistent) {row : Chassis} (hrow : row ∈ db.chassis)
include hdb hrow

/-- A save that leaves the keys of its row alone needs a free address and an allowed status only. -/
theorem saveChassis_in_place {chassis saved : Chassis} {fields : List Column} {db' : Inventory}
    (hkeys : SameIdentity chassis row) (hip : .ip ∉ fields) (hmanufacturer : .manufacturer ∉ fields)
    (hapi : .apiDeviceId ∉ fields) (hfields : fields ≠ []) :
    saveChassis now db chassis (some fields) = .ok (db', saved) ↔
      OwnableAddress db row.ip ∧ ∃ derived, LifecycleStep now row chassis saved derived ∧
        db' = db.updateRow (saved.writeTo (fields ++ derived) row) := by
  have hfind : db.find chassis.pk = some row := by
    rw [hkeys.pk, hdb.find_eq_some]
    exact ⟨hrow, rfl⟩
  have hfree : db.violatesUnique (chassis.writeTo fields row) = false := by
    rw [← hdb.violatesUnique_self hrow]
    apply Inventory.violatesUnique_congr
    · rfl
    · rw [writeTo_ip, if_neg hip]
    · rw [writeTo_manufacturer, if_neg hmanufacturer]
    · rw [writeTo_apiDeviceId, if_neg hapi]
  have hsome : some fields ≠ some [] := by simpa using hfields
  rw [saveChassis_eq_ok hsome, Option.getD_some, hkeys.ip]
  constructor
  · rintro ⟨previous, derived, hprevious, hownable, hstep, -, -, rfl⟩
    obtain rfl : row = previous := Option.some.inj (hfind.symm.trans hprevious)
    exact ⟨hownable, derived, hstep, rfl⟩
  · rintro ⟨hownable, derived, hstep, rfl⟩
    exact ⟨row, derived, hfind, hownable, hstep, fun h => absurd h hip, hfree, rfl⟩

theorem transitionDevice_in_place (hownable : OwnableAddress db row.ip) {toStatus : HardwareStatus}
    (hvalid : isValidTransition row.status toStatus = true) :
    transitionDevice now db row.pk toStatus = .ok
      (db.updateRow (transitionedRow now toStatus row), true) := by
  have hfind : db.find row.pk = some row := hdb.find_eq_some.mpr ⟨hrow, rfl⟩
  have hsave : ∃ saved, saveChassis now db { row with status := toStatus, lastSeen := some now }
      (some [.status, .lastSeen]) = .ok (db.updateRow (transitionedRow now toStatus row), saved) := by
    have hin : ∀ {saved db'}, saveChassis now db { row with status := toStatus, lastSeen := some now }
        (some [.status, .lastSeen]) = .ok (db', saved) ↔ OwnableAddress db row.ip ∧ ∃ derived,
          LifecycleStep now row { row with status := toStatus, lastSeen := some now } saved derived ∧
            db' = db.updateRow (saved.writeTo ([.status, .lastSeen] ++ derived) row) := by
      intro saved db'
      exact saveChassis_in_place hdb hrow ⟨rfl, rfl, rfl, rfl, rfl, rfl⟩ (by decide) (by decide)
        (by decide) (by simp)
    rw [transitionedRow]
    by_cases hsame : row.status = toStatus
    · refine ⟨_, hin.mpr ⟨hownable, [], .unchanged hsame, ?_⟩⟩
      rw [if_pos hsame]
      rfl
    · refine ⟨_, hin.mpr ⟨hownable, _, .changed hsame ?_, ?_⟩⟩
      · rw [isValidTransition, Bool.or_eq_true, decide_eq_true_iff, decide_eq_true_iff,
          validTransitions_eq] at hvalid
        exact hvalid.resolve_left hsame
      · rw [if_neg hsame]
  obtain ⟨saved, hsave⟩ := hsave
  unfold transitionDevice
  simp only [hfind, hvalid, Bool.not_true, Bool.false_eq_true, if_false, hsave, liftSave]
  rfl

end InPlace

namespace ChassisRefreshService

/-- The row with the fetched details. -/
def writtenRow (now : Time) (data : VendorPayload) (row : Chassis) : Chassis :=
  { row with
    lastSeen := some now
    name := if (data.get "name").isTruthy then trim (data.get "name").str else row.name
    firmwareVersion :=
      if (data.get "firmware").isTruthy then trim (data.get "firmware").str else row.firmwareVersion }

/-- A device that answered, with its details, comes online by way of provisioning unless it is
retired. -/
def refreshedRow (now : Time) (data : VendorPayload) (row : Chassis) : Chassis :=
  match row.status with
  | .retired => writtenRow now data row
  | .discovered =>
      transitionedRow now .online (transitionedRow now .provisioning (writtenRow now data row))
  | _ => transitionedRow now .online (writtenRow now data row)

theorem refreshedRow_identity (now : Time) (data : VendorPayload) (row : Chassis) :
    SameIdentity (refreshedRow now data row) row := by
  have hwritten : SameIdentity (writtenRow now data row) row := ⟨rfl, rfl, rfl, rfl, rfl, rfl⟩
  unfold refreshedRow
  split
  next => exact hwritten
  next =>
    exact (transitionedRow_identity _ _ _).1.trans ((transitionedRow_identity _ _ _).1.trans hwritten)
  next => exact (transitionedRow_identity _ _ _).1.trans hwritten

theorem refreshedRow_status (now : Time) (data : VendorPayload) (row : Chassis) :
    (refreshedRow now data row).status = if row.status = .retired then .retired else .online := by
  unfold refreshedRow
  split
  next h => rw [if_pos h, writtenRow, h]
  next h => rw [(transitionedRow_identity _ _ _).2, h, if_neg (by decide)]
  next hretired _ => rw [(transitionedRow_identity _ _ _).2, if_neg hretired]

/-- The columns of an update, and the instance that it saves. -/
theorem update_writes (now : Time) (data : VendorPayload) (row : Chassis) :
    let write := WirelessChassisWrite.ofValues (updateValues now data)
    write ≠ [] ∧ write.assignTo row = writtenRow now data row ∧
      (∀ column ∈ write.columns, column = .lastSeen ∨ column = .name ∨ column = .firmwareVersion) ∧
      (writtenRow now data row).writeTo write.columns row = writtenRow now data row := by
  simp only [updateValues, WirelessChassisWrite.ofValues]
  cases hname : (data.get "name").isTruthy <;> cases hfirmware : (data.get "firmware").isTruthy <;>
    simp [WirelessChassisWrite.assignTo, WirelessChassisWrite.columns, FieldValue.validated,
      FieldValue.column,
      FieldValue.assign, writtenRow, hname, hfirmware, Chassis.writeTo]

section InPlace

variable {now : Time} {db : Inventory} (hdb : db.Consistent) {row : Chassis} (hrow : row ∈ db.chassis)
include hdb hrow

theorem update_in_place (data : VendorPayload) (hownable : OwnableAddress db row.ip) :
    update now db row (WirelessChassisWrite.ofValues (updateValues now data)) false =
      .ok (db.updateRow (writtenRow now data row), writtenRow now data row) := by
  obtain ⟨hsome, hinstance, hcolumns, hwritten⟩ := update_writes now data row
  have hnamed : ∀ column, column ≠ .lastSeen → column ≠ .name → column ≠ .firmwareVersion →
      column ∉ (WirelessChassisWrite.ofValues (updateValues now data)).columns := by
    intro column hseen hname hfirmware hmem
    rcases hcolumns column hmem with h | h | h
    · exact hseen h
    · exact hname h
    · exact hfirmware h
  have hfields : (WirelessChassisWrite.ofValues (updateValues now data)).columns ≠ [] := by
    simpa [WirelessChassisWrite.columns] using hsome
  have hkeys : SameIdentity (writtenRow now data row) row := ⟨rfl, rfl, rfl, rfl, rfl, rfl⟩
  have hsave : saveChassis now db (writtenRow now data row)
      (some (WirelessChassisWrite.ofValues (updateValues now data)).columns) =
        .ok (db.updateRow (writtenRow now data row), writtenRow now data row) := by
    apply (saveChassis_in_place hdb hrow hkeys (hnamed _ (by decide) (by decide) (by decide))
      (hnamed _ (by decide) (by decide) (by decide))
      (hnamed _ (by decide) (by decide) (by decide)) hfields).mpr
    refine ⟨hownable, [], .unchanged rfl, ?_⟩
    rw [List.append_nil, hwritten]
  rw [update, if_neg hsome, hinstance, if_neg Bool.false_ne_true, hsave]
  rfl

theorem consistent_updateRow {row' : Chassis}
    (h : SameIdentity row' row) : (db.updateRow row').Consistent := by
  refine hdb.updateRow hrow h.pk.symm ?_ ?_
  · rw [h.ip]
    exact hdb.ip_stored row hrow
  · rw [← hdb.violatesUnique_self hrow]
    exact Inventory.violatesUnique_congr h.pk h.ip h.manufacturer h.apiDeviceId

/-- **One chassis is refreshed** exactly if no charger owns its address; its row is then the only
thing written. -/
theorem applyRefresh_in_place (data : VendorPayload) (hownable : OwnableAddress db row.ip) :
    applyRefresh now db row.pk data = .ok (db.updateRow (refreshedRow now data row), true) := by
  have hfind : db.find row.pk = some row := hdb.find_eq_some.mpr ⟨hrow, rfl⟩
  have hwritten : SameIdentity (writtenRow now data row) row := ⟨rfl, rfl, rfl, rfl, rfl, rfl⟩
  have htransition : ∀ {first : Chassis} {toStatus : HardwareStatus}, SameIdentity first row →
      isValidTransition first.status toStatus = true →
        transitionDevice now (db.updateRow first) row.pk toStatus =
          .ok (db.updateRow (transitionedRow now toStatus first), true) := by
    intro first toStatus hfirst hvalid
    have hmem : first ∈ (db.updateRow first).chassis :=
      mem_replaceRow_self Chassis.pk hrow hfirst.pk.symm
    have hfree : OwnableAddress (db.updateRow first) first.ip := by
      rw [hfirst.ip]
      exact hownable
    have hstep : transitionDevice now (db.updateRow first) first.pk toStatus =
        .ok ((db.updateRow first).updateRow (transitionedRow now toStatus first), true) :=
      transitionDevice_in_place (consistent_updateRow hdb hrow hfirst) hmem hfree hvalid
    rw [hfirst.pk, Inventory.updateRow_updateRow _
      (transitionedRow_identity now toStatus first).1.pk.symm] at hstep
    exact hstep
  have honline : ∀ {first : Chassis}, SameIdentity first row →
      isValidTransition first.status .online = true →
      markOnline now (db.updateRow first) row.pk = .ok
        (db.updateRow (transitionedRow now .online first), true) :=
    fun hfirst hvalid => htransition hfirst hvalid
  simp only [applyRefresh, hfind, update_in_place hdb hrow data hownable, bind, Except.bind]
  by_cases hretired : row.status = .retired
  · rw [if_pos (show (writtenRow now data row).status = .retired from hretired), refreshedRow, hretired]
  rw [if_neg (show ¬(writtenRow now data row).status = .retired from hretired)]
  by_cases hdiscovered : row.status = .discovered
  · have hprovision : provisionDiscovered now (db.updateRow (writtenRow now data row))
        (writtenRow now data row) =
        .ok (db.updateRow (transitionedRow now .provisioning (writtenRow now data row)), true) := by
      rw [provisionDiscovered,
        if_pos (show (writtenRow now data row).status = .discovered from hdiscovered)]
      apply htransition hwritten
      rw [show (writtenRow now data row).status = .discovered from hdiscovered]
      decide
    have hidentity := transitionedRow_identity now .provisioning (writtenRow now data row)
    have hmark := honline (hidentity.1.trans hwritten) (by rw [hidentity.2]; decide)
    simp only [hprovision, show (writtenRow now data row).pk = row.pk from rfl, hmark,
      refreshedRow, hdiscovered]
  · have hprovision : provisionDiscovered now (db.updateRow (writtenRow now data row))
        (writtenRow now data row) =
        .ok (db.updateRow (writtenRow now data row), true) := by
      rw [provisionDiscovered,
        if_neg (show ¬(writtenRow now data row).status = .discovered from hdiscovered)]
    have hvalid : isValidTransition (writtenRow now data row).status .online = true := by
      show isValidTransition row.status .online = true
      cases hstatus : row.status with
      | retired => exact absurd hstatus hretired
      | discovered => exact absurd hstatus hdiscovered
      | provisioning | online | degraded | offline | maintenance => decide
    have hrefreshed : refreshedRow now data row = transitionedRow now .online
        (writtenRow now data row) := by
      unfold refreshedRow
      split
      next h => exact absurd h hretired
      next h => exact absurd h hdiscovered
      next => rfl
    simp only [hprovision, show (writtenRow now data row).pk = row.pk from rfl,
      honline hwritten hvalid, hrefreshed]

/-- A charger's address stops the refresh. -/
theorem applyRefresh_refused (data : VendorPayload) (h : ¬OwnableAddress db row.ip) :
    ∃ error, applyRefresh now db row.pk data = .error error := by
  have hfind : db.find row.pk = some row := hdb.find_eq_some.mpr ⟨hrow, rfl⟩
  obtain ⟨hsome, hinstance, hcolumns, -⟩ := update_writes now data row
  have hfields : (WirelessChassisWrite.ofValues (updateValues now data)).columns ≠ [] := by
    simpa [WirelessChassisWrite.columns] using hsome
  cases hok : applyRefresh now db row.pk data with
  | error error => exact ⟨error, rfl⟩
  | ok outcome =>
    simp only [applyRefresh, hfind, update, if_neg hsome, hinstance, Bool.false_eq_true,
      if_false, bind_eq_ok,
      liftSave_eq_ok] at hok
    obtain ⟨⟨_, _⟩, hsave, -⟩ := hok
    have hnamed : some (WirelessChassisWrite.ofValues (updateValues now data)).columns ≠ some [] := by
      simpa using hfields
    obtain ⟨_, _, _, hownable, -⟩ := (saveChassis_eq_ok hnamed).mp hsave
    exact absurd hownable h

end InPlace

section Selection

variable {Raw : Type*} (registry : String → Except String (DevicePlugin Raw)) (clock : Nat → Time)

/-- What the manufacturer says of a chassis, if it says anything. -/
def fetched (chassis : Chassis) : Option VendorPayload :=
  match registry chassis.manufacturer.code with
  | .error _ => none
  | .ok plugin =>
    match plugin.getDevice chassis.apiDeviceId with
    | .error _ | .ok none => none
    | .ok (some deviceData) =>
      match plugin.transformDeviceData deviceData with
      | .error _ | .ok none => none
      | .ok (some transformedData) => if transformedData = [] then none else some transformedData

/-- What a refresh of the row writes: nothing, if a charger owns its address. -/
def refreshData (db : Inventory) (row : Chassis) : Option VendorPayload :=
  match HardwareIPOwnershipService.validateForInstance db row with
  | .ok _ => fetched registry row
  | .error _ => none

def refreshedOr (db : Inventory) (row : Chassis) : Chassis :=
  match refreshData registry db row with
  | some data => refreshedRow (clock row.pk) data row
  | none => row

theorem refreshedOr_identity (db : Inventory)
    (row : Chassis) : SameIdentity (refreshedOr registry clock db row) row := by
  unfold refreshedOr
  split
  next => exact refreshedRow_identity _ _ _
  next => exact .refl row

def refreshedTable (selected : Chassis → Bool) (db : Inventory) : Inventory :=
  { db with chassis := db.chassis.map fun row =>
    if selected row then refreshedOr registry clock db row else row }

theorem refreshedTable_consistent {db : Inventory} (hdb : db.Consistent) (selected : Chassis → Bool) :
    (refreshedTable registry clock selected db).Consistent := by
  apply hdb.mapRows
  intro row
  split
  next => exact refreshedOr_identity registry clock db row
  next => exact .refl row

variable {registry clock}

/-- One round of the loop on a stored row. -/
theorem refreshStep_eq {db : Inventory} (hdb : db.Consistent) {row : Chassis} (hrow : row ∈ db.chassis)
    (synced failed : Nat) : refreshStep registry clock (db, synced, failed) row =
      (db.updateRow (refreshedOr registry clock db row),
        if (refreshData registry db row).isSome then (synced + 1, failed) else
          (synced, failed + 1)) := by
  have hself : db.updateRow row = db := (Rewrites.self hdb (hdb.find_eq_some.mpr ⟨hrow, rfl⟩)).eq.symm
  have hvalid : (∃ u, HardwareIPOwnershipService.validateForInstance db row = .ok u) ↔
      OwnableAddress db row.ip :=
    ⟨fun ⟨_, h⟩ => validateForInstance_eq_ok.mp h, fun h => ⟨(), validateForInstance_eq_ok.mpr h⟩⟩
  rw [refreshStep, refreshChassis, refreshedOr, refreshData, fetched]
  cases hregistry : registry row.manufacturer.code with
  | error message => cases HardwareIPOwnershipService.validateForInstance db row <;> simp [hself]
  | ok plugin =>
    cases hdevice : plugin.getDevice row.apiDeviceId with
    | error message =>
        cases HardwareIPOwnershipService.validateForInstance db row <;> simp [hself, hdevice]
    | ok answer =>
      cases answer with
      | none => cases HardwareIPOwnershipService.validateForInstance db row <;> simp [hself, hdevice]
      | some deviceData =>
        cases htransformed : plugin.transformDeviceData deviceData with
        | error message =>
          cases HardwareIPOwnershipService.validateForInstance db row <;>
            simp [hself, hdevice, htransformed]
        | ok transformed =>
          cases transformed with
          | none => cases HardwareIPOwnershipService.validateForInstance db row <;>
            simp [hself, hdevice, htransformed]
          | some data =>
            by_cases hempty : data = []
            · cases HardwareIPOwnershipService.validateForInstance db row <;>
                simp [hself, hdevice, htransformed, hempty]
            · cases hcheck : HardwareIPOwnershipService.validateForInstance db row with
              | ok u =>
                have happly : applyRefresh (clock row.pk) db row.pk data =
                    .ok (db.updateRow (refreshedRow (clock row.pk) data row), true) :=
                  applyRefresh_in_place hdb hrow data (hvalid.mp ⟨u, hcheck⟩)
                simp [hdevice, htransformed, hempty, happly]
              | error error =>
                have hrefused : ¬OwnableAddress db row.ip := by
                  rw [← hvalid, hcheck]
                  simp
                obtain ⟨failure, happly⟩ : ∃ failure, applyRefresh
                    (clock row.pk) db row.pk data = .error failure :=
                  applyRefresh_refused hdb hrow data hrefused
                simp [hdevice, htransformed, hempty, happly, hself]

theorem refreshedTable_updateRow {db : Inventory} (hdb : db.Consistent) {row : Chassis}
    (hrow : row ∈ db.chassis)
    {keys : List Nat} (hfresh : row.pk ∉ keys) :
    (refreshedTable registry clock (fun other => other.pk ∈ keys) db).updateRow
    (refreshedOr registry clock db row) =
      refreshedTable registry clock (fun other => other.pk ∈ keys ++ [row.pk]) db := by
  have hpk : ∀ other, (refreshedOr registry clock db other).pk = other.pk := fun other =>
    (refreshedOr_identity registry clock db other).pk
  simp only [refreshedTable, Inventory.updateRow, replaceRow, List.map_map]
  congr 1
  apply List.map_congr_left
  intro old hold
  by_cases hsame : old.pk = row.pk
  · obtain rfl := hdb.pk_unique.eq hold hrow hsame
    simp [hpk, hfresh]
  · by_cases hpassed : old.pk ∈ keys
    · simp [hpk, hpassed, hsame]
    · simp [hpk, hpassed, hsame]

/-- The loop leaves the rows it has passed refreshed, from what they were at its start. -/
theorem foldl_refreshStep {db : Inventory} (hdb : db.Consistent) {todo : List Chassis}
    (hstored : ∀ row ∈ todo, row ∈ db.chassis) (honce : (todo.map Chassis.pk).Nodup) :
    todo.foldl (refreshStep registry clock) (db, 0, 0) =
      (refreshedTable registry clock (fun row => row.pk ∈ todo.map Chassis.pk) db,
        (todo.filter fun row => (refreshData registry db row).isSome).length,
        (todo.filter fun row => !(refreshData registry db row).isSome).length) := by
  induction todo using List.reverseRecOn with
  | nil => simp [refreshedTable]
  | append_singleton done row ih =>
    rw [List.map_append, List.nodup_append] at honce
    obtain ⟨hdone, -, hdisjoint⟩ := honce
    have hfresh : row.pk ∉ done.map Chassis.pk := fun hmem =>
      hdisjoint _ hmem row.pk (by simp) rfl
    have hrow : row ∈ db.chassis := hstored row (by simp)
    rw [List.foldl_concat, ih (fun other hother => hstored other (List.mem_append_left _ hother)) hdone]
    have hmem : row ∈ (refreshedTable registry clock
        (fun row => row.pk ∈ done.map Chassis.pk) db).chassis := by
      apply List.mem_map.mpr
      exact ⟨row, hrow, if_neg (by simpa using hfresh)⟩
    have hdata : refreshData registry
        (refreshedTable registry clock (fun row => row.pk ∈ done.map Chassis.pk) db) row =
        refreshData registry db row := rfl
    have hrefreshed : refreshedOr registry clock
        (refreshedTable registry clock (fun row => row.pk ∈ done.map Chassis.pk) db) row =
          refreshedOr registry clock db row := rfl
    rw [refreshStep_eq (refreshedTable_consistent registry clock hdb _) hmem, hdata, hrefreshed]
    rw [refreshedTable_updateRow hdb hrow hfresh, List.map_append, List.filter_append,
      List.filter_append,
      List.length_append, List.length_append, List.filter_singleton, List.filter_singleton]
    cases hsome : (refreshData registry db row).isSome with
    | true => rfl
    | false => rfl

/-- **A selection is refreshed row by row**: each selected row from itself, and no other row at all. -/
theorem refresh_rowwise {db : Inventory} (hdb : db.Consistent) (selected : Chassis → Bool) :
    (refresh registry clock db (db.chassis.filter selected)).1 =
      refreshedTable registry clock selected db ∧
      (refresh registry clock db (db.chassis.filter selected)).2.syncedCount =
        (db.chassis.filter fun row => selected row && (refreshData registry db row).isSome).length ∧
      (refresh registry clock db (db.chassis.filter selected)).2.failedCount =
        (db.chassis.filter fun row =>
          selected row && !(refreshData registry db row).isSome).length := by
  have hperm := orderBy_perm Chassis.pk (db.chassis.filter selected)
  have hstored : ∀ row ∈ orderBy Chassis.pk (db.chassis.filter selected),
      row ∈ db.chassis := fun row hrow =>
    (List.mem_filter.mp (hperm.mem_iff.mp hrow)).1
  have honce : ((orderBy Chassis.pk (db.chassis.filter selected)).map Chassis.pk).Nodup :=
    (hperm.map Chassis.pk).nodup_iff.mpr (hdb.pk_unique.sublist (List.filter_sublist.map _))
  have hcount : ∀ keep : Chassis → Bool,
      ((orderBy Chassis.pk (db.chassis.filter selected)).filter keep).length =
      (db.chassis.filter fun row => selected row && keep row).length := by
    intro keep
    rw [(hperm.filter keep).length_eq, List.filter_filter]
    simp only [Bool.and_comm]
  have htable : refreshedTable registry clock
      (fun row => row.pk ∈ (orderBy Chassis.pk (db.chassis.filter selected)).map Chassis.pk) db =
        refreshedTable registry clock selected db := by
    simp only [refreshedTable]
    congr 1
    apply List.map_congr_left
    intro row hrow
    have hchosen : row.pk ∈ (orderBy Chassis.pk (db.chassis.filter selected)).map Chassis.pk ↔
        selected row = true := by
      rw [(hperm.map Chassis.pk).mem_iff, List.mem_map]
      constructor
      · rintro ⟨other, hother, hpk⟩
        obtain ⟨hmem, hselected⟩ := List.mem_filter.mp hother
        rwa [hdb.pk_unique.eq hmem hrow hpk] at hselected
      · intro hselected
        exact ⟨row, List.mem_filter.mpr ⟨hrow, hselected⟩, rfl⟩
    simp only [hchosen, decide_eq_true_eq]
  rw [refresh, foldl_refreshStep hdb hstored honce, htable, hcount, hcount]
  exact ⟨rfl, rfl, rfl⟩

/-! ### Queued selections -/

/-- The chassis of a queued selection that its operator may refresh. -/
def authorized (deployment : Deployment) (chassisIds : List QueuedId) (actorId : Nat)
    (chassis : Chassis) : Bool :=
  match deployment.users.find? fun user => user.pk = actorId with
  | none => false
  | some actor => deployment.mayRefresh actor &&
    (chassis.pk ∈ selectedIds chassisIds && deployment.inScope actor chassis)

theorem nodup_selectedIds (chassisIds : List QueuedId) : (selectedIds chassisIds).Nodup :=
  (orderBy_perm id _).nodup_iff.mpr (List.nodup_dedup _)

theorem length_selectedIds_le (chassisIds : List QueuedId) :
    (selectedIds chassisIds).length ≤ maxChassisRefreshBatch := by
  calc (selectedIds chassisIds).length
      = ((page maxChassisRefreshBatch chassisIds).1.filterMap QueuedId.validKey).dedup.length :=
        (orderBy_perm id _).length_eq
    _ ≤ ((page maxChassisRefreshBatch chassisIds).1.filterMap QueuedId.validKey).length :=
        (List.dedup_sublist _).length_le
    _ ≤ (page maxChassisRefreshBatch chassisIds).1.length := List.length_filterMap_le _ _
    _ ≤ maxChassisRefreshBatch := length_page_le _ _

end Selection

/-- A rack unit that was discovered, a manufacturer that knows it, and a superuser who may refresh
it. -/
def foundRack : Inventory where
  chassis :=
    [{ Chassis.unsaved ⟨1, "shure", true⟩ with pk := 1, apiDeviceId := "dev-1", ip := "10.0.0.9" }]
  chargers := []
  nextPk := 2

def rackPlugin : DevicePlugin String where
  getDevice id := .ok (if id = "dev-1" then some "Stage left" else none)
  transformDeviceData name := .ok (some [("name", .text name)])

def rackDeployment : Deployment where
  controls := { mspEnabled := false, multiSiteMode := false }
  tenancy := {
    organizations := [⟨3, none, true⟩]
    campuses := []
    memberships := [{ userId := 9, organizationId := 3, campusId := none, isActive := true }] }
  groups := []
  users := [{ pk := 9, isSuperuser := true, isStaff := true }]
  locationOf _ := none

end ChassisRefreshService

end Micboard
