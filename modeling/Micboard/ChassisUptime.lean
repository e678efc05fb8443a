import Micboard.ChassisCoherence
import Micboard.LibraryPeriods
import Mathlib.Algebra.Ring.Int.Defs

/-! Uptime accounting over the statuses a chassis was saved with. The hook keeps the start of the open
operational period in `lastOnlineAt` and adds the minutes of a period when a save ends it; over a whole
history the total is the sum over its closed periods. -/

namespace Micboard

open Library

/-- The statuses a chassis was stored with and the clock reading of each save, oldest first. -/
abbrev StatusHistory := List (Time × HardwareStatus)

/-- The length of a period in whole minutes. -/
def wholeMinutes (since until' : Time) : Int := (until' - since) / 60000000

/-- A device is up while its stored status is online or degraded. -/
abbrev UpSince (history : StatusHistory) (i : Nat) : Prop :=
  OpenPeriod HardwareStatus.isOperational history i

/-- The minutes of the maximal closed periods in which the stored status was online or degraded. -/
def uptimeMinutes (history : StatusHistory) : Int :=
  periodSum wholeMinutes HardwareStatus.isOperational history

/-- A full save, or one whose `update_fields` contain the status. -/
def SavesStatus (updateFields : Option (List Column)) : Prop :=
  ∀ fields, updateFields = some fields → .status ∈ fields

/-- A loaded row once its status is assigned. -/
def Chassis.withStatus (row : Chassis) (status : HardwareStatus) : Chassis := { row with status }

/-- The histories of one row: it is created with the accounting columns at their defaults, then loaded
and saved with a new status any number of times, under a clock that does not go back; meanwhile every
other row of the inventory may change in any way. -/
inductive StatusRun (pk : Nat) : StatusHistory → Inventory → Prop where
  | create {now : Time} {db db' : Inventory} {chassis saved : Chassis} (hconsistent : db.Consistent)
      (hflag : chassis.status.isOperational = false → chassis.isOnline = false)
      (huptime : chassis.totalUptimeMinutes = 0)
      (hcreate : createChassis now db chassis = .ok (db', saved)) (hpk : saved.pk = pk) :
      StatusRun pk [(now, chassis.status)] db'
  | save {now : Time} {history : StatusHistory} {db db' : Inventory} {row saved : Chassis}
      {status : HardwareStatus} {updateFields : Option (List Column)} (hrun : StatusRun pk history db)
      (hclock : ∀ entry ∈ history, entry.1 ≤ now) (hload : db.find pk = some row)
      (hfields : SavesStatus updateFields)
      (hsave : saveChassis now db (row.withStatus status) updateFields = .ok (db', saved)) :
      StatusRun pk (history ++ [(now, status)]) db'
  | elsewhere {history : StatusHistory} {db db' : Inventory} (hrun : StatusRun pk history db)
      (hsame : db'.find pk = db.find pk) : StatusRun pk history db'

/-- What the accounting columns of a row say of its history. -/
structure Accounted (history : StatusHistory) (row : Chassis) : Prop where
  coherent : row.Coherent
  current :
    activeAt HardwareStatus.isOperational history (history.length - 1) = row.status.isOperational
  since : row.status.isOperational = true →
    ∃ i, UpSince history i ∧ row.lastOnlineAt = some (timeAt history i)
  uptime : row.totalUptimeMinutes = uptimeMinutes history

/-- A status change within the operational states or within the others writes the accounting columns
as they were. -/
theorem deriveLifecycleFields_stays {now : Time} {row : Chassis} {status : HardwareStatus}
    (hcoherent : row.Coherent) (h : status.isOperational = row.status.isOperational) :
    deriveLifecycleFields now row (row.withStatus status) =
      ({ row.withStatus status with isOnline := status.isOperational }, [.isOnline]) := by
  rw [Chassis.Coherent] at hcoherent
  simp [deriveLifecycleFields, Chassis.withStatus, hcoherent, h]

theorem deriveLifecycleFields_enters {now : Time} {row : Chassis} {status : HardwareStatus}
    (hcoherent : row.Coherent) (hrow : row.status.isOperational = false)
    (h : status.isOperational = true) :
    deriveLifecycleFields now row (row.withStatus status) =
      ({ row.withStatus status with isOnline := true, lastOnlineAt := some now },
        [.isOnline, .lastOnlineAt]) := by
  rw [Chassis.Coherent] at hcoherent
  simp [deriveLifecycleFields, Chassis.withStatus, hcoherent, hrow, h]

theorem deriveLifecycleFields_leaves {now since : Time} {row : Chassis} {status : HardwareStatus}
    (hrow : row.status.isOperational = true) (h : status.isOperational = false)
    (hsince : row.lastOnlineAt = some since) :
    deriveLifecycleFields now row (row.withStatus status) =
      ({ row.withStatus status with
          isOnline := false
          lastOfflineAt := some now
          totalUptimeMinutes := row.totalUptimeMinutes + elapsedMinutes now since },
        [.isOnline, .lastOfflineAt, .totalUptimeMinutes]) := by
  simp [deriveLifecycleFields, Chassis.withStatus, hrow, h, hsince]

/-- What the derivation does not name it leaves as it is. -/
theorem deriveLifecycleFields_kept (now : Time) (previous chassis : Chassis) :
    (.lastOnlineAt ∉ (deriveLifecycleFields now previous chassis).2 →
      (deriveLifecycleFields now previous chassis).1.lastOnlineAt = chassis.lastOnlineAt) ∧
    (.lastOfflineAt ∉ (deriveLifecycleFields now previous chassis).2 →
      (deriveLifecycleFields now previous chassis).1.lastOfflineAt = chassis.lastOfflineAt) ∧
    (.totalUptimeMinutes ∉ (deriveLifecycleFields now previous chassis).2 →
      (deriveLifecycleFields now previous chassis).1.totalUptimeMinutes =
        chassis.totalUptimeMinutes) := by
  rw [deriveLifecycleFields]
  split
  next => simp
  next =>
    split
    next =>
      split
      next => simp
      next => simp
    next => simp

/-- A loaded row with the status it is saved with, and the columns derived from the change. -/
def Chassis.resaved (row : Chassis) (now : Time) (status : HardwareStatus) : Chassis :=
  if row.status = status then row else (deriveLifecycleFields now row (row.withStatus status)).1

/-- A derived instance writes its own accounting columns: a column that the statements do not name has
the loaded value in the instance as in the row. -/
theorem lifecycleColumns_writeTo_derived (now : Time) (row : Chassis) (status : HardwareStatus)
    (fields : List Column) :
    ((deriveLifecycleFields now row (row.withStatus status)).1.writeTo
      (fields ++ (deriveLifecycleFields now row (row.withStatus status)).2) row).lifecycleColumns =
      (deriveLifecycleFields now row (row.withStatus status)).1.lifecycleColumns := by
  have honline := (deriveLifecycleFields_columns now row (row.withStatus status)).1
  obtain ⟨hon, hoff, huptime⟩ := deriveLifecycleFields_kept now row (row.withStatus status)
  obtain ⟨on, off, uptime, heq⟩ := deriveLifecycleFields_eq now row (row.withStatus status)
  have hpk : (deriveLifecycleFields now row (row.withStatus status)).1.pk = row.pk := by
    rw [heq]
    rfl
  have hcolumn : ∀ {α : Type} {column : Column} {new old : α} {derived : List Column},
      (column ∉ derived → new = old) →
      (if column ∈ fields ++ derived then new else old) = new := by
    intro α column new old derived hkept
    split
    next => rfl
    next hmem => exact (hkept fun hin => hmem (List.mem_append_right _ hin)).symm
  rw [Chassis.lifecycleColumns, Chassis.lifecycleColumns, writeTo_pk, writeTo_isOnline,
    writeTo_lastOnlineAt, writeTo_lastOfflineAt, writeTo_totalUptimeMinutes,
    if_pos (List.mem_append_right _ honline), hpk]
  exact congrArg₂ _ rfl (congrArg₂ _ rfl (congrArg₂ _ (hcolumn hon)
    (congrArg₂ _ (hcolumn hoff) (hcolumn huptime))))

/-- The row that a save of a loaded row leaves, whichever columns besides the status it names. -/
theorem find_saveChassis_loaded {now : Time} {db db' : Inventory} {row saved : Chassis}
    {status : HardwareStatus} {updateFields : Option (List Column)}
    (hload : db.find row.pk = some row) (hfields : SavesStatus updateFields)
    (hsave : saveChassis now db (row.withStatus status) updateFields = .ok (db', saved)) :
    ∃ written, db'.find row.pk = some written ∧ written.status = status ∧
      written.lifecycleColumns = (row.resaved now status).lifecycleColumns := by
  have hstatus : Column.status ∈ updateFields.getD Column.all := by
    cases updateFields with
    | none => exact Column.mem_all _
    | some fields => exact hfields fields rfl
  have hne : updateFields ≠ some [] := by
    rintro rfl
    cases hstatus
  obtain ⟨previous, derived, hfind, -, hstep, -, -, rfl⟩ := (saveChassis_eq_ok hne).mp hsave
  obtain rfl : row = previous := Option.some.inj (hload.symm.trans hfind)
  have hwritten : (db.updateRow (saved.writeTo (updateFields.getD Column.all ++ derived) row)).find
      row.pk = some (saved.writeTo (updateFields.getD Column.all ++ derived) row) :=
    Inventory.find_updateRow hload
  refine ⟨_, hwritten, ?_, ?_⟩
  · obtain ⟨isOnline, on, off, uptime, heq⟩ := hstep.written (updateFields.getD Column.all)
    rw [heq, withLifecycle_status, writeTo_status, if_pos hstatus, Chassis.withStatus]
  · rw [Chassis.resaved]
    cases hstep with
    | unchanged h =>
        rw [if_pos (show row.status = status from h)]
        simp [Chassis.lifecycleColumns, Chassis.withStatus]
    | changed hdiff hallowed =>
        rw [if_neg (show row.status ≠ status from hdiff)]
        exact lifecycleColumns_writeTo_derived now row status _

theorem resaved_stays {now : Time} {row : Chassis} {status : HardwareStatus}
    (hcoherent : row.Coherent) (h : status.isOperational = row.status.isOperational) :
    (row.resaved now status).lifecycleColumns = row.lifecycleColumns := by
  rw [Chassis.resaved]
  split
  next => rfl
  next =>
    rw [deriveLifecycleFields_stays hcoherent h, h, ← hcoherent]
    rfl

theorem resaved_enters {now : Time} {row : Chassis} {status : HardwareStatus}
    (hcoherent : row.Coherent) (hrow : row.status.isOperational = false)
    (h : status.isOperational = true) : (row.resaved now status).lifecycleColumns =
      (row.pk, true, some now, row.lastOfflineAt, row.totalUptimeMinutes) := by
  have hne : row.status ≠ status := by
    rintro rfl
    rw [hrow] at h
    cases h
  rw [Chassis.resaved, if_neg hne, deriveLifecycleFields_enters hcoherent hrow h]
  rfl

theorem resaved_leaves {now since : Time} {row : Chassis} {status : HardwareStatus}
    (hrow : row.status.isOperational = true) (h : status.isOperational = false)
    (hsince : row.lastOnlineAt = some since) : (row.resaved now status).lifecycleColumns =
      (row.pk, false, some since, some now,
        row.totalUptimeMinutes + elapsedMinutes now since) := by
  have hne : row.status ≠ status := by
    rintro rfl
    rw [hrow] at h
    cases h
  rw [Chassis.resaved, if_neg hne, deriveLifecycleFields_leaves hrow h hsince]
  simp only [Chassis.lifecycleColumns, Chassis.withStatus, hsince]

/-! ### The whole history -/

theorem elapsedMinutes_eq {now since : Time} (h : since ≤ now) :
    elapsedMinutes now since = wholeMinutes since now :=
  max_eq_right (Int.ediv_nonneg (Int.sub_nonneg.mpr h) (by decide))

theorem timeAt_mem {history : StatusHistory} {i : Nat} (h : i < history.length) :
    ∃ entry ∈ history, timeAt history i = entry.1 := by
  refine ⟨history[i], List.getElem_mem h, ?_⟩
  rw [timeAt, List.getElem?_eq_getElem h]
  rfl

theorem Accounted.not_upSince {history : StatusHistory} {row : Chassis} (h : Accounted history row)
    (hdown : row.status.isOperational = false) (i : Nat) : ¬UpSince history i := by
  intro hopen
  have hlast := hopen.last
  rw [h.current, hdown] at hlast
  cases hlast

theorem Accounted.lastOnlineAt {history : StatusHistory} {row : Chassis} (h : Accounted history row)
    {i : Nat} (hopen : UpSince history i) : row.lastOnlineAt = some (timeAt history i) := by
  have hup : row.status.isOperational = true := by
    rw [← h.current]
    exact hopen.last
  obtain ⟨j, hj, hsince⟩ := h.since hup
  rwa [hopen.unique hj]

/-- **One save carries the accounting on.** -/
theorem Accounted.save {now : Time} {history : StatusHistory} {row written : Chassis}
    {status : HardwareStatus} (h : Accounted history row)
    (hclock : ∀ entry ∈ history, entry.1 ≤ now) (hstatus : written.status = status)
    (hcolumns : written.lifecycleColumns = (row.resaved now status).lifecycleColumns) :
    Accounted (history ++ [(now, status)]) written := by
  have hcurrent : activeAt HardwareStatus.isOperational (history ++ [(now, status)])
      ((history ++ [(now, status)]).length - 1) = written.status.isOperational := by
    rw [List.length_append, List.length_singleton, Nat.add_sub_cancel, activeAt_length, hstatus]
  cases hup : row.status.isOperational with
  | false =>
      have hclosed := h.not_upSince hup
      have hsame : uptimeMinutes (history ++ [(now, status)]) = uptimeMinutes history :=
        periodSum_concat_of_not_open _ (.inr hclosed)
      cases hnew : status.isOperational with
      | false =>
          rw [resaved_stays h.coherent (hnew.trans hup.symm)] at hcolumns
          simp only [Chassis.lifecycleColumns, Prod.mk.injEq] at hcolumns
          obtain ⟨-, honline, -, -, huptime⟩ := hcolumns
          refine ⟨?_, hcurrent, ?_, ?_⟩
          · rw [Chassis.Coherent, honline, h.coherent, hup, hstatus, hnew]
          · rw [hstatus, hnew]
            intro hfalse
            cases hfalse
          · rw [huptime, hsame, h.uptime]
      | true =>
          rw [resaved_enters h.coherent hup hnew] at hcolumns
          simp only [Chassis.lifecycleColumns, Prod.mk.injEq] at hcolumns
          obtain ⟨-, honline, hon, -, huptime⟩ := hcolumns
          refine ⟨?_, hcurrent, fun _ => ?_, ?_⟩
          · rw [Chassis.Coherent, honline, hstatus, hnew]
          · refine ⟨history.length, ?_, ?_⟩
            · exact openPeriod_concat_of_inactive (.inr (h.current.trans hup)) hnew
            · rw [hon, timeAt_length]
          · rw [huptime, hsame, h.uptime]
  | true =>
      obtain ⟨i, hopen, hsince⟩ := h.since hup
      cases hnew : status.isOperational with
      | false =>
          rw [resaved_leaves hup hnew hsince] at hcolumns
          simp only [Chassis.lifecycleColumns, Prod.mk.injEq] at hcolumns
          obtain ⟨-, honline, -, -, huptime⟩ := hcolumns
          obtain ⟨entry, hentry, htime⟩ := timeAt_mem hopen.lt_length
          have hle : timeAt history i ≤ now := by
            rw [htime]
            exact hclock entry hentry
          refine ⟨?_, hcurrent, ?_, ?_⟩
          · rw [Chassis.Coherent, honline, hstatus, hnew]
          · rw [hstatus, hnew]
            intro hfalse
            cases hfalse
          · rw [huptime, elapsedMinutes_eq hle, h.uptime, uptimeMinutes, uptimeMinutes,
              periodSum_concat_of_open _ hopen hnew]
      | true =>
          rw [resaved_stays h.coherent (hnew.trans hup.symm)] at hcolumns
          simp only [Chassis.lifecycleColumns, Prod.mk.injEq] at hcolumns
          obtain ⟨-, honline, hon, -, huptime⟩ := hcolumns
          refine ⟨?_, hcurrent, fun _ => ?_, ?_⟩
          · rw [Chassis.Coherent, honline, h.coherent, hup, hstatus, hnew]
          · refine ⟨i, hopen.concat hnew, ?_⟩
            rw [hon, hsince, timeAt_concat hopen.lt_length]
          · rw [huptime, h.uptime, uptimeMinutes, uptimeMinutes,
              periodSum_concat_of_not_open _ (.inl hnew)]

theorem Accounted.create {now : Time} {db : Inventory} {chassis : Chassis}
    (hflag : chassis.status.isOperational = false → chassis.isOnline = false)
    (huptime : chassis.totalUptimeMinutes = 0) :
    Accounted [(now, chassis.status)] (startLifecycle now db chassis).stored := by
  have hsum : uptimeMinutes [(now, chassis.status)] = 0 := by
    have hnone : ∀ i, ¬UpSince [] i := fun i => not_openPeriod_nil
    calc uptimeMinutes ([] ++ [(now, chassis.status)])
        = periodSum wholeMinutes HardwareStatus.isOperational ([] : StatusHistory) :=
          periodSum_concat_of_not_open wholeMinutes (.inr hnone)
      _ = 0 := periodSum_nil wholeMinutes
  cases hup : chassis.status.isOperational with
  | false =>
      have hstart : startLifecycle now db chassis = { chassis with pk := db.nextPk } := by
        rw [startLifecycle, hup, if_neg Bool.false_ne_true]
      rw [hstart]
      refine ⟨?_, rfl, ?_, ?_⟩
      · rw [Chassis.Coherent, Chassis.stored, writeTo_isOnline, writeTo_status,
          if_pos (Column.mem_all _), if_pos (Column.mem_all _), hflag hup, hup]
      · rw [Chassis.stored, writeTo_status, if_pos (Column.mem_all _), hup]
        intro hfalse
        cases hfalse
      · rw [Chassis.stored, writeTo_totalUptimeMinutes, if_pos (Column.mem_all _), huptime, hsum]
  | true =>
      have hstart : startLifecycle now db chassis =
          { chassis with pk := db.nextPk, isOnline := true, lastOnlineAt := some now } := by
        rw [startLifecycle, hup, if_pos rfl]
      rw [hstart]
      refine ⟨?_, rfl, fun _ => ?_, ?_⟩
      · rw [Chassis.Coherent, Chassis.stored, writeTo_isOnline, writeTo_status,
          if_pos (Column.mem_all _), if_pos (Column.mem_all _), hup]
      · refine ⟨0, openPeriod_concat_of_inactive (.inl rfl) hup, ?_⟩
        rw [Chassis.stored, writeTo_lastOnlineAt, if_pos (Column.mem_all _)]
        rfl
      · rw [Chassis.stored, writeTo_totalUptimeMinutes, if_pos (Column.mem_all _), huptime, hsum]

theorem find_createChassis {now : Time} {db db' : Inventory} {chassis saved : Chassis}
    (h : db.Consistent) (hcreate : createChassis now db chassis = .ok (db', saved)) :
    db'.find saved.pk = some (startLifecycle now db chassis).stored := by
  obtain ⟨-, -, -, rfl, rfl⟩ := createChassis_eq_ok.mp hcreate
  have hconsistent := h.createChassis hcreate
  rw [hconsistent.find_eq_some]
  refine ⟨List.mem_append_right _ (List.mem_singleton_self _), ?_⟩
  rw [Chassis.stored, writeTo_pk]

theorem StatusRun.accounted {pk : Nat} {history : StatusHistory} {db : Inventory}
    (hrun : StatusRun pk history db) : ∀ {row}, db.find pk = some row → Accounted history row := by
  induction hrun with
  | create hconsistent hflag huptime hcreate hpk =>
      intro row hrow
      subst hpk
      rw [find_createChassis hconsistent hcreate] at hrow
      cases hrow
      exact Accounted.create hflag huptime
  | save hrun hclock hload hfields hsave ih =>
      intro row hrow
      obtain rfl := Inventory.find_pk hload
      obtain ⟨written, hwritten, hstatus, hcolumns⟩ := find_saveChassis_loaded hload hfields hsave
      rw [hwritten] at hrow
      cases hrow
      exact (ih hload).save hclock hstatus hcolumns
  | elsewhere hrun hsame ih =>
      intro row hrow
      rw [hsame] at hrow
      exact ih hrow

/-- **Uptime accounting.** After any history of status saves the stored total is the sum of the whole
minutes of the maximal closed periods in which the stored status was online or degraded. A further save
adds the minutes of the period it ends, once, and nothing when it ends none; one that stays within
online and degraded leaves the start of the open period where it was. -/
theorem uptime_accounting {pk : Nat} {history : StatusHistory} {db : Inventory} {row : Chassis}
    (hrun : StatusRun pk history db) (hload : db.find pk = some row) :
    row.totalUptimeMinutes = uptimeMinutes history ∧
    ∀ now status updateFields db' saved written, (∀ entry ∈ history, entry.1 ≤ now) →
      SavesStatus updateFields →
      saveChassis now db (row.withStatus status) updateFields = .ok (db', saved) →
      db'.find pk = some written →
      (∀ i, UpSince history i → status.isOperational = false → written.totalUptimeMinutes =
        row.totalUptimeMinutes + wholeMinutes (timeAt history i) now) ∧
      ((∀ i, ¬UpSince history i) ∨ status.isOperational = true →
        written.totalUptimeMinutes = row.totalUptimeMinutes) ∧
      (row.status.isOperational = true → status.isOperational = true →
        written.lastOnlineAt = row.lastOnlineAt) := by
  have haccounted := hrun.accounted hload
  refine ⟨haccounted.uptime, ?_⟩
  intro now status updateFields db' saved written hclock hfields hsave hwritten
  have hnext := (hrun.save hclock hload hfields hsave).accounted hwritten
  refine ⟨?_, ?_, ?_⟩
  · intro i hopen hdown
    rw [hnext.uptime, haccounted.uptime]
    exact periodSum_concat_of_open wholeMinutes hopen hdown
  · intro hopen
    rw [hnext.uptime, haccounted.uptime]
    exact periodSum_concat_of_not_open wholeMinutes hopen.symm
  · intro hup hstill
    obtain ⟨i, hopen, hsince⟩ := haccounted.since hup
    rw [hsince, hnext.lastOnlineAt (hopen.concat hstill), timeAt_concat hopen.lt_length]

/-- Online at minute one, degraded at two, offline at four: three minutes. -/
theorem uptime_accounting_offlineRack :
    ({ onlineRack with
        status := .offline
        isOnline := false
        lastOfflineAt := some 240000000
        totalUptimeMinutes := 3 } : Chassis).totalUptimeMinutes =
      uptimeMinutes [(0, .offline), (60000000, .online), (120000000, .degraded),
        (240000000, .offline)] := by
  have hcreate : createChassis 0 .empty (offlineRack 0) =
      .ok (rackInventory (offlineRack 1), offlineRack 1) := by decide +kernel
  have honline : saveChassis 60000000 (rackInventory (offlineRack 1))
      ((offlineRack 1).withStatus .online) (some [.status]) =
      .ok (rackInventory onlineRack, onlineRack) := by decide +kernel
  have hdegraded : saveChassis 120000000 (rackInventory onlineRack)
      (onlineRack.withStatus .degraded) none =
      .ok (rackInventory (onlineRack.withStatus .degraded), onlineRack.withStatus .degraded) := by
    decide +kernel
  have hoffline : saveChassis 240000000 (rackInventory (onlineRack.withStatus .degraded))
      ((onlineRack.withStatus .degraded).withStatus .offline) (some [.status]) =
      .ok (rackInventory
          { onlineRack with
            status := .offline
            isOnline := false
            lastOfflineAt := some 240000000
            totalUptimeMinutes := 3 },
        { onlineRack with
          status := .offline
          isOnline := false
          lastOfflineAt := some 240000000
          totalUptimeMinutes := 3 }) := by decide +kernel
  have hstart : Inventory.empty.Consistent := Inventory.consistent_of_chassis_nil rfl
  have hpartial : SavesStatus (some [.status]) := by simp [SavesStatus]
  have hfull : SavesStatus none := by simp [SavesStatus]
  have hrun : StatusRun 1 [(0, .offline), (60000000, .online), (120000000, .degraded),
      (240000000, .offline)] _ :=
    (((StatusRun.create hstart (fun _ => rfl) rfl hcreate rfl).save (by decide) rfl hpartial
      honline).save (by decide) rfl hfull hdegraded).save (by decide) rfl hpartial hoffline
  exact (uptime_accounting hrun rfl).1

end Micboard
