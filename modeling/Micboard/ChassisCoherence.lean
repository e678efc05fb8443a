import Micboard.ChassisLifecycle

/-! Coherence of the online flag with the stored status over any sequence of creates and saves, through
fresh or stale instances. The save hook derives the flag from the in-memory status but persists it also
when the status itself is not among the written columns, so a stale instance breaks the agreement;
the runs in which no write does so keep it. -/

namespace Micboard

open Library

/-- A create or a save at some time through any in-memory instance. -/
inductive ChassisWrite where
  | create (now : Time) (chassis : Chassis)
  | save (now : Time) (chassis : Chassis) (updateFields : Option (List Column))

def ChassisWrite.apply (db : Inventory) : ChassisWrite → Except SaveError (Inventory × Chassis)
  | .create now chassis => createChassis now db chassis
  | .save now chassis updateFields => saveChassis now db chassis updateFields

/-- A successful write moves the inventory on; a failed one is rolled back. -/
def ChassisWrite.Step (allowed : Inventory → ChassisWrite → Prop) (db db' : Inventory) : Prop :=
  ∃ write saved, allowed db write ∧ ChassisWrite.apply db write = .ok (db', saved)

/-- A chassis is flagged online exactly when its stored status is operational. -/
def Chassis.Coherent (chassis : Chassis) : Prop :=
  chassis.isOnline = chassis.status.isOperational

def Inventory.Coherent (db : Inventory) : Prop := ∀ chassis ∈ db.chassis, chassis.Coherent

/-- The columns a lifecycle decision writes, with the key of their row. -/
def Chassis.lifecycleColumns (chassis : Chassis) :
    Nat × Bool × Option Time × Option Time × Int :=
  (chassis.pk, chassis.isOnline, chassis.lastOnlineAt, chassis.lastOfflineAt,
    chassis.totalUptimeMinutes)

/-- The writes that keep the flag coherent. A create with a status that is not operational leaves the
flag unset. A save whose in-memory status is the stored one does not write a wrong flag; one whose
in-memory status differs writes the status too, or stays on the same side of operational. -/
def KeepsCoherence (db : Inventory) : ChassisWrite → Prop
  | .create _ chassis => chassis.status.isOperational = false → chassis.isOnline = false
  | .save _ chassis updateFields =>
    updateFields ≠ some [] → ∀ previous, db.find chassis.pk = some previous →
      (previous.status = chassis.status →
        .isOnline ∈ updateFields.getD Column.all → chassis.Coherent) ∧
      (previous.status ≠ chassis.status → .status ∈ updateFields.getD Column.all ∨
        chassis.status.isOperational = previous.status.isOperational)

theorem coherent_updateRow {db : Inventory} (h : db.Coherent) {previous row : Chassis}
    (hprevious : previous ∈ db.chassis) (hpk : previous.pk = row.pk) :
    (db.updateRow row).Coherent ↔ row.Coherent := by
  constructor
  · intro hcoherent
    exact hcoherent row (mem_replaceRow_self Chassis.pk hprevious hpk)
  · intro hrow chassis hchassis
    rcases (mem_replaceRow Chassis.pk).mp hchassis with ⟨rfl, -⟩ | ⟨hmem, -⟩
    · exact hrow
    · exact h chassis hmem

/-- The row a save writes is coherent exactly when the save keeps coherence. -/
theorem LifecycleStep.coherent_iff {now : Time} {previous chassis saved : Chassis}
    {derived : List Column} (h : LifecycleStep now previous chassis saved derived)
    (hprevious : previous.Coherent) (fields : List Column) :
    (saved.writeTo (fields ++ derived) previous).Coherent ↔
      (previous.status = chassis.status → .isOnline ∈ fields → chassis.Coherent) ∧
      (previous.status ≠ chassis.status →
        .status ∈ fields ∨ chassis.status.isOperational = previous.status.isOperational) := by
  have hstatus : (saved.writeTo (fields ++ derived) previous).status =
      if .status ∈ fields then chassis.status else previous.status := by
    obtain ⟨isOnline, on, off, uptime, heq⟩ := h.written fields
    rw [heq, withLifecycle_status, writeTo_status]
  rw [Chassis.Coherent, hstatus]
  cases h with
  | unchanged h =>
      have hsame : (if Column.status ∈ fields then chassis.status else previous.status) =
          previous.status := by
        rw [← h, ite_self]
      rw [List.append_nil, writeTo_isOnline, hsame]
      by_cases honline : Column.isOnline ∈ fields
      · simp [honline, h, Chassis.Coherent]
      · simpa [honline, h, Chassis.Coherent] using hprevious
  | changed hne hallowed =>
      obtain ⟨on, off, uptime, heq⟩ := deriveLifecycleFields_eq now previous chassis
      have honline := (deriveLifecycleFields_columns now previous chassis).1
      rw [writeTo_isOnline, if_pos (List.mem_append_right _ honline), heq, withLifecycle_isOnline]
      by_cases hfields : Column.status ∈ fields <;> simp [hfields, hne]

theorem coherent_apply_iff {db db' : Inventory} (h : db.Coherent) {write : ChassisWrite}
    {saved : Chassis} (hok : write.apply db = .ok (db', saved)) :
    db'.Coherent ↔ KeepsCoherence db write := by
  cases write with
  | create now chassis =>
      obtain ⟨-, -, -, rfl, rfl⟩ := createChassis_eq_ok.mp hok
      have hrow : (startLifecycle now db chassis).stored.Coherent ↔
          (chassis.status.isOperational = false → chassis.isOnline = false) := by
        simp only [Chassis.Coherent, Chassis.stored, writeTo_isOnline, writeTo_status,
          Column.mem_all, if_true, startLifecycle]
        cases hoperational : chassis.status.isOperational <;> simp [hoperational]
      rw [KeepsCoherence, ← hrow]
      constructor
      · intro hcoherent
        exact hcoherent _ (List.mem_append_right _ (List.mem_singleton_self _))
      · intro hnew chassis' hmem
        rcases List.mem_append.mp hmem with hold | hsingle
        · exact h chassis' hold
        · rw [List.mem_singleton.mp hsingle]
          exact hnew
  | save now chassis updateFields =>
      by_cases hfields : updateFields = some []
      · subst hfields
        cases hok
        simp [KeepsCoherence, h]
      obtain ⟨previous, derived, hfind, -, hstep, -, -, rfl⟩ := (saveChassis_eq_ok hfields).mp hok
      have hmem := Inventory.find_mem hfind
      rw [coherent_updateRow h hmem (writeTo_pk _ _ _).symm, hstep.coherent_iff (h previous hmem)]
      simp [KeepsCoherence, hfields, hfind]

/-- Without the status among its columns, a save that stays on the same side of operational writes the
lifecycle columns as they were. -/
theorem LifecycleStep.lifecycleColumns_eq {now : Time} {previous chassis saved : Chassis}
    {derived fields : List Column} (h : LifecycleStep now previous chassis saved derived)
    (hprevious : previous.Coherent) (hfields : ∀ column ∈ derivedColumns, column ∉ fields)
    (hside : previous.status ≠ chassis.status →
      chassis.status.isOperational = previous.status.isOperational) :
    (saved.writeTo (fields ++ derived) previous).lifecycleColumns = previous.lifecycleColumns := by
  have h1 : Column.isOnline ∉ fields := hfields _ (by decide)
  have h2 : Column.lastOnlineAt ∉ fields := hfields _ (by decide)
  have h3 : Column.lastOfflineAt ∉ fields := hfields _ (by decide)
  have h4 : Column.totalUptimeMinutes ∉ fields := hfields _ (by decide)
  cases h with
  | unchanged h => simp [Chassis.lifecycleColumns, h1, h2, h3, h4]
  | changed hne hallowed =>
      have honline : chassis.status.isOperational = previous.isOnline :=
        (hside hne).trans hprevious.symm
      have hderived : (deriveLifecycleFields now previous chassis).2 = [.isOnline] := by
        apply deriveLifecycleFields_of_eq
        rw [← honline, hside hne, Bool.or_self]
      obtain ⟨on, off, uptime, heq⟩ := deriveLifecycleFields_eq now previous chassis
      rw [hderived, heq]
      simp [Chassis.lifecycleColumns, h2, h3, h4, honline]

/-- A save that names neither the status nor a derived column leaves the lifecycle columns of every
row alone exactly when it keeps coherence. -/
theorem lifecycleColumns_save_iff {db db' : Inventory} (hconsistent : db.Consistent)
    (h : db.Coherent) {now : Time} {chassis saved : Chassis} {fields : List Column}
    (hstatus : .status ∉ fields) (hderived : ∀ column ∈ derivedColumns, column ∉ fields)
    (hok : saveChassis now db chassis (some fields) = .ok (db', saved)) :
    db'.chassis.map Chassis.lifecycleColumns = db.chassis.map Chassis.lifecycleColumns ↔
      KeepsCoherence db (.save now chassis (some fields)) := by
  by_cases hempty : some fields = some []
  · have hdb : db' = db := by
      rw [saveChassis, if_pos hempty] at hok
      cases hok
      rfl
    simp [KeepsCoherence, hempty, hdb]
  obtain ⟨previous, derived, hfind, -, hstep, -, -, hdb⟩ := (saveChassis_eq_ok hempty).mp hok
  rw [Option.getD_some] at hdb
  have hmem := Inventory.find_mem hfind
  have honly : ∀ old ∈ db.chassis, old.pk = previous.pk → old = previous := fun old hold hpk =>
    hconsistent.pk_unique.eq hold hmem hpk
  constructor
  · intro hframe
    -- The written row keeps its status and its flag, so the inventory stays coherent.
    have hallowed : db'.Coherent ↔ KeepsCoherence db (.save now chassis (some fields)) :=
      coherent_apply_iff h hok
    rw [← hallowed, hdb, coherent_updateRow h hmem (writeTo_pk _ _ _).symm]
    have hrow : saved.writeTo (fields ++ derived) previous ∈ db'.chassis := by
      rw [hdb]
      exact mem_replaceRow_self Chassis.pk hmem (writeTo_pk _ _ _).symm
    have hcolumns := List.mem_map_of_mem (f := Chassis.lifecycleColumns) hrow
    rw [hframe, List.mem_map] at hcolumns
    obtain ⟨old, hold, heq⟩ := hcolumns
    simp only [Chassis.lifecycleColumns, Prod.mk.injEq] at heq
    obtain ⟨hpk, honline, -⟩ := heq
    rw [honly old hold hpk] at honline
    obtain ⟨isOnline, on, off, uptime, hwritten⟩ := hstep.written fields
    have hkept : (saved.writeTo (fields ++ derived) previous).status = previous.status := by
      rw [hwritten, withLifecycle_status, writeTo_status, if_neg hstatus]
    rw [Chassis.Coherent, ← honline, hkept]
    exact h previous hmem
  · intro hkeeps
    have hside := (hkeeps hempty previous hfind).2
    rw [hdb, Inventory.updateRow_chassis, replaceRow, List.map_map]
    apply List.map_congr_left
    intro old hold
    rw [Function.comp_apply, writeTo_pk]
    by_cases hpk : old.pk = previous.pk
    · rw [if_pos hpk, honly old hold hpk]
      refine hstep.lifecycleColumns_eq (h previous hmem) hderived fun hne => ?_
      exact (hside hne).resolve_left hstatus
    · exact congrArg _ (if_neg hpk)

theorem consistent_apply {db db' : Inventory} (h : db.Consistent) {write : ChassisWrite}
    {saved : Chassis} (hok : write.apply db = .ok (db', saved)) : db'.Consistent := by
  cases write with
  | create now chassis => exact h.createChassis hok
  | save now chassis updateFields => exact h.saveChassis hok

/-- Over any run of writes that keep coherence, from a table without chassis, the online flag of every
stored row agrees with its status. A further write keeps the agreement exactly when it is such a write,
and then a save that names neither the status nor a derived column leaves those columns alone. -/
theorem online_flag_coherent {start db : Inventory} (hstart : start.chassis = [])
    (hrun : Relation.ReflTransGen (ChassisWrite.Step KeepsCoherence) start db) :
    db.Coherent ∧
    (∀ write db' saved, ChassisWrite.apply db write = .ok (db', saved) →
      (db'.Coherent ↔ KeepsCoherence db write)) ∧
    (∀ now chassis fields db' saved, .status ∉ fields →
      (∀ column ∈ derivedColumns, column ∉ fields) →
      saveChassis now db chassis (some fields) = .ok (db', saved) →
      (db'.chassis.map Chassis.lifecycleColumns = db.chassis.map Chassis.lifecycleColumns ↔
        KeepsCoherence db (.save now chassis (some fields)))) := by
  have hinv : db.Consistent ∧ db.Coherent := by
    refine reachable_invariant (fun db => db.Consistent ∧ db.Coherent) ?_ ?_ hrun
    · rintro db db' ⟨hconsistent, hcoherent⟩ ⟨write, saved, hkeeps, hok⟩
      exact ⟨consistent_apply hconsistent hok, (coherent_apply_iff hcoherent hok).mpr hkeeps⟩
    · refine ⟨Inventory.consistent_of_chassis_nil hstart, ?_⟩
      simp [Inventory.Coherent, hstart]
  refine ⟨hinv.2, fun write db' saved hok => coherent_apply_iff hinv.2 hok, ?_⟩
  intro now chassis fields db' saved hstatus hderived hok
  exact lifecycleColumns_save_iff hinv.1 hinv.2 hstatus hderived hok

/-- An offline rack unit as it is created, and as an instance of its row. -/
def offlineRack (pk : Nat) : Chassis :=
  { Chassis.unsaved ⟨1, "shure", true⟩ with
    pk, apiDeviceId := "dev-1", ip := "10.0.0.1", status := .offline }

/-- Its row once it came online. -/
def onlineRack : Chassis :=
  { offlineRack 1 with status := .online, isOnline := true, lastOnlineAt := some 60000000 }

def rackInventory (row : Chassis) : Inventory := { chassis := [row], chargers := [], nextPk := 2 }

/-- A rack unit is created, comes online, and is renamed through an instance of its row. -/
theorem online_flag_coherent_onlineRack : (rackInventory onlineRack).Coherent ∧
    ∃ renamed saved, saveChassis 120000000 (rackInventory onlineRack) { onlineRack with name := "FOH" }
        (some [.name]) = .ok (renamed, saved) ∧
      renamed.chassis.map Chassis.lifecycleColumns = [onlineRack.lifecycleColumns] := by
  have hcreate : ChassisWrite.apply .empty (.create 0 (offlineRack 0)) =
      .ok (rackInventory (offlineRack 1), offlineRack 1) := by decide +kernel
  have honline : ChassisWrite.apply (rackInventory (offlineRack 1))
      (.save 60000000 { offlineRack 1 with status := .online } (some [.status])) =
      .ok (rackInventory onlineRack, onlineRack) := by decide +kernel
  have hstarts : KeepsCoherence .empty (.create 0 (offlineRack 0)) := fun _ => rfl
  have hkeeps : KeepsCoherence (rackInventory (offlineRack 1))
      (.save 60000000 { offlineRack 1 with status := .online } (some [.status])) := by
    intro _ previous hfind
    obtain rfl : offlineRack 1 = previous := Option.some.inj hfind
    exact ⟨fun hsame => absurd hsame (by decide), fun _ => .inl (by decide)⟩
  have hrun : Relation.ReflTransGen (ChassisWrite.Step KeepsCoherence) .empty
      (rackInventory onlineRack) :=
    (Relation.ReflTransGen.single ⟨_, _, hstarts, hcreate⟩).tail ⟨_, _, hkeeps, honline⟩
  obtain ⟨hcoherent, -, hframe⟩ := online_flag_coherent rfl hrun
  have hrename : (saveChassis 120000000 (rackInventory onlineRack) { onlineRack with name := "FOH" }
      (some [.name])).toBool = true := by decide +kernel
  obtain ⟨⟨renamed, saved⟩, hsaved⟩ := exists_eq_ok hrename
  refine ⟨hcoherent, renamed, saved, hsaved, (hframe _ _ _ _ _ (by decide) (by decide) hsaved).mpr ?_⟩
  intro _ previous hfind
  obtain rfl : onlineRack = previous := Option.some.inj hfind
  exact ⟨fun _ hnamed => absurd hnamed (by decide), fun hchanged => absurd rfl hchanged⟩

/-- A rename through an instance that was loaded while the device was offline clears the online flag of
the row that is stored as online. -/
theorem stale_rename_clears_online_flag :
    ¬ ∀ db, Relation.ReflTransGen (ChassisWrite.Step fun _ _ => True) .empty db →
      db.Coherent ∧
      ∀ now chassis fields db' saved, .status ∉ fields →
        (∀ column ∈ derivedColumns, column ∉ fields) →
        saveChassis now db chassis (some fields) = .ok (db', saved) →
        db'.chassis.map Chassis.lifecycleColumns = db.chassis.map Chassis.lifecycleColumns := by
  intro hclaim
  have hcreate : ChassisWrite.apply .empty (.create 0 (offlineRack 0)) =
      .ok (rackInventory (offlineRack 1), offlineRack 1) := by decide +kernel
  have honline : ChassisWrite.apply (rackInventory (offlineRack 1))
      (.save 60000000 { offlineRack 1 with status := .online } (some [.status])) =
      .ok (rackInventory onlineRack, onlineRack) := by decide +kernel
  have hrename : saveChassis 120000000 (rackInventory onlineRack)
      { offlineRack 1 with name := "FOH" } (some [.name]) =
      .ok (rackInventory
          { onlineRack with
            name := "FOH"
            isOnline := false
            lastOfflineAt := some 120000000
            totalUptimeMinutes := 1 },
        { offlineRack 1 with
          name := "FOH"
          lastOfflineAt := some 120000000
          totalUptimeMinutes := 1 }) := by decide +kernel
  have hreach : Relation.ReflTransGen (ChassisWrite.Step fun _ _ => True) .empty
      (rackInventory onlineRack) :=
    (Relation.ReflTransGen.single ⟨_, _, trivial, hcreate⟩).tail ⟨_, _, trivial, honline⟩
  have hframe := (hclaim _ hreach).2 _ _ _ _ _ (by decide) (by decide) hrename
  exact absurd hframe (by decide)

end Micboard
