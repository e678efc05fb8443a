import Micboard.AuditArchive
import Micboard.SecretRestoration

/-! What archiving keeps. One run that is not disturbed moves the expired logs from the table to a
file from which they can be read back. Runs that interleave with each other and with everything else
that writes the table, and that fail at any point, lose no log: what is not in the table is in a
file. And no file depends on a secret. -/

namespace Micboard.AuditService

open Library Library.Ranking Library.Csv

section Run

variable {format : ArchiveFormat} {call : ArchiveCall} {store : AuditStore} {cutoff : Time}
  {logs : List ActivityLog}
  {log : ActivityLog}

theorem mem_expired : log ∈ expired cutoff logs ↔ log ∈ logs ∧ log.createdAt < cutoff := by
  simp [expired]

theorem readExpired_eq : readExpired call store =
    (resolveRetentionDays call.retentionDays call.defaultDays).map fun days =>
      { cutoff := cutoffOf call.now days
        logIds := (expired (cutoffOf call.now days) store.logs).map ActivityLog.pk } := by
  unfold readExpired
  cases resolveRetentionDays call.retentionDays call.defaultDays <;> rfl

theorem readRows_archiveText : readRows excel (writeRows excel (archiveRows format logs)) =
    (fieldNames :: logs.map (cells format)).map (List.map String.toList) :=
  readRows_writeRows _

/-- The keys of the expired logs delete these and no others. -/
theorem filter_expired (hunique : UniqueOn ActivityLog.pk store.logs) :
    (store.logs.filter fun log => log.pk ∉ (expired cutoff store.logs).map ActivityLog.pk) =
      store.logs.filter fun log => ¬log.createdAt < cutoff := by
  apply List.filter_congr
  intro log hlog
  have hmem : log.pk ∈ (expired cutoff store.logs).map ActivityLog.pk ↔ log.createdAt < cutoff := by
    constructor
    · intro hpk
      obtain ⟨other, hother, heq⟩ := List.mem_map.mp hpk
      obtain ⟨hstored, hexpired⟩ := mem_expired.mp hother
      rwa [hunique.eq hstored hlog heq] at hexpired
    · exact fun hexpired => List.mem_map_of_mem (mem_expired.mpr ⟨hlog, hexpired⟩)
  simp [hmem]

/-- What a run that fails leaves: no file and no table is changed, a new file may be there. -/
structure Kept (store written : AuditStore) : Prop where
  files : ∀ file ∈ store.files, file ∈ written.files
  logs : written.logs = store.logs
  syncLogs : written.syncLogs = store.syncLogs
  healthLogs : written.healthLogs = store.healthLogs

/-- What a run that returns has written. -/
structure Written (format : ArchiveFormat) (call : ArchiveCall) (days : Int)
    (store written : AuditStore) (archived : Nat) (path : String) : Prop where
  files : ∀ file ∈ store.files, file ∈ written.files
  fresh : path ∉ store.files.map Prod.fst
  file : ∃ text, (path, text) ∈ written.files ∧
    readRows excel text =
      (fieldNames :: (expired (cutoffOf call.now days) store.logs).map (cells format)).map
      (List.map String.toList)
  logs : written.logs = store.logs.filter fun log => ¬log.createdAt < cutoffOf call.now days
  syncLogs : written.syncLogs = store.syncLogs
  healthLogs : written.healthLogs = store.healthLogs
  count : archived = (expired (cutoffOf call.now days) store.logs).length

/-- A run fails and keeps the tables, or returns and has taken the expired logs. -/
theorem archive_cases (hunique : UniqueOn ActivityLog.pk store.logs) :
    (∃ written error, archiveActivityLogs format call store = (written, .error error) ∧
      Kept store written) ∨
    ∃ days written archived path,
      resolveRetentionDays call.retentionDays call.defaultDays = .ok days ∧
      archiveActivityLogs format call store = (written, .ok (archived, path)) ∧
      Written format call days store written archived path := by
  have hadds : ∀ added : List (String × List Char),
      ∀ file ∈ store.files, file ∈ store.files ++ added :=
    fun _ file hfile => List.mem_append_left _ hfile
  unfold archiveActivityLogs
  rw [readExpired_eq]
  cases hdays : resolveRetentionDays call.retentionDays call.defaultDays with
  | error error => exact .inl ⟨_, error, rfl, ⟨fun file hfile => hfile, rfl, rfl, rfl⟩⟩
  | ok days =>
    simp only [Except.map, writeArchive]
    by_cases hexists : archiveFile format call.directory call.writtenAt ∈ store.files.map Prod.fst
    · simp only [if_pos hexists]
      exact .inl ⟨_, _, rfl, ⟨fun file hfile => hfile, rfl, rfl, rfl⟩⟩
    · simp only [if_neg hexists]
      cases hfault : call.fault with
      | some written => exact .inl ⟨_, _, rfl, ⟨hadds _, rfl, rfl, rfl⟩⟩
      | none =>
        simp only [deleteArchived]
        cases hfails : call.deleteFails with
        | true => exact .inl ⟨_, _, rfl, ⟨hadds _, rfl, rfl, rfl⟩⟩
        | false =>
          simp only [Bool.false_eq_true, if_false]
          refine .inr ⟨days, _, _, _, rfl, rfl, ⟨hadds _, hexists, ⟨_, ?_, readRows_archiveText⟩,
            filter_expired hunique, rfl, rfl, ?_⟩⟩
          · exact List.mem_append_right _ (List.mem_singleton_self _)
          · simp

/-- **An undisturbed run.** If it returns, its file is new and reads back as the header and the
expired logs in the order of their creation, exactly these logs are gone, and it returns their
number; otherwise the table is as it was. No file is ever changed. -/
theorem archive_activity_logs_spec (hunique : UniqueOn ActivityLog.pk store.logs) :
    (∀ file ∈ store.files, file ∈ (archiveActivityLogs format call store).1.files) ∧
    (∀ error, (archiveActivityLogs format call store).2 = .error error →
      (archiveActivityLogs format call store).1.logs = store.logs) ∧
    ∀ archived path, (archiveActivityLogs format call store).2 = .ok (archived, path) →
      ∃ days, resolveRetentionDays call.retentionDays call.defaultDays = .ok days ∧
        path ∉ store.files.map Prod.fst ∧
        (∃ text, (path, text) ∈ (archiveActivityLogs format call store).1.files ∧
          readRows excel text =
            (fieldNames :: (expired (cutoffOf call.now days) store.logs).map (cells format)).map
            (List.map String.toList)) ∧
        (archiveActivityLogs format call store).1.logs =
          (store.logs.filter fun log => ¬log.createdAt < cutoffOf call.now days) ∧
        archived = (expired (cutoffOf call.now days) store.logs).length := by
  rcases @archive_cases format call store hunique with
    ⟨written, error, hrun, hkept⟩ | ⟨days, written, archived, path, hdays, hrun, hwritten⟩
  · rw [hrun]
    exact ⟨hkept.files, fun _ _ => hkept.logs, nofun⟩
  · rw [hrun]
    refine ⟨hwritten.files, nofun, fun archived' path' hreturned => ?_⟩
    obtain ⟨rfl, rfl⟩ := Prod.mk.inj (Except.ok.inj hreturned)
    exact ⟨days, hdays, hwritten.fresh, hwritten.file, hwritten.logs, hwritten.count⟩

theorem writeArchive_files (call : ArchiveCall) (archive : Archive) (store : AuditStore) :
    ∃ added, (writeArchive format call archive store).1 =
      { store with files := store.files ++ added } := by
  unfold writeArchive
  by_cases hexists : archiveFile format call.directory call.writtenAt ∈ store.files.map Prod.fst
  · exact ⟨[], by simp [hexists]⟩
  · simp only [if_neg hexists]
    cases call.fault with
    | some written => exact ⟨_, rfl⟩
    | none => exact ⟨_, rfl⟩

theorem deleteArchived_cases (call : ArchiveCall) (archive : Archive) (store : AuditStore) :
    (deleteArchived call archive store).1 = store ∨ (deleteArchived call archive store).1 =
      { store with logs := store.logs.filter fun log => log.pk ∉ archive.logIds } := by
  unfold deleteArchived
  split
  next => exact .inl rfl
  next => exact .inr rfl

theorem resolveRetentionDays_some {days days' defaultDays : Int}
    (h : resolveRetentionDays (some days) defaultDays = .ok days') : 0 ≤ days ∧ days' = days := by
  unfold resolveRetentionDays at h
  simp only [Option.getD_some] at h
  split at h
  next => cases h
  next hdays => exact ⟨not_lt.mp hdays, (Except.ok.inj h).symm⟩

theorem resolveRetentionDays_of_nonneg {days : Int} (hdays : call.retentionDays = some days)
    (hpositive : 0 ≤ days) (defaultDays : Int) :
    resolveRetentionDays call.retentionDays defaultDays = .ok days := by
  rw [hdays]
  unfold resolveRetentionDays
  simp [not_lt.mpr hpositive]

/-- The three tables after the first `done` deletions of a command. -/
def tablesAfter (call : ArchiveCall) (sync health : PruneCall) (days : Int)
    (store : AuditStore) (done : Nat) :
    List ActivityLog × List ServiceSyncLog × List APIHealthLog :=
  (if 0 < done then store.logs.filter fun log =>
    ¬log.createdAt < cutoffOf call.now days else store.logs,
    if 1 < done then store.syncLogs.filter fun log =>
      ¬log.startedAt < cutoffOf sync.now days else store.syncLogs,
    if 2 < done then store.healthLogs.filter fun log => ¬log.timestamp < cutoffOf health.now days
      else store.healthLogs)

/-- The numbers that a command reports. -/
def deletedCounts (call : ArchiveCall) (sync health : PruneCall) (days : Int) (activityOnly : Bool)
    (store : AuditStore) : Nat × Option (Nat × Nat) :=
  ((expired (cutoffOf call.now days) store.logs).length,
    if activityOnly then none
    else some (store.syncLogs.countP fun log => log.startedAt < cutoffOf sync.now days,
      store.healthLogs.countP fun log => log.timestamp < cutoffOf health.now days))

/-- **One retention for three tables.** A command that has one stops behind one of its three
deletions, each of which takes exactly the expired rows of its table; it is through with all of them
exactly if it succeeds, and has begun with them only with the expired logs in a new file. -/
theorem handle_spec {days : Int} {activityOnly : Bool} {sync health : PruneCall}
    (hunique : UniqueOn ActivityLog.pk store.logs) (hdays : call.retentionDays = some days) :
    ∃ done ≤ (if activityOnly then 1 else 3),
      ((handle format call activityOnly sync health store).1.logs,
          (handle format call activityOnly sync health store).1.syncLogs,
          (handle format call activityOnly sync health store).1.healthLogs) =
        tablesAfter call sync health days store done ∧
      ((handle format call activityOnly sync health store).2 =
          .ok (deletedCounts call sync health days activityOnly store) ↔
            done = if activityOnly then 1 else 3) ∧
      (∀ counts, (handle format call activityOnly sync health store).2 = .ok counts →
        counts = deletedCounts call sync health days activityOnly store) ∧
      (0 < done → 0 ≤ days ∧ ∃ path ∉ store.files.map Prod.fst, ∃ text,
        (path, text) ∈ (handle format call activityOnly sync health store).1.files ∧
          readRows excel text =
            (fieldNames :: (expired (cutoffOf call.now days) store.logs).map (cells format)).map
            (List.map String.toList)) := by
  unfold handle
  rcases @archive_cases format call store hunique with
    ⟨written, error, harchive, hkept⟩ | ⟨days', written, archived, path, hresolved, harchive, hwritten⟩
  · rw [harchive]
    refine ⟨0, Nat.zero_le _, ?_, ?_, nofun, nofun⟩
    · rw [hkept.logs, hkept.syncLogs, hkept.healthLogs]
      rfl
    · cases activityOnly <;> simp
  · rw [harchive]
    rw [hdays] at hresolved
    obtain ⟨hpositive, rfl⟩ := resolveRetentionDays_some hresolved
    obtain ⟨-, hfresh, hfile, hlogs, hsync, hhealth, hcount⟩ := hwritten
    cases activityOnly with
    | true =>
      have hcounts : (archived, none) = deletedCounts call sync health days' true store := by
        rw [hcount]
        rfl
      refine ⟨1, le_rfl, ?_, iff_of_true (congrArg Except.ok hcounts) rfl, ?_, fun _ =>
        ⟨hpositive, path, hfresh, hfile⟩⟩
      · show (written.logs, written.syncLogs, written.healthLogs) = _
        rw [hlogs, hsync, hhealth]
        rfl
      · intro counts h
        exact (Except.ok.inj h).symm.trans hcounts
    | false =>
      simp only [Bool.false_eq_true, if_false, pruneServiceSyncLogs, pruneApiHealthLogs,
        resolveRetentionDays_of_nonneg hdays hpositive, prune]
      cases sync.deleteFails with
      | true =>
        refine ⟨1, by decide, ?_, iff_of_false nofun (by decide), nofun, fun _ =>
          ⟨hpositive, path, hfresh, hfile⟩⟩
        show (written.logs, written.syncLogs, written.healthLogs) = _
        rw [hlogs, hsync, hhealth]
        rfl
      | false =>
        cases health.deleteFails with
        | true =>
          refine ⟨2, by decide, ?_, iff_of_false nofun (by decide), nofun, fun _ =>
            ⟨hpositive, path, hfresh, hfile⟩⟩
          show (written.logs, written.syncLogs.filter _, written.healthLogs) = _
          rw [hlogs, hsync, hhealth]
          rfl
        | false =>
          have hcounts : (archived, some
              (written.syncLogs.countP fun log => log.startedAt < cutoffOf sync.now days',
              written.healthLogs.countP fun log => log.timestamp < cutoffOf health.now days')) =
              deletedCounts call sync health days' false store := by
            rw [hcount, hsync, hhealth]
            rfl
          refine ⟨3, le_rfl, ?_, iff_of_true (congrArg Except.ok hcounts) rfl, ?_, fun _ =>
            ⟨hpositive, path, hfresh, hfile⟩⟩
          · show (written.logs, written.syncLogs.filter _, written.healthLogs.filter _) = _
            rw [hlogs, hsync, hhealth]
            rfl
          · intro counts h
            exact (Except.ok.inj h).symm.trans hcounts

end Run

/-- An old log and a recent one. -/
def auditedStore : AuditStore where
  logs := [logRow asciiPolicyText 0 1
    { activityType := "crud", operation := "update", summary := "Renamed \"A\", B" },
    logRow asciiPolicyText 8640000000000 2
      { activityType := "sync", operation := "start", summary := "Sync" }]
  nextPk := 3

/-- The dates of the old log, and of a file written a hundred days later. -/
def auditedFormat : ArchiveFormat :=
  ⟨fun _ => "\x7b\x7d", fun _ => "1970-01-01 00:00:00+00:00", fun _ => "19700411T000000000000"⟩

def auditedCall : ArchiveCall := { now := 8640000000000, writtenAt := 8640000000000 }

theorem auditedStore_unique : UniqueOn ActivityLog.pk auditedStore.logs := by
  simp [UniqueOn, auditedStore, logRow]

theorem archive_activity_logs_spec_audited :
    (archiveActivityLogs auditedFormat auditedCall auditedStore).1.logs.map ActivityLog.pk = [2] ∧
      ∃ text, ("audit_archives/activity-logs-19700411T000000000000.csv", text) ∈
        (archiveActivityLogs auditedFormat auditedCall auditedStore).1.files ∧
          (readRows excel text).length = 2 := by
  have hresult : (archiveActivityLogs auditedFormat auditedCall auditedStore).2 =
      .ok (1, "audit_archives/activity-logs-19700411T000000000000.csv") := by rfl
  obtain ⟨-, -, hspec⟩ :=
    @archive_activity_logs_spec auditedFormat auditedCall auditedStore auditedStore_unique
  obtain ⟨days, hdays, -, ⟨text, hfile, hread⟩, hlogs, hcount⟩ := hspec _ _ hresult
  obtain rfl : 90 = days := Except.ok.inj hdays
  refine ⟨?_, text, hfile, ?_⟩
  · rw [hlogs]
    rfl
  · rw [hread, List.length_map, List.length_cons, List.length_map, ← hcount]

/-- A store with two rows of synchronization. -/
def prunedStore : AuditStore := { auditedStore with syncLogs := [⟨1, 0⟩, ⟨2, 8640000000000⟩] }

/-- The command with a retention of thirty days: it has gone through its three deletions. -/
theorem handle_spec_audited :
    (handle auditedFormat { auditedCall with retentionDays := some 30 } false ⟨8640000000000, 30, false⟩
      ⟨8640000000000, 7, false⟩ prunedStore).1.logs.map ActivityLog.pk = [2] ∧
    (handle auditedFormat { auditedCall with retentionDays := some 30 } false ⟨8640000000000, 30, false⟩
      ⟨8640000000000, 7, false⟩ prunedStore).1.syncLogs = [⟨2, 8640000000000⟩] := by
  obtain ⟨done, -, htables, hthrough, -, -⟩ :=
    @handle_spec auditedFormat { auditedCall with retentionDays := some 30 }
    prunedStore 30 false ⟨8640000000000, 30, false⟩ ⟨8640000000000, 7, false⟩ auditedStore_unique rfl
  obtain rfl : done = 3 := hthrough.mp rfl
  obtain ⟨hlogs, hrest⟩ := Prod.mk.inj htables
  obtain ⟨hsync, -⟩ := Prod.mk.inj hrest
  rw [hlogs, hsync]
  exact ⟨rfl, rfl⟩

/-- The store with the archive runs that are under way. -/
structure AuditWorld where
  store : AuditStore
  archives : Nat → Option (ArchiveCall × Archive) := fun _ => none

/-- What happens to the audit tables: calls that log, users and content types that are deleted, and
the three statements of the archive runs. The cached mode may be set to anything. Nothing else
writes a log. -/
inductive AuditEvent where
  | logActivity (now : Time) (call : LogCall)
  | setMode (logging : LoggingCache)
  | userDeleted (userId : Nat)
  | contentTypeDeleted (contentTypeId : Nat)
  | readExpired (run : Nat) (call : ArchiveCall)
  | writeArchive (run : Nat)
  | deleteArchived (run : Nat)

/-- `on_delete=SET_NULL`. -/
def unlink (column : Option Nat) (target : Nat) : Option Nat :=
  if column = some target then none else column

/-- The user or the content type of a log is taken from it. -/
def unlinkUser (userId : Nat) (log : ActivityLog) : ActivityLog :=
  { log with userId := unlink log.userId userId }

def unlinkContentType (contentTypeId : Nat) (log : ActivityLog) : ActivityLog :=
  { log with contentTypeId := unlink log.contentTypeId contentTypeId }

section World

variable (python : PolicyText) (format : ArchiveFormat)

/-- A run begins, unless its retention is refused. -/
def beginRun (run : Nat) (call : ArchiveCall) (world : AuditWorld) : AuditWorld :=
  match world.archives run, readExpired call world.store with
  | none, .ok archive =>
      { world with archives := Function.update world.archives run (some (call, archive)) }
  | none, .error _ | some _, _ => world

/-- A run writes its file, once; it ends if that fails. -/
def writeRun (run : Nat) (world : AuditWorld) : AuditWorld :=
  match world.archives run with
  | none => world
  | some (call, archive) =>
    if archive.file.isSome then world
    else
      let (store, result) := writeArchive format call archive world.store
      { store
        archives :=
          Function.update world.archives run (result.toOption.map fun archive => (call, archive)) }

/-- A run that has written its file deletes, and ends. -/
def deleteRun (run : Nat) (world : AuditWorld) : AuditWorld :=
  match world.archives run with
  | none => world
  | some (call, archive) =>
    if archive.file.isNone then world
    else
      { store := (deleteArchived call archive world.store).1,
        archives := Function.update world.archives run none }

def perform (world : AuditWorld) : AuditEvent → AuditWorld
  | .logActivity now call => { world with store := logActivity python now call world.store }
  | .setMode logging => { world with store := { world.store with logging } }
  | .userDeleted userId =>
    { world with store := { world.store with logs := world.store.logs.map (unlinkUser userId) } }
  | .contentTypeDeleted contentTypeId =>
    { world with
      store := { world.store with logs := world.store.logs.map (unlinkContentType contentTypeId) } }
  | .readExpired run call => beginRun run call world
  | .writeArchive run => writeRun format run world
  | .deleteArchived run => deleteRun run world

def performs (world : AuditWorld) (events : List AuditEvent) : AuditWorld :=
  events.foldl (perform python format) world

end World

/-- A log without its links, which may be taken from it. -/
def entry (log : ActivityLog) : ActivityLog := { log with userId := none, contentTypeId := none }

/-- Some file holds the line of the log, as it was linked when the file was written. -/
def Archived (format : ArchiveFormat) (files : List (String × List Char)) (log : ActivityLog) : Prop :=
  ∃ file ∈ files, ∃ version, entry version = entry log ∧
    (cells format version).map String.toList ∈ readRows excel file.2

/-- One of the events began to archive the logs of that time. -/
def ExpiresIn (events : List AuditEvent) (createdAt : Time) : Prop :=
  ∃ run call days, .readExpired run call ∈ events ∧
    resolveRetentionDays call.retentionDays call.defaultDays = .ok days ∧
      createdAt < cutoffOf call.now days

/-- What an archive run that is under way can rely on. -/
structure ArchiveSound (format : ArchiveFormat) (seen : List AuditEvent) (store : AuditStore)
    (archive : Archive) :
    Prop where
  begun : ∀ createdAt < archive.cutoff, ExpiresIn seen createdAt
  ids_below : ∀ pk ∈ archive.logIds, pk < store.nextPk
  ids_expired : ∀ log ∈ store.logs, log.pk ∈ archive.logIds → log.createdAt < archive.cutoff
  written : archive.file.isSome = true → ∀ log ∈ store.logs, log.pk ∈ archive.logIds →
    Archived format store.files log

/-- The keys of the table are unique, and the next one is free. -/
structure AuditStore.Valid (store : AuditStore) : Prop where
  pk_unique : UniqueOn ActivityLog.pk store.logs
  pk_below : ∀ log ∈ store.logs, log.pk < store.nextPk

structure Sound (format : ArchiveFormat) (seen : List AuditEvent) (world : AuditWorld) : Prop where
  valid : AuditStore.Valid world.store
  archives : ∀ run call archive, world.archives run = some (call, archive) →
    ArchiveSound format seen world.store archive

/-- What every event keeps: files stay, keys are not used again, and a log of a known key is the one
it was. -/
structure Evolves (store store' : AuditStore) : Prop where
  files : ∀ file ∈ store.files, file ∈ store'.files
  nextPk : store.nextPk ≤ store'.nextPk
  logs : ∀ log' ∈ store'.logs, (∃ log ∈ store.logs, entry log = entry log') ∨ store.nextPk ≤ log'.pk

section Evolution

variable {python : PolicyText} {format : ArchiveFormat} {store store' : AuditStore} {archive : Archive}
  {seen : List AuditEvent} {log log' : ActivityLog} {files : List (String × List Char)}
  {world : AuditWorld}
  {event : AuditEvent}

theorem pk_of_entry (h : entry log = entry log') : log.pk = log'.pk := by
  have hpk := congrArg ActivityLog.pk h
  exact hpk

theorem createdAt_of_entry (h : entry log = entry log') : log.createdAt = log'.createdAt := by
  have hcreated := congrArg ActivityLog.createdAt h
  exact hcreated

theorem Archived.of_entry (h : Archived format files log) (heq : entry log = entry log') :
    Archived format files log' := by
  obtain ⟨file, hfile, version, hversion, hline⟩ := h
  exact ⟨file, hfile, version, hversion.trans heq, hline⟩

theorem Archived.mono (h : Archived format store.files log) (hevolves : Evolves store store') :
    Archived format store'.files log := by
  obtain ⟨file, hfile, hline⟩ := h
  exact ⟨file, hevolves.files file hfile, hline⟩

theorem ExpiresIn.mono {createdAt : Time} (h : ExpiresIn seen createdAt) (event : AuditEvent) :
    ExpiresIn (seen ++ [event]) createdAt := by
  obtain ⟨run, call, days, hevent, hdays⟩ := h
  exact ⟨run, call, days, List.mem_append_left _ hevent, hdays⟩

/-- What happens to the store does not disturb a run that is under way. -/
theorem ArchiveSound.mono (h : ArchiveSound format seen store archive) (hevolves : Evolves store store')
    (event : AuditEvent) : ArchiveSound format (seen ++ [event]) store' archive := by
  have hold : ∀ log' ∈ store'.logs, log'.pk ∈ archive.logIds →
      ∃ log ∈ store.logs, entry log = entry log' ∧
      log.pk ∈ archive.logIds := by
    intro log' hlog' hpk
    rcases hevolves.logs log' hlog' with ⟨log, hlog, heq⟩ | hnew
    · exact ⟨log, hlog, heq, pk_of_entry heq ▸ hpk⟩
    · exact absurd (h.ids_below _ hpk) (by omega)
  refine ⟨fun createdAt hcreated => (h.begun createdAt hcreated).mono event,
    fun pk hpk => (h.ids_below pk hpk).trans_le hevolves.nextPk, fun log' hlog' hpk => ?_,
      fun hfile log' hlog' hpk => ?_⟩
  · obtain ⟨log, hlog, heq, hpk⟩ := hold log' hlog' hpk
    exact createdAt_of_entry heq ▸ h.ids_expired log hlog hpk
  · obtain ⟨log, hlog, heq, hpk⟩ := hold log' hlog' hpk
    exact ((h.written hfile log hlog hpk).of_entry heq).mono hevolves

theorem Evolves.of_subset (hfiles : ∀ file ∈ store.files, file ∈ store'.files)
    (hnext : store'.nextPk = store.nextPk)
    (hlogs : ∀ log ∈ store'.logs, log ∈ store.logs) : Evolves store store' :=
  ⟨hfiles, hnext.ge, fun log hlog => .inl ⟨log, hlogs log hlog, rfl⟩⟩

theorem Evolves.of_map {f : ActivityLog → ActivityLog} (h : ∀ log, entry (f log) = entry log) :
    Evolves store { store with logs := store.logs.map f } := by
  refine ⟨fun file hfile => hfile, le_rfl, fun log' hlog' => .inl ?_⟩
  obtain ⟨log, hlog, rfl⟩ := List.mem_map.mp hlog'
  exact ⟨log, hlog, (h log).symm⟩

theorem AuditStore.Valid.map {f : ActivityLog → ActivityLog} (hvalid : AuditStore.Valid store)
    (h : ∀ log, (f log).pk = log.pk) : AuditStore.Valid { store with logs := store.logs.map f } := by
  have hpks : (store.logs.map f).map ActivityLog.pk = store.logs.map ActivityLog.pk := by
    rw [List.map_map]
    exact List.map_congr_left fun log _ => h log
  refine ⟨?_, fun log' hlog' => ?_⟩
  · unfold UniqueOn
    rw [hpks]
    exact hvalid.pk_unique
  · obtain ⟨log, hlog, rfl⟩ := List.mem_map.mp hlog'
    rw [h]
    exact hvalid.pk_below log hlog

theorem logActivity_cases (python : PolicyText) (now : Time) (call : LogCall) (store : AuditStore) :
    (∃ logging, logActivity python now call store = { store with logging }) ∨
      ∃ logging, logActivity python now call store = { store with
        logs := store.logs ++
          [logRow python now store.nextPk call], nextPk := store.nextPk + 1, logging } := by
  unfold logActivity
  cases store.logging.getCurrentMode now with
  | mk current logging =>
    by_cases h : call.logMode.priority ≤ current.priority
    · exact .inr ⟨logging, by simp only [if_pos h]⟩
    · exact .inl ⟨logging, by simp only [if_neg h]⟩

/-- A file that was completed holds a line for every log that has expired. -/
theorem writeArchive_ok {call : ArchiveCall} {archive' : Archive}
    (h : (writeArchive format call archive store).2 = .ok archive') :
    archive'.cutoff = archive.cutoff ∧ archive'.logIds = archive.logIds ∧ archive'.file.isSome = true ∧
      ∀ log ∈ store.logs, log.createdAt < archive.cutoff →
        Archived format (writeArchive format call archive store).1.files log := by
  unfold writeArchive at h ⊢
  by_cases hexists : archiveFile format call.directory call.writtenAt ∈ store.files.map Prod.fst
  · simp [hexists] at h
  · cases hfault : call.fault with
    | some written => simp [hexists, hfault] at h
    | none =>
      simp only [if_neg hexists, hfault, Except.ok.injEq] at h ⊢
      subst h
      refine ⟨rfl, rfl, rfl, fun log hlog hcreated => ⟨_,
        List.mem_append_right _ (List.mem_singleton_self _), log, rfl, ?_⟩⟩
      rw [readRows_archiveText]
      exact List.mem_map_of_mem (List.mem_cons_of_mem _
        (List.mem_map_of_mem (mem_expired.mpr ⟨hlog, hcreated⟩)))

theorem beginRun_cases (run : Nat) (call : ArchiveCall)
    (world : AuditWorld) : beginRun run call world = world ∨
    ∃ archive, readExpired call world.store = .ok archive ∧
      beginRun run call world =
        { world with archives := Function.update world.archives run (some (call, archive)) } := by
  unfold beginRun
  split
  next archive _ hread => exact .inr ⟨archive, hread, rfl⟩
  next => exact .inl rfl
  next => exact .inl rfl

theorem writeRun_cases (run : Nat) (world : AuditWorld) : writeRun format run world = world ∨
    ∃ call archive, world.archives run = some (call, archive) ∧ writeRun format run world =
      { store := (writeArchive format call archive world.store).1
        archives := Function.update world.archives run
          ((writeArchive format call archive world.store).2.toOption.map fun archive =>
            (call, archive)) } := by
  unfold writeRun
  split
  next => exact .inl rfl
  next call archive harchive =>
    split
    next => exact .inl rfl
    next => exact .inr ⟨call, archive, harchive, rfl⟩

theorem deleteRun_cases (run : Nat) (world : AuditWorld) : deleteRun run world = world ∨
    ∃ call archive, world.archives run = some (call, archive) ∧ archive.file.isSome = true ∧
      deleteRun run world =
      { store := (deleteArchived call archive world.store).1,
        archives := Function.update world.archives run none } := by
  unfold deleteRun
  split
  next => exact .inl rfl
  next call archive harchive =>
    split
    next => exact .inl rfl
    next hfile =>
        exact .inr ⟨call, archive, harchive, by simpa [Option.isSome_iff_ne_none] using hfile, rfl⟩

theorem Evolves.refl (store : AuditStore) : Evolves store store :=
  .of_subset (fun _ hfile => hfile) rfl fun _ hlog => hlog

/-- No event takes a file away or reuses a key. -/
theorem perform_evolves (event : AuditEvent) : Evolves world.store
    (perform python format world event).store := by
  cases event with
  | logActivity now call =>
    show Evolves world.store (logActivity python now call world.store)
    rcases logActivity_cases python now call world.store with ⟨logging, h⟩ | ⟨logging, h⟩
    · rw [h]
      exact .of_subset (fun file hfile => hfile) rfl fun log hlog => hlog
    · rw [h]
      refine ⟨fun file hfile => hfile, Nat.le_succ _, fun log hlog => ?_⟩
      rcases List.mem_append.mp hlog with hold | hnew
      · exact .inl ⟨log, hold, rfl⟩
      · rw [List.mem_singleton.mp hnew]
        exact .inr le_rfl
  | setMode logging => exact .of_subset (fun file hfile => hfile) rfl fun log hlog => hlog
  | userDeleted userId => exact .of_map fun log => rfl
  | contentTypeDeleted contentTypeId => exact .of_map fun log => rfl
  | readExpired run call =>
    show Evolves world.store (beginRun run call world).store
    rcases beginRun_cases run call world with h | ⟨archive, -, h⟩
    · rw [h]
      exact .refl _
    · rw [h]
      exact .refl _
  | writeArchive run =>
    show Evolves world.store (writeRun format run world).store
    rcases @writeRun_cases format run world with h | ⟨call, archive, -, h⟩
    · rw [h]
      exact .refl _
    · obtain ⟨added, hadded⟩ := @writeArchive_files format call archive world.store
      rw [h, hadded]
      exact .of_subset (fun file hfile => List.mem_append_left _ hfile) rfl fun log hlog => hlog
  | deleteArchived run =>
    show Evolves world.store (deleteRun run world).store
    rcases deleteRun_cases run world with h | ⟨call, archive, -, -, h⟩
    · rw [h]
      exact .refl _
    · rw [h]
      rcases deleteArchived_cases call archive world.store with hkept | hdeleted
      · rw [hkept]
        exact .refl _
      · rw [hdeleted]
        exact .of_subset (fun file hfile => hfile) rfl fun log hlog => List.mem_of_mem_filter hlog

theorem perform_valid (hvalid : AuditStore.Valid world.store) (event : AuditEvent) :
    AuditStore.Valid (perform python format world event).store := by
  cases event with
  | logActivity now call =>
    show AuditStore.Valid (logActivity python now call world.store)
    rcases logActivity_cases python now call world.store with ⟨logging, h⟩ | ⟨logging, h⟩
    · rw [h]
      exact ⟨hvalid.pk_unique, hvalid.pk_below⟩
    · rw [h]
      have hfresh : ∀ log ∈ world.store.logs, log.pk ≠ world.store.nextPk := fun log hlog =>
        (hvalid.pk_below log hlog).ne
      refine ⟨hvalid.pk_unique.append_row hfresh, fun log hlog => ?_⟩
      rcases List.mem_append.mp hlog with hold | hnew
      · exact (hvalid.pk_below log hold).trans (Nat.lt_succ_self _)
      · rw [List.mem_singleton.mp hnew]
        exact Nat.lt_succ_self _
  | setMode logging => exact ⟨hvalid.pk_unique, hvalid.pk_below⟩
  | userDeleted userId => exact hvalid.map fun log => rfl
  | contentTypeDeleted contentTypeId => exact hvalid.map fun log => rfl
  | readExpired run call =>
    show AuditStore.Valid (beginRun run call world).store
    rcases beginRun_cases run call world with h | ⟨archive, -, h⟩
    · rwa [h]
    · rwa [h]
  | writeArchive run =>
    show AuditStore.Valid (writeRun format run world).store
    rcases @writeRun_cases format run world with h | ⟨call, archive, -, h⟩
    · rwa [h]
    · obtain ⟨added, hadded⟩ := @writeArchive_files format call archive world.store
      rw [h, hadded]
      exact ⟨hvalid.pk_unique, hvalid.pk_below⟩
  | deleteArchived run =>
    show AuditStore.Valid (deleteRun run world).store
    rcases deleteRun_cases run world with h | ⟨call, archive, -, -, h⟩
    · rwa [h]
    · rw [h]
      rcases deleteArchived_cases call archive world.store with hkept | hdeleted
      · rwa [hkept]
      · rw [hdeleted]
        exact ⟨hvalid.pk_unique.sublist (List.filter_sublist.map _),
          fun log hlog => hvalid.pk_below log (List.mem_of_mem_filter hlog)⟩

theorem archiveSound_readExpired {run : Nat} {call : ArchiveCall} (hvalid : AuditStore.Valid store)
    (h : readExpired call store = .ok archive) :
    ArchiveSound format (seen ++ [.readExpired run call]) store archive := by
  rw [readExpired_eq] at h
  cases hdays : resolveRetentionDays call.retentionDays call.defaultDays with
  | error error =>
    rw [hdays] at h
    cases h
  | ok days =>
    rw [hdays] at h
    cases h
    refine ⟨fun createdAt hcreated => ⟨run, call, days,
      List.mem_append_right _ (List.mem_singleton_self _), hdays,
      hcreated⟩, fun pk hpk => ?_, fun log hlog hpk => ?_, fun hfile => by cases hfile⟩
    · obtain ⟨log, hlog, rfl⟩ := List.mem_map.mp hpk
      exact hvalid.pk_below log (mem_expired.mp hlog).1
    · obtain ⟨other, hother, heq⟩ := List.mem_map.mp hpk
      obtain ⟨hstored, hexpired⟩ := mem_expired.mp hother
      rwa [hvalid.pk_unique.eq hstored hlog heq] at hexpired

theorem perform_sound (hsound : Sound format seen world) (event : AuditEvent) :
    Sound format (seen ++ [event]) (perform python format world event) := by
  have hevolves := @perform_evolves python format world event
  have hvalid := @perform_valid python format world hsound.valid event
  refine ⟨hvalid, fun run call archive harchive => ?_⟩
  have hother : world.archives run = some (call, archive) →
      ArchiveSound format (seen ++ [event]) (perform python format world event).store archive :=
    fun hrun => (hsound.archives run call archive hrun).mono hevolves event
  cases event with
  | logActivity now call => exact hother harchive
  | setMode logging => exact hother harchive
  | userDeleted userId => exact hother harchive
  | contentTypeDeleted contentTypeId => exact hother harchive
  | readExpired begun call' =>
    rcases beginRun_cases begun call' world with h | ⟨archive', hread, h⟩
    · apply hother
      rwa [perform, h] at harchive
    · have harchives : (perform python format world (.readExpired begun call')).archives =
          Function.update world.archives begun (some (call', archive')) :=
            congrArg AuditWorld.archives h
      by_cases hrun : run = begun
      · subst hrun
        rw [harchives, Function.update_self] at harchive
        obtain ⟨rfl, rfl⟩ := Prod.mk.inj (Option.some.inj harchive)
        rw [perform, h]
        exact archiveSound_readExpired hsound.valid hread
      · apply hother
        rwa [harchives, Function.update_of_ne hrun] at harchive
  | writeArchive writing =>
    rcases @writeRun_cases format writing world with h | ⟨call', archive', hrunning, h⟩
    · apply hother
      rwa [perform, h] at harchive
    · have harchives : (perform python format world (.writeArchive writing)).archives =
          Function.update world.archives writing
            ((writeArchive format call' archive' world.store).2.toOption.map
            fun archive => (call', archive)) := congrArg AuditWorld.archives h
      by_cases hrun : run = writing
      · subst hrun
        rw [harchives, Function.update_self] at harchive
        obtain ⟨completed, hok, hpair⟩ := Option.map_eq_some_iff.mp harchive
        obtain ⟨rfl, rfl⟩ := Prod.mk.inj hpair
        obtain ⟨hcutoff, hids, -, hlines⟩ := writeArchive_ok (toOption_eq_some.mp hok)
        have hbefore := (hsound.archives run call' archive' hrunning).mono hevolves (.writeArchive run)
        obtain ⟨added, hadded⟩ := @writeArchive_files format call' archive' world.store
        refine ⟨hcutoff ▸ hbefore.begun, hids ▸ hbefore.ids_below, fun log hlog hpk => ?_,
          fun _ log hlog hpk => ?_⟩
        · rw [hcutoff]
          exact hbefore.ids_expired log hlog (hids ▸ hpk)
        · have hexpired := hbefore.ids_expired log hlog (hids ▸ hpk)
          have hstored : log ∈ world.store.logs := by
            rw [perform, h, hadded] at hlog
            exact hlog
          rw [perform, h]
          exact hlines log hstored hexpired
      · apply hother
        rwa [harchives, Function.update_of_ne hrun] at harchive
  | deleteArchived deleting =>
    rcases deleteRun_cases deleting world with h | ⟨call', archive', hrunning, -, h⟩
    · apply hother
      rwa [perform, h] at harchive
    · have harchives : (perform python format world (.deleteArchived deleting)).archives =
          Function.update world.archives deleting none := congrArg AuditWorld.archives h
      by_cases hrun : run = deleting
      · rw [harchives, hrun, Function.update_self] at harchive
        cases harchive
      · apply hother
        rwa [harchives, Function.update_of_ne hrun] at harchive

/-- An event keeps a log, or the log has expired and a file holds its line. -/
theorem perform_keeps (hsound : Sound format seen world) (event : AuditEvent)
    (hlog : log ∈ world.store.logs) :
    (∃ version ∈ (perform python format world event).store.logs, entry log = entry version) ∨
      (Archived format (perform python format world event).store.files log ∧
        ExpiresIn seen log.createdAt) := by
  cases event with
  | logActivity now call =>
    left
    rcases logActivity_cases python now call world.store with ⟨logging, h⟩ | ⟨logging, h⟩
    · rw [perform, h]
      exact ⟨log, hlog, rfl⟩
    · rw [perform, h]
      exact ⟨log, List.mem_append_left _ hlog, rfl⟩
  | setMode logging => exact .inl ⟨log, hlog, rfl⟩
  | userDeleted userId => exact .inl ⟨_, List.mem_map_of_mem hlog, rfl⟩
  | contentTypeDeleted contentTypeId => exact .inl ⟨_, List.mem_map_of_mem hlog, rfl⟩
  | readExpired run call =>
    left
    rcases beginRun_cases run call world with h | ⟨archive, -, h⟩
    · rw [perform, h]
      exact ⟨log, hlog, rfl⟩
    · rw [perform, h]
      exact ⟨log, hlog, rfl⟩
  | writeArchive run =>
    left
    rcases @writeRun_cases format run world with h | ⟨call, archive, -, h⟩
    · rw [perform, h]
      exact ⟨log, hlog, rfl⟩
    · obtain ⟨added, hadded⟩ := @writeArchive_files format call archive world.store
      rw [perform, h, hadded]
      exact ⟨log, hlog, rfl⟩
  | deleteArchived run =>
    rcases deleteRun_cases run world with h | ⟨call, archive, hrunning, hfile, h⟩
    · rw [perform, h]
      exact .inl ⟨log, hlog, rfl⟩
    · rw [perform, h]
      rcases deleteArchived_cases call archive world.store with hkept | hdeleted
      · rw [hkept]
        exact .inl ⟨log, hlog, rfl⟩
      · rw [hdeleted]
        have hrun := hsound.archives run call archive hrunning
        by_cases hpk : log.pk ∈ archive.logIds
        · exact .inr ⟨hrun.written hfile log hlog hpk, hrun.begun _ (hrun.ids_expired log hlog hpk)⟩
        · exact .inl ⟨log, List.mem_filter.mpr ⟨hlog, by simpa using hpk⟩, rfl⟩

end Evolution

section Events

variable {python : PolicyText} {format : ArchiveFormat} {store : AuditStore} {world : AuditWorld}
  {seen events : List AuditEvent} {log : ActivityLog}

theorem performs_concat (event : AuditEvent) : performs python format world (events ++ [event]) =
    perform python format (performs python format world events) event :=
  List.foldl_concat _ _ _ _

theorem performs_sound (hvalid : AuditStore.Valid store) :
    Sound format events (performs python format { store } events) := by
  induction events using List.reverseRecOn with
  | nil => exact ⟨hvalid, fun run call archive h => by cases h⟩
  | append_singleton events event ih =>
    rw [performs_concat]
    exact perform_sound ih event

/-- **No log is lost**, in whatever order the statements of any number of runs, the calls that log
and the deletions of users come, and wherever a run fails: a log that was in the table at some time
is still there, but for its links, or it has expired for a run and a file holds its line. -/
theorem no_log_lost (hvalid : AuditStore.Valid store) (rest : List AuditEvent)
    (hlog : log ∈ (performs python format { store } seen).store.logs) :
    (∃ version ∈ (performs python format { store } (seen ++ rest)).store.logs, entry log =
      entry version) ∨
      (Archived format (performs python format { store } (seen ++ rest)).store.files log ∧
        ExpiresIn (seen ++ rest) log.createdAt) := by
  induction rest using List.reverseRecOn with
  | nil => exact .inl ⟨log, by rwa [List.append_nil], rfl⟩
  | append_singleton rest event ih =>
    have hsound : Sound format (seen ++ rest) (performs python format { store } (seen ++ rest)) :=
      performs_sound hvalid
    rw [← List.append_assoc, performs_concat]
    rcases ih with ⟨version, hversion, heq⟩ | ⟨harchived, hexpires⟩
    · rcases perform_keeps hsound event hversion with ⟨later, hlater, heq'⟩ | ⟨harchived, hexpires⟩
      · exact .inl ⟨later, hlater, heq.trans heq'⟩
      · refine .inr ⟨harchived.of_entry heq.symm, ?_⟩
        rw [createdAt_of_entry heq]
        exact hexpires.mono event
    · exact .inr ⟨harchived.mono (perform_evolves event), hexpires.mono event⟩

end Events

/-- A run during which a user is deleted. -/
def auditedEvents : List AuditEvent :=
  [.readExpired 4 auditedCall, .userDeleted 7, .writeArchive 4,
    .logActivity 8640000000001 { activityType := "crud", operation := "create", summary := "New" },
      .deleteArchived 4]

theorem no_log_lost_audited :
    Archived auditedFormat (performs asciiPolicyText auditedFormat
      ⟨auditedStore, fun _ => none⟩ auditedEvents).store.files
      (logRow asciiPolicyText 0 1
        { activityType := "crud", operation := "update", summary := "Renamed \"A\", B" }) := by
  have hvalid : AuditStore.Valid auditedStore :=
    ⟨auditedStore_unique, fun log hlog => by
      simp only [auditedStore, List.mem_cons, List.not_mem_nil, or_false] at hlog
      rcases hlog with rfl | rfl
      · decide
      · decide⟩
  have hpks : (performs asciiPolicyText auditedFormat
      ⟨auditedStore, fun _ => none⟩ auditedEvents).store.logs.map
      ActivityLog.pk = [2, 3] := by rfl
  rcases @no_log_lost asciiPolicyText auditedFormat auditedStore
    [] _ hvalid auditedEvents List.mem_cons_self with
    ⟨version, hversion, heq⟩ | ⟨harchived, -⟩
  · have hpk := List.mem_map_of_mem (f := ActivityLog.pk) hversion
    rw [List.nil_append, hpks, ← pk_of_entry heq] at hpk
    exact absurd hpk (by decide)
  · exact harchived

section Secrets

variable {python : PolicyText} {format : ArchiveFormat} {events events' : List AuditEvent}
  {world : AuditWorld}

/-- Metadata that is the same but for what it holds under secret keys. -/
def SameMetadata (python : PolicyText) (value value' : Option Json) : Prop :=
  Json.SameButSecrets python (value.getD (.object [])) (value'.getD (.object []))

/-- Calls that differ in the secrets of their metadata. -/
structure LogCall.SameButSecrets (python : PolicyText) (call call' : LogCall) : Prop where
  plain : { call with details := none, oldValues := none, newValues := none } =
    { call' with details := none, oldValues := none, newValues := none }
  details : SameMetadata python call.details call'.details
  oldValues : SameMetadata python call.oldValues call'.oldValues
  newValues : SameMetadata python call.newValues call'.newValues

inductive AuditEvent.SameButSecrets (python : PolicyText) : AuditEvent → AuditEvent → Prop where
  | logActivity {now : Time} {call call' : LogCall} (h : LogCall.SameButSecrets python call call') :
      SameButSecrets python (.logActivity now call) (.logActivity now call')
  | same (event : AuditEvent) : SameButSecrets python event event

theorem logRow_sameButSecrets {now : Time} {pk : Nat} {call call' : LogCall}
    (h : LogCall.SameButSecrets python call call') : logRow python now pk call =
      logRow python now pk call' := by
  obtain ⟨hplain, hdetails, hold, hnew⟩ := h
  simp only [LogCall.mk.injEq] at hplain
  simp only [logRow, jsonSafe, redactSecrets_sameButSecrets _ _ hdetails,
    redactSecrets_sameButSecrets _ _ hold,
    redactSecrets_sameButSecrets _ _ hnew, hplain]

/-- **Neither the table nor a file tells a secret.** -/
theorem archives_tell_no_secret (h : List.Forall₂ (AuditEvent.SameButSecrets python) events events') :
    performs python format world events = performs python format world events' := by
  induction h generalizing world with
  | nil => rfl
  | @cons event event' _ _ hevent _ ih =>
    have hstep : perform python format world event = perform python format world event' := by
      cases hevent with
      | same => rfl
      | @logActivity now call call' h =>
        have hmode : call.logMode = call'.logMode := by
          have hplain := h.plain
          simp only [LogCall.mk.injEq] at hplain
          exact hplain.2.2.2.2.2.2.2.2.2.2.2
        simp only [perform, logActivity, hmode, logRow_sameButSecrets h]
    show performs python format (perform python format world event) _ = _
    rw [hstep]
    exact ih

end Secrets

def secretCall (token : String) : LogCall where
  activityType := "crud"
  operation := "update"
  summary := "Changed manufacturer"
  details := some (.object [("apiToken", .text token), ("name", .text "Shure")])

theorem archives_tell_no_secret_token :
    performs asciiPolicyText auditedFormat ⟨auditedStore, fun _ => none⟩
      [.logActivity 5 (secretCall "first")] =
      performs asciiPolicyText auditedFormat ⟨auditedStore, fun _ => none⟩
        [.logActivity 5 (secretCall "second")] := by
  have hsecret : isSecret asciiPolicyText "apiToken" = true := by decide +kernel
  refine archives_tell_no_secret (.cons (.logActivity ⟨rfl, ?_, ?_, ?_⟩) .nil)
  · simp [SameMetadata, secretCall, Json.SameButSecrets, Json.SameFieldsButSecrets, hsecret]
  · simp [SameMetadata, secretCall, Json.SameButSecrets, Json.SameFieldsButSecrets]
  · simp [SameMetadata, secretCall, Json.SameButSecrets, Json.SameFieldsButSecrets]

end Micboard.AuditService
