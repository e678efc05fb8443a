import Micboard.LibraryCsv
import Micboard.LibraryRanking
import Micboard.SecretRedaction
import Micboard.BatteryWarnings

/-! Audit logs, their archive and their retention. An archive run reads the keys of the expired
logs, writes the logs it finds then to a new file, and deletes the keys it read; the three
statements are not one transaction. What `json`, `str` and `strftime` make of a value is a
parameter. Dates that lie outside of the calendar are left out. -/

namespace Micboard

open Library Library.Text Library.Ranking Library.Csv

structure ActivityLog where
  pk : Nat
  activityType : String
  operation : String
  userId : Option Nat
  serviceCode : String
  contentTypeId : Option Nat
  objectId : Option Nat
  summary : String
  details : Json
  oldValues : Json
  newValues : Json
  status : String
  errorMessage : String
  createdAt : Time
  updatedAt : Time
  ipAddress : Option String
  userAgent : String

/-- A row of the other two tables, with the column that its retention reads. -/
structure ServiceSyncLog where
  pk : Nat
  startedAt : Time
  deriving DecidableEq, Repr

structure APIHealthLog where
  pk : Nat
  timestamp : Time
  deriving DecidableEq, Repr

/-- The tables and the archive files, by their path. -/
structure AuditStore where
  logs : List ActivityLog := []
  nextPk : Nat := 1
  syncLogs : List ServiceSyncLog := []
  healthLogs : List APIHealthLog := []
  files : List (String × List Char) := []
  logging : LoggingCache := {}

/-- The arguments of `log_activity`: an object by its content type and key, a request by its address
and its agent. -/
structure LogCall where
  activityType : String
  operation : String
  summary : String
  actor : Option Nat := none
  obj : Option (Nat × Nat) := none
  details : Option Json := none
  oldValues : Option Json := none
  newValues : Option Json := none
  status : String := "success"
  errorMessage : Option String := none
  request : Option (Option String × Option String) := none
  logMode : LogMode := .normal

/-- `json`, `str` of a date, and the time stamp of a file name. -/
structure ArchiveFormat where
  dumps : Json → String
  strDatetime : Time → String
  strftime : Time → String

inductive ArchiveError where
  | negativeRetention
  | fileExists
  | io
  | database
  deriving DecidableEq, Repr

namespace AuditService

/-- Return redacted JSON-compatible audit metadata. -/
def jsonSafe (python : PolicyText) (value : Option Json) : Json :=
  redactSecrets python (value.getD (.object []))

/-- The row of a call, as the columns store it: an address is in its stored form and never empty. -/
def logRow (python : PolicyText) (now : Time) (pk : Nat) (call : LogCall) : ActivityLog where
  pk
  activityType := call.activityType
  operation := call.operation
  userId := call.actor
  serviceCode := ""
  contentTypeId := call.obj.map Prod.fst
  objectId := call.obj.map Prod.snd
  summary := String.ofList (call.summary.toList.take 255)
  details := jsonSafe python call.details
  oldValues := jsonSafe python call.oldValues
  newValues := jsonSafe python call.newValues
  status := call.status
  errorMessage := call.errorMessage.getD ""
  createdAt := now
  updatedAt := now
  ipAddress := ((call.request.bind Prod.fst).filter (· ≠ "")).map getPrepValue
  userAgent := String.ofList (((call.request.bind Prod.snd).getD "").toList.take 255)

/-- Create an activity log entry when the configured log mode permits it. -/
def logActivity (python : PolicyText) (now : Time) (call : LogCall) (store : AuditStore) : AuditStore :=
  let (current, logging) := store.logging.getCurrentMode now
  if call.logMode.priority ≤ current.priority then
    { store with logs := store.logs ++
      [logRow python now store.nextPk call], nextPk := store.nextPk + 1, logging }
  else { store with logging }

/-- Resolve and validate a retention period. -/
def resolveRetentionDays (retentionDays : Option Int) (defaultDays : Int) : Except ArchiveError Int :=
  let days := retentionDays.getD defaultDays
  if days < 0 then .error .negativeRetention else .ok days

/-- `now - timedelta(days=days)`. -/
def cutoffOf (now : Time) (days : Int) : Time := now - days * 86400000000

/-- The expired logs, in the order of their creation. -/
def expired (cutoff : Time) (logs : List ActivityLog) : List ActivityLog :=
  orderBy (fun log => toLex (log.createdAt, log.pk)) (logs.filter fun log => log.createdAt < cutoff)

def excel : Dialect Char := ⟨',', '"', '\r', '\n', by decide⟩

def fieldNames : List String :=
  ["id", "activity_type", "operation", "user_id", "service_code", "content_type_id",
    "object_id", "summary",
    "details", "old_values", "new_values", "status", "error_message", "created_at",
      "updated_at", "ip_address",
    "user_agent"]

/-- `str(value)` of a number that may be null. -/
def numberCell (value : Option Nat) : String := (value.map fun n => String.ofList (decimal n)).getD ""

/-- The line of a log, in the order of the field names. -/
def cells (format : ArchiveFormat) (log : ActivityLog) : List String :=
  [numberCell (some log.pk), log.activityType, log.operation, numberCell log.userId, log.serviceCode,
    numberCell log.contentTypeId, numberCell log.objectId, log.summary, format.dumps log.details,
    format.dumps log.oldValues, format.dumps log.newValues, log.status, log.errorMessage,
    format.strDatetime log.createdAt, format.strDatetime log.updatedAt,
      log.ipAddress.getD "", log.userAgent]

def archiveRows (format : ArchiveFormat) (logs : List ActivityLog) : List (List (List Char)) :=
  (fieldNames :: logs.map (cells format)).map (List.map String.toList)

def archiveFile (format : ArchiveFormat) (directory : String) (now : Time) : String :=
  directory ++ "/activity-logs-" ++ format.strftime now ++ ".csv"

/-- A run between its statements: what it read, and the file that it completed. -/
structure Archive where
  cutoff : Time
  logIds : List Nat
  file : Option String := none
  deriving DecidableEq, Repr

/-- The call of an archive run, and what it meets: `fault` is the number of characters after which a
write fails. -/
structure ArchiveCall where
  retentionDays : Option Int := none
  defaultDays : Int := 90
  directory : String := "audit_archives"
  now : Time
  writtenAt : Time
  fault : Option Nat := none
  deleteFails : Bool := false
  deriving DecidableEq, Repr

def readExpired (call : ArchiveCall) (store : AuditStore) : Except ArchiveError Archive := do
  let days ← resolveRetentionDays call.retentionDays call.defaultDays
  let cutoff := cutoffOf call.now days
  .ok { cutoff, logIds := (expired cutoff store.logs).map ActivityLog.pk }

/-- The file, which must be new. A write that fails leaves what was written before. -/
def writeArchive (format : ArchiveFormat) (call : ArchiveCall) (archive : Archive)
    (store : AuditStore) :
    AuditStore × Except ArchiveError Archive :=
  let path := archiveFile format call.directory call.writtenAt
  if path ∈ store.files.map Prod.fst then (store, .error .fileExists)
  else
    let text := writeRows excel (archiveRows format (expired archive.cutoff store.logs))
    match call.fault with
    | some written => ({ store with files := store.files ++ [(path, text.take written)] }, .error .io)
    | none => ({ store with files := store.files ++ [(path, text)] }, .ok
      { archive with file := some path })

/-- The deletion of the keys that were read. -/
def deleteArchived (call : ArchiveCall) (archive : Archive) (store : AuditStore) :
    AuditStore × Except ArchiveError (Nat × String) :=
  if call.deleteFails then (store, .error .database)
  else ({ store with logs := store.logs.filter fun log => log.pk ∉ archive.logIds },
    .ok (archive.logIds.length, archive.file.getD ""))

/-- Archive expired activity logs to CSV, then delete archived rows. -/
def archiveActivityLogs (format : ArchiveFormat) (call : ArchiveCall) (store : AuditStore) :
    AuditStore × Except ArchiveError (Nat × String) :=
  match readExpired call store with
  | .error error => (store, .error error)
  | .ok archive =>
    match writeArchive format call archive store with
    | (store, .error error) => (store, .error error)
    | (store, .ok archive) => deleteArchived call archive store

/-! ### Retention -/

/-- The rows that are kept, and how many are deleted. -/
def prune {α : Type} (column : α → Time) (cutoff : Time) (rows : List α) : List α × Nat :=
  (rows.filter fun row => ¬column row < cutoff, rows.countP fun row => column row < cutoff)

structure PruneCall where
  now : Time
  defaultDays : Int
  deleteFails : Bool := false

/-- Delete expired service-sync logs and return deleted row count. -/
def pruneServiceSyncLogs (call : PruneCall) (retentionDays : Option Int) (store : AuditStore) :
    AuditStore × Except ArchiveError Nat :=
  match resolveRetentionDays retentionDays call.defaultDays with
  | .error error => (store, .error error)
  | .ok days =>
    if call.deleteFails then (store, .error .database)
    else
      let (syncLogs, deleted) := prune ServiceSyncLog.startedAt (cutoffOf call.now days) store.syncLogs
      ({ store with syncLogs }, .ok deleted)

/-- Delete expired API-health logs and return deleted row count. -/
def pruneApiHealthLogs (call : PruneCall) (retentionDays : Option Int) (store : AuditStore) :
    AuditStore × Except ArchiveError Nat :=
  match resolveRetentionDays retentionDays call.defaultDays with
  | .error error => (store, .error error)
  | .ok days =>
    if call.deleteFails then (store, .error .database)
    else
      let (healthLogs, deleted) :=
        prune APIHealthLog.timestamp (cutoffOf call.now days) store.healthLogs
      ({ store with healthLogs }, .ok deleted)

/-- The command, which prunes unless it is told to archive only; its overridden retention goes to
all three. Its statements are not one transaction. -/
def handle (format : ArchiveFormat) (call : ArchiveCall) (activityOnly : Bool) (sync health : PruneCall)
    (store : AuditStore) : AuditStore × Except ArchiveError (Nat × Option (Nat × Nat)) :=
  match archiveActivityLogs format call store with
  | (store, .error error) => (store, .error error)
  | (store, .ok (archived, _)) =>
    if activityOnly then (store, .ok (archived, none))
    else
      match pruneServiceSyncLogs sync call.retentionDays store with
      | (store, .error error) => (store, .error error)
      | (store, .ok syncCount) =>
        match pruneApiHealthLogs health call.retentionDays store with
        | (store, .error error) => (store, .error error)
        | (store, .ok healthCount) => (store, .ok (archived, some (syncCount, healthCount)))

end AuditService

end Micboard
