import Micboard.LibraryTable
import Micboard.LibraryTransaction

/-! The device quota of an organization under concurrent creates, updates and upserts of chassis. A
chassis belongs to the organization of its location's building. Each operation locks the organization of
the location it is given, counts the organization's chassis and writes its row; the locks of the
organization, of the row and of the row's identity are held until the transaction commits. Locations,
buildings and organizations do not change. A save that a hook or a constraint of another column refuses
is a transaction that is aborted. -/

namespace Micboard

open Library Library.Transaction

structure QuotaOrganization where
  pk : Nat
  maxDevices : Option Nat
  deriving DecidableEq, Repr

structure Location where
  pk : Nat
  organizationId : Option Nat
  deriving DecidableEq, Repr

/-- The tables that decide which organization a location belongs to. Organizations exist only where the
multitenancy application is installed. -/
structure Tenancy where
  isInstalled : Bool
  locations : List Location
  organizations : List QuotaOrganization
  unique : UniqueOn QuotaOrganization.pk organizations
  installed : ∀ organization ∈ organizations, isInstalled = true

/-- A chassis row or instance: its identity at its manufacturer, and its location. -/
structure PlacedChassis where
  pk : Nat
  manufacturer : Nat
  apiDeviceId : String
  location : Option Nat
  deriving DecidableEq, Repr

/-- The columns of the unique constraint. -/
def PlacedChassis.identity (chassis : PlacedChassis) : Nat × String :=
  (chassis.manufacturer, chassis.apiDeviceId)

/-- The fields a caller supplied that decide about quota and identity, `none` inside for a null; of the
others only that there are any. -/
structure PlacedWrite where
  manufacturer : Option (Option Nat) := none
  apiDeviceId : Option (Option String) := none
  ip : Option (Option String) := none
  location : Option (Option Nat) := none
  hasOtherFields : Bool := false

namespace PlacedWrite

def isEmpty (write : PlacedWrite) : Bool :=
  write.manufacturer.isNone && write.apiDeviceId.isNone && write.ip.isNone &&
    write.location.isNone && !write.hasOtherFields

/-- A column that may not be null is given a null. -/
def isRefused (write : PlacedWrite) : Bool :=
  write.manufacturer = some none || write.apiDeviceId = some none || write.ip = some none ||
    write.ip = some (some "")

/-- `values.pop("manufacturer", None)` and `values.pop("api_device_id", None)`. -/
def withoutIdentity (write : PlacedWrite) : PlacedWrite :=
  { write with manufacturer := none, apiDeviceId := none }

/-- `setattr(chassis, field, value)` for every supplied field. -/
def assignTo (write : PlacedWrite) (chassis : PlacedChassis) : PlacedChassis where
  pk := chassis.pk
  manufacturer := (write.manufacturer.getD none).getD chassis.manufacturer
  apiDeviceId := (write.apiDeviceId.getD none).getD chassis.apiDeviceId
  location := write.location.getD chassis.location

/-- The row after an `UPDATE` of the supplied columns, or of all of them. -/
def updateRow (write : PlacedWrite) (saveAllFields : Bool) (chassis row : PlacedChassis) :
    PlacedChassis where
  pk := row.pk
  manufacturer :=
    if saveAllFields || write.manufacturer.isSome then chassis.manufacturer else row.manufacturer
  apiDeviceId :=
    if saveAllFields || write.apiDeviceId.isSome then chassis.apiDeviceId else row.apiDeviceId
  location := if saveAllFields || write.location.isSome then chassis.location else row.location

end PlacedWrite

inductive QuotaLock where
  | organization (pk : Nat)
  | chassis (pk : Nat)
  | identity (identity : Nat × String)
  deriving DecidableEq

abbrev PlacedTable := List PlacedChassis

/-- The statements of a transaction on the chassis table. -/
abbrev QuotaProgram := Program PlacedTable QuotaLock

namespace Tenancy

variable (tenancy : Tenancy)

/-- The organization that the location with a key belongs to. -/
def organizationOf (location : Option Nat) : Option Nat :=
  location.bind fun pk =>
    (tenancy.locations.find? fun location => location.pk = pk).bind Location.organizationId

/-- Resolve persisted location ownership: `_organization_id_for_values`. -/
def organizationIdForValues (write : PlacedWrite) : Option Nat :=
  if tenancy.isInstalled then tenancy.organizationOf (write.location.getD none) else none

/-- The organization that `_locked_organization` finds. -/
def owningOrganization (write : PlacedWrite) : Option QuotaOrganization :=
  (tenancy.organizationIdForValues write).bind fun pk =>
    tenancy.organizations.find? fun organization => organization.pk = pk

def currentDevices (organization : Nat) (rows : PlacedTable) : Nat :=
  rows.countP fun row => tenancy.organizationOf row.location = some organization

/-- Read current ownership from the database: `_persisted_organization_id`. -/
def persistedOrganizationId (rows : PlacedTable) (chassisId : Option Nat) : Option Nat :=
  if tenancy.isInstalled then
    chassisId.bind fun pk =>
      (rows.find? fun row => row.pk = pk).bind fun row => tenancy.organizationOf row.location
  else none

/-- The row of an identity, as `manager.filter(**lookup).first()`. -/
def lookup (rows : PlacedTable) (identity : Nat × String) : Option PlacedChassis :=
  rows.find? fun row => row.identity = identity

end Tenancy

namespace OrganizationQuota

open Tenancy

variable (tenancy : Tenancy)

/-- Lock the owning organization for the complete window. -/
def lockedOrganization (write : PlacedWrite) (next : Option QuotaOrganization → QuotaProgram) :
    QuotaProgram :=
  match tenancy.owningOrganization write with
  | none => next none
  | some organization => .lock (.organization organization.pk) (next (some organization))

/-- Reject a new chassis of the organization above a finite quota. -/
def enforceCreateQuota (organization : Option QuotaOrganization) (next : QuotaProgram) : QuotaProgram :=
  match organization with
  | none => next
  | some organization =>
    match organization.maxDevices with
    | none => next
    | some maxDevices => .read fun rows =>
      if tenancy.currentDevices organization.pk rows + 1 ≤ maxDevices then next else .rollback

/-- The quota is enforced unless the chassis belongs to the organization already. -/
def enforceTransferQuota (organization : Option QuotaOrganization) (currentOrganizationId : Option Nat)
    (next : QuotaProgram) : QuotaProgram :=
  if organization.isSome ∧ currentOrganizationId ≠ organization.map QuotaOrganization.pk then
    enforceCreateQuota tenancy organization next
  else next

/-- `INSERT`, with what follows when the identity is taken. The sequence issues a key once. -/
def insertChassis (row : PlacedChassis) (next conflict : QuotaProgram) : QuotaProgram :=
  .lock (.chassis row.pk) <| .lock (.identity row.identity) <| .read fun rows =>
    if rows.any fun other => other.pk = row.pk then .rollback
    else if rows.any fun other => other.identity = row.identity then conflict
    else .write (fun rows => rows ++ [row]) next

/-- `UPDATE` of one row, which waits for the row and for the identity it gives to it. -/
def updateChassis (write : PlacedWrite) (saveAllFields : Bool) (chassis : PlacedChassis)
    (next : QuotaProgram) : QuotaProgram :=
  .lock (.chassis chassis.pk) <| .read fun rows =>
    match rows.find? fun row => row.pk = chassis.pk with
    | none => .rollback
    | some row =>
      let written := write.updateRow saveAllFields chassis row
      let update := Program.write (replaceRow PlacedChassis.pk written) next
      if written.identity = row.identity then update
      else .lock (.identity written.identity) <| .read fun rows =>
        if rows.any fun other => other.identity = written.identity then .rollback else update

/-- `create`. The instance gets the key `pk`. -/
def create (pk : Nat) (manufacturer : Option Nat) (write : PlacedWrite) : QuotaProgram :=
  match manufacturer.or (write.manufacturer.getD none) with
  | none => .rollback
  | some selected =>
    match write.apiDeviceId.getD none, write.ip.getD none with
    | some apiDeviceId, some ip =>
      if apiDeviceId = "" ∨ ip = "" then .rollback
      else lockedOrganization tenancy write fun organization =>
        enforceCreateQuota tenancy organization <|
          insertChassis ⟨pk, selected, apiDeviceId, write.location.getD none⟩ .commit .rollback
    | _, _ => .rollback

/-- `chassis.save()` after the assignments; an instance that is being added is inserted. -/
def persist (adding : Bool) (chassis : PlacedChassis) (write : PlacedWrite) (saveAllFields : Bool) :
    QuotaProgram :=
  if write.isRefused then .rollback
  else if adding then
    if saveAllFields then insertChassis (write.assignTo chassis) .commit .rollback else .rollback
  else updateChassis write saveAllFields (write.assignTo chassis) .commit

def update (adding : Bool) (chassis : PlacedChassis) (write : PlacedWrite) (saveAllFields : Bool) :
    QuotaProgram :=
  if write.isEmpty then .commit
  else if write.location.isNone then persist adding chassis write saveAllFields
  else lockedOrganization tenancy write fun organization => .read fun rows =>
    let currentOrganizationId :=
      tenancy.persistedOrganizationId rows (if adding then none else some chassis.pk)
    enforceTransferQuota tenancy organization currentOrganizationId <|
      persist adding chassis write saveAllFields

/-- `select_for_update().get()`: the row is looked up again once its lock is free. -/
def getForUpdate (identity : Nat × String) (found : PlacedChassis → QuotaProgram)
    (missing : QuotaProgram) : QuotaProgram :=
  .read fun rows =>
    match lookup rows identity with
    | none => missing
    | some row => .lock (.chassis row.pk) <| .read fun rows =>
      match rows.find? fun other => other.pk = row.pk ∧ other.identity = identity with
      | none => missing
      | some row => found row

/-- `update_or_create`. An insert that finds the identity taken looks the row up again. -/
def updateOrCreate (pk : Nat) (identity : Nat × String) (updateValues createdValues : PlacedWrite) :
    QuotaProgram :=
  let found := fun row =>
    if updateValues.isRefused then Program.rollback
    else updateChassis updateValues false (updateValues.assignTo row) .commit
  getForUpdate identity found <|
    if createdValues.isRefused || createdValues.ip.isNone then getForUpdate identity found .rollback
    else insertChassis ⟨pk, identity.1, identity.2, createdValues.location.getD none⟩ .commit
      (getForUpdate identity found .rollback)

/-- `upsert`. A chassis it creates gets the key `pk`. -/
def upsert (pk manufacturer : Nat) (apiDeviceId : String) (defaults : PlacedWrite)
    (createDefaults : Option PlacedWrite) : QuotaProgram :=
  if apiDeviceId = "" then .rollback
  else
    let updateValues := defaults.withoutIdentity
    let createdValues := (createDefaults.getD defaults).withoutIdentity
    lockedOrganization tenancy createdValues fun organization => .read fun rows =>
      let currentOrganizationId := (lookup rows (manufacturer, apiDeviceId)).bind fun row =>
        tenancy.organizationOf row.location
      enforceTransferQuota tenancy organization currentOrganizationId <|
        updateOrCreate pk (manufacturer, apiDeviceId) updateValues createdValues

end OrganizationQuota

/-- A call of the persistence service. -/
inductive QuotaCall where
  | create (pk : Nat) (manufacturer : Option Nat) (write : PlacedWrite)
  | update (adding : Bool) (chassis : PlacedChassis) (write : PlacedWrite) (saveAllFields : Bool)
  | upsert (pk manufacturer : Nat) (apiDeviceId : String) (defaults : PlacedWrite)
      (createDefaults : Option PlacedWrite)

def QuotaCall.program (tenancy : Tenancy) : QuotaCall → QuotaProgram
  | .create pk manufacturer write => OrganizationQuota.create tenancy pk manufacturer write
  | .update adding chassis write saveAllFields =>
    OrganizationQuota.update tenancy adding chassis write saveAllFields
  | .upsert pk manufacturer apiDeviceId defaults createDefaults =>
    OrganizationQuota.upsert tenancy pk manufacturer apiDeviceId defaults createDefaults

end Micboard
