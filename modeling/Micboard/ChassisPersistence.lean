import Micboard.ChassisLifecycle
import Micboard.HardwarePayload
import Micboard.IdentityCheck

/-! Creating and updating chassis. A write names exactly the fields it was given; an update assigns them
to the in-memory instance and saves those columns. Locations and the quotas that depend on them are not
part of the model: none of the paths here gives a chassis a location. -/

namespace Micboard

open Library Library.Text

/-- One field a caller supplied. -/
inductive FieldValue where
  | manufacturer (value : Manufacturer)
  | apiDeviceId (value : String)
  | ip (value : String)
  | serialNumber (value : String)
  | macAddress (value : Option String)
  | name (value : String)
  | fqdn (value : String)
  | model (value : String)
  | role (value : String)
  | firmwareVersion (value : String)
  | hostedFirmwareVersion (value : String)
  | description (value : String)
  | subnetMask (value : Option String)
  | gateway (value : Option String)
  | networkMode (value : String)
  | interfaceId (value : String)
  | status (value : HardwareStatus)
  | isOnline (value : Bool)
  | lastSeen (value : Option Time)
  deriving DecidableEq, Repr

namespace FieldValue

def column : FieldValue → Column
  | manufacturer _ => .manufacturer
  | apiDeviceId _ => .apiDeviceId
  | ip _ => .ip
  | serialNumber _ => .serialNumber
  | macAddress _ => .macAddress
  | name _ => .name
  | fqdn _ => .fqdn
  | model _ => .model
  | role _ => .role
  | firmwareVersion _ => .firmwareVersion
  | hostedFirmwareVersion _ => .hostedFirmwareVersion
  | description _ => .description
  | subnetMask _ => .subnetMask
  | gateway _ => .gateway
  | networkMode _ => .networkMode
  | interfaceId _ => .interfaceId
  | status _ => .status
  | isOnline _ => .isOnline
  | lastSeen _ => .lastSeen

/-- `setattr(chassis, field, value)`. -/
def assign (chassis : Chassis) : FieldValue → Chassis
  | manufacturer value => { chassis with manufacturer := value }
  | apiDeviceId value => { chassis with apiDeviceId := value }
  | ip value => { chassis with ip := value }
  | serialNumber value => { chassis with serialNumber := value }
  | macAddress value => { chassis with macAddress := value }
  | name value => { chassis with name := value }
  | fqdn value => { chassis with fqdn := value }
  | model value => { chassis with model := value }
  | role value => { chassis with role := value }
  | firmwareVersion value => { chassis with firmwareVersion := value }
  | hostedFirmwareVersion value => { chassis with hostedFirmwareVersion := value }
  | description value => { chassis with description := value }
  | subnetMask value => { chassis with subnetMask := value }
  | gateway value => { chassis with gateway := value }
  | networkMode value => { chassis with networkMode := value }
  | interfaceId value => { chassis with interfaceId := value }
  | status value => { chassis with status := value }
  | isOnline value => { chassis with isOnline := value }
  | lastSeen value => { chassis with lastSeen := value }

/-- Validation strips the text of a field. -/
def validated : FieldValue → FieldValue
  | manufacturer value => manufacturer value
  | apiDeviceId value => apiDeviceId (trim value)
  | ip value => ip (trim value)
  | serialNumber value => serialNumber (trim value)
  | macAddress value => macAddress (value.map trim)
  | name value => name (trim value)
  | fqdn value => fqdn (trim value)
  | model value => model (trim value)
  | role value => role (trim value)
  | firmwareVersion value => firmwareVersion (trim value)
  | hostedFirmwareVersion value => hostedFirmwareVersion (trim value)
  | description value => description (trim value)
  | subnetMask value => subnetMask (value.map trim)
  | gateway value => gateway (value.map trim)
  | networkMode value => networkMode (trim value)
  | interfaceId value => interfaceId (trim value)
  | status value => status value
  | isOnline value => isOnline value
  | lastSeen value => lastSeen value

@[simp] theorem validated_column (value : FieldValue) : value.validated.column = value.column := by
  cases value <;> rfl

end FieldValue

/-- The fields a caller supplied, validated. -/
abbrev WirelessChassisWrite := List FieldValue

def WirelessChassisWrite.ofValues (values : List FieldValue) : WirelessChassisWrite :=
  values.map FieldValue.validated

def WirelessChassisWrite.columns (write : WirelessChassisWrite) : List Column :=
  write.map FieldValue.column

def WirelessChassisWrite.assignTo (write : WirelessChassisWrite) (chassis : Chassis) : Chassis :=
  write.foldl FieldValue.assign chassis

def WirelessChassisWrite.namedManufacturer (write : WirelessChassisWrite) : Option Manufacturer :=
  write.reverse.findSome? fun
    | .manufacturer value => some value
    | _ => none

def WirelessChassisWrite.withoutManufacturer (write : WirelessChassisWrite) :
    WirelessChassisWrite :=
  write.filter fun value => value.column ≠ .manufacturer

/-- The columns by which chassis are told apart and the status. -/
def keyColumns : List Column := [.manufacturer, .apiDeviceId, .serialNumber, .ip, .status]

/-- The two instances agree on their primary key and on those columns. -/
structure SameKeys (a b : Chassis) : Prop where
  pk : a.pk = b.pk
  manufacturer : a.manufacturer = b.manufacturer
  apiDeviceId : a.apiDeviceId = b.apiDeviceId
  serialNumber : a.serialNumber = b.serialNumber
  ip : a.ip = b.ip
  status : a.status = b.status

theorem SameKeys.refl (a : Chassis) : SameKeys a a := ⟨rfl, rfl, rfl, rfl, rfl, rfl⟩

theorem SameKeys.trans {a b c : Chassis} (h : SameKeys a b) (h' : SameKeys b c) : SameKeys a c :=
  ⟨h.pk.trans h'.pk, h.manufacturer.trans h'.manufacturer, h.apiDeviceId.trans h'.apiDeviceId,
    h.serialNumber.trans h'.serialNumber, h.ip.trans h'.ip, h.status.trans h'.status⟩

/-- Fields of other columns leave the key columns alone. -/
theorem assignTo_sameKeys {write : WirelessChassisWrite} (chassis : Chassis)
    (h : ∀ value ∈ write, value.column ∉ keyColumns) :
    SameKeys (write.assignTo chassis) chassis := by
  induction write generalizing chassis with
  | nil => exact .refl chassis
  | cons value rest ih =>
      have hstep : SameKeys (value.assign chassis) chassis := by
        have hcolumn := h value List.mem_cons_self
        revert hcolumn
        cases value with
        | manufacturer | apiDeviceId | ip | serialNumber | status =>
            exact fun h => by simp [FieldValue.column, keyColumns] at h
        | _ => exact fun _ => ⟨rfl, rfl, rfl, rfl, rfl, rfl⟩
      exact (ih (value.assign chassis) fun other hother =>
        h other (List.mem_cons_of_mem _ hother)).trans hstep

theorem assignTo_append (first second : WirelessChassisWrite) (chassis : Chassis) :
    WirelessChassisWrite.assignTo (first ++ second) chassis =
      WirelessChassisWrite.assignTo second (WirelessChassisWrite.assignTo first chassis) :=
  List.foldl_append

/-- The manufacturer a write names is the only thing its manufacturer fields are for. -/
theorem assignTo_eq_withoutManufacturer (write : WirelessChassisWrite) (chassis : Chassis) :
    write.assignTo chassis = { write.withoutManufacturer.assignTo chassis with
      manufacturer := write.namedManufacturer.getD chassis.manufacturer } := by
  induction write using List.reverseRecOn with
  | nil => rfl
  | append_singleton write value ih =>
      rw [assignTo_append, ih]
      cases value with
      | manufacturer selected =>
          simp [WirelessChassisWrite.assignTo, WirelessChassisWrite.withoutManufacturer,
            WirelessChassisWrite.namedManufacturer, FieldValue.column, FieldValue.assign]
      | _ =>
          simp [WirelessChassisWrite.assignTo, WirelessChassisWrite.withoutManufacturer,
            WirelessChassisWrite.namedManufacturer, FieldValue.column, FieldValue.assign]

/-- What no field of a write changes, the write leaves alone. -/
theorem assignTo_unchanged {α : Type} (read : Chassis → α) {write : WirelessChassisWrite}
    (chassis : Chassis)
    (h : ∀ value ∈ write, ∀ other, read (value.assign other) = read other) :
    read (write.assignTo chassis) = read chassis := by
  induction write generalizing chassis with
  | nil => rfl
  | cons value rest ih =>
      exact (ih (value.assign chassis) fun other hother =>
        h other (List.mem_cons_of_mem _ hother)).trans
        (h value List.mem_cons_self chassis)

theorem assignTo_manufacturer {write : WirelessChassisWrite} (chassis : Chassis)
    (h : ∀ value ∈ write, value.column ≠ .manufacturer) :
    (write.assignTo chassis).manufacturer = chassis.manufacturer := by
  refine assignTo_unchanged Chassis.manufacturer chassis fun value hvalue other => ?_
  have hcolumn := h value hvalue
  cases value with
  | manufacturer => exact absurd rfl hcolumn
  | _ => rfl

/-- An unsaved instance of the manufacturer a write names gets nothing from naming it again. -/
theorem withoutManufacturer_assignTo {write : WirelessChassisWrite} {chassis : Chassis}
    (h : write.namedManufacturer = some chassis.manufacturer) :
    write.withoutManufacturer.assignTo chassis = write.assignTo chassis := by
  have hmanufacturer := @assignTo_manufacturer write.withoutManufacturer chassis (by
    intro value hvalue
    simpa using (List.mem_filter.mp hvalue).2)
  rw [assignTo_eq_withoutManufacturer write, h, Option.getD_some, ← hmanufacturer]

/-- What aborts a persistence operation. -/
inductive PersistenceError where
  | save (error : SaveError)
  | identity (error : IdentityError)
  | missingManufacturer
  | missingIdentity
  | missingApiDeviceId
  | couldNotProvision (pk : Nat)
  | couldNotMarkOnline (pk : Nat)
  | rejectedImportedStatus (status : HardwareStatus) (pk : Nat)
  deriving DecidableEq, Repr

/-- The message of the errors that the persistence paths raise themselves. -/
def PersistenceError.message : PersistenceError → Option String
  | .save _ | .identity _ => none
  | .missingManufacturer => some "Wireless chassis creation requires a manufacturer"
  | .missingIdentity => some "Wireless chassis creation requires api_device_id and ip"
  | .missingApiDeviceId => some "Wireless chassis upsert requires api_device_id"
  | .couldNotProvision pk => some ("Could not provision wireless chassis " ++ toString pk)
  | .couldNotMarkOnline pk => some ("Could not mark wireless chassis " ++ toString pk ++ " online")
  | .rejectedImportedStatus status pk =>
    some ("Lifecycle rejected imported status transition to '" ++ status.value ++
      "' for chassis " ++ toString pk)

/-- A save inside a persistence operation. -/
def liftSave {α : Type} : Except SaveError α → Except PersistenceError α
  | .ok a => .ok a
  | .error e => .error (.save e)

/-- An identity lookup inside a persistence operation. -/
def liftIdentity {α : Type} : Except IdentityError α → Except PersistenceError α
  | .ok a => .ok a
  | .error e => .error (.identity e)

@[simp] theorem liftSave_eq_ok {α : Type} {x : Except SaveError α} {a : α} :
    liftSave x = .ok a ↔ x = .ok a := by
  cases x <;> simp [liftSave]

@[simp] theorem liftIdentity_eq_ok {α : Type} {x : Except IdentityError α} {a : α} :
    liftIdentity x = .ok a ↔ x = .ok a := by
  cases x <;> simp [liftIdentity]

namespace WirelessChassisPersistenceService

/-- Create one chassis after validating its required external identity. -/
def create (now : Time) (db : Inventory) (manufacturer : Option Manufacturer)
    (write : WirelessChassisWrite) : Except PersistenceError (Inventory × Chassis) :=
  match manufacturer.or write.namedManufacturer with
  | none => .error .missingManufacturer
  | some selected =>
    let chassis := write.withoutManufacturer.assignTo (Chassis.unsaved selected)
    if chassis.apiDeviceId = "" ∨ chassis.ip = "" then .error .missingIdentity
    else liftSave (createChassis now db chassis)

theorem create_eq_ok {now : Time} {db db' : Inventory} {manufacturer : Option Manufacturer}
    {write : WirelessChassisWrite} {saved : Chassis} :
    create now db manufacturer write = .ok (db', saved) ↔
      ∃ selected, manufacturer.or write.namedManufacturer = some selected ∧
        (write.withoutManufacturer.assignTo (Chassis.unsaved selected)).apiDeviceId ≠ "" ∧
        (write.withoutManufacturer.assignTo (Chassis.unsaved selected)).ip ≠ "" ∧
        createChassis now db (write.withoutManufacturer.assignTo (Chassis.unsaved selected)) =
          .ok (db', saved) := by
  rw [create]
  cases manufacturer.or write.namedManufacturer with
  | none => simp
  | some selected => simp only [ite_eq_iff, liftSave_eq_ok, not_or, and_assoc, reduceCtorEq,
      and_false, false_or, Option.some.injEq, exists_eq_left', ne_eq]

/-- Apply and persist exactly the explicitly supplied chassis fields, or save every column. -/
def update (now : Time) (db : Inventory) (chassis : Chassis) (write : WirelessChassisWrite)
    (saveAllFields : Bool) : Except PersistenceError (Inventory × Chassis) :=
  if write = [] then .ok (db, chassis)
  else liftSave (saveChassis now db (write.assignTo chassis)
    (if saveAllFields then none else some write.columns))

/-- Update or create one chassis using its manufacturer-scoped API identity. -/
def upsert (now : Time) (db : Inventory) (manufacturer : Manufacturer) (apiDeviceId : String)
    (defaults createDefaults : WirelessChassisWrite) :
    Except PersistenceError (Inventory × Chassis × Bool) :=
  let updateValues := defaults.withoutManufacturer.filter fun value => value.column ≠ .apiDeviceId
  let createdValues :=
    createDefaults.withoutManufacturer.filter fun value => value.column ≠ .apiDeviceId
  if apiDeviceId = "" then .error .missingApiDeviceId
  else do
    match ← liftIdentity (db.getApiId manufacturer apiDeviceId) with
    | some chassis =>
      let (db, chassis) ← liftSave (saveChassis now db
        (WirelessChassisWrite.assignTo updateValues chassis)
        (some (WirelessChassisWrite.columns updateValues)))
      .ok (db, chassis, false)
    | none =>
      let (db, chassis) ← liftSave (createChassis now db
        (WirelessChassisWrite.assignTo createdValues
          { Chassis.unsaved manufacturer with apiDeviceId }))
      .ok (db, chassis, true)

/-- Map manufacturer type text to a supported chassis role. -/
def roleForDeviceType (deviceType : String) : String :=
  let normalized := deviceType.toList.map Char.toLower
  if containsText normalized "transmitter".toList then "transmitter"
  else if containsText normalized "transceiver".toList then "transceiver"
  else "receiver"

def createFromNormalized (now : Time) (db : Inventory) (manufacturer : Manufacturer)
    (payload : NormalizedHardware) (initialStatus : Option HardwareStatus) :
    Except PersistenceError (Inventory × Chassis) :=
  let write := WirelessChassisWrite.ofValues [
    .apiDeviceId payload.apiDeviceId,
    .serialNumber payload.serialNumber,
    .macAddress payload.mac,
    .ip payload.ip,
    .name payload.name,
    .model payload.model,
    .role (roleForDeviceType payload.deviceType),
    .firmwareVersion payload.firmwareVersion,
    .hostedFirmwareVersion payload.hostedFirmwareVersion,
    .description payload.description,
    .subnetMask payload.subnetMask,
    .gateway payload.gateway,
    .networkMode payload.networkMode,
    .interfaceId payload.interfaceId,
    .lastSeen (some now)]
  create now db (some manufacturer) (write ++ (initialStatus.map FieldValue.status).toList)

/-- `value or fallback` for a text. -/
def textOr (value fallback : String) : String := if value = "" then fallback else value

/-- `value or fallback` for a text that may be `None`. -/
def optionalTextOr (value fallback : Option String) : Option String :=
  if value.getD "" = "" then fallback else value

/-- A stored hardware address that spells the payload's one differently is rewritten. -/
def rewrittenMac (chassis : Chassis) (payload : NormalizedHardware) : List FieldValue :=
  if payload.mac ≠ none ∧ canonicalizeMacAddress chassis.macAddress = payload.mac ∧
      chassis.macAddress ≠ payload.mac then
    [.macAddress payload.mac]
  else []

/-- The fields `update_from_normalized` supplies for an instance. -/
def normalizedValues (now : Time) (chassis : Chassis) (payload : NormalizedHardware)
    (setIp : Bool) : List FieldValue :=
  (if setIp then [.ip payload.ip] else []) ++
    [.name (textOr payload.name chassis.name),
      .model (textOr payload.model chassis.model),
      .role (if payload.deviceType = "" then chassis.role
        else roleForDeviceType payload.deviceType),
      .firmwareVersion (textOr payload.firmwareVersion chassis.firmwareVersion),
      .hostedFirmwareVersion
        (textOr payload.hostedFirmwareVersion chassis.hostedFirmwareVersion),
      .description (textOr payload.description chassis.description),
      .subnetMask (optionalTextOr payload.subnetMask chassis.subnetMask),
      .gateway (optionalTextOr payload.gateway chassis.gateway),
      .networkMode (textOr payload.networkMode chassis.networkMode),
      .interfaceId (textOr payload.interfaceId chassis.interfaceId),
      .lastSeen (some now)] ++
    rewrittenMac chassis payload

/-- Refresh normalized metadata without erasing useful values with blanks. -/
def updateFromNormalized (now : Time) (db : Inventory) (chassis : Chassis)
    (payload : NormalizedHardware) (setIp : Bool) :
    Except PersistenceError (Inventory × Chassis) :=
  update now db chassis (.ofValues (normalizedValues now chassis payload setIp)) false

end WirelessChassisPersistenceService

/-- `refresh_from_db(fields=[status, is_online, last_online_at, last_seen])`. -/
def refreshLifecycle (db : Inventory) (chassis : Chassis) :
    Except PersistenceError Chassis :=
  match db.find chassis.pk with
  | none => .error (.save (.chassisDoesNotExist chassis.pk))
  | some row =>
    .ok { chassis with
      status := row.status
      isOnline := row.isOnline
      lastOnlineAt := row.lastOnlineAt
      lastSeen := row.lastSeen }

namespace HardwareLifecycleManager

def isValidTransition (fromStatus toStatus : HardwareStatus) : Bool :=
  fromStatus = toStatus || toStatus ∈ validTransitions fromStatus

/-- Transition the stored row to a new status; `false` when the transition is not valid. -/
def transitionDevice (now : Time) (db : Inventory) (pk : Nat) (toStatus : HardwareStatus) :
    Except PersistenceError (Inventory × Bool) :=
  match db.find pk with
  | none => .error (.save (.chassisDoesNotExist pk))
  | some device =>
    if !isValidTransition device.status toStatus then .ok (db, false)
    else do
      let (db, _) ← liftSave (saveChassis now db
        { device with status := toStatus, lastSeen := some now } (some [.status, .lastSeen]))
      .ok (db, true)

def markOnline (now : Time) (db : Inventory) (pk : Nat) :
    Except PersistenceError (Inventory × Bool) :=
  transitionDevice now db pk .online

end HardwareLifecycleManager

open HardwareLifecycleManager in
/-- A discovered device is provisioned first. -/
def provisionDiscovered (now : Time) (db : Inventory) (chassis : Chassis) :
    Except PersistenceError (Inventory × Bool) :=
  if chassis.status = .discovered then transitionDevice now db chassis.pk .provisioning
  else .ok (db, true)

open HardwareLifecycleManager in
/-- The transitions of a responding device. -/
def bringOnline (now : Time) (db : Inventory) (chassis : Chassis) :
    Except PersistenceError (Inventory × Chassis) := do
  let (db, provisioned) ← provisionDiscovered now db chassis
  if !provisioned then .error (.couldNotProvision chassis.pk)
  else
    let (db, online) ← markOnline now db chassis.pk
    if !online then .error (.couldNotMarkOnline chassis.pk)
    else
      let chassis ← refreshLifecycle db chassis
      .ok (db, chassis)

/-- Move a responding chassis online through valid lifecycle transitions. -/
def transitionRespondingChassisOnline (now : Time) (db : Inventory) (chassis : Chassis) :
    Except PersistenceError (Inventory × Chassis) :=
  if chassis.status = .online then .ok (db, chassis) else bringOnline now db chassis

/-! ### What a metadata refresh writes -/

open WirelessChassisPersistenceService

/-- The stored hardware address after a refresh: another spelling of the payload's address is replaced
by the canonical one. -/
def refreshedMac (payload : NormalizedHardware) (stored : Option String) : Option String :=
  if payload.mac ≠ none ∧ canonicalizeMacAddress stored = payload.mac then payload.mac else stored

theorem refreshedMac_eq (payload : NormalizedHardware) (stored : Option String) :
    refreshedMac payload stored = stored ∨
      (refreshedMac payload stored = payload.mac ∧ canonicalizeMacAddress stored = payload.mac) := by
  unfold refreshedMac
  split
  next h => exact .inr ⟨rfl, h.2⟩
  next => exact .inl rfl

/-- A refresh never changes the hardware address an entry stands for. -/
theorem canonicalizeMacAddress_refreshedMac (payload : NormalizedHardware) (stored : Option String) :
    canonicalizeMacAddress (refreshedMac payload stored) = canonicalizeMacAddress stored := by
  rcases refreshedMac_eq payload stored with h | ⟨h, hstored⟩
  · rw [h]
  · rw [h, hstored]
    cases hmac : payload.mac with
    | none => rfl
    | some mac =>
        exact canonicalizeMacAddress_of_isCanonical (NormalizedHardware.mac_eq_some.mp hmac).2

section Refresh

variable (now : Time) (chassis : Chassis) (payload : NormalizedHardware) (setIp : Bool)

/-- The instance after the fields of a refresh were assigned. -/
def refreshedInstance : Chassis :=
  (WirelessChassisWrite.ofValues (normalizedValues now chassis payload setIp)).assignTo chassis

def refreshedColumns : List Column :=
  (WirelessChassisWrite.ofValues (normalizedValues now chassis payload setIp)).columns

theorem refreshedColumns_ne_nil : refreshedColumns now chassis payload setIp ≠ [] := by
  unfold refreshedColumns normalizedValues
  cases setIp <;> simp [WirelessChassisWrite.ofValues, WirelessChassisWrite.columns]

theorem updateFromNormalized_eq (db : Inventory) :
    updateFromNormalized now db chassis payload setIp =
      liftSave (saveChassis now db (refreshedInstance now chassis payload setIp)
        (some (refreshedColumns now chassis payload setIp))) := by
  have hne : WirelessChassisWrite.ofValues (normalizedValues now chassis payload setIp) ≠ [] := by
    intro hnil
    apply refreshedColumns_ne_nil now chassis payload setIp
    rw [refreshedColumns, hnil]
    rfl
  rw [updateFromNormalized, update, if_neg hne]
  rfl

/-- The validated value of the hardware address is the address itself. -/
theorem map_trim_mac : payload.mac.map trim = payload.mac := by
  cases hmac : payload.mac with
  | none => rfl
  | some mac =>
      rw [Option.map_some, (NormalizedHardware.mac_eq_some.mp hmac).2.trim_eq]

theorem rewrittenMac_cases :
    (rewrittenMac chassis payload = [] ∧
        refreshedMac payload chassis.macAddress = chassis.macAddress) ∨
      (rewrittenMac chassis payload = [.macAddress payload.mac] ∧
        refreshedMac payload chassis.macAddress = payload.mac ∧
        refreshedMac payload chassis.macAddress ≠ chassis.macAddress) := by
  unfold rewrittenMac refreshedMac
  by_cases hsame : payload.mac ≠ none ∧ canonicalizeMacAddress chassis.macAddress = payload.mac
  · rw [if_pos hsame]
    by_cases hstored : chassis.macAddress = payload.mac
    · refine .inl ⟨if_neg ?_, hstored.symm⟩
      rintro ⟨-, -, hne⟩
      exact hne hstored
    · exact .inr ⟨if_pos ⟨hsame.1, hsame.2, hstored⟩, rfl, Ne.symm hstored⟩
  · rw [if_neg hsame]
    refine .inl ⟨if_neg ?_, rfl⟩
    rintro ⟨hne, heq, -⟩
    exact hsame ⟨hne, heq⟩

/-- A refresh leaves the identity of the instance alone but for its address, when that is set, and the
spelling of its hardware address. -/
theorem refreshedInstance_identity :
    (refreshedInstance now chassis payload setIp).pk = chassis.pk ∧
      (refreshedInstance now chassis payload setIp).manufacturer = chassis.manufacturer ∧
      (refreshedInstance now chassis payload setIp).apiDeviceId = chassis.apiDeviceId ∧
      (refreshedInstance now chassis payload setIp).serialNumber = chassis.serialNumber ∧
      (refreshedInstance now chassis payload setIp).macAddress =
        refreshedMac payload chassis.macAddress ∧
      (refreshedInstance now chassis payload setIp).ip =
        (if setIp then payload.ip else chassis.ip) ∧
      (refreshedInstance now chassis payload setIp).status = chassis.status ∧
      (refreshedInstance now chassis payload setIp).isOnline = chassis.isOnline := by
  unfold refreshedInstance normalizedValues
  rcases rewrittenMac_cases chassis payload with ⟨hrewritten, hmac⟩ | ⟨hrewritten, hmac, -⟩
  · rw [hrewritten, hmac]
    cases setIp <;> simp [WirelessChassisWrite.ofValues, WirelessChassisWrite.assignTo,
      FieldValue.validated, FieldValue.assign, payload.ip_trimmed]
  · rw [hrewritten, hmac]
    cases setIp <;> simp [WirelessChassisWrite.ofValues, WirelessChassisWrite.assignTo,
      FieldValue.validated, FieldValue.assign, payload.ip_trimmed, map_trim_mac]

/-- A refresh saves the address exactly when it is set, the hardware address when it is rewritten, and
no other identity or lifecycle column. -/
theorem mem_refreshedColumns :
    (.ip ∈ refreshedColumns now chassis payload setIp ↔ setIp = true) ∧
      (.macAddress ∈ refreshedColumns now chassis payload setIp ↔
        refreshedMac payload chassis.macAddress ≠ chassis.macAddress) ∧
      ∀ column ∈ [Column.manufacturer, .apiDeviceId, .serialNumber, .status, .isOnline,
        .lastOnlineAt, .lastOfflineAt, .totalUptimeMinutes],
        column ∉ refreshedColumns now chassis payload setIp := by
  unfold refreshedColumns normalizedValues
  rcases rewrittenMac_cases chassis payload with ⟨hrewritten, hmac⟩ | ⟨hrewritten, -, hmac⟩
  · rw [hrewritten, hmac]
    cases setIp <;> simp [WirelessChassisWrite.ofValues, WirelessChassisWrite.columns,
      FieldValue.validated, FieldValue.column]
  · rw [hrewritten]
    cases setIp <;> simp [WirelessChassisWrite.ofValues, WirelessChassisWrite.columns,
      FieldValue.validated, FieldValue.column, hmac]

end Refresh

end Micboard
