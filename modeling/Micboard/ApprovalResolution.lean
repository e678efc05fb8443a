import Micboard.ApprovalInventory

/-! Resolving the target of a queue row in the locked inventory, and the values a row gives a chassis.
The digest of a text is a parameter. -/

namespace Micboard

open Library.Text LockedApprovalInventory

/-- Locked chassis target and the normalized identity to persist. -/
structure ChassisApprovalTarget where
  chassis : Option Chassis
  apiDeviceId : String
  deriving DecidableEq, Repr

/-- `hexdigest()` of a digest of 32 bytes. -/
def hexdigest (digest : Nat) : String :=
  String.ofList ((hexadecimal digest).leftpad 64 '0')

namespace DiscoveryApprovalResolver

/-- `str(value).strip()` of a metadata value, empty for `None`. -/
def textOf : PyValue → String
  | .none => ""
  | value => strip value.str

/-- Read the first nonempty normalized metadata alias. -/
def metadataText (item : DiscoveryQueue) (keys : List String) : String :=
  ((keys.map fun key => textOf ((item.metadata.getD []).get key)).find? (· ≠ "")).getD ""

/-- Resolve one explicit or unambiguous charger from pre-locked inventory. -/
def resolveCharger (item : DiscoveryQueue) (inventory : LockedApprovalInventory) :
    Except ApprovalError Charger :=
  let serialNumber := text item.serialNumber
  match item.existingChargerId with
  | some existingChargerId =>
    match inventory.chargersByPk existingChargerId with
    | none => .error (.chargerGone item.label)
    | some charger =>
      let existingSerial := text charger.serialNumber
      let serialMatches := serialNumber ≠ "" && existingSerial ≠ "" && serialNumber = existingSerial
      if charger.manufacturer.any (·.pk ≠ item.manufacturer.pk) then
        .error (.chargerForeign item.label)
      else if serialNumber ≠ "" && !serialMatches then .error (.serialConflict item.label)
      else if item.isIpConflict && !serialMatches then .error (.chargerConflict item.label)
      else .ok charger
  | none =>
    if serialNumber = "" then .error (.chargerNeedsIdentity item.label)
    else
      match inventory.chargersBySerialIdentity item.manufacturer.pk serialNumber with
      | [] => .error (.chargerNeedsLocation item.label)
      | [charger] => .ok charger
      | _ => .error (.chargerAmbiguous item.label)

/-- Reject implicit manufacturer or identity changes for an existing chassis. -/
def validateMatchedChassis (item : DiscoveryQueue) (chassis : Chassis)
    (apiDeviceId serialNumber : String) : Except ApprovalError Unit :=
  let existingApiDeviceId := text chassis.apiDeviceId
  let existingSerialNumber := text chassis.serialNumber
  let apiMatches := apiDeviceId ≠ "" && apiDeviceId = existingApiDeviceId
  let serialMatches := serialNumber ≠ "" && existingSerialNumber ≠ "" &&
    serialNumber = existingSerialNumber
  if chassis.manufacturer.pk ≠ item.manufacturer.pk then .error (.chassisForeign item.label)
  else if serialNumber ≠ "" && existingSerialNumber ≠ "" &&
      serialNumber ≠ existingSerialNumber then
    .error (.serialConflict item.label)
  else if item.existingDeviceId ≠ none then
    if apiDeviceId ≠ existingApiDeviceId && !serialMatches then .error (.apiConflict item.label)
    else if item.isIpConflict && !(apiMatches || serialMatches) then
      .error (.chassisConflict item.label)
    else .ok ()
  else if apiDeviceId ≠ "" && existingApiDeviceId ≠ apiDeviceId then
    .error (.apiConflict item.label)
  else .ok ()

/-- `matches_by_pk[pk] = row`. -/
def setMatch (found : List Chassis) (row : Chassis) : List Chassis :=
  if found.any (·.pk = row.pk) then found.map fun other => if other.pk = row.pk then row else other
  else found ++ [row]

/-- Union explicit and durable identity indexes without duplicate rows. -/
def indexedChassisMatches (item : DiscoveryQueue) (inventory : LockedApprovalInventory)
    (apiDeviceId serialNumber : String) : List Chassis :=
  let explicit := (item.existingDeviceId.bind inventory.chassisByPk).toList
  let byApi :=
    if apiDeviceId = "" then []
    else inventory.chassisByApiIdentity item.manufacturer.pk apiDeviceId
  let bySerial :=
    if serialNumber = "" then []
    else inventory.chassisBySerialIdentity item.manufacturer.pk serialNumber
  (explicit ++ byApi ++ bySerial).foldl setMatch []

section

variable (sha256 : String → Nat)

/-- Build a stable fallback that fits the chassis API identity column. -/
def serialApiId (serialNumber : String) : String :=
  if ("serial:" ++ serialNumber).length ≤ 100 then "serial:" ++ serialNumber
  else "serial-sha256:" ++ hexdigest (sha256 serialNumber)

/-- The API identity to persist: the row's own, else that of its chassis, else its serial number's. -/
def persistedApiDeviceId (item : DiscoveryQueue) (chassis : Option Chassis) : String :=
  let serialNumber := text item.serialNumber
  let apiDeviceId := text item.apiDeviceId
  let apiDeviceId :=
    if apiDeviceId = "" then (chassis.map fun row => text row.apiDeviceId).getD "" else apiDeviceId
  if apiDeviceId = "" ∧ serialNumber ≠ "" then serialApiId sha256 serialNumber else apiDeviceId

def validateMatch (item : DiscoveryQueue) (chassis : Option Chassis) : Except ApprovalError Unit :=
  match chassis with
  | none => .ok ()
  | some row => validateMatchedChassis item row (text item.apiDeviceId) (text item.serialNumber)

/-- Resolve one chassis matching an explicit or durable pre-locked identity. -/
def resolveChassis (item : DiscoveryQueue) (inventory : LockedApprovalInventory) :
    Except ApprovalError ChassisApprovalTarget := do
  let found :=
    indexedChassisMatches item inventory (text item.apiDeviceId) (text item.serialNumber)
  if found.length > 1 then .error (.chassisAmbiguous item.label)
  else
    let chassis := found.head?
    validateMatch item chassis
    if persistedApiDeviceId sha256 item chassis = "" then .error (.missingIdentity item.label)
    else .ok { chassis, apiDeviceId := persistedApiDeviceId sha256 item chassis }

end

/-- The optional texts of a row, those that say something. -/
def optionalValues (item : DiscoveryQueue) : List FieldValue :=
  let given (value : String) (field : String → FieldValue) : List FieldValue :=
    if value = "" then [] else [field value]
  given (text item.serialNumber) .serialNumber ++
    given (text item.name) .name ++
    given (text item.fqdn) .fqdn ++
    given (text item.model) .model ++
    given (text item.firmwareVersion) .firmwareVersion ++
    given (metadataText item ["mac_address", "macAddress"]) (fun value => .macAddress (some value)) ++
    given (metadataText item ["subnet_mask", "subnetMask"]) (fun value => .subnetMask (some value)) ++
    given (metadataText item ["gateway"]) (fun value => .gateway (some value))

/-- The status an approval gives: a discovered chassis is provisioned, any other one goes online. -/
def approvedStatus (chassis : Option Chassis) : HardwareStatus :=
  if chassis.any (·.status = .discovered) then .provisioning else .online

/-- Build non-destructive normalized values for a managed chassis. -/
def chassisValues (item : DiscoveryQueue) (target : ChassisApprovalTarget) :
    Except ApprovalError (List FieldValue) :=
  match target.chassis.filter (·.status = .retired) with
  | some chassis => .error (.retired chassis)
  | none =>
    .ok ([.manufacturer item.manufacturer, .apiDeviceId target.apiDeviceId, .ip item.ip,
      .role item.role, .isOnline true, .status (approvedStatus target.chassis)] ++
      optionalValues item)

/-- Reject entries that cannot be represented by managed inventory. -/
def validateRole (item : DiscoveryQueue) : Except ApprovalError Unit :=
  if item.isCharger then .ok ()
  else if item.role ∉ ["receiver", "transmitter", "transceiver"] then
    .error (.unsupportedRole item.deviceType item.label)
  else .ok ()

end DiscoveryApprovalResolver

end Micboard
