import Micboard.LibraryAddress
import Micboard.VendorTransform

/-! Normalization of a vendor payload for the discovery queue. The text methods that consult Unicode
tables, and the `str(…)` of containers that are built here, are parameters. Log records are left
out, and so are lone surrogates, which no text of the model holds. -/

namespace Micboard

open Library Library.Text Library.Address

/-- What normalization uses of Python's texts. -/
structure PythonText where
  lower : String → String
  upper : String → String
  casefold : String → String
  capitalize : String → String
  isAlnum : Char → Bool
  isDecimal : Char → Bool
  reprArray : List JsonValue → String
  reprObject : JsonObject → String

/-- `text[:n]`. -/
def takeText (n : Nat) (text : String) : String := String.ofList (text.toList.take n)

mutual

/-- `first == second`. -/
def JsonValue.pyEq : JsonValue → JsonValue → Bool
  | .null, .null => true
  | .bool first, .bool second => first = second
  | .bool first, .number second _ => (if first then 1 else 0) = second
  | .number first _, .bool second => first = if second then 1 else 0
  | .number first _, .number second _ => first = second
  | .text first, .text second => first = second
  | .array first _, .array second _ => JsonValue.pyEqItems first second
  | .object first _, .object second _ =>
      first.length = second.length && JsonValue.pyEqFields first second
  | _, _ => false

def JsonValue.pyEqItems : List JsonValue → List JsonValue → Bool
  | [], [] => true
  | first :: rest, second :: others => JsonValue.pyEq first second && JsonValue.pyEqItems rest others
  | _, _ => false

def JsonValue.pyEqFields : List (String × JsonValue) → List (String × JsonValue) → Bool
  | [], _ => true
  | (key, value) :: rest, fields =>
    (match fields.find? fun field => field.1 = key with
      | some field => JsonValue.pyEq value field.2
      | none => false) && JsonValue.pyEqFields rest fields

end

def maxDiscoveryMetadataDepth : Nat := 5

def maxDiscoveryMetadataFields : Nat := 128

def maxDiscoveryMetadataListItems : Nat := 128

def maxDiscoveryMetadataStringLength : Nat := 2048

def secretKeyParts : List String :=
  ["api_key", "credential", "password", "private_key", "secret", "shared_key", "token"]

/-- `dictionary[key] = value`. -/
def setItem {α : Type} (items : List (String × α)) (key : String) (value : α) : List (String × α) :=
  if items.any fun item => item.1 = key then
    items.map fun item => if item.1 = key then (key, value) else item
  else items ++ [(key, value)]

/-- The dictionary of the items, where a later item replaces one of its key. -/
def toDictionary {α : Type} (items : List (String × α)) : List (String × α) :=
  items.foldl (fun items item => setItem items item.1 item.2) []

section

variable (python : PythonText)

/-- Normalize snake, kebab, spaced, and camel case keys for policy matching. -/
def compactKey (key : String) : List Char :=
  (python.casefold key).toList.filter fun c => ('a' ≤ c && c ≤ 'z') || ('0' ≤ c && c ≤ '9')

/-- Return whether a configuration key conventionally carries a secret. -/
def isSecretKey (key : String) : Bool :=
  secretKeyParts.any fun part => containsText (compactKey python key) (compactKey python part)

/-- A depth, width and string bounded copy; `depth` levels are left. -/
def boundMetadata : Nat → JsonValue → JsonValue
  | 0, _ => .text "<truncated>"
  | depth + 1, value =>
    match value with
    | .object items _ =>
      let bounded := toDictionary ((items.take maxDiscoveryMetadataFields).map fun item =>
        (takeText maxDiscoveryMetadataStringLength item.1,
          if isSecretKey python item.1 then .text "********" else boundMetadata depth item.2))
      let bounded :=
        if items.length > maxDiscoveryMetadataFields then setItem bounded "_truncated" (.bool true)
        else bounded
      .object bounded (python.reprObject bounded)
    | .array items _ =>
      let bounded := (items.take maxDiscoveryMetadataListItems).map (boundMetadata depth)
      let bounded :=
        if items.length > maxDiscoveryMetadataListItems then bounded ++ [.text "<truncated>"]
        else bounded
      .array bounded (python.reprArray bounded)
    | .text value => .text (takeText maxDiscoveryMetadataStringLength value)
    | .null => .null
    | .bool value => .bool value
    | .number value rendering => .number value rendering

/-- The bounded copy of a payload, as the queue stores it. -/
def queueMetadata (device : JsonObject) (fqdn : String) : VendorPayload :=
  let bounded :=
    match boundMetadata python maxDiscoveryMetadataDepth (.object device "") with
    | .object items _ => items
    | _ => []
  let bounded :=
    if fqdn = "" ∨ bounded.any (fun item => item.1 = "fqdn") then bounded
    else bounded ++ [("fqdn", .text fqdn)]
  toDictionary (bounded.map fun item => (trim item.1, item.2.toPyValue))

def validateHostname (hostname : String) : Bool :=
  if hostname = "" ∨ hostname.length > 253 then false
  else if (parseIPv4 hostname.toList).isSome then true
  else
    (hostname.toList.splitOn '.').all fun label =>
      label ≠ [] && label.length ≤ 63 && label.head? ≠ some '-' && label.getLast? ≠ some '-' &&
        label.all fun c => python.isAlnum c || c = '-'

/-- Blanks in the place of runs of `_` and `-`. -/
def spaceSeparators : List Char → List Char
  | [] => []
  | c :: rest =>
    if c = '_' ∨ c = '-' then
      match rest with
      | next :: _ =>
          if next = '_' ∨ next = '-' then spaceSeparators rest else ' ' :: spaceSeparators rest
      | [] => [' ']
    else c :: spaceSeparators rest

/-- A blank and capitals for a final `wm` with a number. -/
def spaceFinalWm (label : List Char) : List Char :=
  let number := (label.reverse.takeWhile python.isDecimal).reverse
  let front := label.take (label.length - number.length)
  match front.reverse with
  | m :: w :: rest =>
    if (m = 'm' ∨ m = 'M') ∧ (w = 'w' ∨ w = 'W') then rest.reverse ++ [' ', 'W', 'M'] ++
      number else label
  | _ => label

/-- A blank between a letter and a digit. -/
def spaceDigits : List Char → List Char
  | first :: second :: rest =>
    if (('a' ≤ first ∧ first ≤ 'z') ∨ ('A' ≤ first ∧ first ≤ 'Z')) ∧ '0' ≤ second ∧ second ≤ '9' then
      first :: ' ' :: spaceDigits (second :: rest)
    else first :: spaceDigits (second :: rest)
  | chars => chars

/-- Convert the first hostname label into a readable device name. -/
def humanizeFqdn (fqdn : String) : String :=
  let label := (fqdn.toList.splitOn '.').headD []
  let label := spaceDigits (spaceFinalWm python (spaceSeparators label))
  let words := (label.splitOnP isSpace).filter (· ≠ [])
  let named := words.map fun word =>
    if python.casefold (String.ofList word) = "wm" then ['W', 'M']
    else (python.capitalize (String.ofList word)).toList
  String.ofList (join ' ' named)

/-- Map vendor-specific device labels onto supported queue roles. -/
def classifyDeviceType (model rawType : String) : String :=
  let normalizedType := (python.casefold rawType).toList
  if containsText (python.upper model).toList "SBC".toList ∨
      containsText normalizedType "charger".toList then "charger"
  else if containsText normalizedType "transmitter".toList then "transmitter"
  else if containsText normalizedType "transceiver".toList then "transceiver"
  else "receiver"

/-! ### The normalized device -/

end

/-- Database-safe normalized discovery queue payload: its texts are stripped, and it has a serial
number. -/
structure DiscoveryQueueDevice where
  apiDeviceId : String
  deviceType : String
  firmwareVersion : String
  fqdn : String
  ip : String
  metadata : VendorPayload
  model : String
  name : String
  serialNumber : String
  ip_trimmed : trim ip = ip
  serial_trimmed : trim serialNumber = serialNumber
  serial_ne : serialNumber ≠ ""

/-- The validation of a queue payload: every text is stripped and bounded. -/
def DiscoveryQueueDevice.validated (apiDeviceId deviceType firmwareVersion fqdn ip : String)
    (metadata : VendorPayload) (model name serialNumber : String) : Option DiscoveryQueueDevice :=
  if hserial : trim serialNumber = "" then none
  else if (trim apiDeviceId).length ≤ 100 ∧ (trim deviceType).length ≤ 20 ∧
      (trim firmwareVersion).length ≤ 50 ∧ (trim fqdn).length ≤ 255 ∧ (trim ip).length ≤ 45 ∧
      (trim model).length ≤ 50 ∧ (trim name).length ≤ 100 ∧ (trim serialNumber).length ≤ 100 then
    some {
      apiDeviceId := trim apiDeviceId
      deviceType := trim deviceType
      firmwareVersion := trim firmwareVersion
      fqdn := trim fqdn
      ip := trim ip
      metadata
      model := trim model
      name := trim name
      serialNumber := trim serialNumber
      ip_trimmed := trim_trim ip
      serial_trimmed := trim_trim serialNumber
      serial_ne := hserial }
  else none

/-- Normalize one vendor payload without mutating the caller's data. -/
def normalizeDevice (python : PythonText) (device : JsonObject) : Option DiscoveryQueueDevice :=
  let deviceId := (device.get "id").orElse ((device.get "api_device_id").orElse (device.get "deviceId"))
  let serial := (device.get "serial").orElse (device.get "serialNumber")
  let ip := (device.get "ip").orElse ((device.get "ipAddress").orElse (device.get "ipv4"))
  let model := (device.get "model").orElse ((device.get "deviceType").orElse (.text ""))
  let name := (device.get "name").orElse model
  if !serial.isTruthy || !ip.isTruthy then none
  else
    match ipAddress ip.str with
    | none => none
    | some ipText =>
      let fqdnText := strip ((device.get "fqdn").orElse (.text "")).str
      let fqdnCandidate := python.lower
        (String.ofList (fqdnText.toList.reverse.dropWhile (· = '.')).reverse)
      let fqdn :=
        if fqdnCandidate.length ≤ 255 ∧ validateHostname python fqdnCandidate then fqdnCandidate else ""
      let name :=
        if fqdn ≠ "" ∧
          (!name.isTruthy || name.pyEq model || name.pyEq ip || name.pyEq (.text ipText)) then
          .text (humanizeFqdn python fqdn)
        else name
      let firmware := (device.get "firmware").orElse ((device.get "firmware_version").orElse
        ((device.get "firmwareVersion").orElse (.text "")))
      DiscoveryQueueDevice.validated (deviceId.orElse (.text "")).str
        (classifyDeviceType python model.str (device.getD "type" (.text "UNKNOWN")).str)
        (takeText 50 firmware.str) fqdn ipText (queueMetadata python device fqdn)
        (takeText 50 model.str)
        (takeText 100 name.str) serial.str

end Micboard
