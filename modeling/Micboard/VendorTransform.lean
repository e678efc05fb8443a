import Micboard.HardwarePayload
import Mathlib.Data.Rat.Floor

/-! The vendor transformers. The transformers of the two vendors differ in their catalogs of device
types and fallback models only. Whatever one of them raises, it catches, and the payload counts as
not transformable. Of the transformed dictionaries the model keeps what a reader of this development
reads: neither the `info` and `extra` details nor the muting, power and antenna values of a
transmitter. -/

namespace Micboard

open Library.Text

/-- A value of a vendor payload, as it is read from JSON. A number, an array and an object come with
their `str(…)`; numbers that are not finite are left out. -/
inductive JsonValue where
  | null
  | bool (value : Bool)
  | number (value : ℚ) (rendering : String)
  | text (value : String)
  | array (items : List JsonValue) (rendering : String)
  | object (items : List (String × JsonValue)) (rendering : String)

/-- A dictionary as its items. -/
abbrev JsonObject := List (String × JsonValue)

namespace JsonObject

/-- `data.get(key, default)`. -/
def getD (data : JsonObject) (key : String) (default : JsonValue) : JsonValue :=
  ((data.find? fun item => item.1 = key).map Prod.snd).getD default

/-- `data.get(key)`. -/
def get (data : JsonObject) (key : String) : JsonValue := data.getD key .null

/-- `data.get(key, data.get(other, default))`: a key that is present hides the other one. -/
def getAlias (data : JsonObject) (key other : String) (default : JsonValue) :
    JsonValue :=
  data.getD key (data.getD other default)

end JsonObject

namespace JsonValue

/-- The value with its truth value and its `str(…)` only. -/
def toPyValue : JsonValue → PyValue
  | null => .none
  | bool value => .other value (if value then "True" else "False")
  | number value rendering => .other (value ≠ 0) rendering
  | text value => .text value
  | array items rendering => .other (!items.isEmpty) rendering
  | object items rendering => .other (!items.isEmpty) rendering

def isTruthy (value : JsonValue) : Bool := value.toPyValue.isTruthy

def str (value : JsonValue) : String := value.toPyValue.str

/-- `first or second`. -/
def orElse (first second : JsonValue) : JsonValue := if first.isTruthy then first else second

/-- `str(value) if value else ""`. -/
def strOrEmpty (value : JsonValue) : JsonValue := .text (if value.isTruthy then value.str else "")

end JsonValue

/-- `first if first is not None else second`. -/
def JsonValue.ifNone (first second : JsonValue) : JsonValue :=
  match first with
  | .null => second
  | value => value

/-- `f"{n:02d}"`. -/
def twoDigits (n : Nat) : String :=
  if n < 10 then "0" ++ String.ofList (decimal n) else String.ofList (decimal n)

/-- Format battery runtime from minutes to HH:MM format; nothing where the comparison raises. -/
def formatRuntime : JsonValue → Option String
  | .null => some ""
  | .bool value => some (if value then "00:01" else "00:00")
  | .number value _ =>
    if value < 0 then some ""
    else some (twoDigits (⌊value⌋.toNat / 60) ++ ":" ++ twoDigits (⌊value⌋.toNat % 60))
  | .text _ | .array _ _ | .object _ _ => none

/-- Transform transmitter data to micboard format. -/
def transformTransmitterData (txData : JsonObject) (channelNum : JsonValue) : Option JsonObject := do
  let unknown := JsonValue.number 255 "255"
  let zero := JsonValue.number 0 "0"
  let runtime ← formatRuntime (txData.getAlias "battery_runtime_minutes" "batteryRuntimeMinutes" .null)
  some [
    ("battery", txData.getAlias "battery_bars" "batteryBars" unknown),
    ("battery_charge", txData.getAlias "battery_charge" "batteryCharge" .null),
    ("battery_health", txData.getAlias "battery_health" "batteryHealth" (.text "")),
    ("battery_cycles", txData.getAlias "battery_cycles" "batteryCycles" .null),
    ("battery_temperature_c", txData.getAlias "battery_temperature_c" "batteryTemperatureC" .null),
    ("audio_level", txData.getAlias "audio_level" "audioLevel" zero),
    ("rf_level", txData.getAlias "rf_level" "rfLevel" zero),
    ("frequency", (txData.getD "frequency" (.text "")).strOrEmpty),
    ("antenna", (txData.getD "antenna" (.text "")).strOrEmpty),
    ("tx_offset", txData.getAlias "tx_offset" "txOffset" unknown),
    ("quality", txData.getAlias "audio_quality" "audioQuality" unknown),
    ("runtime", .text runtime),
    ("status", (txData.getD "status" (.text "")).strOrEmpty),
    ("battery_type", txData.getAlias "battery_type" "batteryType" .null),
    ("name", (txData.getAlias "name" "deviceName" (.text "")).strOrEmpty),
    ("slot", txData.getD "slot" channelNum)]

/-- What a vendor's transformer knows of device types: their names in capitals, and the model label of a
type that comes without one. -/
structure VendorCatalog where
  typeMap : List (String × String)
  fallbackModel : List (String × String)

/-- `dictionary.get(key, default)` of a constant dictionary. -/
def lookupText (dictionary : List (String × String)) (key default : String) : String :=
  ((dictionary.find? fun item => item.1 = key).map Prod.snd).getD default

def shureCatalog : VendorCatalog where
  typeMap :=
    [("UHFR", "uhfr"), ("UHF_R", "uhfr"), ("QLXD", "qlxd"), ("QLX_D", "qlxd"), ("ULXD", "ulxd"),
    ("ULX_D", "ulxd"), ("AXIENT_DIGITAL", "axtd"), ("AXIENTDIGITAL", "axtd"), ("AXTD", "axtd"),
    ("AD", "axtd"), ("P10T", "p10t"), ("PSM1000", "p10t")]
  fallbackModel := [("ulxd", "ULX-D"), ("qlxd", "QLX-D"), ("uhfr", "UHF-R"), ("axtd", "Axient Digital"),
    ("p10t", "P10T")]

def sennheiserCatalog : VendorCatalog where
  typeMap := [("EVOLUTION_WIRELESS_DIGITAL", "ewd"), ("EW_D", "ewd"), ("TEAMCONNECT", "teamconnect"),
    ("TEAM_CONNECT", "teamconnect")]
  fallbackModel := [("ewd", "Evolution Wireless Digital"), ("teamconnect", "TeamConnect")]

/-- `upper()` of one character where the result is ASCII text; any other character keeps the text out of
every catalog. -/
def upperChar (c : Char) : List Char :=
  match c with
  | 'ı' => ['I']
  | 'ſ' => ['S']
  | 'ß' => ['S', 'S']
  | 'ﬀ' => ['F', 'F']
  | 'ﬁ' => ['F', 'I']
  | 'ﬂ' => ['F', 'L']
  | 'ﬃ' => ['F', 'F', 'I']
  | 'ﬄ' => ['F', 'F', 'L']
  | 'ﬅ' => ['S', 'T']
  | 'ﬆ' => ['S', 'T']
  | c => [c.toUpper]

/-- `api_type.upper().replace("-", "_").replace(" ", "_")`. -/
def catalogKey (apiType : String) : String :=
  String.ofList ((apiType.toList.flatMap upperChar).map fun c => if c = '-' ∨ c = ' ' then '_' else c)

/-- Map vendor device types to micboard types; `upper()` raises on anything but text. -/
def mapDeviceType (catalog : VendorCatalog) (apiType : JsonValue) : Option String :=
  if !apiType.isTruthy then some "unknown"
  else
    match apiType with
    | .text value => some (lookupText catalog.typeMap (catalogKey value) "unknown")
    | _ => none

structure DeviceModel where
  model : String
  type : String
  firmware : String
  deriving DecidableEq, Repr

/-- Identify and normalize device model information. -/
def identifyDeviceModel (catalog : VendorCatalog) (apiData : JsonObject) : Option DeviceModel := do
  let rawModel := apiData.getAlias "model_name" "modelName" .null
  let firmware := (apiData.getAlias "firmware_version" "firmwareVersion" .null).orElse (.text "")
  let type ← mapDeviceType catalog ((apiData.get "type").orElse (.text "unknown"))
  some {
    model := if rawModel.isTruthy then rawModel.str else lookupText catalog.fallbackModel type "Unknown"
    type
    firmware := firmware.str }

/-- A transformed channel: its number, and its transformed transmitter. -/
structure TransformedChannel where
  channel : JsonValue
  tx : JsonObject

/-- A transformed device: the dictionary without its channels, and the channels. -/
structure TransformedDevice where
  fields : VendorPayload
  channels : List TransformedChannel

/-- The channel of one entry of the payload's channel list, if it holds a transmitter; an entry that
is not an object raises. -/
def transformChannel : JsonValue → Option (List TransformedChannel)
  | .object channelData _ =>
    let channelNum := JsonObject.getAlias channelData "channel" "channelNumber" (.number 0 "0")
    match JsonObject.getAlias channelData "tx" "transmitter" (.object [] "{}") with
    | .object txData _ =>
      if txData.isEmpty then some []
      else
        match transformTransmitterData txData channelNum with
        | some tx => some [{ channel := channelNum, tx }]
        | none => some []
    | _ => some []
  | _ => none

/-- The transformed channels; what has no length, or yields anything but objects, raises. -/
def transformChannels : JsonValue → Option (List TransformedChannel)
  | .array items _ => (items.mapM transformChannel).map List.flatten
  | .text value => if value = "" then some [] else none
  | .object items _ => if items.isEmpty then some [] else none
  | .null | .bool _ | .number _ _ => none

/-- Transform a vendor device to micboard format, or nothing if transformation fails. -/
def transformDeviceData (catalog : VendorCatalog)
    (apiData : JsonObject) : Option TransformedDevice := do
  let deviceId := apiData.get "id"
  if !deviceId.isTruthy then none
  else
    let identity ← identifyDeviceModel catalog apiData
    let channels ← transformChannels (apiData.getD "channels" (.array [] "[]"))
    some {
      fields := [
        ("api_device_id", deviceId.toPyValue),
        ("ip", ((apiData.get "ip").orElse ((apiData.get "ip_address").orElse
          ((apiData.get "ipAddress").orElse (.text "")))).toPyValue),
        ("type", .text identity.type),
        ("name", ((apiData.get "name").orElse ((apiData.get "device_name").orElse
          ((apiData.get "deviceName").orElse (.text identity.model)))).toPyValue),
        ("firmware", .text identity.firmware),
        ("serial", (apiData.getAlias "serial_number" "serialNumber" .null).toPyValue),
        ("hostname", (apiData.get "hostname").toPyValue),
        ("mac_address", (apiData.getAlias "mac_address" "macAddress" .null).toPyValue),
        ("model_variant", (apiData.getAlias "model_variant" "modelVariant" .null).toPyValue),
        ("band", (apiData.getAlias "frequency_band" "frequencyBand" .null).toPyValue),
        ("location", (apiData.get "location").toPyValue)]
      channels }

end Micboard
