import Micboard.IdentityMac

/-! Vendor payloads and their manufacturer-neutral normalization. A payload is a dictionary whose values
may be anything JSON holds; a normalized one has a non-blank identifier and address and a hardware
address in canonical spelling, or none. -/

namespace Micboard

open Library.Text

/-- A value of a vendor dictionary: `None`, text, text with an unpaired surrogate, which JSON can
spell but no encoding holds, or anything else, with its truth value and its `str(…)`. -/
inductive PyValue where
  | none
  | text (value : String)
  | unpaired
  | other (truthy : Bool) (rendering : String)
  deriving DecidableEq, Repr

namespace PyValue

def isTruthy : PyValue → Bool
  | none => false
  | text value => value ≠ ""
  | unpaired => true
  | other truthy _ => truthy

/-- `str(value)`. Of text that no encoding holds nothing is kept, and whoever uses it fails as on
none. -/
def str : PyValue → String
  | none => "None"
  | text value => value
  | unpaired => ""
  | other _ rendering => rendering

/-- `first or second`. -/
def orElse (first second : PyValue) : PyValue := if first.isTruthy then first else second

end PyValue

/-- A dictionary as its items. -/
abbrev VendorPayload := List (String × PyValue)

/-- `data.get(key, default)`. -/
def VendorPayload.getD (data : VendorPayload) (key : String) (default : PyValue) : PyValue :=
  ((data.find? fun item => item.1 = key).map Prod.snd).getD default

/-- `data.get(key)`. -/
def VendorPayload.get (data : VendorPayload) (key : String) : PyValue := data.getD key .none

/-- The first truthy value among the keys, else the empty text. -/
def VendorPayload.firstOf (data : VendorPayload) (keys : List String) : PyValue :=
  keys.foldr (fun key rest => (data.get key).orElse rest) (.text "")

/-- What reading a payload raises: a text operation on something else, or a rejected field. -/
inductive PayloadError where
  | attributeError
  | validationError (field : String)
  deriving DecidableEq, Repr

abbrev StrippedText := { text : String // trim text = text }

/-- `value.strip()`, which only text has. What is left of text that no encoding holds is such text. -/
def stripped : PyValue → Except PayloadError (Option StrippedText)
  | .text value => .ok (some ⟨strip value, trim_strip value⟩)
  | .unpaired => .ok none
  | .none | .other _ _ => .error .attributeError

/-- The validation of a `str` field, which refuses text that no encoding holds. -/
def validated (field : String) (value : Option StrippedText) :
    Except PayloadError { text : StrippedText // value = some text } :=
  match value with
  | some text => .ok ⟨text, rfl⟩
  | none => .error (.validationError field)

/-- The validation of a `str | None` field. -/
def optionalText (field : String) : PyValue → Except PayloadError (Option String)
  | .none => .ok none
  | .text value => .ok (some (trim value))
  | .unpaired | .other _ _ => .error (.validationError field)

/-- Normalized hardware payload independent of manufacturer key names. -/
structure NormalizedHardware where
  apiDeviceId : String
  ip : String
  serialNumber : String
  macAddress : String
  name : String
  model : String
  deviceType : String
  firmwareVersion : String
  hostedFirmwareVersion : String
  description : String
  subnetMask : Option String
  gateway : Option String
  networkMode : String
  interfaceId : String
  api_trimmed : trim apiDeviceId = apiDeviceId
  ip_trimmed : trim ip = ip
  serial_trimmed : trim serialNumber = serialNumber
  api_ne : apiDeviceId ≠ ""
  ip_ne : ip ≠ ""
  mac_canonical : macAddress = "" ∨ IsCanonicalMac macAddress

theorem canonicalized_or_empty (value : Option String) :
    (canonicalizeMacAddress value).getD "" = "" ∨
      IsCanonicalMac ((canonicalizeMacAddress value).getD "") := by
  cases h : canonicalizeMacAddress value with
  | none => exact .inl rfl
  | some canonical => exact .inr (canonicalizeMacAddress_isCanonical h)

/-- `not value` of a stripped text. -/
def IsBlank (value : Option StrippedText) : Prop := value.map Subtype.val = some ""

instance (value : Option StrippedText) : Decidable (IsBlank value) :=
  inferInstanceAs (Decidable (value.map Subtype.val = some ""))

theorem not_empty_of_validated {value : Option StrippedText} {text : StrippedText}
    (hvalue : value = some text) (hblank : ¬IsBlank value) : text.val ≠ "" := by
  rintro hempty
  refine hblank ?_
  rw [IsBlank, hvalue, Option.map_some, hempty]

/-- Best-effort normalization for heterogeneous vendor payloads: every text is stripped before the first
field is validated. -/
def NormalizedHardware.fromApi (data : VendorPayload) :
    Except PayloadError (Option NormalizedHardware) := do
  let apiDeviceId ← stripped (data.firstOf ["id", "api_device_id"])
  let ip ← stripped (data.firstOf ["ip", "ipAddress", "ipv4", "ip_address"])
  if blank : IsBlank apiDeviceId ∨ IsBlank ip then
    .ok none
  else
    let serialNumber ← stripped (data.firstOf ["serial_number", "serialNumber", "serial"])
    let mac ← stripped (data.firstOf ["mac_address", "macAddress", "mac"])
    let name ← stripped (data.firstOf ["name", "model"])
    let model ← stripped (data.firstOf ["model"])
    let deviceType ← stripped (data.firstOf ["device_type"])
    let firmwareVersion ←
      stripped (data.firstOf ["firmware", "firmware_version", "firmwareVersion"])
    let hostedFirmwareVersion ← stripped (data.firstOf ["hosted_firmware_version"])
    let description ← stripped (data.firstOf ["description"])
    let networkMode ← stripped
      ((data.get "network_mode").orElse ((data.get "networkMode").orElse (.text "auto")))
    let interfaceId ← stripped (data.firstOf ["interface_id", "interfaceId"])
    let ⟨apiDeviceId, hapi⟩ ← validated "api_device_id" apiDeviceId
    let ⟨ip, hip⟩ ← validated "ip" ip
    let ⟨serialNumber, _⟩ ← validated "serial_number" serialNumber
    let ⟨name, _⟩ ← validated "name" name
    let ⟨model, _⟩ ← validated "model" model
    let ⟨deviceType, _⟩ ← validated "device_type" deviceType
    let ⟨firmwareVersion, _⟩ ← validated "firmware_version" firmwareVersion
    let ⟨hostedFirmwareVersion, _⟩ ← validated "hosted_firmware_version" hostedFirmwareVersion
    let ⟨description, _⟩ ← validated "description" description
    let subnetMask ←
      optionalText "subnet_mask" ((data.get "subnet_mask").orElse (data.get "subnetMask"))
    let gateway ← optionalText "gateway" (data.get "gateway")
    let ⟨networkMode, _⟩ ← validated "network_mode" networkMode
    let ⟨interfaceId, _⟩ ← validated "interface_id" interfaceId
    .ok (some {
      apiDeviceId := apiDeviceId.val
      ip := ip.val
      serialNumber := serialNumber.val
      -- text that no encoding holds matches no pattern of a hardware address
      macAddress := (canonicalizeMacAddress (mac.map Subtype.val)).getD ""
      name := name.val
      model := model.val
      deviceType := deviceType.val
      firmwareVersion := firmwareVersion.val
      hostedFirmwareVersion := hostedFirmwareVersion.val
      description := description.val
      subnetMask, gateway
      networkMode := networkMode.val
      interfaceId := interfaceId.val
      api_trimmed := apiDeviceId.property
      ip_trimmed := ip.property
      serial_trimmed := serialNumber.property
      api_ne := not_empty_of_validated hapi fun h => blank (.inl h)
      ip_ne := not_empty_of_validated hip fun h => blank (.inr h)
      mac_canonical := canonicalized_or_empty _ })

/-- The identity keyword arguments of a check: `canonicalize_mac_address(payload.mac_address) or
None`. -/
def NormalizedHardware.mac (payload : NormalizedHardware) : Option String :=
  canonicalizeMacAddress (some payload.macAddress)

/-- `payload.serial_number or None`. -/
def NormalizedHardware.serial (payload : NormalizedHardware) : Option String :=
  if payload.serialNumber = "" then none else some payload.serialNumber

theorem canonicalizeMacAddress_empty : canonicalizeMacAddress (some "") = none := by decide

theorem NormalizedHardware.mac_eq_some {payload : NormalizedHardware} {mac : String} :
    payload.mac = some mac ↔ payload.macAddress = mac ∧ IsCanonicalMac mac := by
  constructor
  · intro h
    have hcanonical := canonicalizeMacAddress_isCanonical h
    rcases payload.mac_canonical with hempty | hmac
    · rw [NormalizedHardware.mac, hempty, canonicalizeMacAddress_empty] at h
      cases h
    · rw [NormalizedHardware.mac, canonicalizeMacAddress_of_isCanonical hmac,
        Option.some.injEq] at h
      exact ⟨h, hcanonical⟩
  · rintro ⟨rfl, hmac⟩
    exact canonicalizeMacAddress_of_isCanonical hmac

theorem NormalizedHardware.serial_eq_some {payload : NormalizedHardware} {serial : String} :
    payload.serial = some serial ↔ payload.serialNumber = serial ∧ serial ≠ "" := by
  rw [NormalizedHardware.serial]
  split
  next h => simp [h, eq_comm]
  next h =>
    rw [Option.some.injEq]
    constructor
    · rintro rfl
      exact ⟨rfl, h⟩
    · exact And.left

theorem payload_mac_canonical (payload : NormalizedHardware) :
    canonicalizeMacAddress payload.mac = payload.mac := by
  cases hmac : payload.mac with
  | none => rfl
  | some mac =>
      exact canonicalizeMacAddress_of_isCanonical (NormalizedHardware.mac_eq_some.mp hmac).2

/-- A payload that says nothing but its identity. -/
def NormalizedHardware.identified (apiDeviceId ip serialNumber : String) (mac : Option String)
    (hapi : trim apiDeviceId = apiDeviceId ∧ apiDeviceId ≠ "" := by decide +kernel)
    (hip : trim ip = ip ∧ ip ≠ "" := by decide +kernel)
    (hserial : trim serialNumber = serialNumber := by decide +kernel) : NormalizedHardware where
  apiDeviceId
  ip
  serialNumber
  macAddress := (canonicalizeMacAddress mac).getD ""
  name := ""
  model := ""
  deviceType := ""
  firmwareVersion := ""
  hostedFirmwareVersion := ""
  description := ""
  subnetMask := none
  gateway := none
  networkMode := "auto"
  interfaceId := ""
  api_trimmed := hapi.1
  ip_trimmed := hip.1
  serial_trimmed := hserial
  api_ne := hapi.2
  ip_ne := hip.2
  mac_canonical := canonicalized_or_empty mac

end Micboard
