import Micboard.HardwarePayload
import Micboard.LibraryRun

/-! Normalization of an inventory. Every field of a payload is read through its alias keys, and text
methods are applied to whatever value comes first, and the texts are validated afterwards; the loop
over the devices does not catch what that raises. So the whole inventory is normalized exactly when
every value that is consulted is text and some encoding holds it. -/

namespace Micboard

open Library Library.Text

def normalizeDevices {ρ : Type*} (transformDeviceData : ρ → Option VendorPayload) :
    List ρ → Except PayloadError (List NormalizedHardware)
  | [] => .ok []
  | raw :: rest =>
    match transformDeviceData raw with
    | none | some [] => normalizeDevices transformDeviceData rest
    | some transformed => do
      match ← NormalizedHardware.fromApi transformed with
      | none => normalizeDevices transformDeviceData rest
      | some payload => do
        let normalized ← normalizeDevices transformDeviceData rest
        .ok (payload :: normalized)

namespace PyValue

/-- What the text methods accept. -/
def IsString : PyValue → Prop
  | .text _ | .unpaired => True
  | .none | .other _ _ => False

/-- What a text field accepts. -/
def IsText : PyValue → Prop
  | .text _ => True
  | .none | .unpaired | .other _ _ => False

def IsOptionalText : PyValue → Prop
  | .none | .text _ => True
  | .unpaired | .other _ _ => False

/-- Text of which something is left when it is stripped. -/
def IsNonblank : PyValue → Prop
  | .text value => strip value ≠ ""
  | .unpaired => True
  | .none | .other _ _ => False

theorem isText_iff {value : PyValue} : value.IsText ↔ ∃ text, value = .text text := by
  cases value <;> simp [IsText]

theorem isString_iff {value : PyValue} : value.IsString ↔ ∃ read, stripped value = .ok read := by
  cases value <;> simp [IsString, stripped]

theorem isOptionalText_iff (field : String) {value : PyValue} :
    value.IsOptionalText ↔ ∃ text, optionalText field value = .ok text := by
  cases value <;> simp [IsOptionalText, optionalText]

theorem isNonblank_iff {value : PyValue} {read : Option StrippedText} (h : stripped value = .ok read) :
    value.IsNonblank ↔ ¬IsBlank read := by
  cases value with
  | text text =>
      obtain rfl := Except.ok.inj h
      simp [IsNonblank, IsBlank]
  | unpaired =>
      obtain rfl := Except.ok.inj h
      simp [IsNonblank, IsBlank]
  | none | other => cases h

end PyValue

namespace VendorPayload

def deviceId (data : VendorPayload) : PyValue := data.firstOf ["id", "api_device_id"]

def deviceIp (data : VendorPayload) : PyValue := data.firstOf ["ip", "ipAddress", "ipv4", "ip_address"]

def hardwareAddress (data : VendorPayload) : PyValue :=
  data.firstOf ["mac_address", "macAddress", "mac"]

/-- The payload has a textual identifier and a textual address that are not blank. -/
def HasIdentity (data : VendorPayload) : Prop := data.deviceId.IsNonblank ∧ data.deviceIp.IsNonblank

/-- The keys of the validated text fields. -/
def textKeys : List (List String) :=
  [["id", "api_device_id"], ["ip", "ipAddress", "ipv4", "ip_address"],
    ["serial_number", "serialNumber", "serial"], ["name", "model"], ["model"], ["device_type"],
    ["firmware", "firmware_version", "firmwareVersion"], ["hosted_firmware_version"], ["description"],
    ["network_mode", "networkMode"], ["interface_id", "interfaceId"]]

/-- Whatever is consulted is text: the identifier and the address, and where these two are not blank
every field, which but for the hardware address must be text that some encoding holds. -/
structure Readable (data : VendorPayload) : Prop where
  deviceId : data.deviceId.IsString
  deviceIp : data.deviceIp.IsString
  texts : data.HasIdentity → ∀ keys ∈ textKeys, (data.firstOf keys).IsText
  hardwareAddress : data.HasIdentity → data.hardwareAddress.IsString
  subnetMask : data.HasIdentity →
    ((data.get "subnet_mask").orElse (data.get "subnetMask")).IsOptionalText
  gateway : data.HasIdentity → (data.get "gateway").IsOptionalText

theorem networkMode_isText {data : VendorPayload} :
    ((data.get "network_mode").orElse ((data.get "networkMode").orElse (.text "auto"))).IsText ↔
      (data.firstOf ["network_mode", "networkMode"]).IsText := by
  simp only [firstOf, List.foldr_cons, List.foldr_nil, PyValue.orElse]
  split
  next => rfl
  next =>
    split
    next => rfl
    next => exact iff_of_true trivial trivial

end VendorPayload

def Reads (value : PyValue) (text : String) : Prop := ∃ raw, value = .text raw ∧ text = strip raw

theorem Reads.isText {value : PyValue} {text : String} (h : Reads value text) : value.IsText := by
  obtain ⟨raw, rfl, -⟩ := h
  trivial

/-- What a validated field holds. -/
theorem reads_of_stripped {value : PyValue} {read : Option StrippedText} {text : StrippedText}
    (h : stripped value = .ok read) (htext : read = some text) : Reads value text.val := by
  subst htext
  cases value with
  | text raw =>
      obtain rfl := Option.some.inj (Except.ok.inj h)
      exact ⟨raw, rfl, rfl⟩
  | unpaired => cases Except.ok.inj h
  | none | other => cases h

/-- The hardware address that a value stands for, empty if it stands for none. -/
def hardwareAddressText : PyValue → String
  | .text value => (canonicalizeMacAddress (some (strip value))).getD ""
  | .none | .unpaired | .other _ _ => ""

theorem hardwareAddressText_of_stripped {value : PyValue} {read : Option StrippedText}
    (h : stripped value = .ok read) :
    (canonicalizeMacAddress (read.map Subtype.val)).getD "" = hardwareAddressText value := by
  cases value with
  | text | unpaired =>
      obtain rfl := Except.ok.inj h
      rfl
  | none | other => cases h

structure ReadFrom (data : VendorPayload) (payload : NormalizedHardware) : Prop where
  apiDeviceId : Reads data.deviceId payload.apiDeviceId
  ip : Reads data.deviceIp payload.ip
  serialNumber : Reads (data.firstOf ["serial_number", "serialNumber", "serial"]) payload.serialNumber
  hardwareAddress : data.hardwareAddress.IsString
  macAddress : payload.macAddress = hardwareAddressText data.hardwareAddress
  name : Reads (data.firstOf ["name", "model"]) payload.name
  model : Reads (data.firstOf ["model"]) payload.model
  deviceType : Reads (data.firstOf ["device_type"]) payload.deviceType
  firmwareVersion :
    Reads (data.firstOf ["firmware", "firmware_version", "firmwareVersion"]) payload.firmwareVersion
  hostedFirmwareVersion :
    Reads (data.firstOf ["hosted_firmware_version"]) payload.hostedFirmwareVersion
  description : Reads (data.firstOf ["description"]) payload.description
  subnetMask : optionalText "subnet_mask" ((data.get "subnet_mask").orElse (data.get "subnetMask")) =
    .ok payload.subnetMask
  gateway : optionalText "gateway" (data.get "gateway") = .ok payload.gateway
  networkMode :
    Reads ((data.get "network_mode").orElse ((data.get "networkMode").orElse (.text "auto")))
    payload.networkMode
  interfaceId : Reads (data.firstOf ["interface_id", "interfaceId"]) payload.interfaceId

/-- A payload that raises nothing is skipped where it has no identity, and is read where it has one. -/
theorem fromApi_cases {data : VendorPayload} {result : Option NormalizedHardware}
    (h : NormalizedHardware.fromApi data = .ok result) :
    (result = none ∧ ¬data.HasIdentity ∧ data.deviceId.IsString ∧ data.deviceIp.IsString) ∨
      ∃ payload, result = some payload ∧ data.HasIdentity ∧ ReadFrom data payload := by
  unfold NormalizedHardware.fromApi at h
  obtain ⟨_, hid, h⟩ := bind_eq_ok.mp h
  obtain ⟨_, hip, h⟩ := bind_eq_ok.mp h
  have hidentity := and_congr (PyValue.isNonblank_iff hid) (PyValue.isNonblank_iff hip)
  rw [← not_or] at hidentity
  dsimp only at h
  split at h
  next hblank =>
    refine .inl ⟨(Except.ok.inj h).symm, fun hnot => hidentity.mp hnot hblank, ?_, ?_⟩
    · exact PyValue.isString_iff.mpr ⟨_, hid⟩
    · exact PyValue.isString_iff.mpr ⟨_, hip⟩
  next hblank =>
    obtain ⟨_, hserial, h⟩ := bind_eq_ok.mp h
    obtain ⟨_, hmac, h⟩ := bind_eq_ok.mp h
    obtain ⟨_, hname, h⟩ := bind_eq_ok.mp h
    obtain ⟨_, hmodel, h⟩ := bind_eq_ok.mp h
    obtain ⟨_, htype, h⟩ := bind_eq_ok.mp h
    obtain ⟨_, hfirmware, h⟩ := bind_eq_ok.mp h
    obtain ⟨_, hhosted, h⟩ := bind_eq_ok.mp h
    obtain ⟨_, hdescription, h⟩ := bind_eq_ok.mp h
    obtain ⟨_, hmode, h⟩ := bind_eq_ok.mp h
    obtain ⟨_, hinterface, h⟩ := bind_eq_ok.mp h
    obtain ⟨⟨_, hidText⟩, -, h⟩ := bind_eq_ok.mp h
    obtain ⟨⟨_, hipText⟩, -, h⟩ := bind_eq_ok.mp h
    obtain ⟨⟨_, hserialText⟩, -, h⟩ := bind_eq_ok.mp h
    obtain ⟨⟨_, hnameText⟩, -, h⟩ := bind_eq_ok.mp h
    obtain ⟨⟨_, hmodelText⟩, -, h⟩ := bind_eq_ok.mp h
    obtain ⟨⟨_, htypeText⟩, -, h⟩ := bind_eq_ok.mp h
    obtain ⟨⟨_, hfirmwareText⟩, -, h⟩ := bind_eq_ok.mp h
    obtain ⟨⟨_, hhostedText⟩, -, h⟩ := bind_eq_ok.mp h
    obtain ⟨⟨_, hdescriptionText⟩, -, h⟩ := bind_eq_ok.mp h
    obtain ⟨_, hmask, h⟩ := bind_eq_ok.mp h
    obtain ⟨_, hgateway, h⟩ := bind_eq_ok.mp h
    obtain ⟨⟨_, hmodeText⟩, -, h⟩ := bind_eq_ok.mp h
    obtain ⟨⟨_, hinterfaceText⟩, -, h⟩ := bind_eq_ok.mp h
    refine .inr ⟨_, (Except.ok.inj h).symm, hidentity.mpr hblank, ?_⟩
    exact {
      apiDeviceId := reads_of_stripped hid hidText
      ip := reads_of_stripped hip hipText
      serialNumber := reads_of_stripped hserial hserialText
      hardwareAddress := PyValue.isString_iff.mpr ⟨_, hmac⟩
      macAddress := hardwareAddressText_of_stripped hmac
      name := reads_of_stripped hname hnameText
      model := reads_of_stripped hmodel hmodelText
      deviceType := reads_of_stripped htype htypeText
      firmwareVersion := reads_of_stripped hfirmware hfirmwareText
      hostedFirmwareVersion := reads_of_stripped hhosted hhostedText
      description := reads_of_stripped hdescription hdescriptionText
      subnetMask := hmask
      gateway := hgateway
      networkMode := reads_of_stripped hmode hmodeText
      interfaceId := reads_of_stripped hinterface hinterfaceText }

theorem fromApi_isSome_iff {data : VendorPayload} {result : Option NormalizedHardware}
    (h : NormalizedHardware.fromApi data = .ok result) : result.isSome = true ↔ data.HasIdentity := by
  rcases fromApi_cases h with ⟨rfl, hnone, -⟩ | ⟨payload, rfl, hidentity, -⟩
  · exact iff_of_false Bool.false_ne_true hnone
  · exact iff_of_true rfl hidentity

theorem fromApi_readFrom {data : VendorPayload} {payload : NormalizedHardware}
    (h : NormalizedHardware.fromApi data = .ok (some payload)) : ReadFrom data payload := by
  rcases fromApi_cases h with ⟨heq, -⟩ | ⟨_, heq, -, hread⟩
  · cases heq
  · obtain rfl := Option.some.inj heq
    exact hread

theorem ReadFrom.texts {data : VendorPayload} {payload : NormalizedHardware}
    (h : ReadFrom data payload) :
    ∀ keys ∈ VendorPayload.textKeys, (data.firstOf keys).IsText := by
  simp only [VendorPayload.textKeys, List.forall_mem_cons, List.not_mem_nil,
    false_imp_iff, forall_const,
    and_true]
  exact ⟨h.apiDeviceId.isText, h.ip.isText, h.serialNumber.isText, h.name.isText, h.model.isText,
    h.deviceType.isText, h.firmwareVersion.isText, h.hostedFirmwareVersion.isText, h.description.isText,
    VendorPayload.networkMode_isText.mp h.networkMode.isText, h.interfaceId.isText⟩

/-- Every field of a readable payload with an identity is read. -/
theorem VendorPayload.Readable.fromApi {data : VendorPayload} (h : data.Readable) :
    ∃ result, NormalizedHardware.fromApi data = .ok result := by
  obtain ⟨id, hid⟩ := PyValue.isString_iff.mp h.deviceId
  obtain ⟨ip, hip⟩ := PyValue.isString_iff.mp h.deviceIp
  have hidentity : data.HasIdentity ↔ ¬(IsBlank id ∨ IsBlank ip) :=
    (and_congr (PyValue.isNonblank_iff hid) (PyValue.isNonblank_iff hip)).trans not_or.symm
  rw [VendorPayload.deviceId] at hid
  rw [VendorPayload.deviceIp] at hip
  by_cases hblank : IsBlank id ∨ IsBlank ip
  · refine ⟨none, ?_⟩
    unfold NormalizedHardware.fromApi
    rw [hid, hip]
    exact dif_pos hblank
  · have hnonblank := hidentity.mpr hblank
    obtain ⟨mac, hmac⟩ := PyValue.isString_iff.mp (h.hardwareAddress hnonblank)
    obtain ⟨mask, hmask⟩ := (PyValue.isOptionalText_iff "subnet_mask").mp (h.subnetMask hnonblank)
    obtain ⟨gateway, hgateway⟩ := (PyValue.isOptionalText_iff "gateway").mp (h.gateway hnonblank)
    have htexts := h.texts hnonblank
    simp only [textKeys, List.forall_mem_cons, List.not_mem_nil, false_imp_iff, forall_const,
      and_true] at htexts
    rw [← networkMode_isText] at htexts
    simp only [PyValue.isText_iff] at htexts
    obtain ⟨⟨idText, hidText⟩, ⟨ipText, hipText⟩, ⟨serial, hserial⟩, ⟨name, hname⟩, ⟨model, hmodel⟩,
      ⟨type, htype⟩, ⟨firmware, hfirmware⟩, ⟨hosted, hhosted⟩, ⟨description,
        hdescription⟩, ⟨mode, hmode⟩,
      ⟨interface, hinterface⟩⟩ := htexts
    rw [hidText] at hid
    rw [hipText] at hip
    obtain rfl := Except.ok.inj hid
    obtain rfl := Except.ok.inj hip
    unfold NormalizedHardware.fromApi
    rw [hidText, hipText, hserial, hname, hmodel, htype, hfirmware, hhosted, hdescription,
      hmode, hinterface,
      ← VendorPayload.hardwareAddress, hmac, hmask, hgateway]
    exact ⟨_, dif_neg hblank⟩

/-- Normalizing a payload raises nothing exactly when whatever is consulted is text. -/
theorem fromApi_eq_ok_iff {data : VendorPayload} :
    (∃ result, NormalizedHardware.fromApi data = .ok result) ↔ data.Readable := by
  refine ⟨?_, VendorPayload.Readable.fromApi⟩
  rintro ⟨result, h⟩
  rcases fromApi_cases h with ⟨-, hnone, hid, hip⟩ | ⟨payload, -, -, hread⟩
  · exact ⟨hid, hip, (absurd · hnone), (absurd · hnone), (absurd · hnone), (absurd · hnone)⟩
  · have hstring : ∀ {value : PyValue}, value.IsText → value.IsString := by
      intro value htext
      obtain ⟨text, rfl⟩ := PyValue.isText_iff.mp htext
      trivial
    exact ⟨hstring hread.apiDeviceId.isText, hstring hread.ip.isText, fun _ => hread.texts,
      fun _ => hread.hardwareAddress, fun _ => (PyValue.isOptionalText_iff _).mpr ⟨_, hread.subnetMask⟩,
      fun _ => (PyValue.isOptionalText_iff _).mpr ⟨_, hread.gateway⟩⟩

/-! ### The inventory -/

section Inventory

variable {ρ : Type*} {transformDeviceData : ρ → Option VendorPayload}

/-- The transformed payload of a device that is not skipped before its normalization. -/
def Transforms (transformDeviceData : ρ → Option VendorPayload) (raw : ρ)
    (data : VendorPayload) : Prop :=
  transformDeviceData raw = some data ∧ data ≠ []

theorem normalizeDevices_cons (raw : ρ) (rest : List ρ) :
    (normalizeDevices transformDeviceData (raw :: rest) = normalizeDevices transformDeviceData rest ∧
        ∀ data, ¬Transforms transformDeviceData raw data) ∨
      ∃ data, Transforms transformDeviceData raw data ∧
        normalizeDevices transformDeviceData (raw :: rest) = (do
          match ← NormalizedHardware.fromApi data with
          | none => normalizeDevices transformDeviceData rest
          | some payload => do
            let normalized ← normalizeDevices transformDeviceData rest
            .ok (payload :: normalized)) := by
  cases htransform : transformDeviceData raw with
  | none =>
      refine .inl ⟨by rw [normalizeDevices, htransform], ?_⟩
      rintro data ⟨hdata, -⟩
      rw [htransform] at hdata
      cases hdata
  | some data =>
      cases data with
      | nil =>
          refine .inl ⟨by rw [normalizeDevices, htransform], ?_⟩
          rintro data ⟨hdata, hne⟩
          rw [htransform, Option.some.injEq] at hdata
          exact hne hdata.symm
      | cons item items =>
          refine .inr ⟨item :: items, ⟨htransform, by simp⟩, ?_⟩
          rw [normalizeDevices, htransform]

/-- The loop ends exactly when every transformed payload is readable. -/
theorem normalizeDevices_eq_ok_iff {devices : List ρ} :
    (∃ normalized, normalizeDevices transformDeviceData devices = .ok normalized) ↔
      ∀ raw ∈ devices, ∀ data, Transforms transformDeviceData raw data → data.Readable := by
  induction devices with
  | nil => exact iff_of_true ⟨[], rfl⟩ (by simp)
  | cons raw rest ih =>
      rw [List.forall_mem_cons, ← ih]
      rcases @normalizeDevices_cons _ transformDeviceData raw rest with
        ⟨hskip, hnone⟩ | ⟨data, htransforms, hstep⟩
      · rw [hskip]
        exact (and_iff_right fun data hdata => absurd hdata (hnone data)).symm
      · rw [hstep]
        have hhead : (∀ other, Transforms transformDeviceData raw other → other.Readable) ↔
            data.Readable := by
          refine ⟨fun h => h data htransforms, fun h other hother => ?_⟩
          obtain rfl := Option.some.inj (hother.1.symm.trans htransforms.1)
          exact h
        rw [hhead, ← fromApi_eq_ok_iff]
        cases hread : NormalizedHardware.fromApi data with
        | error e =>
            refine iff_of_false ?_ ?_
            · rintro ⟨normalized, h⟩
              cases h
            · rintro ⟨⟨result, h⟩, -⟩
              cases h
        | ok result =>
            refine Iff.trans ?_ (and_iff_right ⟨result, rfl⟩).symm
            cases result with
            | none => exact Iff.rfl
            | some payload =>
                constructor
                · rintro ⟨normalized, h⟩
                  obtain ⟨_, heq, h⟩ := bind_eq_ok.mp h
                  obtain rfl := Except.ok.inj heq
                  obtain ⟨tail, htail, -⟩ := bind_eq_ok.mp h
                  exact ⟨tail, htail⟩
                · rintro ⟨tail, htail⟩
                  refine ⟨payload :: tail, ?_⟩
                  show (normalizeDevices transformDeviceData rest >>= _) = _
                  rw [htail]
                  rfl

/-- A normalized inventory holds the normalization of each of its devices. -/
theorem mem_normalizeDevices {devices : List ρ} {normalized : List NormalizedHardware}
    (h : normalizeDevices transformDeviceData devices = .ok normalized) {raw : ρ} (hraw : raw ∈ devices)
    {data : VendorPayload} (htransforms : Transforms transformDeviceData raw data)
    {payload : NormalizedHardware} (hread : NormalizedHardware.fromApi data = .ok (some payload)) :
    payload ∈ normalized := by
  induction devices generalizing normalized with
  | nil => cases hraw
  | cons first rest ih =>
      rcases @normalizeDevices_cons _ transformDeviceData first rest with
        ⟨hskip, hnone⟩ | ⟨firstData, hfirst, hstep⟩
      · rw [hskip] at h
        rcases List.mem_cons.mp hraw with rfl | hrest
        · exact absurd htransforms (hnone data)
        · exact ih h hrest
      · rw [hstep] at h
        obtain ⟨result, hresult, h⟩ := bind_eq_ok.mp h
        rcases List.mem_cons.mp hraw with rfl | hrest
        · obtain rfl := Option.some.inj (htransforms.1.symm.trans hfirst.1)
          rw [hread] at hresult
          obtain rfl := Except.ok.inj hresult
          obtain ⟨tail, -, h⟩ := bind_eq_ok.mp h
          obtain rfl := Except.ok.inj h
          exact List.mem_cons_self
        · cases result with
          | none => exact ih h hrest
          | some other =>
              obtain ⟨tail, htail, h⟩ := bind_eq_ok.mp h
              obtain rfl := Except.ok.inj h
              exact List.mem_cons_of_mem _ (ih htail hrest)

end Inventory

theorem VendorPayload.HasIdentity.ne_nil {data : VendorPayload} (h : data.HasIdentity) : data ≠ [] := by
  rintro rfl
  exact h.1 rfl

/-- **No payload of a list raises, and every one with an identity is normalized, exactly when each
of them holds text wherever the normalization consults a value.** -/
theorem normalization_total_iff (devices : List VendorPayload) :
    ((∀ device ∈ devices, ∃ result, NormalizedHardware.fromApi device = .ok result) ∧
      ∃ normalized, normalizeDevices some devices = .ok normalized ∧
        ∀ device ∈ devices, device.HasIdentity →
          ∃ payload ∈ normalized, NormalizedHardware.fromApi device = .ok (some payload)) ↔
      ∀ device ∈ devices, device.Readable := by
  constructor
  · rintro ⟨hread, -⟩ device hdevice
    exact fromApi_eq_ok_iff.mp (hread device hdevice)
  · intro hreadable
    have hread : ∀ device ∈ devices, ∃ result, NormalizedHardware.fromApi device = .ok result :=
      fun device hdevice => fromApi_eq_ok_iff.mpr (hreadable device hdevice)
    have hall : ∀ raw ∈ devices, ∀ data, Transforms some raw data → data.Readable := by
      rintro raw hraw data ⟨hdata, -⟩
      obtain rfl := Option.some.inj hdata
      exact hreadable raw hraw
    obtain ⟨normalized, hnormalized⟩ := normalizeDevices_eq_ok_iff.mpr hall
    refine ⟨hread, normalized, hnormalized, ?_⟩
    intro device hdevice hidentity
    obtain ⟨result, hresult⟩ := hread device hdevice
    obtain ⟨payload, rfl⟩ := Option.isSome_iff_exists.mp ((fromApi_isSome_iff hresult).mpr hidentity)
    exact ⟨payload, mem_normalizeDevices hnormalized hdevice ⟨rfl, hidentity.ne_nil⟩ hresult, hresult⟩

/-- A receiver with a numeric identifier and one that is well formed. -/
def mixedInventory : List VendorPayload :=
  [[("id", .other true "5"), ("ip", .text "10.0.0.1")],
    [("id", .text "rx-2"), ("ip", .text "10.0.0.2")]]

/-- The numeric identifier of one device aborts the normalization of both. -/
theorem numeric_id_aborts_inventory :
    normalizeDevices some mixedInventory = .error .attributeError ∧
      VendorPayload.HasIdentity [("id", .text "rx-2"), ("ip", .text "10.0.0.2")] := by
  have hid : strip "rx-2" ≠ "" := by decide +kernel
  have hip : strip "10.0.0.2" ≠ "" := by decide +kernel
  exact ⟨rfl, hid, hip⟩

end Micboard
