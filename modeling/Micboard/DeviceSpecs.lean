import Micboard.ChassisModel
import Micboard.DeviceImport

/-! The registry of device specifications: channel capacity, role and Dante support of the known
models, and what is looked up of it for a chassis. A model is found by its name, however its
letters, hyphens and blanks are written. What the registry knows of a model replaces what an
instance says of it. -/

namespace Micboard

open Library Library.Text

/-- `lower()` of one character where the result holds ASCII text; any other character is no part of a
registered name. -/
def lowerChar (c : Char) : List Char :=
  match c with
  | 'K' => ['k']
  | 'İ' => ['i', '\u0307']
  | c => [c.toLower]

/-- `text.lower()`, as far as it is compared with registered names. -/
def lowerText (text : String) : String := String.ofList (text.toList.flatMap lowerChar)

/-- An entry of `fixtures/device_specifications.yaml`. -/
structure DeviceEntry where
  channels : Nat
  role : String
  dante : Bool
  models : List String
  deriving DecidableEq, Repr

/-- Unified device specifications by manufacturer. -/
def deviceSpecifications : List (String × List DeviceEntry) :=
  [("shure", [
    ⟨2, "receiver", true, ["ULX-D4D", "ULXD4D", "ULXD4D-GV"]⟩,
    ⟨4, "receiver", true, ["ULX-D4Q", "ULXD4Q", "ULXD4Q-GV"]⟩,
    ⟨1, "receiver", false, ["ULX-D4GV", "ULXD4GV", "ULX-D4"]⟩,
    ⟨2, "receiver", false, ["AD4D", "AD4DNP", "AD4D-A"]⟩,
    ⟨4, "receiver", false, ["AD4Q", "AD4QNP", "AD4Q-A"]⟩,
    ⟨2, "receiver", false, ["ADX5D", "ADX5D-A"]⟩,
    ⟨4, "transmitter", false, ["ADPSM", "ADPSM-A", "ADPSM-TW"]⟩,
    ⟨1, "receiver", false, ["QLX-D1", "QLXD1"]⟩,
    ⟨2, "receiver", false, ["QLX-D2", "QLXD2"]⟩,
    ⟨4, "receiver", false, ["QLX-D4", "QLXD4"]⟩,
    ⟨1, "receiver", false, ["SLX-D1", "SLXD1"]⟩,
    ⟨2, "receiver", false, ["SLX-D2", "SLXD2"]⟩,
    ⟨4, "receiver", false, ["SLX-D4", "SLXD4"]⟩,
    ⟨2, "receiver", false, ["GLX-D12", "GLXD12"]⟩,
    ⟨4, "receiver", false, ["GLX-D14", "GLXD14"]⟩,
    ⟨4, "receiver", false, ["UHF-R", "UHFR"]⟩,
    ⟨16, "receiver", true, ["ANX4", "ANX4LC", "ANX4-AxientDigital"]⟩,
    ⟨24, "receiver", true, ["ANX4-ULXD", "ANX4-ULX"]⟩]),
    ("sennheiser", [
    ⟨64, "transceiver", true, ["Spectera", "Spectera Base", "Spectera Base Station"]⟩,
    ⟨2, "transceiver", false, ["Spectera SEK", "SEK"]⟩,
    ⟨1, "receiver", false, ["EW-D SR", "SR"]⟩,
    ⟨16, "transmitter", false, ["IEM Transmitter"]⟩]),
    ("wisycom", [
    ⟨1, "receiver", false, ["SR1", "SR1-HM"]⟩,
    ⟨1, "receiver", true, ["SR1B", "SR1B-HM"]⟩,
    ⟨2, "receiver", false, ["SR1 TWO"]⟩,
    ⟨16, "transmitter", false, ["MixPre"]⟩]),
    ("ulbaco", [
    ⟨4, "receiver", false, ["WMU4D"]⟩])]

/-- `model.upper().replace("-", "").replace(" ", "")`. -/
def modelKey (model : String) : String :=
  String.ofList ((upperText model).toList.filter fun c => c ≠ '-' ∧ c ≠ ' ')

/-- `registry.get(key)`. -/
def registered {α : Type} (registry : List (String × α)) (key : String) : Option α :=
  (registry.find? fun entry => entry.1 = key).map Prod.snd

theorem registered_mem {α : Type} {registry : List (String × α)} {key : String} {value : α}
    (h : registered registry key = some value) : (key, value) ∈ registry := by
  obtain ⟨⟨found, value⟩, hfind, rfl⟩ := Option.map_eq_some_iff.mp h
  have hkey : found = key := by simpa using List.find?_some hfind
  rw [← hkey]
  exact List.mem_of_find?_eq_some hfind

/-- Look up device specifications by manufacturer and model; a missing code is the empty text. -/
def getDeviceSpec (manufacturer model : String) : Option DeviceEntry :=
  if manufacturer = "" ∨ model = "" then none
  else (registered deviceSpecifications (lowerText manufacturer)).bind fun mfgSpecs =>
    mfgSpecs.find? fun spec => spec.models.any fun variant => modelKey variant = modelKey model

def getChannelCount (manufacturer model : String) : Nat :=
  match getDeviceSpec manufacturer model with
  | some spec => spec.channels
  | none => 4

def getDeviceRole (manufacturer model : String) : String :=
  match getDeviceSpec manufacturer model with
  | some spec => spec.role
  | none => "receiver"

/-- Check if device supports Dante audio networking. -/
def getDanteSupport (manufacturer model : String) : Bool :=
  match getDeviceSpec manufacturer model with
  | some spec => spec.dante
  | none => false

/-- Device specifications from registry. -/
structure DeviceSpec where
  maxChannels : Nat
  danteCapable : Bool
  model : String
  manufacturer : String
  deriving DecidableEq, Repr

/-- A frequency in MHz: a nonnegative float, with infinity. -/
abbrev Frequency := WithTop ℚ

/-- The capability and band-plan columns of a chassis. -/
structure Capabilities where
  maxChannels : Nat
  danteCapable : Bool
  wmasCapable : Bool
  protocolFamily : String
  licensedResourceCount : Nat
  bandPlanName : String
  bandPlanMinMhz : Option Frequency
  bandPlanMaxMhz : Option Frequency
  deriving DecidableEq

/-- A `WirelessChassis` row or instance with its capability columns. -/
structure EquippedChassis where
  chassis : Chassis
  capabilities : Capabilities
  deriving DecidableEq

namespace DeviceSpecService

/-- Get device specifications for a manufacturer/model combination. -/
def getSpecs (manufacturer : Manufacturer) (model : String) : Option DeviceSpec :=
  let mfgCode := lowerText manufacturer.code
  if model = "" ∨ getDeviceSpec mfgCode model = none then none
  else some {
    maxChannels := getChannelCount mfgCode model
    danteCapable := getDanteSupport mfgCode model
    model
    manufacturer := mfgCode }

/-- Apply specifications to a chassis instance. -/
def applySpecsToChassis (device : EquippedChassis) : EquippedChassis :=
  match getSpecs device.chassis.manufacturer device.chassis.model with
  | none => device
  | some spec =>
    { device with capabilities := { device.capabilities with
        maxChannels := spec.maxChannels
        danteCapable := spec.danteCapable } }

end DeviceSpecService

/-- The capacity that the registry gives a model, or else the one that is stated. -/
def specCapacity (manufacturer : Manufacturer) (model : String) (stated : Nat) : Nat :=
  ((DeviceSpecService.getSpecs manufacturer model).map DeviceSpec.maxChannels).getD stated

section Applied

variable (device : EquippedChassis)

@[simp] theorem applySpecsToChassis_chassis :
    (DeviceSpecService.applySpecsToChassis device).chassis = device.chassis := by
  rw [DeviceSpecService.applySpecsToChassis]
  split <;> rfl

@[simp] theorem applySpecsToChassis_maxChannels :
    (DeviceSpecService.applySpecsToChassis device).capabilities.maxChannels =
      specCapacity device.chassis.manufacturer device.chassis.model
        device.capabilities.maxChannels := by
  rw [DeviceSpecService.applySpecsToChassis, specCapacity]
  cases DeviceSpecService.getSpecs device.chassis.manufacturer device.chassis.model <;> rfl

@[simp] theorem applySpecsToChassis_bandPlanName :
    (DeviceSpecService.applySpecsToChassis device).capabilities.bandPlanName =
      device.capabilities.bandPlanName := by
  rw [DeviceSpecService.applySpecsToChassis]
  split <;> rfl

@[simp] theorem applySpecsToChassis_bandPlanMinMhz :
    (DeviceSpecService.applySpecsToChassis device).capabilities.bandPlanMinMhz =
      device.capabilities.bandPlanMinMhz := by
  rw [DeviceSpecService.applySpecsToChassis]
  split <;> rfl

@[simp] theorem applySpecsToChassis_bandPlanMaxMhz :
    (DeviceSpecService.applySpecsToChassis device).capabilities.bandPlanMaxMhz =
      device.capabilities.bandPlanMaxMhz := by
  rw [DeviceSpecService.applySpecsToChassis]
  split <;> rfl

end Applied

end Micboard
