import Mathlib.Data.Option.Basic
import Micboard.BandPlans

/-! The band plan of a chassis: what is detected of it from the text of a vendor or from the model,
and how the save hook fills the columns that are still empty. A detected label is turned back into a
key of the registry, but the label of a plan never is its key, so that the plan is not found again.
-/

namespace Micboard

open Library Library.Text

structure BandPlanInfo where
  name : Option String := none
  minMhz : Option Frequency := none
  maxMhz : Option Frequency := none
  source : Option String := none
  message : Option String := none
  deriving DecidableEq

def bandPlanKey (name : String) : String := underscored name

def detectedBandPlanInfo (manufacturerCode detectedName source message : String) :
    Option BandPlanInfo :=
  (getBandPlan manufacturerCode (bandPlanKey detectedName)).map fun bandPlan => {
    name := some detectedName
    minMhz := some bandPlan.minMhz
    maxMhz := some bandPlan.maxMhz
    source := some source
    message := some message }

/-- The info that the text of a vendor gives. -/
def bandPlanInfoFromApi (manufacturerCode apiBandValue : String) : Option BandPlanInfo :=
  if apiBandValue = "" then none
  else (detectBandPlanFromApiString apiBandValue manufacturerCode).bind fun detectedName =>
    detectedBandPlanInfo manufacturerCode detectedName "api"
      ("Detected from API frequencyBand '" ++ apiBandValue ++ "'")

def bandPlanInfoFromModel (manufacturerCode model : String) : Option BandPlanInfo :=
  if model = "" then none
  else (getBandPlanFromModelCode manufacturerCode model).bind fun detectedName =>
    detectedBandPlanInfo manufacturerCode detectedName "model"
      ("Inferred from model code '" ++ model ++ "'")

/-- Resolve chassis band-plan metadata from API evidence, then model evidence. A stored chassis has a
manufacturer. -/
def detectBandPlanFromApiData (chassis : Chassis) (apiBandValue : String) : BandPlanInfo :=
  let manufacturerCode := lowerText chassis.manufacturer.code
  ((bandPlanInfoFromApi manufacturerCode apiBandValue).orElse fun _ =>
    bandPlanInfoFromModel manufacturerCode chassis.model).getD
      { message := some "No band plan detected from API or model" }

def Capabilities.applyBandPlanFields (capabilities : Capabilities)
    (minMhz maxMhz : Frequency) : Capabilities :=
  { capabilities with bandPlanMinMhz := some minMhz, bandPlanMaxMhz := some maxMhz }

/-- The range of a named plan, where a bound of it is missing. -/
def fillRange (capabilities : Capabilities) : Capabilities :=
  if capabilities.bandPlanMinMhz = none ∨ capabilities.bandPlanMaxMhz = none then
    match parseBandPlanFromName capabilities.bandPlanName with
    | some (minMhz, maxMhz) => capabilities.applyBandPlanFields minMhz maxMhz
    | none => capabilities
  else capabilities

/-- The plan of the model, where none is named. -/
def fillDetectedPlan (manufacturerCode model : String) (capabilities : Capabilities) : Capabilities :=
  match getBandPlanFromModelCode manufacturerCode model with
  | none => capabilities
  | some detectedName =>
    let named := { capabilities with bandPlanName := detectedName }
    match getBandPlan manufacturerCode (bandPlanKey detectedName) with
    | some bandPlan => named.applyBandPlanFields bandPlan.minMhz bandPlan.maxMhz
    | none => named

/-- Fill missing band-plan fields. -/
def fillBandPlan (manufacturerCode model : String) (capabilities : Capabilities) : Capabilities :=
  if capabilities.bandPlanName ≠ "" then fillRange capabilities
  else fillDetectedPlan manufacturerCode model capabilities

def fillRole (manufacturerCode : String) (chassis : Chassis) : Chassis :=
  if chassis.role = "" then
    { chassis with role := getDeviceRole manufacturerCode chassis.model } else chassis

/-- Apply device specifications and fill missing chassis band-plan fields. -/
def prepareChassisRegulatoryFields (device : EquippedChassis) : EquippedChassis :=
  if device.chassis.model = "" then device
  else
    let device := DeviceSpecService.applySpecsToChassis device
    let manufacturerCode := lowerText device.chassis.manufacturer.code
    { chassis := fillRole manufacturerCode device.chassis
      capabilities := fillBandPlan manufacturerCode device.chassis.model device.capabilities }

/-- The label of a plan of the registry. -/
def RegisteredLabel (name : String) : Prop := ∃ plan : BandPlan, plan.Registered ∧ plan.name = name

theorem label_of_find? {plans : List (String × BandPlan)} {p : String × BandPlan → Bool} {name : String}
    (h : (plans.find? p).map (fun entry => entry.2.name) = some name) : ∃ entry ∈ plans,
      entry.2.name = name := by
  obtain ⟨entry, hfind, hname⟩ := Option.map_eq_some_iff.mp h
  exact ⟨entry, List.mem_of_find?_eq_some hfind, hname⟩

/-- The searches after the exact key only find plans they are given. -/
theorem label_of_searches {plans : List (String × BandPlan)} {apiBandValue name : String}
    (h : ((findPlanByCode plans apiBandValue).orElse fun _ =>
      (findPlanByFrequencyRange plans apiBandValue).orElse fun _ =>
        findPlanByPartialKey plans apiBandValue) = some name) :
    ∃ entry ∈ plans, entry.2.name = name := by
  rcases (Option.orElse_eq_some _ _ _).mp h with hcode | ⟨-, h⟩
  · rw [findPlanByCode] at hcode
    split at hcode
    next => cases hcode
    next => exact label_of_find? hcode
  · rcases (Option.orElse_eq_some _ _ _).mp h with hrange | ⟨-, hpartial⟩
    · obtain ⟨range, -, hrange⟩ := Option.bind_eq_some_iff.mp hrange
      exact label_of_find? hrange
    · exact label_of_find? hpartial

/-- **Only labels of the registry are detected.** -/
theorem registeredLabel_of_detect {apiBandValue manufacturer name : String}
    (h : detectBandPlanFromApiString apiBandValue manufacturer = some name) : RegisteredLabel name := by
  rw [detectBandPlanFromApiString] at h
  split at h
  next => cases h
  next =>
    let mfg := lowerText (if manufacturer = "" then "shure" else manufacturer)
    have hlabel : ∃ entry ∈ (registered bandPlanSpecifications mfg).getD [], entry.2.name = name := by
      dsimp only at h
      split at h
      next plan hplan => exact ⟨(_, plan), registered_mem hplan, Option.some.inj h⟩
      next => exact label_of_searches h
    obtain ⟨⟨key, plan⟩, hplan, hname⟩ := hlabel
    cases hplans : registered bandPlanSpecifications mfg with
    | none =>
        rw [hplans] at hplan
        cases hplan
    | some plans =>
        rw [hplans, Option.getD_some] at hplan
        exact ⟨plan, ⟨(mfg, plans), registered_mem hplans, key, hplan⟩, hname⟩

theorem registeredLabel_of_model {manufacturer model name : String}
    (h : getBandPlanFromModelCode manufacturer model = some name) : RegisteredLabel name := by
  rw [getBandPlanFromModelCode] at h
  split at h
  next => cases h
  next =>
    obtain ⟨code, -, hcode⟩ := List.exists_of_findSome?_eq_some h
    exact registeredLabel_of_detect hcode

theorem parenthesis_underscored {text : String} (h : '(' ∈ text.toList) :
    '(' ∈ (underscored text).toList := by
  have hlower : '(' ∈ (lowerText text).toList := by
    rw [lowerText, String.toList_ofList]
    exact List.mem_flatMap.mpr ⟨'(', h, by decide⟩
  rw [underscored, String.toList_ofList]
  exact List.mem_map.mpr ⟨'(', hlower, by decide⟩

/-- **The label of a plan is no key of the registry**, whose keys have no parenthesis. -/
theorem getBandPlan_label {name : String} (h : RegisteredLabel name) (manufacturer : String) :
    getBandPlan manufacturer (bandPlanKey name) = none := by
  have hlabels : ∀ plans ∈ bandPlanSpecifications, ∀ labelled ∈ plans.2,
      '(' ∈ labelled.2.name.toList := by
    decide +kernel
  have hkeys : ∀ searched ∈ bandPlanSpecifications, ∀ entry ∈ searched.2, '(' ∉ entry.1.toList := by
    decide +kernel
  obtain ⟨plan, ⟨plans, hplans, key, hplan⟩, rfl⟩ := h
  rw [getBandPlan]
  split
  next => rfl
  next =>
    refine Option.eq_none_iff_forall_not_mem.mpr fun found hfound => ?_
    obtain ⟨searched, hsearched, hfound⟩ := Option.bind_eq_some_iff.mp hfound
    have hkey := hkeys (_, searched) (registered_mem hsearched) (_, found) (registered_mem hfound)
    have hlabel := parenthesis_underscored (hlabels plans hplans (key, plan) hplan)
    exact hkey (parenthesis_underscored hlabel)

theorem bind_detectedBandPlanInfo {manufacturerCode source message : String} {detected : Option String}
    (h : ∀ name, detected = some name → RegisteredLabel name) :
    (detected.bind fun name => detectedBandPlanInfo manufacturerCode name source message) = none := by
  refine Option.bind_eq_none_iff.mpr fun name hname => ?_
  rw [detectedBandPlanInfo, getBandPlan_label (h name hname), Option.map_none]

theorem bandPlanInfoFromApi_eq_none (manufacturerCode apiBandValue : String) :
    bandPlanInfoFromApi manufacturerCode apiBandValue = none := by
  rw [bandPlanInfoFromApi]
  split
  next => rfl
  next => exact bind_detectedBandPlanInfo fun _ => registeredLabel_of_detect

theorem bandPlanInfoFromModel_eq_none (manufacturerCode model : String) :
    bandPlanInfoFromModel manufacturerCode model = none := by
  rw [bandPlanInfoFromModel]
  split
  next => rfl
  next => exact bind_detectedBandPlanInfo fun _ => registeredLabel_of_model

theorem detectBandPlanFromApiData_name (chassis : Chassis) (apiBandValue : String) :
    (detectBandPlanFromApiData chassis apiBandValue).name = none := by
  simp only [detectBandPlanFromApiData, bandPlanInfoFromApi_eq_none, bandPlanInfoFromModel_eq_none]
  rfl

/-- Where the vendor's text names a registered plan, the detection returns its label and its range. -/
def DetectionCoherent (chassis : Chassis) (apiBandValue : String) : Prop :=
  ∀ plan : BandPlan, plan.Registered →
    detectBandPlanFromApiString apiBandValue (lowerText chassis.manufacturer.code) = some plan.name →
      let detected := detectBandPlanFromApiData chassis apiBandValue
      (detected.name, detected.minMhz, detected.maxMhz) =
        (some plan.name, some (plan.minMhz : Frequency), some (plan.maxMhz : Frequency))

/-- **The detection is coherent only where there is nothing to detect.** -/
theorem detectionCoherent_iff (chassis : Chassis) (apiBandValue : String) :
    DetectionCoherent chassis apiBandValue ↔
      detectBandPlanFromApiString apiBandValue (lowerText chassis.manufacturer.code) = none := by
  constructor
  · intro h
    cases hname : detectBandPlanFromApiString apiBandValue (lowerText chassis.manufacturer.code) with
    | none => rfl
    | some name =>
        obtain ⟨plan, hplan, rfl⟩ := registeredLabel_of_detect hname
        have hdetected := congrArg Prod.fst (h plan hplan hname)
        rw [show _ = (none : Option String) from detectBandPlanFromApiData_name chassis
          apiBandValue] at hdetected
        cases hdetected
  · intro h plan _ hname
    rw [h] at hname
    cases hname

/-! ### Preparing twice -/

/-- The name and the range of the plan. -/
def Capabilities.bandFields (capabilities : Capabilities) :
    String × Option Frequency × Option Frequency :=
  (capabilities.bandPlanName, capabilities.bandPlanMinMhz, capabilities.bandPlanMaxMhz)

/-- The model names a plan whose label states its range in MHz. -/
def DetectsRange (manufacturerCode model : String) : Prop :=
  ∃ name, getBandPlanFromModelCode manufacturerCode model = some name ∧
    (parseBandPlanFromName name).isSome

/-- The columns lack a plan and a bound of its range. -/
def Capabilities.LacksPlan (capabilities : Capabilities) : Prop :=
  capabilities.bandPlanName = "" ∧
    (capabilities.bandPlanMinMhz = none ∨ capabilities.bandPlanMaxMhz = none)

section Filled

variable {manufacturerCode model : String} {capabilities : Capabilities}

theorem fillDetectedPlan_of_some {name : String}
    (h : getBandPlanFromModelCode manufacturerCode model = some name) :
    fillDetectedPlan manufacturerCode model capabilities =
      { capabilities with bandPlanName := name } := by
  simp only [fillDetectedPlan, h, getBandPlan_label (registeredLabel_of_model h)]

theorem fillBandPlan_named (h : capabilities.bandPlanName ≠ "") :
    fillBandPlan manufacturerCode model capabilities = fillRange capabilities := if_pos h

theorem fillBandPlan_unnamed (h : capabilities.bandPlanName = "") :
    fillBandPlan manufacturerCode model capabilities =
      fillDetectedPlan manufacturerCode model capabilities := by
  rw [fillBandPlan, if_neg (not_not.mpr h)]

@[simp] theorem fillRange_bandPlanName (capabilities : Capabilities) :
    (fillRange capabilities).bandPlanName = capabilities.bandPlanName := by
  rw [fillRange]
  split
  next => split <;> rfl
  next => rfl

theorem fillRange_fillRange (capabilities : Capabilities) :
    fillRange (fillRange capabilities) = fillRange capabilities := by
  by_cases hmissing : capabilities.bandPlanMinMhz = none ∨ capabilities.bandPlanMaxMhz = none
  · cases hparsed : parseBandPlanFromName capabilities.bandPlanName with
    | none =>
        have hsame : fillRange capabilities = capabilities := by
          rw [fillRange, if_pos hmissing, hparsed]
        rw [hsame, hsame]
    | some range =>
        have hfilled : fillRange capabilities = capabilities.applyBandPlanFields range.1 range.2 := by
          rw [fillRange, if_pos hmissing, hparsed]
        rw [hfilled, fillRange, if_neg]
        simp [Capabilities.applyBandPlanFields]
  · have hsame : fillRange capabilities = capabilities := if_neg hmissing
    rw [hsame, hsame]

/-- The range of a plan stays what it is exactly where no bound is missing or the label states none. -/
theorem fillRange_eq_self_iff :
    (fillRange capabilities).bandFields = capabilities.bandFields ↔
      ¬((capabilities.bandPlanMinMhz = none ∨ capabilities.bandPlanMaxMhz = none) ∧
        (parseBandPlanFromName capabilities.bandPlanName).isSome) := by
  by_cases hmissing : capabilities.bandPlanMinMhz = none ∨ capabilities.bandPlanMaxMhz = none
  · cases hparsed : parseBandPlanFromName capabilities.bandPlanName with
    | none => simp [fillRange, hmissing, hparsed]
    | some range =>
        rw [fillRange, if_pos hmissing, hparsed]
        rcases hmissing with hmin | hmax
        · simp [Capabilities.applyBandPlanFields, Capabilities.bandFields, hmin]
        · simp [Capabilities.applyBandPlanFields, Capabilities.bandFields, hmax]
  · rw [fillRange, if_neg hmissing]
    simp [hmissing]

theorem registeredLabel_ne_empty {name : String} (h : RegisteredLabel name) : name ≠ "" := by
  have hnames : ∀ plans ∈ bandPlanSpecifications, ∀ entry ∈ plans.2, entry.2.name ≠ "" := by
    decide +kernel
  obtain ⟨plan, ⟨plans, hplans, key, hplan⟩, rfl⟩ := h
  exact hnames plans hplans (key, plan) hplan

/-- **Filling twice** does more than filling once exactly where the first time leaves a label
without the range that it states. -/
theorem fillBandPlan_fillBandPlan_iff :
    (fillBandPlan manufacturerCode model
      (fillBandPlan manufacturerCode model capabilities)).bandFields =
        (fillBandPlan manufacturerCode model capabilities).bandFields ↔
      ¬(capabilities.LacksPlan ∧ DetectsRange manufacturerCode model) := by
  by_cases hname : capabilities.bandPlanName = ""
  · rw [fillBandPlan_unnamed hname]
    cases hdetected : getBandPlanFromModelCode manufacturerCode model with
    | none =>
        have hsame : fillDetectedPlan manufacturerCode model capabilities = capabilities := by
          rw [fillDetectedPlan, hdetected]
        rw [hsame, fillBandPlan_unnamed hname, hsame]
        simp [DetectsRange, hdetected]
    | some name =>
        rw [fillDetectedPlan_of_some hdetected,
          fillBandPlan_named (registeredLabel_ne_empty (registeredLabel_of_model hdetected)),
          fillRange_eq_self_iff]
        simp [Capabilities.LacksPlan, DetectsRange, hname, hdetected]
  · rw [fillBandPlan_named hname, fillBandPlan_named (by rwa [fillRange_bandPlanName]),
      fillRange_fillRange]
    simp [Capabilities.LacksPlan, hname]

end Filled

/-- Preparing the chassis twice leaves the name and the range of its plan as preparing it once does. -/
def PreparationStable (device : EquippedChassis) : Prop :=
  (prepareChassisRegulatoryFields (prepareChassisRegulatoryFields device)).capabilities.bandFields =
    (prepareChassisRegulatoryFields device).capabilities.bandFields

section Prepared

variable {device : EquippedChassis}

@[simp] theorem prepared_manufacturer :
    (prepareChassisRegulatoryFields device).chassis.manufacturer = device.chassis.manufacturer := by
  rw [prepareChassisRegulatoryFields]
  split
  next => rfl
  next =>
    simp only [fillRole, applySpecsToChassis_chassis]
    split <;> rfl

@[simp] theorem prepared_model :
    (prepareChassisRegulatoryFields device).chassis.model = device.chassis.model := by
  rw [prepareChassisRegulatoryFields]
  split
  next => rfl
  next =>
    simp only [fillRole, applySpecsToChassis_chassis]
    split <;> rfl

/-- The plan is filled from the name and the range alone. -/
theorem fillBandPlan_congr {manufacturerCode model : String} {capabilities capabilities' : Capabilities}
    (h : capabilities.bandFields = capabilities'.bandFields) :
    (fillBandPlan manufacturerCode model capabilities).bandFields =
      (fillBandPlan manufacturerCode model capabilities').bandFields := by
  obtain ⟨hname, hrange⟩ := Prod.mk.inj h
  obtain ⟨hmin, hmax⟩ := Prod.mk.inj hrange
  simp only [fillBandPlan, fillRange, fillDetectedPlan, hname, hmin, hmax]
  split
  next =>
    split
    next =>
      split
      next minMhz maxMhz _ => exact congrArg (fun name => (name, some minMhz, some maxMhz)) hname
      next => exact h
    next => exact h
  next =>
    split
    next => exact h
    next => split <;> rfl

theorem applySpecs_bandFields (device : EquippedChassis) :
    (DeviceSpecService.applySpecsToChassis device).capabilities.bandFields =
      device.capabilities.bandFields := by
  simp [Capabilities.bandFields]

theorem prepared_bandFields (hmodel : device.chassis.model ≠ "") :
    (prepareChassisRegulatoryFields device).capabilities.bandFields =
      (fillBandPlan (lowerText device.chassis.manufacturer.code) device.chassis.model
        device.capabilities).bandFields := by
  rw [prepareChassisRegulatoryFields, if_neg hmodel]
  simp only [applySpecsToChassis_chassis]
  exact fillBandPlan_congr (applySpecs_bandFields device)

theorem preparationStable_iff (device : EquippedChassis) :
    PreparationStable device ↔
      ¬(device.chassis.model ≠ "" ∧ device.capabilities.LacksPlan ∧
        DetectsRange (lowerText device.chassis.manufacturer.code) device.chassis.model) := by
  by_cases hmodel : device.chassis.model = ""
  · have hsame : prepareChassisRegulatoryFields device = device := if_pos hmodel
    rw [PreparationStable, hsame, hsame]
    simp [hmodel]
  · have hprepared : (prepareChassisRegulatoryFields device).chassis.model ≠ "" := by
      rwa [prepared_model]
    rw [PreparationStable, prepared_bandFields hprepared, prepared_manufacturer, prepared_model,
      fillBandPlan_congr (prepared_bandFields hmodel), prepared_bandFields hmodel,
      fillBandPlan_fillBandPlan_iff]
    simp [hmodel]

end Prepared

/-- **The detection of a band plan** is coherent, and its preparation is stable, exactly where the
vendor's text names no plan and the model of a chassis without a plan names none whose label states
a range. -/
theorem bandPlan_coherent_iff (device : EquippedChassis) (apiBandValue : String) :
    DetectionCoherent device.chassis apiBandValue ∧ PreparationStable device ↔
      detectBandPlanFromApiString apiBandValue (lowerText device.chassis.manufacturer.code) = none ∧
        ¬(device.chassis.model ≠ "" ∧ device.capabilities.LacksPlan ∧
          DetectsRange (lowerText device.chassis.manufacturer.code) device.chassis.model) :=
  and_congr (detectionCoherent_iff device.chassis apiBandValue) (preparationStable_iff device)

/-- The capability columns of a new chassis. -/
def Capabilities.default : Capabilities where
  maxChannels := 4
  danteCapable := false
  wmasCapable := false
  protocolFamily := "legacy_uhf"
  licensedResourceCount := 0
  bandPlanName := ""
  bandPlanMinMhz := none
  bandPlanMaxMhz := none

/-- A new receiver of the G50 band. -/
def g50Receiver : EquippedChassis where
  chassis :=
    { Chassis.unsaved { pk := 1, code := "shure", isActive := true } with model := "ULXD4Q-G50" }
  capabilities := Capabilities.default

theorem g50_not_found_again :
    ¬DetectionCoherent g50Receiver.chassis "G50" ∧ ¬PreparationStable g50Receiver := by
  have hcode : lowerText g50Receiver.chassis.manufacturer.code = "shure" := by decide +kernel
  have hdetected : detectBandPlanFromApiString "G50" "shure" = some "G50 (470-534 MHz)" := by
    decide +kernel
  have honce : (prepareChassisRegulatoryFields g50Receiver).capabilities.bandFields =
      ("G50 (470-534 MHz)", none, none) := by decide +kernel
  have htwice : (prepareChassisRegulatoryFields
      (prepareChassisRegulatoryFields g50Receiver)).capabilities.bandFields =
      ("G50 (470-534 MHz)", some ((470 : ℚ) : Frequency), some ((534 : ℚ) : Frequency)) := by
        decide +kernel
  constructor
  · intro h
    rw [detectionCoherent_iff, hcode, hdetected] at h
    cases h
  · intro h
    rw [PreparationStable, honce, htwice] at h
    cases h

end Micboard
