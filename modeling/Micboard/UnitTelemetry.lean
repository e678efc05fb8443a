import Micboard.ChannelEnablement
import Micboard.ChassisModel
import Micboard.LibrarySha256
import Micboard.RealtimeRouting
import Micboard.VendorTransform

/-! Telemetry of wireless units. A report of a channel finds or creates the channel and the unit
that is assigned to it, and writes the unit with the status that the vendor reports; the save hook
of the unit checks the change of its status against a partial table. What the database makes of the
telemetry columns is a parameter. The alerts that follow an update and the audit events are not part
of the model. -/

namespace Micboard

open Library Library.Text Library.Transition

def unitStatusChoices : List String :=
  ["discovered", "provisioning", "online", "degraded", "idle", "offline", "maintenance", "retired"]

/-- `_VALID_STATUS_TRANSITIONS`, the table the unit save hook checks. -/
def validUnitStatusTransitions : Table String :=
  [("discovered", ["provisioning", "offline", "retired"]),
    ("provisioning", ["online", "offline", "discovered"]),
    ("online", ["degraded", "idle", "offline", "maintenance"]),
    ("degraded", ["online", "idle", "offline", "maintenance"]),
    ("idle", ["online", "offline", "maintenance", "retired"]),
    ("offline", ["online", "degraded", "idle", "maintenance", "retired"]),
    ("maintenance", ["online", "offline", "retired"]),
    ("retired", [])]

theorem validUnitStatusTransitions_closed :
    Closed validUnitStatusTransitions (· ∈ unitStatusChoices) := by decide

/-- `int(value)`, or nothing where it raises. -/
def JsonValue.toInt : JsonValue → Option Int
  | .bool value => some (if value then 1 else 0)
  | .number value _ => some (if value < 0 then ⌈value⌉ else ⌊value⌋)
  | .text value => parseInt value
  | .null | .array _ _ | .object _ _ => none

structure UnitTelemetry where
  battery : JsonValue
  batteryCharge : JsonValue
  batteryType : JsonValue
  batteryRuntime : JsonValue
  batteryHealth : JsonValue
  batteryCycles : JsonValue
  batteryTemperatureC : JsonValue
  audioLevel : JsonValue
  rfLevel : JsonValue
  frequency : JsonValue
  antenna : JsonValue
  txOffset : JsonValue
  quality : JsonValue
  name : JsonValue

/-- What the slot column holds: the range of a `PositiveIntegerField`. -/
def SlotFits (slot : Int) : Prop := 0 ≤ slot ∧ slot ≤ 2147483647

instance (slot : Int) : Decidable (SlotFits slot) :=
  inferInstanceAs (Decidable (0 ≤ slot ∧ slot ≤ 2147483647))

structure UnitRow where
  pk : Nat
  assignedResource : Option Nat
  slot : Int
  manufacturer : Nat
  baseChassis : Nat
  telemetry : UnitTelemetry
  status : String
  lastSeen : Option Time

structure UnitTables where
  channels : ChannelTable
  units : List UnitRow
  nextPk : Nat

/-- What aborts the update of a channel and its unit; `slotsExhausted` stands for the search of a
free slot that does not end. -/
inductive UnitError where
  | notANumber
  | channel (error : ChannelError)
  | multipleObjectsReturned
  | slotsExhausted
  | invalidTransition (old new : String)
  | databaseError
  deriving DecidableEq, Repr

/-- The targets of a status as the error lists them. -/
def unitAllowedLabel (status : String) : String :=
  match allowed validUnitStatusTransitions status with
  | [] => "none (terminal state)"
  | allowed => ", ".intercalate (allowed.mergeSort fun a b => a ≤ b)

/-- The text of an error, where the code writes one. -/
def UnitError.describe : UnitError → Option String
  | .invalidTransition old new =>
    some ("Invalid status transition: " ++ old ++ " → " ++ new ++ ". Allowed: " ++ unitAllowedLabel old)
  | .channel error => error.describe
  | .notANumber | .multipleObjectsReturned | .slotsExhausted | .databaseError => none

/-- The save hook of a stored unit: the status as it is stored, and when the unit was last seen. -/
def prepareUnitForSave (now : Time) (previous : UnitRow) (status : JsonValue) :
    Except UnitError (String × Option Time) :=
  match status with
  | .text value =>
    if value = previous.status then .ok (value, previous.lastSeen)
    else if value ∉ allowed validUnitStatusTransitions previous.status then
      .error (.invalidTransition previous.status value)
    else if value ∈ ["online", "degraded", "offline"] then .ok (value, some now)
    else .ok (value, previous.lastSeen)
  | value => .error (.invalidTransition previous.status value.str)

/-- The telemetry columns that a transformed unit supplies. -/
def unitTelemetry (transformedUnit : JsonObject) : UnitTelemetry where
  battery := (transformedUnit.get "battery").ifNone (.number 255 "255")
  batteryCharge := transformedUnit.get "battery_charge"
  batteryType := (transformedUnit.get "battery_type").orElse (.text "")
  batteryRuntime := (transformedUnit.get "runtime").orElse (.text "")
  batteryHealth := (transformedUnit.get "battery_health").orElse (.text "")
  batteryCycles := transformedUnit.get "battery_cycles"
  batteryTemperatureC := transformedUnit.get "battery_temperature_c"
  audioLevel := (transformedUnit.get "audio_level").orElse (.number 0 "0")
  rfLevel := (transformedUnit.get "rf_level").orElse (.number 0 "0")
  frequency := (transformedUnit.get "frequency").orElse (.text "")
  antenna := (transformedUnit.get "antenna").orElse (.text "")
  txOffset := (transformedUnit.get "tx_offset").ifNone (.number 255 "255")
  quality := (transformedUnit.get "quality").ifNone (.number 255 "255")
  name := (transformedUnit.get "name").orElse (.text "")

/-- `transformed_unit.get("status") or ""`. -/
def reportedStatus (transformedUnit : JsonObject) : JsonValue :=
  (transformedUnit.get "status").orElse (.text "")

/-- The entry of a channel list: its number, and its transmitter if that is a dictionary. -/
structure ChannelData where
  channel : JsonValue
  tx : Option JsonObject

/-- An entry as the vendor's channel endpoint returns it. -/
def ChannelData.ofPayload (channelData : JsonObject) : ChannelData where
  channel := channelData.getD "channel" (.number 0 "0")
  tx :=
    match channelData.get "tx" with
    | .object items _ => some items
    | _ => none

structure UnitReport where
  now : Time
  chassis : ChannelChassis
  manufacturer : Nat
  apiDeviceId : String
  channelData : ChannelData
  transmitterIsNormalized : Bool

/-- A digest slot is the first unused one from the digest of the device and channel on. -/
def freeSlot (units : List UnitRow) (start : Nat) : Option Nat :=
  ((List.range 10000).map fun i => (start + i) % 10000).find? fun slot =>
    units.all fun unit => unit.slot ≠ slot

/-- Reuse an assigned slot or derive a stable collision-free slot. -/
def assignUnitSlot (units : List UnitRow) (channel : RFChannel) (transformedUnit : JsonObject)
    (apiDeviceId : String) (channelNumber : Int) : Except UnitError Int :=
  match units.find? fun unit => unit.assignedResource = some channel.pk with
  | some unit => .ok unit.slot
  | none =>
    match transformedUnit.get "slot" with
    | .null =>
      let digest := Library.Sha256.sha256
        (Library.Sha256.encode (apiDeviceId ++ ":" ++ toString channelNumber))
      match freeSlot units (Library.Sha256.ofBigEndian (digest.take 4) % 10000) with
      | some slot => .ok slot
      | none => .error .slotsExhausted
    | value =>
      match value.toInt with
      | some slot => .ok slot
      | none => .error .notANumber

/-- `RFChannel.objects.update_or_create` without defaults: a stored channel is not saved. -/
def updateOrCreateChannel (table : ChannelTable) (chassis : ChannelChassis) (channelNumber : Int) :
    Except ChannelError (ChannelTable × RFChannel) :=
  match table.rows.find? fun row =>
    row.chassis.pk = chassis.pk && row.channelNumber = channelNumber with
  | some channel => .ok (table, channel)
  | none => do
    let channel := RFChannel.unsaved chassis channelNumber
    let table' ← createChannel table channel
    .ok (table', { channel with pk := table.nextPk })

section Update

variable (transformData : JsonObject → Int → Option JsonObject)
  (stores : UnitTelemetry → Option UnitTelemetry)

/-- The unit data of a report: empty where the report has none or it cannot be transformed. -/
def UnitReport.transformedUnit (report : UnitReport) (channelNumber : Int) : JsonObject :=
  match report.channelData.tx with
  | none => []
  | some rawUnit =>
    if report.transmitterIsNormalized then rawUnit
    else (transformData rawUnit channelNumber).getD []

def UnitReport.unitRow (report : UnitReport) (pk : Nat) (channel : RFChannel) (slot : Int)
    (telemetry : UnitTelemetry) (status : String) (lastSeen : Option Time) : UnitRow where
  pk
  assignedResource := some channel.pk
  slot
  manufacturer := report.manufacturer
  baseChassis := report.chassis.pk
  telemetry
  status
  lastSeen

def updateOrCreateUnit (tables : UnitTables) (report : UnitReport) (channel : RFChannel) (slot : Int)
    (transformedUnit : JsonObject) : Except UnitError UnitTables := do
  let assigned := tables.units.filter fun unit => unit.assignedResource = some channel.pk
  match ← uniqueMatch UnitError.multipleObjectsReturned assigned with
  | some previous =>
    let (status, lastSeen) ← prepareUnitForSave report.now previous (reportedStatus transformedUnit)
    match stores (unitTelemetry transformedUnit) with
    | none => .error .databaseError
    | some telemetry =>
      if ¬ SlotFits slot then .error .databaseError
      else
        let unit := report.unitRow previous.pk channel slot telemetry status lastSeen
        .ok { tables with units := replaceRow UnitRow.pk unit tables.units }
  | none =>
    match stores (unitTelemetry transformedUnit) with
    | none => .error .databaseError
    | some telemetry =>
      if ¬ SlotFits slot then .error .databaseError
      else
        let status := (reportedStatus transformedUnit).str
        let unit := report.unitRow tables.nextPk channel slot telemetry status none
        .ok { tables with units := tables.units ++ [unit], nextPk := tables.nextPk + 1 }

/-- Update one RF channel and its attached wireless unit. The channel is committed before the unit. -/
def updateChannelAndUnit (tables : UnitTables) (report : UnitReport) :
    UnitTables × Except UnitError Unit :=
  match report.channelData.channel.toInt with
  | none => (tables, .error .notANumber)
  | some channelNumber =>
    let transformedUnit := report.transformedUnit transformData channelNumber
    if transformedUnit.isEmpty then (tables, .ok ())
    else
      match updateOrCreateChannel tables.channels report.chassis channelNumber with
      | .error e => (tables, .error (.channel e))
      | .ok (channels, channel) =>
        let tables := { tables with channels }
        let updated := do
          let slot ← assignUnitSlot tables.units channel transformedUnit
              report.apiDeviceId channelNumber
          updateOrCreateUnit stores tables report channel slot transformedUnit
        match updated with
        | .error e => (tables, .error e)
        | .ok tables => (tables, .ok ())

/-- The tables after a report; what a failed one has not written is unchanged. -/
def unitStep (tables : UnitTables) (report : UnitReport) : UnitTables :=
  (updateChannelAndUnit transformData stores tables report).1

/-- The tables after a sequence of reports. -/
def unitRun (tables : UnitTables) (reports : List UnitReport) : UnitTables :=
  reports.foldl (unitStep transformData stores) tables

/-- The status that a report carries for the unit of its channel. -/
def UnitReport.status (report : UnitReport) : JsonValue :=
  match report.channelData.channel.toInt with
  | none => .null
  | some channelNumber =>
    reportedStatus (report.transformedUnit transformData channelNumber)

end Update

/-- What the key sequence guarantees of the unit table. -/
structure UnitTables.Consistent (tables : UnitTables) : Prop where
  pk_unique : UniqueOn UnitRow.pk tables.units
  pk_lt : ∀ unit ∈ tables.units, unit.pk < tables.nextPk

/-- What a report that carries `reported` makes of the unit table: nothing, one unit with an
accepted status, or a new one. -/
inductive UnitEffect (reported : JsonValue) (tables tables' : UnitTables) : Prop where
  | kept (units : tables'.units = tables.units) (nextPk : tables'.nextPk = tables.nextPk)
  | updated (previous unit : UnitRow) (stored : previous ∈ tables.units) (pk : unit.pk = previous.pk)
      (status : reported = .text unit.status)
      (accepted : Accepts validUnitStatusTransitions previous.status unit.status)
      (units : tables'.units = replaceRow UnitRow.pk unit tables.units)
      (nextPk : tables'.nextPk = tables.nextPk)
  | created (unit : UnitRow) (pk : unit.pk = tables.nextPk)
      (units : tables'.units = tables.units ++ [unit]) (nextPk : tables'.nextPk = tables.nextPk + 1)

theorem prepareUnitForSave_eq_ok {now : Time} {previous : UnitRow} {status : JsonValue} {value : String}
    {lastSeen : Option Time} (h : prepareUnitForSave now previous status = .ok (value, lastSeen)) :
    status = .text value ∧ Accepts validUnitStatusTransitions previous.status value := by
  cases status with
  | text reported =>
      simp only [prepareUnitForSave] at h
      split at h
      next heq =>
        obtain ⟨rfl, -⟩ := Prod.mk.inj (Except.ok.inj h)
        exact ⟨rfl, .inl heq⟩
      next =>
        split at h
        next => cases h
        next hallowed =>
          have hvalue : reported = value := by
            split at h
            · exact (Prod.mk.inj (Except.ok.inj h)).1
            · exact (Prod.mk.inj (Except.ok.inj h)).1
          subst hvalue
          exact ⟨rfl, .inr (not_not.mp hallowed)⟩
  | null | bool | number | array | object => cases h

section Effect

variable {transformData : JsonObject → Int → Option JsonObject}
  {stores : UnitTelemetry → Option UnitTelemetry}

theorem updateOrCreateUnit_effect {tables tables' : UnitTables} {report : UnitReport}
    {channel : RFChannel} {slot : Int} {transformedUnit : JsonObject}
    (h : updateOrCreateUnit stores tables report channel slot transformedUnit = .ok tables') :
    UnitEffect (reportedStatus transformedUnit) tables tables' := by
  obtain ⟨found, hfound, h⟩ := bind_eq_ok.mp h
  cases found with
  | some previous =>
      obtain ⟨⟨status, lastSeen⟩, hprepare, h⟩ := bind_eq_ok.mp h
      obtain ⟨hreported, haccepted⟩ := prepareUnitForSave_eq_ok hprepare
      have hmem := (uniqueMatch_filter_eq_some hfound).1
      simp only at h
      split at h
      next => cases h
      next telemetry _ =>
        split at h
        next => cases h
        next =>
          obtain rfl := Except.ok.inj h
          exact .updated previous
            (report.unitRow previous.pk channel slot telemetry status lastSeen) hmem
            rfl hreported haccepted rfl rfl
  | none =>
      simp only at h
      split at h
      next => cases h
      next =>
        split at h
        next => cases h
        next =>
          obtain rfl := Except.ok.inj h
          exact .created _ rfl rfl rfl

theorem unitStep_effect (tables : UnitTables) (report : UnitReport) :
    UnitEffect (report.status transformData) tables
      (unitStep transformData stores tables report) := by
  rw [unitStep, updateChannelAndUnit, UnitReport.status]
  cases report.channelData.channel.toInt with
  | none => exact .kept rfl rfl
  | some channelNumber =>
      simp only
      split
      next => exact .kept rfl rfl
      next =>
        cases updateOrCreateChannel tables.channels report.chassis channelNumber with
        | error e => exact .kept rfl rfl
        | ok found =>
            obtain ⟨channels, channel⟩ := found
            simp only
            split
            next => exact .kept rfl rfl
            next tables' hupdated =>
              obtain ⟨slot, -, hupdate⟩ := bind_eq_ok.mp hupdated
              cases updateOrCreateUnit_effect hupdate with
              | kept units nextPk => exact .kept units nextPk
              | updated previous unit stored pk status accepted units nextPk =>
                  exact .updated previous unit stored pk status accepted units nextPk
              | created unit pk units nextPk => exact .created unit pk units nextPk

end Effect

namespace UnitEffect

variable {reported : JsonValue} {tables tables' : UnitTables}

theorem consistent (h : UnitEffect reported tables tables') (hconsistent : tables.Consistent) :
    tables'.Consistent := by
  cases h with
  | kept units nextPk =>
      exact ⟨units ▸ hconsistent.pk_unique, by rw [units, nextPk]; exact hconsistent.pk_lt⟩
  | updated previous unit stored pk status accepted units nextPk =>
      refine ⟨?_, ?_⟩
      · rw [units, UniqueOn, map_pk_replaceRow]
        exact hconsistent.pk_unique
      · intro other hother
        rw [units, mem_replaceRow] at hother
        rw [nextPk]
        rcases hother with ⟨rfl, -⟩ | ⟨hold, -⟩
        · rw [pk]
          exact hconsistent.pk_lt previous stored
        · exact hconsistent.pk_lt other hold
  | created unit pk units nextPk =>
      refine ⟨?_, ?_⟩
      · rw [units]
        refine hconsistent.pk_unique.append_row fun other hother heq => ?_
        have hlt := hconsistent.pk_lt other hother
        omega
      · intro other hother
        rw [units, List.mem_append, List.mem_singleton] at hother
        rcases hother with hold | rfl
        · have hlt := hconsistent.pk_lt other hold
          omega
        · omega

/-- A report keeps a stored unit, with its status or with the one that it carries. -/
theorem unit (h : UnitEffect reported tables tables') (hconsistent : tables.Consistent) {unit : UnitRow}
    (hunit : unit ∈ tables.units) :
    ∃ unit' ∈ tables'.units, unit'.pk = unit.pk ∧ (unit'.status = unit.status ∨
      (reported = .text unit'.status ∧
        unit'.status ∈ allowed validUnitStatusTransitions unit.status)) := by
  cases h with
  | kept units nextPk => exact ⟨unit, units ▸ hunit, rfl, .inl rfl⟩
  | updated previous written stored pk status accepted units nextPk =>
      by_cases hpk : unit.pk = previous.pk
      · obtain rfl := hconsistent.pk_unique.eq hunit stored hpk
        refine ⟨written, units ▸ mem_replaceRow_self UnitRow.pk hunit pk.symm, pk, ?_⟩
        exact accepted.imp id fun hallowed => ⟨status, hallowed⟩
      · refine ⟨unit, ?_, rfl, .inl rfl⟩
        rw [units, mem_replaceRow, pk]
        exact .inr ⟨hunit, hpk⟩
  | created written pk units nextPk =>
      exact ⟨unit, units ▸ List.mem_append_left _ hunit, rfl, .inl rfl⟩

end UnitEffect

/-! ### Runs of reports -/

section Run

variable {transformData : JsonObject → Int → Option JsonObject}
  {stores : UnitTelemetry → Option UnitTelemetry}

theorem unitRun_consistent {start : UnitTables} (hstart : start.Consistent)
    (reports : List UnitReport) :
    (unitRun transformData stores start reports).Consistent := by
  induction reports generalizing start with
  | nil => exact hstart
  | cons report rest ih => exact ih ((unitStep_effect start report).consistent hstart)

theorem unitRun_concat (start : UnitTables) (seen : List UnitReport) (report : UnitReport) :
    unitRun transformData stores start (seen ++ [report]) =
      unitStep transformData stores
        (unitRun transformData stores start seen) report := by
  rw [unitRun, List.foldl_append]
  rfl

/-- A status that is new after some reports was accepted when a report carried it. -/
def StatusReported (transformData : JsonObject → Int → Option JsonObject)
    (stores : UnitTelemetry → Option UnitTelemetry) (start : UnitTables) (pk : Nat) (status : String)
    (seen : List UnitReport) (report : UnitReport) : Prop :=
  report.status transformData = .text status ∧
    ∃ previous ∈ (unitRun transformData stores start seen).units, previous.pk = pk ∧
      status ∈ allowed validUnitStatusTransitions previous.status

/-- The unit after a run: its status is reached by accepted changes, and is the old one or was
reported. -/
theorem unitRun_unit {start : UnitTables} (hstart : start.Consistent) {unit : UnitRow}
    (hunit : unit ∈ start.units) (reports : List UnitReport) :
    ∃ unit' ∈ (unitRun transformData stores start reports).units, unit'.pk = unit.pk ∧
      Relation.ReflTransGen (Accepts validUnitStatusTransitions) unit.status unit'.status ∧
      (unit'.status = unit.status ∨ ∃ seen report rest, reports = seen ++ report :: rest ∧
        StatusReported transformData stores start unit.pk unit'.status seen report) := by
  induction reports using List.reverseRecOn with
  | nil => exact ⟨unit, hunit, rfl, .refl, .inl rfl⟩
  | append_singleton seen report ih =>
      obtain ⟨before, hbefore, hpk, hreaches, hreported⟩ := ih
      have heffect : UnitEffect _ _ (unitRun transformData stores start (seen ++ [report])) :=
        unitRun_concat start seen report ▸ unitStep_effect _ report
      obtain ⟨unit', hunit', hpk', hstep⟩ := heffect.unit (unitRun_consistent hstart seen) hbefore
      refine ⟨unit', hunit', hpk'.trans hpk, ?_, ?_⟩
      · rcases hstep with heq | ⟨-, hallowed⟩
        · exact heq ▸ hreaches
        · exact hreaches.tail (.inr hallowed)
      · rw [exists_split_concat]
        rcases hstep with heq | ⟨hstatus, hallowed⟩
        · rw [heq]
          exact hreported.imp id .inl
        · exact .inr (.inr ⟨hstatus, before, hbefore, hpk, hallowed⟩)

theorem terminal_iff_retired {status : String} (h : status ∈ unitStatusChoices) :
    Terminal validUnitStatusTransitions status ↔ status = "retired" := by
  have hall : ∀ status ∈ unitStatusChoices,
      (Terminal validUnitStatusTransitions status ↔ status = "retired") := by decide
  exact hall status h

/-- **Over every sequence of reports the status of a unit stays one of the choices, and only
`retired`, which is reported for a unit that may retire and is never left, admits no further
change.** -/
theorem unit_status_closed {start : UnitTables} (hstart : start.Consistent) {unit : UnitRow}
    (hunit : unit ∈ start.units) (hvalid : unit.status ∈ unitStatusChoices)
    (reports : List UnitReport) :
    ∃ unit' ∈ (unitRun transformData stores start reports).units, unit'.pk = unit.pk ∧
      (∀ other ∈ (unitRun transformData stores start reports).units, other.pk = unit.pk →
        other = unit') ∧
      unit'.status ∈ unitStatusChoices ∧
      (Terminal validUnitStatusTransitions unit'.status ↔ unit'.status = "retired") ∧
      (unit'.status = "retired" → unit.status = "retired" ∨
        ∃ seen report rest, reports = seen ++ report :: rest ∧
          StatusReported transformData stores start unit.pk "retired" seen report) ∧
      (unit.status = "retired" → unit'.status = "retired") := by
  obtain ⟨unit', hunit', hpk, hreaches, hreported⟩ :=
    @unitRun_unit transformData stores start hstart unit hunit reports
  have hvalid' := validUnitStatusTransitions_closed.reaches hvalid hreaches
  refine ⟨unit', hunit', hpk, ?_, hvalid', terminal_iff_retired hvalid', ?_, ?_⟩
  · intro other hother heq
    exact (unitRun_consistent hstart reports).pk_unique.eq hother hunit' (heq.trans hpk.symm)
  · intro hretired
    rw [hretired] at hreported
    exact hreported.imp Eq.symm id
  · intro hretired
    have hterminal := (terminal_iff_retired hvalid).mpr hretired
    exact (hterminal.eq_of_reaches hreaches).trans hretired

end Run

/-- The transmitter transformation of a vendor plugin. -/
def vendorTransmitter (txData : JsonObject) (channelNumber : Int) : Option JsonObject :=
  transformTransmitterData txData (.number channelNumber (toString channelNumber))

/-- An idle unit on the first channel of a receiver. -/
def idleUnitTables : UnitTables where
  channels := { rows := [{ RFChannel.unsaved quadReceiver 1 with pk := 1 }], nextPk := 2 }
  units := [{
    pk := 1
    assignedResource := some 1
    slot := 1
    manufacturer := 1
    baseChassis := 1
    telemetry := unitTelemetry []
    status := "idle"
    lastSeen := none }]
  nextPk := 2

/-- A report of the first channel with a status. -/
def statusReport (status : String) : UnitReport where
  now := 0
  chassis := quadReceiver
  manufacturer := 1
  apiDeviceId := "rx-1"
  channelData := { channel := .number 1 "1", tx := some [("status", .text status)] }
  transmitterIsNormalized := false

theorem idleUnitTables_consistent : idleUnitTables.Consistent where
  pk_unique := by decide
  pk_lt := by
    intro unit hunit
    obtain rfl := List.mem_singleton.mp hunit
    decide

/-- A unit that goes offline, comes back, is reported with a status that there is not, retires, and
is reported once more. -/
def statusReports : List UnitReport := 
  ["offline", "online", "Broken", "offline", "retired", "online"].map statusReport

/-- It stays retired from its own report on, and has a choice as its status throughout. -/
theorem unit_status_closed_idleUnit :
    ∃ unit' ∈ (unitRun vendorTransmitter some idleUnitTables statusReports).units,
      unit'.pk = 1 ∧ unit'.status = "retired" ∧ Terminal validUnitStatusTransitions unit'.status ∧
        ∃ seen report rest, statusReports = seen ++ report :: rest ∧
          StatusReported vendorTransmitter some idleUnitTables 1 "retired" seen report := by
  obtain ⟨unit', hunit', hpk, -, -, hterminal, hreported, -⟩ :=
    @unit_status_closed vendorTransmitter some _
    idleUnitTables_consistent _ (List.mem_singleton.mpr rfl) (by decide) statusReports
  have hretired : ∀ unit ∈ (unitRun vendorTransmitter some idleUnitTables statusReports).units,
      unit.status = "retired" := by decide +kernel
  have hstatus := hretired unit' hunit'
  exact ⟨unit', hunit', hpk, hstatus, hterminal.mpr hstatus,
    (hreported hstatus).resolve_left (by decide)⟩

/-- A report retires an idle unit, and the table accepts no change of its status any more. -/
theorem telemetry_retires_unit :
    idleUnitTables.units.map UnitRow.status = ["idle"] ∧
      (unitRun vendorTransmitter some idleUnitTables [statusReport "retired"]).units.map
        UnitRow.status =
        ["retired"] ∧
      Terminal validUnitStatusTransitions "retired" := by
  refine ⟨rfl, by decide +kernel, by decide⟩

end Micboard
