import Micboard.LibraryProbing
import Micboard.UnitTelemetry

/-! Slots of wireless units. The slot of a unit is the one it has, the one that the vendor supplies
or one that is derived from a digest. The search for a derived slot looks at every stored unit and
need not end; a slot of the vendor is stored without a look at the other units. -/

namespace Micboard

open Library Library.Probing

/-- A stored unit uses the slot. -/
def SlotTaken (units : List UnitRow) (slot : Nat) : Prop := ∃ unit ∈ units, unit.slot = slot

instance (units : List UnitRow) : DecidablePred (SlotTaken units) := fun slot =>
  inferInstanceAs (Decidable (∃ unit ∈ units, unit.slot = (slot : Int)))

def storedUnit (units : List UnitRow) (channel : RFChannel) : Option UnitRow :=
  units.find? fun unit => unit.assignedResource = some channel.pk

/-- Where the search for a derived slot begins. -/
def digestSlot (apiDeviceId : String) (channelNumber : Int) : Nat :=
  Sha256.ofBigEndian
    ((Sha256.sha256 (Sha256.encode (apiDeviceId ++ ":" ++ toString channelNumber))).take 4)
    % 10000

/-- The call of `_assign_unit_slot` returns, with a slot or with an exception. -/
inductive SlotAssigned (units : List UnitRow) (channel : RFChannel) (transformedUnit : JsonObject)
    (apiDeviceId : String) (channelNumber : Int) : Except UnitError Int → Prop where
  | stored (unit : UnitRow) (found : storedUnit units channel = some unit) :
      SlotAssigned units channel transformedUnit apiDeviceId channelNumber (.ok unit.slot)
  | vendor (slot : Int) (unassigned : storedUnit units channel = none)
      (value : (transformedUnit.get "slot").toInt = some slot) :
      SlotAssigned units channel transformedUnit apiDeviceId channelNumber (.ok slot)
  | notANumber (unassigned : storedUnit units channel = none)
      (supplied : transformedUnit.get "slot" ≠ .null)
      (value : (transformedUnit.get "slot").toInt = none) :
      SlotAssigned units channel transformedUnit apiDeviceId channelNumber (.error .notANumber)
  | derived (slot : Nat) (unassigned : storedUnit units channel = none)
      (absent : transformedUnit.get "slot" = .null)
      (stops : Stops (SlotTaken units) 10000 (digestSlot apiDeviceId channelNumber) slot) :
      SlotAssigned units channel transformedUnit apiDeviceId channelNumber (.ok slot)

theorem freeSlot_eq (units : List UnitRow) (start : Nat) :
    freeSlot units start = (probes 10000 start).find? fun slot => ¬ SlotTaken units slot := by
  rw [freeSlot, probes]
  congr 1
  funext slot
  rw [Bool.eq_iff_iff, List.all_eq_true, decide_eq_true_iff]
  simp [SlotTaken]

theorem digestSlot_lt (apiDeviceId : String) (channelNumber : Int) :
    digestSlot apiDeviceId channelNumber < 10000 := Nat.mod_lt _ (by decide)

section Assign

variable {units : List UnitRow} {channel : RFChannel} {transformedUnit : JsonObject}
  {apiDeviceId : String}
  {channelNumber : Int}

theorem storedUnit_eq_none :
    storedUnit units channel = none ↔ ∀ unit ∈ units, unit.assignedResource ≠ some channel.pk := by
  simp [storedUnit, List.find?_eq_none]

theorem storedUnit_eq_some {unit : UnitRow} (h : storedUnit units channel = some unit) :
    unit ∈ units ∧ unit.assignedResource = some channel.pk :=
  ⟨List.mem_of_find?_eq_some h, by simpa using List.find?_some h⟩

theorem assignUnitSlot_stored {unit : UnitRow} (h : storedUnit units channel = some unit) :
    assignUnitSlot units channel transformedUnit apiDeviceId channelNumber = .ok unit.slot := by
  rw [storedUnit] at h
  rw [assignUnitSlot, h]

theorem assignUnitSlot_vendor (h : storedUnit units channel = none)
    (hsupplied : transformedUnit.get "slot" ≠ .null) :
    assignUnitSlot units channel transformedUnit apiDeviceId channelNumber =
      match (transformedUnit.get "slot").toInt with
      | some slot => .ok slot
      | none => .error .notANumber := by
  rw [storedUnit] at h
  rw [assignUnitSlot, h]
  cases hslot : transformedUnit.get "slot" with
  | null => exact absurd hslot hsupplied
  | bool | number | text | array | object => rfl

theorem assignUnitSlot_derived (h : storedUnit units channel = none)
    (habsent : transformedUnit.get "slot" = .null) :
    assignUnitSlot units channel transformedUnit apiDeviceId channelNumber =
      (freeSlot units (digestSlot apiDeviceId channelNumber)).elim (.error .slotsExhausted)
        fun slot => .ok slot := by
  rw [storedUnit] at h
  simp only [assignUnitSlot, h, habsent]
  rw [← digestSlot]
  cases freeSlot units (digestSlot apiDeviceId channelNumber) with
  | some | none => rfl

theorem supplied_of_toInt {value : JsonValue} {slot : Int}
    (h : value.toInt = some slot) : value ≠ .null := by
  rintro rfl
  cases h

/-- The bounded search of the model is the loop of the code. -/
theorem slotAssigned_iff {outcome : Except UnitError Int} :
    SlotAssigned units channel transformedUnit apiDeviceId channelNumber outcome ↔
      assignUnitSlot units channel transformedUnit apiDeviceId channelNumber = outcome ∧
        outcome ≠ .error .slotsExhausted := by
  have hstart := digestSlot_lt apiDeviceId channelNumber
  constructor
  · intro h
    cases h with
    | stored unit found => exact ⟨assignUnitSlot_stored found, by simp⟩
    | vendor slot unassigned value =>
        rw [assignUnitSlot_vendor unassigned (supplied_of_toInt value), value]
        exact ⟨rfl, by simp⟩
    | notANumber unassigned supplied value =>
        rw [assignUnitSlot_vendor unassigned supplied, value]
        exact ⟨rfl, by simp⟩
    | derived slot unassigned absent stops =>
        rw [assignUnitSlot_derived unassigned absent, freeSlot_eq, (stops_iff_find? hstart).mp stops]
        exact ⟨rfl, by simp⟩
  · rintro ⟨rfl, hreturns⟩
    cases hfound : storedUnit units channel with
    | some unit =>
        rw [assignUnitSlot_stored hfound]
        exact .stored unit hfound
    | none =>
        by_cases habsent : transformedUnit.get "slot" = .null
        · rw [assignUnitSlot_derived hfound habsent] at hreturns ⊢
          cases hfree : freeSlot units (digestSlot apiDeviceId channelNumber) with
          | none => exact absurd (by rw [hfree]; rfl) hreturns
          | some slot =>
              rw [freeSlot_eq] at hfree
              exact .derived slot hfound habsent ((stops_iff_find? hstart).mpr hfree)
        · rw [assignUnitSlot_vendor hfound habsent]
          cases hvalue : (transformedUnit.get "slot").toInt with
          | some slot => exact .vendor slot hfound hvalue
          | none => exact .notANumber hfound habsent hvalue

/-- The call returns exactly when it has no slot to derive or some slot is free. -/
theorem exists_slotAssigned_iff :
    (∃ outcome, SlotAssigned units channel transformedUnit apiDeviceId channelNumber outcome) ↔
      (∃ unit ∈ units, unit.assignedResource = some channel.pk) ∨ transformedUnit.get "slot" ≠ .null ∨
        ∃ slot < 10000, ¬ SlotTaken units slot := by
  have hstart := digestSlot_lt apiDeviceId channelNumber
  cases hfound : storedUnit units channel with
  | some unit =>
      exact iff_of_true ⟨_, .stored unit hfound⟩ (.inl ⟨unit, storedUnit_eq_some hfound⟩)
  | none =>
      by_cases habsent : transformedUnit.get "slot" = .null
      · rw [← exists_stops_iff hstart]
        constructor
        · rintro ⟨outcome, h⟩
          cases h with
          | stored unit found => cases hfound.symm.trans found
          | vendor slot unassigned value => exact absurd habsent (supplied_of_toInt value)
          | notANumber unassigned supplied value => exact absurd habsent supplied
          | derived slot unassigned absent stops => exact .inr (.inr ⟨slot, stops⟩)
        · rintro (⟨unit, hunit, hassigned⟩ | hsupplied | ⟨slot, hstops⟩)
          · exact absurd hassigned (storedUnit_eq_none.mp hfound unit hunit)
          · exact absurd habsent hsupplied
          · exact ⟨_, .derived slot hfound habsent hstops⟩
      · refine iff_of_true ?_ (.inr (.inl habsent))
        cases hvalue : (transformedUnit.get "slot").toInt with
        | some slot => exact ⟨_, .vendor slot hfound hvalue⟩
        | none => exact ⟨_, .notANumber hfound habsent hvalue⟩

theorem derived_slot_free {slot : Int}
    (h : SlotAssigned units channel transformedUnit apiDeviceId channelNumber (.ok slot))
    (hunassigned : ∀ unit ∈ units, unit.assignedResource ≠ some channel.pk)
    (habsent : transformedUnit.get "slot" = .null) : ∀ unit ∈ units, unit.slot ≠ slot := by
  rw [← storedUnit_eq_none] at hunassigned
  cases h with
  | stored unit found => cases hunassigned.symm.trans found
  | vendor slot unassigned value => exact absurd habsent (supplied_of_toInt value)
  | derived slot unassigned absent stops =>
      intro unit hunit heq
      exact stops.free_stop ⟨unit, hunit, heq⟩

end Assign

/-- The unit is on an RF channel of the chassis. -/
def UnitTables.OnChassis (tables : UnitTables) (unit : UnitRow) (chassis : Nat) : Prop :=
  ∃ channel ∈ tables.channels.rows, unit.assignedResource = some channel.pk ∧
    channel.chassis.pk = chassis

/-- Units on different RF channels of one chassis have different slots. -/
def UnitTables.SlotsDistinct (tables : UnitTables) : Prop :=
  ∀ chassis, ∀ first ∈ tables.units, ∀ second ∈ tables.units, tables.OnChassis first chassis →
    tables.OnChassis second chassis → first.assignedResource ≠ second.assignedResource →
      first.slot ≠ second.slot

/-- What the keys and references of the tables guarantee. -/
structure UnitTables.Referential (tables : UnitTables) : Prop extends tables.Consistent where
  channel_pk_unique : UniqueOn RFChannel.pk tables.channels.rows
  channel_pk_lt : ∀ channel ∈ tables.channels.rows, channel.pk < tables.channels.nextPk
  assigned : ∀ unit ∈ tables.units, ∀ pk, unit.assignedResource = some pk →
    ∃ channel ∈ tables.channels.rows, channel.pk = pk

/-- The channel of a report is a stored one, or it is stored now. -/
inductive ChannelEffect (chassis : ChannelChassis) (channel : RFChannel) (table table' : ChannelTable) :
    Prop where
  | found (stored : channel ∈ table.rows) (owner : channel.chassis.pk = chassis.pk)
    (same : table' = table)
  | created (owner : channel.chassis = chassis) (pk : channel.pk = table.nextPk)
      (inserted : table' = table.insertRow channel)

theorem updateOrCreateChannel_effect {table table' : ChannelTable} {chassis : ChannelChassis}
    {channelNumber : Int} {channel : RFChannel}
    (h : updateOrCreateChannel table chassis channelNumber = .ok (table', channel)) :
    ChannelEffect chassis channel table table' := by
  rw [updateOrCreateChannel] at h
  split at h
  next stored hfind =>
    obtain ⟨rfl, rfl⟩ := Prod.mk.inj (Except.ok.inj h)
    have howner := List.find?_some hfind
    rw [Bool.and_eq_true, decide_eq_true_iff] at howner
    exact .found (List.mem_of_find?_eq_some hfind) howner.1 rfl
  next =>
    obtain ⟨created, hcreate, h⟩ := bind_eq_ok.mp h
    obtain ⟨rfl, rfl⟩ := Prod.mk.inj (Except.ok.inj h)
    exact .created rfl rfl (createChannel_eq_ok hcreate)

section Report

variable (transformData : JsonObject → Int → Option JsonObject)
  (stores : UnitTelemetry → Option UnitTelemetry)

/-- The report creates the unit of a channel, with the slot that the vendor supplies and the column
holds. -/
structure UnitReport.BringsSlot (report : UnitReport) (tables : UnitTables) (channelNumber : Int)
    (channels : ChannelTable) (channel : RFChannel) (slot : Int) : Prop where
  number : report.channelData.channel.toInt = some channelNumber
  reached : updateOrCreateChannel tables.channels report.chassis channelNumber = .ok (channels, channel)
  unassigned : ∀ unit ∈ tables.units, unit.assignedResource ≠ some channel.pk
  value : ((report.transformedUnit transformData channelNumber).get "slot").toInt = some slot
  fits : SlotFits slot
  stored : (stores (unitTelemetry (report.transformedUnit transformData channelNumber))).isSome

/-- The report brings a slot for a channel without a unit, and a unit on another channel of the
chassis has that slot. -/
def UnitReport.TakesSlot (report : UnitReport) (tables : UnitTables) : Prop :=
  ∃ channelNumber channels channel slot,
    report.BringsSlot transformData stores tables channelNumber channels channel slot ∧
      ∃ unit ∈ tables.units, tables.OnChassis unit report.chassis.pk ∧ unit.slot = slot

inductive SlotEffect (report : UnitReport) (tables tables' : UnitTables) : Prop where
  | kept (units : tables'.units = tables.units)
  | updated (previous unit : UnitRow) (stored : previous ∈ tables.units) (pk : unit.pk = previous.pk)
      (assigned : unit.assignedResource = previous.assignedResource) (slot : unit.slot = previous.slot)
      (units : tables'.units = replaceRow UnitRow.pk unit tables.units)
  | created (channel : RFChannel) (unit : UnitRow)
      (assigned : unit.assignedResource = some channel.pk)
      (source : (∀ other ∈ tables.units, other.slot ≠ unit.slot) ∨ ∃ channelNumber channels,
        report.BringsSlot transformData stores tables channelNumber channels channel unit.slot)
      (effect : ChannelEffect report.chassis channel tables.channels tables'.channels)
      (units : tables'.units = tables.units ++ [unit])

end Report

section Effect

variable {transformData : JsonObject → Int → Option JsonObject}
  {stores : UnitTelemetry → Option UnitTelemetry}

theorem isEmpty_of_toInt {transformedUnit : JsonObject} {slot : Int}
    (h : (transformedUnit.get "slot").toInt = some slot) : transformedUnit.isEmpty = false := by
  cases transformedUnit with
  | nil => cases h
  | cons => rfl

theorem updateOrCreateUnit_new {tables : UnitTables} {report : UnitReport}
    {channel : RFChannel} {slot : Int}
    {transformedUnit : JsonObject} {telemetry : UnitTelemetry}
    (hunassigned : ∀ unit ∈ tables.units, unit.assignedResource ≠ some channel.pk)
    (hstored : stores (unitTelemetry transformedUnit) = some telemetry) (hslot : SlotFits slot) :
    ∃ tables' unit, updateOrCreateUnit stores tables report channel slot transformedUnit = .ok tables' ∧
      unit.assignedResource = some channel.pk ∧ unit.slot = slot ∧ tables'.channels = tables.channels ∧
      tables'.units = tables.units ++ [unit] := by
  have hnone : uniqueMatch UnitError.multipleObjectsReturned
      (tables.units.filter fun unit => unit.assignedResource = some channel.pk) = .ok none :=
    uniqueMatch_filter_eq_none.mpr fun unit hunit => by simpa using hunassigned unit hunit
  let unit :=
    report.unitRow tables.nextPk channel slot telemetry (reportedStatus transformedUnit).str none
  refine ⟨{ tables with units := tables.units ++ [unit], nextPk := tables.nextPk + 1 }, unit,
    ?_, rfl, rfl, rfl, rfl⟩
  simp only [updateOrCreateUnit, hnone, hstored, if_neg (not_not.mpr hslot)]
  rfl

theorem updateOrCreateUnit_slot {tables tables' : UnitTables} {report : UnitReport}
    {channel : RFChannel}
    {slot : Int} {transformedUnit : JsonObject}
    (h : updateOrCreateUnit stores tables report channel slot transformedUnit = .ok tables') :
    tables'.channels = tables.channels ∧ SlotFits slot ∧
      (stores (unitTelemetry transformedUnit)).isSome ∧
      ∃ unit : UnitRow, unit.assignedResource = some channel.pk ∧ unit.slot = slot ∧
        ((∃ previous, storedUnit tables.units channel = some previous ∧ unit.pk = previous.pk ∧
            tables'.units = replaceRow UnitRow.pk unit tables.units) ∨
          storedUnit tables.units channel = none ∧ tables'.units = tables.units ++ [unit]) := by
  obtain ⟨found, hfound, h⟩ := bind_eq_ok.mp h
  cases found with
  | some previous =>
      obtain ⟨⟨status, lastSeen⟩, -, h⟩ := bind_eq_ok.mp h
      obtain ⟨hmem, hassigned, hunique⟩ := uniqueMatch_filter_eq_some hfound
      have hstored : storedUnit tables.units channel = some previous := by
        cases hfind : storedUnit tables.units channel with
        | none => exact absurd (of_decide_eq_true hassigned) (storedUnit_eq_none.mp hfind previous hmem)
        | some other =>
            obtain ⟨hother, hassigned'⟩ := storedUnit_eq_some hfind
            rw [hunique other hother (decide_eq_true hassigned')]
      simp only at h
      split at h
      next => cases h
      next telemetry htelemetry =>
        split at h
        next => cases h
        next hslot =>
          obtain rfl := Except.ok.inj h
          exact ⟨rfl, not_not.mp hslot, by rw [htelemetry]; rfl,
            report.unitRow previous.pk channel slot telemetry status lastSeen, rfl, rfl,
            .inl ⟨previous, hstored, rfl, rfl⟩⟩
  | none =>
      have hnone : storedUnit tables.units channel = none :=
        storedUnit_eq_none.mpr fun unit hunit => by
          simpa using uniqueMatch_filter_eq_none.mp hfound unit hunit
      simp only at h
      split at h
      next => cases h
      next telemetry htelemetry =>
        split at h
        next => cases h
        next hslot =>
          obtain rfl := Except.ok.inj h
          exact ⟨rfl, not_not.mp hslot, by rw [htelemetry]; rfl,
            report.unitRow tables.nextPk channel slot telemetry
              (reportedStatus transformedUnit).str none,
            rfl, rfl, .inr ⟨hnone, rfl⟩⟩

theorem unitStep_of_bringsSlot {report : UnitReport} {tables : UnitTables} {channelNumber : Int}
    {channels : ChannelTable} {channel : RFChannel} {slot : Int}
    (h : report.BringsSlot transformData stores tables channelNumber channels channel slot) :
    (unitStep transformData stores tables report).channels = channels ∧
      ∃ unit : UnitRow, unit.assignedResource = some channel.pk ∧ unit.slot = slot ∧
        (unitStep transformData stores tables report).units = tables.units ++ [unit] := by
  obtain ⟨telemetry, htelemetry⟩ := Option.isSome_iff_exists.mp h.stored
  have hassign : assignUnitSlot tables.units channel
      (report.transformedUnit transformData channelNumber)
      report.apiDeviceId channelNumber = .ok slot :=
    (slotAssigned_iff.mp (.vendor slot (storedUnit_eq_none.mpr h.unassigned) h.value)).1
  obtain ⟨tables', unit, hcreate, hassigned, hslot, hchannels, hunits⟩ :=
    @updateOrCreateUnit_new stores { tables with channels } report channel slot _ telemetry h.unassigned
      htelemetry h.fits
  have hupdated : (do
      let slot ← assignUnitSlot tables.units channel
          (report.transformedUnit transformData channelNumber)
        report.apiDeviceId channelNumber
      updateOrCreateUnit stores { tables with channels } report channel slot
        (report.transformedUnit transformData channelNumber)) = .ok tables' := by
    rw [hassign]
    exact hcreate
  have hstep : unitStep transformData stores tables report = tables' := by
    rw [unitStep, updateChannelAndUnit, h.number]
    simp only [isEmpty_of_toInt h.value, Bool.false_eq_true, if_false, h.reached, hupdated]
  rw [hstep]
  exact ⟨hchannels, unit, hassigned, hslot, hunits⟩

theorem unitStep_slotEffect (tables : UnitTables) (report : UnitReport) :
    SlotEffect transformData stores report tables (unitStep transformData stores tables report) ∧
      ((unitStep transformData stores tables report).channels = tables.channels ∨
        ∃ channel, ChannelEffect report.chassis channel tables.channels
          (unitStep transformData stores tables report).channels) := by
  rw [unitStep, updateChannelAndUnit]
  cases hnumber : report.channelData.channel.toInt with
  | none => exact ⟨.kept rfl, .inl rfl⟩
  | some channelNumber =>
      simp only
      split
      next => exact ⟨.kept rfl, .inl rfl⟩
      next =>
        cases hreached : updateOrCreateChannel tables.channels report.chassis channelNumber with
        | error e => exact ⟨.kept rfl, .inl rfl⟩
        | ok found =>
            obtain ⟨channels, channel⟩ := found
            have hchannel := updateOrCreateChannel_effect hreached
            simp only
            split
            next => exact ⟨.kept rfl, .inr ⟨channel, hchannel⟩⟩
            next tables' hupdated =>
              obtain ⟨slot, hslot, hupdate⟩ := bind_eq_ok.mp hupdated
              obtain ⟨hchannels, hfits, htelemetry, unit, hassigned, rfl, hunits⟩ :=
                updateOrCreateUnit_slot hupdate
              have hreturned := slotAssigned_iff.mpr ⟨hslot, by simp⟩
              have hkept : ChannelEffect report.chassis channel tables.channels tables'.channels :=
                hchannels ▸ hchannel
              refine ⟨?_, .inr ⟨channel, hkept⟩⟩
              rcases hunits with ⟨previous, hfound, hpk, hunits⟩ | ⟨hnone, hunits⟩
              · obtain ⟨hmem, hprevious⟩ := storedUnit_eq_some hfound
                rw [assignUnitSlot_stored hfound] at hslot
                exact .updated previous unit hmem hpk (hassigned.trans hprevious.symm)
                  (Except.ok.inj hslot).symm hunits
              · refine .created channel unit hassigned ?_ hkept hunits
                have hunassigned := storedUnit_eq_none.mp hnone
                by_cases habsent :
                  (report.transformedUnit transformData channelNumber).get "slot" = .null
                · exact .inl (derived_slot_free hreturned hunassigned habsent)
                · rw [assignUnitSlot_vendor hnone habsent] at hslot
                  cases hvalue :
                      ((report.transformedUnit transformData channelNumber).get "slot").toInt with
                  | none => rw [hvalue] at hslot; cases hslot
                  | some slot =>
                      rw [hvalue] at hslot
                      obtain rfl := Except.ok.inj hslot
                      exact .inr ⟨channelNumber, channels, hnumber, hreached,
                        hunassigned, hvalue, hfits,
                        htelemetry⟩

end Effect

namespace ChannelEffect

variable {chassis : ChannelChassis} {channel : RFChannel} {table table' : ChannelTable}

theorem owner_pk (h : ChannelEffect chassis channel table table') : channel.chassis.pk =
    chassis.pk := by
  cases h with
  | found stored owner same => exact owner
  | created owner pk inserted => rw [owner]

theorem kept (h : ChannelEffect chassis channel table table') {row : RFChannel}
    (hrow : row ∈ table.rows) :
    row ∈ table'.rows := by
  cases h with
  | found stored owner same => exact same ▸ hrow
  | created owner pk inserted =>
      rw [inserted, ChannelTable.insertRow_rows]
      exact List.mem_append_left _ hrow

theorem stored (h : ChannelEffect chassis channel table table') : channel ∈ table'.rows := by
  cases h with
  | found stored owner same => exact same ▸ stored
  | created owner pk inserted =>
      rw [inserted, ChannelTable.insertRow_rows]
      exact List.mem_append_right _ (List.mem_singleton.mpr rfl)

theorem keys (h : ChannelEffect chassis channel table table')
    (hunique : UniqueOn RFChannel.pk table.rows)
    (hlt : ∀ row ∈ table.rows, row.pk < table.nextPk) :
    UniqueOn RFChannel.pk table'.rows ∧ ∀ row ∈ table'.rows, row.pk < table'.nextPk := by
  cases h with
  | found stored owner same => exact same ▸ ⟨hunique, hlt⟩
  | created owner pk inserted =>
      rw [inserted]
      refine ⟨hunique.append_row fun row hrow heq => ?_, fun row hrow => ?_⟩
      · have hrow := hlt row hrow
        omega
      · rw [ChannelTable.insertRow_rows, List.mem_append, List.mem_singleton] at hrow
        show row.pk < table.nextPk + 1
        rcases hrow with hold | rfl
        · have hold := hlt row hold
          omega
        · omega

end ChannelEffect

section Step

variable {transformData : JsonObject → Int → Option JsonObject}
  {stores : UnitTelemetry → Option UnitTelemetry} {tables : UnitTables}

theorem unitStep_channels (h : tables.Referential) (report : UnitReport) :
    (∀ row ∈ tables.channels.rows, row ∈ (unitStep transformData stores tables report).channels.rows) ∧
      UniqueOn RFChannel.pk (unitStep transformData stores tables report).channels.rows ∧
        ∀ row ∈ (unitStep transformData stores tables report).channels.rows,
          row.pk < (unitStep transformData stores tables report).channels.nextPk := by
  obtain ⟨-, hsame | ⟨channel, heffect⟩⟩ := @unitStep_slotEffect transformData stores tables report
  · rw [hsame]
    exact ⟨fun _ hrow => hrow, h.channel_pk_unique, h.channel_pk_lt⟩
  · exact ⟨fun _ hrow => heffect.kept hrow, heffect.keys h.channel_pk_unique h.channel_pk_lt⟩

theorem unitStep_referential (h : tables.Referential) (report : UnitReport) :
    (unitStep transformData stores tables report).Referential := by
  obtain ⟨hkept, hunique, hlt⟩ := @unitStep_channels transformData stores tables h report
  refine ⟨(unitStep_effect tables report).consistent h.toConsistent, hunique, hlt, ?_⟩
  intro unit hunit pk hassigned
  have hstored : ∀ unit ∈ tables.units, unit.assignedResource = some pk →
      ∃ channel ∈ (unitStep transformData stores tables report).channels.rows, channel.pk = pk := by
    intro unit hunit hassigned
    obtain ⟨channel, hchannel, hpk⟩ := h.assigned unit hunit pk hassigned
    exact ⟨channel, hkept channel hchannel, hpk⟩
  cases (@unitStep_slotEffect transformData stores tables report).1 with
  | kept units => exact hstored unit (units ▸ hunit) hassigned
  | updated previous written stored _ assigned _ units =>
      rw [units, mem_replaceRow] at hunit
      rcases hunit with ⟨rfl, -⟩ | ⟨hold, -⟩
      · exact hstored previous stored (assigned ▸ hassigned)
      · exact hstored unit hold hassigned
  | created channel written assigned _ effect units =>
      rw [units, List.mem_append, List.mem_singleton] at hunit
      rcases hunit with hold | rfl
      · exact hstored unit hold hassigned
      · exact ⟨channel, effect.stored, Option.some.inj (assigned.symm.trans hassigned)⟩

theorem onChassis_unitStep (h : tables.Referential) (report : UnitReport) {unit unit' : UnitRow}
    (hunit : unit ∈ tables.units) (hassigned : unit'.assignedResource = unit.assignedResource)
    (chassis : Nat) :
    (unitStep transformData stores tables report).OnChassis unit' chassis ↔
      tables.OnChassis unit chassis := by
  obtain ⟨hkept, hunique, -⟩ := @unitStep_channels transformData stores tables h report
  constructor
  · rintro ⟨channel, hchannel, hon, howner⟩
    obtain ⟨stored, hstored, hpk⟩ := h.assigned unit hunit channel.pk (hassigned ▸ hon)
    obtain rfl := hunique.eq (hkept stored hstored) hchannel hpk
    exact ⟨stored, hstored, hassigned ▸ hon, howner⟩
  · rintro ⟨channel, hchannel, hon, howner⟩
    exact ⟨channel, hkept channel hchannel, hassigned ▸ hon, howner⟩

theorem slotsDistinct_of_counterparts (h : tables.Referential) {report : UnitReport}
    (hdistinct : tables.SlotsDistinct)
    (hcounterpart : ∀ unit' ∈ (unitStep transformData stores tables report).units,
      ∃ unit ∈ tables.units,
      unit'.assignedResource = unit.assignedResource ∧ unit'.slot = unit.slot) :
    (unitStep transformData stores tables report).SlotsDistinct := by
  intro chassis first hfirst second hsecond hfirstOn hsecondOn hne
  obtain ⟨first', hfirst', hassigned, hslot⟩ := hcounterpart first hfirst
  obtain ⟨second', hsecond', hassigned', hslot'⟩ := hcounterpart second hsecond
  rw [onChassis_unitStep h report hfirst' hassigned] at hfirstOn
  rw [onChassis_unitStep h report hsecond' hassigned'] at hsecondOn
  rw [hslot, hslot']
  rw [hassigned, hassigned'] at hne
  exact hdistinct chassis first' hfirst' second' hsecond' hfirstOn hsecondOn hne

theorem unitStep_slotsDistinct_iff (h : tables.Referential) (hdistinct : tables.SlotsDistinct)
    (report : UnitReport) :
    (unitStep transformData stores tables report).SlotsDistinct ↔
      ¬ report.TakesSlot transformData stores tables := by
  constructor
  · rintro hafter ⟨channelNumber, channels, channel, slot, hbrings, other, hother, hon, hslot⟩
    have heffect := updateOrCreateChannel_effect hbrings.reached
    obtain ⟨hchannels, unit, hassigned, hunitSlot, hunits⟩ := unitStep_of_bringsSlot hbrings
    have hunitOn : (unitStep transformData stores tables report).OnChassis unit report.chassis.pk :=
      ⟨channel, hchannels ▸ heffect.stored, hassigned, heffect.owner_pk⟩
    have hotherOn := (@onChassis_unitStep transformData stores tables h report other other hother rfl
      report.chassis.pk).mpr hon
    refine hafter report.chassis.pk other ?_ unit ?_ hotherOn hunitOn ?_ (hslot.trans hunitSlot.symm)
    · rw [hunits]
      exact List.mem_append_left _ hother
    · rw [hunits]
      exact List.mem_append_right _ (List.mem_singleton.mpr rfl)
    · rw [hassigned]
      exact hbrings.unassigned other hother
  · intro hkeeps
    cases (@unitStep_slotEffect transformData stores tables report).1 with
    | kept units =>
        exact slotsDistinct_of_counterparts h hdistinct fun unit hunit =>
          ⟨unit, units ▸ hunit, rfl, rfl⟩
    | updated previous unit stored _ assigned slot units =>
        refine slotsDistinct_of_counterparts h hdistinct fun unit' hunit' => ?_
        rw [units, mem_replaceRow] at hunit'
        rcases hunit' with ⟨rfl, -⟩ | ⟨hold, -⟩
        · exact ⟨previous, stored, assigned, slot⟩
        · exact ⟨unit', hold, rfl, rfl⟩
    | created channel unit assigned source effect units =>
        have hunique := (@unitStep_channels transformData stores tables h report).2.1
        have hnew : ∀ chassis, ∀ other ∈ tables.units, tables.OnChassis other chassis →
            (unitStep transformData stores tables report).OnChassis unit chassis →
              other.slot ≠ unit.slot := by
          rintro chassis other hother hon ⟨channel', hchannel', hassigned', rfl⟩ heq
          have hpk := Option.some.inj (hassigned'.symm.trans assigned)
          obtain rfl := hunique.eq hchannel' effect.stored hpk
          rcases source with hunused | ⟨channelNumber, channels, hbrings⟩
          · exact hunused other hother heq
          · rw [effect.owner_pk] at hon
            exact hkeeps ⟨channelNumber, channels, channel', unit.slot, hbrings, other,
              hother, hon, heq⟩
        intro chassis first hfirst second hsecond hfirstOn hsecondOn hne
        rw [units, List.mem_append, List.mem_singleton] at hfirst hsecond
        rcases hfirst with hfirst | rfl <;> rcases hsecond with hsecond | rfl
        · rw [onChassis_unitStep h report hfirst rfl] at hfirstOn
          rw [onChassis_unitStep h report hsecond rfl] at hsecondOn
          exact hdistinct chassis first hfirst second hsecond hfirstOn hsecondOn hne
        · rw [onChassis_unitStep h report hfirst rfl] at hfirstOn
          exact hnew chassis first hfirst hfirstOn hsecondOn
        · rw [onChassis_unitStep h report hsecond rfl] at hsecondOn
          exact (hnew chassis second hsecond hsecondOn hfirstOn).symm
        · exact absurd rfl hne

theorem unitRun_referential (h : tables.Referential) (reports : List UnitReport) :
    (unitRun transformData stores tables reports).Referential := by
  induction reports generalizing tables with
  | nil => exact h
  | cons report rest ih => exact ih (unitStep_referential h report)

end Step

/-! ### Runs of reports -/

def UnitReport.vendorSlot (transformData : JsonObject → Int → Option JsonObject) (report : UnitReport) :
    Option Int :=
  report.channelData.channel.toInt.bind fun channelNumber =>
    ((report.transformedUnit transformData channelNumber).get "slot").toInt

/-- The slots that the vendor supplies for different channels of one chassis are different. -/
def VendorSlotsDistinct (transformData : JsonObject → Int → Option JsonObject)
    (reports : List UnitReport) :
    Prop :=
  ∀ first ∈ reports, ∀ second ∈ reports, first.chassis.pk = second.chassis.pk →
    first.channelData.channel.toInt ≠ second.channelData.channel.toInt →
      first.vendorSlot transformData = second.vendorSlot transformData →
        first.vendorSlot transformData = none

/-- **A slot is assigned in finitely many steps exactly when the channel has a unit, the vendor
supplies a slot or a slot below the bound is free, and a derived slot is free; over a sequence of
reports the slots on one chassis stay distinct exactly when no report takes a slot.** -/
theorem unit_slots_iff (transformData : JsonObject → Int → Option JsonObject)
    (stores : UnitTelemetry → Option UnitTelemetry) {start : UnitTables} (hstart : start.Referential)
    (hdistinct : start.SlotsDistinct) (reports : List UnitReport) :
    (∀ units channel transformedUnit apiDeviceId channelNumber,
      ((∃ outcome, SlotAssigned units channel transformedUnit apiDeviceId channelNumber outcome) ↔
        (∃ unit ∈ units, unit.assignedResource = some channel.pk) ∨ transformedUnit.get "slot" ≠ .null ∨
          ∃ slot < 10000, ¬ SlotTaken units slot) ∧
      ((∀ unit ∈ units, unit.assignedResource ≠ some channel.pk) → transformedUnit.get "slot" = .null →
        ∀ slot, SlotAssigned units channel transformedUnit apiDeviceId channelNumber (.ok slot) →
          ∀ unit ∈ units, unit.slot ≠ slot)) ∧
    ((∀ seen rest, reports = seen ++ rest → (unitRun transformData stores start seen).SlotsDistinct) ↔
      ∀ seen report rest, reports = seen ++ report :: rest →
        ¬ report.TakesSlot transformData stores (unitRun transformData stores start seen)) := by
  refine ⟨fun units channel transformedUnit apiDeviceId channelNumber => ?_, ?_⟩
  · refine ⟨exists_slotAssigned_iff, ?_⟩
    intro hunassigned habsent slot hreturned
    exact derived_slot_free hreturned hunassigned habsent
  · have hstep : ∀ (tables : UnitTables) (report : UnitReport), tables.Referential ∧
        tables.SlotsDistinct →
        ((unitStep transformData stores tables report).Referential ∧
          (unitStep transformData stores tables report).SlotsDistinct ↔
            ¬ report.TakesSlot transformData stores tables) := by
      rintro tables report ⟨hreferential, hdistinct⟩
      rw [← unitStep_slotsDistinct_iff hreferential hdistinct]
      exact and_iff_right (unitStep_referential hreferential report)
    refine Iff.trans ?_ (foldl_always_iff hstep ⟨hstart, hdistinct⟩)
    exact forall₃_congr fun seen rest hsplit => (and_iff_right (unitRun_referential hstart seen)).symm

theorem idleUnitTables_referential : idleUnitTables.Referential where
  toConsistent := idleUnitTables_consistent
  channel_pk_unique := by decide
  channel_pk_lt := by decide
  assigned := by
    intro unit hunit pk hassigned
    obtain rfl := List.mem_singleton.mp hunit
    obtain rfl := Option.some.inj hassigned
    exact ⟨_, List.mem_singleton.mpr rfl, rfl⟩

theorem idleUnitTables_slotsDistinct : idleUnitTables.SlotsDistinct := by
  intro chassis first hfirst second hsecond _ _ hne
  obtain rfl := List.mem_singleton.mp hfirst
  obtain rfl := List.mem_singleton.mp hsecond
  exact absurd rfl hne

/-- A report of a channel that has a unit takes no slot. -/
theorem unit_slots_iff_idleUnit :
    (unitRun vendorTransmitter some idleUnitTables [statusReport "offline"]).SlotsDistinct := by
  refine ((unit_slots_iff vendorTransmitter some idleUnitTables_referential idleUnitTables_slotsDistinct
    [statusReport "offline"]).2.mpr ?_) [statusReport "offline"] [] rfl
  intro seen report rest hsplit
  obtain ⟨rfl, rfl, rfl⟩ := split_singleton hsplit
  rintro ⟨channelNumber, channels, channel, slot, hbrings, -⟩
  have hnumber : channelNumber = 1 := (Option.some.inj hbrings.number).symm
  subst hnumber
  obtain ⟨-, rfl⟩ := Prod.mk.inj (Except.ok.inj hbrings.reached)
  exact hbrings.unassigned _ (List.mem_singleton.mpr rfl) rfl

/-- The report of a channel with what the vendor sends as the slot. -/
def slotReport (channelNumber : Int) (slot : JsonValue) : UnitReport where
  now := 0
  chassis := quadReceiver
  manufacturer := 1
  apiDeviceId := "rx-1"
  channelData := {
    channel := .number channelNumber (toString channelNumber)
    tx := some [("status", .text "online"), ("slot", slot)] }
  transmitterIsNormalized := false

def spareUnit (slot : Nat) : UnitRow where
  pk := slot + 1
  assignedResource := none
  slot
  manufacturer := 1
  baseChassis := 1
  telemetry := unitTelemetry []
  status := "idle"
  lastSeen := none

/-- Units that use every slot below the bound. -/
def everySlotUsed : List UnitRow := (List.range 10000).map spareUnit

theorem everySlotUsed_taken {slot : Nat} (h : slot < 10000) : SlotTaken everySlotUsed slot :=
  ⟨spareUnit slot, List.mem_map.mpr ⟨slot, List.mem_range.mpr h, rfl⟩, rfl⟩

def noUnits : UnitTables where
  channels := ChannelTable.empty
  units := []
  nextPk := 1

/-- The search for a slot does not end when every slot is used; and a vendor that supplies one slot
supplies the one that was derived for another channel. -/
theorem slots_exhausted_and_shared :
    (¬ ∃ outcome, SlotAssigned everySlotUsed { RFChannel.unsaved quadReceiver 1 with pk := 1 }
      [("slot", .null)] "rx-1" 1 outcome) ∧
    VendorSlotsDistinct vendorTransmitter [slotReport 1 .null, slotReport 2 (.number 2089 "2089")] ∧
    (let tables := unitRun vendorTransmitter some noUnits
      [slotReport 1 .null, slotReport 2 (.number 2089 "2089")]
    ∃ first ∈ tables.units, ∃ second ∈ tables.units, ∃ channel ∈ tables.channels.rows,
      ∃ other ∈ tables.channels.rows, channel.pk ≠ other.pk ∧ channel.chassis.pk = other.chassis.pk ∧
        first.assignedResource = some channel.pk ∧ second.assignedResource = some other.pk ∧
          first.slot = second.slot) := by
  refine ⟨?_, ?_, ?_⟩
  · rw [exists_slotAssigned_iff]
    rintro (⟨unit, hunit, hassigned⟩ | hsupplied | ⟨slot, hslot, hfree⟩)
    · obtain ⟨slot, -, rfl⟩ := List.mem_map.mp hunit
      cases hassigned
    · exact hsupplied rfl
    · exact hfree (everySlotUsed_taken hslot)
  · rw [VendorSlotsDistinct]
    decide +kernel
  · decide +kernel

end Micboard
