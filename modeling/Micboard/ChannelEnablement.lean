import Micboard.LibraryTable
import Micboard.LibraryRun
import Micboard.LibraryTransition

/-! RF channels. The save hook of a channel forces the resource state of a channel that is being
disabled, checks the change of its resource state against a partial table, and checks the channel
number against the capacity of the chassis. A channel that is created disabled, and a disabled
channel that is saved with another state, are not forced. The audit event of a state change, and the
columns that no hook reads, are not part of the model. -/

namespace Micboard

open Library Library.Transition

def validResourceStateTransitions : Table String :=
  [("free", ["reserved", "active", "disabled"]),
    ("reserved", ["free", "active", "disabled"]),
    ("active", ["free", "degraded", "disabled"]),
    ("degraded", ["free", "active", "disabled"]),
    ("disabled", ["free"])]

/-- The chassis that a channel instance refers to. -/
structure ChannelChassis where
  pk : Nat
  model : String
  maxChannels : Nat
  wmasCapable : Bool
  deriving DecidableEq, Repr

/-- An `RFChannel` row or instance. -/
structure RFChannel where
  pk : Nat
  chassis : ChannelChassis
  channelNumber : Int
  enabled : Bool
  resourceState : String
  deriving DecidableEq, Repr

/-- An unsaved channel with the defaults of its fields. -/
def RFChannel.unsaved (chassis : ChannelChassis) (channelNumber : Int) : RFChannel where
  pk := 0
  chassis
  channelNumber
  enabled := true
  resourceState := "free"

/-- The channel columns that `update_fields` can name; `other` is any that the hook does not read. -/
inductive ChannelColumn where
  | chassis | channelNumber | enabled | resourceState | other
  deriving DecidableEq, Repr

/-- Every column: what a full save writes. -/
def ChannelColumn.all : List ChannelColumn :=
  [.chassis, .channelNumber, .enabled, .resourceState, .other]

/-- The columns of an `UPDATE`: the named ones come from the instance. -/
def RFChannel.writeTo (fields : List ChannelColumn) (channel row : RFChannel) : RFChannel where
  pk := row.pk
  chassis := if .chassis ∈ fields then channel.chassis else row.chassis
  channelNumber := if .channelNumber ∈ fields then channel.channelNumber else row.channelNumber
  enabled := if .enabled ∈ fields then channel.enabled else row.enabled
  resourceState := if .resourceState ∈ fields then channel.resourceState else row.resourceState

/-- The channel table, with its next primary key. -/
structure ChannelTable where
  rows : List RFChannel
  nextPk : Nat
  deriving DecidableEq, Repr

namespace ChannelTable

def empty : ChannelTable := { rows := [], nextPk := 1 }

def find (table : ChannelTable) (pk : Nat) : Option RFChannel :=
  table.rows.find? fun row => row.pk = pk

/-- Another row already holds the number of `row` on its chassis. -/
def violatesUnique (table : ChannelTable) (row : RFChannel) : Bool :=
  table.rows.any fun other => other.pk ≠ row.pk &&
    (other.chassis.pk = row.chassis.pk && other.channelNumber = row.channelNumber)

def updateRow (table : ChannelTable) (row : RFChannel) : ChannelTable :=
  { table with rows := replaceRow RFChannel.pk row table.rows }

def insertRow (table : ChannelTable) (row : RFChannel) : ChannelTable :=
  { rows := table.rows ++ [row], nextPk := table.nextPk + 1 }

end ChannelTable

/-- What aborts the save of a channel. -/
inductive ChannelError where
  | channelDoesNotExist (pk : Nat)
  | invalidTransition (old new : String)
  | exceedsCapacity (channelNumber : Int) (model : String) (maxChannels : Nat)
  | numberTooSmall
  | integrityError
  deriving DecidableEq, Repr

/-- The targets of a state as the error lists them. -/
def channelAllowedLabel (state : String) : String :=
  match allowed validResourceStateTransitions state with
  | [] => "none (terminal state)"
  | allowed => ", ".intercalate (allowed.mergeSort fun a b => a ≤ b)

/-- The text of an error, where the code writes one. -/
def ChannelError.describe : ChannelError → Option String
  | .invalidTransition old new =>
    some ("Invalid resource_state transition: " ++ old ++ " → " ++ new ++ ". Allowed: " ++
      channelAllowedLabel old)
  | .exceedsCapacity channelNumber model maxChannels =>
    some ("Channel " ++ toString channelNumber ++ " exceeds " ++ model ++ " capacity (" ++
      toString maxChannels ++ " channels max)")
  | .numberTooSmall => some "Channel number must be at least 1"
  | .channelDoesNotExist _ | .integrityError => none

structure ChannelSaveContext where
  oldResourceState : Option String := none
  stateChanged : Bool := false
  updateFields : List ChannelColumn := []
  deriving DecidableEq, Repr

/-- The capacity checks of the hook. -/
def checkChannelNumber (channel : RFChannel) : Except ChannelError Unit :=
  if !channel.chassis.wmasCapable ∧ channel.chassis.maxChannels < channel.channelNumber then
    .error (.exceedsCapacity channel.channelNumber channel.chassis.model channel.chassis.maxChannels)
  else if channel.channelNumber < 1 then .error .numberTooSmall
  else .ok ()

/-- Whether a save takes a channel out of use that is stored as enabled. -/
def disables (previous channel : RFChannel) : Bool := previous.enabled && !channel.enabled

/-- The instance of a channel stored as `previous`, as the hook leaves it. -/
def RFChannel.prepared (channel previous : RFChannel) : RFChannel :=
  if disables previous channel then { channel with resourceState := "disabled" } else channel

/-- The lifecycle part of the hook, for a channel that is stored as `previous`. -/
def prepareStoredChannel (previous channel : RFChannel) :
    Except ChannelError (RFChannel × ChannelSaveContext) :=
  let channel' := channel.prepared previous
  if previous.resourceState ≠ channel'.resourceState ∧
      channel'.resourceState ∉ allowed validResourceStateTransitions previous.resourceState then
    .error (.invalidTransition previous.resourceState channel'.resourceState)
  else
    .ok (channel', {
      oldResourceState := some previous.resourceState
      stateChanged := previous.resourceState ≠ channel'.resourceState
      updateFields := if disables previous channel then [.resourceState] else [] })

/-- Validate a channel and prepare derived lifecycle fields for persistence. -/
def prepareChannelForSave (table : ChannelTable) (adding : Bool) (channel : RFChannel) :
    Except ChannelError (RFChannel × ChannelSaveContext) := do
  let (channel, context) ←
    if adding then .ok (channel, {})
    else
      match table.find channel.pk with
      | none => .error (.channelDoesNotExist channel.pk)
      | some previous => prepareStoredChannel previous channel
  checkChannelNumber channel
  .ok (channel, context)

/-- Persist lifecycle fields omitted by a caller's partial update. -/
def persistDerivedChannelFields (table : ChannelTable) (channel : RFChannel)
    (context : ChannelSaveContext) (updateFields : Option (List ChannelColumn)) : ChannelTable :=
  match updateFields with
  | none => table
  | some updateFields =>
    match context.updateFields.filter (· ∉ updateFields), table.find channel.pk with
    | [], _ | _, none => table
    | derived, some row => table.updateRow (channel.writeTo derived row)

def createChannel (table : ChannelTable) (channel : RFChannel) : Except ChannelError ChannelTable := do
  let (channel, _) ← prepareChannelForSave table true channel
  let row := { channel with pk := table.nextPk }
  if table.violatesUnique row then .error .integrityError else .ok (table.insertRow row)

/-- `save` of a stored channel; an empty `update_fields` saves nothing. -/
def saveChannel (table : ChannelTable) (channel : RFChannel)
    (updateFields : Option (List ChannelColumn)) : Except ChannelError ChannelTable :=
  if updateFields = some [] then .ok table
  else do
    let (channel, context) ← prepareChannelForSave table false channel
    match table.find channel.pk with
    | none => .error (.channelDoesNotExist channel.pk)
    | some row =>
      let written := channel.writeTo (updateFields.getD ChannelColumn.all) row
      if table.violatesUnique written then .error .integrityError
      else .ok (persistDerivedChannelFields (table.updateRow written) channel context updateFields)

/-- A create or a save of a channel instance with whatever it holds in memory. -/
inductive ChannelWrite where
  | create (channel : RFChannel)
  | save (channel : RFChannel) (updateFields : Option (List ChannelColumn))
  deriving DecidableEq, Repr

def ChannelWrite.perform (table : ChannelTable) : ChannelWrite → Except ChannelError ChannelTable
  | .create channel => createChannel table channel
  | .save channel updateFields => saveChannel table channel updateFields

/-- The table after a write: a rejected one changes nothing. -/
def ChannelWrite.step (table : ChannelTable) (write : ChannelWrite) : ChannelTable :=
  match write.perform table with
  | .ok table => table
  | .error _ => table

/-- The table after a sequence of writes. -/
def channelRun (table : ChannelTable) (writes : List ChannelWrite) : ChannelTable :=
  writes.foldl ChannelWrite.step table

@[simp] theorem ChannelTable.updateRow_rows (table : ChannelTable) (row : RFChannel) :
    (table.updateRow row).rows = replaceRow RFChannel.pk row table.rows := rfl

@[simp] theorem ChannelTable.insertRow_rows (table : ChannelTable) (row : RFChannel) :
    (table.insertRow row).rows = table.rows ++ [row] := rfl

theorem ChannelTable.find_mem {table : ChannelTable} {pk : Nat} {row : RFChannel}
    (h : table.find pk = some row) : row ∈ table.rows := List.mem_of_find?_eq_some h

theorem ChannelTable.find_pk {table : ChannelTable} {pk : Nat} {row : RFChannel}
    (h : table.find pk = some row) : row.pk = pk := by
  simpa using List.find?_some h

theorem ChannelTable.find_updateRow {table : ChannelTable} {row old : RFChannel}
    (h : table.find row.pk = some old) : (table.updateRow row).find row.pk = some row :=
  find?_replaceRow RFChannel.pk h

theorem ChannelTable.updateRow_updateRow (table : ChannelTable) {first second : RFChannel}
    (h : first.pk = second.pk) : (table.updateRow first).updateRow second = table.updateRow second := by
  simp only [ChannelTable.updateRow, replaceRow_replaceRow RFChannel.pk h]

@[simp] theorem RFChannel.writeTo_pk (fields : List ChannelColumn) (channel row : RFChannel) :
    (channel.writeTo fields row).pk = row.pk := rfl

/-- The row that a save stores: the named columns of the prepared instance, and with them the derived
resource state. -/
def RFChannel.savedAt (fields : List ChannelColumn) (channel row : RFChannel) : RFChannel :=
  (channel.prepared row).writeTo
    (if disables row channel then fields ++ [.resourceState] else fields) row

theorem RFChannel.writeTo_congr {first second : List ChannelColumn}
    (h : ∀ column, column ∈ first ↔ column ∈ second) (channel row : RFChannel) :
    channel.writeTo first row = channel.writeTo second row := by
  simp only [RFChannel.writeTo, h]

/-- The second statement of a save adds the derived column. -/
theorem RFChannel.writeTo_resourceState {fields : List ChannelColumn} (channel row : RFChannel) :
    channel.writeTo [.resourceState] (channel.writeTo fields row) =
      channel.writeTo (fields ++ [.resourceState]) row := by
  simp [RFChannel.writeTo]

@[simp] theorem RFChannel.prepared_pk (channel row : RFChannel) :
    (channel.prepared row).pk = channel.pk := by
  rw [RFChannel.prepared]
  split <;> rfl

@[simp] theorem RFChannel.savedAt_pk (fields : List ChannelColumn) (channel row : RFChannel) :
    (channel.savedAt fields row).pk = row.pk := rfl

theorem prepareStoredChannel_eq_ok {previous channel channel' : RFChannel}
    {context : ChannelSaveContext}
    (h : prepareStoredChannel previous channel = .ok (channel', context)) :
    channel' = channel.prepared previous ∧
      context.updateFields = if disables previous channel then [.resourceState] else [] := by
  simp only [prepareStoredChannel] at h
  split at h
  next => cases h
  next =>
    obtain ⟨rfl, rfl⟩ := Prod.mk.inj (Except.ok.inj h)
    exact ⟨rfl, rfl⟩

theorem prepareChannelForSave_stored {table : ChannelTable} {channel channel' row : RFChannel}
    {context : ChannelSaveContext} (hrow : table.find channel.pk = some row)
    (h : prepareChannelForSave table false channel = .ok (channel', context)) :
    channel' = channel.prepared row ∧
      context.updateFields = if disables row channel then [.resourceState] else [] := by
  simp only [prepareChannelForSave, hrow, Bool.false_eq_true, if_false, bind_eq_ok] at h
  obtain ⟨⟨prepared, context'⟩, hprepared, -, -, hok⟩ := h
  obtain ⟨rfl, rfl⟩ := Prod.mk.inj (Except.ok.inj hok)
  exact prepareStoredChannel_eq_ok hprepared

/-- The two statements of a save write one row. -/
theorem persistDerivedChannelFields_updateRow {table : ChannelTable} {channel row : RFChannel}
    (hrow : table.find channel.pk = some row) (context : ChannelSaveContext)
    (hcontext : context.updateFields = if disables row channel then [.resourceState] else [])
    (updateFields : Option (List ChannelColumn)) :
    let written := (channel.prepared row).writeTo (updateFields.getD ChannelColumn.all) row
    persistDerivedChannelFields (table.updateRow written) (channel.prepared row) context updateFields =
      table.updateRow (channel.savedAt (updateFields.getD ChannelColumn.all) row) := by
  intro written
  have hpk := ChannelTable.find_pk hrow
  have hfind : (table.updateRow written).find (channel.prepared row).pk = some written := by
    rw [RFChannel.prepared_pk, ← hpk]
    have hold : table.find written.pk = some row := by
      rw [RFChannel.writeTo_pk, hpk]
      exact hrow
    exact ChannelTable.find_updateRow hold
  rw [persistDerivedChannelFields.eq_def, RFChannel.savedAt, hcontext]
  cases hdisables : disables row channel with
  | false => cases updateFields <;> rfl
  | true =>
      simp only [if_true]
      cases updateFields with
      | none =>
          have hall : ∀ column, column ∈ ChannelColumn.all ++ [.resourceState] ↔
              column ∈ ChannelColumn.all := by
            intro column
            cases column <;> decide
          rw [Option.getD_none, RFChannel.writeTo_congr hall]
          rfl
      | some fields =>
          by_cases hmem : ChannelColumn.resourceState ∈ fields
          · have hnamed : ∀ column, column ∈ fields ++ [.resourceState] ↔ column ∈ fields := by
              intro column
              rw [List.mem_append, List.mem_singleton]
              exact ⟨fun h => h.elim id (fun h => h ▸ hmem), .inl⟩
            rw [Option.getD_some, RFChannel.writeTo_congr hnamed]
            simp [hmem, written]
          · simp only [hmem, not_false_eq_true, decide_true, List.filter_cons_of_pos, List.filter_nil,
              hfind]
            rw [ChannelTable.updateRow_updateRow _ (by rfl), RFChannel.writeTo_resourceState]

/-- A save stores one row, or nothing when no column is named. -/
theorem saveChannel_eq_ok {table table' : ChannelTable} {channel : RFChannel}
    {updateFields : Option (List ChannelColumn)}
    (h : saveChannel table channel updateFields = .ok table') :
    (updateFields = some [] ∧ table' = table) ∨ ∃ row, table.find channel.pk = some row ∧
      table' = table.updateRow (channel.savedAt (updateFields.getD ChannelColumn.all) row) := by
  rw [saveChannel] at h
  split at h
  next hempty => exact .inl ⟨hempty, (Except.ok.inj h).symm⟩
  next =>
    obtain ⟨⟨prepared, context⟩, hprepare, h⟩ := bind_eq_ok.mp h
    cases hrow : table.find channel.pk with
    | none => simp [prepareChannelForSave, hrow, bind_eq_ok] at hprepare
    | some row =>
        obtain ⟨rfl, hcontext⟩ := prepareChannelForSave_stored hrow hprepare
        simp only [RFChannel.prepared_pk, hrow] at h
        split at h
        next => cases h
        next =>
          refine .inr ⟨row, rfl, (Except.ok.inj h).symm.trans ?_⟩
          exact persistDerivedChannelFields_updateRow hrow context hcontext updateFields

theorem createChannel_eq_ok {table table' : ChannelTable} {channel : RFChannel}
    (h : createChannel table channel = .ok table') :
    table' = table.insertRow { channel with pk := table.nextPk } := by
  obtain ⟨⟨channel', context⟩, hprepare, h⟩ := bind_eq_ok.mp h
  simp only [prepareChannelForSave, if_true, bind_eq_ok] at hprepare
  obtain ⟨⟨prepared, context'⟩, hprepared, -, -, hok⟩ := hprepare
  obtain ⟨rfl, -⟩ := Prod.mk.inj (Except.ok.inj hok)
  obtain ⟨rfl, -⟩ := Prod.mk.inj (Except.ok.inj hprepared)
  simp only at h
  split at h
  next => cases h
  next => exact (Except.ok.inj h).symm

/-! ### Channels out of use -/

/-- A channel that is not enabled is disabled. -/
def RFChannel.DisabledWhenOff (row : RFChannel) : Prop :=
  row.enabled = false → row.resourceState = "disabled"

/-- Every stored channel that is not enabled is disabled. -/
def ChannelTable.DisabledWhenOff (table : ChannelTable) : Prop :=
  ∀ row ∈ table.rows, row.DisabledWhenOff

/-- A save of a channel that is stored as not enabled, does not enable it, and names a resource
state other than disabled. -/
def RFChannel.Revives (fields : List ChannelColumn) (channel row : RFChannel) : Prop :=
  row.enabled = false ∧ (.enabled ∈ fields → channel.enabled = false) ∧
    .resourceState ∈ fields ∧ channel.resourceState ≠ "disabled"

/-- The write creates a channel that is neither enabled nor disabled, or revives one. -/
def ChannelWrite.LeavesOffUndisabled (table : ChannelTable) : ChannelWrite → Prop
  | .create channel => ¬channel.DisabledWhenOff
  | .save channel updateFields => ∃ row, table.find channel.pk = some row ∧
      channel.Revives (updateFields.getD ChannelColumn.all) row

/-- The write passes the hook and the constraints. -/
def ChannelWrite.Accepted (table : ChannelTable) (write : ChannelWrite) : Prop :=
  ∃ table', write.perform table = .ok table'

theorem savedAt_disabledWhenOff {fields : List ChannelColumn} {channel row : RFChannel}
    (hrow : row.DisabledWhenOff) :
    (channel.savedAt fields row).DisabledWhenOff ↔ ¬channel.Revives fields row := by
  cases hold : row.enabled with
  | true =>
      have hnot : ¬channel.Revives fields row := fun h => by simp [h.1] at hold
      refine iff_of_true ?_ hnot
      cases hnew : channel.enabled with
      | true => simp [RFChannel.DisabledWhenOff, RFChannel.savedAt, RFChannel.prepared, disables,
          RFChannel.writeTo, hold, hnew]
      | false => simp [RFChannel.DisabledWhenOff, RFChannel.savedAt, RFChannel.prepared, disables,
          RFChannel.writeTo, hold, hnew]
  | false =>
      have hstate := hrow hold
      by_cases henabled : ChannelColumn.enabled ∈ fields <;>
        by_cases hmem : ChannelColumn.resourceState ∈ fields <;>
        simp [RFChannel.DisabledWhenOff, RFChannel.savedAt, RFChannel.prepared, disables,
          RFChannel.writeTo, RFChannel.Revives, hold, henabled, hmem, hstate]

theorem updateRow_disabledWhenOff {table : ChannelTable} (h : table.DisabledWhenOff) {pk : Nat}
    {row new : RFChannel} (hrow : table.find pk = some row) (hpk : new.pk = row.pk) :
    (table.updateRow new).DisabledWhenOff ↔ new.DisabledWhenOff := by
  constructor
  · exact fun hnew => hnew new (mem_replaceRow_self RFChannel.pk (ChannelTable.find_mem hrow) hpk.symm)
  · intro hnew other hother
    rcases (mem_replaceRow RFChannel.pk).mp hother with ⟨rfl, -⟩ | ⟨hold, -⟩
    · exact hnew
    · exact h other hold

/-- **One write keeps every channel that is off disabled unless it is accepted and leaves one
undisabled.** -/
theorem step_disabledWhenOff {table : ChannelTable} (h : table.DisabledWhenOff) (write : ChannelWrite) :
    (write.step table).DisabledWhenOff ↔
      (write.Accepted table → ¬write.LeavesOffUndisabled table) := by
  rw [ChannelWrite.step]
  cases hperform : write.perform table with
  | error e =>
      refine iff_of_true h ?_
      rintro ⟨table', hok⟩
      rw [hperform] at hok
      cases hok
  | ok table' =>
      have haccepted : write.Accepted table := ⟨table', hperform⟩
      simp only [haccepted, true_imp_iff]
      cases write with
      | create channel =>
          obtain rfl := createChannel_eq_ok hperform
          simp only [ChannelWrite.LeavesOffUndisabled, not_not, ChannelTable.DisabledWhenOff,
            ChannelTable.insertRow_rows, List.mem_append, List.mem_singleton]
          constructor
          · intro hall
            exact hall { channel with pk := table.nextPk } (.inr rfl)
          · rintro hnew row (hold | rfl)
            · exact h row hold
            · exact hnew
      | save channel updateFields =>
          rcases saveChannel_eq_ok hperform with ⟨rfl, rfl⟩ | ⟨row, hrow, rfl⟩
          · refine iff_of_true h ?_
            rintro ⟨row, -, hrevives⟩
            exact absurd hrevives.2.2.1 (List.not_mem_nil)
          · rw [updateRow_disabledWhenOff h hrow (RFChannel.savedAt_pk _ _ _),
              savedAt_disabledWhenOff (h row (ChannelTable.find_mem hrow))]
            refine not_congr ⟨fun hrevives => ⟨row, hrow, hrevives⟩, ?_⟩
            rintro ⟨other, hother, hrevives⟩
            rw [hrow, Option.some.injEq] at hother
            exact hother ▸ hrevives

/-- **Over every sequence of creates and saves, the channels that are off stay disabled exactly when no
accepted write creates a channel off and undisabled or revives one that stays off.** -/
theorem channels_off_disabled_iff {start : ChannelTable} (hstart : start.DisabledWhenOff)
    (writes : List ChannelWrite) :
    (∀ seen rest, writes = seen ++ rest → (channelRun start seen).DisabledWhenOff) ↔
      ∀ seen write rest, writes = seen ++ write :: rest → write.Accepted (channelRun start seen) →
        ¬write.LeavesOffUndisabled (channelRun start seen) := by
  have hstep : ∀ table write, table.DisabledWhenOff → ((ChannelWrite.step table write).DisabledWhenOff ↔
      (write.Accepted table → ¬write.LeavesOffUndisabled table)) := fun _ write h =>
    step_disabledWhenOff h write
  exact foldl_always_iff hstep hstart

def quadReceiver : ChannelChassis where
  pk := 1
  model := "ULXD4Q"
  maxChannels := 4
  wmasCapable := false

/-- A channel that is created out of use. -/
def spareChannel : RFChannel := { RFChannel.unsaved quadReceiver 3 with enabled := false }

/-- A channel in use is taken out of use. -/
theorem channels_off_disabled_iff_retiredChannel :
    (channelRun { rows := [{ RFChannel.unsaved quadReceiver 1 with pk := 1 }], nextPk := 2 }
      [.save { RFChannel.unsaved quadReceiver 1 with pk := 1, enabled := false }
        none]).DisabledWhenOff := by
  refine (channels_off_disabled_iff ?_ _).mpr ?_ _ [] (List.append_nil _).symm
  · intro row hrow hoff
    rw [List.mem_singleton] at hrow
    subst hrow
    cases hoff
  · intro seen write rest hsplit
    obtain ⟨rfl, rfl, rfl⟩ := split_singleton hsplit
    rintro - ⟨row, hrow, hoff, -⟩
    obtain rfl : row = { RFChannel.unsaved quadReceiver 1 with pk := 1 } := by
      simpa [channelRun, ChannelTable.find, eq_comm, RFChannel.unsaved] using hrow
    cases hoff

/-- A channel that is created out of use is stored as free. -/
theorem spareChannel_stays_free :
    channelRun ChannelTable.empty [.create spareChannel] =
        { rows := [{ spareChannel with pk := 1 }], nextPk := 2 } ∧
      ¬(channelRun ChannelTable.empty [.create spareChannel]).DisabledWhenOff := by
  have hrun : channelRun ChannelTable.empty [.create spareChannel] =
      { rows := [{ spareChannel with pk := 1 }], nextPk := 2 } := by decide +kernel
  refine ⟨hrun, fun h => ?_⟩
  rw [hrun] at h
  exact absurd (h _ (List.mem_singleton.mpr rfl) rfl) (by decide)

end Micboard
