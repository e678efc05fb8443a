import Micboard.BandPlanDetection
import Micboard.ChannelEnablement
import Micboard.ChassisLifecycle

/-! The save of a chassis with its capability columns and its RF channels. The hook before the write
replaces the capacity of the instance by that of its model; the hook after it creates and deletes
channels until they match the instance. A created channel is checked against the chassis as it is
stored, and an error of the second hook is logged and dropped. The direction of the created channels
is not part of the model. -/

namespace Micboard

open Library

/-- The chassis columns that `update_fields` can name; `other` is any that no hook reads. -/
inductive EquippedColumn where
  | base (column : Column)
  | maxChannels | danteCapable | wmasCapable | protocolFamily | licensedResourceCount
  | bandPlanName | bandPlanMinMhz | bandPlanMaxMhz | other
  deriving DecidableEq, Repr

/-- Every column: the `update_fields` of a full save. -/
def EquippedColumn.all : List EquippedColumn :=
  Column.all.map .base ++ [.maxChannels, .danteCapable, .wmasCapable, .protocolFamily,
    .licensedResourceCount, .bandPlanName, .bandPlanMinMhz, .bandPlanMaxMhz, .other]

/-- The columns that the identity, address and lifecycle hooks know. -/
def baseColumns (fields : List EquippedColumn) : List Column :=
  fields.filterMap fun
    | .base column => some column
    | _ => none

/-- The capability columns of an `UPDATE`: the named ones come from the instance. -/
def Capabilities.writeTo (fields : List EquippedColumn)
    (capabilities row : Capabilities) : Capabilities where
  maxChannels := if .maxChannels ∈ fields then capabilities.maxChannels else row.maxChannels
  danteCapable := if .danteCapable ∈ fields then capabilities.danteCapable else row.danteCapable
  wmasCapable := if .wmasCapable ∈ fields then capabilities.wmasCapable else row.wmasCapable
  protocolFamily := if .protocolFamily ∈ fields then capabilities.protocolFamily else row.protocolFamily
  licensedResourceCount :=
    if .licensedResourceCount ∈ fields then capabilities.licensedResourceCount else
      row.licensedResourceCount
  bandPlanName := if .bandPlanName ∈ fields then capabilities.bandPlanName else row.bandPlanName
  bandPlanMinMhz := if .bandPlanMinMhz ∈ fields then capabilities.bandPlanMinMhz else row.bandPlanMinMhz
  bandPlanMaxMhz := if .bandPlanMaxMhz ∈ fields then capabilities.bandPlanMaxMhz else row.bandPlanMaxMhz

/-- The hardware tables with the capability columns of each chassis row, and the channel table. -/
structure EquippedInventory where
  db : Inventory
  capabilities : Nat → Capabilities
  channels : ChannelTable

/-- The stored chassis that a new channel refers to. -/
def EquippedInventory.channelChassis (site : EquippedInventory) (pk : Nat) : ChannelChassis where
  pk
  model := ((site.db.find pk).map Chassis.model).getD ""
  maxChannels := (site.capabilities pk).maxChannels
  wmasCapable := (site.capabilities pk).wmasCapable

/-- Get expected number of channels based on device model. -/
def EquippedChassis.getExpectedChannelCount (device : EquippedChassis) : Nat :=
  device.capabilities.maxChannels

namespace HardwareSyncService

/-- The channel numbers of a chassis. -/
def currentChannels (table : ChannelTable) (pk : Nat) : List Int :=
  ((table.rows.filter fun row => row.chassis.pk = pk).map RFChannel.channelNumber).dedup

/-- Create the channels with these numbers until one is refused. -/
def createChannels (stored : ChannelChassis) : List Nat → ChannelTable →
    ChannelTable × Option ChannelError
  | [], table => (table, none)
  | number :: rest, table =>
    match createChannel table (RFChannel.unsaved stored number) with
    | .ok table => createChannels stored rest table
    | .error e => (table, some e)

def deleteChannels (pk : Nat) (numbers : List Int) (table : ChannelTable) : ChannelTable :=
  { table with rows := table.rows.filter fun row =>
      ¬(row.chassis.pk = pk ∧ row.channelNumber ∈ numbers) }

/-- Ensure RFChannel rows for a chassis match its model capacity: the table, and how many were
created and deleted. -/
def ensureChannelCount (device : EquippedChassis) (stored : ChannelChassis) (table : ChannelTable) :
    ChannelTable × Except ChannelError (Nat × Nat) :=
  let expected := device.getExpectedChannelCount
  let current := currentChannels table device.chassis.pk
  let missing := (List.range' 1 expected).filter fun (number : Nat) => (number : Int) ∉ current
  let extra := current.filter fun (number : Int) => ¬(1 ≤ number ∧ number ≤ expected)
  match createChannels stored missing table with
  | (table, some e) => (table, .error e)
  | (table, none) => (deleteChannels device.chassis.pk extra table, .ok (missing.length, extra.length))

end HardwareSyncService

/-- `_ensure_channel_count`: an error leaves what was done before it. -/
def HardwarePostSaveHooks.ensureChannelCount (device : EquippedChassis) (site : EquippedInventory) :
    EquippedInventory :=
  { site with channels :=
      (HardwareSyncService.ensureChannelCount device
        (site.channelChassis device.chassis.pk) site.channels).1 }

/-- What a save leaves: the tables, the instance, and the capacity for which channels were
provisioned, where the hooks ran. -/
structure SavedDevice where
  site : EquippedInventory
  device : EquippedChassis
  provisioned : Option Nat

/-- The tables after the statements of a save, and then after the hook. -/
def finishDevice (device : EquippedChassis) (db : Inventory) (capabilities : Capabilities)
    (site : EquippedInventory) : SavedDevice where
  site := HardwarePostSaveHooks.ensureChannelCount device {
    db
    capabilities := Function.update site.capabilities device.chassis.pk capabilities
    channels := site.channels }
  device
  provisioned := some device.getExpectedChannelCount

/-- `save()` of a new instance. -/
def createDevice (now : Time) (site : EquippedInventory) (device : EquippedChassis) :
    Except SaveError SavedDevice := do
  HardwareIPOwnershipService.validateForInstance site.db device.chassis
  let (chassis, _) ← prepareChassisForSave now site.db true device.chassis
  let prepared := prepareChassisRegulatoryFields { device with chassis }
  let created := { prepared with chassis := { prepared.chassis with pk := site.db.nextPk } }
  let db ← writeRow site.db Column.all created.chassis created.chassis Inventory.insertRow
  .ok (finishDevice created db created.capabilities site)

/-- `save(update_fields=…)` of an instance of a stored row. -/
def saveDevice (now : Time) (site : EquippedInventory) (device : EquippedChassis)
    (updateFields : Option (List EquippedColumn)) : Except SaveError SavedDevice := do
  if updateFields = some [] then
    .ok { site, device, provisioned := none }
  else
    HardwareIPOwnershipService.validateForInstance site.db device.chassis
    let (chassis, context) ← prepareChassisForSave now site.db false device.chassis
    let prepared := prepareChassisRegulatoryFields { device with chassis }
    let fields := updateFields.getD EquippedColumn.all
    match site.db.find prepared.chassis.pk with
    | none => .error (.chassisDoesNotExist prepared.chassis.pk)
    | some row =>
      let db ← writeRow site.db (baseColumns fields) prepared.chassis row Inventory.updateRow
      .ok (finishDevice prepared
        (persistDerivedFields db prepared.chassis context (updateFields.map baseColumns))
        (prepared.capabilities.writeTo fields (site.capabilities prepared.chassis.pk)) site)

/-- An instance with its role set. -/
def Chassis.withRole (chassis : Chassis) (role : String) : Chassis := { chassis with role }

section Prepared

variable (device : EquippedChassis)

@[simp] theorem fillBandPlan_maxChannels (manufacturerCode model : String)
    (capabilities : Capabilities) :
    (fillBandPlan manufacturerCode model capabilities).maxChannels = capabilities.maxChannels := by
  rw [fillBandPlan]
  split
  next =>
    rw [fillRange]
    split
    next => split <;> rfl
    next => rfl
  next =>
    rw [fillDetectedPlan]
    split
    next => rfl
    next => split <;> rfl

/-- Without a model the registry has nothing to say. -/
theorem specCapacity_of_model_empty (manufacturer : Manufacturer) (stated : Nat) :
    specCapacity manufacturer "" stated = stated := by
  rw [specCapacity, DeviceSpecService.getSpecs, if_pos (.inl rfl)]
  rfl

/-- **The capacity of a prepared instance** is that of its model. -/
@[simp] theorem prepared_maxChannels :
    (prepareChassisRegulatoryFields device).capabilities.maxChannels =
      specCapacity device.chassis.manufacturer device.chassis.model
        device.capabilities.maxChannels := by
  rw [prepareChassisRegulatoryFields]
  split
  next hmodel => rw [hmodel, specCapacity_of_model_empty]
  next => rw [fillBandPlan_maxChannels, applySpecsToChassis_maxChannels]

/-- Of the other columns of the chassis only the role is filled. -/
theorem prepared_chassis : ∃ role, (prepareChassisRegulatoryFields device).chassis =
    device.chassis.withRole role := by
  rw [prepareChassisRegulatoryFields]
  split
  next => exact ⟨device.chassis.role, rfl⟩
  next =>
    simp only [applySpecsToChassis_chassis, fillRole]
    split
    next => exact ⟨_, rfl⟩
    next => exact ⟨device.chassis.role, rfl⟩

end Prepared

/-- The capacity that the hook gives an instance. -/
def EquippedChassis.derivedCapacity (device : EquippedChassis) : Nat :=
  specCapacity device.chassis.manufacturer device.chassis.model device.capabilities.maxChannels

/-- What a save of a stored row leaves of it: the manufacturer and the model that the named columns
give, the capacity of the prepared instance where it is named, and channels for the capacity of the
instance. -/
structure DeviceSaved (site : EquippedInventory) (device : EquippedChassis)
    (fields : List EquippedColumn)
    (row : Chassis) (outcome : SavedDevice) : Prop where
  stored : ∃ row', outcome.site.db.find row.pk = some row' ∧
    row'.manufacturer = (device.chassis.writeTo (baseColumns fields) row).manufacturer ∧
    row'.model = (device.chassis.writeTo (baseColumns fields) row).model
  others : ∀ pk, pk ≠ row.pk → outcome.site.db.find pk = site.db.find pk ∧
    outcome.site.capabilities pk = site.capabilities pk
  capacity : (outcome.site.capabilities row.pk).maxChannels =
    if .maxChannels ∈ fields then device.derivedCapacity else (site.capabilities row.pk).maxChannels
  provisioned : outcome.provisioned = some device.derivedCapacity
  channels : ∃ device' site', device'.chassis.pk = row.pk ∧
    device'.getExpectedChannelCount = device.derivedCapacity ∧ site'.channels = site.channels ∧
    outcome.site = HardwarePostSaveHooks.ensureChannelCount device' site'

@[simp] theorem ensureChannelCount_db (device : EquippedChassis) (site : EquippedInventory) :
    (HardwarePostSaveHooks.ensureChannelCount device site).db = site.db := rfl

@[simp] theorem ensureChannelCount_capabilities (device : EquippedChassis) (site : EquippedInventory) :
    (HardwarePostSaveHooks.ensureChannelCount device site).capabilities = site.capabilities := rfl

section Finished

variable (device : EquippedChassis) (db : Inventory) (capabilities : Capabilities)
  (site : EquippedInventory)

@[simp] theorem finishDevice_db : (finishDevice device db capabilities site).site.db = db := rfl

@[simp] theorem finishDevice_capabilities :
    (finishDevice device db capabilities site).site.capabilities device.chassis.pk = capabilities :=
  Function.update_self _ _ _

theorem finishDevice_capabilities_of_ne {pk : Nat} (h : pk ≠ device.chassis.pk) :
    (finishDevice device db capabilities site).site.capabilities pk = site.capabilities pk :=
  Function.update_of_ne h _ _

theorem finishDevice_channels : ∃ site', site'.channels = site.channels ∧
    (finishDevice device db capabilities site).site =
      HardwarePostSaveHooks.ensureChannelCount device site' :=
  ⟨{ db, capabilities := Function.update site.capabilities device.chassis.pk capabilities,
     channels := site.channels }, rfl, rfl⟩

end Finished

theorem baseColumns_getD (updateFields : Option (List EquippedColumn)) :
    (updateFields.map baseColumns).getD Column.all = baseColumns
    (updateFields.getD EquippedColumn.all) := by
  cases updateFields with
  | none => rfl
  | some fields => rfl

theorem saveDevice_eq_ok {now : Time} {site : EquippedInventory} {device : EquippedChassis}
    {updateFields : Option (List EquippedColumn)} {outcome : SavedDevice}
    (hfields : updateFields ≠ some [])
    (h : saveDevice now site device updateFields = .ok outcome) :
    ∃ row, site.db.find device.chassis.pk = some row ∧
      DeviceSaved site device (updateFields.getD EquippedColumn.all) row outcome := by
  rw [saveDevice, if_neg hfields] at h
  obtain ⟨-, -, h⟩ := bind_eq_ok.mp h
  obtain ⟨⟨_, context⟩, hprepare, h⟩ := bind_eq_ok.mp h
  obtain ⟨⟨saved, oldStatus, derived⟩, hlifecycle, hcontext⟩ := bind_eq_ok.mp hprepare
  obtain ⟨rfl, rfl⟩ := Prod.mk.inj (Except.ok.inj hcontext)
  obtain ⟨row, hfind, -, hstep⟩ := prepareLifecycleFields_eq_ok.mp hlifecycle
  dsimp only at h
  obtain ⟨isOnline, on, off, uptime, hsaved⟩ := hstep.eq_withLifecycle
  obtain ⟨role, hrole⟩ := prepared_chassis { device with chassis := saved }
  have hmax :
      (prepareChassisRegulatoryFields { device with chassis := saved }).getExpectedChannelCount =
      device.derivedCapacity := by
    rw [EquippedChassis.getExpectedChannelCount, prepared_maxChannels, hsaved]
    rfl
  generalize prepareChassisRegulatoryFields { device with chassis := saved } = prepared at h hrole hmax
  have hpk : prepared.chassis.pk = device.chassis.pk := by
    rw [hrole, hsaved]
    rfl
  have hrow : row.pk = device.chassis.pk := Inventory.find_pk hfind
  have hprepared : site.db.find prepared.chassis.pk = some row := by rwa [hpk]
  simp only [hprepared] at h
  obtain ⟨db, hwrite, h⟩ := bind_eq_ok.mp h
  obtain ⟨-, -, rfl⟩ := writeRow_eq_ok.mp hwrite
  have hpersist := persistDerivedFields_updateRow
    { created := false, oldStatus, statusChanged := oldStatus.any (· ≠ saved.status),
      updateFields := derived }
    (updateFields.map baseColumns) hprepared
  rw [baseColumns_getD] at hpersist
  simp only [hpersist, Except.ok.injEq] at h
  subst h
  have hkey : prepared.chassis.pk = row.pk := hpk.trans hrow.symm
  obtain ⟨isOnline', on', off', uptime', hwritten⟩ :=
    hstep.written (baseColumns (updateFields.getD EquippedColumn.all))
  refine ⟨row, hfind, ?_, ?_, ?_, ?_, ?_⟩
  · have hold : site.db.find
        (prepared.chassis.writeTo (baseColumns (updateFields.getD EquippedColumn.all) ++ derived)
        row).pk = some row := by
      rw [writeTo_pk, hrow]
      exact hfind
    refine ⟨_, Inventory.find_updateRow hold, ?_, ?_⟩
    · rw [hrole]
      exact (congrArg Chassis.manufacturer hwritten :)
    · rw [hrole]
      exact (congrArg Chassis.model hwritten :)
  · intro pk hne
    exact ⟨find?_replaceRow_of_ne Chassis.pk hne,
      finishDevice_capabilities_of_ne _ _ _ _ (by rwa [hkey])⟩
  · rw [← hkey, finishDevice_capabilities, Capabilities.writeTo, ← hmax]
    rfl
  · exact congrArg some hmax
  · obtain ⟨site', hchannels, hsite⟩ := finishDevice_channels prepared _ _ site
    exact ⟨prepared, site', hkey, hmax, hchannels, hsite⟩

namespace HardwareSyncService

theorem createChannels_subset {stored : ChannelChassis} (numbers : List Nat) {table : ChannelTable}
    {channel : RFChannel} (h : channel ∈ table.rows) :
    channel ∈ (createChannels stored numbers table).1.rows := by
  induction numbers generalizing table with
  | nil => exact h
  | cons number rest ih =>
      rw [createChannels]
      cases hcreated : createChannel table (RFChannel.unsaved stored number) with
      | error e => exact h
      | ok table' =>
          apply ih
          rw [createChannel_eq_ok hcreated, ChannelTable.insertRow_rows]
          exact List.mem_append_left _ h

/-- **A channel within the capacity stays**, and so does any of another chassis. -/
theorem mem_ensureChannelCount {device : EquippedChassis} {stored : ChannelChassis}
    {table : ChannelTable}
    {channel : RFChannel} (h : channel ∈ table.rows) (hwithin : channel.chassis.pk = device.chassis.pk →
      1 ≤ channel.channelNumber ∧ channel.channelNumber ≤ device.getExpectedChannelCount) :
    channel ∈ (ensureChannelCount device stored table).1.rows := by
  rw [ensureChannelCount]
  have hcreated := @createChannels_subset stored
    ((List.range' 1 device.getExpectedChannelCount).filter fun (number : Nat) =>
      (number : Int) ∉ currentChannels table device.chassis.pk) table channel h
  split
  next heq =>
    rw [heq] at hcreated
    exact hcreated
  next heq =>
    rw [heq] at hcreated
    refine List.mem_filter.mpr ⟨hcreated, ?_⟩
    simp only [decide_eq_true_eq, List.mem_filter, not_and]
    intro hpk _ hextra
    exact hextra (hwithin hpk).1 (hwithin hpk).2

end HardwareSyncService

/-! ### Creating a chassis -/

theorem Inventory.find_insertRow {db : Inventory} (h : db.Consistent) {row : Chassis}
    (hpk : row.pk = db.nextPk) :
    (db.insertRow row).find db.nextPk = some row := by
  have hold : db.chassis.find? (fun chassis => chassis.pk = db.nextPk) = none := by
    rw [List.find?_eq_none]
    intro chassis hchassis
    have hlt := h.pk_lt chassis hchassis
    simpa using Nat.ne_of_lt hlt
  rw [Inventory.find, insertRow_chassis, List.find?_append, hold, Option.none_or]
  simp [hpk]

structure DeviceCreated (site : EquippedInventory) (device : EquippedChassis)
    (outcome : SavedDevice) : Prop where
  stored : ∃ row, outcome.site.db.find site.db.nextPk = some row ∧
    row.manufacturer = device.chassis.manufacturer ∧ row.model = device.chassis.model
  capacity : (outcome.site.capabilities site.db.nextPk).maxChannels = device.derivedCapacity
  provisioned : outcome.provisioned = some device.derivedCapacity

theorem createDevice_eq_ok {now : Time} {site : EquippedInventory} (hdb : site.db.Consistent)
    {device : EquippedChassis} {outcome : SavedDevice}
    (h : createDevice now site device = .ok outcome) :
    DeviceCreated site device outcome := by
  rw [createDevice] at h
  obtain ⟨-, -, h⟩ := bind_eq_ok.mp h
  obtain ⟨⟨started, context⟩, hprepare, h⟩ := bind_eq_ok.mp h
  dsimp only at h
  have hstarted : ∃ isOnline on, started =
      device.chassis.withLifecycle isOnline on device.chassis.lastOfflineAt
        device.chassis.totalUptimeMinutes := by
    simp only [prepareChassisForSave, prepareLifecycleFields, if_true] at hprepare
    split at hprepare
    next => exact ⟨true, some now, (congrArg Prod.fst (Except.ok.inj hprepare)).symm⟩
    next => exact ⟨_, _, (congrArg Prod.fst (Except.ok.inj hprepare)).symm⟩
  obtain ⟨isOnline, on, hstarted⟩ := hstarted
  obtain ⟨role, hrole⟩ := prepared_chassis { device with chassis := started }
  have hmax :
      (prepareChassisRegulatoryFields { device with chassis := started }).getExpectedChannelCount =
      device.derivedCapacity := by
    rw [EquippedChassis.getExpectedChannelCount, prepared_maxChannels, hstarted]
    rfl
  generalize prepareChassisRegulatoryFields
    { device with chassis := started } = prepared at h hrole hmax
  obtain ⟨db, hwrite, h⟩ := bind_eq_ok.mp h
  obtain ⟨-, -, rfl⟩ := writeRow_eq_ok.mp hwrite
  obtain rfl := Except.ok.inj h
  refine ⟨⟨_, Inventory.find_insertRow hdb rfl, ?_, ?_⟩, ?_, congrArg some hmax⟩
  · show prepared.chassis.manufacturer = _
    rw [hrole, hstarted]
    rfl
  · show prepared.chassis.model = _
    rw [hrole, hstarted]
    rfl
  · refine Eq.trans ?_ hmax
    exact congrArg Capabilities.maxChannels (finishDevice_capabilities _ _ _ _)

end Micboard
