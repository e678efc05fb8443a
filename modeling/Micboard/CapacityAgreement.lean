import Micboard.ChassisCapacity

/-! What the capacity of a chassis says after its saves. A partial save stores the named columns
only, while the channels are provisioned for the capacity of the instance; and the number of a
channel is checked against the stored capacity, or not at all, while the channels are deleted by the
capacity of the model. -/

namespace Micboard

open Library

@[simp] theorem specCapacity_specCapacity (manufacturer : Manufacturer) (model : String)
    (stated : Nat) :
    specCapacity manufacturer model (specCapacity manufacturer model stated) =
      specCapacity manufacturer model stated := by
  rw [specCapacity, specCapacity]
  cases (DeviceSpecService.getSpecs manufacturer model).map DeviceSpec.maxChannels <;> rfl

/-- A save of a new or of a stored chassis. -/
inductive DeviceSave where
  | create (device : EquippedChassis)
  | save (device : EquippedChassis) (updateFields : Option (List EquippedColumn))

namespace DeviceSave

def perform (now : Time) (site : EquippedInventory) : DeviceSave → Except SaveError SavedDevice
  | create device => createDevice now site device
  | save device updateFields => saveDevice now site device updateFields

/-- The key of the row that is saved. -/
def key (site : EquippedInventory) : DeviceSave → Nat
  | create _ => site.db.nextPk
  | save device _ => device.chassis.pk

end DeviceSave

/-- The stored capacity is the one for which channels were provisioned, and the one that the
registry gives the stored model, if it knows it. -/
def CapacityCoherent (outcome : SavedDevice) (pk : Nat) : Prop :=
  (∀ provisioned, outcome.provisioned = some provisioned →
      (outcome.site.capabilities pk).maxChannels = provisioned) ∧
    ∀ row, outcome.site.db.find pk = some row →
      specCapacity row.manufacturer row.model (outcome.site.capabilities pk).maxChannels =
        (outcome.site.capabilities pk).maxChannels

/-- The condition for a save of a stored chassis. One without columns stores nothing. Any other one
has to name the capacity, or find it stored, and has to store a manufacturer and a model to which
the registry gives no other one. -/
def SavesCapacity (site : EquippedInventory) (device : EquippedChassis)
    (updateFields : Option (List EquippedColumn)) (row : Chassis) : Prop :=
  if updateFields = some [] then
    specCapacity row.manufacturer row.model (site.capabilities row.pk).maxChannels =
      (site.capabilities row.pk).maxChannels
  else
    let fields := updateFields.getD EquippedColumn.all
    let written := device.chassis.writeTo (baseColumns fields) row
    (.maxChannels ∈ fields ∨ (site.capabilities row.pk).maxChannels = device.derivedCapacity) ∧
      specCapacity written.manufacturer written.model device.derivedCapacity = device.derivedCapacity

/-- The condition for a save; one of a new chassis stores every column. -/
def DeviceSave.KeepsCapacity (site : EquippedInventory) : DeviceSave → Prop
  | .create _ => True
  | .save device updateFields =>
    ∀ row, site.db.find device.chassis.pk = some row → SavesCapacity site device updateFields row

theorem capacityCoherent_created {site : EquippedInventory} {device : EquippedChassis}
    {outcome : SavedDevice}
    (h : DeviceCreated site device outcome) : CapacityCoherent outcome site.db.nextPk := by
  obtain ⟨row, hfind, hmanufacturer, hmodel⟩ := h.stored
  rw [CapacityCoherent, h.capacity, h.provisioned]
  refine ⟨fun _ => Option.some.inj, fun row' hfind' => ?_⟩
  obtain rfl := Option.some.inj (hfind.symm.trans hfind')
  rw [hmanufacturer, hmodel, EquippedChassis.derivedCapacity, specCapacity_specCapacity]

theorem capacityCoherent_saved {site : EquippedInventory} {device : EquippedChassis}
    {outcome : SavedDevice}
    {fields : List EquippedColumn} {row : Chassis} (h : DeviceSaved site device fields row outcome) :
    CapacityCoherent outcome row.pk ↔
      (.maxChannels ∈ fields ∨ (site.capabilities row.pk).maxChannels = device.derivedCapacity) ∧
        specCapacity (device.chassis.writeTo (baseColumns fields) row).manufacturer
          (device.chassis.writeTo (baseColumns fields) row).model device.derivedCapacity =
            device.derivedCapacity := by
  obtain ⟨row', hfind, hmanufacturer, hmodel⟩ := h.stored
  have hcapacity : (∀ provisioned, outcome.provisioned = some provisioned →
      (outcome.site.capabilities row.pk).maxChannels = provisioned) ↔
        .maxChannels ∈ fields ∨ (site.capabilities row.pk).maxChannels = device.derivedCapacity := by
    rw [h.provisioned, h.capacity]
    by_cases hmem : EquippedColumn.maxChannels ∈ fields
    · simp [hmem]
    · simp [hmem]
  have hsame :
      (.maxChannels ∈ fields ∨ (site.capabilities row.pk).maxChannels = device.derivedCapacity) →
      (outcome.site.capabilities row.pk).maxChannels = device.derivedCapacity := by
    rw [h.capacity]
    rintro (hmem | heq)
    · rw [if_pos hmem]
    · rw [heq, ite_self]
  rw [CapacityCoherent, hcapacity, ← hmanufacturer, ← hmodel]
  refine and_congr_right fun hstored => ?_
  rw [hsame hstored, hfind]
  simp

/-- **A save leaves the capacity coherent** exactly under its condition. -/
theorem capacity_coherent_iff {now : Time} {site : EquippedInventory} (hdb : site.db.Consistent)
    {save : DeviceSave} {outcome : SavedDevice} (h : save.perform now site = .ok outcome) :
    CapacityCoherent outcome (save.key site) ↔ save.KeepsCapacity site := by
  cases save with
  | create device => exact iff_of_true (capacityCoherent_created (createDevice_eq_ok hdb h)) trivial
  | save device updateFields =>
      by_cases hfields : updateFields = some []
      · rw [DeviceSave.perform, saveDevice, if_pos hfields] at h
        obtain rfl := Except.ok.inj h
        rw [CapacityCoherent, DeviceSave.KeepsCapacity]
        refine ⟨fun hcoherent row hrow => ?_, fun hkept => ⟨fun _ hnone => ?_, fun row hrow => ?_⟩⟩
        · rw [SavesCapacity, if_pos hfields, Inventory.find_pk hrow]
          exact hcoherent.2 row hrow
        · cases hnone
        · have hrow' := hkept row hrow
          rwa [SavesCapacity, if_pos hfields, Inventory.find_pk hrow] at hrow'
      · obtain ⟨row, hrow, hsaved⟩ := saveDevice_eq_ok hfields h
        have hpk := Inventory.find_pk hrow
        rw [DeviceSave.key, ← hpk, capacityCoherent_saved hsaved, DeviceSave.KeepsCapacity, hrow]
        simp only [Option.some.injEq, forall_eq', SavesCapacity, if_neg hfields]

/-- A stored receiver with two channels. -/
def ad4dRow : Chassis :=
  { Chassis.unsaved { pk := 1, code := "shure", isActive := true } with
    pk := 1, apiDeviceId := "A1", ip := "10.0.0.5", model := "AD4D", role := "receiver" }

def ad4dSite : EquippedInventory where
  db := { chassis := [ad4dRow], chargers := [], nextPk := 2 }
  capabilities := fun _ => { Capabilities.default with maxChannels := 2 }
  channels := ChannelTable.empty

/-- An instance of the receiver, which turns out to be one with four channels. -/
def ad4qDevice : EquippedChassis where
  chassis := { ad4dRow with model := "AD4Q" }
  capabilities := { Capabilities.default with maxChannels := 2 }

theorem model_saved_without_capacity :
    ∃ outcome, (DeviceSave.save ad4qDevice (some [.base .model])).perform 0 ad4dSite = .ok outcome ∧
      ¬CapacityCoherent outcome 1 := by
  obtain ⟨outcome, hok⟩ : ∃ outcome, saveDevice 0 ad4dSite ad4qDevice
      (some [.base .model]) = .ok outcome :=
    exists_eq_ok (by decide +kernel)
  refine ⟨outcome, hok, fun h => ?_⟩
  obtain ⟨row, hrow, hsaved⟩ := saveDevice_eq_ok (by decide) hok
  have hpk : row.pk = 1 := Inventory.find_pk hrow
  rw [← hpk, capacityCoherent_saved hsaved] at h
  rcases h.1 with hmem | hcapacity
  · exact absurd hmem (by decide)
  · have hderived : (2 : Nat) = ad4qDevice.derivedCapacity := hcapacity
    exact absurd hderived (by decide +kernel)

theorem ad4dSite_consistent : ad4dSite.db.Consistent where
  pk_unique := List.nodup_singleton _
  pk_lt := by
    intro chassis hchassis
    obtain rfl := List.mem_singleton.mp hchassis
    decide
  ip_stored := by
    intro chassis hchassis
    obtain rfl := List.mem_singleton.mp hchassis
    decide +kernel
  ip_unique := List.nodup_singleton _
  api_unique := List.nodup_singleton _

theorem capacity_coherent_iff_named : ∃ outcome,
    (DeviceSave.save ad4qDevice (some [.base .model, .maxChannels])).perform 0 ad4dSite = .ok outcome ∧
      CapacityCoherent outcome 1 := by
  obtain ⟨outcome, hok⟩ : ∃ outcome,
      (DeviceSave.save ad4qDevice (some [.base .model, .maxChannels])).perform 0
        ad4dSite = .ok outcome :=
    exists_eq_ok (by decide +kernel)
  refine ⟨outcome, hok, (capacity_coherent_iff ad4dSite_consistent hok).mpr fun row hrow => ?_⟩
  obtain rfl : ad4dRow = row := Option.some.inj hrow
  rw [SavesCapacity, if_neg (by decide)]
  exact ⟨.inl (by decide), by decide +kernel⟩

/-- A channel of the stored chassis with this number passes the hook. -/
def AcceptsNumber (site : EquippedInventory) (pk : Nat) (number : Int) : Prop :=
  ∃ adding channel result, channel.chassis = site.channelChassis pk ∧ channel.channelNumber = number ∧
    prepareChannelForSave site.channels adding channel = .ok result

theorem checkChannelNumber_eq_ok {channel : RFChannel} :
    checkChannelNumber channel = .ok () ↔ 1 ≤ channel.channelNumber ∧
      (channel.chassis.wmasCapable = true ∨ channel.channelNumber ≤ channel.chassis.maxChannels) := by
  rw [checkChannelNumber]
  cases hwmas : channel.chassis.wmasCapable with
  | true =>
      by_cases hsmall : channel.channelNumber < 1
      · simp only [Bool.not_true, Bool.false_eq_true, false_and, if_false, hsmall,
          if_true, reduceCtorEq,
          true_or, and_true, false_iff]
        omega
      · simp only [Bool.not_true, Bool.false_eq_true, false_and, if_false, hsmall, true_or,
          and_true, true_iff]
        omega
  | false =>
      by_cases hlarge : (channel.chassis.maxChannels : Int) < channel.channelNumber
      · simp only [Bool.not_false, true_and, hlarge, if_true, reduceCtorEq, Bool.false_eq_true,
          false_or, false_iff]
        omega
      · by_cases hsmall : channel.channelNumber < 1
        · simp only [Bool.not_false, true_and, hlarge, if_false, hsmall, if_true, reduceCtorEq,
            Bool.false_eq_true, false_or, false_iff]
          omega
        · simp only [Bool.not_false, true_and, hlarge, if_false, hsmall, Bool.false_eq_true,
            false_or, true_iff]
          omega

/-- A channel that passes the hook passes its check of the number. -/
theorem checkChannelNumber_of_prepare {table : ChannelTable} {adding : Bool} {channel : RFChannel}
    {result : RFChannel × ChannelSaveContext}
    (h : prepareChannelForSave table adding channel = .ok result) :
    checkChannelNumber channel = .ok () := by
  cases adding with
  | true =>
      simp only [prepareChannelForSave, if_true, bind_eq_ok] at h
      obtain ⟨⟨prepared, context⟩, hprepared, _, hcheck, -⟩ := h
      obtain ⟨rfl, -⟩ := Prod.mk.inj (Except.ok.inj hprepared)
      exact hcheck
  | false =>
      cases hrow : table.find channel.pk with
      | none => simp [prepareChannelForSave, hrow, bind_eq_ok] at h
      | some previous =>
          simp only [prepareChannelForSave, Bool.false_eq_true, if_false, hrow, bind_eq_ok] at h
          obtain ⟨⟨prepared, context⟩, hprepared, _, hcheck, -⟩ := h
          rw [(prepareStoredChannel_eq_ok hprepared).1, RFChannel.prepared] at hcheck
          split at hcheck
          next => exact hcheck
          next => exact hcheck

/-- **The numbers that are accepted**: all positive ones with WMAS, else those up to the stored
capacity. -/
theorem acceptsNumber_iff {site : EquippedInventory} {pk : Nat} {number : Int} :
    AcceptsNumber site pk number ↔ 1 ≤ number ∧
      ((site.capabilities pk).wmasCapable = true ∨ number ≤ (site.capabilities pk).maxChannels) := by
  constructor
  · rintro ⟨adding, channel, result, hchassis, rfl, h⟩
    have hnumber := checkChannelNumber_eq_ok.mp (checkChannelNumber_of_prepare h)
    rw [hchassis] at hnumber
    exact hnumber
  · intro h
    let channel := RFChannel.unsaved (site.channelChassis pk) number
    have hcheck : checkChannelNumber channel = .ok () := checkChannelNumber_eq_ok.mpr h
    refine ⟨true, channel, (channel, {}), rfl, rfl, ?_⟩
    rw [prepareChannelForSave]
    simp [hcheck, bind, Except.bind]

/-! ### Later saves -/

structure LaterSave where
  now : Time
  device : EquippedChassis
  updateFields : Option (List EquippedColumn)

/-- The tables after a save: one that fails is rolled back. -/
def LaterSave.step (site : EquippedInventory) (save : LaterSave) : EquippedInventory :=
  match saveDevice save.now site save.device save.updateFields with
  | .ok outcome => outcome.site
  | .error _ => site

structure Capabilities.Same (capabilities row : Capabilities) : Prop where
  maxChannels : capabilities.maxChannels = row.maxChannels
  danteCapable : capabilities.danteCapable = row.danteCapable
  wmasCapable : capabilities.wmasCapable = row.wmasCapable
  protocolFamily : capabilities.protocolFamily = row.protocolFamily
  licensedResourceCount : capabilities.licensedResourceCount = row.licensedResourceCount

/-- The save leaves the model of the chassis and its capabilities unchanged. -/
def LaterSave.KeepsModel (site : EquippedInventory) (save : LaterSave) : Prop :=
  ∀ row, site.db.find save.device.chassis.pk = some row →
    save.device.chassis.manufacturer = row.manufacturer ∧ save.device.chassis.model = row.model ∧
      save.device.capabilities.Same (site.capabilities row.pk)

/-- No channel of the chassis with a number that is accepted is deleted by later saves, as long as
those of the chassis leave its model and its capabilities unchanged. -/
def ChannelsSurvive (site : EquippedInventory) (pk : Nat) : Prop :=
  ∀ number, AcceptsNumber site pk number → ∀ saves : List LaterSave,
    (∀ seen save rest, saves = seen ++ save :: rest → save.device.chassis.pk = pk →
      save.KeepsModel (seen.foldl LaterSave.step site)) →
    ∀ channel ∈ site.channels.rows, channel.chassis.pk = pk → channel.channelNumber = number →
      channel ∈ (saves.foldl LaterSave.step site).channels.rows

/-- The numbers that are accepted are those that are provisioned for the stored chassis. -/
def CapacityAgrees (site : EquippedInventory) (row : Chassis) : Prop :=
  ∀ number, AcceptsNumber site row.pk number ↔ 1 ≤ number ∧
    number ≤ specCapacity row.manufacturer row.model (site.capabilities row.pk).maxChannels

/-- The stored capacity binds the channels and is the one that the registry gives the model, if it
knows it. -/
def BindingCapacity (site : EquippedInventory) (row : Chassis) : Prop :=
  (site.capabilities row.pk).wmasCapable = false ∧
    specCapacity row.manufacturer row.model (site.capabilities row.pk).maxChannels =
      (site.capabilities row.pk).maxChannels

theorem capacityAgrees_iff {site : EquippedInventory} {row : Chassis} :
    CapacityAgrees site row ↔ BindingCapacity site row := by
  simp only [CapacityAgrees, acceptsNumber_iff, BindingCapacity]
  generalize (site.capabilities row.pk).maxChannels = stored
  generalize specCapacity row.manufacturer row.model stored = derived
  cases hwmas : (site.capabilities row.pk).wmasCapable with
  | true =>
      simp only [true_or, and_true, Bool.true_eq_false, false_and, iff_false, not_forall]
      exact ⟨derived + 1, by omega⟩
  | false =>
      simp only [Bool.false_eq_true, false_or, true_and]
      constructor
      · intro h
        have hstored := h stored
        have hderived := h derived
        omega
      · rintro rfl number
        rfl

/-- A save of another chassis, or one that leaves the model and the capabilities unchanged, keeps
the capacity of a chassis and its channel. -/
structure HoldsChannel (pk : Nat) (manufacturer : Manufacturer) (model : String) (capacity : Nat)
    (channel : RFChannel) (site : EquippedInventory) : Prop where
  row : ∃ row, site.db.find pk = some row ∧ row.manufacturer = manufacturer ∧ row.model = model
  capacity : (site.capabilities pk).maxChannels = capacity
  channel : channel ∈ site.channels.rows

theorem LaterSave.step_holdsChannel {pk : Nat} {manufacturer : Manufacturer} {model : String}
    {capacity : Nat}
    {channel : RFChannel} (hspec : specCapacity manufacturer model capacity = capacity)
    (hpk : channel.chassis.pk = pk)
    (hnumber : 1 ≤ channel.channelNumber ∧ channel.channelNumber ≤ capacity)
    {site : EquippedInventory} {save : LaterSave}
    (h : HoldsChannel pk manufacturer model capacity channel site)
    (hkeeps : save.device.chassis.pk = pk → save.KeepsModel site) :
    HoldsChannel pk manufacturer model capacity channel (save.step site) := by
  rw [LaterSave.step]
  split
  next outcome hok =>
    by_cases hfields : save.updateFields = some []
    · rw [saveDevice, if_pos hfields] at hok
      obtain rfl := Except.ok.inj hok
      exact h
    obtain ⟨row, hrow, hsaved⟩ := saveDevice_eq_ok hfields hok
    have hrowPk := Inventory.find_pk hrow
    obtain ⟨device', site', hdevice', hexpected, hchannels, hsite⟩ := hsaved.channels
    by_cases hsame : save.device.chassis.pk = pk
    · obtain ⟨hmanufacturer, hmodel, hcapabilities⟩ := hkeeps hsame row hrow
      obtain ⟨row', hfind', hmanufacturer', hmodel'⟩ := h.row
      obtain rfl : row = row' := by
        rw [hsame] at hrow
        exact Option.some.inj (hrow.symm.trans hfind')
      obtain ⟨written, hwritten, hwrittenManufacturer, hwrittenModel⟩ := hsaved.stored
      have hrowKey : row.pk = pk := hrowPk.trans hsame
      have hderived : save.device.derivedCapacity = capacity := by
        rw [EquippedChassis.derivedCapacity, hmanufacturer, hmodel, hcapabilities.maxChannels, hrowKey,
          h.capacity, hmanufacturer', hmodel', hspec]
      refine ⟨⟨written, hrowKey ▸ hwritten, ?_, ?_⟩, ?_, ?_⟩
      · rw [hwrittenManufacturer, writeTo_manufacturer, hmanufacturer, ite_self, hmanufacturer']
      · rw [hwrittenModel, Chassis.writeTo, hmodel, ite_self, hmodel']
      · rw [← hrowKey, hsaved.capacity, hderived, hrowKey, h.capacity, ite_self]
      · rw [hsite]
        apply HardwareSyncService.mem_ensureChannelCount
        · rw [hchannels]
          exact h.channel
        · rw [hexpected, hderived]
          exact fun _ => hnumber
    · have hne : pk ≠ row.pk := fun heq => hsame (hrowPk.symm.trans heq.symm)
      obtain ⟨hfind, hcapabilities⟩ := hsaved.others pk hne
      refine ⟨hfind ▸ h.row, hcapabilities ▸ h.capacity, ?_⟩
      rw [hsite]
      apply HardwareSyncService.mem_ensureChannelCount
      · rw [hchannels]
        exact h.channel
      · intro hother
        exact absurd (hpk.symm.trans (hother.trans hdevice')) hne
  next => exact h

theorem channelsSurvive_of_binding {site : EquippedInventory} {pk : Nat} {row : Chassis}
    (hrow : site.db.find pk = some row) (h : BindingCapacity site row) : ChannelsSurvive site pk := by
  intro number haccepted saves hkeeps channel hchannel hpk hnumber
  obtain ⟨hwmas, hspec⟩ := h
  rw [Inventory.find_pk hrow] at hwmas hspec
  rw [acceptsNumber_iff, hwmas] at haccepted
  have hwithin : 1 ≤ channel.channelNumber ∧
      channel.channelNumber ≤ (site.capabilities pk).maxChannels := by
    rw [hnumber]
    exact ⟨haccepted.1, haccepted.2.resolve_left Bool.false_ne_true⟩
  have hstart : HoldsChannel pk row.manufacturer row.model
      (site.capabilities pk).maxChannels channel site :=
    ⟨⟨row, hrow, rfl, rfl⟩, rfl, hchannel⟩
  exact (foldl_always
    (fun _ _ hgood hallowed => LaterSave.step_holdsChannel hspec hpk hwithin hgood hallowed)
    hstart hkeeps saves [] (List.append_nil _).symm).channel

/-- **The capacity for the check and the capacity for the provisioning of channels** agree, and no
accepted channel is deleted, exactly where the stored capacity binds the channels and is that of the
model. -/
theorem channel_capacity_iff {site : EquippedInventory} {pk : Nat} {row : Chassis}
    (hrow : site.db.find pk = some row) :
    ChannelsSurvive site pk ∧ CapacityAgrees site row ↔ BindingCapacity site row := by
  rw [capacityAgrees_iff]
  exact ⟨And.right, fun h => ⟨channelsSurvive_of_binding hrow h, h⟩⟩

theorem channel_capacity_iff_ad4d : ChannelsSurvive ad4dSite 1 ∧ CapacityAgrees ad4dSite ad4dRow :=
  (channel_capacity_iff (show ad4dSite.db.find 1 = some ad4dRow from rfl)).mpr ⟨rfl, by decide +kernel⟩

/-- A stored WMAS transceiver with two channels. -/
def sekRow : Chassis :=
  { Chassis.unsaved { pk := 1, code := "sennheiser", isActive := true } with
    pk := 1, apiDeviceId := "S1", ip := "10.0.0.6", model := "Spectera SEK", role := "transceiver" }

def sekCapabilities : Capabilities :=
  { Capabilities.default with maxChannels := 2, wmasCapable := true, protocolFamily := "wmas" }

def thirdChannel : RFChannel :=
  { RFChannel.unsaved { pk := 1, model := "Spectera SEK", maxChannels := 2, wmasCapable := true }
    3 with pk := 1 }

def sekSite : EquippedInventory where
  db := { chassis := [sekRow], chargers := [], nextPk := 2 }
  capabilities := fun _ => sekCapabilities
  channels := { rows := [thirdChannel], nextPk := 2 }

def sekPoll : LaterSave where
  now := 0
  device := { chassis := { sekRow with lastSeen := some 0 }, capabilities := sekCapabilities }
  updateFields := some [.base .lastSeen]

theorem wmas_channel_deleted : ¬(ChannelsSurvive sekSite 1 ∧ CapacityAgrees sekSite sekRow) := by
  rintro ⟨hsurvive, -⟩
  have haccepted : AcceptsNumber sekSite 1 3 := acceptsNumber_iff.mpr ⟨by decide, .inl rfl⟩
  have hkeeps : ∀ seen save rest, [sekPoll] = seen ++ save :: rest → save.device.chassis.pk = 1 →
      save.KeepsModel (seen.foldl LaterSave.step sekSite) := by
    rintro seen save rest hsplit - row hrow
    obtain ⟨rfl, rfl, -⟩ := split_singleton hsplit
    obtain rfl : sekRow = row := Option.some.inj hrow
    exact ⟨rfl, rfl, rfl, rfl, rfl, rfl, rfl⟩
  have hkept := hsurvive 3 haccepted [sekPoll] hkeeps thirdChannel (List.mem_singleton_self _) rfl rfl
  have hdeleted : thirdChannel ∉ (sekPoll.step sekSite).channels.rows := by decide +kernel
  exact hdeleted hkept

end Micboard
