import Micboard.SyncAccounting

/-! What a poll reports, broadcasts and records is what it has done. Over whole runs the audit log
accounts for the chassis table. -/

namespace Micboard

open Library

/-- What the columns of the tables guarantee. -/
structure PollState.Valid (state : PollState) : Prop where
  consistent : state.inventory.Consistent
  codes : UniqueOn Manufacturer.code state.manufacturers

/-- A second receiver, as the vendor lists it. -/
def hallPayload : VendorPayload :=
  [("id", .text "hall-2"), ("ip", .text "10.0.0.2"), ("serial_number", .text "SN-2"),
    ("model", .text "ULXD4D")]

/-- A vendor that lists the one receiver, and limits as they are by default. -/
def hallInput : PollInput VendorPayload where
  settings := ⟨.number 500, .unreadable⟩
  getPlugin := fun _ => .ok (some
    { getDevices := .ok (some (sourceOf [hallPayload]))
      asDict := some
      transformDeviceData := some })
  startedAt := 1
  now := 2
  completedAt := 3
  lockedActive := some true
  token := ⟨"hall-token", by decide⟩

def hallState : PollState := { manufacturers := [shure], inventory := receiverInventory }

theorem hallState_valid : hallState.Valid := ⟨receiverInventory_consistent, by decide⟩

namespace PollingService

/-- What a poll of a manufacturer does, whatever it meets. -/
structure PollSound {ρ : Type} (input : PollInput ρ) (manufacturer : Manufacturer) (force : Bool)
    (state after : PollState) (result : PollResult) : Prop where
  consistent : after.inventory.Consistent
  manufacturers : after.manufacturers = state.manufacturers
  allowed : after.inventory ≠ state.inventory → force = true ∨ input.lockedActive = some true
  grows : Grows manufacturer.pk state.inventory after.inventory
  created : after.inventory.chassis.length = state.inventory.chassis.length + result.devicesCreated
  failed : result.errors ≠ [] → after.inventory = state.inventory ∧ after.updates = state.updates ∧
    after.cursor = state.cursor ∧ result.devicesCreated = 0 ∧ result.devicesUpdated = 0
  handled : result.errors = [] → result.devicesCreated + result.devicesUpdated ≤
    result.devicesExamined ∧
    result.devicesExamined ≤ result.deviceLimit.getD 0 ∧ result.deviceLimit.getD 0 ≤ hardMaxPollDevices
  sent : ∃ sent, after.updates = state.updates ++ sent ∧ ∀ update ∈ sent,
    update.manufacturerCode = manufacturer.code ∧ ∀ receiver ∈ update.receivers,
      ∃ row ∈ after.inventory.chassis, row.manufacturer.pk = manufacturer.pk ∧
        row.status ∈ activeStatuses ∧
        receiver = DeviceSnapshotBroadcastService.serialize row
  recorded : after.syncLogs = state.syncLogs ++
    if input.auditFails then [] else [fromPollResult input manufacturer result]

section Poll

variable {ρ : Type} {input : PollInput ρ} {manufacturer : Manufacturer} {force : Bool}
  {state : PollState}

open DeviceSnapshotBroadcastService

theorem broadcast_receivers {table : List Chassis} {call : BroadcastCall}
    {cursor : DeviceBroadcastCursor} :
    ∀ update ∈ (broadcast manufacturer table call cursor).updates, update.manufacturerCode =
      manufacturer.code ∧
      ∀ receiver ∈ update.receivers, ∃ row ∈ projection manufacturer call.statuses table,
        receiver = serialize row := by
  have hloaded :
      ∀ row ∈ (loadRows (projection manufacturer call.statuses table) cursor (windowSize call)).1,
      row ∈ projection manufacturer call.statuses table := by
    intro row hrow
    unfold loadRows at hrow
    split at hrow
    next =>
      simp only at hrow
      split at hrow
      next => exact List.mem_of_mem_take hrow
      next => exact List.mem_of_mem_filter (List.mem_of_mem_take hrow)
    next => exact List.mem_of_mem_take hrow
  rw [broadcast]
  generalize loadRows (projection manufacturer call.statuses table) cursor
    (windowSize call) = loaded at hloaded ⊢
  obtain ⟨rows, cursor⟩ := loaded
  obtain ⟨hflat, -⟩ := iterChunks_spec (chunkSize_pos call) (rows.take (windowSize call))
  intro update hupdate
  simp only [sendWindow, List.mem_map] at hupdate
  obtain ⟨⟨chunk, position⟩, hchunk, rfl⟩ := hupdate
  refine ⟨rfl, fun receiver hreceiver => ?_⟩
  obtain ⟨row, hrow, rfl⟩ := List.mem_map.mp hreceiver
  have hmem : row ∈ rows.take (windowSize call) := by
    rw [← hflat]
    exact List.mem_flatMap.mpr ⟨chunk, List.fst_mem_of_mem_zipIdx hchunk, hrow⟩
  exact ⟨row, hloaded row (List.mem_of_mem_take hmem), rfl⟩

theorem mem_projection_referring {rows : List Chassis} {row : Chassis}
    (h : row ∈ projection manufacturer (some activeStatuses) (referring manufacturer rows)) :
    ∃ stored ∈ rows, stored.manufacturer.pk = manufacturer.pk ∧ stored.status ∈ activeStatuses ∧
      serialize row = serialize stored := by
  have hfilter := List.mem_filter.mp ((Library.Budget.byKey_perm _ _).mem_iff.mp h)
  obtain ⟨stored, hstored, heq⟩ := List.mem_map.mp hfilter.1
  have hmatch := hfilter.2
  simp only [Bool.and_eq_true, decide_eq_true_eq, Option.all_some, List.contains_iff_mem] at hmatch
  by_cases howner : stored.manufacturer.pk = manufacturer.pk
  · rw [if_pos howner] at heq
    subst heq
    exact ⟨stored, hstored, howner, hmatch.2, rfl⟩
  · rw [if_neg howner] at heq
    subst heq
    exact absurd (congrArg Manufacturer.pk hmatch.1) howner

theorem broadcastDeviceUpdates_spec (input : PollInput ρ) (manufacturer : Manufacturer)
    (state : PollState) :
    ∃ sent cursor, broadcastDeviceUpdates input manufacturer state =
        { state with updates := state.updates ++ sent, cursor := cursor } ∧
      ∀ update ∈ sent, update.manufacturerCode = manufacturer.code ∧ ∀ receiver ∈ update.receivers,
        ∃ row ∈ state.inventory.chassis, row.manufacturer.pk = manufacturer.pk ∧
          row.status ∈ activeStatuses ∧
          receiver = serialize row := by
  have hrows : ∀ call : BroadcastCall, call.statuses = some activeStatuses → ∀ update ∈
      (broadcast manufacturer (referring manufacturer state.inventory.chassis) call
        (state.cursor manufacturer.pk)).updates,
      update.manufacturerCode = manufacturer.code ∧ ∀ receiver ∈ update.receivers,
        ∃ row ∈ state.inventory.chassis, row.manufacturer.pk = manufacturer.pk ∧
          row.status ∈ activeStatuses ∧
          receiver = serialize row := by
    intro call hstatuses update hupdate
    obtain ⟨hcode, hreceivers⟩ := broadcast_receivers update hupdate
    refine ⟨hcode, fun receiver hreceiver => ?_⟩
    obtain ⟨row, hrow, rfl⟩ := hreceivers receiver hreceiver
    rw [hstatuses] at hrow
    exact mem_projection_referring hrow
  unfold broadcastDeviceUpdates
  split
  next => exact ⟨[], state.cursor, by simp, nofun⟩
  next limits _ =>
    simp only
    split
    next sent _ =>
      exact ⟨_, state.cursor, rfl, fun update hupdate =>
        hrows _ rfl update (List.mem_of_mem_take hupdate)⟩
    next => exact ⟨_, _, rfl, hrows _ rfl⟩

theorem recordPollResult_eq (result : PollResult) (state : PollState) :
    recordPollResult input manufacturer result state = { state with syncLogs := state.syncLogs ++
      if input.auditFails then [] else [fromPollResult input manufacturer result] } := by
  unfold recordPollResult
  split
  next => simp
  next => rfl

/-- A poll whose synchronization does not return changes nothing. -/
theorem pollSound_of_error (h : state.Valid) {typeName : String}
    (hsync : syncDevicesForManufacturer input force state.manufacturers manufacturer.code
      state.inventory = .error typeName) :
    PollSound input manufacturer force state (pollManufacturer input manufacturer force state).1
      (pollManufacturer input manufacturer force state).2 := by
  simp only [pollManufacturer, hsync, recordPollResult_eq]
  exact ⟨h.consistent, rfl, fun hne => absurd rfl hne, .refl _ _, rfl,
    fun _ => ⟨rfl, rfl, rfl, rfl, rfl⟩, nofun, ⟨[], by simp, nofun⟩, rfl⟩

/-- One whose synchronization returns does what that reports, and broadcasts if it has no errors. -/
theorem pollSound_of_ok (h : state.Valid) (hmem : manufacturer ∈ state.manufacturers)
    {inventory : Inventory} {sync : ManufacturerSyncResult}
    (hsync : syncDevicesForManufacturer input force state.manufacturers manufacturer.code
      state.inventory = .ok (inventory, sync)) :
    PollSound input manufacturer force state (pollManufacturer input manufacturer force state).1
      (pollManufacturer input manufacturer force state).2 := by
  obtain ⟨limits, -, hreport⟩ :=
    syncDevicesForManufacturer_report h.consistent h.codes hmem rfl hsync
  have hhandled : sync.errors = [] → sync.devicesAdded + sync.devicesUpdated ≤
      sync.devicesExamined ∧
      sync.devicesExamined ≤ sync.deviceLimit ∧ sync.deviceLimit ≤ hardMaxPollDevices := by
    intro herrors
    rw [hreport.limit]
    exact ⟨hreport.handled, (hreport.within herrors).1, limits.maxDevices.2.2⟩
  simp only [pollManufacturer, hsync, recordPollResult_eq]
  by_cases herrors : (resultOf sync).errors = []
  · rw [if_pos herrors]
    obtain ⟨sent, cursor, hbroadcast, hsent⟩ :=
      broadcastDeviceUpdates_spec input manufacturer { state with inventory }
    rw [hbroadcast]
    exact ⟨hreport.consistent, rfl, hreport.allowed, hreport.grows, hreport.added,
      fun hne => absurd herrors hne, hhandled, ⟨sent, rfl, hsent⟩, rfl⟩
  · rw [if_neg herrors]
    obtain ⟨hunchanged, hadded, hupdated⟩ := hreport.failed herrors
    exact ⟨hreport.consistent, rfl, hreport.allowed, hreport.grows, hreport.added,
      fun _ => ⟨hunchanged, rfl, rfl, hadded, hupdated⟩, fun hnone => absurd hnone herrors,
      ⟨[], by simp, nofun⟩, rfl⟩

theorem pollManufacturer_pollSound (input : PollInput ρ) (force : Bool) (h : state.Valid)
    (hmem : manufacturer ∈ state.manufacturers) :
    PollSound input manufacturer force state (pollManufacturer input manufacturer force state).1
      (pollManufacturer input manufacturer force state).2 := by
  cases hsync : syncDevicesForManufacturer input force state.manufacturers manufacturer.code
    state.inventory with
  | error typeName => exact pollSound_of_error h hsync
  | ok synced => exact pollSound_of_ok h hmem hsync

/-- **A poll does all or nothing**: what it reports, broadcasts and records is what it has done to
the table. -/
theorem poll_manufacturer_sound (input : PollInput ρ) (force : Bool) (h : state.Valid)
    (hmem : manufacturer ∈ state.manufacturers) :
    PollSound input manufacturer force state (pollManufacturer input manufacturer force state).1
      (pollManufacturer input manufacturer force state).2 :=
  pollManufacturer_pollSound input force h hmem

/-- The poll that finds the second receiver. -/
theorem poll_manufacturer_sound_hall :
    shure ∈ hallState.manufacturers ∧ PollSound hallInput shure false hallState
      (pollManufacturer hallInput shure false hallState).1
      (pollManufacturer hallInput shure false hallState).2 :=
  ⟨by decide, poll_manufacturer_sound hallInput false hallState_valid (by decide)⟩

end Poll

end PollingService

def InventoryPlugin.reading {ρ : Type} (plugin : InventoryPlugin ρ) (source : Nat → Pull String ρ) :
    InventoryPlugin ρ :=
  { plugin with getDevices := .ok (some source) }

/-- Of two sources that agree up to the limit and one item more the same is read. -/
theorem consumeInventory_reading {ρ : Type} (plugin : InventoryPlugin ρ) {deviceLimit : Nat}
    {source source' : Nat → Pull String ρ} (h : ∀ i, i ≤ deviceLimit → source i = source' i) :
    consumeInventory (plugin.reading source) deviceLimit = consumeInventory
      (plugin.reading source') deviceLimit := by
  have hread : readItems source (deviceLimit + 1) 0 = readItems source' (deviceLimit + 1) 0 :=
    readItems_congr fun i _ hlt => h i (by omega)
  simp only [consumeInventory, InventoryPlugin.reading, hread]

namespace PollingService

section Reading

variable {ρ : Type} {input : PollInput ρ} {manufacturer : Manufacturer} {force : Bool}
  {state : PollState}

/-- **A poll never waits for more than the limit allows**: what a vendor would send after the first
item beyond it, without end or not, makes no difference. -/
theorem pollManufacturer_reading (plugin : InventoryPlugin ρ) {source source' : Nat → Pull String ρ}
    (h : ∀ limits, ManufacturerPollLimits.fromSettings input.settings = .ok limits →
      ∀ i, i ≤ limits.maxDevices.1 → source i = source' i) :
    pollManufacturer { input with getPlugin := fun _ => .ok (some (plugin.reading source)) }
        manufacturer force state =
      pollManufacturer { input with getPlugin := fun _ => .ok (some (plugin.reading source')) }
        manufacturer force state := by
  have hsync : ∀ code db,
      syncDevicesForManufacturer { input with getPlugin := fun _ => .ok (some (plugin.reading source)) }
          force state.manufacturers code db =
        syncDevicesForManufacturer
          { input with getPlugin := fun _ => .ok (some (plugin.reading source')) }
          force state.manufacturers code db := by
    intro code db
    unfold syncDevicesForManufacturer
    cases hlimits : ManufacturerPollLimits.fromSettings input.settings with
    | error typeName => rfl
    | ok limits =>
        simp only
        split
        next => rfl
        next => simp only [synchronize, consumeInventory_reading plugin (h limits hlimits)]; rfl
  unfold pollManufacturer
  simp only
  rw [hsync]
  rfl

end Reading

end PollingService

/-! ### Runs -/

/-- A poll task, or an operator who activates or deactivates a manufacturer. -/
inductive PollEvent (ρ : Type) where
  | poll (input : PollInput ρ) (manufacturerId : Nat) (force : Bool)
  | setActive (manufacturerId : Nat) (isActive : Bool)

namespace PollState

open PollingService

variable {ρ : Type}

def step (state : PollState) : PollEvent ρ → PollState
  | .poll input manufacturerId force => (pollManufacturerDevices input manufacturerId force state).1
  | .setActive manufacturerId isActive =>
    { state with manufacturers := state.manufacturers.map fun manufacturer =>
        if manufacturer.pk = manufacturerId then { manufacturer with isActive } else manufacturer }

/-- The audit row of an event can be written. -/
def Audited : PollEvent ρ → Prop
  | .poll input _ _ => input.auditFails = false
  | .setActive _ _ => True

/-- The table as the audit rows `logs` account for it. -/
structure Accounted (logs : List ServiceSyncAudit) (db db' : Inventory) : Prop where
  consistent : db'.Consistent
  created : db'.chassis.length = db.chassis.length + (logs.map ServiceSyncAudit.createdCount).sum
  kept : ∀ row ∈ db.chassis, ∃ row' ∈ db'.chassis, row'.pk = row.pk ∧
    row'.manufacturer = row.manufacturer ∧
    row'.apiDeviceId = row.apiDeviceId ∧ row'.serialNumber = row.serialNumber
  untouched : ∀ manufacturerId, (∀ log ∈ logs, log.service = manufacturerId → log.status = .failed) →
    ∀ row, row.manufacturer.pk = manufacturerId → (row ∈ db'.chassis ↔ row ∈ db.chassis)

variable {state : PollState} {db db' db'' : Inventory} {logs logs' : List ServiceSyncAudit}

theorem accounted_nil (h : db.Consistent) : Accounted [] db db :=
  ⟨h, rfl, fun row hrow => ⟨row, hrow, rfl, rfl, rfl, rfl⟩, fun _ _ _ _ => Iff.rfl⟩

theorem Accounted.append (h : Accounted logs db db') (h' : Accounted logs' db' db'') :
    Accounted (logs ++ logs') db db'' where
  consistent := h'.consistent
  created := by rw [h'.created, h.created, List.map_append, List.sum_append, Nat.add_assoc]
  kept := kept_trans h.kept h'.kept
  untouched manufacturerId hfailed row hrow :=
    (h'.untouched manufacturerId
      (fun log hlog => hfailed log (List.mem_append_right _ hlog)) row hrow).trans
      (h.untouched manufacturerId (fun log hlog => hfailed log (List.mem_append_left _ hlog)) row hrow)

theorem step_accounted (h : state.Valid) {event : PollEvent ρ} (haudited : Audited event) :
    ∃ logs, (state.step event).syncLogs = state.syncLogs ++ logs ∧
      Accounted logs state.inventory (state.step event).inventory ∧ (state.step event).Valid := by
  cases event with
  | setActive manufacturerId isActive =>
      refine ⟨[], (List.append_nil _).symm, accounted_nil h.consistent, h.consistent,
        h.codes.map_rows fun row => ?_⟩
      split <;> rfl
  | poll input manufacturerId force =>
      simp only [step, pollManufacturerDevices]
      split
      next => exact ⟨[], (List.append_nil _).symm, accounted_nil h.consistent, h⟩
      next manufacturer hfound =>
        have hsound := pollManufacturer_pollSound input force h (List.mem_of_find?_eq_some hfound)
        generalize pollManufacturer input manufacturer force state = polled at hsound ⊢
        obtain ⟨after, result⟩ := polled
        have hrecorded := hsound.recorded
        rw [show input.auditFails = false from haudited] at hrecorded
        refine ⟨_, hrecorded, ⟨hsound.consistent, ?_, hsound.grows.kept, ?_⟩, hsound.consistent, ?_⟩
        · simpa [fromPollResult] using hsound.created
        · intro other hfailed row hrow
          by_cases howner : manufacturer.pk = other
          · have hstatus := hfailed (fromPollResult input manufacturer result) (by simp) howner
            have herrors : result.errors ≠ [] := by
              intro hnone
              simp [fromPollResult, hnone] at hstatus
            rw [(hsound.failed herrors).1]
          · exact hsound.grows.others row fun heq => howner (heq.symm.trans hrow)
        · rw [hsound.manufacturers]
          exact h.codes

/-- **The audit log accounts for the inventory**: over any run of polls, of any manufacturers and
whatever each of them meets, as many chassis were added as the new audit rows count, none was lost
or changed its owner, and a manufacturer without a successful audit row has its chassis as they
were. -/
theorem audited_inventory (h : state.Valid) (events : List (PollEvent ρ))
    (haudited : ∀ event ∈ events, Audited event) :
    ∃ logs, (events.foldl step state).syncLogs = state.syncLogs ++ logs ∧
      Accounted logs state.inventory (events.foldl step state).inventory := by
  suffices hrun : ∃ logs, (events.foldl step state).syncLogs = state.syncLogs ++ logs ∧
      Accounted logs state.inventory (events.foldl step state).inventory ∧
        (events.foldl step state).Valid by
    obtain ⟨logs, hlogs, haccounted, -⟩ := hrun
    exact ⟨logs, hlogs, haccounted⟩
  induction events using List.reverseRecOn with
  | nil => exact ⟨[], (List.append_nil _).symm, accounted_nil h.consistent, h⟩
  | append_singleton events event ih =>
      obtain ⟨logs, hlogs, haccounted, hvalid⟩ :=
        ih fun other hother => haudited other (by simp [hother])
      obtain ⟨logs', hlogs', haccounted', hvalid'⟩ := step_accounted hvalid (haudited event (by simp))
      rw [List.foldl_concat]
      exact ⟨logs ++ logs',
        by rw [hlogs', hlogs, List.append_assoc], haccounted.append haccounted', hvalid'⟩

/-- A poll, a deactivation and a poll that is refused then. -/
theorem audited_inventory_hall :
    ∃ logs, ([.poll hallInput 1 false, .setActive 1 false,
      .poll hallInput 1 false].foldl step hallState).syncLogs =
        hallState.syncLogs ++ logs ∧
      Accounted logs hallState.inventory
        ([.poll hallInput 1 false, .setActive 1 false,
          .poll hallInput 1 false].foldl step hallState).inventory :=
  audited_inventory hallState_valid [.poll hallInput 1 false, .setActive 1 false,
    .poll hallInput 1 false]
    fun event hevent => by
      simp only [List.mem_cons, List.not_mem_nil, or_false] at hevent
      rcases hevent with rfl | rfl | rfl
      · rfl
      · trivial
      · rfl

end PollState

end Micboard
