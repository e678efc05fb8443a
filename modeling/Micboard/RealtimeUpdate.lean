import Micboard.PollingSnapshot

/-! Realtime device updates. A message of a subscription is transformed, persisted as a partial poll
of one device, and broadcast as the row that was then stored. Whatever fails is logged, so a message
never ends its stream. Channels and units are written to other tables: of them the model keeps
whether their update succeeded. -/

namespace Micboard

open Library Library.Text

/-- One raw message, as the plugin transforms it; the channels of its device may fail to update. -/
structure RealtimeMessage where
  transformed : Except String (Option VendorPayload)
  channelsUpdated : Bool := true

/-- The stable primitive receiver projection used by realtime broadcasts. -/
structure ReceiverProjection where
  id : Nat
  apiDeviceId : String
  name : String
  ip : Option String
  status : HardwareStatus
  model : String
  deriving DecidableEq, Repr

namespace RealtimeSubscriptionLifecycleService

def projectChassis (chassis : Chassis) : ReceiverProjection where
  id := chassis.pk
  apiDeviceId := chassis.apiDeviceId
  name := chassis.name
  ip := if chassis.ip = "" then none else some chassis.ip
  status := chassis.status
  model := chassis.model

/-- Project one persisted chassis; a chassis that is not found, or found twice, is logged. -/
def broadcastUpdate (db : Inventory) (manufacturer : Manufacturer) (apiDeviceId : String) :
    Option ReceiverProjection :=
  match db.getApiId manufacturer apiDeviceId with
  | .ok (some chassis) => some (projectChassis chassis)
  | .ok none | .error _ => none

/-- Transform, persist, and broadcast one transport-neutral realtime update. -/
def processUpdate (now : Time) (manufacturer : Manufacturer) (db : Inventory)
    (message : RealtimeMessage) :
    Inventory × Option ReceiverProjection :=
  match message.transformed with
  | .error _ | .ok none => (db, none)
  | .ok (some transformedData) =>
    if transformedData = [] then (db, none)
    else
      let apiDeviceId := transformedData.get "api_device_id"
      if !apiDeviceId.isTruthy then (db, none)
      else
        let (db, updatedCount) := updateModelsFromApiData now db
          [{ transformed := transformedData, channelsUpdated := message.channelsUpdated }]
            manufacturer false
        if updatedCount ≤ 0 then (db, none)
        else (db, broadcastUpdate db manufacturer apiDeviceId.str)

def namedDevice (message : RealtimeMessage) : Option PolledDevice :=
  match message.transformed with
  | .error _ | .ok none => none
  | .ok (some transformedData) =>
    if transformedData ≠ [] ∧ (transformedData.get "api_device_id").isTruthy = true then
      some { transformed := transformedData, channelsUpdated := message.channelsUpdated }
    else none

def processUpdates (manufacturer : Manufacturer) (db : Inventory)
    (messages : List (Time × RealtimeMessage)) :
    Inventory × List ReceiverProjection :=
  messages.foldl (fun state message =>
    let (db, broadcast) := processUpdate message.1 manufacturer state.1 message.2
    (db, state.2 ++ broadcast.toList)) (db, [])

section Message

variable {now : Time} {manufacturer : Manufacturer} {db : Inventory} {message : RealtimeMessage}

/-- What a poll does to the inventory depends on nothing that it counts. -/
theorem pollDevice_inventory_congr {first second : PollRun} (h : first.inventory = second.inventory)
    (device : PolledDevice) : (pollDevice now manufacturer first device).inventory =
      (pollDevice now manufacturer second device).inventory := by
  unfold pollDevice
  rw [h]
  split
  next => rfl
  next =>
    split
    next => rfl
    next =>
      split
      next => rfl
      next => rfl

/-- A message that names no device does nothing, and any other is a partial poll of the one it names. -/
theorem processUpdate_eq : processUpdate now manufacturer db message =
    match namedDevice message with
    | none => (db, none)
    | some device =>
      if (updateModelsFromApiData now db [device] manufacturer false).2 ≤ 0 then
        ((updateModelsFromApiData now db [device] manufacturer false).1, none)
      else
        ((updateModelsFromApiData now db [device] manufacturer false).1,
          broadcastUpdate (updateModelsFromApiData now db [device] manufacturer false).1 manufacturer
            (device.transformed.get "api_device_id").str) := by
  unfold processUpdate namedDevice
  cases message.transformed with
  | error message => rfl
  | ok transformed =>
    cases transformed with
    | none => rfl
    | some transformedData =>
      by_cases hempty : transformedData = []
      · simp [hempty]
      · cases htruthy : (transformedData.get "api_device_id").isTruthy with
        | false => simp [hempty, htruthy]
        | true => simp [hempty, htruthy]

theorem processUpdate_inventory : (processUpdate now manufacturer db message).1 =
    (pollDevices now manufacturer db (namedDevice message).toList).inventory := by
  rw [processUpdate_eq]
  cases namedDevice message with
  | none => rfl
  | some device =>
    simp only
    split
    next => rfl
    next => rfl

theorem pollDevice_updatedCount (run : PollRun) (device : PolledDevice) :
    run.updatedCount < (pollDevice now manufacturer run device).updatedCount ↔
      Persists now manufacturer run.inventory device := by
  by_cases hempty : device.transformed = []
  · simp [pollDevice, Persists, hempty]
  cases hupsert : upsertPolled now run.inventory manufacturer device.transformed with
  | error e => simp [pollDevice, Persists, hempty, hupsert]
  | ok result =>
    obtain ⟨mid, chassis, created⟩ := result
    rw [persists_iff hempty hupsert, pollDevice, if_neg hempty, hupsert]
    cases hreconcile : reconcileChassisLifecycle now mid chassis created with
    | mk db' outcome =>
      cases outcome with
      | error e => simp [hreconcile]
      | ok => cases hchannels : device.channelsUpdated <;> simp [hreconcile]

/-- **What is broadcast is what is stored**: the row, after the message was persisted, that holds
the identifier which the message names. -/
theorem processUpdate_broadcast {projection : ReceiverProjection} (hdb : db.Consistent)
    (h : (processUpdate now manufacturer db message).2 = some projection) :
    ∃ device ∈ namedDevice message, Persists now manufacturer db device ∧
      ∃ row ∈ (processUpdate now manufacturer db message).1.chassis, projection = projectChassis row ∧
        HoldsApiId manufacturer (device.transformed.get "api_device_id").str row := by
  have hconsistent : (processUpdate now manufacturer db message).1.Consistent := by
    rw [processUpdate_inventory]
    exact pollDevices_consistent hdb
  rw [processUpdate_eq] at h hconsistent ⊢
  cases hnamed : namedDevice message with
  | none =>
    rw [hnamed] at h
    cases h
  | some device =>
    rw [hnamed] at h hconsistent
    simp only at h hconsistent ⊢
    split at h
    next => cases h
    next hcount =>
      rw [if_neg hcount] at hconsistent ⊢
      have hmore : (PollRun.start db).updatedCount <
          (pollDevice now manufacturer (.start db) device).updatedCount :=
        Nat.lt_of_not_le hcount
      refine ⟨device, rfl, (pollDevice_updatedCount _ _).mp hmore, ?_⟩
      unfold broadcastUpdate at h
      split at h
      next row hfound =>
        have hresolves := resolves_apiId hconsistent.pk_unique.nodup manufacturer
          (device.transformed.get "api_device_id").str
        rw [hfound] at hresolves
        exact ⟨row, hresolves.1, (Option.some.inj h).symm, hresolves.2.1⟩
      next => cases h
      next => cases h

end Message

/-! ### A stream of messages -/

section Stream

variable {manufacturer : Manufacturer} {db : Inventory} {messages : List (Time × RealtimeMessage)}

theorem processUpdates_concat (message : Time × RealtimeMessage) :
    processUpdates manufacturer db (messages ++ [message]) =
      ((processUpdate message.1 manufacturer (processUpdates manufacturer db messages).1 message.2).1,
        (processUpdates manufacturer db messages).2 ++
          (processUpdate message.1 manufacturer
            (processUpdates manufacturer db messages).1 message.2).2.toList) := by
  rw [processUpdates, List.foldl_concat]
  rfl

theorem processUpdates_consistent
    (hdb : db.Consistent) : (processUpdates manufacturer db messages).1.Consistent := by
  induction messages using List.reverseRecOn with
  | nil => exact hdb
  | append_singleton messages message ih =>
    rw [processUpdates_concat]
    show (processUpdate message.1 manufacturer
        (processUpdates manufacturer db messages).1 message.2).1.Consistent
    rw [processUpdate_inventory]
    exact pollDevices_consistent ih

/-- Messages of one time leave the inventory that one partial poll of their devices leaves. -/
theorem processUpdates_inventory {now : Time} (hnow : ∀ message ∈ messages, message.1 = now) :
    (processUpdates manufacturer db messages).1 =
      (pollDevices now manufacturer db
        (messages.filterMap fun message => namedDevice message.2)).inventory := by
  induction messages using List.reverseRecOn with
  | nil => rfl
  | append_singleton messages message ih =>
    have hlast : message.1 = now := hnow message (by simp)
    rw [processUpdates_concat, processUpdate_inventory, hlast,
      ih fun other hother => hnow other (List.mem_append_left _ hother), List.filterMap_append]
    cases hnamed : namedDevice message.2 with
    | none => simp [hnamed, pollDevices, PollRun.start]
    | some device =>
      have hsingle : [message].filterMap (fun message => namedDevice message.2) = [device] := by
        simp [hnamed]
      rw [hsingle, pollDevices_concat]
      apply pollDevice_inventory_congr
      rfl

theorem processUpdates_keeps (hdb : db.Consistent) :
    NoNewOffline db (processUpdates manufacturer db messages).1 ∧
      ∀ row ∈ db.chassis, row.manufacturer.pk ≠ manufacturer.pk →
        row ∈ (processUpdates manufacturer db messages).1.chassis := by
  induction messages using List.reverseRecOn with
  | nil => exact ⟨.refl db, fun row hrow _ => hrow⟩
  | append_singleton messages message ih =>
    rw [processUpdates_concat]
    obtain ⟨hoffline, hforeign⟩ := ih
    obtain ⟨hoffline', hkept, hforeign'⟩ := @pollDevices_inventory message.1 manufacturer
      (processUpdates manufacturer db messages).1 (namedDevice message.2).toList
      (processUpdates_consistent hdb)
    rw [← processUpdate_inventory] at hoffline' hkept
    refine ⟨hoffline.trans hoffline', fun row hrow hother => ?_⟩
    have hmem := hforeign row hrow hother
    exact (hkept row (hforeign' row hmem hother)).mpr hmem

/-- **A realtime stream is a partial poll**: whatever messages come, the table stays consistent, no
chassis goes offline, the chassis of other manufacturers stay as they are, and what is broadcast was
stored when its message was persisted. -/
theorem realtime_stream (hdb : db.Consistent) :
    (processUpdates manufacturer db messages).1.Consistent ∧
      NoNewOffline db (processUpdates manufacturer db messages).1 ∧
      (∀ row ∈ db.chassis, row.manufacturer.pk ≠ manufacturer.pk →
        row ∈ (processUpdates manufacturer db messages).1.chassis) ∧
      (∀ now, (∀ message ∈ messages, message.1 = now) → (processUpdates manufacturer db messages).1 =
        (updateModelsFromApiData now db
          (messages.filterMap fun message => namedDevice message.2) manufacturer false).1) ∧
      ∀ projection ∈ (processUpdates manufacturer db messages).2, ∃ seen message rest,
        messages = seen ++ message :: rest ∧ ∃ device ∈ namedDevice message.2,
          Persists message.1 manufacturer (processUpdates manufacturer db seen).1 device ∧
          ∃ row ∈ (processUpdates manufacturer db (seen ++ [message])).1.chassis,
            projection = projectChassis row ∧
              HoldsApiId manufacturer (device.transformed.get "api_device_id").str row := by
  obtain ⟨hoffline, hforeign⟩ := @processUpdates_keeps manufacturer db messages hdb
  refine ⟨processUpdates_consistent hdb, hoffline, hforeign, fun now hnow =>
    processUpdates_inventory hnow, ?_⟩
  induction messages using List.reverseRecOn with
  | nil => exact fun projection h => absurd h List.not_mem_nil
  | append_singleton messages message ih =>
    intro projection hprojection
    rw [processUpdates_concat, List.mem_append, Option.mem_toList] at hprojection
    rcases hprojection with hearlier | hlast
    · obtain ⟨hoffline', hforeign'⟩ := @processUpdates_keeps manufacturer db messages hdb
      obtain ⟨seen, earlier, rest, hmessages, hbroadcast⟩ := ih hoffline' hforeign' projection hearlier
      exact ⟨seen, earlier, rest ++ [message], by rw [hmessages]; simp, hbroadcast⟩
    · obtain ⟨device, hdevice, hpersists, row, hrow, hprojected, hholds⟩ :=
        processUpdate_broadcast (processUpdates_consistent hdb) hlast
      refine ⟨messages, message, [], rfl, device, hdevice, hpersists, row, ?_, hprojected, hholds⟩
      rw [processUpdates_concat]
      exact hrow

end Stream

/-- A receiver that announces itself, and a message that names no device. -/
def stageMessages : List (Time × RealtimeMessage) :=
  [(0, { transformed := .ok (some [("api_device_id", .text "dev-7"), ("ip", .text "10.0.0.7"),
      ("name", .text "Stage")]) }),
    (0, { transformed := .ok (some [("name", .text "Stage")]) })]

theorem realtime_stream_stage :
    (processUpdates ⟨1, "shure", true⟩ .empty stageMessages).2.map (·.apiDeviceId) = ["dev-7"] ∧
      (processUpdates ⟨1, "shure", true⟩ .empty stageMessages).1.Consistent :=
  ⟨by decide +kernel, (realtime_stream (Inventory.consistent_of_chassis_nil rfl)).1⟩

end RealtimeSubscriptionLifecycleService

end Micboard
