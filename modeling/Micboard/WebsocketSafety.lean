import Micboard.ShureWebsocket

/-! What a subscription guarantees whatever its peer, the database and the client do. No message
reaches the tables before the device was subscribed to, and then each readable one does so once and
in order; the client is closed once; nothing but a cancellation or a mark that cannot be saved
leaves the subscription; and the row says how the connection stands, unless the save for its first
message failed. -/

namespace Micboard.ShureWebsocket

open Library RealtimeSubscriptionLifecycleService

section Transport

variable {α σ : Type} {peer : SocketPeer α} {deviceId : String}
  {callback : α → σ → σ × Bool} {state : σ}

/-- The loop hands over the readable messages, and these alone. -/
theorem readAndDispatchMessages_eq (messages : List (SocketMessage α)) :
    readAndDispatchMessages callback messages state =
      (messages.filterMap SocketMessage.value?).foldl (fun state value =>
        (callback value state).1) state := by
  unfold readAndDispatchMessages
  induction messages generalizing state with
  | nil => rfl
  | cons message rest ih =>
    rw [List.foldl_cons, ih]
    cases message <;> rfl

theorem subscribeClientToTransport_eq_ok {transportId : String} :
    subscribeClientToTransport peer deviceId transportId = .ok () ↔
      peer.post (subscribeEndpoint deviceId transportId) = .response (some "success") := by
  unfold subscribeClientToTransport
  cases peer.post (subscribeEndpoint deviceId transportId) with
  | raised error => simp
  | empty => simp
  | response status => simp

/-- A peer that lets the device be subscribed to is listened to till it stops. -/
theorem connectAndSubscribe_of_subscribes (h : Subscribes peer deviceId) :
    connectAndSubscribe peer deviceId callback state =
      (readAndDispatchMessages callback peer.messages state, handled (peer.leave.or peer.ending)) := by
  obtain ⟨hurl, hconnect, transportId, hid, hhandshake, hpost⟩ := h
  have hsubscribed := subscribeClientToTransport_eq_ok.mpr hpost
  have hconverse : converse peer deviceId callback state =
      (readAndDispatchMessages callback peer.messages state, peer.ending) := by
    unfold converse
    simp only [hhandshake, parseTransportIdFromMessage, Option.getD_some, if_neg hid, hsubscribed]
  unfold connectAndSubscribe session
  simp only [if_neg hurl, hconnect, hconverse]

/-- What a conversation changes, it changes for a device that was subscribed to. -/
theorem converse_unchanged (h : ∀ transportId, transportId ≠ "" →
    peer.handshake = .ok (.object (some transportId)) →
      peer.post (subscribeEndpoint deviceId transportId) ≠ .response (some "success")) :
    (converse peer deviceId callback state).1 = state := by
  unfold converse
  cases hhandshake : peer.handshake with
  | error error => rfl
  | ok message =>
    cases message with
    | notObject => rfl
    | unreadable => rfl
    | object transportId =>
      simp only [parseTransportIdFromMessage]
      split
      next => rfl
      next hid =>
        cases transportId with
        | none => exact absurd rfl hid
        | some transportId =>
          cases hsubscribed : subscribeClientToTransport peer deviceId ((some transportId).getD "") with
          | error error => rfl
          | ok =>
              exact absurd (subscribeClientToTransport_eq_ok.mp hsubscribed)
                (h transportId hid hhandshake)

/-- **Before the subscription nothing is handed over.** -/
theorem connectAndSubscribe_of_not_subscribes (h : ¬Subscribes peer deviceId) :
    (connectAndSubscribe peer deviceId callback state).1 = state := by
  unfold connectAndSubscribe
  by_cases hurl : peer.websocketUrl.getD "" = ""
  · rw [if_pos hurl]
  rw [if_neg hurl]
  show (session peer deviceId callback state).1 = state
  unfold session
  cases hconnect : peer.connect with
  | error error => rfl
  | ok =>
    apply converse_unchanged
    exact fun transportId hid hhandshake hpost =>
      h ⟨hurl, hconnect, transportId, hid, hhandshake, hpost⟩

end Transport

section Messages

variable {manufacturer : Manufacturer} {state : SubscriptionState} {row connection : RealTimeConnection}
  {deliveries : List Delivery}

/-- The tables after some readable messages. -/
def deliver (manufacturer : Manufacturer) (state : SubscriptionState)
    (deliveries : List Delivery) : SubscriptionState :=
  deliveries.foldl (fun state delivery => (updateCallback manufacturer delivery state).1) state

/-- The messages whose activity could be recorded. -/
def recorded (deliveries : List Delivery) : List (Time × RealtimeMessage) :=
  (deliveries.filter fun delivery => !delivery.saveFails).map fun delivery =>
    (delivery.receivedAt, delivery.message)

theorem deliver_concat (delivery : Delivery) : deliver manufacturer state (deliveries ++ [delivery]) =
    (updateCallback manufacturer delivery (deliver manufacturer state deliveries)).1 :=
  List.foldl_concat _ _ _ _

/-- The subscription keeps its instance, and the tables hold what the recorded messages brought. -/
theorem deliver_tables (hrow : state.row = some row)
    (hconnection : state.connection = some connection) :
    (deliver manufacturer state deliveries).row.isSome = true ∧
      (deliver manufacturer state deliveries).connection.isSome = true ∧
      (deliver manufacturer state deliveries).inventory =
        (processUpdates manufacturer state.inventory (recorded deliveries)).1 ∧
      (deliver manufacturer state deliveries).broadcasts =
        state.broadcasts ++ (processUpdates manufacturer state.inventory (recorded deliveries)).2 := by
  induction deliveries using List.reverseRecOn with
  | nil => simp [deliver, recorded, processUpdates, hrow, hconnection]
  | append_singleton deliveries delivery ih =>
    obtain ⟨hrow', hconnection', hinventory, hbroadcasts⟩ := ih
    obtain ⟨row', hrow'⟩ := Option.isSome_iff_exists.mp hrow'
    obtain ⟨connection', hconnection'⟩ := Option.isSome_iff_exists.mp hconnection'
    have hmark : (receivedMessage delivery row' connection').2.2 = !delivery.saveFails := by
      unfold receivedMessage
      split <;> rfl
    rw [deliver_concat, updateCallback, hrow', hconnection']
    simp only [hmark]
    cases hsave : delivery.saveFails with
    | true =>
      have hskipped : recorded (deliveries ++ [delivery]) = recorded deliveries := by
        simp [recorded, List.filter_append, hsave]
      rw [hskipped]
      exact ⟨rfl, rfl, hinventory, hbroadcasts⟩
    | false =>
      have htaken : recorded (deliveries ++ [delivery]) =
          recorded deliveries ++ [(delivery.receivedAt, delivery.message)] := by
        simp [recorded, List.filter_append, hsave]
      rw [htaken, processUpdates_concat, ← hinventory, ← List.append_assoc, ← hbroadcasts]
      exact ⟨rfl, rfl, rfl, rfl⟩

/-- The first readable message establishes the connection, in the row only if it can be saved there. -/
theorem deliver_status (hrow : state.row = some row) (hconnection : state.connection = some connection)
    (hpending : connection.status ≠ .connected) :
    (deliver manufacturer state deliveries).connection.map RealTimeConnection.status =
        some (if deliveries = [] then connection.status else .connected) ∧
      (deliver manufacturer state deliveries).row.map RealTimeConnection.status =
        some (if deliveries.head?.any
          (fun delivery => !delivery.saveFails) then .connected else row.status) := by
  induction deliveries using List.reverseRecOn with
  | nil => simp [deliver, hrow, hconnection]
  | append_singleton deliveries delivery ih =>
    obtain ⟨hinstance, hstored⟩ := ih
    obtain ⟨connection', hconnection', hstatus⟩ := Option.map_eq_some_iff.mp hinstance
    obtain ⟨row', hrow', hstatus'⟩ := Option.map_eq_some_iff.mp hstored
    rw [deliver_concat, updateCallback, hrow', hconnection']
    by_cases hfirst : deliveries = []
    · subst hfirst
      rw [if_pos rfl] at hstatus
      have hopen : connection'.status ≠ .connected := hstatus ▸ hpending
      cases hsave : delivery.saveFails with
      | true => simpa [receivedMessage, hopen, hsave, RealTimeConnection.markConnected,
        RealTimeConnection.save]
          using hstatus'
      | false => simp [receivedMessage, hopen, hsave, RealTimeConnection.markConnected,
        RealTimeConnection.save]
    · rw [if_neg hfirst] at hstatus
      have hhead : (deliveries ++ [delivery]).head? = deliveries.head? :=
        List.head?_append_of_ne_nil _ hfirst
      rw [hhead]
      cases hsave : delivery.saveFails with
      | true => simp [receivedMessage, hstatus, hsave, hstatus']
      | false => simp [receivedMessage, hstatus, hsave, hstatus']

end Messages

/-! ### One subscription -/

/-- The readable messages of its stream. -/
def SubscriptionInput.deliveries (input : SubscriptionInput) : List Delivery :=
  input.peer.messages.filterMap SocketMessage.value?

/-- The subscription gets to the stream of its peer. -/
def SubscriptionInput.Streams (input : SubscriptionInput) : Prop :=
  input.tracking = .ok () ∧ input.client = .ok () ∧ input.isActive = .ok true ∧
    Subscribes input.peer input.deviceId

section Subscription

variable {input : SubscriptionInput} {state : SubscriptionState} {connection : RealTimeConnection}

def tracked (input : SubscriptionInput) (state : SubscriptionState) : SubscriptionState :=
  let connection := getOrCreateConnection state.row input.newPk "websocket" input.now
  { state with row := some connection, connection := some connection }

/-- The error handler, around whatever its `try` came to. -/
def settle (input : SubscriptionInput) (outcome : SubscriptionState × Option SocketError) :
    SubscriptionState × Option SocketError :=
  match outcome with
  | (state, none) => (state, none)
  | (state, some error) => recordError input error state

theorem startReceiverWebsocket_eq
    (htracking : input.tracking = .ok ()) : startReceiverWebsocket input state =
    match input.client with
    | .error typeName => ⟨(settle input (tracked input state, some (.other typeName))).1,
        (settle input (tracked input state, some (.other typeName))).2, 0⟩
    | .ok () => ⟨(settle input (subscribe input (tracked input state))).1,
        (settle input (subscribe input (tracked input state))).2, 1⟩ := by
  unfold startReceiverWebsocket
  rw [htracking]
  cases input.client with
  | error typeName => rfl
  | ok => rfl

/-- A mark touches the connection alone. -/
theorem record_tables (fails : Bool) (recording : Recording) :
    (record input fails recording state).1.inventory = state.inventory ∧
      (record input fails recording state).1.broadcasts = state.broadcasts := by
  unfold record
  split
  next => exact ⟨rfl, rfl⟩
  next => split <;> exact ⟨rfl, rfl⟩

theorem record_row (hconnection : state.connection = some connection) (fails : Bool)
    (recording : Recording) :
    (record input fails recording state).1.row =
      if fails then state.row else some (recording.mark connection input.now) := by
  unfold record
  rw [hconnection]
  cases fails with
  | true => rfl
  | false => rfl

theorem record_raised {fails : Bool} {recording : Recording} {error : SocketError}
    (h : (record input fails recording state).2 = some error) : fails = true := by
  unfold record at h
  split at h
  next => cases h
  next =>
    cases fails with
    | true => rfl
    | false => cases h

/-- The handler marks every exception but a cancellation. -/
theorem recordError_eq {error : SocketError} (h : error ≠ .cancelled) : recordError input error state =
    record input input.errorFails
      (.error (String.ofList
        (("WebSocket subscription failed: " ++ error.typeName).toList.take 160))) state := by
  cases error with
  | cancelled => exact absurd rfl h
  | closedOk => rfl
  | closedError => rfl
  | subscription message => rfl
  | api typeName => rfl
  | other typeName => rfl

theorem settle_tables (outcome : SubscriptionState × Option SocketError) :
    (settle input outcome).1.inventory = outcome.1.inventory ∧
      (settle input outcome).1.broadcasts = outcome.1.broadcasts := by
  obtain ⟨state, raised⟩ := outcome
  cases raised with
  | none => exact ⟨rfl, rfl⟩
  | some error =>
    by_cases herror : error = .cancelled
    · subst herror
      exact ⟨rfl, rfl⟩
    · show (recordError input error state).1.inventory = state.inventory ∧
        (recordError input error state).1.broadcasts = state.broadcasts
      rw [recordError_eq herror]
      exact record_tables _ _

theorem settle_raised {outcome : SubscriptionState × Option SocketError} {error : SocketError}
    (h : (settle input outcome).2 = some error) : error = .cancelled ∨ input.errorFails = true := by
  obtain ⟨state, raised⟩ := outcome
  cases raised with
  | none => cases h
  | some cause =>
    by_cases hcause : cause = .cancelled
    · subst hcause
      exact .inl (Option.some.inj h).symm
    · have hrecord : (recordError input cause state).2 = some error := h
      rw [recordError_eq hcause] at hrecord
      exact .inr (record_raised hrecord)

theorem settle_row {outcome : SubscriptionState × Option SocketError}
    (hconnection : outcome.1.connection = some connection) : (settle input outcome).1.row =
      match outcome.2 with
      | none | some .cancelled => outcome.1.row
      | some error => if input.errorFails then outcome.1.row else
          some ((connection.markError (String.ofList
            (("WebSocket subscription failed: " ++ error.typeName).toList.take 160)) input.now).save
              input.now) := by
  obtain ⟨state, raised⟩ := outcome
  cases raised with
  | none => rfl
  | some error => cases error with
    | cancelled => rfl
    | closedOk => exact record_row hconnection _ _
    | closedError => exact record_row hconnection _ _
    | subscription message => exact record_row hconnection _ _
    | api typeName => exact record_row hconnection _ _
    | other typeName => exact record_row hconnection _ _

theorem subscribe_of_streams (h : input.Streams) : subscribe input state =
    (deliver input.manufacturer state input.deliveries, handled
      (input.peer.leave.or input.peer.ending)) := by
  obtain ⟨-, -, hactive, hsubscribes⟩ := h
  unfold subscribe
  rw [hactive]
  simp only
  rw [connectAndSubscribe_of_subscribes hsubscribes, readAndDispatchMessages_eq]
  rfl

/-- A subscription that does not get to the stream leaves its tables, its row stopped at most. -/
theorem subscribe_of_not_streams
    (h : ¬(input.isActive = .ok true ∧ Subscribes input.peer input.deviceId)) :
    (subscribe input state).1 = state ∨
      (subscribe input state).1 = (record input input.stopFails .stopped state).1 := by
  unfold subscribe
  cases hactive : input.isActive with
  | error typeName => exact .inl rfl
  | ok active => cases active with
    | false => exact .inr rfl
    | true =>
      left
      exact connectAndSubscribe_of_not_subscribes fun hsubscribes => h ⟨hactive, hsubscribes⟩

/-- The handler never makes a row say that it is connected. -/
theorem settle_connected {outcome : SubscriptionState × Option SocketError}
    (hconnection : outcome.1.connection = some connection) :
    (settle input outcome).1.row.map RealTimeConnection.status = some .connected ↔
      outcome.1.row.map RealTimeConnection.status = some .connected ∧
        (outcome.2 = none ∨ outcome.2 = some .cancelled ∨ input.errorFails = true) := by
  rw [settle_row hconnection]
  split
  next hraised => simp [hraised]
  next hraised => simp [hraised]
  next error hcause hraised =>
    have hcancelled : error ≠ .cancelled := hcause
    cases hfails : input.errorFails with
    | true => simp
    | false => simp [hraised, hcancelled, RealTimeConnection.markError, RealTimeConnection.save]

theorem tracked_status : ∃ connection, (tracked input state).row = some connection ∧
    (tracked input state).connection = some connection ∧ connection.status = .connecting :=
  ⟨_, rfl, rfl, rfl⟩

/-- A subscription that does not get to the stream leaves no connected row. -/
theorem subscribe_not_connected
    (h : ¬(input.isActive = .ok true ∧ Subscribes input.peer input.deviceId)) :
    (subscribe input (tracked input state)).1.inventory = state.inventory ∧
      (subscribe input (tracked input state)).1.broadcasts = state.broadcasts ∧
      (∃ connection, (subscribe input (tracked input state)).1.connection = some connection) ∧
      (subscribe input (tracked input state)).1.row.map RealTimeConnection.status ≠
        some .connected := by
  rcases @subscribe_of_not_streams input (tracked input state) h with hsame | hstopped
  · rw [hsame]
    exact ⟨rfl, rfl, ⟨_, rfl⟩,
      by simp [tracked, getOrCreateConnection, RealTimeConnection.markConnecting,
      RealTimeConnection.save]⟩
  · rw [hstopped]
    refine ⟨(record_tables _ _).1, (record_tables _ _).2, ?_, ?_⟩
    · unfold record tracked
      cases input.stopFails with
      | true => exact ⟨_, rfl⟩
      | false => exact ⟨_, rfl⟩
    · rw [record_row rfl]
      cases input.stopFails with
      | true => simp [tracked, getOrCreateConnection, RealTimeConnection.markConnecting,
        RealTimeConnection.save]
      | false => simp [Recording.mark, RealTimeConnection.markStopped, RealTimeConnection.save]

/-- **One subscription, whatever fails.** The tables hold what the recorded messages of the stream
brought, each once and in order, if the device was subscribed to, and are untouched otherwise.
Whoever got a client closes it once. Only a cancellation or an error mark that cannot be saved gets
out. And a tracked row says `connected` exactly after a stream whose first readable message could be
saved and which ended without an error, with a cancellation, or with an error that could not be
marked. -/
theorem start_receiver_websocket :
    (input.Streams →
      (startReceiverWebsocket input state).state.inventory =
        (processUpdates input.manufacturer state.inventory (recorded input.deliveries)).1 ∧
      (startReceiverWebsocket input state).state.broadcasts =
        state.broadcasts ++
          (processUpdates input.manufacturer state.inventory (recorded input.deliveries)).2) ∧
    (¬input.Streams → (startReceiverWebsocket input state).state.inventory = state.inventory ∧
      (startReceiverWebsocket input state).state.broadcasts = state.broadcasts) ∧
    (startReceiverWebsocket input state).closes =
      (if input.tracking = .ok () ∧ input.client = .ok () then 1 else 0) ∧
    (∀ error ∈ (startReceiverWebsocket input state).raised, error = .cancelled ∨
      input.errorFails = true) ∧
    (input.tracking = .ok () →
      ((startReceiverWebsocket input state).state.row.map RealTimeConnection.status = some .connected ↔
        input.Streams ∧ input.deliveries.head?.any (fun delivery => !delivery.saveFails) = true ∧
          (handled (input.peer.leave.or input.peer.ending) = none ∨
            handled (input.peer.leave.or input.peer.ending) = some .cancelled ∨
              input.errorFails = true))) := by
  cases htracking : input.tracking with
  | error typeName =>
    have hstreams : ¬input.Streams := fun h => absurd (htracking.symm.trans h.1) (by simp)
    have hnone : startReceiverWebsocket input state = ⟨{ state with connection := none }, none, 0⟩ := by
      unfold startReceiverWebsocket
      rw [htracking]
      rfl
    rw [hnone]
    exact ⟨fun h => absurd h hstreams, fun _ => ⟨rfl, rfl⟩, by simp, by simp, by simp⟩
  | ok =>
    rw [startReceiverWebsocket_eq htracking]
    cases hclient : input.client with
    | error typeName =>
      have hstreams : ¬input.Streams := fun h => absurd (hclient.symm.trans h.2.1) (by simp)
      refine ⟨fun h => absurd h hstreams, fun _ => settle_tables _,
        by simp, fun error h => settle_raised h,
        fun _ => ?_⟩
      rw [settle_connected rfl]
      simp [hstreams, tracked, getOrCreateConnection, RealTimeConnection.markConnecting,
        RealTimeConnection.save]
    | ok =>
      by_cases hstreams : input.isActive = .ok true ∧ Subscribes input.peer input.deviceId
      · have h : input.Streams := ⟨htracking, hclient, hstreams⟩
        obtain ⟨connection, hrow, hconnection, hstatus⟩ := @tracked_status input state
        have hpending : connection.status ≠ .connected := by simp [hstatus]
        obtain ⟨-, hkept, hinventory, hbroadcasts⟩ :=
          @deliver_tables input.manufacturer _ _ _ input.deliveries hrow hconnection
        obtain ⟨connection', hkept⟩ := Option.isSome_iff_exists.mp hkept
        have hconnected :=
          (@deliver_status input.manufacturer _ _ _ input.deliveries hrow hconnection hpending).2
        rw [subscribe_of_streams h]
        refine ⟨fun _ => ⟨(settle_tables _).1.trans hinventory, (settle_tables _).2.trans hbroadcasts⟩,
          fun hnot => absurd h hnot, by simp, fun error hraised => settle_raised hraised, fun _ => ?_⟩
        rw [settle_connected hkept, hconnected]
        simp [h, hstatus]
      · have h : ¬input.Streams := fun h => hstreams h.2.2
        obtain ⟨hinventory, hbroadcasts, ⟨connection, hconnection⟩, hstatus⟩ :=
          @subscribe_not_connected input state hstreams
        refine ⟨fun hyes => absurd hyes h, fun _ => ⟨(settle_tables _).1.trans hinventory,
          (settle_tables _).2.trans hbroadcasts⟩,
            by simp, fun error hraised => settle_raised hraised, fun _ => ?_⟩
        rw [settle_connected hconnection]
        simp [h, hstatus]

end Subscription

/-- A peer that accepts the device, sends one update between two other texts, and closes. -/
def stageInput : SubscriptionInput where
  manufacturer := ⟨1, "shure", true⟩
  deviceId := "dev-7"
  now := 0
  newPk := 4
  isActive := .ok true
  peer := {
    websocketUrl := some "wss://10.0.0.7:2420/"
    connect := .ok ()
    handshake := .ok (.object (some "t-1"))
    post := fun _ => .response (some "success")
    messages := [.malformed, .parsed {
      receivedAt := 5
      message := { transformed := .ok (some [("api_device_id", .text "dev-7"), ("ip", .text "10.0.0.7"),
        ("name", .text "Stage")]) } }, .undecodable]
    ending := some .closedOk }

theorem stageInput_streams : stageInput.Streams :=
  ⟨rfl, rfl, rfl, by decide, rfl, "t-1", by decide, rfl, rfl⟩

theorem start_receiver_websocket_stage :
    (startReceiverWebsocket stageInput ⟨.empty, [], none, none⟩).state.broadcasts.map
    (·.apiDeviceId) = ["dev-7"] ∧
      (startReceiverWebsocket stageInput ⟨.empty, [], none, none⟩).closes = 1 ∧
      (startReceiverWebsocket stageInput ⟨.empty, [], none, none⟩).state.row.map
        RealTimeConnection.status =
        some .connected := by
  obtain ⟨hstream, -, hcloses, -, hstatus⟩ :=
    @start_receiver_websocket stageInput ⟨.empty, [], none, none⟩
  refine ⟨?_, hcloses, (hstatus rfl).mpr ⟨stageInput_streams, rfl, .inl rfl⟩⟩
  rw [(hstream stageInput_streams).2]
  decide +kernel

end Micboard.ShureWebsocket
