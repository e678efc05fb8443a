import Micboard.RealtimeConnection
import Micboard.RealtimeUpdate

/-! The WebSocket subscription of one Shure receiver, from the row that tracks its connection to the
close of its client. What the other side does, and which calls to the database and the client fail,
are inputs: every step of a subscription may raise. A cancellation reaches it while it waits for the
peer. The texts of the log are left out. -/

namespace Micboard.ShureWebsocket

open Library

/-- An exception, by what the handlers tell apart; `cancelled` is no `Exception`. -/
inductive SocketError where
  | closedOk
  | closedError
  | subscription (message : String)
  | api (typeName : String)
  | other (typeName : String)
  | cancelled
  deriving DecidableEq, Repr

/-- `type(exc).__name__`. -/
def SocketError.typeName : SocketError → String
  | closedOk => "ConnectionClosedOK"
  | closedError => "ConnectionClosedError"
  | subscription _ => "ShureWebSocketError"
  | api typeName | other typeName => typeName
  | cancelled => "CancelledError"

/-- The first message: an object with its `transportId`, other JSON, or no JSON. -/
inductive Handshake where
  | object (transportId : Option String)
  | notObject
  | unreadable
  deriving DecidableEq, Repr

/-- What a REST call comes to; an empty response is no response. -/
inductive PostAnswer where
  | raised (error : SocketError)
  | empty
  | response (status : Option String)
  deriving DecidableEq, Repr

/-- What `json.loads` makes of a message of the stream. -/
inductive SocketMessage (α : Type) where
  | parsed (value : α)
  | malformed
  | undecodable

def SocketMessage.value? {α : Type} : SocketMessage α → Option α
  | parsed value => some value
  | malformed | undecodable => none

/-- What the other side of one connection does: `ending` is what the iteration over its messages
raises at last. -/
structure SocketPeer (α : Type) where
  websocketUrl : Option String
  connect : Except SocketError Unit
  handshake : Except SocketError Handshake
  post : String → PostAnswer
  messages : List (SocketMessage α)
  ending : Option SocketError := none
  leave : Option SocketError := none

def parseTransportIdFromMessage : Handshake → Except SocketError (Option String)
  | .object transportId => .ok transportId
  | .notObject => .error (.other "AttributeError")
  | .unreadable => .ok none

def subscribeEndpoint (deviceId transportId : String) : String :=
  "/api/v1/devices/" ++ deviceId ++ "/identify/subscription/" ++ transportId

section Transport

variable {α σ : Type} (peer : SocketPeer α) (deviceId : String) (callback : α → σ → σ × Bool)

def subscribeClientToTransport (transportId : String) : Except SocketError Unit :=
  match peer.post (subscribeEndpoint deviceId transportId) with
  | .raised error => .error error
  | .empty => .error (.subscription "Failed to subscribe to Shure device updates")
  | .response status =>
    if status = some "success" then .ok ()
    else .error (.subscription "Failed to subscribe to Shure device updates")

/-- One round of the loop. Whether the callback raised is only logged, as a message that is no JSON
is. -/
def dispatch (state : σ) : SocketMessage α → σ
  | .parsed value => (callback value state).1
  | .malformed | .undecodable => state

def readAndDispatchMessages (messages : List (SocketMessage α)) (state : σ) : σ :=
  messages.foldl (dispatch callback) state

/-- The body of the `async with`. -/
def converse (state : σ) : σ × Option SocketError :=
  match peer.handshake with
  | .error error => (state, some error)
  | .ok message =>
    match parseTransportIdFromMessage message with
    | .error error => (state, some error)
    | .ok transportId =>
      if transportId.getD "" = "" then
        (state, some (.subscription "Failed to get transportId from WebSocket"))
      else
        match subscribeClientToTransport peer deviceId (transportId.getD "") with
        | .error error => (state, some error)
        | .ok () => (readAndDispatchMessages callback peer.messages state, peer.ending)

/-- The `async with`: an exception of its exit takes the place of the one before. -/
def session (state : σ) : σ × Option SocketError :=
  match peer.connect with
  | .error error => (state, some error)
  | .ok () =>
    let (state, raised) := converse peer deviceId callback state
    (state, peer.leave.or raised)

def handled : Option SocketError → Option SocketError
  | none | some .closedOk => none
  | some .closedError => some (.subscription "Shure WebSocket connection error")
  | some (.subscription message) => some (.subscription message)
  | some (.api typeName) => some (.api typeName)
  | some (.other _) => some (.subscription "Unhandled Shure WebSocket error")
  | some .cancelled => some .cancelled

/-- Establishes the connection and subscribes to device updates; the dependency is installed. -/
def connectAndSubscribe (state : σ) : σ × Option SocketError :=
  if peer.websocketUrl.getD "" = "" then
    (state, some (.subscription "Shure API WebSocket URL not configured"))
  else
    let (state, raised) := session peer deviceId callback state
    (state, handled raised)

/-- The peer lets the device be subscribed to. -/
def Subscribes : Prop :=
  peer.websocketUrl.getD "" ≠ "" ∧ peer.connect = .ok () ∧
    ∃ transportId, transportId ≠ "" ∧ peer.handshake = .ok (.object (some transportId)) ∧
      peer.post (subscribeEndpoint deviceId transportId) = .response (some "success")

end Transport

/-- A message with what its callback meets: the time, and whether the row can be saved. -/
structure Delivery where
  receivedAt : Time
  saveFails : Bool := false
  message : RealtimeMessage

/-- The tables that a subscription writes, and its own instance of the connection's row. -/
structure SubscriptionState where
  inventory : Inventory
  broadcasts : List ReceiverProjection := []
  row : Option RealTimeConnection
  connection : Option RealTimeConnection := none

/-- `received_message`, whose save may fail after the instance was changed; `false` if it raised. -/
def receivedMessage (delivery : Delivery) (row connection : RealTimeConnection) :
    RealTimeConnection × RealTimeConnection × Bool :=
  if connection.status ≠ .connected then
    let connection := (connection.markConnected delivery.receivedAt).save delivery.receivedAt
    (if delivery.saveFails then row else connection, connection, !delivery.saveFails)
  else
    (if delivery.saveFails then row else { row with lastMessageAt := some delivery.receivedAt },
      { connection with lastMessageAt := some delivery.receivedAt }, !delivery.saveFails)

def updateCallback (manufacturer : Manufacturer) (delivery : Delivery) (state : SubscriptionState) :
    SubscriptionState × Bool :=
  match state.row, state.connection with
  | some row, some connection =>
    let (row, connection, recorded) := receivedMessage delivery row connection
    if !recorded then ({ state with row, connection }, false)
    else
      let (inventory, broadcast) :=
        RealtimeSubscriptionLifecycleService.processUpdate delivery.receivedAt
        manufacturer state.inventory delivery.message
      ({ inventory, broadcasts := state.broadcasts ++ broadcast.toList, row, connection }, true)
  | _, _ => (state, false)

/-- What one subscription meets. `tracking` and `client` are the errors of the calls before the
connection, with the type names of their exceptions; its last marks are the stop of an inactive
manufacturer's connection and the error of the handler, and each of the two may not be saved. -/
structure SubscriptionInput where
  manufacturer : Manufacturer
  deviceId : String
  now : Time
  newPk : Nat
  tracking : Except String Unit := .ok ()
  client : Except String Unit := .ok ()
  isActive : Except String Bool
  peer : SocketPeer Delivery
  stopFails : Bool := false
  errorFails : Bool := false

/-- How a subscription ends: its tables, what it raises, and how often it closed a client. -/
structure SubscriptionOutcome where
  state : SubscriptionState
  raised : Option SocketError
  closes : Nat

/-- A mark of the connection; the instance changes even if the save fails. -/
def record (input : SubscriptionInput) (fails : Bool) (recording : Recording)
    (state : SubscriptionState) :
    SubscriptionState × Option SocketError :=
  match state.connection with
  | none => (state, none)
  | some connection =>
    let connection := recording.mark connection input.now
    if fails then ({ state with connection := some connection }, some (.other "DatabaseError"))
    else ({ state with row := some connection, connection := some connection }, none)

def recordError (input : SubscriptionInput) (error : SocketError) (state : SubscriptionState) :
    SubscriptionState × Option SocketError :=
  match error with
  | .cancelled => (state, some .cancelled)
  | error => record input input.errorFails (.error (String.ofList
      (("WebSocket subscription failed: " ++ error.typeName).toList.take 160))) state

/-- What follows once the client is there, within the `try`. -/
def subscribe (input : SubscriptionInput)
    (state : SubscriptionState) : SubscriptionState × Option SocketError :=
  match input.isActive with
  | .error typeName => (state, some (.other typeName))
  | .ok false => record input input.stopFails .stopped state
  | .ok true => connectAndSubscribe input.peer input.deviceId (updateCallback input.manufacturer) state

/-- Start WebSocket subscription for a single receiver. -/
def startReceiverWebsocket (input : SubscriptionInput)
    (state : SubscriptionState) : SubscriptionOutcome :=
  match input.tracking with
  | .error typeName =>
    let (state, raised) := recordError input (.other typeName) { state with connection := none }
    { state, raised, closes := 0 }
  | .ok () =>
    let connection := getOrCreateConnection state.row input.newPk "websocket" input.now
    let state := { state with row := some connection, connection := some connection }
    match input.client with
    | .error typeName =>
      let (state, raised) := recordError input (.other typeName) state
      { state, raised, closes := 0 }
    | .ok () =>
      let (state, raised) := match subscribe input state with
        | (state, none) => (state, none)
        | (state, some error) => recordError input error state
      { state, raised, closes := 1 }

end Micboard.ShureWebsocket
