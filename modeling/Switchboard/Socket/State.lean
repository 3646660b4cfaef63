import Switchboard.Channel.Core
import Switchboard.Socket.Outside

/-!
# Sockets

The state of a socket: its connection, its channels, the messages that wait for a connection, the
registered callbacks, and the timers of heartbeats and reconnection.

Main definitions

* `Connection`, `Teardown`, `Callbacks`;
* `Socket`, `Socket.new`;
* `Socket.perform`, `Socket.performAll`: acting on the outside;
* `Socket.readyState`, `Socket.isConnected`.
-/

set_option autoImplicit false

namespace Switchboard

/-! ### Connections -/

/-- A transport that the socket holds. -/
structure Connection where
  transport : TransportId
  serializer : Serializer
  /-- The transport needs no signs of life. -/
  skipHeartbeat : Bool

/-- What is done when a connection has been torn down. -/
inductive Continuation where
  | connect
  | scheduleReconnect
  | notify (ticket : Ticket)
  | nothing
  deriving DecidableEq, Repr, Inhabited

/-- The two parts of a teardown. -/
inductive TeardownPhase where
  /-- The transport sends what it has taken. -/
  | drainBuffer
  /-- The transport was asked to close. -/
  | awaitClosed
  deriving DecidableEq, Repr, Inhabited

/-- A teardown in flight. -/
structure Teardown where
  number : Nat
  /-- The connect clock when the teardown began. -/
  clock : Nat
  code : Option Nat
  reason : Option String
  continuation : Continuation
  /-- Callers of teardowns that this one took the place of. -/
  waiters : List Ticket
  phase : TeardownPhase
  tries : Nat
  slot : TimerSlot
  deriving DecidableEq, Repr, Inhabited

/-! ### Callbacks -/

/-- What happens when a connection is open. -/
inductive OnOpen where
  | callback (callback : CallbackId)
  /-- A failed channel joins again. -/
  | rejoin (channel : ChannelId)
  deriving DecidableEq, Repr, Inhabited

/-- What happens when a transport fails. -/
inductive OnError where
  | callback (callback : CallbackId)
  /-- A channel stops trying to join. -/
  | resetRejoin (channel : ChannelId)
  deriving DecidableEq, Repr, Inhabited

/-- What happens when a message has come. -/
inductive OnMessage where
  | callback (callback : CallbackId)
  /-- The caller of a ping waits for the message with its ref. -/
  | ping (ref : Ref) (started : Nat) (ticket : Ticket)
  deriving DecidableEq, Repr, Inhabited

/-- Entries by ref, in the order of registration. -/
abbrev Registry (α : Type) : Type := List (Ref × α)

namespace Registry

variable {α : Type}

/-- The entry of a ref. -/
def find? (r : Registry α) (ref : Ref) : Option α :=
  (List.find? (fun e => e.1 == ref) r).map (·.2)

/-- The entries without those of some refs. -/
def without (r : Registry α) (refs : List Ref) : Registry α :=
  List.filter (fun e => !refs.contains e.1) r

/-- The refs, in the order of registration. -/
def refs (r : Registry α) : List Ref := List.map (·.1) r

end Registry

/-- The registered callbacks of a socket. -/
structure Callbacks where
  onOpen : Registry OnOpen
  onClose : Registry CallbackId
  onError : Registry OnError
  onMessage : Registry OnMessage
  deriving Inhabited

namespace Callbacks

/-- No callbacks. -/
def empty : Callbacks := ⟨[], [], [], []⟩

/-- Adds a user's callback. -/
def register (c : Callbacks) (occasion : Occasion) (ref : Ref) (callback : CallbackId) :
    Callbacks :=
  match occasion with
  | .open => { c with onOpen := c.onOpen ++ [(ref, .callback callback)] }
  | .close => { c with onClose := c.onClose ++ [(ref, callback)] }
  | .error => { c with onError := c.onError ++ [(ref, .callback callback)] }
  | .message => { c with onMessage := c.onMessage ++ [(ref, .callback callback)] }

/-- Removes refs from all occasions. -/
def without (c : Callbacks) (refs : List Ref) : Callbacks :=
  ⟨c.onOpen.without refs, c.onClose.without refs, c.onError.without refs, c.onMessage.without refs⟩

/-- The caller of a ping among some refs. -/
def pingAmong? (refs : List Ref) (entry : Ref × OnMessage) : Option Ticket :=
  match entry.2 with
  | .ping _ _ ticket => if refs.contains entry.1 then some ticket else none
  | .callback _ => none

/-- The callers of pings among some refs. -/
def pingsOf (c : Callbacks) (refs : List Ref) : List Ticket :=
  List.filterMap (pingAmong? refs) c.onMessage

end Callbacks

/-! ### Sockets -/

/-- A socket in its surroundings. -/
structure Socket (ω : Type) where
  /-- The endpoint with the path of the websocket. -/
  endpoint : String
  config : Config
  factory : Factory
  conn : Option Connection
  /-- Transports that were replaced and are still closing. -/
  retired : List Connection
  nextTransport : TransportId
  channels : Table Channel
  /-- The registered channels in the order of registration, which is the order of dispatch. -/
  order : List ChannelId
  /-- Messages that wait for a connection. -/
  sendBuffer : List Message
  callbacks : Callbacks
  closeWasClean : Bool
  /-- How many connections were open. -/
  established : Nat
  /-- Counts connects, disconnects and replacements. -/
  connectClock : Nat
  /-- The connect clock of a pause that was not resumed. -/
  awaitingResume : Option Nat
  heartbeatTimer : TimerSlot
  heartbeatTimeout : TimerSlot
  pendingHeartbeat : Option Ref
  reconnectTimer : BackoffTimer
  teardown : Option Teardown
  nextTeardown : Nat
  exchange : Exchange
  outside : ω

namespace Socket

variable {ω : Type}

/-- A socket that was not asked to connect. -/
def new (endpoint : String) (config : Config) (factory : Factory) (outside : ω) : Socket ω where
  endpoint := websocketEndpoint endpoint
  config := config
  factory := factory
  conn := none
  retired := []
  nextTransport := 0
  channels := .empty
  order := []
  sendBuffer := []
  callbacks := .empty
  closeWasClean := false
  established := 0
  connectClock := 0
  awaitingResume := none
  heartbeatTimer := .new
  heartbeatTimeout := .new
  pendingHeartbeat := none
  reconnectTimer := .new
  teardown := none
  nextTeardown := 0
  exchange := .new
  outside := outside

/-- A socket needs a transport, and an origin if its endpoint is relative. -/
def create (endpoint : String) (config : Config) (outside : ω) : Except ConfigError (Socket ω) :=
  match config.transport with
  | none => .error .noTransport
  | some factory =>
    if isRelative endpoint && config.origin.isNone then .error (.relativeEndpoint endpoint)
    else .ok (new endpoint config factory outside)

/-! ### The exchange -/

/-- Draws a ref. -/
def drawRef (s : Socket ω) : Ref × Socket ω :=
  let (ref, exchange) := s.exchange.drawRef
  (ref, { s with exchange })

/-- Draws the number of a push of a channel. -/
def drawPush (s : Socket ω) (c : ChannelId) : PushId × Socket ω :=
  let (push, exchange) := s.exchange.drawPush c
  (push, { s with exchange })

/-- Draws the number of a binding of a channel. -/
def drawBinding (s : Socket ω) (c : ChannelId) : BindingId × Socket ω :=
  let (binding, exchange) := s.exchange.drawBinding c
  (binding, { s with exchange })

/-- Lets a timer fire after a delay. -/
def arm (s : Socket ω) (delay : Nat) (event : TimerEvent) : Socket ω :=
  { s with exchange := s.exchange.arm delay event }

/-- Stops listening to a transport. -/
def detach (s : Socket ω) (t : TransportId) : Socket ω :=
  { s with exchange := s.exchange.detach t }

/-! ### Channels -/

/-- Changes a channel, if there is one. -/
def modifyChannel (s : Socket ω) (c : ChannelId) (f : Channel → Channel) : Socket ω :=
  { s with channels := s.channels.modify c f }

/-- Changes a push of a channel, if there is one. -/
def modifyPush (s : Socket ω) (c : ChannelId) (p : PushId) (f : Push → Push) : Socket ω :=
  s.modifyChannel c fun ch => ch.modifyPush p f

/-- A push of a channel. -/
def push? (s : Socket ω) (c : ChannelId) (p : PushId) : Option Push :=
  (s.channels.get? c).bind fun ch => ch.pushes.get? p

/-! ### The outside -/

variable [Outside ω]

/-- An effect happens. -/
def perform (s : Socket ω) (e : Effect) : Socket ω :=
  let (exchange, outside) := Outside.perform e s.exchange s.outside
  { s with exchange, outside }

/-- Effects happen one after another. -/
def performAll (s : Socket ω) (es : List Effect) : Socket ω := es.foldl perform s

/-- How far the connection has got; without one it is closed. -/
def readyState (s : Socket ω) : ReadyState :=
  match s.conn with
  | some c => Outside.readyState s.outside c.transport
  | none => .closed

/-- Whether messages can be sent. -/
def isConnected (s : Socket ω) : Bool := s.readyState == .open

/-- Gives up the retired transports that have closed. -/
def pruneRetired (s : Socket ω) : Socket ω :=
  let isClosed := fun c : Connection => Outside.readyState s.outside c.transport == .closed
  { s with retired := s.retired.filter fun c => !isClosed c }.performAll
    ((s.retired.filter isClosed).map fun c : Connection => Effect.release c.transport)

/-- Removes callbacks; a ping among them will not be answered. -/
def off (s : Socket ω) (refs : List Ref) : Socket ω :=
  { s with callbacks := s.callbacks.without refs }.performAll
    ((s.callbacks.pingsOf refs).map .discard)

end Socket

end Switchboard
