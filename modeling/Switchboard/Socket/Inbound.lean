import Switchboard.Socket.Heartbeat

/-!
# What transports report

A transport opens, fails, receives a frame or closes.  Only what the transport of the present
connection reports counts.  Callbacks run in the order of registration; one that is removed
meanwhile is passed over.

Main definitions

* `Socket.connectionOpened`, `Socket.connectionClosed`, `Socket.connectionFailed`;
* `Socket.frameReceived`: a frame is decoded, reaches the channels, and then the callbacks;
* `Socket.transportEvent`.
-/

set_option autoImplicit false

namespace Switchboard.Socket

variable {ω : Type} [Outside ω]

/-! ### Opening -/

/-- Something happens because a connection is open. -/
def runOnOpen (s : Socket ω) (ref : Ref) : Socket ω :=
  match s.callbacks.onOpen.find? ref with
  | some (.callback callback) => s.perform (.runOpen callback)
  | some (.rejoin c) => s.rejoinIfErrored c
  | none => s

/-- The connection is open: waiting messages are sent. -/
def markOpen (s : Socket ω) : Socket ω :=
  let s := { s with
    closeWasClean := false
    established := min (s.established + 1) attemptLimit }
  s.flush.resetReconnect.resetHeartbeat

/-- The connection is open, and failed channels join again. -/
def connectionOpened (s : Socket ω) : Socket ω :=
  let s := s.markOpen
  s.callbacks.onOpen.refs.foldl runOnOpen s

/-! ### Closing -/

/-- A callback runs because a connection has closed. -/
def runOnClose (event : CloseEvent) (s : Socket ω) (ref : Ref) : Socket ω :=
  match s.callbacks.onClose.find? ref with
  | some callback => s.perform (.runClose callback event)
  | none => s

/-- The connection has closed; the socket connects again unless this was wanted. -/
def connectionClosed (s : Socket ω) (event : CloseEvent) : Socket ω :=
  let s := s.triggerErrors.clearHeartbeats
  let s :=
    if !s.closeWasClean && event.code ≠ CloseEvent.normalCode then s.scheduleReconnect else s
  s.callbacks.onClose.refs.foldl (runOnClose event) s

/-! ### Failing -/

/-- Something happens because a transport has failed; a callback may choose a fallback. -/
def runOnError (failure : SocketError) (state : ErrorContext × Socket ω) (ref : Ref) :
    ErrorContext × Socket ω :=
  let (context, s) := state
  match s.callbacks.onError.find? ref with
  | some (.callback callback) => s.runError callback failure context
  | some (.resetRejoin c) => (context, s.resetRejoin c)
  | none => (context, s)

/-- Goes on with the transport that the callbacks chose. -/
def takeFallback (s : Socket ω) (fallback : Option Factory) : Socket ω :=
  match fallback with
  | some factory => (s.replaceTransport factory).connect
  | none => s

/--
The transport has failed.  The channels are told unless the socket falls back to another transport
before any connection was open.
-/
def connectionFailed (s : Socket ω) (cause : TransportError) : Socket ω :=
  let before := s.factory.number
  -- What counts is what was known when the failure came.
  let established := s.established
  let (context, s) := s.callbacks.onError.refs.foldl (runOnError (.transport cause))
    (s.errorContext, s)
  let s := s.takeFallback context.fallback
  if s.factory.number = before || established > 0 then s.triggerErrors else s

/-! ### Receiving -/

/-- A message reaches a channel that it is for. -/
def deliver (m : Message) (s : Socket ω) (c : ChannelId) : Socket ω :=
  if s.isMember c m then s.trigger c m.event m.payload m.ref m.joinRef else s

/-- The caller of a ping is told how long it took; the entry of the ping goes. -/
def finishPing (s : Socket ω) (entry : Ref) (started : Nat) (ticket : Ticket) : Socket ω :=
  let s := s.perform (.answer ticket (.latency (some (s.exchange.now - started))))
  { s with callbacks := s.callbacks.without [entry] }

/-- Something happens because a message has come. -/
def runOnMessage (m : Message) (s : Socket ω) (ref : Ref) : Socket ω :=
  match s.callbacks.onMessage.find? ref with
  | some (.callback callback) => s.perform (.runMessage callback m)
  | some (.ping waited started ticket) =>
    if m.ref = some waited then s.finishPing ref started ticket else s
  | none => s

/-- Whether a message answers the last sign of life. -/
def answersHeartbeat (s : Socket ω) (m : Message) : Bool :=
  m.ref.isSome && m.ref == s.pendingHeartbeat

/-- A message has come. -/
def messageReceived (s : Socket ω) (m : Message) : Socket ω :=
  let s := if s.answersHeartbeat m then s.acknowledgeHeartbeat else s
  -- The channels come first, so that callbacks of the socket see what the message has changed.
  let s := s.order.foldl (deliver m) s
  s.callbacks.onMessage.refs.foldl (runOnMessage m) s

/-- A frame has come; one that cannot be decoded is reported. -/
def frameReceived (s : Socket ω) (serializer : Serializer) (frame : Frame) : Socket ω :=
  match serializer.decode frame with
  | .ok m => s.messageReceived m
  | .error cause => s.report (.protocol ("undecodable frame: " ++ cause.message))

/-! ### Events -/

/-- A transport reports something. -/
def transportEvent (s : Socket ω) (t : TransportId) (event : TransportEvent) : Socket ω :=
  let s := s.pruneRetired
  match s.conn with
  | none => s
  | some conn =>
    if conn.transport = t then
      match event with
      | .opened => s.connectionOpened
      | .failed cause => s.connectionFailed cause
      | .received frame => s.frameReceived conn.serializer frame
      | .closed event => s.connectionClosed event
    else s

end Switchboard.Socket
