import Switchboard.Channel.Core
import Switchboard.Socket.Exchange

/-!
# The outside of a socket

A socket acts on its surroundings by effects, and asks them for the state of transports, for the
payload that a message hook puts in place of another, and for the transport to fall back to.  All
that the surroundings may do in return is to act on the exchange.

Main definitions

* `Sender`, `Effect`: what a socket does to its surroundings, or lets them know;
* `ErrorContext`: what an error callback knows, and the fallback that it chose;
* `Outside`: surroundings of a socket.
-/

set_option autoImplicit false

namespace Switchboard

/-- An event of a channel, as its streams yield it. -/
structure InboundEvent where
  event : String
  payload : Payload
  ref : Option Ref
  joinRef : Option Ref
  deriving Inhabited

/-- A request for a transport. -/
structure OpenRequest where
  transport : TransportId
  factory : Factory
  url : String
  binaryType : BinaryType
  timeout : Nat
  deriving Inhabited

/-- Who sends a message. -/
inductive Sender where
  /-- The socket itself: a sign of life. -/
  | socket
  | push (channel : ChannelId) (push : PushId)
  deriving DecidableEq, Repr, Inhabited

/-- What a socket does to its surroundings, or lets them know. -/
inductive Effect where
  /-- A transport is opened. -/
  | open (request : OpenRequest)
  /-- A frame is handed to a transport. -/
  | send (transport : TransportId) (frame : Frame)
  /-- A transport is asked to close. -/
  | close (transport : TransportId) (code : Option Nat) (reason : Option String)
  /-- A transport is given up. -/
  | release (transport : TransportId)
  /-- A message is accepted for sending, now or later. -/
  | accept (sender : Sender) (message : Message)
  /-- A callback for open connections runs. -/
  | runOpen (callback : CallbackId)
  /-- A callback for closed connections runs. -/
  | runClose (callback : CallbackId) (event : CloseEvent)
  /-- A callback for messages runs. -/
  | runMessage (callback : CallbackId) (message : Message)
  /-- The callback of a binding runs. -/
  | runEvent (callback : CallbackId) (event : InboundEvent)
  /-- A stream yields an event. -/
  | yield (stream : StreamId) (event : InboundEvent)
  /-- What a push has waiting for the status of its reply runs. -/
  | runReply (channel : ChannelId) (push : PushId) (hook : ReplyHook) (reply : Reply)
  /-- A push has its reply, under the ref that it has at that time. -/
  | resolve (channel : ChannelId) (push : PushId) (ref : Option Ref) (reply : Reply)
  /-- A waiting caller is answered. -/
  | answer (ticket : Ticket) (answer : Answer)
  /-- A waiting caller will not be answered. -/
  | discard (ticket : Ticket)
  deriving Inhabited

/-- What an error callback knows, and the transport that it wants the socket to fall back to. -/
structure ErrorContext where
  transport : String
  established : Nat
  fallback : Option Factory
  deriving DecidableEq, Repr, Inhabited

/-- What an error callback knows, on one line. -/
def ErrorContext.description (c : ErrorContext) : String :=
  "ErrorContext \x7b transport: " ++ quoteText c.transport ++ ", established_connections: "
    ++ natText c.established ++ ", fallback: "
    ++ Origin.optionText (c.fallback.map fun f => quoteText f.name) ++ " \x7d"

/-- Surroundings of a socket. -/
class Outside (ω : Type) where
  /-- How far a transport has got. -/
  readyState : ω → TransportId → ReadyState
  /-- How many bytes a transport has taken and not sent. -/
  buffered : ω → TransportId → Nat
  /-- An effect happens. -/
  perform : Effect → Exchange → ω → Exchange × ω
  /-- A message hook sees an event and gives the payload to go on with. -/
  hook : CallbackId → String → Payload → Option Ref → Exchange → ω → Option Payload × Exchange × ω
  /-- An error callback sees a failure. -/
  runError : CallbackId → SocketError → ErrorContext → Exchange → ω → ErrorContext × Exchange × ω

end Switchboard
