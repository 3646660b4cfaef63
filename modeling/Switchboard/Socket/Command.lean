import Switchboard.Config

/-!
# Commands

A socket works through a queue of commands.  Handles, transports and timers put commands into it.
Callbacks, streams and waiting callers live outside of the socket, which knows them by number.

Main definitions

* `TransportEvent`, `TimerEvent`: what transports and timers report;
* `ChannelOp`: what the handle of a channel asks for;
* `Command`: an entry of the queue;
* `Answer`: what a waiting caller is told.
-/

set_option autoImplicit false

namespace Switchboard

/-- The number of a channel of a socket. -/
abbrev ChannelId : Type := Nat

/-- The number of a push of a channel. -/
abbrev PushId : Type := Nat

/-- The number of a binding of a channel. -/
abbrev BindingId : Type := Nat

/-- The number of a transport of a socket. -/
abbrev TransportId : Type := Nat

/-- The number of a callback. -/
abbrev CallbackId : Type := Nat

/-- The number of a stream of events. -/
abbrev StreamId : Type := Nat

/-- The number of a waiting caller. -/
abbrev Ticket : Type := Nat

/-- The join push of each channel. -/
def joinPush : PushId := 0

/-- Something that a transport saw. -/
inductive TransportEvent where
  | opened
  | failed (cause : TransportError)
  | received (frame : Frame)
  | closed (event : CloseEvent)
  deriving DecidableEq, Inhabited

/-- The firing of a timer, with the generation under which it was armed. -/
inductive TimerEvent where
  | heartbeatDue (generation : Nat)
  | heartbeatTimeout (generation : Nat)
  | reconnect (generation : Nat)
  | rejoin (channel : ChannelId) (generation : Nat)
  | pushTimeout (channel : ChannelId) (push : PushId) (generation : Nat)
  | teardown (number generation : Nat)
  deriving DecidableEq, Repr, Inhabited

/-- Where the events of a user's binding go. -/
inductive Listener where
  | callback (callback : CallbackId)
  | stream (stream : StreamId)
  deriving DecidableEq, Repr, Inhabited

/-- What the handle of a channel or a push asks for. -/
inductive ChannelOp where
  | join (timeout : Nat)
  | push (push : PushId) (event : String) (payload : Payload) (timeout : Nat)
  | leave (push : PushId) (timeout : Nat)
  | bind (binding : BindingId) (event : String) (listener : Listener)
  | unbind (event : String) (binding : Option BindingId)
  | setHook (hook : CallbackId)
  | receive (push : PushId) (status : String) (callback : CallbackId)
  | awaitReply (push : PushId) (ticket : Ticket)
  | release (push : PushId)
  | askState (ticket : Ticket)
  | askJoinRef (ticket : Ticket)
  | askRejoinTries (ticket : Ticket)
  deriving Inhabited

/-- The four moments that a socket has callbacks for. -/
inductive Occasion where
  | open
  | close
  | error
  | message
  deriving DecidableEq, Repr, Inhabited

/-- An entry of the queue of a socket. -/
inductive Command where
  | connect
  | disconnect (code : Option Nat) (reason : Option String) (done : Option Ticket)
  | replaceTransport (factory : Factory)
  | pause
  | resume
  | register (occasion : Occasion) (ref : Ref) (callback : CallbackId)
  | off (refs : List Ref)
  | ping (ticket : Ticket)
  | askReadyState (ticket : Ticket)
  | askReconnectTries (ticket : Ticket)
  | askEstablished (ticket : Ticket)
  | createChannel (channel : ChannelId) (topic : String) (params : Params)
  | channel (channel : ChannelId) (op : ChannelOp)
  | dropChannel (channel : ChannelId)
  | transport (transport : TransportId) (event : TransportEvent)
  | timer (event : TimerEvent)
  | shutdown
  deriving Inhabited

/-- What a waiting caller is told. -/
inductive Answer where
  | disconnected
  | latency (ms : Option Nat)
  | reply (channel : ChannelId) (push : PushId) (reply : Reply)
  | readyState (state : ReadyState)
  | count (n : Nat)
  | channelState (state : ChannelState)
  | joinRef (ref : Option Ref)
  deriving Inhabited

end Switchboard
