import Switchboard.Socket.Inbound

/-!
# Steps of a socket

A socket takes one command after another from its queue until it is shut down.

Main definitions

* `Socket.handle`: one command;
* `Socket.awaits`: whether the firing of a timer still means anything;
* `Socket.shutdown`: the end of a socket;
* `Socket.step?`: the next command of the queue.
-/

set_option autoImplicit false

namespace Switchboard.Socket

variable {ω : Type} [Outside ω]

/-- A timer has fired. -/
def timerEvent (s : Socket ω) : TimerEvent → Socket ω
  | .heartbeatDue generation => s.heartbeatDue generation
  | .heartbeatTimeout generation => s.heartbeatTimeoutDue generation
  | .reconnect generation =>
    match s.reconnectTimer.fire generation with
    | some timer => { s with reconnectTimer := timer }.beginTeardown none none .connect
    | none => s
  | .rejoin c generation => s.rejoinTimeout c generation
  | .pushTimeout c p generation => s.pushTimeout c p generation
  | .teardown number generation => s.teardownTimeout number generation

/-- Whether a firing is still awaited: its timer was neither disarmed nor armed anew. -/
def awaits (s : Socket ω) : TimerEvent → Bool
  | .heartbeatDue generation => (s.heartbeatTimer.accept generation).isSome
  | .heartbeatTimeout generation => (s.heartbeatTimeout.accept generation).isSome
  | .reconnect generation => (s.reconnectTimer.fire generation).isSome
  | .rejoin c generation =>
    (s.channels.get? c).any fun ch => (ch.rejoinTimer.fire generation).isSome
  | .pushTimeout c p generation => (s.push? c p).any fun q => (q.timer.accept generation).isSome
  | .teardown number generation =>
    s.teardown.any fun t => t.number == number && (t.slot.accept generation).isSome

/-! ### The end -/

/-- Closes the connection without waiting for it. -/
def abandonConnection (s : Socket ω) : Socket ω :=
  match s.conn with
  | none => s
  | some c =>
    let s := { s with conn := none }.detach c.transport
    s.performAll [.close c.transport (some CloseEvent.normalCode) none, .release c.transport]

/-- Gives up a retired transport. -/
def abandonRetired (s : Socket ω) (c : Connection) : Socket ω :=
  (s.detach c.transport).perform (.release c.transport)

/-- Ends the socket: the connection is closed, all is forgotten, and no more commands are taken. -/
def shutdown (s : Socket ω) : Socket ω :=
  let s := { s with teardown := none }.clearHeartbeats.resetReconnect.abandonConnection
  -- Retired transports were asked to close before.
  let s := s.retired.foldl abandonRetired { s with retired := [] }
  { s with channels := .empty, order := [], exchange := s.exchange.shut }

/-! ### Commands -/

/-- What happens after a disconnect that someone waits for, or nobody. -/
def continuationOf : Option Ticket → Continuation
  | some ticket => .notify ticket
  | none => .nothing

/-- Carries a command out. -/
def handle (s : Socket ω) : Command → Socket ω
  | .connect => s.connect
  | .disconnect code reason done => s.disconnect code reason (continuationOf done)
  | .replaceTransport factory => s.replaceTransport factory
  | .pause => s.pause
  | .resume => s.resume
  | .register occasion ref callback =>
    { s with callbacks := s.callbacks.register occasion ref callback }
  | .off refs => s.off refs
  | .ping ticket => s.ping ticket
  | .askReadyState ticket => s.perform (.answer ticket (.readyState s.readyState))
  | .askReconnectTries ticket => s.perform (.answer ticket (.count s.reconnectTimer.tries))
  | .askEstablished ticket => s.perform (.answer ticket (.count s.established))
  | .createChannel c topic params => s.createChannel c topic params
  | .channel c op => s.channelOp c op
  | .dropChannel c => s.dropChannel c
  | .transport t event => s.transportEvent t event
  | .timer event => s.timerEvent event
  | .shutdown => s.shutdown

/-- Whether the socket has ended. -/
def hasEnded (s : Socket ω) : Bool := !s.exchange.isOpen

/-- Takes the next command of the queue; nothing if there is none. -/
def step? (s : Socket ω) : Option (Socket ω) :=
  match s.exchange.next? with
  | none => none
  | some (c, exchange) => some ({ s with exchange }.handle c)

end Switchboard.Socket
