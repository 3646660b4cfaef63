import Switchboard.Socket.Teardown

/-!
# Heartbeats

While a connection is open the socket sends a sign of life at intervals and waits for the reply to
each.  A reply that does not come within the interval means that the connection is lost: it is torn
down, and the socket connects again.  Some transports need no signs of life.

Main definitions

* `Socket.resetHeartbeat`: a connection has just opened;
* `Socket.heartbeatDue`, `Socket.heartbeatTimeout`: the two timers;
* `Socket.acknowledgeHeartbeat`: the reply has come.
-/

set_option autoImplicit false

namespace Switchboard.Socket

variable {ω : Type}

/-- Disarms both timers. -/
def clearHeartbeats (s : Socket ω) : Socket ω :=
  { s with
    heartbeatTimer := s.heartbeatTimer.cancel
    heartbeatTimeout := s.heartbeatTimeout.cancel }

/-- Arms the timer of the next sign of life. -/
def armHeartbeat (s : Socket ω) : Socket ω :=
  let timer := s.heartbeatTimer.arm
  { s with heartbeatTimer := timer }.arm s.config.heartbeatInterval
    (.heartbeatDue timer.generation)

/-- Arms the timer of the reply. -/
def armHeartbeatTimeout (s : Socket ω) : Socket ω :=
  let timer := s.heartbeatTimeout.arm
  { s with heartbeatTimeout := timer }.arm s.config.heartbeatInterval
    (.heartbeatTimeout timer.generation)

/-- Starts over: no reply is awaited, and the next sign of life is due after the interval. -/
def restartHeartbeat (s : Socket ω) : Socket ω :=
  { s with pendingHeartbeat := none }.clearHeartbeats.armHeartbeat

/-- A connection has opened; signs of life start over if its transport needs them. -/
def resetHeartbeat (s : Socket ω) : Socket ω :=
  match s.conn with
  | some c => if c.skipHeartbeat then s else s.restartHeartbeat
  | none => s.restartHeartbeat

/-- The reply to the last sign of life has come. -/
def acknowledgeHeartbeat (s : Socket ω) : Socket ω := s.restartHeartbeat

variable [Outside ω]

/-- Sends a sign of life and awaits its reply. -/
def sendHeartbeat (s : Socket ω) : Socket ω :=
  if s.pendingHeartbeat.isSome && !s.isConnected then s
  else
    let (ref, s) := s.drawRef
    ({ s with pendingHeartbeat := some ref }.pushMessage .socket (.heartbeat ref)).armHeartbeatTimeout

/-- A sign of life is due. -/
def heartbeatDue (s : Socket ω) (generation : Nat) : Socket ω :=
  match s.heartbeatTimer.accept generation with
  | some timer => { s with heartbeatTimer := timer }.sendHeartbeat
  | none => s

/-- The connection is lost. -/
def loseConnection (s : Socket ω) : Socket ω :=
  { { s with pendingHeartbeat := none }.triggerErrors with closeWasClean := false }.beginTeardown
    (some CloseEvent.normalCode) (some "heartbeat timeout") .scheduleReconnect

/-- The reply did not come in time. -/
def heartbeatTimeoutDue (s : Socket ω) (generation : Nat) : Socket ω :=
  match s.heartbeatTimeout.accept generation with
  | none => s
  | some timer =>
    let s := { s with heartbeatTimeout := timer }
    if s.pendingHeartbeat.isSome then s.loseConnection else s

/-- Measures the time that a message takes to the server and back. -/
def ping (s : Socket ω) (ticket : Ticket) : Socket ω :=
  if !s.isConnected then s.perform (.answer ticket (.latency none))
  else
    let (ref, s) := s.drawRef
    -- One ref names the message, another one the entry that waits for its reply.
    let started := s.exchange.now
    let s := s.pushMessage .socket (.heartbeat ref)
    let (entry, s) := s.drawRef
    { s with callbacks := { s.callbacks with
        onMessage := s.callbacks.onMessage ++ [(entry, .ping ref started ticket)] } }

end Switchboard.Socket
