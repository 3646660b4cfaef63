import Switchboard.Socket.Connect

/-!
# Teardown

A connection is torn down in two parts: the transport sends what it has taken, and then it is asked
to close.  In each part the transport is looked at a limited number of times, at growing intervals;
after that the socket goes on without waiting.  A teardown that begins while another is in flight
takes its place: the continuation of the other is dropped, but whoever waits for it is told when the
new one is done.

Main definitions

* `Socket.beginTeardown`, `Socket.stepTeardown`, `Socket.finishTeardown`;
* `Socket.disconnect`, `Socket.pause`, `Socket.resume`.
-/

set_option autoImplicit false

namespace Switchboard

namespace Teardown

/-- How often the transport is looked at in each part of a teardown. -/
def maxTries : Nat := 5

/-- How long the socket waits after looking at the transport for the n-th time. -/
def pollDelay (tries : Nat) : Nat := 150 * tries

/-- Who waits for a teardown. -/
def callers (t : Teardown) : List Ticket :=
  match t.continuation with
  | .notify ticket => t.waiters ++ [ticket]
  | .connect | .scheduleReconnect | .nothing => t.waiters

end Teardown

namespace Socket

variable {ω : Type}

/-- Looks at the transport again after a delay. -/
def awaitTeardown (s : Socket ω) (t : Teardown) (delay : Nat) : Socket ω :=
  let slot := t.slot.arm
  { s with teardown := some { t with slot := slot } }.arm delay
    (.teardown t.number slot.generation)

variable [Outside ω]

/-- Callers of a disconnect are told that it is done. -/
def notifyAll (s : Socket ω) (tickets : List Ticket) : Socket ω :=
  s.performAll (tickets.map fun ticket => .answer ticket .disconnected)

/--
Goes on after a teardown that began at a time of the connect clock; the socket connects only if
nothing else was asked of it since.
-/
def continueWith (s : Socket ω) (k : Continuation) (clock : Nat) : Socket ω :=
  match k with
  | .connect => if clock = s.connectClock then s.connect else s
  | .scheduleReconnect => if clock = s.connectClock then s.scheduleReconnect else s
  | .notify ticket => s.perform (.answer ticket .disconnected)
  | .nothing => s

/-- Whether the connection has sent all that it took. -/
def hasDrained (s : Socket ω) : Bool :=
  match s.conn with
  | some c => Outside.buffered s.outside c.transport = 0
  | none => true

/-- Whether the connection has closed. -/
def hasClosed (s : Socket ω) : Bool := s.readyState == .closed

/-- Asks the transport of the connection to close; a reason goes only with a code. -/
def closeConnection (s : Socket ω) (code : Option Nat) (reason : Option String) : Socket ω :=
  match s.conn with
  | none => s
  | some c => s.perform (.close c.transport code (code.map fun _ => reason.getD ""))

/-- The connection is given up. -/
def dropConnection (s : Socket ω) : Socket ω :=
  match s.conn with
  | none => s
  | some c => ({ s with conn := none }.detach c.transport).perform (.release c.transport)

/-- The teardown is over: the connection is given up, and the socket goes on. -/
def finishTeardown (s : Socket ω) (t : Teardown) : Socket ω :=
  (({ s with teardown := none }.dropConnection).notifyAll t.waiters).continueWith t.continuation
    t.clock

/--
Looks at the transport.  The close that the transport reports in turn comes to the queue before the
next look.
-/
def stepTeardown (s : Socket ω) (t : Teardown) : Socket ω :=
  match t.phase with
  | .drainBuffer =>
    if t.tries < Teardown.maxTries && !s.hasDrained then
      s.awaitTeardown { t with tries := t.tries + 1 } (Teardown.pollDelay t.tries)
    else
      -- The next look is armed before the close is asked for.
      (s.awaitTeardown { t with phase := .awaitClosed, tries := 1 } 0).closeConnection t.code
        t.reason
  | .awaitClosed =>
    if t.tries < Teardown.maxTries && !s.hasClosed then
      s.awaitTeardown { t with tries := t.tries + 1 } (Teardown.pollDelay t.tries)
    else s.finishTeardown t

/-- It is time to look at the transport. -/
def teardownTimeout (s : Socket ω) (number generation : Nat) : Socket ω :=
  match s.teardown with
  | none => s
  | some t =>
    if t.number = number then
      match t.slot.accept generation with
      | some slot => { s with teardown := some { t with slot := slot } }.stepTeardown
          { t with slot := slot }
      | none => s
    else s

/-- The callers of the teardown in flight, if there is one. -/
def teardownCallers (s : Socket ω) : List Ticket :=
  match s.teardown with
  | some t => t.callers
  | none => []

/-- Tears the connection down and goes on; without a connection the socket goes on at once. -/
def beginTeardown (s : Socket ω) (code : Option Nat) (reason : Option String)
    (k : Continuation) : Socket ω :=
  -- Whoever waits for the teardown in flight waits for this one from now on.
  let waiters := s.teardownCallers
  let s := { s with teardown := none }
  if s.conn.isNone then (s.notifyAll waiters).continueWith k s.connectClock
  else
    let t : Teardown :=
      ⟨s.nextTeardown, s.connectClock, code, reason, k, waiters, .drainBuffer, 1, .new⟩
    { s with teardown := some t, nextTeardown := s.nextTeardown + 1 }.stepTeardown t

/-! ### Disconnecting -/

/-- Closes the connection and gives up connecting. -/
def disconnect (s : Socket ω) (code : Option Nat) (reason : Option String)
    (k : Continuation) : Socket ω :=
  { s.tick.resetReconnect with closeWasClean := true }.beginTeardown code reason k

/-- Disconnects for a while. -/
def pause (s : Socket ω) : Socket ω :=
  if s.conn.isSome then
    let s := s.disconnect none none .nothing
    { s with awaitingResume := some s.connectClock }
  else s

/-- Connects after a pause, if nothing else was asked of the socket since. -/
def resume (s : Socket ω) : Socket ω :=
  if s.awaitingResume = some s.connectClock then { s with awaitingResume := none }.connect else s

end Socket

end Switchboard
