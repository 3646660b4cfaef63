import Switchboard.Timer.Backoff
import Switchboard.Timer.Agenda

/-!
# Timers with a clock

A timer slot or a backoff timer together with the clock that makes its firings.  Cancelling or
arming again takes back a firing that is still on the agenda; an accepted firing is not taken back,
since it is no longer the slot's.

Main definitions

* `ClockedSlot`, `ClockedBackoff`: a timer, the time and the agenda of its firings;
* their operations, each with the firings that it lets happen.
-/

set_option autoImplicit false

namespace Switchboard

/-- Firings: the time and the generation of each. -/
abbrev Firings : Type := List (Nat × Nat)

/-- The time, and the firings to come. -/
structure FiringClock where
  now : Nat
  agenda : Agenda Nat
  deriving Inhabited

namespace FiringClock

/-- Nothing is to fire. -/
def new : FiringClock := ⟨0, .empty⟩

/-- Takes back the firing of an armed slot. -/
def withdraw (c : FiringClock) (s : TimerSlot) : FiringClock :=
  if s.armed then { c with agenda := c.agenda.drop (· == s.generation) } else c

/-- Enters the firing of a slot that was armed just now. -/
def enter (c : FiringClock) (s : TimerSlot) (delay : Nat) : FiringClock :=
  { c with agenda := c.agenda.add (c.now + delay) s.generation }

/-- Lets what is due happen. -/
def settle (c : FiringClock) : Firings × FiringClock :=
  let (fired, agenda) := c.agenda.takeDue c.now
  (fired, { c with agenda })

/-- Moves the time on. -/
def advance (c : FiringClock) (ms : Nat) : FiringClock := { c with now := c.now + ms }

end FiringClock

/-- A timer slot with its clock. -/
structure ClockedSlot where
  slot : TimerSlot
  clock : FiringClock
  deriving Inhabited

namespace ClockedSlot

/-- A slot that was never armed, at time zero. -/
def new : ClockedSlot := ⟨.new, .new⟩

/-- Arms the slot to fire after a delay. -/
def arm (t : ClockedSlot) (delay : Nat) : ClockedSlot :=
  ⟨t.slot.arm, (t.clock.withdraw t.slot).enter t.slot.arm delay⟩

/-- Disarms the slot. -/
def cancel (t : ClockedSlot) : ClockedSlot := ⟨t.slot.cancel, t.clock.withdraw t.slot⟩

/-- Claims a firing; nothing if it is stale. -/
def accept (t : ClockedSlot) (generation : Nat) : Option ClockedSlot :=
  (t.slot.accept generation).map fun slot => { t with slot }

/-- Moves the time on. -/
def advance (t : ClockedSlot) (ms : Nat) : ClockedSlot := { t with clock := t.clock.advance ms }

/-- Lets what is due happen. -/
def settle (t : ClockedSlot) : Firings × ClockedSlot :=
  let (fired, clock) := t.clock.settle
  (fired, { t with clock })

end ClockedSlot

/-- A backoff timer with its clock. -/
structure ClockedBackoff where
  timer : BackoffTimer
  backoff : Backoff
  clock : FiringClock
  deriving Inhabited

namespace ClockedBackoff

/-- No attempts, at time zero. -/
def new (backoff : Backoff) : ClockedBackoff := ⟨.new, backoff, .new⟩

/-- Arms the next attempt. -/
def schedule (t : ClockedBackoff) : ClockedBackoff :=
  { t with
    timer := t.timer.schedule
    clock := (t.clock.withdraw t.timer.slot).enter t.timer.schedule.slot (t.timer.delay t.backoff) }

/-- Forgets the attempts. -/
def reset (t : ClockedBackoff) : ClockedBackoff :=
  { t with timer := t.timer.reset, clock := t.clock.withdraw t.timer.slot }

/-- Claims a firing; nothing if it is stale. -/
def fire (t : ClockedBackoff) (generation : Nat) : Option ClockedBackoff :=
  (t.timer.fire generation).map fun timer => { t with timer }

/-- Moves the time on. -/
def advance (t : ClockedBackoff) (ms : Nat) : ClockedBackoff :=
  { t with clock := t.clock.advance ms }

/-- Lets what is due happen. -/
def settle (t : ClockedBackoff) : Firings × ClockedBackoff :=
  let (fired, clock) := t.clock.settle
  (fired, { t with clock })

end ClockedBackoff

end Switchboard
