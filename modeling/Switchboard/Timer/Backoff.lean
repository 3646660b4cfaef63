import Switchboard.Timer.Slot
import Switchboard.Json.Number

/-!
# Backoff

A retry waits longer the more attempts were made.  A backoff maps the number of an attempt, from
one, to the delay before it; a backoff timer counts the attempts and holds the slot of the next
one.

Main definitions

* `Backoff`, `Backoff.staged`: delays by attempt;
* `Backoff.reconnect`, `Backoff.rejoin`: the usual delays;
* `BackoffTimer.schedule`, `BackoffTimer.fire`, `BackoffTimer.reset`.

Main results

* `BackoffTimer.fire_eq_some_iff`: an attempt is made just if it is armed and the firing carries the
  present generation.
-/

set_option autoImplicit false

namespace Switchboard

/-- The delay in milliseconds before an attempt; attempts count from one. -/
abbrev Backoff : Type := Nat → Nat

namespace Backoff

/-- The n-th attempt waits the n-th step, any other attempt the ceiling. -/
def staged (steps : List Nat) (ceiling : Nat) : Backoff
  | 0 => ceiling
  | n + 1 => steps[n]?.getD ceiling

/-- The delays of a list; attempts beyond its end wait as long as the last of them. -/
def ofList (delays : List Nat) : Backoff := staged delays (delays.getLastD 0)

/-- The usual delays before a connection is opened again. -/
def reconnect : Backoff := staged [10, 50, 100, 150, 200, 250, 500, 1000, 2000] 5000

/-- The usual delays before a channel is joined again. -/
def rejoin : Backoff := staged [1000, 2000, 5000] 10000

end Backoff

/-- The number at which attempts are no longer counted. -/
def attemptLimit : Nat := 0xFFFFFFFF

/-- The attempt after `tries` attempts. -/
def nextAttempt (tries : Nat) : Nat := min (tries + 1) attemptLimit

/-- Attempts made, and the slot of the next one. -/
structure BackoffTimer where
  tries : Nat
  slot : TimerSlot
  deriving DecidableEq, Repr, Inhabited

namespace BackoffTimer

/-- No attempts, nothing armed. -/
def new : BackoffTimer := ⟨0, .new⟩

/-- Forgets the attempts and disarms the slot. -/
def reset (b : BackoffTimer) : BackoffTimer := ⟨0, b.slot.cancel⟩

/-- Arms the slot for the next attempt. -/
def schedule (b : BackoffTimer) : BackoffTimer := { b with slot := b.slot.arm }

/-- How long the next attempt has to wait. -/
def delay (b : BackoffTimer) (backoff : Backoff) : Nat := backoff (nextAttempt b.tries)

/-- Claims a firing and counts the attempt; nothing if the firing is stale. -/
def fire (b : BackoffTimer) (generation : Nat) : Option BackoffTimer :=
  (b.slot.accept generation).map fun slot => ⟨nextAttempt b.tries, slot⟩

theorem fire_eq_some_iff {b b' : BackoffTimer} {generation : Nat} :
    b.fire generation = some b' ↔ b.slot.armed = true ∧ generation = b.slot.generation ∧
      b' = ⟨nextAttempt b.tries, b.slot.cancel⟩ := by
  unfold fire
  constructor
  · intro h
    obtain ⟨slot, haccept, rfl⟩ := Option.map_eq_some_iff.mp h
    obtain ⟨harmed, hcurrent, rfl⟩ := TimerSlot.accept_eq_some_iff.mp haccept
    exact ⟨harmed, hcurrent, rfl⟩
  · rintro ⟨harmed, hcurrent, rfl⟩
    rw [TimerSlot.accept_eq_some_iff.mpr ⟨harmed, hcurrent, rfl⟩]
    rfl

/-- Whether an attempt is armed. -/
def isPending (b : BackoffTimer) : Bool := b.slot.armed

/-- The timer on one line. -/
def description (b : BackoffTimer) : String :=
  "BackoffTimer \x7b tries: " ++ String.ofList (digitChars b.tries) ++ ", pending: "
    ++ (if b.isPending then "true" else "false") ++ " \x7d"

end BackoffTimer

end Switchboard
