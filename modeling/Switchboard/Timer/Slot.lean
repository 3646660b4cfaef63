/-!
# Timer slots

A slot holds at most one armed timer.  Each arming, cancelling and accepted firing advances the
generation of the slot, so a firing that was queued before the slot changed carries a generation
that is refused.

Main definitions

* `TimerSlot`: a generation and whether a timer is armed;
* `TimerSlot.arm`, `TimerSlot.cancel`, `TimerSlot.accept`.

Main results

* `TimerSlot.accept_eq_some_iff`: a firing is accepted just if the slot is armed and the firing
  carries the slot's generation.
-/

set_option autoImplicit false

namespace Switchboard

/-- A timer that can be armed again. -/
structure TimerSlot where
  generation : Nat
  armed : Bool
  deriving DecidableEq, Repr, Inhabited

namespace TimerSlot

/-- A slot that was never armed. -/
def new : TimerSlot := ⟨0, false⟩

/-- Disarms the slot. -/
def cancel (s : TimerSlot) : TimerSlot := ⟨s.generation + 1, false⟩

/-- Arms the slot anew; its generation is the one that the firing will carry. -/
def arm (s : TimerSlot) : TimerSlot := { s.cancel with armed := true }

/-- Claims a firing; nothing if the firing is stale. -/
def accept (s : TimerSlot) (generation : Nat) : Option TimerSlot :=
  if s.armed && generation == s.generation then some s.cancel else none

theorem accept_eq_some_iff {s t : TimerSlot} {g : Nat} :
    s.accept g = some t ↔ s.armed = true ∧ g = s.generation ∧ t = s.cancel := by
  unfold accept
  split
  · rename_i h
    simp only [Bool.and_eq_true, beq_iff_eq] at h
    simp [h, eq_comm]
  · rename_i h
    simp only [Bool.and_eq_true, beq_iff_eq] at h
    constructor
    · simp
    · rintro ⟨ha, hg, _⟩
      exact absurd ⟨ha, hg⟩ h

end TimerSlot

end Switchboard
