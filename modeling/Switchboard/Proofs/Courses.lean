import Switchboard.Proofs.Scripts
import Switchboard.Proofs.Watched

/-!
# Courses

A course is a run of a socket together with the commands that it has carried out.  What surrounds the
socket may act in between, as far as that is allowed.

Main definitions

* `Socket.Course`;
* `Socket.follow?`: a script is played, and the commands that are taken are kept.

Main results

* `Socket.course_of_follow?`: a script that can be played is a course.
-/

set_option autoImplicit false

namespace Switchboard

namespace Socket

variable {ω : Type} [Outside ω]

/-! ### Courses -/

/-- A socket goes through commands one after another; the surroundings change what they share with it,
and themselves, as far as that is allowed. -/
inductive Course (allows : Socket ω → Exchange → ω → Prop) (s : Socket ω) :
    List Command → Socket ω → Prop
  | start : Course allows s [] s
  | surroundings {cmds : List Command} {t : Socket ω} {x : Exchange} {o : ω}
    (before : Course allows s cmds t) (allowed : allows t x o) :
    Course allows s cmds { t with exchange := x, outside := o }
  /-- The socket takes the first command of its queue. -/
  | take {cmds : List Command} {t : Socket ω} {cmd : Command} {x : Exchange}
    (before : Course allows s cmds t) (next : t.exchange.next? = some (cmd, x)) :
    Course allows s (cmds ++ [cmd]) ({ t with exchange := x }.handle cmd)
  /-- The socket is given up. -/
  | abandon {cmds : List Command} {t : Socket ω} (before : Course allows s cmds t) :
    Course allows s (cmds ++ [.shutdown]) t.shutdown

variable {allows : Socket ω → Exchange → ω → Prop} {s t : Socket ω} {cmds : List Command}

/-! ### Scripts -/

/-- Plays a script in which acts pass a test; gives back the commands that were taken, and what has
become of the socket. -/
def follow? (test : Exchange → Exchange → Bool) (become : Idle → ω → ω) :
    List Deed → Socket ω → Option (List Command × Socket ω)
  | [], s => some ([], s)
  | .acts f _ :: rest, s =>
    if test s.exchange (f s.exchange) then follow? test become rest { s with exchange := f s.exchange }
    else none
  | .become o :: rest, s => follow? test become rest { s with outside := become o s.outside }
  | .take :: rest, s =>
    match s.exchange.next? with
    | none => none
    | some (cmd, x) =>
      (follow? test become rest ({ s with exchange := x }.handle cmd)).map fun r => (cmd :: r.1, r.2)

theorem Course.trans {u : Socket ω} {cmds' : List Command} (h : Course allows s cmds t)
    (h' : Course allows t cmds' u) : Course allows s (cmds ++ cmds') u := by
  induction h' with
  | start => rwa [List.append_nil]
  | surroundings before allowed ih => exact .surroundings ih allowed
  | take before next ih =>
    rw [← List.append_assoc]
    exact .take ih next
  | abandon before ih =>
    rw [← List.append_assoc]
    exact .abandon ih

/-- A script that can be played is a course. -/
theorem course_of_follow? {test : Exchange → Exchange → Bool} {become : Idle → ω → ω}
    (acts : ∀ {s : Socket ω} {x}, s.exchange.Acts x → test s.exchange x = true → allows s x s.outside)
    (becomes : ∀ (s : Socket ω) (o : Idle), allows s s.exchange (become o s.outside))
    {deeds : List Deed} (h : s.follow? test become deeds = some (cmds, t)) :
    Course allows s cmds t := by
  induction deeds generalizing s cmds with
  | nil =>
    cases h
    exact .start
  | cons deed rest ih =>
    cases deed with
    | acts f lawful =>
      simp only [follow?] at h
      split at h
      · rename_i hpass
        exact Course.trans (.surroundings .start (acts (lawful s.exchange) hpass)) (ih h)
      · cases h
    | become o => exact Course.trans (.surroundings .start (becomes s o)) (ih h)
    | take =>
      simp only [follow?] at h
      split at h
      · cases h
      · rename_i cmd x hnext
        obtain ⟨⟨cmds', t'⟩, hrest, heq⟩ := Option.map_eq_some_iff.mp h
        cases heq
        exact Course.trans (.take .start hnext) (ih hrest)

/-- All acts. -/
def anyhow (_ _ : Exchange) : Bool := true

/-- A socket before a script is played, in surroundings that are watched. -/
def watched : Socket (Watched Idle) :=
  .new "ws://example.test/socket" .standard ⟨0, "standard", false, false⟩ ⟨⟨.connecting, 0⟩, []⟩

/-- Watched surroundings become others; what they were asked stays. -/
def watching (o : Idle) (w : Watched Idle) : Watched Idle := ⟨o, w.calls⟩

end Socket

end Switchboard
