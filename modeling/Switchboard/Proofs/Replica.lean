import Mathlib
import Switchboard.Presence.Tracker
import Switchboard.Proofs.Roster

/-!
# Replicas of a presence

Whoever hears of every change of a presence, in order, can follow its state without ever looking at it.
A join tells the entry before it and the entry that came, so the replica merges the two; a leave tells
the entry that remains, and the key goes if no connection does.  A snapshot or a diff makes its changes
one after another, so it is enough to follow one join and one leave.

Main definitions

* `PresenceReplica`, `PresenceChange.hear`: a replica, and what it makes of a change;
* `PresenceChange.Truthful`: each join tells the entry that the replica has for its key;
* `PresenceState.Follows`: changes that lead a replica from a state to another, and are truthful.

Main results

* `PresenceState.follows_join`, `PresenceState.follows_leave`: one change;
* `PresenceTracker.follows_snapshot`, `PresenceTracker.follows_diff`: what comes to a tracker.
-/

set_option autoImplicit false

namespace Switchboard

/-- What a listener knows: the entry of each key. -/
abbrev PresenceReplica : Type := String → Option PresenceEntry

namespace PresenceChange

variable {r : PresenceReplica} {changes more earlier later : List PresenceChange} {key : String}
variable {before : Option PresenceEntry} {joined : PresenceEntry}

/-- What came, behind the connections from before that it does not name. -/
def mergeEntry (before : Option PresenceEntry) (joined : PresenceEntry) : PresenceEntry :=
  { joined with metas := withoutRefs (before.elim [] (·.metas)) joined.refs ++ joined.metas }

/-- A replica hears of a change. -/
def hear (r : PresenceReplica) : PresenceChange → PresenceReplica
  | .join key before joined => Function.update r key (some (mergeEntry before joined))
  | .leave key after _ => Function.update r key (if after.metas = [] then none else some after)

/-- What a replica knows that hears of changes from the beginning. -/
def replica (changes : List PresenceChange) : PresenceReplica := changes.foldl hear fun _ => none

/-- A join tells the entry that the replica has for its key. -/
def IsTrue (r : PresenceReplica) : PresenceChange → Prop
  | .join key before _ => before = r key
  | .leave .. => True

/-- Every join tells the entry that the replica then has for its key. -/
def Truthful (r : PresenceReplica) : List PresenceChange → Prop
  | [] => True
  | change :: rest => change.IsTrue r ∧ Truthful (change.hear r) rest

theorem truthful_append :
    Truthful r (changes ++ more) ↔ Truthful r changes ∧ Truthful (changes.foldl hear r) more := by
  induction changes generalizing r with
  | nil => simp [Truthful]
  | cons change rest ih => simp [Truthful, ih, and_assoc]

theorem Truthful.before_eq (h : Truthful r (earlier ++ .join key before joined :: later)) :
    before = earlier.foldl hear r key :=
  (truthful_append.1 h).2.1

end PresenceChange

open PresenceChange (hear Truthful)

namespace PresenceState

variable {state middle last : PresenceState} {changes more : List PresenceChange}

/-- Changes that lead a replica from a state to another, and tell the truth; keys stay in order. -/
structure Follows (state last : PresenceState) (changes : List PresenceChange) : Prop where
  replica : changes.foldl hear state.get? = last.get?
  truthful : Truthful state.get? changes
  sorted : state.Sorted → last.Sorted

theorem Follows.refl (state : PresenceState) : Follows state state [] := ⟨rfl, trivial, id⟩

theorem Follows.trans (h : Follows state middle changes) (h' : Follows middle last more) :
    Follows state last (changes ++ more) := by
  refine ⟨?_, ?_, h'.sorted ∘ h.sorted⟩
  · rw [List.foldl_append, h.replica, h'.replica]
  · rw [PresenceChange.truthful_append, h.replica]
    exact ⟨h.truthful, h'.truthful⟩

/-! ### One change -/

theorem joinedEntry_eq (before : Option PresenceEntry) (joined : PresenceEntry) :
    joinedEntry before joined = PresenceChange.mergeEntry before joined := by
  cases before with
  | none => rfl
  | some e => rfl

theorem follows_join (state : PresenceState) (key : String) (joined : PresenceEntry) :
    Follows state (state.join key joined).1 [(state.join key joined).2] := by
  refine ⟨?_, ⟨rfl, trivial⟩, sorted_insert key _⟩
  funext k
  rw [get?_join, joinedEntry_eq]
  exact Function.update_apply ..

theorem sorted_leave (key : String) (left : PresenceEntry) (h : state.Sorted) :
    (state.leave key left).1.Sorted := by
  unfold leave
  split
  · exact h
  · dsimp only
    split_ifs
    · exact sorted_erase key h
    · exact sorted_insert key _ h

theorem follows_leave (state : PresenceState) (key : String) (left : PresenceEntry) :
    Follows state (state.leave key left).1 (state.leave key left).2 := by
  cases hentry : state.get? key with
  | none =>
    rw [leave_of_absent left hentry]
    exact .refl state
  | some entry =>
    have hchanges : (state.leave key left).2 = [.leave key (leftEntry entry left) left] := by
      simp only [leave, hentry]
    rw [hchanges]
    refine ⟨?_, ⟨trivial, trivial⟩, sorted_leave key left⟩
    funext k
    by_cases hk : k = key
    · subst hk
      rw [get?_leave_self left hentry]
      exact Function.update_self ..
    · rw [get?_leave_of_ne state left hk]
      exact Function.update_of_ne hk ..

/-! ### Many changes -/

theorem follows_joinAll (state joins : PresenceState) :
    Follows state (state.joinAll joins).1 (state.joinAll joins).2 := by
  induction joins generalizing state with
  | nil => exact .refl state
  | cons p rest ih => exact (follows_join state p.1 p.2).trans (ih _)

theorem follows_leaveAll (state leaves : PresenceState) :
    Follows state (state.leaveAll leaves).1 (state.leaveAll leaves).2 := by
  induction leaves generalizing state with
  | nil => exact .refl state
  | cons p rest ih => exact (follows_leave state p.1 p.2).trans (ih _)

theorem follows_syncDiff (state : PresenceState) (diff : PresenceDiff) :
    Follows state (syncDiff state diff).1 (syncDiff state diff).2 :=
  (follows_joinAll state diff.joins).trans (follows_leaveAll _ diff.leaves)

end PresenceState

/-! ### Trackers -/

namespace PresenceTracker

open PresenceState

theorem follows_applyAll (state : PresenceState) (diffs : List PresenceDiff) :
    Follows state (applyAll state diffs).1 (applyAll state diffs).2 := by
  induction diffs generalizing state with
  | nil => exact .refl state
  | cons diff rest ih => exact (follows_syncDiff state diff).trans (ih _)

/-- The changes of a snapshot, and of the diffs that waited for it. -/
theorem follows_snapshot (tracker : PresenceTracker) (snapshot : PresenceState)
    (joinRef : Option Ref) :
    Follows tracker.state (tracker.snapshot snapshot joinRef).1.state
      (tracker.snapshot snapshot joinRef).2 :=
  (follows_syncDiff tracker.state (tracker.state.diffTo snapshot)).trans
    (follows_applyAll _ tracker.pending)

/-- The changes of a diff; a diff that waits makes none. -/
theorem follows_diff (tracker : PresenceTracker) (diff : PresenceDiff) (joinRef : Option Ref) :
    Follows tracker.state (tracker.diff diff joinRef).1.state
      ((tracker.diff diff joinRef).2.getD []) := by
  unfold PresenceTracker.diff
  split_ifs
  · exact .refl tracker.state
  · exact follows_syncDiff tracker.state diff

end PresenceTracker

end Switchboard
