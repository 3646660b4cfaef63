import Switchboard.Presence.Sync
import Switchboard.Refs

/-!
# Presence of a channel

A tracker follows the presence of one channel through its joins.  A diff belongs to the snapshot of
the same join: until that snapshot has come, the diff waits.

Main definitions

* `PresenceTracker`: the state, the waiting diffs and the join of the last snapshot;
* `PresenceTracker.snapshot`, `PresenceTracker.diff`: what an event changes, and what is noticed.
-/

set_option autoImplicit false

namespace Switchboard

/-- The presence of a channel. -/
structure PresenceTracker where
  state : PresenceState
  pending : List PresenceDiff
  joinRef : Option Ref
  deriving Inhabited

namespace PresenceTracker

/-- Nobody is known to be present. -/
def new : PresenceTracker := ⟨[], [], none⟩

/-- Whether the snapshot of a join has not come yet. -/
def isAwaiting (t : PresenceTracker) (joinRef : Option Ref) : Bool :=
  t.joinRef.isNone || t.joinRef != joinRef

/-- Applies diffs one after another. -/
def applyAll (state : PresenceState) : List PresenceDiff → PresenceState × List PresenceChange
  | [] => (state, [])
  | diff :: rest =>
    let (state, changes) := syncDiff state diff
    let (state, more) := applyAll state rest
    (state, changes ++ more)

/-- A snapshot came: the state becomes it, and the waiting diffs are applied. -/
def snapshot (t : PresenceTracker) (snapshot : PresenceState) (joinRef : Option Ref) :
    PresenceTracker × List PresenceChange :=
  let (state, changes) := syncState t.state snapshot
  let (state, more) := applyAll state t.pending
  (⟨state, [], joinRef⟩, changes ++ more)

/-- A diff came: it is applied, or waits for its snapshot; nothing is noticed while it waits. -/
def diff (t : PresenceTracker) (diff : PresenceDiff) (joinRef : Option Ref) :
    PresenceTracker × Option (List PresenceChange) :=
  if t.isAwaiting joinRef then ({ t with pending := t.pending ++ [diff] }, none)
  else
    let (state, changes) := syncDiff t.state diff
    ({ t with state }, some changes)

end PresenceTracker

end Switchboard
