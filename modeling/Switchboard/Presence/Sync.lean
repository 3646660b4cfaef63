import Switchboard.Presence.Entry

/-!
# Keeping presence current

A snapshot replaces a state and a diff changes it.  Each change of a key is noticed: a join with
the entry before it and the entry that came, a leave with the entry after it and the entry that
went.

Main definitions

* `PresenceChange`: what is noticed;
* `syncDiff`: applies a diff, joins first;
* `syncState`: turns a snapshot into a diff and applies it.
-/

set_option autoImplicit false

namespace Switchboard

/-- A notice about one key. -/
inductive PresenceChange where
  | join (key : String) (before : Option PresenceEntry) (joined : PresenceEntry)
  | leave (key : String) (after left : PresenceEntry)
  deriving Inhabited

namespace PresenceState

/-- The entry of a key after a join: the connections that the join does not name, then its own. -/
def joinedEntry (before : Option PresenceEntry) (joined : PresenceEntry) : PresenceEntry :=
  match before with
  | none => joined
  | some e => { joined with metas := withoutRefs e.metas joined.refs ++ joined.metas }

/-- Joins a key. -/
def join (state : PresenceState) (key : String) (joined : PresenceEntry) :
    PresenceState × PresenceChange :=
  let before := state.get? key
  (state.insert key (joinedEntry before joined), .join key before joined)

/-- The entry of a key after a leave: the connections that the leave does not name. -/
def leftEntry (entry left : PresenceEntry) : PresenceEntry :=
  { entry with metas := withoutRefs entry.metas left.refs }

/-- Leaves a key; the key goes with its last connection, and a key that is absent is left alone. -/
def leave (state : PresenceState) (key : String) (left : PresenceEntry) :
    PresenceState × List PresenceChange :=
  match state.get? key with
  | none => (state, [])
  | some entry =>
    let after := leftEntry entry left
    (if after.metas.isEmpty then state.erase key else state.insert key after,
      [.leave key after left])

/-- Joins keys one after another. -/
def joinAll (state : PresenceState) : PresenceState → PresenceState × List PresenceChange
  | [] => (state, [])
  | (key, joined) :: rest =>
    let (state, change) := state.join key joined
    let (state, changes) := joinAll state rest
    (state, change :: changes)

/-- Leaves keys one after another. -/
def leaveAll (state : PresenceState) : PresenceState → PresenceState × List PresenceChange
  | [] => (state, [])
  | (key, left) :: rest =>
    let (state, noticed) := state.leave key left
    let (state, changes) := leaveAll state rest
    (state, noticed ++ changes)

end PresenceState

/-- Applies a diff: all joins in key order, then all leaves in key order. -/
def syncDiff (state : PresenceState) (diff : PresenceDiff) :
    PresenceState × List PresenceChange :=
  let (state, joins) := state.joinAll diff.joins
  let (state, leaves) := state.leaveAll diff.leaves
  (state, joins ++ leaves)

namespace PresenceState

/-- What joins at a key that a snapshot lists: all of a new key, else the unknown connections. -/
def arrival? (current : PresenceState) (key : String) (incoming : PresenceEntry) :
    Option (String × PresenceEntry) :=
  match current.get? key with
  | none => some (key, incoming)
  | some existing =>
    let joined := withoutRefs incoming.metas existing.refs
    if joined.isEmpty then none else some (key, { incoming with metas := joined })

/-- What leaves at a known key: all of it if the snapshot lacks it, else the missing connections. -/
def departure? (snapshot : PresenceState) (key : String) (existing : PresenceEntry) :
    Option (String × PresenceEntry) :=
  match snapshot.get? key with
  | none => some (key, existing)
  | some incoming =>
    let left := withoutRefs existing.metas incoming.refs
    if left.isEmpty then none else some (key, { existing with metas := left })

/-- The diff that leads from a state to a snapshot. -/
def diffTo (current snapshot : PresenceState) : PresenceDiff where
  joins := snapshot.filterMap fun p => current.arrival? p.1 p.2
  leaves := current.filterMap fun p => snapshot.departure? p.1 p.2

end PresenceState

/-- Turns a state into a snapshot. -/
def syncState (current snapshot : PresenceState) : PresenceState × List PresenceChange :=
  syncDiff current (current.diffTo snapshot)

end Switchboard
