import Switchboard.Json.Printer

/-!
# Presence entries

Who is present on a topic: each key has an entry that lists one record, a meta, for each of its
connections.  A meta names its connection by its `phx_ref`.

Main definitions

* `PresenceEntry`, `PresenceState`, `PresenceDiff`;
* `phxRef?`, `withoutRefs`: connections by name;
* `PresenceEntry.ofJson?`, `PresenceState.ofJson?`, `PresenceDiff.ofJson?`: reading.
-/

set_option autoImplicit false

namespace Switchboard

/-- The connections of one key, and the members that stand beside them. -/
structure PresenceEntry where
  metas : List Json
  extra : Members
  deriving Inhabited

/-- Entries in the order of their keys. -/
abbrev PresenceState : Type := List (String × PresenceEntry)

/-- The connections that came and those that went. -/
structure PresenceDiff where
  joins : PresenceState
  leaves : PresenceState
  deriving Inhabited

/-- The name of the connection that a meta describes. -/
def phxRef? (record : Json) : Option Json := record.get? "phx_ref"

/-- Whether a name is among others. -/
def isListed (ref : Json) (refs : List Json) : Bool := refs.any (ref.same ·)

/-- The metas whose connection is not among the named ones; a meta without a name stays. -/
def withoutRefs (metas : List Json) (refs : List Json) : List Json :=
  metas.filter fun record =>
    match phxRef? record with
    | none => true
    | some ref => !isListed ref refs

namespace PresenceEntry

/-- An entry with nothing beside its metas. -/
def ofMetas (metas : List Json) : PresenceEntry := ⟨metas, []⟩

/-- The names of the connections of an entry. -/
def refs (e : PresenceEntry) : List Json := e.metas.filterMap phxRef?

/-- Reads an object; `metas` must be an array and may be missing. -/
def ofJson? : Json → Option PresenceEntry
  | .object members =>
    match Members.get? members "metas" with
    | none => some ⟨[], members⟩
    | some (.array metas) => some ⟨metas, Members.erase members "metas"⟩
    | some _ => none
  | _ => none

/-- The entry as an object. -/
def toJson (e : PresenceEntry) : Json := .object (Members.insert "metas" (.array e.metas) e.extra)

end PresenceEntry

namespace PresenceState

/-- The entry of a key. -/
def get? (state : PresenceState) (key : String) : Option PresenceEntry :=
  match state with
  | [] => none
  | (k, e) :: rest => if key = k then some e else get? rest key

/-- Puts an entry in its place, in front of the first greater key; the newer entry wins. -/
def insert (key : String) (entry : PresenceEntry) : PresenceState → PresenceState
  | [] => [(key, entry)]
  | (k, e) :: rest =>
    if key < k then (key, entry) :: (k, e) :: rest
    else if key = k then (key, entry) :: rest
    else (k, e) :: insert key entry rest

/-- The state without a key. -/
def erase (state : PresenceState) (key : String) : PresenceState :=
  state.filter fun p => p.1 ≠ key

/-- Reads an object of entries. -/
def ofJson? : Json → Option PresenceState
  | .object members => members.mapM fun p => (PresenceEntry.ofJson? p.2).map fun e => (p.1, e)
  | _ => none

/-- The state as an object. -/
def toJson (state : PresenceState) : Json := .object (state.map fun p => (p.1, p.2.toJson))

end PresenceState

namespace PresenceDiff

/-- A side that may be missing. -/
def sideOf? : Option Json → Option PresenceState
  | none => some []
  | some v => PresenceState.ofJson? v

/-- Reads an object with `joins` and `leaves`, or an array of at most these two. -/
def ofJson? : Json → Option PresenceDiff
  | .object members => do
    let joins ← sideOf? (Members.get? members "joins")
    let leaves ← sideOf? (Members.get? members "leaves")
    return ⟨joins, leaves⟩
  | .array items =>
    if 2 < items.length then none
    else do
      let joins ← sideOf? items[0]?
      let leaves ← sideOf? items[1]?
      return ⟨joins, leaves⟩
  | _ => none

end PresenceDiff

end Switchboard
