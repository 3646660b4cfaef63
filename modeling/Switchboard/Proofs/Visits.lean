import Mathlib
import Switchboard.Proofs.Replica
import Switchboard.Proofs.Snapshots

/-!
# A leave undoes a join

A visit is a set of connections that come with one diff and go with another.  The join puts them behind
the connections that its key has, and the leave takes away what bears one of their names.  When every
visiting connection has a name and no name is one that the key already lists, the join drops nothing
and the leave takes the visitors and nobody else: connections without a name stay through both.  A key
that had no entry has none again, since all of its connections were visitors.

What stands beside the connections is another matter.  A join brings its own and a leave brings nothing
back, so it stays with the key.

Main definitions

* `PresenceState.Visits`: connections that a diff can take back;
* `PresenceState.connections`: the keys of a state with their connections.

Main results

* `PresenceState.get?_join_visit`: the entry of a key while its visitors are there;
* `PresenceState.leave_undoes_join`: keys and connections are the same before and after.
-/

set_option autoImplicit false

namespace Switchboard

variable {metas gone : List Json}

/-- Of two families of names, none of the one is in the other. -/
theorem not_isListed_comm {refs refs' : List Json} (h : ∀ ref ∈ refs, isListed ref refs' = false) :
    ∀ ref ∈ refs', isListed ref refs = false := by
  intro ref' href'
  by_contra hlisted
  obtain ⟨ref, href, hsame⟩ := isListed_iff.1 (Bool.not_eq_false _ ▸ hlisted)
  have hlisted' : isListed ref refs' = true :=
    isListed_iff.2 ⟨ref', href', by rw [Json.same_comm, hsame]⟩
  rw [h ref href] at hlisted'
  cases hlisted'

/-- Nothing goes if none of the names goes. -/
theorem withoutRefs_eq_self (h : ∀ ref ∈ namesOf metas, isListed ref gone = false) :
    withoutRefs metas gone = metas := by
  refine List.filter_eq_self.2 fun record hmem => ?_
  cases hname : phxRef? record with
  | none => rfl
  | some ref => simp [h ref (mem_namesOf.2 ⟨record, hmem, hname⟩)]

theorem withoutRefs_append (metas more gone : List Json) :
    withoutRefs (metas ++ more) gone = withoutRefs metas gone ++ withoutRefs more gone :=
  List.filter_append ..

/-- All connections go that have a name, if their names go. -/
theorem AllNamed.withoutRefs_own (h : AllNamed metas) : withoutRefs metas (namesOf metas) = [] :=
  (h.withoutRefs_eq_nil_iff _).2 fun _ href => isListed_of_mem href

namespace PresenceState

variable {state joins other : PresenceState} {key : String} {entry visitor : PresenceEntry}

/-! ### States by their entries -/

/-- Two states with the same entries are the same. -/
theorem Sorted.ext (h : state.Sorted) (h' : other.Sorted)
    (hget : ∀ key, state.get? key = other.get? key) : state = other := by
  have hmem : ∀ p, p ∈ state ↔ p ∈ other := by
    rintro ⟨key, e⟩
    rw [mem_iff_get? h, mem_iff_get? h', hget]
  have hnodup : ∀ s : PresenceState, s.Sorted → s.Nodup := fun s hs =>
    hs.imp fun hlt heq => (ne_of_lt hlt) (congrArg Prod.fst heq)
  have hperm := (List.perm_ext_iff_of_nodup (hnodup _ h) (hnodup _ h')).2 hmem
  refine hperm.eq_of_pairwise (fun p q _ _ hpq hqp => ?_) h h'
  exact absurd (lt_trans hpq hqp) (lt_irrefl _)

/-- The keys of a state with their connections. -/
def connections (state : PresenceState) : List (String × List Json) :=
  state.map fun p => (p.1, p.2.metas)

/-! ### Visits -/

/-- Connections that come to a state, all with names that their keys do not list yet. -/
structure Visits (state joins : PresenceState) : Prop where
  sorted : joins.Sorted
  named : ∀ p ∈ joins, AllNamed p.2.metas
  fresh : ∀ p ∈ joins, ∀ ref ∈ p.2.refs, ¬ state.Lists p.1 ref

/-- An entry with its visitors behind its connections, and with what they bring beside them. -/
def hosting (entry : Option PresenceEntry) (visitor : PresenceEntry) : PresenceEntry :=
  { visitor with metas := entry.elim [] (·.metas) ++ visitor.metas }

/-- What stands beside the connections of a key after a visit. -/
def keepsake (joins : PresenceState) (key : String) (entry : PresenceEntry) : PresenceEntry :=
  { entry with extra := (joins.get? key).elim entry.extra (·.extra) }

/-- Visitors have none of the names of the entry that they come to. -/
theorem Visits.not_listed (h : Visits state joins) (hvisitor : joins.get? key = some visitor)
    (hentry : state.get? key = some entry) :
    ∀ ref ∈ namesOf entry.metas, isListed ref visitor.refs = false := by
  refine not_isListed_comm fun ref href => ?_
  have hfresh := h.fresh _ (key_of_get? hvisitor) ref href
  rwa [Lists, refsOf_of_some hentry, Bool.not_eq_true] at hfresh

/-- A visit drops nobody. -/
theorem Visits.joinedEntry_eq (h : Visits state joins) (hvisitor : joins.get? key = some visitor) :
    joinedEntry (state.get? key) visitor = hosting (state.get? key) visitor := by
  cases hentry : state.get? key with
  | none => rfl
  | some entry =>
    simp only [joinedEntry, hosting, Option.elim_some,
      withoutRefs_eq_self (h.not_listed hvisitor hentry)]

/-- While the visitors are there they stand behind the connections of their key. -/
theorem get?_join_visit (h : Visits state joins) (key : String) :
    (syncDiff state ⟨joins, []⟩).1.get? key =
      (joins.get? key).elim (state.get? key) fun visitor => some (hosting (state.get? key) visitor) := by
  change (state.joinAll joins).1.get? key = _
  rw [get?_joinAll state h.sorted]
  cases hvisitor : joins.get? key with
  | none => rfl
  | some visitor => exact congrArg some (h.joinedEntry_eq hvisitor)

/-- When the visitors leave, the connections are the ones from before. -/
theorem Visits.metas_leftEntry (h : Visits state joins) (hvisitor : joins.get? key = some visitor) :
    (leftEntry (hosting (state.get? key) visitor) visitor).metas =
      (state.get? key).elim [] (·.metas) := by
  have hown : withoutRefs visitor.metas visitor.refs = [] :=
    (h.named _ (key_of_get? hvisitor)).withoutRefs_own
  have hothers : withoutRefs ((state.get? key).elim [] (·.metas)) visitor.refs =
      (state.get? key).elim [] (·.metas) := by
    cases hentry : state.get? key with
    | none => rfl
    | some entry => exact withoutRefs_eq_self (h.not_listed hvisitor hentry)
  simp only [leftEntry, hosting, withoutRefs_append, hothers, hown, List.append_nil]

/-- After the visit a key has its entry, with what the visit left beside the connections. -/
theorem get?_leave_visit (h : Visits state joins) (hconnected : ∀ p ∈ state, p.2.metas ≠ [])
    (key : String) : (syncDiff (syncDiff state ⟨joins, []⟩).1 ⟨[], joins⟩).1.get? key =
      (state.get? key).map (keepsake joins key) := by
  change ((syncDiff state ⟨joins, []⟩).1.leaveAll joins).1.get? key = _
  rw [get?_leaveAll _ h.sorted, get?_join_visit h]
  cases hvisitor : joins.get? key with
  | none =>
    have hkeep : keepsake joins key = id := by
      funext e
      simp [keepsake, hvisitor]
    rw [hkeep, Option.map_id]
    rfl
  | some visitor =>
    have hmetas := h.metas_leftEntry hvisitor
    simp only [Option.elim_some, Option.bind_some, PresenceEntry.ifConnected, hmetas]
    cases hentry : state.get? key with
    | none => simp
    | some entry =>
      have hfilled : entry.metas ≠ [] := hconnected _ (key_of_get? hentry)
      rw [hentry] at hmetas
      rw [Option.elim_some, if_neg hfilled, Option.map_some]
      simpa [keepsake, hvisitor, leftEntry, hosting] using hmetas

theorem connections_pick_keepsake (state joins : PresenceState) :
    (pick (fun key entry => some (keepsake joins key entry)) state).connections = state.connections := by
  have hmap : pick (fun key entry => some (keepsake joins key entry)) state =
      state.map fun p => (p.1, keepsake joins p.1 p.2) :=
    congrFun List.filterMap_eq_map' state
  rw [hmap, connections, List.map_map]
  rfl

/--
Connections that come with a diff and go with another leave no trace among the connections, if each of
them has a name and its key does not list that name: the keys are those from before, and each has its
connections from before in their order, those without a name included.  Beside the connections stands
what the visitors brought, for the keys that were visited.
-/
theorem leave_undoes_join (state joins : PresenceState) (hstate : state.Sorted)
    (hconnected : ∀ p ∈ state, p.2.metas ≠ []) (h : Visits state joins) :
    (syncDiff (syncDiff state ⟨joins, []⟩).1 ⟨[], joins⟩).1.connections = state.connections ∧
      ∀ key, (syncDiff (syncDiff state ⟨joins, []⟩).1 ⟨[], joins⟩).1.get? key =
        (state.get? key).map fun entry =>
          { entry with extra := (joins.get? key).elim entry.extra (·.extra) } := by
  have hget := get?_leave_visit h hconnected
  refine ⟨?_, hget⟩
  have hsorted : (syncDiff (syncDiff state ⟨joins, []⟩).1 ⟨[], joins⟩).1.Sorted :=
    (follows_syncDiff _ _).sorted ((follows_syncDiff _ _).sorted hstate)
  have hpick : (syncDiff (syncDiff state ⟨joins, []⟩).1 ⟨[], joins⟩).1 =
      pick (fun key entry => some (keepsake joins key entry)) state := by
    refine hsorted.ext (sorted_pick _ hstate) fun key => ?_
    rw [hget, get?_pick _ hstate, Option.map_eq_bind]
    rfl
  rw [hpick, connections_pick_keepsake]

/-- Someone is present with a named and an unnamed connection, and someone else with one. -/
def hosts : PresenceState :=
  [("u1", .ofMetas [.object [("phx_ref", .string "a")], .object []]), ("u2", .connected "c")]

/-- One more connection of the first, and a third who was not there. -/
def guests : PresenceState := [("u1", .connected "b"), ("u3", .connected "d")]

theorem leave_undoes_join_guests :
    hosts.Sorted ∧ (∀ p ∈ hosts, p.2.metas ≠ []) ∧ Visits hosts guests ∧
      (syncDiff hosts ⟨guests, []⟩).1.connections =
        [("u1", [.object [("phx_ref", .string "a")], .object [], .object [("phx_ref", .string "b")]]),
          ("u2", [.object [("phx_ref", .string "c")]]), ("u3", [.object [("phx_ref", .string "d")]])] ∧
      (syncDiff (syncDiff hosts ⟨guests, []⟩).1 ⟨[], guests⟩).1.connections = hosts.connections := by
  have hsorted : hosts.Sorted := List.pairwise_pair.2 (by decide)
  have hconnected : ∀ p ∈ hosts, p.2.metas ≠ [] := by
    simp [hosts, PresenceEntry.ofMetas, PresenceEntry.connected]
  have hvisits : Visits hosts guests := by
    refine ⟨List.pairwise_pair.2 (by decide), ?_, ?_⟩
    · simp [guests, PresenceEntry.ofMetas, PresenceEntry.connected, AllNamed, phxRef?, Json.get?,
        Members.get?]
    · simp only [guests, List.forall_mem_cons, Lists]
      exact ⟨by decide, by decide, by simp⟩
  exact ⟨hsorted, hconnected, hvisits, rfl,
    (leave_undoes_join hosts guests hsorted hconnected hvisits).1⟩

end PresenceState

end Switchboard
