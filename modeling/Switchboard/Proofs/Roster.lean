import Mathlib
import Switchboard.Presence.Sync

/-!
# The keys that are present

A state of presence is a map from keys to entries, kept in the order of the keys.  Joins put entries
in, and leaves take connections out; a key goes with its last connection.  So a key can be present
without any connection in one way only: an entry without metas came for it while it was absent, and
since then nothing has changed it.

Main definitions

* `PresenceState.Sorted`: the keys are in strictly increasing order;
* `PresenceState.Hollow`: a key that is present without any connection;
* `PresenceUpdate`: a snapshot or a diff; `PresenceState.after`: what a list of them leads to.

Main results

* `PresenceState.get?_insert`, `PresenceState.get?_erase`: states as maps;
* `PresenceState.hollow_syncDiff`, `PresenceState.hollow_syncState`: where a hollow key comes from;
* `PresenceState.present_with_connections`: every key that is present has connections, unless an entry
  without metas came.
-/

set_option autoImplicit false

namespace Switchboard

namespace PresenceState

variable {state joins leaves : PresenceState} {key k : String} {entry e : PresenceEntry}

/-! ### States as maps -/

/-- Keys are in strictly increasing order. -/
def Sorted (state : PresenceState) : Prop := state.Pairwise fun p q => p.1 < q.1

@[simp] theorem get?_nil (key : String) : get? [] key = none := rfl

theorem get?_insert (state : PresenceState) (key : String) (entry : PresenceEntry) (k : String) :
    (state.insert key entry).get? k = if k = key then some entry else state.get? k := by
  induction state with
  | nil => simp [insert, get?]
  | cons p rest ih =>
    obtain ⟨l, e⟩ := p
    by_cases hlt : key < l
    · simp [insert, hlt, get?]
    · by_cases heq : key = l
      · subst heq
        by_cases hk : k = key <;> simp [insert, get?, hk]
      · by_cases hk : k = l
        · subst hk
          simp [insert, hlt, heq, get?, Ne.symm heq]
        · simp [insert, hlt, heq, get?, ih, hk]

theorem get?_erase (state : PresenceState) (key k : String) :
    (state.erase key).get? k = if k = key then none else state.get? k := by
  induction state with
  | nil => simp [erase]
  | cons p rest ih =>
    obtain ⟨l, e⟩ := p
    by_cases hl : l = key
    · have herase : erase ((l, e) :: rest) key = erase rest key := by simp [erase, hl]
      rw [herase, ih]
      by_cases hk : k = key
      · simp [hk]
      · simp [hk, get?, hl]
    · have herase : erase ((l, e) :: rest) key = (l, e) :: erase rest key := by simp [erase, hl]
      rw [herase, get?, ih, get?]
      by_cases hk : k = l
      · simp [hk, hl]
      · simp [hk]

theorem mem_insert {p : String × PresenceEntry} (h : p ∈ state.insert key entry) :
    p = (key, entry) ∨ p ∈ state := by
  induction state with
  | nil => simpa [insert] using h
  | cons q rest ih =>
    obtain ⟨l, e⟩ := q
    unfold insert at h
    split_ifs at h
    · simpa using h
    · rcases List.mem_cons.1 h with h | h
      · exact .inl h
      · exact .inr (List.mem_cons_of_mem _ h)
    · rcases List.mem_cons.1 h with rfl | h
      · exact .inr List.mem_cons_self
      · exact (ih h).imp_right (List.mem_cons_of_mem _)

theorem sorted_insert (key : String) (entry : PresenceEntry) (h : state.Sorted) :
    (state.insert key entry).Sorted := by
  induction state with
  | nil => simp [insert, Sorted]
  | cons q rest ih =>
    obtain ⟨l, e⟩ := q
    obtain ⟨hhead, hrest⟩ := List.pairwise_cons.1 h
    unfold insert
    split_ifs with hlt heq
    · refine List.pairwise_cons.2 ⟨fun p hp => ?_, h⟩
      rcases List.mem_cons.1 hp with rfl | hp
      · exact hlt
      · exact String.lt_trans hlt (hhead p hp)
    · subst heq
      exact List.pairwise_cons.2 ⟨hhead, hrest⟩
    · have hgt : l < key := lt_of_le_of_ne (not_lt.1 hlt) (Ne.symm heq)
      refine List.pairwise_cons.2 ⟨fun p hp => ?_, ih hrest⟩
      rcases mem_insert hp with rfl | hp
      · exact hgt
      · exact hhead p hp

theorem sorted_erase (key : String) (h : state.Sorted) : (state.erase key).Sorted :=
  List.Pairwise.filter _ h

/-! ### Joins and leaves -/

theorem get?_join (state : PresenceState) (key : String) (joined : PresenceEntry) (k : String) :
    (state.join key joined).1.get? k =
      if k = key then some (joinedEntry (state.get? key) joined) else state.get? k :=
  get?_insert ..

theorem get?_leave_of_ne (state : PresenceState) (left : PresenceEntry) (h : k ≠ key) :
    (state.leave key left).1.get? k = state.get? k := by
  unfold leave
  split
  · rfl
  · dsimp only
    split_ifs
    · rw [get?_erase, if_neg h]
    · rw [get?_insert, if_neg h]

/-- A key that is left is present only with the connections that remain. -/
theorem get?_leave_self (left : PresenceEntry) (h : state.get? key = some entry) :
    (state.leave key left).1.get? key =
      if (leftEntry entry left).metas = [] then none else some (leftEntry entry left) := by
  simp only [leave, h, List.isEmpty_iff]
  split_ifs
  · rw [get?_erase, if_pos rfl]
  · rw [get?_insert, if_pos rfl]

theorem leave_of_absent (left : PresenceEntry) (h : state.get? key = none) :
    state.leave key left = (state, []) := by
  simp only [leave, h]

theorem withoutRefs_nil (metas : List Json) : withoutRefs metas [] = metas := by
  rw [withoutRefs, List.filter_eq_self]
  intro record _
  cases phxRef? record <;> rfl

/-- An entry without metas leaves all connections where they are. -/
theorem metas_joinedEntry_of_nil {joined : PresenceEntry} (h : joined.metas = []) :
    (joinedEntry (some entry) joined).metas = entry.metas := by
  have hrefs : joined.refs = [] := by simp [PresenceEntry.refs, h]
  simp [joinedEntry, hrefs, withoutRefs_nil, h]

/-! ### Keys without connections -/

/-- A key that is present without any connection. -/
def Hollow (state : PresenceState) (key : String) : Prop :=
  ∃ e, state.get? key = some e ∧ e.metas = []

/-- An absent key for which an entry without metas comes. -/
def Hollowed (state : PresenceState) (key : String) (arrivals : PresenceState) : Prop :=
  state.get? key = none ∧ ∃ e, (key, e) ∈ arrivals ∧ e.metas = []

theorem hollow_join {joined : PresenceEntry} (h : Hollow (state.join key joined).1 k) :
    Hollow state k ∨ Hollowed state k [(key, joined)] := by
  obtain ⟨e, he, hempty⟩ := h
  rw [get?_join] at he
  split_ifs at he with hk
  · subst hk
    cases he
    cases hbefore : state.get? k with
    | none =>
      rw [hbefore] at hempty
      exact .inr ⟨hbefore, joined, List.mem_singleton_self _, hempty⟩
    | some before =>
      rw [hbefore] at hempty
      have hjoined : joined.metas = [] := (List.append_eq_nil_iff.1 hempty).2
      rw [metas_joinedEntry_of_nil hjoined] at hempty
      exact .inl ⟨before, hbefore, hempty⟩
  · exact .inl ⟨e, he, hempty⟩

theorem hollow_joinAll (h : Hollow (state.joinAll joins).1 k) :
    Hollow state k ∨ Hollowed state k joins := by
  induction joins generalizing state with
  | nil => exact .inl h
  | cons p rest ih =>
    obtain ⟨key, joined⟩ := p
    have hrest : Hollow ((state.join key joined).1.joinAll rest).1 k := h
    rcases ih hrest with h | ⟨habsent, e, he, hempty⟩
    · rcases hollow_join h with h | ⟨habsent, e, he, hempty⟩
      · exact .inl h
      · cases List.mem_singleton.1 he
        exact .inr ⟨habsent, joined, List.mem_cons_self, hempty⟩
    · rw [get?_join] at habsent
      split_ifs at habsent
      exact .inr ⟨habsent, e, List.mem_cons_of_mem _ he, hempty⟩

theorem hollow_leave {left : PresenceEntry} (h : Hollow (state.leave key left).1 k) :
    Hollow state k := by
  obtain ⟨e, he, hempty⟩ := h
  by_cases hk : k = key
  · subst hk
    cases hentry : state.get? k with
    | none =>
      rw [leave_of_absent left hentry, hentry] at he
      cases he
    | some entry =>
      rw [get?_leave_self left hentry] at he
      split_ifs at he with hleft
      cases he
      exact absurd hempty hleft
  · rw [get?_leave_of_ne state left hk] at he
    exact ⟨e, he, hempty⟩

theorem hollow_leaveAll (h : Hollow (state.leaveAll leaves).1 k) : Hollow state k := by
  induction leaves generalizing state with
  | nil => exact h
  | cons p rest ih =>
    obtain ⟨key, left⟩ := p
    have hrest : Hollow ((state.leave key left).1.leaveAll rest).1 k := h
    exact hollow_leave (ih hrest)

/-- A diff makes no key hollow but an absent one that it joins without metas. -/
theorem hollow_syncDiff {diff : PresenceDiff} (h : Hollow (syncDiff state diff).1 k) :
    Hollow state k ∨ Hollowed state k diff.joins :=
  hollow_joinAll (hollow_leaveAll h)

/-- A snapshot makes no key hollow but an absent one that it lists without metas. -/
theorem hollow_syncState {snapshot : PresenceState} (h : Hollow (syncState state snapshot).1 k) :
    Hollow state k ∨ Hollowed state k snapshot := by
  rcases hollow_syncDiff h with h | ⟨habsent, e, he, hempty⟩
  · exact .inl h
  · obtain ⟨⟨l, incoming⟩, hmem, harrival⟩ := List.mem_filterMap.1 he
    -- The key is absent, so it arrives as the snapshot lists it.
    have hl : l = k := by
      unfold arrival? at harrival
      split at harrival
      · cases harrival; rfl
      · dsimp only at harrival
        split_ifs at harrival
        cases harrival; rfl
    subst hl
    simp only [arrival?, habsent, Option.some.injEq, Prod.mk.injEq, true_and] at harrival
    exact .inr ⟨habsent, incoming, hmem, by rw [harrival]; exact hempty⟩

end PresenceState

/-- An entry with one connection. -/
def PresenceEntry.connected (ref : String) : PresenceEntry :=
  .ofMetas [.object [("phx_ref", .string ref)]]

/-! ### Updates -/

/-- What comes for a state of presence. -/
inductive PresenceUpdate where
  /-- All who are present. -/
  | sync (snapshot : PresenceState)
  /-- Who came and who went. -/
  | merge (diff : PresenceDiff)

namespace PresenceUpdate

/-- The state after an update. -/
def apply (state : PresenceState) : PresenceUpdate → PresenceState
  | .sync snapshot => (syncState state snapshot).1
  | .merge diff => (syncDiff state diff).1

/-- The entries that an update lists as present or as joined. -/
def arrivals : PresenceUpdate → PresenceState
  | .sync snapshot => snapshot
  | .merge diff => diff.joins

end PresenceUpdate

namespace PresenceState

variable {key : String} {updates : List PresenceUpdate} {u : PresenceUpdate}
variable {state : PresenceState}

/-- What updates lead to, one after another, from nobody present. -/
def after (updates : List PresenceUpdate) : PresenceState := updates.foldl PresenceUpdate.apply []

theorem after_concat (updates : List PresenceUpdate) (u : PresenceUpdate) :
    after (updates ++ [u]) = u.apply (after updates) := by
  simp [after]

theorem hollow_apply (h : Hollow (u.apply state) key) :
    Hollow state key ∨ Hollowed state key u.arrivals := by
  cases u with
  | sync snapshot => exact hollow_syncState h
  | merge diff => exact hollow_syncDiff h

/-- A hollow key was hollowed by one of the updates. -/
theorem hollow_after (h : Hollow (after updates) key) :
    ∃ earlier u later, updates = earlier ++ u :: later ∧ Hollowed (after earlier) key u.arrivals := by
  induction updates using List.reverseRecOn with
  | nil =>
    obtain ⟨e, he, _⟩ := h
    cases he
  | append_singleton updates u ih =>
    rw [after_concat] at h
    rcases hollow_apply h with h | h
    · obtain ⟨earlier, u', later, rfl, hollowed⟩ := ih h
      exact ⟨earlier, u', later ++ [u], by simp, hollowed⟩
    · exact ⟨updates, u, [], rfl, h⟩

/--
If every snapshot and every join comes with metas, every key that is present has metas.  In any case,
a key that is present without metas was absent when an update listed it without metas.
-/
theorem present_with_connections (updates : List PresenceUpdate) :
    ((∀ u ∈ updates, ∀ p ∈ u.arrivals, p.2.metas ≠ []) →
      ∀ key e, (after updates).get? key = some e → e.metas ≠ []) ∧
    ∀ key e, (after updates).get? key = some e → e.metas = [] →
      ∃ earlier u later, updates = earlier ++ u :: later ∧
        (after earlier).get? key = none ∧ ∃ e, (key, e) ∈ u.arrivals ∧ e.metas = [] := by
  refine ⟨?_, fun key e he hempty => hollow_after ⟨e, he, hempty⟩⟩
  intro filled key e he hempty
  obtain ⟨earlier, u, later, rfl, -, e', harrived, hempty'⟩ := hollow_after ⟨e, he, hempty⟩
  exact filled u (by simp) (key, e') harrived hempty'

/-- One connection of a key takes the place of another. -/
def handover : List PresenceUpdate :=
  [.sync [("u1", .connected "a")], .merge ⟨[("u1", .connected "b")], [("u1", .connected "a")]⟩]

theorem present_with_connections_handover :
    (∀ u ∈ handover, ∀ p ∈ u.arrivals, p.2.metas ≠ []) ∧
      (after handover).get? "u1" = some (.connected "b") ∧ (PresenceEntry.connected "b").metas ≠ [] := by
  have filled : ∀ u ∈ handover, ∀ p ∈ u.arrivals, p.2.metas ≠ [] := by
    simp [handover, PresenceUpdate.arrivals, PresenceEntry.connected, PresenceEntry.ofMetas]
  have present : (after handover).get? "u1" = some (.connected "b") := rfl
  exact ⟨filled, present, (present_with_connections handover).1 filled "u1" _ present⟩

/-- A snapshot without metas for an absent key makes it present without any connection. -/
theorem snapshot_lists_hollow_key : Hollow (after [.sync [("u1", .ofMetas [])]]) "u1" :=
  ⟨.ofMetas [], rfl, rfl⟩

end PresenceState

end Switchboard
