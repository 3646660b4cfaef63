import Mathlib
import Switchboard.Proofs.Connections
import Switchboard.Proofs.PresenceEpochs

/-!
# No connection is listed twice

A join drops from the entry before it whatever it names itself, and then lists its own connections; a
leave only takes away.  So no name comes twice into an entry as long as none comes twice with a join,
and what a join names it lists exactly as it came.  A snapshot is applied as a diff, whose joins are
parts of the entries of the snapshot.

A tracker merges what comes to it, at once or after it has waited.  The log of its merges gives its
state, so it is enough to follow one merge.

Main definitions

* `PresenceEntry.Distinct`, `PresenceState.Distinct`: no name is listed twice for a key;
* `bears`: whether a meta bears a name;
* `PresenceEvent.Proper`, `Merge.Proper`: what comes lists no name twice.

Main results

* `PresenceState.distinct_syncDiff`, `PresenceState.distinct_syncState`: one merge;
* `PresenceState.bears_syncDiff`: a name that is joined is listed as it came;
* `Chronicle.connections_listed_once`: trackers.
-/

set_option autoImplicit false

namespace Switchboard

/-! ### Metas that bear a name -/

variable {metas gone : List Json} {record ref : Json}

/-- Whether a meta bears a name. -/
def bears (ref record : Json) : Bool := (phxRef? record).any fun r => r.same ref

theorem bears_of_some {r : Json} (h : phxRef? record = some r) : bears ref record = r.same ref := by
  rw [bears, h]
  rfl

theorem filter_bears_of_not_listed (h : isListed ref (namesOf metas) = false) :
    metas.filter (bears ref) = [] := by
  refine List.filter_eq_nil_iff.2 fun record hmem => ?_
  cases hname : phxRef? record with
  | none => simp [bears, hname]
  | some r =>
    rw [bears_of_some hname]
    intro hsame
    have hlisted : isListed ref (namesOf metas) = true :=
      isListed_iff.2 ⟨r, mem_namesOf.2 ⟨record, hmem, hname⟩, by rw [Json.same_comm, hsame]⟩
    rw [h] at hlisted
    cases hlisted

/-- To take other names away leaves the bearers of a name. -/
theorem filter_bears_withoutRefs (h : isListed ref gone = false) :
    (withoutRefs metas gone).filter (bears ref) = metas.filter (bears ref) := by
  rw [withoutRefs, List.filter_filter]
  refine List.filter_congr fun record _ => ?_
  cases hname : phxRef? record with
  | none => simp [bears, hname]
  | some r =>
    cases hsame : r.same ref with
    | false => simp [bears_of_some hname, hsame]
    | true => simp [bears_of_some hname, hsame, isListed_congr hsame, h]

/-- Where no name comes twice, a name has one bearer. -/
theorem filter_bears_of_pairwise (h : (namesOf metas).Pairwise fun a b => a.same b = false)
    (hmem : record ∈ metas) (hname : phxRef? record = some ref) :
    metas.filter (bears ref) = [record] := by
  induction metas with
  | nil => cases hmem
  | cons first rest ih =>
    rcases List.mem_cons.1 hmem with rfl | hmem
    · rw [namesOf_cons_some hname] at h
      obtain ⟨hothers, -⟩ := List.pairwise_cons.1 h
      have hrest : isListed ref (namesOf rest) = false := by
        rw [Bool.eq_false_iff, Ne, isListed_iff]
        rintro ⟨r, hr, hsame⟩
        rw [hothers r hr] at hsame
        cases hsame
      rw [List.filter_cons, bears_of_some hname, Json.same_refl, if_pos rfl,
        filter_bears_of_not_listed hrest]
    · have hfirst : bears ref first = false ∧
          (namesOf rest).Pairwise fun a b => a.same b = false := by
        cases hfirst : phxRef? first with
        | none =>
          rw [namesOf_cons_none hfirst] at h
          exact ⟨by simp [bears, hfirst], h⟩
        | some r =>
          rw [namesOf_cons_some hfirst] at h
          obtain ⟨hothers, hrest⟩ := List.pairwise_cons.1 h
          exact ⟨(bears_of_some hfirst).trans (hothers ref (mem_namesOf.2 ⟨record, hmem, hname⟩)), hrest⟩
      rw [List.filter_cons, hfirst.1, if_neg Bool.false_ne_true]
      exact ih hfirst.2 hmem

/-- No two connections of an entry have the same name; metas without a name do not count. -/
def PresenceEntry.Distinct (e : PresenceEntry) : Prop :=
  e.refs.Pairwise fun a b => a.same b = false

theorem PresenceEntry.Distinct.of_sublist {e e' : PresenceEntry} (h : e.Distinct)
    (hsub : (namesOf e'.metas).Sublist (namesOf e.metas)) : e'.Distinct :=
  List.Pairwise.sublist hsub h

namespace PresenceState

variable {state snapshot joins leaves : PresenceState} {key : String}
variable {e entry joined left : PresenceEntry} {before : Option PresenceEntry} {diff : PresenceDiff}

/-! ### One merge -/

/-- No name is listed twice for a key. -/
def Distinct (state : PresenceState) : Prop := ∀ key e, state.get? key = some e → e.Distinct

theorem distinct_of_forall (h : ∀ p ∈ state, p.2.Distinct) : state.Distinct :=
  fun _ _ he => h _ (key_of_get? he)

/-- A join drops from the entry before it the names that come with it. -/
theorem distinct_joinedEntry (hbefore : ∀ e, before = some e → e.Distinct) (hjoined : joined.Distinct) :
    (joinedEntry before joined).Distinct := by
  cases before with
  | none => exact hjoined
  | some e =>
    have hkept : (namesOf (withoutRefs e.metas joined.refs)).Pairwise fun a b => a.same b = false :=
      (hbefore e rfl).sublist (namesOf_withoutRefs_sublist ..)
    change (namesOf (withoutRefs e.metas joined.refs ++ joined.metas)).Pairwise _
    rw [namesOf_append, List.pairwise_append]
    refine ⟨hkept, hjoined, fun a ha b hb => ?_⟩
    have hfree : isListed a joined.refs = false := by
      have ha' := isListed_of_mem ha
      rw [isListed_withoutRefs] at ha'
      simpa using (Bool.and_eq_true_iff.1 ha').2
    rw [Bool.eq_false_iff]
    intro hsame
    have hlisted : isListed a joined.refs = true := isListed_iff.2 ⟨b, hb, hsame⟩
    rw [hfree] at hlisted
    cases hlisted

theorem distinct_leftEntry (h : entry.Distinct) (left : PresenceEntry) :
    (leftEntry entry left).Distinct :=
  h.of_sublist (namesOf_withoutRefs_sublist ..)

theorem distinct_joinAll (hstate : state.Distinct) (hsorted : joins.Sorted) (hjoins : joins.Distinct) :
    (state.joinAll joins).1.Distinct := by
  intro key e he
  rw [get?_joinAll state hsorted] at he
  cases hjoined : joins.get? key with
  | none =>
    rw [hjoined] at he
    exact hstate key e he
  | some joined =>
    rw [hjoined] at he
    cases he
    exact distinct_joinedEntry (hstate key) (hjoins key joined hjoined)

theorem distinct_leaveAll (hstate : state.Distinct) (hsorted : leaves.Sorted) :
    (state.leaveAll leaves).1.Distinct := by
  intro key e he
  rw [get?_leaveAll state hsorted] at he
  cases hleft : leaves.get? key with
  | none =>
    rw [hleft] at he
    exact hstate key e he
  | some left =>
    rw [hleft] at he
    obtain ⟨entry, hentry, hkept⟩ := Option.bind_eq_some_iff.1 he
    unfold PresenceEntry.ifConnected at hkept
    split_ifs at hkept
    cases hkept
    exact distinct_leftEntry (hstate key entry hentry) left

/-- A diff whose joins list no name twice leaves no name listed twice. -/
theorem distinct_syncDiff (hstate : state.Distinct) (hjoins : diff.joins.Sorted)
    (hleaves : diff.leaves.Sorted) (hdistinct : diff.joins.Distinct) :
    (syncDiff state diff).1.Distinct :=
  distinct_leaveAll (distinct_joinAll hstate hjoins hdistinct) hleaves

/-- A snapshot makes its key join, or nothing. -/
theorem arrival?_keeps_key (state : PresenceState) (key : String) (incoming : PresenceEntry) :
    state.arrival? key incoming =
      ((state.arrival? key incoming).map Prod.snd).map fun e => (key, e) := by
  unfold arrival?
  cases state.get? key with
  | none => rfl
  | some existing =>
    dsimp only
    split_ifs <;> rfl

theorem departure?_keeps_key (snapshot : PresenceState) (key : String) (existing : PresenceEntry) :
    snapshot.departure? key existing =
      ((snapshot.departure? key existing).map Prod.snd).map fun e => (key, e) := by
  unfold departure?
  cases snapshot.get? key with
  | none => rfl
  | some incoming =>
    dsimp only
    split_ifs <;> rfl

/-- The joins and the leaves to a snapshot are choices from it and from the state. -/
theorem diffTo_eq_picks (state snapshot : PresenceState) :
    state.diffTo snapshot =
      ⟨snapshot.pick fun key incoming => (state.arrival? key incoming).map Prod.snd,
        state.pick fun key existing => (snapshot.departure? key existing).map Prod.snd⟩ :=
  congrArg₂ PresenceDiff.mk (List.filterMap_congr fun p _ => arrival?_keeps_key state p.1 p.2)
    (List.filterMap_congr fun p _ => departure?_keeps_key snapshot p.1 p.2)

/-- What arrives with a snapshot is part of what the snapshot lists. -/
theorem names_arrival?_sublist {p : String × PresenceEntry} (h : state.arrival? key entry = some p) :
    (namesOf p.2.metas).Sublist (namesOf entry.metas) := by
  unfold arrival? at h
  split at h
  · cases h
    exact List.Sublist.refl _
  · dsimp only at h
    split_ifs at h
    cases h
    exact namesOf_withoutRefs_sublist ..

/-- A snapshot that lists no name twice leaves no name listed twice. -/
theorem distinct_syncState (hstate : state.Distinct) (hsorted : state.Sorted)
    (hsnapshot : snapshot.Sorted) (hdistinct : snapshot.Distinct) :
    (syncState state snapshot).1.Distinct := by
  have hjoins : (state.diffTo snapshot).joins.Sorted := by
    simpa only [diffTo_eq_picks] using sorted_pick _ hsnapshot
  have hleaves : (state.diffTo snapshot).leaves.Sorted := by
    simpa only [diffTo_eq_picks] using sorted_pick _ hsorted
  refine distinct_syncDiff hstate hjoins hleaves fun key e he => ?_
  rw [diffTo_eq_picks, get?_pick _ hsnapshot] at he
  obtain ⟨incoming, hincoming, hchoice⟩ := Option.bind_eq_some_iff.1 he
  obtain ⟨p, harrival, rfl⟩ := Option.map_eq_some_iff.1 hchoice
  exact (hdistinct key incoming hincoming).of_sublist (names_arrival?_sublist harrival)

/-! ### What a join names -/

/-- The entry of a key that is joined lists a name of the join as the join does. -/
theorem bears_joinedEntry (before : Option PresenceEntry) (hjoined : joined.Distinct)
    (hmem : record ∈ joined.metas) (hname : phxRef? record = some ref) :
    (joinedEntry before joined).metas.filter (bears ref) = [record] := by
  have hcame : joined.metas.filter (bears ref) = [record] :=
    filter_bears_of_pairwise hjoined hmem hname
  cases before with
  | none => exact hcame
  | some e =>
    have hkept : (withoutRefs e.metas joined.refs).filter (bears ref) = [] := by
      have hlisted : isListed ref joined.refs = true :=
        isListed_of_mem (mem_namesOf.2 ⟨record, hmem, hname⟩)
      exact filter_bears_of_not_listed (by simp [isListed_withoutRefs, hlisted])
    simp only [joinedEntry, List.filter_append, hkept, hcame, List.nil_append]

/-- A name that a diff joins and does not take away is listed once, as it came. -/
theorem bears_syncDiff (state : PresenceState) (hjoins : diff.joins.Sorted)
    (hleaves : diff.leaves.Sorted) (hdistinct : diff.joins.Distinct)
    (hjoined : diff.joins.get? key = some joined) (hmem : record ∈ joined.metas)
    (hname : phxRef? record = some ref) (hstays : isListed ref (diff.leaves.refsOf key) = false) :
    ∃ entry, (syncDiff state diff).1.get? key = some entry ∧
      entry.metas.filter (bears ref) = [record] := by
  have hmiddle : (state.joinAll diff.joins).1.get? key = some (joinedEntry (state.get? key) joined) := by
    rw [get?_joinAll state hjoins, hjoined]
    rfl
  have hbears := bears_joinedEntry (state.get? key) (hdistinct key joined hjoined) hmem hname
  have hlast : (syncDiff state diff).1.get? key = _ := get?_leaveAll _ hleaves key
  rw [hmiddle] at hlast
  cases hleft : diff.leaves.get? key with
  | none =>
    rw [hleft] at hlast
    exact ⟨_, hlast, hbears⟩
  | some left =>
    rw [refsOf_of_some hleft] at hstays
    have hkept : (leftEntry (joinedEntry (state.get? key) joined) left).metas.filter (bears ref)
        = [record] :=
      (filter_bears_withoutRefs hstays).trans hbears
    -- The connection is still there, so the key does not go.
    have hne : (leftEntry (joinedEntry (state.get? key) joined) left).metas ≠ [] := by
      intro hempty
      rw [hempty] at hkept
      cases hkept
    rw [hleft] at hlast
    exact ⟨_, hlast.trans (if_neg hne), hkept⟩

end PresenceState

/-! ### Trackers -/

open PresenceState

/-- No entry of a snapshot, and none that a diff joins, lists a name twice. -/
def PresenceEvent.Proper : PresenceEvent → Prop
  | .snapshot s _ => s.Sorted ∧ s.Distinct
  | .diff d _ => d.joins.Sorted ∧ d.leaves.Sorted ∧ d.joins.Distinct

/-- What is merged lists no name twice. -/
def Merge.Proper : Merge → Prop
  | .snapshot s r => (PresenceEvent.snapshot s r).Proper
  | .diff d => (PresenceEvent.diff d.diff d.joinRef).Proper

theorem Merge.sorted_replay (log : List Merge) : (Merge.replay log).Sorted := by
  induction log using List.reverseRecOn with
  | nil => exact List.Pairwise.nil
  | append_singleton log m ih =>
    rw [Merge.replay, List.foldl_concat]
    cases m with
    | snapshot s r => exact (follows_syncDiff _ _).sorted ih
    | diff d => exact (follows_syncDiff _ _).sorted ih

theorem Merge.distinct_replay {log : List Merge} (h : ∀ m ∈ log, m.Proper) :
    (Merge.replay log).Distinct := by
  induction log using List.reverseRecOn with
  | nil => exact fun key e he => by cases he
  | append_singleton log m ih =>
    have hbefore : (Merge.replay log).Distinct := ih fun m hm => h m (List.mem_append_left _ hm)
    have hm : m.Proper := h m (by simp)
    rw [Merge.replay, List.foldl_concat]
    cases m with
    | snapshot s r => exact distinct_syncState hbefore (Merge.sorted_replay log) hm.1 hm.2
    | diff d => exact distinct_syncDiff hbefore hm.1 hm.2.1 hm.2.2

namespace Chronicle

variable {c : Chronicle} {e : PresenceEvent}

/-- All that was merged, and all that waits, lists no name twice. -/
structure Proper (c : Chronicle) : Prop where
  merged : ∀ m ∈ c.merged, m.Proper
  waiting : ∀ d ∈ c.waiting, (Merge.diff d).Proper

theorem Proper.take (h : c.Proper) (he : e.Proper) : (c.take e).Proper := by
  cases e with
  | snapshot s r =>
    refine ⟨fun m hm => ?_, fun d hd => by cases hd⟩
    rcases List.mem_append.1 hm with hm | hm
    · exact h.merged m hm
    · rcases List.mem_cons.1 hm with rfl | hm
      · exact he
      · obtain ⟨d, hd, rfl⟩ := List.mem_map.1 hm
        exact h.waiting d hd
  | diff d r =>
    cases hr : c.tracker.isAwaiting r with
    | true =>
      rw [take_of_awaiting d hr]
      refine ⟨h.merged, fun d' hd' => ?_⟩
      rcases List.mem_append.1 hd' with hd' | hd'
      · exact h.waiting d' hd'
      · cases List.mem_singleton.1 hd'
        exact he
    | false =>
      rw [take_of_not_awaiting d hr]
      refine ⟨fun m hm => ?_, h.waiting⟩
      rcases List.mem_append.1 hm with hm | hm
      · exact h.merged m hm
      · cases List.mem_singleton.1 hm
        exact he

theorem proper_of {events : List PresenceEvent} (h : ∀ e ∈ events, e.Proper) : (of events).Proper := by
  induction events using List.reverseRecOn with
  | nil => exact ⟨fun m hm => (by cases hm), fun d hd => by cases hd⟩
  | append_singleton events e ih =>
    rw [of_concat]
    exact (ih fun e' he' => h e' (List.mem_append_left _ he')).take (h e (by simp))

/--
If no entry of a snapshot and none that a diff joins lists a name twice, no entry of the state of a
tracker does, whatever came and in whatever order.  The log of what was merged gives the state; each
diff in it left every name that it joins for a key, and does not take away there, with exactly the meta
that came for it.
-/
theorem connections_listed_once (events : List PresenceEvent) (h : ∀ e ∈ events, e.Proper) :
    (of events).tracker.state.Distinct ∧
      (of events).tracker.state = Merge.replay (of events).merged ∧
      ∀ earlier d later, (of events).merged = earlier ++ .diff d :: later →
        ∀ key joined record ref, d.diff.joins.get? key = some joined → record ∈ joined.metas →
          phxRef? record = some ref → isListed ref (d.diff.leaves.refsOf key) = false →
            ∃ entry, (Merge.replay (earlier ++ [.diff d])).get? key = some entry ∧
              entry.metas.filter (bears ref) = [record] := by
  have hproper : (of events).Proper := proper_of h
  have hstate : (of events).tracker.state = Merge.replay (of events).merged :=
    (faithful_of events).state
  refine ⟨?_, hstate, ?_⟩
  · rw [hstate]
    exact Merge.distinct_replay hproper.merged
  · intro earlier d later hmerged key joined record ref hjoined hmem hname hstays
    obtain ⟨hjoins, hleaves, hdistinct⟩ : (Merge.diff d).Proper :=
      hproper.merged _ (by rw [hmerged]; simp)
    rw [Merge.replay, List.foldl_concat]
    exact bears_syncDiff _ hjoins hleaves hdistinct hjoined hmem hname hstays

/-- A connection that says where it is. -/
def seated (ref seat : String) : Json := .object [("phx_ref", .string ref), ("seat", .string seat)]

/-- A diff that waits for a snapshot with the same connections, and then one of them once more. -/
def moving : List PresenceEvent :=
  [.diff ⟨[("u1", .ofMetas [seated "b" "door"])], [("u1", .connected "a")]⟩ (some "1"),
    .snapshot [("u1", .ofMetas [seated "a" "desk", seated "b" "desk"])] (some "1"),
    .diff ⟨[("u1", .ofMetas [seated "b" "window"])], []⟩ (some "1")]

theorem connections_listed_once_moving :
    (∀ e ∈ moving, e.Proper) ∧ (of moving).tracker.state.Distinct ∧
      ∃ entry, (of moving).tracker.state.get? "u1" = some entry ∧
        entry.metas.filter (bears (.string "b")) = [seated "b" "window"] := by
  have hone (ref seat : String) : PresenceState.Distinct [("u1", .ofMetas [seated ref seat])] :=
    distinct_of_forall fun p hp => by
      rw [List.mem_singleton.1 hp]
      exact List.pairwise_singleton _ _
  have hboth : PresenceState.Distinct [("u1", .ofMetas [seated "a" "desk", seated "b" "desk"])] :=
    distinct_of_forall fun p hp => by
      rw [List.mem_singleton.1 hp]
      exact List.pairwise_pair.2 (by decide)
  have hproper : ∀ e ∈ moving, e.Proper := by
    simp only [moving, List.forall_mem_cons, PresenceEvent.Proper]
    exact ⟨⟨List.pairwise_singleton _ _, List.pairwise_singleton _ _, hone _ _⟩,
      ⟨List.pairwise_singleton _ _, hboth⟩,
      ⟨List.pairwise_singleton _ _, List.Pairwise.nil, hone _ _⟩, List.forall_mem_nil _⟩
  obtain ⟨hdistinct, hstate, hlisted⟩ := connections_listed_once moving hproper
  refine ⟨hproper, hdistinct, ?_⟩
  rw [hstate]
  exact hlisted ((of moving).merged.take 2) ⟨_, some "1"⟩ [] rfl "u1" _ (seated "b" "window")
    (.string "b") rfl List.mem_cons_self rfl rfl

end Chronicle

end Switchboard
