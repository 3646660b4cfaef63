import Mathlib
import Switchboard.Proofs.Connections

/-!
# Snapshots synchronise

A snapshot is turned into a diff: what it lists and the state does not is joined, and what the state
lists and it does not is left.  Where every entry has connections and every connection has a name, the
diff is the difference of two families of sets, taken both ways.  A set with what it lacks of another,
without what it has beyond it, is the other; so the state then lists what the snapshot lists, and the
next diff to the same snapshot is empty.

Main definitions

* `PresenceState.Named`: states whose connections all have names;
* `PresenceState.Lists`, `PresenceState.Unlisted`: what one state lists and another does not.

Main results

* `PresenceState.diffTo_eq`: the diff to a snapshot as two differences;
* `PresenceState.lists_syncState`: the names after a snapshot;
* `PresenceState.snapshot_synchronises`: keys, names and notices of a snapshot, and its repetition.
-/

set_option autoImplicit false

namespace Switchboard

/-- Every connection among metas has a name. -/
def AllNamed (metas : List Json) : Prop := ∀ record ∈ metas, phxRef? record ≠ none

theorem AllNamed.exists_name {metas : List Json} {record : Json} (h : AllNamed metas)
    (hmem : record ∈ metas) : ∃ ref ∈ namesOf metas, phxRef? record = some ref := by
  obtain ⟨ref, href⟩ := Option.ne_none_iff_exists'.1 (h record hmem)
  exact ⟨ref, mem_namesOf.2 ⟨record, hmem, href⟩, href⟩

theorem AllNamed.withoutRefs_eq {metas : List Json} (h : AllNamed metas) (gone : List Json) :
    withoutRefs metas gone =
      metas.filter fun record => (phxRef? record).any fun ref => !isListed ref gone := by
  refine List.filter_congr fun record hmem => ?_
  obtain ⟨ref, -, href⟩ := h.exists_name hmem
  simp [href]

theorem AllNamed.withoutRefs_eq_nil_iff {metas : List Json} (h : AllNamed metas)
    (gone : List Json) : withoutRefs metas gone = [] ↔ ∀ ref ∈ namesOf metas, isListed ref gone = true := by
  constructor
  · intro hempty ref href
    obtain ⟨record, hmem, hname⟩ := mem_namesOf.1 href
    by_contra hgone
    have hstays : record ∈ withoutRefs metas gone := by
      refine mem_withoutRefs.2 ⟨hmem, fun ref' href' => ?_⟩
      rw [hname] at href'
      cases href'
      simpa using hgone
    rw [hempty] at hstays
    cases hstays
  · intro hlisted
    refine List.eq_nil_iff_forall_not_mem.2 fun record hstays => ?_
    obtain ⟨hmem, hfree⟩ := mem_withoutRefs.1 hstays
    obtain ⟨ref, href, hname⟩ := h.exists_name hmem
    have hgone : isListed ref gone = true := hlisted ref href
    rw [hfree ref hname] at hgone
    cases hgone

namespace PresenceState

variable {state known current snapshot : PresenceState} {key : String} {e entry : PresenceEntry}
variable {ref : Json}

/-- A state lists a name for a key. -/
def Lists (state : PresenceState) (key : String) (ref : Json) : Prop :=
  isListed ref (state.refsOf key) = true

/-- A map from keys to entries, in which each entry has connections and each connection has a name. -/
structure Named (state : PresenceState) : Prop where
  sorted : state.Sorted
  connected : ∀ p ∈ state, p.2.metas ≠ []
  named : ∀ p ∈ state, AllNamed p.2.metas

/-- A key is present if a name is listed for it. -/
theorem Named.absent_iff (h : state.Named) (key : String) :
    state.get? key = none ↔ ∀ ref, ¬ state.Lists key ref := by
  constructor
  · intro hnone ref
    simp [Lists, refsOf_of_none hnone]
  · intro hnames
    by_contra hpresent
    obtain ⟨e, he⟩ := Option.ne_none_iff_exists'.1 hpresent
    have hmem : (key, e) ∈ state := key_of_get? he
    obtain ⟨record, hrecord⟩ := List.exists_mem_of_ne_nil _ (h.connected _ hmem)
    obtain ⟨ref, href, -⟩ := (h.named _ hmem).exists_name hrecord
    exact hnames ref (by rw [Lists, refsOf_of_some he]; exact isListed_of_mem href)

/-! ### Differences -/

/-- What an entry lists for a key and a state does not; nothing if the state lists all of it. -/
def stranger? (known : PresenceState) (key : String) (entry : PresenceEntry) :
    Option PresenceEntry :=
  { entry with metas := withoutRefs entry.metas (known.refsOf key) : PresenceEntry }.ifConnected

/-- What a state lists and another does not, key by key. -/
def beyond (known state : PresenceState) : PresenceState := state.pick known.stranger?

/-- For a known key the missing connections are compared, and to a new key all are strangers. -/
theorem arrival?_eq (current : PresenceState) (key : String) (h : entry.metas ≠ []) :
    current.arrival? key entry = (current.stranger? key entry).map fun e => (key, e) := by
  unfold arrival? stranger?
  cases hkey : current.get? key with
  | none => simp [refsOf_of_none hkey, withoutRefs_nil, PresenceEntry.ifConnected, h]
  | some existing =>
    simp only [refsOf_of_some hkey, PresenceEntry.refs_eq, List.isEmpty_iff,
      PresenceEntry.ifConnected]
    split_ifs <;> rfl

theorem departure?_eq (snapshot : PresenceState) (key : String) (h : entry.metas ≠ []) :
    snapshot.departure? key entry = (snapshot.stranger? key entry).map fun e => (key, e) := by
  unfold departure? stranger?
  cases hkey : snapshot.get? key with
  | none => simp [refsOf_of_none hkey, withoutRefs_nil, PresenceEntry.ifConnected, h]
  | some incoming =>
    simp only [refsOf_of_some hkey, PresenceEntry.refs_eq, List.isEmpty_iff,
      PresenceEntry.ifConnected]
    split_ifs <;> rfl

/-- The diff to a snapshot is the difference, taken both ways. -/
theorem diffTo_eq (hcurrent : current.Named) (hsnapshot : snapshot.Named) :
    current.diffTo snapshot = ⟨current.beyond snapshot, snapshot.beyond current⟩ :=
  congrArg₂ PresenceDiff.mk
    (List.filterMap_congr fun p hp => arrival?_eq current p.1 (hsnapshot.connected p hp))
    (List.filterMap_congr fun p hp => departure?_eq snapshot p.1 (hcurrent.connected p hp))

theorem isListed_beyond (known : PresenceState) (h : state.Sorted) (key : String) (ref : Json) :
    isListed ref ((known.beyond state).refsOf key)
      = (isListed ref (state.refsOf key) && !isListed ref (known.refsOf key)) := by
  have hget : (known.beyond state).get? key = (state.get? key).bind (known.stranger? key) :=
    get?_pick _ h key
  rw [refsOf, hget]
  cases hkey : state.get? key with
  | none => simp [refsOf_of_none hkey]
  | some entry =>
    rw [Option.bind_some, stranger?, PresenceEntry.refs_ifConnected, isListed_withoutRefs,
      refsOf_of_some hkey]

/-- Nothing is beyond a state that lists every name. -/
theorem beyond_eq_nil (h : state.Named) (hlists : ∀ key ref, state.Lists key ref → known.Lists key ref) :
    known.beyond state = [] := by
  refine List.filterMap_eq_nil_iff.2 fun p hp => ?_
  have hget : state.get? p.1 = some p.2 := (mem_iff_get? h.sorted).1 hp
  have hempty : withoutRefs p.2.metas (known.refsOf p.1) = [] := by
    refine ((h.named p hp).withoutRefs_eq_nil_iff _).2 fun ref href => hlists p.1 ref ?_
    rw [Lists, refsOf_of_some hget]
    exact isListed_of_mem href
  simp [stranger?, PresenceEntry.ifConnected, hempty]

/-- The connections that a state lists and another does not: an entry for each key that has one. -/
structure Unlisted (state known part : PresenceState) : Prop where
  sorted : part.Sorted
  mem_iff : ∀ key e, (key, e) ∈ part ↔ ∃ entry, state.get? key = some entry ∧
    (∃ ref ∈ entry.refs, ¬ known.Lists key ref) ∧
    e = { entry with
      metas := entry.metas.filter fun record =>
        (phxRef? record).any fun ref => !isListed ref (known.refsOf key) }

theorem unlisted_beyond (known : PresenceState) (h : state.Named) :
    Unlisted state known (known.beyond state) := by
  refine ⟨sorted_pick _ h.sorted, fun key e => ?_⟩
  rw [beyond, mem_pick]
  refine exists_congr fun entry => ?_
  rw [mem_iff_get? h.sorted]
  refine and_congr_right fun hget => ?_
  have hnamed : AllNamed entry.metas := h.named _ (key_of_get? hget)
  have hempty : withoutRefs entry.metas (known.refsOf key) = [] ↔
      ¬ ∃ ref ∈ entry.refs, ¬ known.Lists key ref := by
    rw [hnamed.withoutRefs_eq_nil_iff]
    simp [Lists, PresenceEntry.refs_eq]
  rw [stranger?, PresenceEntry.ifConnected, ← hnamed.withoutRefs_eq]
  by_cases hbeyond : ∃ ref ∈ entry.refs, ¬ known.Lists key ref
  · rw [if_neg (hempty.not_left.2 hbeyond)]
    simp [hbeyond, eq_comm]
  · rw [if_pos (hempty.2 hbeyond)]
    simp [hbeyond]

/-! ### The state after a snapshot -/

/-- After a snapshot the state lists what the snapshot lists. -/
theorem lists_syncState (hcurrent : current.Named) (hsnapshot : snapshot.Named) (key : String)
    (ref : Json) : (syncState current snapshot).1.Lists key ref ↔ snapshot.Lists key ref := by
  rw [Lists, Lists, syncState, diffTo_eq hcurrent hsnapshot,
    isListed_syncDiff current (sorted_pick _ hsnapshot.sorted) (sorted_pick _ hcurrent.sorted),
    isListed_beyond _ hsnapshot.sorted, isListed_beyond _ hcurrent.sorted]
  cases isListed ref (current.refsOf key) <;> cases isListed ref (snapshot.refsOf key) <;> simp

/-- What leaves spare of a key's connections was there before. -/
theorem mem_metas_leaveAll {leaves : PresenceState} {record : Json} (hleaves : leaves.Sorted)
    (h : (state.leaveAll leaves).1.get? key = some e) (hrecord : record ∈ e.metas) :
    ∃ entry, state.get? key = some entry ∧ record ∈ entry.metas := by
  rw [get?_leaveAll state hleaves key] at h
  cases hleft : leaves.get? key with
  | none =>
    rw [hleft] at h
    exact ⟨e, h, hrecord⟩
  | some left =>
    rw [hleft] at h
    obtain ⟨entry, hentry, hremains⟩ := Option.bind_eq_some_iff.1 h
    unfold PresenceEntry.ifConnected at hremains
    split_ifs at hremains
    cases hremains
    exact ⟨entry, hentry, (mem_withoutRefs.1 hrecord).1⟩

/-- After joins a key's connections were there before or came with the joins. -/
theorem mem_metas_joinAll {joins : PresenceState} {record : Json} (hjoins : joins.Sorted)
    (h : (state.joinAll joins).1.get? key = some e) (hrecord : record ∈ e.metas) :
    ∃ entry, record ∈ entry.metas ∧ (state.get? key = some entry ∨ joins.get? key = some entry) := by
  rw [get?_joinAll state hjoins key] at h
  cases hjoined : joins.get? key with
  | none =>
    rw [hjoined] at h
    exact ⟨e, hrecord, .inl h⟩
  | some joined =>
    rw [hjoined] at h
    cases h
    cases hbefore : state.get? key with
    | none =>
      rw [hbefore] at hrecord
      exact ⟨joined, hrecord, .inr rfl⟩
    | some before =>
      rw [hbefore] at hrecord
      rcases List.mem_append.1 hrecord with hrecord | hrecord
      · exact ⟨before, (mem_withoutRefs.1 hrecord).1, .inl rfl⟩
      · exact ⟨joined, hrecord, .inr rfl⟩

/-- What a diff leaves of a key's connections was there or came with the diff. -/
theorem mem_metas_syncDiff {diff : PresenceDiff} {record : Json} (hjoins : diff.joins.Sorted)
    (hleaves : diff.leaves.Sorted) (h : (syncDiff state diff).1.get? key = some e)
    (hrecord : record ∈ e.metas) :
    ∃ entry, record ∈ entry.metas ∧ (state.get? key = some entry ∨ diff.joins.get? key = some entry) := by
  change ((state.joinAll diff.joins).1.leaveAll diff.leaves).1.get? key = some e at h
  obtain ⟨middle, hmiddle, hmem⟩ := mem_metas_leaveAll hleaves h hrecord
  exact mem_metas_joinAll hjoins hmiddle hmem

theorem Named.of_mem_beyond {p : String × PresenceEntry} (h : state.Named)
    (hp : p ∈ known.beyond state) : AllNamed p.2.metas := by
  obtain ⟨entry, hget, -, heq⟩ := ((unlisted_beyond known h).mem_iff p.1 p.2).1 hp
  rw [heq]
  intro record hrecord
  exact h.named _ (key_of_get? hget) record (List.mem_filter.1 hrecord).1

theorem named_syncState (hcurrent : current.Named) (hsnapshot : snapshot.Named) :
    (syncState current snapshot).1.Named := by
  have hsorted : (syncState current snapshot).1.Sorted :=
    (follows_syncDiff current _).sorted hcurrent.sorted
  refine ⟨hsorted, ?_, ?_⟩
  · rintro ⟨key, e⟩ hp hempty
    rcases hollow_syncState ⟨e, (mem_iff_get? hsorted).1 hp, hempty⟩ with ⟨e', he', hempty'⟩ |
      ⟨-, e', he', hempty'⟩
    · exact hcurrent.connected _ (key_of_get? he') hempty'
    · exact hsnapshot.connected _ he' hempty'
  · rintro ⟨key, e⟩ hp record hrecord
    have hget := (mem_iff_get? hsorted).1 hp
    rw [syncState, diffTo_eq hcurrent hsnapshot] at hget
    obtain ⟨entry, hmem, hentry | hentry⟩ := mem_metas_syncDiff (sorted_pick _ hsnapshot.sorted)
      (sorted_pick _ hcurrent.sorted) hget hrecord
    · exact hcurrent.named _ (key_of_get? hentry) record hmem
    · exact hsnapshot.of_mem_beyond (key_of_get? hentry) record hmem

/-! ### The notices of a snapshot -/

/-- Every key that is left is present after the joins, so each leave is noticed. -/
theorem changes_syncState (hcurrent : current.Named) (hsnapshot : snapshot.Named) :
    ∃ after : String → PresenceEntry,
      (syncState current snapshot).2 =
        (current.beyond snapshot).map (fun p => .join p.1 (current.get? p.1) p.2) ++
          (snapshot.beyond current).map (fun p => .leave p.1 (after p.1) p.2) ∧
      ∀ p ∈ snapshot.beyond current, (syncState current snapshot).1.get? p.1 =
        if (after p.1).metas = [] then none else some (after p.1) := by
  have hjoins : (current.beyond snapshot).Sorted := sorted_pick _ hsnapshot.sorted
  have hleaves : (snapshot.beyond current).Sorted := sorted_pick _ hcurrent.sorted
  rw [syncState, diffTo_eq hcurrent hsnapshot]
  let middle := (current.joinAll (current.beyond snapshot)).1
  let after (key : String) : PresenceEntry :=
    leftEntry ((middle.get? key).getD default) (((snapshot.beyond current).get? key).getD default)
  have hpresent : ∀ p ∈ snapshot.beyond current, ∃ entry, middle.get? p.1 = some entry ∧
      after p.1 = leftEntry entry p.2 := by
    rintro ⟨key, left⟩ hp
    obtain ⟨entry, hentry, -⟩ := ((unlisted_beyond snapshot hcurrent).mem_iff key left).1 hp
    have hmiddle : ∃ entry, middle.get? key = some entry := by
      rw [get?_joinAll current hjoins, hentry]
      cases (current.beyond snapshot).get? key <;> exact ⟨_, rfl⟩
    obtain ⟨entry', hentry'⟩ := hmiddle
    exact ⟨entry', hentry', by simp [after, hentry', (mem_iff_get? hleaves).1 hp]⟩
  refine ⟨after, ?_, ?_⟩
  · refine congrArg₂ _ (changes_joinAll current hjoins) ?_
    rw [changes_leaveAll _ hleaves, ← List.filterMap_eq_map]
    refine List.filterMap_congr fun p hp => ?_
    obtain ⟨entry, hentry, hafter⟩ := hpresent p hp
    change (middle.get? p.1).map _ = _
    rw [hentry, Function.comp_apply, hafter]
    rfl
  · intro p hp
    obtain ⟨entry, hentry, hafter⟩ := hpresent p hp
    change (middle.leaveAll (snapshot.beyond current)).1.get? p.1 = _
    rw [get?_leaveAll _ hleaves, (mem_iff_get? hleaves).1 hp, hafter]
    simp only [Option.elim, hentry, Option.bind_some, PresenceEntry.ifConnected]

/--
A snapshot synchronises a state if in both of them every entry has connections and every connection
has a name.  Afterwards the keys are those of the snapshot, and so are the names of each key.  First
each key with a name that the state did not list joins, in key order, with the entry from before and
exactly the snapshot's connections of such names; then each key with a name that the snapshot does not
list leaves, in key order, with what remains and exactly the connections of such names.  The same
snapshot again changes nothing and is not noticed.
-/
theorem snapshot_synchronises (current snapshot : PresenceState) (hcurrent : current.Named)
    (hsnapshot : snapshot.Named) :
    (∀ key, (syncState current snapshot).1.get? key = none ↔ snapshot.get? key = none) ∧
      (∀ key ref, (syncState current snapshot).1.Lists key ref ↔ snapshot.Lists key ref) ∧
      (∃ (joined left : PresenceState) (after : String → PresenceEntry),
        (syncState current snapshot).2 =
          joined.map (fun p => .join p.1 (current.get? p.1) p.2) ++
            left.map (fun p => .leave p.1 (after p.1) p.2) ∧
        Unlisted snapshot current joined ∧ Unlisted current snapshot left ∧
        ∀ p ∈ left, (syncState current snapshot).1.get? p.1 =
          if (after p.1).metas = [] then none else some (after p.1)) ∧
      syncState (syncState current snapshot).1 snapshot = ((syncState current snapshot).1, []) := by
  have hlast : (syncState current snapshot).1.Named := named_syncState hcurrent hsnapshot
  have hlists := lists_syncState hcurrent hsnapshot
  refine ⟨fun key => ?_, hlists, ?_, ?_⟩
  · rw [hlast.absent_iff, hsnapshot.absent_iff]
    exact forall_congr' fun ref => not_congr (hlists key ref)
  · obtain ⟨after, hchanges, hafter⟩ := changes_syncState hcurrent hsnapshot
    exact ⟨_, _, after, hchanges, unlisted_beyond current hsnapshot,
      unlisted_beyond snapshot hcurrent, hafter⟩
  · have hjoins : (syncState current snapshot).1.beyond snapshot = [] :=
      beyond_eq_nil hsnapshot fun key ref => (hlists key ref).2
    have hleaves : snapshot.beyond (syncState current snapshot).1 = [] :=
      beyond_eq_nil hlast fun key ref => (hlists key ref).1
    rw [syncState, diffTo_eq hlast hsnapshot, hjoins, hleaves]
    rfl

/-- A key that gains a connection and loses another, beside a key that goes. -/
def lastSeen : PresenceState :=
  [("u1", .ofMetas [.object [("phx_ref", .string "a")], .object [("phx_ref", .string "b")]]),
    ("u2", .connected "c")]

/-- The same key with the new connection, beside a key that comes. -/
def nowSeen : PresenceState :=
  [("u1", .ofMetas [.object [("phx_ref", .string "b")], .object [("phx_ref", .string "d")]]),
    ("u3", .connected "e")]

theorem snapshot_synchronises_seen :
    lastSeen.Named ∧ nowSeen.Named ∧ (syncState lastSeen nowSeen).1.Lists "u1" (.string "d") ∧
      ¬ (syncState lastSeen nowSeen).1.Lists "u1" (.string "a") ∧
      (syncState lastSeen nowSeen).1.get? "u2" = none ∧
      (syncState (syncState lastSeen nowSeen).1 nowSeen).2 = [] := by
  have hlast : lastSeen.Named := by
    refine ⟨?_, ?_, ?_⟩
    · exact List.pairwise_pair.2 (by decide)
    · simp [lastSeen, PresenceEntry.ofMetas, PresenceEntry.connected]
    · simp [lastSeen, PresenceEntry.ofMetas, PresenceEntry.connected, AllNamed, phxRef?, Json.get?,
        Members.get?]
  have hnow : nowSeen.Named := by
    refine ⟨?_, ?_, ?_⟩
    · exact List.pairwise_pair.2 (by decide)
    · simp [nowSeen, PresenceEntry.ofMetas, PresenceEntry.connected]
    · simp [nowSeen, PresenceEntry.ofMetas, PresenceEntry.connected, AllNamed, phxRef?, Json.get?,
        Members.get?]
  obtain ⟨hkeys, hlists, -, hagain⟩ := snapshot_synchronises lastSeen nowSeen hlast hnow
  refine ⟨hlast, hnow, (hlists _ _).2 rfl, ?_, (hkeys "u2").2 rfl, by rw [hagain]⟩
  rw [hlists, Lists]
  decide

end PresenceState

end Switchboard
