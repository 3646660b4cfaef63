import Mathlib
import Switchboard.Presence.Sync
import Switchboard.Proofs.Roster
import Switchboard.Proofs.Replica

/-!
# Connections by their names

A meta names its connection, and names are compared as values: the two zeros of a double are one name.
This comparison is an equivalence, so the names that a state lists for a key behave as a set.  A join
adds the names of its entry to that set and a leave takes those of its entry away, whatever the order
of the metas is.

Main definitions

* `Json.canonical`: the value that stands for all values that are the same;
* `namesOf`, `PresenceState.refsOf`: the names among metas, and those that a state lists for a key;
* `PresenceState.pick`: what a choice makes of each entry of a state.

Main results

* `Json.same_iff`: sameness is an equivalence;
* `isListed_withoutRefs`: which names are left;
* `PresenceState.get?_joinAll`, `PresenceState.get?_leaveAll`: the entry of a key after joins and leaves;
* `PresenceState.isListed_syncDiff`: the names that a diff leaves for a key.
-/

set_option autoImplicit false

namespace Switchboard

/-! ### Sameness of values -/

namespace Double

/-- The double with one of the two zeros for both. -/
def canonical (x : Double) : Double := if x.isZero then ⟨0⟩ else x

theorem same_iff (x y : Double) : x.same y = true ↔ x.canonical = y.canonical := by
  have hzero : (⟨0⟩ : Double).isZero = true := by decide
  cases hx : x.isZero <;> cases hy : y.isZero <;> simp only [same, canonical, hx, hy]
  · cases x
    cases y
    simp
  · have hne : x ≠ ⟨0⟩ := by rintro rfl; simp [hzero] at hx
    have hbits : x.bits ≠ y.bits := by
      intro h
      cases x; cases y
      cases h
      simp [hx] at hy
    simp [hne, hbits]
  · have hne : (⟨0⟩ : Double) ≠ y := by rintro rfl; simp [hzero] at hy
    have hbits : x.bits ≠ y.bits := by
      intro h
      cases x; cases y
      cases h
      simp [hx] at hy
    simp [hne, hbits]
  · simp

end Double

namespace Number

/-- The number with one of the two zeros for both. -/
def canonical : Number → Number
  | .integer i => .integer i
  | .double x => .double x.canonical

theorem same_iff (a b : Number) : a.same b = true ↔ a.canonical = b.canonical := by
  cases a <;> cases b <;> simp [same, canonical, Double.same_iff]

end Number

namespace Json

mutual

/-- The value that stands for all values that are the same as this one. -/
def canonical : Json → Json
  | .null => .null
  | .bool b => .bool b
  | .number n => .number n.canonical
  | .string s => .string s
  | .array items => .array (canonicalItems items)
  | .object members => .object (canonicalMembers members)

/-- The items of an array, each made canonical. -/
def canonicalItems : List Json → List Json
  | [] => []
  | v :: rest => canonical v :: canonicalItems rest

/-- The members of an object, each with its value made canonical. -/
def canonicalMembers : List (String × Json) → List (String × Json)
  | [] => []
  | (k, v) :: rest => (k, canonical v) :: canonicalMembers rest

end

mutual

/-- Values are the same if the same value stands for them. -/
theorem same_iff : ∀ a b : Json, a.same b = true ↔ a.canonical = b.canonical
  | .null, b => by cases b <;> simp [same, canonical]
  | .bool _, b => by cases b <;> simp [same, canonical]
  | .number _, b => by cases b <;> simp [same, canonical, Number.same_iff]
  | .string _, b => by cases b <;> simp [same, canonical]
  | .array items, b => by
    cases b with
    | array items' => simpa [same, canonical] using sameItems_iff items items'
    | _ => simp [same, canonical]
  | .object members, b => by
    cases b with
    | object members' => simpa [same, canonical] using sameMembers_iff members members'
    | _ => simp [same, canonical]

theorem sameItems_iff :
    ∀ as bs : List Json, sameItems as bs = true ↔ canonicalItems as = canonicalItems bs
  | [], bs => by cases bs <;> simp [sameItems, canonicalItems]
  | a :: as, [] => by simp [sameItems, canonicalItems]
  | a :: as, b :: bs => by simp [sameItems, canonicalItems, same_iff a b, sameItems_iff as bs]

theorem sameMembers_iff :
    ∀ as bs : List (String × Json), sameMembers as bs = true ↔ canonicalMembers as = canonicalMembers bs
  | [], bs => by cases bs <;> simp [sameMembers, canonicalMembers]
  | a :: as, [] => by simp [sameMembers, canonicalMembers]
  | (k, a) :: as, (l, b) :: bs => by
    simp [sameMembers, canonicalMembers, same_iff a b, sameMembers_iff as bs]

end

@[simp] theorem same_refl (a : Json) : a.same a = true := (same_iff a a).2 rfl

theorem same_comm (a b : Json) : a.same b = b.same a := by
  rw [Bool.eq_iff_iff, same_iff, same_iff, eq_comm]

/-- A value that is the same as another compares with everything as the other does. -/
theorem same_congr {a b : Json} (h : a.same b = true) (c : Json) : a.same c = b.same c := by
  rw [Bool.eq_iff_iff, same_iff, same_iff, (same_iff a b).1 h]

end Json

/-! ### Lists of names -/

variable {ref r record : Json} {refs metas gone : List Json}

/-- The names of the connections that metas describe. -/
def namesOf (metas : List Json) : List Json := metas.filterMap phxRef?

theorem PresenceEntry.refs_eq (e : PresenceEntry) : e.refs = namesOf e.metas := rfl

@[simp] theorem namesOf_nil : namesOf [] = [] := rfl

@[simp] theorem namesOf_append (metas more : List Json) :
    namesOf (metas ++ more) = namesOf metas ++ namesOf more :=
  List.filterMap_append ..

theorem namesOf_cons_none (h : phxRef? record = none) : namesOf (record :: metas) = namesOf metas :=
  List.filterMap_cons_none h

theorem namesOf_cons_some (h : phxRef? record = some r) :
    namesOf (record :: metas) = r :: namesOf metas :=
  List.filterMap_cons_some h

/-- An entry with its metas; nothing if it has none. -/
def PresenceEntry.ifConnected (e : PresenceEntry) : Option PresenceEntry :=
  if e.metas = [] then none else some e

/-- An entry without metas has no names. -/
theorem PresenceEntry.refs_ifConnected (e : PresenceEntry) :
    e.ifConnected.elim [] PresenceEntry.refs = namesOf e.metas := by
  unfold ifConnected
  split_ifs with hempty
  · rw [hempty]
    rfl
  · rfl

theorem mem_namesOf : ref ∈ namesOf metas ↔ ∃ record ∈ metas, phxRef? record = some ref :=
  List.mem_filterMap

theorem isListed_iff : isListed ref refs = true ↔ ∃ r ∈ refs, ref.same r = true := List.any_eq_true

@[simp] theorem isListed_nil (ref : Json) : isListed ref [] = false := rfl

@[simp] theorem isListed_cons (ref r : Json) (refs : List Json) :
    isListed ref (r :: refs) = (ref.same r || isListed ref refs) := rfl

@[simp] theorem isListed_append (ref : Json) (refs more : List Json) :
    isListed ref (refs ++ more) = (isListed ref refs || isListed ref more) :=
  List.any_append

theorem isListed_of_mem (h : ref ∈ refs) : isListed ref refs = true :=
  isListed_iff.2 ⟨ref, h, Json.same_refl ref⟩

theorem isListed_congr (h : ref.same r = true) (refs : List Json) :
    isListed ref refs = isListed r refs := by
  simp only [isListed, Json.same_congr h]

/-- The metas that stay are those without a name and those whose name is not listed. -/
theorem mem_withoutRefs : record ∈ withoutRefs metas gone ↔
    record ∈ metas ∧ ∀ ref, phxRef? record = some ref → isListed ref gone = false := by
  rw [withoutRefs, List.mem_filter]
  cases phxRef? record <;> simp

theorem withoutRefs_cons (record : Json) (metas gone : List Json) :
    withoutRefs (record :: metas) gone =
      if (phxRef? record).any (isListed · gone) then withoutRefs metas gone
      else record :: withoutRefs metas gone := by
  cases h : phxRef? record with
  | none => simp [withoutRefs, h]
  | some r => cases hr : isListed r gone <;> simp [withoutRefs, h, hr]

/-- The names that are left are those that are not taken away. -/
theorem isListed_withoutRefs (ref : Json) (metas gone : List Json) :
    isListed ref (namesOf (withoutRefs metas gone))
      = (isListed ref (namesOf metas) && !isListed ref gone) := by
  induction metas with
  | nil => simp [withoutRefs]
  | cons record rest ih =>
    rw [withoutRefs_cons]
    cases hname : phxRef? record with
    | none => simp [namesOf_cons_none hname, ih]
    | some r =>
      cases hgone : isListed r gone with
      | false =>
        simp only [hgone, Option.any_some, Bool.false_eq_true, if_false, namesOf_cons_some hname,
          isListed_cons, ih]
        cases hsame : ref.same r with
        | false => simp
        | true => simp [isListed_congr hsame, hgone]
      | true =>
        simp only [hgone, Option.any_some, if_true, namesOf_cons_some hname, isListed_cons, ih]
        cases hsame : ref.same r with
        | false => simp
        | true => simp [isListed_congr hsame, hgone]

theorem namesOf_withoutRefs_sublist (metas gone : List Json) :
    (namesOf (withoutRefs metas gone)).Sublist (namesOf metas) :=
  List.filter_sublist.filterMap _

namespace PresenceState

variable {state known joins leaves : PresenceState} {key k : String} {e entry : PresenceEntry}

/-! ### Entries by key -/

theorem key_of_get? (h : state.get? key = some e) : (key, e) ∈ state := by
  induction state with
  | nil => cases h
  | cons p rest ih =>
    unfold get? at h
    split_ifs at h with hk
    · cases h
      rw [hk]
      exact List.mem_cons_self
    · exact List.mem_cons_of_mem _ (ih h)

theorem get?_of_forall_ne (h : ∀ p ∈ state, p.1 ≠ key) : state.get? key = none := by
  cases he : state.get? key with
  | none => rfl
  | some e => exact absurd rfl (h _ (key_of_get? he))

/-- The first key of a state does not come again. -/
theorem Sorted.get?_tail {p : String × PresenceEntry} {rest : PresenceState}
    (h : Sorted (p :: rest)) : rest.get? p.1 = none :=
  get?_of_forall_ne fun q hq => ne_of_gt ((List.pairwise_cons.1 h).1 q hq)

theorem Sorted.tail {p : String × PresenceEntry} {rest : PresenceState}
    (h : Sorted (p :: rest)) : Sorted rest :=
  (List.pairwise_cons.1 h).2

theorem mem_iff_get? (h : state.Sorted) : (key, e) ∈ state ↔ state.get? key = some e := by
  refine ⟨fun hmem => ?_, key_of_get?⟩
  induction state with
  | nil => cases hmem
  | cons p rest ih =>
    rcases List.mem_cons.1 hmem with rfl | hmem
    · exact if_pos rfl
    · have hget : get? rest key = some e := ih h.tail hmem
      have hne : key ≠ p.1 := by
        rintro rfl
        rw [h.get?_tail] at hget
        cases hget
      rw [get?, if_neg hne, hget]

/-! ### Joins and leaves of many keys -/

theorem get?_joinAll (state : PresenceState) (h : joins.Sorted) (k : String) :
    (state.joinAll joins).1.get? k =
      (joins.get? k).elim (state.get? k) fun joined => some (joinedEntry (state.get? k) joined) := by
  induction joins generalizing state with
  | nil => rfl
  | cons p rest ih =>
    obtain ⟨key, joined⟩ := p
    have hrest : (state.joinAll ((key, joined) :: rest)).1
        = ((state.join key joined).1.joinAll rest).1 := rfl
    rw [hrest, ih _ h.tail, get?_join, get?]
    by_cases hk : k = key
    · subst hk
      rw [h.get?_tail]
      simp
    · simp [hk]

/-- Each join tells the entry from before all joins. -/
theorem changes_joinAll (state : PresenceState) (h : joins.Sorted) :
    (state.joinAll joins).2 = joins.map fun p => .join p.1 (state.get? p.1) p.2 := by
  induction joins generalizing state with
  | nil => rfl
  | cons p rest ih =>
    obtain ⟨key, joined⟩ := p
    have hrest : (state.joinAll ((key, joined) :: rest)).2
        = (state.join key joined).2 :: ((state.join key joined).1.joinAll rest).2 := rfl
    rw [hrest, ih _ h.tail, List.map_cons]
    refine congrArg₂ _ rfl (List.map_congr_left fun q hq => ?_)
    have hne : q.1 ≠ key := ne_of_gt ((List.pairwise_cons.1 h).1 q hq)
    rw [get?_join, if_neg hne]

theorem get?_leave (state : PresenceState) (key : String) (left : PresenceEntry) (k : String) :
    (state.leave key left).1.get? k =
      if k = key then (state.get? key).bind fun entry => (leftEntry entry left).ifConnected else state.get? k := by
  by_cases hk : k = key
  · subst hk
    rw [if_pos rfl]
    cases hentry : state.get? k with
    | none => rw [leave_of_absent left hentry, hentry]; rfl
    | some entry => exact get?_leave_self left hentry
  · rw [if_neg hk, get?_leave_of_ne state left hk]

theorem get?_leaveAll (state : PresenceState) (h : leaves.Sorted) (k : String) :
    (state.leaveAll leaves).1.get? k =
      (leaves.get? k).elim (state.get? k) fun left => (state.get? k).bind fun entry =>
        (leftEntry entry left).ifConnected := by
  induction leaves generalizing state with
  | nil => rfl
  | cons p rest ih =>
    obtain ⟨key, left⟩ := p
    have hrest : (state.leaveAll ((key, left) :: rest)).1
        = ((state.leave key left).1.leaveAll rest).1 := rfl
    rw [hrest, ih _ h.tail, get?_leave, get?]
    by_cases hk : k = key
    · subst hk
      rw [h.get?_tail]
      simp
    · simp [hk]

/-- Each leave of a key that is present tells what remains of its entry. -/
theorem changes_leaveAll (state : PresenceState) (h : leaves.Sorted) :
    (state.leaveAll leaves).2 = leaves.filterMap fun p =>
      (state.get? p.1).map fun entry => .leave p.1 (leftEntry entry p.2) p.2 := by
  induction leaves generalizing state with
  | nil => rfl
  | cons p rest ih =>
    obtain ⟨key, left⟩ := p
    have hrest : (state.leaveAll ((key, left) :: rest)).2
        = (state.leave key left).2 ++ ((state.leave key left).1.leaveAll rest).2 := rfl
    have hlater : ((state.leave key left).1.leaveAll rest).2 = rest.filterMap fun p =>
        (state.get? p.1).map fun entry => .leave p.1 (leftEntry entry p.2) p.2 := by
      rw [ih _ h.tail]
      refine List.filterMap_congr fun q hq => ?_
      rw [get?_leave_of_ne state left (ne_of_gt ((List.pairwise_cons.1 h).1 q hq))]
    rw [hrest, hlater]
    cases hentry : state.get? key with
    | none => simp [leave, hentry]
    | some entry => simp [leave, hentry]

/-! ### Choices from a state -/

/-- What a choice makes of each entry; a key for which it makes nothing is left out. -/
def pick (choice : String → PresenceEntry → Option PresenceEntry) (state : PresenceState) :
    PresenceState :=
  state.filterMap fun p => (choice p.1 p.2).map fun e => (p.1, e)

variable {choice : String → PresenceEntry → Option PresenceEntry}

theorem mem_pick : (key, e) ∈ pick choice state ↔
    ∃ entry, (key, entry) ∈ state ∧ choice key entry = some e := by
  rw [pick, List.mem_filterMap]
  constructor
  · rintro ⟨⟨l, entry⟩, hmem, hchoice⟩
    obtain ⟨e', he', heq⟩ := Option.map_eq_some_iff.1 hchoice
    cases heq
    exact ⟨entry, hmem, he'⟩
  · rintro ⟨entry, hmem, hchoice⟩
    exact ⟨(key, entry), hmem, by rw [hchoice]; rfl⟩

theorem sorted_pick (choice : String → PresenceEntry → Option PresenceEntry) (h : state.Sorted) :
    (pick choice state).Sorted := by
  refine List.Pairwise.filterMap _ ?_ h
  intro p q hlt p' hp' q' hq'
  obtain ⟨e, -, rfl⟩ := Option.map_eq_some_iff.1 hp'
  obtain ⟨e', -, rfl⟩ := Option.map_eq_some_iff.1 hq'
  exact hlt

theorem get?_pick (choice : String → PresenceEntry → Option PresenceEntry) (h : state.Sorted)
    (k : String) : (pick choice state).get? k = (state.get? k).bind (choice k) := by
  apply Option.ext
  intro e
  rw [← mem_iff_get? (sorted_pick choice h), mem_pick]
  simp only [mem_iff_get? h, Option.bind_eq_some_iff]

/-! ### Names by key -/

/-- The names that a state lists for a key. -/
def refsOf (state : PresenceState) (key : String) : List Json :=
  (state.get? key).elim [] PresenceEntry.refs

theorem refsOf_of_some (h : state.get? key = some e) : state.refsOf key = namesOf e.metas := by
  rw [refsOf, h]
  rfl

theorem refsOf_of_none (h : state.get? key = none) : state.refsOf key = [] := by
  rw [refsOf, h]
  rfl

theorem isListed_joinAll (state : PresenceState) (h : joins.Sorted) (key : String) (ref : Json) :
    isListed ref ((state.joinAll joins).1.refsOf key)
      = (isListed ref (state.refsOf key) || isListed ref (joins.refsOf key)) := by
  simp only [refsOf, get?_joinAll state h]
  cases joins.get? key with
  | none => simp
  | some joined =>
    cases state.get? key with
    | none => simp [joinedEntry]
    | some entry =>
      simp only [Option.elim, joinedEntry, PresenceEntry.refs_eq, namesOf_append, isListed_append,
        isListed_withoutRefs]
      cases isListed ref (namesOf joined.metas) <;> simp

theorem isListed_leaveAll (state : PresenceState) (h : leaves.Sorted) (key : String) (ref : Json) :
    isListed ref ((state.leaveAll leaves).1.refsOf key)
      = (isListed ref (state.refsOf key) && !isListed ref (leaves.refsOf key)) := by
  simp only [refsOf, get?_leaveAll state h]
  cases leaves.get? key with
  | none => simp
  | some left =>
    cases state.get? key with
    | none => simp
    | some entry =>
      simp only [Option.elim_some, Option.bind_some, PresenceEntry.refs_ifConnected, leftEntry,
        isListed_withoutRefs]
      rfl

/-- A diff adds the names of its joins and takes away those of its leaves. -/
theorem isListed_syncDiff (state : PresenceState) {diff : PresenceDiff} (hjoins : diff.joins.Sorted)
    (hleaves : diff.leaves.Sorted) (key : String) (ref : Json) :
    isListed ref ((syncDiff state diff).1.refsOf key)
      = ((isListed ref (state.refsOf key) || isListed ref (diff.joins.refsOf key))
          && !isListed ref (diff.leaves.refsOf key)) := by
  rw [← isListed_joinAll state hjoins, ← isListed_leaveAll _ hleaves]
  rfl

end PresenceState

end Switchboard
