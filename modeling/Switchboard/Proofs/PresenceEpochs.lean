import Mathlib
import Switchboard.Presence.Tracker

/-!
# Presence and joins

A diff of presence belongs to the snapshot of the join under which it came.  A tracker applies it on
arrival if that snapshot is the latest one, and otherwise lets it wait for the next.  It does not note
under which join the diff came, so the next snapshot takes along whatever waits, also diffs of an
earlier join.  Diffs stay in their join exactly as long as no snapshot of another join overtakes them.

The tracker of a `Chronicle` is run by its own functions; beside it there is a log of what they merged.
The log is true to the tracker: to replay it gives the tracker's state.

Main definitions

* `PresenceEvent`, `Delivery`, `Merge`: what comes to a tracker, and what it merges;
* `Chronicle`: a tracker with the log of its merges and the diffs that wait;
* `Merge.InEpoch`: every diff of a log came under the join of the snapshot before it;
* `PresenceEvent.Punctual`: a diff that waits is followed by the snapshot of its own join.

Main results

* `Chronicle.faithful_of`: a log gives the state of its tracker;
* `Chronicle.mem_waiting_iff`: which diffs wait;
* `Chronicle.diffs_in_epoch_iff`: when diffs stay in their join.
-/

set_option autoImplicit false

namespace Switchboard

/-! ### Events and merges -/

/-- What comes to a tracker, with the ref of the join under which it comes. -/
inductive PresenceEvent where
  | snapshot (snapshot : PresenceState) (joinRef : Option Ref)
  | diff (diff : PresenceDiff) (joinRef : Option Ref)

/-- Whether an event is a diff. -/
def PresenceEvent.IsDiff : PresenceEvent → Prop
  | .snapshot .. => False
  | .diff .. => True

/-- A diff with the ref of the join under which it came. -/
structure Delivery where
  diff : PresenceDiff
  joinRef : Option Ref

/-- Something that became part of a state. -/
inductive Merge where
  | snapshot (snapshot : PresenceState) (joinRef : Option Ref)
  | diff (delivery : Delivery)

namespace Merge

variable {log more : List Merge} {deliveries : List Delivery} {q : Option (Option Ref)}

/-- The state after a merge. -/
def apply (state : PresenceState) : Merge → PresenceState
  | .snapshot s _ => (syncState state s).1
  | .diff d => (syncDiff state d.diff).1

/-- The state that merges lead to, from nobody present. -/
def replay (log : List Merge) : PresenceState := log.foldl apply []

/-- The join of the latest snapshot, or the given one if there is none. -/
def epoch (q : Option (Option Ref)) : List Merge → Option (Option Ref)
  | [] => q
  | .snapshot _ r :: rest => epoch (some r) rest
  | .diff _ :: rest => epoch q rest

/-- Every diff came under the join of the latest snapshot before it. -/
def InEpoch (q : Option (Option Ref)) : List Merge → Prop
  | [] => True
  | .snapshot _ r :: rest => InEpoch (some r) rest
  | .diff d :: rest => q = some d.joinRef ∧ InEpoch q rest

theorem epoch_append : epoch q (log ++ more) = epoch (epoch q log) more := by
  induction log generalizing q with
  | nil => rfl
  | cons m rest ih => cases m <;> exact ih

theorem epoch_diffs : epoch q (deliveries.map .diff) = q := by
  induction deliveries with
  | nil => rfl
  | cons d rest ih => exact ih

theorem inEpoch_append : InEpoch q (log ++ more) ↔ InEpoch q log ∧ InEpoch (epoch q log) more := by
  induction log generalizing q with
  | nil => simp [InEpoch, epoch]
  | cons m rest ih => cases m <;> simp [InEpoch, epoch, ih, and_assoc]

theorem inEpoch_diffs : InEpoch q (deliveries.map .diff) ↔ ∀ d ∈ deliveries, q = some d.joinRef := by
  induction deliveries with
  | nil => simp [InEpoch]
  | cons d rest ih => simp [InEpoch, ih]

end Merge

/-! ### Chronicles -/

/-- A tracker with the log of what it merged, and the diffs that wait with their joins. -/
structure Chronicle where
  tracker : PresenceTracker
  merged : List Merge
  waiting : List Delivery

namespace Chronicle

variable {c : Chronicle} {events : List PresenceEvent} {e : PresenceEvent} {d : Delivery}

/-- Nothing has come. -/
def new : Chronicle := ⟨.new, [], []⟩

/-- An event comes to the tracker, which merges it or lets it wait. -/
def take (c : Chronicle) : PresenceEvent → Chronicle
  | .snapshot s r => ⟨(c.tracker.snapshot s r).1, c.merged ++ .snapshot s r :: c.waiting.map .diff, []⟩
  | .diff d r =>
    match c.tracker.diff d r with
    | (tracker, some _) => ⟨tracker, c.merged ++ [.diff ⟨d, r⟩], c.waiting⟩
    | (tracker, none) => ⟨tracker, c.merged, c.waiting ++ [⟨d, r⟩]⟩

/-- The chronicle of some events. -/
def of (events : List PresenceEvent) : Chronicle := events.foldl take new

theorem of_concat (events : List PresenceEvent) (e : PresenceEvent) :
    of (events ++ [e]) = (of events).take e := by
  simp [of]

theorem take_of_awaiting {r : Option Ref} (diff : PresenceDiff) (h : c.tracker.isAwaiting r = true) :
    c.take (.diff diff r) = ⟨{ c.tracker with pending := c.tracker.pending ++ [diff] }, c.merged,
      c.waiting ++ [⟨diff, r⟩]⟩ := by
  simp [take, PresenceTracker.diff, h]

theorem take_of_not_awaiting {r : Option Ref} (diff : PresenceDiff)
    (h : c.tracker.isAwaiting r = false) :
    c.take (.diff diff r) = ⟨{ c.tracker with state := (syncDiff c.tracker.state diff).1 },
      c.merged ++ [.diff ⟨diff, r⟩], c.waiting⟩ := by
  simp [take, PresenceTracker.diff, h]

/-- A diff that waits goes on to wait while diffs come. -/
theorem waiting_take (h : d ∈ c.waiting) (he : e.IsDiff) : d ∈ (c.take e).waiting := by
  cases e with
  | snapshot s r => cases he
  | diff diff r =>
    cases hr : c.tracker.isAwaiting r with
    | true =>
      rw [take_of_awaiting diff hr]
      exact List.mem_append_left _ h
    | false =>
      rw [take_of_not_awaiting diff hr]
      exact h

/-! ### Logs are true -/

/-- The log gives the state, the diffs that wait and the join of the latest snapshot. -/
structure Faithful (c : Chronicle) : Prop where
  state : c.tracker.state = Merge.replay c.merged
  pending : c.tracker.pending = c.waiting.map (·.diff)
  joinRef : c.tracker.joinRef = (Merge.epoch none c.merged).join

theorem applyAll_eq_foldl (state : PresenceState) (deliveries : List Delivery) :
    (PresenceTracker.applyAll state (deliveries.map (·.diff))).1
      = (deliveries.map Merge.diff).foldl Merge.apply state := by
  induction deliveries generalizing state with
  | nil => rfl
  | cons d rest ih => exact ih _

theorem Faithful.take (h : c.Faithful) (e : PresenceEvent) : (c.take e).Faithful := by
  cases e with
  | snapshot s r =>
    refine ⟨?_, rfl, ?_⟩
    · simp only [Chronicle.take, PresenceTracker.snapshot, h.pending, applyAll_eq_foldl]
      simp [Merge.replay, Merge.apply, h.state]
    · simp [Chronicle.take, PresenceTracker.snapshot, Merge.epoch_append, Merge.epoch,
        Merge.epoch_diffs]
  | diff diff r =>
    cases hr : c.tracker.isAwaiting r with
    | true =>
      rw [take_of_awaiting diff hr]
      exact ⟨h.state, by simp [h.pending], h.joinRef⟩
    | false =>
      rw [take_of_not_awaiting diff hr]
      refine ⟨?_, h.pending, ?_⟩
      · simp [Merge.replay, Merge.apply, h.state]
      · simp [Merge.epoch_append, Merge.epoch, h.joinRef]

theorem faithful_of (events : List PresenceEvent) : (of events).Faithful := by
  induction events using List.reverseRecOn with
  | nil => exact ⟨rfl, rfl, rfl⟩
  | append_singleton events e ih =>
    rw [of_concat]
    exact ih.take e

/-- A diff does not wait only if the latest snapshot came under its join. -/
theorem Faithful.epoch_of_not_awaiting {r : Option Ref} (h : c.Faithful)
    (hr : c.tracker.isAwaiting r = false) : Merge.epoch none c.merged = some r := by
  obtain ⟨hsome, heq⟩ : c.tracker.joinRef ≠ none ∧ c.tracker.joinRef = r := by
    simpa [PresenceTracker.isAwaiting, Option.isSome_iff_ne_none] using hr
  rw [h.joinRef] at hsome heq
  cases hepoch : Merge.epoch none c.merged with
  | none => simp [hepoch] at hsome
  | some q => simpa [hepoch] using heq

/-! ### Diffs that wait -/

/-- A list with a new last element, split at one of its elements. -/
theorem concat_eq_split {α : Type} {xs earlier between : List α} {x a : α} :
    xs ++ [x] = earlier ++ a :: between ↔
      (xs = earlier ∧ x = a ∧ between = []) ∨
        ∃ rest, xs = earlier ++ a :: rest ∧ between = rest ++ [x] := by
  rcases List.eq_nil_or_concat between with rfl | ⟨rest, y, rfl⟩
  · simp
  · have hassoc : earlier ++ a :: rest.concat y = (earlier ++ a :: rest) ++ [y] := by simp
    rw [hassoc, List.append_singleton_inj, List.concat_eq_append]
    constructor
    · rintro ⟨rfl, rfl⟩
      exact .inr ⟨rest, rfl, rfl⟩
    · rintro (⟨-, -, h⟩ | ⟨rest', rfl, h⟩)
      · exact absurd h (List.append_ne_nil_of_right_ne_nil _ (List.cons_ne_nil _ _))
      · obtain ⟨rfl, rfl⟩ := List.append_singleton_inj.1 h
        exact ⟨rfl, rfl⟩

/-- A diff waits if it had to when it came, and no snapshot came since. -/
theorem mem_waiting_iff : d ∈ (of events).waiting ↔
    ∃ earlier between, events = earlier ++ .diff d.diff d.joinRef :: between ∧
      (∀ e ∈ between, e.IsDiff) ∧ (of earlier).tracker.isAwaiting d.joinRef = true := by
  induction events using List.reverseRecOn with
  | nil => simp [of, new]
  | append_singleton events e ih =>
    rw [of_concat]
    constructor
    · intro h
      -- It waited already, or it is the last event.
      have hcases : e.IsDiff ∧ (d ∈ (of events).waiting ∨
          e = .diff d.diff d.joinRef ∧ (of events).tracker.isAwaiting d.joinRef = true) := by
        cases e with
        | snapshot s r => simp [take] at h
        | diff diff r =>
          refine ⟨trivial, ?_⟩
          cases hr : (of events).tracker.isAwaiting r with
          | true =>
            rw [take_of_awaiting diff hr] at h
            rcases List.mem_append.1 h with h | h
            · exact .inl h
            · cases List.mem_singleton.1 h
              exact .inr ⟨rfl, hr⟩
          | false =>
            rw [take_of_not_awaiting diff hr] at h
            exact .inl h
      obtain ⟨hdiff, hwaiting | ⟨rfl, hawaiting⟩⟩ := hcases
      · obtain ⟨earlier, between, rfl, hbetween, hawaiting⟩ := ih.1 hwaiting
        refine ⟨earlier, between ++ [e], by simp, ?_, hawaiting⟩
        intro e' he'
        rcases List.mem_append.1 he' with he' | he'
        · exact hbetween e' he'
        · rwa [List.mem_singleton.1 he']
      · exact ⟨events, [], rfl, by simp, hawaiting⟩
    · rintro ⟨earlier, between, hevents, hbetween, hawaiting⟩
      rcases concat_eq_split.1 hevents with ⟨rfl, rfl, rfl⟩ | ⟨rest, hrest, rfl⟩
      · rw [take_of_awaiting _ hawaiting]
        exact List.mem_append_right _ (List.mem_singleton_self _)
      · have hwaiting : d ∈ (of events).waiting :=
          ih.2 ⟨earlier, rest, hrest, fun e' he' => hbetween e' (by simp [he']), hawaiting⟩
        exact waiting_take hwaiting (hbetween e (by simp))

/-! ### When diffs stay in their join -/

/-- If a snapshot comes, it is that of the join of every diff that waits. -/
def OnTime (c : Chronicle) (e : PresenceEvent) : Prop :=
  ∀ snapshot q, e = .snapshot snapshot q → ∀ d ∈ c.waiting, d.joinRef = q

/-- The first snapshot after a diff that has to wait is that of its own join. -/
def Punctual (events : List PresenceEvent) : Prop :=
  ∀ earlier diff r between snapshot q later,
    events = earlier ++ .diff diff r :: between ++ .snapshot snapshot q :: later →
      (∀ e ∈ between, e.IsDiff) → (of earlier).tracker.isAwaiting r = true → q = r

theorem punctual_concat : Punctual (events ++ [e]) ↔ Punctual events ∧ (of events).OnTime e := by
  constructor
  · intro h
    refine ⟨?_, ?_⟩
    · intro earlier diff r between snapshot q later hevents
      exact h earlier diff r between snapshot q (later ++ [e]) (by simp [hevents])
    · rintro snapshot q rfl d hd
      obtain ⟨earlier, between, hevents, hbetween, hawaiting⟩ := mem_waiting_iff.1 hd
      exact (h earlier d.diff d.joinRef between snapshot q [] (by simp [hevents]) hbetween
        hawaiting).symm
  · rintro ⟨hpunctual, honTime⟩ earlier diff r between snapshot q later hevents hbetween hawaiting
    rcases concat_eq_split.1 hevents with ⟨hbefore, rfl, -⟩ | ⟨rest, hbefore, -⟩
    · have hwaiting : (⟨diff, r⟩ : Delivery) ∈ (of events).waiting :=
        mem_waiting_iff.2 ⟨earlier, between, hbefore, hbetween, hawaiting⟩
      exact (honTime snapshot q rfl _ hwaiting).symm
    · exact hpunctual earlier diff r between snapshot q rest hbefore hbetween hawaiting

/-- A diff that does not wait stays in its join, and one that waited does if its snapshot comes. -/
theorem Faithful.inEpoch_take (h : c.Faithful) :
    Merge.InEpoch none (c.take e).merged ↔ Merge.InEpoch none c.merged ∧ c.OnTime e := by
  cases e with
  | snapshot s r =>
    simp only [Chronicle.take, Merge.inEpoch_append, Merge.InEpoch, Merge.inEpoch_diffs]
    refine and_congr_right fun _ => ⟨?_, ?_⟩
    · rintro hdiffs snapshot q heq d hd
      cases heq
      exact (Option.some.inj (hdiffs d hd)).symm
    · intro honTime d hd
      rw [honTime s r rfl d hd]
  | diff diff r =>
    have honTime : c.OnTime (.diff diff r) := fun _ _ heq => by cases heq
    cases hr : c.tracker.isAwaiting r with
    | true =>
      rw [take_of_awaiting diff hr]
      exact (and_iff_left honTime).symm
    | false =>
      rw [take_of_not_awaiting diff hr]
      simp [Merge.inEpoch_append, Merge.InEpoch, h.epoch_of_not_awaiting hr, honTime]

theorem inEpoch_iff_punctual (events : List PresenceEvent) :
    Merge.InEpoch none (of events).merged ↔ Punctual events := by
  induction events using List.reverseRecOn with
  | nil =>
    refine iff_of_true trivial ?_
    intro earlier diff r between snapshot q later hevents
    simp at hevents
  | append_singleton events e ih =>
    rw [of_concat, (faithful_of events).inEpoch_take, ih, punctual_concat]

/--
The log of a tracker gives its state and the diffs that wait.  All diffs were applied to states whose
latest snapshot came under their own join if and only if every diff that had to wait was followed by
the snapshot of its own join.
-/
theorem diffs_in_epoch_iff (events : List PresenceEvent) :
    (of events).tracker.state = Merge.replay (of events).merged ∧
      (of events).tracker.pending = (of events).waiting.map (·.diff) ∧
      (Merge.InEpoch none (of events).merged ↔ Punctual events) :=
  ⟨(faithful_of events).state, (faithful_of events).pending, inEpoch_iff_punctual events⟩

/-- A diff of a join that never got its snapshot is applied to the snapshot of the next join. -/
theorem overtaken_diff_leaves_epoch (diff : PresenceDiff) (snapshot : PresenceState) :
    ¬ Merge.InEpoch none (of [.diff diff (some "1"), .snapshot snapshot (some "2")]).merged := by
  simp [of, new, take, PresenceTracker.diff, PresenceTracker.snapshot, PresenceTracker.new,
    PresenceTracker.isAwaiting, Merge.InEpoch]

end Chronicle

end Switchboard
