import Mathlib
import Switchboard.Proofs.Asides
import Switchboard.Proofs.PresenceEpochs
import Switchboard.Proofs.Replica

/-!
# Notices of a presence

An event of a presence makes its callbacks run: one for each change that the event makes, in the order
of the changes, and one at the end.  A diff that waits for its snapshot makes no callback run.  So a
listener that has callbacks for joins and for leaves from the beginning hears of every change, and a
replica that changes with the callbacks alone goes along with the state of the presence.

The callbacks take steps of their own.  No step changes whom a presence lists or makes its callbacks
run, so the calls of an event stay in order, whatever the callbacks do.

Main definitions

* `PresenceTracker.receive`, `PresenceTracker.holdsBack`: an event comes to a tracker, and may wait;
* `PresenceCallbacks.calls`: the calls for some changes;
* `PresenceVisit`: an event that came to a presence, and the calls that it made;
* `Stage.Attended`: events come to a presence one after another, with anything else in between;
* `PresenceVisit.changes`: what a listener heard.

Main results

* `Stage.told_notify`, `Stage.heard_feed`: the calls of an event;
* `Stage.Attended.tracker_eq`: callbacks do not change whom a presence lists;
* `Stage.Attended.perform`, `Stage.Attended.step`: all that a socket does and every step is attended;
* `Stage.presence_log_complete`: the calls are a complete log of the state.
-/

set_option autoImplicit false

namespace Switchboard

/-! ### What comes to a presence -/

namespace PresenceTracker

/-- An event comes to a tracker; nothing is noticed of a diff that waits. -/
def receive (t : PresenceTracker) : PresenceEvent → PresenceTracker × Option (List PresenceChange)
  | .snapshot snapshot joinRef =>
    ((t.snapshot snapshot joinRef).1, some (t.snapshot snapshot joinRef).2)
  | .diff diff joinRef => t.diff diff joinRef

/-- Whether an event is a diff that has to wait for its snapshot. -/
def holdsBack (t : PresenceTracker) : PresenceEvent → Bool
  | .snapshot .. => false
  | .diff _ joinRef => t.isAwaiting joinRef

theorem follows_receive (tracker : PresenceTracker) (event : PresenceEvent) :
    tracker.state.Follows (tracker.receive event).1.state ((tracker.receive event).2.getD []) := by
  cases event with
  | snapshot snapshot joinRef => exact follows_snapshot tracker snapshot joinRef
  | diff diff joinRef => exact follows_diff tracker diff joinRef

theorem receive_eq_none_iff (tracker : PresenceTracker) (event : PresenceEvent) :
    (tracker.receive event).2 = none ↔ tracker.holdsBack event = true := by
  cases event with
  | snapshot snapshot joinRef => simp [receive, holdsBack]
  | diff diff joinRef =>
    cases hawaiting : tracker.isAwaiting joinRef <;>
      simp [receive, holdsBack, PresenceTracker.diff, hawaiting]

end PresenceTracker

theorem Chronicle.tracker_take (c : Chronicle) (e : PresenceEvent) :
    (c.take e).tracker = (c.tracker.receive e).1 := by
  cases e with
  | snapshot snapshot joinRef => rfl
  | diff diff joinRef =>
    cases hawaiting : c.tracker.isAwaiting joinRef with
    | true =>
      rw [Chronicle.take_of_awaiting diff hawaiting]
      simp [PresenceTracker.receive, PresenceTracker.diff, hawaiting]
    | false =>
      rw [Chronicle.take_of_not_awaiting diff hawaiting]
      simp [PresenceTracker.receive, PresenceTracker.diff, hawaiting]

namespace Simulation

/-- What a presence reads of an event. -/
def PresenceFeed.read? (f : PresenceFeed) (event : InboundEvent) : Option PresenceEvent :=
  match f with
  | .snapshots => (event.payload.json?.bind PresenceState.ofJson?).map (.snapshot · event.joinRef)
  | .diffs => (event.payload.json?.bind PresenceDiff.ofJson?).map (.diff · event.joinRef)

/-! ### Calls for changes -/

namespace PresenceCallbacks

variable {c c' c'' : PresenceCallbacks} {change : PresenceChange} {changes : List PresenceChange}

/-- The label of the callback for a change. -/
def label? (c : PresenceCallbacks) : PresenceChange → Option Nat
  | .join .. => c.onJoin.map (·.label)
  | .leave .. => c.onLeave.map (·.label)

/-- The call for a change, if there is a callback for it. -/
def call? (c : PresenceCallbacks) (change : PresenceChange) : Option PresenceCall :=
  (c.label? change).map (.changed · change)

/-- The call at the end, if there is a callback for it. -/
def syncCall? (c : PresenceCallbacks) : Option PresenceCall :=
  (c.onSync.map (·.label)).map .synced

/-- The calls for some changes. -/
def calls (c : PresenceCallbacks) (changes : List PresenceChange) : List PresenceCall :=
  changes.filterMap c.call? ++ c.syncCall?.toList

/-- Callbacks with the same labels. -/
structure SameLabels (c c' : PresenceCallbacks) : Prop where
  onJoin : c'.onJoin.map (·.label) = c.onJoin.map (·.label)
  onLeave : c'.onLeave.map (·.label) = c.onLeave.map (·.label)
  onSync : c'.onSync.map (·.label) = c.onSync.map (·.label)

theorem SameLabels.refl (c : PresenceCallbacks) : c.SameLabels c := ⟨rfl, rfl, rfl⟩

theorem SameLabels.trans (h : c.SameLabels c') (h' : c'.SameLabels c'') : c.SameLabels c'' :=
  ⟨h'.onJoin.trans h.onJoin, h'.onLeave.trans h.onLeave, h'.onSync.trans h.onSync⟩

theorem SameLabels.call?_eq (h : c.SameLabels c') (change : PresenceChange) :
    c'.call? change = c.call? change := by
  cases change with
  | join key before joined => simp [call?, label?, h.onJoin]
  | leave key after left => simp [call?, label?, h.onLeave]

theorem SameLabels.syncCall?_eq (h : c.SameLabels c') : c'.syncCall? = c.syncCall? := by
  rw [syncCall?, syncCall?, h.onSync]

theorem SameLabels.lasts (h : c.SameLabels c') : c.Lasts c' := by
  have isSome_of_map : ∀ {a b : Option PresenceCallback}, b.map (·.label) = a.map (·.label) →
      a.isSome = true → b.isSome = true := by
    intro a b hlabel ha
    rw [← Option.isSome_map (f := (·.label)), hlabel, Option.isSome_map, ha]
  exact ⟨isSome_of_map h.onJoin, isSome_of_map h.onLeave, isSome_of_map h.onSync⟩

end PresenceCallbacks

/-- The change that a call tells. -/
def PresenceCall.change? : PresenceCall → Option PresenceChange
  | .changed _ change => some change
  | .synced _ => none

/-- Whether a call is the one at the end of an event. -/
def PresenceCall.isSync : PresenceCall → Bool
  | .changed .. => false
  | .synced _ => true

namespace PresenceCallbacks

variable {c : PresenceCallbacks} {change : PresenceChange} {changes : List PresenceChange}

/-- With callbacks for joins and leaves, the calls tell all changes. -/
theorem changes_calls (hjoin : c.onJoin.isSome = true) (hleave : c.onLeave.isSome = true)
    (changes : List PresenceChange) : (c.calls changes).filterMap PresenceCall.change? = changes := by
  obtain ⟨j, hj⟩ := Option.isSome_iff_exists.1 hjoin
  obtain ⟨l, hl⟩ := Option.isSome_iff_exists.1 hleave
  have hsync : c.syncCall?.toList.filterMap PresenceCall.change? = [] := by
    cases hs : c.onSync <;> simp [syncCall?, hs, PresenceCall.change?]
  have hcall : ∀ change, (c.call? change).bind PresenceCall.change? = some change := by
    intro change
    cases change <;> simp [call?, label?, hj, hl, PresenceCall.change?]
  rw [calls, List.filterMap_append, hsync, List.append_nil, List.filterMap_filterMap]
  simp [hcall]

/-- There is one call at the end, if there is a callback for it. -/
theorem syncs_calls (c : PresenceCallbacks) (changes : List PresenceChange) :
    (c.calls changes).filter PresenceCall.isSync = c.syncCall?.toList := by
  have hnone : (changes.filterMap c.call?).filter PresenceCall.isSync = [] := by
    rw [List.filter_eq_nil_iff]
    intro call hcall
    obtain ⟨change, -, hchange⟩ := List.mem_filterMap.1 hcall
    obtain ⟨label, -, rfl⟩ := Option.map_eq_some_iff.1 hchange
    simp [PresenceCall.isSync]
  have hall : c.syncCall?.toList.filter PresenceCall.isSync = c.syncCall?.toList := by
    cases hs : c.onSync <;> simp [syncCall?, hs, PresenceCall.isSync]
  rw [calls, List.filter_append, hnone, hall, List.nil_append]

/-- A change is told to the callback for it. -/
theorem label?_of_mem_calls {label : Nat} (h : .changed label change ∈ c.calls changes) :
    c.label? change = some label := by
  rcases List.mem_append.1 h with h | h
  · obtain ⟨told, -, hcall⟩ := List.mem_filterMap.1 h
    obtain ⟨label', hlabel, heq⟩ := Option.map_eq_some_iff.1 hcall
    cases heq
    exact hlabel
  · cases hs : c.onSync <;> simp [syncCall?, hs] at h

end PresenceCallbacks

namespace Stage

variable {s t u : Stage} {n m : Nat} {slot : PresenceSlot} {changes : List PresenceChange}
variable {calls more : List PresenceCall}

/-! ### Callbacks run -/

/-- Some callbacks of a presence ran, with these calls. -/
structure Called (start : PresenceCallbacks × Stage) (calls : List PresenceCall)
    (stop : PresenceCallbacks × Stage) : Prop where
  labels : start.1.SameLabels stop.1
  keeps : ∀ n, Keeps n start.2 stop.2
  calls : stop.2.presenceCalls = start.2.presenceCalls ++ calls

variable {a b d : PresenceCallbacks × Stage}

theorem Called.refl (a : PresenceCallbacks × Stage) : Called a [] a :=
  ⟨.refl a.1, fun n => .refl n a.2, (List.append_nil _).symm⟩

theorem Called.trans (h : Called a calls b) (h' : Called b more d) : Called a (calls ++ more) d :=
  ⟨h.labels.trans h'.labels, fun n => (h.keeps n).trans (h'.keeps n),
    by rw [h'.calls, h.calls, List.append_assoc]⟩

/-- A callback that runs keeps its label, and only its own call is one of a presence. -/
theorem callPresence_spec (s : Stage) (callback : Option PresenceCallback)
    (saying : Nat → Happening) :
    (s.callPresence callback saying).1.map (·.label) = callback.map (·.label) ∧
      (∀ n, Keeps n s (s.callPresence callback saying).2) ∧
      (s.callPresence callback saying).2.presenceCalls =
        s.presenceCalls ++ (callback.bind fun c => (saying c.label).presenceCall?).toList := by
  cases callback with
  | none => exact ⟨rfl, fun n => .refl n s, (List.append_nil _).symm⟩
  | some c =>
    have hscript := aside_runScript (s.say (saying c.label)) c.label c.script
    refine ⟨rfl, fun n => ?_, hscript.calls.trans (presenceCalls_say ..)⟩
    exact Keeps.trans (fun slot h => ⟨slot, h, rfl, .refl _⟩) (hscript.keeps n)

theorem called_callChange (c : PresenceCallbacks) (s : Stage) (change : PresenceChange) :
    Called (c, s) (c.call? change).toList (callChange (c, s) change) := by
  cases change with
  | join key before joined =>
    obtain ⟨hlabel, hkeeps, hcalls⟩ :=
      s.callPresence_spec c.onJoin (.presence · (.join key before joined))
    refine ⟨⟨hlabel, rfl, rfl⟩, hkeeps, hcalls.trans ?_⟩
    cases hj : c.onJoin <;>
      simp [PresenceCallbacks.call?, PresenceCallbacks.label?, hj, Happening.presenceCall?]
  | leave key after left =>
    obtain ⟨hlabel, hkeeps, hcalls⟩ :=
      s.callPresence_spec c.onLeave (.presence · (.leave key after left))
    refine ⟨⟨rfl, hlabel, rfl⟩, hkeeps, hcalls.trans ?_⟩
    cases hl : c.onLeave <;>
      simp [PresenceCallbacks.call?, PresenceCallbacks.label?, hl, Happening.presenceCall?]

theorem called_foldl (c : PresenceCallbacks) (s : Stage) (changes : List PresenceChange) :
    Called (c, s) (changes.filterMap c.call?) (changes.foldl callChange (c, s)) := by
  induction changes generalizing c s with
  | nil => exact .refl (c, s)
  | cons change rest ih =>
    have hfirst := called_callChange c s change
    have hrest := ih (callChange (c, s) change).1 (callChange (c, s) change).2
    have hcall : rest.filterMap (callChange (c, s) change).1.call? = rest.filterMap c.call? :=
      List.filterMap_congr fun change _ => hfirst.labels.call?_eq change
    rw [hcall] at hrest
    have hcons : (change :: rest).filterMap c.call? =
        (c.call? change).toList ++ rest.filterMap c.call? := by
      cases hc : c.call? change <;> simp [hc]
    rw [hcons]
    exact hfirst.trans hrest

/-! ### An event is told -/

/-- The callbacks of a presence run: the changes are told in their order, and then the end. -/
structure Told (slot : PresenceSlot) (changes : List PresenceChange) (s t : Stage) : Prop where
  calls : t.presenceCalls = s.presenceCalls ++ slot.callbacks.calls changes
  keeps : ∀ m, Keeps m s t

/-- What a presence is after its callbacks have run. -/
theorem notify_eq (hslot : s.scene.presences[n]? = some slot) {c : PresenceCallbacks}
    {o : Option PresenceCallback} {late : PresenceSlot}
    (hfold : changes.foldl callChange
      (slot.callbacks, s.setPresence n { slot with callbacks := .empty }) = (c, t))
    (hsync : t.callPresence c.onSync .synced = (o, u)) (hlate : u.scene.presences[n]? = some late) :
    s.notify n changes = u.setPresence n
      { late with callbacks := mergeCallbacks late.callbacks { c with onSync := o } } := by
  simp only [notify, hslot, hfold, hsync, hlate]

/-- The callbacks that were there are there again, where no others were set meanwhile. -/
theorem lasts_mergeCallbacks (installed : PresenceCallbacks) {c c' : PresenceCallbacks}
    (h : c.SameLabels c') : c.Lasts (mergeCallbacks installed c') := by
  have hlasts := h.lasts
  refine ⟨fun hc => ?_, fun hc => ?_, fun hc => ?_⟩
  · simp [mergeCallbacks, hlasts.onJoin hc]
  · simp [mergeCallbacks, hlasts.onLeave hc]
  · simp [mergeCallbacks, hlasts.onSync hc]

theorem told_notify (hslot : s.scene.presences[n]? = some slot) (changes : List PresenceChange) :
    Told slot changes s (s.notify n changes) := by
  obtain ⟨⟨c, t⟩, hfold⟩ : ∃ p, changes.foldl callChange
      (slot.callbacks, s.setPresence n { slot with callbacks := .empty }) = p := ⟨_, rfl⟩
  obtain ⟨⟨o, u⟩, hsync⟩ : ∃ p, t.callPresence c.onSync .synced = p := ⟨_, rfl⟩
  have hcalled := called_foldl slot.callbacks (s.setPresence n { slot with callbacks := .empty }) changes
  rw [hfold] at hcalled
  obtain ⟨hlabel, hkeeps, hcalls⟩ := t.callPresence_spec c.onSync .synced
  rw [hsync] at hlabel hkeeps hcalls
  -- Meanwhile the presence had no callbacks but those that were set by the others.
  have hbare := presences_setPresence_self hslot { slot with callbacks := .empty }
  obtain ⟨late, hlate, htracker, -⟩ := ((hcalled.keeps n).trans (hkeeps n)) _ hbare
  rw [notify_eq hslot hfold hsync hlate]
  have hsame : slot.callbacks.SameLabels { c with onSync := o } :=
    ⟨hcalled.labels.onJoin, hcalled.labels.onLeave, hlabel.trans hcalled.labels.onSync⟩
  refine ⟨?_, fun m => ?_⟩
  · have hlast : (c.onSync.bind fun k => (Happening.synced k.label).presenceCall?) = c.syncCall? := by
      cases hc : c.onSync <;> simp [PresenceCallbacks.syncCall?, hc, Happening.presenceCall?]
    calc u.presenceCalls
        = t.presenceCalls ++ slot.callbacks.syncCall?.toList := by
          rw [hcalls, hlast, hcalled.labels.syncCall?_eq]
      _ = s.presenceCalls ++ slot.callbacks.calls changes := by
          rw [hcalled.calls, List.append_assoc]
          rfl
  · by_cases hm : n = m
    · subst hm
      intro before hbefore
      cases hslot.symm.trans hbefore
      exact ⟨_, presences_setPresence_self hlate _, htracker, lasts_mergeCallbacks _ hsame⟩
    · exact (keeps_setPresence_of_ne s _ hm).trans
        (((hcalled.keeps m).trans (hkeeps m)).trans (keeps_setPresence_of_ne u _ hm))

/-! ### Events of a presence -/

/-- An event came to a presence: its tracker received it, and what was noticed is told. -/
structure Heard (n : Nat) (slot : PresenceSlot) (event : PresenceEvent) (s t : Stage) : Prop where
  presence : ∃ slot', t.scene.presences[n]? = some slot' ∧
    slot'.tracker = (slot.tracker.receive event).1 ∧ slot.callbacks.Lasts slot'.callbacks
  others : ∀ m, n ≠ m → Keeps m s t
  calls : t.presenceCalls = s.presenceCalls ++
    ((slot.tracker.receive event).2.map slot.callbacks.calls).getD []

theorem heard_notify {event : PresenceEvent} {tracker : PresenceTracker}
    (hslot : s.scene.presences[n]? = some slot)
    (hreceive : slot.tracker.receive event = (tracker, some changes)) :
    Heard n slot event s ((s.setPresence n { slot with tracker := tracker }).notify n changes) := by
  have hset := presences_setPresence_self hslot { slot with tracker := tracker }
  have htold := told_notify hset changes
  refine ⟨?_, fun m hm => (keeps_setPresence_of_ne s _ hm).trans (htold.keeps m), ?_⟩
  · rw [hreceive]
    exact htold.keeps n _ hset
  · rw [hreceive]
    exact htold.calls

/-- The tracker has gone on, and nothing is noticed of it. -/
theorem heard_setPresence {event : PresenceEvent} {tracker : PresenceTracker}
    (hslot : s.scene.presences[n]? = some slot)
    (hreceive : slot.tracker.receive event = (tracker, none)) :
    Heard n slot event s (s.setPresence n { slot with tracker := tracker }) := by
  have hset := presences_setPresence_self hslot { slot with tracker := tracker }
  refine ⟨⟨_, hset, ?_, .refl _⟩, fun m hm => keeps_setPresence_of_ne s _ hm, ?_⟩
  · rw [hreceive]
  · rw [hreceive]
    exact (List.append_nil _).symm

/-- An event that a presence can read is heard. -/
theorem heard_feed {f : PresenceFeed} {event : InboundEvent} {read : PresenceEvent}
    (hslot : s.scene.presences[n]? = some slot) (hread : f.read? event = some read) :
    Heard n slot read s (s.feed n f event) := by
  cases f with
  | snapshots =>
    obtain ⟨snapshot, hdecode, rfl⟩ := Option.map_eq_some_iff.1 hread
    simp only [feed, presenceSnapshot, hslot, hdecode]
    exact heard_notify hslot rfl
  | diffs =>
    obtain ⟨diff, hdecode, rfl⟩ := Option.map_eq_some_iff.1 hread
    obtain ⟨⟨tracker, noticed⟩, hreceive⟩ :
        ∃ p, slot.tracker.diff diff event.joinRef = p := ⟨_, rfl⟩
    simp only [feed, presenceDiff, hslot, hdecode, hreceive]
    cases noticed with
    | some changes => exact heard_notify hslot hreceive
    | none => exact heard_setPresence hslot hreceive

theorem feed_of_absent (f : PresenceFeed) (event : InboundEvent)
    (h : s.scene.presences[n]? = none) : s.feed n f event = s := by
  cases f with
  | snapshots => simp only [feed, presenceSnapshot, h]
  | diffs => simp only [feed, presenceDiff, h]

/-- An event that a presence cannot read leaves everything as it is. -/
theorem feed_of_unreadable {f : PresenceFeed} {event : InboundEvent}
    (hslot : s.scene.presences[n]? = some slot) (hread : f.read? event = none) :
    s.feed n f event = s := by
  cases f with
  | snapshots => simp only [feed, presenceSnapshot, hslot, Option.map_eq_none_iff.1 hread]
  | diffs => simp only [feed, presenceDiff, hslot, Option.map_eq_none_iff.1 hread]

end Stage

/-! ### Runs of a presence -/

/-- An event that came to a presence, what the presence was before, and the calls that were made. -/
structure PresenceVisit where
  slot : PresenceSlot
  event : PresenceEvent
  calls : List PresenceCall

/-- The changes that a listener heard of, in order. -/
def PresenceVisit.changes (log : List PresenceVisit) : List PresenceChange :=
  log.flatMap fun v => v.calls.filterMap PresenceCall.change?

theorem PresenceVisit.changes_concat (log : List PresenceVisit) (v : PresenceVisit) :
    changes (log ++ [v]) = changes log ++ v.calls.filterMap PresenceCall.change? := by
  simp [changes]

/-- The calls of an event are made to the callbacks that the presence then had, once at its end. -/
structure PresenceVisit.Proper (v : PresenceVisit) : Prop where
  heldBack : v.slot.tracker.holdsBack v.event = true → v.calls = []
  synced : v.slot.tracker.holdsBack v.event = false →
    v.calls.filter PresenceCall.isSync = v.slot.callbacks.syncCall?.toList
  labels : ∀ label change, .changed label change ∈ v.calls →
    v.slot.callbacks.label? change = some label

namespace Stage

variable {s t u : Stage} {n : Nat} {slot first : PresenceSlot} {log : List PresenceVisit}

/-- The calls between two moments. -/
def callsSince (s t : Stage) : List PresenceCall := t.presenceCalls.drop s.presenceCalls.length

/--
Events come to a presence one after another.  In between, anything may happen that keeps the presence,
also to its callbacks; what was seen may be put away.
-/
inductive Attended (n : Nat) (s : Stage) : List PresenceVisit → Stage → Prop
  | start : Attended n s [] s
  | meanwhile {log : List PresenceVisit} {t u : Stage} (run : Attended n s log t)
      (keeps : Keeps n t u) : Attended n s log u
  | event {log : List PresenceVisit} {t : Stage} {slot : PresenceSlot} {f : PresenceFeed}
      {event : InboundEvent} {read : PresenceEvent} (run : Attended n s log t)
      (present : t.scene.presences[n]? = some slot) (reads : f.read? event = some read) :
      Attended n s (log ++ [⟨slot, read, callsSince t (t.feed n f event)⟩]) (t.feed n f event)

/-- A presence with callbacks for joins and leaves, and what a listener heard of it. -/
structure Tracked (log : List PresenceVisit) (slot : PresenceSlot) : Prop where
  onJoin : slot.callbacks.onJoin.isSome = true
  onLeave : slot.callbacks.onLeave.isSome = true
  sorted : slot.tracker.state.Sorted
  replica : PresenceChange.replica (PresenceVisit.changes log) = slot.tracker.state.get?
  truthful : PresenceChange.Truthful (fun _ => none) (PresenceVisit.changes log)
  proper : ∀ v ∈ log, v.Proper

theorem Heard.callsSince_eq {event : PresenceEvent} (h : Heard n slot event s t) :
    callsSince s t = ((slot.tracker.receive event).2.map slot.callbacks.calls).getD [] := by
  rw [callsSince, h.calls, List.drop_left]

/-- The calls of an event are proper. -/
theorem Heard.proper {event : PresenceEvent} (h : Heard n slot event s t) :
    PresenceVisit.Proper ⟨slot, event, callsSince s t⟩ := by
  cases hnoticed : (slot.tracker.receive event).2 with
  | none =>
    have hcalls : callsSince s t = [] := by
      rw [h.callsSince_eq, hnoticed]
      rfl
    have hback := (slot.tracker.receive_eq_none_iff event).1 hnoticed
    refine ⟨fun _ => hcalls, ?_, ?_⟩
    · intro hfalse
      exact absurd (hback.symm.trans hfalse) Bool.noConfusion
    · intro label change hmem
      rw [hcalls] at hmem
      exact absurd hmem List.not_mem_nil
  | some changes =>
    have hcalls : callsSince s t = slot.callbacks.calls changes := by
      rw [h.callsSince_eq, hnoticed]
      rfl
    refine ⟨?_, fun _ => ?_, ?_⟩
    · intro hback
      rw [(slot.tracker.receive_eq_none_iff event).2 hback] at hnoticed
      cases hnoticed
    · exact (congrArg _ hcalls).trans (slot.callbacks.syncs_calls changes)
    · intro label change hmem
      rw [hcalls] at hmem
      exact PresenceCallbacks.label?_of_mem_calls hmem

/-- With callbacks for joins and leaves, what was noticed of an event is what a listener hears of it. -/
theorem Heard.changes_eq {event : PresenceEvent} (h : Heard n slot event s t)
    (hjoin : slot.callbacks.onJoin.isSome = true) (hleave : slot.callbacks.onLeave.isSome = true) :
    (callsSince s t).filterMap PresenceCall.change? = (slot.tracker.receive event).2.getD [] := by
  rw [h.callsSince_eq]
  cases (slot.tracker.receive event).2 with
  | none => rfl
  | some changes => exact PresenceCallbacks.changes_calls hjoin hleave changes

/-- An event that is heard is tracked. -/
theorem Tracked.heard {event : PresenceEvent} (h : Tracked log slot) (hheard : Heard n slot event s t) :
    ∃ slot', t.scene.presences[n]? = some slot' ∧
      Tracked (log ++ [⟨slot, event, callsSince s t⟩]) slot' := by
  obtain ⟨slot', hslot', htracker, hlasts⟩ := hheard.presence
  have hfollows := slot.tracker.follows_receive event
  have hchanges : PresenceVisit.changes (log ++ [⟨slot, event, callsSince s t⟩]) =
      PresenceVisit.changes log ++ (slot.tracker.receive event).2.getD [] := by
    rw [← hheard.changes_eq h.onJoin h.onLeave]
    exact PresenceVisit.changes_concat log _
  have hreplica := h.replica
  refine ⟨slot', hslot', hlasts.onJoin h.onJoin, hlasts.onLeave h.onLeave, ?_, ?_, ?_, ?_⟩
  · rw [htracker]
    exact hfollows.sorted h.sorted
  · rw [hchanges, htracker, ← hfollows.replica, ← hreplica]
    exact List.foldl_append
  · rw [hchanges, PresenceChange.truthful_append]
    refine ⟨h.truthful, ?_⟩
    have htruthful := hfollows.truthful
    rw [← hreplica] at htruthful
    exact htruthful
  · intro v hv
    rcases List.mem_append.1 hv with hv | hv
    · exact h.proper v hv
    · rw [List.mem_singleton.1 hv]
      exact hheard.proper

theorem Attended.tracked (run : Attended n s log t) (hslot : s.scene.presences[n]? = some first)
    (hfirst : Tracked [] first) :
    ∃ slot, t.scene.presences[n]? = some slot ∧ Tracked log slot := by
  induction run with
  | start => exact ⟨first, hslot, hfirst⟩
  | meanwhile run keeps ih =>
    obtain ⟨slot, hpresent, h⟩ := ih
    obtain ⟨slot', hpresent', htracker, hlasts⟩ := keeps slot hpresent
    refine ⟨slot', hpresent', hlasts.onJoin h.onJoin, hlasts.onLeave h.onLeave, ?_, ?_, h.truthful,
      h.proper⟩
    · rw [htracker]
      exact h.sorted
    · rw [htracker]
      exact h.replica
  | event run present reads ih =>
    obtain ⟨slot, hpresent, h⟩ := ih
    cases hpresent.symm.trans present
    exact h.heard (heard_feed hpresent reads)

/-- The tracker of a presence depends on the events alone, whatever its callbacks did meanwhile. -/
theorem Attended.tracker_eq (run : Attended n s log t) (hslot : s.scene.presences[n]? = some first)
    (hnew : first.tracker = .new) :
    ∃ slot, t.scene.presences[n]? = some slot ∧
      slot.tracker = (Chronicle.of (log.map (·.event))).tracker := by
  induction run with
  | start => exact ⟨first, hslot, hnew⟩
  | meanwhile run keeps ih =>
    obtain ⟨slot, hpresent, htracker⟩ := ih
    obtain ⟨slot', hpresent', hkept, -⟩ := keeps slot hpresent
    exact ⟨slot', hpresent', hkept.trans htracker⟩
  | event run present reads ih =>
    obtain ⟨slot, hpresent, htracker⟩ := ih
    cases hpresent.symm.trans present
    obtain ⟨slot', hpresent', hreceived, -⟩ := (heard_feed hpresent reads).presence
    refine ⟨slot', hpresent', ?_⟩
    rw [hreceived, List.map_append, List.map_singleton, Chronicle.of_concat, Chronicle.tracker_take,
      htracker]

/-! ### Everything is attended -/

/-- An event of any presence is attended. -/
theorem Attended.feed (run : Attended n s log t) (m : Nat) (f : PresenceFeed)
    (event : InboundEvent) : ∃ more, Attended n s (log ++ more) (t.feed m f event) := by
  have hidle : ∃ more, Attended n s (log ++ more) t := ⟨[], by simpa using run⟩
  cases hslot : t.scene.presences[m]? with
  | none => rwa [feed_of_absent f event hslot]
  | some slot =>
    cases hread : f.read? event with
    | none => rwa [feed_of_unreadable hslot hread]
    | some read =>
      by_cases hm : m = n
      · subst hm
        exact ⟨_, run.event hslot hread⟩
      · have hkeeps := (heard_feed hslot hread).others n hm
        exact ⟨[], by simpa using run.meanwhile hkeeps⟩

/-- Whatever a socket does is attended. -/
theorem Attended.perform (run : Attended n s log t) (e : Effect) :
    ∃ more, Attended n s (log ++ more) (t.perform e) := by
  by_cases h : ∀ callback event, e = .runEvent callback event → t.feedOf? callback = none
  · exact ⟨[], by simpa using run.meanwhile ((aside_perform h).keeps n)⟩
  · push Not at h
    obtain ⟨callback, event, rfl, hfeed⟩ := h
    obtain ⟨⟨m, f⟩, hfeed⟩ := Option.ne_none_iff_exists'.1 hfeed
    have hperform : t.perform (.runEvent callback event) = t.feed m f event :=
      callEvent_of_feedOf? event hfeed
    rw [hperform]
    exact run.feed m f event

theorem Attended.callHook (run : Attended n s log t) (callback : CallbackId) (event : String)
    (payload : Payload) (ref : Option Ref) :
    Attended n s log (t.callHook callback event payload ref).2 :=
  run.meanwhile ((aside_callHook t callback event payload ref).keeps n)

theorem Attended.callError (run : Attended n s log t) (callback : CallbackId)
    (failure : SocketError) (context : ErrorContext) :
    Attended n s log (t.callError callback failure context).2 :=
  run.meanwhile ((aside_callError t callback failure context).keeps n)

/-- Every step is attended. -/
theorem Attended.step (run : Attended n s log t) (step : Step) : Attended n s log (t.run step).2 :=
  run.meanwhile ((aside_run t step).keeps n)

/-! ### The log is complete -/

/--
A presence has callbacks for joins and leaves before anything came.  Then at every moment of every run a
replica that changes with their calls alone is the state, and every join tells the entry that the replica
had.  A diff that waits makes no call; any other event makes one call at its end, if there is a callback
for that, and tells its changes to the callbacks that the presence had when it came.
-/
theorem presence_log_complete (hslot : s.scene.presences[n]? = some first)
    (hnew : first.tracker = .new) (hjoin : first.callbacks.onJoin.isSome = true)
    (hleave : first.callbacks.onLeave.isSome = true) (run : Attended n s log t) :
    ∃ slot, t.scene.presences[n]? = some slot ∧ slot.tracker.state.Sorted ∧
      PresenceChange.replica (PresenceVisit.changes log) = slot.tracker.state.get? ∧
      (∀ earlier key before joined later,
        PresenceVisit.changes log = earlier ++ .join key before joined :: later →
          before = PresenceChange.replica earlier key) ∧
      ∀ v ∈ log, (v.slot.tracker.holdsBack v.event = true → v.calls = []) ∧
        (v.slot.tracker.holdsBack v.event = false →
          v.calls.filter PresenceCall.isSync = v.slot.callbacks.syncCall?.toList) ∧
        ∀ label change, .changed label change ∈ v.calls →
          v.slot.callbacks.label? change = some label := by
  have hfirst : Tracked [] first := by
    refine ⟨hjoin, hleave, ?_, ?_, trivial, by simp⟩
    · rw [hnew]
      exact List.Pairwise.nil
    · rw [hnew]
      rfl
  obtain ⟨slot, hpresent, h⟩ := run.tracked hslot hfirst
  refine ⟨slot, hpresent, h.sorted, h.replica, ?_, ?_⟩
  · intro earlier key before joined later hlog
    have htruthful := h.truthful
    rw [hlog] at htruthful
    exact htruthful.before_eq
  · intro v hv
    exact ⟨(h.proper v hv).heldBack, (h.proper v hv).synced, (h.proper v hv).labels⟩

/-- A script opens the presence of a channel and sets its callbacks before anything comes. -/
def welcome : List Step :=
  [.channel "room:1" default, .presence 0 .standard, .presenceOn 0 .join ⟨[], 0⟩,
    .presenceOn 0 .leave ⟨[.presenceList 0 true], 1⟩, .presenceOn 0 .sync ⟨[], 0⟩]

/-- The stage after that script. -/
def lounge : Stage := (runAll ⟨.new, .new 10000 []⟩ welcome).2

/-- The presence that it opens. -/
def listener : PresenceSlot where
  channel := 0
  events := .standard
  stateBinding := 3
  diffBinding := 4
  held := true
  tracker := .new
  callbacks := ⟨some ⟨0, ⟨[], 0⟩⟩, some ⟨1, ⟨[.presenceList 0 true], 1⟩⟩, some ⟨2, ⟨[], 0⟩⟩⟩

/-- The entry of a key with one connection, as it comes. -/
def arrival (ref : String) : Json :=
  .object [("u1", .object [("metas", .array [.object [("phx_ref", .string ref)]])])]

/-- Somebody is there. -/
def arrived : InboundEvent := ⟨"presence_state", .json (arrival "a"), none, some "1"⟩

/-- One connection takes the place of another. -/
def switched : InboundEvent :=
  ⟨"presence_diff", .json (.object [("joins", arrival "b"), ("leaves", arrival "a")]), none, some "1"⟩

theorem presence_log_complete_switched :
    lounge.scene.presences[0]? = some listener ∧ listener.tracker = .new ∧
      listener.callbacks.onJoin.isSome = true ∧ listener.callbacks.onLeave.isSome = true ∧
      ∃ log, Attended 0 lounge log ((lounge.feed 0 .snapshots arrived).feed 0 .diffs switched) ∧
        log.length = 2 ∧
        PresenceChange.replica (PresenceVisit.changes log) "u1" =
          some (.connected "b") := by
  have hstart : lounge.scene.presences[0]? = some listener := by
    unfold lounge
    cbv
  have hmiddle : (lounge.feed 0 .snapshots arrived).scene.presences[0]? =
      some { listener with tracker := ⟨[("u1", .connected "a")], [], some "1"⟩ } := by
    unfold lounge
    cbv
  have hlast : (((lounge.feed 0 .snapshots arrived).feed 0 .diffs switched).scene.presences[0]?).map
      (·.tracker.state) = some [("u1", .connected "b")] := by
    unfold lounge
    cbv
  have hfirst : Attended 0 lounge _ (lounge.feed 0 .snapshots arrived) :=
    .event .start hstart rfl
  have hrun : Attended 0 lounge _ ((lounge.feed 0 .snapshots arrived).feed 0 .diffs switched) :=
    .event hfirst hmiddle rfl
  obtain ⟨slot, hpresent, -, hreplica, -⟩ := presence_log_complete hstart rfl rfl rfl hrun
  refine ⟨hstart, rfl, rfl, rfl, _, hrun, rfl, ?_⟩
  rw [hpresent] at hlast
  have hstate : slot.tracker.state = [("u1", .connected "b")] := Option.some.inj hlast
  rw [hreplica, hstate]
  rfl

end Stage

end Simulation

end Switchboard
