import Mathlib
import Switchboard.LongPoll.Transport

/-!
# The life of a long-poll transport

Two tasks and the socket share one transport.  Whichever of them goes on next, it goes on alone until
it waits again: a task makes a request or takes the answer of one, and the socket sends, closes or
gives the transport up.  A task learns of a close late: it may have made one more request, or taken
one more frame, before it looks.

All of this comes to five effects on the transport, and the effects tell its life: it opens with the
answer of a poll, is closed once, and after that nobody but the sending socket hears of it.

Main definitions

* `LongPoll.Turn`, `LongPoll.turn?`: who goes on, and what that does;
* `LongPoll.Effect`: what a turn can do to the life of a transport;
* `LongPoll.Run`: turns one after another, with what each of them posted.

Main results

* `LongPoll.effect_of_turn?`: every turn has one of the effects;
* `LongPoll.Run.told`: what the log of a run says about the transport;
* `LongPoll.Run.closes_once`: the life of a transport.
-/

set_option autoImplicit false

namespace Switchboard

namespace TransportEvent

/-- The report that a transport is over. -/
def IsClose : TransportEvent → Prop
  | .closed _ => True
  | _ => False

/-- The report of something that went wrong. -/
def IsFailure : TransportEvent → Prop
  | .failed _ => True
  | _ => False

instance : DecidablePred IsClose := fun
  | .closed _ => .isTrue trivial
  | .opened | .failed _ | .received _ => .isFalse id

@[simp] theorem isClose_closed (event : CloseEvent) : (closed event).IsClose := trivial

@[simp] theorem not_isClose_received (frame : Frame) : ¬(received frame).IsClose := id

@[simp] theorem not_isClose_opened : ¬opened.IsClose := id

@[simp] theorem isFailure_failed (cause : TransportError) : (failed cause).IsFailure := trivial

theorem IsFailure.not_isClose {e : TransportEvent} (h : e.IsFailure) : ¬e.IsClose := by
  cases e <;> first | exact id | exact h.elim

end TransportEvent

namespace LongPoll

/-! ### Turns -/

/-- Who goes on with a transport, until it waits again. -/
inductive Turn where
  /-- The polling task makes its next request. -/
  | polls
  /-- The polling task makes a request although the transport is closed: it has not looked. -/
  | pollsLate
  /-- The request of the polling task has ended. -/
  | pollEnds (result : HttpResult)
  /-- The polling task finds the transport closed. -/
  | pollQuits
  /-- The delivering task takes a frame and makes its request. -/
  | posts
  /-- The delivering task takes a frame although the transport is closed. -/
  | postsLate
  /-- The request of the delivering task has ended. -/
  | postEnds (result : HttpResult)
  /-- The delivering task finds the transport closed. -/
  | deliverQuits
  /-- The socket sends a frame. -/
  | sends (frame : Frame)
  /-- The socket asks the transport to close. -/
  | closes (code : Option Nat) (reason : Option String)
  /-- The socket gives the transport up. -/
  | abandons
  deriving Inhabited

/-- A turn of one of the two tasks; the others are the socket's. -/
def Turn.OfTask : Turn → Prop
  | .sends _ | .closes _ _ | .abandons => False
  | _ => True

/-- A turn in which the socket asks the transport to close. -/
def Turn.Closes : Turn → Prop
  | .closes _ _ => True
  | _ => False

/-- A turn in which a poll is answered with the status that opens a transport. -/
def Turn.AnsweredOpen : Turn → Prop
  | .pollEnds (.ok body) => status body = 410
  | _ => False

/-- An answer of a poll is no request of the socket. -/
theorem Turn.AnsweredOpen.not_closes {t : Turn} (h : t.AnsweredOpen) : ¬t.Closes := by
  cases t <;> first | exact id | exact False.elim h

/-- What a turn posts and what it makes of the transport; nothing if it is nobody's turn. -/
def turn? (l : LongPoll) : Turn → Option (List TransportEvent × LongPoll)
  | .polls => l.startPoll?.map fun r => ([], r.2)
  | .pollsLate =>
    if l.poll = .idle && l.cancelled then some ([], { l with poll := .waiting }) else none
  | .pollEnds result => if l.poll = .waiting then some (l.pollAnswered result) else none
  | .pollQuits => if l.cancelled then some (endPoll ([], l)) else none
  | .posts => l.startPost?.map fun r => ([], r.2)
  | .postsLate =>
    if l.deliver = .idle && l.cancelled && !l.outbound.isEmpty then
      some ([], { l with deliver := .waiting, outbound := l.outbound.tail })
    else none
  | .postEnds result => if l.deliver = .waiting then some (l.postAnswered result) else none
  | .deliverQuits => if l.cancelled then some (endDeliver ([], l)) else none
  | .sends frame => some (l.send frame)
  | .closes code reason => some (l.close code reason)
  | .abandons => some ([], l.abandon)

/-! ### What a turn can do -/

/-- What a turn did to a transport as far as its life goes: what it posted, and what became of it. -/
inductive Effect (l : LongPoll) (turn : Turn) : List TransportEvent → LongPoll → Prop
  /-- The transport lives on as it did.  If it is over, the tasks are silent. -/
  | stays {events : List TransportEvent} {m : LongPoll} (hready : m.ready = l.ready)
      (hcancelled : m.cancelled = l.cancelled) (hturn : ¬turn.Closes)
      (hevents : ∀ e ∈ events, ¬e.IsClose ∧ e ≠ .opened)
      (hover : l.cancelled = true → ∀ e ∈ events, ¬turn.OfTask ∧ e.IsFailure) :
      Effect l turn events m
  /-- A poll was answered: the transport is open. -/
  | opens {m : LongPoll} (hlive : l.cancelled = false) (hturn : turn.AnsweredOpen)
      (hready : m.ready = .open) (hcancelled : m.cancelled = false) :
      Effect l turn [.opened] m
  /-- The transport is over, and says so after what went wrong. -/
  | ends {failures : List TransportEvent} {m : LongPoll} (event : CloseEvent)
      (hlive : l.cancelled = false) (hfailures : ∀ e ∈ failures, e.IsFailure)
      (hready : m.ready ≠ .open) (hcancelled : m.cancelled = true) :
      Effect l turn (failures ++ [.closed event]) m
  /-- The transport is asked to close though it is over. -/
  | closesAgain {m : LongPoll} (hover : l.cancelled = true) (hturn : turn.Closes)
      (hready : m.ready ≠ .open) (hcancelled : m.cancelled = true) :
      Effect l turn [] m
  /-- The socket gives the transport up, which stays as open as it was. -/
  | abandoned {m : LongPoll} (hturn : turn = .abandons) (hready : m.ready = l.ready)
      (hcancelled : m.cancelled = true) :
      Effect l turn [] m

variable {l l' m m' : LongPoll} {t : Turn} {events : List TransportEvent}

/-- Only how ready a transport is and whether it is over belong to its life. -/
theorem Effect.congr (h : Effect l t events m) (hl : l'.ready = l.ready)
    (hlc : l'.cancelled = l.cancelled) (hm : m'.ready = m.ready)
    (hmc : m'.cancelled = m.cancelled) : Effect l' t events m' := by
  cases h with
  | stays hready hcancelled hturn hevents hover =>
    exact .stays (by rw [hm, hl, hready]) (by rw [hmc, hlc, hcancelled]) hturn hevents
      (by rwa [hlc])
  | opens hlive hturn hready hcancelled =>
    exact .opens (by rw [hlc, hlive]) hturn (by rw [hm, hready]) (by rw [hmc, hcancelled])
  | ends event hlive hfailures hready hcancelled =>
    exact .ends event (by rw [hlc, hlive]) hfailures (by rwa [hm]) (by rw [hmc, hcancelled])
  | closesAgain hover hturn hready hcancelled =>
    exact .closesAgain (by rw [hlc, hover]) hturn (by rwa [hm]) (by rw [hmc, hcancelled])
  | abandoned hturn hready hcancelled =>
    exact .abandoned hturn (by rw [hm, hl, hready]) (by rw [hmc, hcancelled])

/-- A turn that posts nothing and leaves the transport as open or closed as it was. -/
theorem Effect.silent (hready : m.ready = l.ready) (hcancelled : m.cancelled = l.cancelled)
    (hturn : ¬t.Closes) : Effect l t [] m :=
  .stays hready hcancelled hturn (by simp) fun _ => by simp

/-- A turn of a live transport that posts neither that it opened nor that it closed. -/
theorem Effect.news (hlive : l.cancelled = false) (hready : m.ready = l.ready)
    (hcancelled : m.cancelled = l.cancelled) (hturn : ¬t.Closes)
    (hevents : ∀ e ∈ events, ¬e.IsClose ∧ e ≠ .opened) : Effect l t events m :=
  .stays hready hcancelled hturn hevents fun hover => by simp [hlive] at hover

/-- The socket's own failures are told at all times. -/
theorem Effect.refused (hturn : ¬t.Closes) (htask : ¬t.OfTask) (cause : TransportError) :
    Effect l t [.failed cause] l :=
  .stays rfl rfl hturn (by simp [TransportEvent.IsClose])
    fun _ => by simp [htask]

theorem effect_failWith (hlive : l.cancelled = false) (cause : TransportError) (code : Nat)
    (reason : String) :
    Effect l t (l.failWith cause code reason).1 (l.failWith cause code reason).2 := by
  have heq : (l.failWith cause code reason).1 =
      [.failed cause] ++ [.closed ⟨code, some reason, false⟩] := by
    simp [failWith, closeWith, hlive]
  rw [heq]
  exact .ends _ hlive (by simp) (by simp [failWith, closeWith]) (by simp [failWith, closeWith])

theorem effect_failAndRetry (hlive : l.cancelled = false) (cause : TransportError) (code : Nat)
    (reason : String) :
    Effect l t (l.failAndRetry cause code reason).1 (l.failAndRetry cause code reason).2 := by
  have heq : (l.failAndRetry cause code reason).1 =
      [.failed cause] ++ [.closed ⟨code, some reason, false⟩] := by
    simp [failAndRetry, failWith, closeWith, hlive]
  rw [heq]
  exact .ends _ hlive (by simp) (by simp [failAndRetry, failWith, closeWith])
    (by simp [failAndRetry, failWith, closeWith])

/-- A body with the status 410 opens a live transport; no other does. -/
theorem effect_takeBody (hlive : l.cancelled = false) {body : Option Json} (hturn : ¬t.Closes)
    (hopen : status body = 410 → t.AnsweredOpen) :
    Effect l t (l.takeBody body).1 (l.takeBody body).2 := by
  unfold takeBody
  split
  · refine .news hlive rfl rfl hturn fun e he => ?_
    obtain ⟨text, -, rfl⟩ := List.mem_map.1 he
    simp
  · exact .silent rfl rfl hturn
  · next h => exact .opens hlive (hopen h) rfl hlive
  · exact (effect_failWith hlive _ _ _).congr rfl rfl rfl rfl
  · exact (effect_failAndRetry hlive _ _ _).congr rfl rfl rfl rfl
  · exact (effect_failAndRetry hlive _ _ _).congr rfl rfl rfl rfl
  · exact (effect_failWith hlive _ _ _).congr rfl rfl rfl rfl

theorem effect_pollAnswered (l : LongPoll) (result : HttpResult) :
    Effect l (.pollEnds result) (l.pollAnswered result).1 (l.pollAnswered result).2 := by
  unfold pollAnswered
  split_ifs with hover
  · exact .silent rfl rfl id
  have hlive : l.cancelled = false := by simpa using hover
  split
  · next body =>
    -- The token that the body names is no part of the life of the transport.
    have hready : (l.storeToken body).ready = l.ready := by cases body <;> rfl
    have hcancelled : (l.storeToken body).cancelled = l.cancelled := by cases body <;> rfl
    exact (effect_takeBody (hcancelled.trans hlive) id id).congr hready.symm hcancelled.symm rfl rfl
  · exact (effect_failAndRetry hlive _ _ _).congr rfl rfl rfl rfl
  · exact effect_takeBody hlive id fun h => absurd h (by decide)

theorem effect_postAnswered (l : LongPoll) (result : HttpResult) :
    Effect l (.postEnds result) (l.postAnswered result).1 (l.postAnswered result).2 := by
  unfold postAnswered
  split_ifs with hover
  · exact .silent rfl rfl id
  have hlive : l.cancelled = false := by simpa using hover
  split
  · split_ifs
    · exact .silent rfl rfl id
    · exact (effect_failAndRetry hlive _ _ _).congr rfl rfl rfl rfl
  · exact .news hlive rfl rfl id (by simp [TransportEvent.IsClose])
  · exact (effect_failAndRetry hlive _ _ _).congr rfl rfl rfl rfl

theorem effect_close (l : LongPoll) (code : Option Nat) (reason : Option String) :
    Effect l (.closes code reason) (l.close code reason).1 (l.close code reason).2 := by
  unfold close closeWith
  split_ifs with hover
  · exact .closesAgain hover trivial (by simp) rfl
  · exact @Effect.ends _ _ [] _ _ (by simpa using hover) (by simp) (by simp) rfl

theorem effect_send (l : LongPoll) (frame : Frame) :
    Effect l (.sends frame) (l.send frame).1 (l.send frame).2 := by
  unfold send
  split
  · exact .refused id id _
  · split_ifs
    · exact .refused id id _
    · exact .silent rfl rfl id

/-- Every turn has one of the effects. -/
theorem effect_of_turn? (h : l.turn? t = some (events, m)) : Effect l t events m := by
  cases t with
  | polls =>
    obtain ⟨-, rfl, rfl⟩ := by simpa [turn?, startPoll?] using h
    exact .silent rfl rfl id
  | pollsLate =>
    obtain ⟨-, rfl, rfl⟩ := by simpa [turn?] using h
    exact .silent rfl rfl id
  | pollEnds result =>
    obtain ⟨-, heq⟩ := by simpa [turn?] using h
    simpa [heq] using effect_pollAnswered l result
  | pollQuits =>
    obtain ⟨-, rfl, rfl⟩ := by simpa [turn?, endPoll] using h
    exact .silent rfl rfl id
  | posts =>
    simp only [turn?, startPost?, Option.map_eq_some_iff] at h
    obtain ⟨r, hr, rfl, rfl⟩ := h
    split at hr
    · cases hr
    · obtain ⟨-, rfl⟩ := by simpa using hr
      exact .silent rfl rfl id
  | postsLate =>
    obtain ⟨-, rfl, rfl⟩ := by simpa [turn?] using h
    exact .silent rfl rfl id
  | postEnds result =>
    obtain ⟨-, heq⟩ := by simpa [turn?] using h
    simpa [heq] using effect_postAnswered l result
  | deliverQuits =>
    obtain ⟨-, rfl, rfl⟩ := by simpa [turn?, endDeliver] using h
    exact .silent rfl rfl id
  | sends frame =>
    have heq : l.send frame = (events, m) := by simpa [turn?] using h
    simpa [heq] using effect_send l frame
  | closes code reason =>
    have heq : l.close code reason = (events, m) := by simpa [turn?] using h
    simpa [heq] using effect_close l code reason
  | abandons =>
    obtain ⟨rfl, rfl⟩ := by simpa [turn?] using h
    exact .abandoned rfl rfl rfl

/-! ### Runs -/

/-- A turn of a run, with what it posted. -/
structure Entry where
  turn : Turn
  events : List TransportEvent
  deriving Inhabited

/-- A poll was answered with the status that opens a transport, and the transport took it so. -/
def Entry.Opens (e : Entry) : Prop := e.turn.AnsweredOpen ∧ .opened ∈ e.events

/-- The transport was closed: the socket asked for it, or a task reported it. -/
def Entry.Closes (e : Entry) : Prop := e.turn.Closes ∨ ∃ x ∈ e.events, x.IsClose

/-- What the turns of a log posted, each with the turn that did. -/
def reports (log : List Entry) : List (Turn × TransportEvent) :=
  log.flatMap fun e => e.events.map (e.turn, ·)

@[simp] theorem reports_concat (log : List Entry) (e : Entry) :
    reports (log ++ [e]) = reports log ++ e.events.map (e.turn, ·) := by
  simp [reports]

/-- Turns of a transport, one after another. -/
inductive Run (l : LongPoll) : List Entry → LongPoll → Prop
  | start : Run l [] l
  | turn {log : List Entry} {m m' : LongPoll} {turn : Turn} {events : List TransportEvent}
      (hrun : Run l log m) (hturn : m.turn? turn = some (events, m')) :
      Run l (log ++ [⟨turn, events⟩]) m'

/-- What the log of a run says about the transport. -/
structure Told (log : List Entry) (l : LongPoll) : Prop where
  /-- A transport that was closed is over. -/
  closed : (∃ e ∈ log, e.Closes) → l.cancelled = true
  /-- A transport is open from an answer until it is closed. -/
  open_iff : l.ready = .open ↔ (∃ e ∈ log, e.Opens) ∧ ∀ e ∈ log, ¬e.Closes
  /-- After a close, only the socket's own sends can fail. -/
  last : (reports log).Pairwise fun a b => a.2.IsClose → ¬b.1.OfTask ∧ b.2.IsFailure

variable {log : List Entry}

theorem Told.new (url : String) (timeout : Nat) : Told [] (.new url timeout) :=
  ⟨by simp, by simp [LongPoll.new], by simp [reports]⟩

/-- A report of a close is a close. -/
theorem closes_of_report {r : Turn × TransportEvent} (hr : r ∈ reports log) (hclose : r.2.IsClose) :
    ∃ e ∈ log, e.Closes := by
  obtain ⟨e, he, hr⟩ := List.mem_flatMap.1 hr
  obtain ⟨x, hx, rfl⟩ := List.mem_map.1 hr
  exact ⟨e, he, .inr ⟨x, hx, hclose⟩⟩

/-- What a live transport posts comes after no close. -/
theorem Told.last_concat_live (h : Told log l) (hlive : l.cancelled = false)
    (hnew : events.Pairwise fun a b => a.IsClose → ¬t.OfTask ∧ b.IsFailure) :
    (reports (log ++ [⟨t, events⟩])).Pairwise
      fun a b => a.2.IsClose → ¬b.1.OfTask ∧ b.2.IsFailure := by
  rw [reports_concat]
  refine List.pairwise_append.2 ⟨h.last, List.pairwise_map.2 hnew, fun a ha b _ hclose => ?_⟩
  simp [h.closed (closes_of_report ha hclose)] at hlive

/-- One turn: by the five effects, the log goes on to tell the life of the transport. -/
theorem Told.turn (h : Told log l) (heffect : Effect l t events m) :
    Told (log ++ [⟨t, events⟩]) m := by
  cases heffect with
  | stays hready hcancelled hturn hevents hover =>
    have hclose : ¬Entry.Closes ⟨t, events⟩ := by
      rintro (h | ⟨x, hx, hclose⟩)
      · exact hturn h
      · exact (hevents x hx).1 hclose
    have hopen : ¬Entry.Opens ⟨t, events⟩ := fun h => (hevents _ h.2).2 rfl
    refine ⟨?_, ?_, ?_⟩
    · simpa [or_and_right, exists_or, hclose, hcancelled] using h.closed
    · simpa [or_and_right, or_imp, exists_or, forall_and, hclose, hopen, hready] using h.open_iff
    · rw [reports_concat]
      refine List.pairwise_append.2 ⟨h.last, ?_, fun a ha b hb hclose => ?_⟩
      · refine List.pairwise_map.2 (List.pairwise_of_forall_mem_list ?_)
        exact fun a ha _ _ hclose => absurd hclose (hevents a ha).1
      · obtain ⟨x, hx, rfl⟩ := List.mem_map.1 hb
        exact hover (h.closed (closes_of_report ha hclose)) x hx
  | opens hlive hturn hready hcancelled =>
    -- A transport that is not over was never closed.
    have hnever : ∀ e ∈ log, ¬e.Closes := fun e he hclose => by
      simp [h.closed ⟨e, he, hclose⟩] at hlive
    have hclose : ¬Entry.Closes ⟨t, [.opened]⟩ := by
      rintro (h | ⟨x, hx, hclose⟩)
      · exact hturn.not_closes h
      · simp_all
    refine ⟨?_, ?_, h.last_concat_live hlive (by simp)⟩
    · rintro ⟨e, he, hcloses⟩
      rcases List.mem_append.1 he with he | he
      · exact absurd hcloses (hnever e he)
      · exact absurd (List.mem_singleton.1 he ▸ hcloses) hclose
    · refine iff_of_true hready ⟨⟨⟨t, [.opened]⟩, by simp, hturn, by simp⟩, fun e he => ?_⟩
      rcases List.mem_append.1 he with he | he
      · exact hnever e he
      · exact List.mem_singleton.1 he ▸ hclose
  | @ends failures _ event hlive hfailures hready hcancelled =>
    have hclose : Entry.Closes ⟨t, failures ++ [.closed event]⟩ := .inr ⟨.closed event, by simp⟩
    refine ⟨fun _ => hcancelled, iff_of_false hready ?_, h.last_concat_live hlive ?_⟩
    · exact fun hopen => hopen.2 _ (by simp) hclose
    · refine List.pairwise_append.2 ⟨?_, by simp, ?_⟩
      · exact List.pairwise_of_forall_mem_list fun a ha _ _ hclose => absurd hclose (hfailures a ha).not_isClose
      · exact fun a ha _ _ hclose => absurd hclose (hfailures a ha).not_isClose
  | closesAgain hover hturn hready hcancelled =>
    refine ⟨fun _ => hcancelled, iff_of_false hready ?_, by simpa using h.last⟩
    exact fun hopen => hopen.2 ⟨t, []⟩ (by simp) (.inl hturn)
  | abandoned hturn hready hcancelled =>
    subst hturn
    have hclose : ¬Entry.Closes ⟨.abandons, []⟩ := by simp [Entry.Closes, Turn.Closes]
    have hopen : ¬Entry.Opens ⟨.abandons, []⟩ := by simp [Entry.Opens]
    refine ⟨fun _ => hcancelled, ?_, by simpa using h.last⟩
    simpa [or_and_right, or_imp, exists_or, forall_and, hclose, hopen, hready] using h.open_iff

/-- The log of a run of a new transport tells its life. -/
theorem Run.told {url : String} {timeout : Nat} (h : Run (.new url timeout) log l) :
    Told log l := by
  induction h with
  | start => exact .new url timeout
  | turn _ hturn ih => exact ih.turn (effect_of_turn? hturn)

/-- Where each report of a close forbids another, there is at most one. -/
theorem countP_isClose_le_one {posted : List (Turn × TransportEvent)}
    (h : posted.Pairwise fun a b => a.2.IsClose → ¬b.1.OfTask ∧ b.2.IsFailure) :
    posted.countP (fun r => r.2.IsClose) ≤ 1 := by
  induction posted with
  | nil => simp
  | cons r rest ih =>
    obtain ⟨hfirst, hrest⟩ := List.pairwise_cons.1 h
    by_cases hclose : r.2.IsClose
    · have hnone : rest.countP (fun r => r.2.IsClose) = 0 :=
        List.countP_eq_zero.2 fun b hb => by simpa using (hfirst b hb hclose).2.not_isClose
      simp [hclose, hnone]
    · simpa [hclose] using ih hrest

/-- The turns of a log, one after another, if each posts what the log says. -/
def replay? (l : LongPoll) : List Entry → Option LongPoll
  | [] => some l
  | e :: rest =>
    match l.turn? e.turn with
    | some (events, m) => if events = e.events then m.replay? rest else none
    | none => none

theorem Run.cons {l₀ : LongPoll} (hturn : l₀.turn? t = some (events, l)) (h : Run l log m) :
    Run l₀ (⟨t, events⟩ :: log) m := by
  induction h with
  | start => exact .turn .start hturn
  | turn _ hnext ih => exact .turn ih hnext

/-- A log that can be replayed is the log of a run. -/
theorem run_of_replay? (h : l.replay? log = some m) : Run l log m := by
  induction log generalizing l with
  | nil =>
    obtain rfl := by simpa [replay?] using h
    exact .start
  | cons e rest ih =>
    unfold replay? at h
    split at h
    · next hturn =>
      split_ifs at h with hevents
      subst hevents
      exact .cons hturn (ih h)
    · cases h

/-- The life of a long-poll transport, whatever is answered and whoever goes on next.  It reports a
close at most once.  After that neither task reports anything, and all that is still reported are
failed sends of the socket: nothing opens and no message comes.  And it is open at a moment exactly
if a poll was answered with the status that opens it and it was not closed since the beginning: so
it becomes open with such an answer only, stays open until it is closed, and never opens again. -/
theorem Run.closes_once {url : String} {timeout : Nat} (h : Run (.new url timeout) log l) :
    (reports log).countP (fun r => r.2.IsClose) ≤ 1 ∧
      (reports log).Pairwise (fun a b => a.2.IsClose → ¬b.1.OfTask ∧ b.2.IsFailure) ∧
      (l.ready = .open ↔ (∃ e ∈ log, e.Opens) ∧ ∀ e ∈ log, ¬e.Closes) :=
  ⟨countP_isClose_le_one h.told.last, h.told.last, h.told.open_iff⟩

/-- The answer that opens a transport. -/
def openAnswer : HttpResult := .ok (some (.object [("status", .nat 410)]))

/-- A delivery fails while a poll is in flight.  The delivering task closes the transport, so what the
poll is answered after that is not heard; the socket sends and closes once more. -/
def failedDelivery : List Entry :=
  [⟨.polls, []⟩, ⟨.pollEnds openAnswer, [.opened]⟩, ⟨.polls, []⟩, ⟨.sends (.text "a"), []⟩,
    ⟨.posts, []⟩,
    ⟨.postEnds (.error .closed),
      [.failed .closed, .closed ⟨serverErrorCode, some "internal server error", false⟩]⟩,
    ⟨.pollEnds openAnswer, []⟩, ⟨.sends (.text "b"), [.failed .closed]⟩, ⟨.closes none none, []⟩]

/-- A new transport after `failedDelivery`. -/
def afterFailedDelivery : LongPoll :=
  { new "ws://host/socket" 20000 with
    ready := .closed, cancelled := true, poll := .ended, deliver := .ended }

theorem closes_once_failedDelivery :
    Run (new "ws://host/socket" 20000) failedDelivery afterFailedDelivery ∧
      (reports failedDelivery).countP (fun r => r.2.IsClose) ≤ 1 ∧
      (reports failedDelivery).Pairwise (fun a b => a.2.IsClose → ¬b.1.OfTask ∧ b.2.IsFailure) ∧
      (afterFailedDelivery.ready = .open ↔
        (∃ e ∈ failedDelivery, e.Opens) ∧ ∀ e ∈ failedDelivery, ¬e.Closes) :=
  have hrun := run_of_replay? rfl
  ⟨hrun, hrun.closes_once⟩

end LongPoll

end Switchboard
