import Switchboard.Proofs.Courses
import Switchboard.Proofs.Efforts

/-!
# Attempts

A backoff timer counts attempts.  The annals of a course hold the notes of all its commands; out of them
comes what has happened to each backoff timer since it is there.  The timer accounts for just that: its
count is the number of the firings that were accepted since the last reset, up to a limit, and a firing
is awaited if and only if to arm it was the last thing that happened.

Main definitions

* `attempts`: the firings since the last reset;
* `BackoffTimer.Accounts`: a timer accounts for what has happened to it;
* `Socket.Annals`: a course, and the notes of its commands;
* `Socket.history`: what has happened to a backoff timer;
* `Socket.Tallied`: all timers of a socket account for what has happened to them.

Main results

* `BackoffTimer.Accounts.undergoes`: a timer accounts for one thing more;
* `Socket.Tallied.effort`: so do all timers of a socket after an effort;
* `Socket.retries_accounted`: so do they in all courses.
-/

set_option autoImplicit false

namespace Switchboard

/-- What occurs in a list with one entry more is that entry, or occurs before it. -/
theorem concat_split {α : Type} {xs ys zs : List α} {x y : α} (h : xs ++ [x] = ys ++ y :: zs) :
    (ys = xs ∧ y = x) ∨ ∃ rest, xs = ys ++ y :: rest := by
  rcases List.eq_nil_or_concat zs with rfl | ⟨rest, last, rfl⟩
  · obtain ⟨rfl, hxy⟩ := List.append_inj' h rfl
    exact .inl ⟨rfl, (List.cons.inj hxy).1.symm⟩
  · have h' : xs ++ [x] = (ys ++ y :: rest) ++ [last] := by
      rw [h, List.concat_eq_append, List.append_assoc, List.cons_append]
    exact .inr ⟨rest, (List.append_inj' h' rfl).1⟩

/-! ### One timer -/

/-- How many firings were accepted, given how many there were before. -/
def RetryEvent.count (n : Nat) : RetryEvent → Nat
  | .armed .. => n
  | .fired _ => n + 1
  | .reset => 0

/-- The firings that were accepted since the last reset. -/
def attempts (es : List RetryEvent) : Nat := es.foldl RetryEvent.count 0

/-- The generation under which an attempt is armed. -/
def RetryEvent.armed? : RetryEvent → Option Nat
  | .armed generation _ => some generation
  | _ => none

/-- The generations under which attempts were armed. -/
def generations (es : List RetryEvent) : List Nat := es.filterMap RetryEvent.armed?

namespace BackoffTimer

/-- A timer that accounts for what has happened to it. -/
structure Accounts (b : BackoffTimer) (backoff : Backoff) (es : List RetryEvent) : Prop where
  tries : b.tries = min (attempts es) attemptLimit
  /-- A firing is awaited just if to arm it was the last thing that happened. -/
  pending : ∀ {g}, (b.fire g).isSome = true ↔ ∃ d, es.getLast? = some (.armed g d)
  /-- It was armed with the delay of the attempt that comes next. -/
  delay : ∀ {g d}, es.getLast? = some (.armed g d) → d = backoff (nextAttempt b.tries)
  /-- A firing is accepted only right after it was armed. -/
  claimed : ∀ {before g after}, es = before ++ .fired g :: after →
    ∃ d, before.getLast? = some (.armed g d)
  /-- No generation is armed twice. -/
  fresh : (generations es).Nodup
  bounded : ∀ g ∈ generations es, g ≤ b.slot.generation

/-- A timer goes through what happens to it. -/
inductive Undergoes (backoff : Backoff) : RetryEvent → BackoffTimer → BackoffTimer → Prop
  | armed (b : BackoffTimer) :
    Undergoes backoff (.armed b.schedule.slot.generation (b.delay backoff)) b b.schedule
  | fired {b b' : BackoffTimer} {g : Nat} (fired : b.fire g = some b') : Undergoes backoff (.fired g) b b'
  | reset (b : BackoffTimer) : Undergoes backoff .reset b b.reset

variable {b b' : BackoffTimer} {backoff : Backoff} {es : List RetryEvent} {event : RetryEvent}

theorem attempts_append (es : List RetryEvent) (event : RetryEvent) :
    attempts (es ++ [event]) = event.count (attempts es) := by
  simp only [attempts, List.foldl_append, List.foldl_cons, List.foldl_nil]

theorem generations_append (es : List RetryEvent) (event : RetryEvent) :
    generations (es ++ [event]) = generations es ++ event.armed?.toList := by
  cases event <;> simp [generations, RetryEvent.armed?]

/-- A timer that was never used has nothing to account for. -/
theorem accounts_new (backoff : Backoff) : BackoffTimer.new.Accounts backoff [] where
  tries := rfl
  pending := by simp [fire_eq_some_iff, Option.isSome_iff_exists, new, TimerSlot.new]
  delay := by simp
  claimed := by simp
  fresh := .nil
  bounded := by simp [generations]

/-- Nothing is awaited of a timer that is disarmed. -/
theorem fire_of_unarmed (h : b.slot.armed = false) (g : Nat) : b.fire g = none := by
  cases hfire : b.fire g with
  | none => rfl
  | some b' =>
    have harmed := (fire_eq_some_iff.mp hfire).1
    rw [h] at harmed
    cases harmed

/-- What is claimed of the whole holds if it holds of what was there before, and of the last event. -/
theorem Accounts.claimed_append (h : b.Accounts backoff es)
    (hlast : ∀ {g}, event = .fired g → ∃ d, es.getLast? = some (.armed g d))
    {before after : List RetryEvent} {g : Nat} (heq : es ++ [event] = before ++ .fired g :: after) :
    ∃ d, before.getLast? = some (.armed g d) := by
  rcases concat_split heq with ⟨rfl, hevent⟩ | ⟨rest, hbefore⟩
  · exact hlast hevent.symm
  · exact h.claimed hbefore

/-- A timer that is disarmed accounts for that, if it counts what it has to. -/
theorem Accounts.disarmed (h : b.Accounts backoff es) (hunarmed : event.armed? = none)
    (hlast : ∀ {g}, event = .fired g → ∃ d, es.getLast? = some (.armed g d))
    (hslot : b'.slot = b.slot.cancel)
    (htries : b'.tries = min (event.count (attempts es)) attemptLimit) :
    b'.Accounts backoff (es ++ [event]) where
  tries := by rw [attempts_append, htries]
  pending := by
    intro g
    rw [fire_of_unarmed (by rw [hslot]; rfl), List.getLast?_concat]
    refine ⟨by simp, fun ⟨d, heq⟩ => ?_⟩
    cases heq
    cases hunarmed
  delay := by
    intro g d heq
    rw [List.getLast?_concat] at heq
    cases heq
    cases hunarmed
  claimed heq := h.claimed_append hlast heq
  fresh := by
    rw [generations_append, hunarmed, Option.toList_none, List.append_nil]
    exact h.fresh
  bounded g hg := by
    rw [generations_append, hunarmed, Option.toList_none, List.append_nil] at hg
    rw [hslot]
    exact Nat.le_succ_of_le (h.bounded g hg)

/-- A timer that is armed accounts for that: its generation is greater than all those before. -/
theorem Accounts.armed (h : b.Accounts backoff es) : b.schedule.Accounts backoff
    (es ++ [.armed b.schedule.slot.generation (b.delay backoff)]) where
  tries := by rw [attempts_append]; exact h.tries
  pending := by
    intro g
    rw [List.getLast?_concat, Option.isSome_iff_exists]
    simp only [fire_eq_some_iff]
    constructor
    · rintro ⟨_, -, rfl, -⟩
      exact ⟨_, rfl⟩
    · rintro ⟨d, heq⟩
      cases heq
      exact ⟨_, rfl, rfl, rfl⟩
  delay := by
    intro g d heq
    rw [List.getLast?_concat] at heq
    cases heq
    rfl
  claimed heq := h.claimed_append (by simp) heq
  fresh := by
    rw [generations_append]
    refine List.nodup_append.mpr ⟨h.fresh, List.nodup_singleton _, fun g hg g' hg' => ?_⟩
    rw [List.mem_singleton.mp hg']
    exact Nat.ne_of_lt (Nat.lt_succ_of_le (h.bounded g hg))
  bounded g hg := by
    rw [generations_append] at hg
    rcases List.mem_append.mp hg with hg | hg
    · exact Nat.le_succ_of_le (h.bounded g hg)
    · rw [List.mem_singleton.mp hg]

/-- A timer that has gone through one thing more accounts for that, too. -/
theorem Accounts.undergoes (h : b.Accounts backoff es) (hevent : Undergoes backoff event b b') :
    b'.Accounts backoff (es ++ [event]) := by
  cases hevent with
  | armed => exact h.armed
  | @fired _ _ g fired =>
    obtain ⟨-, -, rfl⟩ := fire_eq_some_iff.mp fired
    refine h.disarmed rfl (fun heq => ?_) rfl ?_
    · cases heq
      exact h.pending.mp (by rw [fired]; rfl)
    · simp only [RetryEvent.count, nextAttempt, h.tries]
      omega
  | reset => exact h.disarmed rfl (by simp) rfl (by simp [RetryEvent.count, BackoffTimer.reset])

/-- A firing that is overtaken, by a reset or by another attempt, is never accepted. -/
theorem Accounts.overtaken (h : b.Accounts backoff es) {before after : List RetryEvent} {g d : Nat}
    (heq : es = before ++ .armed g d :: event :: after) (hother : event ≠ .fired g) :
    .fired g ∉ event :: after := by
  intro hmem
  obtain ⟨early, late, hsplit⟩ :=
    List.append_of_mem ((List.mem_cons.mp hmem).resolve_left (Ne.symm hother))
  have heq' : es = (before ++ .armed g d :: event :: early) ++ .fired g :: late := by
    rw [heq, hsplit]
    simp
  obtain ⟨d', hlast⟩ := h.claimed heq'
  -- To be accepted it would have to be armed a second time.
  obtain ⟨early', hearly⟩ : ∃ early', event :: early = early' ++ [.armed g d'] := by
    rw [List.getLast?_append] at hlast
    simp only [List.getLast?_cons_cons] at hlast
    rw [Option.or_of_isSome (by simp [List.getLast?_isSome])] at hlast
    exact ⟨_, (List.dropLast_append_getLast? _ hlast).symm⟩
  have hfresh := h.fresh
  rw [heq', hearly] at hfresh
  simp [generations, RetryEvent.armed?, List.nodup_append, List.nodup_cons] at hfresh

end BackoffTimer

/-! ### The timers of a socket -/

/-- The delays of a backoff timer. -/
def Config.backoff (config : Config) : Retry → Backoff
  | .rejoin _ => config.rejoinAfter
  | .reconnect => config.reconnectAfter

/-- The firing of a backoff timer. -/
def Retry.firing : Retry → Nat → TimerEvent
  | .rejoin c, generation => .rejoin c generation
  | .reconnect, generation => .reconnect generation

/-- What has happened to a timer, if a note is added to what had happened to it. -/
def Note.extend (retry : Retry) (es : List RetryEvent) : Note → List RetryEvent
  | .enters c => if retry = .rejoin c then [] else es
  | .retry timer event => if timer = retry then es ++ [event] else es
  | _ => es

/-- A channel that is joined, leaves or is closed does not try to join. -/
def ChannelState.IsSettled : ChannelState → Prop
  | .joined | .leaving | .closed => True
  | .joining | .errored => False

namespace Socket

variable {ω : Type}

/-- What has happened to a backoff timer since it is there. -/
def history (retry : Retry) (marks : List (Mark ω)) : List RetryEvent :=
  marks.foldl (fun es mark => mark.note.extend retry es) []

/-- A backoff timer of a socket; nothing if it belongs to a channel that is not there. -/
def retryTimer? (s : Socket ω) : Retry → Option BackoffTimer
  | .rejoin c => (s.channels.get? c).map Channel.rejoinTimer
  | .reconnect => some s.reconnectTimer

/-- All backoff timers of a socket account for what has happened to them. -/
structure Tallied (config : Config) (es : Retry → List RetryEvent) (s : Socket ω) : Prop where
  rejoinAfter : s.config.rejoinAfter = config.rejoinAfter
  reconnectAfter : s.config.reconnectAfter = config.reconnectAfter
  timer : ∀ retry {b}, s.retryTimer? retry = some b → b.Accounts (config.backoff retry) (es retry)
  /-- There are no attempts to join again while a channel is joined, and none after it has left. -/
  settled : ∀ {c ch}, s.channels.get? c = some ch → ch.state.IsSettled →
    ch.rejoinTimer.tries = 0 ∧ ch.rejoinTimer.isPending = false

/-- What has happened to the timers, if notes are added. -/
def extended (es : Retry → List RetryEvent) (notes : List Note) (retry : Retry) : List RetryEvent :=
  notes.foldl (Note.extend retry) (es retry)

variable {s t : Socket ω} {c : ChannelId} {ch : Channel} {config : Config}
variable {es : Retry → List RetryEvent}

theorem history_append (retry : Retry) (marks : List (Mark ω)) (notes : List Note) (s : Socket ω) :
    history retry (marks ++ notes.map (Mark.mk s)) =
      extended (fun retry => history retry marks) notes retry := by
  simp only [history, extended, List.foldl_append, List.foldl_map]

namespace Tallied

/-- Nothing happens to the timers. -/
theorem keep (h : s.Tallied config es) (hrejoin : t.config.rejoinAfter = s.config.rejoinAfter)
    (hreconnect : t.config.reconnectAfter = s.config.reconnectAfter)
    (htimer : t.reconnectTimer = s.reconnectTimer)
    (hchannel : ∀ {c ch'}, t.channels.get? c = some ch' → ∃ ch, s.channels.get? c = some ch ∧
      ch'.rejoinTimer = ch.rejoinTimer ∧ (ch'.state.IsSettled → ch.state.IsSettled)) :
    t.Tallied config es where
  rejoinAfter := hrejoin.trans h.rejoinAfter
  reconnectAfter := hreconnect.trans h.reconnectAfter
  timer retry b hb := by
    cases retry with
    | reconnect => exact h.timer .reconnect (hb ▸ congrArg some htimer.symm)
    | rejoin c =>
      obtain ⟨ch', hc', rfl⟩ := Option.map_eq_some_iff.mp hb
      obtain ⟨ch, hc, heq, -⟩ := hchannel hc'
      rw [heq]
      exact h.timer (.rejoin c) (by simp only [retryTimer?, hc, Option.map_some])
  settled hc' hsettled := by
    obtain ⟨ch, hc, heq, hstate⟩ := hchannel hc'
    rw [heq]
    exact h.settled hc (hstate hsettled)

/-- The channels are what they were. -/
theorem keep_of_eq (h : s.Tallied config es)
    (hrejoin : t.config.rejoinAfter = s.config.rejoinAfter)
    (hreconnect : t.config.reconnectAfter = s.config.reconnectAfter)
    (htimer : t.reconnectTimer = s.reconnectTimer) (hchannels : t.channels = s.channels) :
    t.Tallied config es :=
  h.keep hrejoin hreconnect htimer fun hc => ⟨_, hchannels ▸ hc, rfl, id⟩

/-- Something happens to the timer of one channel. -/
theorem retry (h : s.Tallied config es) (hc : s.channels.get? c = some ch) {event : RetryEvent}
    {f : Channel → Channel}
    (hevent : BackoffTimer.Undergoes s.config.rejoinAfter event ch.rejoinTimer (f ch).rejoinTimer)
    (hsettled : (f ch).state.IsSettled →
      (f ch).rejoinTimer.tries = 0 ∧ (f ch).rejoinTimer.isPending = false) :
    (s.modifyChannel c f).Tallied config (extended es [.retry (.rejoin c) event]) where
  rejoinAfter := h.rejoinAfter
  reconnectAfter := h.reconnectAfter
  timer retry b hb := by
    simp only [extended, List.foldl_cons, List.foldl_nil, Note.extend]
    split
    · rename_i heq
      subst heq
      simp only [retryTimer?, modifyChannel, Table.get?_modify_self, hc, Option.map_some,
        Option.some.injEq] at hb
      subst hb
      have hbefore : ch.rejoinTimer.Accounts (config.backoff (.rejoin c)) (es (.rejoin c)) :=
        h.timer (.rejoin c) (by simp only [retryTimer?, hc, Option.map_some])
      rw [h.rejoinAfter] at hevent
      exact hbefore.undergoes hevent
    · rename_i hne
      refine h.timer retry (hb ▸ ?_)
      cases retry with
      | reconnect => rfl
      | rejoin d =>
        have hdc : d ≠ c := fun heq => hne (by rw [heq])
        simp only [retryTimer?, modifyChannel, Table.get?_modify_of_ne _ hdc]
  settled {d ch'} hd hstate := by
    simp only [modifyChannel, Table.get?_modify] at hd
    split at hd
    · rename_i heq
      subst heq
      rw [hc] at hd
      cases hd
      exact hsettled hstate
    · exact h.settled hd hstate

/-- The attempts of a channel are forgotten. -/
theorem reset (h : s.Tallied config es) (hc : s.channels.get? c = some ch) {f : Channel → Channel}
    (hf : (f ch).rejoinTimer = ch.rejoinTimer.reset) :
    (s.modifyChannel c f).Tallied config (extended es [.retry (.rejoin c) .reset]) := by
  refine h.retry hc (f := f) ?_ fun _ => ?_
  · rw [hf]
    exact .reset _
  · rw [hf]
    exact ⟨rfl, rfl⟩

/-- Something happens to the timer of the next connection. -/
theorem reconnect (h : s.Tallied config es) {event : RetryEvent} {b : BackoffTimer}
    (hevent : BackoffTimer.Undergoes s.config.reconnectAfter event s.reconnectTimer b) :
    { s with reconnectTimer := b }.Tallied config (extended es [.retry .reconnect event]) where
  rejoinAfter := h.rejoinAfter
  reconnectAfter := h.reconnectAfter
  timer {retry b'} hb := by
    simp only [extended, List.foldl_cons, List.foldl_nil, Note.extend]
    split
    · rename_i heq
      subst heq
      cases hb
      rw [h.reconnectAfter] at hevent
      exact (h.timer .reconnect rfl).undergoes hevent
    · rename_i hne
      cases retry with
      | reconnect => exact absurd rfl hne
      | rejoin d => exact h.timer (.rejoin d) hb
  settled hd hstate := h.settled hd hstate

end Tallied

variable [Outside ω] {w : Socket ω} {cmd : Command} {notes : List Note} {marks : List (Mark ω)}

omit [Outside ω] in
theorem Tallied.startTimeout (h : s.Tallied config es) (c : ChannelId) (p : PushId) :
    (s.startTimeout c p).Tallied config es := by
  cases hpush : s.push? c p with
  | none =>
    obtain ⟨x, heq, -⟩ := startTimeout_of_none hpush
    rw [heq]
    exact h.keep_of_eq rfl rfl rfl rfl
  | some q =>
    obtain ⟨ch, hc, hq⟩ := Option.bind_eq_some_iff.mp hpush
    obtain ⟨n, x, heq, -⟩ := startTimeout_of_some hc hq
    rw [heq]
    refine h.keep rfl rfl rfl fun {d ch'} hd => ?_
    rw [Table.get?_set] at hd
    split at hd
    · rename_i hdc
      cases hd
      refine ⟨ch, hdc ▸ hc, Channel.dropBindings?_rejoinTimer _, fun hstate => ?_⟩
      rwa [Channel.start_state] at hstate
    · exact ⟨ch', hd, rfl, id⟩

theorem Tallied.uneventful (h : s.Tallied config es) (hst : Uneventful s t) :
    t.Tallied config es := by
  refine h.keep hst.rejoinAfter hst.reconnectAfter hst.reconnectTimer fun hc' => ?_
  obtain ⟨ch, hc, hch⟩ := hst.channel hc'
  refine ⟨ch, hc, hch.rejoinTimer, fun hsettled => ?_⟩
  rcases hch.state with heq | heq | heq <;> rw [heq] at hsettled
  · exact hsettled
  · cases hsettled
  · cases hsettled

omit [Outside ω] in
/-- A channel changes, but neither its timer nor its state. -/
theorem Tallied.modifyChannel (h : s.Tallied config es) (c : ChannelId) {f : Channel → Channel}
    (hf : ∀ ch, (f ch).rejoinTimer = ch.rejoinTimer ∧ (f ch).state = ch.state) :
    (s.modifyChannel c f).Tallied config es := by
  refine h.keep rfl rfl rfl fun {d ch'} hd => ?_
  simp only [Socket.modifyChannel, Table.get?_modify] at hd
  split at hd
  · rename_i hdc
    obtain ⟨ch, hc, rfl⟩ := Option.map_eq_some_iff.mp hd
    exact ⟨ch, hdc ▸ hc, (hf ch).1, fun hstate => (hf ch).2 ▸ hstate⟩
  · exact ⟨ch', hd, rfl, id⟩

theorem Tallied.pushMessage (h : s.Tallied config es) (sender : Sender) (m : Message) :
    (s.pushMessage sender m).Tallied config es := by
  rw [pushMessage_eq]
  exact h.keep_of_eq rfl rfl rfl rfl

/-- All timers account for what happens to them in a toil. -/
theorem Tallied.toil (h : s.Tallied config es) (htoil : Toil notes s t) :
    t.Tallied config (extended es notes) := by
  cases htoil with
  | uneventful uneventful => exact h.uneventful uneventful
  | starts _ c p => split <;> exact h.startTimeout c p
  | takesBack _ c =>
    unfold resetPush
    split
    · exact h
    · refine h.modifyChannel c fun ch => ?_
      exact ⟨Channel.dropBindings?_rejoinTimer _, Channel.dropBindings?_state _⟩
  | inserts _ c p unsent => split <;> exact h.modifyChannel c fun _ => ⟨rfl, rfl⟩
  | erases _ c =>
    refine h.keep rfl rfl rfl fun {d ch'} hd => ?_
    rw [Table.get?_erase] at hd
    split at hd
    · cases hd
    · exact ⟨ch', hd, rfl, id⟩
  | schedules channel errored =>
    simp only [scheduleRejoin, channel]
    refine (h.retry channel (.armed _) fun hstate => ?_).keep_of_eq rfl rfl rfl rfl
    rw [errored] at hstate
    cases hstate
  | joins channel => exact h.reset channel rfl
  | leaves channel => exact h.reset channel rfl
  | closes channel => exact h.reset channel rfl
  | sends _ own connected => exact h.pushMessage _ _
  | keeps _ own unconnected => exact h.pushMessage _ _

omit [Outside ω] in
/-- A channel that enters brings a timer that was never used. -/
theorem Tallied.createChannel (h : s.Tallied config es) (c : ChannelId) (topic : String)
    (params : Params) :
    (s.createChannel c topic params).Tallied config (extended es [.enters c]) where
  rejoinAfter := h.rejoinAfter
  reconnectAfter := h.reconnectAfter
  timer retry b hb := by
    simp only [extended, List.foldl_cons, List.foldl_nil, Note.extend]
    split
    · rename_i heq
      subst heq
      simp only [retryTimer?, Socket.createChannel, Table.get?_set_self, Option.map_some,
        Option.some.injEq] at hb
      subst hb
      exact BackoffTimer.accounts_new _
    · rename_i hne
      cases retry with
      | reconnect => exact h.timer .reconnect hb
      | rejoin d =>
        have hdc : d ≠ c := fun heq => hne (by rw [heq])
        simp only [retryTimer?, Socket.createChannel, Table.get?_set_of_ne _ hdc] at hb
        exact h.timer (.rejoin d) hb
  settled {d ch} hd hstate := by
    simp only [Socket.createChannel, Table.get?_set] at hd
    split at hd
    · cases hd
      exact ⟨rfl, rfl⟩
    · exact h.settled hd hstate

/-- All timers account for what happens to them in an effort. -/
theorem Tallied.effort (h : s.Tallied config es) (heffort : Effort w cmd notes s t) :
    t.Tallied config (extended es notes) := by
  cases heffort with
  | toil toil => exact h.toil toil
  | enlists => exact h.keep_of_eq rfl rfl rfl rfl
  | enters _ c topic params => exact h.createChannel c topic params
  | @fires c generation ch timer command channel fired =>
    refine h.retry channel (.fired fired) fun hstate => ?_
    -- A firing is not awaited while there is nothing to try.
    have harmed := (BackoffTimer.fire_eq_some_iff.mp fired).1
    have hunarmed := (h.settled channel hstate).2
    rw [BackoffTimer.isPending, harmed] at hunarmed
    cases hunarmed
  | opens command own channel => exact h.reset channel rfl
  | fails command own channel => exact h.reset channel rfl
  | schedulesReconnect => exact (h.reconnect (.armed _)).keep_of_eq rfl rfl rfl rfl
  | reconnects command fired => exact h.reconnect (.fired fired)
  | forgivesReconnect _ forgives => exact h.reconnect (.reset _)
  | flushes connected =>
    rw [flush_eq connected]
    exact h.keep_of_eq rfl rfl rfl rfl
  | forgets _ supplants => exact h.keep_of_eq rfl rfl rfl rfl
  | ends =>
    refine h.keep rfl rfl rfl fun hd => ?_
    simp at hd

theorem Tallied.efforts {before : List (Mark ω)}
    (h : s.Tallied config fun retry => history retry before) (hefforts : Efforts w cmd s marks t) :
    t.Tallied config fun retry => history retry (before ++ marks) := by
  induction hefforts with
  | refl => simpa using h
  | tail _ effort ih =>
    have hnext := ih.effort effort
    simp only [← List.append_assoc, history_append]
    exact hnext

/-! ### Annals -/

/-- A course, and the notes of its commands. -/
inductive Annals (allows : Socket ω → Exchange → ω → Prop) (s : Socket ω) :
    List Command → List (Mark ω) → Socket ω → Prop
  | start : Annals allows s [] [] s
  | surroundings {cmds : List Command} {marks : List (Mark ω)} {t : Socket ω} {x : Exchange} {o : ω}
    (before : Annals allows s cmds marks t) (allowed : allows t x o) :
    Annals allows s cmds marks { t with exchange := x, outside := o }
  | take {cmds : List Command} {marks marks' : List (Mark ω)} {t : Socket ω} {cmd : Command}
    {x : Exchange} (before : Annals allows s cmds marks t) (next : t.exchange.next? = some (cmd, x))
    (carried : Carried { t with exchange := x } cmd marks') :
    Annals allows s (cmds ++ [cmd]) (marks ++ marks') ({ t with exchange := x }.handle cmd)
  | abandon {cmds : List Command} {marks marks' : List (Mark ω)} {t : Socket ω}
    (before : Annals allows s cmds marks t) (carried : Carried t .shutdown marks') :
    Annals allows s (cmds ++ [.shutdown]) (marks ++ marks') t.shutdown

variable {allows : Socket ω → Exchange → ω → Prop} {cmds : List Command}

/-- Each course has annals. -/
theorem Course.annals (h : Course allows s cmds t) : ∃ marks, Annals allows s cmds marks t := by
  induction h with
  | start => exact ⟨_, .start⟩
  | surroundings _ allowed ih =>
    obtain ⟨marks, hmarks⟩ := ih
    exact ⟨marks, hmarks.surroundings allowed⟩
  | @take _ t cmd x _ next ih =>
    obtain ⟨marks, hmarks⟩ := ih
    obtain ⟨marks', hcarried⟩ := carried_handle { t with exchange := x } cmd
    exact ⟨_, hmarks.take next hcarried⟩
  | @abandon _ t _ ih =>
    obtain ⟨marks, hmarks⟩ := ih
    obtain ⟨marks', hcarried⟩ := carried_handle t .shutdown
    exact ⟨_, hmarks.abandon hcarried⟩

/-- All timers account for what the annals tell. -/
theorem Annals.accounted (h : Annals allows s cmds marks t)
    (hs : s.Tallied config fun _ => []) :
    t.Tallied config fun retry => history retry marks := by
  induction h with
  | start => exact hs
  | surroundings _ _ ih => exact ih.keep_of_eq rfl rfl rfl rfl
  | @take _ _ _ t _ x _ _ carried ih =>
    have hnext : { t with exchange := x }.Tallied config _ := ih.keep_of_eq rfl rfl rfl rfl
    exact hnext.efforts carried.efforts
  | abandon _ carried ih => exact ih.efforts carried.efforts

omit [Outside ω] in
/-- A socket that was not asked to connect has nothing to account for. -/
theorem accounted_new (endpoint : String) (config : Config) (factory : Factory) (outside : ω) :
    (Socket.new endpoint config factory outside).Tallied config fun _ => [] where
  rejoinAfter := rfl
  reconnectAfter := rfl
  timer retry b hb := by
    cases retry with
    | reconnect =>
      cases hb
      exact BackoffTimer.accounts_new _
    | rejoin c => simp [retryTimer?, Socket.new] at hb
  settled hc := by simp [Socket.new] at hc

/-! ### What is armed -/

/-- What is noted as armed is entered at the clock: it fires after the delay, with the generation. -/
def Arms (mark : Mark ω) : Prop :=
  ∀ {retry g d}, mark.note = .retry retry (.armed g d) → ∃ w cmd t, Effort w cmd [mark.note] mark.now t ∧
    t.exchange = mark.now.exchange.arm d (retry.firing g)

theorem Effort.arms (h : Effort w cmd notes s t) : ∀ note ∈ notes, Arms ⟨s, note⟩ := by
  intro note hnote retry g d hnote'
  dsimp only at hnote'
  subst hnote'
  suffices harms : notes = [.retry retry (.armed g d)] ∧
      t.exchange = s.exchange.arm d (retry.firing g) from
    ⟨w, cmd, t, harms.1 ▸ h, harms.2⟩
  cases h with
  | schedulesReconnect =>
    rw [List.mem_singleton] at hnote
    cases hnote
    exact ⟨rfl, rfl⟩
  | toil toil =>
    cases toil with
    | schedules channel errored =>
      rw [List.mem_singleton] at hnote
      cases hnote
      refine ⟨rfl, ?_⟩
      simp only [scheduleRejoin, channel]
      rfl
    | _ => simp at hnote
  | _ => simp at hnote

theorem Efforts.arms (h : Efforts w cmd s marks t) : ∀ mark ∈ marks, Arms mark := by
  induction h with
  | refl => simp
  | tail _ effort ih =>
    refine List.forall_mem_append.mpr ⟨ih, List.forall_mem_map.mpr ?_⟩
    exact fun note hnote => effort.arms note hnote

theorem Annals.arms (h : Annals allows s cmds marks t) : ∀ mark ∈ marks, Arms mark := by
  induction h with
  | start => simp
  | surroundings _ _ ih => exact ih
  | take _ _ carried ih => exact List.forall_mem_append.mpr ⟨ih, carried.efforts.arms⟩
  | abandon _ carried ih => exact List.forall_mem_append.mpr ⟨ih, carried.efforts.arms⟩

/-! ### Attempts are accounted for -/

/-- In every course all backoff timers account for what has happened to them: the count is that of the
firings that were accepted since the last reset, up to the limit, and a firing is awaited just if to arm
it was the last thing that happened, after the delay of the next attempt.  A firing that is overtaken is
never accepted, and a channel that is joined has made no attempt and awaits none. -/
theorem retries_accounted {endpoint : String} {factory : Factory} {outside : ω}
    (h : Course allows (.new endpoint config factory outside) cmds s) :
    (∃ marks, Annals allows (.new endpoint config factory outside) cmds marks s) ∧
    ∀ {marks}, Annals allows (.new endpoint config factory outside) cmds marks s →
      (s.Tallied config fun retry => history retry marks) ∧
      (∀ {retry before g d event after}, (s.retryTimer? retry).isSome = true →
        history retry marks = before ++ .armed g d :: event :: after → event ≠ .fired g →
          .fired g ∉ event :: after) ∧
      ∀ mark ∈ marks, Arms mark := by
  refine ⟨h.annals, fun {marks} hannals => ?_⟩
  have haccounted := hannals.accounted (accounted_new endpoint config factory outside)
  refine ⟨haccounted, fun {retry _ _ _ _ _} hthere heq hother => ?_, hannals.arms⟩
  obtain ⟨b, hb⟩ := Option.isSome_iff_exists.mp hthere
  exact (haccounted.timer _ hb).overtaken heq hother

/-- A channel fails and asks to join again, without success; then the first firing comes once more. -/
def retrying : List Deed :=
  joined "room" ++ [.announce 0 "3" "room" Event.error, .take, .fire (.rejoin 0 2), .take,
    .answer 0 "4" "4" "room" Status.error, .take, .fire (.rejoin 0 2), .take]

/-- One attempt is counted, and the second one is awaited after its delay. -/
theorem retries_accounted_retrying : ∃ (cmds : List Command) (s : Socket (Watched Idle))
    (marks : List (Mark (Watched Idle))), Course (fun _ _ _ => True) watched cmds s ∧
      Annals (fun _ _ _ => True) watched cmds marks s ∧ attempts (history (.rejoin 0) marks) = 1 ∧
      (history (.rejoin 0) marks).getLast? = some (.armed 4 2000) := by
  obtain ⟨⟨cmds, s⟩, hplay, hview⟩ := Option.map_eq_some_iff.mp
    (show (watched.follow? anyhow watching retrying).map (fun r =>
        (r.2.channels.get? 0).map fun ch => (ch.rejoinTimer, ch.state)) =
      some (some (⟨1, ⟨4, true⟩⟩, .errored)) by cbv)
  obtain ⟨ch, hc, hretry⟩ := Option.map_eq_some_iff.mp hview
  obtain ⟨htimer, -⟩ := Prod.mk.inj hretry
  have hcourse : Course (fun _ _ _ => True) watched cmds s :=
    course_of_follow? (fun _ _ => trivial) (fun _ _ => trivial) hplay
  obtain ⟨⟨marks, hannals⟩, haccounts⟩ := retries_accounted hcourse
  have hthere : s.retryTimer? (.rejoin 0) = some ⟨1, ⟨4, true⟩⟩ := by
    simp only [retryTimer?, hc, Option.map_some, htimer]
  have htells := (haccounts hannals).1.timer _ hthere
  obtain ⟨d, hlast⟩ := htells.pending.mp (show (BackoffTimer.fire ⟨1, ⟨4, true⟩⟩ 4).isSome = true from rfl)
  have hd : d = 2000 := htells.delay hlast
  refine ⟨cmds, s, marks, hcourse, hannals, ?_, hd ▸ hlast⟩
  have htries : 1 = min (attempts (history (.rejoin 0) marks)) 0xFFFFFFFF := htells.tries
  omega

end Socket

end Switchboard
