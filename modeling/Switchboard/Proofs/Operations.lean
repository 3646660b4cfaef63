import Switchboard.Proofs.Dispatch
import Switchboard.Proofs.Waiting

/-!
# What operations do to a channel

To leave, to join and to let a push run out of time are sequences of moves, also where a hook
interferes; what the other operations do is a single move.

Main results

* `Socket.works_depart`, `Socket.roughly_leave`: a channel departs, and answers its leave itself;
* `Socket.works_attempt`: the join push is sent once more;
* `Socket.moves_triggerPush`, `Socket.moves_pushTimeout`, `Socket.roughly_pushTimeout`;
* `Socket.move_push`, `Socket.move_receive`, `Socket.move_awaitReply`, `Socket.moves_release`.
-/

set_option autoImplicit false

namespace Switchboard

namespace Channel

variable {x y : Exchange} {c : ChannelId} {ch ch' : Channel} {p : PushId} {q : Push}

@[simp] theorem start_state (r : Ref) (n : BindingId) : (ch.start p q r n).state = ch.state :=
  dropBindings?_state _

@[simp] theorem start_buffer (r : Ref) (n : BindingId) : (ch.start p q r n).buffer = ch.buffer :=
  dropBindings?_buffer _

@[simp] theorem start_topic (r : Ref) (n : BindingId) : (ch.start p q r n).topic = ch.topic :=
  dropBindings?_topic _

@[simp] theorem takeBack_state : (ch.takeBack p q).state = ch.state := dropBindings?_state _

@[simp] theorem takeBack_buffer : (ch.takeBack p q).buffer = ch.buffer := dropBindings?_buffer _

@[simp] theorem takeBack_topic : (ch.takeBack p q).topic = ch.topic := dropBindings?_topic _

@[simp] theorem settle_buffer (timer : TimerSlot) (reply : Reply) :
    (ch.settle p q timer reply).buffer = ch.buffer := dropBindings?_buffer _

theorem Starts.state_eq (h : ch.Starts x y c p ch') : ch'.state = ch.state := by
  obtain ⟨q, r, n, _, _, ha⟩ := h
  exact ha.state.trans (start_state r n)

theorem Starts.topic_eq (h : ch.Starts x y c p ch') : ch'.topic = ch.topic := by
  obtain ⟨q, r, n, _, _, ha⟩ := h
  exact ha.topic.trans (start_topic r n)

theorem Starts.buffer_eq (h : ch.Starts x y c p ch') : ch'.buffer = ch.buffer := by
  obtain ⟨q, r, n, _, _, ha⟩ := h
  exact ha.buffer.trans (start_buffer r n)

theorem Starts.hook_eq (h : ch.Starts x y c p ch') : ch'.hook = ch.hook := by
  obtain ⟨q, r, n, _, _, ha⟩ := h
  exact ha.hook.trans (start_hook r n)

end Channel

namespace Socket

variable {ω : Type} {s t u : Socket (Recorded ω)} {k : Prompt} {c d : ChannelId}
variable {ch ch' : Channel} {p : PushId} {q : Push} {es : List Effect}

section Outside

variable [Outside ω] [Obliging ω]

/-! ### The channel answers a push -/

/-- The event of a push is dispatched by the channel itself. -/
theorem moves_triggerPush (hs : Sound s) (hc : s.channels.get? c = some ch)
    (hp : ch.pushes.get? p = some q) {r : Ref} (hr : q.ref = some r) (status : String)
    (response : Payload) :
    Moves (.reply r (.reply status response)) c s (s.triggerPush c p status response) := by
  have hevent : q.refEvent = some (Event.replyTo r) := by
    rw [(hs.channels hc).events hp, hr, Option.map_some]
  have heq : s.triggerPush c p status response =
      s.trigger c (Event.replyTo r) (.reply status response) none none := by
    simp only [triggerPush, push?_eq_some.mpr ⟨ch, hc, hp⟩, Option.bind_some, hevent]
  rw [heq]
  exact (level_dispatchTo 3).moves hs hc (.inr ⟨rfl, fun _ => rfl⟩)

omit [Obliging ω] in
theorem triggerPush_of_none (hp : ∀ q, s.push? c p = some q → q.refEvent = none) (status : String)
    (response : Payload) : s.triggerPush c p status response = s := by
  unfold triggerPush
  cases hq : s.push? c p with
  | none => rfl
  | some q => simp only [Option.bind_some, hp q hq]

omit [Obliging ω] in
/-- A firing that is no longer awaited does nothing. -/
theorem pushTimeout_cases (s : Socket (Recorded ω)) (c : ChannelId) (p : PushId) (generation : Nat) :
    s.pushTimeout c p generation = s ∨
      ∃ ch q, s.channels.get? c = some ch ∧ ch.pushes.get? p = some q ∧ q.timer.armed = true ∧
        s.pushTimeout c p generation =
          (s.modifyPush c p fun q' => { q' with timer := q.timer.cancel }).triggerPush c p
            Status.timeout .empty := by
  unfold pushTimeout
  split
  · exact .inl rfl
  · rename_i timer htimer
    obtain ⟨q, hq, haccept⟩ := Option.bind_eq_some_iff.mp htimer
    obtain ⟨ch, hc, hp⟩ := push?_eq_some.mp hq
    obtain ⟨harmed, _, rfl⟩ := TimerSlot.accept_eq_some_iff.mp haccept
    exact .inr ⟨ch, q, hc, hp, harmed, rfl⟩

/-- The timer of a push lapses, and the channel answers the push. -/
theorem moves_pushTimeout (hs : Sound s) (c : ChannelId) (p : PushId) (generation : Nat) :
    s.pushTimeout c p generation = s ∨
      ∃ ch q k t, s.channels.get? c = some ch ∧ ch.pushes.get? p = some q ∧ q.timer.armed = true ∧
        (k = .failure ∨ ∃ r, q.ref = some r ∧ k = .reply r (.reply Status.timeout .empty)) ∧
        Works c { ch with pushes := ch.pushes.set p { q with timer := q.timer.cancel } } [] s t ∧
        Moves k c t (s.pushTimeout c p generation) := by
  rcases pushTimeout_cases s c p generation with h | ⟨ch, q, hc, hp, harmed, heq⟩
  · exact .inl h
  have hw := works_modifyPush hc hp fun q' => { q' with timer := q.timer.cancel }
  set s₁ := s.modifyPush c p fun q' => { q' with timer := q.timer.cancel } with hs₁
  have hget : ({ ch with pushes := ch.pushes.set p { q with timer := q.timer.cancel } } :
      Channel).pushes.get? p = some { q with timer := q.timer.cancel } := Table.get?_set_self _ _ _
  have hlapse : Rough .failure c s s₁ := .lapse hc hp hw
  have hevent := (hs.channels hc).events hp
  rcases Option.eq_none_or_eq_some q.ref with hr | ⟨r, hr⟩
  · refine .inr ⟨ch, q, .failure, s₁, hc, hp, harmed, .inl rfl, hw, ?_⟩
    rw [heq, triggerPush_of_none]
    intro q' hq'
    obtain ⟨ch', hc', hp'⟩ := push?_eq_some.mp hq'
    rw [hw.get?] at hc'
    cases hc'
    rw [hget] at hp'
    cases hp'
    show q.refEvent = none
    rw [hevent, hr, Option.map_none]
  · refine .inr ⟨ch, q, .reply r (.reply Status.timeout .empty), s₁, hc, hp, harmed,
      .inr ⟨r, hr, rfl⟩, hw, ?_⟩
    rw [heq]
    exact moves_triggerPush (hlapse.sound hs) hw.get? hget hr Status.timeout .empty

theorem roughly_pushTimeout (hs : Sound s) (c : ChannelId) (p : PushId) (generation : Nat) :
    s.pushTimeout c p generation = s ∨
      ∃ ch q k, s.channels.get? c = some ch ∧ ch.pushes.get? p = some q ∧ q.timer.armed = true ∧
        (k = .failure ∨ ∃ r, q.ref = some r ∧ k = .reply r (.reply Status.timeout .empty)) ∧
        Roughly k c s (s.pushTimeout c p generation) := by
  rcases moves_pushTimeout hs c p generation with h | ⟨ch, q, k, t, hc, hp, harmed, hk, hw, hmoves⟩
  · exact .inl h
  · have hlapse : Rough k c s t := .lapse hc hp hw
    exact .inr ⟨ch, q, k, hc, hp, harmed, hk, .head hlapse hmoves.roughly⟩

/-! ### Leaving -/

/-- A channel departs: its leave is sent, and it does not wait for the server. -/
theorem works_depart (hs : Sound s) (hc : s.channels.get? c = some ch)
    (hspent : s.exchange.Spent (.pushes c) p) (hfree : ch.pushes.get? p = none)
    (hother : p ≠ joinPush) (timeout : Nat) (detached : Bool) :
    ∃ t join ch' m, ch.pushes.get? joinPush = some join ∧ m.event = Event.leave ∧
      m.topic = ch.topic ∧
      ((departing ch join).insert p { Push.leave timeout with detached := detached }).Starts
        s.exchange t.exchange c p ch' ∧
      Works c ch' [.accept (.push c p) m] s t ∧
      s.leave c p timeout detached = t.triggerPush c p Status.ok .empty := by
  have hch := hs.channels hc
  obtain ⟨join, hjoin, _⟩ := hch.join
  set push : Push := { Push.leave timeout with detached := detached } with hpush
  -- The channel departs in one step that also adds its leave.
  have hw₀ := works_modifyChannel hc fun _ => departing ch join
  have hs₀ := hs.works hc hw₀ (departing_sound hch hjoin) (departing_refs hjoin).from
  set s₀ := s.modifyChannel c fun _ => departing ch join with hs₀eq
  set s₁ := s.modifyChannel c fun ch =>
      { ch with
        rejoinTimer := ch.rejoinTimer.reset
        state := .leaving
        pushes := (ch.pushes.modify joinPush fun join =>
          { join with timer := join.timer.cancel }).set p push } with hs₁
  have hw₁ : Works c ((departing ch join).insert p push) [] s₀ s₁ := by
    have h := works_modifyChannel hc fun ch : Channel =>
      { ch with
        rejoinTimer := ch.rejoinTimer.reset
        state := .leaving
        pushes := (ch.pushes.modify joinPush fun join =>
          { join with timer := join.timer.cancel }).set p push }
    refine ⟨?_, rfl, .refl _, (List.append_nil _).symm⟩
    rw [h.channels_eq, hw₀.channels_eq, Table.set_set, Table.modify_eq_set hjoin]
    rfl
  have hfree₀ : (departing ch join).pushes.get? p = none := by
    rw [departing, Table.get?_set_of_ne _ hother]
    exact hfree
  obtain ⟨ch', value, hstarts, hw₂⟩ := works_insert_sendPush hs₀ hw₀.get? hspent hfree₀
    (Push.isNew_leave timeout detached) rfl hw₁
  refine ⟨_, join, ch', _, hjoin, rfl, hstarts.topic_eq, hstarts, hw₀.trans hw₂, ?_⟩
  have hcontains : s.channels.contains c = true := (Table.contains_iff _ _).mpr ⟨ch, hc⟩
  have hstate : (s₁.sendPush c p).canPush c = false := by
    have : ch'.state = .leaving := hstarts.state_eq
    simp only [canPush, hw₂.get?, this]
    exact Bool.and_false _
  simp only [leave, hcontains, Bool.not_true, Bool.false_eq_true, if_false, ← hpush, ← hs₁, hstate]

/-- A channel departs, and answers its leave. -/
theorem moves_leave (hs : Sound s) (hc : s.channels.get? c = some ch)
    (hspent : s.exchange.Spent (.pushes c) p) (hfree : ch.pushes.get? p = none)
    (hother : p ≠ joinPush) (timeout : Nat) (detached : Bool) :
    ∃ t join ch' m q r, ch.pushes.get? joinPush = some join ∧
      ((departing ch join).insert p { Push.leave timeout with detached := detached }).Starts
        s.exchange t.exchange c p ch' ∧
      Works c ch' [.accept (.push c p) m] s t ∧ ch'.pushes.get? p = some q ∧ q.ref = some r ∧
      Moves (.reply r (.reply Status.ok .empty)) c t (s.leave c p timeout detached) := by
  obtain ⟨t, join, ch', m, hjoin, _, _, hstarts, hw, heq⟩ :=
    works_depart hs hc hspent hfree hother timeout detached
  have hrough : Rough .failure c s t := .departs hc hjoin hfree (hw.evolves.spent hspent) hother
    hstarts hw fun e he => ⟨m, List.mem_singleton.mp he⟩
  obtain ⟨_, r, _, q, _, _, hq, hr, _⟩ := hstarts.self
  refine ⟨t, join, ch', m, q, r, hjoin, hstarts, hw, hq, hr, ?_⟩
  rw [heq]
  exact moves_triggerPush (hrough.sound hs) hw.get? hq hr Status.ok .empty

/-- What it is to leave: the departure, and what the channel does when it answers its leave. -/
theorem roughly_leave (hs : Sound s) (hc : s.channels.get? c = some ch)
    (hspent : s.exchange.Spent (.pushes c) p) (hfree : ch.pushes.get? p = none)
    (hother : p ≠ joinPush) (timeout : Nat) (detached : Bool) :
    ∃ t ch' q r, Rough k c s t ∧ t.channels.get? c = some ch' ∧ ch'.pushes.get? p = some q ∧
      q.ref = some r ∧
      Moves (.reply r (.reply Status.ok .empty)) c t (s.leave c p timeout detached) := by
  obtain ⟨t, join, ch', m, q, r, hjoin, hstarts, hw, hq, hr, hmoves⟩ :=
    moves_leave hs hc hspent hfree hother timeout detached
  exact ⟨t, ch', q, r, .departs hc hjoin hfree (hw.evolves.spent hspent) hother hstarts hw
    fun e he => ⟨m, List.mem_singleton.mp he⟩, hw.get?, hq, hr, hmoves⟩

/-! ### Joining -/

/-- A push that was taken back is sent. -/
theorem works_attempt (hs : Sound s) (hc : s.channels.get? c = some ch) :
    ∃ join ch' value, ch.pushes.get? joinPush = some join ∧ join.event = Event.join ∧
      ch'.topic = ch.topic ∧
      ({ ch with state := .joining }.takeBack joinPush { join with timeout := ch.timeout }).Starts
        s.exchange ((s.modifyChannel c fun ch => { ch with state := .joining }).resendPush c joinPush
          ch.timeout).exchange c joinPush ch' ∧
      Works c ch' [.accept (.push c joinPush) (ch'.handed joinPush join.event (bodyOf join value))] s
        ((s.modifyChannel c fun ch => { ch with state := .joining }).resendPush c joinPush
          ch.timeout) := by
  have hch := hs.channels hc
  obtain ⟨join, hjoin, hname, _⟩ := hch.join
  have hw₁ := works_modifyChannel hc fun ch => { ch with state := .joining }
  have hw₂ := works_modifyPush hw₁.get? hjoin fun q => { q with timeout := ch.timeout }
  have hw₃ := works_resetPush hw₂.get? (p := joinPush) (Table.get?_set_self _ _ _)
  have hw := (hw₁.trans hw₂).trans hw₃
  have hback : Channel.takeBack { { ch with state := .joining } with
      pushes := ch.pushes.set joinPush { join with timeout := ch.timeout } } joinPush
        { join with timeout := ch.timeout } =
      { ch with state := .joining }.takeBack joinPush { join with timeout := ch.timeout } := by
    simp only [Channel.takeBack, Table.set_set]
  rw [hback] at hw
  have hs₃ := hs.works hc hw ((joining_sound hch hjoin ch.timeout).mono hw.evolves)
    (joining_refs hjoin ch.timeout).from
  have hget : ({ ch with state := .joining }.takeBack joinPush
      { join with timeout := ch.timeout }).pushes.get? joinPush =
        some { join with timeout := ch.timeout }.reset := by
    rw [Channel.takeBack_pushes, Table.get?_set_self]
  obtain ⟨ch', value, hstarts, hw₄⟩ := works_sendPush hs₃ hw.get? hget
    (by simp [Push.hasReceived, Push.reset])
  exact ⟨join, ch', value, hjoin, hname, hstarts.topic_eq.trans Channel.takeBack_topic,
    hstarts.mono hw.evolves (.refl _), hw.trans hw₄⟩

theorem rough_attempt (hs : Sound s) (hc : s.channels.get? c = some ch) (hstays : ch.state ≠ .leaving) :
    Rough k c s ((s.modifyChannel c fun ch => { ch with state := .joining }).resendPush c joinPush
      ch.timeout) := by
  obtain ⟨join, ch', value, hjoin, _, _, hstarts, hw⟩ := works_attempt hs hc
  exact .joins hc hjoin hstays hstarts hw

omit [Outside ω] [Obliging ω] in
/-- A live duplicate is another registered channel of the topic. -/
theorem liveDuplicate?_eq_some {topic : String} (h : s.liveDuplicate? topic c = some d) :
    d ∈ s.order ∧ d ≠ c ∧ ∃ ch, s.channels.get? d = some ch ∧ ch.topic = topic ∧
      ch.isLive = true := by
  have hmem := List.mem_of_find?_eq_some h
  have hfound := List.find?_some h
  simp only [Bool.and_eq_true, bne_iff_ne, ne_eq] at hfound
  refine ⟨hmem, hfound.1, ?_⟩
  have hlive := hfound.2
  split at hlive
  · rename_i ch hch
    simp only [Bool.and_eq_true, beq_iff_eq] at hlive
    exact ⟨ch, hch, hlive.1, hlive.2⟩
  · cases hlive

omit [Obliging ω] in
/-- A topic has no live channel besides, or its first one is left. -/
theorem leaveOpenTopic_cases (hs : Sound s) (topic : String) (c : ChannelId) :
    (s.liveDuplicate? topic c = none ∧ s.leaveOpenTopic topic c = s) ∨
      ∃ d ch p t, s.liveDuplicate? topic c = some d ∧ d ∈ s.order ∧ d ≠ c ∧
        s.channels.get? d = some ch ∧ ch.topic = topic ∧ ch.isLive = true ∧ Quiet s t ∧
        ¬ s.exchange.Spent (.pushes d) p ∧ t.exchange.Spent (.pushes d) p ∧
        ch.pushes.get? p = none ∧ p ≠ joinPush ∧
        s.leaveOpenTopic topic c = t.leave d p ch.timeout true := by
  cases hdup : s.liveDuplicate? topic c with
  | none =>
    refine .inl ⟨rfl, ?_⟩
    simp only [leaveOpenTopic, hdup]
  | some d =>
    obtain ⟨hmem, hne, ch, hch, htopic, hlive⟩ := liveDuplicate?_eq_some hdup
    have hlt := hs.lt_length hch
    obtain ⟨hspent, hnot, hother⟩ := Exchange.spent_drawPush hs.tidy hlt
    refine .inr ⟨d, ch, (s.drawPush d).1, (s.drawPush d).2, rfl, hmem, hne, hch, htopic, hlive,
      quiet_drawPush s hlt, hnot, hspent, ?_, hother, ?_⟩
    · by_contra hsome
      obtain ⟨q, hq⟩ := Option.ne_none_iff_exists'.mp hsome
      exact hnot ((hs.channels hch).pushes hq)
    · simp only [leaveOpenTopic, hdup, hch]

/-- A topic is left before another channel joins it; the channel that joins stays as it is. -/
theorem get?_leaveOpenTopic (hs : Sound s) (topic : String) (c : ChannelId) :
    (s.leaveOpenTopic topic c).channels.get? c = s.channels.get? c := by
  rcases leaveOpenTopic_cases hs topic c with ⟨_, heq⟩ |
    ⟨d, ch, p, t, _, _, hne, hch, _, _, hquiet, _, hspent, hfree, hother, heq⟩
  · rw [heq]
  · obtain ⟨u, _, _, _, hrough, _, _, _, hmoves⟩ :=
      roughly_leave (k := .failure) (hs.quiet hquiet) (hquiet.get? d ▸ hch) hspent hfree hother
        ch.timeout true
    rw [heq, (Moves.frame hmoves).others hne.symm, hrough.frame.others hne.symm, hquiet.get?]

/-- A join attempt comes to nothing, or the topic is left and the join push is sent. -/
theorem rejoin_cases (hs : Sound s) (hc : s.channels.get? c = some ch) :
    (ch.state = .leaving ∧ s.rejoin c = s) ∨
      (ch.state ≠ .leaving ∧ (s.leaveOpenTopic ch.topic c).channels.get? c = some ch ∧
        s.rejoin c = ((s.leaveOpenTopic ch.topic c).modifyChannel c fun ch =>
          { ch with state := .joining }).resendPush c joinPush ch.timeout) := by
  by_cases hstate : ch.state = .leaving
  · refine .inl ⟨hstate, ?_⟩
    simp only [rejoin, hc, hstate, if_true]
  · have hget := (get?_leaveOpenTopic hs ch.topic c).trans hc
    refine .inr ⟨hstate, hget, ?_⟩
    simp only [rejoin, hc, hstate, if_false, hget]

/-! ### Other operations -/

/-- A user's push is added: it is sent, or waits in the buffer. -/
theorem move_push (hs : Sound s) (hc : s.channels.get? c = some ch) {event : String}
    {payload : Payload} {timeout : Nat} (hspent : s.exchange.Spent (.pushes c) p)
    (hfree : ch.pushes.get? p = none) (hother : p ≠ joinPush) :
    Move (.op (.push p event payload timeout)) c s (s.push c p event payload timeout) := by
  have hw₁ := works_modifyChannel hc fun ch => ch.insert p (.new event (.fixed payload) timeout)
  set s₁ := s.modifyChannel c fun ch => ch.insert p (.new event (.fixed payload) timeout) with hs₁
  have hcontains : s.channels.contains c = true := (Table.contains_iff _ _).mpr ⟨ch, hc⟩
  have heq : s.push c p event payload timeout = if s₁.canPush c then s₁.sendPush c p
      else (s₁.startTimeout c p).modifyChannel c fun ch => { ch with buffer := ch.buffer ++ [p] } := by
    simp only [push, hcontains, Bool.not_true, Bool.false_eq_true, if_false, hs₁]
    rfl
  rw [heq]
  split
  · rename_i hcan
    have hjoined : ch.state = .joined := by
      simp only [canPush, hw₁.get?, Bool.and_eq_true, beq_iff_eq] at hcan
      exact hcan.2
    obtain ⟨ch', value, hstarts, hw⟩ := works_insert_sendPush hs hc hspent hfree
      (Push.isNew_new _ _ _) rfl hw₁
    exact .alter hc (.enlist rfl hfree (hw.evolves.spent hspent) hother hstarts
      (.inl hstarts.buffer_eq) (.inr ⟨hjoined, rfl⟩)) hw
  · have hget : (ch.insert p (.new event (.fixed payload) timeout)).pushes.get? p =
        some (.new event (.fixed payload) timeout) := Table.get?_set_self _ _ _
    have hs₁' := hs.insert hc hspent hfree (Push.isNew_new _ _ _) hw₁
    obtain ⟨r, n, hfresh, hw₂⟩ := works_startTimeout hs₁' hw₁.get? hget
    have hw₃ := works_modifyChannel hw₂.get? fun ch => { ch with buffer := ch.buffer ++ [p] }
    have hw := (hw₁.trans hw₂).trans hw₃
    refine .alter hc (.enlist rfl hfree (hw.evolves.spent hspent) hother
      ⟨_, r, n, hget, (hfresh.mono hw₃.evolves).of_evolves hw₁.evolves, .refl _⟩ (.inr ?_)
      (.inl rfl)) hw
    exact congrArg (· ++ [p]) (Channel.start_buffer r n)

/-- More is to run on a status; it runs at once if the push has a reply of the status. -/
theorem move_receive (s : Socket (Recorded ω)) (c : ChannelId) (p : PushId) (status : String)
    (callback : CallbackId) : Move k c s (s.receive c p status callback) := by
  unfold receive
  cases hq : s.push? c p with
  | none => exact .quiet (.refl s)
  | some q =>
    obtain ⟨ch, hc, hp⟩ := push?_eq_some.mp hq
    have halike : ch.Alike { ch with
        pushes := ch.pushes.set p (q.onReply status (.callback callback)) } :=
      .set hp ⟨rfl, rfl, rfl, rfl, rfl, [(status, .callback callback)], rfl, by
        simp [IsCallback]⟩
    have hplain := works_modifyPush hc hp fun q => q.onReply status (.callback callback)
    cases hr : q.received with
    | none =>
      simp only [hr]
      exact .alter hc (.alike halike (by simp)) hplain
    | some reply =>
      simp only [hr]
      split
      · rename_i hstatus
        have hc' : (s.perform (.runReply c p (.callback callback) reply)).channels.get? c = some ch :=
          hc
        have hw := ((turns_perform s (.runReply c p (.callback callback) reply)).works hc).trans
          (works_modifyPush hc' hp fun q => q.onReply status (.callback callback))
        refine .alter hc (.alike halike fun e he => ?_) hw
        obtain rfl : e = .runReply c p (.callback callback) reply := List.mem_singleton.mp he
        refine .hook (.inr ⟨_, Table.get?_set_self _ _ _, hr, ?_⟩)
        rw [eq_of_beq hstatus]
        exact List.mem_append_right _ (List.mem_singleton_self _)
      · exact .alter hc (.alike halike (by simp)) hplain

/-- A caller waits for a reply, or has it at once. -/
theorem move_awaitReply (s : Socket (Recorded ω)) (c : ChannelId) (p : PushId) (ticket : Ticket) :
    Move k c s (s.awaitReply c p ticket) := by
  unfold awaitReply
  cases hq : s.push? c p with
  | none => exact .quiet (quiet_perform s rfl)
  | some q =>
    obtain ⟨ch, hc, hp⟩ := push?_eq_some.mp hq
    cases hr : q.received with
    | none =>
      simp only [hr]
      refine .alter hc (.alike (.set hp ?_) (by simp)) (works_modifyPush hc hp _)
      exact ⟨rfl, rfl, rfl, rfl, rfl, [], by simp, by simp⟩
    | some reply =>
      simp only [hr]
      refine .alter hc (.alike (.refl ch) fun e he => ?_)
        ((turns_perform s (.answer ticket (.reply c p reply))).works hc)
      obtain rfl : e = .answer ticket (.reply c p reply) := List.mem_singleton.mp he
      exact .answer hp hr

omit [Outside ω] [Obliging ω] in
theorem moves_release (s : Socket (Recorded ω)) (c : ChannelId) (p : PushId) :
    Moves k c s (s.release c p) := by
  unfold release
  split
  · exact .refl
  · refine Relation.ReflTransGen.trans ?_ (moves_releasePush _ c p)
    cases hq : s.push? c p with
    | none => rw [modifyPush_eq_self hq]
    | some q =>
      obtain ⟨ch, hc, hp⟩ := push?_eq_some.mp hq
      refine .single (.alter hc (.alike (.set hp ?_) (by simp)) (works_modifyPush hc hp _))
      exact ⟨rfl, rfl, rfl, rfl, rfl, [], by simp, by simp⟩

theorem quiet_tell (s : Socket (Recorded ω)) (c : ChannelId) (ticket : Ticket)
    {f : Channel → Answer} (hf : ∀ ch, (Effect.answer ticket (f ch)).concernsPush = false) :
    Quiet s (s.tell c ticket f) := by
  unfold tell
  split
  · exact quiet_perform s (hf _)
  · exact quiet_perform s rfl

end Outside

end Socket

end Switchboard
