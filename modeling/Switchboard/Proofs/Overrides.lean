import Switchboard.Proofs.Partings
import Switchboard.Proofs.Answers
import Switchboard.Proofs.Reserved

/-!
# What users can override

A push that times out, a leave and a failure that the server reports travel through the hook and the
bindings of a channel like any other event, so users have a say in them: a hook can withhold an answer or
make another one of it, and withhold a closing, and to remove the bindings with a reserved name is to
remove the channel's own.  These are the only ways: what is neither withheld nor changed by the hook, and
whose binding is still there, takes its course whatever users have done besides.

Main definitions

* `Socket.leftOf`: what the hook leaves of an answer to a push;
* `Socket.Departed`: a channel has sent its leave, and does not know yet that it may close;
* `Socket.Overrides`: what comes of a timeout, of a leave and of a failure.

Main results

* `Socket.answers_pushTimeout`: a push that times out is resolved, or nothing becomes of it;
* `Socket.departed_leave`, `Socket.Departed.ends_leave`: a channel that leaves closes, or it stays leaving;
* `Socket.state_messageReceived`: a failure that the server reports reaches a channel that has no hook;
* `Socket.Reachable.overrides`: users have a say in all of this by hooks and reserved names only;
* `Socket.users_disable`: by these they can disable it.
-/

set_option autoImplicit false

namespace Switchboard

namespace Channel

variable {x y : Exchange} {c : ChannelId} {ch ch' : Channel} {p : PushId} {q : Push}

/-! ### The bindings for the closing stay -/

/-- Bindings fit as long as those for the closing are the same. -/
theorem Sound.fitting (hs : ch'.Sound x c) (h : ch.Fitting) (hclosers : ch'.closers = ch.closers) :
    ch'.Fitting where
  fits := by
    intro b hb
    by_cases hl : b.IsListener
    · obtain ⟨l, hl⟩ := hl
      simp only [Binding.Fits, hl]
    · rcases hs.internal hb hl with rfl | rfl | rfl | ⟨p, q, r, ht, _, _, _, hevent⟩
      · rfl
      · rfl
      · rfl
      · simp only [Binding.Fits, ht]
        exact ⟨r, hevent⟩
  named := by
    intro p q event hq hevent
    rw [hs.events hq] at hevent
    obtain ⟨r, _, rfl⟩ := Option.map_eq_some_iff.mp hevent
    exact ⟨r, rfl⟩
  numbers := hclosers ▸ h.numbers
  first := hclosers ▸ h.first

/-- A binding for failures that is not the channel's own one tells users. -/
theorem Sound.listens_for_failure (hs : ch.Sound x c) {b : Binding} (hb : b ∈ ch.bindings)
    (hevent : b.event = Event.error) (hother : b ≠ ⟨Event.error, 1, .error⟩) : b.IsListener := by
  by_contra hnot
  exact hother (hs.eq_error hb hevent hnot)

/-- The channel's own binding for failures stands among others that tell users. -/
theorem Sound.alarms_split (hs : ch.Sound x c) (hown : ⟨Event.error, 1, .error⟩ ∈ ch.bindings) :
    ∃ before after, ch.alarms = before ++ ⟨Event.error, 1, .error⟩ :: after ∧
      ∀ b, b ∈ before ∨ b ∈ after → b ∈ ch.alarms ∧ b.IsListener := by
  obtain ⟨before, after, halarms⟩ := List.append_of_mem (mem_alarms.mpr ⟨hown, rfl⟩)
  have hnodup : (ch.alarms.map (·.number)).Nodup := hs.distinct.sublist (List.filter_sublist.map _)
  rw [halarms, List.map_append, List.map_cons] at hnodup
  obtain ⟨-, hright, hdisjoint⟩ := List.nodup_append.mp hnodup
  refine ⟨before, after, halarms, fun b hb => ?_⟩
  have hmem : b ∈ ch.alarms := by
    rw [halarms]
    exact hb.elim (List.mem_append_left _) fun h => List.mem_append_right _ (List.mem_cons_of_mem _ h)
  obtain ⟨hbindings, hevent⟩ := mem_alarms.mp hmem
  refine ⟨hmem, hs.listens_for_failure hbindings hevent ?_⟩
  rintro rfl
  rcases hb with hb | hb
  · exact hdisjoint _ (List.mem_map_of_mem hb) _ List.mem_cons_self rfl
  · exact (List.nodup_cons.mp hright).1 (List.mem_map_of_mem hb)

theorem Fitting.closers_starts (h : ch.Fitting) (hstarts : ch.Starts x y c p ch') :
    ch'.closers = ch.closers := by
  obtain ⟨q, r, n, hq, _, alike⟩ := hstarts
  obtain ⟨hset, hsame⟩ := h.setPush p (q := { q with
    ref := some r
    refEvent := some (Event.replyTo r)
    timer := q.timer.arm }) fun event hevent => by
      cases hevent
      exact ⟨r, rfl⟩
  obtain ⟨hdropped, hsame'⟩ := hset.dropBindings? fun event => h.named hq
  obtain ⟨_, hsame''⟩ := hdropped.bindReply r n p
  calc ch'.closers = (ch.start p q r n).closers := by rw [closers, closers, alike.bindings]
    _ = ch.closers := ((hsame.trans hsame').trans hsame'').closers

theorem Fitting.closers_settle (h : ch.Fitting) (hq : ch.pushes.get? p = some q) (timer : TimerSlot)
    (reply : Reply) : (ch.settle p q timer reply).closers = ch.closers := by
  have hnamed : ∀ event, q.refEvent = some event → Event.NamesReply event := fun _ => h.named hq
  obtain ⟨hset, hsame⟩ := h.setPush p (q := { q with
    timer := timer
    received := some reply
    waiters := [] }) hnamed
  exact (hsame.trans (hset.dropBindings? hnamed).2).closers

theorem closesItself_congr (h : ch'.closers = ch.closers) : ch'.closesItself = ch.closesItself := by
  rw [closesItself, closesItself, h]

end Channel

namespace Push

variable {q : Push} {more : List (String × ReplyHook)} {status : String}

/-- A push at which the end of a leave waits for `ok` and for `timeout`, and besides only users. -/
def EndsLeave (q : Push) : Prop :=
  ∃ more, q.hooks = (Status.ok, .channel .leaveDone) :: (Status.timeout, .channel .leaveDone) :: more ∧
    ∀ hook ∈ more, IsCallback hook

/-- The statuses by which a leave comes to its end. -/
abbrev LetsGo (status : String) : Prop := status = Status.ok ∨ status = Status.timeout

/-- Only users wait for a status at a place. -/
abbrev CallbackAt (q : Push) (status : String) (i : Nat) : Prop :=
  ∀ hook, q.hooks[i]? = some (status, hook) → ∃ callback, hook = .callback callback

theorem EndsLeave.callbackAt (h : q.EndsLeave) (i : Nat)
    (hnot : i = 0 → status ≠ Status.ok) (hnot' : i = 1 → status ≠ Status.timeout) :
    q.CallbackAt status i := by
  obtain ⟨more, hhooks, hmore⟩ := h
  intro hook hget
  rw [hhooks] at hget
  match i with
  | 0 =>
    cases hget
    exact absurd rfl (hnot rfl)
  | 1 =>
    cases hget
    exact absurd rfl (hnot' rfl)
  | i + 2 => exact hmore _ (List.mem_of_getElem? hget)

/-- A status by which a leave comes to its end is waited for in one place. -/
theorem EndsLeave.split (h : q.EndsLeave) (hstatus : LetsGo status) :
    ∃ before i after, List.range q.hooks.length = before ++ i :: after ∧
      q.hooks[i]? = some (status, .channel .leaveDone) ∧
      (∀ j ∈ before, ∀ hook, q.hooks[j]? ≠ some (status, hook)) ∧
      ∀ j ∈ after, q.CallbackAt status j := by
  obtain ⟨more, hhooks, hmore⟩ := h
  have hlength : q.hooks.length = more.length + 2 := by rw [hhooks]; rfl
  have hrange : List.range q.hooks.length =
      0 :: 1 :: (List.range more.length).map fun i => i + 2 := by
    rw [hlength, List.range_succ_eq_map, List.range_succ_eq_map]
    simp [Function.comp_def]
  have hbehind : ∀ j ∈ (List.range more.length).map fun i => i + 2, q.CallbackAt status j := by
    intro j hj
    obtain ⟨i, _, rfl⟩ := List.mem_map.mp hj
    exact EndsLeave.callbackAt ⟨more, hhooks, hmore⟩ _ (fun h => by omega) (fun h => by omega)
  rcases hstatus with rfl | rfl
  · refine ⟨[], 0, _, hrange, by rw [hhooks]; rfl, by simp, fun j hj => ?_⟩
    rcases List.mem_cons.mp hj with rfl | hj
    · exact EndsLeave.callbackAt ⟨more, hhooks, hmore⟩ 1 (by decide) (by decide)
    · exact hbehind j hj
  · refine ⟨[0], 1, _, hrange, by rw [hhooks]; rfl, fun j hj hook hget => ?_, hbehind⟩
    rw [List.mem_singleton.mp hj, hhooks] at hget
    exact absurd (congrArg (Option.map Prod.fst) hget) (by simp [Status.ok, Status.timeout])

end Push

namespace Socket

section Outside

variable {ω : Type} [Outside ω] {s t u : Socket (Recorded ω)} {c : ChannelId}
variable {ch : Channel} {p : PushId} {q : Push} {answer reply : Reply}

/-- What the hook of a channel leaves of an answer to one of its pushes. -/
def leftOf (s : Socket (Recorded ω)) (ch : Channel) (q : Push) (answer : Reply) : Option Reply :=
  q.refEvent.bind fun event => s.readsAs ch event answer

/-- Without a hook an answer to a push that was sent is left as it is. -/
theorem leftOf_of_unhooked (s : Socket (Recorded ω)) (h : ch.hook = none) {event : String}
    (hq : q.refEvent = some event) (answer : Reply) : s.leftOf ch q answer = some answer := by
  rw [leftOf, hq, Option.bind_some, readsAs_of_unhooked s h]

/-- What a hook leaves of an answer depends on the surroundings only. -/
theorem readsAs_congr {ch' : Channel} (hh : ch'.hook = ch.hook) (hx : t.exchange = s.exchange)
    (ho : t.outside = s.outside) (event : String) (answer : Reply) :
    t.readsAs ch' event answer = s.readsAs ch event answer := by
  unfold readsAs passHook
  rw [hh, hx, ho]
  cases ch.hook with
  | none => rfl
  | some callback =>
    dsimp only
    split
    · rfl
    · split <;> rfl

/-- A push that is released leaves the channel in its state. -/
theorem state_releasePush {ω : Type} {s : Socket ω} (hc : s.channels.get? c = some ch) :
    ∃ ch', (s.releasePush c p).channels.get? c = some ch' ∧ ch'.state = ch.state := by
  unfold releasePush
  split
  · exact ⟨ch, hc, rfl⟩
  · split
    · exact ⟨ch, hc, rfl⟩
    · split
      · simp only [modifyChannel, Table.get?_modify, if_true, hc, Option.map_some, Option.some.injEq,
          exists_eq_left', Channel.dropBindings?_state]
      · exact ⟨ch, hc, rfl⟩

variable [Obliging ω]

/-! ### Timeouts -/

/-- A push whose time is over: it is resolved if it is listened for and the hook leaves something that
reads as a reply, and else only its time has lapsed. -/
theorem answers_pushTimeout (hs : Sound s) (hb : s.exchange.drawn < 2 ^ 64)
    (hc : s.channels.get? c = some ch) (hq : ch.pushes.get? p = some q) {generation : Nat}
    {timer : TimerSlot} (accept : q.timer.accept generation = some timer) :
    (∀ reply, ch.Awaits p → s.leftOf ch q ⟨Status.timeout, .empty⟩ = some reply →
      Resolves c p q reply s (s.pushTimeout c p generation)) ∧
    (¬ ch.Awaits p ∨ s.leftOf ch q ⟨Status.timeout, .empty⟩ = none →
      Works c { ch with pushes := ch.pushes.set p { q with timer := q.timer.cancel } } [] s
        (s.pushTimeout c p generation)) := by
  obtain ⟨_, _, rfl⟩ := TimerSlot.accept_eq_some_iff.mp accept
  set lapsed : Channel := { ch with pushes := ch.pushes.set p { q with timer := q.timer.cancel } }
    with hlapsed
  set u := s.modifyPush c p fun q' => { q' with timer := q.timer.cancel } with hu
  have hw : Works c lapsed [] s u := works_modifyPush hc hq _
  have hgetq : lapsed.pushes.get? p = some { q with timer := q.timer.cancel } := Table.get?_set_self _ _ _
  have heq : s.pushTimeout c p generation = u.triggerPush c p Status.timeout .empty := by
    simp only [pushTimeout, push?_eq_some.mpr ⟨ch, hc, hq⟩, Option.bind_some, accept]
    rfl
  have hsu : Sound u := (Rough.lapse (k := .failure) hc hq hw).sound hs
  have hanswers := answers_triggerPush hsu hw.get? hgetq Status.timeout .empty
  rw [← heq] at hanswers
  have hsame : ∀ event, u.readsAs lapsed event ⟨Status.timeout, .empty⟩ =
      s.readsAs ch event ⟨Status.timeout, .empty⟩ := fun _ =>
    readsAs_congr (by rfl) (by rfl) (by rfl) _ _
  have hread : (({ q with timer := q.timer.cancel } : Push).refEvent.bind fun event =>
      u.readsAs lapsed event ⟨Status.timeout, .empty⟩) = s.leftOf ch q ⟨Status.timeout, .empty⟩ :=
    congrArg q.refEvent.bind (funext hsame)
  have hheard : ({ q with timer := q.timer.cancel } : Push).refEvent.bind lapsed.answered? =
      q.refEvent.bind ch.answered? := rfl
  have hch := hs.channels hc
  have hapart := hs.channel_apart hb hc
  have hevent := hch.events hq
  refine ⟨fun reply hawaits hreply => ?_, fun hidle => hw.quiet (hanswers.idle ?_)⟩
  · have hfound : q.refEvent.bind ch.answered? = some p := by
      obtain ⟨_, q', r, _, _, hq', hr, _⟩ := hch.ref_of_awaits hawaits
      rw [hq] at hq'
      cases hq'
      rw [hevent, hr, Option.map_some, Option.bind_some, hch.answered?_of_awaits hapart hq hr hawaits]
    obtain ⟨q', hq', _, hresolves⟩ := hanswers.resolves (hheard.trans hfound) (hread.trans hreply)
    rw [hgetq] at hq'
    cases hq'
    obtain ⟨⟨es, ran, hlog, hes, hran, hall⟩, hreceived⟩ := hresolves
    refine ⟨⟨es, ran, ?_, hes, hran, hall⟩, hreceived⟩
    rw [hlog, hw.log_eq, List.append_nil]
  · rcases hidle with hdeaf | hnone
    · left
      rw [hheard, hevent]
      cases hr : q.ref with
      | none => rfl
      | some r => exact hch.answered?_of_not_awaits hapart hq hr hdeaf
    · exact .inr (hread.trans hnone)

/-! ### Leaving -/

/-- A channel answers a push that is listened for: what the hook leaves of the answer resolves it. -/
theorem resolves_triggerPush (hs : Sound s) (hb : s.exchange.drawn < 2 ^ 64)
    (hc : s.channels.get? c = some ch) (hq : ch.pushes.get? p = some q) (hawaits : ch.Awaits p)
    (status : String) (response : Payload) :
    (s.leftOf ch q ⟨status, response⟩ = none → Quiet s (s.triggerPush c p status response)) ∧
    ∀ reply, s.leftOf ch q ⟨status, response⟩ = some reply → ∃ v, Quiet s v ∧
      Quiet (v.resolvePush (dispatchTo 2) c p reply) (s.triggerPush c p status response) := by
  have hch := hs.channels hc
  obtain ⟨_, q', r, _, _, hq', hr, _⟩ := hch.ref_of_awaits hawaits
  rw [hq] at hq'
  cases hq'
  have hsome : q.refEvent = some (Event.replyTo r) := by rw [hch.events hq, hr, Option.map_some]
  have hreach := hch.answered?_of_awaits (hs.channel_apart hb hc) hq hr hawaits
  have heq : s.triggerPush c p status response =
      dispatchTo 3 c (Event.replyTo r) (.reply status response) none none s := by
    simp only [triggerPush, push?_eq_some.mpr ⟨ch, hc, hq⟩, Option.bind_some, hsome]
    rfl
  obtain ⟨hidle, hresolves⟩ := dispatchTo_answer 2 hs hc r (.reply status response) none none
  rw [heq]
  simp only [leftOf, hsome, Option.bind_some]
  refine ⟨fun hnone => hidle (.inr hnone), fun reply hreply => ?_⟩
  obtain ⟨v, _, hv, _, _, hrest⟩ := hresolves hreach hreply
  exact ⟨v, hv, hrest⟩

/-- A channel has sent its leave, and has not answered it yet. -/
structure Departed (c : ChannelId) (p : PushId) (ch left : Channel) (q : Push)
    (s u : Socket (Recorded ω)) : Prop where
  works : ∃ m : Message, m.event = Event.leave ∧ Works c left [.accept (.push c p) m] s u
  state : left.state = .leaving
  hook : left.hook = ch.hook
  closers : left.closers = ch.closers
  push : left.pushes.get? p = some q
  ends : q.EndsLeave
  sent : ∃ r, q.refEvent = some (Event.replyTo r)
  awaits : left.Awaits p

omit [Outside ω] [Obliging ω] in
theorem Departed.get? {left : Channel} (h : Departed c p ch left q s u) :
    u.channels.get? c = some left := by
  obtain ⟨_, _, hw⟩ := h.works
  exact hw.get?

/-- To leave is to send the leave, and to answer it. -/
theorem departed_leave (hs : Sound s) (hf : ch.Fitting) (hc : s.channels.get? c = some ch)
    (hspent : s.exchange.Spent (.pushes c) p) (hfree : ch.pushes.get? p = none)
    (hother : p ≠ joinPush) (timeout : Nat) (detached : Bool) :
    ∃ left q u, Departed c p ch left q s u ∧ Sound u ∧
      s.leave c p timeout detached = u.triggerPush c p Status.ok .empty := by
  obtain ⟨u, join, left, m, hjoin, hevent, _, hstarts, hw, heq⟩ :=
    works_depart hs hc hspent hfree hother timeout detached
  have hrough : Rough .failure c s u := .departs hc hjoin hfree (hw.evolves.spent hspent) hother
    hstarts hw fun e he => ⟨m, List.mem_singleton.mp he⟩
  set push : Push := { Push.leave timeout with detached := detached } with hpush
  have hfree₀ : (departing ch join).pushes.get? p = none := by
    rw [departing, Table.get?_set_of_ne _ hother]
    exact hfree
  have hinserted := (departing_sound (hs.channels hc) hjoin).insert_new hspent hfree₀
    (Push.isNew_leave timeout detached)
  have hfitting : ((departing ch join).insert p push).Fitting := hinserted.fitting hf rfl
  obtain ⟨q₀, r, _, q, hq₀, _, hq, hr, _, _, ⟨more, hhooks, hmore⟩, hawaits⟩ := hstarts.self
  have hleave : q₀ = push := by
    rw [Channel.insert, Table.get?_set_self] at hq₀
    exact (Option.some.inj hq₀).symm
  refine ⟨left, q, u, ⟨⟨m, hevent, hw⟩, hstarts.state_eq, hstarts.hook_eq,
    hfitting.closers_starts hstarts, hq, ⟨more, ?_, hmore⟩, ⟨r, ?_⟩, hawaits⟩, hrough.sound hs,
    heq⟩
  · rw [hhooks, hleave]
    rfl
  · rw [((hrough.sound hs).channels hw.get?).events hq, hr, Option.map_some]

/-- What waits for a status at places where only users wait for it changes nothing. -/
theorem quiet_walk_callbacks (dispatch : Dispatch (Recorded ω)) (reply : Reply)
    (hq : s.push? c p = some q) (places : List Nat) (h : ∀ i ∈ places, q.CallbackAt reply.status i) :
    (places.foldl (runReplyHook dispatch c p reply) s).channels = s.channels :=
  (turns_walk dispatch hq places h).channels_eq

/-- What waits for other statuses is not run. -/
theorem quiet_walk_others (dispatch : Dispatch (Recorded ω)) (reply : Reply)
    (hq : s.push? c p = some q) (places : List Nat)
    (h : ∀ i ∈ places, ∀ hook, q.hooks[i]? ≠ some (reply.status, hook)) :
    Quiet s (places.foldl (runReplyHook dispatch c p reply) s) := by
  have hnone : places.flatMap (fun i => runsAt c p reply q.hooks[i]?) = [] := by
    refine List.flatMap_eq_nil_iff.mpr fun i hi => ?_
    cases hget : q.hooks[i]? with
    | none => rfl
    | some entry =>
      obtain ⟨status, hook⟩ := entry
      have hne : status ≠ reply.status := fun heq => h i hi hook (heq ▸ hget)
      simp [runsAt, hne]
  have hwalk : Turns s (places.foldl (runReplyHook dispatch c p reply) s) s.channels
      (places.flatMap fun i => runsAt c p reply q.hooks[i]?) :=
    turns_walk dispatch hq places fun i hi hook hget => absurd hget (h i hi hook)
  rwa [hnone] at hwalk

/-- A channel answers its leave: the reply that the hook makes of the answer is settled, and what waits for
it is run. -/
theorem Departed.answered {left : Channel} (h : Departed c p ch left q s u) (hu : Sound u)
    (hb : u.exchange.drawn < 2 ^ 64) (hread : u.leftOf left q ⟨Status.ok, .empty⟩ = some reply) :
    ∃ w q', Sound w ∧
      Works c (left.settle p q q.timer.cancel reply) (settled c p q reply) u w ∧
      (left.settle p q q.timer.cancel reply).pushes.get? p = some q' ∧
      q'.received = some reply ∧ q'.hooks = q.hooks ∧
      Quiet ((w.runReplyHooks (dispatchTo 2) c p reply q'.hooks.length).releasePush c p)
        (u.triggerPush c p Status.ok .empty) := by
  obtain ⟨v, hv, hrest⟩ :=
    (resolves_triggerPush hu hb h.get? h.push h.awaits Status.ok .empty).2 reply hread
  have hcv : v.channels.get? c = some left := (hv.get? c).trans h.get?
  obtain ⟨_, q₀, r, _, _, hq₀, hr, _⟩ := (hu.channels h.get?).ref_of_awaits h.awaits
  rw [h.push] at hq₀
  cases hq₀
  have hanswers : (Prompt.reply r (.reply reply.status reply.response)).Answers (c ∈ v.order) left q
      reply := ⟨hr, fun _ => rfl⟩
  have hsound : Sound (v.settlePush c p q reply) :=
    (settled_settlePush hcv h.push h.awaits hanswers).sound (hu.quiet hv)
  rw [resolvePush_eq hcv h.push] at hrest
  refine ⟨v.settlePush c p q reply, { q with timer := q.timer.cancel, received := some reply, waiters := [] },
    hsound, hv.then_works (works_settlePush hcv h.push reply), ?_, rfl, rfl, hrest⟩
  rw [Channel.settle_pushes, Table.get?_set_self]

/-- A leave that is answered by something else than its end leaves the channel leaving. -/
theorem Departed.stays {left : Channel} (h : Departed c p ch left q s u) (hu : Sound u)
    (hb : u.exchange.drawn < 2 ^ 64)
    (hread : ∀ reply, u.leftOf left q ⟨Status.ok, .empty⟩ = some reply → ¬ Push.LetsGo reply.status) :
    ∃ ch', (u.triggerPush c p Status.ok .empty).channels.get? c = some ch' ∧
      ch'.state = .leaving := by
  cases hleft : u.leftOf left q ⟨Status.ok, .empty⟩ with
  | none =>
    have hidle := (resolves_triggerPush hu hb h.get? h.push h.awaits Status.ok .empty).1 hleft
    exact ⟨left, (hidle.get? c).trans h.get?, h.state⟩
  | some reply =>
    obtain ⟨w, q', _, hw, hq', _, hhooks, hrest⟩ := h.answered hu hb hleft
    have hends : q'.EndsLeave := by
      unfold Push.EndsLeave
      rw [hhooks]
      exact h.ends
    have hwalk := quiet_walk_callbacks (dispatchTo 2) reply (push?_eq_some.mpr ⟨_, hw.get?, hq'⟩)
      (List.range q'.hooks.length) fun i _ => hends.callbackAt i
        (fun _ heq => hread reply hleft (.inl heq)) (fun _ heq => hread reply hleft (.inr heq))
    obtain ⟨ch', hc', hstate⟩ := state_releasePush (c := c) (p := p)
      (s := w.runReplyHooks (dispatchTo 2) c p reply q'.hooks.length)
      ((congrArg (·.get? c) hwalk).trans hw.get?)
    exact ⟨ch', (hrest.get? c).trans hc', hstate.trans ((Channel.dropBindings?_state _).trans h.state)⟩

/-! ### Failures -/

omit [Obliging ω] in
/-- A failure that is dispatched to a channel without a hook lets it fail by its own binding. -/
theorem state_dispatchTo_error (n : Nat) (hs : Sound s) (hc : s.channels.get? c = some ch)
    (hhook : ch.hook = none) (payload : Payload) (ref joinRef : Option Ref) :
    ∃ ch', (dispatchTo (n + 1) c Event.error payload ref joinRef s).channels.get? c = some ch' ∧
      ch'.state = if (⟨Event.error, 1, .error⟩ : Binding) ∈ ch.bindings then .errored
        else ch.state := by
  have hch := hs.channels hc
  set event : InboundEvent := ⟨Event.error, payload, ref, joinRef <|> ch.joinRef⟩ with hevent
  have hwalk : dispatchTo (n + 1) c Event.error payload ref joinRef s =
      (ch.alarms.map (·.number)).foldl (runBinding (dispatchTo n) c event) s := by
    simp only [dispatchTo, dispatchWith, hc, passHook, hhook, runBindings]
    rfl
  have hkept : ∀ (u : Socket (Recorded ω)) (es : List Effect),
      (u.performAll es).channels = u.channels := fun u es => by rw [performAll_eq]
  rw [hwalk]
  by_cases hown : (⟨Event.error, 1, .error⟩ : Binding) ∈ ch.bindings
  · rw [if_pos hown]
    obtain ⟨before, after, halarms, hothers⟩ := hch.alarms_split hown
    rw [halarms, List.map_append, List.map_cons, List.foldl_append, List.foldl_cons,
      walk_listeners (dispatchTo n) event hch.distinct (fun b hb => by
        obtain ⟨hmem, hlistens⟩ := hothers b (.inl hb)
        obtain ⟨hbindings, hname⟩ := Channel.mem_alarms.mp hmem
        exact ⟨hbindings, hname, hlistens⟩) hc]
    set u := s.performAll ((before.filterMap Binding.listener?).map (·.effect event)) with hu
    have hcu : u.channels.get? c = some ch := by rw [hu, hkept, hc]
    have hfails : u.runBinding (dispatchTo n) c event 1 = u.failChannel c := by
      have hfind := Channel.binding?_of_mem hch.distinct hown
      simp only [runBinding, hcu, Option.bind_some, hevent, hfind, runTarget]
    have hfallen : (u.failChannel c).channels.get? c = some (ch.fallen u.isConnected) := by
      rw [failChannel_eq hcu, Table.get?_set_self]
    -- The rest of the walk finds the bindings that the failing channel has left.
    rw [hfails, walk_listeners (dispatchTo n) event
      (hch.distinct.sublist (Channel.fallen_bindings.map _)) (fun b hb => by
        obtain ⟨hmem, hlistens⟩ := hothers b (.inr hb)
        have hsame : (ch.fallen u.isConnected).alarms = ch.alarms := hch.alarms_fallen
        rw [← hsame] at hmem
        obtain ⟨hbindings, hname⟩ := Channel.mem_alarms.mp hmem
        exact ⟨hbindings, hname, hlistens⟩) hfallen, hkept]
    exact ⟨_, hfallen, rfl⟩
  · rw [if_neg hown, walk_listeners (dispatchTo n) event hch.distinct (fun b hb => ?_) hc, hkept]
    · exact ⟨ch, hc, rfl⟩
    · obtain ⟨hbindings, hname⟩ := Channel.mem_alarms.mp hb
      exact ⟨hbindings, hname,
        hch.listens_for_failure hbindings hname fun heq => hown (heq ▸ hbindings)⟩

/-- A message that reaches other channels leaves a channel as it is. -/
theorem get?_deliverAll (m : Message) {l : List ChannelId} (hl : l.Nodup)
    (hsub : ∀ d ∈ l, d ∈ s.order) (hnot : c ∉ l) (hs : Sound s) :
    Sound (l.foldl (deliver m) s) ∧
      (l.foldl (deliver m) s).channels.get? c = s.channels.get? c ∧
      (∀ d ∉ l, d ∈ (l.foldl (deliver m) s).order ↔ d ∈ s.order) := by
  induction l generalizing s with
  | nil => exact ⟨hs, rfl, fun _ _ => Iff.rfl⟩
  | cons d l ih =>
    obtain ⟨hfresh, hl⟩ := List.nodup_cons.mp hl
    have hmoves := moves_deliver hs m (hsub d List.mem_cons_self)
    have hcd : c ≠ d := fun heq => hnot (heq ▸ List.mem_cons_self)
    have hthere : ∀ e ∈ l, e ∈ (deliver m s d).order := fun e he =>
      (hmoves.frame.mem_order fun heq => hfresh (heq ▸ he)).mpr (hsub e (List.mem_cons_of_mem _ he))
    obtain ⟨hsound, hget, horder⟩ :=
      ih hl hthere (fun hmem => hnot (List.mem_cons_of_mem _ hmem)) (hmoves.sound hs)
    refine ⟨hsound, hget.trans (hmoves.frame.others hcd), fun e he => ?_⟩
    rw [List.foldl_cons, horder e fun hmem => he (List.mem_cons_of_mem _ hmem)]
    exact hmoves.frame.mem_order fun heq => he (heq ▸ List.mem_cons_self)

/-- What a message makes of a channel that it reaches is what its dispatch to that channel does. -/
theorem get?_messageReceived (hs : Sound s) (m : Message) (hmem : c ∈ s.order)
    (hmember : s.isMember c m = true) (hc : s.channels.get? c = some ch) :
    ∃ u : Socket (Recorded ω), Sound u ∧ u.channels.get? c = some ch ∧
      (s.messageReceived m).channels.get? c =
        (dispatchTo 3 c m.event m.payload m.ref m.joinRef u).channels.get? c := by
  have hquiet := quiet_answerHeartbeat s m
  set s₁ := if s.answersHeartbeat m then s.acknowledgeHeartbeat else s with hs₁
  have hlast := quiet_foldl (quiet_runOnMessage m)
    (s₁.order.foldl (deliver m) s₁).callbacks.onMessage.refs (s₁.order.foldl (deliver m) s₁)
  have heq : s.messageReceived m = (s₁.order.foldl (deliver m) s₁).callbacks.onMessage.refs.foldl
      (runOnMessage m) (s₁.order.foldl (deliver m) s₁) := rfl
  rw [heq, hlast.get? c]
  have hsound := hs.quiet hquiet
  -- The channels before this one and those behind it have the message, too.
  obtain ⟨before, after, horder⟩ := List.append_of_mem (hquiet.order_eq.symm ▸ hmem : c ∈ s₁.order)
  have hnodup := hsound.nodup
  rw [horder] at hnodup
  obtain ⟨hbefore, hright, hdisjoint⟩ := List.nodup_append.mp hnodup
  obtain ⟨hout, hafter⟩ := List.nodup_cons.mp hright
  have hcbefore : c ∉ before := fun h => hdisjoint c h c List.mem_cons_self rfl
  obtain ⟨hsu, hget, hthere⟩ := get?_deliverAll m hbefore (fun d hd => by
    rw [horder]
    exact List.mem_append_left _ hd) hcbefore hsound
  set u := before.foldl (deliver m) s₁ with hu
  have hcu : u.channels.get? c = some ch := hget.trans ((hquiet.get? c).trans hc)
  have hreached : u.isMember c m = true := by
    simp only [isMember, hc] at hmember
    simp only [isMember, hcu]
    exact hmember
  have hdelivered : deliver m u c = dispatchTo 3 c m.event m.payload m.ref m.joinRef u := by
    simp only [deliver, hreached, if_true, trigger]
  have hmoves := moves_deliver hsu m ((hthere c hcbefore).mpr (by
    rw [horder]
    exact List.mem_append_right _ List.mem_cons_self))
  have hrest := (get?_deliverAll (s := deliver m u c) m hafter (fun d hd => by
    have hdc : d ≠ c := fun heq => hout (heq ▸ hd)
    refine (hmoves.frame.mem_order hdc).mpr ((hthere d fun h => ?_).mpr ?_)
    · exact hdisjoint d h d (List.mem_cons_of_mem _ hd) rfl
    · rw [horder]
      exact List.mem_append_right _ (List.mem_cons_of_mem _ hd)) hout (hmoves.sound hsu)).2.1
  refine ⟨u, hsu, hcu, ?_⟩
  rw [horder, List.foldl_append, List.foldl_cons, ← hu, hrest, hdelivered]

/-- A failure that the server reports reaches a channel that has no hook. -/
theorem state_messageReceived (hs : Sound s) {m : Message} (hm : m.event = Event.error)
    (hmem : c ∈ s.order) (hmember : s.isMember c m = true) (hc : s.channels.get? c = some ch)
    (hhook : ch.hook = none) :
    ∃ ch', (s.messageReceived m).channels.get? c = some ch' ∧
      ch'.state = if (⟨Event.error, 1, .error⟩ : Binding) ∈ ch.bindings then .errored
        else ch.state := by
  obtain ⟨u, hu, hcu, hget⟩ := get?_messageReceived hs m hmem hmember hc
  rw [hget, hm]
  exact state_dispatchTo_error 2 hu hcu hhook m.payload m.ref m.joinRef

end Outside

section Watched

variable {ω : Type} [Outside ω] [Obliging ω] {s t u : Socket (Recorded (Watched ω))} {c : ChannelId}
variable {ch left : Channel} {p : PushId} {q : Push} {reply : Reply}

/-- What waits for the reply to a leave is run, and its end among it.  By that the closing is announced, and
the channel is gone or as it was. -/
theorem farewell_runReplyHooks (hs : Sound s) (hf : ch.Fitting) (hc : s.channels.get? c = some ch)
    (hq : ch.pushes.get? p = some q) (hother : p ≠ joinPush) (hreceived : q.received = some reply)
    (hends : q.EndsLeave) (hstatus : Push.LetsGo reply.status) :
    ∃ f : Farewell ω, f.id = c ∧ f.payload = .json (.string "leave") ∧ f.channel = ch ∧
      Turns s f.before s.channels [.runReply c p (.channel .leaveDone) reply] ∧
      (f.closes = true → Gone c (s.runReplyHooks (dispatchTo 2) c p reply q.hooks.length)) ∧
      (f.closes = false →
        (s.runReplyHooks (dispatchTo 2) c p reply q.hooks.length).channels.get? c = some ch) := by
  -- What stands before the end of the leave waits for another status.
  obtain ⟨before, i, after, hrange, hplace, hbefore, hafter⟩ := hends.split hstatus
  set s₁ := before.foldl (runReplyHook (dispatchTo 2) c p reply) s with hs₁
  have hquiet : Quiet s s₁ :=
    quiet_walk_others (dispatchTo 2) reply (push?_eq_some.mpr ⟨ch, hc, hq⟩) before hbefore
  have hq₁ : s₁.push? c p = some q := (hquiet.push? c p).trans (push?_eq_some.mpr ⟨ch, hc, hq⟩)
  have hperformed : Turns s₁ (s₁.perform (.runReply c p (.channel .leaveDone) reply)) s₁.channels
      [.runReply c p (.channel .leaveDone) reply] := turns_perform s₁ _
  have hturns : Turns s (s₁.perform (.runReply c p (.channel .leaveDone) reply)) s.channels
      [.runReply c p (.channel .leaveDone) reply] := by
    have h := Turns.trans hquiet hperformed
    rwa [hquiet.channels_eq] at h
  have hget : (s₁.perform (.runReply c p (.channel .leaveDone) reply)).channels.get? c = some ch :=
    (congrArg (·.get? c) hturns.channels_eq).trans hc
  let f : Farewell ω := ⟨_, c, ch, hget, .json (.string "leave"), none, none⟩
  have hwalk : s.runReplyHooks (dispatchTo 2) c p reply q.hooks.length =
      after.foldl (runReplyHook (dispatchTo 2) c p reply) (f.after 1) := by
    have hstep : runReplyHook (dispatchTo 2) c p reply s₁ i = f.after 1 :=
      runReplyHook_match (dispatchTo 2) hq₁ hplace
    rw [runReplyHooks, hrange, List.foldl_append, List.foldl_cons, ← hs₁, hstep]
  rw [hwalk]
  refine ⟨f, rfl, rfl, rfl, hturns, fun hcloses => ?_, fun hstays => ?_⟩
  · have hclose := f.closes_after hf 1 hcloses
    have hmove : Move .failure c f.before (f.after 1) := .closed hget hclose
    have hkept : ∀ q₁, (f.after 1).push? c p = some q₁ → q₁.received = some reply := by
      intro q₁ hq₁
      obtain ⟨ch₁, hc₁, hp₁⟩ := push?_eq_some.mp hq₁
      rw [hclose.get?_self] at hc₁
      split at hc₁
      · cases hc₁
      · cases hc₁
        rw [show f.channel.pushes.get? p = some q from hq] at hp₁
        cases hp₁
        exact hreceived
    exact hclose.gone.winds
      (winds_runReplyHooks (level_dispatchTo 2) (hmove.sound (hs.turns hturns)) hother hkept after)
  · have hkept := f.quiet_after hf 1 hstays
    have hq₂ : (f.after 1).push? c p = some q :=
      (hkept.push? c p).trans (push?_eq_some.mpr ⟨ch, hget, hq⟩)
    have hcallbacks := quiet_walk_callbacks (dispatchTo 2) reply hq₂ after hafter
    exact (congrArg (·.get? c) hcallbacks).trans ((hkept.get? c).trans hget)

/-- A leave that comes to its end announces the closing, and by this the channel closes or it stays
leaving. -/
theorem Departed.ends_leave (h : Departed c p ch left q s u) (hu : Sound u) (hf : ch.Fitting)
    (hother : p ≠ joinPush) (hb : u.exchange.drawn < 2 ^ 64)
    (hread : u.leftOf left q ⟨Status.ok, .empty⟩ = some reply) (hstatus : Push.LetsGo reply.status) :
    ∃ f : Farewell ω, f.id = c ∧ f.payload = .json (.string "leave") ∧ f.channel.hook = ch.hook ∧
      f.channel.closers = ch.closers ∧
      Works c f.channel (settled c p q reply ++ [.runReply c p (.channel .leaveDone) reply]) u
        f.before ∧
      (f.closes = true → Gone c (u.triggerPush c p Status.ok .empty)) ∧
      (f.closes = false → ∃ ch', (u.triggerPush c p Status.ok .empty).channels.get? c = some ch' ∧
        ch'.state = .leaving) := by
  obtain ⟨w, q', hsound, hw, hq', hreceived, hhooks, hrest⟩ := h.answered hu hb hread
  have hclosers : (left.settle p q q.timer.cancel reply).closers = ch.closers :=
    (((hu.channels h.get?).fitting hf h.closers).closers_settle h.push q.timer.cancel reply).trans
      h.closers
  have hfitting := (hsound.channels hw.get?).fitting hf hclosers
  have hends : q'.EndsLeave := by
    unfold Push.EndsLeave
    rw [hhooks]
    exact h.ends
  obtain ⟨f, hid, hpayload, hchannel, hturns, hcloses, hstays⟩ :=
    farewell_runReplyHooks hsound hfitting hw.get? hq' hother hreceived hends hstatus
  refine ⟨f, hid, hpayload, ?_, hchannel ▸ hclosers, hchannel ▸ hw.then_turns hturns, fun hc => ?_,
    fun hc => ?_⟩
  · rw [hchannel]
    exact (Channel.settle_hook _ _).trans h.hook
  · exact ((hcloses hc).winds (winds_releasePush _ c p)).winds (Turns.winds (p := p) hrest)
  · obtain ⟨ch', hc', hstate⟩ := state_releasePush (c := c) (p := p)
      (s := w.runReplyHooks (dispatchTo 2) c p reply q'.hooks.length) (hstays hc)
    refine ⟨ch', (hrest.get? c).trans hc', hstate.trans ?_⟩
    exact (Channel.dropBindings?_state _).trans h.state

/-! ### What users have a say in -/

/-- What comes of a leave that was sent.  If the hook leaves of the channel's answer a reply with a status
by which a leave comes to its end, the closing is announced, and the channel closes unless the hook
withholds it or the channel's own binding for it is gone; in all other cases it stays leaving. -/
structure Leaving (c : ChannelId) (p : PushId) (ch left : Channel) (q : Push)
    (u t : Socket (Recorded (Watched ω))) : Prop where
  ends : ∀ reply, u.leftOf left q ⟨Status.ok, .empty⟩ = some reply → Push.LetsGo reply.status →
    ∃ f : Farewell ω, f.id = c ∧ f.payload = .json (.string "leave") ∧ f.channel.hook = ch.hook ∧
      Works c f.channel (settled c p q reply ++ [.runReply c p (.channel .leaveDone) reply]) u
        f.before ∧
      (f.word.isSome ∧ ch.closesItself → Gone c t) ∧
      (¬ (f.word.isSome ∧ ch.closesItself) →
        ∃ ch', t.channels.get? c = some ch' ∧ ch'.state = .leaving)
  stays : (∀ reply, u.leftOf left q ⟨Status.ok, .empty⟩ = some reply → ¬ Push.LetsGo reply.status) →
    ∃ ch', t.channels.get? c = some ch' ∧ ch'.state = .leaving

/-- What comes of a timeout that is awaited, of a leave, and of a failure that the server reports to a
joined channel without a hook. -/
structure Overrides (cmd : Command) (s t : Socket (Recorded (Watched ω))) : Prop where
  timeout : ∀ {c p generation ch q timer}, cmd = .timer (.pushTimeout c p generation) →
    s.channels.get? c = some ch → ch.pushes.get? p = some q → q.timer.accept generation = some timer →
    (∀ reply, ch.Awaits p → s.leftOf ch q ⟨Status.timeout, .empty⟩ = some reply →
      Resolves c p q reply s t) ∧
    (¬ ch.Awaits p ∨ s.leftOf ch q ⟨Status.timeout, .empty⟩ = none →
      Works c { ch with pushes := ch.pushes.set p { q with timer := q.timer.cancel } } [] s t)
  leave : ∀ {c p timeout ch}, cmd = .channel c (.leave p timeout) → s.channels.get? c = some ch →
    ∃ left q u, Departed c p ch left q s u ∧ Leaving c p ch left q u t
  error : ∀ {c ch m}, s.incoming? cmd = some m → m.event = Event.error → c ∈ s.order →
    s.isMember c m = true → s.channels.get? c = some ch → ch.state = .joined → ch.hook = none →
    ∃ ch', t.channels.get? c = some ch' ∧
      ch'.state = if (⟨Event.error, 1, .error⟩ : Binding) ∈ ch.bindings then .errored else .joined

theorem Departed.leaving (h : Departed c p ch left q s u) (hu : Sound u) (hf : ch.Fitting)
    (hother : p ≠ joinPush) (hb : u.exchange.drawn < 2 ^ 64) :
    Leaving c p ch left q u (u.triggerPush c p Status.ok .empty) where
  ends := by
    intro reply hread hstatus
    obtain ⟨f, hid, hpayload, hhook, hclosers, hw, hcloses, hstays⟩ :=
      h.ends_leave hu hf hother hb hread hstatus
    have hown := Channel.closesItself_congr hclosers
    refine ⟨f, hid, hpayload, hhook, hw, fun ⟨hword, hitself⟩ => hcloses ?_, fun hnot => hstays ?_⟩
    · rw [Farewell.closes, hown, hword, hitself]
      rfl
    · rw [Farewell.closes, hown, ← Bool.not_eq_true, Bool.and_eq_true]
      exact hnot
  stays := h.stays hu hb

/-- Users have a say in what becomes of timeouts, leaves and failures by what hooks leave of the answers
and of the closing, and by the bindings that they remove; where they remove none with a reserved name, the
channels' own bindings are always there. -/
theorem Reachable.overrides (h : Reachable (ω := Watched ω) (fun _ _ => True) s) {cmd : Command}
    {x : Exchange} (next : s.exchange.next? = some (cmd, x))
    (hb : ({ s with exchange := x }.handle cmd).exchange.drawn < 2 ^ 64) :
    Overrides cmd { s with exchange := x } ({ s with exchange := x }.handle cmd) ∧
      (Reachable (ω := Watched ω) (fun _ cmd => cmd.Within ChannelOp.KeepsReserved) s →
        Throughout Channel.Attends s) := by
  have htaken := quiet_next? next
  have hs := h.sound.quiet htaken
  have hdue := due_of_next? h.sound next
  have hfitting : Fitting { s with exchange := x } := h.fitting.quiet htaken
  have hevolves := (strides_handle hs cmd hdue).evolves hs
  have hbx : x.drawn < 2 ^ 64 := lt_of_le_of_lt hevolves.drawn_le hb
  refine ⟨⟨?_, ?_, ?_⟩, fun hkeeps => ?_⟩
  · rintro c p generation ch q timer rfl hc hq accept
    exact answers_pushTimeout hs hbx hc hq accept
  · rintro c p timeout ch rfl hc
    obtain ⟨hspent, hother, hfree⟩ := hdue.push (c := c) (p := p) (if_pos rfl)
    obtain ⟨left, q, u, hdeparted, hu, heq⟩ :=
      departed_leave hs (hfitting hc) hc hspent (hfree hc) hother timeout false
    have hhandle : { s with exchange := x }.handle (.channel c (.leave p timeout)) =
        u.triggerPush c p Status.ok .empty := by
      have hthere : ({ s with exchange := x } : Socket (Recorded (Watched ω))).channels.contains c = true :=
        (Table.contains_iff _ _).mpr ⟨ch, hc⟩
      rw [← heq]
      simp only [handle, channelOp, hthere, if_true, applyOp]
    rw [hhandle] at hb ⊢
    obtain ⟨_, _, r, _, _, hq, hr, _⟩ := (hu.channels hdeparted.get?).ref_of_awaits hdeparted.awaits
    have hmoves := moves_triggerPush hu hdeparted.get? hq hr Status.ok .empty
    exact ⟨left, q, u, hdeparted, hdeparted.leaving hu (hfitting hc) hother
      (lt_of_le_of_lt hmoves.frame.evolves.drawn_le hb)⟩
  · intro c ch m incoming hm hmem hmember hc hjoined hhook
    have hpruned := quiet_pruneRetired ({ s with exchange := x } : Socket (Recorded (Watched ω)))
    rw [handle_of_incoming? incoming]
    obtain ⟨ch', hc', hstate⟩ := state_messageReceived (hs.quiet hpruned) hm
      (hpruned.order_eq.symm ▸ hmem) (by
        simp only [isMember, hpruned.channels_eq]
        exact hmember) ((hpruned.get? c).trans hc) hhook
    rw [hjoined] at hstate
    exact ⟨ch', hc', hstate⟩
  · exact hkeeps.attends (lt_of_le_of_lt htaken.evolves.drawn_le hbx)

end Watched

/-! ### Overrides in a script -/

/-- Plays a script in idle surroundings that are watched, whatever commands it takes. -/
def playOpenly? : List Deed → Socket (Recorded (Watched Idle)) → Option (Socket (Recorded (Watched Idle))) :=
  playIn? (fun s o => some { s with outside := ⟨⟨o, s.made⟩, s.log, s.dealings⟩ }) fun _ _ => true

theorem reachable_of_playOpenly? {s : Socket (Recorded (Watched Idle))} {deeds : List Deed}
    (h : observed.playOpenly? deeds = some s) : Reachable (fun _ _ => True) s := by
  refine ⟨_, _, _, _, steps_of_playIn? (fun s _ lawful => ?_) (fun {s o _} hbecome => ?_)
    (fun hnext _ => .take hnext trivial) h⟩
  · exact .surroundings lawful s.outside.outside
  · cases hbecome
    exact .surroundings .refl _

/-- A push of a joined channel times out. -/
def timingOut : List Deed := joined "room" ++ [.push 0 "news" 5000, .take, .fire (.pushTimeout 0 1 1)]

/-- A joined channel is left. -/
def departure : List Deed := joined "room" ++ [.leave 0 10000]

/-- The server reports a failure of a joined channel. -/
def mishap : List Deed := joined "room" ++ [.announce 0 "3" "room" Event.error]

theorem exists_timingOut : ∃ (s : Socket (Recorded (Watched Idle))) (x : Exchange) (ch : Channel)
    (q : Push) (timer : TimerSlot), Reachable (fun _ _ => True) s ∧
    s.exchange.next? = some (.timer (.pushTimeout 0 1 1), x) ∧
    ({ s with exchange := x }.handle (.timer (.pushTimeout 0 1 1))).exchange.drawn < 2 ^ 64 ∧
    s.channels.get? 0 = some ch ∧ ch.pushes.get? 1 = some q ∧ q.timer.accept 1 = some timer ∧
    ch.hook = none ∧ ch.Awaits 1 ∧ q.refEvent = some "chan_reply_4" := by
  obtain ⟨s, hplay, hview⟩ := Option.map_eq_some_iff.mp
    (show (observed.playOpenly? timingOut).map (fun s => (s.exchange.next?.map fun n =>
          (n.1, decide (({ s with exchange := n.2 }.handle n.1).exchange.drawn < 2 ^ 64)),
          (s.channels.get? 0).map fun ch => (ch.hook, ch.bindings.any (·.target == .resolve 1),
            (ch.pushes.get? 1).map fun q => (q.refEvent, (q.timer.accept 1).isSome)))) =
      some (some (.timer (.pushTimeout 0 1 1), true),
        some (none, true, some (some "chan_reply_4", true))) by cbv)
  simp only [Prod.mk.injEq] at hview
  obtain ⟨hnext, hchannel⟩ := hview
  obtain ⟨⟨cmd, x⟩, hnext, heq⟩ := Option.map_eq_some_iff.mp hnext
  simp only [Prod.mk.injEq, decide_eq_true_eq] at heq
  obtain ⟨rfl, hb⟩ := heq
  obtain ⟨ch, hc, heq⟩ := Option.map_eq_some_iff.mp hchannel
  simp only [Prod.mk.injEq] at heq
  obtain ⟨hhook, hawaits, hpush⟩ := heq
  obtain ⟨q, hq, heq⟩ := Option.map_eq_some_iff.mp hpush
  simp only [Prod.mk.injEq] at heq
  obtain ⟨timer, haccept⟩ := Option.isSome_iff_exists.mp heq.2
  obtain ⟨b, hmem, htarget⟩ := List.any_eq_true.mp hawaits
  exact ⟨s, x, ch, q, timer, reachable_of_playOpenly? hplay, hnext, hb, hc, hq, haccept, hhook,
    ⟨b, hmem, by simpa using htarget⟩, heq.1⟩

theorem exists_departure : ∃ (s : Socket (Recorded (Watched Idle))) (x : Exchange) (ch : Channel),
    Reachable (fun _ _ => True) s ∧ s.exchange.next? = some (.channel 0 (.leave 1 10000), x) ∧
    ({ s with exchange := x }.handle (.channel 0 (.leave 1 10000))).exchange.drawn < 2 ^ 64 ∧
    s.channels.get? 0 = some ch ∧ ch.hook = none ∧ ch.closesItself = true := by
  obtain ⟨s, hplay, hview⟩ := Option.map_eq_some_iff.mp
    (show (observed.playOpenly? departure).map (fun s => (s.exchange.next?.map fun n =>
          (n.1, decide (({ s with exchange := n.2 }.handle n.1).exchange.drawn < 2 ^ 64)),
          (s.channels.get? 0).map fun ch => (ch.hook, ch.closesItself))) =
      some (some (.channel 0 (.leave 1 10000), true), some (none, true)) by cbv)
  simp only [Prod.mk.injEq] at hview
  obtain ⟨hnext, hchannel⟩ := hview
  obtain ⟨⟨cmd, x⟩, hnext, heq⟩ := Option.map_eq_some_iff.mp hnext
  simp only [Prod.mk.injEq, decide_eq_true_eq] at heq
  obtain ⟨rfl, hb⟩ := heq
  obtain ⟨ch, hc, heq⟩ := Option.map_eq_some_iff.mp hchannel
  simp only [Prod.mk.injEq] at heq
  exact ⟨s, x, ch, reachable_of_playOpenly? hplay, hnext, hb, hc, heq.1, heq.2⟩

theorem exists_mishap : ∃ (s : Socket (Recorded (Watched Idle))) (cmd : Command) (x : Exchange)
    (m : Message) (ch : Channel), Reachable (fun _ _ => True) s ∧ s.exchange.next? = some (cmd, x) ∧
    ({ s with exchange := x }.handle cmd).exchange.drawn < 2 ^ 64 ∧
    { s with exchange := x }.incoming? cmd = some m ∧ m.event = Event.error ∧ s.order = [0] ∧
    s.isMember 0 m = true ∧ s.channels.get? 0 = some ch ∧ ch.state = .joined ∧ ch.hook = none ∧
    ⟨Event.error, 1, .error⟩ ∈ ch.bindings := by
  obtain ⟨s, hplay, hview⟩ := Option.map_eq_some_iff.mp
    (show (observed.playOpenly? mishap).map (fun s => (s.exchange.next?.map fun n =>
          (decide (({ s with exchange := n.2 }.handle n.1).exchange.drawn < 2 ^ 64),
            ({ s with exchange := n.2 }.incoming? n.1).map fun m : Message => (m.event, s.isMember 0 m)),
          s.order, (s.channels.get? 0).map fun ch => (ch.state, ch.hook,
            decide ((⟨Event.error, 1, .error⟩ : Binding) ∈ ch.bindings)))) =
      some (some (true, some (Event.error, true)), [0], some (.joined, none, true)) by cbv)
  simp only [Prod.mk.injEq] at hview
  obtain ⟨hnext, horder, hchannel⟩ := hview
  obtain ⟨⟨cmd, x⟩, hnext, heq⟩ := Option.map_eq_some_iff.mp hnext
  simp only [Prod.mk.injEq, decide_eq_true_eq] at heq
  obtain ⟨hb, hincoming⟩ := heq
  obtain ⟨m, hincoming, heq⟩ := Option.map_eq_some_iff.mp hincoming
  simp only [Prod.mk.injEq] at heq
  obtain ⟨hm, hmember⟩ := heq
  obtain ⟨ch, hc, heq⟩ := Option.map_eq_some_iff.mp hchannel
  simp only [Prod.mk.injEq, decide_eq_true_eq] at heq
  exact ⟨s, cmd, x, m, ch, reachable_of_playOpenly? hplay, hnext, hb, hincoming, hm, horder, hmember, hc,
    heq.1, heq.2.1, heq.2.2⟩

/-- Where users do nothing, a push that times out is resolved, a channel that is left closes, and a channel
takes notice of a failure. -/
theorem overrides_idle :
    (∃ (s : Socket (Recorded (Watched Idle))) (x : Exchange) (q : Push), Reachable (fun _ _ => True) s ∧
      s.exchange.next? = some (.timer (.pushTimeout 0 1 1), x) ∧ s.push? 0 1 = some q ∧
      Resolves 0 1 q ⟨Status.timeout, .empty⟩ { s with exchange := x }
        ({ s with exchange := x }.handle (.timer (.pushTimeout 0 1 1)))) ∧
    (∃ (s : Socket (Recorded (Watched Idle))) (x : Exchange), Reachable (fun _ _ => True) s ∧
      s.exchange.next? = some (.channel 0 (.leave 1 10000), x) ∧
      Gone 0 ({ s with exchange := x }.handle (.channel 0 (.leave 1 10000)))) ∧
    ∃ (s : Socket (Recorded (Watched Idle))) (cmd : Command) (x : Exchange) (ch : Channel),
      Reachable (fun _ _ => True) s ∧ s.exchange.next? = some (cmd, x) ∧
      ({ s with exchange := x }.handle cmd).channels.get? 0 = some ch ∧ ch.state = .errored := by
  refine ⟨?_, ?_, ?_⟩
  · obtain ⟨s, x, ch, q, timer, hs, hnext, hb, hc, hq, accept, hhook, hawaits, hevent⟩ := exists_timingOut
    have hleft := leftOf_of_unhooked { s with exchange := x } hhook hevent ⟨Status.timeout, .empty⟩
    exact ⟨s, x, q, hs, hnext, push?_eq_some.mpr ⟨ch, hc, hq⟩,
      ((hs.overrides hnext hb).1.timeout rfl hc hq accept).1 _ hawaits hleft⟩
  · obtain ⟨s, x, ch, hs, hnext, hb, hc, hhook, hitself⟩ := exists_departure
    obtain ⟨left, q, u, hdeparted, hleaving⟩ := (hs.overrides hnext hb).1.leave rfl hc
    obtain ⟨r, hevent⟩ := hdeparted.sent
    obtain ⟨f, _, _, hunhooked, _, hcloses, _⟩ := hleaving.ends _
      (leftOf_of_unhooked u (hdeparted.hook.trans hhook) hevent _) (.inl rfl)
    have hword : f.word.isSome = true := by
      simp only [Farewell.word, passHook, hunhooked.trans hhook, Option.isSome_some]
    exact ⟨s, x, hs, hnext, hcloses ⟨hword, hitself⟩⟩
  · obtain ⟨s, cmd, x, m, ch, hs, hnext, hb, hincoming, hm, horder, hmember, hc, hjoined, hhook, hown⟩ :=
      exists_mishap
    obtain ⟨ch', hc', hstate⟩ := (hs.overrides hnext hb).1.error hincoming hm
      (horder ▸ List.mem_singleton_self 0) hmember hc hjoined hhook
    rw [if_pos hown] at hstate
    exact ⟨s, cmd, x, ch', hs, hnext, hc', hstate⟩

/-! ### What users can disable -/

section Disabling

variable {ω : Type} [Outside ω]

/-- The next command is the timeout of a push, which is awaited; but the push stays without a reply. -/
def Unanswered (s : Socket (Recorded ω)) : Prop :=
  ∃ x q, s.exchange.next? = some (.timer (.pushTimeout 0 1 1), x) ∧ s.push? 0 1 = some q ∧
    (q.timer.accept 1).isSome = true ∧
    (({ s with exchange := x }.handle (.timer (.pushTimeout 0 1 1))).push? 0 1).map Push.received =
      some none

/-- What is to be seen of an awaited timeout and of what comes of it. -/
def timeoutView (s : Socket (Recorded ω)) : Option (Command × Option (Option Reply)) × Option Bool :=
  (s.exchange.next?.map fun n =>
      (n.1, (({ s with exchange := n.2 }.handle n.1).push? 0 1).map Push.received),
    (s.push? 0 1).map fun q => (q.timer.accept 1).isSome)

theorem unanswered_of_timeoutView {s : Socket (Recorded ω)}
    (h : s.timeoutView = (some (.timer (.pushTimeout 0 1 1), some none), some true)) : s.Unanswered := by
  simp only [timeoutView, Prod.mk.injEq] at h
  obtain ⟨hnext, hpush⟩ := h
  obtain ⟨⟨cmd, x⟩, hnext, heq⟩ := Option.map_eq_some_iff.mp hnext
  simp only [Prod.mk.injEq] at heq
  obtain ⟨rfl, hafter⟩ := heq
  obtain ⟨q, hq, haccept⟩ := Option.map_eq_some_iff.mp hpush
  exact ⟨x, q, hnext, hq, haccept, hafter⟩

end Disabling

/-- The name under which the reply to a push is listened for is taken away, and the push times out. -/
def deafened : List Deed :=
  joined "room" ++ [.push 0 "news" 5000, .take,
    .post (.channel 0 (.unbind "chan_reply_4" none)) fun _ => rfl, .take, .fire (.pushTimeout 0 1 1)]

/-- A hook keeps back every payload, and a push times out. -/
def muffled : List Deed :=
  joined "room" ++ [.push 0 "news" 5000, .take, .setHook 0 0, .take,
    .fire (.pushTimeout 0 1 1)]

/-- The name of closings is taken away, and the channel is left. -/
def detained : List Deed :=
  joined "room" ++ [.post (.channel 0 (.unbind Event.close none)) fun _ => rfl, .take, .leave 0 10000]

/-- The name of failures is taken away, and the server reports one. -/
def reassured : List Deed :=
  joined "room" ++ [.post (.channel 0 (.unbind Event.error none)) fun _ => rfl, .take,
    .announce 0 "3" "room" Event.error]

theorem unanswered_muffled : ∃ s : Socket (Recorded Muffled), Reachable (fun _ _ => True) s ∧
    s.Unanswered := by
  let before : Socket (Recorded Muffled) :=
    .new "ws://example.test/socket" .standard ⟨0, "standard", false, false⟩ ⟨⟨.connecting⟩, [], []⟩
  obtain ⟨s, hplay, hview⟩ := Option.map_eq_some_iff.mp
    (show (before.playIn? (fun s o => some { s with outside := ⟨⟨o.state⟩, s.log, s.dealings⟩ })
        (fun _ _ => true) muffled).map timeoutView =
      some (some (.timer (.pushTimeout 0 1 1), some none), some true) by cbv)
  refine ⟨s, ⟨_, _, _, _, steps_of_playIn? (fun s _ lawful => ?_) (fun {s o _} hbecome => ?_)
    (fun hnext _ => .take hnext trivial) hplay⟩, unanswered_of_timeoutView hview⟩
  · exact .surroundings lawful s.outside.outside
  · cases hbecome
    exact .surroundings .refl _

theorem leaving_detained : ∃ (s : Socket (Recorded Idle)) (x : Exchange),
    Reachable (fun _ _ => True) s ∧ s.exchange.next? = some (.channel 0 (.leave 1 10000), x) ∧
    (({ s with exchange := x }.handle (.channel 0 (.leave 1 10000))).channels.get? 0).map
      Channel.state = some .leaving := by
  obtain ⟨s, hs, hview⟩ := reachable_of_play? of_admitsAll
    (show (ready.play? admitsAll detained).map (fun s => s.exchange.next?.map fun n => (n.1,
        (({ s with exchange := n.2 }.handle n.1).channels.get? 0).map Channel.state)) =
      some (some (.channel 0 (.leave 1 10000), some .leaving)) by cbv)
  obtain ⟨⟨cmd, x⟩, hnext, heq⟩ := Option.map_eq_some_iff.mp hview
  simp only [Prod.mk.injEq] at heq
  obtain ⟨rfl, hafter⟩ := heq
  exact ⟨s, x, hs, hnext, hafter⟩

theorem joined_reassured : ∃ (s : Socket (Recorded Idle)) (cmd : Command) (x : Exchange) (m : Message)
    (ch : Channel), Reachable (fun _ _ => True) s ∧ s.exchange.next? = some (cmd, x) ∧
    { s with exchange := x }.incoming? cmd = some m ∧ m.event = Event.error ∧ s.order = [0] ∧
    s.isMember 0 m = true ∧ s.channels.get? 0 = some ch ∧ ch.state = .joined ∧ ch.hook = none ∧
    (({ s with exchange := x }.handle cmd).channels.get? 0).map Channel.state = some .joined := by
  obtain ⟨s, hs, hview⟩ := reachable_of_play? of_admitsAll
    (show (ready.play? admitsAll reassured).map (fun s => (s.exchange.next?.map fun n =>
        (({ s with exchange := n.2 }.incoming? n.1).map fun m : Message => (m.event, s.isMember 0 m),
          (({ s with exchange := n.2 }.handle n.1).channels.get? 0).map Channel.state),
        s.order, (s.channels.get? 0).map fun ch => (ch.state, ch.hook))) =
      some (some (some (Event.error, true), some .joined), [0], some (.joined, none)) by cbv)
  simp only [Prod.mk.injEq] at hview
  obtain ⟨hnext, horder, hchannel⟩ := hview
  obtain ⟨⟨cmd, x⟩, hnext, heq⟩ := Option.map_eq_some_iff.mp hnext
  simp only [Prod.mk.injEq] at heq
  obtain ⟨hincoming, hafter⟩ := heq
  obtain ⟨m, hincoming, heq⟩ := Option.map_eq_some_iff.mp hincoming
  simp only [Prod.mk.injEq] at heq
  obtain ⟨hm, hmember⟩ := heq
  obtain ⟨ch, hc, heq⟩ := Option.map_eq_some_iff.mp hchannel
  simp only [Prod.mk.injEq] at heq
  exact ⟨s, cmd, x, m, ch, hs, hnext, hincoming, hm, horder, hmember, hc, heq.1, heq.2, hafter⟩

/-- Users can disable all of it: a push that times out stays without a reply, because its name was taken
away or because of a hook, a channel that is left stays leaving, and a joined channel without a hook takes
no notice of a failure. -/
theorem users_disable :
    (∃ s : Socket (Recorded Idle), Reachable (fun _ _ => True) s ∧ s.Unanswered) ∧
    (∃ s : Socket (Recorded Muffled), Reachable (fun _ _ => True) s ∧ s.Unanswered) ∧
    (∃ (s : Socket (Recorded Idle)) (x : Exchange), Reachable (fun _ _ => True) s ∧
      s.exchange.next? = some (.channel 0 (.leave 1 10000), x) ∧
      (({ s with exchange := x }.handle (.channel 0 (.leave 1 10000))).channels.get? 0).map
        Channel.state = some .leaving) ∧
    ∃ (s : Socket (Recorded Idle)) (cmd : Command) (x : Exchange) (m : Message) (ch : Channel),
      Reachable (fun _ _ => True) s ∧ s.exchange.next? = some (cmd, x) ∧
      { s with exchange := x }.incoming? cmd = some m ∧ m.event = Event.error ∧ s.order = [0] ∧
      s.isMember 0 m = true ∧ s.channels.get? 0 = some ch ∧ ch.state = .joined ∧ ch.hook = none ∧
      (({ s with exchange := x }.handle cmd).channels.get? 0).map Channel.state = some .joined := by
  refine ⟨?_, unanswered_muffled, leaving_detained, joined_reassured⟩
  obtain ⟨s, hs, hview⟩ := reachable_of_play? of_admitsAll
    (show (ready.play? admitsAll deafened).map timeoutView =
      some (some (.timer (.pushTimeout 0 1 1), some none), some true) by cbv)
  exact ⟨s, hs, unanswered_of_timeoutView hview⟩

end Socket

end Switchboard
