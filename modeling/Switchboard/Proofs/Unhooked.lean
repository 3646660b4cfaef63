import Switchboard.Proofs.Intact

/-!
# Channels without hooks

Where no hook interferes and no ref has come again, a reply reaches exactly the push that is listened
for, the timeout of a push that is listened for resolves it, and a leave is resolved before anything
else happens.

Main definitions

* `Socket.Winds`: a channel changes no more than by closing;
* `Socket.Gone`: a channel is closed and not registered.

Main results

* `Socket.dispatchTo_replyTo`: what it is to dispatch the reply to a ref;
* `Socket.pushTimeout_unhooked`, `Socket.leave_unhooked`;
* `Socket.gone_leave`: a channel that keeps its own bindings is gone when it has left.
-/

set_option autoImplicit false

namespace Switchboard

namespace Socket

variable {ω : Type} {s t u : Socket (Recorded ω)} {k : Prompt} {c d : ChannelId}
variable {ch ch' : Channel} {p : PushId} {q : Push} {es : List Effect}

/-- A channel is closed and not registered. -/
def Gone (c : ChannelId) (s : Socket (Recorded ω)) : Prop :=
  c ∉ s.order ∧ ∀ ⦃ch⦄, s.channels.get? c = some ch → ch.state = .closed

/-- Besides closing and forgetting a push, nothing changes in a channel. -/
structure Winds (c : ChannelId) (p : PushId) (s t : Socket (Recorded ω)) : Prop where
  frame : Framed c s t
  channel : ∀ {ch'}, t.channels.get? c = some ch' → ∃ ch, s.channels.get? c = some ch ∧
    ch'.bindings.Sublist ch.bindings ∧ ch'.hook = ch.hook ∧
    (∀ p', p' ≠ p → ch'.pushes.get? p' = ch.pushes.get? p') ∧
    (ch'.state = ch.state ∨ ch'.state = .closed)

theorem Winds.refl (s : Socket (Recorded ω)) : Winds c p s s :=
  ⟨.refl s, fun hc => ⟨_, hc, List.Sublist.refl _, rfl, fun _ _ => rfl, .inl rfl⟩⟩

theorem Winds.trans (h : Winds c p s t) (h' : Winds c p t u) : Winds c p s u := by
  refine ⟨h.frame.trans h'.frame, fun hc'' => ?_⟩
  obtain ⟨ch', hc', hb', hh', hp', hst'⟩ := h'.channel hc''
  obtain ⟨ch, hc, hb, hh, hp, hst⟩ := h.channel hc'
  refine ⟨ch, hc, hb'.trans hb, hh'.trans hh, fun p' hne => (hp' p' hne).trans (hp p' hne), ?_⟩
  rcases hst' with hst' | hst'
  · rw [hst']
    exact hst
  · exact .inr hst'

theorem Turns.winds (h : Turns s t s.channels es) : Winds c p s t :=
  ⟨⟨fun _ => by rw [h.channels_eq], .inl h.order_eq, h.evolves, _, h.log_eq⟩, fun hc =>
    ⟨_, h.channels_eq ▸ hc, List.Sublist.refl _, rfl, fun _ _ => rfl, .inl rfl⟩⟩

theorem Closes.winds (h : Closes c ch s t) (hc : s.channels.get? c = some ch) : Winds c p s t := by
  refine ⟨h.frame, fun hc' => ?_⟩
  rw [h.get?_self] at hc'
  split at hc'
  · cases hc'
  · cases hc'
    exact ⟨ch, hc, List.Sublist.refl _, rfl, fun _ _ => rfl, .inr rfl⟩

theorem Closes.gone (h : Closes c ch s t) : Gone c t := by
  refine ⟨?_, fun ch' hc' => ?_⟩
  · rw [h.order_eq]
    simp
  · rw [h.get?_self] at hc'
    split at hc'
    · cases hc'
    · cases hc'
      rfl

theorem Gone.winds (h : Gone c s) (w : Winds c p s t) : Gone c t := by
  refine ⟨fun hmem => h.1 (w.frame.of_mem_order hmem), fun ch' hc' => ?_⟩
  obtain ⟨ch, hc, _, _, _, hst⟩ := w.channel hc'
  rcases hst with hst | hst
  · rw [hst, h.2 hc]
  · exact hst

theorem winds_releasePush (s : Socket (Recorded ω)) (c : ChannelId) (p : PushId) :
    Winds c p s (s.releasePush c p) := by
  unfold releasePush
  split
  · exact .refl s
  · split
    · exact .refl s
    · rename_i q hq
      obtain ⟨ch, hc, hp⟩ := push?_eq_some.mp hq
      split
      · have hw : Works c (ch.forget p q) [] s _ := works_modifyChannel hc fun ch =>
          { ch with
            pushes := ch.pushes.erase p
            buffer := ch.buffer.filter (· ≠ p) }.dropBindings? q.refEvent
        refine ⟨hw.frame, fun hc' => ?_⟩
        replace hc' := hw.get?.symm.trans hc'
        cases hc'
        refine ⟨ch, hc, Channel.forget_bindings, Channel.forget_hook, fun p' hne => ?_, .inl ?_⟩
        · rw [Channel.forget_pushes, Table.get?_erase_of_ne _ hne]
        · exact Channel.dropBindings?_state _
      · exact .refl s

section Outside

variable [Outside ω] [Obliging ω]

/-! ### A reply is dispatched -/

/-- The reply to a ref reaches no push, or resolves the push that is listened for. -/
theorem dispatchTo_replyTo (n : Nat) (hs : Sound s) (hc : s.channels.get? c = some ch)
    (hhook : ch.hook = none) {r : Ref} {payload : Payload} (ref joinRef : Option Ref)
    (hv : k.Voices (c ∈ s.order) (ch.hook ≠ none) (Event.replyTo r) payload ref) :
    (Quiet s (dispatchTo (n + 1) c (Event.replyTo r) payload ref joinRef s) ∧
      ∀ {p q}, ch.pushes.get? p = some q → q.ref = some r → ch.Awaits p → payload.reply? = none) ∨
    ∃ t p q reply, Quiet s t ∧ ch.pushes.get? p = some q ∧ q.ref = some r ∧ ch.Awaits p ∧
      payload.reply? = some reply ∧ k.Answers (c ∈ t.order) ch q reply ∧
      Quiet (((t.settlePush c p q reply).runReplyHooks (dispatchTo n) c p reply
          q.hooks.length).releasePush c p)
        (dispatchTo (n + 1) c (Event.replyTo r) payload ref joinRef s) := by
  have hch := hs.channels hc
  rcases dispatchWith_target (level_dispatchTo n) hs hc joinRef hv with
    ⟨hquiet, hguard⟩ | ⟨t, b, payload', joinRef', ht, hmem, hevent, hnot, hsame, hv', hrest⟩
  · refine .inl ⟨hquiet, fun {p q} hq hr hawaits => ?_⟩
    obtain ⟨b, hmem, htarget⟩ := hawaits
    have hbevent : b.event = Event.replyTo r := by
      have := hch.event_of_target hq hmem htarget
      rw [hch.events hq, hr, Option.map_some] at this
      exact (Option.some.inj this).symm
    rcases (hguard.resolve_left (not_not.mpr hhook)) b hmem hbevent with ⟨l, hl⟩ | ⟨_, _, hnone⟩
    · rw [htarget] at hl
      cases hl
    · exact hnone
  · rw [hsame hhook] at hnot hv' hrest
    have hreply : ∀ event, Event.replyTo r ≠ event → b.event ≠ event := fun _ hne heq =>
      hne (hevent.symm.trans heq)
    rcases hch.internal hmem fun hl => hnot (.inl hl) with
      rfl | rfl | rfl | ⟨p, q, r', htarget, hq, hr, hrefEvent, heq⟩
    · exact absurd rfl (hreply _ (Event.replyTo_ne_close r))
    · exact absurd rfl (hreply _ (Event.replyTo_ne_error r))
    · exact absurd rfl (hreply _ (Event.replyTo_ne_reply r))
    · obtain rfl := Event.replyTo_injective (hevent.symm.trans heq)
      cases hpayload : payload.reply? with
      | none => exact absurd (.inr ⟨p, htarget, hpayload⟩) hnot
      | some reply =>
        rw [← hevent] at hv'
        refine .inr ⟨t, p, q, reply, ht, hq, hr, ⟨b, hmem, htarget⟩, rfl,
          hv'.answers hch hq hrefEvent hpayload, ?_⟩
        rw [htarget] at hrest
        simp only [runTarget, hpayload, resolvePush_eq (ht.get? c ▸ hc) hq] at hrest
        exact hrest

/-! ### Timeouts -/

/-- A push whose timer has fired is resolved as if the timer had not. -/
theorem settled_of_lapse (hc : s.channels.get? c = some ch) (hp : ch.pushes.get? p = some q)
    {timer : TimerSlot} (hawaits : ch.Awaits p) {reply : Reply}
    (ha : k.Answers (c ∈ s.order) ch q reply)
    (hw : Works c { ch with pushes := ch.pushes.set p { q with timer := timer } } [] s t)
    (hq : Quiet t u) :
    Settled k c p reply ch q timer.cancel s
      (u.settlePush c p { q with timer := timer } reply) := by
  have hw' := hw.quiet hq
  have hsettle := works_settlePush hw'.get? (Table.get?_set_self _ _ _) reply
  have hsame : Channel.settle { ch with pushes := ch.pushes.set p { q with timer := timer } } p
      { q with timer := timer } timer.cancel reply = ch.settle p q timer.cancel reply := by
    simp only [Channel.settle, Table.set_set]
  have hall := hw'.trans hsettle
  rw [hsame] at hall
  exact ⟨hc, hp, hawaits, rfl, ha, hall⟩

/-- The timeout of a push: it comes too late, nobody listens for it, or it resolves the push. -/
theorem pushTimeout_unhooked (hs : Sound s) (hb : s.exchange.drawn < 2 ^ 64) (hu : s.Unhooked)
    (c : ChannelId) (p : PushId) (generation : Nat) :
    s.pushTimeout c p generation = s ∨
      ∃ ch q, s.channels.get? c = some ch ∧ ch.pushes.get? p = some q ∧ q.timer.armed = true ∧
        ((¬ ch.Awaits p ∧
          Works c { ch with pushes := ch.pushes.set p { q with timer := q.timer.cancel } } [] s
            (s.pushTimeout c p generation)) ∨
        ∃ r t, q.ref = some r ∧
          Settled (.reply r (.reply Status.timeout .empty)) c p ⟨Status.timeout, .empty⟩ ch q
            q.timer.cancel.cancel s t ∧
          Quiet ((t.runReplyHooks (dispatchTo 2) c p ⟨Status.timeout, .empty⟩
              q.hooks.length).releasePush c p)
            (s.pushTimeout c p generation)) := by
  rcases pushTimeout_cases s c p generation with h | ⟨ch, q, hc, hp, harmed, heq⟩
  · exact .inl h
  refine .inr ⟨ch, q, hc, hp, harmed, ?_⟩
  have hch := hs.channels hc
  have hw := works_modifyPush hc hp fun q' => { q' with timer := q.timer.cancel }
  set s₁ := s.modifyPush c p fun q' => { q' with timer := q.timer.cancel } with hs₁
  set ch₁ : Channel := { ch with pushes := ch.pushes.set p { q with timer := q.timer.cancel } }
    with hch₁
  have hsound : Sound s₁ := (Rough.lapse (k := .failure) hc hp hw).sound hs
  have hget : ch₁.pushes.get? p = some { q with timer := q.timer.cancel } :=
    Table.get?_set_self _ _ _
  have hapart : ch₁.Apart := (hs.channel_apart hb hc).kept (.set rfl hp (.inl rfl))
  cases hr : q.ref with
  | none =>
    refine .inl ⟨fun hawaits => ?_, ?_⟩
    · obtain ⟨_, q', r, _, _, hq', hr', _⟩ := hch.ref_of_awaits hawaits
      rw [hp] at hq'
      cases hq'
      rw [hr] at hr'
      cases hr'
    · rw [heq, triggerPush_of_none]
      · exact hw
      · intro q' hq'
        obtain ⟨ch', hc', hp'⟩ := push?_eq_some.mp hq'
        rw [hw.get?] at hc'
        cases hc'
        rw [hget] at hp'
        cases hp'
        show q.refEvent = none
        rw [hch.events hp, hr, Option.map_none]
  | some r =>
    have hevent : q.refEvent = some (Event.replyTo r) := by
      rw [hch.events hp, hr, Option.map_some]
    have htrigger : s.pushTimeout c p generation = dispatchTo 3 c (Event.replyTo r)
        (.reply Status.timeout .empty) none none s₁ := by
      rw [heq]
      simp only [triggerPush, push?_eq_some.mpr ⟨ch₁, hw.get?, hget⟩, Option.bind_some, hevent]
      rfl
    have hhook : ch.hook = none := hu hc
    rcases dispatchTo_replyTo (k := .reply r (.reply Status.timeout .empty)) 2 hsound hw.get? hhook
        none none (.inr ⟨rfl, fun _ => rfl⟩) with
      ⟨hquiet, hnone⟩ | ⟨t, p', q', reply, ht, hq', hr', hawaits, hreply, ha, hrest⟩
    · refine .inl ⟨fun hawaits => ?_, ?_⟩
      · cases hnone (p := p) hget hr hawaits
      · rw [htrigger]
        exact hw.quiet hquiet
    · have hpp : p' = p := hapart hq' hget hr' hr
      subst hpp
      rw [hget] at hq'
      cases hq'
      cases hreply
      refine .inr ⟨r, _, rfl, settled_of_lapse hc hp hawaits ⟨hr, fun _ => rfl⟩ hw ht, ?_⟩
      rw [htrigger]
      exact hrest

/-! ### Leaving -/

/-- A leave is sent, and resolved before anything else happens. -/
theorem leave_unhooked (hs : Sound s) (hu : s.Unhooked) (hc : s.channels.get? c = some ch)
    (hspent : s.exchange.Spent (.pushes c) p) (hfree : ch.pushes.get? p = none)
    (hother : p ≠ joinPush) (timeout : Nat) (detached : Bool)
    (hb : (s.leave c p timeout detached).exchange.drawn < 2 ^ 64) :
    ∃ t join ch' m q r u, ch.pushes.get? joinPush = some join ∧ m.event = Event.leave ∧
      m.topic = ch.topic ∧
      ((departing ch join).insert p { Push.leave timeout with detached := detached }).Starts
        s.exchange t.exchange c p ch' ∧
      Works c ch' [.accept (.push c p) m] s t ∧ ch'.pushes.get? p = some q ∧ q.ref = some r ∧
      Settled (.reply r (.reply Status.ok .empty)) c p ⟨Status.ok, .empty⟩ ch' q q.timer.cancel t
        u ∧
      Quiet ((u.runReplyHooks (dispatchTo 2) c p ⟨Status.ok, .empty⟩ q.hooks.length).releasePush c
          p) (s.leave c p timeout detached) := by
  obtain ⟨t, join, ch', m, hjoin, hevent, htopic, hstarts, hw, heq⟩ :=
    works_depart hs hc hspent hfree hother timeout detached
  have hrough : Rough .failure c s t := .departs hc hjoin hfree (hw.evolves.spent hspent) hother
    hstarts hw fun e he => ⟨m, List.mem_singleton.mp he⟩
  have hst := hrough.sound hs
  obtain ⟨_, r, _, q, _, _, hq, hr, _, _, _, hawaits⟩ := hstarts.self
  have hmoves := moves_triggerPush hst hw.get? hq hr Status.ok .empty
  rw [← heq] at hmoves
  have hbt := lt_of_le_of_lt hmoves.frame.evolves.drawn_le hb
  have hrefEvent : q.refEvent = some (Event.replyTo r) := by
    rw [(hst.channels hw.get?).events hq, hr, Option.map_some]
  have htrigger : s.leave c p timeout detached = dispatchTo 3 c (Event.replyTo r)
      (.reply Status.ok .empty) none none t := by
    rw [heq]
    simp only [triggerPush, push?_eq_some.mpr ⟨ch', hw.get?, hq⟩, Option.bind_some, hrefEvent]
    rfl
  have hsame : ((departing ch join).insert p
      { Push.leave timeout with detached := detached }).hook = ch.hook := rfl
  have hhook : ch'.hook = none := hstarts.hook_eq.trans (hsame.trans (hu hc))
  rcases dispatchTo_replyTo (k := .reply r (.reply Status.ok .empty)) 2 hst hw.get? hhook none
      none (.inr ⟨rfl, fun _ => rfl⟩) with
    ⟨_, hnone⟩ | ⟨v, p', q', reply, hv, hq', hr', _, hreply, ha, hrest⟩
  · cases hnone (p := p) hq hr hawaits
  · have hpp : p' = p := hst.channel_apart hbt hw.get? hq' hq hr' hr
    rw [hpp] at hq' hrest
    rw [hq] at hq'
    cases hq'
    cases hreply
    rw [← htrigger] at hrest
    have hwv := hv.then_works (works_settlePush (hv.get? c ▸ hw.get?) hq ⟨Status.ok, .empty⟩)
    exact ⟨t, join, ch', m, q, r, _, hjoin, hevent, htopic, hstarts, hw, hq, hr,
      ⟨hw.get?, hq, hawaits, rfl, ⟨hr, fun _ => rfl⟩, hwv⟩, hrest⟩

/-- What waits for the reply to a push other than the join lets the channel close at most. -/
theorem winds_runReplyHook {dispatch : Dispatch (Recorded ω)} (hl : Level dispatch) (hs : Sound s)
    (hother : p ≠ joinPush) (reply : Reply) (i : Nat) :
    Winds c p s (runReplyHook dispatch c p reply s i) := by
  cases hq : s.push? c p with
  | none =>
    rw [runReplyHook_of_none dispatch hq]
    exact .refl s
  | some q =>
    obtain ⟨ch, hc, hp⟩ := push?_eq_some.mp hq
    rw [runReplyHook_eq dispatch hq]
    split
    · exact .refl s
    · rename_i status hook hhook
      split
      · have hw := turns_perform s (.runReply c p hook reply)
        rcases (hs.channels hc).others hother hp _ (List.mem_of_getElem? hhook) with h | ⟨cb, h⟩
        · obtain rfl : hook = .channel .leaveDone := h
          have hc₁ : (s.perform (.runReply c p (.channel .leaveDone) reply)).channels.get? c =
              some ch := hc
          rcases hl.close (.json (.string "leave")) (hs.turns hw) hc₁ with hquiet | hclose
          · exact hw.winds.trans hquiet.winds
          · exact hw.winds.trans (hclose.winds hc₁)
        · obtain rfl : hook = .callback cb := h
          exact hw.winds
      · exact .refl s

theorem winds_runReplyHooks {dispatch : Dispatch (Recorded ω)} (hl : Level dispatch) (hs : Sound s)
    (hother : p ≠ joinPush) {reply : Reply}
    (hr : ∀ q, s.push? c p = some q → q.received = some reply) (places : List Nat) :
    Winds c p s (places.foldl (runReplyHook dispatch c p reply) s) := by
  induction places generalizing s with
  | nil => exact .refl s
  | cons i places ih =>
    obtain ⟨hmoves, hr'⟩ := moves_runReplyHook (k := .failure) hl hs hother hr i
    exact (winds_runReplyHook hl hs hother reply i).trans (ih (hmoves.sound hs) hr')

/-- A push other than the join that has its reply: what is left lets the channel close at most. -/
theorem Settled.winds {dispatch : Dispatch (Recorded ω)} (hl : Level dispatch) {timer : TimerSlot}
    {reply : Reply} (h : Settled k c p reply ch q timer s t) (hs : Sound s) (hother : p ≠ joinPush)
    (count : Nat) : Winds c p t ((t.runReplyHooks dispatch c p reply count).releasePush c p) := by
  refine (winds_runReplyHooks hl (h.sound hs) hother (fun q' hq' => ?_) _).trans
    (winds_releasePush _ c p)
  rw [h.push?] at hq'
  cases hq'
  rfl

/-- A push whose reply ends the leave closes the channel. -/
theorem Settled.gone {timer : TimerSlot} {reply : Reply}
    (h : Settled k c p reply ch q timer s t) (hs : Sound s) (hother : p ≠ joinPush)
    (hi : ch.Intact Event.IsReserved) {more : List (String × ReplyHook)}
    (hhooks : q.hooks = (reply.status, .channel .leaveDone) :: more) :
    Gone c ((t.runReplyHooks (dispatchTo 2) c p reply q.hooks.length).releasePush c p) := by
  have hst := h.sound hs
  have hlevel : Level (ω := ω) (dispatchTo 2) := level_dispatchTo 2
  have hreceived : ∀ q', t.push? c p = some q' → q'.received = some reply := by
    intro q' hq'
    rw [h.push?] at hq'
    cases hq'
    rfl
  have hplace : q.hooks[0]? = some (reply.status, .channel .leaveDone) := by
    rw [hhooks]
    rfl
  -- The first thing that waits for the reply closes the channel.
  have hfirst : Closes c (ch.settle p q timer reply)
      (t.perform (.runReply c p (.channel .leaveDone) reply))
      (runReplyHook (dispatchTo 2) c p reply t 0) := by
    have hcv : (t.perform (.runReply c p (.channel .leaveDone) reply)).channels.get? c =
        some (ch.settle p q timer reply) := h.works.get?
    rw [runReplyHook_match (dispatchTo 2) h.push? hplace]
    rcases dispatchWith_close (dispatchTo 1) (hst.turns (turns_perform t _)) hcv
      (.json (.string "leave")) none none with ⟨_, hguard⟩ | hclosed
    · have hhook : (ch.settle p q timer reply).hook = none :=
        (Channel.settle_hook _ _).trans hi.unhooked
      have howns := hi.owns.settle (hs.channels h.channel) h.push timer reply
      exact absurd (howns _ (by simp [Channel.ownBindings]) (.inl ⟨"close", rfl⟩))
        (hguard.resolve_left (not_not.mpr hhook))
    · exact hclosed
  obtain ⟨hmoves, hreceived'⟩ := moves_runReplyHook (k := .failure) hlevel hst hother hreceived 0
  have hrest := winds_runReplyHooks hlevel (hmoves.sound hst) hother hreceived'
    ((List.range more.length).map Nat.succ)
  have hplaces : List.range q.hooks.length = 0 :: (List.range more.length).map Nat.succ := by
    rw [hhooks, List.length_cons, List.range_succ_eq_map]
  rw [runReplyHooks, hplaces, List.foldl_cons]
  exact hfirst.gone.winds (hrest.trans (winds_releasePush _ c p))

/-- A channel that keeps its own bindings is gone when it has left. -/
theorem gone_leave (hs : Sound s) (hi : Intact Event.IsReserved s)
    (hc : s.channels.get? c = some ch) (hspent : s.exchange.Spent (.pushes c) p)
    (hfree : ch.pushes.get? p = none) (hother : p ≠ joinPush) (timeout : Nat) (detached : Bool)
    (hb : (s.leave c p timeout detached).exchange.drawn < 2 ^ 64) :
    Gone c (s.leave c p timeout detached) := by
  obtain ⟨t, join, ch', m, q, r, u, hjoin, _, _, hstarts, hw, hq, _, hsettled, hrest⟩ :=
    leave_unhooked hs hi.to_unhooked hc hspent hfree hother timeout detached hb
  have hrough : Rough .failure c s t := .departs hc hjoin hfree (hw.evolves.spent hspent) hother
    hstarts hw fun e he => ⟨m, List.mem_singleton.mp he⟩
  obtain ⟨q₀, _, _, q', hq₀, _, hq', _, _, _, ⟨more, hmore, _⟩, _⟩ := hstarts.self
  rw [hq] at hq'
  cases hq'
  rw [Channel.insert, Table.get?_set_self] at hq₀
  cases hq₀
  have hit : Intact Event.IsReserved t := hrough.intact trivial hs hi
  exact (hsettled.gone (hrough.sound hs) hother (hit hw.get?) hmore).winds
    (hrest.winds (p := p))

end Outside

end Socket

end Switchboard
