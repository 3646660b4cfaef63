import Switchboard.Proofs.Listening
import Switchboard.Proofs.Scripts

/-!
# Replies reach exactly their pushes

A reply that the server sends names a push by its ref.  It is passed on under the event of that ref,
so that it reaches the one binding that listens for it, and no other push of any channel.

Main definitions

* `Effect.saysReply`, `Push.runs`: what is said because of a reply, and what runs of the things that
  wait for one;
* `Socket.Stirs`: a socket goes on without saying anything of replies;
* `Socket.Hits`: a push that a message resolves.

Main results

* `Socket.says_runReplyHooks`: what runs because of a reply, in its order;
* `Socket.deliver_reply`: what it is to deliver a reply to a channel;
* `Socket.reply_reaches_push`: a reply resolves the push that it names, if that waits for it, and is
  not noticed by any other.
-/

set_option autoImplicit false

namespace Switchboard

/-- Whether an effect is due to a reply to a push. -/
def Effect.saysReply : Effect → Bool
  | .runReply .. | .resolve .. | .answer _ (.reply ..) => true
  | _ => false

/-- What runs for a reply at one place of a list. -/
def runsAt (c : ChannelId) (p : PushId) (reply : Reply) : Option (String × ReplyHook) → List Effect
  | some (status, hook) => if status == reply.status then [.runReply c p hook reply] else []
  | none => []

/-- What runs for a reply of all that a push has waiting, in its order. -/
def Push.runs (c : ChannelId) (p : PushId) (q : Push) (reply : Reply) : List Effect :=
  (q.hooks.filter fun hook => hook.1 == reply.status).map fun hook => .runReply c p hook.2 reply

section Record

variable {c : ChannelId} {p : PushId} {q : Push} {reply : Reply} {es : List Effect}

/-- A list is walked through place by place. -/
theorem flatMap_range_getElem? {α β : Type} (f : Option α → List β) (l : List α) :
    (List.range l.length).flatMap (fun i => f l[i]?) = l.flatMap fun a => f (some a) := by
  induction l with
  | nil => rfl
  | cons a l ih =>
    rw [List.length_cons, List.range_succ_eq_map, List.flatMap_cons, List.flatMap_map,
      List.flatMap_cons, ← ih]
    rfl

/-- What runs place by place is what runs altogether. -/
theorem flatMap_runsAt (c : ChannelId) (p : PushId) (q : Push) (reply : Reply) :
    (List.range q.hooks.length).flatMap (fun i => runsAt c p reply q.hooks[i]?) =
      q.runs c p reply := by
  rw [flatMap_range_getElem?, Push.runs]
  induction q.hooks with
  | nil => rfl
  | cons hook hooks ih =>
    rw [List.flatMap_cons, ih, List.filter_cons]
    by_cases hstatus : hook.1 == reply.status
    · simp [runsAt, hstatus]
    · simp [runsAt, hstatus]

theorem saysReply_runsAt (hook : Option (String × ReplyHook)) :
    (runsAt c p reply hook).filter Effect.saysReply = runsAt c p reply hook := by
  rcases hook with _ | ⟨status, hook⟩
  · rfl
  · by_cases hstatus : status == reply.status <;> simp [runsAt, hstatus, Effect.saysReply]

theorem saysReply_flatMap (places : List Nat) (hooks : List (String × ReplyHook)) :
    (places.flatMap fun i => runsAt c p reply hooks[i]?).filter Effect.saysReply =
      places.flatMap fun i => runsAt c p reply hooks[i]? := by
  rw [List.filter_flatMap]
  exact congrArg (List.flatMap · places) (funext fun i => saysReply_runsAt _)

theorem saysReply_settled : (settled c p q reply).filter Effect.saysReply = settled c p q reply := by
  refine List.filter_eq_self.mpr fun e he => ?_
  rcases List.mem_append.mp he with he | he
  · obtain ⟨ticket, _, rfl⟩ := List.mem_map.mp he
    rfl
  · rw [List.mem_singleton.mp he]
    rfl

end Record

namespace Socket

variable {ω : Type} {s t u : Socket (Recorded ω)} {k : Prompt} {c d : ChannelId}
variable {ch ch' : Channel} {p p' : PushId} {q : Push} {es : List Effect} {reply : Reply}

/-! ### What goes on besides -/

/-- Nothing is said of replies, and what waits for a push stays in its place. -/
def Stirs (c : ChannelId) (p : PushId) (s t : Socket (Recorded ω)) : Prop :=
  (∃ es, t.log = s.log ++ es ∧ es.filter Effect.saysReply = []) ∧
    ∀ q, s.push? c p = some q → ∃ q', t.push? c p = some q' ∧ q.hooks <+: q'.hooks

theorem Stirs.refl (s : Socket (Recorded ω)) : Stirs c p s s :=
  ⟨⟨[], (List.append_nil _).symm, rfl⟩, fun q hq => ⟨q, hq, List.prefix_rfl⟩⟩

theorem Stirs.trans (h : Stirs c p s t) (h' : Stirs c p t u) : Stirs c p s u := by
  obtain ⟨⟨es, hes, htold⟩, hpush⟩ := h
  obtain ⟨⟨es', hes', htold'⟩, hpush'⟩ := h'
  refine ⟨⟨es ++ es', by rw [hes', hes, List.append_assoc], ?_⟩, fun q hq => ?_⟩
  · rw [List.filter_append, htold, htold', List.append_nil]
  · obtain ⟨q', hq', hhooks⟩ := hpush q hq
    obtain ⟨q'', hq'', hhooks'⟩ := hpush' q' hq'
    exact ⟨q'', hq'', hhooks.trans hhooks'⟩

theorem Works.stirs (h : Works c ch' es s t) (hc : s.channels.get? c = some ch)
    (hes : es.filter Effect.saysReply = [])
    (hpush : ∀ q, ch.pushes.get? p = some q →
      ∃ q', ch'.pushes.get? p = some q' ∧ q.hooks <+: q'.hooks) : Stirs c p s t := by
  refine ⟨⟨es, h.log_eq, hes⟩, fun q hq => ?_⟩
  obtain ⟨ch₀, hc₀, hq₀⟩ := push?_eq_some.mp hq
  rw [hc] at hc₀
  cases hc₀
  obtain ⟨q', hq', hhooks⟩ := hpush q hq₀
  exact ⟨q', push?_eq_some.mpr ⟨ch', h.get?, hq'⟩, hhooks⟩

theorem prefix_of_alike {q' : Push} (h : q.Alike q') : q.hooks <+: q'.hooks := by
  obtain ⟨more, hmore, _⟩ := h.hooks
  exact ⟨more, hmore.symm⟩

/-- To send a push leaves what waits for the pushes in its place. -/
theorem prefix_of_starts {x y : Exchange} (h : ch.Starts x y c p ch') {q : Push}
    (hq : ch.pushes.get? p' = some q) :
    ∃ q', ch'.pushes.get? p' = some q' ∧ q.hooks <+: q'.hooks := by
  by_cases hp : p' = p
  · subst hp
    obtain ⟨q₀, _, _, q', hq₀, _, hq', _, _, _, ⟨more, hmore, _⟩, _⟩ := h.self
    rw [hq] at hq₀
    cases hq₀
    exact ⟨q', hq', more, hmore.symm⟩
  · obtain ⟨q', hq', hqq⟩ := h.carried hp hq
    exact ⟨q', hq', prefix_of_alike hqq⟩

theorem Flush.stirs {ps : List PushId} (h : Flush c ps s t) : Stirs c p s t := by
  induction h with
  | nil s => exact .refl s
  | pass late rest ih => exact ih
  | send channel push inTime starts works rest ih =>
    exact (works.stirs channel rfl fun q hq => prefix_of_starts starts hq).trans ih

section Outside

variable [Outside ω] [Obliging ω]

omit [Obliging ω] in
theorem stirs_scheduleRejoinIfConnected (hc : s.channels.get? c = some ch)
    (hstate : ch.state = .errored) : Stirs c p s (s.scheduleRejoinIfConnected c) := by
  obtain ⟨ch', _, hpushes, hw⟩ := works_scheduleRejoinIfConnected hc hstate
  exact hw.stirs hc rfl fun q hq => ⟨q, hpushes ▸ hq, List.prefix_rfl⟩

/-- How a channel takes the reply to its join. -/
theorem stirs_react (dispatch : Dispatch (Recorded ω)) (hs : Sound s)
    (hc : s.channels.get? c = some ch) {reaction : Reaction} (hne : reaction ≠ .leaveDone)
    (hp : p = joinPush) : Stirs c p s (s.react dispatch c reaction) := by
  cases reaction with
  | joinOk =>
    obtain ⟨t, hw, hflush⟩ := flush_acceptJoin hs hc
    exact (hw.stirs hc rfl fun q hq => ⟨q, hq, List.prefix_rfl⟩).trans hflush.stirs
  | joinError =>
    have hcontains : s.channels.contains c = true := (Table.contains_iff _ _).mpr ⟨ch, hc⟩
    have hw := works_modifyChannel hc fun ch => { ch with state := .errored }
    simp only [react, hcontains, if_true]
    exact (hw.stirs hc rfl fun q hq => ⟨q, hq, List.prefix_rfl⟩).trans
      (stirs_scheduleRejoinIfConnected hw.get? rfl)
  | joinTimeout =>
    subst hp
    obtain ⟨t, p, m, ch₁, q₁, ch₂, _, _, _, hother, hstarts, hq₁, hw, ha, hw'⟩ :=
      works_abandonJoin hs hc
    refine (hw.trans hw').stirs hc rfl fun q hq => ?_
    obtain ⟨q', hq', hhooks⟩ :=
      prefix_of_starts hstarts ((Table.get?_set_of_ne _ hother.symm _).trans hq)
    rw [hq₁] at hq'
    cases hq'
    obtain ⟨q₂, hq₂, hqq⟩ := ha.some (p := joinPush)
      (by rw [Channel.takeBack_pushes, Table.get?_set_self])
    have hreset : q₁.reset.hooks <+: q₂.hooks := prefix_of_alike hqq
    exact ⟨q₂, hq₂, hhooks.trans hreset⟩
  | leaveDone => exact absurd rfl hne

/-! ### What runs because of a reply -/

/-- Where only users wait for the status, one after another is told. -/
theorem turns_walk (dispatch : Dispatch (Recorded ω)) (hq : s.push? c p = some q)
    (places : List Nat) (hcb : ∀ i ∈ places, ∀ hook, q.hooks[i]? = some (reply.status, hook) →
      ∃ callback, hook = .callback callback) :
    Turns s (places.foldl (runReplyHook dispatch c p reply) s) s.channels
      (places.flatMap fun i => runsAt c p reply q.hooks[i]?) := by
  induction places generalizing s with
  | nil => exact Quiet.refl s
  | cons i places ih =>
    have hstep : Turns s (runReplyHook dispatch c p reply s i) s.channels
        (runsAt c p reply q.hooks[i]?) := by
      rw [runReplyHook_eq dispatch hq]
      cases hhook : q.hooks[i]? with
      | none => exact Quiet.refl s
      | some entry =>
        obtain ⟨status, hook⟩ := entry
        by_cases hstatus : status == reply.status
        · obtain ⟨callback, rfl⟩ := hcb i List.mem_cons_self hook (eq_of_beq hstatus ▸ hhook)
          simp only [hstatus, if_true, runsAt]
          exact turns_perform s (.runReply c p (.callback callback) reply)
        · simp only [hstatus, runsAt]
          exact Quiet.refl s
    have hq' : (runReplyHook dispatch c p reply s i).push? c p = some q := by
      rw [← hq]
      simp only [Socket.push?, hstep.channels_eq]
    have hrest := ih hq' fun j hj => hcb j (List.mem_cons_of_mem _ hj)
    rw [hstep.channels_eq] at hrest
    exact hstep.trans hrest

/-- Among what waits for the reply to a push, at most one thing of its status is a reaction of the
channel, and that is a reaction to a join. -/
def AtMostOnce (p : PushId) (q : Push) (status : String) : Prop :=
  (∀ (i : Nat) (hook : ReplyHook), q.hooks[i]? = some (status, hook) →
      ∃ callback, hook = .callback callback) ∨
    p = joinPush ∧ ∃ (i : Nat) (reaction : Reaction),
      q.hooks[i]? = some (status, .channel reaction) ∧ reaction ≠ .leaveDone ∧
        ∀ (j : Nat) (hook : ReplyHook), j ≠ i → q.hooks[j]? = some (status, hook) →
          ∃ callback, hook = .callback callback

theorem says_runReplyHooks (dispatch : Dispatch (Recorded ω)) (hs : Sound s)
    (hq : s.push? c p = some q) (honce : AtMostOnce p q reply.status) :
    ∃ es, (s.runReplyHooks dispatch c p reply q.hooks.length).log = s.log ++ es ∧
      es.filter Effect.saysReply = q.runs c p reply := by
  unfold runReplyHooks
  rcases honce with hcb | ⟨hp, i, reaction, hi, hne, hcb⟩
  · have hwalk := turns_walk dispatch hq (List.range q.hooks.length) fun i _ => hcb i
    refine ⟨_, hwalk.log_eq, ?_⟩
    rw [saysReply_flatMap, flatMap_runsAt]
  · have hlt : i < q.hooks.length := (List.getElem?_eq_some_iff.mp hi).1
    obtain ⟨before, after, hrange⟩ := List.append_of_mem (List.mem_range.mpr hlt)
    have hnodup := List.nodup_range (n := q.hooks.length)
    rw [hrange] at hnodup
    have hbefore : ∀ j ∈ before, j ≠ i := fun j hj heq =>
      (List.disjoint_of_nodup_append hnodup) (heq ▸ hj) List.mem_cons_self
    have hafter : ∀ j ∈ after, j ≠ i := fun j hj heq =>
      (List.nodup_cons.mp (List.nodup_append.mp hnodup).2.1).1 (heq ▸ hj)
    -- Before the reaction and after it, only users are told.
    have hw₁ := turns_walk dispatch hq before fun j hj hook => hcb j hook (hbefore j hj)
    set s₁ := before.foldl (runReplyHook dispatch c p reply) s with hs₁
    have hq₁ : s₁.push? c p = some q := by
      rw [← hq]
      simp only [Socket.push?, hw₁.channels_eq]
    obtain ⟨ch, hc, _⟩ := push?_eq_some.mp hq₁
    have hturns := turns_perform s₁ (.runReply c p (.channel reaction) reply)
    obtain ⟨⟨es, hes, htold⟩, hpush⟩ := stirs_react dispatch
      ((hs.turns hw₁).turns hturns) hc hne hp
    obtain ⟨q', hq', more, hmore⟩ := hpush q hq₁
    have hsame : ∀ j ∈ after, q'.hooks[j]? = q.hooks[j]? := by
      intro j hj
      have hlt : j < q.hooks.length :=
        List.mem_range.mp (hrange ▸ List.mem_append_right _ (List.mem_cons_of_mem _ hj))
      rw [← hmore, List.getElem?_append_left hlt]
    have hw₂ := turns_walk dispatch hq' after fun j hj hook heq =>
      hcb j hook (hafter j hj) (hsame j hj ▸ heq)
    have hthere : [Effect.runReply c p (.channel reaction) reply].filter Effect.concernsPush =
        runsAt c p reply q.hooks[i]? := by
      simp [runsAt, hi, Effect.concernsPush]
    have hrest : (after.flatMap fun j => runsAt c p reply q'.hooks[j]?) =
        after.flatMap fun j => runsAt c p reply q.hooks[j]? :=
      List.flatMap_congr fun j hj => congrArg _ (hsame j hj)
    rw [hthere] at hturns
    rw [hrest] at hw₂
    rw [hrange, List.foldl_append, List.foldl_cons, runReplyHook_match dispatch hq₁ hi]
    refine ⟨_, by rw [hw₂.log_eq, hes, hturns.log_eq, hw₁.log_eq, List.append_assoc,
      List.append_assoc, List.append_assoc], ?_⟩
    simp only [List.filter_append, htold, saysReply_flatMap, saysReply_runsAt, List.nil_append]
    rw [← flatMap_runsAt, hrange, List.flatMap_append, List.flatMap_cons]

omit [Outside ω] [Obliging ω] in
/-- What waits for the reply to a join: users, and one reaction to each of three statuses. -/
theorem hook_of_join {x : Exchange} (hs : ch.Sound x c) (hq : ch.pushes.get? joinPush = some q)
    {i : Nat} {status : String} {hook : ReplyHook} (h : q.hooks[i]? = some (status, hook)) :
    (∃ callback, hook = .callback callback) ∨ i = 0 ∧ status = Status.ok ∨
      i = 1 ∧ status = Status.error ∨ i = 2 ∧ status = Status.timeout := by
  obtain ⟨h₀, h₁, h₂, hrest⟩ := hooks_join hs hq
  by_cases hi : 3 ≤ i
  · exact .inl (hrest i _ hi h)
  · obtain rfl | rfl | rfl : i = 0 ∨ i = 1 ∨ i = 2 := by omega
    · cases h₀.symm.trans h
      exact .inr (.inl ⟨rfl, rfl⟩)
    · cases h₁.symm.trans h
      exact .inr (.inr (.inl ⟨rfl, rfl⟩))
    · cases h₂.symm.trans h
      exact .inr (.inr (.inr ⟨rfl, rfl⟩))

omit [Outside ω] [Obliging ω] in
theorem atMostOnce_of_plain {x : Exchange} (hs : ch.Sound x c) (hq : ch.pushes.get? p = some q)
    (hplain : p ≠ joinPush → q.IsPlain) (status : String) : AtMostOnce p q status := by
  by_cases hp : p = joinPush
  · subst hp
    obtain ⟨h₀, h₁, h₂, _⟩ := hooks_join hs hq
    -- The three reactions of the channel are to different statuses.
    have hne : Status.ok ≠ Status.error ∧ Status.ok ≠ Status.timeout ∧
        Status.error ≠ Status.timeout := by decide
    by_cases hok : status = Status.ok
    · refine .inr ⟨rfl, 0, .joinOk, hok ▸ h₀, by simp, fun j hook hj h => ?_⟩
      have := hook_of_join hs hq h
      grind
    by_cases herror : status = Status.error
    · refine .inr ⟨rfl, 1, .joinError, herror ▸ h₁, by simp, fun j hook hj h => ?_⟩
      have := hook_of_join hs hq h
      grind
    by_cases htimeout : status = Status.timeout
    · refine .inr ⟨rfl, 2, .joinTimeout, htimeout ▸ h₂, by simp, fun j hook hj h => ?_⟩
      have := hook_of_join hs hq h
      grind
    · refine .inl fun i hook h => ?_
      have := hook_of_join hs hq h
      grind
  · exact .inl fun i hook h => hplain hp _ (List.mem_of_getElem? h)

/-! ### A reply is delivered -/

/-- A channel that accepts the reply to a ref does not notice it, or resolves the push that is
listened for under that ref. -/
theorem deliver_reply (hs : Sound s) (hi : Intact Event.IsReserved s) {m : Message} {r : Ref}
    (hc : s.channels.get? c = some ch) (hmem : c ∈ s.order) (hmember : s.isMember c m = true)
    (hevent : m.event = Event.reply) (href : m.ref = some r) :
    (Quiet s (deliver m s c) ∧
      ∀ {p q}, ch.pushes.get? p = some q → q.ref = some r → ch.Awaits p → m.payload.reply? = none) ∨
    ∃ t p q reply, Quiet s t ∧ ch.pushes.get? p = some q ∧ q.ref = some r ∧ ch.Awaits p ∧
      m.payload.reply? = some reply ∧ (Prompt.message m).Answers (c ∈ t.order) ch q reply ∧
      Quiet (((t.settlePush c p q reply).runReplyHooks (dispatchTo 1) c p reply
          q.hooks.length).releasePush c p) (deliver m s c) := by
  have hdeliver : deliver m s c = dispatchWith (dispatchTo 2) c m.event m.payload m.ref m.joinRef s := by
    simp only [deliver, hmember, if_true]
    rfl
  have hich := hi hc
  have hv : (Prompt.message m).Voices (c ∈ s.order) (ch.hook ≠ none) m.event m.payload m.ref :=
    .inr ⟨hmem, fun _ => rfl, .inl ⟨rfl, rfl⟩⟩
  rcases dispatchWith_target (level_dispatchTo 2) hs hc m.joinRef hv with
    ⟨_, hguard⟩ | ⟨t, b, payload, joinRef, ht, hb, hbevent, hnot, hsame, hv', hrest⟩
  · -- The channel has kept the binding that passes replies on.
    have howns := hich.owns ⟨Event.reply, 2, .redirect⟩ (by simp [Channel.ownBindings])
      (.inl ⟨"reply", rfl⟩)
    rcases (hguard.resolve_left (not_not.mpr hich.unhooked)) _ howns hevent.symm with
      ⟨l, hl⟩ | ⟨p, hp, _⟩
    · cases hl
    · cases hp
  · rw [hsame hich.unhooked] at hnot hv' hrest
    obtain rfl := (hs.channels hc).eq_reply hb (hbevent.trans hevent) fun hl => hnot (.inl hl)
    have hpass : t.runTarget (dispatchTo 2) c ⟨m.event, m.payload, m.ref, joinRef⟩ .redirect =
        dispatchTo 2 c (Event.replyTo r) m.payload none none t := by
      simp only [runTarget, redirect, href]
    rw [hpass, ← hdeliver] at hrest
    rw [hevent, href] at hv'
    rcases dispatchTo_replyTo 1 (hs.quiet ht) (ht.get? c ▸ hc) hich.unhooked none none
        (Prompt.Voices.redirect hv') with
      ⟨hquiet, hnone⟩ | ⟨v, p, q, reply, hv, hq, hr, hawaits, hreply, ha, hrest'⟩
    · exact .inl ⟨(ht.trans hquiet).trans hrest, hnone⟩
    · exact .inr ⟨v, p, q, reply, ht.trans hv, hq, hr, hawaits, hreply, ha, hrest'.trans hrest⟩

/-! ### A reply comes -/

omit [Outside ω] [Obliging ω] in
theorem log_releasePush (s : Socket (Recorded ω)) (c : ChannelId) (p : PushId) :
    (s.releasePush c p).log = s.log := by
  unfold releasePush
  split
  · rfl
  · split
    · rfl
    · split <;> rfl

/-- A push that a message resolves: its channel accepts the message as the reply to its present ref,
which is pending, and the message reads as a reply. -/
structure Hits (m : Message) (r : Ref) (c : ChannelId) (p : PushId) (q : Push) (reply : Reply)
    (s : Socket (Recorded ω)) : Prop where
  listed : c ∈ s.order
  accepted : s.isMember c m = true
  push : s.push? c p = some q
  ref : q.ref = some r
  pending : Pending c p r s.log
  reads : m.payload.reply? = some reply

variable {m : Message} {r : Ref}

omit [Outside ω] [Obliging ω] in
theorem isMember_quiet (h : Quiet s t) (c : ChannelId) (m : Message) :
    t.isMember c m = s.isMember c m := by
  simp only [isMember, h.channels_eq]

omit [Outside ω] [Obliging ω] in
theorem hits_quiet (h : Quiet s t) : Hits m r c p q reply t ↔ Hits m r c p q reply s := by
  have hlog : t.log = s.log := h.log_eq.trans (List.append_nil _)
  constructor
  · rintro ⟨hlisted, haccepted, hpush, href, hpending, hreads⟩
    exact ⟨h.order_eq ▸ hlisted, isMember_quiet h c m ▸ haccepted, h.push? c p ▸ hpush, href,
      hlog ▸ hpending, hreads⟩
  · rintro ⟨hlisted, haccepted, hpush, href, hpending, hreads⟩
    exact ⟨h.order_eq.symm ▸ hlisted, (isMember_quiet h c m).trans haccepted,
      (h.push? c p).trans hpush, href, hlog.symm ▸ hpending, hreads⟩

/-- Channels that do not listen for the reply to a ref do not notice it. -/
theorem quiet_deliverAll (hevent : m.event = Event.reply) (href : m.ref = some r)
    (l : List ChannelId) (hs : Sound s) (hi : Intact Event.IsReserved s)
    (hl : ∀ d ∈ l, d ∈ s.order ∧ ∀ ch p q, s.isMember d m = true → s.channels.get? d = some ch →
      ch.pushes.get? p = some q → q.ref = some r → ch.Awaits p → m.payload.reply? = none) :
    Quiet s (l.foldl (deliver m) s) := by
  induction l generalizing s with
  | nil => exact .refl s
  | cons d l ih =>
    obtain ⟨hmem, hdeaf⟩ := hl d List.mem_cons_self
    have hstep : Quiet s (deliver m s d) := by
      by_cases hmember : s.isMember d m = true
      · obtain ⟨ch, hc⟩ := hs.registered d hmem
        rcases deliver_reply hs hi hc hmem hmember hevent href with
          ⟨hquiet, _⟩ | ⟨_, p, q, reply, _, hq, hr, hawaits, hreply, _, _⟩
        · exact hquiet
        · rw [hdeaf ch p q hmember hc hq hr hawaits] at hreply
          cases hreply
      · simp only [deliver, hmember]
        exact .refl s
    refine hstep.trans (ih (hs.quiet hstep) (hi.turns hstep) fun e he => ?_)
    obtain ⟨hmem', hdeaf'⟩ := hl e (List.mem_cons_of_mem _ he)
    refine ⟨hstep.order_eq ▸ hmem', fun ch p q hmember hc => ?_⟩
    exact hdeaf' ch p q (isMember_quiet hstep e m ▸ hmember) (hstep.get? e ▸ hc)

/-- A channel resolves the push that a reply hits. -/
theorem says_deliver (hs : Sound s) (hi : Intact Event.IsReserved s) (ha : s.RefsApart)
    (hat : Attentive s) (hevent : m.event = Event.reply) (href : m.ref = some r)
    (h : Hits m r c p q reply s) :
    ∃ es, (deliver m s c).log = s.log ++ es ∧
      es.filter Effect.saysReply = settled c p q reply ++ q.runs c p reply := by
  obtain ⟨ch, hc, hq⟩ := push?_eq_some.mp h.push
  have hawaits : ch.Awaits p := (hat.listening c p hc hq h.ref).mpr h.pending
  rcases deliver_reply hs hi hc h.listed h.accepted hevent href with
    ⟨_, hnone⟩ | ⟨t, p', q', reply', ht, hq', hr', _, hreply', hanswers, hrest⟩
  · have hread := hnone hq h.ref hawaits
    rw [h.reads] at hread
    cases hread
  · obtain ⟨_, rfl⟩ := ha hc hc hq hq' h.ref hr'
    rw [hq] at hq'
    cases hq'
    rw [h.reads] at hreply'
    cases hreply'
    have hsettled := settled_settlePush (ht.get? c ▸ hc) hq hawaits hanswers
    have hplain := atMostOnce_of_plain (hs.channels hc) hq
      (fun hother => hat.plain c p hother hc hq (.inr hawaits)) reply.status
    obtain ⟨es, hes, htold⟩ := says_runReplyHooks (dispatchTo 1) (hsettled.sound (hs.quiet ht))
      hsettled.push? hplain
    refine ⟨settled c p q reply ++ es, ?_, ?_⟩
    · rw [hrest.log_eq, List.append_nil, log_releasePush, ← List.append_assoc]
      refine hes.trans ?_
      rw [hsettled.works.log_eq, ht.log_eq, List.append_nil]
    · rw [List.filter_append, saysReply_settled, htold]
      rfl

/-- A reply is said to the push that it hits and to nobody else, and if it hits none nothing changes
in the channels. -/
theorem says_messageReceived (hs : Sound s) (hi : Intact Event.IsReserved s) (ha : s.RefsApart)
    (hat : Attentive s) (hevent : m.event = Event.reply) (href : m.ref = some r) :
    (∀ {c p q reply}, Hits m r c p q reply s → ∃ es, (s.messageReceived m).log = s.log ++ es ∧
      es.filter Effect.saysReply = settled c p q reply ++ q.runs c p reply) ∧
    ((∀ c p q reply, ¬ Hits m r c p q reply s) → Quiet s (s.messageReceived m)) := by
  have hquiet := quiet_answerHeartbeat s m
  set s₁ := if s.answersHeartbeat m then s.acknowledgeHeartbeat else s with hs₁
  have heq : s.messageReceived m = (s₁.order.foldl (deliver m) s₁).callbacks.onMessage.refs.foldl
      (runOnMessage m) (s₁.order.foldl (deliver m) s₁) := rfl
  have hlast := quiet_foldl (quiet_runOnMessage m)
    (s₁.order.foldl (deliver m) s₁).callbacks.onMessage.refs (s₁.order.foldl (deliver m) s₁)
  rw [← heq] at hlast
  have hsound := hs.quiet hquiet
  have hint := hi.turns hquiet
  refine ⟨fun {c p q reply} h => ?_, fun hmiss => ?_⟩
  · obtain ⟨ch, hc, hq⟩ := push?_eq_some.mp h.push
    obtain ⟨before, after, horder⟩ := List.append_of_mem h.listed
    have hnodup := hs.nodup
    rw [horder] at hnodup
    -- No other channel has a push under the ref.
    have hapart : ∀ d, d ≠ c → ∀ ch p' q', s.channels.get? d = some ch →
        ch.pushes.get? p' = some q' → q'.ref ≠ some r := fun d hd ch' p' q' hd' hq' hr' =>
      hd (ha hd' hc hq' hq hr' h.ref).1
    have hbefore : Quiet s₁ (before.foldl (deliver m) s₁) := by
      refine quiet_deliverAll hevent href before hsound hint fun d hd => ⟨?_, ?_⟩
      · rw [hquiet.order_eq, horder]
        exact List.mem_append_left _ hd
      · intro ch' p' q' _ hd' hq' hr'
        rw [hquiet.get?] at hd'
        refine absurd hr' (hapart d (fun heq => ?_) ch' p' q' hd' hq')
        exact (List.disjoint_of_nodup_append hnodup) (heq ▸ hd) List.mem_cons_self
    have hq₀ := hquiet.trans hbefore
    set u := before.foldl (deliver m) s₁ with hu
    have hsu := hs.quiet hq₀
    have hsame : ∀ {d ch}, u.channels.get? d = some ch → s.channels.get? d = some ch :=
      fun {d _} hd => hq₀.get? d ▸ hd
    have hau : u.RefsApart := fun _ _ _ _ _ _ _ _ _ h₁ h₂ => ha (hsame h₁) (hsame h₂)
    have hhits : Hits m r c p q reply u := (hits_quiet hq₀).mpr h
    obtain ⟨es, hes, htold⟩ := says_deliver hsu (hi.turns hq₀) hau (hat.quiet hq₀) hevent href hhits
    have hmoves := moves_deliver hsu m hhits.listed
    have hafter : Quiet (deliver m u c) (after.foldl (deliver m) (deliver m u c)) := by
      refine quiet_deliverAll hevent href after (hmoves.sound hsu)
        (hmoves.intact trivial hsu (hi.turns hq₀)) fun d hd => ?_
      have hne : d ≠ c := fun heq =>
        (List.nodup_cons.mp (List.nodup_append.mp hnodup).2.1).1 (heq ▸ hd)
      refine ⟨(hmoves.frame.mem_order hne).mpr ?_, fun ch' p' q' _ hd' hq' hr' => ?_⟩
      · rw [hq₀.order_eq, horder]
        exact List.mem_append_right _ (List.mem_cons_of_mem _ hd)
      · rw [hmoves.frame.others hne] at hd'
        exact absurd hr' (hapart d hne ch' p' q' (hsame hd') hq')
    have hwalk : s₁.order.foldl (deliver m) s₁ = after.foldl (deliver m) (deliver m u c) := by
      rw [hquiet.order_eq, horder, List.foldl_append, List.foldl_cons]
    rw [hwalk] at hlast
    refine ⟨es, ?_, htold⟩
    rw [(hafter.trans hlast).log_eq, List.append_nil, hes, hq₀.log_eq, List.append_nil]
  · have hall : Quiet s₁ (s₁.order.foldl (deliver m) s₁) := by
      refine quiet_deliverAll hevent href _ hsound hint fun d hd => ⟨hd, ?_⟩
      intro ch p q hmember hd' hq hr hawaits
      by_contra hread
      obtain ⟨reply, hreply⟩ := Option.ne_none_iff_exists'.mp hread
      refine hmiss d p q reply ((hits_quiet hquiet).mp ⟨hd, hmember,
        push?_eq_some.mpr ⟨ch, hd', hq⟩, hr, ?_, hreply⟩)
      exact ((hat.quiet hquiet).listening d p hd' hq hr).mp hawaits
    exact (hquiet.trans hall).trans hlast

omit [Outside ω] [Obliging ω] in
/-- The only push that is said to be resolved is the one that is hit. -/
theorem of_resolve_said {q' : Push} {r' : Option Ref} {reply' : Reply}
    (hmem : Effect.resolve c p r' reply' ∈ settled d p' q' reply ++ q'.runs d p' reply) :
    c = d ∧ p = p' := by
  rcases List.mem_append.mp hmem with hmem | hmem
  · rcases List.mem_append.mp hmem with hmem | hmem
    · obtain ⟨ticket, _, heq⟩ := List.mem_map.mp hmem
      cases heq
    · cases List.mem_singleton.mp hmem
      exact ⟨rfl, rfl⟩
  · obtain ⟨hook, _, heq⟩ := List.mem_map.mp hmem
    cases heq

variable {cmd : Command} {x : Exchange}

/-- A reply from the server resolves a push of a channel that accepts it if and only if the push has
the ref of the reply, is still without a reply under that ref, and the payload reads as a reply.  Then
those who wait for the push have their answers and what it has waiting for the status runs, each once
and in order, and nothing else is said of a reply.  A reply that hits no push changes no channel; so
does one that cannot be read, and the push that it names goes on waiting. -/
theorem reply_reaches_push (h : Reachable (Sparing Event.IsReserved) s)
    (hb : s.exchange.drawn < 2 ^ 64) (hnext : s.exchange.next? = some (cmd, x))
    (hm : s.incoming? cmd = some m) (hevent : m.event = Event.reply) (href : m.ref = some r) :
    ∃ es, ({ s with exchange := x }.handle cmd).log = s.log ++ es ∧
      (∀ c, c ∈ s.order → s.isMember c m = true →
        ((∃ p r' reply, .resolve c p r' reply ∈ es) ↔ ∃ p q reply, Hits m r c p q reply s)) ∧
      (∀ c p q reply, Hits m r c p q reply s →
        es.filter Effect.saysReply = settled c p q reply ++ q.runs c p reply) ∧
      ((∀ c p q reply, ¬ Hits m r c p q reply s) →
        es = [] ∧ ({ s with exchange := x }.handle cmd).channels = s.channels) ∧
      (m.payload.reply? = none →
        ∀ c p, ({ s with exchange := x }.handle cmd).push? c p = s.push? c p) := by
  have hs := h.sound
  have hat := h.attentive hb
  have hi : Intact Event.IsReserved s := (Preserved.reachable (preserved_intact fun _ _ => id)
    (fun _ _ _ _ _ _ hc => by cases hc) h).2
  -- To take the command and to prune what was retired leaves the channels as they are.
  have hq := (quiet_next? hnext).trans (quiet_pruneRetired { s with exchange := x })
  have hhandle : ({ s with exchange := x } : Socket (Recorded ω)).handle cmd = _ :=
    handle_of_incoming? hm
  have hsame : ∀ {d ch}, ({ s with exchange := x }.pruneRetired).channels.get? d = some ch →
      s.channels.get? d = some ch := fun {d _} hd => hq.get? d ▸ hd
  have hapart : ({ s with exchange := x }.pruneRetired).RefsApart :=
    fun _ _ _ _ _ _ _ _ _ h₁ h₂ => hs.apart hb (hsame h₁) (hsame h₂)
  obtain ⟨hhit, hmiss⟩ := says_messageReceived (hs.quiet hq) (hi.turns hq) hapart (hat.quiet hq)
    hevent href
  rw [hhandle]
  by_cases hany : ∃ c p q reply, Hits m r c p q reply s
  · obtain ⟨c, p, q, reply, hits⟩ := hany
    obtain ⟨es, hes, htold⟩ := hhit ((hits_quiet hq).mpr hits)
    rw [hq.log_eq, List.append_nil] at hes
    have honly : ∀ {d p' r' reply'}, Effect.resolve d p' r' reply' ∈ es → d = c ∧ p' = p := by
      intro d p' r' reply' hmem
      exact of_resolve_said (htold ▸ List.mem_filter.mpr ⟨hmem, rfl⟩)
    have hthere : .resolve c p q.ref reply ∈ es :=
      (List.mem_filter.mp (htold ▸ List.mem_append_left _ mem_settled)).1
    have huniq : ∀ {d p' q' reply'}, Hits m r d p' q' reply' s →
        d = c ∧ p' = p ∧ q' = q ∧ reply' = reply := by
      intro d p' q' reply' hits'
      obtain ⟨ch, hc, hp⟩ := push?_eq_some.mp hits.push
      obtain ⟨ch', hc', hp'⟩ := push?_eq_some.mp hits'.push
      obtain ⟨rfl, rfl⟩ := hs.apart hb hc' hc hp' hp hits'.ref hits.ref
      exact ⟨rfl, rfl, Option.some.inj (hits'.push.symm.trans hits.push),
        Option.some.inj (hits'.reads.symm.trans hits.reads)⟩
    refine ⟨es, hes, fun d _ _ => ⟨?_, ?_⟩, fun d p' q' reply' hits' => ?_, fun hnone => ?_,
      fun hnone => ?_⟩
    · rintro ⟨p', r', reply', hmem⟩
      obtain ⟨rfl, rfl⟩ := honly hmem
      exact ⟨p', q, reply, hits⟩
    · rintro ⟨p', q', reply', hits'⟩
      obtain ⟨rfl, rfl, rfl, rfl⟩ := huniq hits'
      exact ⟨p', q'.ref, reply', hthere⟩
    · obtain ⟨rfl, rfl, rfl, rfl⟩ := huniq hits'
      exact htold
    · exact absurd hits (hnone c p q reply)
    · rw [hits.reads] at hnone
      cases hnone
  · have hnone : ∀ c p q reply, ¬ Hits m r c p q reply s := fun c p q reply hits =>
      hany ⟨c, p, q, reply, hits⟩
    have hquiet := hq.trans (hmiss fun c p q reply hits => hnone c p q reply ((hits_quiet hq).mp hits))
    refine ⟨[], hquiet.log_eq, fun c _ _ => ⟨?_, ?_⟩, fun c p q reply hits => ?_, fun _ =>
      ⟨rfl, hquiet.channels_eq⟩, fun _ => hquiet.push?⟩
    · rintro ⟨p, r', reply, hmem⟩
      cases hmem
    · rintro ⟨p, q, reply, hits⟩
      exact absurd hits (hnone c p q reply)
    · exact absurd hits (hnone c p q reply)

end Outside

/-- A push over a joined channel waits while a message with its ref is on its way. -/
def awaiting : List Deed :=
  joined "room" ++ [.push 0 "first" 10000, .take,
    .post (.channel 0 (.receive 1 Status.ok 7)) fun _ => rfl, .take,
    .answer 0 "3" "4" "room" Status.ok]

/-- The callback of the push that waits runs, and nothing else is said. -/
theorem reply_reaches_push_awaiting : ∃ (s : Socket (Recorded Idle)) (cmd : Command) (x : Exchange)
    (m : Message) (q : Push), Reachable (Sparing Event.IsReserved) s ∧
    s.exchange.next? = some (cmd, x) ∧ s.incoming? cmd = some m ∧
    Hits m "4" 0 1 q ⟨Status.ok, .bytes []⟩ s ∧ q.hooks = [(Status.ok, .callback 7)] ∧
    ∃ es, ({ s with exchange := x }.handle cmd).log = s.log ++ es ∧
      es.filter Effect.saysReply =
        settled 0 1 q ⟨Status.ok, .bytes []⟩ ++ q.runs 0 1 ⟨Status.ok, .bytes []⟩ := by
  obtain ⟨s, hs, hview⟩ := reachable_of_play? (spares_of_sparesAll Event.IsReserved)
    (show (ready.play? sparesAll awaiting).map (fun s =>
        (s.exchange.drawn, s.order, s.log.any (Effect.resolves 0 1),
          (s.push? 0 1).map fun q => (q.ref, q.hooks),
          s.exchange.next?.bind fun (cmd, _) => (s.incoming? cmd).map fun m =>
            (m.event, m.ref, m.payload.reply?, s.isMember 0 m))) =
      some (4, [0], false, some (some "4", [(Status.ok, .callback 7)]),
        some (Event.reply, some "4", some ⟨Status.ok, .bytes []⟩, true)) by cbv)
  simp only [Prod.mk.injEq] at hview
  obtain ⟨hdrawn, horder, hlog, hpush, hmessage⟩ := hview
  obtain ⟨q, hq, hqq⟩ := Option.map_eq_some_iff.mp hpush
  obtain ⟨⟨cmd, x⟩, hnext, hm⟩ := Option.bind_eq_some_iff.mp hmessage
  obtain ⟨m, hm, hmm⟩ := Option.map_eq_some_iff.mp hm
  simp only [Prod.mk.injEq] at hqq hmm
  obtain ⟨hevent, href, hreads, hmember⟩ := hmm
  have hpending : Pending 0 1 "4" s.log := by
    intro reply hmem
    have := List.any_eq_false.mp hlog _ hmem
    simp [Effect.resolves] at this
  have hits : Hits m "4" 0 1 q ⟨Status.ok, .bytes []⟩ s :=
    ⟨by simp [horder], hmember, hq, hqq.1, hpending, hreads⟩
  obtain ⟨es, hes, -, hsaid, -⟩ := reply_reaches_push hs (hdrawn ▸ by decide) hnext hm hevent href
  exact ⟨s, cmd, x, m, q, hs, hnext, hm, hits, hqq.2, es, hes, hsaid 0 1 q _ hits⟩

end Socket

end Switchboard
