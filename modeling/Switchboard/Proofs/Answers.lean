import Switchboard.Proofs.Failing
import Switchboard.Proofs.Replies
import Switchboard.Proofs.Unhooked

/-!
# What becomes of an answer

A channel answers a push of its own accord when its time is over and when it leaves.  The answer is
dispatched like a reply of the server: the hook is asked first, and may withhold it or make something
else of it; what is left of it resolves the push that is listened for under the name of the ref, if
there is one and if it still reads as a reply.  Of this nothing is changed by the listeners of users.

Main definitions

* `Channel.answered?`: the push that an answer under a name resolves;
* `Socket.readsAs`: the reply that the hook leaves of an answer;
* `Socket.Resolves`: a push is resolved, its callers are answered, and what waits for the status runs;
* `Socket.Answers`: what an answer to a push comes to.

Main results

* `Socket.dispatchTo_answer`: what it is to dispatch an answer, whatever the hook makes of it;
* `Socket.resolves_resolvePush`: what it is to resolve a push;
* `Socket.answers_triggerPush`: an answer resolves a push, or nothing becomes of it.
-/

set_option autoImplicit false

namespace Switchboard

/-! ### Who is answered -/

/-- The push that a binding resolves. -/
def Binding.resolves? (b : Binding) : Option PushId :=
  match b.target with
  | .resolve p => some p
  | _ => none

/-- The push that an answer under a name resolves: the first one that is listened for under it. -/
def Channel.answered? (ch : Channel) (event : String) : Option PushId :=
  (ch.bindings.filter fun b => b.event == event).findSome? Binding.resolves?

theorem Binding.resolves?_eq_some {b : Binding} {p : PushId} :
    b.resolves? = some p ↔ b.target = .resolve p := by
  unfold resolves?
  split
  · rename_i htarget
    rw [htarget]
    simp
  · rename_i hnot
    simp only [reduceCtorEq, false_iff]
    exact hnot p

namespace Channel

variable {ch : Channel} {x : Exchange} {c : ChannelId} {p : PushId} {q : Push} {r : Ref}

/-- Whoever is answered is listened for. -/
theorem awaits_of_answered? {event : String} (h : ch.answered? event = some p) : ch.Awaits p := by
  obtain ⟨b, hb, hp⟩ := List.exists_of_findSome?_eq_some h
  exact ⟨b, (List.mem_filter.mp hb).1, Binding.resolves?_eq_some.mp hp⟩

/-- What listens under the name of a reply is a user's, or resolves a push that has this ref. -/
theorem Sound.listens (h : ch.Sound x c) {b : Binding} (hb : b ∈ ch.bindings)
    (hevent : b.event = Event.replyTo r) : b.IsListener ∨
      ∃ p q, b.target = .resolve p ∧ ch.pushes.get? p = some q ∧ q.ref = some r := by
  by_cases hl : b.IsListener
  · exact .inl hl
  · rcases h.internal hb hl with rfl | rfl | rfl | ⟨p, q, r', ht, hq, hr, _, heq⟩
    · exact absurd hevent.symm (Event.replyTo_ne_close r)
    · exact absurd hevent.symm (Event.replyTo_ne_error r)
    · exact absurd hevent.symm (Event.replyTo_ne_reply r)
    · rw [Event.replyTo_injective (hevent.symm.trans heq)]
      exact .inr ⟨p, q, ht, hq, hr⟩

/-- As long as no ref has come again, an answer to a push reaches no other push. -/
theorem Sound.eq_of_answered? {p' : PushId} (hs : ch.Sound x c) (hapart : ch.Apart)
    (hq : ch.pushes.get? p = some q) (hr : q.ref = some r)
    (h : ch.answered? (Event.replyTo r) = some p') : p' = p := by
  obtain ⟨b, hb, hp⟩ := List.exists_of_findSome?_eq_some h
  rw [List.mem_filter, beq_iff_eq] at hb
  have ht := Binding.resolves?_eq_some.mp hp
  rcases hs.listens hb.1 hb.2 with ⟨l, hl⟩ | ⟨p'', q', ht', hq', hr'⟩
  · rw [hl] at ht
    cases ht
  · rw [ht] at ht'
    cases ht'
    exact hapart hq' hq hr' hr

/-- As long as no ref has come again, an answer reaches the push that is listened for. -/
theorem Sound.answered?_of_awaits (hs : ch.Sound x c) (hapart : ch.Apart) (hq : ch.pushes.get? p = some q)
    (hr : q.ref = some r) (h : ch.Awaits p) : ch.answered? (Event.replyTo r) = some p := by
  obtain ⟨b, hb, ht⟩ := h
  have hevent : b.event = Event.replyTo r := by
    have := hs.event_of_target hq hb ht
    rw [hs.events hq, hr, Option.map_some] at this
    exact (Option.some.inj this).symm
  have hmem : b ∈ ch.bindings.filter fun b => b.event == Event.replyTo r := by
    simp [List.mem_filter, hb, hevent]
  cases hfind : ch.answered? (Event.replyTo r) with
  | none =>
    have := List.findSome?_eq_none_iff.mp hfind b hmem
    rw [Binding.resolves?_eq_some.mpr ht] at this
    cases this
  | some p' => rw [hs.eq_of_answered? hapart hq hr hfind]

/-- And nobody is answered if the push is not listened for. -/
theorem Sound.answered?_of_not_awaits (hs : ch.Sound x c) (hapart : ch.Apart)
    (hq : ch.pushes.get? p = some q) (hr : q.ref = some r) (h : ¬ ch.Awaits p) :
    ch.answered? (Event.replyTo r) = none := by
  cases hfind : ch.answered? (Event.replyTo r) with
  | none => rfl
  | some p' => exact absurd (hs.eq_of_answered? hapart hq hr hfind ▸ awaits_of_answered? hfind) h

end Channel

namespace Socket

section Outside

variable {ω : Type} [Outside ω]
variable {s t u : Socket (Recorded ω)} {c : ChannelId} {ch : Channel} {p : PushId} {q : Push}
variable {r : Ref} {payload : Payload} {reply : Reply}

/-- The reply that the hook of a channel leaves of an answer; none if it withholds the answer, or makes
something else of it. -/
def readsAs (s : Socket (Recorded ω)) (ch : Channel) (event : String) (answer : Reply) : Option Reply :=
  (s.passHook ch event (.reply answer.status answer.response) none).1.bind Payload.reply?

/-- Without a hook an answer is left as it is. -/
theorem readsAs_of_unhooked (s : Socket (Recorded ω)) (h : ch.hook = none) (event : String)
    (answer : Reply) : s.readsAs ch event answer = some answer := by
  simp only [readsAs, passHook, h]
  rfl

variable [Obliging ω]

/-! ### The walk through the bindings -/

/-- Bindings of users, or what does not read as a reply. -/
theorem quiet_answers (dispatch : Dispatch (Recorded ω)) (hs : Sound s)
    (hc : s.channels.get? c = some ch) (ref joinRef : Option Ref) {l : List Binding}
    (hl : ∀ b ∈ l, b ∈ ch.bindings ∧ b.event = Event.replyTo r)
    (h : l.findSome? Binding.resolves? = none ∨ payload.reply? = none) :
    Quiet s ((l.map (·.number)).foldl
      (runBinding dispatch c ⟨Event.replyTo r, payload, ref, joinRef⟩) s) := by
  have hch := hs.channels hc
  refine quiet_walk dispatch c _ _ s fun {ch'} hc' b hb hevent hnumber => ?_
  rw [hc] at hc'
  cases hc'
  obtain ⟨b', hb', hnum⟩ := List.mem_map.mp hnumber
  obtain rfl : b' = b := List.inj_on_of_nodup_map hch.distinct (hl b' hb').1 hb hnum
  rcases hch.listens hb hevent with hlistens | ⟨p, _, ht, _, _⟩
  · exact .inl hlistens
  · refine .inr ⟨p, ht, h.resolve_left fun hnone => ?_⟩
    have := List.findSome?_eq_none_iff.mp hnone b' hb'
    rw [Binding.resolves?_eq_some.mpr ht] at this
    cases this

/-- The first binding that resolves a push does so, and the others do nothing. -/
theorem resolves_answers (n : Nat) (hs : Sound s) (hc : s.channels.get? c = some ch)
    (ref joinRef : Option Ref) {l : List Binding} (hnodup : (l.map (·.number)).Nodup)
    (hl : ∀ b ∈ l, b ∈ ch.bindings ∧ b.event = Event.replyTo r)
    (hp : l.findSome? Binding.resolves? = some p) (hreply : payload.reply? = some reply) :
    ∃ u q, Quiet s u ∧ ch.pushes.get? p = some q ∧ q.ref = some r ∧
      Quiet (u.resolvePush (dispatchTo n) c p reply) ((l.map (·.number)).foldl
        (runBinding (dispatchTo n) c ⟨Event.replyTo r, payload, ref, joinRef⟩) s) := by
  obtain ⟨before, b, after, rfl, hb, hbefore⟩ := List.findSome?_eq_some_iff.mp hp
  have ht := Binding.resolves?_eq_some.mp hb
  obtain ⟨hmem, hevent⟩ := hl b (by simp)
  -- What stands before it belongs to users.
  set u := (before.map (·.number)).foldl
    (runBinding (dispatchTo n) c ⟨Event.replyTo r, payload, ref, joinRef⟩) s with hu
  have hfirst : Quiet s u := quiet_answers (dispatchTo n) hs hc ref joinRef
    (fun b hb => hl b (List.mem_append_left _ hb)) (.inl (List.findSome?_eq_none_iff.mpr hbefore))
  have hsu := hs.quiet hfirst
  have hcu : u.channels.get? c = some ch := (hfirst.get? c).trans hc
  have hch := hsu.channels hcu
  obtain ⟨q, hq, hr⟩ : ∃ q, ch.pushes.get? p = some q ∧ q.ref = some r := by
    rcases hch.listens hmem hevent with ⟨l, hlistens⟩ | ⟨p', q, ht', hq, hr⟩
    · rw [hlistens] at ht
      cases ht
    · rw [ht] at ht'
      cases ht'
      exact ⟨q, hq, hr⟩
  have hfind : ch.binding? (Event.replyTo r) b.number = some b :=
    hevent ▸ Channel.binding?_of_mem hch.distinct hmem
  have hstep : runBinding (dispatchTo n) c ⟨Event.replyTo r, payload, ref, joinRef⟩ u b.number =
      u.resolvePush (dispatchTo n) c p reply := by
    simp only [runBinding, hcu, Option.bind_some, hfind, runTarget, ht, hreply]
  -- Of what stands behind it nothing has an effect any more.
  have hnot : ¬ b.Inert payload := by
    rintro (⟨l, hlistens⟩ | ⟨_, _, hnone⟩)
    · rw [hlistens] at ht
      cases ht
    · rw [hreply] at hnone
      cases hnone
  have hvoices : (Prompt.reply r payload).Voices (c ∈ u.order) (ch.hook ≠ none) b.event payload ref :=
    .inr ⟨hevent, fun _ => rfl⟩
  obtain ⟨_, hrest⟩ := moves_runTarget (level_dispatchTo n) hsu hcu hmem joinRef hnot hvoices
  have htarget : u.runTarget (dispatchTo n) c ⟨b.event, payload, ref, joinRef⟩ b.target =
      u.resolvePush (dispatchTo n) c p reply := by
    simp only [runTarget, ht, hreply]
  rw [htarget] at hrest
  refine ⟨u, q, hfirst, hq, hr, ?_⟩
  rw [List.map_append, List.foldl_append, List.map_cons, List.foldl_cons, ← hu, hstep]
  refine quiet_walk (dispatchTo n) c _ _ _ fun hc' b' hb' hevent' hnumber => ?_
  obtain ⟨b'', hb'', hnum⟩ := List.mem_map.mp hnumber
  have hmem'' := (hl b'' (by simp [hb''])).1
  rw [List.map_append, List.map_cons] at hnodup
  have hfresh := (List.nodup_cons.mp (List.nodup_append.mp hnodup).2.1).1
  refine hrest hc' b' hb' (hevent'.trans hevent.symm) (fun heq => ?_) ?_
  · exact hfresh (heq ▸ hnum ▸ List.mem_map_of_mem hb'')
  · exact hnum ▸ hch.numbers b'' hmem''

/-- An answer is dispatched: what the hook leaves of it resolves the push that is listened for, or has
no effect. -/
theorem dispatchTo_answer (n : Nat) (hs : Sound s) (hc : s.channels.get? c = some ch) (r : Ref)
    (payload : Payload) (ref joinRef : Option Ref) :
    (ch.answered? (Event.replyTo r) = none ∨
        (s.passHook ch (Event.replyTo r) payload ref).1.bind Payload.reply? = none →
      Quiet s (dispatchTo (n + 1) c (Event.replyTo r) payload ref joinRef s)) ∧
    ∀ {p reply}, ch.answered? (Event.replyTo r) = some p →
      (s.passHook ch (Event.replyTo r) payload ref).1.bind Payload.reply? = some reply →
      ∃ u q, Quiet s u ∧ ch.pushes.get? p = some q ∧ q.ref = some r ∧
        Quiet (u.resolvePush (dispatchTo n) c p reply)
          (dispatchTo (n + 1) c (Event.replyTo r) payload ref joinRef s) := by
  have hhook := quiet_passHook s ch (Event.replyTo r) payload ref
  rcases hpass : s.passHook ch (Event.replyTo r) payload ref with ⟨_ | word, s₁⟩
  · rw [hpass] at hhook
    have heq : dispatchTo (n + 1) c (Event.replyTo r) payload ref joinRef s = s₁ := by
      simp only [dispatchTo, dispatchWith, hc, hpass]
    rw [heq]
    exact ⟨fun _ => hhook, fun _ hnone => by simp at hnone⟩
  · rw [hpass] at hhook
    have hc₁ : s₁.channels.get? c = some ch := (hhook.get? c).trans hc
    have hs₁ := hs.quiet hhook
    set l := ch.bindings.filter fun b => b.event == Event.replyTo r with hl
    have heq : dispatchTo (n + 1) c (Event.replyTo r) payload ref joinRef s =
        (l.map (·.number)).foldl (runBinding (dispatchTo n) c
          ⟨Event.replyTo r, word, ref, joinRef <|> ch.joinRef⟩) s₁ := by
      simp only [dispatchTo, dispatchWith, hc, hpass, runBindings, hc₁]
      rfl
    have hmem : ∀ b ∈ l, b ∈ ch.bindings ∧ b.event = Event.replyTo r := fun b hb => by
      rw [hl, List.mem_filter, beq_iff_eq] at hb
      exact hb
    have hnodup : (l.map (·.number)).Nodup :=
      (hs.channels hc).distinct.sublist (List.filter_sublist.map _)
    rw [heq]
    simp only [Option.bind_some]
    refine ⟨fun hidle => hhook.trans (quiet_answers (dispatchTo n) hs₁ hc₁ ref _ hmem hidle),
      fun hp hreply => ?_⟩
    obtain ⟨u, q, hu, hq, hr, hrest⟩ := resolves_answers n hs₁ hc₁ ref _ hnodup hmem hp hreply
    exact ⟨u, q, hhook.trans hu, hq, hr, hrest⟩

/-! ### A push is resolved -/

/-- A push is resolved: its callers are answered, and what waits for the status runs in its order, up to
where the channel is forgotten. -/
structure Resolves (c : ChannelId) (p : PushId) (q : Push) (reply : Reply) (s t : Socket (Recorded ω)) :
    Prop where
  said : ∃ es ran, t.log = s.log ++ es ∧
    es.filter Effect.saysReply = settled c p q reply ++ ran ∧ ran <+: q.runs c p reply ∧
    (t.channels.contains c = true → ran = q.runs c p reply)
  received : p ≠ joinPush → ∀ q', t.push? c p = some q' → q'.received = some reply

omit [Outside ω] [Obliging ω] in
theorem Resolves.quiet_left (h : Resolves c p q reply u t) (hq : Quiet s u) : Resolves c p q reply s t :=
  ⟨by rw [← hq.log_eq.trans (List.append_nil _)]; exact h.said, h.received⟩

omit [Outside ω] [Obliging ω] in
theorem Resolves.quiet_right (h : Resolves c p q reply s u) (hq : Quiet u t) :
    Resolves c p q reply s t := by
  obtain ⟨es, ran, hlog, hes, hran, hall⟩ := h.said
  refine ⟨⟨es, ran, (hq.log_eq.trans (List.append_nil _)).trans hlog, hes, hran, ?_⟩, ?_⟩
  · rw [hq.channels_eq]
    exact hall
  · rw [hq.push? c p]
    exact h.received

/-- What waits at one place for the reply to a push other than the join runs, and the push stays unless
the channel is forgotten. -/
theorem says_runReplyHook {dispatch : Dispatch (Recorded ω)} (hl : Level dispatch) (hs : Sound s)
    (hother : p ≠ joinPush) (reply : Reply) (hq : s.push? c p = some q) (i : Nat) :
    Sound (runReplyHook dispatch c p reply s i) ∧
      (runReplyHook dispatch c p reply s i).log = s.log ++ runsAt c p reply q.hooks[i]? ∧
      ((runReplyHook dispatch c p reply s i).push? c p = some q ∨
        (runReplyHook dispatch c p reply s i).channels.get? c = none) := by
  obtain ⟨ch, hc, hp⟩ := push?_eq_some.mp hq
  rw [runReplyHook_eq dispatch hq]
  cases hhook : q.hooks[i]? with
  | none => exact ⟨hs, (List.append_nil _).symm, .inl hq⟩
  | some entry =>
    obtain ⟨status, hook⟩ := entry
    by_cases hstatus : status == reply.status
    · simp only [hstatus, if_true, runsAt]
      have hturns := turns_perform s (.runReply c p hook reply)
      have hlog : (s.perform (.runReply c p hook reply)).log =
          s.log ++ [.runReply c p hook reply] := hturns.log_eq
      rcases (hs.channels hc).others hother hp _ (List.mem_of_getElem? hhook) with h | ⟨cb, h⟩
      · obtain rfl : hook = .channel .leaveDone := h
        have hs₁ := hs.turns hturns
        have hc₁ : (s.perform (.runReply c p (.channel .leaveDone) reply)).channels.get? c =
            some ch := hc
        rcases hl.close (.json (.string "leave")) hs₁ hc₁ with hquiet | hclose
        · refine ⟨hs₁.quiet hquiet, (hquiet.log_eq.trans (List.append_nil _)).trans hlog, .inl ?_⟩
          exact (hquiet.push? c p).trans hq
        · have hmove : Move .failure c (s.perform (.runReply c p (.channel .leaveDone) reply))
              (dispatch c Event.close (.json (.string "leave")) none none
                (s.perform (.runReply c p (.channel .leaveDone) reply))) := .closed hc₁ hclose
          refine ⟨hmove.sound hs₁, hclose.log_eq.trans hlog, ?_⟩
          have hget := hclose.get?_self
          split at hget
          · exact .inr hget
          · exact .inl (push?_eq_some.mpr ⟨_, hget, hp⟩)
      · obtain rfl : hook = .callback cb := h
        exact ⟨hs.turns hturns, hlog, .inl hq⟩
    · simp only [hstatus, runsAt]
      exact ⟨hs, (List.append_nil _).symm, .inl hq⟩

omit [Obliging ω] in
/-- Nothing waits for the reply to a push that is gone. -/
theorem foldl_runReplyHook_of_none (dispatch : Dispatch (Recorded ω)) (hq : s.push? c p = none)
    (places : List Nat) : places.foldl (runReplyHook dispatch c p reply) s = s := by
  induction places with
  | nil => rfl
  | cons i places ih => rw [List.foldl_cons, runReplyHook_of_none dispatch hq, ih]

/-- What runs because of the reply to a push other than the join: all of it, unless the channel is
forgotten meanwhile. -/
theorem says_others {dispatch : Dispatch (Recorded ω)} (hl : Level dispatch) (hs : Sound s)
    (hother : p ≠ joinPush) (reply : Reply) (hq : s.push? c p = some q) (places : List Nat) :
    ∃ es ran, (places.foldl (runReplyHook dispatch c p reply) s).log = s.log ++ es ∧
      es.filter Effect.saysReply = ran ∧ ran <+: places.flatMap (fun i => runsAt c p reply q.hooks[i]?) ∧
      ((places.foldl (runReplyHook dispatch c p reply) s).channels.contains c = true →
        ran = places.flatMap fun i => runsAt c p reply q.hooks[i]?) := by
  induction places generalizing s with
  | nil => exact ⟨[], [], (List.append_nil _).symm, rfl, List.prefix_rfl, fun _ => rfl⟩
  | cons i places ih =>
    obtain ⟨hsound, hlog, hkept⟩ := says_runReplyHook hl hs hother reply hq i
    rw [List.foldl_cons, List.flatMap_cons]
    rcases hkept with hq' | hgone
    · obtain ⟨es, ran, hes, hran, hprefix, hall⟩ := ih hsound hq'
      refine ⟨runsAt c p reply q.hooks[i]? ++ es, runsAt c p reply q.hooks[i]? ++ ran, ?_, ?_, ?_, ?_⟩
      · rw [hes, hlog, List.append_assoc]
      · rw [List.filter_append, saysReply_runsAt, hran]
      · exact (List.prefix_append_right_inj _).mpr hprefix
      · exact fun hthere => congrArg _ (hall hthere)
    · rw [foldl_runReplyHook_of_none dispatch (by simp only [push?, hgone, Option.bind_none])]
      refine ⟨_, _, hlog, saysReply_runsAt _, List.prefix_append _ _, fun hthere => ?_⟩
      obtain ⟨_, hget⟩ := (Table.contains_iff _ _).mp hthere
      rw [hgone] at hget
      cases hget

omit [Outside ω] [Obliging ω] in
theorem contains_of_releasePush (h : (s.releasePush c p).channels.contains c = true) :
    s.channels.contains c = true := by
  unfold releasePush at h
  split at h
  · exact h
  · split at h
    · exact h
    · split at h
      · obtain ⟨ch', hc'⟩ := (Table.contains_iff _ _).mp h
        simp only [modifyChannel, Table.get?_modify, if_true] at hc'
        obtain ⟨ch, hc, _⟩ := Option.map_eq_some_iff.mp hc'
        exact (Table.contains_iff _ _).mpr ⟨ch, hc⟩
      · exact h

omit [Outside ω] [Obliging ω] in
/-- A push that is resolved is forgotten, or stays what it is. -/
theorem push?_releasePush {q' : Push} (h : (s.releasePush c p).push? c p = some q') :
    s.push? c p = some q' := by
  unfold releasePush at h
  split at h
  · exact h
  · split at h
    · exact h
    · split at h
      · obtain ⟨ch', hc', hp'⟩ := push?_eq_some.mp h
        simp only [modifyChannel, Table.get?_modify, if_true] at hc'
        obtain ⟨ch, hc, rfl⟩ := Option.map_eq_some_iff.mp hc'
        simp only [Channel.dropBindings?_pushes, Table.get?_erase, if_true] at hp'
        cases hp'
      · exact h

/-- A push keeps the reply that it has while something runs because of it. -/
theorem received_runReplyHooks {dispatch : Dispatch (Recorded ω)} (hl : Level dispatch) (hs : Sound s)
    (hother : p ≠ joinPush) (h : ∀ q, s.push? c p = some q → q.received = some reply)
    (places : List Nat) : ∀ q, (places.foldl (runReplyHook dispatch c p reply) s).push? c p = some q →
      q.received = some reply := by
  induction places generalizing s with
  | nil => exact h
  | cons i places ih =>
    obtain ⟨hmoves, h'⟩ := moves_runReplyHook (k := .failure) hl hs hother h i
    exact ih (hmoves.sound hs) h'

/-- To resolve a push says its reply to its callers and to what waits for the status. -/
theorem resolves_resolvePush (n : Nat) (hs : Sound s) (hc : s.channels.get? c = some ch)
    (hq : ch.pushes.get? p = some q) (hr : q.ref = some r) (hawaits : ch.Awaits p) (reply : Reply) :
    Resolves c p q reply s (s.resolvePush (dispatchTo n) c p reply) := by
  have hanswers : (Prompt.reply r (.reply reply.status reply.response)).Answers (c ∈ s.order) ch q
      reply := ⟨hr, fun _ => rfl⟩
  have hsettled := settled_settlePush hc hq hawaits hanswers
  set u := s.settlePush c p q reply with hu
  have hsu := hsettled.sound hs
  set q' : Push := { q with timer := q.timer.cancel, received := some reply, waiters := [] } with hq'
  have hqu : u.push? c p = some q' := hsettled.push?
  rw [resolvePush_eq hc hq, ← hu]
  refine ⟨?_, fun hother => ?_⟩
  · obtain ⟨es, ran, hes, hran, hprefix, hall⟩ : ∃ es ran,
        (u.runReplyHooks (dispatchTo n) c p reply q.hooks.length).log = u.log ++ es ∧
        es.filter Effect.saysReply = ran ∧ ran <+: q.runs c p reply ∧
        ((u.runReplyHooks (dispatchTo n) c p reply q.hooks.length).channels.contains c = true →
          ran = q.runs c p reply) := by
      by_cases hother : p = joinPush
      · have hq₁ : (ch.settle p q q.timer.cancel reply).pushes.get? p = some q' := by
          rw [Channel.settle_pushes, Table.get?_set_self]
        obtain ⟨es, hes, hran⟩ := says_runReplyHooks (dispatchTo n) hsu hqu
          (atMostOnce_of_plain (hsu.channels hsettled.works.get?) hq₁
            (fun hne => absurd hother hne) reply.status)
        exact ⟨es, _, hes, hran, List.prefix_rfl, fun _ => rfl⟩
      · have h := says_others (level_dispatchTo n) hsu hother reply hqu
          (List.range q'.hooks.length)
        rw [flatMap_runsAt] at h
        exact h
    refine ⟨settled c p q reply ++ es, ran, ?_, ?_, hprefix, fun hthere => hall ?_⟩
    · rw [log_releasePush, hes, hsettled.works.log_eq, List.append_assoc]
    · rw [List.filter_append, saysReply_settled, hran]
    · exact contains_of_releasePush hthere
  · have hfirst : ∀ q₁, u.push? c p = some q₁ → q₁.received = some reply := fun q₁ hq₁ => by
      rw [hqu] at hq₁
      cases hq₁
      rfl
    exact fun q₁ hq₁ => received_runReplyHooks (level_dispatchTo n) hsu hother hfirst _ q₁
      (push?_releasePush hq₁)

/-! ### A channel answers a push -/

/-- What an answer to a push comes to: it resolves the push that is listened for under its name with what
the hook leaves of it, or nothing becomes of it. -/
structure Answers (c : ChannelId) (ch : Channel) (q : Push) (answer : Reply)
    (s t : Socket (Recorded ω)) : Prop where
  resolves : ∀ {p reply}, q.refEvent.bind ch.answered? = some p →
    (q.refEvent.bind fun event => s.readsAs ch event answer) = some reply →
    ∃ q', ch.pushes.get? p = some q' ∧ q'.ref = q.ref ∧ Resolves c p q' reply s t
  idle : q.refEvent.bind ch.answered? = none ∨
    (q.refEvent.bind fun event => s.readsAs ch event answer) = none → Quiet s t

/-- A channel answers a push of its own accord. -/
theorem answers_triggerPush (hs : Sound s) (hc : s.channels.get? c = some ch)
    (hq : ch.pushes.get? p = some q) (status : String) (response : Payload) :
    Answers c ch q ⟨status, response⟩ s (s.triggerPush c p status response) := by
  have hevent := (hs.channels hc).events hq
  cases hr : q.ref with
  | none =>
    have hnone : q.refEvent = none := by rw [hevent, hr, Option.map_none]
    have heq : s.triggerPush c p status response = s := triggerPush_of_none (fun q' hq' => by
      obtain ⟨ch', hc', hp'⟩ := push?_eq_some.mp hq'
      rw [hc] at hc'
      cases hc'
      rw [hq] at hp'
      cases hp'
      exact hnone) status response
    rw [heq]
    exact ⟨fun h => by simp [hnone] at h, fun _ => .refl s⟩
  | some r =>
    have hsome : q.refEvent = some (Event.replyTo r) := by rw [hevent, hr, Option.map_some]
    have heq : s.triggerPush c p status response =
        dispatchTo 3 c (Event.replyTo r) (.reply status response) none none s := by
      simp only [triggerPush, push?_eq_some.mpr ⟨ch, hc, hq⟩, Option.bind_some, hsome]
      rfl
    obtain ⟨hidle, hresolves⟩ := dispatchTo_answer 2 hs hc r (.reply status response) none none
    rw [heq]
    refine ⟨fun {p' reply} hp' hreply => ?_, fun h => hidle ?_⟩
    · rw [hsome, Option.bind_some] at hp' hreply
      obtain ⟨u, q', hu, hq', hr', hrest⟩ := hresolves hp' hreply
      refine ⟨q', hq', hr'.trans hr.symm, ?_⟩
      have hresolved := resolves_resolvePush 2 (hs.quiet hu) ((hu.get? c).trans hc) hq' hr'
        (Channel.awaits_of_answered? hp') reply
      exact (hresolved.quiet_left hu).quiet_right hrest
    · rw [hsome] at h
      exact h

end Outside

end Socket

end Switchboard
