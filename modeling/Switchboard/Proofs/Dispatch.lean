import Switchboard.Proofs.Sending

/-!
# Dispatch is made of moves

An event of a channel passes the hook and walks through the bindings of its name.  Callbacks and
streams change nothing in the channels, and among the bindings of one name at most one has another
effect: when a push is resolved, all bindings of its event are dropped at once, and those that are
added meanwhile have fresh numbers and are not walked through.

Main definitions

* `Binding.Inert`: a binding through which a payload has no effect on channels;
* `Prompt.Voices`: an event is dispatched because of a prompt;
* `Socket.Level`: what a dispatch does to nested events.

Main results

* `Socket.dispatchWith_cases`: an event reaches one binding that has an effect, or none;
* `Socket.moves_resolvePush`: to resolve a push is a sequence of moves;
* `Socket.level_dispatchTo`: so is every dispatch, and to dispatch the closing closes the channel.
-/

set_option autoImplicit false

namespace Switchboard

/-- A binding through which a payload has no effect on channels. -/
def Binding.Inert (b : Binding) (payload : Payload) : Prop :=
  b.IsListener ∨ ∃ p, b.target = .resolve p ∧ payload.reply? = none

/-- An event is dispatched because of a prompt, with its payload unless there is a hook. -/
def Prompt.Voices (k : Prompt) (registered hooked : Prop) (event : String) (payload : Payload)
    (ref : Option Ref) : Prop :=
  event = Event.close ∨
    match k with
    | .message m => registered ∧ (¬ hooked → payload = m.payload) ∧
        (event = m.event ∧ ref = m.ref ∨
          m.event = Event.reply ∧ ∃ r, m.ref = some r ∧ event = Event.replyTo r)
    | .reply r payload₀ => event = Event.replyTo r ∧ (¬ hooked → payload = payload₀)
    | .failure => registered ∧ event = Event.error
    | .op _ => False

namespace Prompt

variable {k : Prompt} {registered hooked : Prop} {event : String} {payload payload' : Payload}
variable {ref : Option Ref}

theorem Voices.of_payload (h : k.Voices registered hooked event payload ref)
    (hp : ¬ hooked → payload' = payload) : k.Voices registered hooked event payload' ref := by
  rcases h with h | h
  · exact .inl h
  · refine .inr ?_
    cases k with
    | op op => exact h
    | message m => exact ⟨h.1, fun hh => (hp hh).trans (h.2.1 hh), h.2.2⟩
    | failure => exact h
    | reply r payload₀ => exact ⟨h.1, fun hh => (hp hh).trans (h.2 hh)⟩

/-- Replies are dispatched a second time, under the event of the push that they name. -/
theorem Voices.redirect {r : Ref} {ref' : Option Ref}
    (h : k.Voices registered hooked Event.reply payload (some r)) :
    k.Voices registered hooked (Event.replyTo r) payload ref' := by
  rcases h with h | h
  · exact absurd h (by decide)
  · refine .inr ?_
    cases k with
    | op op => exact h
    | message m =>
      refine ⟨h.1, h.2.1, .inr ?_⟩
      rcases h.2.2 with ⟨hevent, href⟩ | ⟨_, r', _, hr'⟩
      · exact ⟨hevent.symm, r, href.symm, rfl⟩
      · exact absurd hr'.symm (Event.replyTo_ne_reply r')
    | failure => exact absurd h.2 (by decide)
    | reply r' payload₀ => exact absurd h.1.symm (Event.replyTo_ne_reply r')

/-- Only a registered channel is told that it has failed. -/
theorem Voices.listed (h : k.Voices registered hooked Event.error payload ref) :
    registered := by
  rcases h with h | h
  · exact absurd h (by decide)
  · cases k with
    | op op => exact h.elim
    | message m => exact h.1
    | failure => exact h.1
    | reply r payload₀ => exact absurd h.1.symm (Event.replyTo_ne_error r)

theorem Voices.not_op_error (h : k.Voices registered hooked Event.error payload ref)
    (op : ChannelOp) : k ≠ .op op := by
  rintro rfl
  rcases h with h | h
  · exact absurd h (by decide)
  · exact h

theorem Voices.not_op_reply (h : k.Voices registered hooked Event.reply payload ref)
    (op : ChannelOp) : k ≠ .op op := by
  rintro rfl
  rcases h with h | h
  · exact absurd h (by decide)
  · exact h

/-- An event that resolves a push answers it. -/
theorem Voices.answers {x : Exchange} {c : ChannelId} {ch : Channel} {p : PushId} {q : Push}
    {reply : Reply} (h : k.Voices registered (ch.hook ≠ none) event payload ref)
    (hs : ch.Sound x c) (hq : ch.pushes.get? p = some q) (he : q.refEvent = some event)
    (hr : payload.reply? = some reply) : k.Answers registered ch q reply := by
  obtain ⟨r, hqr, rfl⟩ : ∃ r, q.ref = some r ∧ Event.replyTo r = event := by
    rw [hs.events hq, Option.map_eq_some_iff] at he
    exact he
  rcases h with h | h
  · exact absurd h (Event.replyTo_ne_close r)
  · cases k with
    | op op => exact h
    | message m =>
      refine ⟨h.1, fun hh => ?_, r, hqr, ?_⟩
      · rw [← h.2.1 (not_not.mpr hh)]
        exact hr
      · rcases h.2.2 with ⟨hevent, _⟩ | ⟨hevent, r', hr', heq⟩
        · exact .inl hevent.symm
        · rw [← Event.replyTo_injective heq] at hr'
          exact .inr ⟨hevent, hr'⟩
    | failure => exact absurd h.2 (Event.replyTo_ne_error r)
    | reply r' payload₀ =>
      refine ⟨Event.replyTo_injective h.1 ▸ hqr, fun hh => ?_⟩
      rw [← h.2 (not_not.mpr hh)]
      exact hr

/-- What a handle asks for is no answer. -/
theorem Answers.not_op {ch : Channel} {q : Push} {reply : Reply}
    (h : k.Answers registered ch q reply) (op : ChannelOp) : k ≠ .op op := by
  rintro rfl
  exact h

end Prompt

namespace Socket

variable {ω : Type} {s t u : Socket (Recorded ω)} {k : Prompt} {c d : ChannelId}
variable {ch ch' : Channel} {p : PushId} {q : Push} {es : List Effect}

section Outside

variable [Outside ω] [Obliging ω]

/-! ### One walk through the bindings -/

theorem quiet_runTarget (dispatch : Dispatch (Recorded ω)) (c : ChannelId) (event : InboundEvent)
    {b : Binding} (hb : b.Inert event.payload) (s : Socket (Recorded ω)) :
    Quiet s (s.runTarget dispatch c event b.target) := by
  rcases hb with ⟨l, hl⟩ | ⟨p, hp, hreply⟩
  · rw [hl]
    cases l with
    | callback callback => exact quiet_perform s rfl
    | stream stream => exact quiet_perform s rfl
  · rw [hp]
    simp only [runTarget, hreply]
    exact .refl s

/-- A walk that meets only inert bindings. -/
theorem quiet_walk (dispatch : Dispatch (Recorded ω)) (c : ChannelId) (event : InboundEvent)
    (numbers : List BindingId) (s : Socket (Recorded ω))
    (h : ∀ {ch}, s.channels.get? c = some ch → ∀ b ∈ ch.bindings, b.event = event.event →
      b.number ∈ numbers → b.Inert event.payload) :
    Quiet s (numbers.foldl (runBinding dispatch c event) s) := by
  induction numbers generalizing s with
  | nil => exact .refl s
  | cons n rest ih =>
    have hstep : Quiet s (s.runBinding dispatch c event n) := by
      unfold runBinding
      split
      · rename_i b hb
        obtain ⟨ch, hc, hfind⟩ := Option.bind_eq_some_iff.mp hb
        have hmem := List.mem_of_find?_eq_some hfind
        have hmatch := List.find?_some hfind
        simp only [Bool.and_eq_true, beq_iff_eq] at hmatch
        exact quiet_runTarget dispatch c event (h hc b hmem hmatch.2 (by simp [hmatch.1])) s
      · exact .refl s
    refine hstep.trans (ih _ ?_)
    intro ch hc b hmem hevent hnum
    exact h (hstep.get? c ▸ hc) b hmem hevent (List.mem_cons_of_mem _ hnum)

/-- A walk meets only inert bindings, or a first one that has an effect. -/
theorem walk_cases (dispatch : Dispatch (Recorded ω)) (event : InboundEvent)
    (numbers : List BindingId) (hc : s.channels.get? c = some ch) :
    (Quiet s (numbers.foldl (runBinding dispatch c event) s) ∧
      ∀ b ∈ ch.bindings, b.event = event.event → b.number ∈ numbers →
        (∀ b' ∈ ch.bindings, b'.number = b.number → b' = b) → b.Inert event.payload) ∨
    ∃ t b post, Quiet s t ∧ b ∈ ch.bindings ∧ b.event = event.event ∧ ¬ b.Inert event.payload ∧
      (b.number :: post) <:+ numbers ∧
      numbers.foldl (runBinding dispatch c event) s =
        post.foldl (runBinding dispatch c event) (t.runTarget dispatch c event b.target) := by
  induction numbers generalizing s with
  | nil => exact .inl ⟨.refl s, by simp⟩
  | cons n rest ih =>
    rw [List.foldl_cons]
    cases hb : ch.binding? event.event n with
    | none =>
      have hstep : s.runBinding dispatch c event n = s := by
        simp only [runBinding, hc, Option.bind_some, hb]
      rw [hstep]
      rcases ih hc with ⟨hq, hinert⟩ | ⟨t, b, post, ht, hmem, hevent, hnot, hsuf, heq⟩
      · refine .inl ⟨hq, fun b hmem hevent hnum huniq => ?_⟩
        rcases List.mem_cons.mp hnum with hnum | hnum
        · have := List.find?_eq_none.mp hb b hmem
          simp [hnum, hevent] at this
        · exact hinert b hmem hevent hnum huniq
      · exact .inr ⟨t, b, post, ht, hmem, hevent, hnot, hsuf.trans (List.suffix_cons _ _), heq⟩
    | some b =>
      have hmem := List.mem_of_find?_eq_some hb
      have hmatch := List.find?_some hb
      simp only [Bool.and_eq_true, beq_iff_eq] at hmatch
      have hstep : s.runBinding dispatch c event n = s.runTarget dispatch c event b.target := by
        simp only [runBinding, hc, Option.bind_some, hb]
      rw [hstep]
      by_cases hinert : b.Inert event.payload
      · have hq := quiet_runTarget dispatch c event hinert s
        rcases ih (hq.get? c ▸ hc) with ⟨hq', hall⟩ | ⟨t, b', post, ht, hb'⟩
        · refine .inl ⟨hq.trans hq', fun b' hmem' hevent' hnum' huniq => ?_⟩
          rcases List.mem_cons.mp hnum' with hnum' | hnum'
          · rw [← huniq b hmem (hmatch.1.trans hnum'.symm)]
            exact hinert
          · exact hall b' hmem' hevent' hnum' huniq
        · refine .inr ⟨t, b', post, hq.trans ht, hb'.1, hb'.2.1, hb'.2.2.1, ?_, hb'.2.2.2.2⟩
          exact hb'.2.2.2.1.trans (List.suffix_cons _ _)
      · exact .inr ⟨s, b, rest, .refl s, hmem, hmatch.2, hinert, by simp [hmatch.1], rfl⟩

/-! ### The hook -/

theorem quiet_passHook (s : Socket (Recorded ω)) (ch : Channel) (event : String)
    (payload : Payload) (ref : Option Ref) : Quiet s (s.passHook ch event payload ref).2 := by
  unfold passHook
  split
  · exact .refl s
  · rename_i hook _
    have hq : Quiet s { s with
        exchange := (Outside.hook hook event payload ref s.exchange s.outside).2.1
        outside := (Outside.hook hook event payload ref s.exchange s.outside).2.2 } :=
      ⟨rfl, rfl, (Obliging.hook hook event payload ref s.exchange s.outside.outside).evolves,
        (List.append_nil _).symm⟩
    dsimp only
    split
    · exact hq
    · split
      · exact hq.trans (quiet_report _ _)
      · exact hq

omit [Obliging ω] in
theorem passHook_of_none (s : Socket (Recorded ω)) {ch : Channel} (h : ch.hook = none)
    (event : String) (payload : Payload) (ref : Option Ref) :
    s.passHook ch event payload ref = (some payload, s) := by
  simp only [passHook, h]

/-- An event reaches no binding that has an effect, or one after which the walk goes on. -/
theorem dispatchWith_cases (nested : Dispatch (Recorded ω)) (hs : Sound s)
    (hc : s.channels.get? c = some ch) (event : String) (payload : Payload)
    (ref joinRef : Option Ref) :
    (Quiet s (dispatchWith nested c event payload ref joinRef s) ∧
      (ch.hook ≠ none ∨ ∀ b ∈ ch.bindings, b.event = event → b.Inert payload)) ∨
    ∃ t b payload' joinRef', ∃ post : List BindingId, Quiet s t ∧ b ∈ ch.bindings ∧ b.event = event ∧
      ¬ b.Inert payload' ∧ (ch.hook = none → payload' = payload) ∧ b.number ∉ post ∧
      (∀ n ∈ post, s.exchange.Spent (.bindings c) n) ∧
      dispatchWith nested c event payload ref joinRef s =
        post.foldl (runBinding nested c ⟨event, payload', ref, joinRef'⟩)
          (t.runTarget nested c ⟨event, payload', ref, joinRef'⟩ b.target) := by
  have hq₁ := quiet_passHook s ch event payload ref
  have hch := hs.channels hc
  rcases hpass : s.passHook ch event payload ref with ⟨_ | payload', s₁⟩
  · rw [hpass] at hq₁
    refine .inl ⟨by simpa only [dispatchWith, hc, hpass] using hq₁, .inl fun hnone => ?_⟩
    rw [passHook_of_none s hnone] at hpass
    cases hpass
  · rw [hpass] at hq₁
    have hsame : ch.hook = none → payload' = payload := by
      intro hnone
      rw [passHook_of_none s hnone] at hpass
      cases hpass
      rfl
    have hc₁ : s₁.channels.get? c = some ch := hq₁.get? c ▸ hc
    set joinRef' := joinRef <|> ch.joinRef with hjoin
    have heq : dispatchWith nested c event payload ref joinRef s =
        (ch.bindingsOf event).foldl (runBinding nested c ⟨event, payload', ref, joinRef'⟩) s₁ := by
      simp only [dispatchWith, hc, hpass, runBindings, hc₁, ← hjoin]
    rw [heq]
    rcases walk_cases nested ⟨event, payload', ref, joinRef'⟩ (ch.bindingsOf event) hc₁ with
      ⟨hq₂, hinert⟩ | ⟨t, b, post, ht, hmem, hevent, hnot, hsuf, hwalk⟩
    · refine .inl ⟨hq₁.trans hq₂, ?_⟩
      by_cases hnone : ch.hook = none
      · refine .inr fun b hmem hevent => ?_
        rw [← hsame hnone]
        refine hinert b hmem hevent ?_ ?_
        · simp only [Channel.bindingsOf, List.mem_map, List.mem_filter, beq_iff_eq]
          exact ⟨b, ⟨hmem, hevent⟩, rfl⟩
        · exact fun b' hmem' hnum => List.inj_on_of_nodup_map hch.distinct hmem' hmem hnum
      · exact .inl hnone
    · have hsub : (ch.bindingsOf event).Sublist (ch.bindings.map (·.number)) :=
        List.filter_sublist.map _
      have hnodup : (b.number :: post).Nodup := (hch.distinct.sublist hsub).sublist hsuf.sublist
      refine .inr ⟨t, b, payload', joinRef', post, hq₁.trans ht, hmem, hevent, hnot, hsame,
        (List.nodup_cons.mp hnodup).1, ?_, hwalk⟩
      intro n hn
      have hnum : n ∈ ch.bindings.map (·.number) :=
        hsub.subset (hsuf.subset (List.mem_cons_of_mem _ hn))
      obtain ⟨b', hb', rfl⟩ := List.mem_map.mp hnum
      exact hch.numbers b' hb'

/-! ### The end of a leave -/

/-- To dispatch the closing closes the channel, unless a hook or a missing binding prevents it. -/
theorem dispatchWith_close (nested : Dispatch (Recorded ω)) (hs : Sound s)
    (hc : s.channels.get? c = some ch) (payload : Payload) (ref joinRef : Option Ref) :
    (Quiet s (dispatchWith nested c Event.close payload ref joinRef s) ∧
      (ch.hook ≠ none ∨ ⟨Event.close, 0, .close⟩ ∉ ch.bindings)) ∨
    Closes c ch s (dispatchWith nested c Event.close payload ref joinRef s) := by
  have hch := hs.channels hc
  rcases dispatchWith_cases nested hs hc Event.close payload ref joinRef with
    ⟨hq, hinert⟩ | ⟨t, b, payload', joinRef', post, ht, hmem, hevent, hnot, _, hpost, _, heq⟩
  · refine .inl ⟨hq, hinert.imp id fun h hmem => ?_⟩
    rcases h _ hmem rfl with ⟨l, hl⟩ | ⟨p, hp, _⟩
    · cases hl
    · cases hp
  · rw [heq]
    obtain rfl := hch.eq_close hmem hevent fun hl => hnot (.inl hl)
    have hcl := closes_closeChannel (ht.get? c ▸ hc)
    refine .inr ((hcl.of_quiet ht).quiet (quiet_walk nested c _ post _ ?_))
    -- The channel has the bindings that it had, or is gone.
    intro ch' hc' b' hb' hevent' hnum'
    rw [hcl.get?_self] at hc'
    split at hc'
    · cases hc'
    · cases hc'
      by_contra hnot'
      rw [hch.eq_close hb' hevent' fun hl => hnot' (.inl hl)] at hnum'
      exact hpost hnum'

/-! ### What waits for a reply -/

/-- A push has just been resolved: what the socket was before, and what it is now. -/
structure Settled (k : Prompt) (c : ChannelId) (p : PushId) (reply : Reply) (ch : Channel)
    (q : Push) (timer : TimerSlot) (s t : Socket (Recorded ω)) : Prop where
  channel : s.channels.get? c = some ch
  push : ch.pushes.get? p = some q
  awaits : ch.Awaits p
  unarmed : timer.armed = false
  answers : k.Answers (c ∈ s.order) ch q reply
  works : Works c (ch.settle p q timer reply) (settled c p q reply) s t

/-- What nested events do. -/
structure Level (dispatch : Dispatch (Recorded ω)) : Prop where
  moves : ∀ {k : Prompt} {s : Socket (Recorded ω)} {c : ChannelId} {ch : Channel} {event : String}
    {payload : Payload} {ref joinRef : Option Ref}, Sound s → s.channels.get? c = some ch →
    k.Voices (c ∈ s.order) (ch.hook ≠ none) event payload ref →
    Moves k c s (dispatch c event payload ref joinRef s)
  close : ∀ {s : Socket (Recorded ω)} {c : ChannelId} {ch : Channel} (payload : Payload), Sound s →
    s.channels.get? c = some ch → Quiet s (dispatch c Event.close payload none none s) ∨
      Closes c ch s (dispatch c Event.close payload none none s)

omit [Obliging ω] in
theorem runReplyHook_eq (dispatch : Dispatch (Recorded ω)) (hq : s.push? c p = some q)
    (reply : Reply) (i : Nat) :
    runReplyHook dispatch c p reply s i = match q.hooks[i]? with
      | none => s
      | some (status, hook) =>
        if status == reply.status then
          match hook with
          | .callback _ => s.perform (.runReply c p hook reply)
          | .channel reaction =>
            (s.perform (.runReply c p hook reply)).react dispatch c reaction
        else s := by
  cases hhook : q.hooks[i]? with
  | none => simp only [runReplyHook, hq, Option.bind_some, hhook]
  | some entry =>
    obtain ⟨status, hook⟩ := entry
    cases hook <;> simp only [runReplyHook, hq, Option.bind_some, hhook]

omit [Obliging ω] in
theorem runReplyHook_of_none (dispatch : Dispatch (Recorded ω)) (hq : s.push? c p = none)
    (reply : Reply) (i : Nat) : runReplyHook dispatch c p reply s i = s := by
  simp only [runReplyHook, hq, Option.bind_none]

/-- It is recorded that something ran because of the reply that a push has. -/
theorem moves_runReply (hc : s.channels.get? c = some ch) (hook : ReplyHook) (reply : Reply)
    (hr : p = joinPush ∨ ∃ q, ch.pushes.get? p = some q ∧ q.received = some reply ∧
      (reply.status, hook) ∈ q.hooks) :
    Move k c s (s.perform (.runReply c p hook reply)) := by
  refine .alter hc (.alike (.refl ch) ?_) ((turns_perform s _).works hc)
  intro e he
  obtain rfl := List.mem_singleton.mp he
  exact .hook hr

/-- What waits for the reply to a push other than the join: callbacks, and the end of a leave. -/
theorem moves_runReplyHook {dispatch : Dispatch (Recorded ω)} (hl : Level dispatch) (hs : Sound s)
    (hother : p ≠ joinPush) {reply : Reply}
    (hr : ∀ q, s.push? c p = some q → q.received = some reply) (i : Nat) :
    Moves k c s (runReplyHook dispatch c p reply s i) ∧
      ∀ q, (runReplyHook dispatch c p reply s i).push? c p = some q → q.received = some reply := by
  cases hq : s.push? c p with
  | none =>
    rw [runReplyHook_of_none dispatch hq]
    exact ⟨.refl, hr⟩
  | some q =>
    obtain ⟨ch, hc, hp⟩ := push?_eq_some.mp hq
    rw [runReplyHook_eq dispatch hq]
    split
    · exact ⟨.refl, hr⟩
    · rename_i status hook hhook
      split
      · rename_i hstatus
        have hw := turns_perform s (.runReply c p hook reply)
        have hmem : (reply.status, hook) ∈ q.hooks :=
          eq_of_beq hstatus ▸ List.mem_of_getElem? hhook
        have hmove : Move k c s (s.perform (.runReply c p hook reply)) :=
          moves_runReply hc hook reply (.inr ⟨q, hp, hr q hq, hmem⟩)
        have hpush : ∀ q, (s.perform (.runReply c p hook reply)).push? c p = some q →
            q.received = some reply := hr
        rcases (hs.channels hc).others hother hp _ (List.mem_of_getElem? hhook) with h | ⟨cb, h⟩
        · obtain rfl : hook = .channel .leaveDone := h
          have hs₁ := hs.turns hw
          have hc₁ : (s.perform (.runReply c p (.channel .leaveDone) reply)).channels.get? c =
              some ch := hc
          rcases hl.close (.json (.string "leave")) hs₁ hc₁ with hquiet | hclose
          · refine ⟨.tail (.single hmove) (.quiet hquiet), fun q' hq' => hpush q' ?_⟩
            exact hquiet.push? c p ▸ hq'
          · refine ⟨.tail (.single hmove) (.closed hc₁ hclose), fun q' hq' => ?_⟩
            obtain ⟨ch', hc', hp'⟩ := push?_eq_some.mp hq'
            replace hc' := hclose.get?_self.symm.trans hc'
            split at hc'
            · cases hc'
            · cases hc'
              exact hr q' (push?_eq_some.mpr ⟨ch, hc, hp'⟩)
        · obtain rfl : hook = .callback cb := h
          exact ⟨.single hmove, hpush⟩
      · exact ⟨.refl, hr⟩

omit [Outside ω] [Obliging ω] in
/-- A fold of steps that are moves and keep something. -/
theorem moves_foldl {α : Type} {f : Socket (Recorded ω) → α → Socket (Recorded ω)}
    (P : Socket (Recorded ω) → Prop) (l : List α)
    (step : ∀ t, ∀ a ∈ l, Sound t → P t → Moves k c t (f t a) ∧ P (f t a)) (hs : Sound s)
    (hP : P s) : Moves k c s (l.foldl f s) ∧ P (l.foldl f s) := by
  induction l generalizing s with
  | nil => exact ⟨.refl, hP⟩
  | cons a l ih =>
    obtain ⟨hmoves, hP'⟩ := step s a (by simp) hs hP
    obtain ⟨hmoves', hP''⟩ := ih (fun t b hb => step t b (List.mem_cons_of_mem _ hb))
      (hmoves.sound hs) hP'
    exact ⟨hmoves.trans hmoves', hP''⟩

theorem hooks_join {x : Exchange} (hs : ch.Sound x c) (hq : ch.pushes.get? joinPush = some q) :
    q.hooks[0]? = some (Status.ok, .channel .joinOk) ∧
      q.hooks[1]? = some (Status.error, .channel .joinError) ∧
      q.hooks[2]? = some (Status.timeout, .channel .joinTimeout) ∧
      ∀ i h, 3 ≤ i → q.hooks[i]? = some h → IsCallback h := by
  obtain ⟨q', hq', _, more, hmore, hcb⟩ := hs.join
  rw [hq] at hq'
  cases hq'
  rw [hmore]
  refine ⟨rfl, rfl, rfl, fun i h hi hget => ?_⟩
  rw [List.getElem?_append_right hi] at hget
  exact hcb h (List.mem_of_getElem? hget)

/-- Behind the reactions of the channel, only callbacks wait for the reply to the join. -/
theorem moves_runReplyHook_join (dispatch : Dispatch (Recorded ω)) (hs : Sound s) (reply : Reply)
    {i : Nat} (hi : 3 ≤ i) : Moves k c s (runReplyHook dispatch c joinPush reply s i) := by
  cases hq : s.push? c joinPush with
  | none => rw [runReplyHook_of_none dispatch hq]
  | some q =>
    obtain ⟨ch, hc, hp⟩ := push?_eq_some.mp hq
    rw [runReplyHook_eq dispatch hq]
    split
    · exact .refl
    · rename_i status hook hhook
      obtain ⟨cb, hcb⟩ := (hooks_join (hs.channels hc) hp).2.2.2 i _ hi hhook
      obtain rfl : hook = .callback cb := hcb
      split
      · exact .single (moves_runReply hc _ reply (.inl rfl))
      · exact .refl

/-! ### A push is resolved -/

theorem works_settlePush (hc : s.channels.get? c = some ch) (hp : ch.pushes.get? p = some q)
    (reply : Reply) :
    Works c (ch.settle p q q.timer.cancel reply) (settled c p q reply) s
      (s.settlePush c p q reply) := by
  have hw₁ := works_modifyPush hc hp fun q =>
    { q with timer := q.timer.cancel, received := some reply, waiters := [] }
  have hw₂ := hw₁.then_turns (turns_performAll _
    (q.waiters.map fun ticket => Effect.answer ticket (.reply c p reply)))
  have hw₃ := works_modifyChannel hw₂.get? fun ch => ch.dropBindings? q.refEvent
  have hw := (hw₂.trans hw₃).then_turns (turns_perform _ (.resolve c p q.ref reply))
  have hlog : (q.waiters.map fun ticket => Effect.answer ticket (.reply c p reply)).filter
      Effect.concernsPush = q.waiters.map fun ticket => Effect.answer ticket (.reply c p reply) := by
    refine List.filter_eq_self.mpr fun e he => ?_
    obtain ⟨ticket, _, rfl⟩ := List.mem_map.mp he
    rfl
  rw [hlog, List.append_nil, List.nil_append] at hw
  exact hw

omit [Outside ω] [Obliging ω] in
theorem Settled.sound {timer : TimerSlot} {reply : Reply}
    (h : Settled k c p reply ch q timer s t) (hs : Sound s) : Sound t :=
  hs.works h.channel h.works (((hs.channels h.channel).mono h.works.evolves).settle h.push _ _)
    (Channel.RefsKept.settle h.push _ _).from

omit [Outside ω] [Obliging ω] in
theorem Settled.push? {timer : TimerSlot} {reply : Reply}
    (h : Settled k c p reply ch q timer s t) : t.push? c p = some { q with
      timer := timer, received := some reply, waiters := [] } := by
  refine push?_eq_some.mpr ⟨_, h.works.get?, ?_⟩
  rw [Channel.settle_pushes, Table.get?_set_self]

/-- The moves of a push other than the join that has its reply. -/
theorem Settled.moves_other {dispatch : Dispatch (Recorded ω)} (hl : Level dispatch)
    {timer : TimerSlot} {reply : Reply} (h : Settled k c p reply ch q timer s t) (hs : Sound s)
    (hother : p ≠ joinPush) (count : Nat) :
    Move k c s t ∧ ∀ l, Moves l c t ((t.runReplyHooks dispatch c p reply count).releasePush c p) := by
  have hsettle : Move k c s t :=
    .alter h.channel (.settle hother h.push h.awaits h.unarmed h.answers) h.works
  refine ⟨hsettle, fun l => ?_⟩
  obtain ⟨hhooks, _⟩ := moves_foldl (k := l) (fun t => ∀ q, t.push? c p = some q →
      q.received = some reply) (List.range count)
    (fun t i _ hs hr => moves_runReplyHook hl hs hother hr i) (hsettle.sound hs)
    (fun q' hq' => by rw [h.push?] at hq'; cases hq'; rfl)
  exact hhooks.trans (moves_releasePush _ c p)

/-! ### The join is resolved -/

/-- The channel has joined, and sends what has waited. -/
theorem Settled.accepted {timer : TimerSlot} {reply : Reply}
    (h : Settled k c joinPush reply ch q timer s t) (hs : Sound s) (hstatus : reply.status = Status.ok)
    (hook : Effect) (hhook : hook = .runReply c joinPush (.channel .joinOk) reply) :
    Move k c s ((t.perform hook).acceptJoin c) ∧
      ∃ ch', ((t.perform hook).acceptJoin c).channels.get? c = some ch' ∧
        Kept s.exchange c (ch.settle joinPush q timer reply) ch' := by
  subst hhook
  have hturns := turns_perform t (.runReply c joinPush (.channel .joinOk) reply)
  have hw := h.works.then_turns hturns
  obtain ⟨v, hwv, hflush⟩ := flush_acceptJoin ((h.sound hs).turns hturns) hw.get?
  have hbuffer : (ch.settle joinPush q timer reply).buffer = ch.buffer :=
    Channel.dropBindings?_buffer _
  have hrejoin : (ch.settle joinPush q timer reply).rejoinTimer = ch.rejoinTimer :=
    Channel.dropBindings?_rejoinTimer _
  rw [hbuffer] at hflush
  have hjoined := hw.trans hwv
  rw [hrejoin, List.append_nil] at hjoined
  refine ⟨.accepted h.channel h.push h.awaits h.unarmed h.answers hstatus hjoined hflush, ?_⟩
  obtain ⟨ch', hc', hkept⟩ := hflush.kept hwv.get?
  refine ⟨ch', hc', .trans hjoined.evolves ?_ hkept⟩
  exact .of_sublist rfl (List.Sublist.refl _)

/-- The channel may not join. -/
theorem Settled.refused {timer : TimerSlot} {reply : Reply}
    (h : Settled k c joinPush reply ch q timer s t)
    (hook : Effect) (hhook : hook = .runReply c joinPush (.channel .joinError) reply) :
    Moves k c s (((t.perform hook).markErrored c).scheduleRejoinIfConnected c) ∧
      ∃ ch', (((t.perform hook).markErrored c).scheduleRejoinIfConnected c).channels.get? c =
        some ch' ∧ Kept s.exchange c (ch.settle joinPush q timer reply) ch' := by
  subst hhook
  have hw₁ := h.works.then_turns (turns_perform t (.runReply c joinPush (.channel .joinError) reply))
  have hw₂ := works_modifyChannel hw₁.get? fun ch => { ch with state := .errored }
  obtain ⟨ch', ha, _, hw₃⟩ := works_scheduleRejoinIfConnected hw₂.get? rfl
  have hw := hw₁.trans hw₂
  rw [List.append_nil] at hw
  have hmove : Move k c s _ :=
    .alter h.channel (.refused h.push h.awaits h.unarmed h.answers) hw
  refine ⟨.tail (.single hmove) (.alter hw₂.get? (.alike ha (by simp)) hw₃), ch', hw₃.get?, ?_⟩
  have hsame : Kept s.exchange c (ch.settle joinPush q timer reply)
      { ch.settle joinPush q timer reply with state := .errored } :=
    .of_sublist rfl (List.Sublist.refl _)
  exact .trans (.refl _) hsame ha.kept

/-- The join was not answered in time. -/
theorem Settled.abandoned {timer : TimerSlot} {reply : Reply}
    (h : Settled k c joinPush reply ch q timer s t) (hs : Sound s)
    (hook : Effect) (hhook : hook = .runReply c joinPush (.channel .joinTimeout) reply) :
    Moves k c s ((t.perform hook).abandonJoin c) ∧
      ∃ ch', ((t.perform hook).abandonJoin c).channels.get? c = some ch' ∧
        Kept s.exchange c (ch.settle joinPush q timer reply) ch' := by
  subst hhook
  have hturns := turns_perform t (.runReply c joinPush (.channel .joinTimeout) reply)
  have hw₁ := h.works.then_turns hturns
  obtain ⟨u, p, m, ch₁, q₁, ch₂, hfresh, hfree, hspent, hother, hstarts, hq₁, hw₂, ha, hw₃⟩ :=
    works_abandonJoin ((h.sound hs).turns hturns) hw₁.get?
  have hw := hw₁.trans hw₂
  rw [List.append_assoc] at hw
  have hfree' : ch.pushes.get? p = none := by
    rwa [Channel.settle_pushes, Table.get?_set_of_ne _ hother] at hfree
  have hmove : Move k c s u :=
    .alter h.channel (.abandoned h.push h.awaits h.unarmed h.answers
      (fun hspent => hfresh (hw₁.evolves.spent hspent)) hfree' hspent hother
      (hstarts.mono hw₁.evolves (.refl _)) hq₁) hw
  refine ⟨.tail (.single hmove) (.alter hw₂.get? (.alike ha (by simp)) hw₃), ch₂, hw₃.get?, ?_⟩
  have hkept := (hstarts.mono hw₁.evolves (.refl _)).kept
  refine .trans (.refl _) (.trans (.refl _) hkept ?_) ha.kept
  exact .of_sublist Channel.takeBack_hook Channel.takeBack_bindings

omit [Obliging ω] in
/-- A reaction of another status does not run. -/
theorem runReplyHook_mismatch (dispatch : Dispatch (Recorded ω)) {status : String}
    {hook : ReplyHook} {i : Nat} {reply : Reply}
    (h : ∀ q, s.push? c p = some q → q.hooks[i]? = some (status, hook))
    (hne : status ≠ reply.status) : runReplyHook dispatch c p reply s i = s := by
  cases hq : s.push? c p with
  | none => exact runReplyHook_of_none dispatch hq reply i
  | some q =>
    have hbeq : (status == reply.status) = false := beq_false_of_ne hne
    rw [runReplyHook_eq dispatch hq, h q hq]
    simp only [hbeq, Bool.false_eq_true, if_false]

omit [Obliging ω] in
/-- The reaction of the status runs. -/
theorem runReplyHook_match (dispatch : Dispatch (Recorded ω)) {reaction : Reaction} {i : Nat}
    {reply : Reply} (hq : s.push? c p = some q)
    (h : q.hooks[i]? = some (reply.status, .channel reaction)) :
    runReplyHook dispatch c p reply s i =
      (s.perform (.runReply c p (.channel reaction) reply)).react dispatch c reaction := by
  rw [runReplyHook_eq dispatch hq, h]
  simp only [beq_self_eq_true, if_true]

/-- What runs of the reactions of a channel to the reply to its join: at most one. -/
theorem Settled.joinReactions (dispatch : Dispatch (Recorded ω)) {timer : TimerSlot} {reply : Reply}
    (h : Settled k c joinPush reply ch q timer s t) (hs : Sound s) :
    Moves k c s ([0, 1, 2].foldl (runReplyHook dispatch c joinPush reply) t) ∧
      ∃ ch', ([0, 1, 2].foldl (runReplyHook dispatch c joinPush reply) t).channels.get? c =
        some ch' ∧ Kept s.exchange c (ch.settle joinPush q timer reply) ch' := by
  -- In every state the first three places are the reactions to `ok`, `error` and `timeout`.
  have places : ∀ {v : Socket (Recorded ω)} {q'}, Sound v → v.push? c joinPush = some q' →
      q'.hooks[0]? = some (Status.ok, .channel .joinOk) ∧
      q'.hooks[1]? = some (Status.error, .channel .joinError) ∧
      q'.hooks[2]? = some (Status.timeout, .channel .joinTimeout) := by
    intro v q' hv hq'
    obtain ⟨ch', hc', hp'⟩ := push?_eq_some.mp hq'
    obtain ⟨h₀, h₁, h₂, _⟩ := hooks_join (hv.channels hc') hp'
    exact ⟨h₀, h₁, h₂⟩
  have hst := h.sound hs
  obtain ⟨h₀, h₁, h₂⟩ := places hst h.push?
  have skip₀ : ∀ {v : Socket (Recorded ω)}, Sound v → Status.ok ≠ reply.status →
      runReplyHook dispatch c joinPush reply v 0 = v :=
    fun hv => runReplyHook_mismatch dispatch fun q hq => (places hv hq).1
  have skip₁ : ∀ {v : Socket (Recorded ω)}, Sound v → Status.error ≠ reply.status →
      runReplyHook dispatch c joinPush reply v 1 = v :=
    fun hv => runReplyHook_mismatch dispatch fun q hq => (places hv hq).2.1
  have skip₂ : ∀ {v : Socket (Recorded ω)}, Sound v → Status.timeout ≠ reply.status →
      runReplyHook dispatch c joinPush reply v 2 = v :=
    fun hv => runReplyHook_mismatch dispatch fun q hq => (places hv hq).2.2
  simp only [List.foldl_cons, List.foldl_nil]
  by_cases hok : Status.ok = reply.status
  · have hne₁ : Status.error ≠ reply.status := by rw [← hok]; decide
    have hne₂ : Status.timeout ≠ reply.status := by rw [← hok]; decide
    rw [runReplyHook_match dispatch h.push? (hok ▸ h₀)]
    obtain ⟨hmove, hkept⟩ := h.accepted hs hok.symm _ rfl
    have hsv := hmove.sound hs
    simp only [react]
    rw [skip₁ hsv hne₁, skip₂ hsv hne₂]
    exact ⟨.single hmove, hkept⟩
  rw [skip₀ hst hok]
  by_cases herror : Status.error = reply.status
  · have hne₂ : Status.timeout ≠ reply.status := by rw [← herror]; decide
    rw [runReplyHook_match dispatch h.push? (herror ▸ h₁)]
    obtain ⟨hmoves, hkept⟩ := h.refused _ rfl
    have hcontains : (t.perform (.runReply c joinPush (.channel .joinError) reply)).channels.contains
        c = true := (Table.contains_iff _ _).mpr ⟨_, h.works.get?⟩
    simp only [react, hcontains, if_true]
    rw [skip₂ (hmoves.sound hs) hne₂]
    exact ⟨hmoves, hkept⟩
  rw [skip₁ hst herror]
  by_cases htimeout : Status.timeout = reply.status
  · rw [runReplyHook_match dispatch h.push? (htimeout ▸ h₂)]
    exact h.abandoned hs _ rfl
  rw [skip₂ hst htimeout]
  have hunknown : ¬ reply.IsJoinReply := by
    rintro (h | h | h)
    · exact hok h.symm
    · exact herror h.symm
    · exact htimeout h.symm
  exact ⟨.single (.alter h.channel (.unheard h.push h.awaits h.unarmed h.answers hunknown) h.works),
    _, h.works.get?, .refl _ _⟩

/-- The moves of a join that has its reply. -/
theorem Settled.moves_join (dispatch : Dispatch (Recorded ω)) {timer : TimerSlot} {reply : Reply}
    (h : Settled k c joinPush reply ch q timer s t) (hs : Sound s) :
    Moves k c s ((t.runReplyHooks dispatch c joinPush reply q.hooks.length).releasePush c
      joinPush) ∧
      ∀ {ch'}, ((t.runReplyHooks dispatch c joinPush reply q.hooks.length).releasePush c
        joinPush).channels.get? c = some ch' →
          Kept s.exchange c (ch.settle joinPush q timer reply) ch' := by
  obtain ⟨q', hq', _, more, hmore, _⟩ := (hs.channels h.channel).join
  rw [h.push] at hq'
  cases hq'
  have hrange : List.range q.hooks.length = [0, 1, 2] ++ (List.range more.length).map (3 + ·) := by
    rw [hmore, List.length_append, List.range_add]
    rfl
  obtain ⟨hmoves, ch₁, hc₁, hkept⟩ := h.joinReactions dispatch hs
  have hrest := moves_foldl (k := k) (c := c) (f := runReplyHook dispatch c joinPush reply)
    (fun _ => True) ((List.range more.length).map (3 + ·)) (fun t i hi hs _ => by
      obtain ⟨j, _, rfl⟩ := List.mem_map.mp hi
      exact ⟨moves_runReplyHook_join dispatch hs reply (Nat.le_add_right 3 j), trivial⟩)
    (hmoves.sound hs) trivial
  have hall := hrest.1.trans (moves_releasePush (k := k) _ c joinPush)
  have heq : (t.runReplyHooks dispatch c joinPush reply q.hooks.length) =
      ((List.range more.length).map (3 + ·)).foldl (runReplyHook dispatch c joinPush reply)
        ([0, 1, 2].foldl (runReplyHook dispatch c joinPush reply) t) := by
    rw [runReplyHooks, hrange, List.foldl_append]
  rw [heq]
  refine ⟨hmoves.trans hall, fun hc' => ?_⟩
  obtain ⟨ch₂, hc₂, hkept'⟩ := Moves.kept h.answers.not_op hall hc'
  rw [hc₁] at hc₂
  cases hc₂
  exact .trans (Moves.frame hmoves).evolves hkept hkept'

/-- The moves of a push that has its reply; the bindings of its event stay dropped. -/
theorem Settled.moves {dispatch : Dispatch (Recorded ω)} (hl : Level dispatch) {timer : TimerSlot}
    {reply : Reply} (h : Settled k c p reply ch q timer s t) (hs : Sound s) :
    Moves k c s ((t.runReplyHooks dispatch c p reply q.hooks.length).releasePush c p) ∧
      ∀ {ch'}, ((t.runReplyHooks dispatch c p reply q.hooks.length).releasePush c
        p).channels.get? c = some ch' → Kept s.exchange c (ch.settle p q timer reply) ch' := by
  by_cases hjoin : p = joinPush
  · subst hjoin
    exact h.moves_join dispatch hs
  · obtain ⟨hmove, hmoves⟩ := h.moves_other hl hs hjoin q.hooks.length
    refine ⟨(Relation.ReflTransGen.single hmove).trans (hmoves k), fun hc' => ?_⟩
    obtain ⟨ch₂, hc₂, hkept⟩ := Moves.kept h.answers.not_op (hmoves k) hc'
    rw [h.works.get?] at hc₂
    cases hc₂
    exact .trans h.works.evolves (.refl _ _) hkept

/-! ### Every dispatch is made of moves -/

omit [Outside ω] [Obliging ω] in
/-- What is left of the bindings of an event, and was not there only just now, has no effect. -/
theorem inert_of_kept {x : Exchange} {payload : Payload} {b : Binding}
    (huniq : ∀ b' ∈ ch.bindings, b'.event = b.event → ¬ b'.IsListener → b' = b)
    (hkept : Kept x c ch ch') {b' : Binding} (hb' : b' ∈ ch'.bindings)
    (hevent : b'.event = b.event) (hnum : b'.number ≠ b.number)
    (hspent : x.Spent (.bindings c) b'.number) : b'.Inert payload := by
  by_contra hnot
  rcases hkept.2 b' hb' with hmem | hnew
  · exact hnum (congrArg Binding.number (huniq b' hmem hevent fun hl => hnot (.inl hl)))
  · exact hnew hspent

omit [Obliging ω] in
theorem resolvePush_eq {dispatch : Dispatch (Recorded ω)} (hc : s.channels.get? c = some ch)
    (hp : ch.pushes.get? p = some q) (reply : Reply) : s.resolvePush dispatch c p reply =
      ((s.settlePush c p q reply).runReplyHooks dispatch c p reply q.hooks.length).releasePush c
        p := by
  simp only [resolvePush, push?_eq_some.mpr ⟨ch, hc, hp⟩]

/-- A push that is listened for is resolved. -/
theorem settled_settlePush (hc : s.channels.get? c = some ch) (hp : ch.pushes.get? p = some q)
    {reply : Reply} (hawaits : ch.Awaits p) (ha : k.Answers (c ∈ s.order) ch q reply) :
    Settled k c p reply ch q q.timer.cancel s (s.settlePush c p q reply) :=
  ⟨hc, hp, hawaits, rfl, ha, works_settlePush hc hp reply⟩

/-- The one binding that has an effect: its moves, and the other bindings of the event. -/
theorem moves_runTarget {nested : Dispatch (Recorded ω)} (hl : Level nested) (hs : Sound s)
    (hc : s.channels.get? c = some ch) {b : Binding} (hb : b ∈ ch.bindings) {payload : Payload}
    {ref : Option Ref} (joinRef : Option Ref) (hnot : ¬ b.Inert payload)
    (hv : k.Voices (c ∈ s.order) (ch.hook ≠ none) b.event payload ref) :
    Moves k c s (s.runTarget nested c ⟨b.event, payload, ref, joinRef⟩ b.target) ∧
      ∀ {ch'}, (s.runTarget nested c ⟨b.event, payload, ref, joinRef⟩ b.target).channels.get? c =
        some ch' → ∀ b' ∈ ch'.bindings, b'.event = b.event → b'.number ≠ b.number →
          s.exchange.Spent (.bindings c) b'.number → b'.Inert payload := by
  have hch := hs.channels hc
  rcases hch.internal hb fun h => hnot (.inl h) with
    rfl | rfl | rfl | ⟨p, q, r, ht, hp, hr, hevent, heq⟩
  · have hcl := closes_closeChannel hc
    refine ⟨.single (.closed hc hcl), fun hc' b' hb' hev hnum hspent => ?_⟩
    replace hc' := hcl.get?_self.symm.trans hc'
    split at hc'
    · cases hc'
    · cases hc'
      exact inert_of_kept (fun b' hb' => hch.eq_close hb') (.refl s.exchange ch) hb' hev hnum hspent
  · have hmoves : Moves k c s (s.failChannel c) := moves_failChannel hs hc hv.listed
    refine ⟨hmoves, fun hc' b' hb' hev hnum hspent => ?_⟩
    obtain ⟨ch₀, hc₀, hkept⟩ := hmoves.kept hv.not_op_error hc'
    rw [hc] at hc₀
    cases hc₀
    exact inert_of_kept (fun b' hb' => hch.eq_error hb') hkept hb' hev hnum hspent
  · cases ref with
    | none =>
      refine ⟨.refl, fun hc' b' hb' hev hnum hspent => ?_⟩
      replace hc' : s.channels.get? c = some _ := hc'
      rw [hc] at hc'
      cases hc'
      exact inert_of_kept (fun b' hb' => hch.eq_reply hb') (.refl s.exchange ch) hb' hev hnum hspent
    | some r =>
      have hmoves : Moves k c s (nested c (Event.replyTo r) payload none none s) :=
        hl.moves hs hc hv.redirect
      refine ⟨hmoves, fun hc' b' hb' hev hnum hspent => ?_⟩
      obtain ⟨ch₀, hc₀, hkept⟩ := hmoves.kept hv.not_op_reply hc'
      rw [hc] at hc₀
      cases hc₀
      exact inert_of_kept (fun b' hb' => hch.eq_reply hb') hkept hb' hev hnum hspent
  · cases hreply : payload.reply? with
    | none => exact absurd (.inr ⟨p, ht, hreply⟩) hnot
    | some reply =>
      have ha := hv.answers hch hp hevent hreply
      obtain ⟨hmoves, hkept⟩ := (settled_settlePush hc hp ⟨b, hb, ht⟩ ha).moves hl hs
      have htarget : s.runTarget nested c ⟨b.event, payload, ref, joinRef⟩ b.target =
          ((s.settlePush c p q reply).runReplyHooks nested c p reply q.hooks.length).releasePush c
            p := by
        rw [ht]
        simp only [runTarget, hreply, resolvePush_eq hc hp]
      rw [htarget]
      refine ⟨hmoves, fun hc' b' hb' hev _ hspent => ?_⟩
      rcases (hkept hc').2 b' hb' with hmem | hnew
      · exact absurd (hevent.trans (congrArg some hev.symm)) (Channel.mem_dropBindings?.mp hmem).2
      · exact absurd hspent hnew

/-- What dispatching an event comes to: nothing, or the one binding that has an effect. -/
theorem dispatchWith_target {nested : Dispatch (Recorded ω)} (hl : Level nested) (hs : Sound s)
    (hc : s.channels.get? c = some ch) {event : String} {payload : Payload} {ref : Option Ref}
    (joinRef : Option Ref)
    (hv : k.Voices (c ∈ s.order) (ch.hook ≠ none) event payload ref) :
    (Quiet s (dispatchWith nested c event payload ref joinRef s) ∧
      (ch.hook ≠ none ∨ ∀ b ∈ ch.bindings, b.event = event → b.Inert payload)) ∨
    ∃ t b payload' joinRef', Quiet s t ∧ b ∈ ch.bindings ∧ b.event = event ∧ ¬ b.Inert payload' ∧
      (ch.hook = none → payload' = payload) ∧
      k.Voices (c ∈ t.order) (ch.hook ≠ none) event payload' ref ∧
      Quiet (t.runTarget nested c ⟨event, payload', ref, joinRef'⟩ b.target)
        (dispatchWith nested c event payload ref joinRef s) := by
  rcases dispatchWith_cases nested hs hc event payload ref joinRef with
    hquiet | ⟨t, b, payload', joinRef', post, ht, hmem, rfl, hnot, hsame, hpost, hspent, heq⟩
  · exact .inl hquiet
  · have hv' := hv.of_payload fun hh => hsame (not_not.mp hh)
    rw [← ht.order_eq] at hv'
    refine .inr ⟨t, b, payload', joinRef', ht, hmem, rfl, hnot, hsame, hv', ?_⟩
    obtain ⟨_, hrest⟩ := moves_runTarget hl (hs.quiet ht) (ht.get? c ▸ hc) hmem joinRef' hnot hv'
    rw [heq]
    refine quiet_walk nested c _ post _ fun hc' b' hb' hev hnum => ?_
    refine hrest hc' b' hb' hev (fun h => hpost (h ▸ hnum)) ?_
    exact ht.evolves.spent (hspent _ hnum)

theorem level_dispatchWith {nested : Dispatch (Recorded ω)} (hl : Level nested) :
    Level (dispatchWith nested) where
  moves := by
    intro k s c ch event payload ref joinRef hs hc hv
    rcases dispatchWith_target hl hs hc joinRef hv with
      ⟨hq, _⟩ | ⟨t, b, payload', joinRef', ht, hmem, rfl, hnot, _, hv', hrest⟩
    · exact .single (.quiet hq)
    · obtain ⟨hmoves, _⟩ := moves_runTarget hl (hs.quiet ht) (ht.get? c ▸ hc) hmem joinRef' hnot hv'
      exact (Relation.ReflTransGen.single (.quiet ht)).trans (hmoves.tail (.quiet hrest))
  close := by
    intro s c ch payload hs hc
    exact (dispatchWith_close nested hs hc payload none none).imp And.left id

theorem level_dispatchTo (n : Nat) : Level (ω := ω) (dispatchTo n) := by
  induction n with
  | zero => exact ⟨fun _ _ _ => .refl, fun _ _ _ => .inl (.refl _)⟩
  | succ n ih => exact level_dispatchWith ih

end Outside

end Socket

end Switchboard
