import Switchboard.Proofs.Runs
import Switchboard.Proofs.Unhooked
import Switchboard.Proofs.Scripts

/-!
# One live channel for each topic

A channel is live while it joins and once it has joined.  A join attempt first leaves the live channel
of the same topic, and the leave is over before the attempt is made.  What has to hold besides is that
a registered channel that listens for the reply to its join is joining: then no reply makes a channel
live that was not.

Main definitions

* `Socket.OneLive`: a topic has at most one live registered channel;
* `Channel.Orderly`, `Socket.Orderly`: what holds of channels and sockets between commands;
* `Socket.Attempts`: while a socket carries out a command, a channel attempts to join.

Main results

* `Socket.Stride.orderly`: each stride keeps a socket orderly;
* `Socket.one_live_channel`: between commands a topic has at most one live channel, and a channel that
  is displaced has left before the other joins.
-/

set_option autoImplicit false

namespace Switchboard

/-- What holds of a channel between commands. -/
structure Channel.Orderly (registered : Prop) (ch : Channel) : Prop where
  stays : ch.state ≠ .leaving
  joining : registered → ch.Awaits joinPush → ch.state = .joining

namespace Socket

variable {ω : Type} {s t u : Socket (Recorded ω)} {k : Prompt} {c d : ChannelId}
variable {ch ch' : Channel} {p : PushId} {q : Push} {es : List Effect}
variable {s₀ : Socket (Recorded ω)} {cmd : Command}

/-- A topic has at most one live registered channel. -/
def OneLive (s : Socket (Recorded ω)) : Prop :=
  ∀ ⦃c d ch ch'⦄, c ∈ s.order → d ∈ s.order → s.channels.get? c = some ch →
    s.channels.get? d = some ch' → ch.topic = ch'.topic → ch.isLive = true → ch'.isLive = true →
    c = d

/-- What holds of a socket between commands. -/
structure Orderly (s : Socket (Recorded ω)) : Prop where
  intact : Intact Event.IsReserved s
  channels : ∀ ⦃c ch⦄, s.channels.get? c = some ch → ch.Orderly (c ∈ s.order)
  oneLive : s.OneLive

/-- One channel changes, and is live only if it was live before. -/
theorem Orderly.frame (h : Orderly s) (hi : Intact Event.IsReserved t) (f : Framed c s t)
    (hself : ∀ {ch'}, t.channels.get? c = some ch' → ch'.Orderly (c ∈ t.order))
    (hlive : ∀ {ch'}, c ∈ t.order → t.channels.get? c = some ch' → ch'.isLive = true →
      ∃ ch, s.channels.get? c = some ch ∧ ch.topic = ch'.topic ∧ ch.isLive = true) : Orderly t := by
  have back : ∀ {d ch'}, d ∈ t.order → t.channels.get? d = some ch' → ch'.isLive = true →
      d ∈ s.order ∧ ∃ ch, s.channels.get? d = some ch ∧ ch.topic = ch'.topic ∧
        ch.isLive = true := by
    intro d ch' hmem hd hl
    refine ⟨f.of_mem_order hmem, ?_⟩
    by_cases hdc : d = c
    · subst hdc
      exact hlive hmem hd hl
    · exact ⟨ch', f.others hdc ▸ hd, rfl, hl⟩
  refine ⟨hi, fun d ch' hd => ?_, ?_⟩
  · by_cases hdc : d = c
    · subst hdc
      exact hself hd
    · have hd' := h.channels (f.others hdc ▸ hd)
      exact ⟨hd'.stays, fun hmem => hd'.joining ((f.mem_order hdc).mp hmem)⟩
  · intro c₁ c₂ ch₁ ch₂ hc₁ hc₂ hch₁ hch₂ htopic hlive₁ hlive₂
    obtain ⟨hm₁, ch₃, hch₃, ht₃, hl₃⟩ := back hc₁ hch₁ hlive₁
    obtain ⟨hm₂, ch₄, hch₄, ht₄, hl₄⟩ := back hc₂ hch₂ hlive₂
    exact h.oneLive hm₁ hm₂ hch₃ hch₄ (ht₃.trans (htopic.trans ht₄.symm)) hl₃ hl₄

/-! ### Moves -/

/-- The moves that leave the registry alone make no channel live. -/
theorem Alter.live {registered : Prop} {x y : Exchange} (h : Alter k x y registered c ch ch' es)
    (hlive : ch'.isLive = true) : ch.topic = ch'.topic ∧ ch.isLive = true := by
  have same : ch'.topic = ch.topic → ch'.state = ch.state →
      ch.topic = ch'.topic ∧ ch.isLive = true := by
    intro htopic hstate
    refine ⟨htopic.symm, ?_⟩
    unfold Channel.isLive at hlive ⊢
    rwa [← hstate]
  cases h with
  | alike same' notes => exact same same'.topic same'.state
  | hooked op => exact same rfl rfl
  | listen op spent fresh => exact same rfl rfl
  | unbind op => exact same rfl rfl
  | enlist op free spent other starts waits accepts => exact same starts.topic_eq starts.state_eq
  | settle other push awaits unarmed answers =>
    exact same (Channel.dropBindings?_topic _) (Channel.dropBindings?_state _)
  | forget other push received =>
    exact same (Channel.dropBindings?_topic _) (Channel.dropBindings?_state _)
  | unheard push awaits unarmed answers =>
    exact same (Channel.dropBindings?_topic _) (Channel.dropBindings?_state _)
  | refused push awaits unarmed answers => cases hlive
  | abandoned push awaits unarmed answers fresh free spent other starts push' =>
    simp only [Channel.isLive, Channel.takeBack_state] at hlive
    cases hlive
  | failed listed push => split at hlive <;> cases hlive

/-- The moves that leave the registry alone keep a channel orderly. -/
theorem Alter.orderly {registered : Prop} {x y : Exchange}
    (h : Alter k x y registered c ch ch' es) (hs : ch.Sound x c) (hxy : x.Evolves y)
    (ho : ch.Orderly registered) : ch'.Orderly registered := by
  -- The state stays, and no binding of the join push is added.
  have same : ch'.state = ch.state → (ch'.Awaits joinPush → ch.Awaits joinPush) →
      ch'.Orderly registered := fun hstate hawaits =>
    ⟨hstate.trans_ne ho.stays, fun hreg h' => hstate.trans (ho.joining hreg (hawaits h'))⟩
  cases h with
  | alike same' notes => exact same same'.state (Channel.awaits_congr same'.bindings).mp
  | hooked op => exact same rfl id
  | listen op spent fresh => exact same rfl Channel.awaits_bind.mp
  | unbind op => exact same rfl fun h' => h'.of_sublist List.filter_sublist
  | enlist op free spent other starts waits accepts =>
    exact same starts.state_eq (starts.awaits_of_ne other.symm)
  | settle other push awaits unarmed answers =>
    exact same (Channel.dropBindings?_state _) fun h' => h'.of_sublist (Channel.settle_bindings _ _)
  | forget other push received =>
    exact same (Channel.dropBindings?_state _) fun h' => h'.of_sublist Channel.forget_bindings
  | unheard push awaits unarmed answers =>
    exact same (Channel.dropBindings?_state _) fun h' => h'.of_sublist (Channel.settle_bindings _ _)
  | refused push awaits unarmed answers =>
    exact ⟨by simp, fun _ h' => absurd h' (hs.not_awaits_drop push rfl)⟩
  | @abandoned q q' timer reply p timeout m ch' push awaits unarmed answers fresh free spent other
      starts push' =>
    have hfree : (ch.settle joinPush q timer reply).pushes.get? p = none := by
      rw [Channel.settle_pushes, Table.get?_set_of_ne _ other]
      exact free
    have hch' := starts.sound_insert (hs.settle push timer reply) hxy spent hfree
      (Push.isNew_bareLeave _ _)
    have herrored : { ch' with state := .errored }.Sound y c :=
      hch'.filter (List.Sublist.refl _) rfl fun _ => id
    exact ⟨by simp, fun _ h' => absurd h' (herrored.not_awaits_drop push' rfl)⟩
  | failed listed push =>
    refine ⟨by split <;> simp, fun hreg h' => ?_⟩
    split at h'
    · exact absurd h' (hs.not_awaits_drop push rfl)
    · rename_i hstate
      exact absurd (ho.joining hreg h') hstate

/-- To send pushes that have waited leaves the state of the channel as it is. -/
theorem Flush.live {ps : List PushId} (h : Flush c ps s t) (hs : Sound s)
    (hps : ∀ p ∈ ps, p ≠ joinPush) (hc : s.channels.get? c = some ch) :
    ∃ ch', t.channels.get? c = some ch' ∧ ch'.topic = ch.topic ∧ ch'.state = ch.state ∧
      (ch'.Awaits joinPush → ch.Awaits joinPush) :=
  h.channel hs (fun _ hp _ _ hstarts ⟨htopic, hstate, hawaits⟩ =>
    ⟨hstarts.topic_eq.trans htopic, hstarts.state_eq.trans hstate, fun h' =>
      hawaits (hstarts.awaits_of_ne (hps _ hp).symm h')⟩) hc ⟨rfl, rfl, id⟩

theorem Move.orderly (h : Move k c s t) (hk : k.Spares Event.IsReserved) (hs : Sound s)
    (ho : Orderly s) : Orderly t := by
  have hi := h.intact hk hs ho.intact
  have hframe := h.frame
  cases h with
  | quiet quiet =>
    refine ho.frame hi hframe (fun hc => ?_) (fun _ hc hlive => ⟨_, quiet.get? c ▸ hc, rfl, hlive⟩)
    rw [quiet.order_eq]
    exact ho.channels (quiet.get? c ▸ hc)
  | alter channel alter works =>
    refine ho.frame hi hframe (fun hc => ?_) (fun _ hc hlive => ?_)
    · rw [works.get?] at hc
      cases hc
      rw [works.order_eq]
      exact alter.orderly (hs.channels channel) works.evolves (ho.channels channel)
    · rw [works.get?] at hc
      cases hc
      exact ⟨_, channel, alter.live hlive⟩
  | @accepted u v ch q timer reply channel push awaits unarmed answers status works flush =>
    have hch := hs.channels channel
    have hst := hs.accept channel push works
    obtain ⟨ch', hc', htopic, hstate, hawaits⟩ := flush.live hst hch.buffered works.get?
    refine ho.frame hi hframe (fun hc => ?_) (fun hmem hc hlive => ?_)
    · rw [hc'] at hc
      cases hc
      refine ⟨by rw [hstate]; simp, fun _ h' => ?_⟩
      exact absurd (hawaits h') (hch.not_awaits_drop push rfl)
    · rw [hc'] at hc
      cases hc
      refine ⟨ch, channel, ?_, ?_⟩
      · exact (htopic.trans (Channel.dropBindings?_topic _)).symm
      · simp only [Channel.isLive, (ho.channels channel).joining (hframe.of_mem_order hmem) awaits]
  | @closed _ ch channel closes =>
    refine ho.frame hi hframe (fun hc => ?_) (fun hmem _ _ => absurd hmem closes.gone.1)
    rw [closes.get?_self] at hc
    split at hc
    · cases hc
    · cases hc
      exact ⟨by simp, fun hmem => absurd hmem closes.gone.1⟩

theorem Moves.orderly (h : Moves k c s t) (hk : k.Spares Event.IsReserved) (hs : Sound s)
    (ho : Orderly s) : Orderly t := by
  induction h with
  | refl => exact ho
  | tail moves move ih => exact move.orderly hk (Moves.sound moves hs) ih

/-! ### Leaving and joining -/

section Outside

variable [Outside ω] [Obliging ω]

omit [Outside ω] [Obliging ω] in
theorem Orderly.quiet (h : Orderly s) (hq : Quiet s t) : Orderly t := by
  refine h.frame (c := 0) (h.intact.turns hq) hq.frame (fun hc => ?_)
    fun _ hc hlive => ⟨_, hq.get? 0 ▸ hc, rfl, hlive⟩
  rw [hq.order_eq]
  exact h.channels (hq.get? 0 ▸ hc)

/-- A channel that leaves is gone, and the others are as orderly as before. -/
theorem orderly_leave (hs : Sound s) (ho : Orderly s) (hc : s.channels.get? c = some ch)
    (hspent : s.exchange.Spent (.pushes c) p) (hfree : ch.pushes.get? p = none)
    (hother : p ≠ joinPush) (timeout : Nat) (detached : Bool)
    (hb : (s.leave c p timeout detached).exchange.drawn < 2 ^ 64) :
    Orderly (s.leave c p timeout detached) := by
  have hgone := gone_leave hs ho.intact hc hspent hfree hother timeout detached hb
  refine ho.frame (intact_leave hs ho.intact hc hspent hfree hother timeout detached)
    (frame_leave hs hc hspent hfree hother timeout detached) (fun hc' => ?_)
    fun hmem => absurd hmem hgone.1
  exact ⟨by rw [hgone.2 hc']; simp, fun hmem => absurd hmem hgone.1⟩

theorem orderly_leaveOpenTopic (hs : Sound s) (ho : Orderly s) (topic : String) (c : ChannelId)
    (hb : (s.leaveOpenTopic topic c).exchange.drawn < 2 ^ 64) :
    Orderly (s.leaveOpenTopic topic c) := by
  rcases leaveOpenTopic_cases hs topic c with ⟨_, heq⟩ |
    ⟨d, ch, p, t, _, _, _, hch, _, _, hquiet, _, hspent, hfree, hother, heq⟩
  · rw [heq]
    exact ho
  · rw [heq] at hb ⊢
    exact orderly_leave (hs.quiet hquiet) (ho.quiet hquiet) (hquiet.get? d ▸ hch) hspent hfree
      hother ch.timeout true hb

/-- The channel that a topic has live besides another sends its leave, and is gone. -/
theorem gone_leaveOpenTopic (hs : Sound s) (ho : Orderly s) {topic : String}
    (hdup : s.liveDuplicate? topic c = some d)
    (hb : (s.leaveOpenTopic topic c).exchange.drawn < 2 ^ 64) :
    Gone d (s.leaveOpenTopic topic c) ∧ Framed d s (s.leaveOpenTopic topic c) ∧
      ∃ p m es, m.event = Event.leave ∧ m.topic = topic ∧
        (s.leaveOpenTopic topic c).log = s.log ++ .accept (.push d p) m :: es := by
  rcases leaveOpenTopic_cases hs topic c with ⟨hnone, _⟩ |
    ⟨d', ch, p, t, hsome, _, _, hch, htopic, _, hquiet, _, hspent, hfree, hother, heq⟩
  · rw [hdup] at hnone
    cases hnone
  · rw [hdup] at hsome
    cases hsome
    rw [heq] at hb ⊢
    have hst := hs.quiet hquiet
    have hc := hquiet.get? d ▸ hch
    refine ⟨gone_leave hst (ho.quiet hquiet).intact hc hspent hfree hother ch.timeout true hb,
      hquiet.frame.trans (frame_leave hst hc hspent hfree hother ch.timeout true), ?_⟩
    obtain ⟨u, join, ch', m, q, r, v, hjoin, hevent, hname, hstarts, hw, _, _, hsettled, hrest⟩ :=
      leave_unhooked hst (ho.quiet hquiet).intact.to_unhooked hc hspent hfree hother ch.timeout true
        hb
    have hrough : Rough .failure d t u := .departs hc hjoin hfree (hw.evolves.spent hspent) hother
      hstarts hw fun e he => ⟨m, List.mem_singleton.mp he⟩
    have hwinds := hsettled.winds (level_dispatchTo 2) (hrough.sound hst) hother q.hooks.length
    obtain ⟨es, hes⟩ := ((hsettled.works.frame (c := d)).trans
      (hwinds.frame.trans hrest.frame)).log
    refine ⟨p, m, es, hevent, hname.trans htopic, ?_⟩
    rw [hes, hw.log_eq, hquiet.log_eq, List.append_nil, List.append_assoc]
    rfl

/-- A topic that was left has no live channel besides. -/
theorem alone_leaveOpenTopic (hs : Sound s) (ho : Orderly s) {topic : String}
    (hb : (s.leaveOpenTopic topic c).exchange.drawn < 2 ^ 64)
    (hmem : d ∈ (s.leaveOpenTopic topic c).order) (hne : d ≠ c)
    (hd : (s.leaveOpenTopic topic c).channels.get? d = some ch) (htopic : ch.topic = topic) :
    ch.isLive = false := by
  cases hdup : s.liveDuplicate? topic c with
  | none =>
    have heq : s.leaveOpenTopic topic c = s := by simp only [leaveOpenTopic, hdup]
    rw [heq] at hmem hd
    have hnot := List.find?_eq_none.mp hdup d hmem
    simpa [hne, hd, htopic] using hnot
  | some e =>
    obtain ⟨hgone, hframe, _⟩ := gone_leaveOpenTopic hs ho hdup hb
    have hde : d ≠ e := fun heq => hgone.1 (heq ▸ hmem)
    obtain ⟨hemem, _, che, hche, hetopic, helive⟩ := liveDuplicate?_eq_some hdup
    by_contra hlive
    have hd' : s.channels.get? d = some ch := hframe.others hde ▸ hd
    exact hde (ho.oneLive (hframe.of_mem_order hmem) hemem hd' hche (htopic.trans hetopic.symm)
      (by simpa using hlive) helive)

/-- Where a topic has no live channel besides, a join attempt keeps a socket orderly. -/
theorem orderly_attempt (hs : Sound s) (ho : Orderly s) (hc : s.channels.get? c = some ch)
    (hstays : ch.state ≠ .leaving)
    (halone : ∀ ⦃d ch'⦄, d ∈ s.order → d ≠ c → s.channels.get? d = some ch' →
      ch'.topic = ch.topic → ch'.isLive = false) :
    Orderly ((s.modifyChannel c fun ch => { ch with state := .joining }).resendPush c joinPush
      ch.timeout) := by
  have hi := (rough_attempt (k := .failure) hs hc hstays).intact trivial hs ho.intact
  obtain ⟨join, ch', m, hjoin, _, _, hstarts, hw⟩ := works_attempt hs hc
  have hstate : ch'.state = .joining := hstarts.state_eq.trans Channel.takeBack_state
  have htopic : ch'.topic = ch.topic := hstarts.topic_eq.trans Channel.takeBack_topic
  refine ⟨hi, fun d ch₁ hd => ?_, fun c₁ c₂ ch₁ ch₂ hm₁ hm₂ hc₁ hc₂ ht hl₁ hl₂ => ?_⟩
  · by_cases hdc : d = c
    · subst hdc
      rw [hw.get?] at hd
      cases hd
      exact ⟨by rw [hstate]; simp, fun _ _ => hstate⟩
    · rw [hw.order_eq]
      exact ho.channels (hw.get?_of_ne hdc ▸ hd)
  · rw [hw.order_eq] at hm₁ hm₂
    -- No channel besides is live while this one joins.
    have other : ∀ {d chd}, d ∈ s.order → d ≠ c → chd.topic = ch.topic →
        s.channels.get? d = some chd → chd.isLive = true → False := by
      intro d chd hmem hne htop hd hlive
      rw [halone hmem hne hd htop] at hlive
      cases hlive
    by_cases h₁ : c₁ = c <;> by_cases h₂ : c₂ = c
    · exact h₁.trans h₂.symm
    · subst h₁
      rw [hw.get?] at hc₁
      cases hc₁
      exact (other hm₂ h₂ (ht.symm.trans htopic) (hw.get?_of_ne h₂ ▸ hc₂) hl₂).elim
    · subst h₂
      rw [hw.get?] at hc₂
      cases hc₂
      exact (other hm₁ h₁ (ht.trans htopic) (hw.get?_of_ne h₁ ▸ hc₁) hl₁).elim
    · exact ho.oneLive hm₁ hm₂ (hw.get?_of_ne h₁ ▸ hc₁) (hw.get?_of_ne h₂ ▸ hc₂) ht hl₁ hl₂

theorem orderly_rejoin (hs : Sound s) (ho : Orderly s) (hc : s.channels.get? c = some ch)
    (hb : (s.rejoin c).exchange.drawn < 2 ^ 64) : Orderly (s.rejoin c) := by
  rcases rejoin_cases hs hc with ⟨_, heq⟩ | ⟨hstays, hget, heq⟩
  · rw [heq]
    exact ho
  · have hs₂ := sound_leaveOpenTopic hs ch.topic c
    have hb₂ : (s.leaveOpenTopic ch.topic c).exchange.drawn < 2 ^ 64 := by
      rw [heq] at hb
      exact lt_of_le_of_lt
        (rough_attempt (k := .failure) hs₂ hget hstays).frame.evolves.drawn_le hb
    rw [heq]
    exact orderly_attempt hs₂ (orderly_leaveOpenTopic hs ho ch.topic c hb₂) hget hstays
      fun d ch' hmem hne hd htopic => alone_leaveOpenTopic hs ho hb₂ hmem hne hd htopic

/-! ### Commands -/

/-- The timeout of a push keeps a socket orderly. -/
theorem orderly_pushTimeout (hs : Sound s) (ho : Orderly s) (c : ChannelId) (p : PushId)
    (generation : Nat) (hb : s.exchange.drawn < 2 ^ 64) :
    Orderly (s.pushTimeout c p generation) := by
  rcases pushTimeout_unhooked hs hb ho.intact.to_unhooked c p generation with
    heq | ⟨ch, q, hc, hp, harmed, ⟨hnot, hw⟩ | ⟨r, t, hr, hsettled, hrest⟩⟩
  · rw [heq]
    exact ho
  · have hi := (Rough.lapse (k := .failure) hc hp hw).intact trivial hs ho.intact
    refine ho.frame hi hw.frame (fun hc' => ?_) (fun _ hc' hlive => ?_)
    · rw [hw.get?] at hc'
      cases hc'
      rw [hw.order_eq]
      exact ⟨(ho.channels hc).stays, (ho.channels hc).joining⟩
    · rw [hw.get?] at hc'
      cases hc'
      exact ⟨ch, hc, rfl, hlive⟩
  · obtain ⟨hmoves, _⟩ := hsettled.moves (level_dispatchTo 2) hs
    exact (hmoves.orderly trivial hs ho).quiet hrest

omit [Outside ω] [Obliging ω] in
/-- Without a channel nothing is out of order. -/
theorem Orderly.of_empty (h : ∀ c, s.channels.get? c = none) : Orderly s := by
  refine ⟨fun c ch hc => ?_, fun c ch hc => ?_, fun c d ch ch' _ _ hc => ?_⟩ <;>
    · rw [h c] at hc
      cases hc

theorem Stride.orderly (h : Stride s₀ cmd s t) (hcmd : cmd.Spares Event.IsReserved) (hs : Sound s)
    (hb : t.exchange.drawn < 2 ^ 64) (ho : Orderly s) : Orderly t := by
  have hi := h.intact hcmd hs ho.intact
  have hevolves := h.evolves hs
  cases h with
  | quiet quiet => exact ho.quiet quiet
  | move heeds move => exact move.orderly (heeds.spares hcmd) hs ho
  | expire _ command =>
    exact orderly_pushTimeout hs ho _ _ _ (lt_of_le_of_lt hevolves.drawn_le hb)
  | leave command channel spent free other =>
    exact orderly_leave hs ho channel spent free other _ _ hb
  | @rejoin _ c ch f channel same cause =>
    have hmove : Move .failure c s (s.modifyChannel c f) := move_alike channel same
    exact orderly_rejoin (hmove.sound hs) (hmove.orderly trivial hs ho)
      (works_modifyChannel channel f).get? hb
  | @enters _ _ c topic params command spent free enters =>
    have hmem : ∀ {d}, d ≠ c → (d ∈ t.order ↔ d ∈ s.order) := by
      intro d hne
      rw [enters.order_eq, List.mem_append, List.mem_singleton, or_iff_left hne]
    have hnew : ∀ {params timeout refs},
        ¬ (Channel.new topic params timeout refs).Awaits joinPush := by
      simp [Channel.Awaits, Channel.new, Channel.ownBindings]
    refine ⟨hi, fun d ch hd => ?_, ?_⟩
    · rcases enters.get? d hd with hold | ⟨_, _, _, _, rfl⟩
      · have hne : d ≠ c := by
          rintro rfl
          rw [free] at hold
          cases hold
        exact ⟨(ho.channels hold).stays, fun hmem' => (ho.channels hold).joining
          ((hmem hne).mp hmem')⟩
      · exact ⟨by simp [Channel.new], fun _ h' => absurd h' hnew⟩
    · -- The new channel is not live.
      have back : ∀ {d ch}, d ∈ t.order → t.channels.get? d = some ch → ch.isLive = true →
          d ∈ s.order ∧ s.channels.get? d = some ch := by
        intro d ch hd hch hlive
        rcases enters.get? d hch with hold | ⟨_, _, _, _, rfl⟩
        · refine ⟨(hmem ?_).mp hd, hold⟩
          rintro rfl
          rw [free] at hold
          cases hold
        · cases hlive
      intro c₁ c₂ ch₁ ch₂ hm₁ hm₂ hc₁ hc₂ ht hl₁ hl₂
      obtain ⟨hm₁, hc₁⟩ := back hm₁ hc₁ hl₁
      obtain ⟨hm₂, hc₂⟩ := back hm₂ hc₂ hl₂
      exact ho.oneLive hm₁ hm₂ hc₁ hc₂ ht hl₁ hl₂
  | erases unlisted erases =>
    refine ⟨hi, fun d ch hd => ?_, ?_⟩
    · rw [erases.order_eq]
      exact ho.channels (erases.get? hd).2
    · intro c₁ c₂ ch₁ ch₂ hm₁ hm₂ hc₁ hc₂
      rw [erases.order_eq] at hm₁ hm₂
      exact ho.oneLive hm₁ hm₂ (erases.get? hc₁).2 (erases.get? hc₂).2
  | ends ends =>
    refine .of_empty fun c => ?_
    rw [ends.channels_eq, Table.get?_empty]

theorem Strides.orderly (h : Strides s₀ cmd s t) (hcmd : cmd.Spares Event.IsReserved)
    (hs : Sound s) (hb : t.exchange.drawn < 2 ^ 64) (ho : Orderly s) : Orderly t :=
  h.preserves hs hb ho fun hu hb ho stride => stride.orderly hcmd hu hb ho

/-- As long as no ref has come again, a socket is orderly between commands. -/
theorem preserved_orderly : Preserved (Sparing (ω := ω) Event.IsReserved) fun s =>
    s.exchange.drawn < 2 ^ 64 → Orderly s where
  quiet hI hq hb := (hI (lt_of_le_of_lt hq.evolves.drawn_le hb)).quiet hq
  ends _ he _ := .of_empty fun c => by rw [he.channels_eq, Table.get?_empty]
  handle hs hI hnext hadmit hb := by
    have hq := quiet_next? hnext
    have hs' := hs.quiet hq
    have hstrides := strides_handle hs' _ (due_of_next? hs hnext)
    have hb' := lt_of_le_of_lt (hq.evolves.trans (hstrides.evolves hs')).drawn_le hb
    exact hstrides.orderly hadmit hs' hb ((hI hb').quiet hq)

theorem Reachable.orderly (h : Reachable (Sparing Event.IsReserved) s)
    (hb : s.exchange.drawn < 2 ^ 64) : Orderly s :=
  (preserved_orderly.reachable (fun _ _ _ _ _ => .of_empty fun _ => rfl) h).2 hb

/-! ### Join attempts -/

/-- While a socket carries out a command that it has just taken, a channel attempts to join. -/
inductive Attempts (s : Socket (Recorded ω)) : Command → ChannelId → Socket (Recorded ω) → Prop
  /-- A handle asks for it. -/
  | asked {c : ChannelId} {ch : Channel} {timeout : Nat} (channel : s.channels.get? c = some ch) :
    Attempts s (.channel c (.join timeout)) c
      (s.modifyChannel c fun ch => { ch with timeout := timeout })
  /-- The time for it has come. -/
  | timed {c : ChannelId} {ch : Channel} {generation : Nat} {timer : BackoffTimer}
    (channel : s.channels.get? c = some ch) (fires : ch.rejoinTimer.fire generation = some timer)
    (connected : s.isConnected = true) :
    Attempts s (.timer (.rejoin c generation)) c
      (s.modifyChannel c fun ch => { ch with rejoinTimer := timer })
  /-- A connection is open, and the channel had failed. -/
  | reopened {c : ChannelId} {ch : Channel} {conn : Connection} {t : Socket (Recorded ω)}
    {before after : List Ref} {ref : Ref} (current : s.pruneRetired.conn = some conn)
    (places : s.pruneRetired.markOpen.callbacks.onOpen.refs = before ++ ref :: after)
    (reached : before.foldl runOnOpen s.pruneRetired.markOpen = t)
    (entry : t.callbacks.onOpen.find? ref = some (.rejoin c))
    (channel : t.channels.get? c = some ch) (failed : ch.state = .errored) :
    Attempts s (.transport conn.transport .opened) c (t.resetRejoin c)

omit [Obliging ω] in
/-- What is left of a command once a channel has attempted to join. -/
theorem Attempts.handle_eq (h : Attempts s cmd c t) :
    ∃ refs : List Ref, s.handle cmd = refs.foldl runOnOpen (t.rejoin c) := by
  cases h with
  | asked channel =>
    have hcontains : s.channels.contains c = true := (Table.contains_iff _ _).mpr ⟨_, channel⟩
    exact ⟨[], by simp only [handle, channelOp, hcontains, if_true, applyOp, join, List.foldl_nil]⟩
  | @timed _ ch generation timer channel fires connected =>
    have hconnected : (s.modifyChannel c fun ch => { ch with rejoinTimer := timer }).isConnected =
        true := connected
    refine ⟨[], ?_⟩
    simp only [handle, timerEvent, rejoinTimeout, channel, Option.bind_some, fires, hconnected,
      if_true, List.foldl_nil]
  | @reopened _ ch conn u before after ref current places reached entry channel failed =>
    refine ⟨after, ?_⟩
    have hjoins : runOnOpen u ref = (u.resetRejoin c).rejoin c := by
      simp only [runOnOpen, entry, rejoinIfErrored, channel, failed, if_true]
    simp only [handle, transportEvent, current, if_true, connectionOpened, places,
      List.foldl_append, List.foldl_cons, reached, hjoins]

theorem Attempts.strides (h : Attempts s cmd c t) (hs : Sound s) : Strides s₀ cmd s t := by
  cases h with
  | @asked _ ch timeout channel =>
    have hsame : ch.Alike { ch with timeout := timeout } :=
      ⟨rfl, rfl, rfl, rfl, rfl, fun hq => ⟨_, hq, .refl _⟩, id, .inl⟩
    exact (move_alike (k := .failure) channel hsame).strides trivial
  | @timed _ ch generation timer channel fires connected =>
    exact (move_alike (k := .failure) channel (alike_fired fires)).strides trivial
  | @reopened _ ch conn u before after ref current places reached entry channel failed =>
    have hopen := (quiet_pruneRetired s).trans (quiet_markOpen s.pruneRetired)
    have hbefore : Strides s₀ (.transport conn.transport .opened) s u := by
      rw [← reached]
      exact hopen.strides.trans (strides_runOnOpens (hs.quiet hopen) before)
    exact hbefore.trans
      ((move_alike (k := .failure) channel (alike_resetRejoin ch)).strides trivial)

/-- A channel that attempts to join displaces a live channel of its topic. -/
def Displaces (c d : ChannelId) (topic : String) (s : Socket (Recorded ω)) : Prop :=
  ∃ ch, s.channels.get? c = some ch ∧ ch.topic = topic ∧ ch.state ≠ .leaving ∧
    s.liveDuplicate? topic c = some d

/-- One channel sends its leave and is gone, and only then another sends its join. -/
structure GivesWay (d c : ChannelId) (topic : String) (s t u : Socket (Recorded ω)) : Prop where
  leaves : ∃ p m es, m.event = Event.leave ∧ m.topic = topic ∧
    t.log = s.log ++ .accept (.push d p) m :: es
  gone : Gone d t
  joins : ∃ m, m.event = Event.join ∧ m.topic = topic ∧
    u.log = t.log ++ [.accept (.push c joinPush) m]

theorem Displaces.givesWay {topic : String} (h : Displaces c d topic s) (hs : Sound s)
    (ho : Orderly s) (hb : (s.rejoin c).exchange.drawn < 2 ^ 64) :
    GivesWay d c topic s (s.leaveOpenTopic topic c) (s.rejoin c) := by
  obtain ⟨ch, hc, rfl, hstays, hdup⟩ := h
  rcases rejoin_cases hs hc with ⟨hleaving, _⟩ | ⟨_, hget, heq⟩
  · exact absurd hleaving hstays
  · have hs' := sound_leaveOpenTopic hs ch.topic c
    obtain ⟨join, ch', _, _, hevent, htopic, _, hw⟩ := works_attempt hs' hget
    rw [heq] at hb ⊢
    obtain ⟨hgone, _, hleave⟩ := gone_leaveOpenTopic hs ho hdup
      (lt_of_le_of_lt hw.evolves.drawn_le hb)
    exact ⟨hleave, hgone, _, hevent, htopic, hw.log_eq⟩

/-- Between commands a topic has at most one live channel, and while a command is carried out a
channel that is displaced has sent its leave and is gone when the other sends its join. -/
theorem one_live_channel (h : Reachable (Sparing Event.IsReserved) s)
    (hb : s.exchange.drawn < 2 ^ 64) :
    s.OneLive ∧ ∀ cmd x c d topic t, s.exchange.next? = some (cmd, x) →
      cmd.Spares Event.IsReserved →
      ({ s with exchange := x }.handle cmd).exchange.drawn < 2 ^ 64 →
      Attempts { s with exchange := x } cmd c t → Displaces c d topic t →
      GivesWay d c topic t (t.leaveOpenTopic topic c) (t.rejoin c) := by
  have ho := h.orderly hb
  refine ⟨ho.oneLive, fun cmd x c d topic t hnext hspares hbound hattempts hdisplaces => ?_⟩
  have hq := quiet_next? hnext
  have hs := h.sound.quiet hq
  have hstrides : Strides { s with exchange := x } cmd { s with exchange := x } t :=
    hattempts.strides hs
  have hst := hstrides.sound hs
  obtain ⟨ch, hc, -⟩ := id hdisplaces
  have hrejoin : (t.rejoin c).exchange.drawn < 2 ^ 64 := by
    -- The refs that are drawn after the attempt count as well.
    obtain ⟨refs, heq⟩ := hattempts.handle_eq
    have hrest : Strides { s with exchange := x } cmd (t.rejoin c) (refs.foldl runOnOpen (t.rejoin c)) :=
      strides_runOnOpens (sound_rejoin hst hc) refs
    rw [heq] at hbound
    exact lt_of_le_of_lt (hrest.evolves (sound_rejoin hst hc)).drawn_le hbound
  have hot := hstrides.orderly hspares hs
    (lt_of_le_of_lt (evolves_rejoin hst hc).drawn_le hrejoin) (ho.quiet hq)
  exact hdisplaces.givesWay hst hot hrejoin

end Outside

/-- A channel is joining when another one of its topic is asked to join. -/
def rivalry : List Deed := asking "room" ++ [.createChannel "room", .take, .join 1 10000]

/-- The channel that was joining first gives way. -/
theorem one_live_channel_rivalry : ∃ (s t : Socket (Recorded Idle)) (x : Exchange),
    Reachable (Sparing Event.IsReserved) s ∧
    s.exchange.next? = some (.channel 1 (.join 10000), x) ∧
    Attempts { s with exchange := x } (.channel 1 (.join 10000)) 1 t ∧
    Displaces 1 0 "room" t ∧ s.OneLive ∧
    GivesWay 0 1 "room" t (t.leaveOpenTopic "room" 1) (t.rejoin 1) := by
  let asked (s : Socket (Recorded Idle)) := s.modifyChannel 1 fun ch => { ch with timeout := 10000 }
  obtain ⟨s, hs, hview⟩ := reachable_of_play? (spares_of_sparesAll Event.IsReserved)
    (show (ready.play? sparesAll rivalry).map (fun s =>
        (s.exchange.drawn, s.exchange.next?.map Prod.fst, s.step?.map fun u => u.exchange.drawn,
          (s.channels.get? 1).isSome,
          ((asked s).channels.get? 1).map fun ch => (ch.topic, ch.state),
          (asked s).liveDuplicate? "room" 1)) =
      some (5, some (.channel 1 (.join 10000)), some 7, true, some ("room", .closed), some 0) by
      cbv)
  simp only [Prod.mk.injEq] at hview
  obtain ⟨hdrawn, hnext, hafter, hchannel, hasked, hdup⟩ := hview
  obtain ⟨⟨cmd, x⟩, hnext, rfl⟩ := Option.map_eq_some_iff.mp hnext
  obtain ⟨ch, hc⟩ := Option.isSome_iff_exists.mp hchannel
  obtain ⟨ch', hc', hch'⟩ := Option.map_eq_some_iff.mp hasked
  simp only [Prod.mk.injEq] at hch'
  have hattempts : Attempts { s with exchange := x } (.channel 1 (.join 10000)) 1
      (asked { s with exchange := x }) := .asked hc
  have hdisplaces : Displaces 1 0 "room" (asked { s with exchange := x }) :=
    ⟨ch', hc', hch'.1, by simp [hch'.2], hdup⟩
  have hbound :
      ({ s with exchange := x }.handle (.channel 1 (.join 10000))).exchange.drawn < 2 ^ 64 := by
    simp only [step?, hnext, Option.map_some, Option.some.injEq] at hafter
    rw [hafter]
    decide
  obtain ⟨hlive, hgives⟩ := one_live_channel hs (hdrawn ▸ by decide)
  exact ⟨s, _, x, hs, hnext, hattempts, hdisplaces, hlive,
    hgives _ x 1 0 "room" _ hnext trivial hbound hattempts hdisplaces⟩

end Socket

end Switchboard
