import Switchboard.Proofs.Dormant
import Switchboard.Proofs.Fates

/-!
# Channels that try to join

While a channel joins it listens for the reply to its join, and the timer of the join is armed: either
the reply comes, or the time is over.  A reply that has a status which channels do not know of a join
would leave it with nothing to wait for.

Main definitions

* `Channel.Tries`: a channel that joins listens for the reply, with the timer armed;
* `Socket.Heard`: the replies to joins had statuses that channels know.

Main results

* `Socket.Move.tries`, `Socket.Strides.tries`: moves and strides keep every channel trying;
* `Socket.Reachable.tries`: every channel tries at all times.
-/

set_option autoImplicit false

namespace Switchboard

namespace Channel

/-- While a channel joins it listens for the reply to its join, and the timer of the join is armed. -/
def Tries (ch : Channel) : Prop :=
  ch.state = .joining → ch.Awaits joinPush ∧
    ∀ ⦃q⦄, ch.pushes.get? joinPush = some q → q.timer.armed = true

variable {x y : Exchange} {c : ChannelId} {ch ch' : Channel} {p : PushId} {q : Push}

theorem tries_of_state (h : ch.state ≠ .joining) : ch.Tries := fun hstate => absurd hstate h

theorem Tries.of_keepsJoin (h : ch.Tries) (hstate : ch'.state = ch.state) (hjoin : ch.KeepsJoin ch')
    (hawaits : ch.Awaits joinPush → ch'.Awaits joinPush) : ch'.Tries := by
  intro hjoining
  obtain ⟨hwaits, harmed⟩ := h (hstate ▸ hjoining)
  refine ⟨hawaits hwaits, fun q' hq' => ?_⟩
  obtain ⟨q, hq, _, htimer⟩ := hjoin hq'
  rw [htimer]
  exact harmed hq

/-- A channel whose join has just been sent tries to join. -/
theorem Starts.tries (h : ch.Starts x y c joinPush ch') : ch'.Tries := by
  obtain ⟨_, _, _, q', _, _, hq', _, harmed, _, _, hawaits⟩ := h.self
  refine fun _ => ⟨hawaits, fun q hq => ?_⟩
  rw [hq'] at hq
  cases hq
  exact harmed

theorem tries_new (topic : String) (params : Params) (timeout : Nat) (refs : List Ref) :
    (Channel.new topic params timeout refs).Tries := tries_of_state (by simp [Channel.new])

end Channel

namespace Socket

variable {ω : Type} {s t u : Socket (Recorded ω)} {k : Prompt} {c d : ChannelId}
variable {ch ch' : Channel} {p : PushId} {q : Push} {es : List Effect}
variable {s₀ : Socket (Recorded ω)} {cmd : Command}

/-! ### Moves -/

/-- Every reply to a join had one of the statuses that channels know of it. -/
def Heard (s : Socket (Recorded ω)) : Prop :=
  ∀ ⦃c r reply⦄, Effect.resolve c joinPush r reply ∈ s.log → reply.IsJoinReply

theorem Heard.of_log (h : Heard t) (hlog : t.log = s.log ++ es) : Heard s :=
  fun _ _ _ hmem => h (hlog ▸ List.mem_append_left es hmem)

theorem Heard.of_frame (h : Heard t) (f : Framed c s t) : Heard s := by
  obtain ⟨es, hlog⟩ := f.log
  exact h.of_log hlog

/-- A channel that tries to join goes on trying, unless a reply has an unknown status. -/
theorem Alter.tries {registered : Prop} {x y : Exchange} (h : Alter k x y registered c ch ch' es)
    (hk : k.Spares Event.IsReserved) (hs : ch.Sound x c) (hxy : x.Evolves y) (ha : ch.Apart)
    (hheard : ∀ ⦃r reply⦄, Effect.resolve c joinPush r reply ∈ es → reply.IsJoinReply)
    (ht : ch.Tries) : ch'.Tries := by
  cases h with
  | alike same notes =>
    exact ht.of_keepsJoin same.state same.keepsJoin (Channel.awaits_congr same.bindings).mpr
  | hooked op => exact ht.of_keepsJoin rfl (.of_get? rfl) id
  | listen op spent fresh => exact ht.of_keepsJoin rfl (.of_get? rfl) Channel.awaits_bind.mpr
  | unbind op =>
    rw [op] at hk
    exact ht.of_keepsJoin rfl (.of_get? rfl)
      (hs.awaits_unbind (fun r heq => hk (.inr ⟨r, heq⟩)) _).mpr
  | @enlist p event payload timeout ch₁ buffer _ op free spent other starts waits accepts =>
    have hs₁ := (hs.mono hxy).insert_new spent free (Push.isNew_new event (.fixed payload) timeout)
    refine ht.of_keepsJoin starts.state_eq (starts.keepsJoin_insert other) fun hawaits => ?_
    exact (starts.awaits hs₁ (ha.insert rfl)).mpr (.inr hawaits)
  | settle other push awaits unarmed answers =>
    refine ht.of_keepsJoin (Channel.dropBindings?_state _) (.of_get? ?_) fun hawaits => ?_
    · rw [Channel.settle_pushes, Table.get?_set_of_ne _ other.symm]
    · exact (hs.awaits_settle ha push _ _).mpr ⟨other.symm, hawaits⟩
  | forget other push received =>
    refine ht.of_keepsJoin (Channel.dropBindings?_state _) (.of_get? ?_) fun hawaits => ?_
    · rw [Channel.forget_pushes, Table.get?_erase_of_ne _ other.symm]
    · exact (hs.awaits_forget ha push).mpr ⟨other.symm, hawaits⟩
  | @unheard q timer reply push awaits unarmed answers status =>
    have hmem : Effect.resolve c joinPush q.ref reply ∈ settled c joinPush q reply :=
      List.mem_append_right _ (List.mem_singleton_self _)
    exact absurd (hheard hmem) status
  | refused push awaits unarmed answers => exact Channel.tries_of_state (by simp)
  | abandoned push awaits unarmed answers fresh free spent other starts push' =>
    exact Channel.tries_of_state (by simp [Channel.takeBack_state])
  | failed listed push => exact Channel.tries_of_state (by simp)

/-- One channel changes, and still tries. -/
theorem Framed.tries (f : Framed c s t) (ht : Throughout Channel.Tries s)
    (hself : ∀ ⦃ch'⦄, t.channels.get? c = some ch' → ch'.Tries) : Throughout Channel.Tries t := by
  intro d ch' hd
  by_cases hdc : d = c
  · subst hdc
    exact hself hd
  · exact ht (f.others hdc ▸ hd)

theorem Move.tries (h : Move k c s t) (hk : k.Spares Event.IsReserved) (hs : Sound s)
    (hb : t.exchange.drawn < 2 ^ 64) (hheard : Heard t) (ht : Throughout Channel.Tries s) :
    Throughout Channel.Tries t := by
  refine h.frame.tries ht fun ch' hc => ?_
  have hbs := lt_of_le_of_lt h.frame.evolves.drawn_le hb
  cases h with
  | quiet quiet => exact ht (quiet.get? c ▸ hc)
  | alter channel alter works =>
    rw [works.get?] at hc
    cases hc
    refine alter.tries hk (hs.channels channel) works.evolves (hs.channel_apart hbs channel)
      (fun r reply hmem => hheard (c := c) (r := r) ?_) (ht channel)
    rw [works.log_eq]
    exact List.mem_append_right _ hmem
  | accepted channel push awaits unarmed answers status works flush =>
    have hst := hs.accept channel push works
    obtain ⟨ch₁, hc₁, hjoined⟩ := flush.channel hst (Φ := fun ch₁ => ch₁.state = .joined)
      (fun {_ _ _ _ _} _ _ _ _ hstarts hjoined => hstarts.state_eq.trans hjoined) works.get? rfl
    rw [hc₁] at hc
    cases hc
    exact Channel.tries_of_state (by simp [hjoined])
  | closed channel closes =>
    rw [closes.get?_self] at hc
    split at hc
    · cases hc
    · cases hc
      exact Channel.tries_of_state (by simp)

theorem Moves.tries (h : Moves k c s t) (hk : k.Spares Event.IsReserved) (hs : Sound s)
    (hb : t.exchange.drawn < 2 ^ 64) (hheard : Heard t) (ht : Throughout Channel.Tries s) :
    Throughout Channel.Tries t := by
  induction h with
  | refl => exact ht
  | tail moves move ih =>
    have hu := Moves.sound moves hs
    exact move.tries hk hu hb hheard
      (ih (lt_of_le_of_lt move.frame.evolves.drawn_le hb) (hheard.of_frame move.frame))

theorem tries_of_quiet (hq : Quiet s t) (ht : Throughout Channel.Tries s) :
    Throughout Channel.Tries t := fun c _ hc => ht (hq.get? c ▸ hc)

section Outside

variable [Outside ω] [Obliging ω]

/-! ### Strides -/

theorem tries_leave {timeout : Nat} {detached : Bool} (hs : Sound s)
    (hi : Intact Event.IsReserved s) (hc : s.channels.get? c = some ch)
    (hspent : s.exchange.Spent (.pushes c) p) (hfree : ch.pushes.get? p = none)
    (hother : p ≠ joinPush) (hb : (s.leave c p timeout detached).exchange.drawn < 2 ^ 64)
    (ht : Throughout Channel.Tries s) :
    Throughout Channel.Tries (s.leave c p timeout detached) := by
  have hgone := gone_leave hs hi hc hspent hfree hother timeout detached hb
  refine (frame_leave hs hc hspent hfree hother timeout detached).tries ht fun ch' hc' => ?_
  exact Channel.tries_of_state (by simp [hgone.2 hc'])

theorem tries_leaveOpenTopic {topic : String} (hs : Sound s) (hi : Intact Event.IsReserved s)
    (hb : (s.leaveOpenTopic topic c).exchange.drawn < 2 ^ 64) (ht : Throughout Channel.Tries s) :
    Throughout Channel.Tries (s.leaveOpenTopic topic c) := by
  rcases leaveOpenTopic_cases hs topic c with ⟨_, heq⟩ |
    ⟨d, ch, p, t, _, _, _, hch, _, _, hquiet, _, hspent, hfree, hother, heq⟩
  · rw [heq]
    exact ht
  · rw [heq] at hb ⊢
    exact tries_leave (hs.quiet hquiet) (hi.turns hquiet) (hquiet.get? d ▸ hch) hspent hfree hother
      hb (tries_of_quiet hquiet ht)

theorem tries_rejoin (hs : Sound s) (hi : Intact Event.IsReserved s)
    (hc : s.channels.get? c = some ch) (hb : (s.rejoin c).exchange.drawn < 2 ^ 64)
    (ht : Throughout Channel.Tries s) : Throughout Channel.Tries (s.rejoin c) := by
  rcases rejoin_cases hs hc with ⟨_, heq⟩ | ⟨hstays, hget, heq⟩
  · rw [heq]
    exact ht
  · obtain ⟨_, ch', _, _, _, _, hstarts, hw⟩ := works_attempt (sound_leaveOpenTopic hs ch.topic c) hget
    rw [heq] at hb ⊢
    refine hw.frame.tries (tries_leaveOpenTopic hs hi (lt_of_le_of_lt hw.evolves.drawn_le hb) ht)
      fun ch₁ hc₁ => ?_
    rw [hw.get?] at hc₁
    cases hc₁
    exact hstarts.tries

/-- The timeout of a join that is listened for takes the join back. -/
theorem tries_pushTimeout (hs : Sound s) (hi : Intact Event.IsReserved s) (c : ChannelId)
    (p : PushId) (generation : Nat) (hb : (s.pushTimeout c p generation).exchange.drawn < 2 ^ 64)
    (hbs : s.exchange.drawn < 2 ^ 64) (hheard : Heard (s.pushTimeout c p generation))
    (ht : Throughout Channel.Tries s) : Throughout Channel.Tries (s.pushTimeout c p generation) := by
  rcases pushTimeout_unhooked hs hbs hi.to_unhooked c p generation with
    heq | ⟨ch, q, hc, hp, harmed, ⟨hnot, hw⟩ | ⟨r, t, hr, hsettled, hrest⟩⟩
  · rw [heq]
    exact ht
  · refine hw.frame.tries ht fun ch' hc' => ?_
    rw [hw.get?] at hc'
    cases hc'
    by_cases hjoin : p = joinPush
    · subst hjoin
      exact Channel.tries_of_state fun hjoining => hnot (ht hc hjoining).1
    · refine (ht hc).of_keepsJoin rfl (.of_get? ?_) id
      exact Table.get?_set_of_ne _ (Ne.symm hjoin) _
  · obtain ⟨hmoves, _⟩ := hsettled.moves (level_dispatchTo 2) hs
    refine tries_of_quiet hrest (hmoves.tries trivial hs (lt_of_le_of_lt hrest.evolves.drawn_le hb)
      (hheard.of_log hrest.log_eq) ht)

theorem log_leaveOpenTopic (hs : Sound s) (topic : String) (c : ChannelId) :
    ∃ es, (s.leaveOpenTopic topic c).log = s.log ++ es := by
  rcases leaveOpenTopic_cases hs topic c with ⟨_, heq⟩ |
    ⟨d, ch, p, t, _, _, _, hch, _, _, hquiet, _, hspent, hfree, hother, heq⟩
  · exact ⟨[], by rw [heq, List.append_nil]⟩
  · rw [heq]
    exact (hquiet.frame.trans (frame_leave (hs.quiet hquiet) (hquiet.get? d ▸ hch) hspent hfree
      hother ch.timeout true)).log

theorem log_rejoin (hs : Sound s) (hc : s.channels.get? c = some ch) :
    ∃ es, (s.rejoin c).log = s.log ++ es := by
  rcases rejoin_cases hs hc with ⟨_, heq⟩ | ⟨hstays, hget, heq⟩
  · exact ⟨[], by rw [heq, List.append_nil]⟩
  · obtain ⟨es, hes⟩ := log_leaveOpenTopic hs ch.topic c
    obtain ⟨_, _, _, _, _, _, _, hw⟩ := works_attempt (sound_leaveOpenTopic hs ch.topic c) hget
    exact ⟨_, by rw [heq, hw.log_eq, hes, List.append_assoc]⟩

/-- The record of a socket only grows. -/
theorem Stride.log (h : Stride s₀ cmd s t) (hs : Sound s) : ∃ es, t.log = s.log ++ es := by
  cases h with
  | quiet quiet => exact ⟨_, quiet.log_eq⟩
  | move heeds move => exact move.frame.log
  | expire _ command =>
    rcases roughly_pushTimeout hs _ _ _ with heq | ⟨_, _, _, _, _, _, _, hrough⟩
    · exact ⟨[], by rw [heq, List.append_nil]⟩
    · exact hrough.frame.log
  | leave command channel spent free other => exact (frame_leave hs channel spent free other _ _).log
  | @rejoin _ c ch f channel same cause =>
    have hmove : Move .failure c s (s.modifyChannel c f) := move_alike channel same
    exact log_rejoin (hmove.sound hs) (works_modifyChannel channel f).get?
  | enters command spent free enters => exact ⟨[], by rw [enters.log_eq, List.append_nil]⟩
  | erases unlisted erases => exact ⟨[], by rw [erases.log_eq, List.append_nil]⟩
  | ends ends => exact ⟨[], by rw [ends.log_eq, List.append_nil]⟩

theorem Stride.tries (h : Stride s₀ cmd s t) (hcmd : cmd.Spares Event.IsReserved) (hs : Sound s)
    (hi : Intact Event.IsReserved s) (hb : t.exchange.drawn < 2 ^ 64) (hheard : Heard t)
    (ht : Throughout Channel.Tries s) : Throughout Channel.Tries t := by
  have hbs := lt_of_le_of_lt (h.evolves hs).drawn_le hb
  cases h with
  | quiet quiet => exact tries_of_quiet quiet ht
  | move heeds move => exact move.tries (heeds.spares hcmd) hs hb hheard ht
  | expire _ command => exact tries_pushTimeout hs hi _ _ _ hb hbs hheard ht
  | leave command channel spent free other => exact tries_leave hs hi channel spent free other hb ht
  | @rejoin _ c ch f channel same cause =>
    have hmove : Move .failure c s (s.modifyChannel c f) := move_alike channel same
    have hget := (works_modifyChannel channel f).get?
    have hheard' : Heard (s.modifyChannel c f) :=
      hheard.of_log (log_rejoin (hmove.sound hs) hget).choose_spec
    exact tries_rejoin (hmove.sound hs) (hmove.intact trivial hs hi) hget hb
      (hmove.tries trivial hs hbs hheard' ht)
  | @enters _ _ c topic params command spent free enters =>
    intro d ch hd
    rcases enters.get? d hd with hold | ⟨_, params, timeout, refs, rfl⟩
    · exact ht hold
    · exact Channel.tries_new topic params timeout refs
  | erases unlisted erases => exact fun d _ hd => ht (erases.get? hd).2
  | ends ends =>
    intro d ch hd
    rw [ends.channels_eq, Table.get?_empty] at hd
    cases hd

theorem Strides.tries (h : Strides s₀ cmd s t) (hcmd : cmd.Spares Event.IsReserved) (hs : Sound s)
    (hi : Intact Event.IsReserved s) (hb : t.exchange.drawn < 2 ^ 64) (hheard : Heard t)
    (ht : Throughout Channel.Tries s) : Throughout Channel.Tries t := by
  induction h with
  | refl => exact ht
  | tail strides stride ih =>
    have hu := Strides.sound strides hs
    refine stride.tries hcmd hu (Strides.intact strides hcmd hs hi) hb hheard ?_
    exact ih (lt_of_le_of_lt (stride.evolves hu).drawn_le hb)
      (hheard.of_log (stride.log hu).choose_spec)

theorem Strides.log (h : Strides s₀ cmd s t) (hs : Sound s) : ∃ es, t.log = s.log ++ es := by
  induction h with
  | refl => exact ⟨[], (List.append_nil _).symm⟩
  | tail strides stride ih =>
    obtain ⟨es, hes⟩ := ih
    obtain ⟨es', hes'⟩ := stride.log (Strides.sound strides hs)
    exact ⟨es ++ es', by rw [hes', hes, List.append_assoc]⟩

/-! ### Runs -/

variable {admits : Socket (Recorded ω) → Command → Prop}

/-- Where users leave the channels' own bindings alone and replies to joins have known statuses, every
channel that joins waits for the reply, with the timer of its join armed. -/
theorem preserved_tries (hadmits : ∀ s cmd, admits s cmd → cmd.Spares Event.IsReserved) :
    Preserved (ω := ω) admits fun s => Intact Event.IsReserved s ∧
      (s.exchange.drawn < 2 ^ 64 → Heard s → Throughout Channel.Tries s) where
  quiet hI hq := ⟨hI.1.turns hq, fun hb hheard => tries_of_quiet hq
    (hI.2 (lt_of_le_of_lt hq.evolves.drawn_le hb) (hheard.of_log hq.log_eq))⟩
  ends _ he := by
    refine ⟨he.intact, fun _ _ c ch hc => ?_⟩
    rw [he.channels_eq, Table.get?_empty] at hc
    cases hc
  handle hs hI hnext hadmit := by
    have hq := quiet_next? hnext
    have hs' := hs.quiet hq
    have hi' := hI.1.turns hq
    have hspares := hadmits _ _ hadmit
    have hstrides := strides_handle hs' _ (due_of_next? hs hnext)
    refine ⟨hstrides.intact hspares hs' hi', fun hb hheard => ?_⟩
    have hbx := lt_of_le_of_lt (hstrides.evolves hs').drawn_le hb
    have hheardx := hheard.of_log (hstrides.log hs').choose_spec
    exact hstrides.tries hspares hs' hi' hb hheard (tries_of_quiet hq
      (hI.2 (lt_of_le_of_lt hq.evolves.drawn_le hbx) (hheardx.of_log hq.log_eq)))

theorem Reachable.tries (h : Reachable admits s)
    (hadmits : ∀ s cmd, admits s cmd → cmd.Spares Event.IsReserved)
    (hb : s.exchange.drawn < 2 ^ 64) (hheard : Heard s) : Throughout Channel.Tries s := by
  refine ((preserved_tries hadmits).reachable (fun _ _ _ _ => ⟨?_, ?_⟩) h).2.2 hb hheard
  · exact fun _ _ hc => by cases hc
  · exact fun _ _ _ _ hc => by cases hc

end Outside

end Socket

end Switchboard
