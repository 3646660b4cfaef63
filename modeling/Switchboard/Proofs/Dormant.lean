import Switchboard.Proofs.OneLive

/-!
# Closed channels

A channel that has closed is out of the registry.  What could bring it back is an attempt to join
that is still under way: the time of its join push, when it runs out, lets the channel fail, and a
failed channel tries again.  Where no such attempt is under way the channel is dormant, and it stays
so whatever happens besides, until its handle asks it to join.

Main definitions

* `Channel.Calm`: a channel that is closed or leaves has no join attempt armed;
* `Channel.Dormant`, `Socket.Dormant`: a channel that nothing can bring back;
* `Effect.joins`: the join push of a channel is handed to the socket.

Main results

* `Socket.Reachable.calm`: all channels are calm at all times;
* `Socket.Stride.dormant`: whatever a socket does, a dormant channel stays dormant and its join push
  stays where it is;
* `Socket.closed_stays_closed`: a closed channel whose join push does not wait stays closed.
-/

set_option autoImplicit false

namespace Switchboard

/-- Whether an effect hands the join push of a channel to the socket. -/
def Effect.joins (c : ChannelId) : Effect → Bool
  | .accept (.push d p) _ => d == c && p == joinPush
  | _ => false

/-- The join push of a channel waits under the ref, and with the timer, that it had. -/
def Channel.KeepsJoin (ch ch' : Channel) : Prop :=
  ∀ ⦃q'⦄, ch'.pushes.get? joinPush = some q' →
    ∃ q, ch.pushes.get? joinPush = some q ∧ q'.ref = q.ref ∧ q'.timer = q.timer

/-- A prompt is no answer to the join push of a channel. -/
def Prompt.PassesOver (k : Prompt) (ch : Channel) : Prop :=
  ∀ ⦃r payload q⦄, k = .reply r payload → ch.pushes.get? joinPush = some q → q.ref ≠ some r

/-- A command neither creates a channel nor asks it to join. -/
structure Command.Ignores (cmd : Command) (c : ChannelId) : Prop where
  creates : ∀ topic params, cmd ≠ .createChannel c topic params
  asks : ∀ timeout, cmd ≠ .channel c (.join timeout)

namespace Channel

/-- A channel that is closed or leaves has no join attempt armed. -/
def Calm (ch : Channel) : Prop :=
  ch.state = .closed ∨ ch.state = .leaving → ch.rejoinTimer.slot.armed = false

/-- A channel that is closed or leaves, without a join attempt that is armed or waits. -/
structure Dormant (ch : Channel) : Prop where
  state : ch.state = .closed ∨ ch.state = .leaving
  rejoin : ch.rejoinTimer.slot.armed = false
  join : ∀ {q}, ch.pushes.get? joinPush = some q → q.timer.armed = false

variable {x y : Exchange} {c : ChannelId} {ch ch' : Channel} {p : PushId} {q : Push}

theorem calm_of_state (h : ch.state ≠ .closed) (h' : ch.state ≠ .leaving) : ch.Calm :=
  fun hstate => (hstate.elim h h').elim

theorem Alike.rejoin_unarmed (h : ch.Alike ch') (hstate : ch.state ≠ .errored)
    (hrejoin : ch.rejoinTimer.slot.armed = false) : ch'.rejoinTimer.slot.armed = false := by
  by_contra harmed
  rcases h.rejoin (by simpa using harmed) with h' | h'
  · rw [hrejoin] at h'
    cases h'
  · exact hstate h'

theorem Alike.calm (h : ch.Alike ch') (hcalm : ch.Calm) : ch'.Calm := by
  intro hstate
  rw [h.state] at hstate
  refine h.rejoin_unarmed ?_ (hcalm hstate)
  rcases hstate with hstate | hstate <;> simp [hstate]

@[simp] theorem start_rejoinTimer (r : Ref) (n : BindingId) :
    (ch.start p q r n).rejoinTimer = ch.rejoinTimer := dropBindings?_rejoinTimer _

theorem Starts.calm (h : ch.Starts x y c p ch') (hcalm : ch.Calm) : ch'.Calm := by
  obtain ⟨q, r, n, _, _, ha⟩ := h
  exact ha.calm (by simpa [Calm] using hcalm)

theorem KeepsJoin.of_get? (h : ch'.pushes.get? joinPush = ch.pushes.get? joinPush) :
    ch.KeepsJoin ch' :=
  fun _ hq => ⟨_, h ▸ hq, rfl, rfl⟩

theorem Alike.keepsJoin (h : ch.Alike ch') : ch.KeepsJoin ch' := by
  intro q' hq'
  obtain ⟨q, hq, hqq⟩ := h.push hq'
  exact ⟨q, hq, hqq.ref, hqq.timer⟩

/-- To send another push leaves the join push as it is. -/
theorem Starts.keepsJoin (h : ch.Starts x y c p ch') (hother : p ≠ joinPush) :
    ch.KeepsJoin ch' := by
  intro q' hq'
  obtain ⟨q, hq, hqq⟩ := h.other hother.symm hq'
  exact ⟨q, hq, hqq.ref, hqq.timer⟩

/-- So does to add it before. -/
theorem Starts.keepsJoin_insert (h : (ch.insert p q).Starts x y c p ch') (hother : p ≠ joinPush) :
    ch.KeepsJoin ch' := by
  intro q' hq'
  obtain ⟨q₁, hq₁, href, htimer⟩ := h.keepsJoin hother hq'
  rw [insert, Table.get?_set_of_ne _ hother.symm] at hq₁
  exact ⟨q₁, hq₁, href, htimer⟩

theorem Starts.rejoinTimer_armed (h : ch.Starts x y c p ch') (hstate : ch.state ≠ .errored)
    (hrejoin : ch.rejoinTimer.slot.armed = false) : ch'.rejoinTimer.slot.armed = false := by
  obtain ⟨q, r, n, _, _, ha⟩ := h
  refine ha.rejoin_unarmed ?_ ?_
  · rw [start_state]
    exact hstate
  · rw [start_rejoinTimer]
    exact hrejoin

theorem Dormant.state_ne (h : ch.Dormant) : ch.state ≠ .errored := by
  rcases h.state with hstate | hstate <;> simp [hstate]

theorem Dormant.of_keepsJoin (h : ch.Dormant) (hjoin : ch.KeepsJoin ch')
    (hstate : ch'.state = ch.state) (hrejoin : ch'.rejoinTimer.slot.armed = false) :
    ch'.Dormant where
  state := hstate ▸ h.state
  rejoin := hrejoin
  join hq' := by
    obtain ⟨q, hq, _, htimer⟩ := hjoin hq'
    rw [htimer]
    exact h.join hq

theorem calm_new (topic : String) (params : Params) (timeout : Nat) (refs : List Ref) :
    (Channel.new topic params timeout refs).Calm := fun _ => rfl

end Channel

/-- Out of the registry a join is answered by the channel alone. -/
theorem Prompt.PassesOver.not_answers {k : Prompt} {registered : Prop} {ch : Channel} {q : Push}
    {reply : Reply} (h : k.PassesOver ch) (hunlisted : ¬ registered)
    (hq : ch.pushes.get? joinPush = some q) : ¬ k.Answers registered ch q reply := by
  intro hanswers
  cases k with
  | op op => exact hanswers
  | message m => exact hunlisted hanswers.1
  | failure => exact hanswers
  | reply r payload => exact h rfl hq hanswers.1

theorem Prompt.PassesOver.of_keepsJoin {k : Prompt} {ch ch' : Channel} (h : k.PassesOver ch)
    (hjoin : ch.KeepsJoin ch') : k.PassesOver ch' := by
  intro r payload q' hr hq'
  obtain ⟨q, hq, href, _⟩ := hjoin hq'
  rw [href]
  exact h hr hq

namespace Socket

variable {ω : Type} {s t u : Socket (Recorded ω)} {k : Prompt} {c d : ChannelId}
variable {ch ch' : Channel} {p : PushId} {q : Push} {es : List Effect}
variable {s₀ : Socket (Recorded ω)} {cmd : Command}

/-! ### Join attempts that are armed -/

theorem Alter.calm {registered : Prop} {x y : Exchange} (h : Alter k x y registered c ch ch' es)
    (hcalm : ch.Calm) : ch'.Calm := by
  cases h with
  | alike same notes => exact same.calm hcalm
  | hooked op => exact hcalm
  | listen op spent fresh => exact hcalm
  | unbind op => exact hcalm
  | enlist op free spent other starts waits accepts => exact starts.calm hcalm
  | settle other push awaits unarmed answers => simpa [Channel.Calm, Channel.settle] using hcalm
  | forget other push received => simpa [Channel.Calm, Channel.forget] using hcalm
  | unheard push awaits unarmed answers => simpa [Channel.Calm, Channel.settle] using hcalm
  | refused push awaits unarmed answers => exact Channel.calm_of_state (by simp) (by simp)
  | abandoned push awaits unarmed answers fresh free spent other starts push' =>
    exact Channel.calm_of_state (by simp) (by simp)
  | failed listed push => exact Channel.calm_of_state (by simp) (by simp)

theorem Rough.calm (h : Rough k c s t) (hs : Sound s)
    (hcalm : ∀ {ch}, s.channels.get? c = some ch → ch.Calm) {ch' : Channel}
    (hc' : t.channels.get? c = some ch') : ch'.Calm := by
  cases h with
  | move move =>
    cases move with
    | quiet quiet => exact hcalm (quiet.get? c ▸ hc')
    | alter channel alter works =>
      rw [works.get?] at hc'
      cases hc'
      exact alter.calm (hcalm channel)
    | accepted channel push awaits unarmed answers status works flush =>
      obtain ⟨ch'', hc'', hcalm''⟩ := flush.channel (hs.accept channel push works)
        (fun _ _ _ _ hstarts => hstarts.calm) works.get?
        (Channel.calm_of_state (by simp) (by simp))
      rw [hc''] at hc'
      cases hc'
      exact hcalm''
    | closed channel closes =>
      rw [closes.get?_self] at hc'
      split at hc'
      · cases hc'
      · cases hc'
        exact fun _ => rfl
  | @lapse ch p q channel push works =>
    rw [works.get?] at hc'
    cases hc'
    have hch : ch.Calm := hcalm channel
    exact hch
  | departs channel push free spent other starts works accepts =>
    rw [works.get?] at hc'
    cases hc'
    exact starts.calm fun _ => rfl
  | joins channel push stays starts works =>
    rw [works.get?] at hc'
    cases hc'
    exact starts.calm (Channel.calm_of_state (by simp) (by simp))

/-! ### Join pushes that nobody sends -/

/-- The record grows, and the join push of a channel is not among what it grows by. -/
def Hushed (c : ChannelId) (s t : Socket (Recorded ω)) : Prop :=
  ∃ es, t.log = s.log ++ es ∧ ∀ e ∈ es, e.joins c = false

theorem Hushed.of_log (h : t.log = s.log ++ es) (hes : ∀ e ∈ es, e.joins c = false) :
    Hushed c s t := ⟨es, h, hes⟩

theorem Hushed.of_eq (h : t.log = s.log) : Hushed c s t :=
  .of_log (h.trans (List.append_nil _).symm) (by simp)

@[refl] theorem Hushed.refl (s : Socket (Recorded ω)) : Hushed c s s := .of_eq rfl

theorem Hushed.trans (h : Hushed c s t) (h' : Hushed c t u) : Hushed c s u := by
  obtain ⟨es, hlog, hes⟩ := h
  obtain ⟨es', hlog', hes'⟩ := h'
  refine ⟨es ++ es', by rw [hlog', hlog, List.append_assoc], ?_⟩
  intro e he
  exact (List.mem_append.mp he).elim (hes e) (hes' e)

theorem joins_settled (reply : Reply) : ∀ e ∈ settled d p q reply, e.joins c = false := by
  simp only [settled, List.mem_append, List.mem_map, List.mem_singleton]
  rintro e (⟨ticket, _, rfl⟩ | rfl) <;> rfl

theorem joins_accept (hother : p ≠ joinPush) (m : Message) :
    (Effect.accept (.push d p) m).joins c = false := by
  simp [Effect.joins, hother]

/-- A move hands no join push to the socket. -/
theorem Alter.joins {registered : Prop} {x y : Exchange} (h : Alter k x y registered d ch ch' es) :
    ∀ e ∈ es, e.joins c = false := by
  cases h with
  | alike same notes =>
    intro e he
    cases notes e he <;> rfl
  | hooked op => simp
  | listen op spent fresh => simp
  | unbind op => simp
  | enlist op free spent other starts waits accepts =>
    intro e he
    rw [eq_accept_of_mem accepts he]
    exact joins_accept other _
  | settle other push awaits unarmed answers => exact joins_settled _
  | forget other push received => simp
  | unheard push awaits unarmed answers => exact joins_settled _
  | refused push awaits unarmed answers =>
    intro e he
    rcases List.mem_append.mp he with he | he
    · exact joins_settled _ e he
    · rw [List.mem_singleton.mp he]
      rfl
  | abandoned push awaits unarmed answers fresh free spent other starts push' =>
    intro e he
    simp only [List.mem_append, List.mem_cons, List.not_mem_nil, or_false] at he
    rcases he with he | rfl | rfl
    · exact joins_settled _ e he
    · rfl
    · exact joins_accept other _
  | failed listed push => simp

theorem Flush.hushed {ps : List PushId} (h : Flush d ps s t) (hps : ∀ p ∈ ps, p ≠ joinPush) :
    Hushed c s t := by
  induction h with
  | nil s => exact .refl s
  | pass late rest ih => exact ih fun p hp => hps p (List.mem_cons_of_mem _ hp)
  | send channel push inTime starts works rest ih =>
    refine (Hushed.of_log works.log_eq ?_).trans (ih fun p hp => hps p (List.mem_cons_of_mem _ hp))
    simpa using joins_accept (hps _ List.mem_cons_self) _

theorem Move.hushed (h : Move k d s t) (hs : Sound s) : Hushed c s t := by
  cases h with
  | quiet quiet => exact .of_log quiet.log_eq (by simp)
  | alter channel alter works => exact .of_log works.log_eq alter.joins
  | accepted channel push awaits unarmed answers status works flush =>
    refine (Hushed.of_log works.log_eq ?_).trans (flush.hushed (hs.channels channel).buffered)
    intro e he
    rcases List.mem_append.mp he with he | he
    · exact joins_settled _ e he
    · rw [List.mem_singleton.mp he]
      rfl
  | closed channel closes => exact .of_eq closes.log_eq

theorem Moves.hushed (h : Moves k d s t) (hs : Sound s) : Hushed c s t := by
  induction h with
  | refl => exact .refl s
  | tail moves move ih => exact ih.trans (move.hushed (Moves.sound moves hs))

/-! ### Dormant channels -/

/-- A channel out of the registry that nothing can bring back; it may have been forgotten. -/
structure Dormant (c : ChannelId) (s : Socket (Recorded ω)) : Prop where
  known : s.exchange.Spent .channels c
  unlisted : c ∉ s.order
  channel : ∀ {ch}, s.channels.get? c = some ch → ch.Dormant

/-- The moves of other channels leave a dormant channel where it is. -/
theorem Dormant.frame (h : Dormant c s) (f : Framed d s t) (hne : c ≠ d) : Dormant c t where
  known := f.evolves.spent h.known
  unlisted hmem := h.unlisted (f.of_mem_order hmem)
  channel hc := h.channel (f.others hne ▸ hc)

theorem Dormant.quiet (h : Dormant c s) (hq : Quiet s t) : Dormant c t where
  known := hq.evolves.spent h.known
  unlisted := hq.order_eq ▸ h.unlisted
  channel hc := h.channel (hq.get? c ▸ hc)

/-- The moves that leave the registry alone, and do not answer its join, keep a channel dormant. -/
theorem Alter.dormant {registered : Prop} {x y : Exchange}
    (h : Alter k x y registered c ch ch' es) (hunlisted : ¬ registered) (hk : k.PassesOver ch)
    (hd : ch.Dormant) : ch'.Dormant ∧ ch.KeepsJoin ch' := by
  have keeps : ∀ {ch₁ : Channel}, ch.KeepsJoin ch₁ → ch₁.state = ch.state →
      ch₁.rejoinTimer.slot.armed = false → ch₁.Dormant ∧ ch.KeepsJoin ch₁ :=
    fun hjoin hstate hrejoin => ⟨hd.of_keepsJoin hjoin hstate hrejoin, hjoin⟩
  cases h with
  | alike same notes =>
    exact keeps same.keepsJoin same.state (same.rejoin_unarmed hd.state_ne hd.rejoin)
  | hooked op => exact keeps (.of_get? rfl) rfl hd.rejoin
  | listen op spent fresh => exact keeps (.of_get? rfl) rfl hd.rejoin
  | unbind op => exact keeps (.of_get? rfl) rfl hd.rejoin
  | enlist op free spent other starts waits accepts =>
    exact keeps (starts.keepsJoin_insert other) starts.state_eq
      (starts.rejoinTimer_armed hd.state_ne hd.rejoin)
  | settle other push awaits unarmed answers =>
    refine keeps (.of_get? ?_) (Channel.dropBindings?_state _) ?_
    · rw [Channel.settle_pushes, Table.get?_set_of_ne _ other.symm]
    · simpa [Channel.settle] using hd.rejoin
  | forget other push received =>
    refine keeps (.of_get? ?_) (Channel.dropBindings?_state _) ?_
    · rw [Channel.forget_pushes, Table.get?_erase_of_ne _ other.symm]
    · simpa [Channel.forget] using hd.rejoin
  | unheard push awaits unarmed answers => exact absurd answers (hk.not_answers hunlisted push)
  | refused push awaits unarmed answers => exact absurd answers (hk.not_answers hunlisted push)
  | abandoned push awaits unarmed answers fresh free spent other starts push' =>
    exact absurd answers (hk.not_answers hunlisted push)
  | failed listed push => exact absurd listed hunlisted

/-- A move that does not answer its join keeps a channel dormant. -/
theorem Move.dormant (h : Move k c s t) (hd : Dormant c s)
    (hk : ∀ ch, s.channels.get? c = some ch → k.PassesOver ch) :
    Dormant c t ∧ ∀ ch, t.channels.get? c = some ch → k.PassesOver ch := by
  have hknown := h.frame.evolves.spent hd.known
  have hunlisted : c ∉ t.order := fun hmem => hd.unlisted (h.frame.of_mem_order hmem)
  cases h with
  | quiet quiet => exact ⟨hd.quiet quiet, fun ch hc => hk ch (quiet.get? c ▸ hc)⟩
  | alter channel alter works =>
    obtain ⟨hdormant, hjoin⟩ := alter.dormant hd.unlisted (hk _ channel) (hd.channel channel)
    refine ⟨⟨hknown, hunlisted, fun hc => ?_⟩, fun ch₁ hc => ?_⟩ <;>
      · rw [works.get?] at hc
        cases hc
        first | exact hdormant | exact (hk _ channel).of_keepsJoin hjoin
  | accepted channel push awaits unarmed answers status works flush =>
    exact absurd answers ((hk _ channel).not_answers hd.unlisted push)
  | closed channel closes =>
    refine ⟨⟨hknown, hunlisted, fun hc => ?_⟩, fun ch₁ hc => ?_⟩ <;>
      · rw [closes.get?_self] at hc
        split at hc
        · cases hc
        · cases hc
          first
            | exact ⟨.inl rfl, rfl, (hd.channel channel).join⟩
            | exact (hk _ channel).of_keepsJoin (.of_get? rfl)

theorem Moves.dormant (h : Moves k c s t) (hd : Dormant c s)
    (hk : ∀ ch, s.channels.get? c = some ch → k.PassesOver ch) : Dormant c t := by
  have hboth : Dormant c t ∧ ∀ ch, t.channels.get? c = some ch → k.PassesOver ch := by
    induction h with
    | refl => exact ⟨hd, hk⟩
    | tail moves move ih => exact move.dormant ih.1 ih.2
  exact hboth.1

/-- The reply to another push is no answer to the join. -/
theorem passesOver_reply {r : Ref} (hs : Sound s) (hb : s.exchange.drawn < 2 ^ 64)
    (hc : s.channels.get? c = some ch) (hq : ch.pushes.get? p = some q) (hr : q.ref = some r)
    (hother : p ≠ joinPush) (payload : Payload) : (Prompt.reply r payload).PassesOver ch := by
  intro r' payload' q' heq hq' hr'
  cases heq
  exact hother (hs.channel_apart hb hc hq hq' hr hr')

section Outside

variable [Outside ω] [Obliging ω]

/-- At all times every channel is calm. -/
theorem Reachable.calm {admits : Socket (Recorded ω) → Command → Prop} (h : Reachable admits s)
    (hc : s.channels.get? c = some ch) : ch.Calm :=
  h.throughout ⟨Channel.calm_new, fun hrough hs hcalm => hrough.calm hs hcalm⟩ hc

/-! ### Leaving and joining -/

theorem hushed_leave (hs : Sound s) (hd : s.channels.get? d = some ch)
    (hspent : s.exchange.Spent (.pushes d) p) (hfree : ch.pushes.get? p = none)
    (hother : p ≠ joinPush) (timeout : Nat) (detached : Bool) :
    Hushed c s (s.leave d p timeout detached) := by
  obtain ⟨t, join, ch', m, q, r, hjoin, hstarts, hw, _, _, hmoves⟩ :=
    moves_leave hs hd hspent hfree hother timeout detached
  have hrough : Rough .failure d s t := .departs hd hjoin hfree (hw.evolves.spent hspent) hother
    hstarts hw fun e he => ⟨m, List.mem_singleton.mp he⟩
  refine (Hushed.of_log hw.log_eq ?_).trans (hmoves.hushed (hrough.sound hs))
  simpa using joins_accept hother m

theorem hushed_leaveOpenTopic (hs : Sound s) (topic : String) (d : ChannelId) :
    Hushed c s (s.leaveOpenTopic topic d) := by
  rcases leaveOpenTopic_cases hs topic d with ⟨_, heq⟩ |
    ⟨d', ch, p, t, _, _, _, hch, _, _, hquiet, _, hspent, hfree, hother, heq⟩
  · rw [heq]
  · rw [heq]
    exact (Hushed.of_log hquiet.log_eq (by simp)).trans (hushed_leave (hs.quiet hquiet)
      (hquiet.get? d' ▸ hch) hspent hfree hother ch.timeout true)

/-- To leave out of the registry makes a channel dormant. -/
theorem dormant_leave (hs : Sound s) (hc : s.channels.get? c = some ch) (hunlisted : c ∉ s.order)
    (hspent : s.exchange.Spent (.pushes c) p) (hfree : ch.pushes.get? p = none)
    (hother : p ≠ joinPush) (timeout : Nat) (detached : Bool)
    (hb : (s.leave c p timeout detached).exchange.drawn < 2 ^ 64) :
    Dormant c (s.leave c p timeout detached) := by
  obtain ⟨t, join, ch', m, q, r, hjoin, hstarts, hw, hq, hr, hmoves⟩ :=
    moves_leave hs hc hspent hfree hother timeout detached
  have hrough : Rough .failure c s t := .departs hc hjoin hfree (hw.evolves.spent hspent) hother
    hstarts hw fun e he => ⟨m, List.mem_singleton.mp he⟩
  have hst := hrough.sound hs
  have hdeparting : (departing ch join).Dormant := by
    refine ⟨.inr rfl, rfl, fun hq' => ?_⟩
    rw [departing, Table.get?_set_self] at hq'
    cases hq'
    rfl
  have hdormant : ch'.Dormant := hdeparting.of_keepsJoin (hstarts.keepsJoin_insert hother)
    hstarts.state_eq (hstarts.rejoinTimer_armed hdeparting.state_ne rfl)
  refine hmoves.dormant ⟨hw.evolves.spent (hs.channels hc).known, hw.order_eq ▸ hunlisted, ?_⟩ ?_
  · intro ch₁ hc₁
    rw [hw.get?] at hc₁
    cases hc₁
    exact hdormant
  · intro ch₁ hc₁
    rw [hw.get?] at hc₁
    cases hc₁
    exact passesOver_reply hst (lt_of_le_of_lt (Moves.frame hmoves).evolves.drawn_le hb) hw.get? hq
      hr hother _

/-- To displace a live channel concerns none out of the registry. -/
theorem Dormant.leaveOpenTopic (h : Dormant c s) (hs : Sound s) (topic : String) (d : ChannelId) :
    Dormant c (s.leaveOpenTopic topic d) := by
  rcases leaveOpenTopic_cases hs topic d with ⟨_, heq⟩ |
    ⟨d', ch, p, t, _, hmem, _, hch, _, _, hquiet, _, hspent, hfree, hother, heq⟩
  · rw [heq]
    exact h
  · rw [heq]
    have hne : c ≠ d' := fun hcd => h.unlisted (hcd ▸ hmem)
    exact (h.quiet hquiet).frame (frame_leave (hs.quiet hquiet) (hquiet.get? d' ▸ hch) hspent hfree
      hother ch.timeout true) hne

/-- The timeout of a push keeps a channel dormant, and sends no join. -/
theorem Dormant.pushTimeout (h : Dormant c s) (hs : Sound s) (d : ChannelId) (p : PushId)
    (generation : Nat) (hb : (s.pushTimeout d p generation).exchange.drawn < 2 ^ 64) :
    Dormant c (s.pushTimeout d p generation) ∧ Hushed c s (s.pushTimeout d p generation) := by
  rcases moves_pushTimeout hs d p generation with heq | ⟨ch, q, k, t, hd, hp, harmed, hk, hw, hmoves⟩
  · rw [heq]
    exact ⟨h, .refl s⟩
  · have hlapse : Rough k d s t := .lapse hd hp hw
    have hst := hlapse.sound hs
    have hhushed : Hushed c s (s.pushTimeout d p generation) :=
      (Hushed.of_log hw.log_eq (by simp)).trans (hmoves.hushed hst)
    refine ⟨?_, hhushed⟩
    by_cases hcd : c = d
    · subst hcd
      -- The join push has no timer, so another push has run out of time.
      have hother : p ≠ joinPush := by
        rintro rfl
        rw [(h.channel hd).join hp] at harmed
        cases harmed
      have hget : ({ ch with pushes := ch.pushes.set p { q with timer := q.timer.cancel } } :
          Channel).pushes.get? joinPush = ch.pushes.get? joinPush :=
        Table.get?_set_of_ne _ hother.symm _
      refine hmoves.dormant ⟨hw.evolves.spent h.known, hw.order_eq ▸ h.unlisted, ?_⟩ ?_
      · intro ch₁ hc₁
        rw [hw.get?] at hc₁
        cases hc₁
        exact (h.channel hd).of_keepsJoin (.of_get? hget) rfl (h.channel hd).rejoin
      · intro ch₁ hc₁
        rcases hk with rfl | ⟨r, hr, rfl⟩
        · exact fun r payload q' heq => by cases heq
        · have hbt := lt_of_le_of_lt (Moves.frame hmoves).evolves.drawn_le hb
          rw [hw.get?] at hc₁
          cases hc₁
          exact passesOver_reply hst hbt hw.get? (Table.get?_set_self _ _ _) hr hother _
    · exact (h.frame hw.frame hcd).frame hmoves.frame hcd

/-- The join attempt of another channel keeps a channel dormant. -/
theorem Dormant.rejoin (h : Dormant c s) (hs : Sound s) (hd : s.channels.get? d = some ch)
    (hne : c ≠ d) : Dormant c (s.rejoin d) ∧ Hushed c s (s.rejoin d) := by
  rcases rejoin_cases hs hd with ⟨_, heq⟩ | ⟨_, hget, heq⟩
  · rw [heq]
    exact ⟨h, .refl s⟩
  · have hs' := sound_leaveOpenTopic hs ch.topic d
    obtain ⟨join, ch', m, _, _, _, _, hw⟩ := works_attempt hs' hget
    rw [heq]
    refine ⟨(h.leaveOpenTopic hs ch.topic d).frame hw.frame hne,
      (hushed_leaveOpenTopic hs ch.topic d).trans (.of_log hw.log_eq ?_)⟩
    simp [Effect.joins, Ne.symm hne]

/-! ### Strides -/

/-- Whatever a socket does, a dormant channel stays dormant, and its join is not sent. -/
theorem Stride.dormant (h : Stride s₀ cmd s t) (hcmd : cmd.Ignores c) (hs : Sound s)
    (hb : t.exchange.drawn < 2 ^ 64) (hd : Dormant c s) : Dormant c t ∧ Hushed c s t := by
  have hevolves := h.evolves hs
  cases h with
  | quiet quiet => exact ⟨hd.quiet quiet, .of_log quiet.log_eq (by simp)⟩
  | @move _ _ k d heeds move =>
    refine ⟨?_, move.hushed hs⟩
    by_cases hcd : c = d
    · subst hcd
      refine (move.dormant hd fun ch hc r payload q heq => ?_).1
      rw [heq] at heeds
      exact heeds.elim
    · exact hd.frame move.frame hcd
  | expire _ command => exact hd.pushTimeout hs _ _ _ hb
  | @leave d ch p timeout command channel spent free other =>
    refine ⟨?_, hushed_leave hs channel spent free other timeout false⟩
    by_cases hcd : c = d
    · subst hcd
      exact dormant_leave hs channel hd.unlisted spent free other timeout false hb
    · exact hd.frame (frame_leave hs channel spent free other timeout false) hcd
  | @rejoin _ d ch f channel same cause =>
    have hne : c ≠ d := by
      rintro rfl
      have hch := hd.channel channel
      rcases cause with ⟨timeout, heq⟩ | harmed | hstate
      · exact hcmd.asks timeout heq
      · rw [hch.rejoin] at harmed
        cases harmed
      · exact hch.state_ne hstate
    have hmove : Move .failure d s (s.modifyChannel d f) := move_alike channel same
    obtain ⟨hdormant, hhushed⟩ := (hd.frame hmove.frame hne).rejoin (hmove.sound hs)
      (works_modifyChannel channel f).get? hne
    exact ⟨hdormant, (hmove.hushed hs).trans hhushed⟩
  | @enters _ _ d topic params command spent free enters =>
    have hne : c ≠ d := by
      rintro rfl
      exact hcmd.creates topic params command
    refine ⟨⟨hevolves.spent hd.known, ?_, fun hc => ?_⟩, .of_eq enters.log_eq⟩
    · rw [enters.order_eq]
      simp [hd.unlisted, hne]
    · rcases enters.get? c hc with hold | ⟨heq, _⟩
      · exact hd.channel hold
      · exact absurd heq hne
  | erases unlisted erases =>
    refine ⟨⟨hevolves.spent hd.known, erases.order_eq ▸ hd.unlisted, fun hc => ?_⟩,
      .of_eq erases.log_eq⟩
    exact hd.channel (erases.get? hc).2
  | ends ends =>
    refine ⟨⟨hevolves.spent hd.known, ?_, fun hc => ?_⟩, .of_eq ends.log_eq⟩
    · rw [ends.order_eq]
      exact List.not_mem_nil
    · rw [ends.channels_eq, Table.get?_empty] at hc
      cases hc

theorem Strides.dormant (h : Strides s₀ cmd s t) (hcmd : cmd.Ignores c) (hs : Sound s)
    (hb : t.exchange.drawn < 2 ^ 64) (hd : Dormant c s) : Dormant c t ∧ Hushed c s t :=
  h.preserves (I := fun u => Dormant c u ∧ Hushed c s u) hs hb ⟨hd, .refl s⟩
    fun hu hb ih stride =>
      have hboth := stride.dormant hcmd hu hb ih.1
      ⟨hboth.1, ih.2.trans hboth.2⟩

/-- Runs in which nobody asks a channel to join. -/
abbrev Unasked (c : ChannelId) (_ : Socket (Recorded ω)) (cmd : Command) : Prop :=
  ∀ timeout, cmd ≠ .channel c (.join timeout)

omit [Outside ω] [Obliging ω] in
/-- The number of a channel is given once, so a command that is taken does not create it again. -/
theorem Dormant.ignores {x : Exchange} (h : Dormant c s) (hs : Sound s)
    (hnext : s.exchange.next? = some (cmd, x)) (hasked : ∀ timeout, cmd ≠ .channel c (.join timeout)) :
    cmd.Ignores c := by
  refine ⟨fun topic params heq => ?_, hasked⟩
  subst heq
  exact (Exchange.spent_of_next? hs.tidy hnext (k := .channels) (n := c) rfl).2 h.known

theorem preserved_dormant (s : Socket (Recorded ω)) : Preserved (Unasked (ω := ω) c) fun t =>
    t.exchange.drawn < 2 ^ 64 → Dormant c t ∧ Hushed c s t where
  quiet hI hq hb := by
    obtain ⟨hd, hh⟩ := hI (lt_of_le_of_lt hq.evolves.drawn_le hb)
    exact ⟨hd.quiet hq, hh.trans (.of_log hq.log_eq (by simp))⟩
  ends hI he hb := by
    obtain ⟨hd, hh⟩ := hI (lt_of_le_of_lt he.evolves.drawn_le hb)
    refine ⟨⟨he.evolves.spent hd.known, ?_, fun hc => ?_⟩, hh.trans (.of_eq he.log_eq)⟩
    · rw [he.order_eq]
      exact List.not_mem_nil
    · rw [he.channels_eq, Table.get?_empty] at hc
      cases hc
  handle hs hI hnext hadmit hb := by
    have hq := quiet_next? hnext
    have hs' := hs.quiet hq
    have hstrides := strides_handle hs' _ (due_of_next? hs hnext)
    obtain ⟨hd, hh⟩ := hI (lt_of_le_of_lt (hq.evolves.trans (hstrides.evolves hs')).drawn_le hb)
    obtain ⟨hd', hh'⟩ := hstrides.dormant (hd.ignores hs hnext hadmit) hs' hb (hd.quiet hq)
    exact ⟨hd', (hh.trans (.of_log hq.log_eq (by simp))).trans hh'⟩

/-- While a socket carries out a command, a dormant channel makes no attempt to join. -/
theorem Dormant.not_attempts (h : Dormant c s) (hs : Sound s) (hcmd : cmd.Ignores c)
    (hb : t.exchange.drawn < 2 ^ 64) : ¬ Attempts s cmd c t := by
  intro hattempts
  have hstrides : Strides s cmd s t := hattempts.strides hs
  have hdormant := (hstrides.dormant hcmd hs hb h).1
  cases hattempts with
  | asked channel => exact hcmd.asks _ rfl
  | timed channel fires connected =>
    obtain ⟨harmed, _, _⟩ := BackoffTimer.fire_eq_some_iff.mp fires
    rw [(h.channel channel).rejoin] at harmed
    cases harmed
  | reopened current places reached entry channel failed =>
    exact (hdormant.channel (works_modifyChannel channel _).get?).state_ne failed

/-- A closed channel whose join push has no timer armed stays closed until its handle asks it to join:
it is neither registered again nor joining, joined or errored, its join push is not handed to the
socket, and it displaces no other channel. -/
theorem closed_stays_closed {admits : Socket (Recorded ω) → Command → Prop}
    (h : Reachable admits s) (hknown : s.exchange.Spent .channels c) (hunlisted : c ∉ s.order)
    (hclosed : ∀ ch, s.channels.get? c = some ch → ch.state = .closed ∧
      ∀ q, ch.pushes.get? joinPush = some q → q.timer.armed = false)
    (hrun : Run (Unasked c) s t) (hb : t.exchange.drawn < 2 ^ 64) :
    c ∉ t.order ∧
      (∀ ch, t.channels.get? c = some ch → ch.state = .closed ∨ ch.state = .leaving) ∧
      (∃ es, t.log = s.log ++ es ∧ ∀ m, .accept (.push c joinPush) m ∉ es) ∧
      ∀ cmd x u, t.exchange.next? = some (cmd, x) → Unasked c t cmd → u.exchange.drawn < 2 ^ 64 →
        ¬ Attempts { t with exchange := x } cmd c u := by
  have hs := h.sound
  have hdormant : Dormant c s := by
    refine ⟨hknown, hunlisted, fun {ch} hc => ?_⟩
    obtain ⟨hstate, hjoin⟩ := hclosed ch hc
    exact ⟨.inl hstate, h.calm hc (.inl hstate), fun hq => hjoin _ hq⟩
  obtain ⟨hst, hboth⟩ := (preserved_dormant s).run hrun hs fun _ => ⟨hdormant, .refl s⟩
  obtain ⟨hd, es, hlog, hes⟩ := hboth hb
  refine ⟨hd.unlisted, fun ch hc => (hd.channel hc).state, ⟨es, hlog, fun m hm => ?_⟩, ?_⟩
  · have := hes _ hm
    simp [Effect.joins] at this
  · intro cmd x u hnext hasked hu
    have hq := quiet_next? hnext
    exact (hd.quiet hq).not_attempts (hst.quiet hq) (hd.ignores hst hnext hasked) hu

end Outside

/-- The commands of a script that do not ask the first channel to join. -/
def unaskedFirst (_ : Socket (Recorded Idle)) : Command → Bool
  | .channel c (.join _) => c != 0
  | _ => true

theorem unasked_of_unaskedFirst (s : Socket (Recorded Idle)) (cmd : Command)
    (h : unaskedFirst s cmd = true) : Unasked 0 s cmd := by
  rintro timeout rfl
  cases h

/-- A channel that has left stays closed when the connection fails and opens again. -/
theorem closed_stays_closed_left : ∃ s t : Socket (Recorded Idle),
    Reachable (fun _ _ => True) s ∧ s.exchange.Spent .channels 0 ∧ 0 ∉ s.order ∧
    (∃ ch, s.channels.get? 0 = some ch ∧ ch.state = .closed) ∧ Run (Unasked 0) s t ∧
    0 ∉ t.order ∧
    (∀ ch, t.channels.get? 0 = some ch → ch.state = .closed ∨ ch.state = .leaving) ∧
    (∃ es, t.log = s.log ++ es ∧ ∀ m, .accept (.push 0 joinPush) m ∉ es) ∧
    ∀ cmd x u, t.exchange.next? = some (cmd, x) → Unasked 0 t cmd → u.exchange.drawn < 2 ^ 64 →
      ¬ Attempts { t with exchange := x } cmd 0 u := by
  obtain ⟨s, hs, hview⟩ := reachable_of_play? of_admitsAll
    (show (ready.play? admitsAll (joined "room" ++ [.leave 0 10000, .take])).map (fun s =>
        (s.exchange.upcoming .channels, s.exchange.queued .channels, s.order,
          (s.channels.get? 0).map fun ch =>
            (ch.state, (ch.pushes.get? joinPush).map fun q => q.timer.armed),
          (s.play? unaskedFirst [.report 0 (.failed .closed), .take, .report 0 .opened, .take]).map
            fun t => t.exchange.drawn)) =
      some (1, [], [], some (.closed, some false), some 4) by cbv)
  simp only [Prod.mk.injEq] at hview
  obtain ⟨hknown, hqueued, horder, hchannel, hafter⟩ := hview
  obtain ⟨t, hplay, hdrawn⟩ := Option.map_eq_some_iff.mp hafter
  obtain ⟨ch, hc, hch⟩ := Option.map_eq_some_iff.mp hchannel
  simp only [Prod.mk.injEq] at hch
  have hspent : s.exchange.Spent .channels 0 := ⟨hknown ▸ Nat.one_pos, by simp [hqueued]⟩
  have hunlisted : 0 ∉ s.order := by simp [horder]
  have hrun : Run (Unasked 0) s t := run_of_play? unasked_of_unaskedFirst hplay
  refine ⟨s, t, hs, hspent, hunlisted, ⟨ch, hc, hch.1⟩, hrun,
    closed_stays_closed hs hspent hunlisted (fun ch' hc' => ?_) hrun (hdrawn ▸ by decide)⟩
  rw [hc] at hc'
  cases hc'
  refine ⟨hch.1, fun q hq => ?_⟩
  simpa [hq] using hch.2

/-- The condition is needed: a channel that is closed while its join waits fails once the time of the
join is over, and is to join again. -/
theorem closed_while_joining_fails : ∃ s t : Socket (Recorded Idle),
    Reachable (fun _ _ => True) s ∧ 0 ∉ s.order ∧
    ((s.channels.get? 0).map (·.state)) = some .closed ∧ Run (Unasked 0) s t ∧
    (t.channels.get? 0).map (fun ch => (ch.state, ch.rejoinTimer.slot.armed)) =
      some (.errored, true) := by
  obtain ⟨s, hs, hview⟩ := reachable_of_play? of_admitsAll
    (show (ready.play? admitsAll
        (asking "room" ++ [.announce 0 "3" "room" Event.close, .take])).map (fun s =>
        (s.order, (s.channels.get? 0).map (·.state),
          (s.play? unaskedFirst [.fire (.pushTimeout 0 joinPush 2), .take]).map fun t =>
            (t.channels.get? 0).map fun ch => (ch.state, ch.rejoinTimer.slot.armed))) =
      some ([], some .closed, some (some (.errored, true))) by cbv)
  simp only [Prod.mk.injEq] at hview
  obtain ⟨horder, hclosed, hafter⟩ := hview
  obtain ⟨t, hplay, hfailed⟩ := Option.map_eq_some_iff.mp hafter
  exact ⟨s, t, hs, by simp [horder], hclosed, run_of_play? unasked_of_unaskedFirst hplay, hfailed⟩

end Socket

end Switchboard
