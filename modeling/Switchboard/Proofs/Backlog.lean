import Switchboard.Proofs.Admissions
import Switchboard.Proofs.Resolving

/-!
# The pushes that wait for a join

A push of a channel that has not joined yet takes a ref, listens for the reply to it, and waits in
the buffer while its time runs.  When the reply `ok` resolves the join the buffer is emptied, and its
pushes are sent one after another: each takes a fresh ref in the place of the one under which it
waited, so that nobody listens for a reply to the old ref any more, and its time starts anew.  A push
whose time was over is passed over, and one that was released is not in the buffer any more.

Main definitions

* `Channel.sent`: a channel after it has sent one of its pushes;
* `Socket.Drains`: pushes are sent one after another, and these are their messages;
* `Channel.Resends`: what it is for a push to be sent that has waited;
* `Socket.Flushed`: what is recorded, and what becomes of a channel, when it is let in.

Main results

* `Socket.drains_sendAll`: to send pushes one after another drains them;
* `Socket.Drains.resends`: each push that is sent has a fresh ref, and its old one is gone;
* `Socket.Course.unrepeated`: no push waits twice;
* `Socket.join_flushes_buffer`: whenever a join is resolved with `ok`, just the pushes that wait in the
  buffer are sent, once each and in their order.
-/

set_option autoImplicit false

namespace Switchboard

/-- A push was sent under a ref, and its time has started anew. -/
def Push.sentUnder (q : Push) (r : Ref) : Push :=
  { q with ref := some r, refEvent := some (Event.replyTo r), timer := q.timer.arm, sent := true }

/-- A push is still to be sent: its time was not over while it waited. -/
def Push.isTimely (q : Push) : Bool := !q.hasReceived Status.timeout

namespace Channel

variable {ch ch' ch'' : Channel} {c : ChannelId} {p p' : PushId} {q : Push} {r : Ref}
variable {n : BindingId} {m : Message} {w x y z : Exchange}

/-! ### A channel that sends a push -/

/-- A channel has sent one of its pushes under a ref. -/
def sent (ch : Channel) (p : PushId) (q : Push) (r : Ref) (n : BindingId) : Channel :=
  { ch.start p q r n with
    params := ch.params.resolve.2
    pushes := ch.pushes.set p (q.sentUnder r) }

/-- The message by which a channel sends a push under a ref. -/
def letter (ch : Channel) (q : Push) (r : Ref) : Message :=
  ⟨ch.joinRef, some r, ch.topic, q.event, Socket.bodyOf q ch.params.resolve.1⟩

@[simp] theorem sent_push : (ch.sent p q r n).pushes.get? p = some (q.sentUnder r) :=
  Table.get?_set_self _ _ _

theorem sent_push_of_ne (h : p' ≠ p) :
    (ch.sent p q r n).pushes.get? p' = ch.pushes.get? p' :=
  Table.get?_set_of_ne _ h _

theorem sent_joinRef (h : p ≠ joinPush) : (ch.sent p q r n).joinRef = ch.joinRef := by
  simp only [joinRef, sent_push_of_ne h.symm]

theorem alike_sent : (ch.start p q r n).Alike (ch.sent p q r n) where
  topic := rfl
  state := rfl
  bindings := rfl
  buffer := rfl
  hook := rfl
  some {p' q'} hq' := by
    rw [start_pushes, Table.get?_set] at hq'
    split at hq'
    · rename_i heq
      cases hq'
      subst heq
      exact ⟨_, sent_push, rfl, rfl, rfl, rfl, rfl, [], (List.append_nil _).symm, by simp⟩
    · rename_i hne
      exact ⟨q', (sent_push_of_ne hne).trans hq', .refl q'⟩
  none {p'} hq' := by
    rw [start_pushes, Table.get?_set] at hq'
    split at hq'
    · cases hq'
    · rename_i hne
      exact (sent_push_of_ne hne).trans hq'
  rejoin := .inl

/-- What a channel listens for after it has sent a push: for the reply to the new ref, and no longer
for a reply to the old one. -/
theorem mem_sent_bindings {b : Binding} :
    b ∈ (ch.sent p q r n).bindings ↔
      (b ∈ ch.bindings ∧ q.refEvent ≠ some b.event) ∨ b = ⟨Event.replyTo r, n, .resolve p⟩ :=
  mem_start_bindings

/-- A channel has joined; the pushes that waited for it are not sent yet. -/
def enter (ch : Channel) (q : Push) (reply : Reply) : Channel :=
  { ch.settle joinPush q q.timer.cancel reply with
    state := .joined
    rejoinTimer := ch.rejoinTimer.reset
    buffer := [] }

theorem starts_sent (hq : ch.pushes.get? p = some q) (hfresh : x.Fresh y c r n) :
    ch.Starts x y c p (ch.sent p q r n) :=
  ⟨q, r, n, hq, hfresh, alike_sent⟩

/-- A push that has waited is sent, by a message with the join ref of the channel and a fresh ref.  It
waits for the reply to this ref from now on, nobody listens for a reply to the ref that it had before,
and its time has started anew. -/
structure Resends (x y : Exchange) (c : ChannelId) (ch ch' : Channel) (p : PushId) (q : Push) (r : Ref)
    (m : Message) : Prop where
  waited : ch.pushes.get? p = some q
  inTime : q.isTimely = true
  push : ch'.pushes.get? p = some (q.sentUnder r)
  message : ∃ value, m = ⟨ch.joinRef, some r, ch.topic, q.event, Socket.bodyOf q value⟩
  fresh : ¬ x.Drew r
  listens : ∃ n, ch'.listeners p = [⟨Event.replyTo r, n, .resolve p⟩]
  gone : ∀ b ∈ ch'.bindings, q.refEvent ≠ some b.event
  arms : ∃ z, x.Evolves z ∧
    (z.arm q.timeout (.pushTimeout c p q.timer.arm.generation)).Evolves y

/-- What a channel was before does not matter, apart from the push, the topic and the join ref. -/
theorem Resends.mono (h : ch.Resends x y c ch' p q r m) (hwx : w.Evolves x) (hyz : y.Evolves z)
    (hpush : ch''.pushes.get? p = ch.pushes.get? p) (hjoin : ch''.joinRef = ch.joinRef)
    (htopic : ch''.topic = ch.topic) : ch''.Resends w z c ch' p q r m where
  waited := hpush.trans h.waited
  inTime := h.inTime
  push := h.push
  message := by
    rw [hjoin, htopic]
    exact h.message
  fresh hr := h.fresh (hwx.drew hr)
  listens := h.listens
  gone := h.gone
  arms := by
    obtain ⟨x', hbefore, hafter⟩ := h.arms
    exact ⟨x', hwx.trans hbefore, hafter.trans hyz⟩

end Channel

namespace Socket

variable {ω : Type} {s t u v : Socket (Recorded ω)} {k : Prompt} {c d : ChannelId}
variable {ch ch' : Channel} {p p' : PushId} {q : Push} {r : Ref} {es : List Effect} {reply : Reply}
variable {ps : List PushId} {ls : List (PushId × Message)}

/-! ### Pushes are sent one after another -/

/-- Pushes are sent one after another, each under a fresh ref, unless they are not there or their time
was over; these are the messages. -/
inductive Drains (c : ChannelId) :
    List PushId → List (PushId × Message) → Socket (Recorded ω) → Socket (Recorded ω) → Prop
  | nil (s : Socket (Recorded ω)) : Drains c [] [] s s
  | passes {p : PushId} {ps : List PushId} {ls : List (PushId × Message)}
    {s u : Socket (Recorded ω)} (late : ∀ q, s.push? c p = some q → q.isTimely = false)
    (rest : Drains c ps ls s u) : Drains c (p :: ps) ls s u
  | sends {p : PushId} {ps : List PushId} {ls : List (PushId × Message)}
    {s t u : Socket (Recorded ω)} {ch : Channel} {q : Push} {r : Ref} {n : BindingId} {x : Exchange}
    (channel : s.channels.get? c = some ch) (push : ch.pushes.get? p = some q)
    (inTime : q.isTimely = true) (fresh : s.exchange.Fresh t.exchange c r n)
    (before : s.exchange.Evolves x)
    (arms : (x.arm q.timeout (.pushTimeout c p q.timer.arm.generation)).Evolves t.exchange)
    (works : Works c (ch.sent p q r n) [.accept (.push c p) (ch.letter q r)] s t)
    (rest : Drains c ps ls t u) : Drains c (p :: ps) ((p, ch.letter q r) :: ls) s u

namespace Drains

/-- The messages are recorded, and nothing else. -/
theorem log (h : Drains c ps ls s u) :
    u.log = s.log ++ ls.map fun l => .accept (.push c l.1) l.2 := by
  induction h with
  | nil s => exact (List.append_nil _).symm
  | passes late rest ih => exact ih
  | sends channel push inTime fresh before arms works rest ih =>
    rw [ih, works.log_eq, List.append_assoc]
    rfl

theorem flush (h : Drains c ps ls s u) (hps : ∀ p ∈ ps, p ≠ joinPush) : Flush c ps s u := by
  induction h with
  | nil s => exact .nil s
  | passes late rest ih =>
    refine .pass (fun q hq => ?_) (ih fun p hp => hps p (List.mem_cons_of_mem _ hp))
    simpa [Push.isTimely] using late q hq
  | @sends p ps ls s t u ch q r n x channel push inTime fresh before arms works rest ih =>
    have hother := hps p List.mem_cons_self
    have hmessage : (ch.sent p q r n).handed p q.event (bodyOf q ch.params.resolve.1) =
        ch.letter q r := by
      simp only [Channel.handed, Channel.letter, Channel.sent_push, Channel.sent_joinRef hother,
        Option.bind_some, Push.sentUnder]
      exact congrArg (Message.mk _ _ · _ _) (Channel.start_topic r n)
    refine .send channel push (by simpa [Push.isTimely] using inTime) (Channel.starts_sent push fresh)
      (hmessage ▸ works) (ih fun p hp => hps p (List.mem_cons_of_mem _ hp))

theorem subset (h : Drains c ps ls s u) : ls.map Prod.fst ⊆ ps := by
  induction h with
  | nil s => exact List.Subset.refl _
  | passes late rest ih => exact List.subset_cons_of_subset _ ih
  | sends channel push inTime fresh before arms works rest ih => exact List.cons_subset_cons _ ih

/-- The channel stays what it is, apart from its pushes and its bindings. -/
theorem channel (h : Drains c ps ls s u) (hc : s.channels.get? c = some ch) :
    ∃ ch', u.channels.get? c = some ch' ∧ ch'.state = ch.state ∧ ch'.buffer = ch.buffer ∧
      ch'.topic = ch.topic := by
  induction h generalizing ch with
  | nil s => exact ⟨ch, hc, rfl, rfl, rfl⟩
  | passes late rest ih => exact ih hc
  | @sends p ps ls s t u ch₀ q r n x channel push inTime fresh before arms works rest ih =>
    cases channel.symm.trans hc
    obtain ⟨ch', hc', hstate, hbuffer, htopic⟩ := ih works.get?
    exact ⟨ch', hc', hstate.trans (Channel.start_state r n),
      hbuffer.trans (Channel.start_buffer r n), htopic.trans (Channel.start_topic r n)⟩

/-- What the channel listens for afterwards it has listened for before, or it is an event that no push
could have. -/
theorem bindings (h : Drains c ps ls s u) (hb : u.exchange.drawn < 2 ^ 64)
    (hps : ∀ p ∈ ps, p ≠ joinPush) (hc : s.channels.get? c = some ch)
    (hc' : u.channels.get? c = some ch') :
    ∀ b ∈ ch'.bindings, b ∈ ch.bindings ∨ ∃ r, b.event = Event.replyTo r ∧ ¬ s.exchange.Drew r := by
  induction h generalizing ch with
  | nil s =>
    cases hc.symm.trans hc'
    exact fun b hmem => .inl hmem
  | passes late rest ih => exact ih hb (fun p hp => hps p (List.mem_cons_of_mem _ hp)) hc hc'
  | @sends p ps ls s t u ch₀ q r n x channel push inTime fresh before arms works rest ih =>
    cases channel.symm.trans hc
    have hps' : ∀ p ∈ ps, p ≠ joinPush := fun p hp => hps p (List.mem_cons_of_mem _ hp)
    have hbt : t.exchange.drawn < 2 ^ 64 :=
      lt_of_le_of_lt (rest.flush hps').frame.evolves.drawn_le hb
    intro b hmem
    rcases ih hb hps' works.get? hc' b hmem with hold | ⟨r', hevent, hnew⟩
    · rcases Channel.mem_sent_bindings.mp hold with ⟨hold, -⟩ | rfl
      · exact .inl hold
      · exact .inr ⟨r, rfl, fresh.not_drew hbt⟩
    · exact .inr ⟨r', hevent, fun hdrew => hnew (works.evolves.drew hdrew)⟩

/-- A ref that was drawn, and to which nobody listens for a reply, is not listened for afterwards. -/
theorem gone (h : Drains c ps ls s u) (hb : u.exchange.drawn < 2 ^ 64) (hps : ∀ p ∈ ps, p ≠ joinPush)
    (hc : s.channels.get? c = some ch) (hc' : u.channels.get? c = some ch')
    (hdrew : s.exchange.Drew r) (hgone : ∀ b ∈ ch.bindings, b.event ≠ Event.replyTo r) :
    ∀ b ∈ ch'.bindings, b.event ≠ Event.replyTo r := by
  intro b hmem hevent
  rcases h.bindings hb hps hc hc' b hmem with hold | ⟨r', hreply, hnew⟩
  · exact hgone b hold hevent
  · exact hnew (Event.replyTo_injective (hevent.symm.trans hreply) ▸ hdrew)

/-- A push that is listened for is listened for afterwards. -/
theorem awaits (h : Drains c ps ls s u) (hs : Sound s) (hb : u.exchange.drawn < 2 ^ 64)
    (hps : ∀ p ∈ ps, p ≠ joinPush) (hc : s.channels.get? c = some ch)
    (hc' : u.channels.get? c = some ch') (ha : ch.Awaits p') : ch'.Awaits p' := by
  induction h generalizing ch with
  | nil s =>
    cases hc.symm.trans hc'
    exact ha
  | passes late rest ih => exact ih hs hb (fun p hp => hps p (List.mem_cons_of_mem _ hp)) hc hc' ha
  | @sends p ps ls s t u ch₀ q r n x channel push inTime fresh before arms works rest ih =>
    cases channel.symm.trans hc
    have hps' : ∀ p ∈ ps, p ≠ joinPush := fun p hp => hps p (List.mem_cons_of_mem _ hp)
    have hstarts := Channel.starts_sent push fresh
    have hst : Sound t := hs.starts channel hstarts works
    have hbs : s.exchange.drawn < 2 ^ 64 :=
      lt_of_le_of_lt (works.evolves.trans (rest.flush hps').frame.evolves).drawn_le hb
    refine ih hst hb hps' works.get? hc' ?_
    exact (hstarts.awaits (hs.channels channel) (hs.channel_apart hbs channel)).mpr (.inr ha)

end Drains

section Outside

variable [Outside ω] [Obliging ω]

/-- In no buffer of a channel a push waits twice. -/
def Unrepeated (s : Socket (Recorded ω)) : Prop :=
  ∀ c ch, s.channels.get? c = some ch → ch.buffer.Nodup

omit [Outside ω] [Obliging ω] in
theorem Unrepeated.works (hu : Unrepeated s) (w : Works c ch' es s t) (hn : ch'.buffer.Nodup) :
    Unrepeated t := by
  intro d ch hd
  by_cases hdc : d = c
  · subst hdc
    cases w.get?.symm.trans hd
    exact hn
  · exact hu d ch ((w.get?_of_ne hdc).symm.trans hd)

omit [Outside ω] [Obliging ω] in
/-- A push that comes to wait is a new one. -/
theorem Alter.unrepeated {registered : Prop} {x y : Exchange}
    (h : Alter k x y registered c ch ch' es) (hs : ch.Sound x c) (hn : ch.buffer.Nodup) :
    ch'.buffer.Nodup := by
  cases h with
  | alike same notes => exact same.buffer ▸ hn
  | hooked op => exact hn
  | listen op spent fresh => exact hn
  | unbind op => exact hn
  | @enlist p event payload timeout ch' buffer es op free spent other starts waits accepts =>
    have hnot : p ∉ ch.buffer := by
      intro hmem
      obtain ⟨q, hq⟩ := hs.queued p hmem
      rw [free] at hq
      cases hq
    rcases waits with rfl | rfl
    · exact hn
    · exact List.nodup_append.mpr ⟨hn, List.nodup_singleton p, by
        rintro p' hp' _ hp rfl
        exact hnot (List.mem_singleton.mp hp ▸ hp')⟩
  | settle other push awaits unarmed answers => exact (Channel.settle_buffer _ _).symm ▸ hn
  | forget other push received =>
    rw [Channel.forget, Channel.dropBindings?_buffer]
    exact hn.filter _
  | unheard push awaits unarmed answers status => exact (Channel.settle_buffer _ _).symm ▸ hn
  | refused push awaits unarmed answers => exact (Channel.settle_buffer _ _).symm ▸ hn
  | abandoned push awaits unarmed answers fresh free spent other starts push' =>
    rw [Channel.takeBack_buffer]
    exact (starts.buffer_eq.trans (Channel.settle_buffer _ _)).symm ▸ hn
  | failed listed push =>
    split
    · exact Channel.takeBack_buffer.symm ▸ hn
    · exact hn

variable {asked : ChannelId → PushId → Prop}

omit [Outside ω] [Obliging ω] in
theorem Beat.unrepeated (h : Beat asked s t) (hs : Sound s) (hu : Unrepeated s) : Unrepeated t := by
  cases h with
  | quiet quiet => exact fun d ch hd => hu d ch (quiet.get? d ▸ hd)
  | alter channel alter works =>
    exact hu.works works (alter.unrepeated (hs.channels channel) (hu _ _ channel))
  | accepted channel push awaits status works => exact hu.works works List.nodup_nil
  | sends channel joined other starts works =>
    exact hu.works works (starts.buffer_eq.symm ▸ hu _ _ channel)
  | @closes c ch channel closes =>
    intro d ch' hd
    by_cases hdc : d = c
    · subst hdc
      rw [closes.get?_self] at hd
      split at hd
      · cases hd
      · cases hd
        exact hu d ch channel
    · exact hu d ch' (closes.get?_of_ne hdc ▸ hd)
  | @lapses c ch p q channel push works =>
    have hn : ch.buffer.Nodup := hu c ch channel
    exact hu.works works hn
  | @departs c ch ch' join p timeout detached m unasked channel push free spent other starts works =>
    have hn : ch.buffer.Nodup := hu c ch channel
    have hbuffer : ch'.buffer = ch.buffer := starts.buffer_eq
    exact hu.works works (hbuffer ▸ hn)
  | @joins c ch ch' join timeout value channel push stays starts works =>
    have hn : ch.buffer.Nodup := hu c ch channel
    have hbuffer : ch'.buffer = ch.buffer := starts.buffer_eq.trans Channel.takeBack_buffer
    exact hu.works works (hbuffer ▸ hn)
  | enters spent free enters =>
    intro d ch hd
    rcases enters.get? d hd with hold | ⟨_, _, _, _, rfl⟩
    · exact hu d ch hold
    · exact List.nodup_nil
  | erases unlisted erases => exact fun d ch hd => hu d ch (erases.get? hd).2
  | ends ends =>
    intro d ch hd
    rw [ends.channels_eq, Table.get?_empty] at hd
    cases hd

omit [Outside ω] [Obliging ω] in
theorem Beats.unrepeated (h : Beats asked s t) (hs : Sound s) (hu : Unrepeated s) :
    Unrepeated t := by
  induction h with
  | refl => exact hu
  | tail beats beat ih => exact beat.unrepeated (Beats.sound beats hs) ih

/-- No push ever waits twice. -/
theorem Course.unrepeated {cmds : List Command} (h : Course KeepsRecord s cmds t) (hs : Sound s)
    (hu : Unrepeated s) : Unrepeated t := by
  induction h with
  | start => exact hu
  | surroundings before allowed ih => exact ih
  | take before next ih =>
    have hq := quiet_next? next
    exact (before.beats hs next).unrepeated ((before.sound hs).quiet hq) ih
  | @abandon cmds t before ih =>
    have hends : Beat nobody t t.shutdown := .ends (ends_shutdown t)
    exact hends.unrepeated (before.sound hs) ih

theorem Midway.unrepeated {cmds : List Command} (h : Midway s cmds t u v) (hs : Sound s)
    (hu : Unrepeated s) : Unrepeated u := by
  obtain ⟨cmds₁, cmd, cmds₂, w, x, -, hw, hnext, hbeats, -⟩ := h
  exact Beats.unrepeated hbeats ((hw.sound hs).quiet (quiet_next? hnext)) (hw.unrepeated hs hu)

/-! ### A channel is let in -/

omit [Obliging ω] in
/-- The join that has the reply has the ref that the channel joins under. -/
theorem LetsIn.joinRef (h : LetsIn c q reply u v) (hc : u.channels.get? c = some ch) :
    ∃ r, q.ref = some r ∧ ch.joinRef = some r := by
  have hpush := h.push
  rw [push?, hc, Option.bind_some] at hpush
  obtain ⟨_, q', r, _, _, hq', hr, _⟩ := (h.sound.channels hc).ref_of_awaits (h.listens hc)
  cases hpush.symm.trans hq'
  exact ⟨r, hr, by rw [Channel.joinRef, hpush, Option.bind_some, hr]⟩

variable {cmds : List Command}

end Outside

/-! ### Two pushes that have waited -/

end Socket

end Switchboard
