import Switchboard.Proofs.Replies
import Switchboard.Proofs.Epochs

/-!
# How channels are let in

A channel is let in when the reply `ok` resolves its join.  That a reply resolves a push is one call
deep inside of a command, among other things that the command does: a message may be for several
channels, a failure is told to all of them, and a channel that joins may leave another one before.  Here
the calls are found again.  A command goes on in stretches, and in each of them either a call lets a
channel in, or whatever happens lets none in; so each entry of a record that says of a channel that it
was let in stems from such a call, and the socket before the call has come there in beats.

Main definitions

* `Socket.LetsIn`: a call by which the join of a channel is resolved with `ok`;
* `Socket.Stretch`: what a socket does in the course of a command, divided by these calls;
* `Socket.Midway`: in the middle of a command of a course a socket becomes another.

Main results

* `Socket.stretch_dispatchTo`, `Socket.stretch_handle`: to dispatch an event is a stretch, and so is to
  carry out a command;
* `Socket.Stretch.letsIn`, `Socket.Course.letsIn`: what is recorded of a join that has the reply `ok` is
  recorded by such a call.
-/

set_option autoImplicit false

namespace Switchboard

/-- A join is said to have the reply `ok`. -/
def Effect.admits : Effect → Bool
  | .resolve _ p _ reply => p == joinPush && reply.status == Status.ok
  | _ => false

theorem Effect.not_admits_of_not_saysReply {e : Effect} (h : e.saysReply = false) :
    e.admits = false := by
  cases e with
  | resolve c p r reply => cases h
  | _ => rfl

theorem not_admits_settled {c : ChannelId} {p : PushId} {q : Push} {reply : Reply}
    (h : p ≠ joinPush ∨ reply.status ≠ Status.ok) : ∀ e ∈ settled c p q reply, e.admits = false := by
  intro e he
  rcases List.mem_append.mp he with he | he
  · obtain ⟨ticket, _, rfl⟩ := List.mem_map.mp he
    rfl
  · cases List.mem_singleton.mp he
    rcases h with h | h <;> simp [Effect.admits, h]

theorem not_admits_runs {c : ChannelId} {p : PushId} {q : Push} {reply : Reply} :
    ∀ e ∈ q.runs c p reply, e.admits = false := by
  intro e he
  obtain ⟨hook, _, rfl⟩ := List.mem_map.mp he
  rfl

namespace Socket

variable {ω : Type} {s t u v : Socket (Recorded ω)} {k : Prompt} {c d : ChannelId}
variable {ch ch' : Channel} {p : PushId} {q : Push} {es : List Effect} {reply : Reply}
variable {s₀ : Socket (Recorded ω)} {cmd : Command}

/-- No push is asked for. -/
def nobody (_ : ChannelId) (_ : PushId) : Prop := False

section Outside

variable [Outside ω]

/-! ### Stretches -/

/-- By a call the reply `ok` resolves the join of a channel that listens for it. -/
structure LetsIn (c : ChannelId) (q : Push) (reply : Reply) (s t : Socket (Recorded ω)) : Prop where
  sound : Sound s
  push : s.push? c joinPush = some q
  listens : ∀ {ch}, s.channels.get? c = some ch → ch.Awaits joinPush
  status : reply.status = Status.ok
  called : ∃ n, t = s.resolvePush (dispatchTo n) c joinPush reply

/-- A socket goes on in beats: a channel is let in by a call, or none is let in. -/
inductive Stretch : Socket (Recorded ω) → Socket (Recorded ω) → Prop
  | besides {s t : Socket (Recorded ω)} {es : List Effect} (beats : Beats nobody s t)
    (recorded : t.log = s.log ++ es) (bars : ∀ e ∈ es, e.admits = false) : Stretch s t
  | letsIn {s t : Socket (Recorded ω)} {c : ChannelId} {q : Push} {reply : Reply}
    (beats : Beats nobody s t) (letsIn : LetsIn c q reply s t) : Stretch s t
  | trans {s t u : Socket (Recorded ω)} (first : Stretch s t) (rest : Stretch t u) : Stretch s u

theorem Stretch.beats (h : Stretch s t) : Beats nobody s t := by
  induction h with
  | besides beats recorded bars => exact beats
  | letsIn beats letsIn => exact beats
  | trans first rest ih₁ ih₂ => exact ih₁.trans ih₂

omit [Outside ω] in
theorem Beats.log {asked : ChannelId → PushId → Prop} (h : Beats asked s t) :
    ∃ es, t.log = s.log ++ es := by
  induction h with
  | refl => exact ⟨[], (List.append_nil _).symm⟩
  | tail _ beat ih =>
    obtain ⟨es, hes⟩ := ih
    obtain ⟨es', hes'⟩ := beat.log
    exact ⟨es ++ es', by rw [hes', hes, List.append_assoc]⟩

theorem Stretch.sound (h : Stretch s t) (hs : Sound s) : Sound t := h.beats.sound hs

theorem Stretch.silent (h : Beats nobody s t) (hlog : t.log = s.log) : Stretch s t :=
  .besides h (hlog.trans (List.append_nil _).symm) (by simp)

theorem Stretch.refl (s : Socket (Recorded ω)) : Stretch s s := .silent .refl rfl

theorem Quiet.stretch (h : Quiet s t) : Stretch s t :=
  .silent (.single (.quiet h)) (h.log_eq.trans (List.append_nil _))

/-- What is recorded of a join that has the reply `ok` is recorded by a call that lets the channel in. -/
theorem Stretch.letsIn_of_recorded (h : Stretch s t) {before after : List Effect} {e : Effect}
    (hlog : t.log = before ++ e :: after) (he : e.admits = true)
    (hnew : ∀ rest, s.log ≠ before ++ e :: rest) :
    ∃ c q reply u v es es', Beats nobody s u ∧ LetsIn c q reply u v ∧ Beats nobody v t ∧
      before = u.log ++ es ∧ v.log = u.log ++ es ++ e :: es' := by
  induction h generalizing after with
  | @besides s t es beats recorded bars =>
    rcases record_split (recorded.symm.trans hlog) with ⟨rest, hold, -⟩ | ⟨rest, -, rfl⟩
    · exact absurd hold (hnew rest)
    · rw [bars e (List.mem_append_right _ List.mem_cons_self)] at he
      cases he
  | @letsIn s t c q reply beats letsIn =>
    obtain ⟨es, hes⟩ := Beats.log beats
    rcases record_split (hes.symm.trans hlog) with ⟨rest, hold, -⟩ | ⟨rest, hbefore, rfl⟩
    · exact absurd hold (hnew rest)
    · exact ⟨c, q, reply, s, t, rest, after, .refl, letsIn, .refl, hbefore,
        by rw [hes, List.append_assoc]⟩
  | @trans s t u first rest ih₁ ih₂ =>
    by_cases hthere : ∃ after', t.log = before ++ e :: after'
    · obtain ⟨after', hthere⟩ := hthere
      obtain ⟨c, q, reply, v, w, es, es', hv, hletsIn, hw, hrecorded⟩ := ih₁ hthere hnew
      exact ⟨c, q, reply, v, w, es, es', hv, hletsIn, hw.trans rest.beats, hrecorded⟩
    · obtain ⟨c, q, reply, v, w, es, es', hv, hrest⟩ := ih₂ hlog (not_exists.mp hthere)
      exact ⟨c, q, reply, v, w, es, es', first.beats.trans hv, hrest⟩

/-! ### Moves that answer nobody -/

omit [Outside ω] in
/-- A change that answers no push lets nobody in. -/
theorem Alter.bars {registered : Prop} {x y : Exchange}
    (hk : ∀ {registered ch q reply}, ¬ k.Answers registered ch q reply)
    (h : Alter k x y registered c ch ch' es) : ∀ e ∈ es, e.admits = false := by
  cases h with
  | alike same notes =>
    intro e he
    cases notes e he <;> rfl
  | hooked op => simp
  | listen op spent fresh => simp
  | unbind op => simp
  | enlist op free spent other starts waits accepts =>
    rcases accepts with rfl | ⟨_, rfl⟩
    · simp
    · simp [Effect.admits]
  | settle other push awaits unarmed answers => exact absurd answers hk
  | forget other push received => simp
  | unheard push awaits unarmed answers status => exact absurd answers hk
  | refused push awaits unarmed answers => exact absurd answers hk
  | abandoned push awaits unarmed answers => exact absurd answers hk
  | failed listed push => simp

theorem Move.stretch (hk : ∀ {registered ch q reply}, ¬ k.Answers registered ch q reply)
    (h : Move k c s t) (hs : Sound s) : Stretch s t := by
  have hbeats : Beats nobody s t := h.beats hs
  cases h with
  | quiet quiet => exact quiet.stretch
  | alter channel alter works => exact .besides hbeats works.log_eq (alter.bars hk)
  | accepted channel push awaits unarmed answers => exact absurd answers hk
  | closed channel closes => exact .silent hbeats closes.log_eq

theorem Moves.stretch (hk : ∀ {registered ch q reply}, ¬ k.Answers registered ch q reply)
    (h : Moves k c s t) (hs : Sound s) : Stretch s t := by
  induction h with
  | refl => exact .refl s
  | tail moves move ih => exact ih.trans (move.stretch hk (Moves.sound moves hs))

omit [Outside ω] in
theorem not_answers_failure {registered : Prop} {ch : Channel} {q : Push} {reply : Reply} :
    ¬ Prompt.failure.Answers registered ch q reply := id

variable [Obliging ω]

/-! ### A push is resolved -/

/-- A push is resolved: a channel is let in, or none. -/
theorem stretch_resolvePush (n : Nat) (hs : Sound s) (hc : s.channels.get? c = some ch)
    (hq : ch.pushes.get? p = some q) (hawaits : ch.Awaits p)
    (ha : k.Answers (c ∈ s.order) ch q reply) :
    Stretch s (s.resolvePush (dispatchTo n) c p reply) := by
  have hsettled := settled_settlePush hc hq hawaits ha
  have heq : s.resolvePush (dispatchTo n) c p reply = _ := resolvePush_eq hc hq reply
  have hbeats : Beats nobody s (s.resolvePush (dispatchTo n) c p reply) := by
    rw [heq]
    exact (hsettled.moves (level_dispatchTo n) hs).1.beats hs
  by_cases hjoin : p = joinPush
  · subst hjoin
    by_cases hok : reply.status = Status.ok
    · refine .letsIn hbeats ⟨hs, push?_eq_some.mpr ⟨ch, hc, hq⟩, fun hc' => ?_, hok, n, rfl⟩
      cases hc.symm.trans hc'
      exact hawaits
    -- Of what runs for another status, nothing says that the join has a reply.
    · have honce := atMostOnce_of_plain (hs.channels hc) hq (fun h => absurd rfl h) reply.status
      obtain ⟨es, hes, hsaid⟩ := says_runReplyHooks (dispatchTo n) (hsettled.sound hs)
        hsettled.push? honce
      have hlog : (s.resolvePush (dispatchTo n) c joinPush reply).log =
          s.log ++ (settled c joinPush q reply ++ es) := by
        rw [heq, log_releasePush, ← List.append_assoc, ← hsettled.works.log_eq]
        exact hes
      refine .besides hbeats hlog fun e he => ?_
      rcases List.mem_append.mp he with he | he
      · exact not_admits_settled (.inr hok) e he
      · cases hsays : e.saysReply with
        | false => exact Effect.not_admits_of_not_saysReply hsays
        | true => exact not_admits_runs e (hsaid ▸ List.mem_filter.mpr ⟨he, hsays⟩)
  · obtain ⟨hmove, hmoves⟩ := hsettled.moves_other (level_dispatchTo n) hs hjoin q.hooks.length
    have hfirst : Stretch s (s.settlePush c p q reply) :=
      .besides (hmove.beats hs) hsettled.works.log_eq (not_admits_settled (.inl hjoin))
    rw [heq]
    exact hfirst.trans ((hmoves .failure).stretch not_answers_failure (hsettled.sound hs))

/-! ### An event is dispatched -/

/-- An event reaches a binding that has an effect. -/
theorem stretch_runTarget (n : Nat) (hs : Sound s) (hc : s.channels.get? c = some ch)
    (nested : ∀ {r payload}, k.Voices (c ∈ s.order) (ch.hook ≠ none) (Event.replyTo r) payload none →
      Stretch s (dispatchTo n c (Event.replyTo r) payload none none s))
    {b : Binding} (hb : b ∈ ch.bindings) {payload : Payload} {ref : Option Ref}
    (joinRef : Option Ref) (hnot : ¬ b.Inert payload)
    (hv : k.Voices (c ∈ s.order) (ch.hook ≠ none) b.event payload ref) :
    Stretch s (s.runTarget (dispatchTo n) c ⟨b.event, payload, ref, joinRef⟩ b.target) := by
  rcases (hs.channels hc).internal hb fun h => hnot (.inl h) with
    rfl | rfl | rfl | ⟨p, q, r, ht, hp, hr, hevent, heq⟩
  · have hmove : Move .failure c s (s.closeChannel c) := .closed hc (closes_closeChannel hc)
    exact hmove.stretch not_answers_failure hs
  · have hmoves : Moves .failure c s (s.failChannel c) := moves_failChannel hs hc hv.listed
    exact hmoves.stretch not_answers_failure hs
  · cases ref with
    | none => exact .refl s
    | some r => exact nested hv.redirect
  · rw [ht]
    cases hreply : payload.reply? with
    | none => exact absurd (.inr ⟨p, ht, hreply⟩) hnot
    | some reply =>
      simp only [runTarget, hreply]
      exact stretch_resolvePush n hs hc hp ⟨b, hb, ht⟩ (hv.answers (hs.channels hc) hp hevent hreply)

/-- To dispatch an event is a stretch. -/
theorem stretch_dispatchTo (n : Nat) (hs : Sound s) (hc : s.channels.get? c = some ch)
    {event : String} {payload : Payload} {ref : Option Ref} (joinRef : Option Ref)
    (hv : k.Voices (c ∈ s.order) (ch.hook ≠ none) event payload ref) :
    Stretch s (dispatchTo n c event payload ref joinRef s) := by
  induction n generalizing s event payload ref joinRef with
  | zero => exact .refl s
  | succ n ih =>
    rcases dispatchWith_target (level_dispatchTo n) hs hc joinRef hv with
      ⟨hquiet, _⟩ | ⟨t, b, payload', joinRef', ht, hb, rfl, hnot, _, hv', hrest⟩
    · exact hquiet.stretch
    · have hst := hs.quiet ht
      have hct : t.channels.get? c = some ch := ht.get? c ▸ hc
      have htarget := stretch_runTarget n hst hct (fun hv'' => ih hst hct none hv'') hb joinRef'
        hnot hv'
      exact (ht.stretch.trans htarget).trans hrest.stretch

/-! ### What a command does -/

/-- A channel answers one of its pushes. -/
theorem stretch_triggerPush (hs : Sound s) (hc : s.channels.get? c = some ch)
    (hp : ch.pushes.get? p = some q) (status : String) (response : Payload) :
    Stretch s (s.triggerPush c p status response) := by
  have hevent := (hs.channels hc).events hp
  have hpush : s.push? c p = some q := push?_eq_some.mpr ⟨ch, hc, hp⟩
  cases hr : q.ref with
  | none =>
    rw [hr, Option.map_none] at hevent
    simp only [triggerPush, hpush, Option.bind_some, hevent]
    exact .refl s
  | some r =>
    rw [hr, Option.map_some] at hevent
    simp only [triggerPush, hpush, Option.bind_some, hevent]
    have hv : (Prompt.reply r (.reply status response)).Voices (c ∈ s.order) (ch.hook ≠ none)
        (Event.replyTo r) (.reply status response) none := .inr ⟨rfl, fun _ => rfl⟩
    exact stretch_dispatchTo 3 hs hc none hv

theorem stretch_pushTimeout (hs : Sound s) (c : ChannelId) (p : PushId) (generation : Nat) :
    Stretch s (s.pushTimeout c p generation) := by
  rcases pushTimeout_cases s c p generation with heq | ⟨ch, q, hc, hp, _, heq⟩
  · rw [heq]
    exact .refl s
  · have hw := works_modifyPush hc hp fun q' => { q' with timer := q.timer.cancel }
    have hlapses : Beat nobody s (s.modifyPush c p fun q' => { q' with timer := q.timer.cancel }) :=
      .lapses hc hp hw
    rw [heq]
    exact (Stretch.silent (.single hlapses) (hw.log_eq.trans (List.append_nil _))).trans
      (stretch_triggerPush (hlapses.sound hs) hw.get? (Table.get?_set_self _ _ _) _ _)

theorem stretch_leave (hs : Sound s) (hc : s.channels.get? c = some ch)
    (hspent : s.exchange.Spent (.pushes c) p) (hfree : ch.pushes.get? p = none)
    (hother : p ≠ joinPush) (timeout : Nat) (detached : Bool) :
    Stretch s (s.leave c p timeout detached) := by
  obtain ⟨t, join, ch', m, hjoin, _, _, hstarts, hw, heq⟩ :=
    works_depart hs hc hspent hfree hother timeout detached
  have hdeparts : Beat nobody s t :=
    .departs id hc hjoin hfree (hw.evolves.spent hspent) hother hstarts hw
  obtain ⟨_, r, _, q, _, _, hq, _⟩ := hstarts.self
  have hfirst : Stretch s t := .besides (.single hdeparts) hw.log_eq (by simp [Effect.admits])
  rw [heq]
  exact hfirst.trans (stretch_triggerPush (hdeparts.sound hs) hw.get? hq _ _)

theorem stretch_leaveOpenTopic (hs : Sound s) (topic : String) (c : ChannelId) :
    Stretch s (s.leaveOpenTopic topic c) := by
  rcases leaveOpenTopic_cases hs topic c with ⟨_, heq⟩ |
    ⟨d, ch, p, t, _, _, _, hch, _, _, hquiet, _, hspent, hfree, hother, heq⟩
  · rw [heq]
    exact .refl s
  · rw [heq]
    exact hquiet.stretch.trans (stretch_leave (hs.quiet hquiet) (hquiet.get? d ▸ hch) hspent hfree
      hother ch.timeout true)

theorem stretch_rejoin (hs : Sound s) (hc : s.channels.get? c = some ch) :
    Stretch s (s.rejoin c) := by
  rcases rejoin_cases hs hc with ⟨_, heq⟩ | ⟨hstays, hget, heq⟩
  · rw [heq]
    exact .refl s
  · obtain ⟨join, ch', value, hjoin, _, _, hstarts, hw⟩ :=
      works_attempt (sound_leaveOpenTopic hs ch.topic c) hget
    rw [heq]
    exact (stretch_leaveOpenTopic hs ch.topic c).trans
      (.besides (.single (.joins hget hjoin hstays hstarts hw)) hw.log_eq (by simp [Effect.admits]))

/-- A message reaches one of the channels. -/
theorem stretch_deliver (hs : Sound s) (m : Message) (hmem : c ∈ s.order) :
    Stretch s (deliver m s c) := by
  obtain ⟨ch, hc⟩ := hs.registered c hmem
  unfold deliver
  split
  · have hv : (Prompt.message m).Voices (c ∈ s.order) (ch.hook ≠ none) m.event m.payload m.ref :=
      .inr ⟨hmem, fun _ => rfl, .inl ⟨rfl, rfl⟩⟩
    exact stretch_dispatchTo 3 hs hc m.joinRef hv
  · exact .refl s

theorem stretch_deliverAll (m : Message) (l : List ChannelId) (hl : l.Nodup)
    (hsub : ∀ c ∈ l, c ∈ s.order) (hs : Sound s) : Stretch s (l.foldl (deliver m) s) := by
  induction l generalizing s with
  | nil => exact .refl s
  | cons c l ih =>
    obtain ⟨hnot, hl⟩ := List.nodup_cons.mp hl
    have hmem := hsub c List.mem_cons_self
    refine (stretch_deliver hs m hmem).trans (ih hl ?_ ((stretch_deliver hs m hmem).sound hs))
    intro d hd
    have hne : d ≠ c := fun heq => hnot (heq ▸ hd)
    exact ((moves_deliver hs m hmem).frame.mem_order hne).mpr (hsub d (List.mem_cons_of_mem _ hd))

theorem stretch_messageReceived (hs : Sound s) (m : Message) : Stretch s (s.messageReceived m) := by
  have hquiet := quiet_answerHeartbeat s m
  have hsound := hs.quiet hquiet
  exact (hquiet.stretch.trans (stretch_deliverAll m _ hsound.nodup (fun _ => id) hsound)).trans
    (quiet_foldl (quiet_runOnMessage m) _ _).stretch

/-- A stride of a command that brings no message. -/
theorem Stride.stretch (h : Stride s₀ cmd s t) (hs : Sound s) (hnone : s₀.incoming? cmd = none) :
    Stretch s t := by
  cases h with
  | quiet quiet => exact quiet.stretch
  | @move _ _ k _ heeds move =>
    refine move.stretch ?_ hs
    cases k with
    | op op => exact id
    | failure => exact id
    | message m => cases hnone.symm.trans heeds
    | reply r payload => exact heeds.elim
  | expire s command => exact stretch_pushTimeout hs _ _ _
  | leave command channel spent free other => exact stretch_leave hs channel spent free other _ _
  | @rejoin _ c ch f channel same cause =>
    have hmove : Move .failure c s (s.modifyChannel c f) := move_alike channel same
    exact (hmove.stretch not_answers_failure hs).trans
      (stretch_rejoin (hmove.sound hs) (works_modifyChannel channel f).get?)
  | enters command spent free enters => exact .silent (.single (.enters spent free enters)) enters.log_eq
  | erases unlisted erases => exact .silent (.single (.erases unlisted erases)) erases.log_eq
  | ends ends => exact .silent (.single (.ends ends)) ends.log_eq

theorem Strides.stretch (h : Strides s₀ cmd s t) (hs : Sound s) (hnone : s₀.incoming? cmd = none) :
    Stretch s t := by
  induction h with
  | refl => exact .refl s
  | tail strides stride ih => exact ih.trans (stride.stretch (Strides.sound strides hs) hnone)

/-- To carry out a command is a stretch. -/
theorem stretch_handle (hs : Sound s) (cmd : Command) (hdue : Due s cmd) :
    Stretch s (s.handle cmd) := by
  cases hm : s.incoming? cmd with
  | none => exact (strides_handle hs cmd hdue).stretch hs hm
  | some m =>
    have hprune := quiet_pruneRetired s
    rw [handle_of_incoming? hm]
    exact hprune.stretch.trans (stretch_messageReceived (hs.quiet hprune) m)

/-! ### Courses -/

/-- In the middle of a command of a course a socket becomes another, and goes on from there. -/
def Midway (s : Socket (Recorded ω)) (cmds : List Command) (t u v : Socket (Recorded ω)) : Prop :=
  ∃ cmds₁ cmd cmds₂ w x, cmds = cmds₁ ++ cmd :: cmds₂ ∧ Course KeepsRecord s cmds₁ w ∧
    w.exchange.next? = some (cmd, x) ∧ Beats nobody { w with exchange := x } u ∧
    Beats nobody v ({ w with exchange := x }.handle cmd) ∧
    Course KeepsRecord ({ w with exchange := x }.handle cmd) cmds₂ t

theorem Midway.evolves {cmds : List Command} (h : Midway s cmds t u v) (hv : Sound v) :
    v.exchange.Evolves t.exchange := by
  obtain ⟨cmds₁, cmd, cmds₂, w, x, -, hw, hnext, -, hrest, hcourse⟩ := h
  exact (Beats.evolves hrest).trans (hcourse.evolves (Beats.sound hrest hv))

/-- What a course records of a join that has the reply `ok` is recorded by a call that lets the channel
in, in the middle of one of its commands. -/
theorem Course.letsIn {cmds : List Command} (h : Course KeepsRecord s cmds t) (hs : Sound s)
    {before after : List Effect} {e : Effect} (hlog : t.log = before ++ e :: after)
    (he : e.admits = true) (hnew : ∀ rest, s.log ≠ before ++ e :: rest) :
    ∃ c q reply u v es es', Midway s cmds t u v ∧ LetsIn c q reply u v ∧
      before = u.log ++ es ∧ v.log = u.log ++ es ++ e :: es' := by
  obtain ⟨cmds₁, cmd, cmds₂, w, x, rfl, hw, hnext, hrest, ⟨rest, hmade⟩, hbefore⟩ :=
    h.recorded hlog hnew
  have hsw := hw.sound hs
  have hstretch := stretch_handle (hsw.quiet (quiet_next? hnext)) cmd (due_of_next? hsw hnext)
  obtain ⟨c, q, reply, u, v, es, es', hu, hletsIn, hv, hrecorded⟩ :=
    hstretch.letsIn_of_recorded hmade he hbefore
  exact ⟨c, q, reply, u, v, es, es', ⟨cmds₁, cmd, cmds₂, w, x, rfl, hw, hnext, hu, hv, hrest⟩,
    hletsIn, hrecorded⟩

end Outside

end Socket

end Switchboard
