import Switchboard.Proofs.Commands

/-!
# Beats of a command

A stride is made of beats.  In a beat one thing happens to one channel: it changes, comes or goes; that
a join is accepted is one beat, and each push that waited for the join is sent in a beat of its own.  So
the message of a push is recorded in a beat that records nothing else, and the socket just before that
beat is the one that has handed it over.

Main definitions

* `Socket.Beat`, `Socket.Beats`.

Main results

* `Socket.beats_handle`: every command is carried out in beats;
* `Socket.Beats.moment`: what is recorded while a command is carried out is recorded in one beat.
-/

set_option autoImplicit false

namespace Switchboard

namespace Socket

variable {ω : Type} {s t u : Socket (Recorded ω)} {k : Prompt} {c d : ChannelId}
variable {ch ch' : Channel} {p : PushId} {q : Push} {es : List Effect}
variable {s₀ : Socket (Recorded ω)} {cmd : Command} {asked : ChannelId → PushId → Prop}

/-! ### Beats -/

/-- One thing that a socket does while it carries out a command, where users have asked for some
pushes.  By itself a channel sends leaves only, which nobody has asked for as pushes. -/
inductive Beat (asked : ChannelId → PushId → Prop) :
    Socket (Recorded ω) → Socket (Recorded ω) → Prop
  | quiet {s t : Socket (Recorded ω)} (quiet : Quiet s t) : Beat asked s t
  | alter {s t : Socket (Recorded ω)} {k : Prompt} {c : ChannelId} {ch ch' : Channel}
    {es : List Effect} (channel : s.channels.get? c = some ch)
    (alter : Alter k s.exchange t.exchange (c ∈ s.order) c ch ch' es) (works : Works c ch' es s t) :
    Beat asked s t
  /-- A join is accepted; the pushes that waited for it are not sent yet. -/
  | accepted {s t : Socket (Recorded ω)} {c : ChannelId} {ch : Channel} {q : Push}
    {timer : TimerSlot} {reply : Reply} (channel : s.channels.get? c = some ch)
    (push : ch.pushes.get? joinPush = some q) (awaits : ch.Awaits joinPush)
    (status : reply.status = Status.ok) (works : Works c
      { ch.settle joinPush q timer reply with
        state := .joined
        rejoinTimer := ch.rejoinTimer.reset
        buffer := [] }
      (settled c joinPush q reply ++ [.runReply c joinPush (.channel .joinOk) reply]) s t) :
    Beat asked s t
  /-- A push that waited for the join is sent. -/
  | sends {s t : Socket (Recorded ω)} {c : ChannelId} {ch ch' : Channel} {p : PushId} {q : Push}
    {value : Json} (channel : s.channels.get? c = some ch) (joined : ch.state = .joined)
    (other : p ≠ joinPush) (starts : ch.Starts s.exchange t.exchange c p ch')
    (works : Works c ch' [.accept (.push c p) (ch'.handed p q.event (bodyOf q value))] s t) :
    Beat asked s t
  | closes {s t : Socket (Recorded ω)} {c : ChannelId} {ch : Channel}
    (channel : s.channels.get? c = some ch) (closes : Closes c ch s t) : Beat asked s t
  | lapses {s t : Socket (Recorded ω)} {c : ChannelId} {ch : Channel} {p : PushId} {q : Push}
    (channel : s.channels.get? c = some ch) (push : ch.pushes.get? p = some q)
    (works : Works c { ch with pushes := ch.pushes.set p { q with timer := q.timer.cancel } } []
      s t) : Beat asked s t
  | departs {s t : Socket (Recorded ω)} {c : ChannelId} {ch ch' : Channel} {join : Push}
    {p : PushId} {timeout : Nat} {detached : Bool} {m : Message} (unasked : ¬ asked c p)
    (channel : s.channels.get? c = some ch) (push : ch.pushes.get? joinPush = some join)
    (free : ch.pushes.get? p = none) (spent : t.exchange.Spent (.pushes c) p) (other : p ≠ joinPush)
    (starts : ((departing ch join).insert p
      { Push.leave timeout with detached := detached }).Starts s.exchange t.exchange c p ch')
    (works : Works c ch' [.accept (.push c p) m] s t) : Beat asked s t
  | joins {s t : Socket (Recorded ω)} {c : ChannelId} {ch ch' : Channel} {join : Push}
    {timeout : Nat} {value : Json} (channel : s.channels.get? c = some ch)
    (push : ch.pushes.get? joinPush = some join) (stays : ch.state ≠ .leaving)
    (starts : ({ ch with state := .joining }.takeBack joinPush
      { join with timeout := timeout }).Starts s.exchange t.exchange c joinPush ch')
    (works : Works c ch'
      [.accept (.push c joinPush) (ch'.handed joinPush join.event (bodyOf join value))] s t) :
    Beat asked s t
  | enters {s t : Socket (Recorded ω)} {c : ChannelId} {topic : String}
    (spent : s.exchange.Spent .channels c) (free : s.channels.get? c = none)
    (enters : Enters c topic s t) : Beat asked s t
  | erases {s t : Socket (Recorded ω)} {c : ChannelId} (unlisted : c ∉ s.order)
    (erases : Erases c s t) : Beat asked s t
  | ends {s t : Socket (Recorded ω)} (ends : Ends s t) : Beat asked s t

/-- Any number of beats. -/
abbrev Beats (asked : ChannelId → PushId → Prop) :
    Socket (Recorded ω) → Socket (Recorded ω) → Prop := Relation.ReflTransGen (Beat asked)

theorem Beat.sound (h : Beat asked s t) (hs : Sound s) : Sound t := by
  cases h with
  | quiet quiet => exact hs.quiet quiet
  | alter channel alter works =>
    have hch := hs.channels channel
    exact hs.works channel works (alter.sound hch works.evolves) (alter.refs hch)
  | accepted channel push awaits status works => exact hs.accept channel push works
  | sends channel joined other starts works => exact hs.starts channel starts works
  | closes channel closes => exact closes.sound hs channel
  | lapses channel push works =>
    have hrough : Rough .failure _ s t := .lapse channel push works
    exact hrough.sound hs
  | departs unasked channel push free spent other starts works =>
    have hrough : Rough .failure _ s t := .departs channel push free spent other starts works
      fun e he => ⟨_, List.mem_singleton.mp he⟩
    exact hrough.sound hs
  | joins channel push stays starts works =>
    have hrough : Rough .failure _ s t := .joins channel push stays starts works
    exact hrough.sound hs
  | enters spent free enters => exact enters.sound hs spent free
  | erases unlisted erases => exact erases.sound hs unlisted
  | ends ends => exact ends.sound hs

theorem Beats.sound (h : Beats asked s t) (hs : Sound s) : Sound t := by
  induction h with
  | refl => exact hs
  | tail _ beat ih => exact beat.sound ih

theorem Beat.evolves (h : Beat asked s t) : s.exchange.Evolves t.exchange := by
  cases h with
  | quiet quiet => exact quiet.evolves
  | alter channel alter works => exact works.evolves
  | accepted channel push awaits status works => exact works.evolves
  | sends channel joined other starts works => exact works.evolves
  | closes channel closes => exact closes.evolves
  | lapses channel push works => exact works.evolves
  | departs unasked channel push free spent other starts works => exact works.evolves
  | joins channel push stays starts works => exact works.evolves
  | enters spent free enters => exact enters.evolves
  | erases unlisted erases => exact erases.evolves
  | ends ends => exact ends.evolves

theorem Beats.evolves (h : Beats asked s t) : s.exchange.Evolves t.exchange := by
  induction h with
  | refl => exact .refl _
  | tail _ beat ih => exact ih.trans beat.evolves

/-- The record only grows. -/
theorem Beat.log (h : Beat asked s t) : ∃ es, t.log = s.log ++ es := by
  cases h with
  | quiet quiet => exact ⟨_, quiet.log_eq⟩
  | alter channel alter works => exact ⟨_, works.log_eq⟩
  | accepted channel push awaits status works => exact ⟨_, works.log_eq⟩
  | sends channel joined other starts works => exact ⟨_, works.log_eq⟩
  | closes channel closes => exact ⟨[], closes.log_eq.trans (List.append_nil _).symm⟩
  | lapses channel push works => exact ⟨_, works.log_eq⟩
  | departs unasked channel push free spent other starts works => exact ⟨_, works.log_eq⟩
  | joins channel push stays starts works => exact ⟨_, works.log_eq⟩
  | enters spent free enters => exact ⟨[], enters.log_eq.trans (List.append_nil _).symm⟩
  | erases unlisted erases => exact ⟨[], erases.log_eq.trans (List.append_nil _).symm⟩
  | ends ends => exact ⟨[], ends.log_eq.trans (List.append_nil _).symm⟩

/-- An entry of a record that has grown was there before, or is new. -/
theorem record_split {log es before after : List Effect} {e : Effect}
    (h : log ++ es = before ++ e :: after) :
    (∃ rest, log = before ++ e :: rest ∧ after = rest ++ es) ∨
      ∃ rest, before = log ++ rest ∧ es = rest ++ e :: after := by
  rcases List.append_eq_append_iff.mp h with hnew | ⟨rest, hlog, hes⟩
  · exact .inr hnew
  · cases rest with
    | nil => exact .inr ⟨[], by simpa using hlog.symm, hes.symm⟩
    | cons e' rest =>
      obtain ⟨rfl, rfl⟩ := List.cons.inj hes
      exact .inl ⟨rest, hlog, rfl⟩

/-- What is recorded in beats is recorded in one of them. -/
theorem Beats.moment (h : Beats asked s t) {before after : List Effect} {e : Effect}
    (hlog : t.log = before ++ e :: after) (hnew : ∀ rest, s.log ≠ before ++ e :: rest) :
    ∃ u v es es', Beats asked s u ∧ Beat asked u v ∧ Beats asked v t ∧
      before = u.log ++ es ∧ v.log = u.log ++ es ++ e :: es' := by
  induction h generalizing after with
  | refl => exact absurd hlog (hnew after)
  | @tail u v beats beat ih =>
    obtain ⟨es, hes⟩ := beat.log
    rcases record_split (hes.symm.trans hlog) with ⟨rest, hu, -⟩ | ⟨rest, hbefore, rfl⟩
    · obtain ⟨u', v', es', es'', hbeats, hbeat, hafter, hsplit⟩ := ih hu
      exact ⟨u', v', es', es'', hbeats, hbeat, hafter.tail beat, hsplit⟩
    · exact ⟨u, v, rest, after, beats, beat, .refl, hbefore, by rw [hes, List.append_assoc]⟩

section Outside

variable [Outside ω] [Obliging ω]

/-! ### Strides are made of beats -/

omit [Outside ω] [Obliging ω] in
theorem Flush.beats {ps : List PushId} (h : Flush c ps s t) (hc : s.channels.get? c = some ch)
    (hjoined : ch.state = .joined) (hps : ∀ p ∈ ps, p ≠ joinPush) : Beats asked s t := by
  induction h generalizing ch with
  | nil s => exact .refl
  | pass late rest ih => exact ih hc hjoined fun p hp => hps p (List.mem_cons_of_mem _ hp)
  | send channel push inTime starts works rest ih =>
    rw [channel] at hc
    cases hc
    exact .head (.sends channel hjoined (hps _ List.mem_cons_self) starts works)
      (ih works.get? (starts.state_eq.trans hjoined) fun p hp => hps p (List.mem_cons_of_mem _ hp))

omit [Outside ω] [Obliging ω] in
theorem Move.beats (h : Move k c s t) (hs : Sound s) : Beats asked s t := by
  cases h with
  | quiet quiet => exact .single (.quiet quiet)
  | alter channel alter works => exact .single (.alter channel alter works)
  | accepted channel push awaits unarmed answers status works flush =>
    exact .head (.accepted channel push awaits status works)
      (flush.beats works.get? rfl (hs.channels channel).buffered)
  | closed channel closes => exact .single (.closes channel closes)

omit [Outside ω] [Obliging ω] in
theorem Moves.beats (h : Moves k c s t) (hs : Sound s) : Beats asked s t := by
  induction h with
  | refl => exact .refl
  | tail moves move ih => exact ih.trans (move.beats (Moves.sound moves hs))

theorem beats_leave (hs : Sound s) (hc : s.channels.get? c = some ch)
    (hspent : s.exchange.Spent (.pushes c) p) (hfree : ch.pushes.get? p = none)
    (hother : p ≠ joinPush) (hasked : ¬ asked c p) (timeout : Nat) (detached : Bool) :
    Beats asked s (s.leave c p timeout detached) := by
  obtain ⟨t, join, ch', m, q, r, hjoin, hstarts, hw, _, _, hmoves⟩ :=
    moves_leave hs hc hspent hfree hother timeout detached
  have hdeparts : Beat asked s t :=
    .departs hasked hc hjoin hfree (hw.evolves.spent hspent) hother hstarts hw
  exact .head hdeparts (hmoves.beats (hdeparts.sound hs))

/-- The leave of a channel that is displaced has a number that was not used before. -/
theorem beats_leaveOpenTopic (hs : Sound s)
    (hasked : ∀ {c p}, asked c p → s.exchange.Spent (.pushes c) p) (topic : String)
    (c : ChannelId) : Beats asked s (s.leaveOpenTopic topic c) := by
  rcases leaveOpenTopic_cases hs topic c with ⟨_, heq⟩ |
    ⟨d, ch, p, t, _, _, _, hch, _, _, hquiet, hnot, hspent, hfree, hother, heq⟩
  · rw [heq]
  · rw [heq]
    exact .head (.quiet hquiet) (beats_leave (hs.quiet hquiet) (hquiet.get? d ▸ hch) hspent hfree
      hother (fun hp => hnot (hasked hp)) ch.timeout true)

theorem beats_rejoin (hs : Sound s) (hc : s.channels.get? c = some ch)
    (hasked : ∀ {c p}, asked c p → s.exchange.Spent (.pushes c) p) :
    Beats asked s (s.rejoin c) := by
  rcases rejoin_cases hs hc with ⟨_, heq⟩ | ⟨hstays, hget, heq⟩
  · rw [heq]
  · obtain ⟨join, ch', value, hjoin, _, _, hstarts, hw⟩ :=
      works_attempt (sound_leaveOpenTopic hs ch.topic c) hget
    rw [heq]
    exact (beats_leaveOpenTopic hs hasked ch.topic c).tail (.joins hget hjoin hstays hstarts hw)

theorem beats_pushTimeout (hs : Sound s) (c : ChannelId) (p : PushId) (generation : Nat) :
    Beats asked s (s.pushTimeout c p generation) := by
  rcases moves_pushTimeout hs c p generation with heq | ⟨ch, q, k, t, hc, hp, _, _, hw, hmoves⟩
  · rw [heq]
  · have hlapses : Beat asked s t := .lapses hc hp hw
    exact .head hlapses (hmoves.beats (hlapses.sound hs))

/-- A stride is made of beats, unless it sends a leave that was asked for as a push. -/
theorem Stride.beats (h : Stride s₀ cmd s t) (hs : Sound s)
    (hasked : ∀ {c p}, asked c p → s.exchange.Spent (.pushes c) p)
    (hleave : ∀ {c p timeout}, cmd = .channel c (.leave p timeout) → ¬ asked c p) :
    Beats asked s t := by
  cases h with
  | quiet quiet => exact .single (.quiet quiet)
  | move heeds move => exact move.beats hs
  | expire s command => exact beats_pushTimeout hs _ _ _
  | leave command channel spent free other =>
    exact beats_leave hs channel spent free other (hleave command) _ _
  | @rejoin _ c ch f channel same cause =>
    have hmove : Move .failure c s (s.modifyChannel c f) := move_alike channel same
    have hw := works_modifyChannel channel f
    exact (hmove.beats hs).trans (beats_rejoin (hmove.sound hs) hw.get? fun hp =>
      hw.evolves.spent (hasked hp))
  | enters command spent free enters => exact .single (.enters spent free enters)
  | erases unlisted erases => exact .single (.erases unlisted erases)
  | ends ends => exact .single (.ends ends)

theorem Strides.beats (h : Strides s₀ cmd s t) (hs : Sound s)
    (hasked : ∀ {c p}, asked c p → s.exchange.Spent (.pushes c) p)
    (hleave : ∀ {c p timeout}, cmd = .channel c (.leave p timeout) → ¬ asked c p) :
    Beats asked s t := by
  induction h with
  | refl => exact .refl
  | tail strides stride ih =>
    have hevolves := Strides.evolves strides hs
    exact ih.trans (stride.beats (Strides.sound strides hs)
      (fun hp => hevolves.spent (hasked hp)) hleave)

/-- Every command is carried out in beats. -/
theorem beats_handle (hs : Sound s) (cmd : Command) (hdue : Due s cmd)
    (hasked : ∀ {c p}, asked c p → s.exchange.Spent (.pushes c) p)
    (hleave : ∀ {c p timeout}, cmd = .channel c (.leave p timeout) → ¬ asked c p) :
    Beats asked s (s.handle cmd) :=
  (strides_handle hs cmd hdue).beats hs hasked hleave

end Outside

end Socket

end Switchboard
