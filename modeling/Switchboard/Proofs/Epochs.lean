import Switchboard.Proofs.Beats
import Switchboard.Proofs.Courses
import Switchboard.Proofs.Fates
import Switchboard.Proofs.Joined

/-!
# Epochs of a channel

A join that is accepted begins an epoch of its channel, and the ref of the join names the epoch.  The
record bears a joined channel out: of its join the last that was recorded is that it was sent under the
ref that it has now, and that the reply to it was `ok`.  As long as the channel is joined its join push
is not sent, answered or taken back, so what users push carries the ref of the epoch in which it is sent.

Main definitions

* `JoinSent`, `Admitted`: what was recorded last of the join of a channel;
* `Channel.Attested`: the record bears out what a channel is;
* `Socket.Moment`: what a socket is, and what becomes of it, in the middle of a command of a course.

Main results

* `Socket.Beat.attested`, `Socket.Course.attested`: the record bears out all channels at all times;
* `Socket.Course.recorded`: what is recorded is recorded while one command is carried out;
* `Socket.messages_carry_epoch`: a join is sent under a fresh ref that is its join ref, and what a user
  pushes is sent from a joined channel, with the ref of the join that let the channel in.
-/

set_option autoImplicit false

namespace Switchboard

/-! ### What is recorded of a join -/

/-- Whether an effect tells that the join of a channel was sent or has its reply. -/
def Effect.tellsOfJoin (c : ChannelId) (e : Effect) : Bool := e.joins c || e.resolves c joinPush

/-- What was recorded last of the join of a channel is that it was sent under a ref. -/
def JoinSent (log : List Effect) (c : ChannelId) (r : Ref) : Prop :=
  ∃ before m after, log = before ++ .accept (.push c joinPush) m :: after ∧ m.ref = some r ∧
    ∀ e ∈ after, e.tellsOfJoin c = false

/-- What was recorded last of the join of a channel is that it was sent under a ref, that the reply to
that ref was `ok`, and that this let the channel in. -/
def Admitted (log : List Effect) (c : ChannelId) (r : Ref) : Prop :=
  ∃ before reply after, JoinSent before c r ∧ reply.status = Status.ok ∧
    log = before ++ .resolve c joinPush (some r) reply ::
      .runReply c joinPush (.channel .joinOk) reply :: after ∧
    ∀ e ∈ after, e.tellsOfJoin c = false

section Record

variable {c d : ChannelId} {p : PushId} {q : Push} {reply : Reply} {r : Ref} {log es : List Effect}

theorem tellsOfJoin_eq_false {e : Effect} :
    e.tellsOfJoin c = false ↔ e.joins c = false ∧ e.resolves c joinPush = false := by
  simp [Effect.tellsOfJoin]

theorem tellsOfJoin_accept (h : d ≠ c ∨ p ≠ joinPush) (m : Message) :
    ∀ e ∈ [Effect.accept (.push d p) m], e.tellsOfJoin c = false := by
  intro e he
  rw [List.mem_singleton.mp he, tellsOfJoin_eq_false]
  refine ⟨?_, rfl⟩
  simpa [Effect.joins, Decidable.imp_iff_not_or] using h

/-- The reply to one push tells nothing of the join of another channel, or of another push. -/
theorem tellsOfJoin_settled (h : d ≠ c ∨ p ≠ joinPush) :
    ∀ e ∈ settled d p q reply, e.tellsOfJoin c = false :=
  fun e he => tellsOfJoin_eq_false.mpr ⟨Socket.joins_settled reply e he, (silent_settled h e he).1⟩

theorem JoinSent.append (h : JoinSent log c r) (hes : ∀ e ∈ es, e.tellsOfJoin c = false) :
    JoinSent (log ++ es) c r := by
  obtain ⟨before, m, after, rfl, href, hafter⟩ := h
  refine ⟨before, m, after ++ es, by simp, href, fun e he => ?_⟩
  exact (List.mem_append.mp he).elim (hafter e) (hes e)

theorem Admitted.append (h : Admitted log c r) (hes : ∀ e ∈ es, e.tellsOfJoin c = false) :
    Admitted (log ++ es) c r := by
  obtain ⟨before, reply, after, hsent, hok, rfl, hafter⟩ := h
  refine ⟨before, reply, after ++ es, hsent, hok, by simp, fun e he => ?_⟩
  exact (List.mem_append.mp he).elim (hafter e) (hes e)

/-- A join that was sent has the reply `ok`. -/
theorem JoinSent.admitted (h : JoinSent log c r) (href : q.ref = some r)
    (hok : reply.status = Status.ok) :
    Admitted (log ++ (settled c joinPush q reply ++ [.runReply c joinPush (.channel .joinOk) reply]))
      c r := by
  refine ⟨log ++ q.waiters.map fun ticket => .answer ticket (.reply c joinPush reply), reply, [],
    h.append ?_, hok, by simp [settled, href], by simp⟩
  intro e he
  obtain ⟨ticket, -, rfl⟩ := List.mem_map.mp he
  rfl

end Record

namespace Channel

variable {c : ChannelId} {ch ch' : Channel} {log es : List Effect}

/-- The record bears out a channel: a join that is listened for was sent under its ref, and a joined
channel listens for no join and was let in under the ref of its join. -/
structure Attested (ch : Channel) (c : ChannelId) (log : List Effect) : Prop where
  sent : ch.Awaits joinPush → ∃ r, ch.joinRef = some r ∧ JoinSent log c r
  admitted : ch.state = .joined → ¬ ch.Awaits joinPush ∧ ∃ r, ch.joinRef = some r ∧ Admitted log c r

/-- A channel that is neither joined nor listens for its join has nothing to be borne out. -/
theorem attested_of_idle (hstate : ch.state ≠ .joined) (hawaits : ¬ ch.Awaits joinPush) :
    ch.Attested c log :=
  ⟨fun h => absurd h hawaits, fun h => absurd h hstate⟩

theorem Attested.keeps (h : ch.Attested c log) (hstate : ch'.state = .joined → ch.state = .joined)
    (hawaits : ch'.Awaits joinPush → ch.Awaits joinPush) (href : ch'.joinRef = ch.joinRef)
    (hes : ∀ e ∈ es, e.tellsOfJoin c = false) : ch'.Attested c (log ++ es) where
  sent hjoin := by
    obtain ⟨r, hr, hsent⟩ := h.sent (hawaits hjoin)
    exact ⟨r, href.trans hr, hsent.append hes⟩
  admitted hjoined := by
    obtain ⟨hdeaf, r, hr, hadmitted⟩ := h.admitted (hstate hjoined)
    exact ⟨fun hjoin => hdeaf (hawaits hjoin), r, href.trans hr, hadmitted.append hes⟩

/-- The record bears out that the reply `ok` has let the channel in. -/
theorem Attested.accepted {x : Exchange} {q : Push} {timer : TimerSlot} {reply : Reply}
    (h : ch.Attested c log) (hs : ch.Sound x c) (push : ch.pushes.get? joinPush = some q)
    (awaits : ch.Awaits joinPush) (status : reply.status = Status.ok) :
    Attested
      { ch.settle joinPush q timer reply with
        state := .joined
        rejoinTimer := ch.rejoinTimer.reset
        buffer := [] }
      c (log ++ (settled c joinPush q reply ++
        [.runReply c joinPush (.channel .joinOk) reply])) := by
  obtain ⟨r, href, hsent⟩ := h.sent awaits
  have hq : q.ref = some r := by
    rw [← href, joinRef, push, Option.bind_some]
  have hdeaf : ¬ (ch.settle joinPush q timer reply).Awaits joinPush :=
    hs.not_awaits_drop push rfl
  refine ⟨fun h => absurd h hdeaf, fun _ => ⟨hdeaf, r, ?_, hsent.admitted hq status⟩⟩
  exact (joinRef_settle timer reply).trans hq

/-- The record bears out that the join of a channel that joins was sent. -/
theorem attested_of_joins {x y : Exchange} {event : String} {body : Payload}
    (h : ch.Starts x y c joinPush ch') (hstate : ch.state ≠ .joined) :
    ch'.Attested c (log ++ [.accept (.push c joinPush) (ch'.handed joinPush event body)]) := by
  obtain ⟨_, r, _, q, _, _, hq, hr, _⟩ := h.self
  have href := congrArg (Option.bind · Push.ref) hq
  refine ⟨fun _ => ⟨r, href.trans hr, _, _, [], rfl, href.trans hr, by simp⟩, fun hjoined => ?_⟩
  exact absurd (h.state_eq.symm.trans hjoined) hstate

end Channel

namespace Socket

variable {ω : Type} {s t u v : Socket (Recorded ω)} {k : Prompt} {c d : ChannelId}
variable {ch ch' : Channel} {p : PushId} {q : Push} {es : List Effect} {m : Message}
variable {asked : ChannelId → PushId → Prop}

/-! ### The record bears out all channels -/

theorem Alter.attested {registered : Prop} {x y : Exchange} {log : List Effect}
    (h : Alter k x y registered c ch ch' es) (hs : ch.Sound x c) (hs' : ch'.Sound y c)
    (ha : ch.Attested c log) : ch'.Attested c (log ++ es) := by
  have hdeaf : ∀ {q}, ch.pushes.get? joinPush = some q →
      ∀ timer reply, ¬ (ch.settle joinPush q timer reply).Awaits joinPush :=
    fun hq _ _ => hs.not_awaits_drop hq rfl
  cases h with
  | alike same notes =>
    refine ha.keeps (fun h => same.state ▸ h) (Channel.awaits_congr same.bindings).mp
      (same.keepsJoin.joinRef hs') fun e he => ?_
    cases notes e he <;> rfl
  | hooked op => exact ha.keeps id id rfl (by simp)
  | listen op spent fresh => exact ha.keeps id Channel.awaits_bind.mp rfl (by simp)
  | unbind op => exact ha.keeps id (fun h => h.of_sublist List.filter_sublist) rfl (by simp)
  | enlist op free spent other starts waits accepts =>
    refine ha.keeps (fun h => starts.state_eq.symm.trans h) (starts.awaits_of_ne other.symm)
      (Channel.KeepsJoin.joinRef (starts.keepsJoin_insert other) hs') fun e he => ?_
    rw [eq_accept_of_mem accepts he]
    exact tellsOfJoin_accept (.inr other) _ _ (List.mem_singleton_self _)
  | settle other push awaits unarmed answers =>
    refine ha.keeps (by simp [Channel.settle]) (fun h => h.of_sublist (Channel.settle_bindings _ _))
      (Channel.KeepsJoin.joinRef (.of_get? ?_) hs')
      (tellsOfJoin_settled (.inr other))
    rw [Channel.settle_pushes, Table.get?_set_of_ne _ other.symm]
  | forget other push received =>
    refine ha.keeps (by simp [Channel.forget]) (fun h => h.of_sublist Channel.forget_bindings)
      (Channel.KeepsJoin.joinRef (.of_get? ?_) hs') (by simp)
    rw [Channel.forget_pushes, Table.get?_erase_of_ne _ other.symm]
  | unheard push awaits unarmed answers status =>
    refine Channel.attested_of_idle (fun h => ?_) (hdeaf push _ _)
    exact (ha.admitted (by simpa [Channel.settle] using h)).1 awaits
  | refused push awaits unarmed answers =>
    exact Channel.attested_of_idle (by simp) (hdeaf push _ _)
  | abandoned push awaits unarmed answers fresh free spent other starts push' =>
    refine Channel.attested_of_idle (by rw [Channel.takeBack_state]; simp) fun h => ?_
    exact hdeaf push _ _ (starts.awaits_of_ne other.symm (h.of_sublist Channel.takeBack_bindings))
  | failed listed push =>
    split
    · exact Channel.attested_of_idle (by simp) (hs.not_awaits_drop push rfl)
    · exact ha.keeps (by simp) id rfl (by simp)

/-- The record bears out all channels. -/
def Attested (s : Socket (Recorded ω)) : Prop :=
  ∀ ⦃c ch⦄, s.channels.get? c = some ch → ch.Attested c s.log

/-- One channel becomes another, and what is recorded tells of no other join. -/
theorem Attested.works (h : Attested s) (w : Works c ch' es s t)
    (hes : ∀ d, d ≠ c → ∀ e ∈ es, e.tellsOfJoin d = false)
    (hch : ch'.Attested c (s.log ++ es)) : Attested t := by
  intro d ch₁ hd
  rw [w.log_eq]
  by_cases hdc : d = c
  · subst hdc
    rw [w.get?] at hd
    cases hd
    exact hch
  · rw [w.get?_of_ne hdc] at hd
    exact (h hd).keeps id id rfl (hes d hdc)

/-- The channels that are left were there before, and nothing is recorded. -/
theorem Attested.of_log (h : Attested s) (hlog : t.log = s.log)
    (hchannels : ∀ {c ch}, t.channels.get? c = some ch →
      s.channels.get? c = some ch ∨ ch.state ≠ .joined ∧ ¬ ch.Awaits joinPush) : Attested t := by
  intro c ch hc
  rw [hlog]
  rcases hchannels hc with hold | ⟨hstate, hawaits⟩
  · exact h hold
  · exact Channel.attested_of_idle hstate hawaits

theorem Attested.quiet (h : Attested s) (hq : Quiet s t) : Attested t :=
  h.of_log (hq.log_eq.trans (List.append_nil _)) fun hc => .inl (hq.get? _ ▸ hc)

theorem Attested.closes (h : Attested s) (hc : s.channels.get? c = some ch)
    (hcloses : Closes c ch s t) : Attested t := by
  intro d ch₁ hd
  rw [hcloses.log_eq, ← List.append_nil s.log]
  by_cases hdc : d = c
  · subst hdc
    rw [hcloses.get?_self] at hd
    split at hd
    · cases hd
    · cases hd
      exact (h hc).keeps (by simp) id rfl (by simp)
  · rw [hcloses.get?_of_ne hdc] at hd
    exact (h hd).keeps id id rfl (by simp)

/-- Each beat leaves the record such that it bears out all channels. -/
theorem Beat.attested (h : Beat asked s t) (hs : Sound s) (ha : Attested s) : Attested t := by
  have hst := h.sound hs
  cases h with
  | quiet quiet => exact ha.quiet quiet
  | alter channel alter works =>
    refine ha.works works (fun d hd e he => tellsOfJoin_eq_false.mpr ⟨alter.joins e he, ?_⟩)
      (alter.attested (hs.channels channel) (hst.channels works.get?) (ha channel))
    exact (alter.silent hd joinPush e he).1
  | accepted channel push awaits status works =>
    refine ha.works works (fun d hd e he => ?_)
      ((ha channel).accepted (hs.channels channel) push awaits status)
    rcases List.mem_append.mp he with he | he
    · exact tellsOfJoin_settled (.inl hd.symm) e he
    · rw [List.mem_singleton.mp he]
      rfl
  | sends channel joined other starts works =>
    refine ha.works works (fun d hd => tellsOfJoin_accept (.inl hd.symm) _) ?_
    exact (ha channel).keeps (fun _ => joined) (starts.awaits_of_ne other.symm)
      ((starts.keepsJoin other).joinRef (hst.channels works.get?)) (tellsOfJoin_accept (.inr other) _)
  | closes channel closes => exact ha.closes channel closes
  | lapses channel push works =>
    refine ha.works works (by simp) ((ha channel).keeps id id ?_ (by simp))
    exact Channel.joinRef_set push rfl
  | departs unasked channel push free spent other starts works =>
    refine ha.works works (fun d hd => tellsOfJoin_accept (.inl hd.symm) _) ?_
    refine (ha channel).keeps (fun h => ?_) (starts.awaits_of_ne other.symm) ?_
      (tellsOfJoin_accept (.inr other) _)
    · have hleaving := starts.state_eq.symm.trans h
      cases hleaving
    · exact ((starts.keepsJoin_insert other).joinRef (hst.channels works.get?)).trans
        (Channel.joinRef_set push rfl)
  | joins channel push stays starts works =>
    refine ha.works works (fun d hd => tellsOfJoin_accept (.inl hd.symm) _)
      (Channel.attested_of_joins starts ?_)
    rw [Channel.takeBack_state]
    simp
  | enters spent free enters =>
    refine ha.of_log enters.log_eq fun {d ch₁} hd => ?_
    rcases enters.get? d hd with hold | ⟨_, params, timeout, refs, rfl⟩
    · exact .inl hold
    · refine .inr ⟨by simp [Channel.new], ?_⟩
      simp [Channel.Awaits, Channel.new, Channel.ownBindings]
  | erases unlisted erases => exact ha.of_log erases.log_eq fun hd => .inl (erases.get? hd).2
  | ends ends =>
    refine ha.of_log ends.log_eq fun {d ch₁} hd => ?_
    rw [ends.channels_eq, Table.get?_empty] at hd
    cases hd

theorem Beats.attested (h : Beats asked s t) (hs : Sound s) (ha : Attested s) : Attested t := by
  induction h with
  | refl => exact ha
  | tail beats beat ih => exact beat.attested (Beats.sound beats hs) ih

/-! ### Messages of pushes -/

/-- A push of a channel hands a message to the socket, under a fresh ref that it has from then on. -/
structure HandsOver (c : ChannelId) (p : PushId) (m : Message) (r : Ref)
    (u v : Socket (Recorded ω)) : Prop where
  recorded : v.log = u.log ++ [.accept (.push c p) m]
  ref : m.ref = some r
  own : (v.push? c p).bind Push.ref = some r
  fresh : ¬ u.exchange.Drew r
  drew : v.exchange.Drew r

theorem HandsOver.spent {r : Ref} (h : HandsOver c p m r u v) (hs : Sound v) :
    v.exchange.Spent (.pushes c) p := by
  obtain ⟨q, hq, -⟩ := Option.bind_eq_some_iff.mp h.own
  obtain ⟨ch, hc, hp⟩ := push?_eq_some.mp hq
  exact (hs.channels hc).pushes hp

/-- A channel hands over a push that it has just started. -/
theorem handsOver_of_starts {ch₀ ch₁ : Channel} (h : ch₀.Starts u.exchange v.exchange c p ch₁)
    (hpushes : ch'.pushes = ch₁.pushes) (href : m.ref = (ch₁.pushes.get? p).bind Push.ref)
    (w : Works c ch' [.accept (.push c p) m] u v) (hb : v.exchange.drawn < 2 ^ 64) :
    ∃ r, HandsOver c p m r u v := by
  obtain ⟨_, r, n, q, _, hfresh, hq, hr, _⟩ := h.self
  rw [hq, Option.bind_some, hr] at href
  refine ⟨r, w.log_eq, href, ?_, hfresh.not_drew hb, hfresh.drew⟩
  rw [push?, w.get?, Option.bind_some, hpushes, hq, Option.bind_some, hr]

/-- What a change brings of the message of a push: the push had not been used before, or a user has it
sent at once since the channel is joined. -/
theorem Alter.hands {registered : Prop} {x y : Exchange} (h : Alter k x y registered d ch ch' es)
    (hmem : Effect.accept (.push c p) m ∈ es) :
    c = d ∧ p ≠ joinPush ∧ y.Spent (.pushes d) p ∧ (¬ x.Spent (.pushes d) p ∨
      ∃ ch₀ ch₁ : Channel, ch₀.Starts x y d p ch₁ ∧ ch'.pushes = ch₁.pushes ∧
        es = [.accept (.push d p) m] ∧ m.ref = (ch₁.pushes.get? p).bind Push.ref ∧
        m.joinRef = ch'.joinRef ∧ ch.state = .joined ∧ ch'.state = .joined ∧ ch.KeepsJoin ch') := by
  have hsettled : ∀ {p' q reply}, Effect.accept (.push c p) m ∉ settled d p' q reply := by
    simp [settled]
  cases h with
  | alike same notes => cases notes _ hmem
  | hooked op => cases hmem
  | listen op spent fresh => cases hmem
  | unbind op => cases hmem
  | enlist op free spent other starts waits accepts =>
    rcases accepts with rfl | ⟨joined, rfl⟩
    · cases hmem
    · cases List.mem_singleton.mp hmem
      exact ⟨rfl, other, spent, .inr ⟨_, _, starts, rfl, rfl, rfl, rfl, joined,
        starts.state_eq.trans joined, starts.keepsJoin_insert other⟩⟩
  | settle other push awaits unarmed answers => exact absurd hmem hsettled
  | forget other push received => cases hmem
  | unheard push awaits unarmed answers status => exact absurd hmem hsettled
  | refused push awaits unarmed answers => simp [settled] at hmem
  | abandoned push awaits unarmed answers fresh free spent other starts push' =>
    simp only [List.mem_append, hsettled, List.mem_cons, reduceCtorEq, Effect.accept.injEq,
      Sender.push.injEq, List.not_mem_nil, or_false, false_or] at hmem
    obtain ⟨⟨rfl, rfl⟩, rfl⟩ := hmem
    exact ⟨rfl, other, spent, .inl fresh⟩
  | failed listed push => cases hmem

/-- A beat in which the message of a push is recorded: the push is a leave that the channel sends by
itself, or the message is handed over, and nothing else is recorded. -/
theorem Beat.hands (h : Beat asked u v) (hs : Sound u)
    (hasked : ∀ {c p}, asked c p → u.exchange.Spent (.pushes c) p)
    (hb : v.exchange.drawn < 2 ^ 64) {es' : List Effect}
    (hlog : v.log = u.log ++ es ++ .accept (.push c p) m :: es') :
    (p ≠ joinPush ∧ ¬ asked c p ∧ v.exchange.Spent (.pushes c) p) ∨
      ∃ r, HandsOver c p m r u v ∧ es = [] ∧ (p = joinPush ∧ m.joinRef = some r ∨
        p ≠ joinPush ∧ ∃ ch ch', u.channels.get? c = some ch ∧ v.channels.get? c = some ch' ∧
          ch.state = .joined ∧ ch'.state = .joined ∧ m.joinRef = ch.joinRef ∧
          ch'.joinRef = ch.joinRef) := by
  have hsv := h.sound hs
  rw [List.append_assoc] at hlog
  -- What a beat brings, when it brings the message at all.
  have hbrings : ∀ {es₀}, v.log = u.log ++ es₀ → es₀ = es ++ .accept (.push c p) m :: es' :=
    fun h => List.append_cancel_left (h.symm.trans hlog)
  have hsilent : v.log ≠ u.log := fun h => by
    have := hbrings (h.trans (List.append_nil _).symm)
    simp at this
  have hsingle : ∀ {e}, v.log = u.log ++ [e] → es = [] ∧ e = .accept (.push c p) m := by
    intro e h
    obtain ⟨rfl, hone⟩ | ⟨-, hnone⟩ := List.append_eq_singleton_iff.mp (hbrings h).symm
    · exact ⟨rfl, (List.cons.inj hone).1.symm⟩
    · cases hnone
  cases h with
  | quiet quiet => exact absurd (quiet.log_eq.trans (List.append_nil _)) hsilent
  | alter channel alter works =>
    have hes := hbrings works.log_eq
    have hmem : Effect.accept (.push c p) m ∈ _ :=
      hes ▸ List.mem_append_right es List.mem_cons_self
    obtain ⟨rfl, hother, hspent, hnot | ⟨ch₀, ch₁, hstarts, hpushes, rfl, href, hjoin, hjoined,
      hstays, hkeeps⟩⟩ := alter.hands hmem
    · exact .inl ⟨hother, fun hp => hnot (hasked hp), hspent⟩
    · obtain ⟨r, hhands⟩ := handsOver_of_starts hstarts hpushes href works hb
      have hsame := hkeeps.joinRef (hsv.channels works.get?)
      exact .inr ⟨r, hhands, (hsingle works.log_eq).1, .inr ⟨hother, _, _, channel, works.get?,
        hjoined, hstays, hjoin.trans hsame, hsame⟩⟩
  | accepted channel push awaits status works =>
    have hmem : Effect.accept (.push c p) m ∈ _ :=
      hbrings works.log_eq ▸ List.mem_append_right es List.mem_cons_self
    simp [settled] at hmem
  | sends channel joined other starts works =>
    obtain ⟨rfl, heq⟩ := hsingle works.log_eq
    cases heq
    obtain ⟨r, hhands⟩ := handsOver_of_starts starts rfl rfl works hb
    have hsame := (starts.keepsJoin other).joinRef (hsv.channels works.get?)
    exact .inr ⟨r, hhands, rfl, .inr ⟨other, _, _, channel, works.get?, joined,
      starts.state_eq.trans joined, hsame, hsame⟩⟩
  | closes channel closes => exact absurd closes.log_eq hsilent
  | lapses channel push works => exact absurd (works.log_eq.trans (List.append_nil _)) hsilent
  | departs unasked channel push free spent other starts works =>
    obtain ⟨rfl, heq⟩ := hsingle works.log_eq
    cases heq
    exact .inl ⟨other, unasked, spent⟩
  | joins channel push stays starts works =>
    obtain ⟨rfl, heq⟩ := hsingle works.log_eq
    cases heq
    obtain ⟨r, hhands⟩ := handsOver_of_starts starts rfl rfl works hb
    exact .inr ⟨r, hhands, rfl, .inl ⟨rfl, hhands.ref⟩⟩
  | enters spent free enters => exact absurd enters.log_eq hsilent
  | erases unlisted erases => exact absurd erases.log_eq hsilent
  | ends ends => exact absurd ends.log_eq hsilent

section Outside

variable [Outside ω] [Obliging ω]

/-! ### Courses -/

/-- Surroundings may act as handles, transports and the clock do; the record is the socket's own. -/
abbrev KeepsRecord (s : Socket (Recorded ω)) (x : Exchange) (o : Recorded ω) : Prop :=
  s.exchange.Acts x ∧ o.record = s.log

/-- Users have asked for a push. -/
def Pushed (cmds : List Command) (c : ChannelId) (p : PushId) : Prop :=
  ∃ event payload timeout, Command.channel c (.push p event payload timeout) ∈ cmds

variable {cmds : List Command} {cmd : Command} {x : Exchange} {o : Recorded ω}

omit [Outside ω] [Obliging ω] in
theorem KeepsRecord.quiet (h : KeepsRecord s x o) :
    Quiet s { s with exchange := x, outside := o } :=
  ⟨rfl, rfl, h.1.evolves, h.2.trans (List.append_nil _).symm⟩

theorem Course.sound (h : Course KeepsRecord s cmds t) (hs : Sound s) : Sound t := by
  induction h with
  | start => exact hs
  | surroundings before allowed ih => exact ih.quiet (KeepsRecord.quiet allowed)
  | take before next ih => exact sound_handle ih next
  | @abandon cmds t before ih => exact (ends_shutdown t).sound ih

theorem Course.evolves (h : Course KeepsRecord s cmds t) (hs : Sound s) :
    s.exchange.Evolves t.exchange := by
  induction h with
  | start => exact .refl _
  | surroundings before allowed ih => exact ih.trans allowed.1.evolves
  | take before next ih =>
    have hx := (before.sound hs).quiet (quiet_next? next)
    exact (ih.trans (Exchange.evolves_next? next)).trans
      ((strides_handle hx _ (due_of_next? (before.sound hs) next)).evolves hx)
  | @abandon cmds t before ih => exact ih.trans (ends_shutdown t).evolves

/-- Of what a course records each entry is recorded while one command is carried out. -/
theorem Course.recorded (h : Course KeepsRecord s cmds t) {before after : List Effect} {e : Effect}
    (hlog : t.log = before ++ e :: after) (hnew : ∀ rest, s.log ≠ before ++ e :: rest) :
    ∃ cmds₁ cmd cmds₂ u x, cmds = cmds₁ ++ cmd :: cmds₂ ∧ Course KeepsRecord s cmds₁ u ∧
      u.exchange.next? = some (cmd, x) ∧
      Course KeepsRecord ({ u with exchange := x }.handle cmd) cmds₂ t ∧
      (∃ rest, ({ u with exchange := x }.handle cmd).log = before ++ e :: rest) ∧
      ∀ rest, u.log ≠ before ++ e :: rest := by
  induction h generalizing after with
  | start => exact absurd hlog (hnew after)
  | surroundings course allowed ih =>
    obtain ⟨cmds₁, cmd, cmds₂, u, x, rfl, hu, hnext, hrest, hmade⟩ := ih (allowed.2.symm.trans hlog)
    exact ⟨cmds₁, cmd, cmds₂, u, x, rfl, hu, hnext, .surroundings hrest allowed, hmade⟩
  | @take cmds t cmd x course next ih =>
    by_cases hold : ∃ rest, t.log = before ++ e :: rest
    · obtain ⟨rest, hold⟩ := hold
      obtain ⟨cmds₁, cmd', cmds₂, u, x', rfl, hu, hnext, hrest, hmade⟩ := ih hold
      refine ⟨cmds₁, cmd', cmds₂ ++ [cmd], u, x', by simp, hu, hnext, .take hrest next, hmade⟩
    · exact ⟨cmds, cmd, [], t, x, rfl, course, next, .start, ⟨after, hlog⟩, not_exists.mp hold⟩
  | @abandon cmds t course ih =>
    obtain ⟨cmds₁, cmd, cmds₂, u, x, rfl, hu, hnext, hrest, hmade⟩ :=
      ih ((ends_shutdown t).log_eq.symm.trans hlog)
    exact ⟨cmds₁, cmd, cmds₂ ++ [.shutdown], u, x, by simp, hu, hnext, .abandon hrest, hmade⟩

omit [Outside ω] [Obliging ω] in
/-- The number of a push that a command puts to use is spent once the command is taken, and was not
before. -/
theorem spent_of_taken (hs : Sound t) (next : t.exchange.next? = some (cmd, x))
    (hn : cmd.number? (.pushes c) = some p) :
    x.Spent (.pushes c) p ∧ ¬ t.exchange.Spent (.pushes c) p ∧ p ≠ joinPush := by
  obtain ⟨hspent, hother, -⟩ := (due_of_next? hs next).push hn
  exact ⟨hspent, (Exchange.spent_of_next? hs.tidy next hn).2, hother⟩

omit [Outside ω] [Obliging ω] in
theorem pushed_concat (h : Pushed (cmds ++ [cmd]) c p) :
    Pushed cmds c p ∨ ∃ event payload timeout, cmd = .channel c (.push p event payload timeout) := by
  obtain ⟨event, payload, timeout, hmem⟩ := h
  rcases List.mem_append.mp hmem with hold | hnew
  · exact .inl ⟨event, payload, timeout, hold⟩
  · exact .inr ⟨event, payload, timeout, (List.mem_singleton.mp hnew).symm⟩

/-- A push that users ask for in a course has a number that is spent afterwards, and was not before. -/
theorem Course.pushed (h : Course KeepsRecord s cmds t) (hs : Sound s) (hp : Pushed cmds c p) :
    t.exchange.Spent (.pushes c) p ∧ ¬ s.exchange.Spent (.pushes c) p ∧ p ≠ joinPush := by
  induction h with
  | start =>
    obtain ⟨event, payload, timeout, hmem⟩ := hp
    cases hmem
  | surroundings before allowed ih =>
    obtain ⟨hspent, hrest⟩ := ih hp
    exact ⟨allowed.1.evolves.spent hspent, hrest⟩
  | @take cmds t cmd x before next ih =>
    have hst := before.sound hs
    have hx := hst.quiet (quiet_next? next)
    have hevolves := (strides_handle hx _ (due_of_next? hst next)).evolves hx
    rcases pushed_concat hp with hold | ⟨event, payload, timeout, rfl⟩
    · obtain ⟨hspent, hrest⟩ := ih hold
      exact ⟨hevolves.spent ((Exchange.evolves_next? next).spent hspent), hrest⟩
    · obtain ⟨hspent, hnot, hother⟩ :=
        spent_of_taken (c := c) (p := p) hst next (by simp [Command.number?])
      exact ⟨hevolves.spent hspent, fun h => hnot ((before.evolves hs).spent h), hother⟩
  | @abandon cmds t before ih =>
    rcases pushed_concat hp with hold | ⟨_, _, _, hshutdown⟩
    · obtain ⟨hspent, hrest⟩ := ih hold
      exact ⟨(ends_shutdown t).evolves.spent hspent, hrest⟩
    · cases hshutdown

/-- The pushes that users have asked for when a command is taken are spent; no leave is one of them. -/
theorem Course.pushed_take (h : Course KeepsRecord s cmds t) (hs : Sound s)
    (next : t.exchange.next? = some (cmd, x)) (hp : Pushed (cmds ++ [cmd]) c p) :
    x.Spent (.pushes c) p ∧ p ≠ joinPush ∧ ∀ timeout, cmd ≠ .channel c (.leave p timeout) := by
  have hst := h.sound hs
  rcases pushed_concat hp with hold | ⟨event, payload, timeout, rfl⟩
  · obtain ⟨hspent, -, hother⟩ := h.pushed hs hold
    refine ⟨(Exchange.evolves_next? next).spent hspent, hother, ?_⟩
    rintro timeout rfl
    exact (spent_of_taken (c := c) (p := p) hst next (by simp [Command.number?])).2.1 hspent
  · obtain ⟨hspent, -, hother⟩ :=
      spent_of_taken (c := c) (p := p) hst next (by simp [Command.number?])
    exact ⟨hspent, hother, by simp⟩

/-- A command of a course is carried out in beats. -/
theorem Course.beats (h : Course KeepsRecord s cmds t) (hs : Sound s)
    (next : t.exchange.next? = some (cmd, x)) :
    Beats (Pushed (cmds ++ [cmd])) { t with exchange := x } ({ t with exchange := x }.handle cmd) := by
  have hst := h.sound hs
  refine beats_handle (hst.quiet (quiet_next? next)) cmd (due_of_next? hst next)
    (fun hp => (h.pushed_take hs next hp).1) fun hcmd hp => ?_
  exact (h.pushed_take hs next hp).2.2 _ hcmd

/-- The record bears out all channels at all times. -/
theorem Course.attested (h : Course KeepsRecord s cmds t) (hs : Sound s) (ha : Attested s) :
    Attested t := by
  induction h with
  | start => exact ha
  | surroundings before allowed ih => exact ih.quiet (KeepsRecord.quiet allowed)
  | take before next ih =>
    have hq := quiet_next? next
    exact (before.beats hs next).attested ((before.sound hs).quiet hq) (ih.quiet hq)
  | @abandon cmds t before ih =>
    have hends : Beat (fun _ _ => False) t t.shutdown := .ends (ends_shutdown t)
    exact hends.attested (before.sound hs) ih

/-- In the middle of a command of a course a socket becomes another. -/
def Moment (s : Socket (Recorded ω)) (cmds : List Command) (t u v : Socket (Recorded ω)) : Prop :=
  ∃ cmds₁ cmd cmds₂ w x, cmds = cmds₁ ++ cmd :: cmds₂ ∧ Course KeepsRecord s cmds₁ w ∧
    w.exchange.next? = some (cmd, x) ∧
    Beats (Pushed (cmds₁ ++ [cmd])) { w with exchange := x } u ∧
    Beat (Pushed (cmds₁ ++ [cmd])) u v ∧
    Beats (Pushed (cmds₁ ++ [cmd])) v ({ w with exchange := x }.handle cmd) ∧
    Course KeepsRecord ({ w with exchange := x }.handle cmd) cmds₂ t

/-- The messages of pushes carry the right epoch.  A message that a join or a push of a user hands to the
socket is handed over at one moment of a course, under a ref that was never drawn before and that the
push has from then on.  The ref of a join is its join ref as well.  A push of a user is handed over while
its channel is joined; its join ref is the ref of the join that the channel has, of which the record tells
last that it was sent under this ref, and that the reply `ok` to this ref let the channel in. -/
theorem messages_carry_epoch {endpoint : String} {config : Config} {factory : Factory} {outside : ω}
    (h : Course KeepsRecord (Socket.new endpoint config factory ⟨outside, [], []⟩) cmds s)
    (hb : s.exchange.drawn < 2 ^ 64) {before after : List Effect}
    (hlog : s.log = before ++ .accept (.push c p) m :: after) (hp : p = joinPush ∨ Pushed cmds c p) :
    ∃ u v r, Moment (Socket.new endpoint config factory ⟨outside, [], []⟩) cmds s u v ∧
      u.log = before ∧ HandsOver c p m r u v ∧ (p = joinPush → m.joinRef = some r) ∧
      (Pushed cmds c p → ∃ ch ch' r', u.channels.get? c = some ch ∧ ch.JoinedUnder r' ∧
        v.channels.get? c = some ch' ∧ ch'.JoinedUnder r' ∧ m.joinRef = some r' ∧
        Admitted before c r') := by
  have hs := sound_new endpoint config factory (⟨outside, [], []⟩ : Recorded ω)
  have hother : Pushed cmds c p → p ≠ joinPush := fun h' => (h.pushed hs h').2.2
  obtain ⟨cmds₁, cmd, cmds₂, w, x, rfl, hw, hnext, hrest, ⟨rest, hmade⟩, hnew⟩ :=
    h.recorded hlog fun rest heq => by simp [log, Socket.new] at heq
  have hsw := hw.sound hs
  have hsx := hsw.quiet (quiet_next? hnext)
  have hsend := sound_handle hsw hnext
  obtain ⟨u, v, es, es', hu, huv, hv, rfl, hvlog⟩ := (hw.beats hs hnext).moment hmade hnew
  have hsu := Beats.sound hu hsx
  have hbv : v.exchange.drawn < 2 ^ 64 :=
    lt_of_le_of_lt ((Beats.evolves hv).trans (hrest.evolves hsend)).drawn_le hb
  rcases huv.hands hsu (fun h' => (Beats.evolves hu).spent (hw.pushed_take hs hnext h').1) hbv hvlog with
    ⟨hne, hunasked, hspent⟩ | ⟨r, hhands, rfl, hcase⟩
  -- A leave that a channel sends by itself has a number that no user asks for later.
  · obtain ⟨event, payload, timeout, hmem⟩ := hp.resolve_left hne
    rw [← List.singleton_append, ← List.append_assoc, List.mem_append] at hmem
    rcases hmem with hmem | hmem
    · exact absurd ⟨event, payload, timeout, hmem⟩ hunasked
    · exact absurd ((Beats.evolves hv).spent hspent)
        (hrest.pushed hsend ⟨event, payload, timeout, hmem⟩).2.1
  · rw [List.append_nil]
    refine ⟨u, v, r, ⟨cmds₁, cmd, cmds₂, w, x, rfl, hw, hnext, hu, huv, hv, hrest⟩, rfl, hhands,
      fun hjoin => ?_, fun hpushed => ?_⟩
    · rcases hcase with ⟨-, hjoinRef⟩ | ⟨hne, -⟩
      · exact hjoinRef
      · exact absurd hjoin hne
    · rcases hcase with ⟨hjoin, -⟩ | ⟨-, ch, ch', hc, hc', hjoined, hstays, hjoinRef, hsame⟩
      · exact absurd hjoin (hother hpushed)
      · have ha := (hw.attested hs fun c ch hc => by cases hc).quiet (quiet_next? hnext)
        obtain ⟨-, r', hr', hadmitted⟩ := (Beats.attested hu hsx ha hc).admitted hjoined
        exact ⟨ch, ch', r', hc, ⟨hjoined, hr'⟩, hc', ⟨hstays, hsame.trans hr'⟩, hjoinRef.trans hr',
          hadmitted⟩

end Outside

/-! ### A channel that joins twice -/

/-- The refs that the message of a push carries when it is handed over. -/
def carried? : Effect → Option (ChannelId × PushId × Option Ref × Option Ref)
  | .accept (.push c p) m => some (c, p, m.joinRef, m.ref)
  | _ => none

/-- The push that users ask for by a command. -/
def pushed? : Command → Option (ChannelId × PushId)
  | .channel c (.push p ..) => some (c, p)
  | _ => none

theorem handed_of_carried {log : List Effect} {joinRef ref : Option Ref}
    (h : (c, p, joinRef, ref) ∈ log.filterMap carried?) : ∃ before m after,
      log = before ++ .accept (.push c p) m :: after ∧ m.joinRef = joinRef ∧ m.ref = ref := by
  obtain ⟨e, hmem, he⟩ := List.mem_filterMap.mp h
  obtain ⟨before, after, rfl⟩ := List.append_of_mem hmem
  unfold carried? at he
  split at he
  · cases he
    exact ⟨before, _, after, rfl, rfl, rfl⟩
  · cases he

theorem pushed_of_mem {cmds : List Command} (h : (c, p) ∈ cmds.filterMap pushed?) :
    Pushed cmds c p := by
  obtain ⟨cmd, hmem, hcmd⟩ := List.mem_filterMap.mp h
  unfold pushed? at hcmd
  split at hcmd
  · cases hcmd
    exact ⟨_, _, _, hmem⟩
  · cases hcmd

/-- Recorded surroundings become others; the records stay. -/
def recording (o : Idle) (r : Recorded Idle) : Recorded Idle := ⟨o, r.record, r.transports⟩

/-- A user pushes before the channel has joined, and once more after it has failed and joined again. -/
def joiningTwice : List Deed :=
  asking "room" ++ [.push 0 "early" 10000, .take, .answer 0 "3" "3" "room" Status.ok, .take,
    .announce 0 "3" "room" Event.error, .take, .fire (.rejoin 0 2), .take,
    .answer 0 "6" "6" "room" Status.ok, .take, .push 0 "late" 10000, .take]

/-- What is pushed after the second join carries its ref. -/
theorem messages_carry_epoch_rejoined : ∃ (cmds : List Command) (s u v : Socket (Recorded Idle))
    (m : Message) (ch : Channel), Moment ready cmds s u v ∧ HandsOver 0 2 m "7" u v ∧
      u.channels.get? 0 = some ch ∧ ch.JoinedUnder "6" ∧ m.joinRef = some "6" ∧
      Admitted u.log 0 "6" := by
  obtain ⟨⟨cmds, s⟩, hplay, hview⟩ := Option.map_eq_some_iff.mp
    (show (ready.follow? anyhow recording joiningTwice).map (fun r =>
        (r.1.filterMap pushed?, r.2.log.filterMap carried?, r.2.exchange.drawn)) =
      some ([(0, 1), (0, 2)], [(0, 0, some "3", some "3"), (0, 1, some "3", some "5"),
        (0, 0, some "6", some "6"), (0, 2, some "6", some "7")], 7) by cbv)
  simp only [Prod.mk.injEq] at hview
  obtain ⟨hpushed, hcarried, hdrawn⟩ := hview
  have hcourse : Course KeepsRecord ready cmds s :=
    course_of_follow? (fun hacts _ => ⟨hacts, rfl⟩) (fun _ _ => ⟨.refl, rfl⟩) hplay
  have hlate : Pushed cmds 0 2 := pushed_of_mem (by simp [hpushed])
  obtain ⟨before, m, after, hlog, hjoinRef, href⟩ :=
    handed_of_carried (show (0, 2, some "6", some "7") ∈ s.log.filterMap carried? by simp [hcarried])
  obtain ⟨u, v, r, hmoment, rfl, hhands, -, huser⟩ :=
    messages_carry_epoch hcourse (by rw [hdrawn]; decide) hlog (.inr hlate)
  obtain ⟨ch, ch', r', hc, hjoined, -, -, hcarries, hadmitted⟩ := huser hlate
  obtain rfl : r = "7" := Option.some.inj (hhands.ref.symm.trans href)
  obtain rfl : r' = "6" := Option.some.inj (hcarries.symm.trans hjoinRef)
  exact ⟨cmds, s, u, v, m, ch, hmoment, hhands, hc, hjoined, hjoinRef, hadmitted⟩

end Socket

end Switchboard
