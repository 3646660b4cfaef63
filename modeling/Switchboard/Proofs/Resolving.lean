import Switchboard.Proofs.Stable
import Switchboard.Proofs.Scripts

/-!
# Each push is resolved once

A push other than a join waits for its reply or has it: while it waits, its time runs and exactly one
binding listens for the reply to its ref, and once it has its reply neither is left.  That a push
cannot be resolved again is seen from what is recorded: it has no reply recorded as long as it waits.

The one thing that could go wrong is that a push that waits in a buffer is answered, under the ref that
it drew before it was sent: when the channel has joined it would be sent nevertheless.

Main definitions

* `Channel.listeners`, `Channel.Waits`, `Channel.HasReply`: the bindings that resolve a push, and the
  two conditions of a push;
* `Socket.Accounted`: what is recorded of a push agrees with its state;
* `Socket.Considerate`: a command that respects the pushes in the buffers;
* `Socket.ResolvedOnce`: all that is said of the reply to a push agrees.

Main results

* `Socket.Passes.accounted`: a step keeps the account of each push;
* `Socket.push_resolves_once`: in every considerate run each push is resolved at most once.
-/

set_option autoImplicit false

namespace Switchboard

/-- The bindings that resolve a push. -/
def Channel.listeners (ch : Channel) (p : PushId) : List Binding :=
  ch.bindings.filter fun b => b.target = .resolve p

/-- A push waits: its time runs, and one binding listens for the reply to its ref. -/
def Channel.Waits (ch : Channel) (p : PushId) (q : Push) : Prop :=
  q.received = none ∧ q.timer.armed = true ∧
    ∃ r n, q.ref = some r ∧ ch.listeners p = [⟨Event.replyTo r, n, .resolve p⟩]

/-- A push has its reply: its time does not run, and no binding listens for a reply. -/
def Channel.HasReply (ch : Channel) (p : PushId) (q : Push) : Prop :=
  (∃ reply, q.received = some reply) ∧ q.timer.armed = false ∧ ch.listeners p = []

/-- A push that is listened for has one binding, under the event of its ref. -/
theorem Channel.Sound.listeners_of_awaits {x : Exchange} {c : ChannelId} {ch : Channel} {p : PushId}
    (hs : ch.Sound x c) (h : ch.Awaits p) : ∃ q r n, ch.pushes.get? p = some q ∧ q.ref = some r ∧
      ch.listeners p = [⟨Event.replyTo r, n, .resolve p⟩] := by
  obtain ⟨b, q, r, hmem, ht, hq, hr, hevent⟩ := hs.ref_of_awaits h
  refine ⟨q, r, b.number, hq, hr, ?_⟩
  have hnodup : (ch.listeners p).Nodup := (List.Nodup.of_map _ hs.distinct).filter _
  have hsingle : ∀ b' ∈ ch.listeners p, b' = b := by
    intro b' hb'
    obtain ⟨hmem', ht'⟩ := List.mem_filter.mp hb'
    exact hs.single b' hmem' b hmem p (of_decide_eq_true ht') ht
  have hb : b ∈ ch.listeners p := List.mem_filter.mpr ⟨hmem, decide_eq_true ht⟩
  have heq : b = ⟨Event.replyTo r, b.number, .resolve p⟩ := by
    rw [← hevent, ← ht]
  rw [← heq]
  refine List.perm_singleton.mp ((List.perm_ext_iff_of_nodup hnodup (List.nodup_singleton b)).mpr ?_)
  exact fun b' => ⟨fun hb' => List.mem_singleton.mpr (hsingle b' hb'), fun hb' =>
    List.mem_singleton.mp hb' ▸ hb⟩

theorem Channel.listeners_of_not_awaits {ch : Channel} {p : PushId} (h : ¬ ch.Awaits p) :
    ch.listeners p = [] :=
  List.filter_eq_nil_iff.mpr fun b hb ht => h ⟨b, hb, of_decide_eq_true ht⟩

/-- A push that waits for a join is told by no other reply than that its time is over. -/
theorem Prompt.LetsWait.status {k : Prompt} {registered : Prop} {ch : Channel} {q : Push}
    {reply : Reply} {r : Ref} (h : k.LetsWait r) (ha : k.Answers registered ch q reply) (hr : q.ref = some r)
    (hu : ch.hook = none) : reply.status = Status.timeout := by
  cases k with
  | op op => exact ha.elim
  | failure => exact ha.elim
  | message m =>
    obtain ⟨_, _, r', hr', hnamed⟩ := ha
    rw [hr] at hr'
    cases hr'
    rcases hnamed with hevent | ⟨_, href⟩
    · exact absurd hevent h.2
    · exact absurd href h.1
  | reply r' payload =>
    obtain ⟨hr', hreply⟩ := ha
    rw [hr] at hr'
    cases hr'
    have hpayload := hreply hu
    rw [h rfl] at hpayload
    cases hpayload
    rfl

section Record

variable {c : ChannelId} {p : PushId} {log es : List Effect}

theorem Effect.of_resolves {e : Effect} (h : e.resolves c p = true) :
    ∃ r reply, e = .resolve c p r reply := by
  unfold Effect.resolves at h
  split at h
  · simp only [Bool.and_eq_true, beq_iff_eq] at h
    obtain ⟨rfl, rfl⟩ := h
    exact ⟨_, _, rfl⟩
  · cases h

theorem Unheard.countP (h : Unheard c p log) : log.countP (Effect.resolves c p) = 0 := by
  refine List.countP_eq_zero.mpr fun e he hr => ?_
  obtain ⟨r, reply, rfl⟩ := Effect.of_resolves hr
  exact h r reply he

/-- What is recorded once of a push is recorded with one reply. -/
theorem eq_of_resolve_mem (h : log.countP (Effect.resolves c p) ≤ 1) {r r' : Option Ref}
    {reply reply' : Reply} (hmem : .resolve c p r reply ∈ log) (hmem' : .resolve c p r' reply' ∈ log) :
    r = r' ∧ reply = reply' := by
  rw [List.countP_eq_length_filter] at h
  have hin := List.mem_filter.mpr ⟨hmem, Effect.resolves_resolve r⟩
  have hin' := List.mem_filter.mpr ⟨hmem', Effect.resolves_resolve r'⟩
  rcases hl : log.filter (Effect.resolves c p) with _ | ⟨e, _ | ⟨e', rest⟩⟩
  · rw [hl] at hin
    cases hin
  · rw [hl, List.mem_singleton] at hin hin'
    cases hin.trans hin'.symm
    exact ⟨rfl, rfl⟩
  · rw [hl] at h
    simp at h

theorem Unheard.append (h : Unheard c p log) (h' : Unheard c p es) : Unheard c p (log ++ es) :=
  fun r reply hmem => (List.mem_append.mp hmem).elim (h r reply) (h' r reply)

end Record

namespace Socket

variable {ω : Type} {s t u : Socket (Recorded ω)} {k l : Prompt} {c d : ChannelId}
variable {ch ch' : Channel} {p : PushId} {q : Push} {es : List Effect}
variable {W : Push → Prop} {s₀ : Socket (Recorded ω)} {cmd : Command}

/-! ### Accounts -/

/-- What is recorded of a push agrees with the state that it is in. -/
structure Accounted (c : ChannelId) (p : PushId) (s : Socket (Recorded ω)) : Prop where
  once : s.log.countP (Effect.resolves c p) ≤ 1
  told : ∀ {e reply}, e ∈ s.log → e.Tells c p reply → ∃ r, .resolve c p r reply ∈ s.log
  push : ∀ {ch q}, s.channels.get? c = some ch → ch.pushes.get? p = some q →
    q.received = none ∧ q.timer.armed = true ∧ ch.Awaits p ∧ Unheard c p s.log ∨
      ∃ reply r, q.received = some reply ∧ q.timer.armed = false ∧ ¬ ch.Awaits p ∧
        .resolve c p r reply ∈ s.log
  hooks : ∀ {ch q hook reply}, s.channels.get? c = some ch → ch.pushes.get? p = some q →
    .runReply c p hook reply ∈ s.log → (reply.status, hook) ∈ q.hooks
  buffered : ∀ {ch q reply}, s.channels.get? c = some ch → p ∈ ch.buffer →
    ch.pushes.get? p = some q → q.received = some reply → reply.status = Status.timeout

/-- A push that waits, of whose reply nothing is recorded. -/
theorem Accounted.of_unheard (hu : Unheard c p s.log)
    (hquiet : ∀ e ∈ s.log, ∀ reply, ¬ e.Tells c p reply)
    (hpush : ∀ {ch q}, s.channels.get? c = some ch → ch.pushes.get? p = some q →
      q.received = none ∧ q.timer.armed = true ∧ ch.Awaits p) : Accounted c p s where
  once := hu.countP.le.trans (Nat.zero_le 1)
  told he htells := absurd htells (hquiet _ he _)
  push hc hq :=
    have ⟨hr, ht, ha⟩ := hpush hc hq
    .inl ⟨hr, ht, ha, hu⟩
  hooks _ _ hmem := absurd (.hook _) (hquiet _ hmem _)
  buffered hc _ hq hr := by
    rw [(hpush hc hq).1] at hr
    cases hr

/-- Nobody is told of a reply that is not recorded. -/
theorem Accounted.not_tells (h : Accounted c p s) (hu : Unheard c p s.log) :
    ∀ e ∈ s.log, ∀ reply, ¬ e.Tells c p reply := by
  intro e he reply htells
  obtain ⟨r, hmem⟩ := h.told he htells
  exact hu r reply hmem

theorem Accounted.waiting (h : Accounted c p s) (hc : s.channels.get? c = some ch)
    (hq : ch.pushes.get? p = some q) (hw : q.timer.armed = true ∨ ch.Awaits p ∨ q.received = none) :
    q.received = none ∧ q.timer.armed = true ∧ ch.Awaits p ∧ Unheard c p s.log := by
  refine (h.push hc hq).resolve_right ?_
  rintro ⟨reply, r, hr, ht, hnot, -⟩
  rcases hw with hw | hw | hw
  · rw [ht] at hw
    cases hw
  · exact hnot hw
  · rw [hr] at hw
    cases hw

/-- Nothing is recorded of the push, and its channel stays as it is. -/
theorem Accounted.silent (h : Accounted c p s) (hlog : t.log = s.log ++ es) (hes : Silent c p es)
    (hc : ∀ ch, t.channels.get? c = some ch → s.channels.get? c = some ch ∨
      ch.pushes.get? p = none ∧ p ∉ ch.buffer) : Accounted c p t := by
  have old : ∀ {e : Effect} {reply}, e ∈ t.log → e.Tells c p reply → e ∈ s.log := by
    intro e reply he htells
    rw [hlog] at he
    exact (List.mem_append.mp he).resolve_right fun he => (hes e he).2 reply htells
  have grow : ∀ {e}, e ∈ s.log → e ∈ t.log := fun he => hlog ▸ List.mem_append_left es he
  refine ⟨?_, fun he htells => ?_, fun hch hq => ?_, fun hch hq hmem => ?_, fun hch hp hq hr => ?_⟩
  · rw [hlog, List.countP_append, hes.countP]
    exact h.once
  · obtain ⟨r, hmem⟩ := h.told (old he htells) htells
    exact ⟨r, grow hmem⟩
  · rcases hc _ hch with hch | ⟨hnone, _⟩
    · rcases h.push hch hq with ⟨hr, ht, ha, hu⟩ | ⟨reply, r, hr, ht, ha, hmem⟩
      · exact .inl ⟨hr, ht, ha, hlog ▸ hu.append hes.unheard⟩
      · exact .inr ⟨reply, r, hr, ht, ha, grow hmem⟩
    · rw [hnone] at hq
      cases hq
  · rcases hc _ hch with hch | ⟨hnone, _⟩
    · exact h.hooks hch hq (old hmem (.hook _))
    · rw [hnone] at hq
      cases hq
  · rcases hc _ hch with hch | ⟨_, hnot⟩
    · exact h.buffered hch hp hq hr
    · exact absurd hp hnot

/-- Users may wait for more, and are told of the reply that the push has. -/
theorem Accounted.stays (h : Accounted c p s) (hlog : t.log = s.log ++ es) (hother : p ≠ joinPush)
    (hc : s.channels.get? c = some ch) (hc' : t.channels.get? c = some ch')
    (push : Option.Rel Push.Alike (ch.pushes.get? p) (ch'.pushes.get? p))
    (awaits : ch'.Awaits p ↔ ch.Awaits p) (waits : p ∈ ch'.buffer → p ∈ ch.buffer)
    (unresolved : ∀ e ∈ es, e.resolves c p = false)
    (notes : p ≠ joinPush → ∀ e ∈ es, ∀ reply, e.Tells c p reply → ch'.Notes c e) :
    Accounted c p t := by
  have hes : Unheard c p es := .of_unresolved unresolved
  have grow : ∀ {e}, e ∈ s.log → e ∈ t.log := fun he => hlog ▸ List.mem_append_left es he
  -- Who is told something now is told of the reply that the push had before.
  have recorded : ∀ {q' reply}, ch'.pushes.get? p = some q' → q'.received = some reply →
      ∃ r, .resolve c p r reply ∈ t.log := by
    intro q' reply hq' hr'
    obtain ⟨q, hq, hqq⟩ := Channel.alike_of_rel push hq'
    rcases h.push hc hq with ⟨hr, _⟩ | ⟨reply', r, hr, _, _, hmem⟩
    · rw [hqq.received, hr] at hr'
      cases hr'
    · rw [hqq.received, hr] at hr'
      cases hr'
      exact ⟨r, grow hmem⟩
  refine ⟨?_, fun he htells => ?_, fun hch hq => ?_, fun hch hq hmem => ?_, fun hch hp hq hr => ?_⟩
  · rw [hlog, List.countP_append, hes.countP]
    exact h.once
  · rw [hlog] at he
    rcases List.mem_append.mp he with he | he
    · obtain ⟨r, hmem⟩ := h.told he htells
      exact ⟨r, grow hmem⟩
    · cases htells with
      | hook hook =>
        cases notes hother _ he _ (.hook hook) with
        | hook received =>
          obtain ⟨q', hq', hr', _⟩ := received.resolve_left hother
          exact recorded hq' hr'
      | answer ticket =>
        cases notes hother _ he _ (.answer ticket) with
        | answer push received => exact recorded push received
  · rw [hc'] at hch
    cases hch
    obtain ⟨q₀, hq₀, hqq⟩ := Channel.alike_of_rel push hq
    rw [hqq.received, hqq.timer, awaits]
    rcases h.push hc hq₀ with ⟨hr, ht, ha, hu⟩ | ⟨reply, r, hr, ht, ha, hmem⟩
    · exact .inl ⟨hr, ht, ha, hlog ▸ hu.append hes⟩
    · exact .inr ⟨reply, r, hr, ht, ha, grow hmem⟩
  · rw [hc'] at hch
    cases hch
    rw [hlog] at hmem
    rcases List.mem_append.mp hmem with hmem | hmem
    · obtain ⟨q₀, hq₀, hqq⟩ := Channel.alike_of_rel push hq
      obtain ⟨more, hmore, _⟩ := hqq.hooks
      rw [hmore]
      exact List.mem_append_left _ (h.hooks hc hq₀ hmem)
    · cases notes hother _ hmem _ (.hook _) with
      | hook received =>
        obtain ⟨q', hq', _, hin⟩ := received.resolve_left hother
        rw [hq] at hq'
        cases hq'
        exact hin
  · rw [hc'] at hch
    cases hch
    obtain ⟨q₀, hq₀, hqq⟩ := Channel.alike_of_rel push hq
    exact h.buffered hc (waits hp) hq₀ (hqq.received ▸ hr)

/-- A push has its reply. -/
theorem Accounted.settles (h : Accounted c p s) (hlog : t.log = s.log ++ es)
    (hc : s.channels.get? c = some ch) (hc' : t.channels.get? c = some ch')
    (hq : ch.pushes.get? p = some q) {q' : Push} {reply : Reply} (awaits : ch.Awaits p)
    (push' : ch'.pushes.get? p = some q') (received : q'.received = some reply)
    (unarmed : q'.timer.armed = false) (deaf : ¬ ch'.Awaits p)
    (late : p ∈ ch'.buffer → reply.status = Status.timeout)
    (once : es.countP (Effect.resolves c p) = 1) (recorded : .resolve c p q.ref reply ∈ es)
    (tells : ∀ e ∈ es, ∀ reply', e.Tells c p reply' →
      reply' = reply ∧ ∃ ticket, e = .answer ticket (.reply c p reply)) : Accounted c p t := by
  obtain ⟨_, _, _, hu⟩ := h.waiting hc hq (.inr (.inl awaits))
  have hin : .resolve c p q.ref reply ∈ t.log := hlog ▸ List.mem_append_right _ recorded
  have now : ∀ {e reply'}, e ∈ t.log → e.Tells c p reply' → e ∈ es := by
    intro e reply' he htells
    rw [hlog] at he
    exact (List.mem_append.mp he).resolve_left fun he => h.not_tells hu _ he _ htells
  refine ⟨?_, fun he htells => ?_, fun hch hq' => ?_, fun hch hq' hmem => ?_,
    fun hch hp hq' hr => ?_⟩
  · rw [hlog, List.countP_append, hu.countP, once]
  · obtain ⟨rfl, _⟩ := tells _ (now he htells) _ htells
    exact ⟨_, hin⟩
  · rw [hc'] at hch
    cases hch
    rw [push'] at hq'
    cases hq'
    exact .inr ⟨reply, _, received, unarmed, deaf, hin⟩
  · obtain ⟨_, ticket, heq⟩ := tells _ (now hmem (.hook _)) _ (.hook _)
    cases heq
  · rw [hc'] at hch
    cases hch
    rw [push', Option.some.injEq] at hq'
    subst hq'
    rw [received] at hr
    cases hr
    exact late hp

/-! ### Steps keep the accounts -/

/-- The only reply that a push may have while it waits for a join: that its time is over. -/
def IsLate (q : Push) : Prop := ∀ reply, q.received = some reply → reply.status = Status.timeout

theorem lasting_isLate : Push.Lasting IsLate := by
  intro q q' h hr _ reply hr'
  exact h reply (hr ▸ hr')

/-- A step keeps the account of each push. -/
theorem Passes.accounted (h : Passes IsLate k c s t) (hk : Shuns k s) (hother : p ≠ joinPush)
    (hp : Accounted d p s) : Accounted d p t := by
  obtain ⟨es, hlog, hsilent, hgone, hfate⟩ := h.fate
  by_cases hdc : d = c
  · subst hdc
    cases hc' : t.channels.get? d with
    | none => exact hp.silent hlog (hgone hc' p) fun ch hch => by simp [hc'] at hch
    | some ch' =>
      obtain ⟨ch, hc, hch⟩ := hfate hc'
      have hs := h.sound.channels hc
      have at' : ∀ {ch₁ q}, t.channels.get? d = some ch₁ → ch₁.pushes.get? p = some q →
          ch'.pushes.get? p = some q ∧ ch₁ = ch' := by
        intro ch₁ q h₁ hq
        rw [hc'] at h₁
        cases h₁
        exact ⟨hq, rfl⟩
      cases hch p with
      | stays push awaits waits unresolved notes =>
        exact hp.stays hlog hother hc hc' push awaits waits unresolved notes
      | lapses push late push' same awaits waits silent =>
        obtain ⟨harmed, hdeaf⟩ := late hother
        exact absurd (hp.waiting hc push (.inl harmed)).2.2.1 hdeaf
      | added other free unheard push unresolved armed ref fresh awaits waits plain silent =>
        have hu : Unheard d p t.log := hlog ▸ unheard.append silent.unheard
        refine .of_unheard hu (fun e he reply htells => ?_) fun h₁ hq => ?_
        · rw [hlog] at he
          rcases List.mem_append.mp he with he | he
          · exact hp.not_tells unheard _ he _ htells
          · exact (silent e he).2 reply htells
        · obtain ⟨hq', rfl⟩ := at' h₁ hq
          rw [push] at hq'
          cases hq'
          exact ⟨unresolved, armed, awaits⟩
      | @sent q q' r push inTime waited push' received armed ref fresh awaits waits hooks silent =>
        have hnone : q.received = none := by
          cases hr : q.received with
          | none => rfl
          | some reply =>
            have hlate := inTime hother
            simp [Push.hasReceived, hr, waited hother reply hr] at hlate
        obtain ⟨_, _, _, hu⟩ := hp.waiting hc push (.inr (.inr hnone))
        have hut : Unheard d p t.log := hlog ▸ hu.append silent.unheard
        refine .of_unheard hut (fun e he reply htells => ?_) fun h₁ hq => ?_
        · rw [hlog] at he
          rcases List.mem_append.mp he with he | he
          · exact hp.not_tells hu _ he _ htells
          · exact (silent e he).2 reply htells
        · obtain ⟨hq', rfl⟩ := at' h₁ hq
          rw [push'] at hq'
          cases hq'
          exact ⟨(received hother).trans hnone, armed, awaits⟩
      | settles push awaits unarmed unhooked answers push' deaf waits once recorded resolved tells =>
        refine hp.settles hlog hc hc' push awaits push' rfl unarmed deaf (fun hmem => ?_) once recorded
          (tells hother)
        obtain ⟨_, q, r, _, _, hq, hr, _⟩ := hs.ref_of_awaits awaits
        rw [push] at hq
        cases hq
        exact (hk hc (waits hmem) push hr).status answers hr unhooked
      | withdrawn join push push' ref waits resolved => exact absurd join hother
      | gone push waits silent =>
        refine hp.silent hlog silent fun ch₁ h₁ => .inr ?_
        rw [hc'] at h₁
        cases h₁
        exact ⟨push, waits⟩
  · exact hp.silent hlog (hsilent d p hdc) fun ch hch => .inl (h.frame.others hdc ▸ hch)

/-- To wait for a join begins with a request to push. -/
theorem Passes.shuns (h : Passes W k c s t)
    (hk : ∀ p event payload timeout, k ≠ .op (.push p event payload timeout)) (hl : Shuns l s) :
    Shuns l t := by
  intro d ch₁ p q r hd hmem hq hr
  obtain ⟨es, _, _, _, hfate⟩ := h.fate
  by_cases hdc : d = c
  · subst hdc
    obtain ⟨ch, hc, hch⟩ := hfate hd
    cases hch p with
    | stays push awaits waits unresolved notes =>
      obtain ⟨q₀, hq₀⟩ := (h.sound.channels hc).queued p (waits hmem)
      rw [hq₀, hq] at push
      cases push with
      | some hqq => exact hl hc (waits hmem) hq₀ (hqq.ref.symm.trans hr)
    | lapses push late push' same awaits waits silent =>
      rw [hq] at push'
      cases push'
      exact hl hc (waits hmem) push (same.ref.symm.trans hr)
    | added other free unheard push unresolved armed ref fresh awaits waits plain silent =>
      rcases waits hmem with hmem | ⟨event, payload, timeout, hop⟩
      · obtain ⟨q₀, hq₀⟩ := (h.sound.channels hc).queued p hmem
        rw [free] at hq₀
        cases hq₀
      · exact absurd hop (hk _ _ _ _)
    | sent push inTime waited push' received armed ref fresh awaits waits hooks silent =>
      exact absurd hmem waits
    | settles push awaits unarmed unhooked answers push' deaf waits once recorded resolved tells =>
      rw [hq] at push'
      cases push'
      exact hl hc (waits hmem) push hr
    | withdrawn join push push' ref waits resolved => exact absurd hmem waits
    | gone push waits silent => exact absurd hmem waits
  · exact hl (h.frame.others hdc ▸ hd) hmem hq hr

/-- Channels that are there were there before, or have just been made. -/
theorem Shuns.of_get? (h : Shuns l s) (hc : ∀ d ch, t.channels.get? d = some ch →
    s.channels.get? d = some ch ∨ ch.buffer = []) : Shuns l t := by
  intro d ch p q r hd hmem hq hr
  rcases hc d ch hd with hd | hnil
  · exact h hd hmem hq hr
  · rw [hnil] at hmem
    cases hmem

/-! ### Runs -/

/-- No user installs a hook or removes the binding of a reply, and no message names the ref of a push
that waits in a buffer: such a ref was never sent. -/
structure Considerate (s : Socket (Recorded ω)) (cmd : Command) : Prop where
  spares : cmd.Spares Event.NamesReply
  shuns : ∀ m, s.incoming? cmd = some m → Shuns (.message m) s

/-- What is kept while a command is carried out. -/
def InAccount (s₀ : Socket (Recorded ω)) (cmd : Command) (s : Socket (Recorded ω)) : Prop :=
  (∀ c p, p ≠ joinPush → Accounted c p s) ∧ ∀ m, s₀.incoming? cmd = some m → Shuns (.message m) s

/-- The channels are those of before, without pushes besides the join where they are new. -/
theorem InAccount.of_get? (h : InAccount s₀ cmd s) (hlog : t.log = s.log)
    (hc : ∀ d ch, t.channels.get? d = some ch → s.channels.get? d = some ch ∨
      (∀ p, p ≠ joinPush → ch.pushes.get? p = none) ∧ ch.buffer = []) : InAccount s₀ cmd t := by
  refine ⟨fun c p hp => (h.1 c p hp).silent (hlog.trans (List.append_nil _).symm) .nil
    fun ch hch => (hc c ch hch).imp id fun ⟨hnone, hnil⟩ => ⟨hnone p hp, by simp [hnil]⟩, ?_⟩
  exact fun m hm => (h.2 m hm).of_get? fun d ch hd => (hc d ch hd).imp id And.right

theorem InAccount.quiet (h : InAccount s₀ cmd s) (hq : Quiet s t) : InAccount s₀ cmd t :=
  h.of_get? (hq.log_eq.trans (List.append_nil _)) fun d _ hd => .inl (hq.get? d ▸ hd)

theorem steady_inAccount (s₀ : Socket (Recorded ω)) (cmd : Command) :
    Steady IsLate s₀ cmd (InAccount s₀ cmd) where
  lasts := lasting_isLate
  waited h hs hc hp hq := fun _ hr => (h.1 _ _ ((hs.channels hc).buffered _ hp)).buffered hc hp hq hr
  quiet := .quiet
  passes h hop hcause step := by
    refine ⟨fun c p hp => step.accounted ?_ hp (h.1 c p hp), fun m hm => step.shuns ?_ (h.2 m hm)⟩
    · rcases hcause with hk | ⟨m, rfl, hm⟩
      · exact hk
      · exact h.2 m hm
    · rintro p event payload timeout rfl
      rw [(hop _ rfl).1] at hm
      cases hm

section Outside

variable [Outside ω] [Obliging ω]

/-- Each command keeps the accounts. -/
theorem stable_inAccount (s₀ : Socket (Recorded ω)) (cmd : Command) :
    Stable IsLate s₀ cmd (InAccount s₀ cmd) where
  toSteady := steady_inAccount s₀ cmd
  leave := by
    intro s c ch p h hd hs hi hc hspent hfree hother hunheard timeout detached hb
    obtain ⟨t, u, v, r, _, hdepart, hsettle, hshuns, _, _, _, hsu, hiu, hmoves, hquiet⟩ :=
      leave_passes hs hi hc hspent hfree hother hunheard timeout detached hb
    have ht : InAccount s₀ cmd t :=
      ⟨fun d p' hp => (hdepart _).accounted (shuns_op _ s) hp (h.1 d p' hp), fun m hm =>
        (hdepart IsLate).shuns (by simp) (h.2 m hm)⟩
    have hu : InAccount s₀ cmd u :=
      ⟨fun d p' hp => (hsettle _).accounted hshuns hp (ht.1 d p' hp), fun m hm =>
        (hsettle IsLate).shuns (by simp) (ht.2 m hm)⟩
    have hdu := (hsettle IsLate).dated ((hdepart IsLate).dated hd)
    have hv := (steady_inAccount s₀ cmd).moves hmoves (by simp) (.inl shuns_failure) hsu hiu
      (lt_of_le_of_lt hquiet.evolves.drawn_le hb) hdu hu
    exact hv.2.quiet hquiet
  enters := by
    intro s t c topic h hfree henters
    refine h.of_get? henters.log_eq fun d ch hd => (henters.get? d hd).imp id ?_
    rintro ⟨_, params, timeout, refs, rfl⟩
    exact ⟨fun p hp => by rw [Channel.new, Table.get?_set_of_ne _ hp, Table.get?_empty], rfl⟩
  erases := by
    intro s t c h _ herases
    exact h.of_get? herases.log_eq fun d ch hd => .inl (herases.get? hd).2
  ends := by
    intro s t h hends
    refine h.of_get? hends.log_eq fun d ch hd => ?_
    rw [hends.channels_eq, Table.get?_empty] at hd
    cases hd

theorem preserved_accounts : Preserved (ω := ω) Considerate fun s =>
    Intact Event.NamesReply s ∧ (s.exchange.drawn < 2 ^ 64 →
      Dated s ∧ ∀ c p, p ≠ joinPush → Accounted c p s) := by
  refine preserved_of_stable (fun _ _ => Considerate.spares) ?_ ?_ fun s cmd hadmit ha =>
    ⟨_, stable_inAccount s cmd, ⟨ha, hadmit.shuns⟩, fun _ => And.left⟩
  · intro s t ha hq c p hp
    exact (ha c p hp).silent hq.log_eq .nil fun ch hc => .inl (hq.get? c ▸ hc)
  · intro s t ha he c p hp
    refine (ha c p hp).silent (he.log_eq.trans (List.append_nil _).symm) .nil fun ch hc => ?_
    rw [he.channels_eq, Table.get?_empty] at hc
    cases hc

/-- In a considerate run there is an account of every push. -/
theorem Reachable.accounted (h : Reachable Considerate s) (hb : s.exchange.drawn < 2 ^ 64)
    (c : ChannelId) (hother : p ≠ joinPush) : Accounted c p s := by
  refine (h.dated_of_preserved preserved_accounts (fun s hc hlog c p _ => ?_) hb).2 c p hother
  refine .of_unheard (by simp [Unheard, hlog]) (by simp [hlog]) fun hch _ => ?_
  rw [hc, Table.get?_empty] at hch
  cases hch

/-- All that is said of the reply to a push in a run says the same, and agrees with the push. -/
structure ResolvedOnce (c : ChannelId) (p : PushId) (s : Socket (Recorded ω)) : Prop where
  held : ∀ {ch q}, s.channels.get? c = some ch → ch.pushes.get? p = some q →
    Xor (ch.Waits p q) (ch.HasReply p q)
  once : s.log.countP (Effect.resolves c p) ≤ 1
  recorded : ∀ {ch q reply}, s.channels.get? c = some ch → ch.pushes.get? p = some q →
    (q.received = some reply ↔ ∃ r, .resolve c p r reply ∈ s.log)
  told : ∀ {e reply}, e ∈ s.log → e.Tells c p reply → ∃ r, .resolve c p r reply ∈ s.log
  same : ∀ {e e' reply reply'}, e ∈ s.log → e.Tells c p reply → e' ∈ s.log →
    e'.Tells c p reply' → reply = reply'
  hooks : ∀ {ch q hook reply}, s.channels.get? c = some ch → ch.pushes.get? p = some q →
    .runReply c p hook reply ∈ s.log → (reply.status, hook) ∈ q.hooks

/-- Each push other than a join is resolved once: it waits or has its reply, and whoever is told of a
reply to it is told of the one that it has. -/
theorem push_resolves_once (h : Reachable Considerate s) (hb : s.exchange.drawn < 2 ^ 64)
    (c : ChannelId) (hother : p ≠ joinPush) : ResolvedOnce c p s := by
  have ha := h.accounted hb c hother
  have hs := h.sound
  refine ⟨fun hc hq => ?_, ha.once, fun {ch q reply} hc hq => ⟨fun hr => ?_, ?_⟩, ha.told, ?_,
    ha.hooks⟩
  · rcases ha.push hc hq with ⟨hr, ht, hawaits, _⟩ | ⟨reply, r, hr, ht, hnot, _⟩
    · obtain ⟨q', r, n, hq', href, hlist⟩ := (hs.channels hc).listeners_of_awaits hawaits
      rw [hq] at hq'
      cases hq'
      exact .inl ⟨⟨hr, ht, r, n, href, hlist⟩, fun ⟨⟨reply, hr'⟩, _⟩ => by simp [hr] at hr'⟩
    · exact .inr ⟨⟨⟨reply, hr⟩, ht, Channel.listeners_of_not_awaits hnot⟩, fun ⟨hr', _⟩ => by
        simp [hr] at hr'⟩
  · rcases ha.push hc hq with ⟨hr', _⟩ | ⟨reply', r, hr', _, _, hmem⟩
    · rw [hr'] at hr
      cases hr
    · rw [hr'] at hr
      cases hr
      exact ⟨r, hmem⟩
  · rintro ⟨r, hmem⟩
    rcases ha.push hc hq with ⟨_, _, _, hu⟩ | ⟨reply', r', hr', _, _, hmem'⟩
    · exact absurd hmem (hu r reply)
    · rw [hr', (eq_of_resolve_mem ha.once hmem hmem').2]
  · intro e e' reply reply' he htells he' htells'
    obtain ⟨r, hmem⟩ := ha.told he htells
    obtain ⟨r', hmem'⟩ := ha.told he' htells'
    exact (eq_of_resolve_mem ha.once hmem hmem').2

end Outside

/-- The commands of a script that spare everything and come while no push waits for a join. -/
def unbuffered (s : Socket (Recorded Idle)) (cmd : Command) : Bool :=
  sparesAll s cmd && s.channels.entries.all fun e => e.2.buffer.isEmpty

theorem considerate_of_unbuffered (s : Socket (Recorded Idle)) (cmd : Command)
    (h : unbuffered s cmd = true) : Considerate s cmd := by
  obtain ⟨hspares, hall⟩ := Bool.and_eq_true_iff.mp h
  refine ⟨spares_of_sparesAll _ s cmd hspares, fun m _ c ch p q r hc hp => ?_⟩
  have hempty := List.all_eq_true.mp hall _ (Table.mem_entries_of_get? hc)
  rw [List.isEmpty_iff.mp hempty] at hp
  cases hp

/-- Of two pushes over a joined channel one is answered; the other one still waits. -/
def answering : List Deed :=
  joined "room" ++ [.push 0 "first" 10000, .push 0 "second" 10000, .take, .take,
    .answer 0 "3" "4" "room" Status.ok, .take]

/-- One of the pushes has its reply, the other one has none. -/
theorem push_resolves_once_answered : ∃ s : Socket (Recorded Idle),
    Reachable Considerate s ∧ s.exchange.drawn = 5 ∧
    ((s.push? 0 1).bind Push.received = some ⟨Status.ok, .bytes []⟩ ∧ ResolvedOnce 0 1 s) ∧
    ((s.push? 0 2).map Push.received = some none ∧ ResolvedOnce 0 2 s) := by
  obtain ⟨s, hs, hview⟩ := reachable_of_play? considerate_of_unbuffered
    (show (ready.play? unbuffered answering).map (fun s => (s.exchange.drawn,
        (s.push? 0 1).bind Push.received, (s.push? 0 2).map Push.received)) =
      some (5, some ⟨Status.ok, .bytes []⟩, some none) by cbv)
  simp only [Prod.mk.injEq] at hview
  obtain ⟨hdrawn, hanswered, hwaiting⟩ := hview
  have hb : s.exchange.drawn < 2 ^ 64 := hdrawn ▸ by decide
  exact ⟨s, hs, hdrawn, ⟨hanswered, push_resolves_once hs hb 0 (by decide)⟩, hwaiting,
    push_resolves_once hs hb 0 (by decide)⟩

end Socket

end Switchboard
