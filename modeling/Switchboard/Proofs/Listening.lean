import Switchboard.Proofs.Stable

/-!
# Pushes and their present refs

A push is listened for from the time that it takes a ref until it has a reply under that ref, and not
longer.  A leave is the only push for whose reply the channel itself waits, and it has that reply
before the command that asked for it is over; what waits for the other pushes are users.

Main definitions

* `Pending`: no reply to a push is recorded under a ref;
* `Socket.Listening`: a push is listened for exactly while its present ref is pending;
* `Socket.Plain`: what waits for a push are users;
* `Socket.Attentive`: both hold of all pushes.

Main results

* `Socket.Passes.listening`, `Socket.Passes.plain`: steps keep both;
* `Socket.Reachable.attentive`: both hold at all times.
-/

set_option autoImplicit false

namespace Switchboard

/-- It is not recorded that a push had a reply under a ref. -/
def Pending (c : ChannelId) (p : PushId) (r : Ref) (log : List Effect) : Prop :=
  ∀ reply, Effect.resolve c p (some r) reply ∉ log

/-- What waits for the reply to a push are users. -/
def Push.IsPlain (q : Push) : Prop := ∀ hook ∈ q.hooks, IsCallback hook

theorem Push.lasting_isPlain : Push.Lasting IsPlain := by
  rintro q q' h _ ⟨more, hmore, hcb⟩ hook hmem
  rw [hmore] at hmem
  exact (List.mem_append.mp hmem).elim (h hook) (hcb hook)

section Record

variable {c : ChannelId} {p : PushId} {r : Ref} {log es : List Effect}

theorem Pending.append_iff (h : Unheard c p es) : Pending c p r (log ++ es) ↔ Pending c p r log :=
  forall_congr' fun reply => not_congr <| List.mem_append.trans <|
    or_iff_left (h (some r) reply)

end Record

namespace Socket

variable {ω : Type} {s t u : Socket (Recorded ω)} {k : Prompt} {c d : ChannelId}
variable {ch ch' : Channel} {p : PushId} {q : Push} {es : List Effect}
variable {W : Push → Prop} {s₀ : Socket (Recorded ω)} {cmd : Command}

/-- A push is listened for exactly while its present ref is pending. -/
def Listening (c : ChannelId) (p : PushId) (s : Socket (Recorded ω)) : Prop :=
  ∀ ⦃ch q r⦄, s.channels.get? c = some ch → ch.pushes.get? p = some q → q.ref = some r →
    (ch.Awaits p ↔ Pending c p r s.log)

/-- As long as a push waits for its reply or for a join, those who wait for it are users. -/
def Plain (c : ChannelId) (p : PushId) (s : Socket (Recorded ω)) : Prop :=
  ∀ ⦃ch q⦄, s.channels.get? c = some ch → ch.pushes.get? p = some q →
    p ∈ ch.buffer ∨ ch.Awaits p → q.IsPlain

/-- A ref that was not drawn is pending. -/
theorem Dated.pending {r : Ref} (h : Dated s) (hr : ¬ s.exchange.Drew r) : Pending c p r s.log :=
  fun _ hmem => hr ((h hmem).2 r rfl)

/-! ### Steps -/

/-- Nothing is recorded of a push, and it stays with its bindings. -/
theorem Listening.silent (h : Listening c p s) (hlog : t.log = s.log ++ es)
    (hes : Unheard c p es) (hc : ∀ ch, t.channels.get? c = some ch → s.channels.get? c = some ch ∨
      ∀ q, ch.pushes.get? p = some q → q.ref = none) : Listening c p t := by
  intro ch q r hch hq hr
  rw [hlog, Pending.append_iff hes]
  rcases hc ch hch with hch | hnone
  · exact h hch hq hr
  · rw [hnone q hq] at hr
    cases hr

theorem Passes.listening (h : Passes W k c s t) (hd : Dated s) (hp : Listening d p s) :
    Listening d p t := by
  obtain ⟨es, hlog, hsilent, hgone, hfate⟩ := h.fate
  by_cases hdc : d = c
  · subst hdc
    intro ch' q' r hc' hq' hr
    obtain ⟨ch, hc, hch⟩ := hfate hc'
    rw [hlog]
    cases hch p with
    | stays push awaits waits unresolved notes =>
      obtain ⟨q, hq, hqq⟩ := Channel.alike_of_rel push hq'
      have hes : Unheard d p es := .of_unresolved unresolved
      rw [Pending.append_iff hes, awaits]
      exact hp hc hq (hqq.ref.symm.trans hr)
    | lapses push late push' same awaits waits silent =>
      rw [push'] at hq'
      cases hq'
      rw [Pending.append_iff silent.unheard, awaits]
      exact hp hc push (same.ref.symm.trans hr)
    | added other free unheard push unresolved armed ref fresh awaits waits plain silent =>
      rw [push] at hq'
      cases hq'
      rw [ref] at hr
      cases hr
      rw [Pending.append_iff silent.unheard]
      exact iff_of_true awaits (hd.pending fresh)
    | sent push inTime waited push' received armed ref fresh awaits waits hooks silent =>
      rw [push'] at hq'
      cases hq'
      rw [ref] at hr
      cases hr
      rw [Pending.append_iff silent.unheard]
      exact iff_of_true awaits (hd.pending fresh)
    | @settles q timer reply push awaits unarmed unhooked answers push' deaf waits once recorded
        resolved tells =>
      rw [push'] at hq'
      cases hq'
      have hqr : q.ref = some r := hr
      refine iff_of_false deaf fun hpending => hpending reply (List.mem_append_right _ ?_)
      rw [← hqr]
      exact recorded
    | withdrawn join push push' ref waits resolved =>
      rw [push'] at hq'
      cases hq'
      rw [ref] at hr
      cases hr
    | gone push waits silent =>
      rw [push] at hq'
      cases hq'
  · exact hp.silent hlog (hsilent d p hdc).unheard fun ch hch => .inl (h.frame.others hdc ▸ hch)

/-- A push that comes to be listened for is plain, unless it is a leave that was just asked for. -/
theorem Passes.plain (h : Passes Push.IsPlain k c s t) (hother : p ≠ joinPush)
    (hk : d = c → ∀ timeout, k ≠ .op (.leave p timeout)) (hp : Plain d p s) : Plain d p t := by
  obtain ⟨es, _, _, _, hfate⟩ := h.fate
  intro ch' q' hc' hq' hwaits
  by_cases hdc : d = c
  · subst hdc
    obtain ⟨ch, hc, hch⟩ := hfate hc'
    cases hch p with
    | stays push awaits waits unresolved notes =>
      obtain ⟨q, hq, hqq⟩ := Channel.alike_of_rel push hq'
      exact Push.lasting_isPlain (hp hc hq (hwaits.imp waits awaits.mp)) hqq.received hqq.hooks
    | lapses push late push' same awaits waits silent =>
      rw [push'] at hq'
      cases hq'
      exact Push.lasting_isPlain (hp hc push (hwaits.imp waits awaits.mp)) same.received same.hooks
    | added other free unheard push unresolved armed ref fresh awaits waits plain silent =>
      rw [push] at hq'
      cases hq'
      rcases plain with plain | ⟨timeout, hop⟩
      · exact plain
      · exact absurd hop (hk rfl timeout)
    | sent push inTime waited push' received armed ref fresh awaits waits hooks silent =>
      rw [push'] at hq'
      cases hq'
      exact Push.lasting_isPlain (waited hother) (received hother) hooks
    | settles push awaits unarmed unhooked answers push' deaf waits once recorded resolved tells =>
      rw [push'] at hq'
      cases hq'
      have hplain := hp hc push (.inr awaits)
      exact hplain
    | withdrawn join push push' ref waits resolved => exact absurd join hother
    | gone push waits silent =>
      rw [push] at hq'
      cases hq'
  · exact hp (h.frame.others hdc ▸ hc') hq' hwaits

/-! ### Runs -/

/-- What is kept while a command is carried out. -/
structure Attentive (s : Socket (Recorded ω)) : Prop where
  dated : Dated s
  listening : ∀ c p, Listening c p s
  plain : ∀ c p, p ≠ joinPush → Plain c p s

/-- The channels are those of before, and new ones have sent nothing. -/
theorem Attentive.of_get? (h : Attentive s) (hlog : t.log = s.log)
    (he : s.exchange.Evolves t.exchange)
    (hc : ∀ d ch, t.channels.get? d = some ch → s.channels.get? d = some ch ∨
      (∀ p q, ch.pushes.get? p = some q → p = joinPush ∧ q.ref = none)) : Attentive t := by
  refine ⟨h.dated.mono hlog he, fun c p => ?_, fun c p hp ch q hch hq hwaits => ?_⟩
  · refine (h.listening c p).silent (hlog.trans (List.append_nil _).symm) (by simp [Unheard])
      fun ch hch => (hc c ch hch).imp id fun hnew q hq => (hnew p q hq).2
  · rcases hc c ch hch with hch | hnew
    · exact h.plain c p hp hch hq hwaits
    · exact absurd (hnew p q hq).1 hp

theorem Attentive.quiet (h : Attentive s) (hq : Quiet s t) : Attentive t :=
  h.of_get? (hq.log_eq.trans (List.append_nil _)) hq.evolves fun d _ hd => .inl (hq.get? d ▸ hd)

theorem Attentive.ends (h : Attentive s) (he : Ends s t) : Attentive t := by
  refine h.of_get? he.log_eq he.evolves fun d ch hd => ?_
  rw [he.channels_eq, Table.get?_empty] at hd
  cases hd

theorem Attentive.passes (h : Attentive s) (step : Passes Push.IsPlain k c s t)
    (hk : ∀ p timeout, k ≠ .op (.leave p timeout)) : Attentive t :=
  ⟨step.dated h.dated, fun d p => step.listening h.dated (h.listening d p), fun d p hp =>
    step.plain hp (fun _ => hk p) (h.plain d p hp)⟩

theorem steady_attentive (s₀ : Socket (Recorded ω)) (cmd : Command) :
    Steady Push.IsPlain s₀ cmd Attentive where
  lasts := Push.lasting_isPlain
  waited h hs hc hp hq := h.plain _ _ ((hs.channels hc).buffered _ hp) hc hq (.inl hp)
  quiet := .quiet
  passes h hop _ step := h.passes step fun p timeout hk => (hop _ hk).2 p timeout rfl

section Outside

variable [Outside ω] [Obliging ω]

/-- Each command keeps a socket attentive. -/
theorem stable_attentive (s₀ : Socket (Recorded ω)) (cmd : Command) :
    Stable Push.IsPlain s₀ cmd Attentive where
  toSteady := steady_attentive s₀ cmd
  leave := by
    intro s c ch p h hd hs hi hc hspent hfree hother hunheard timeout detached hb
    obtain ⟨t, u, v, r, ch', hdepart, hsettle, _, hu, hdeaf, hunqueued, hsu, hiu, hmoves, hquiet⟩ :=
      leave_passes hs hi hc hspent hfree hother hunheard timeout detached hb
    have hdt := (hdepart Push.IsPlain).dated hd
    -- Until the leave is resolved, the channel itself waits for it.
    have hplain : ∀ d p', p' ≠ joinPush → (d = c → p' ≠ p) → Plain d p' t := by
      intro d p' hp' hne
      refine (hdepart _).plain hp' (fun hdc timeout' heq => ?_) (h.plain d p' hp')
      cases heq
      exact hne hdc rfl
    have hau : Attentive u := by
      refine ⟨(hsettle Push.IsPlain).dated hdt, fun d p' => ?_, fun d p' hp' => ?_⟩
      · exact (hsettle Push.IsPlain).listening hdt
          ((hdepart Push.IsPlain).listening hd (h.listening d p'))
      · by_cases hleave : d = c ∧ p' = p
        · obtain ⟨rfl, rfl⟩ := hleave
          intro ch₁ q₁ hc₁ _ hwaits
          rw [hu] at hc₁
          cases hc₁
          exact absurd hwaits (not_or_intro hunqueued hdeaf)
        · exact (hsettle _).plain hp' (by simp)
            (hplain d p' hp' fun hdc hp => hleave ⟨hdc, hp⟩)
    have hv := (steady_attentive s₀ cmd).moves hmoves (by simp) (.inl shuns_failure) hsu hiu
      (lt_of_le_of_lt hquiet.evolves.drawn_le hb) hau.dated hau
    exact hv.2.quiet hquiet
  enters := by
    intro s t c topic h hfree henters
    refine h.of_get? henters.log_eq henters.evolves fun d ch hd => (henters.get? d hd).imp id ?_
    rintro ⟨_, params, timeout, refs, rfl⟩ p q hq
    rw [Channel.new, Table.get?_set] at hq
    split at hq
    · cases hq
      exact ⟨‹_›, rfl⟩
    · cases hq
  erases := by
    intro s t c h _ herases
    exact h.of_get? herases.log_eq herases.evolves fun d ch hd => .inl (herases.get? hd).2
  ends := .ends

/-- Where users leave the reserved names alone, a socket is attentive at all times. -/
theorem Reachable.attentive (h : Reachable (Sparing Event.IsReserved) s)
    (hb : s.exchange.drawn < 2 ^ 64) : Attentive s := by
  have hI := preserved_of_stable (ω := ω) (I := Attentive) (W := Push.IsPlain)
    (fun s cmd (hcmd : Sparing Event.IsReserved s cmd) =>
      hcmd.mono fun _ => Event.isReserved_of_namesReply) .quiet .ends
    fun s cmd _ ha => ⟨_, stable_attentive s cmd, ha, fun _ => id⟩
  refine (h.dated_of_preserved hI (fun s hc hlog => ⟨?_, fun c p ch q r hch => ?_, ?_⟩) hb).2
  · simp [Dated, hlog]
  · rw [hc, Table.get?_empty] at hch
    cases hch
  · intro c p _ ch q hch
    rw [hc, Table.get?_empty] at hch
    cases hch

end Outside

end Socket

end Switchboard
