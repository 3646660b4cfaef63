import Switchboard.Proofs.Joined

/-!
# Replies that come too late

A ref that was drawn and is the ref of no push stays the ref of no push, as long as no ref comes again.
So a message that answers a join that was taken back lets no channel in, whatever hooks make of it.

Main definitions

* `Message.Answers`: a message answers the push with a ref;
* `Socket.Retired`: a ref was drawn and is the ref of no push;
* `Socket.LetsNoneIn`: no channel is joined that was not joined before;
* `Socket.Lapsed`: no reply to the join with a ref lets a channel in any more.

Main results

* `Socket.persists_retired`: a ref that is retired stays retired;
* `Socket.Retired.lapsed`: no reply to a retired ref lets a channel in.
-/

set_option autoImplicit false

namespace Switchboard

/-- A message answers the push with a ref. -/
def Message.Answers (m : Message) (r : Ref) : Prop :=
  m.event = Event.replyTo r ∨ m.event = Event.reply ∧ m.ref = some r

/-- A message answers one push. -/
theorem Message.Answers.unique {m : Message} {r r' : Ref} (h : m.Answers r) (h' : m.Answers r') :
    r = r' := by
  rcases h with h | ⟨h, href⟩ <;> rcases h' with h' | ⟨h', href'⟩
  · exact Event.replyTo_injective (h.symm.trans h')
  · exact absurd (h.symm.trans h') (Event.replyTo_ne_reply r)
  · exact absurd (h'.symm.trans h) (Event.replyTo_ne_reply r')
  · exact Option.some.inj (href.symm.trans href')

namespace Socket

variable {ω : Type} {s t u : Socket (Recorded ω)} {k : Prompt} {c d : ChannelId}
variable {ch ch' : Channel} {p : PushId} {q : Push} {es : List Effect} {r : Ref} {m : Message}

/-! ### Refs that no push has -/

/-- A ref was drawn and, as long as no ref has come again, it is the ref of no push. -/
structure Retired (r : Ref) (s : Socket (Recorded ω)) : Prop where
  drew : s.exchange.Drew r
  unused : s.exchange.drawn < 2 ^ 64 → ∀ ⦃c ch p q⦄, s.channels.get? c = some ch →
    ch.pushes.get? p = some q → q.ref ≠ some r

theorem Retired.of_channels (h : Retired r s) (he : s.exchange.Evolves t.exchange)
    (hc : ∀ ⦃c ch'⦄, t.channels.get? c = some ch' → ∀ ⦃p q⦄, ch'.pushes.get? p = some q →
      q.ref = some r → ∃ ch q₀, s.channels.get? c = some ch ∧ ch.pushes.get? p = some q₀ ∧
        q₀.ref = some r) : Retired r t where
  drew := he.drew h.drew
  unused hb _ _ _ _ hch' hq hr := by
    obtain ⟨ch, q₀, hch, hq₀, hr₀⟩ := hc hch' hq hr
    exact h.unused (lt_of_le_of_lt he.drawn_le hb) hch hq₀ hr₀

theorem Retired.quiet (h : Retired r s) (hq : Quiet s t) : Retired r t :=
  h.of_channels hq.evolves fun c ch' hc _ q hp hr => ⟨ch', q, hq.get? c ▸ hc, hp, hr⟩

/-- The pushes of a channel take fresh refs only. -/
theorem Retired.works (h : Retired r s) (hc : s.channels.get? c = some ch) (hw : Works c ch' es s t)
    (hrefs : ch.RefsFrom s.exchange t.exchange ch') : Retired r t where
  drew := hw.evolves.drew h.drew
  unused hb d ch₁ p q hd hq hr := by
    have hbefore := h.unused (lt_of_le_of_lt hw.evolves.drawn_le hb)
    by_cases hdc : d = c
    · subst hdc
      rw [hw.get?] at hd
      cases hd
      rcases hrefs hb hq hr with ⟨q₀, hq₀, hr₀⟩ | ⟨hfresh, _⟩
      · exact hbefore hc hq₀ hr₀
      · exact hfresh h.drew
    · rw [hw.get?_of_ne hdc] at hd
      exact hbefore hd hq hr

theorem Flush.retired {ps : List PushId} (h : Flush c ps s t) (hs : Sound s) (hr : Retired r s) :
    Retired r t := by
  induction h with
  | nil => exact hr
  | pass late rest ih => exact ih hs hr
  | send channel push inTime starts works rest ih =>
    have hch := hs.channels channel
    exact ih (hs.starts channel starts works) (hr.works channel works (starts.refs hch.drew))

theorem Move.retired (h : Move k c s t) (hs : Sound s) (hr : Retired r s) : Retired r t := by
  cases h with
  | quiet quiet => exact hr.quiet quiet
  | alter channel alter works => exact hr.works channel works (alter.refs (hs.channels channel))
  | accepted channel push awaits unarmed answers status works flush =>
    refine flush.retired (hs.accept channel push works) (hr.works channel works ?_)
    exact ((Channel.RefsKept.settle push _ _).trans (.of_eq rfl)).from
  | @closed _ ch channel closes =>
    refine hr.of_channels closes.evolves fun d ch' hd p q hq hqr => ?_
    by_cases hdc : d = c
    · subst hdc
      rw [closes.get?_self] at hd
      split at hd
      · cases hd
      · cases hd
        exact ⟨ch, q, channel, hq, hqr⟩
    · exact ⟨ch', q, closes.get?_of_ne hdc ▸ hd, hq, hqr⟩

theorem Rough.retired (h : Rough k c s t) (hs : Sound s) (hr : Retired r s) : Retired r t := by
  cases h with
  | move move => exact move.retired hs hr
  | lapse channel push works =>
    exact hr.works channel works (Channel.RefsKept.from (.set rfl push (.inl rfl)))
  | departs channel push free spent other starts works accepts =>
    have hdep := departing_sound (hs.channels channel) push
    exact hr.works channel works
      ((departing_refs push).trans_from (starts.refs_insert hdep (Push.isNew_leave _ _)))
  | @joins _ _ _ timeout _ channel push stays starts works =>
    have hjoin := joining_sound (hs.channels channel) push timeout
    exact hr.works channel works ((joining_refs push timeout).trans_from (starts.refs hjoin.drew))

/-- A ref that is retired stays retired, whatever happens. -/
theorem persists_retired : Persists (ω := ω) (fun _ => True) (Retired r) where
  quiet h hq := h.quiet hq
  rough hs h _ hrough := hrough.retired hs h
  enters h he := by
    refine h.of_channels he.evolves fun c ch' hc p q hq hr => ?_
    rcases he.get? c hc with hold | ⟨_, params, timeout, refs, rfl⟩
    · exact ⟨ch', q, hold, hq, hr⟩
    · rw [Channel.new, Table.get?_set] at hq
      split at hq
      · cases hq
        cases hr
      · cases hq
  erases h he := h.of_channels he.evolves fun _ ch' hc _ q hq hr => ⟨ch', q, (he.get? hc).2, hq, hr⟩
  ends h he := by
    refine h.of_channels he.evolves fun c ch' hc => ?_
    rw [he.channels_eq, Table.get?_empty] at hc
    cases hc

/-! ### Messages that answer them -/

/-- A channel is joined. -/
def HasJoined (c : ChannelId) (s : Socket (Recorded ω)) : Prop :=
  ∃ ch, s.channels.get? c = some ch ∧ ch.state = .joined

/-- No channel is joined that was not joined before, as long as no ref has come again. -/
def LetsNoneIn (s t : Socket (Recorded ω)) : Prop :=
  t.exchange.drawn < 2 ^ 64 → ∀ ⦃c⦄, HasJoined c t → HasJoined c s

theorem letsNoneIn_of_quiet (hq : Quiet s t) : LetsNoneIn s t := by
  rintro - c ⟨ch, hc, hstate⟩
  exact ⟨ch, hq.get? c ▸ hc, hstate⟩

theorem LetsNoneIn.trans (h : LetsNoneIn s t) (h' : LetsNoneIn t u)
    (he : t.exchange.Evolves u.exchange) : LetsNoneIn s u :=
  fun hb _ hc => h (lt_of_le_of_lt he.drawn_le hb) (h' hb hc)

/-- A message that answers a ref that no push has lets no channel in. -/
theorem Move.letsNoneIn (h : Move (.message m) c s t) (hs : Sound s) (hm : m.Answers r)
    (hr : Retired r t) : LetsNoneIn s t := by
  rintro hb d ⟨ch', hc', hstate⟩
  by_cases hdc : d = c
  · subst hdc
    obtain ⟨ch, hc, ⟨hjoined, _⟩ | ⟨q, reply, ⟨_, _, r', hr', hevent⟩, _, href⟩⟩ :=
      (Rough.move h).joined hs hc' hstate
    · exact ⟨ch, hc, hjoined⟩
    · -- The join that would be answered has the ref that no push has.
      obtain rfl : r = r' := hm.unique hevent
      obtain ⟨q', hq', hqr⟩ := Option.bind_eq_some_iff.mp (href.trans hr')
      exact absurd hqr (hr.unused hb hc' hq')
  · exact ⟨ch', h.frame.others hdc ▸ hc', hstate⟩

section Outside

variable [Outside ω] [Obliging ω]

/-- What the moves of single channels keep is kept when a message reaches the channels in turn. -/
theorem keeps_deliveries {I : Socket (Recorded ω) → Prop}
    (step : ∀ {u v c}, Sound u → I u → Move (.message m) c u v → I v) {l : List ChannelId}
    (hl : l.Nodup) (hsub : ∀ d ∈ l, d ∈ s.order) (hs : Sound s) (hI : I s) :
    I (l.foldl (deliver m) s) := by
  induction l generalizing s with
  | nil => exact hI
  | cons c l ih =>
    obtain ⟨hnot, hl⟩ := List.nodup_cons.mp hl
    have hmoves := moves_deliver hs m (hsub c List.mem_cons_self)
    have hI' : Sound (deliver m s c) ∧ I (deliver m s c) :=
      hmoves.rec ⟨hs, hI⟩ fun _ move ih => ⟨move.sound ih.1, step ih.1 ih.2 move⟩
    refine ih hl (fun d hd => ?_) hI'.1 hI'.2
    exact (hmoves.frame.mem_order fun heq => hnot (heq ▸ hd)).mpr (hsub d (List.mem_cons_of_mem _ hd))

theorem Retired.letsNoneIn_messageReceived (hr : Retired r s) (hs : Sound s) (hm : m.Answers r) :
    LetsNoneIn s (s.messageReceived m) := by
  have hheard := quiet_answerHeartbeat s m
  have hs₁ := hs.quiet hheard
  set s₁ := if s.answersHeartbeat m then s.acknowledgeHeartbeat else s with hs₁eq
  -- While the message goes round, the ref stays retired, and nobody is let in.
  have hround : Retired r (s₁.order.foldl (deliver m) s₁) ∧
      LetsNoneIn s (s₁.order.foldl (deliver m) s₁) := by
    refine keeps_deliveries (I := fun u => Retired r u ∧ LetsNoneIn s u) ?_ hs₁.nodup (fun _ => id) hs₁
      ⟨hr.quiet hheard, letsNoneIn_of_quiet hheard⟩
    rintro u v c hu ⟨hru, hin⟩ move
    have hrv := move.retired hu hru
    exact ⟨hrv, hin.trans (move.letsNoneIn hu hm hrv) move.frame.evolves⟩
  have hcallbacks := quiet_foldl (quiet_runOnMessage m)
    (s₁.order.foldl (deliver m) s₁).callbacks.onMessage.refs (s₁.order.foldl (deliver m) s₁)
  exact hround.2.trans (letsNoneIn_of_quiet hcallbacks) hcallbacks.evolves

/-- However long a socket runs on, the join with a ref has been given up: no channel is joined under it,
and no message that answers it lets a channel in. -/
structure Lapsed (r : Ref) (s : Socket (Recorded ω)) : Prop where
  never : ∀ ⦃t⦄, Run (fun _ _ => True) s t → t.exchange.drawn < 2 ^ 64 → ∀ c, ¬ JoinedUnder c r t
  unheard : ∀ ⦃t cmd x m⦄, Run (fun _ _ => True) s t → t.exchange.next? = some (cmd, x) →
    { t with exchange := x }.incoming? cmd = some m → m.Answers r →
      LetsNoneIn t ({ t with exchange := x }.handle cmd)

/-- No reply to a ref that is retired lets a channel in, however late it comes. -/
theorem Retired.lapsed (hr : Retired r s) (hs : Sound s) : Lapsed r s := by
  have later : ∀ {t}, Run (fun _ _ => True) s t → Sound t ∧ Retired r t := fun run =>
    (persists_retired.preserved fun _ cmd _ => Command.within_true cmd).run run hs hr
  constructor
  · rintro t run hb c ⟨_, ch, hc, _, href⟩
    obtain ⟨q, hq, hqr⟩ := Option.bind_eq_some_iff.mp href
    exact (later run).2.unused hb hc hq hqr
  · intro t cmd x m run next incoming answers
    obtain ⟨ht, hrt⟩ := later run
    have htaken := quiet_next? next
    have hready := htaken.trans (quiet_pruneRetired _)
    have hs₁ := ht.quiet hready
    have hin := (hrt.quiet hready).letsNoneIn_messageReceived hs₁ answers
    rw [handle_of_incoming? incoming]
    exact (letsNoneIn_of_quiet hready).trans hin
      ((strides_messageReceived hs₁ incoming).evolves hs₁)

end Outside

end Socket

end Switchboard
