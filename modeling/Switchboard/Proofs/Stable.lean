import Switchboard.Proofs.Fates
import Switchboard.Proofs.Runs
import Switchboard.Proofs.Unhooked

/-!
# What steps keep

Where no hook interferes and no ref has come again, all that a command does to pushes is done in
steps, so that what each step keeps is kept by every command.  Only to leave is treated on its own: a
leave that has been sent is resolved in the next step.

Main definitions

* `Prompt.LetsWait`, `Socket.Shuns`: pushes that wait for a join are not answered too early;
* `Socket.Steady`, `Socket.Stable`: something is kept by the steps of moves, and of a command.

Main results

* `Socket.leave_passes`: to leave in steps;
* `Socket.Stable.stride`, `Socket.Stable.handle`: what steps keep is kept by a command;
* `Socket.preserved_of_stable`: what commands keep holds at all times.
-/

set_option autoImplicit false

namespace Switchboard

/-- The only answer that a prompt may give to the push with a ref is that its time is over. -/
def Prompt.LetsWait (k : Prompt) (r : Ref) : Prop :=
  match k with
  | .message m => m.ref ≠ some r ∧ m.event ≠ Event.replyTo r
  | .reply ref payload => ref = r → payload = .reply Status.timeout .empty
  | .op _ | .failure => True

theorem Event.isReserved_of_namesReply {event : String} (h : Event.NamesReply event) :
    Event.IsReserved event :=
  .inr h

namespace Socket

variable {ω : Type} {s t u : Socket (Recorded ω)} {k : Prompt} {c d : ChannelId}
variable {ch ch' : Channel} {p p' : PushId} {q : Push} {es : List Effect}
variable {W : Push → Prop} {names : String → Prop}
variable {s₀ : Socket (Recorded ω)} {cmd : Command}

/-- A prompt answers no push that waits for a join, unless the time of the push is over. -/
def Shuns (k : Prompt) (s : Socket (Recorded ω)) : Prop :=
  ∀ ⦃c ch p q r⦄, s.channels.get? c = some ch → p ∈ ch.buffer → ch.pushes.get? p = some q →
    q.ref = some r → k.LetsWait r

theorem shuns_failure (s : Socket (Recorded ω)) : Shuns .failure s :=
  fun _ _ _ _ _ _ _ _ _ => trivial

theorem shuns_op (op : ChannelOp) (s : Socket (Recorded ω)) : Shuns (.op op) s :=
  fun _ _ _ _ _ _ _ _ _ => trivial

theorem shuns_timeout (r : Ref) (s : Socket (Recorded ω)) :
    Shuns (.reply r (.reply Status.timeout .empty)) s :=
  fun _ _ _ _ _ _ _ _ _ _ => rfl

/-! ### The record -/

/-- A reply that is recorded in a step concerns a push under its ref. -/
theorem push_of_resolve {log : List Effect} {x : Exchange} {registered : Prop} {r : Option Ref}
    {reply : Reply} (h : ch.Fate W k log x registered c p ch' es)
    (hmem : Effect.resolve c p r reply ∈ es) : ∃ q, ch.pushes.get? p = some q ∧ r = q.ref := by
  cases h with
  | stays push awaits waits unresolved notes =>
    exact absurd hmem (Unheard.of_unresolved unresolved _ _)
  | lapses push late push' same awaits waits silent => exact absurd hmem (silent.unheard _ _)
  | added other free unheard push unresolved armed ref fresh awaits waits plain silent =>
    exact absurd hmem (silent.unheard _ _)
  | sent push inTime waited push' received armed ref fresh awaits waits hooks silent =>
    exact absurd hmem (silent.unheard _ _)
  | settles push awaits unarmed unhooked answers push' deaf waits once recorded resolved tells =>
    exact ⟨_, push, (resolved _ _ hmem).1⟩
  | withdrawn join push push' ref waits resolved => exact ⟨_, push, resolved _ _ hmem⟩
  | gone push waits silent => exact absurd hmem (silent.unheard _ _)

/-- The record grows and what it tells of was there before. -/
theorem Dated.mono (h : Dated s) (hlog : t.log = s.log) (he : s.exchange.Evolves t.exchange) :
    Dated t := by
  intro c p r reply hmem
  obtain ⟨hspent, hdrew⟩ := h (hlog ▸ hmem)
  exact ⟨he.spent hspent, fun ref href => he.drew (hdrew ref href)⟩

theorem Dated.quiet (h : Dated s) (hq : Quiet s t) : Dated t :=
  h.mono (hq.log_eq.trans (List.append_nil _)) hq.evolves

theorem Dated.unheard (h : Dated s) (hnot : ¬ s.exchange.Spent (.pushes c) p) :
    Unheard c p s.log :=
  fun _ _ hmem => hnot (h hmem).1

theorem Passes.dated (h : Passes W k c s t) (hd : Dated s) : Dated t := by
  intro d p r reply hmem
  obtain ⟨es, hlog, hsilent, hgone, hfate⟩ := h.fate
  rw [hlog, List.mem_append] at hmem
  rcases hmem with hmem | hmem
  · obtain ⟨hspent, hdrew⟩ := hd hmem
    exact ⟨h.frame.evolves.spent hspent, fun ref href => h.frame.evolves.drew (hdrew ref href)⟩
  · obtain rfl : d = c := by
      by_contra hne
      exact (hsilent d p hne).unheard _ _ hmem
    cases hc' : t.channels.get? d with
    | none => exact absurd hmem ((hgone hc' p).unheard _ _)
    | some ch' =>
      obtain ⟨ch, hc, hch⟩ := hfate hc'
      obtain ⟨q, hq, rfl⟩ := push_of_resolve (hch p) hmem
      have hs := h.sound.channels hc
      exact ⟨h.frame.evolves.spent (hs.pushes hq), fun ref href =>
        h.frame.evolves.drew (hs.drew hq href)⟩

/-! ### To leave in steps -/

theorem Settled.passes {timer : TimerSlot} {reply : Reply}
    (h : Settled k c p reply ch q timer s t) (hs : Sound s) (hb : s.exchange.drawn < 2 ^ 64)
    (hu : s.Unhooked) : Passes W k c s t := by
  have ha := hs.channel_apart hb h.channel
  refine h.works.passes hs h.channel (fun _ _ hd => silent_settled (.inl hd.symm)) fun p' => ?_
  rw [← List.append_nil (settled c p q reply)]
  exact .settle (hs.channels h.channel) ha (hu h.channel) h.push h.awaits h.unarmed h.answers rfl rfl
    (by simp) (by simp) (fun _ _ => .nil) (fun _ => rfl) p'

section Outside

variable [Outside ω] [Obliging ω]

/-- A leave is sent, is resolved, and then the channel closes at most. -/
theorem leave_passes (hs : Sound s) (hi : Intact names s) (hc : s.channels.get? c = some ch)
    (hspent : s.exchange.Spent (.pushes c) p) (hfree : ch.pushes.get? p = none)
    (hother : p ≠ joinPush) (hunheard : Unheard c p s.log) (timeout : Nat) (detached : Bool)
    (hb : (s.leave c p timeout detached).exchange.drawn < 2 ^ 64) :
    ∃ t u v r ch', (∀ W, Passes W (.op (.leave p timeout)) c s t) ∧
      (∀ W, Passes W (.reply r (.reply Status.ok .empty)) c t u) ∧
      Shuns (.reply r (.reply Status.ok .empty)) t ∧ u.channels.get? c = some ch' ∧
      ¬ ch'.Awaits p ∧ p ∉ ch'.buffer ∧ Sound u ∧ Intact names u ∧ Moves .failure c u v ∧
      Quiet v (s.leave c p timeout detached) := by
  obtain ⟨t, join, ch', m, q, r, u, hjoin, _, _, hstarts, hw, hq, hr, hsettled, hrest⟩ :=
    leave_unhooked hs hi.to_unhooked hc hspent hfree hother timeout detached hb
  have hrough : Rough .failure c s t := .departs hc hjoin hfree (hw.evolves.spent hspent) hother
    hstarts hw fun e he => ⟨m, List.mem_singleton.mp he⟩
  have hst := hrough.sound hs
  have hit := hrough.intact trivial hs hi
  have hlevel : Level (ω := ω) (dispatchTo 2) := level_dispatchTo 2
  obtain ⟨hsettle, hmoves⟩ := hsettled.moves_other hlevel hst hother q.hooks.length
  have hsu := hsettled.sound hst
  have hbu : u.exchange.drawn < 2 ^ 64 :=
    lt_of_le_of_lt ((hmoves .failure).frame.evolves.trans hrest.evolves).drawn_le hb
  have hbt := lt_of_le_of_lt hsettled.works.evolves.drawn_le hbu
  -- A push that waits for a join was there before.
  have hunqueued : p ∉ ch'.buffer := by
    intro hmem
    have hbuffer : ch'.buffer = ch.buffer := hstarts.buffer_eq
    obtain ⟨q₀, hq₀⟩ := (hs.channels hc).queued p (hbuffer ▸ hmem)
    rw [hfree] at hq₀
    cases hq₀
  refine ⟨t, u, _, r, _, fun W => passes_depart hs hbt hc hjoin hspent hfree hother hunheard hstarts
    hw, fun W => hsettled.passes hst hbt hit.to_unhooked, ?_, hsettled.works.get?, ?_, ?_, hsu,
    hsettle.intact trivial hst hit, hmoves .failure, hrest⟩
  · intro d ch₁ p₁ q₁ r₁ hd hmem hq₁ hr₁ heq
    subst heq
    obtain ⟨rfl, rfl⟩ := hst.apart hbt hd hw.get? hq₁ hq hr₁ hr
    rw [hw.get?] at hd
    cases hd
    exact absurd hmem hunqueued
  · exact (hst.channels hw.get?).not_awaits_drop hq rfl
  · rwa [Channel.settle_buffer]

/-! ### Stability -/

/-- Something is kept by all steps that the moves of a command are made of. -/
structure Steady (W : Push → Prop) (s₀ : Socket (Recorded ω)) (cmd : Command)
    (I : Socket (Recorded ω) → Prop) : Prop where
  lasts : Push.Lasting W
  waited : ∀ {s c ch p q}, I s → Sound s → s.channels.get? c = some ch → p ∈ ch.buffer →
    ch.pushes.get? p = some q → W q
  quiet : ∀ {s t}, I s → Quiet s t → I t
  passes : ∀ {k c s t}, I s →
    (∀ op, k = .op op → s₀.incoming? cmd = none ∧ ∀ p timeout, op ≠ .leave p timeout) →
    Shuns k s ∨ (∃ m, k = .message m ∧ s₀.incoming? cmd = some m) → Passes W k c s t → I t

/-- Something is kept by all that a command is made of. -/
structure Stable (W : Push → Prop) (s₀ : Socket (Recorded ω)) (cmd : Command)
    (I : Socket (Recorded ω) → Prop) : Prop extends Steady W s₀ cmd I where
  leave : ∀ {s c ch p}, I s → Dated s → Sound s → Intact Event.NamesReply s →
    s.channels.get? c = some ch → s.exchange.Spent (.pushes c) p → ch.pushes.get? p = none →
    p ≠ joinPush → Unheard c p s.log → ∀ timeout detached,
    (s.leave c p timeout detached).exchange.drawn < 2 ^ 64 → I (s.leave c p timeout detached)
  enters : ∀ {s t c topic}, I s → s.channels.get? c = none → Enters c topic s t → I t
  erases : ∀ {s t c}, I s → c ∉ s.order → Erases c s t → I t
  ends : ∀ {s t}, I s → Ends s t → I t

namespace Steady

variable {I : Socket (Recorded ω) → Prop}

omit [Outside ω] [Obliging ω] in
theorem move (hI : Steady W s₀ cmd I) (h : Move k c s t) (hk : k.Spares Event.NamesReply)
    (hop : ∀ op, k = .op op → s₀.incoming? cmd = none ∧ ∀ p timeout, op ≠ .leave p timeout)
    (hcause : (∀ u : Socket (Recorded ω), Shuns k u) ∨
      ∃ m, k = .message m ∧ s₀.incoming? cmd = some m)
    (hnew : ∀ p event payload timeout, k = .op (.push p event payload timeout) →
      Unheard c p s.log) (hs : Sound s) (hu : s.Unhooked) (hb : t.exchange.drawn < 2 ^ 64)
    (hd : Dated s) (hs' : I s) : Dated t ∧ I t := by
  have hbrings : ∀ p, Brings k s.exchange c p → Unheard c p s.log := by
    rintro p (hnot | ⟨event, payload, timeout, hop⟩)
    · exact fun r reply hmem => hnot (hd hmem).1
    · exact hnew p event payload timeout hop
  have hsteps := h.passes hk hs hu hb hI.lasts hbrings fun hc p hp q hq => hI.waited hs' hs hc hp hq
  clear h hnew hbrings hu
  induction hsteps with
  | refl => exact ⟨hd, hs'⟩
  | tail steps step ih =>
    obtain ⟨hd', hI'⟩ := ih (lt_of_le_of_lt step.frame.evolves.drawn_le hb)
    exact ⟨step.dated hd', hI.passes hI' hop (hcause.imp (fun h => h _) id) step⟩

omit [Outside ω] [Obliging ω] in
theorem moves (hI : Steady W s₀ cmd I) (h : Moves k c s t) (hop : ∀ op, k ≠ .op op)
    (hcause : (∀ u : Socket (Recorded ω), Shuns k u) ∨
      ∃ m, k = .message m ∧ s₀.incoming? cmd = some m)
    (hs : Sound s) (hi : Intact Event.NamesReply s) (hb : t.exchange.drawn < 2 ^ 64) (hd : Dated s)
    (hs' : I s) : Dated t ∧ I t := by
  have hk : k.Spares Event.NamesReply := by
    cases k with
    | op op => exact absurd rfl (hop op)
    | message m => trivial
    | failure => trivial
    | reply r payload => trivial
  induction h with
  | refl => exact ⟨hd, hs'⟩
  | tail moves move ih =>
    obtain ⟨hd', hI'⟩ := ih (lt_of_le_of_lt move.frame.evolves.drawn_le hb)
    have hu := (Moves.intact moves hk hs hi).to_unhooked
    exact hI.move move hk (fun op heq => absurd heq (hop op)) hcause
      (fun p event payload timeout heq => absurd heq (hop _)) (Moves.sound moves hs) hu hb hd' hI'

end Steady

theorem dated_leave (hs : Sound s) (hi : Intact Event.NamesReply s) (hd : Dated s)
    (hc : s.channels.get? c = some ch) (hspent : s.exchange.Spent (.pushes c) p)
    (hfree : ch.pushes.get? p = none) (hother : p ≠ joinPush) (hunheard : Unheard c p s.log)
    (timeout : Nat) (detached : Bool)
    (hb : (s.leave c p timeout detached).exchange.drawn < 2 ^ 64) :
    Dated (s.leave c p timeout detached) := by
  obtain ⟨t, u, v, r, ch', hdepart, hsettle, _, _, _, _, hsu, hiu, hmoves, hquiet⟩ :=
    leave_passes hs hi hc hspent hfree hother hunheard timeout detached hb
  -- That the record is dated does not depend on what else is kept.
  have htrue : Steady (fun _ => True) s .connect fun _ : Socket (Recorded ω) => True :=
    ⟨fun _ _ _ _ _ => trivial, fun _ _ _ _ _ => trivial, fun _ _ => trivial, fun _ _ _ _ => trivial⟩
  have hdu := (hsettle fun _ => True).dated ((hdepart fun _ => True).dated hd)
  have hbv := lt_of_le_of_lt hquiet.evolves.drawn_le hb
  exact (htrue.moves hmoves (by simp) (.inl shuns_failure) hsu hiu hbv hdu
    trivial).1.quiet hquiet

namespace Stable

variable {I : Socket (Recorded ω) → Prop}

theorem leaveOpenTopic (hI : Stable W s₀ cmd I) (hs : Sound s) (hi : Intact Event.NamesReply s)
    (hd : Dated s) (hs' : I s) (topic : String) (c : ChannelId)
    (hb : (s.leaveOpenTopic topic c).exchange.drawn < 2 ^ 64) :
    Dated (s.leaveOpenTopic topic c) ∧ I (s.leaveOpenTopic topic c) := by
  rcases leaveOpenTopic_cases hs topic c with ⟨_, heq⟩ |
    ⟨d, ch, p, t, _, _, _, hch, _, _, hquiet, hnot, hspent, hfree, hother, heq⟩
  · rw [heq]
    exact ⟨hd, hs'⟩
  · rw [heq] at hb ⊢
    have hst := hs.quiet hquiet
    have hit := hi.turns hquiet
    have hdt := hd.quiet hquiet
    have hc := hquiet.get? d ▸ hch
    have hunheard : Unheard d p t.log := by
      rw [hquiet.log_eq, List.append_nil]
      exact hd.unheard hnot
    exact ⟨dated_leave hst hit hdt hc hspent hfree hother hunheard ch.timeout true hb,
      hI.leave (hI.quiet hs' hquiet) hdt hst hit hc hspent hfree hother hunheard ch.timeout true hb⟩

theorem rejoin (hI : Stable W s₀ cmd I) (hs : Sound s) (hi : Intact Event.NamesReply s)
    (hd : Dated s) (hs' : I s) (hc : s.channels.get? c = some ch)
    (hb : (s.rejoin c).exchange.drawn < 2 ^ 64) : Dated (s.rejoin c) ∧ I (s.rejoin c) := by
  rcases rejoin_cases hs hc with ⟨_, heq⟩ | ⟨hstays, hget, heq⟩
  · rw [heq]
    exact ⟨hd, hs'⟩
  · have hs₂ := sound_leaveOpenTopic hs ch.topic c
    obtain ⟨join, ch', m, hjoin, _, _, hstarts, hw⟩ := works_attempt hs₂ hget
    rw [heq] at hb ⊢
    obtain ⟨hd₂, hI₂⟩ := hI.leaveOpenTopic hs hi hd hs' ch.topic c
      (lt_of_le_of_lt hw.evolves.drawn_le hb)
    have hpass : Passes W .failure c _ _ := passes_attempt hs₂ hb hget hjoin hstarts hw
    exact ⟨hpass.dated hd₂, hI.passes hI₂ (by simp) (.inl (shuns_failure _)) hpass⟩

theorem pushTimeout (hI : Stable W s₀ cmd I) (hs : Sound s) (hi : Intact Event.NamesReply s)
    (hd : Dated s) (hs' : I s) (c : ChannelId) (p : PushId) (generation : Nat)
    (hb : (s.pushTimeout c p generation).exchange.drawn < 2 ^ 64) :
    Dated (s.pushTimeout c p generation) ∧ I (s.pushTimeout c p generation) := by
  have hbs : s.exchange.drawn < 2 ^ 64 := by
    rcases roughly_pushTimeout hs c p generation with heq | ⟨_, _, _, _, _, _, _, hrough⟩
    · rwa [heq] at hb
    · exact lt_of_le_of_lt hrough.frame.evolves.drawn_le hb
  rcases pushTimeout_unhooked hs hbs hi.to_unhooked c p generation with
    heq | ⟨ch, q, hc, hp, harmed, ⟨hdeaf, hw⟩ | ⟨r, t, hr, hsettled, hrest⟩⟩
  · rw [heq]
    exact ⟨hd, hs'⟩
  · have hpass : Passes W .failure c _ _ := passes_lapse hs hc hp harmed hdeaf hw
    exact ⟨hpass.dated hd, hI.passes hs' (by simp) (.inl (shuns_failure _)) hpass⟩
  · obtain ⟨hmoves, _⟩ := hsettled.moves (level_dispatchTo 2) hs
    obtain ⟨hd', hI'⟩ := hI.toSteady.moves hmoves (by simp) (.inl (shuns_timeout r)) hs hi
      (lt_of_le_of_lt hrest.evolves.drawn_le hb) hd hs'
    exact ⟨hd'.quiet hrest, hI.quiet hI' hrest⟩

/-- What steps keep is kept by each stride. -/
theorem stride (hI : Stable W s₀ cmd I) (h : Stride s₀ cmd s t)
    (hcmd : cmd.Spares Event.NamesReply)
    (hnew : ∀ {c p}, cmd.number? (.pushes c) = some p → Unheard c p s₀.log) (hs : Sound s)
    (hi : Intact Event.NamesReply s) (hb : t.exchange.drawn < 2 ^ 64) (hd : Dated s) (hs' : I s) :
    Dated t ∧ I t := by
  cases h with
  | quiet quiet => exact ⟨hd.quiet quiet, hI.quiet hs' quiet⟩
  | @move _ _ k c heeds move =>
    have hk : k.Spares Event.NamesReply := heeds.spares hcmd
    refine hI.toSteady.move move hk ?_ ?_ ?_ hs hi.to_unhooked hb hd hs'
    · rintro op rfl
      obtain ⟨rfl, -, hleave⟩ := heeds
      exact ⟨rfl, hleave⟩
    · cases k with
      | op op => exact .inl (shuns_op op)
      | message m => exact .inr ⟨m, rfl, heeds⟩
      | failure => exact .inl shuns_failure
      | reply r payload => exact heeds.elim
    · rintro p event payload timeout rfl
      obtain ⟨rfl, rfl, -⟩ := heeds
      exact hnew (by simp [Command.number?])
  | expire _ command => exact hI.pushTimeout hs hi hd hs' _ _ _ hb
  | @leave c ch p timeout command channel spent free other =>
    have hunheard : Unheard c p s.log := hnew (by simp [command, Command.number?])
    exact ⟨dated_leave hs hi hd channel spent free other hunheard _ _ hb,
      hI.leave hs' hd hs hi channel spent free other hunheard _ _ hb⟩
  | @rejoin _ c ch f channel same cause =>
    have hmove : Move .failure c s (s.modifyChannel c f) := move_alike channel same
    have hw := works_modifyChannel channel f
    have hsm := hmove.sound hs
    obtain ⟨hd', hI'⟩ := hI.toSteady.move hmove trivial (by simp) (.inl shuns_failure) (by simp) hs
      hi.to_unhooked (lt_of_le_of_lt (evolves_rejoin hsm hw.get?).drawn_le hb) hd hs'
    exact hI.rejoin hsm (hmove.intact trivial hs hi) hd' hI' hw.get? hb
  | enters command spent free enters =>
    exact ⟨hd.mono enters.log_eq enters.evolves, hI.enters hs' free enters⟩
  | erases unlisted erases =>
    exact ⟨hd.mono erases.log_eq erases.evolves, hI.erases hs' unlisted erases⟩
  | ends ends => exact ⟨hd.mono ends.log_eq ends.evolves, hI.ends hs' ends⟩

/-- What steps keep is kept by each command. -/
theorem handle (hI : Stable W s₀ cmd I) (hcmd : cmd.Spares Event.NamesReply)
    (hnew : ∀ {c p}, cmd.number? (.pushes c) = some p → Unheard c p s₀.log) (hs : Sound s₀)
    (hdue : Due s₀ cmd) (hi : Intact Event.NamesReply s₀)
    (hb : (s₀.handle cmd).exchange.drawn < 2 ^ 64) (hd : Dated s₀) (hs' : I s₀) :
    Dated (s₀.handle cmd) ∧ I (s₀.handle cmd) := by
  have hstrides := strides_handle hs cmd hdue
  have hall : Intact Event.NamesReply (s₀.handle cmd) ∧ Dated (s₀.handle cmd) ∧
      I (s₀.handle cmd) := by
    refine Strides.preserves (I := fun u => Intact Event.NamesReply u ∧ Dated u ∧ I u) hstrides hs hb
      ⟨hi, hd, hs'⟩ fun hu hbv ⟨hiu, hdu, hIu⟩ stride => ⟨stride.intact hcmd hu hiu, ?_⟩
    exact hI.stride stride hcmd hnew hu hiu hbv hdu hIu
  exact hall.2

end Stable

/-! ### Runs -/

/-- What the commands of a run keep holds at all times, as long as no ref has come again. -/
theorem preserved_of_stable {admits : Socket (Recorded ω) → Command → Prop}
    {I : Socket (Recorded ω) → Prop} (hadmits : ∀ s cmd, admits s cmd → cmd.Spares Event.NamesReply)
    (hquiet : ∀ {s t}, I s → Quiet s t → I t) (hends : ∀ {s t}, I s → Ends s t → I t)
    (hstable : ∀ s cmd, admits s cmd → I s → ∃ K, Stable W s cmd K ∧ K s ∧ ∀ t, K t → I t) :
    Preserved admits fun s =>
      Intact Event.NamesReply s ∧ (s.exchange.drawn < 2 ^ 64 → Dated s ∧ I s) where
  quiet h hq := by
    refine ⟨h.1.turns hq, fun hb => ?_⟩
    obtain ⟨hd, hI⟩ := h.2 (lt_of_le_of_lt hq.evolves.drawn_le hb)
    exact ⟨hd.quiet hq, hquiet hI hq⟩
  ends h he := by
    refine ⟨he.intact, fun hb => ?_⟩
    obtain ⟨hd, hI⟩ := h.2 (lt_of_le_of_lt he.evolves.drawn_le hb)
    exact ⟨hd.mono he.log_eq he.evolves, hends hI he⟩
  handle := by
    intro s cmd x hs h hnext hadmit
    have hq := quiet_next? hnext
    have hsx := hs.quiet hq
    have hdue := due_of_next? hs hnext
    have hix := h.1.turns hq
    have hcmd := hadmits _ _ hadmit
    have hstrides := strides_handle hsx cmd hdue
    refine ⟨hstrides.intact hcmd hsx hix, fun hb => ?_⟩
    have hbx := lt_of_le_of_lt (hstrides.evolves hsx).drawn_le hb
    obtain ⟨hd, hI⟩ := h.2 (lt_of_le_of_lt hq.evolves.drawn_le hbx)
    obtain ⟨K, hK, hKs, hKI⟩ := hstable _ _ hadmit (hquiet hI hq)
    -- The number of a push that is asked for was not used, so nothing is recorded of it.
    have hnew : ∀ {c p}, cmd.number? (.pushes c) = some p →
        Unheard c p ({ s with exchange := x } : Socket (Recorded ω)).log := fun hn =>
      hd.unheard (Exchange.spent_of_next? hs.tidy hnext hn).2
    obtain ⟨hd', hK'⟩ := hK.handle hcmd hnew hsx hdue hix hb (hd.quiet hq) hKs
    exact ⟨hd', hKI _ hK'⟩

theorem Reachable.dated_of_preserved {admits : Socket (Recorded ω) → Command → Prop}
    {I : Socket (Recorded ω) → Prop} (hI : Preserved admits fun s =>
      Intact Event.NamesReply s ∧ (s.exchange.drawn < 2 ^ 64 → Dated s ∧ I s))
    (hnew : ∀ s : Socket (Recorded ω), s.channels = .empty → s.log = [] → I s)
    (h : Reachable admits s) (hb : s.exchange.drawn < 2 ^ 64) : Dated s ∧ I s := by
  obtain ⟨endpoint, config, factory, outside, run⟩ := h
  have hdated : Dated (Socket.new endpoint config factory (⟨outside, [], []⟩ : Recorded ω)) := by
    simp [Dated, log, Socket.new]
  exact (hI.run run (sound_new endpoint config factory _)
    ⟨fun _ _ hc => (by cases hc), fun _ => ⟨hdated, hnew _ rfl rfl⟩⟩).2.2 hb

end Outside

end Socket

end Switchboard
