import Switchboard.Proofs.Connection
import Switchboard.Proofs.Operations
import Switchboard.Socket.Step

/-!
# Commands are handled in strides

Whatever command a socket takes from its queue, it carries it out in strides: moves of channels, the
timeout of a push, a leave, a join attempt, and channels that come and go.  Channels that are told
something one after another are all still registered when their turn comes, since the moves of one
channel leave the others where they are.

Main definitions

* `Socket.incoming?`: the message that a command brings;
* `Socket.Due`: the number that a command puts to use was not used before;
* `Socket.Heeds`: a prompt has its cause in a command;
* `Socket.Stride`, `Socket.Strides`.

Main results

* `Socket.strides_handle`: every command is carried out in strides;
* `Socket.Stride.sound`, `Socket.Strides.sound`: strides keep a socket sound.
-/

set_option autoImplicit false

namespace Switchboard

namespace Socket

/-- The message that a command brings. -/
def incoming? {ω : Type} (s : Socket ω) : Command → Option Message
  | .transport t (.received frame) =>
    match s.conn with
    | some conn =>
      if conn.transport = t then (conn.serializer.decode frame).toOption else none
    | none => none
  | _ => none

variable {ω : Type} {s t u : Socket (Recorded ω)} {k : Prompt} {c d : ChannelId}
variable {ch ch' : Channel} {p : PushId} {q : Push} {es : List Effect}
variable {s₀ : Socket (Recorded ω)} {cmd : Command}

/-- A prompt has its cause in a command; what a handle asks for is done at once. -/
def Heeds (s₀ : Socket (Recorded ω)) (cmd : Command) (k : Prompt) (c : ChannelId)
    (s : Socket (Recorded ω)) : Prop :=
  match k with
  | .op op => cmd = .channel c op ∧ s = s₀ ∧ ∀ p timeout, op ≠ .leave p timeout
  | .message m => s₀.incoming? cmd = some m
  | .failure => True
  | .reply _ _ => False

/-- The number that a command puts to use is spent now, and was not used before. -/
structure Due (s : Socket (Recorded ω)) (cmd : Command) : Prop where
  channel : ∀ {c}, cmd.number? .channels = some c →
    s.exchange.Spent .channels c ∧ s.channels.get? c = none
  push : ∀ {c p}, cmd.number? (.pushes c) = some p → s.exchange.Spent (.pushes c) p ∧
    p ≠ joinPush ∧ ∀ {ch}, s.channels.get? c = some ch → ch.pushes.get? p = none
  binding : ∀ {c n}, cmd.number? (.bindings c) = some n → s.exchange.Spent (.bindings c) n ∧
    ∀ {ch}, s.channels.get? c = some ch → ∀ b ∈ ch.bindings, b.number ≠ n

/-! ### Channels come and go -/

/-- A channel enters the registry. -/
structure Enters (c : ChannelId) (topic : String) (s t : Socket (Recorded ω)) : Prop where
  channels_eq : ∃ params timeout refs,
    t.channels = s.channels.set c (.new topic params timeout refs)
  order_eq : t.order = s.order ++ [c]
  evolves : s.exchange.Evolves t.exchange
  log_eq : t.log = s.log

/-- A channel outside of the registry is forgotten. -/
structure Erases (c : ChannelId) (s t : Socket (Recorded ω)) : Prop where
  channels_eq : t.channels = s.channels.erase c
  order_eq : t.order = s.order
  evolves : s.exchange.Evolves t.exchange
  log_eq : t.log = s.log

/-- All channels are forgotten. -/
structure Ends (s t : Socket (Recorded ω)) : Prop where
  channels_eq : t.channels = .empty
  order_eq : t.order = []
  evolves : s.exchange.Evolves t.exchange
  log_eq : t.log = s.log

theorem Enters.get? {topic : String} (h : Enters c topic s t) (d : ChannelId) {ch : Channel}
    (hd : t.channels.get? d = some ch) : s.channels.get? d = some ch ∨
      d = c ∧ ∃ params timeout refs, ch = .new topic params timeout refs := by
  obtain ⟨params, timeout, refs, hch⟩ := h.channels_eq
  rw [hch, Table.get?_set] at hd
  split at hd
  · rename_i heq
    cases hd
    exact .inr ⟨heq, params, timeout, refs, rfl⟩
  · exact .inl hd

theorem Erases.get? (h : Erases c s t) {d : ChannelId} {ch : Channel}
    (hd : t.channels.get? d = some ch) : d ≠ c ∧ s.channels.get? d = some ch := by
  rw [h.channels_eq, Table.get?_erase] at hd
  split at hd
  · cases hd
  · exact ⟨‹_›, hd⟩

theorem sound_newChannel {x : Exchange} (hx : x.Tidy) (hc : x.Spent .channels c) (topic : String)
    (params : Params) (timeout : Nat) (refs : List Ref) :
    (Channel.new topic params timeout refs).Sound x c := by
  have hpush : ∀ {p q}, (Channel.new topic params timeout refs).pushes.get? p = some q →
      p = joinPush ∧ q = .join timeout := by
    intro p q hq
    rw [Channel.new, Table.get?_set] at hq
    split at hq
    · rename_i heq
      cases hq
      exact ⟨heq, rfl⟩
    · cases hq
  have hnumber : ∀ b ∈ Channel.ownBindings, b.number < Line.firstBinding := by decide
  constructor
  · exact hc
  · intro p q hq
    obtain ⟨rfl, _⟩ := hpush hq
    exact Exchange.spent_of_lt_first hx (Nat.lt_succ_self _)
  · exact fun b hb => Exchange.spent_of_lt_first hx (hnumber b hb)
  · exact (by decide : (Channel.ownBindings.map (·.number)).Nodup)
  · exact fun b hb => .inl hb
  · intro b hb _ _ p ht
    have hnot : ∀ b ∈ Channel.ownBindings, ∀ p, b.target ≠ .resolve p := by
      simp [Channel.ownBindings]
    exact absurd ht (hnot b hb p)
  · intro p q hq
    obtain ⟨_, rfl⟩ := hpush hq
    rfl
  · intro p q r hq hr
    obtain ⟨_, rfl⟩ := hpush hq
    cases hr
  · exact ⟨_, Table.get?_set_self _ _ _, rfl, [], rfl, by simp⟩
  · intro p q hne hq
    exact absurd (hpush hq).1 hne
  · simp [Channel.new]
  · simp [Channel.new]

theorem Enters.sound {topic : String} (h : Enters c topic s t) (hs : Sound s)
    (hspent : s.exchange.Spent .channels c) (hfree : s.channels.get? c = none) : Sound t := by
  have hunlisted : c ∉ s.order := by
    intro hmem
    obtain ⟨ch, hch⟩ := hs.registered c hmem
    rw [hfree] at hch
    cases hch
  have hnew : ∀ {params timeout refs p q}, (Channel.new topic params timeout refs).pushes.get? p =
      some q → q.ref = none := by
    intro params timeout refs p q hq
    rw [Channel.new, Table.get?_set] at hq
    split at hq
    · cases hq; rfl
    · cases hq
  refine ⟨h.evolves.tidy hs.tidy, ?_, ?_, ?_, ?_⟩
  · intro d ch hd
    rcases h.get? d hd with hold | ⟨rfl, params, timeout, refs, rfl⟩
    · exact (hs.channels hold).mono h.evolves
    · exact sound_newChannel (h.evolves.tidy hs.tidy) (h.evolves.spent hspent) _ _ _ _
  · intro hb d d' ch ch' p p' q q' r hd hd' hq hq' hr hr'
    rcases h.get? d hd with hold | ⟨_, _, _, _, rfl⟩
    · rcases h.get? d' hd' with hold' | ⟨_, _, _, _, rfl⟩
      · exact hs.apart (lt_of_le_of_lt h.evolves.drawn_le hb) hold hold' hq hq' hr hr'
      · rw [hnew hq'] at hr'
        cases hr'
    · rw [hnew hq] at hr
      cases hr
  · intro d hd
    obtain ⟨params, timeout, refs, hch⟩ := h.channels_eq
    rw [h.order_eq, List.mem_append, List.mem_singleton] at hd
    rw [hch, Table.get?_set]
    split
    · exact ⟨_, rfl⟩
    · exact hs.registered d (hd.resolve_right ‹_›)
  · rw [h.order_eq, List.nodup_append]
    refine ⟨hs.nodup, List.nodup_singleton c, ?_⟩
    rintro d hd e he rfl
    exact hunlisted (List.mem_singleton.mp he ▸ hd)

theorem Erases.sound (h : Erases c s t) (hs : Sound s) (hunlisted : c ∉ s.order) : Sound t where
  tidy := h.evolves.tidy hs.tidy
  channels hd := (hs.channels (h.get? hd).2).mono h.evolves
  apart hb := by
    intro d d' ch ch' p p' q q' r hd hd'
    exact hs.apart (lt_of_le_of_lt h.evolves.drawn_le hb) (h.get? hd).2 (h.get? hd').2
  registered := by
    intro d hd
    rw [h.order_eq] at hd
    have hne : d ≠ c := fun heq => hunlisted (heq ▸ hd)
    rw [h.channels_eq, Table.get?_erase_of_ne _ hne]
    exact hs.registered d hd
  nodup := h.order_eq ▸ hs.nodup

theorem Ends.sound (h : Ends s t) (hs : Sound s) : Sound t where
  tidy := h.evolves.tidy hs.tidy
  channels hd := by
    rw [h.channels_eq, Table.get?_empty] at hd
    cases hd
  apart _ := by
    intro d d' ch ch' p p' q q' r hd
    rw [h.channels_eq, Table.get?_empty] at hd
    cases hd
  registered := by simp [h.order_eq]
  nodup := by simp [h.order_eq]

theorem move_alike (hc : s.channels.get? c = some ch) {f : Channel → Channel}
    (hf : ch.Alike (f ch)) : Move k c s (s.modifyChannel c f) :=
  .alter hc (.alike hf (by simp)) (works_modifyChannel hc f)

section Outside

variable [Outside ω]

/-! ### Strides -/

/-- What a socket does in one go while it carries out a command that it has just taken. -/
inductive Stride (s₀ : Socket (Recorded ω)) (cmd : Command) :
    Socket (Recorded ω) → Socket (Recorded ω) → Prop
  | quiet {s t : Socket (Recorded ω)} (quiet : Quiet s t) : Stride s₀ cmd s t
  | move {s t : Socket (Recorded ω)} {k : Prompt} {c : ChannelId} (heeds : Heeds s₀ cmd k c s)
    (move : Move k c s t) : Stride s₀ cmd s t
  | expire (s : Socket (Recorded ω)) {c : ChannelId} {p : PushId} {generation : Nat}
    (command : cmd = .timer (.pushTimeout c p generation)) :
    Stride s₀ cmd s (s.pushTimeout c p generation)
  | leave {c : ChannelId} {ch : Channel} {p : PushId} {timeout : Nat}
    (command : cmd = .channel c (.leave p timeout)) (channel : s₀.channels.get? c = some ch)
    (spent : s₀.exchange.Spent (.pushes c) p) (free : ch.pushes.get? p = none)
    (other : p ≠ joinPush) : Stride s₀ cmd s₀ (s₀.leave c p timeout false)
  /-- A channel joins at the request of its handle, by its timer, or after a failure. -/
  | rejoin {s : Socket (Recorded ω)} {c : ChannelId} {ch : Channel} {f : Channel → Channel}
    (channel : s.channels.get? c = some ch) (same : ch.Alike (f ch))
    (cause : (∃ timeout, cmd = .channel c (.join timeout)) ∨ ch.rejoinTimer.slot.armed = true ∨
      ch.state = .errored) : Stride s₀ cmd s ((s.modifyChannel c f).rejoin c)
  | enters {s t : Socket (Recorded ω)} {c : ChannelId} {topic : String} {params : Params}
    (command : cmd = .createChannel c topic params) (spent : s.exchange.Spent .channels c)
    (free : s.channels.get? c = none) (enters : Enters c topic s t) : Stride s₀ cmd s t
  | erases {s t : Socket (Recorded ω)} {c : ChannelId} (unlisted : c ∉ s.order)
    (erases : Erases c s t) : Stride s₀ cmd s t
  | ends {s t : Socket (Recorded ω)} (ends : Ends s t) : Stride s₀ cmd s t

/-- Any number of strides. -/
abbrev Strides (s₀ : Socket (Recorded ω)) (cmd : Command) :
    Socket (Recorded ω) → Socket (Recorded ω) → Prop := Relation.ReflTransGen (Stride s₀ cmd)

theorem Quiet.strides (h : Quiet s t) : Strides s₀ cmd s t := .single (.quiet h)

theorem Move.strides (h : Move k c s t) (hk : Heeds s₀ cmd k c s) : Strides s₀ cmd s t :=
  .single (.move hk h)

theorem Moves.strides (h : Moves k c s t) (hk : ∀ u, Heeds s₀ cmd k c u) : Strides s₀ cmd s t :=
  Relation.ReflTransGen.mono (fun u _ => Stride.move (hk u)) _ _ h

variable [Obliging ω]

/-- To leave keeps a socket sound. -/
theorem sound_leave (hs : Sound s) (hc : s.channels.get? c = some ch)
    (hspent : s.exchange.Spent (.pushes c) p) (hfree : ch.pushes.get? p = none)
    (hother : p ≠ joinPush) (timeout : Nat) (detached : Bool) :
    Sound (s.leave c p timeout detached) := by
  obtain ⟨t, _, _, _, hrough, _, _, _, hmoves⟩ :=
    roughly_leave (k := .failure) hs hc hspent hfree hother timeout detached
  exact hmoves.sound (hrough.sound hs)

theorem sound_leaveOpenTopic (hs : Sound s) (topic : String) (c : ChannelId) :
    Sound (s.leaveOpenTopic topic c) := by
  rcases leaveOpenTopic_cases hs topic c with ⟨_, heq⟩ |
    ⟨d, ch, p, t, _, _, _, hch, _, _, hquiet, _, hspent, hfree, hother, heq⟩
  · rw [heq]
    exact hs
  · rw [heq]
    exact sound_leave (hs.quiet hquiet) (hquiet.get? d ▸ hch) hspent hfree hother ch.timeout true

theorem sound_rejoin (hs : Sound s) (hc : s.channels.get? c = some ch) : Sound (s.rejoin c) := by
  rcases rejoin_cases hs hc with ⟨_, heq⟩ | ⟨hstays, hget, heq⟩
  · rw [heq]
    exact hs
  · have hs' := sound_leaveOpenTopic hs ch.topic c
    rw [heq]
    exact (rough_attempt (k := .failure) hs' hget hstays).sound hs'

theorem Stride.sound (h : Stride s₀ cmd s t) (hs : Sound s) : Sound t := by
  cases h with
  | quiet quiet => exact hs.quiet quiet
  | move heeds move => exact move.sound hs
  | @expire _ c p generation command =>
    rcases roughly_pushTimeout hs c p generation with heq | ⟨_, _, _, _, _, _, _, hrough⟩
    · rw [heq]
      exact hs
    · exact hrough.sound hs
  | leave command channel spent free other => exact sound_leave hs channel spent free other _ _
  | rejoin channel same cause =>
    exact sound_rejoin ((move_alike (k := .failure) channel same).sound hs)
      (works_modifyChannel channel _).get?
  | enters command spent free enters => exact enters.sound hs spent free
  | erases unlisted erases => exact erases.sound hs unlisted
  | ends ends => exact ends.sound hs

theorem Strides.sound (h : Strides s₀ cmd s t) (hs : Sound s) : Sound t := by
  induction h with
  | refl => exact hs
  | tail _ stride ih => exact stride.sound ih

theorem frame_leave (hs : Sound s) (hc : s.channels.get? c = some ch)
    (hspent : s.exchange.Spent (.pushes c) p) (hfree : ch.pushes.get? p = none)
    (hother : p ≠ joinPush) (timeout : Nat) (detached : Bool) :
    Framed c s (s.leave c p timeout detached) := by
  obtain ⟨t, _, _, _, hrough, _, _, _, hmoves⟩ :=
    roughly_leave (k := .failure) hs hc hspent hfree hother timeout detached
  exact hrough.frame.trans hmoves.frame

theorem evolves_leaveOpenTopic (hs : Sound s) (topic : String) (c : ChannelId) :
    s.exchange.Evolves (s.leaveOpenTopic topic c).exchange := by
  rcases leaveOpenTopic_cases hs topic c with ⟨_, heq⟩ |
    ⟨d, ch, p, t, _, _, _, hch, _, _, hquiet, _, hspent, hfree, hother, heq⟩
  · rw [heq]
  · rw [heq]
    exact hquiet.evolves.trans (frame_leave (hs.quiet hquiet) (hquiet.get? d ▸ hch) hspent hfree
      hother ch.timeout true).evolves

theorem evolves_rejoin (hs : Sound s) (hc : s.channels.get? c = some ch) :
    s.exchange.Evolves (s.rejoin c).exchange := by
  rcases rejoin_cases hs hc with ⟨_, heq⟩ | ⟨hstays, hget, heq⟩
  · rw [heq]
  · have hs' := sound_leaveOpenTopic hs ch.topic c
    rw [heq]
    exact (evolves_leaveOpenTopic hs _ c).trans
      (rough_attempt (k := .failure) hs' hget hstays).frame.evolves

theorem Stride.evolves (h : Stride s₀ cmd s t) (hs : Sound s) : s.exchange.Evolves t.exchange := by
  cases h with
  | quiet quiet => exact quiet.evolves
  | move heeds move => exact move.frame.evolves
  | @expire _ c p generation command =>
    rcases roughly_pushTimeout hs c p generation with heq | ⟨_, _, _, _, _, _, _, hrough⟩
    · rw [heq]
    · exact hrough.frame.evolves
  | leave command channel spent free other =>
    exact (frame_leave hs channel spent free other _ _).evolves
  | @rejoin _ c ch f channel same cause =>
    have hw := works_modifyChannel channel f
    exact hw.evolves.trans (evolves_rejoin ((move_alike (k := .failure) channel same).sound hs)
      hw.get?)
  | enters command spent free enters => exact enters.evolves
  | erases unlisted erases => exact erases.evolves
  | ends ends => exact ends.evolves

theorem Strides.evolves (h : Strides s₀ cmd s t) (hs : Sound s) :
    s.exchange.Evolves t.exchange := by
  induction h with
  | refl => exact .refl _
  | tail strides stride ih => exact ih.trans (stride.evolves (Strides.sound strides hs))

/-- What each stride keeps as long as refs do not come again is kept by all of them. -/
theorem Strides.preserves {I : Socket (Recorded ω) → Prop} (h : Strides s₀ cmd s t) (hs : Sound s)
    (hb : t.exchange.drawn < 2 ^ 64) (hI : I s)
    (step : ∀ {u v}, Sound u → v.exchange.drawn < 2 ^ 64 → I u → Stride s₀ cmd u v → I v) :
    I t := by
  induction h with
  | refl => exact hI
  | tail strides stride ih =>
    have hu := Strides.sound strides hs
    exact step hu hb (ih (lt_of_le_of_lt (stride.evolves hu).drawn_le hb)) stride

/-! ### Folds -/

theorem strides_foldl {α : Type} {f : Socket (Recorded ω) → α → Socket (Recorded ω)}
    (hf : ∀ t a, Sound t → Strides s₀ cmd t (f t a)) (l : List α) (hs : Sound s) :
    Strides s₀ cmd s (l.foldl f s) := by
  induction l generalizing s with
  | nil => exact .refl
  | cons a l ih => exact (hf s a hs).trans (ih ((hf s a hs).sound hs))

omit [Obliging ω] in
/-- Registered channels change one after another; each is still registered when its turn comes. -/
theorem strides_foldl_order {f : Socket (Recorded ω) → ChannelId → Socket (Recorded ω)}
    (hf : ∀ t c, Sound t → c ∈ t.order → ∃ k : Prompt, (∀ u, Heeds s₀ cmd k c u) ∧
      Moves k c t (f t c))
    (l : List ChannelId) (hl : l.Nodup) (hsub : ∀ c ∈ l, c ∈ s.order) (hs : Sound s) :
    Strides s₀ cmd s (l.foldl f s) := by
  induction l generalizing s with
  | nil => exact .refl
  | cons c l ih =>
    obtain ⟨hnot, hl⟩ := List.nodup_cons.mp hl
    obtain ⟨k, hk, hmoves⟩ := hf s c hs (hsub c List.mem_cons_self)
    refine (hmoves.strides hk).trans (ih hl ?_ (hmoves.sound hs))
    intro d hd
    have hne : d ≠ c := fun heq => hnot (heq ▸ hd)
    exact (hmoves.frame.mem_order hne).mpr (hsub d (List.mem_cons_of_mem _ hd))

/-! ### Events for all channels -/

/-- All channels that the failure of a connection concerns are told of it. -/
theorem strides_triggerErrors (hs : Sound s) : Strides s₀ cmd s s.triggerErrors := by
  refine strides_foldl_order (fun t c ht hmem => ⟨.failure, fun _ => trivial, ?_⟩) s.order hs.nodup
    (fun _ => id) hs
  obtain ⟨ch, hc⟩ := ht.registered c hmem
  simp only [hc]
  split
  · exact (level_dispatchTo 3).moves ht hc (.inr ⟨hmem, rfl⟩)
  · exact .refl

/-- A message reaches one of the channels. -/
theorem moves_deliver (hs : Sound s) (m : Message) (hmem : c ∈ s.order) :
    Moves (.message m) c s (deliver m s c) := by
  obtain ⟨ch, hc⟩ := hs.registered c hmem
  unfold deliver
  split
  · exact (level_dispatchTo 3).moves hs hc (.inr ⟨hmem, fun _ => rfl, .inl ⟨rfl, rfl⟩⟩)
  · exact .refl

omit [Outside ω] [Obliging ω] in
theorem quiet_answerHeartbeat (s : Socket (Recorded ω)) (m : Message) :
    Quiet s (if s.answersHeartbeat m then s.acknowledgeHeartbeat else s) := by
  split
  · exact quiet_restartHeartbeat s
  · exact .refl s

theorem strides_messageReceived (hs : Sound s) {m : Message} (hm : s₀.incoming? cmd = some m) :
    Strides s₀ cmd s (s.messageReceived m) := by
  have hquiet := quiet_answerHeartbeat s m
  set s₁ := if s.answersHeartbeat m then s.acknowledgeHeartbeat else s with hs₁
  have hdeliver : Strides s₀ cmd s₁ (s₁.order.foldl (deliver m) s₁) :=
    strides_foldl_order (fun t c ht hmem => ⟨.message m, fun _ => hm, moves_deliver ht m hmem⟩)
      s₁.order
      (hs.quiet hquiet).nodup (fun _ => id) (hs.quiet hquiet)
  exact (hquiet.strides.trans hdeliver).trans (quiet_foldl (quiet_runOnMessage m) _ _).strides

/-! ### The connection -/

/-- To retire the connection lets the channels fail; without one nothing happens. -/
theorem retire_cases (s : Socket (Recorded ω)) :
    (s.conn = none ∧ s.retire = s) ∨ ∃ t, Quiet s t ∧ s.retire = t.triggerErrors := by
  cases hconn : s.conn with
  | none => exact .inl ⟨rfl, by simp only [retire, hconn]⟩
  | some conn =>
    refine .inr ⟨{ (({ s with conn := none }.detach conn.transport).perform
      (.close conn.transport none none)) with retired := s.retired ++ [conn] }, ?_, ?_⟩
    · refine Quiet.trans (t := { s with conn := none }) (.of_eq rfl rfl rfl rfl) ?_
      refine (quiet_detach _ conn.transport).trans (Quiet.trans
        (quiet_perform _ (e := .close conn.transport none none) rfl) ?_)
      exact .of_eq rfl rfl rfl rfl
    · simp only [retire, hconn]
      rfl

theorem strides_retire (hs : Sound s) : Strides s₀ cmd s s.retire := by
  rcases retire_cases s with ⟨_, heq⟩ | ⟨t, hq, heq⟩
  · rw [heq]
  · rw [heq]
    exact hq.strides.trans (strides_triggerErrors (hs.quiet hq))

theorem strides_replaceTransport (hs : Sound s) (factory : Factory) :
    Strides s₀ cmd s (s.replaceTransport factory) := by
  have hstart : Quiet s { s.tick.resetReconnect with closeWasClean := true, sendBuffer := [] } :=
    .of_eq rfl rfl rfl rfl
  have hprune := hstart.trans (quiet_pruneRetired _)
  refine (hprune.strides.trans (strides_retire (hs.quiet hprune))).tail (.quiet ?_)
  exact .of_eq rfl rfl rfl rfl

theorem strides_loseConnection (hs : Sound s) : Strides s₀ cmd s s.loseConnection := by
  have hstart : Quiet s { s with pendingHeartbeat := none } := .of_eq rfl rfl rfl rfl
  refine (hstart.strides.trans (strides_triggerErrors (hs.quiet hstart))).trans ?_
  refine (Quiet.trans ?_ (quiet_beginTeardown _ _ _ _)).strides
  exact .of_eq rfl rfl rfl rfl

omit [Outside ω] [Obliging ω] in
theorem alike_resetRejoin (ch : Channel) :
    ch.Alike { ch with rejoinTimer := ch.rejoinTimer.reset } :=
  ⟨rfl, rfl, rfl, rfl, rfl, fun hq => ⟨_, hq, .refl _⟩, id, by
    simp [BackoffTimer.reset, TimerSlot.cancel]⟩

omit [Outside ω] [Obliging ω] in
/-- A join attempt that has fired is no longer armed. -/
theorem alike_fired {generation : Nat} {timer : BackoffTimer}
    (h : ch.rejoinTimer.fire generation = some timer) : ch.Alike { ch with rejoinTimer := timer } := by
  obtain ⟨_, _, htimer⟩ := BackoffTimer.fire_eq_some_iff.mp h
  refine ⟨rfl, rfl, rfl, rfl, rfl, fun hq => ⟨_, hq, .refl _⟩, id, ?_⟩
  simp [htimer, TimerSlot.cancel]

/-- A channel that has failed joins again once a connection is open. -/
theorem strides_runOnOpen (s : Socket (Recorded ω)) (ref : Ref) :
    Strides s₀ cmd s (runOnOpen s ref) := by
  unfold runOnOpen
  split
  · exact (quiet_perform s rfl).strides
  · rename_i c _
    unfold rejoinIfErrored
    cases hc : s.channels.get? c with
    | none => exact .refl
    | some ch =>
      simp only [resetRejoin]
      split
      · rename_i hstate
        exact .single (.rejoin hc (alike_resetRejoin ch) (.inr (.inr hstate)))
      · exact (move_alike (k := .failure) hc (alike_resetRejoin ch)).strides trivial
  · exact .refl

theorem quiet_markOpen (s : Socket (Recorded ω)) : Quiet s s.markOpen := by
  have hstart : Quiet s { s with
      closeWasClean := false, established := min (s.established + 1) attemptLimit } :=
    .of_eq rfl rfl rfl rfl
  refine (hstart.trans (quiet_flush _)).trans (Quiet.trans ?_ (quiet_resetHeartbeat _))
  exact .of_eq rfl rfl rfl rfl

theorem strides_runOnOpens (hs : Sound s) (refs : List Ref) :
    Strides s₀ cmd s (refs.foldl runOnOpen s) :=
  strides_foldl (fun t ref _ => strides_runOnOpen t ref) refs hs

theorem strides_connectionOpened (hs : Sound s) : Strides s₀ cmd s s.connectionOpened :=
  have hopen := quiet_markOpen s
  hopen.strides.trans (strides_runOnOpens (hs.quiet hopen) _)

theorem strides_connectionClosed (hs : Sound s) (event : CloseEvent) :
    Strides s₀ cmd s (s.connectionClosed event) := by
  refine (strides_triggerErrors hs).trans (Quiet.strides ?_)
  have hclear : Quiet s.triggerErrors s.triggerErrors.clearHeartbeats := .of_eq rfl rfl rfl rfl
  simp only [connectionClosed]
  split
  · exact hclear.trans ((quiet_scheduleReconnect _).trans (quiet_foldl (quiet_runOnClose event) _ _))
  · exact hclear.trans (quiet_foldl (quiet_runOnClose event) _ _)

theorem strides_runOnError (failure : SocketError) (context : ErrorContext)
    (s : Socket (Recorded ω)) (ref : Ref) :
    Strides s₀ cmd s (runOnError failure (context, s) ref).2 := by
  cases hentry : s.callbacks.onError.find? ref with
  | none =>
    simp only [runOnError, hentry]
    exact .refl
  | some entry =>
    cases entry with
    | callback callback =>
      simp only [runOnError, hentry]
      exact (quiet_runError s callback failure context).strides
    | resetRejoin c =>
      simp only [runOnError, hentry, resetRejoin]
      cases hc : s.channels.get? c with
      | none =>
        refine Quiet.strides (.of_eq ?_ rfl rfl rfl)
        exact Table.modify_eq_self hc _
      | some ch => exact (move_alike (k := .failure) hc (alike_resetRejoin ch)).strides trivial

theorem strides_runOnErrors (failure : SocketError) (refs : List Ref) (context : ErrorContext)
    (s : Socket (Recorded ω)) :
    Strides s₀ cmd s (refs.foldl (runOnError failure) (context, s)).2 := by
  induction refs generalizing context s with
  | nil => exact .refl
  | cons ref refs ih =>
    rw [List.foldl_cons]
    exact (strides_runOnError failure context s ref).trans (ih _ _)

theorem strides_connectionFailed (hs : Sound s) (cause : TransportError) :
    Strides s₀ cmd s (s.connectionFailed cause) := by
  have herrors : Strides s₀ cmd s (s.callbacks.onError.refs.foldl
      (runOnError (.transport cause)) (s.errorContext, s)).2 :=
    strides_runOnErrors (.transport cause) _ _ s
  rcases hrun : s.callbacks.onError.refs.foldl (runOnError (.transport cause)) (s.errorContext, s)
    with ⟨context, s₁⟩
  rw [hrun] at herrors
  have hs₁ := herrors.sound hs
  have hfallback : Strides s₀ cmd s₁ (s₁.takeFallback context.fallback) := by
    unfold takeFallback
    split
    · rename_i factory _
      exact (strides_replaceTransport hs₁ factory).trans (quiet_connect _).strides
    · exact .refl
  have h := herrors.trans hfallback
  simp only [connectionFailed, hrun]
  split
  · exact h.trans (strides_triggerErrors (hfallback.sound hs₁))
  · exact h

theorem conn_pruneRetired {ω : Type} [Outside ω] (s : Socket ω) : s.pruneRetired.conn = s.conn := by
  have hkeep : ∀ (es : List Effect) (v : Socket ω), (v.performAll es).conn = v.conn := by
    intro es
    induction es with
    | nil => exact fun _ => rfl
    | cons e es ih => exact fun v => ih (v.perform e)
  exact hkeep _ _

/-- A command that brings a message is carried out by receiving it. -/
theorem handle_of_incoming? {ω : Type} [Outside ω] {s : Socket ω} {m : Message}
    (h : s.incoming? cmd = some m) :
    s.handle cmd = s.pruneRetired.messageReceived m := by
  unfold incoming? at h
  split at h
  · rename_i t frame
    split at h
    · rename_i conn hconn
      split at h
      · rename_i ht
        cases hdecode : conn.serializer.decode frame with
        | error cause =>
          rw [hdecode] at h
          cases h
        | ok m' =>
          rw [hdecode] at h
          cases h
          simp only [handle, transportEvent, (conn_pruneRetired s).trans hconn, ht, if_true,
            frameReceived, hdecode]
      · cases h
    · cases h
  · cases h

/-- What a transport reports; a message that is received is what the command brings. -/
theorem strides_transportEvent (hs : Sound s) (t : TransportId) (event : TransportEvent) :
    Strides s (.transport t event) s (s.transportEvent t event) := by
  have hprune := quiet_pruneRetired s
  have hconn := conn_pruneRetired s
  have hs₁ := hs.quiet hprune
  refine hprune.strides.trans ?_
  cases hget : s.conn with
  | none =>
    rw [hget] at hconn
    simp only [transportEvent, hconn]
    exact .refl
  | some conn =>
    rw [hget] at hconn
    by_cases heq : conn.transport = t
    · simp only [transportEvent, hconn, heq, if_true]
      cases event with
      | opened => exact strides_connectionOpened hs₁
      | failed cause => exact strides_connectionFailed hs₁ cause
      | received frame =>
        cases hdecode : conn.serializer.decode frame with
        | ok m =>
          simp only [frameReceived, hdecode]
          refine strides_messageReceived hs₁ ?_
          simp only [incoming?, hget, heq, if_true, hdecode, Except.toOption]
        | error cause =>
          simp only [frameReceived, hdecode]
          exact (quiet_report _ _).strides
      | closed event => exact strides_connectionClosed hs₁ event
    · simp only [transportEvent, hconn, heq, if_false]
      exact .refl

/-! ### Timers -/

omit [Obliging ω] in
theorem strides_rejoinTimeout (s : Socket (Recorded ω)) (c : ChannelId) (generation : Nat) :
    Strides s₀ cmd s (s.rejoinTimeout c generation) := by
  unfold rejoinTimeout
  split
  · exact .refl
  · rename_i timer htimer
    obtain ⟨ch, hc, hfires⟩ := Option.bind_eq_some_iff.mp htimer
    obtain ⟨harmed, _, _⟩ := BackoffTimer.fire_eq_some_iff.mp hfires
    dsimp only
    split
    · exact .single (.rejoin hc (alike_fired hfires) (.inr (.inl harmed)))
    · exact (move_alike (k := .failure) hc (alike_fired hfires)).strides trivial

theorem strides_timerEvent (hs : Sound s) (event : TimerEvent) :
    Strides s₀ (.timer event) s (s.timerEvent event) := by
  cases event with
  | heartbeatDue generation => exact (quiet_heartbeatDue s generation).strides
  | heartbeatTimeout generation =>
    simp only [timerEvent, heartbeatTimeoutDue]
    split
    · exact .refl
    · rename_i timer _
      have hstart : Quiet s { s with heartbeatTimeout := timer } := .of_eq rfl rfl rfl rfl
      split
      · exact hstart.strides.trans (strides_loseConnection (hs.quiet hstart))
      · exact hstart.strides
  | reconnect generation =>
    simp only [timerEvent]
    split
    · refine (Quiet.trans ?_ (quiet_beginTeardown _ _ _ _)).strides
      exact .of_eq rfl rfl rfl rfl
    · exact .refl
  | rejoin c generation => exact strides_rejoinTimeout s c generation
  | pushTimeout c p generation => exact .single (.expire s rfl)
  | teardown number generation => exact (quiet_teardownTimeout s number generation).strides

/-! ### Handles -/

omit [Outside ω] [Obliging ω] in
theorem enters_createChannel (s : Socket (Recorded ω)) (c : ChannelId) (topic : String)
    (params : Params) : Enters c topic s (s.createChannel c topic params) where
  channels_eq := ⟨_, _, _, rfl⟩
  order_eq := rfl
  evolves := (quiet_drawRef s).evolves.trans (quiet_drawRef s.drawRef.2).evolves
  log_eq := rfl

theorem strides_dropChannel (s : Socket (Recorded ω)) (c : ChannelId) :
    Strides s₀ cmd s (s.dropChannel c) := by
  unfold dropChannel
  split
  · cases hc : s.channels.get? c with
    | none =>
      refine Quiet.strides (.of_eq ?_ rfl rfl rfl)
      exact Table.modify_eq_self hc _
    | some ch =>
      refine (move_alike (k := .failure) hc ?_).strides trivial
      exact ⟨rfl, rfl, rfl, rfl, rfl, fun hq => ⟨_, hq, .refl _⟩, id, .inl⟩
  · rename_i hunlisted
    have hunlisted' : c ∉ s.order := by simpa using hunlisted
    unfold eraseChannel
    cases hc : s.channels.get? c with
    | none => exact .refl
    | some ch =>
      have hdiscard := quiet_discardAll { s with channels := s.channels.erase c } ch.waiters
      refine .single (.erases hunlisted' ⟨hdiscard.channels_eq, hdiscard.order_eq, hdiscard.evolves, ?_⟩)
      exact hdiscard.log_eq.trans (List.append_nil _)

theorem ends_shutdown (s : Socket (Recorded ω)) : Ends s s.shutdown := by
  have habandon : ∀ v : Socket (Recorded ω), Quiet v v.abandonConnection := by
    intro v
    unfold abandonConnection
    split
    · exact .refl v
    · rename_i conn _
      refine Quiet.trans (t := { v with conn := none }) (.of_eq rfl rfl rfl rfl) ?_
      refine (quiet_detach _ conn.transport).trans (quiet_performAll _ ?_)
      simp [Effect.concernsPush]
  have hretired : ∀ (v : Socket (Recorded ω)) (conn : Connection), Quiet v (v.abandonRetired conn) :=
    fun v conn => (quiet_detach v conn.transport).trans (quiet_perform _ rfl)
  set s₁ := { s with teardown := none }.clearHeartbeats.resetReconnect with hs₁
  have hstart : Quiet s s₁ := .of_eq rfl rfl rfl rfl
  have hquiet : Quiet s (s₁.abandonConnection.retired.foldl abandonRetired
      { s₁.abandonConnection with retired := [] }) := by
    refine (hstart.trans (habandon s₁)).trans (Quiet.trans ?_ (quiet_foldl hretired _ _))
    exact .of_eq rfl rfl rfl rfl
  exact ⟨rfl, rfl, hquiet.evolves.trans (Exchange.evolves_shut _),
    hquiet.log_eq.trans (List.append_nil _)⟩

theorem strides_applyOp (hs : Sound s) (op : ChannelOp) (hdue : Due s (.channel c op))
    (hc : s.channels.get? c = some ch) : Strides s (.channel c op) s (s.applyOp c op) := by
  cases op with
  | join timeout =>
    have hsame : ch.Alike { ch with timeout := timeout } :=
      ⟨rfl, rfl, rfl, rfl, rfl, fun hq => ⟨_, hq, .refl _⟩, id, .inl⟩
    exact .single (.rejoin (f := fun ch => { ch with timeout := timeout }) hc hsame
      (.inl ⟨timeout, rfl⟩))
  | push p event payload timeout =>
    obtain ⟨hspent, hother, hfree⟩ := hdue.push (c := c) (p := p) (by simp [Command.number?])
    exact (move_push hs hc hspent (hfree hc) hother).strides ⟨rfl, rfl, by simp⟩
  | leave p timeout =>
    obtain ⟨hspent, hother, hfree⟩ := hdue.push (c := c) (p := p) (by simp [Command.number?])
    exact .single (.leave rfl hc hspent (hfree hc) hother)
  | bind n event listener =>
    obtain ⟨hspent, hfresh⟩ := hdue.binding (c := c) (n := n) (by simp [Command.number?])
    have hmove : Move (.op (.bind n event listener)) c s
        (s.applyOp c (.bind n event listener)) :=
      .alter hc (.listen rfl hspent (hfresh hc)) (works_modifyChannel hc _)
    exact hmove.strides ⟨rfl, rfl, by simp⟩
  | unbind event number =>
    have hmove : Move (.op (.unbind event number)) c s (s.applyOp c (.unbind event number)) :=
      .alter hc (.unbind rfl) (works_modifyChannel hc _)
    exact hmove.strides ⟨rfl, rfl, by simp⟩
  | setHook hook =>
    have hmove : Move (.op (.setHook hook)) c s (s.applyOp c (.setHook hook)) :=
      .alter hc (.hooked rfl) (works_modifyChannel hc _)
    exact hmove.strides ⟨rfl, rfl, by simp⟩
  | receive p status callback =>
    exact (move_receive (k := .failure) s c p status callback).strides trivial
  | awaitReply p ticket => exact (move_awaitReply (k := .failure) s c p ticket).strides trivial
  | release p => exact (moves_release (k := .failure) s c p).strides fun _ => trivial
  | askState ticket => exact (quiet_tell s c ticket fun _ => rfl).strides
  | askJoinRef ticket => exact (quiet_tell s c ticket fun _ => rfl).strides
  | askRejoinTries ticket => exact (quiet_tell s c ticket fun _ => rfl).strides

theorem strides_channelOp (hs : Sound s) (op : ChannelOp) (hdue : Due s (.channel c op)) :
    Strides s (.channel c op) s (s.channelOp c op) := by
  unfold channelOp
  split
  · rename_i hcontains
    obtain ⟨ch, hc⟩ := (Table.contains_iff _ _).mp hcontains
    exact strides_applyOp hs op hdue hc
  · split
    · exact (quiet_perform s rfl).strides
    · exact .refl

/-- Every command is carried out in strides. -/
theorem strides_handle (hs : Sound s) (cmd : Command) (hdue : Due s cmd) :
    Strides s cmd s (s.handle cmd) := by
  cases cmd with
  | connect => exact (quiet_connect s).strides
  | disconnect code reason done => exact (quiet_disconnect s code reason _).strides
  | replaceTransport factory => exact strides_replaceTransport hs factory
  | pause => exact (quiet_pause s).strides
  | resume => exact (quiet_resume s).strides
  | register occasion ref callback => exact Quiet.strides (.of_eq rfl rfl rfl rfl)
  | off refs => exact (quiet_off s refs).strides
  | ping ticket => exact (quiet_ping s ticket).strides
  | askReadyState ticket => exact (quiet_perform s rfl).strides
  | askReconnectTries ticket => exact (quiet_perform s rfl).strides
  | askEstablished ticket => exact (quiet_perform s rfl).strides
  | createChannel c topic params =>
    obtain ⟨hspent, hfree⟩ := hdue.channel (c := c) (by simp [Command.number?])
    exact .single (.enters rfl hspent hfree (enters_createChannel s c topic params))
  | channel c op => exact strides_channelOp hs op hdue
  | dropChannel c => exact strides_dropChannel s c
  | transport t event => exact strides_transportEvent hs t event
  | timer event => exact strides_timerEvent hs event
  | shutdown => exact .single (.ends (ends_shutdown s))

end Outside

end Socket

end Switchboard
