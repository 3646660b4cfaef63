import Switchboard.Proofs.Dormant
import Switchboard.Proofs.Teardowns

/-!
# Joined channels

A channel counts as joined from the reply to its join on, until it fails, closes or joins again.  The
reply comes over a connection, and where the connection is lost or replaced its channels fail.  Only a
teardown that ends before its transport has told of the close gives a connection up without a word to
the channels.

Main definitions

* `Message.Welcomes`: a message says that the join with a ref is accepted;
* `Socket.JoinedUnder`: a registered channel is joined, and this is the ref of its join;
* `Socket.Settling`: a teardown ends after the channels of its connection have failed;
* `Socket.LetIn`, `Socket.JoinedOver`: a channel is let in over a connection, and stays joined.

Main results

* `Socket.Rough.joined`: a channel becomes joined by an answer to its join, and keeps the ref;
* `Socket.Strides.lets_in`: a channel becomes joined by a message that a command brings;
* `Socket.not_joined_triggerErrors`: after a failure no registered channel is joined;
* `Socket.joined_over_live_connection`: a joined channel was let in over the present connection.
-/

set_option autoImplicit false

namespace Switchboard

/-- A message says that the join with a ref is accepted. -/
def Message.Welcomes (m : Message) (r : Ref) : Prop :=
  (m.event = Event.replyTo r ∨ m.event = Event.reply ∧ m.ref = some r) ∧
    ∃ reply, m.payload.reply? = some reply ∧ reply.status = Status.ok

/-- A prompt says that the join with a ref is accepted. -/
def Prompt.Welcomes (k : Prompt) (r : Ref) : Prop :=
  match k with
  | .message m => m.Welcomes r
  | .reply r' payload => r' = r ∧ ∃ reply, payload.reply? = some reply ∧ reply.status = Status.ok
  | .op _ | .failure => False

namespace Channel

/-- A channel is joined, and this is the ref of its join. -/
def JoinedUnder (ch : Channel) (r : Ref) : Prop := ch.state = .joined ∧ ch.joinRef = some r

variable {x : Exchange} {c : ChannelId} {ch ch' ch'' : Channel}

theorem KeepsJoin.trans (h : ch.KeepsJoin ch') (h' : ch'.KeepsJoin ch'') : ch.KeepsJoin ch'' := by
  intro q'' hq''
  obtain ⟨q', hq', href', htimer'⟩ := h' hq''
  obtain ⟨q, hq, href, htimer⟩ := h hq'
  exact ⟨q, hq, href'.trans href, htimer'.trans htimer⟩

/-- A join push that waits under the ref that it had leaves the ref of the join as it is. -/
theorem KeepsJoin.joinRef (h : ch.KeepsJoin ch') (hs : ch'.Sound x c) : ch'.joinRef = ch.joinRef := by
  obtain ⟨q', hq', _⟩ := hs.join
  obtain ⟨q, hq, href, _⟩ := h hq'
  simp only [Channel.joinRef, hq, hq', Option.bind_some, href]

/-- A push that keeps its ref leaves the ref of the join as it is. -/
theorem joinRef_set {p : PushId} {q q' : Push} (hq : ch.pushes.get? p = some q)
    (href : q'.ref = q.ref) :
    ({ ch with pushes := ch.pushes.set p q' } : Channel).joinRef = ch.joinRef := by
  simp only [joinRef, Table.get?_set]
  split
  · rename_i heq
    rw [heq, hq, Option.bind_some, Option.bind_some, href]
  · rfl

theorem joinRef_settle {q : Push} (timer : TimerSlot) (reply : Reply) :
    (ch.settle joinPush q timer reply).joinRef = q.ref := by
  rw [Channel.joinRef, Channel.settle_pushes, Table.get?_set_self]
  rfl

end Channel

theorem Prompt.Answers.ref {k : Prompt} {registered : Prop} {ch : Channel} {q : Push}
    {reply : Reply} (h : k.Answers registered ch q reply) : ∃ r, q.ref = some r := by
  cases k with
  | op op => exact h.elim
  | failure => exact h.elim
  | message m =>
    obtain ⟨_, _, r, hr, _⟩ := h
    exact ⟨r, hr⟩
  | reply r payload => exact ⟨r, h.1⟩

/-- Where no hook interferes, what answers a join with the status `ok` says that it is accepted. -/
theorem Prompt.Answers.welcomes {k : Prompt} {registered : Prop} {ch : Channel} {q : Push}
    {reply : Reply} {r : Ref} (h : k.Answers registered ch q reply) (hhook : ch.hook = none)
    (hr : q.ref = some r) (hstatus : reply.status = Status.ok) : k.Welcomes r := by
  cases k with
  | op op => exact h
  | failure => exact h
  | message m =>
    obtain ⟨_, hreply, r', hr', hevent⟩ := h
    rw [hr] at hr'
    cases hr'
    exact ⟨hevent, reply, hreply hhook, hstatus⟩
  | reply r' payload =>
    obtain ⟨hr', hreply⟩ := h
    rw [hr] at hr'
    cases hr'
    exact ⟨rfl, reply, hreply hhook, hstatus⟩

namespace Socket

variable {ω : Type} {s t u : Socket (Recorded ω)} {k : Prompt} {c d : ChannelId}
variable {ch ch' : Channel} {p : PushId} {q : Push} {es : List Effect} {r : Ref}
variable {s₀ : Socket (Recorded ω)} {cmd : Command} {names : String → Prop}

/-! ### How channels become joined -/

/-- A registered channel is joined, and this is the ref of its join. -/
def JoinedUnder (c : ChannelId) (r : Ref) (s : Socket (Recorded ω)) : Prop :=
  c ∈ s.order ∧ ∃ ch, s.channels.get? c = some ch ∧ ch.JoinedUnder r

theorem JoinedUnder.of_frame (h : JoinedUnder c r t) (f : Framed d s t) (hne : c ≠ d) :
    JoinedUnder c r s := by
  obtain ⟨hmem, ch, hc, hch⟩ := h
  exact ⟨f.of_mem_order hmem, ch, f.others hne ▸ hc, hch⟩

theorem JoinedUnder.of_quiet (h : JoinedUnder c r t) (hq : Quiet s t) : JoinedUnder c r s := by
  obtain ⟨hmem, ch, hc, hch⟩ := h
  exact ⟨hq.order_eq ▸ hmem, ch, hq.get? c ▸ hc, hch⟩

/-- The changes that leave the registry alone let no channel in. -/
theorem Alter.joined {registered : Prop} {x y : Exchange} (h : Alter k x y registered c ch ch' es)
    (hs : ch'.Sound y c) (hstate : ch'.state = .joined) :
    ch.state = .joined ∧ ch'.joinRef = ch.joinRef := by
  have same : ch'.state = ch.state → ch.KeepsJoin ch' → ch.state = .joined ∧ ch'.joinRef = ch.joinRef :=
    fun hsame hkeeps => ⟨hsame ▸ hstate, hkeeps.joinRef hs⟩
  cases h with
  | alike same' notes => exact same same'.state same'.keepsJoin
  | hooked op => exact same rfl (.of_get? rfl)
  | listen op spent fresh => exact same rfl (.of_get? rfl)
  | unbind op => exact same rfl (.of_get? rfl)
  | enlist op free spent other starts waits accepts =>
    exact same starts.state_eq (starts.keepsJoin_insert other)
  | settle other push awaits unarmed answers =>
    refine same (Channel.dropBindings?_state _) (.of_get? ?_)
    rw [Channel.settle_pushes, Table.get?_set_of_ne _ other.symm]
  | forget other push received =>
    refine same (Channel.dropBindings?_state _) (.of_get? ?_)
    rw [Channel.forget_pushes, Table.get?_erase_of_ne _ other.symm]
  | unheard push awaits unarmed answers status =>
    refine ⟨by simpa [Channel.settle] using hstate, ?_⟩
    rw [Channel.joinRef_settle, Channel.joinRef, push]
    rfl
  | refused push awaits unarmed answers => cases hstate
  | abandoned push awaits unarmed answers fresh free spent other starts push' =>
    rw [Channel.takeBack_state] at hstate
    cases hstate
  | failed listed push => cases hstate

/-- A channel was joined under its ref before, or a prompt answers its join with the status `ok`. -/
theorem Rough.joined (h : Rough k c s t) (hs : Sound s) (hc : t.channels.get? c = some ch')
    (hstate : ch'.state = .joined) :
    ∃ ch, s.channels.get? c = some ch ∧ (ch.state = .joined ∧ ch'.joinRef = ch.joinRef ∨
      ∃ q reply, k.Answers (c ∈ s.order) ch q reply ∧ reply.status = Status.ok ∧
        ch'.joinRef = q.ref) := by
  have hch' := (h.sound hs).channels hc
  cases h with
  | move move =>
    cases move with
    | quiet quiet => exact ⟨ch', quiet.get? c ▸ hc, .inl ⟨hstate, rfl⟩⟩
    | @alter _ ch _ es channel alter works =>
      rw [works.get?] at hc
      cases hc
      exact ⟨ch, channel, .inl (alter.joined hch' hstate)⟩
    | @accepted u v ch q timer reply channel push awaits unarmed answers status works flush =>
      have hst := hs.accept channel push works
      have hwaits := (hs.channels channel).buffered
      obtain ⟨ch₁, hc₁, hkeeps⟩ := flush.channel hst (Φ := fun ch₁ =>
          (ch.settle joinPush q timer reply).KeepsJoin ch₁)
        (fun {_ _ _ _ _} _ hp _ _ hstarts hkeeps =>
          Channel.KeepsJoin.trans hkeeps (hstarts.keepsJoin (hwaits _ hp)))
        works.get? (.of_get? rfl)
      rw [hc₁] at hc
      cases hc
      refine ⟨ch, channel, .inr ⟨q, reply, answers, status, ?_⟩⟩
      rw [hkeeps.joinRef hch', Channel.joinRef_settle]
    | @closed _ ch channel closes =>
      rw [closes.get?_self] at hc
      split at hc
      · cases hc
      · cases hc
        cases hstate
  | @lapse ch p q channel push works =>
    rw [works.get?] at hc
    cases hc
    exact ⟨ch, channel, .inl ⟨hstate, Channel.joinRef_set push rfl⟩⟩
  | departs channel push free spent other starts works accepts =>
    rw [works.get?] at hc
    cases hc
    have hleaving := starts.state_eq.symm.trans hstate
    cases hleaving
  | joins channel push stays starts works =>
    rw [works.get?] at hc
    cases hc
    have hjoining := starts.state_eq.symm.trans hstate
    rw [Channel.takeBack_state] at hjoining
    cases hjoining

/-- A joined channel has the ref of its join. -/
theorem everywhere_joinRef :
    Everywhere (ω := ω) fun ch => ch.state = .joined → ∃ r, ch.joinRef = some r where
  fresh topic params timeout refs hstate := by cases hstate
  rough h hs hP hc hstate := by
    obtain ⟨ch, hch, ⟨hjoined, href⟩ | ⟨q, reply, answers, _, href⟩⟩ := h.joined hs hc hstate
    · exact href ▸ hP hch hjoined
    · exact href ▸ answers.ref

/-- A channel was joined before, or a prompt says that its join is accepted. -/
theorem Rough.lets_in (h : Rough k d s t) (hs : Sound s) (hi : Intact names s)
    (ht : JoinedUnder c r t) : JoinedUnder c r s ∨ c = d ∧ k.Welcomes r := by
  by_cases hne : c ≠ d
  · exact .inl (ht.of_frame h.frame hne)
  obtain rfl : c = d := not_not.mp hne
  obtain ⟨hmem, ch', hc', hstate, hr⟩ := ht
  obtain ⟨ch, hc, ⟨hjoined, href⟩ | ⟨q, reply, answers, status, href⟩⟩ := h.joined hs hc' hstate
  · exact .inl ⟨h.frame.of_mem_order hmem, ch, hc, hjoined, href ▸ hr⟩
  · exact .inr ⟨rfl, answers.welcomes (hi hc).unhooked (href ▸ hr) status⟩

theorem Roughly.lets_in (h : Roughly k d s t) (hk : k.Spares names) (hs : Sound s)
    (hi : Intact names s) (ht : JoinedUnder c r t) :
    JoinedUnder c r s ∨ c = d ∧ k.Welcomes r := by
  induction h with
  | refl => exact .inl ht
  | tail roughly rough ih =>
    rcases rough.lets_in (Roughly.sound roughly hs) (Roughly.intact roughly hk hs hi) ht with ht | hk
    · exact ih ht
    · exact .inr hk

section Outside

variable [Outside ω] [Obliging ω]

/-! ### Strides -/

theorem JoinedUnder.of_leave {timeout : Nat} {detached : Bool}
    (h : JoinedUnder c r (s.leave d p timeout detached)) (hs : Sound s)
    (hi : Intact Event.IsReserved s) (hd : s.channels.get? d = some ch)
    (hspent : s.exchange.Spent (.pushes d) p) (hfree : ch.pushes.get? p = none)
    (hother : p ≠ joinPush) (hb : (s.leave d p timeout detached).exchange.drawn < 2 ^ 64) :
    JoinedUnder c r s := by
  have hne : c ≠ d := by
    rintro rfl
    exact (gone_leave hs hi hd hspent hfree hother timeout detached hb).1 h.1
  exact h.of_frame (frame_leave hs hd hspent hfree hother timeout detached) hne

theorem JoinedUnder.of_leaveOpenTopic {topic : String}
    (h : JoinedUnder c r (s.leaveOpenTopic topic d)) (hs : Sound s)
    (hi : Intact Event.IsReserved s)
    (hb : (s.leaveOpenTopic topic d).exchange.drawn < 2 ^ 64) : JoinedUnder c r s := by
  rcases leaveOpenTopic_cases hs topic d with ⟨_, heq⟩ |
    ⟨e, ch, p, t, _, _, _, hch, _, _, hquiet, _, hspent, hfree, hother, heq⟩
  · rw [heq] at h
    exact h
  · rw [heq] at h hb
    exact (h.of_leave (hs.quiet hquiet) (hi.turns hquiet) (hquiet.get? e ▸ hch) hspent hfree hother
      hb).of_quiet hquiet

/-- A channel that joins again is not joined yet. -/
theorem JoinedUnder.of_rejoin (h : JoinedUnder c r (s.rejoin d)) (hs : Sound s)
    (hi : Intact Event.IsReserved s) (hd : s.channels.get? d = some ch)
    (hb : (s.rejoin d).exchange.drawn < 2 ^ 64) : JoinedUnder c r s := by
  rcases rejoin_cases hs hd with ⟨_, heq⟩ | ⟨hstays, hget, heq⟩
  · rw [heq] at h
    exact h
  · have hs₁ := sound_leaveOpenTopic hs ch.topic d
    have hi₁ := intact_leaveOpenTopic hs hi ch.topic d
    have hrough := rough_attempt (k := .failure) hs₁ hget hstays
    rw [heq] at h hb
    rcases hrough.lets_in hs₁ hi₁ h with h | ⟨_, hk⟩
    · exact h.of_leaveOpenTopic hs hi (lt_of_le_of_lt hrough.frame.evolves.drawn_le hb)
    · exact hk.elim

/-- A channel was joined before, or the command brings a message that says that its join is accepted. -/
theorem Stride.lets_in (h : Stride s₀ cmd s t) (hs : Sound s) (hi : Intact Event.IsReserved s)
    (hb : t.exchange.drawn < 2 ^ 64) (ht : JoinedUnder c r t) :
    JoinedUnder c r s ∨ ∃ m, s₀.incoming? cmd = some m ∧ m.Welcomes r := by
  cases h with
  | quiet quiet => exact .inl (ht.of_quiet quiet)
  | @move _ _ k d heeds move =>
    rcases (Rough.move move).lets_in hs hi ht with ht | ⟨_, hk⟩
    · exact .inl ht
    · cases k with
      | message m => exact .inr ⟨m, heeds, hk⟩
      | op op => exact hk.elim
      | failure => exact hk.elim
      | reply r' payload => exact heeds.elim
  | @expire _ d p generation command =>
    rcases roughly_pushTimeout hs d p generation with heq | ⟨_, _, k, _, _, _, hk, hrough⟩
    · rw [heq] at ht
      exact .inl ht
    · rcases hk with rfl | ⟨r', _, rfl⟩
      · exact .inl ((hrough.lets_in trivial hs hi ht).resolve_right fun h => h.2)
      · refine .inl ((hrough.lets_in trivial hs hi ht).resolve_right ?_)
        -- The time that is over is no acceptance.
        rintro ⟨_, _, reply, hreply, hstatus⟩
        cases hreply
        exact absurd hstatus (by decide)
  | @leave d ch p timeout command channel spent free other =>
    exact .inl (ht.of_leave hs hi channel spent free other hb)
  | @rejoin _ d ch f channel same cause =>
    have hmove : Move .failure d s (s.modifyChannel d f) := move_alike channel same
    have ht₁ := ht.of_rejoin (hmove.sound hs) (hmove.intact trivial hs hi)
      (works_modifyChannel channel f).get? hb
    exact .inl (((Rough.move hmove).lets_in hs hi ht₁).resolve_right fun h => h.2)
  | @enters _ _ d topic params command spent free enters =>
    obtain ⟨hmem, ch, hc, hch⟩ := ht
    rcases enters.get? c hc with hold | ⟨_, params, timeout, refs, rfl⟩
    · rw [enters.order_eq, List.mem_append, List.mem_singleton] at hmem
      rcases hmem with hmem | rfl
      · exact .inl ⟨hmem, ch, hold, hch⟩
      · rw [free] at hold
        cases hold
    · cases hch.1
  | erases unlisted erases =>
    obtain ⟨hmem, ch, hc, hch⟩ := ht
    exact .inl ⟨erases.order_eq ▸ hmem, ch, (erases.get? hc).2, hch⟩
  | ends ends =>
    have hmem := ht.1
    rw [ends.order_eq] at hmem
    cases hmem

theorem Strides.lets_in (h : Strides s₀ cmd s t) (hcmd : cmd.Spares Event.IsReserved) (hs : Sound s)
    (hi : Intact Event.IsReserved s) (hb : t.exchange.drawn < 2 ^ 64) (ht : JoinedUnder c r t) :
    JoinedUnder c r s ∨ ∃ m, s₀.incoming? cmd = some m ∧ m.Welcomes r := by
  induction h with
  | refl => exact .inl ht
  | tail strides stride ih =>
    have hu := Strides.sound strides hs
    rcases stride.lets_in hu (Strides.intact strides hcmd hs hi) hb ht with ht | hm
    · exact ih (lt_of_le_of_lt (stride.evolves hu).drawn_le hb) ht
    · exact .inr hm

/-! ### After a failure -/

omit [Obliging ω] in
theorem state_failChannel (hc : (s.failChannel c).channels.get? c = some ch) :
    ch.state = .errored := by
  unfold failChannel at hc
  split at hc
  · rename_i hnone
    rw [hnone] at hc
    cases hc
  · rename_i ch₀ hc₀
    dsimp only at hc
    set v := (if ch₀.state = .joining then s.resetPush c joinPush else s).markErrored c with hv
    cases hcv : v.channels.get? c with
    | none =>
      have hsame : v.scheduleRejoinIfConnected c = v := by
        simp only [scheduleRejoinIfConnected, scheduleRejoin, hcv, ite_self]
      rw [hsame, hcv] at hc
      cases hc
    | some ch₁ =>
      have hstate : ch₁.state = .errored := by
        rw [hv, markErrored, modifyChannel, Table.get?_modify_self] at hcv
        obtain ⟨_, _, rfl⟩ := Option.map_eq_some_iff.mp hcv
        rfl
      obtain ⟨ch', ha, _, hw⟩ := works_scheduleRejoinIfConnected hcv hstate
      rw [hw.get?] at hc
      cases hc
      exact ha.state.trans hstate

/-- A channel that keeps its own bindings has failed once it was told of a failure. -/
theorem state_triggerError (hs : Sound s) (hi : Intact Event.IsReserved s) (hmem : c ∈ s.order)
    (hc : (s.triggerError c).channels.get? c = some ch) : ch.state = .errored := by
  obtain ⟨ch₀, hc₀⟩ := hs.registered c hmem
  have hch := hs.channels hc₀
  have hown : ⟨Event.error, 1, .error⟩ ∈ ch₀.bindings :=
    (hi hc₀).owns _ (by simp [Channel.ownBindings]) (.inl ⟨"error", rfl⟩)
  have hvoices : Prompt.Voices .failure (c ∈ s.order) (ch₀.hook ≠ none) Event.error .absent none :=
    .inr ⟨hmem, rfl⟩
  rcases dispatchWith_target (level_dispatchTo 2) hs hc₀ none hvoices with
    ⟨_, hguard⟩ | ⟨t, b, payload', joinRef', ht, hb, hevent, hnot, _, _, hrest⟩
  · have hinert := hguard.resolve_left (not_not.mpr (hi hc₀).unhooked) _ hown rfl
    rcases hinert with ⟨l, hl⟩ | ⟨p, hp, _⟩
    · cases hl
    · cases hp
  · obtain rfl := hch.eq_error hb hevent fun hl => hnot (.inl hl)
    exact state_failChannel (hrest.get? c ▸ hc)

/-- One channel is told of a failure if that concerns it. -/
def tellFailure (s : Socket (Recorded ω)) (c : ChannelId) : Socket (Recorded ω) :=
  match s.channels.get? c with
  | some ch => if ch.acceptsError then s.triggerError c else s
  | none => s

omit [Obliging ω] in
theorem triggerErrors_eq (s : Socket (Recorded ω)) :
    s.triggerErrors = s.order.foldl tellFailure s :=
  rfl

theorem moves_tellFailure (hs : Sound s) (hmem : c ∈ s.order) :
    Moves .failure c s (s.tellFailure c) := by
  obtain ⟨ch, hc⟩ := hs.registered c hmem
  simp only [tellFailure, hc]
  split
  · exact (level_dispatchTo 3).moves hs hc (.inr ⟨hmem, rfl⟩)
  · exact .refl

theorem not_joined_tellFailure (hs : Sound s) (hi : Intact Event.IsReserved s) (hmem : c ∈ s.order) :
    ¬ JoinedUnder c r (s.tellFailure c) := by
  rintro ⟨_, ch', hc', hstate, _⟩
  obtain ⟨ch, hc⟩ := hs.registered c hmem
  simp only [tellFailure, hc] at hc'
  split at hc'
  · rw [state_triggerError hs hi hmem hc'] at hstate
    cases hstate
  · rename_i hnot
    rw [hc] at hc'
    cases hc'
    simp [Channel.acceptsError, hstate] at hnot

/-- Channels are told in turn, and nothing lets one in again afterwards. -/
theorem joined_foldl_tellFailure {l : List ChannelId} (hl : l.Nodup) (hsub : ∀ d ∈ l, d ∈ s.order)
    (hs : Sound s) (hi : Intact Event.IsReserved s) (h : JoinedUnder c r (l.foldl tellFailure s)) :
    JoinedUnder c r s ∧ c ∉ l := by
  induction l generalizing s with
  | nil => exact ⟨h, List.not_mem_nil⟩
  | cons d l ih =>
    obtain ⟨hnot, hl⟩ := List.nodup_cons.mp hl
    have hd := hsub d List.mem_cons_self
    have hm := moves_tellFailure hs hd
    have hrest : ∀ e ∈ l, e ∈ (s.tellFailure d).order := fun e he =>
      (hm.frame.mem_order fun heq => hnot (heq ▸ he)).mpr (hsub e (List.mem_cons_of_mem _ he))
    obtain ⟨h₁, hnot₁⟩ := ih hl hrest (hm.sound hs) (hm.intact trivial hs hi) h
    have hne : c ≠ d := by
      rintro rfl
      exact not_joined_tellFailure hs hi hd h₁
    exact ⟨h₁.of_frame hm.frame hne, by simp [hne, hnot₁]⟩

/-- Once all channels were told of a failure, no registered one is joined. -/
theorem not_joined_triggerErrors (hs : Sound s) (hi : Intact Event.IsReserved s) :
    ¬ JoinedUnder c r s.triggerErrors := by
  intro h
  rw [triggerErrors_eq] at h
  obtain ⟨h₁, hnot⟩ := joined_foldl_tellFailure hs.nodup (fun _ => id) hs hi h
  exact hnot h₁.1

/-! ### The connection -/

omit [Outside ω] [Obliging ω] in
theorem Continues.cause {after : Continuation} (h : Continues s cmd after) :
    s.conn = none ∨ ∃ number generation, cmd = .timer (.teardown number generation) := by
  cases h with
  | vacant seeks vacant => exact .inl vacant
  | elapsed inFlight => exact .inr ⟨_, _, rfl⟩

omit [Obliging ω] in
/-- A connection stays unless the socket ends, its transport is replaced, or a teardown is over. -/
theorem conn_handle {conn : Connection} (hconn : s.conn = some conn) (hshutdown : cmd ≠ .shutdown)
    (hreplaces : ¬ Replaces s cmd)
    (hteardown : ∀ number generation, cmd ≠ .timer (.teardown number generation)) :
    (s.handle cmd).conn = some conn := by
  refine (shifts_handle s cmd).keeps (I := fun l => l.conn = some conn) hconn ?_
  intro l l' shift hl
  cases shift with
  | beats | prunes | opens | schedules | fires | turns | pauses | resumes | loses | begins | looks
  | closes | readies | replaces | drops => exact hl
  | finishes inFlight continues =>
    rcases continues.cause with vacant | ⟨number, generation, heq⟩
    · rw [hconn] at vacant
      cases vacant
    · exact absurd heq (hteardown number generation)
  | connects summons vacant =>
    rw [hl] at vacant
    cases vacant
  | retires replaces => exact absurd replaces hreplaces
  | ends command => exact absurd command hshutdown

theorem not_joined_replaceTransport (hs : Sound s) (hi : Intact Event.IsReserved s)
    (hconn : s.conn ≠ none) (factory : Factory) : ¬ JoinedUnder c r (s.replaceTransport factory) := by
  set s₁ : Socket (Recorded ω) := { s.tick.resetReconnect with
    closeWasClean := true, sendBuffer := [] } with hs₁
  have hstart : Quiet s s₁ := .of_eq rfl rfl rfl rfl
  have hprune := hstart.trans (quiet_pruneRetired s₁)
  have hconn₁ : s₁.pruneRetired.conn = s.conn := conn_pruneRetired s₁
  rcases retire_cases s₁.pruneRetired with ⟨hnone, _⟩ | ⟨t, hq, heq⟩
  · exact absurd (hconn₁.symm.trans hnone) hconn
  · have hquiet := hprune.trans hq
    intro h
    have hretired : JoinedUnder c r s₁.pruneRetired.retire := h
    rw [heq] at hretired
    exact not_joined_triggerErrors (hs.quiet hquiet) (hi.turns hquiet) hretired

/-- Where callbacks fall back to another transport, no channel is joined any more. -/
theorem not_joined_of_fallback {t : TransportId} {cause : TransportError} {factory : Factory}
    (h : s.fallback? (.transport t (.failed cause)) = some factory) (hs : Sound s)
    (hi : Intact Event.IsReserved s) :
    ¬ JoinedUnder c r (s.handle (.transport t (.failed cause))) := by
  have hprune := quiet_pruneRetired s
  have hs₀ := hs.quiet hprune
  have hconn₀ := conn_pruneRetired s
  set s₀ := s.pruneRetired with hs₀eq
  cases hconn : s.conn with
  | none => simp [fallback?, hconn] at h
  | some conn =>
    by_cases ht : conn.transport = t
    · simp only [fallback?, choice?, hconn, ht, if_true, ← hs₀eq] at h
      have hhandle : s.handle (.transport t (.failed cause)) = s₀.connectionFailed cause := by
        simp only [handle, transportEvent, ← hs₀eq, hconn₀, hconn, ht, if_true]
      have hruns : Strides s₀ .connect s₀ (s₀.callbacks.onError.refs.foldl
          (runOnError (.transport cause)) (s₀.errorContext, s₀)).2 :=
        strides_runOnErrors (.transport cause) _ _ s₀
      have hlink := link_runOnErrors (.transport cause) s₀.callbacks.onError.refs s₀.errorContext s₀
      rw [hhandle]
      unfold connectionFailed
      rcases hrun : s₀.callbacks.onError.refs.foldl (runOnError (.transport cause))
        (s₀.errorContext, s₀) with ⟨context, s₁⟩
      rw [hrun] at h hruns hlink
      dsimp only at h hruns hlink
      simp only [h, takeFallback]
      have hs₁ := hruns.sound hs₀
      have hi₁ := hruns.intact trivial hs₀ (hi.turns hprune)
      have hconn₁ : s₁.conn ≠ none := by
        rw [show s₁.conn = s₀.conn from congrArg Link.conn hlink, hconn₀, hconn]
        exact Option.some_ne_none conn
      have hreplaced : Strides s₀ .connect s₁ (s₁.replaceTransport factory).connect :=
        (strides_replaceTransport hs₁ factory).trans (quiet_connect _).strides
      split
      · exact not_joined_triggerErrors (hreplaced.sound hs₁) (hreplaced.intact trivial hs₁ hi₁)
      · exact fun hjoined => not_joined_replaceTransport hs₁ hi₁ hconn₁ factory
          (hjoined.of_quiet (quiet_connect _))
    · simp [fallback?, hconn, ht] at h

/-- Where the transport of a connection is replaced, no channel is joined any more. -/
theorem not_joined_of_replaces (h : Replaces s cmd) (hs : Sound s) (hi : Intact Event.IsReserved s)
    (hconn : s.conn ≠ none) : ¬ JoinedUnder c r (s.handle cmd) := by
  rcases h with ⟨factory, rfl⟩ | ⟨factory, hchosen⟩
  · exact not_joined_replaceTransport hs hi hconn factory
  · cases cmd with
    | transport t event =>
      cases event with
      | failed cause => exact not_joined_of_fallback hchosen hs hi
      | _ => cases hchosen
    | _ => cases hchosen

omit [Outside ω] [Obliging ω] in
theorem not_joined_of_ends (h : Ends s t) : ¬ JoinedUnder c r t := by
  intro ht
  have hmem := ht.1
  rw [h.order_eq] at hmem
  cases hmem

/-! ### Runs -/

/-- Users install no hook and remove no binding of a channel's own, and a teardown gives its connection
up only once no channel is joined. -/
structure Settling (s : Socket (Recorded ω)) (cmd : Command) : Prop where
  spares : cmd.Spares Event.IsReserved
  settles : ∀ number generation, cmd = .timer (.teardown number generation) →
    (s.handle cmd).conn = s.conn ∨ ∀ c r, ¬ JoinedUnder c r s

/-- A socket takes a frame of its connection, the message that a join is accepted, where the channel
was not joined under that ref. -/
inductive LetIn (c : ChannelId) (r : Ref) (conn : Connection) :
    Socket (Recorded ω) → Socket (Recorded ω) → Prop
  | mk {s : Socket (Recorded ω)} {x : Exchange} {frame : Switchboard.Frame}
    {m : Message}
    (before : ¬ JoinedUnder c r s) (live : s.conn = some conn)
    (next : s.exchange.next? = some (.transport conn.transport (.received frame), x))
    (decodes : conn.serializer.decode frame = .ok m) (welcomes : m.Welcomes r) :
    LetIn c r conn s ({ s with exchange := x }.handle (.transport conn.transport (.received frame)))

/-- A command is taken while a channel is joined under a ref over a connection. -/
structure Lasting (admits : Socket (Recorded ω) → Command → Prop) (c : ChannelId) (r : Ref)
    (conn : Connection) (s : Socket (Recorded ω)) (cmd : Command) : Prop where
  admitted : admits s cmd
  live : s.conn = some conn
  joined : JoinedUnder c r s

/-- A channel was let in over a connection, and has been joined over it since. -/
def JoinedOver (admits : Socket (Recorded ω) → Command → Prop) (c : ChannelId) (r : Ref)
    (conn : Connection) (s : Socket (Recorded ω)) : Prop :=
  ∃ u v, Reachable admits u ∧ LetIn c r conn u v ∧ Run (Lasting admits c r conn) v s

omit [Outside ω] [Obliging ω] in
theorem incoming?_eq_some {m : Message} (h : s.incoming? cmd = some m) :
    ∃ conn frame, s.conn = some conn ∧ cmd = .transport conn.transport (.received frame) ∧
      conn.serializer.decode frame = .ok m := by
  unfold incoming? at h
  split at h
  · rename_i frame
    split at h
    · rename_i conn hconn
      split at h
      · rename_i heq
        subst heq
        cases hdecode : conn.serializer.decode frame with
        | error e =>
          rw [hdecode] at h
          cases h
        | ok m' =>
          rw [hdecode] at h
          cases h
          exact ⟨conn, frame, hconn, rfl, hdecode⟩
      · cases h
    · cases h
  · cases h

/-- A connection over which a channel is still joined after a command is the one that it was. -/
theorem conn_of_joined {conn : Connection} (hadmits : Settling s cmd) (hs : Sound s)
    (hi : Intact Event.IsReserved s) (hconn : s.conn = some conn) (before : JoinedUnder c r s)
    (after : JoinedUnder c r (s.handle cmd)) : (s.handle cmd).conn = some conn := by
  by_cases hteardown : ∃ number generation, cmd = .timer (.teardown number generation)
  · obtain ⟨number, generation, heq⟩ := hteardown
    rcases hadmits.settles number generation heq with hsame | hnone
    · exact hsame.trans hconn
    · exact absurd before (hnone c r)
  · refine conn_handle hconn ?_ ?_ fun number generation heq => hteardown ⟨number, generation, heq⟩
    · rintro rfl
      exact not_joined_of_ends (ends_shutdown s) after
    · intro hreplaces
      exact not_joined_of_replaces hreplaces hs hi (hconn ▸ Option.some_ne_none conn) after

omit [Obliging ω] in
/-- A command by which a channel becomes joined is a frame of the connection, which stays. -/
theorem letIn_of_incoming {m : Message} {x : Exchange}
    (next : s.exchange.next? = some (cmd, x)) (before : ¬ JoinedUnder c r s)
    (hm : { s with exchange := x }.incoming? cmd = some m) (welcomes : m.Welcomes r) :
    ∃ conn, ({ s with exchange := x }.handle cmd).conn = some conn ∧
      LetIn c r conn s ({ s with exchange := x }.handle cmd) := by
  obtain ⟨conn, frame, hconn, rfl, hdecode⟩ := incoming?_eq_some hm
  refine ⟨conn, conn_handle hconn (by simp) ?_ (by simp), .mk before hconn next hdecode welcomes⟩
  rintro (⟨factory, heq⟩ | ⟨factory, hchosen⟩)
  · cases heq
  · cases hchosen

/-- A joined channel was let in over the connection that there is, and has been joined since. -/
theorem joinedOver_of_run (h : Run Settling s t) (hs : Sound s) (hi : Intact Event.IsReserved s)
    (hr : Reachable Settling s) (hnone : ∀ c r, ¬ JoinedUnder c r s) :
    ∀ c r, t.exchange.drawn < 2 ^ 64 → JoinedUnder c r t →
      ∃ conn, t.conn = some conn ∧ JoinedOver Settling c r conn t := by
  induction h with
  | refl => exact fun c r _ hjoined => absurd hjoined (hnone c r)
  | @tail u v run step ih =>
    intro c r hb hjoined
    have hpreserved : Preserved (ω := ω) Settling (Intact Event.IsReserved) :=
      preserved_intact fun _ _ hadmits => hadmits.spares
    obtain ⟨hu, hui⟩ := hpreserved.run run hs hi
    obtain ⟨endpoint, config, factory, outside, start⟩ := hr
    have hru : Reachable Settling u := ⟨endpoint, config, factory, outside, start.trans run⟩
    cases step with
    | @surroundings x acts o =>
      obtain ⟨conn, hconn, w, v, hw, hlet, hsince⟩ :=
        ih c r (lt_of_le_of_lt acts.evolves.drawn_le hb) hjoined
      exact ⟨conn, hconn, w, v, hw, hlet, hsince.tail (.surroundings acts o)⟩
    | @take cmd x next admitted =>
      have hq := quiet_next? next
      have hux := hu.quiet hq
      have hstrides := strides_handle hux cmd (due_of_next? hu next)
      have hbu : u.exchange.drawn < 2 ^ 64 :=
        lt_of_le_of_lt (hq.evolves.trans (hstrides.evolves hux)).drawn_le hb
      by_cases hbefore : JoinedUnder c r u
      · obtain ⟨conn, hconn, w, v, hw, hlet, hsince⟩ := ih c r hbu hbefore
        exact ⟨conn, conn_of_joined admitted hux (hui.turns hq) hconn hbefore hjoined, w, v, hw, hlet,
          hsince.tail (.take next ⟨admitted, hconn, hbefore⟩)⟩
      · rcases hstrides.lets_in admitted.spares hux (hui.turns hq) hb hjoined with hjoined' | ⟨m, hm, hmr⟩
        · exact absurd hjoined' hbefore
        · obtain ⟨conn, hconn, hlet⟩ := letIn_of_incoming next hbefore hm hmr
          exact ⟨conn, hconn, u, _, hru, hlet, .refl⟩
    | abandon => exact absurd hjoined (not_joined_of_ends (ends_shutdown u))

/-- A registered channel that is joined has a connection, and the reply by which it became joined came
over that very connection, where a teardown gives a connection up only once its channels have failed. -/
theorem joined_over_live_connection (h : Reachable Settling s) (hb : s.exchange.drawn < 2 ^ 64)
    (hmem : c ∈ s.order) (hc : s.channels.get? c = some ch) (hstate : ch.state = .joined) :
    ∃ conn r, s.conn = some conn ∧ ch.joinRef = some r ∧ JoinedOver Settling c r conn s := by
  obtain ⟨r, href⟩ := h.throughout everywhere_joinRef hc hstate
  obtain ⟨endpoint, config, factory, outside, run⟩ := h
  obtain ⟨conn, hconn, hjoined⟩ := joinedOver_of_run run (sound_new _ _ _ _)
    (fun _ _ hc => by cases hc) ⟨endpoint, config, factory, outside, .refl⟩
    (fun _ _ hjoined => by cases hjoined.1) c r hb ⟨hmem, ch, hc, hstate, href⟩
  exact ⟨conn, r, hconn, href, hjoined⟩

end Outside

/-! ### Runs over a connection -/

/-- The commands of a script that fire no teardown, install no hook and remove no binding. -/
def settling (s : Socket (Recorded Idle)) : Command → Bool
  | .timer (.teardown ..) => false
  | cmd => sparesAll s cmd

theorem settling_of_settling (s : Socket (Recorded Idle)) (cmd : Command)
    (h : s.settling cmd = true) : Settling s cmd := by
  unfold settling at h
  split at h
  · cases h
  · rename_i hother
    exact ⟨spares_of_sparesAll _ s _ h, fun number generation heq => (hother number generation heq).elim⟩

/-- A channel that joins is joined over the connection that brought the reply. -/
theorem joined_over_live_connection_answered : ∃ (s : Socket (Recorded Idle)) (ch : Channel),
    Reachable Settling s ∧ s.exchange.drawn < 2 ^ 64 ∧ 0 ∈ s.order ∧
    s.channels.get? 0 = some ch ∧ ch.state = .joined ∧
    ∃ conn r, s.conn = some conn ∧ ch.joinRef = some r ∧ JoinedOver Settling 0 r conn s := by
  obtain ⟨s, hs, hview⟩ := reachable_of_play? settling_of_settling
    (show (ready.play? settling (joined "room")).map (fun s =>
        ((s.channels.get? 0).map (·.state), s.order, s.exchange.drawn)) =
      some (some .joined, [0], 3) by cbv)
  simp only [Prod.mk.injEq] at hview
  obtain ⟨hchannel, horder, hdrawn⟩ := hview
  obtain ⟨ch, hc, hstate⟩ := Option.map_eq_some_iff.mp hchannel
  have hb : s.exchange.drawn < 2 ^ 64 := by
    rw [hdrawn]
    decide
  have hmem : 0 ∈ s.order := by simp [horder]
  exact ⟨s, ch, hs, hb, hmem, hc, hstate, joined_over_live_connection hs hb hmem hc hstate⟩

/-- The condition is needed: a teardown whose transport never tells of its close leaves a channel
joined over no connection. -/
theorem joined_without_connection : ∃ (s : Socket (Recorded Idle)) (ch : Channel),
    Reachable (Sparing Event.IsReserved) s ∧ 0 ∈ s.order ∧ s.channels.get? 0 = some ch ∧
    ch.state = .joined ∧ s.conn = none := by
  obtain ⟨s, hs, hview⟩ := reachable_of_play? (spares_of_sparesAll Event.IsReserved)
    (show (ready.play? sparesAll (joined "room" ++ [.post (.disconnect none none none) fun _ => rfl,
        .take, .become ⟨.closed, 0⟩, .fire (.teardown 0 1), .take])).map (fun s =>
        ((s.channels.get? 0).map (·.state), s.order, s.conn.isNone)) =
      some (some .joined, [0], true) by cbv)
  simp only [Prod.mk.injEq] at hview
  obtain ⟨hchannel, horder, hvacant⟩ := hview
  obtain ⟨ch, hc, hstate⟩ := Option.map_eq_some_iff.mp hchannel
  exact ⟨s, ch, hs, by simp [horder], hc, hstate, Option.isNone_iff_eq_none.mp hvacant⟩

end Socket

end Switchboard
