import Switchboard.Proofs.Moves

/-!
# What the parts of a dispatch do

One law for each function that sends, resets, resolves or releases a push and for each function that
closes or fails a channel.  Later modules use these laws and do not look into the functions again.

Main results

* `Socket.works_startTimeout`, `Socket.works_sendPush`, `Socket.works_resetPush`;
* `Socket.moves_releasePush`, `Socket.closes_closeChannel`, `Socket.moves_failChannel`;
* `Socket.flush_acceptJoin`, `Socket.works_abandonJoin`, `Socket.works_settlePush`.
-/

set_option autoImplicit false

namespace Switchboard

namespace Socket

variable {ω : Type} {s t u : Socket (Recorded ω)} {k : Prompt} {c d : ChannelId}
variable {ch ch' : Channel} {p : PushId} {q : Push} {es : List Effect}

/-! ### Refs and timers -/

theorem works_armPush (hc : s.channels.get? c = some ch) (hp : ch.pushes.get? p = some q)
    (push : Push) :
    Works c { ch with pushes := ch.pushes.set p { q with timer := push.timer.arm } } [] s
      (s.armPush c p push) :=
  (works_modifyPush hc hp _).quiet (quiet_arm _ _ _)

/-- A ref and the number of a binding are drawn, and the push waits for its reply. -/
theorem works_startTimeout (hs : Sound s) (hc : s.channels.get? c = some ch)
    (hp : ch.pushes.get? p = some q) :
    ∃ r n, s.exchange.Fresh (s.startTimeout c p).exchange c r n ∧
      Works c (ch.start p q r n) [] s (s.startTimeout c p) := by
  have hlt := hs.lt_length hc
  have hq₁ := quiet_drawRef s
  have hs₁ := hs.quiet hq₁
  have hc₁ : s.drawRef.2.channels.get? c = some ch := hc
  have hlt₁ : c < s.drawRef.2.exchange.lines.length := hs₁.lt_length hc₁
  have hq₂ := quiet_drawBinding s.drawRef.2 hlt₁
  set s₂ := (s.drawRef.2.drawBinding c).2 with hs₂
  have hc₂ : s₂.channels.get? c = some ch := hc
  have hpush : s₂.push? c p = some q := push?_eq_some.mpr ⟨ch, hc₂, hp⟩
  have hcontains : s.drawRef.2.channels.contains c = true :=
    (Table.contains_iff _ _).mpr ⟨ch, hc₁⟩
  obtain ⟨hspent, hnot⟩ := Exchange.spent_drawBinding hs₁.tidy hlt₁
  -- The push has its ref, then its timer, and then its binding.
  have hw₁ := works_modifyPush hc₂ hp fun q => { q with
    ref := some s.drawRef.1, refEvent := some (Event.replyTo s.drawRef.1) }
  have hw₂ := works_armPush hw₁.get? (Table.get?_set_self _ _ _) q
  have hw₃ := works_modifyChannel hw₂.get? fun ch =>
    (ch.dropBindings? q.refEvent).bind (Event.replyTo s.drawRef.1) (s.drawRef.2.drawBinding c).1
      (.resolve p)
  have hw := (hq₁.trans hq₂).then_works ((hw₁.trans hw₂).trans hw₃)
  simp only [Table.set_set] at hw
  have heq : s.startTimeout c p = (((s₂.modifyPush c p fun q => { q with
      ref := some s.drawRef.1
      refEvent := some (Event.replyTo s.drawRef.1) }).armPush c p q).modifyChannel c fun ch =>
        (ch.dropBindings? q.refEvent).bind (Event.replyTo s.drawRef.1)
          (s.drawRef.2.drawBinding c).1 (.resolve p)) := by
    simp only [startTimeout, hcontains, Bool.not_true, Bool.false_eq_true, if_false]
    rw [← hs₂, hpush]
  rw [← heq] at hw
  have hx : s₂.exchange.Evolves (s.startTimeout c p).exchange := by
    rw [heq]
    exact ((hw₁.trans hw₂).trans hw₃).evolves
  refine ⟨s.drawRef.1, (s.drawRef.2.drawBinding c).1, ⟨?_, ?_, ?_, ?_⟩, hw⟩
  · exact (hq₂.evolves.trans hx).drew (Exchange.drew_drawRef hs.tidy)
  · intro hb
    refine Exchange.not_drew_drawRef hs.tidy (lt_of_le_of_lt ?_ hb)
    exact (hq₂.evolves.trans hx).drawn_le
  · exact hx.spent hspent
  · exact fun h => hnot (hq₁.evolves.spent h)

theorem works_resetPush (hc : s.channels.get? c = some ch) (hp : ch.pushes.get? p = some q) :
    Works c (ch.takeBack p q) [] s (s.resetPush c p) := by
  have hw := works_modifyChannel hc fun ch => (ch.modifyPush p Push.reset).dropBindings? q.refEvent
  have hpush : s.push? c p = some q := push?_eq_some.mpr ⟨ch, hc, hp⟩
  simp only [resetPush, hpush]
  rwa [show (ch.modifyPush p Push.reset).dropBindings? q.refEvent = ch.takeBack p q by
    simp [Channel.modifyPush, Channel.takeBack, Table.modify_eq_set hp]] at hw

section Outside

variable [Outside ω] [Obliging ω]

/-! ### Sending -/

/-- What a channel has become that hands one of its pushes to the socket, and by which message. -/
theorem works_handOver (hc : s.channels.get? c = some ch) (hp : ch.pushes.get? p = some q) :
    Works c { ch with
        params := ch.params.resolve.2
        pushes := ch.pushes.set p { q with sent := true } }
      [.accept (.push c p) ⟨ch.joinRef, q.ref, ch.topic, q.event, bodyOf q ch.params.resolve.1⟩] s
      (s.dispatchPush c p) := by
  have hw₁ := works_modifyChannel hc fun ch' => { ch' with params := ch.params.resolve.2 }
  have hw₂ := works_modifyPush hw₁.get? hp fun q => { q with sent := true }
  have hw := (hw₁.trans hw₂).then_turns (turns_pushMessage _ (.push c p)
    ⟨ch.joinRef, q.ref, ch.topic, q.event, bodyOf q ch.params.resolve.1⟩)
  simp only [dispatchPush, hc, hp]
  exact hw

/-- A push is handed to the socket with its present ref. -/
theorem works_dispatchPush (hc : s.channels.get? c = some ch) (hp : ch.pushes.get? p = some q) :
    ∃ ch' value, ch.Alike ch' ∧
      Works c ch' [.accept (.push c p) (ch'.handed p q.event (bodyOf q value))] s
        (s.dispatchPush c p) := by
  have hparams : ch.Alike { ch with params := ch.params.resolve.2 } :=
    ⟨rfl, rfl, rfl, rfl, rfl, fun hq => ⟨_, hq, .refl _⟩, id, .inl⟩
  have hq : q.Alike { q with sent := true } := ⟨rfl, rfl, rfl, rfl, rfl, [], by simp, by simp⟩
  have hsent := hparams.trans (.set hp hq)
  refine ⟨_, ch.params.resolve.1, hsent, ?_⟩
  rw [hsent.handed, Channel.handed, hp, Option.bind_some]
  exact works_handOver hc hp

/-- A push takes a ref and is handed to the socket. -/
theorem works_sendPush (hs : Sound s) (hc : s.channels.get? c = some ch)
    (hp : ch.pushes.get? p = some q) (htime : q.hasReceived Status.timeout = false) :
    ∃ ch' value, ch.Starts s.exchange (s.sendPush c p).exchange c p ch' ∧
      Works c ch' [.accept (.push c p) (ch'.handed p q.event (bodyOf q value))] s
        (s.sendPush c p) := by
  obtain ⟨r, n, hfresh, hw₁⟩ := works_startTimeout hs hc hp
  have hp₁ : (ch.start p q r n).pushes.get? p = some { q with
      ref := some r, refEvent := some (Event.replyTo r), timer := q.timer.arm } := by
    rw [Channel.start_pushes, Table.get?_set_self]
  obtain ⟨ch', value, ha, hw₂⟩ := works_dispatchPush hw₁.get? hp₁
  have heq : s.sendPush c p = (s.startTimeout c p).dispatchPush c p := by
    simp only [sendPush, push?_eq_some.mpr ⟨ch, hc, hp⟩, htime, Bool.false_eq_true, if_false]
  rw [heq]
  exact ⟨ch', value, ⟨q, r, n, hp, hfresh.mono hw₂.evolves, ha⟩, hw₁.trans hw₂⟩

omit [Obliging ω] in
/-- A push whose time was over is not sent. -/
theorem sendPush_over (h : ∀ q, s.push? c p = some q → q.hasReceived Status.timeout = true) :
    s.sendPush c p = s := by
  unfold sendPush
  cases hp : s.push? c p with
  | none => rfl
  | some q => simp only [h q hp, if_true]

theorem flush_sendAll (hs : Sound s) (hc : s.channels.get? c = some ch) (ps : List PushId) :
    Flush c ps s (ps.foldl (fun s p => s.sendPush c p) s) := by
  induction ps generalizing s ch with
  | nil => exact .nil s
  | cons p ps ih =>
    rw [List.foldl_cons]
    by_cases hover : ∀ q, s.push? c p = some q → q.hasReceived Status.timeout = true
    · rw [sendPush_over hover]
      exact .pass hover (ih hs hc)
    · obtain ⟨q, hinTime⟩ := not_forall.mp hover
      obtain ⟨hq, htime⟩ := Classical.not_imp.mp hinTime
      obtain ⟨ch₀, hc₀, hp⟩ := push?_eq_some.mp hq
      obtain ⟨ch', value, hstarts, hw⟩ := works_sendPush hs hc₀ hp (by simpa using htime)
      exact .send hc₀ hp (by simpa using htime) hstarts hw (ih (hs.starts hc₀ hstarts hw) hw.get?)

/-! ### Releasing -/

omit [Outside ω] [Obliging ω] in
theorem moves_releasePush (s : Socket (Recorded ω)) (c : ChannelId) (p : PushId) :
    Moves k c s (s.releasePush c p) := by
  unfold releasePush
  split
  · exact .refl
  · rename_i hne
    split
    · exact .refl
    · rename_i q hq
      obtain ⟨ch, hc, hp⟩ := push?_eq_some.mp hq
      split
      · rename_i hrel
        simp only [Push.isReleasable, Bool.and_eq_true] at hrel
        exact .single (.alter hc (.forget hne hp hrel.2) (works_modifyChannel hc _))
      · exact .refl

/-! ### Closing and failing -/

theorem closes_closeChannel (hc : s.channels.get? c = some ch) :
    Closes c ch s (s.closeChannel c) := by
  have hw := (works_modifyChannel hc fun ch =>
    { ch with rejoinTimer := ch.rejoinTimer.reset, state := .closed }).quiet
      (quiet_off _ ch.socketRefs)
  set s₁ := (s.modifyChannel c fun ch =>
    { ch with rejoinTimer := ch.rejoinTimer.reset, state := .closed }).off ch.socketRefs with hs₁
  have heq : s.closeChannel c = if ch.orphaned
      then { s₁ with order := s₁.order.filter (· ≠ c) }.eraseChannel c
      else { s₁ with order := s₁.order.filter (· ≠ c) } := by
    simp only [closeChannel, removeChannel, (works_modifyChannel hc _).get?, ← hs₁]
  rw [heq]
  by_cases horphan : ch.orphaned = true
  · simp only [if_pos horphan, eraseChannel, hw.get?]
    have hdis := quiet_discardAll { s₁ with
      order := s₁.order.filter (· ≠ c), channels := s₁.channels.erase c } ch.waiters
    refine ⟨?_, ?_, hw.evolves.trans hdis.evolves, ?_⟩
    · rw [if_pos horphan]
      refine hdis.channels_eq.trans ?_
      simp only [hw.channels_eq, Table.erase_set]
    · refine hdis.order_eq.trans ?_
      simp only [hw.order_eq]
    · exact (hdis.log_eq.trans (List.append_nil _)).trans (hw.log_eq.trans (List.append_nil _))
  · rw [if_neg horphan]
    refine ⟨?_, ?_, hw.evolves, hw.log_eq.trans (List.append_nil _)⟩
    · rw [if_neg horphan]
      exact hw.channels_eq
    · exact congrArg _ hw.order_eq

omit [Obliging ω] in
/-- A next join attempt is armed for a failed channel only. -/
theorem works_scheduleRejoinIfConnected (hc : s.channels.get? c = some ch)
    (hstate : ch.state = .errored) :
    ∃ ch', ch.Alike ch' ∧ ch'.pushes = ch.pushes ∧
      Works c ch' [] s (s.scheduleRejoinIfConnected c) := by
  unfold scheduleRejoinIfConnected
  split
  · have heq : s.scheduleRejoin c = (s.modifyChannel c fun ch' =>
        { ch' with rejoinTimer := ch.rejoinTimer.schedule }).arm
          (ch.rejoinTimer.delay s.config.rejoinAfter)
          (.rejoin c ch.rejoinTimer.schedule.slot.generation) := by
      simp only [scheduleRejoin, hc]
    rw [heq]
    refine ⟨{ ch with rejoinTimer := ch.rejoinTimer.schedule }, ?_, rfl,
      (works_modifyChannel hc _).quiet (quiet_arm _ _ _)⟩
    exact ⟨rfl, rfl, rfl, rfl, rfl, fun hq => ⟨_, hq, .refl _⟩, id, fun _ => .inr hstate⟩
  · exact ⟨ch, .refl ch, rfl, (Quiet.refl s).works hc⟩

omit [Obliging ω] in
theorem moves_failChannel (hs : Sound s) (hc : s.channels.get? c = some ch)
    (hlisted : c ∈ s.order) : Moves k c s (s.failChannel c) := by
  obtain ⟨q, hq, _⟩ := (hs.channels hc).join
  set s₁ := if ch.state = .joining then s.resetPush c joinPush else s with hs₁
  have hw₁ : Works c (if ch.state = .joining then ch.takeBack joinPush q else ch) [] s s₁ := by
    rw [hs₁]
    split
    · exact works_resetPush hc hq
    · exact (Quiet.refl s).works hc
  have hw₂ := works_modifyChannel hw₁.get? fun ch => { ch with state := .errored }
  obtain ⟨ch', ha, _, hw₃⟩ := works_scheduleRejoinIfConnected hw₂.get? rfl
  have heq : s.failChannel c = (s₁.markErrored c).scheduleRejoinIfConnected c := by
    simp only [failChannel, hc, ← hs₁]
  rw [heq]
  have hfailed : Move k c s (s₁.markErrored c) :=
    .alter hc (.failed hlisted hq) (hw₁.trans hw₂)
  exact (Relation.ReflTransGen.single hfailed).tail
    (.alter hw₂.get? (.alike ha (by simp)) hw₃)

/-! ### Reactions to the join -/

theorem flush_acceptJoin (hs : Sound s) (hc : s.channels.get? c = some ch) :
    ∃ t, Works c { ch with
        state := .joined, rejoinTimer := ch.rejoinTimer.reset, buffer := [] } [] s t ∧
      Flush c ch.buffer t (s.acceptJoin c) := by
  have hw := works_modifyChannel hc fun ch =>
    { ch with state := .joined, rejoinTimer := ch.rejoinTimer.reset, buffer := [] }
  refine ⟨_, hw, ?_⟩
  have hs₁ := hs.works hc hw ?_ (Channel.RefsKept.of_eq rfl).from
  · have := flush_sendAll hs₁ hw.get? ch.buffer
    simpa only [acceptJoin, hc] using this
  · exact ((hs.channels hc).mono hw.evolves).filter (List.Sublist.refl _) rfl (by simp)

omit [Outside ω] [Obliging ω] in
/-- A push is added. -/
theorem Sound.insert (hs : Sound s) (hc : s.channels.get? c = some ch)
    (hspent : s.exchange.Spent (.pushes c) p) (hfree : ch.pushes.get? p = none) (hq : q.IsNew)
    (w : Works c (ch.insert p q) [] s t) : Sound t := by
  refine hs.works hc w ?_ (Channel.RefsKept.insert hq.ref).from
  refine ((hs.channels hc).insert hspent hfree ?_ ?_ hq.hooks).mono w.evolves
  · rw [hq.ref, hq.refEvent, Option.map_none]
  · rw [hq.ref]
    simp

/-- A new push is added and sent. -/
theorem works_insert_sendPush (hs : Sound s) (hc : s.channels.get? c = some ch)
    (hspent : s.exchange.Spent (.pushes c) p) (hfree : ch.pushes.get? p = none) (hq : q.IsNew)
    (htime : q.received = none) (w : Works c (ch.insert p q) [] s t) :
    ∃ ch' value, (ch.insert p q).Starts s.exchange (t.sendPush c p).exchange c p ch' ∧
      Works c ch' [.accept (.push c p) (ch'.handed p q.event (bodyOf q value))] s
        (t.sendPush c p) := by
  have hget : (ch.insert p q).pushes.get? p = some q := Table.get?_set_self _ _ _
  obtain ⟨ch', value, hstarts, hw⟩ := works_sendPush
    (hs.insert hc hspent hfree hq w) w.get? hget (by simp [Push.hasReceived, htime])
  exact ⟨ch', value, hstarts.mono w.evolves (.refl _), w.trans hw⟩

/-- A leave is sent, and the join is taken back. -/
theorem works_abandonJoin (hs : Sound s) (hc : s.channels.get? c = some ch) :
    ∃ t p m ch₁ q₁ ch₂, ¬ s.exchange.Spent (.pushes c) p ∧ ch.pushes.get? p = none ∧
      t.exchange.Spent (.pushes c) p ∧ p ≠ joinPush ∧
      (ch.insert p { Push.bareLeave ch.timeout with detached := true }).Starts s.exchange t.exchange c
        p ch₁ ∧ ch₁.pushes.get? joinPush = some q₁ ∧
      Works c ({ ch₁ with state := .errored }.takeBack joinPush q₁) [.accept (.push c p) m] s t ∧
      ({ ch₁ with state := .errored }.takeBack joinPush q₁).Alike ch₂ ∧
      Works c ch₂ [] t (s.abandonJoin c) := by
  have hlt := hs.lt_length hc
  have hdraw := quiet_drawPush s hlt
  obtain ⟨hspent, hnot, hother⟩ := Exchange.spent_drawPush hs.tidy hlt
  rcases hp : s.drawPush c with ⟨p, s₁⟩
  have hp₁ : (s.drawPush c).1 = p := by rw [hp]
  have hp₂ : (s.drawPush c).2 = s₁ := by rw [hp]
  rw [hp₂] at hdraw
  have hspent' : s₁.exchange.Spent (.pushes c) p := by
    rw [← hp₁, ← hp₂]
    exact hspent
  have hother' : p ≠ joinPush := by
    rw [← hp₁]
    exact hother
  have hfree : ch.pushes.get? p = none := by
    by_contra hne
    obtain ⟨q, hq⟩ := Option.ne_none_iff_exists'.mp hne
    exact hnot (hp₁ ▸ (hs.channels hc).pushes hq)
  have hc₁ : s₁.channels.get? c = some ch := hdraw.get? c ▸ hc
  have hw₁ := works_modifyChannel hc₁ fun ch' =>
    ch'.insert p { Push.bareLeave ch.timeout with detached := true }
  obtain ⟨ch₁, value, hstarts, hw₂⟩ := works_insert_sendPush (hs.quiet hdraw) hc₁ hspent' hfree
    (Push.isNew_bareLeave _ _) rfl hw₁
  have hsound := hstarts.sound_insert ((hs.quiet hdraw).channels hc₁) hw₂.evolves
    (hw₂.evolves.spent hspent') hfree (Push.isNew_bareLeave _ _)
  obtain ⟨q₁, hq₁, _⟩ := hsound.join
  have hw₃ := works_modifyChannel hw₂.get? fun ch => { ch with state := .errored }
  have hw₄ := works_resetPush hw₃.get? hq₁
  obtain ⟨ch₂, ha, _, hw₅⟩ := works_scheduleRejoinIfConnected hw₄.get?
    (Channel.dropBindings?_state _)
  have heq : s.abandonJoin c = ((((s₁.modifyChannel c fun ch' =>
      ch'.insert p { Push.bareLeave ch.timeout with detached := true }).sendPush c p).markErrored
        c).resetPush c joinPush).scheduleRejoinIfConnected c := by
    simp only [abandonJoin, hc, hp]
    rfl
  rw [heq]
  have hw := (hw₂.trans hw₃).trans hw₄
  refine ⟨_, p, _, ch₁, q₁, ch₂, hp₁ ▸ hnot, hfree, (hw.evolves.spent hspent'), hother', ?_, hq₁,
    hdraw.then_works hw, ha, hw₅⟩
  exact hstarts.mono hdraw.evolves (hw₃.trans hw₄).evolves

end Outside

end Socket

end Switchboard
