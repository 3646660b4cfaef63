import Switchboard.Proofs.Farewells

/-!
# How channels part

While a socket carries out a command, the closings of channels are announced one after another, and in
between nobody is told of a closing and no channel leaves the registry.  So of all that is asked of the
surroundings, what is said of closings is what the announcements come to, and a channel leaves the
registry by the one announcement by which it closes.

Main definitions

* `Socket.Untold`, `Socket.Unannounced`: no closing is announced meanwhile;
* `Socket.Parting`: why a closing is announced;
* `Socket.Partings`: a socket goes on, and closings are announced meanwhile;
* `Socket.Farewells`: what a command comes to, as far as it concerns closings.

Main results

* `Socket.parts_dispatchTo`, `Socket.parts_leave`, `Socket.parts_rejoin`: closings are announced because
  of a message, because a channel is left, and because another one joins its topic;
* `Socket.parts_handle`: and what all commands come to;
* `Socket.Reachable.closings_told`: who is told of the closings that a command announces.
-/

set_option autoImplicit false

namespace Switchboard

/-- A command by which channels come and go, or by which a user changes what counts when they close. -/
def Command.rearranges : Command → Bool
  | .createChannel .. | .dropChannel _ | .shutdown => true
  | .channel _ (.bind ..) | .channel _ (.unbind ..) | .channel _ (.setHook _) => true
  | _ => false

namespace Socket

section Outside

variable {ω : Type} {s t u : Socket (Recorded (Watched ω))} {c d : ChannelId} {ch : Channel} {p : PushId}
variable {push : Push}

/-- All channels have bindings that fit. -/
def Fitting (s : Socket (Recorded (Watched ω))) : Prop :=
  ∀ ⦃c ch⦄, s.channels.get? c = some ch → ch.Fitting

/-- No closing was announced. -/
structure Untold (s t : Socket (Recorded (Watched ω))) : Prop where
  fitting : t.Fitting
  unsaid : Unsaid s t
  order_eq : t.order = s.order
  channel : ∀ ⦃c ch'⦄, t.channels.get? c = some ch' →
    ∃ ch, s.channels.get? c = some ch ∧ ch.SameClosing ch'

/-- No closing is announced meanwhile, if bindings fit. -/
def Unannounced (s t : Socket (Recorded (Watched ω))) : Prop := s.Fitting → Untold s t

theorem Untold.trans (h : Untold s t) (h' : Untold t u) : Untold s u where
  fitting := h'.fitting
  unsaid := h.unsaid.trans h'.unsaid
  order_eq := h'.order_eq.trans h.order_eq
  channel := by
    intro c ch'' hc
    obtain ⟨ch', hc', hsame'⟩ := h'.channel hc
    obtain ⟨ch, hc, hsame⟩ := h.channel hc'
    exact ⟨ch, hc, hsame.trans hsame'⟩

theorem Unannounced.trans (h : Unannounced s t) (h' : Unannounced t u) : Unannounced s u :=
  fun hs => (h hs).trans (h' (h hs).fitting)

/-- Nothing becomes of the channels, and nobody is told. -/
theorem Unsaid.unannounced (h : Unsaid s t) (hc : t.channels = s.channels) (ho : t.order = s.order) :
    Unannounced s t :=
  fun hs => ⟨fun _ _ hd => hs (hc ▸ hd), h, ho, fun _ ch' hd => ⟨ch', hc ▸ hd, .refl ch'⟩⟩

theorem Unannounced.of_eq (hc : t.channels = s.channels) (ho : t.order = s.order)
    (hm : t.made = s.made) : Unannounced s t :=
  (Unsaid.of_eq hm).unannounced hc ho

theorem Unannounced.refl (s : Socket (Recorded (Watched ω))) : Unannounced s s := .of_eq rfl rfl rfl

theorem Quiet.unannounced (h : Quiet s t) (hunsaid : Unsaid s t) : Unannounced s t :=
  hunsaid.unannounced h.channels_eq h.order_eq

theorem unannounced_foldl {α : Type} {f : Socket (Recorded (Watched ω)) → α → Socket (Recorded (Watched ω))}
    (h : ∀ s a, Unannounced s (f s a)) (l : List α) (s : Socket (Recorded (Watched ω))) :
    Unannounced s (l.foldl f s) := by
  induction l generalizing s with
  | nil => exact .refl s
  | cons a l ih => exact (h s a).trans (ih (f s a))

theorem unannounced_modifyChannel {f : Channel → Channel}
    (hf : ∀ ch, s.channels.get? c = some ch → ch.Fitting → (f ch).Fitting ∧ ch.SameClosing (f ch)) :
    Unannounced s (s.modifyChannel c f) := by
  intro hs
  have hkept : ∀ ⦃d ch'⦄, (s.modifyChannel c f).channels.get? d = some ch' →
      ∃ ch, s.channels.get? d = some ch ∧ ch'.Fitting ∧ ch.SameClosing ch' := by
    intro d ch' hd
    simp only [modifyChannel, Table.get?_modify] at hd
    split at hd
    · rename_i heq
      obtain ⟨ch, hc, rfl⟩ := Option.map_eq_some_iff.mp hd
      exact ⟨ch, heq ▸ hc, hf ch hc (hs hc)⟩
    · exact ⟨ch', hd, hs hd, .refl ch'⟩
  refine ⟨fun d ch' hd => ?_, .of_eq rfl, rfl, fun d ch' hd => ?_⟩
  · obtain ⟨_, _, hfitting, _⟩ := hkept hd
    exact hfitting
  · obtain ⟨ch, hd, _, hsame⟩ := hkept hd
    exact ⟨ch, hd, hsame⟩

/-- A channel changes in parts that have nothing to do with its closing. -/
theorem unannounced_amend (s : Socket (Recorded (Watched ω))) (c : ChannelId) {f : Channel → Channel}
    (hb : ∀ ch, (f ch).bindings = ch.bindings) (hp : ∀ ch, (f ch).pushes = ch.pushes)
    (hh : ∀ ch, (f ch).hook = ch.hook) (ho : ∀ ch, (f ch).orphaned = ch.orphaned) :
    Unannounced s (s.modifyChannel c f) :=
  unannounced_modifyChannel fun ch _ hch => hch.keep_pushes (hb ch) (hp ch) (hh ch) (ho ch)

/-- A push changes, and listens for its reply as before or not at all. -/
theorem unannounced_modifyPush (s : Socket (Recorded (Watched ω))) (c : ChannelId) (p : PushId)
    {f : Push → Push} (hf : ∀ q, (f q).refEvent = q.refEvent ∨ (f q).refEvent = none) :
    Unannounced s (s.modifyPush c p f) := by
  refine unannounced_modifyChannel fun ch _ hch => hch.modifyPush p fun q event hq hevent => ?_
  rcases hf q with heq | hnone
  · exact hch.named hq (heq ▸ hevent)
  · rw [hnone] at hevent
    cases hevent

/-- A push of a channel listens for its reply under the name of a reply. -/
theorem Fitting.named (hs : s.Fitting) (hpush : s.push? c p = some push) :
    ∀ event, push.refEvent = some event → Event.NamesReply event := by
  obtain ⟨ch, hc, hq⟩ := push?_eq_some.mp hpush
  exact fun event hevent => (hs hc).named hq hevent

/-- A reply is listened for no longer. -/
theorem unannounced_dropBindings? (s : Socket (Recorded (Watched ω))) (c : ChannelId)
    {event : Option String} (hevent : ∀ e, event = some e → Event.NamesReply e) :
    Unannounced s (s.modifyChannel c fun ch => ch.dropBindings? event) :=
  unannounced_modifyChannel fun _ _ hch => hch.dropBindings? hevent

theorem unannounced_armPush (s : Socket (Recorded (Watched ω))) (c : ChannelId) (p : PushId)
    (push : Push) : Unannounced s (s.armPush c p push) :=
  (unannounced_modifyPush s c p (f := fun q => { q with timer := push.timer.arm }) fun _ => .inl rfl).trans
    (.of_eq rfl rfl rfl)

/-! ### Sending -/

theorem unannounced_startTimeout (s : Socket (Recorded (Watched ω))) (c : ChannelId) (p : PushId) :
    Unannounced s (s.startTimeout c p) := by
  have hdrawn : Unannounced s s.drawRef.2 := .of_eq rfl rfl rfl
  have hdrawn' : Unannounced s (s.drawRef.2.drawBinding c).2 := .of_eq rfl rfl rfl
  intro hs
  simp only [startTimeout]
  split
  · exact hdrawn hs
  · split
    · exact hdrawn' hs
    · rename_i push hpush
      have hnamed := (hdrawn' hs).fitting.named hpush
      have hset : Unannounced (s.drawRef.2.drawBinding c).2
          ((s.drawRef.2.drawBinding c).2.modifyPush c p fun q =>
            { q with ref := some s.drawRef.1, refEvent := some (Event.replyTo s.drawRef.1) }) :=
        unannounced_modifyChannel fun ch _ hch => hch.modifyPush p fun q event _ hevent => by
          cases hevent
          exact ⟨_, rfl⟩
      refine ((hdrawn'.trans hset).trans ((unannounced_armPush _ c p push).trans ?_)) hs
      refine unannounced_modifyChannel fun ch _ hch => ?_
      obtain ⟨hdropped, hsame⟩ := hch.dropBindings? hnamed
      obtain ⟨hbound, hsame'⟩ := hdropped.bindReply s.drawRef.1 (s.drawRef.2.drawBinding c).1 p
      exact ⟨hbound, hsame.trans hsame'⟩

theorem unannounced_resetPush (s : Socket (Recorded (Watched ω))) (c : ChannelId) (p : PushId) :
    Unannounced s (s.resetPush c p) := by
  unfold resetPush
  split
  · exact .refl s
  · rename_i push hpush
    intro hs
    refine unannounced_modifyChannel (fun ch _ hch => ?_) hs
    obtain ⟨hreset, hsame⟩ := hch.modifyPush p (f := Push.reset) fun q event _ hevent => by cases hevent
    obtain ⟨hdropped, hsame'⟩ := hreset.dropBindings? (hs.named hpush)
    exact ⟨hdropped, hsame.trans hsame'⟩

theorem unannounced_releasePush (s : Socket (Recorded (Watched ω))) (c : ChannelId) (p : PushId) :
    Unannounced s (s.releasePush c p) := by
  unfold releasePush
  split
  · exact .refl s
  · split
    · exact .refl s
    · rename_i push hpush
      split
      · intro hs
        refine unannounced_modifyChannel (fun ch _ hch => ?_) hs
        have hleft : ∀ ⦃p' q event⦄, (ch.pushes.erase p).get? p' = some q → q.refEvent = some event →
            Event.NamesReply event := by
          intro p' q event hq
          rw [Table.get?_erase] at hq
          split at hq
          · cases hq
          · exact hch.named hq
        let erased : Channel := { ch with
          pushes := ch.pushes.erase p
          buffer := ch.buffer.filter (· ≠ p) }
        obtain ⟨herased, hsame⟩ : erased.Fitting ∧ ch.SameClosing erased := hch.keep rfl hleft rfl rfl
        obtain ⟨hdropped, hsame'⟩ := herased.dropBindings? (hs.named hpush)
        exact ⟨hdropped, hsame.trans hsame'⟩
      · exact .refl s

theorem unannounced_scheduleRejoin (s : Socket (Recorded (Watched ω))) (c : ChannelId) :
    Unannounced s (s.scheduleRejoin c) := by
  unfold scheduleRejoin
  split
  · exact .refl s
  · rename_i ch _
    refine (unannounced_amend s c (f := fun ch' => { ch' with rejoinTimer := ch.rejoinTimer.schedule })
      (fun _ => rfl) (fun _ => rfl) (fun _ => rfl) (fun _ => rfl)).trans ?_
    exact .of_eq rfl rfl rfl

variable [Outside ω]

theorem unannounced_perform (s : Socket (Recorded (Watched ω))) {e : Effect} (h : e.listener? = none) :
    Unannounced s (s.perform e) :=
  (unsaid_perform s h).unannounced rfl rfl

theorem unsaid_performAll (s : Socket (Recorded (Watched ω))) {es : List Effect}
    (h : ∀ e ∈ es, e.listener? = none) : Unsaid s (s.performAll es) := by
  refine ⟨es.map .effect, made_performAll s es, fun call hcall => ?_⟩
  obtain ⟨e, he, rfl⟩ := List.mem_map.mp hcall
  exact Call.not_isFarewell_of_listener? (h e he)

theorem unannounced_performAll (s : Socket (Recorded (Watched ω))) {es : List Effect}
    (h : ∀ e ∈ es, e.listener? = none) : Unannounced s (s.performAll es) :=
  (unsaid_performAll s h).unannounced ((congrArg Socket.channels (performAll_eq s es)).trans rfl)
    ((congrArg Socket.order (performAll_eq s es)).trans rfl)

/-- What is no matter of any channel announces no closing. -/
theorem Strokes.unannounced (h : Strokes (fun _ => False) s t) : Unannounced s t := by
  have horder : t.order = s.order := by
    induction h with
    | refl => rfl
    | tail _ stroke ih =>
      refine Eq.trans ?_ ih
      cases stroke with
      | aside aside => exact aside.order
      | strike among => exact among.elim
      | _ => rfl
  intro hs
  refine ⟨fun d ch hd => hs ((h.others not_false).1 ▸ hd), h.unsaid, horder, fun d ch' hd => ?_⟩
  exact ⟨ch', (h.others not_false).1 ▸ hd, .refl ch'⟩

theorem unannounced_pushMessage (s : Socket (Recorded (Watched ω))) (sender : Sender) (m : Message) :
    Unannounced s (s.pushMessage sender m) := by
  have haccepted : Unannounced s (s.perform (.accept sender m)) := unannounced_perform s rfl
  simp only [pushMessage]
  split
  · exact haccepted.trans (strokes_transmit _ m).unannounced
  · exact haccepted.trans (.of_eq rfl rfl rfl)

theorem unannounced_dispatchPush (s : Socket (Recorded (Watched ω))) (c : ChannelId) (p : PushId) :
    Unannounced s (s.dispatchPush c p) := by
  unfold dispatchPush
  split
  · exact .refl s
  · rename_i ch _
    have hresolved := unannounced_amend s c (f := fun ch' => { ch' with params := ch.params.resolve.2 })
      (fun _ => rfl) (fun _ => rfl) (fun _ => rfl) (fun _ => rfl)
    dsimp only
    split
    · exact hresolved
    · refine .trans ?_ (unannounced_pushMessage _ _ _)
      exact hresolved.trans (unannounced_modifyPush _ c p fun _ => .inl rfl)

theorem unannounced_sendPush (s : Socket (Recorded (Watched ω))) (c : ChannelId) (p : PushId) :
    Unannounced s (s.sendPush c p) := by
  unfold sendPush
  split
  · exact .refl s
  · split
    · exact .refl s
    · exact (unannounced_startTimeout s c p).trans (unannounced_dispatchPush _ c p)

theorem unannounced_resendPush (s : Socket (Recorded (Watched ω))) (c : ChannelId) (p : PushId)
    (timeout : Nat) : Unannounced s (s.resendPush c p timeout) := by
  simp only [resendPush]
  refine .trans ?_ (unannounced_sendPush _ c p)
  refine .trans ?_ (unannounced_resetPush _ c p)
  exact unannounced_modifyPush s c p fun _ => .inl rfl

/-! ### What a channel does -/

theorem unannounced_scheduleRejoinIfConnected (s : Socket (Recorded (Watched ω))) (c : ChannelId) :
    Unannounced s (s.scheduleRejoinIfConnected c) := by
  unfold scheduleRejoinIfConnected
  split
  · exact unannounced_scheduleRejoin s c
  · exact .refl s

omit [Outside ω] in
theorem unannounced_markErrored (s : Socket (Recorded (Watched ω))) (c : ChannelId) :
    Unannounced s (s.markErrored c) :=
  unannounced_amend s c (fun _ => rfl) (fun _ => rfl) (fun _ => rfl) (fun _ => rfl)

theorem unannounced_failChannel (s : Socket (Recorded (Watched ω))) (c : ChannelId) :
    Unannounced s (s.failChannel c) := by
  unfold failChannel
  split
  · exact .refl s
  · dsimp only
    refine .trans ?_ (unannounced_scheduleRejoinIfConnected _ c)
    refine .trans ?_ (unannounced_markErrored _ c)
    split
    · exact unannounced_resetPush s c joinPush
    · exact .refl s

theorem unannounced_acceptJoin (s : Socket (Recorded (Watched ω))) (c : ChannelId) :
    Unannounced s (s.acceptJoin c) := by
  unfold acceptJoin
  split
  · exact .refl s
  · refine .trans ?_ (unannounced_foldl (fun s p => unannounced_sendPush s c p) _ _)
    exact unannounced_amend s c (fun _ => rfl) (fun _ => rfl) (fun _ => rfl) (fun _ => rfl)

omit [Outside ω] in
/-- A new push is added. -/
theorem unannounced_insert (s : Socket (Recorded (Watched ω))) (c : ChannelId) (p : PushId)
    (hpush : push.refEvent = none) :
    Unannounced s (s.modifyChannel c fun ch => { ch with pushes := ch.pushes.set p push }) :=
  unannounced_modifyChannel fun _ _ hch => hch.setPush p fun event hevent => by
    rw [hpush] at hevent
    cases hevent

theorem unannounced_abandonJoin (s : Socket (Recorded (Watched ω))) (c : ChannelId) :
    Unannounced s (s.abandonJoin c) := by
  unfold abandonJoin
  split
  · exact .refl s
  · have hdrawn : Unannounced s (s.drawPush c).2 := .of_eq rfl rfl rfl
    dsimp only
    refine .trans ?_ (unannounced_scheduleRejoinIfConnected _ c)
    refine .trans ?_ (unannounced_resetPush _ c joinPush)
    refine .trans ?_ (unannounced_markErrored _ c)
    refine .trans ?_ (unannounced_sendPush _ c _)
    exact hdrawn.trans (unannounced_insert _ c _ rfl)

theorem unannounced_settlePush (hpush : s.push? c p = some push) (reply : Reply) :
    Unannounced s (s.settlePush c p push reply) := by
  intro hs
  set resolved := s.modifyPush c p fun q =>
    { q with timer := q.timer.cancel, received := some reply, waiters := [] } with hresolved
  set answered := resolved.performAll (push.waiters.map fun ticket => .answer ticket (.reply c p reply))
    with hanswered
  have hfirst : Unannounced s resolved := unannounced_modifyPush s c p fun _ => .inl rfl
  have htold : Unannounced resolved answered := unannounced_performAll resolved fun e he => by
    obtain ⟨ticket, _, rfl⟩ := List.mem_map.mp he
    rfl
  have hdropped := unannounced_dropBindings? answered c (hs.named hpush)
  exact (((hfirst.trans htold).trans hdropped).trans (unannounced_perform _ rfl)) hs

theorem unannounced_passHook (s : Socket (Recorded (Watched ω))) (ch : Channel) {event : String}
    (hevent : event ≠ Event.close) (payload : Payload) (ref : Option Ref) :
    Unannounced s (s.passHook ch event payload ref).2 := by
  unfold passHook
  split
  · exact .refl s
  · rename_i callback _
    have hasked : Unannounced s { s with
        exchange := (Outside.hook callback event payload ref s.exchange s.outside).2.1
        outside := (Outside.hook callback event payload ref s.exchange s.outside).2.2 } :=
      Unsaid.unannounced ⟨[.hook callback event payload ref], rfl, by simpa [Call.isFarewell] using hevent⟩
        rfl rfl
    dsimp only
    split
    · exact hasked
    · split
      · exact hasked.trans (strokes_report _ _).unannounced
      · exact hasked

/-! ### The connection -/

theorem unsaid_pruneRetired (s : Socket (Recorded (Watched ω))) : Unsaid s s.pruneRetired := by
  refine Unsaid.trans (.of_eq rfl) (unsaid_performAll _ fun e he => ?_)
  obtain ⟨conn, _, rfl⟩ := List.mem_map.mp he
  rfl

theorem unsaid_connect (s : Socket (Recorded (Watched ω))) : Unsaid s s.connect := by
  unfold connect
  split
  · exact .of_eq rfl
  · dsimp only
    split
    · unfold openTransport
      exact Unsaid.trans (.of_eq rfl) ((unsaid_perform _ rfl).trans (.of_eq rfl))
    · exact .trans (.of_eq rfl) (strokes_report _ _).unsaid

theorem unsaid_notifyAll (s : Socket (Recorded (Watched ω))) (tickets : List Ticket) :
    Unsaid s (s.notifyAll tickets) := by
  refine unsaid_performAll s fun e he => ?_
  obtain ⟨ticket, _, rfl⟩ := List.mem_map.mp he
  rfl

theorem unsaid_continueWith (s : Socket (Recorded (Watched ω))) (k : Continuation) (clock : Nat) :
    Unsaid s (s.continueWith k clock) := by
  cases k with
  | connect =>
    simp only [continueWith]
    split
    · exact unsaid_connect s
    · exact .of_eq rfl
  | scheduleReconnect =>
    simp only [continueWith]
    split <;> exact .of_eq rfl
  | notify ticket => exact unsaid_perform s rfl
  | nothing => exact .of_eq rfl

theorem unsaid_closeConnection (s : Socket (Recorded (Watched ω))) (code : Option Nat)
    (reason : Option String) : Unsaid s (s.closeConnection code reason) := by
  unfold closeConnection
  split
  · exact .of_eq rfl
  · exact unsaid_perform s rfl

theorem unsaid_dropConnection (s : Socket (Recorded (Watched ω))) : Unsaid s s.dropConnection := by
  unfold dropConnection
  split
  · exact .of_eq rfl
  · exact .trans (.of_eq rfl) (unsaid_perform _ rfl)

theorem unsaid_finishTeardown (s : Socket (Recorded (Watched ω))) (t : Teardown) :
    Unsaid s (s.finishTeardown t) := by
  have hdropped : Unsaid s { s with teardown := none }.dropConnection :=
    .trans (.of_eq rfl) (unsaid_dropConnection _)
  exact (hdropped.trans (unsaid_notifyAll _ _)).trans (unsaid_continueWith _ _ _)

theorem unsaid_stepTeardown (s : Socket (Recorded (Watched ω))) (t : Teardown) :
    Unsaid s (s.stepTeardown t) := by
  unfold stepTeardown
  split
  · split
    · exact .of_eq rfl
    · exact .trans (.of_eq rfl) (unsaid_closeConnection _ _ _)
  · split
    · exact .of_eq rfl
    · exact unsaid_finishTeardown s t

theorem unsaid_teardownTimeout (s : Socket (Recorded (Watched ω))) (number generation : Nat) :
    Unsaid s (s.teardownTimeout number generation) := by
  unfold teardownTimeout
  split
  · exact .of_eq rfl
  · split
    · split
      · exact .trans (.of_eq rfl) (unsaid_stepTeardown _ _)
      · exact .of_eq rfl
    · exact .of_eq rfl

theorem unsaid_beginTeardown (s : Socket (Recorded (Watched ω))) (code : Option Nat)
    (reason : Option String) (k : Continuation) : Unsaid s (s.beginTeardown code reason k) := by
  simp only [beginTeardown]
  split
  · have hnotified := unsaid_notifyAll { s with teardown := none } s.teardownCallers
    exact .trans (.of_eq rfl) (hnotified.trans (unsaid_continueWith _ _ _))
  · exact .trans (.of_eq rfl) (unsaid_stepTeardown _ _)

theorem unsaid_disconnect (s : Socket (Recorded (Watched ω))) (code : Option Nat)
    (reason : Option String) (k : Continuation) : Unsaid s (s.disconnect code reason k) :=
  .trans (.of_eq rfl) (unsaid_beginTeardown _ _ _ _)

theorem unsaid_pause (s : Socket (Recorded (Watched ω))) : Unsaid s s.pause := by
  unfold pause
  split
  · exact (unsaid_disconnect s none none .nothing).trans (.of_eq rfl)
  · exact .of_eq rfl

theorem unsaid_resume (s : Socket (Recorded (Watched ω))) : Unsaid s s.resume := by
  unfold resume
  split
  · exact .trans (.of_eq rfl) (unsaid_connect _)
  · exact .of_eq rfl

theorem unsaid_pushMessage (s : Socket (Recorded (Watched ω))) (sender : Sender) (m : Message) :
    Unsaid s (s.pushMessage sender m) := by
  have htransmitted : ∀ u : Socket (Recorded (Watched ω)), Strokes (fun _ => False) u (u.transmit m) :=
    fun u => strokes_transmit u m
  simp only [pushMessage]
  split
  · exact (unsaid_perform s rfl).trans (htransmitted _).unsaid
  · exact (unsaid_perform s rfl).trans (.of_eq rfl)

theorem unsaid_sendHeartbeat (s : Socket (Recorded (Watched ω))) : Unsaid s s.sendHeartbeat := by
  unfold sendHeartbeat
  split
  · exact .of_eq rfl
  · set u : Socket (Recorded (Watched ω)) := { s.drawRef.2 with
      pendingHeartbeat := some s.drawRef.1 } with hu
    have hsent := unsaid_pushMessage u .socket (.heartbeat s.drawRef.1)
    exact Unsaid.trans (t := u) (.of_eq rfl) (hsent.trans (.of_eq rfl))

theorem unsaid_heartbeatDue (s : Socket (Recorded (Watched ω))) (generation : Nat) :
    Unsaid s (s.heartbeatDue generation) := by
  unfold heartbeatDue
  split
  · exact .trans (.of_eq rfl) (unsaid_sendHeartbeat _)
  · exact .of_eq rfl

theorem unsaid_ping (s : Socket (Recorded (Watched ω))) (ticket : Ticket) : Unsaid s (s.ping ticket) := by
  unfold ping
  split
  · exact unsaid_perform s rfl
  · have hsent := unsaid_pushMessage s.drawRef.2 .socket (.heartbeat s.drawRef.1)
    exact Unsaid.trans (t := s.drawRef.2) (.of_eq rfl) (hsent.trans (.of_eq rfl))

omit [Outside ω] in
theorem unsaid_resetHeartbeat (s : Socket (Recorded (Watched ω))) : Unsaid s s.resetHeartbeat := by
  unfold resetHeartbeat
  split
  · split <;> exact .of_eq rfl
  · exact .of_eq rfl

theorem unsaid_markOpen (s : Socket (Recorded (Watched ω))) : Unsaid s s.markOpen := by
  set u : Socket (Recorded (Watched ω)) := { s with
    closeWasClean := false, established := min (s.established + 1) attemptLimit } with hu
  have hflushed : Strokes (fun _ => False) u u.flush := strokes_flush u
  have hreset : Unsaid u.flush u.flush.resetReconnect := .of_eq rfl
  exact Unsaid.trans (t := u) (.of_eq rfl)
    (hflushed.unsaid.trans (hreset.trans (unsaid_resetHeartbeat _)))

variable {fs gs : List (Farewell ω)} {news : Option Message} {event : String}
variable {payload : Payload} {ref joinRef : Option Ref}

/-! ### Partings -/

/-- Why a closing is announced: the server has said so, or a leave has come to its end. -/
inductive Parting (news : Option Message) : Payload → Option Ref → Option Ref → Prop
  | said {m : Message} (brings : news = some m) (closes : m.event = Event.close) :
    Parting news m.payload m.ref m.joinRef
  | left : Parting news (.json (.string "leave")) none none

/-- A socket goes on, and closings are announced meanwhile. -/
inductive Partings (news : Option Message) :
    List (Farewell ω) → Socket (Recorded (Watched ω)) → Socket (Recorded (Watched ω)) → Prop
  | besides {s t : Socket (Recorded (Watched ω))} (untold : Untold s t) : Partings news [] s t
  | announced (f : Farewell ω) (n : Nat) (fitting : f.before.Fitting)
    (cause : Parting news f.payload f.ref f.joinRef) : Partings news [f] f.before (f.after n)
  | trans {fs gs : List (Farewell ω)} {s t u : Socket (Recorded (Watched ω))}
    (first : Partings news fs s t) (rest : Partings news gs t u) : Partings news (fs ++ gs) s u

/-- A socket whose bindings fit goes on, and announces some closings. -/
def Parts (news : Option Message) (s t : Socket (Recorded (Watched ω))) : Prop :=
  s.Fitting → ∃ fs, Partings news fs s t

theorem Unannounced.parts (h : Unannounced s t) : Parts news s t := fun hs => ⟨[], .besides (h hs)⟩

theorem Parts.refl (s : Socket (Recorded (Watched ω))) : Parts news s s := (Unannounced.refl s).parts

/-- A listener is told of something else than a closing. -/
theorem unannounced_listener (s : Socket (Recorded (Watched ω))) (l : Listener) {event : InboundEvent}
    (hevent : event.event ≠ Event.close) : Unannounced s (s.perform (l.effect event)) :=
  Unsaid.unannounced ⟨[.effect (l.effect event)], rfl, by
    cases l <;> simpa [Listener.effect, Call.isFarewell] using hevent⟩ rfl rfl

/-- A closing is announced if there is a channel, and as long as there is a level left. -/
theorem parts_close (cause : Parting news payload ref joinRef) (n : Nat) (c : ChannelId)
    (s : Socket (Recorded (Watched ω))) :
    Parts news s (dispatchTo n c Event.close payload ref joinRef s) := by
  cases n with
  | zero => exact .refl s
  | succ n =>
    cases hc : s.channels.get? c with
    | none =>
      simp only [dispatchTo, dispatchWith, hc]
      exact .refl s
    | some ch => exact fun hs => ⟨_, .announced ⟨s, c, ch, hc, payload, ref, joinRef⟩ n hs cause⟩

variable [Obliging ω]

/-- The channels that are left after the announcement of a closing were there before. -/
theorem kept_after (f : Farewell ω) (n : Nat) (hs : f.before.Fitting) {ch' : Channel}
    (hd : (f.after n).channels.get? d = some ch') :
    ∃ ch, f.before.channels.get? d = some ch ∧ ch'.Fitting ∧ ch.SameClosing ch' := by
  have hfitting := hs f.found
  cases hcloses : f.closes with
  | false => 
    have hget := (f.quiet_after hfitting n hcloses).get? d
    exact ⟨ch', hget ▸ hd, hs (hget ▸ hd), .refl ch'⟩
  | true =>
    have hafter := f.closes_after hfitting n hcloses
    by_cases heq : d = f.id
    · subst heq
      rw [hafter.get?_self] at hd
      split at hd
      · cases hd
      · cases hd
        exact ⟨f.channel, f.found, hfitting.keep_pushes rfl rfl rfl rfl⟩
    · rw [hafter.get?_of_ne heq] at hd
      exact ⟨ch', hd, hs hd, .refl ch'⟩

theorem Partings.fitting (h : Partings news fs s t) (hs : s.Fitting) : t.Fitting := by
  induction h with
  | besides untold => exact untold.fitting
  | announced f n fitting cause =>
    intro d ch hd
    obtain ⟨_, _, hch, _⟩ := kept_after f n fitting hd
    exact hch
  | trans first rest ih₁ ih₂ => exact ih₂ (ih₁ hs)

theorem Parts.trans (h : Parts news s t) (h' : Parts news t u) : Parts news s u := by
  intro hs
  obtain ⟨fs, hfs⟩ := h hs
  obtain ⟨gs, hgs⟩ := h' (hfs.fitting hs)
  exact ⟨fs ++ gs, .trans hfs hgs⟩

theorem parts_foldl {α : Type} {f : Socket (Recorded (Watched ω)) → α → Socket (Recorded (Watched ω))}
    (h : ∀ s a, Parts news s (f s a)) (l : List α) (s : Socket (Recorded (Watched ω))) :
    Parts news s (l.foldl f s) := by
  induction l generalizing s with
  | nil => exact .refl s
  | cons a l ih => exact (h s a).trans (ih (f s a))

/-! ### Dispatches -/

omit [Obliging ω] in
theorem parts_react (n : Nat) (c : ChannelId) (reaction : Reaction)
    (s : Socket (Recorded (Watched ω))) : Parts news s (s.react (dispatchTo n) c reaction) := by
  cases reaction with
  | joinOk => exact (unannounced_acceptJoin s c).parts
  | joinError =>
    simp only [react]
    split
    · exact ((unannounced_markErrored s c).trans (unannounced_scheduleRejoinIfConnected _ c)).parts
    · exact .refl s
  | joinTimeout => exact (unannounced_abandonJoin s c).parts
  | leaveDone => exact parts_close .left n c s

theorem parts_runReplyHook (n : Nat) (c : ChannelId) (p : PushId) (reply : Reply)
    (s : Socket (Recorded (Watched ω))) (index : Nat) :
    Parts news s (runReplyHook (dispatchTo n) c p reply s index) := by
  unfold runReplyHook
  split
  · exact .refl s
  · rename_i status hook _
    dsimp only
    split
    · have hrun : Parts news s (s.perform (.runReply c p hook reply)) := (unannounced_perform s rfl).parts
      split
      · exact hrun
      · exact hrun.trans (parts_react n c _ _)
    · exact .refl s

theorem parts_resolvePush (n : Nat) (c : ChannelId) (p : PushId) (reply : Reply)
    (s : Socket (Recorded (Watched ω))) : Parts news s (s.resolvePush (dispatchTo n) c p reply) := by
  unfold resolvePush
  split
  · exact .refl s
  · rename_i push hpush
    have hsettled : Parts news s (s.settlePush c p push reply) := (unannounced_settlePush hpush reply).parts
    refine (hsettled.trans ?_).trans (unannounced_releasePush _ c p).parts
    exact parts_foldl (parts_runReplyHook n c p reply) _ _

/-- An event that is no closing reaches one of its bindings. -/
theorem parts_runBinding (n : Nat) (c : ChannelId) {event : InboundEvent}
    (hevent : event.event ≠ Event.close)
    (nested : ∀ r payload (s : Socket (Recorded (Watched ω))),
      Parts news s (dispatchTo n c (Event.replyTo r) payload none none s))
    (s : Socket (Recorded (Watched ω))) (number : BindingId) :
    Parts news s (s.runBinding (dispatchTo n) c event number) := by
  unfold runBinding
  split
  · rename_i b hb
    obtain ⟨ch, hc, hfind⟩ := Option.bind_eq_some_iff.mp hb
    have hmatch := List.find?_some hfind
    simp only [Bool.and_eq_true, beq_iff_eq] at hmatch
    unfold runTarget
    split
    · exact (unannounced_listener s (.callback _) hevent).parts
    · exact (unannounced_listener s (.stream _) hevent).parts
    · unfold redirect
      split
      · exact nested _ _ s
      · exact .refl s
    · split
      · exact parts_resolvePush n c _ _ s
      · exact .refl s
    · -- Only under its own name a channel closes.
      rename_i htarget
      intro hs
      have hfits := (hs hc).fits b (List.mem_of_find?_eq_some hfind)
      simp only [Binding.Fits, htarget] at hfits
      exact absurd (hmatch.2.symm.trans hfits) hevent
    · exact (unannounced_failChannel s c).parts
  · exact .refl s

/-- An event is dispatched; a closing is announced for a cause. -/
theorem parts_dispatchTo (n : Nat) (c : ChannelId)
    (cause : event = Event.close → Parting news payload ref joinRef)
    (s : Socket (Recorded (Watched ω))) :
    Parts news s (dispatchTo n c event payload ref joinRef s) := by
  induction n generalizing event payload ref joinRef s with
  | zero => exact .refl s
  | succ n ih =>
    by_cases hevent : event = Event.close
    · subst hevent
      exact parts_close (cause rfl) (n + 1) c s
    · simp only [dispatchTo, dispatchWith]
      split
      · exact .refl s
      · rename_i ch _
        have hpass : Parts news s (s.passHook ch event payload ref).2 :=
          (unannounced_passHook s ch hevent payload ref).parts
        split
        · rename_i heq
          rw [heq] at hpass
          exact hpass
        · rename_i heq
          rw [heq] at hpass
          refine hpass.trans ?_
          unfold runBindings
          split
          · exact .refl _
          · refine parts_foldl (parts_runBinding n c hevent fun r payload s => ?_) _ _
            exact ih (fun h => absurd h (Event.replyTo_ne_close r)) s

/-! ### Pushes -/

/-- A channel answers one of its pushes. -/
theorem parts_triggerPush (s : Socket (Recorded (Watched ω))) (c : ChannelId) (p : PushId)
    (status : String) (response : Payload) : Parts news s (s.triggerPush c p status response) := by
  unfold triggerPush
  split
  · rename_i event hevent
    intro hs
    obtain ⟨push, hpush, hrefEvent⟩ := Option.bind_eq_some_iff.mp hevent
    obtain ⟨r, rfl⟩ := hs.named hpush event hrefEvent
    exact parts_dispatchTo 3 c (fun h => absurd h (Event.replyTo_ne_close r)) s hs
  · exact .refl s

theorem parts_pushTimeout (s : Socket (Recorded (Watched ω))) (c : ChannelId) (p : PushId)
    (generation : Nat) : Parts news s (s.pushTimeout c p generation) := by
  unfold pushTimeout
  split
  · exact .refl s
  · rename_i timer _
    have hlapsed : Unannounced s (s.modifyPush c p fun q => { q with timer := timer }) :=
      unannounced_modifyPush s c p fun _ => .inl rfl
    exact hlapsed.parts.trans (parts_triggerPush _ c p _ _)

/-- A channel is left. -/
theorem parts_leave (s : Socket (Recorded (Watched ω))) (c : ChannelId) (p : PushId) (timeout : Nat)
    (detached : Bool) : Parts news s (s.leave c p timeout detached) := by
  unfold leave
  split
  · exact .refl s
  · have hdeparts : Unannounced s (s.modifyChannel c fun ch =>
        { ch with
          rejoinTimer := ch.rejoinTimer.reset
          state := .leaving
          pushes := (ch.pushes.modify joinPush fun join =>
            { join with timer := join.timer.cancel }).set p
              { Push.leave timeout with detached := detached } }) := by
      refine unannounced_modifyChannel fun ch _ hch => ?_
      obtain ⟨hcancelled, hsame⟩ := hch.modifyPush joinPush
        (f := fun join => { join with timer := join.timer.cancel })
        fun q event hq hevent => hch.named hq hevent
      obtain ⟨hset, hsame'⟩ := hcancelled.setPush p
        (q := { Push.leave timeout with detached := detached }) fun event hevent => by cases hevent
      let departed : Channel := { ch with
        rejoinTimer := ch.rejoinTimer.reset
        state := .leaving
        pushes := (ch.pushes.modify joinPush fun join =>
          { join with timer := join.timer.cancel }).set p
            { Push.leave timeout with detached := detached } }
      obtain ⟨hfitting, hsame''⟩ : departed.Fitting ∧ Channel.SameClosing _ departed :=
        hset.keep_pushes rfl rfl rfl rfl
      exact ⟨hfitting, (hsame.trans hsame').trans hsame''⟩
    dsimp only
    split
    · exact (hdeparts.trans (unannounced_sendPush _ c p)).parts
    · exact (hdeparts.trans (unannounced_sendPush _ c p)).parts.trans (parts_triggerPush _ c p _ _)

theorem parts_leaveOpenTopic (s : Socket (Recorded (Watched ω))) (topic : String) (c : ChannelId) :
    Parts news s (s.leaveOpenTopic topic c) := by
  unfold leaveOpenTopic
  split
  · exact .refl s
  · rename_i other _
    split
    · exact .refl s
    · have hdrawn : Unannounced s (s.drawPush other).2 := .of_eq rfl rfl rfl
      exact hdrawn.parts.trans (parts_leave _ other _ _ true)

/-- A channel joins, and another one of its topic is left before. -/
theorem parts_rejoin (s : Socket (Recorded (Watched ω))) (c : ChannelId) :
    Parts news s (s.rejoin c) := by
  unfold rejoin
  split
  · exact .refl s
  · rename_i ch _
    split
    · exact .refl s
    · refine (parts_leaveOpenTopic s ch.topic c).trans ?_
      dsimp only
      split
      · exact .refl _
      · refine Unannounced.parts (.trans ?_ (unannounced_resendPush _ c joinPush _))
        exact unannounced_amend _ c (fun _ => rfl) (fun _ => rfl) (fun _ => rfl) (fun _ => rfl)

theorem parts_rejoinTimeout (s : Socket (Recorded (Watched ω))) (c : ChannelId) (generation : Nat) :
    Parts news s (s.rejoinTimeout c generation) := by
  unfold rejoinTimeout
  split
  · exact .refl s
  · rename_i timer _
    have hfired : Unannounced s (s.modifyChannel c fun ch => { ch with rejoinTimer := timer }) :=
      unannounced_amend s c (fun _ => rfl) (fun _ => rfl) (fun _ => rfl) (fun _ => rfl)
    dsimp only
    split
    · exact hfired.parts.trans (parts_rejoin _ c)
    · exact hfired.parts

omit [Outside ω] [Obliging ω] in
theorem unannounced_resetRejoin (s : Socket (Recorded (Watched ω))) (c : ChannelId) :
    Unannounced s (s.resetRejoin c) :=
  unannounced_amend s c (fun _ => rfl) (fun _ => rfl) (fun _ => rfl) (fun _ => rfl)

/-! ### The connection -/

/-- The channels are told of a failure. -/
theorem parts_triggerErrors (s : Socket (Recorded (Watched ω))) : Parts news s s.triggerErrors := by
  refine parts_foldl (fun s c => ?_) s.order s
  split
  · split
    · exact parts_dispatchTo 3 c (fun h => absurd h (by decide)) s
    · exact .refl s
  · exact .refl s

/-- The connection is let go, and the channels are told of a failure. -/
theorem parts_retire (s : Socket (Recorded (Watched ω))) : Parts news s s.retire := by
  unfold retire
  split
  · exact .refl s
  · rename_i conn _
    have hasked : Unsaid s { ({ s with conn := none }.detach conn.transport).perform
        (.close conn.transport none none) with retired := s.retired ++ [conn] } :=
      Unsaid.trans (t := { s with conn := none }.detach conn.transport) (.of_eq rfl)
        ((unsaid_perform _ rfl).trans (.of_eq rfl))
    exact (hasked.unannounced rfl rfl).parts.trans (parts_triggerErrors _)

theorem parts_replaceTransport (s : Socket (Recorded (Watched ω))) (factory : Factory) :
    Parts news s (s.replaceTransport factory) := by
  set u : Socket (Recorded (Watched ω)) := { s.tick.resetReconnect with
    closeWasClean := true, sendBuffer := [] } with hu
  have hstart : Unannounced s u := .of_eq rfl rfl rfl
  have hpruned := (quiet_pruneRetired u).unannounced (unsaid_pruneRetired u)
  have hreplaced : Unannounced u.pruneRetired.retire { u.pruneRetired.retire with factory := factory } :=
    .of_eq rfl rfl rfl
  exact ((hstart.trans hpruned).parts.trans (parts_retire _)).trans hreplaced.parts

theorem parts_loseConnection (s : Socket (Recorded (Watched ω))) : Parts news s s.loseConnection := by
  set u : Socket (Recorded (Watched ω)) := { s with pendingHeartbeat := none } with hu
  set v : Socket (Recorded (Watched ω)) := { u.triggerErrors with closeWasClean := false } with hv
  have hstart : Unannounced s u := .of_eq rfl rfl rfl
  have hmarked : Unannounced u.triggerErrors v := .of_eq rfl rfl rfl
  have htorn := (quiet_beginTeardown v (some CloseEvent.normalCode) (some "heartbeat timeout")
    .scheduleReconnect).unannounced (unsaid_beginTeardown v _ _ _)
  exact (hstart.parts.trans (parts_triggerErrors u)).trans (hmarked.trans htorn).parts

/-! ### What transports report -/

theorem parts_runOnOpen (s : Socket (Recorded (Watched ω))) (ref : Ref) :
    Parts news s (runOnOpen s ref) := by
  unfold runOnOpen
  split
  · exact (unannounced_perform s rfl).parts
  · unfold rejoinIfErrored
    split
    · exact .refl s
    · dsimp only
      split
      · exact (unannounced_resetRejoin s _).parts.trans (parts_rejoin _ _)
      · exact (unannounced_resetRejoin s _).parts
  · exact .refl s

theorem parts_connectionOpened (s : Socket (Recorded (Watched ω))) :
    Parts news s s.connectionOpened :=
  ((quiet_markOpen s).unannounced (unsaid_markOpen s)).parts.trans (parts_foldl parts_runOnOpen _ _)

theorem parts_connectionClosed (s : Socket (Recorded (Watched ω))) (event : CloseEvent) :
    Parts news s (s.connectionClosed event) := by
  have hcleared : Unannounced s.triggerErrors s.triggerErrors.clearHeartbeats := .of_eq rfl rfl rfl
  have hcallbacks : ∀ u : Socket (Recorded (Watched ω)),
      Unannounced u (u.callbacks.onClose.refs.foldl (runOnClose event) u) := by
    refine fun u => unannounced_foldl (fun v ref => ?_) _ u
    unfold runOnClose
    split
    · exact unannounced_perform v rfl
    · exact .refl v
  have htold : Parts news s s.triggerErrors.clearHeartbeats :=
    (parts_triggerErrors s).trans hcleared.parts
  simp only [connectionClosed]
  split
  · have hscheduled : Unannounced s.triggerErrors.clearHeartbeats
        s.triggerErrors.clearHeartbeats.scheduleReconnect := .of_eq rfl rfl rfl
    exact htold.trans (hscheduled.trans (hcallbacks _)).parts
  · exact htold.trans (hcallbacks _).parts

omit [Obliging ω] in
theorem unannounced_runOnErrors (failure : SocketError) (refs : List Ref) (context : ErrorContext)
    (s : Socket (Recorded (Watched ω))) :
    Unannounced s (refs.foldl (runOnError failure) (context, s)).2 := by
  induction refs generalizing context s with
  | nil => exact .refl s
  | cons ref refs ih =>
    rw [List.foldl_cons]
    refine .trans ?_ (ih (runOnError failure (context, s) ref).1 _)
    split
    · rename_i callback _
      exact Unsaid.unannounced ⟨[.error callback failure], rfl, by simp [Call.isFarewell]⟩ rfl rfl
    · exact unannounced_resetRejoin s _
    · exact .refl s

theorem parts_connectionFailed (s : Socket (Recorded (Watched ω))) (cause : TransportError) :
    Parts news s (s.connectionFailed cause) := by
  have herrors := unannounced_runOnErrors (.transport cause) s.callbacks.onError.refs s.errorContext s
  rcases hrun : s.callbacks.onError.refs.foldl (runOnError (.transport cause)) (s.errorContext, s)
    with ⟨context, u⟩
  rw [hrun] at herrors
  have hfallback : Parts news u (u.takeFallback context.fallback) := by
    unfold takeFallback
    split
    · exact (parts_replaceTransport u _).trans ((quiet_connect _).unannounced (unsaid_connect _)).parts
    · exact .refl u
  have htaken := herrors.parts.trans hfallback
  simp only [connectionFailed, hrun]
  split
  · exact htaken.trans (parts_triggerErrors _)
  · exact htaken

/-- A message that closes a channel announces the closing to it. -/
theorem parts_deliver {m : Message} (hnews : news = some m) (s : Socket (Recorded (Watched ω)))
    (c : ChannelId) : Parts news s (deliver m s c) := by
  unfold deliver
  split
  · exact parts_dispatchTo 3 c (fun hcloses => .said hnews hcloses) s
  · exact .refl s

theorem parts_messageReceived {m : Message} (hnews : news = some m)
    (s : Socket (Recorded (Watched ω))) : Parts news s (s.messageReceived m) := by
  set u := if s.answersHeartbeat m then s.acknowledgeHeartbeat else s with hu
  have hacknowledged : Unannounced s u := by
    rw [hu]
    split <;> exact .of_eq rfl rfl rfl
  have hcallbacks : ∀ (v : Socket (Recorded (Watched ω))) (ref : Ref),
      Unannounced v (runOnMessage m v ref) := fun v ref =>
    Strokes.unannounced (strokes_runOnMessage m v ref)
  have hdelivered : Parts news u (u.order.foldl (deliver m) u) :=
    parts_foldl (parts_deliver hnews) u.order u
  exact (hacknowledged.parts.trans hdelivered).trans
    (unannounced_foldl hcallbacks (u.order.foldl (deliver m) u).callbacks.onMessage.refs _).parts

theorem parts_transportEvent (s : Socket (Recorded (Watched ω))) (t : TransportId)
    (event : TransportEvent) :
    Parts (s.incoming? (.transport t event)) s (s.transportEvent t event) := by
  have hpruned := (quiet_pruneRetired s).unannounced (unsaid_pruneRetired s)
  have hconn := conn_pruneRetired s
  refine hpruned.parts.trans ?_
  cases hget : s.conn with
  | none =>
    rw [hget] at hconn
    simp only [transportEvent, hconn]
    exact .refl _
  | some conn =>
    rw [hget] at hconn
    by_cases heq : conn.transport = t
    · simp only [transportEvent, hconn, heq, if_true]
      cases event with
      | opened => exact parts_connectionOpened _
      | failed cause => exact parts_connectionFailed _ cause
      | received frame =>
        cases hdecode : conn.serializer.decode frame with
        | ok m =>
          simp only [frameReceived, hdecode]
          refine parts_messageReceived ?_ _
          simp only [incoming?, hget, heq, if_true, hdecode, Except.toOption]
        | error cause =>
          simp only [frameReceived, hdecode]
          exact (Strokes.unannounced (strokes_report _ _)).parts
      | closed event => exact parts_connectionClosed _ event
    · simp only [transportEvent, hconn, heq, if_false]
      exact .refl _

/-! ### Timers and handles -/

theorem parts_timerEvent (s : Socket (Recorded (Watched ω))) (event : TimerEvent) :
    Parts news s (s.timerEvent event) := by
  cases event with
  | heartbeatDue generation =>
    exact ((quiet_heartbeatDue s generation).unannounced (unsaid_heartbeatDue s generation)).parts
  | heartbeatTimeout generation =>
    simp only [timerEvent, heartbeatTimeoutDue]
    split
    · exact .refl s
    · rename_i timer _
      have hfired : Unannounced s { s with heartbeatTimeout := timer } := .of_eq rfl rfl rfl
      split
      · exact hfired.parts.trans (parts_loseConnection _)
      · exact hfired.parts
  | reconnect generation =>
    simp only [timerEvent]
    split
    · rename_i timer _
      have hfired : Unannounced s { s with reconnectTimer := timer } := .of_eq rfl rfl rfl
      exact (hfired.trans ((quiet_beginTeardown _ none none .connect).unannounced
        (unsaid_beginTeardown _ none none .connect))).parts
    · exact .refl s
  | rejoin c generation => exact parts_rejoinTimeout s c generation
  | pushTimeout c p generation => exact parts_pushTimeout s c p generation
  | teardown number generation =>
    exact ((quiet_teardownTimeout s number generation).unannounced
      (unsaid_teardownTimeout s number generation)).parts

/-! ### What handles ask for -/

omit [Obliging ω] in
theorem unannounced_push (s : Socket (Recorded (Watched ω))) (c : ChannelId) (p : PushId)
    (event : String) (payload : Payload) (timeout : Nat) :
    Unannounced s (s.push c p event payload timeout) := by
  unfold push
  split
  · exact .refl s
  · have hnew : Unannounced s (s.modifyChannel c fun ch =>
        { ch with pushes := ch.pushes.set p (.new event (.fixed payload) timeout) }) :=
      unannounced_insert s c p rfl
    dsimp only
    split
    · exact hnew.trans (unannounced_sendPush _ c p)
    · refine (hnew.trans (unannounced_startTimeout _ c p)).trans ?_
      exact unannounced_amend _ c (fun _ => rfl) (fun _ => rfl) (fun _ => rfl) (fun _ => rfl)

omit [Obliging ω] in
theorem unannounced_receive (s : Socket (Recorded (Watched ω))) (c : ChannelId) (p : PushId)
    (status : String) (callback : CallbackId) : Unannounced s (s.receive c p status callback) := by
  unfold receive
  split
  · exact .refl s
  · refine .trans ?_ (unannounced_modifyPush _ c p fun _ => .inl rfl)
    split
    · split
      · exact unannounced_perform s rfl
      · exact .refl s
    · exact .refl s

omit [Obliging ω] in
theorem unannounced_awaitReply (s : Socket (Recorded (Watched ω))) (c : ChannelId) (p : PushId)
    (ticket : Ticket) : Unannounced s (s.awaitReply c p ticket) := by
  unfold awaitReply
  split
  · exact unannounced_perform s rfl
  · split
    · exact unannounced_perform s rfl
    · exact unannounced_modifyPush s c p fun _ => .inl rfl

omit [Outside ω] [Obliging ω] in
theorem unannounced_release (s : Socket (Recorded (Watched ω))) (c : ChannelId) (p : PushId) :
    Unannounced s (s.release c p) := by
  unfold release
  split
  · exact .refl s
  · refine .trans ?_ (unannounced_releasePush _ c p)
    exact unannounced_modifyPush s c p fun _ => .inl rfl

omit [Obliging ω] in
theorem unannounced_tell (s : Socket (Recorded (Watched ω))) (c : ChannelId) (ticket : Ticket)
    (f : Channel → Answer) : Unannounced s (s.tell c ticket f) := by
  unfold tell
  split <;> exact unannounced_perform s rfl

theorem parts_applyOp (s : Socket (Recorded (Watched ω))) (c : ChannelId) {op : ChannelOp}
    (hop : (Command.channel c op).rearranges = false) : Parts news s (s.applyOp c op) := by
  cases op with
  | join timeout =>
    have hset : Unannounced s (s.modifyChannel c fun ch => { ch with timeout := timeout }) :=
      unannounced_amend s c (fun _ => rfl) (fun _ => rfl) (fun _ => rfl) (fun _ => rfl)
    exact hset.parts.trans (parts_rejoin _ c)
  | push p event payload timeout => exact (unannounced_push s c p event payload timeout).parts
  | leave p timeout => exact parts_leave s c p timeout false
  | bind | unbind | setHook => cases hop
  | receive p status callback => exact (unannounced_receive s c p status callback).parts
  | awaitReply p ticket => exact (unannounced_awaitReply s c p ticket).parts
  | release p => exact (unannounced_release s c p).parts
  | askState ticket => exact (unannounced_tell s c ticket _).parts
  | askJoinRef ticket => exact (unannounced_tell s c ticket _).parts
  | askRejoinTries ticket => exact (unannounced_tell s c ticket _).parts

theorem parts_channelOp (s : Socket (Recorded (Watched ω))) (c : ChannelId) {op : ChannelOp}
    (hop : (Command.channel c op).rearranges = false) : Parts news s (s.channelOp c op) := by
  unfold channelOp
  split
  · exact parts_applyOp s c hop
  · split
    · exact (unannounced_perform s rfl).parts
    · exact .refl s

/-! ### Commands -/

/-- While a command is carried out, closings are announced for what it brings. -/
theorem parts_handle (s : Socket (Recorded (Watched ω))) {cmd : Command}
    (h : cmd.rearranges = false) : Parts (s.incoming? cmd) s (s.handle cmd) := by
  cases cmd with
  | connect => exact ((quiet_connect s).unannounced (unsaid_connect s)).parts
  | disconnect code reason done =>
    exact ((quiet_disconnect s code reason _).unannounced (unsaid_disconnect s code reason _)).parts
  | replaceTransport factory => exact parts_replaceTransport s factory
  | pause => exact ((quiet_pause s).unannounced (unsaid_pause s)).parts
  | resume => exact ((quiet_resume s).unannounced (unsaid_resume s)).parts
  | register occasion ref callback => exact Unannounced.parts (.of_eq rfl rfl rfl)
  | off refs => exact (strokes_off s refs).unannounced.parts
  | ping ticket => exact ((quiet_ping s ticket).unannounced (unsaid_ping s ticket)).parts
  | askReadyState ticket => exact (unannounced_perform s rfl).parts
  | askReconnectTries ticket => exact (unannounced_perform s rfl).parts
  | askEstablished ticket => exact (unannounced_perform s rfl).parts
  | createChannel | dropChannel | shutdown => cases h
  | channel c op => exact parts_channelOp s c h
  | transport t event => exact parts_transportEvent s t event
  | timer event => exact parts_timerEvent s event

omit [Obliging ω] in
theorem unsaid_shutdown (s : Socket (Recorded (Watched ω))) : Unsaid s s.shutdown := by
  have habandon : ∀ u : Socket (Recorded (Watched ω)), Unsaid u u.abandonConnection := by
    intro u
    unfold abandonConnection
    split
    · exact .of_eq rfl
    · rename_i conn _
      exact .trans (.of_eq rfl) (unsaid_performAll ({ u with conn := none }.detach conn.transport)
        (by simp [Effect.listener?]))
  have hretired : ∀ (retired : List Connection) (u : Socket (Recorded (Watched ω))),
      Unsaid u (retired.foldl abandonRetired u) := by
    intro retired
    induction retired with
    | nil => exact fun u => .of_eq rfl
    | cons conn retired ih =>
      exact fun u => Unsaid.trans (t := u.detach conn.transport) (.of_eq rfl)
        ((unsaid_perform _ rfl).trans (ih _))
  set u := { s with teardown := none }.clearHeartbeats.resetReconnect with hu
  set v := u.abandonConnection with hv
  have hstart : Unsaid s u := .of_eq rfl
  have hforgotten : Unsaid v { v with retired := [] } := .of_eq rfl
  exact ((hstart.trans (habandon u)).trans (hforgotten.trans (hretired v.retired _))).trans (.of_eq rfl)

omit [Obliging ω] in
theorem unsaid_dropChannel (s : Socket (Recorded (Watched ω))) (c : ChannelId) :
    Unsaid s (s.dropChannel c) := by
  unfold dropChannel eraseChannel
  split
  · exact .of_eq rfl
  · split
    · exact .of_eq rfl
    · exact .trans (.of_eq rfl) (strokes_discardAll _ _).unsaid

omit [Obliging ω] in
/-- When channels come and go, and when users change their bindings, nobody is told of a closing. -/
theorem unsaid_handle (s : Socket (Recorded (Watched ω))) {cmd : Command}
    (h : cmd.rearranges = true) : Unsaid s (s.handle cmd) := by
  cases cmd with
  | createChannel c topic params => exact .of_eq rfl
  | dropChannel c => exact unsaid_dropChannel s c
  | shutdown => exact unsaid_shutdown s
  | channel c op =>
    cases op with
    | bind | unbind | setHook =>
      simp only [handle, channelOp]
      split <;> exact .of_eq rfl
    | _ => cases h
  | _ => cases h

/-! ### Bindings that fit -/

omit [Outside ω] [Obliging ω] in
theorem Fitting.quiet (hs : s.Fitting) (h : Quiet s t) : t.Fitting := fun _ _ hc =>
  hs (h.channels_eq ▸ hc)

omit [Outside ω] [Obliging ω] in
/-- A user changes what counts when a channel closes. -/
theorem Fitting.modifyChannel (hs : s.Fitting) {f : Channel → Channel}
    (hf : ∀ ch, s.channels.get? c = some ch → ch.Fitting → (f ch).Fitting) :
    (s.modifyChannel c f).Fitting := by
  intro d ch' hd
  simp only [Socket.modifyChannel, Table.get?_modify] at hd
  split at hd
  · obtain ⟨ch, hc, rfl⟩ := Option.map_eq_some_iff.mp hd
    rename_i heq
    exact hf ch (heq ▸ hc) (hs hc)
  · exact hs hd

theorem Fitting.dropChannel (hs : s.Fitting) (c : ChannelId) : (s.dropChannel c).Fitting := by
  unfold Socket.dropChannel eraseChannel
  split
  · exact hs.modifyChannel fun ch _ hch => ⟨hch.fits, hch.named, hch.numbers, hch.first⟩
  · split
    · exact hs
    · refine Fitting.quiet (fun d ch hd => ?_) (quiet_discardAll _ _)
      rw [Table.get?_erase] at hd
      split at hd
      · cases hd
      · exact hs hd

omit [Outside ω] [Obliging ω] in
theorem Fitting.createChannel (hs : s.Fitting) (c : ChannelId) (topic : String) (params : Params) :
    (s.createChannel c topic params).Fitting := by
  intro d ch hd
  rcases (enters_createChannel s c topic params).get? d hd with hold | ⟨_, _, _, _, rfl⟩
  · exact hs hold
  · exact Channel.fitting_new _ _ _ _

/-- Whatever a socket does, the bindings of its channels fit. -/
theorem Fitting.handle (hs : s.Fitting) {cmd : Command} (hdue : Due s cmd) : (s.handle cmd).Fitting := by
  cases hkind : cmd.rearranges with
  | false =>
    obtain ⟨fs, hfs⟩ := parts_handle s hkind hs
    exact hfs.fitting hs
  | true =>
    cases cmd with
    | createChannel c topic params => exact hs.createChannel c topic params
    | dropChannel c => exact hs.dropChannel c
    | shutdown =>
      intro c ch hc
      rw [show (s.handle .shutdown).channels = .empty from rfl, Table.get?_empty] at hc
      cases hc
    | channel c op =>
      simp only [Socket.handle, channelOp]
      cases op with
      | bind n event listener =>
        obtain ⟨_, hfresh⟩ := hdue.binding (c := c) (n := n) (by simp [Command.number?])
        split
        · exact hs.modifyChannel fun ch hc hch => hch.listen (hfresh hc) event listener
        · exact hs
      | unbind event number =>
        split
        · exact hs.modifyChannel fun ch _ hch => hch.filter _
        · exact hs
      | setHook hook =>
        split
        · exact hs.modifyChannel fun ch _ hch => ⟨hch.fits, hch.named, hch.numbers, hch.first⟩
        · exact hs
      | _ => cases hkind
    | _ => cases hkind

theorem preserved_fitting :
    Preserved (ω := Watched ω) (fun _ _ => True) Fitting where
  quiet hs h := hs.quiet h
  ends _ h := fun c ch hc => by
    rw [h.channels_eq, Table.get?_empty] at hc
    cases hc
  handle hsound hs hnext _ := Fitting.handle (hs.quiet (quiet_next? hnext)) (due_of_next? hsound hnext)

theorem Reachable.fitting (h : Reachable (ω := Watched ω) (fun _ _ => True) s) : s.Fitting :=
  (preserved_fitting.reachable (fun _ _ _ _ c ch hc => by cases hc) h).2

/-! ### What partings come to -/

/-- The channels that are left were there before, and nothing has changed of what counts. -/
theorem Partings.kept (h : Partings news fs s t) (hs : s.Fitting) {ch' : Channel}
    (hd : t.channels.get? d = some ch') : ∃ ch, s.channels.get? d = some ch ∧ ch.SameClosing ch' := by
  induction h generalizing ch' with
  | besides untold => exact untold.channel hd
  | announced f n fitting cause =>
    obtain ⟨ch, hd', _, hsame⟩ := kept_after f n fitting hd
    exact ⟨ch, hd', hsame⟩
  | trans first rest ih₁ ih₂ =>
    obtain ⟨ch', hd', hsame'⟩ := ih₂ (first.fitting hs) hd
    obtain ⟨ch, hd'', hsame⟩ := ih₁ hs hd'
    exact ⟨ch, hd'', hsame.trans hsame'⟩

/-- All that is said of closings is what the announcements come to. -/
theorem Partings.made (h : Partings news fs s t) (hs : s.Fitting) : ∃ made, t.made = s.made ++ made ∧
    made.filter Call.isFarewell = fs.flatMap Farewell.told := by
  induction h with
  | besides untold =>
    obtain ⟨made, hmade, hcalls⟩ := untold.unsaid
    refine ⟨made, hmade, ?_⟩
    rw [List.filter_eq_nil_iff.mpr fun call hcall => by simp [hcalls call hcall]]
    rfl
  | announced f n fitting cause =>
    obtain ⟨made, hmade, htold⟩ := f.made_after (hs f.found) n
    exact ⟨made, hmade, by simpa using htold⟩
  | trans first rest ih₁ ih₂ =>
    obtain ⟨made, hmade, htold⟩ := ih₁ hs
    obtain ⟨made', hmade', htold'⟩ := ih₂ (first.fitting hs)
    refine ⟨made ++ made', by rw [hmade', hmade, List.append_assoc], ?_⟩
    rw [List.filter_append, htold, htold', List.flatMap_append]

/-- What is announced has a cause, and the channel has the bindings that it had. -/
theorem Partings.each (h : Partings news fs s t) (hs : s.Fitting) :
    ∀ f ∈ fs, Parting news f.payload f.ref f.joinRef ∧
      ∃ ch, s.channels.get? f.id = some ch ∧ ch.SameClosing f.channel := by
  induction h with
  | besides untold => simp
  | announced f n fitting cause =>
    intro g hg
    cases List.mem_singleton.mp hg
    exact ⟨cause, f.channel, f.found, .refl _⟩
  | trans first rest ih₁ ih₂ =>
    intro f hf
    rcases List.mem_append.mp hf with hf | hf
    · exact ih₁ hs f hf
    · obtain ⟨hcause, ch', hc', hsame'⟩ := ih₂ (first.fitting hs) f hf
      obtain ⟨ch, hc, hsame⟩ := first.kept hs hc'
      exact ⟨hcause, ch, hc, hsame.trans hsame'⟩

/-- A channel leaves the registry by one announcement, and none comes back. -/
theorem Partings.struck (h : Partings news fs s t) (hs : s.Fitting) : t.order ⊆ s.order ∧
    ∀ c, fs.countP (·.strikes c) = if c ∈ s.order ∧ c ∉ t.order then 1 else 0 := by
  induction h with
  | besides untold =>
    refine ⟨untold.order_eq ▸ List.Subset.refl _, fun c => ?_⟩
    rw [untold.order_eq]
    simp
  | announced f n fitting cause =>
    have hfitting := hs f.found
    cases hcloses : f.closes with
    | false =>
      have horder := (f.quiet_after hfitting n hcloses).order_eq
      refine ⟨horder ▸ List.Subset.refl _, fun c => ?_⟩
      rw [horder]
      simp [Farewell.strikes, hcloses]
    | true =>
      have horder := (f.closes_after hfitting n hcloses).order_eq
      refine ⟨horder ▸ List.filter_subset_self _, fun c => ?_⟩
      rw [horder]
      by_cases heq : c = f.id
      · subst heq
        by_cases hmem : f.id ∈ f.before.order <;> simp [Farewell.strikes, hcloses, hmem]
      · have hne : f.id ≠ c := fun h => heq h.symm
        have hstays : ¬ (c ∈ f.before.order ∧ c ∉ f.before.order.filter (· ≠ f.id)) :=
          fun h => h.2 (List.mem_filter.mpr ⟨h.1, by simpa using heq⟩)
        rw [if_neg hstays]
        simp [Farewell.strikes, hne]
  | @trans fs gs s t u first rest ih₁ ih₂ =>
    obtain ⟨hsub, hcount⟩ := ih₁ hs
    obtain ⟨hsub', hcount'⟩ := ih₂ (first.fitting hs)
    refine ⟨fun c hc => hsub (hsub' hc), fun c => ?_⟩
    rw [List.countP_append, hcount, hcount']
    by_cases hu : c ∈ u.order
    · simp [hu, hsub' hu]
    · by_cases ht : c ∈ t.order
      · simp [hu, ht, hsub ht]
      · simp [hu, ht]

/-! ### Who is told -/

/-- The closings that a command announces: all that is said of closings is what they come to, each has a
cause and finds the listeners that the channel had before, and a channel leaves the registry by one. -/
structure Farewells (cmd : Command) (s : Socket (Recorded (Watched ω))) (fs : List (Farewell ω))
    (t : Socket (Recorded (Watched ω))) : Prop where
  told : ∃ made, t.made = s.made ++ made ∧ made.filter Call.isFarewell = fs.flatMap Farewell.told
  each : ∀ f ∈ fs, Parting (s.incoming? cmd) f.payload f.ref f.joinRef ∧
    ∃ ch, s.channels.get? f.id = some ch ∧ ch.SameClosing f.channel
  struck : cmd ≠ .shutdown → ∀ c ∈ s.order, fs.countP (·.strikes c) = if c ∈ t.order then 0 else 1

/-- A channel that users merely rearrange stays in the registry. -/
theorem mem_order_handle {cmd : Command} (h : cmd.rearranges = true) (hends : cmd ≠ .shutdown)
    (hc : c ∈ s.order) : c ∈ (s.handle cmd).order := by
  cases cmd with
  | createChannel d topic params => exact List.mem_append_left _ hc
  | dropChannel d =>
    simp only [handle, dropChannel, eraseChannel]
    split
    · exact hc
    · split
      · exact hc
      · rename_i ch _
        have hquiet := quiet_discardAll { s with channels := s.channels.erase d } ch.waiters
        exact (congrArg (c ∈ ·) hquiet.order_eq).mpr hc
  | shutdown => exact absurd rfl hends
  | channel d op =>
    cases op with
    | bind | unbind | setHook =>
      simp only [handle, channelOp]
      split <;> exact hc
    | _ => cases h
  | _ => cases h

/-- While a command is carried out the closing of channels is announced to their hooks and, unless they
are forgotten by it, to each of their listeners. -/
theorem Reachable.closings_told (h : Reachable (ω := Watched ω) (fun _ _ => True) s) {cmd : Command}
    {x : Exchange} (next : s.exchange.next? = some (cmd, x)) :
    ∃ fs, Farewells cmd { s with exchange := x } fs ({ s with exchange := x }.handle cmd) := by
  have hs : Fitting { s with exchange := x } := h.fitting.quiet (quiet_next? next)
  cases hkind : cmd.rearranges with
  | false =>
    obtain ⟨fs, hfs⟩ := parts_handle { s with exchange := x } hkind hs
    refine ⟨fs, hfs.made hs, hfs.each hs, fun _ c hc => ?_⟩
    rw [(hfs.struck hs).2 c]
    simp only [hc, true_and]
    split <;> simp_all
  | true =>
    obtain ⟨made, hmade, hcalls⟩ := unsaid_handle { s with exchange := x } hkind
    refine ⟨[], ⟨made, hmade, ?_⟩, by simp, fun hends c hc => ?_⟩
    · exact List.filter_eq_nil_iff.mpr fun call hcall => by simp [hcalls call hcall]
    · rw [if_pos (mem_order_handle hkind hends hc)]
      rfl

end Outside

/-! ### Partings in a script -/

/-- Two listeners wait for the closing of a channel that has joined a topic, and one for that of another
channel of this topic, of which nobody has a handle any more; then the server closes both. -/
def closingBoth : List Deed :=
  joined "room" ++ [
    .ask 0 (fun x => (x.bind 0 Event.close (.callback 5)).2) fun x known => .bind x known _ _, .take,
    .ask 0 (fun x => (x.bind 0 Event.close (.stream 6)).2) fun x known => .bind x known _ _, .take,
    .createChannel "room", .take,
    .ask 1 (fun x => (x.bind 1 Event.close (.callback 7)).2) fun x known => .bind x known _ _, .take,
    .dropChannel 1, .take,
    .report 0 (.received (.binary
      (BinaryFrame.layout BinaryFrame.broadcastKind (["room", Event.close].map utf8Bytes) [])))]

/-- Both channels leave the registry; the listeners of the first are told, that of the second is not. -/
theorem closings_told_both : ∃ (s : Socket (Recorded (Watched Idle))) (cmd : Command) (x : Exchange)
    (fs : List (Farewell Idle)), Reachable (fun _ _ => True) s ∧
    s.exchange.next? = some (cmd, x) ∧
    Farewells cmd { s with exchange := x } fs ({ s with exchange := x }.handle cmd) ∧
    s.order = [0, 1] ∧ ({ s with exchange := x }.handle cmd).order = [] ∧
    fs.flatMap Farewell.told = [.effect (.runEvent 5 ⟨Event.close, .bytes [], none, some "3"⟩),
      .effect (.yield 6 ⟨Event.close, .bytes [], none, some "3"⟩)] := by
  obtain ⟨s, hplay, hview⟩ := Option.map_eq_some_iff.mp
    (show (observed.playIn? (fun s o => some { s with outside := ⟨⟨o, s.made⟩, s.log, s.dealings⟩ })
        (fun _ _ => true) closingBoth).map (fun s => (s.order, s.exchange.next?.map fun n =>
          (({ s with exchange := n.2 }.handle n.1).order,
            ((({ s with exchange := n.2 }.handle n.1).made).drop s.made.length).filter
              Call.isFarewell))) =
      some ([0, 1], some ([], [.effect (.runEvent 5 ⟨Event.close, .bytes [], none, some "3"⟩),
        .effect (.yield 6 ⟨Event.close, .bytes [], none, some "3"⟩)])) by cbv)
  simp only [Prod.mk.injEq] at hview
  obtain ⟨horder, hnext⟩ := hview
  obtain ⟨⟨cmd, x⟩, hnext, hafter⟩ := Option.map_eq_some_iff.mp hnext
  simp only [Prod.mk.injEq] at hafter
  obtain ⟨hleft, hcalls⟩ := hafter
  have hs : Reachable (fun _ _ => True) s := by
    refine ⟨_, _, _, _, steps_of_playIn? (fun s _ lawful => ?_) (fun {s o _} hbecome => ?_)
      (fun hnext _ => .take hnext trivial) hplay⟩
    · exact .surroundings lawful s.outside.outside
    · cases hbecome
      exact .surroundings .refl _
  obtain ⟨fs, hfs⟩ := hs.closings_told hnext
  refine ⟨s, cmd, x, fs, hs, hnext, hfs, horder, hleft, ?_⟩
  obtain ⟨made, hmade, htold⟩ := hfs.told
  rw [← htold, ← hcalls, hmade]
  exact congrArg _ (List.drop_left' rfl).symm

end Socket

end Switchboard
