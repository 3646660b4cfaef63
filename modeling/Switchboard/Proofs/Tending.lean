import Switchboard.Proofs.Heralds
import Switchboard.Proofs.Shifts

/-!
# Sockets that tend their channels

What a socket does about its connection, whatever command it carries out, leaves no channel forlorn
while the light is on.  There are two exceptions: a connection that opens lights the light, and then all
failed channels join again; and where a transport fails that was open, the join attempts of failed
channels are forgotten.

Main definitions

* `Socket.Heedful`: what is asked of commands.

Main results

* `Socket.tended_handle`: every command leaves the channels registered and tended;
* `Socket.tended_connectionOpened`: no channel is forlorn when the connection has opened.
-/

set_option autoImplicit false

namespace Switchboard

namespace Socket

variable {ω : Type} [Outside ω] {s t u : Socket (Recorded ω)} {c d : ChannelId} {p : PushId}
variable {ch : Channel} {X : Option ChannelId}

/-! ### Timers and counters of the socket -/

theorem tends_resetReconnect (s : Socket (Recorded ω)) : Tends X s s.resetReconnect :=
  tends_of_eq rfl rfl rfl le_rfl rfl rfl rfl

theorem tends_clearHeartbeats (s : Socket (Recorded ω)) : Tends X s s.clearHeartbeats :=
  tends_of_eq rfl rfl rfl le_rfl rfl rfl rfl

theorem tends_scheduleReconnect (s : Socket (Recorded ω)) : Tends X s s.scheduleReconnect :=
  tends_of_eq rfl rfl rfl le_rfl rfl rfl rfl

theorem tends_restartHeartbeat (s : Socket (Recorded ω)) : Tends X s s.restartHeartbeat :=
  tends_of_eq rfl rfl rfl le_rfl rfl rfl rfl

theorem tends_resetHeartbeat (s : Socket (Recorded ω)) : Tends X s s.resetHeartbeat := by
  unfold resetHeartbeat
  split
  · split
    · exact .refl s
    · exact tends_restartHeartbeat s
  · exact tends_restartHeartbeat s

theorem tends_armHeartbeatTimeout (s : Socket (Recorded ω)) : Tends X s s.armHeartbeatTimeout :=
  tends_of_eq rfl rfl rfl le_rfl rfl rfl rfl

theorem tends_awaitTeardown (s : Socket (Recorded ω)) (t : Teardown) (delay : Nat) :
    Tends X s (s.awaitTeardown t delay) :=
  tends_of_eq rfl rfl rfl le_rfl rfl rfl rfl

theorem tends_detach (s : Socket (Recorded ω)) (t : TransportId) : Tends X s (s.detach t) :=
  tends_of_eq rfl rfl rfl le_rfl rfl rfl rfl

variable [Obliging ω] [Heralding ω]

/-! ### Connecting -/

theorem tends_pruneRetired (s : Socket (Recorded ω)) : Tends none s s.pruneRetired := by
  refine Tends.trans ?_ (tends_performAll _ _)
  exact tends_of_eq rfl rfl rfl le_rfl rfl rfl rfl

/-- A transport that was just asked for is not open unless it tells. -/
theorem tends_openTransport (s : Socket (Recorded ω)) (url : String) :
    Tends none s (s.openTransport url) := by
  have hevolves : s.exchange.drawn ≤ (s.openTransport url).exchange.drawn :=
    (Obliging.perform _ (s.exchange.attach s.nextTransport) s.outside.outside).evolves.drawn_le
  have hdark : ¬ (s.openTransport url).Lit := by
    rintro ⟨conn, hconn, hopen, hheard⟩
    cases hconn
    exact hheard (Heralding.opens _ (s.exchange.attach s.nextTransport) s.outside.outside hopen)
  exact ⟨fun ht => absurd ht hdark, fun ht => absurd ht hdark,
    fun he => he.of_channels hevolves rfl rfl fun _ ch' hc' => ⟨ch', hc', rfl⟩, fun _ _ he => he⟩

theorem tends_connect (s : Socket (Recorded ω)) : Tends none s s.connect := by
  unfold connect
  split
  · exact .refl s
  · dsimp only
    split
    · refine Tends.trans ?_ (tends_openTransport _ _)
      exact tends_of_eq rfl rfl rfl le_rfl rfl rfl rfl
    · refine Tends.trans ?_ (tends_report _ _)
      exact tends_of_eq rfl rfl rfl le_rfl rfl rfl rfl

theorem tends_retire (s : Socket (Recorded ω)) : Tends none s s.retire := by
  unfold retire
  split
  · exact .refl s
  · refine Tends.trans ?_ (tends_triggerErrors _)
    rename_i conn _
    refine Tends.trans (t := ({ s with conn := none }.detach conn.transport).perform
      (.close conn.transport none none)) ?_ (tends_of_eq rfl rfl rfl le_rfl rfl rfl rfl)
    refine Tends.trans ?_ (tends_perform _ _)
    exact tends_of_vacant rfl le_rfl rfl rfl rfl

theorem tends_replaceTransport (s : Socket (Recorded ω)) (factory : Factory) :
    Tends none s (s.replaceTransport factory) := by
  unfold replaceTransport
  dsimp only
  refine Tends.trans ?_ (tends_of_eq (s := Socket.retire _) rfl rfl rfl le_rfl rfl rfl rfl)
  refine Tends.trans ?_ (tends_retire _)
  refine Tends.trans ?_ (tends_pruneRetired _)
  exact tends_of_eq rfl rfl rfl le_rfl rfl rfl rfl

/-! ### Tearing down -/

theorem tends_notifyAll (s : Socket (Recorded ω)) (tickets : List Ticket) :
    Tends none s (s.notifyAll tickets) :=
  tends_performAll s _

theorem tends_continueWith (s : Socket (Recorded ω)) (k : Continuation) (clock : Nat) :
    Tends none s (s.continueWith k clock) := by
  cases k with
  | connect =>
    simp only [continueWith]
    split
    · exact tends_connect s
    · exact .refl s
  | scheduleReconnect =>
    simp only [continueWith]
    split
    · exact tends_scheduleReconnect s
    · exact .refl s
  | notify ticket => exact tends_perform s _
  | nothing => exact .refl s

theorem tends_closeConnection (s : Socket (Recorded ω)) (code : Option Nat) (reason : Option String) :
    Tends none s (s.closeConnection code reason) := by
  unfold closeConnection
  split
  · exact .refl s
  · exact tends_perform s _

theorem tends_dropConnection (s : Socket (Recorded ω)) : Tends none s s.dropConnection := by
  unfold dropConnection
  split
  · exact .refl s
  · refine Tends.trans ?_ (tends_perform _ _)
    exact tends_of_vacant rfl le_rfl rfl rfl rfl

theorem tends_finishTeardown (s : Socket (Recorded ω)) (t : Teardown) :
    Tends none s (s.finishTeardown t) := by
  unfold finishTeardown
  refine Tends.trans ?_ (tends_continueWith _ _ _)
  refine Tends.trans ?_ (tends_notifyAll _ _)
  refine Tends.trans ?_ (tends_dropConnection _)
  exact tends_of_eq rfl rfl rfl le_rfl rfl rfl rfl

theorem tends_stepTeardown (s : Socket (Recorded ω)) (t : Teardown) :
    Tends none s (s.stepTeardown t) := by
  unfold stepTeardown
  split
  · split
    · exact tends_awaitTeardown s _ _
    · exact (tends_awaitTeardown s _ _).trans (tends_closeConnection _ _ _)
  · split
    · exact tends_awaitTeardown s _ _
    · exact tends_finishTeardown s t

theorem tends_teardownTimeout (s : Socket (Recorded ω)) (number generation : Nat) :
    Tends none s (s.teardownTimeout number generation) := by
  unfold teardownTimeout
  split
  · exact .refl s
  · split
    · split
      · refine Tends.trans ?_ (tends_stepTeardown _ _)
        exact tends_of_eq rfl rfl rfl le_rfl rfl rfl rfl
      · exact .refl s
    · exact .refl s

theorem tends_beginTeardown (s : Socket (Recorded ω)) (code : Option Nat) (reason : Option String)
    (k : Continuation) : Tends none s (s.beginTeardown code reason k) := by
  simp only [beginTeardown]
  split
  · refine Tends.trans ?_ (tends_continueWith _ _ _)
    refine Tends.trans ?_ (tends_notifyAll _ _)
    exact tends_of_eq rfl rfl rfl le_rfl rfl rfl rfl
  · refine Tends.trans ?_ (tends_stepTeardown _ _)
    exact tends_of_eq rfl rfl rfl le_rfl rfl rfl rfl

theorem tends_disconnect (s : Socket (Recorded ω)) (code : Option Nat) (reason : Option String)
    (k : Continuation) : Tends none s (s.disconnect code reason k) := by
  unfold disconnect
  refine Tends.trans ?_ (tends_beginTeardown _ _ _ _)
  exact tends_of_eq rfl rfl rfl le_rfl rfl rfl rfl

theorem tends_pause (s : Socket (Recorded ω)) : Tends none s s.pause := by
  unfold pause
  split
  · refine Tends.trans (tends_disconnect s none none .nothing) ?_
    exact tends_of_eq rfl rfl rfl le_rfl rfl rfl rfl
  · exact .refl s

theorem tends_resume (s : Socket (Recorded ω)) : Tends none s s.resume := by
  unfold resume
  split
  · refine Tends.trans ?_ (tends_connect _)
    exact tends_of_eq rfl rfl rfl le_rfl rfl rfl rfl
  · exact .refl s

/-! ### Heartbeats -/

theorem tends_heartbeatDue (s : Socket (Recorded ω)) (generation : Nat) :
    Tends none s (s.heartbeatDue generation) := by
  unfold heartbeatDue
  split
  · rename_i timer _
    have hstart : Tends none s { s with heartbeatTimer := timer } :=
      tends_of_eq rfl rfl rfl le_rfl rfl rfl rfl
    refine hstart.trans ?_
    unfold sendHeartbeat
    split
    · exact .refl _
    · refine Tends.trans ?_ (tends_armHeartbeatTimeout _)
      refine Tends.trans ?_ (tends_pushMessage _ _ _)
      refine Tends.trans (tends_drawRef _) ?_
      exact tends_of_eq rfl rfl rfl le_rfl rfl rfl rfl
  · exact .refl s

theorem tends_loseConnection (s : Socket (Recorded ω)) : Tends none s s.loseConnection := by
  unfold loseConnection
  refine Tends.trans ?_ (tends_beginTeardown _ _ _ _)
  refine Tends.trans (t := { s with pendingHeartbeat := none }.triggerErrors) ?_
    (tends_of_eq rfl rfl rfl le_rfl rfl rfl rfl)
  refine Tends.trans ?_ (tends_triggerErrors _)
  exact tends_of_eq rfl rfl rfl le_rfl rfl rfl rfl

theorem tends_heartbeatTimeoutDue (s : Socket (Recorded ω)) (generation : Nat) :
    Tends none s (s.heartbeatTimeoutDue generation) := by
  unfold heartbeatTimeoutDue
  split
  · exact .refl s
  · rename_i timer _
    have hstart : Tends none s { s with heartbeatTimeout := timer } :=
      tends_of_eq rfl rfl rfl le_rfl rfl rfl rfl
    dsimp only
    split
    · exact hstart.trans (tends_loseConnection _)
    · exact hstart

/-! ### What transports report -/

theorem tends_runOnClose (event : CloseEvent) (s : Socket (Recorded ω)) (ref : Ref) :
    Tends none s (runOnClose event s ref) := by
  unfold runOnClose
  split
  · exact tends_perform s _
  · exact .refl s

theorem tends_connectionClosed (s : Socket (Recorded ω)) (event : CloseEvent) :
    Tends none s (s.connectionClosed event) := by
  unfold connectionClosed
  dsimp only
  refine Tends.trans ?_ (tends_foldl (tends_runOnClose event) _ _)
  have hcleared : Tends none s s.triggerErrors.clearHeartbeats :=
    (tends_triggerErrors s).trans (tends_clearHeartbeats _)
  split
  · exact hcleared.trans (tends_scheduleReconnect _)
  · exact hcleared

/-- The entry of a ping is no registration of a channel. -/
theorem tends_finishPing (s : Socket (Recorded ω)) {entry : Ref} {e : OnMessage}
    (hfind : s.callbacks.onMessage.find? entry = some e) (hping : e.IsPing) (started : Nat)
    (ticket : Ticket) : Tends none s (s.finishPing entry started ticket) := by
  unfold finishPing
  dsimp only
  refine Tends.trans (t := s.perform (.answer ticket (.latency (some (s.exchange.now - started)))))
    (tends_perform s _) ?_
  refine tends_without _ (List.Subset.refl _) fun he d ch' r _ hd hr hmem => ?_
  rw [List.mem_singleton] at hmem
  subst hmem
  exact he.pings hd hr (Registry.mem_of_find? hfind) hping

theorem tends_runOnMessage (m : Message) (s : Socket (Recorded ω)) (ref : Ref) :
    Tends none s (runOnMessage m s ref) := by
  unfold runOnMessage
  split
  · exact tends_perform s _
  · rename_i hfind
    split
    · exact tends_finishPing s hfind trivial _ _
    · exact .refl s
  · exact .refl s

theorem tends_messageReceived (s : Socket (Recorded ω)) (m : Message) :
    Tends none s (s.messageReceived m) := by
  unfold messageReceived
  dsimp only
  refine Tends.trans ?_ (tends_foldl (tends_runOnMessage m) _ _)
  refine Tends.trans ?_ (tends_foldl (tends_deliver m) _ _)
  split
  · exact tends_restartHeartbeat s
  · exact .refl s

theorem tends_frameReceived (s : Socket (Recorded ω)) (serializer : Serializer)
    (frame : Switchboard.Frame) : Tends none s (s.frameReceived serializer frame) := by
  unfold frameReceived
  split
  · exact tends_messageReceived s _
  · exact tends_report s _

/-- No registered channel has failed, as long as the light is on. -/
def Unfailing (s : Socket (Recorded ω)) : Prop :=
  s.Lit → ∀ ⦃c ch⦄, c ∈ s.order → s.channels.get? c = some ch → ch.state ≠ .errored

omit [Obliging ω] [Heralding ω] in
/-- Where no channel has failed, none is forlorn without its join attempts. -/
theorem tends_resetRejoin (h : s.Unfailing) (c : ChannelId) :
    Tends none s (s.resetRejoin c) ∧ (s.resetRejoin c).Unfailing := by
  have hany : Tends (some c) s (s.resetRejoin c) := tends_modifyChannel_at s fun _ => rfl
  have hback : ∀ {d ch'}, (s.resetRejoin c).channels.get? d = some ch' →
      ∃ ch, s.channels.get? d = some ch ∧ ch'.state = ch.state := by
    intro d ch' hd
    by_cases hdc : d = c
    · subst hdc
      rw [resetRejoin, modifyChannel, Table.get?_modify_self] at hd
      obtain ⟨ch, hc, rfl⟩ := Option.map_eq_some_iff.mp hd
      exact ⟨ch, hc, rfl⟩
    · rw [resetRejoin, modifyChannel, Table.get?_modify_of_ne _ hdc] at hd
      exact ⟨ch', hd, rfl⟩
  refine ⟨hany.strengthen ?_, fun ht d ch' hmem hd => ?_⟩
  · rintro ht ⟨hmem, ch', hc', hfailed, _⟩
    obtain ⟨ch, hc, hstate⟩ := hback hc'
    exact h (hany.dims ht) hmem hc (hstate.symm.trans hfailed)
  · obtain ⟨ch, hd, hstate⟩ := hback hd
    rw [hstate]
    exact h (hany.dims ht) hmem hd

theorem tends_runOnErrors (failure : SocketError) (refs : List Ref) (context : ErrorContext)
    (h : s.Unfailing) : Tends none s (refs.foldl (runOnError failure) (context, s)).2 := by
  induction refs generalizing context s with
  | nil => exact .refl s
  | cons ref refs ih =>
    rw [List.foldl_cons]
    have hstep : Tends none s (runOnError failure (context, s) ref).2 ∧
        (runOnError failure (context, s) ref).2.Unfailing := by
      unfold runOnError
      dsimp only
      split
      · have herror := tends_runError s ‹_› failure context
        exact ⟨herror, fun ht => h (herror.dims ht)⟩
      · exact tends_resetRejoin h _
      · exact ⟨.refl s, h⟩
    exact hstep.1.trans (ih _ hstep.2)

theorem tends_takeFallback (s : Socket (Recorded ω)) (fallback : Option Factory) :
    Tends none s (s.takeFallback fallback) := by
  unfold takeFallback
  split
  · exact (tends_replaceTransport s _).trans (tends_connect _)
  · exact .refl s

theorem tends_connectionFailed (h : s.Unfailing) (cause : TransportError) :
    Tends none s (s.connectionFailed cause) := by
  unfold connectionFailed
  have hruns := tends_runOnErrors (.transport cause) s.callbacks.onError.refs s.errorContext h
  rcases hrun : s.callbacks.onError.refs.foldl (runOnError (.transport cause))
    (s.errorContext, s) with ⟨context, t⟩
  rw [hrun] at hruns
  have htaken := hruns.trans (tends_takeFallback t context.fallback)
  dsimp only
  split
  · exact htaken.trans (tends_triggerErrors _)
  · exact htaken

/-! ### Join attempts -/

/-- No channel is forlorn while the light is on. -/
def Tended (s : Socket (Recorded ω)) : Prop := s.Lit → ∀ c, ¬ s.Forlorn c

omit [Obliging ω] [Heralding ω] in
theorem Tends.tended (h : Tends none s t) (hs : s.Tended) : t.Tended :=
  fun ht c hc => hs (h.dims ht) c (h.spares ht nofun hc)

omit [Heralding ω] in
/-- A channel that makes a join attempt has not failed afterwards. -/
theorem not_forlorn_rejoin (hs : Sound s) (c : ChannelId) : ¬ (s.rejoin c).Forlorn c := by
  rintro ⟨_, ch', hc', hfailed, _⟩
  cases hc : s.channels.get? c with
  | none =>
    simp only [rejoin, hc] at hc'
    cases hc'
  | some ch =>
    rcases rejoin_cases hs hc with ⟨hleaving, heq⟩ | ⟨_, hget, heq⟩
    · rw [heq, hc] at hc'
      cases hc'
      rw [hleaving] at hfailed
      cases hfailed
    · obtain ⟨_, ch₁, _, _, _, _, hstarts, hw⟩ := works_attempt (sound_leaveOpenTopic hs ch.topic c) hget
      rw [heq, hw.get?] at hc'
      cases hc'
      have hjoining := hstarts.state_eq.symm.trans hfailed
      rw [Channel.takeBack_state] at hjoining
      cases hjoining

theorem tends_rejoinTimeout (hs : Sound s) (c : ChannelId) (generation : Nat) :
    Tends none s (s.rejoinTimeout c generation) := by
  unfold rejoinTimeout
  split
  · exact .refl s
  · rename_i timer hfire
    obtain ⟨ch, hc, hfires⟩ := Option.bind_eq_some_iff.mp hfire
    have hany : Tends (some c) s (s.modifyChannel c fun ch => { ch with rejoinTimer := timer }) :=
      tends_modifyChannel_at s fun _ => rfl
    dsimp only
    split
    · have hsound : Sound (s.modifyChannel c fun ch => { ch with rejoinTimer := timer }) :=
        (move_alike (k := .failure) hc (alike_fired hfires)).sound hs
      exact (hany.trans (tends_rejoin _ c).weaken).strengthen fun _ => not_forlorn_rejoin hsound c
    · rename_i hdark
      exact hany.strengthen fun hlit => absurd hlit.isConnected hdark

/-- A channel that follows the opening of the connection has not failed afterwards. -/
theorem tends_rejoinIfErrored (hs : Sound s) (c : ChannelId) :
    Tends none s (s.rejoinIfErrored c) ∧ ¬ (s.rejoinIfErrored c).Forlorn c := by
  unfold rejoinIfErrored
  split
  · rename_i hnone
    refine ⟨.refl s, ?_⟩
    rintro ⟨_, ch, hc, _⟩
    rw [hnone] at hc
    cases hc
  · rename_i ch hc
    have hany : Tends (some c) s (s.resetRejoin c) := tends_modifyChannel_at s fun _ => rfl
    have hsound : Sound (s.resetRejoin c) :=
      (move_alike (k := .failure) hc (alike_resetRejoin ch)).sound hs
    have hafter : ¬ (if ch.state = .errored then (s.resetRejoin c).rejoin c
        else s.resetRejoin c).Forlorn c := by
      split
      · exact not_forlorn_rejoin hsound c
      · rename_i hstate
        rintro ⟨_, ch', hc', hfailed, _⟩
        rw [resetRejoin, modifyChannel, Table.get?_modify_self, hc] at hc'
        cases hc'
        exact hstate hfailed
    refine ⟨Tends.strengthen ?_ fun _ => hafter, hafter⟩
    dsimp only
    split
    · exact hany.trans (tends_rejoin _ c).weaken
    · exact hany

theorem tends_runOnOpen (hs : Sound s) (ref : Ref) : Tends none s (runOnOpen s ref) := by
  unfold runOnOpen
  split
  · exact tends_perform s _
  · exact (tends_rejoinIfErrored hs _).1
  · exact .refl s

omit [Heralding ω] in
theorem sound_runOnOpen (hs : Sound s) (ref : Ref) : Sound (runOnOpen s ref) := by
  have hstrides : Strides s .connect s (runOnOpen s ref) := strides_runOnOpens hs [ref]
  exact hstrides.sound hs

theorem tends_runOnOpens (hs : Sound s) (refs : List Ref) :
    Tends none s (refs.foldl runOnOpen s) := by
  induction refs generalizing s with
  | nil => exact .refl s
  | cons ref refs ih => exact (tends_runOnOpen hs ref).trans (ih (sound_runOnOpen hs ref))

/-- A channel whose turn has come has joined again, if it had failed. -/
theorem not_forlorn_runOnOpens (hs : Sound s) {refs : List Ref} {r : Ref} (hmem : r ∈ refs)
    (hfind : (refs.foldl runOnOpen s).callbacks.onOpen.find? r = some (.rejoin c))
    (hlit : (refs.foldl runOnOpen s).Lit) : ¬ (refs.foldl runOnOpen s).Forlorn c := by
  induction refs generalizing s with
  | nil => cases hmem
  | cons ref refs ih =>
    have hs' := sound_runOnOpen hs ref
    have hrest := tends_runOnOpens hs' refs
    rcases List.mem_cons.mp hmem with rfl | hmem
    · intro hc
      have hfind' := ((tends_runOnOpen hs r).trans hrest).entries hfind
      have hcome : runOnOpen s r = s.rejoinIfErrored c := by simp only [runOnOpen, hfind']
      refine (tends_rejoinIfErrored hs c).2 ?_
      rw [← hcome]
      exact hrest.spares hlit nofun hc
    · exact ih hs' hmem hfind hlit

theorem tends_markOpen (s : Socket (Recorded ω)) : Tends none s s.markOpen := by
  unfold markOpen
  dsimp only
  refine Tends.trans ?_ (tends_resetHeartbeat _)
  refine Tends.trans ?_ (tends_resetReconnect _)
  refine Tends.trans ?_ (tends_flush _)
  exact tends_of_eq rfl rfl rfl le_rfl rfl rfl rfl

/-- When the connection has opened, no channel is forlorn. -/
theorem tended_connectionOpened (hs : Sound s) (he : s.Enrolled) :
    s.connectionOpened.Enrolled ∧ s.connectionOpened.Tended := by
  have hs' : Sound s.markOpen := hs.quiet (quiet_markOpen s)
  have hruns := tends_runOnOpens hs' s.markOpen.callbacks.onOpen.refs
  have he' : s.connectionOpened.Enrolled := hruns.enrolled ((tends_markOpen s).enrolled he)
  refine ⟨he', fun hlit c hc => ?_⟩
  obtain ⟨hmem, ch, hch, _⟩ := id hc
  obtain ⟨r, _, hfind⟩ := he'.listed hmem hch
  have hentry := Registry.mem_of_find? (hruns.entries hfind)
  exact not_forlorn_runOnOpens hs' (List.mem_map.mpr ⟨_, hentry, rfl⟩) hfind hlit hc

/-! ### Registrations -/

omit [Outside ω] [Obliging ω] [Heralding ω] in
/-- A channel enters the registry with registrations of its own. -/
theorem enrolled_createChannel (hs : Sound s) (he : s.Enrolled) (c : ChannelId) (topic : String)
    (params : Params) (hb : (s.createChannel c topic params).exchange.drawn < 2 ^ 64) :
    (s.createChannel c topic params).Enrolled := by
  have hs₁ := hs.quiet (quiet_drawRef s)
  set r₁ := s.exchange.drawRef.1 with hr₁
  set x₁ := s.exchange.drawRef.2 with hx₁
  set r₂ := x₁.drawRef.1 with hr₂
  set x₂ := x₁.drawRef.2 with hx₂
  have hxx : s.exchange.drawn ≤ x₂.drawn := Nat.le_succ_of_le (Nat.le_succ _)
  have hfresh : ∀ {r}, r ∈ [r₁, r₂] → ¬ s.exchange.Drew r ∧ x₂.Drew r := by
    intro r hr
    rcases List.mem_cons.mp hr with rfl | hr
    · exact ⟨Exchange.not_drew_drawRef hs.tidy (lt_of_le_of_lt (Nat.le_succ _) hb),
        (Exchange.drew_drawRef hs.tidy).mono (Nat.le_succ _)⟩
    · rw [List.mem_singleton.mp hr]
      exact ⟨fun hdrew => Exchange.not_drew_drawRef hs₁.tidy hb (hdrew.mono (Nat.le_succ _)),
        Exchange.drew_drawRef hs₁.tidy⟩
  -- A channel that is there is the new one, or was there before.
  have hget : ∀ {d ch}, (s.createChannel c topic params).channels.get? d = some ch →
      d = c ∧ ch.socketRefs = [r₁, r₂] ∨ d ≠ c ∧ s.channels.get? d = some ch := by
    intro d ch hd
    by_cases hdc : d = c
    · subst hdc
      have hnew := (Table.get?_set_self s.channels d _).symm.trans hd
      cases hnew
      exact .inl ⟨rfl, rfl⟩
    · exact .inr ⟨hdc, (Table.get?_set_of_ne _ hdc _).symm.trans hd⟩
  refine ⟨fun d ch hmem hd => ?_, fun d d' ch ch' r hd hd' hr hr' => ?_, fun d ch r e hd hr hmem => ?_,
    fun d ch r hd hr => ?_, fun e hmem => ?_, fun e hmem => (he.drewMessage e hmem).mono hxx⟩
  · rcases hget hd with ⟨rfl, hrefs⟩ | ⟨hne, hd⟩
    · have hfind : Registry.find? (s.callbacks.onOpen ++ [(r₂, .rejoin d)]) r₂ = some (.rejoin d) :=
        Registry.find?_append_singleton fun e hmem heq =>
          (hfresh (r := r₂) (by simp)).1 (heq ▸ he.drewOpen e hmem)
      exact ⟨r₂, by simp [hrefs], hfind⟩
    · have hold : d ∈ s.order := by
        rcases List.mem_append.mp hmem with hmem | hmem
        · exact hmem
        · exact absurd (List.mem_singleton.mp hmem) hne
      obtain ⟨r, hr, hfind⟩ := he.listed hold hd
      exact ⟨r, hr, Registry.find?_append_of_some hfind⟩
  · rcases hget hd with ⟨heq, hrefs⟩ | ⟨_, hold⟩ <;>
      rcases hget hd' with ⟨heq', hrefs'⟩ | ⟨_, hold'⟩
    · exact heq.trans heq'.symm
    · exact absurd (he.drewRefs hold' hr') (hfresh (hrefs ▸ hr)).1
    · exact absurd (he.drewRefs hold hr) (hfresh (hrefs' ▸ hr')).1
    · exact he.own hold hold' hr hr'
  · rcases hget hd with ⟨_, hrefs⟩ | ⟨_, hd⟩
    · exact absurd (he.drewMessage _ hmem) (hfresh (hrefs ▸ hr)).1
    · exact he.pings hd hr hmem
  · rcases hget hd with ⟨_, hrefs⟩ | ⟨_, hd⟩
    · exact (hfresh (hrefs ▸ hr)).2
    · exact (he.drewRefs hd hr).mono hxx
  · rcases List.mem_append.mp hmem with hmem | hmem
    · exact (he.drewOpen e hmem).mono hxx
    · have heq : e = (r₂, .rejoin c) := List.mem_singleton.mp hmem
      rw [heq]
      exact (hfresh (by simp)).2

omit [Obliging ω] [Heralding ω] in
theorem tended_createChannel (ht : s.Tended) (c : ChannelId) (topic : String) (params : Params) :
    (s.createChannel c topic params).Tended := by
  rintro hlit d ⟨hmem, ch, hd, hstranded⟩
  by_cases hdc : d = c
  · subst hdc
    have hnew := (Table.get?_set_self s.channels d _).symm.trans hd
    cases hnew
    cases hstranded.1
  · refine ht hlit d ⟨?_, ch, (Table.get?_set_of_ne _ hdc _).symm.trans hd, hstranded⟩
    rcases List.mem_append.mp hmem with hmem | hmem
    · exact hmem
    · exact absurd (List.mem_singleton.mp hmem) hdc

omit [Outside ω] [Obliging ω] [Heralding ω] in
/-- A user's callback comes after those that there are. -/
theorem enrolled_register (he : s.Enrolled) (occasion : Occasion) {ref : Ref}
    (hdrew : s.exchange.Drew ref) (callback : CallbackId) :
    { s with callbacks := s.callbacks.register occasion ref callback }.Enrolled := by
  cases occasion with
  | «open» =>
    refine ⟨fun c ch hmem hc => ?_, he.own, he.pings, he.drewRefs, fun e hmem => ?_, he.drewMessage⟩
    · obtain ⟨r, hr, hfind⟩ := he.listed hmem hc
      exact ⟨r, hr, Registry.find?_append_of_some hfind⟩
    · rcases List.mem_append.mp hmem with hmem | hmem
      · exact he.drewOpen e hmem
      · rw [List.mem_singleton.mp hmem]
        exact hdrew
  | close => exact ⟨he.listed, he.own, he.pings, he.drewRefs, he.drewOpen, he.drewMessage⟩
  | error => exact ⟨he.listed, he.own, he.pings, he.drewRefs, he.drewOpen, he.drewMessage⟩
  | message =>
    refine ⟨he.listed, he.own, fun c ch r e hc hr hmem => ?_, he.drewRefs, he.drewOpen, fun e hmem => ?_⟩
    · rcases List.mem_append.mp hmem with hmem | hmem
      · exact he.pings hc hr hmem
      · cases List.mem_singleton.mp hmem
        exact id
    · rcases List.mem_append.mp hmem with hmem | hmem
      · exact he.drewMessage e hmem
      · rw [List.mem_singleton.mp hmem]
        exact hdrew

/-- Callbacks are removed that are no registrations of registered channels. -/
theorem tends_off (s : Socket (Recorded ω)) {refs : List Ref} (hothers : ∀ ⦃c ch r⦄, c ∈ s.order →
    s.channels.get? c = some ch → r ∈ ch.socketRefs → r ∉ refs) : Tends none s (s.off refs) :=
  Tends.trans (tends_without s (List.Subset.refl _) fun _ => hothers) (tends_performAll _ _)

/-- The entry of a ping has a ref of its own. -/
theorem tends_ping (hs : Sound s) (ticket : Ticket)
    (hb : (s.ping ticket).exchange.drawn < 2 ^ 64) : Tends none s (s.ping ticket) := by
  unfold ping at hb ⊢
  split
  · exact tends_perform s _
  · rename_i hconnected
    rw [if_neg hconnected] at hb
    dsimp only at hb ⊢
    set m := Message.heartbeat s.drawRef.1 with hm
    set v := s.drawRef.2.pushMessage .socket m with hv
    have hsv : Sound v := (hs.quiet (quiet_drawRef s)).turns (turns_pushMessage _ .socket m)
    refine ((tends_drawRef s).trans (tends_pushMessage _ _ _)).trans
      ⟨id, fun _ _ _ => id, fun hv => ?_, fun _ _ he => he⟩
    have he := (tends_drawRef v).enrolled hv
    refine ⟨he.listed, he.own, fun c ch r e hc hr hmem => ?_, he.drewRefs, he.drewOpen,
      fun e hmem => ?_⟩
    · rcases List.mem_append.mp hmem with hmem | hmem
      · exact he.pings hc hr hmem
      · cases List.mem_singleton.mp hmem
        exact absurd (hv.drewRefs hc hr) (Exchange.not_drew_drawRef hsv.tidy hb)
    · rcases List.mem_append.mp hmem with hmem | hmem
      · exact he.drewMessage e hmem
      · rw [List.mem_singleton.mp hmem]
        exact Exchange.drew_drawRef hsv.tidy

/-! ### The end -/

omit [Obliging ω] [Heralding ω] in
theorem conn_shutdown (s : Socket (Recorded ω)) : s.shutdown.conn = none := by
  obtain ⟨_, _, _, _, _, hlink⟩ := link_shutdown s
  exact congrArg Link.conn hlink

theorem enrolled_shutdown (s : Socket (Recorded ω)) (he : s.Enrolled) : s.shutdown.Enrolled := by
  have habandon : ∀ v : Socket (Recorded ω), Tends none v v.abandonConnection := by
    intro v
    unfold abandonConnection
    split
    · exact .refl v
    · refine Tends.trans ?_ (tends_performAll _ _)
      exact tends_of_vacant rfl le_rfl rfl rfl rfl
  have hretired : ∀ (v : Socket (Recorded ω)) (conn : Connection), Tends none v (v.abandonRetired conn) :=
    fun v conn => (tends_detach v conn.transport).trans (tends_perform _ _)
  set s₁ := { s with teardown := none }.clearHeartbeats.resetReconnect with hs₁
  have hstart : Tends none s s₁ := tends_of_eq rfl rfl rfl le_rfl rfl rfl rfl
  have hend : Tends none s (s₁.abandonConnection.retired.foldl abandonRetired
      { s₁.abandonConnection with retired := [] }) := by
    refine Tends.trans ?_ (tends_foldl hretired _ _)
    refine (hstart.trans (habandon s₁)).trans ?_
    exact tends_of_eq rfl rfl rfl le_rfl rfl rfl rfl
  have he' := hend.enrolled he
  have hempty : ∀ {c ch}, ¬ s.shutdown.channels.get? c = some ch := by
    intro c ch hc
    rw [(ends_shutdown s).channels_eq, Table.get?_empty] at hc
    cases hc
  exact ⟨fun _ _ _ hc => absurd hc hempty, fun _ _ _ _ _ hc => absurd hc hempty,
    fun _ _ _ _ hc => absurd hc hempty, fun _ _ _ hc => absurd hc hempty, he'.drewOpen,
    he'.drewMessage⟩

/-! ### Commands -/

/-- What is asked of commands: users register under refs that they drew and remove no registration of
a channel, and no transport fails that is open while a registered channel has failed. -/
structure Heedful (s : Socket (Recorded ω)) (cmd : Command) : Prop where
  register : ∀ ⦃occasion ref callback⦄, cmd = .register occasion ref callback → s.exchange.Drew ref
  off : ∀ ⦃refs⦄, cmd = .off refs → ∀ ⦃c ch r⦄, c ∈ s.order → s.channels.get? c = some ch →
    r ∈ ch.socketRefs → r ∉ refs
  failed : ∀ ⦃t cause⦄, cmd = .transport t (.failed cause) → s.isConnected = true →
    ∀ ⦃c ch⦄, c ∈ s.order → s.channels.get? c = some ch → ch.state ≠ .errored

variable {cmd : Command}

theorem tends_transportEvent {id : TransportId} {event : TransportEvent}
    (hcmd : Heedful s (.transport id event)) (hopened : ¬ (event = .opened ∧ s.IsLive id)) :
    Tends none s (s.transportEvent id event) := by
  have hprune := tends_pruneRetired s
  have hquiet := quiet_pruneRetired s
  have hconn := conn_pruneRetired s
  unfold transportEvent
  dsimp only
  split
  · exact hprune
  · rename_i conn hlive
    split
    · rename_i heq
      refine hprune.trans ?_
      cases event with
      | opened => exact absurd ⟨rfl, conn, hconn ▸ hlive, heq⟩ hopened
      | failed cause =>
        refine tends_connectionFailed (fun hlit c ch hmem hc => ?_) cause
        exact hcmd.failed rfl (hprune.dims hlit).isConnected (hquiet.order_eq ▸ hmem)
          (hquiet.get? c ▸ hc)
      | received frame => exact tends_frameReceived _ conn.serializer frame
      | closed event => exact tends_connectionClosed _ event
    · exact hprune

theorem tends_timerEvent (hs : Sound s) (event : TimerEvent) : Tends none s (s.timerEvent event) := by
  cases event with
  | heartbeatDue generation => exact tends_heartbeatDue s generation
  | heartbeatTimeout generation => exact tends_heartbeatTimeoutDue s generation
  | reconnect generation =>
    simp only [timerEvent]
    split
    · refine Tends.trans ?_ (tends_beginTeardown _ _ _ _)
      exact tends_of_eq rfl rfl rfl le_rfl rfl rfl rfl
    · exact .refl s
  | rejoin c generation => exact tends_rejoinTimeout hs c generation
  | pushTimeout c p generation => exact tends_pushTimeout s c p generation
  | teardown number generation => exact tends_teardownTimeout s number generation

/-- Every command keeps the channels registered and tended. -/
theorem tended_handle (hs : Sound s) (hb : (s.handle cmd).exchange.drawn < 2 ^ 64)
    (hcmd : Heedful s cmd) (he : s.Enrolled)
    (ht : (∀ id, cmd = .transport id .opened → ¬ s.IsLive id) → s.Tended) :
    (s.handle cmd).Enrolled ∧ (s.handle cmd).Tended := by
  have of_tends : ∀ {t : Socket (Recorded ω)}, Tends none s t → s.Tended → t.Enrolled ∧ t.Tended :=
    fun h ht => ⟨h.enrolled he, h.tended ht⟩
  cases cmd with
  | connect => exact of_tends (tends_connect s) (ht (by simp))
  | disconnect code reason done => exact of_tends (tends_disconnect s code reason _) (ht (by simp))
  | replaceTransport factory => exact of_tends (tends_replaceTransport s factory) (ht (by simp))
  | pause => exact of_tends (tends_pause s) (ht (by simp))
  | resume => exact of_tends (tends_resume s) (ht (by simp))
  | register occasion ref callback =>
    exact ⟨enrolled_register he occasion (hcmd.register rfl) callback, ht (by simp)⟩
  | off refs => exact of_tends (tends_off s (hcmd.off rfl)) (ht (by simp))
  | ping ticket => exact of_tends (tends_ping hs ticket hb) (ht (by simp))
  | askReadyState ticket => exact of_tends (tends_perform s _) (ht (by simp))
  | askReconnectTries ticket => exact of_tends (tends_perform s _) (ht (by simp))
  | askEstablished ticket => exact of_tends (tends_perform s _) (ht (by simp))
  | createChannel c topic params =>
    exact ⟨enrolled_createChannel hs he c topic params hb,
      tended_createChannel (ht (by simp)) c topic params⟩
  | channel c op => exact of_tends (tends_channelOp s c op) (ht (by simp))
  | dropChannel c => exact of_tends (tends_dropChannel s c) (ht (by simp))
  | transport id event =>
    by_cases hopened : event = .opened ∧ s.IsLive id
    · obtain ⟨rfl, conn, hconn, rfl⟩ := hopened
      have hopens : s.handle (.transport conn.transport .opened) = s.pruneRetired.connectionOpened := by
        simp only [handle, transportEvent, conn_pruneRetired, hconn, if_true]
      rw [hopens]
      exact tended_connectionOpened (hs.quiet (quiet_pruneRetired s))
        ((tends_pruneRetired s).enrolled he)
    · refine of_tends (tends_transportEvent hcmd hopened) (ht fun id' heq hlive => hopened ?_)
      cases heq
      exact ⟨rfl, hlive⟩
  | timer event => exact of_tends (tends_timerEvent hs event) (ht (by simp))
  | shutdown =>
    exact ⟨enrolled_shutdown s he, fun hlit => absurd hlit (not_lit_of_vacant (conn_shutdown s))⟩

end Socket

end Switchboard
