import Switchboard.Proofs.Postage
import Switchboard.Proofs.Toils

/-!
# Efforts of commands

A command is carried out in efforts, each of them an exact piece of the code: what is done with channels,
and what is done besides with the timer of the next connection, with the messages that wait, and with the
retries of channels as a connection opens or fails.  Each effort leaves its notes, so the notes of a
command tell all that happens to its backoff timers, its joins and its messages.

The first effort of a firing that is awaited is to accept it; no other effort accepts one.

Main definitions

* `Socket.Forgives`: a command makes a socket forget its attempts to connect;
* `Socket.Effort`, `Socket.Efforts`;
* `Socket.accepted?`: the firing of a backoff timer that a command brings, if it is awaited;
* `Socket.Carried`: the notes of a command, and what they are known to have.

Main results

* `Socket.carried_handle`: every command is carried out in efforts.
-/

set_option autoImplicit false

namespace Switchboard

/-- The firing that is accepted. -/
def Note.fired? : Note → Option (Retry × Nat)
  | .retry timer (.fired generation) => some (timer, generation)
  | _ => none

/-- The firing of a backoff timer. -/
def TimerEvent.retry? : TimerEvent → Option (Retry × Nat)
  | .rejoin c generation => some (.rejoin c, generation)
  | .reconnect generation => some (.reconnect, generation)
  | _ => none

theorem Note.OfToil.fired? {note : Note} (h : note.OfToil) : note.fired? = none := by
  cases note with
  | retry timer event =>
    cases event <;> first | rfl | cases timer <;> cases h
  | _ => rfl

/-- What a handle asks for, other than the news of a transport and the firing of a timer. -/
def Command.IsRequest : Command → Prop
  | .transport _ _ | .timer _ => False
  | _ => True

namespace Socket

variable {ω : Type} [Outside ω]

/-! ### What dwindles -/

/-- Callbacks and channels may go, but do not come. -/
structure Dwindles (s t : Socket ω) : Prop where
  callbacks : s.callbacks.Shrinks t.callbacks
  channels : ∀ {c ch'}, t.channels.get? c = some ch' → ∃ ch, s.channels.get? c = some ch

variable {w s t u : Socket ω} {cmd : Command} {c : ChannelId} {ch : Channel}
variable {notes : List Note} {marks marks' : List (Mark ω)}

omit [Outside ω] in
@[refl] theorem Dwindles.refl (s : Socket ω) : Dwindles s s :=
  ⟨⟨id, id⟩, fun hc => ⟨_, hc⟩⟩

omit [Outside ω] in
theorem Dwindles.trans (h : Dwindles s t) (h' : Dwindles t u) : Dwindles s u where
  callbacks :=
    ⟨h.callbacks.onOpen ∘ h'.callbacks.onOpen, h.callbacks.onError ∘ h'.callbacks.onError⟩
  channels hc := by
    obtain ⟨ch', hc'⟩ := h'.channels hc
    exact h.channels hc'

theorem Uneventful.dwindles (h : Uneventful s t) : Dwindles s t where
  callbacks := h.callbacks
  channels hc := by
    obtain ⟨ch, hc', -⟩ := h.channel hc
    exact ⟨ch, hc'⟩

omit [Outside ω] in
theorem dwindles_modifyChannel (s : Socket ω) (c : ChannelId) (f : Channel → Channel) :
    Dwindles s (s.modifyChannel c f) where
  callbacks := ⟨id, id⟩
  channels {d ch'} hd := by
    simp only [modifyChannel, Table.get?_modify] at hd
    split at hd
    · rename_i heq
      obtain ⟨ch, hc, -⟩ := Option.map_eq_some_iff.mp hd
      exact ⟨ch, heq ▸ hc⟩
    · exact ⟨ch', hd⟩

omit [Outside ω] in
theorem dwindles_startTimeout (s : Socket ω) (c : ChannelId) (p : PushId) :
    Dwindles s (s.startTimeout c p) := by
  cases hpush : s.push? c p with
  | none =>
    obtain ⟨x, heq, -⟩ := startTimeout_of_none hpush
    rw [heq]
    exact ⟨⟨id, id⟩, fun hc => ⟨_, hc⟩⟩
  | some q =>
    obtain ⟨ch, hc, hq⟩ := Option.bind_eq_some_iff.mp hpush
    obtain ⟨n, x, heq, -⟩ := startTimeout_of_some hc hq
    rw [heq]
    refine ⟨⟨id, id⟩, fun {d ch'} hd => ?_⟩
    rw [Table.get?_set] at hd
    split at hd
    · rename_i hdc
      exact ⟨ch, hdc ▸ hc⟩
    · exact ⟨ch', hd⟩

/-- To accept a message changes nothing but what waits, the surroundings and what is shared with
them. -/
theorem pushMessage_eq (s : Socket ω) (sender : Sender) (m : Message) :
    s.pushMessage sender m = { s with
      sendBuffer := (s.pushMessage sender m).sendBuffer
      exchange := (s.pushMessage sender m).exchange
      outside := (s.pushMessage sender m).outside } := by
  unfold pushMessage
  dsimp only
  split
  · rw [transmit_eq]
    rfl
  · rfl

theorem dwindles_pushMessage (s : Socket ω) (sender : Sender) (m : Message) :
    Dwindles s (s.pushMessage sender m) := by
  rw [pushMessage_eq]
  exact ⟨⟨id, id⟩, fun hc => ⟨_, hc⟩⟩

theorem Toil.dwindles (h : Toil notes s t) : Dwindles s t := by
  cases h with
  | uneventful uneventful => exact uneventful.dwindles
  | starts _ c p => exact dwindles_startTimeout s c p
  | takesBack _ c =>
    unfold resetPush
    split
    · exact .refl s
    · exact dwindles_modifyChannel s c _
  | erases _ c =>
    refine ⟨⟨id, id⟩, fun {d ch'} hd => ?_⟩
    rw [Table.get?_erase] at hd
    split at hd
    · cases hd
    · exact ⟨ch', hd⟩
  | @schedules _ c ch channel errored =>
    simp only [scheduleRejoin, channel]
    exact (dwindles_modifyChannel s c _).trans ⟨⟨id, id⟩, fun hc => ⟨_, hc⟩⟩
  | inserts _ c p unsent => exact dwindles_modifyChannel s c _
  | joins channel => exact dwindles_modifyChannel s _ _
  | leaves channel => exact dwindles_modifyChannel s _ _
  | closes channel => exact dwindles_modifyChannel s _ _
  | sends _ own connected => exact dwindles_pushMessage s _ _
  | keeps _ own unconnected => exact dwindles_pushMessage s _ _

theorem Toils.dwindles (h : Toils s marks t) : Dwindles s t := by
  induction h with
  | refl => exact .refl s
  | tail _ toil ih => exact ih.trans toil.dwindles

theorem Toiled.dwindles (h : Toiled s t) : Dwindles s t := by
  obtain ⟨marks, htoils⟩ := h
  exact htoils.dwindles

/-- The timer of the next connection is no business of channels. -/
theorem Toil.reconnectTimer (h : Toil notes s t) : t.reconnectTimer = s.reconnectTimer := by
  cases h with
  | uneventful uneventful => exact uneventful.reconnectTimer
  | starts _ c p => rw [startTimeout_eq]
  | takesBack _ c => unfold resetPush; split <;> rfl
  | schedules channel errored => simp only [scheduleRejoin, channel]; rfl
  | sends _ own connected => rw [pushMessage_eq]
  | keeps _ own unconnected => rw [pushMessage_eq]
  | _ => rfl

theorem Toiled.reconnectTimer (h : Toiled s t) : t.reconnectTimer = s.reconnectTimer := by
  obtain ⟨marks, htoils⟩ := h
  induction htoils with
  | refl => rfl
  | tail _ toil ih => exact toil.reconnectTimer.trans ih

/-! ### Efforts -/

/-- A command makes a socket forget its attempts to connect: the connection is open, it is closed on
demand, or another kind of transport takes its place. -/
def Forgives (w : Socket ω) : Command → Prop
  | .disconnect .. | .shutdown => True
  | .pause => w.conn.isSome = true
  | .transport t .opened => ∃ conn, w.conn = some conn ∧ conn.transport = t
  | cmd => Supplants w cmd

/-- One thing that a socket does while it carries out a command which it began in state `w`. -/
inductive Effort (w : Socket ω) (cmd : Command) : List Note → Socket ω → Socket ω → Prop
  | toil {notes : List Note} {s t : Socket ω} (toil : Toil notes s t) : Effort w cmd notes s t
  /-- Callbacks come to those that are registered. -/
  | enlists (s : Socket ω) (callbacks : Callbacks) :
    Effort w cmd [.enlists] s { s with callbacks }
  | enters (s : Socket ω) (c : ChannelId) (topic : String) (params : Params) :
    Effort w cmd [.enters c] s (s.createChannel c topic params)
  /-- The firing that the command brings is accepted. -/
  | fires {c : ChannelId} {generation : Nat} {ch : Channel} {timer : BackoffTimer}
    (command : cmd = .timer (.rejoin c generation)) (channel : w.channels.get? c = some ch)
    (fired : ch.rejoinTimer.fire generation = some timer) :
    Effort w cmd [.retry (.rejoin c) (.fired generation)] w
      (w.modifyChannel c fun ch => { ch with rejoinTimer := timer })
  /-- The socket is told that the connection is open, and the channel's own callback runs. -/
  | opens {s : Socket ω} {ref : Ref} {c : ChannelId} {ch : Channel}
    (command : ∃ t, cmd = .transport t .opened)
    (own : s.callbacks.onOpen.find? ref = some (.rejoin c)) (channel : s.channels.get? c = some ch) :
    Effort w cmd [.retry (.rejoin c) .reset] s (s.resetRejoin c)
  /-- The socket is told that the transport has failed, and the channel's own callback runs. -/
  | fails {s : Socket ω} {ref : Ref} {c : ChannelId} {ch : Channel}
    (command : ∃ t cause, cmd = .transport t (.failed cause))
    (own : s.callbacks.onError.find? ref = some (.resetRejoin c))
    (channel : s.channels.get? c = some ch) :
    Effort w cmd [.retry (.rejoin c) .reset] s (s.resetRejoin c)
  | schedulesReconnect (s : Socket ω) :
    Effort w cmd [.retry .reconnect (.armed s.reconnectTimer.schedule.slot.generation
      (s.reconnectTimer.delay s.config.reconnectAfter))] s s.scheduleReconnect
  /-- The firing that the command brings is accepted. -/
  | reconnects {generation : Nat} {timer : BackoffTimer}
    (command : cmd = .timer (.reconnect generation))
    (fired : w.reconnectTimer.fire generation = some timer) :
    Effort w cmd [.retry .reconnect (.fired generation)] w { w with reconnectTimer := timer }
  | forgivesReconnect (s : Socket ω) (forgives : Forgives w cmd) :
    Effort w cmd [.retry .reconnect .reset] s s.resetReconnect
  | flushes {s : Socket ω} (connected : s.isConnected = true) :
    Effort w cmd [.flushes s.sendBuffer] s s.flush
  | forgets (s : Socket ω) (supplants : Supplants w cmd) :
    Effort w cmd [.forgets] s { s with sendBuffer := [] }
  | ends (s : Socket ω) : Effort w cmd [.ends] s
    { s with channels := .empty, order := [], exchange := s.exchange.shut }

/-- Efforts one after another, with their notes. -/
inductive Efforts (w : Socket ω) (cmd : Command) (s : Socket ω) : List (Mark ω) → Socket ω → Prop
  | refl : Efforts w cmd s [] s
  | tail {marks : List (Mark ω)} {notes : List Note} {t u : Socket ω}
    (efforts : Efforts w cmd s marks t) (effort : Effort w cmd notes t u) :
    Efforts w cmd s (marks ++ notes.map (Mark.mk t)) u

theorem Efforts.trans (h : Efforts w cmd s marks t) (h' : Efforts w cmd t marks' u) :
    Efforts w cmd s (marks ++ marks') u := by
  induction h' with
  | refl => rwa [List.append_nil]
  | tail _ effort ih =>
    rw [← List.append_assoc]
    exact .tail ih effort

theorem Effort.efforts (h : Effort w cmd notes s t) :
    Efforts w cmd s (notes.map (Mark.mk s)) t := .tail .refl h

theorem Toils.efforts (h : Toils s marks t) : Efforts w cmd s marks t := by
  induction h with
  | refl => exact .refl
  | tail _ toil ih => exact .tail ih (.toil toil)

/-- The firing of a backoff timer that a command brings, if it is awaited. -/
def accepted? (w : Socket ω) : Command → Option (Retry × Nat)
  | .timer event => if w.awaits event then event.retry? else none
  | _ => none

/-- The firings that are accepted among what is marked. -/
def firings (marks : List (Mark ω)) : List (Retry × Nat) := marks.filterMap fun m => m.note.fired?

omit [Outside ω] in
theorem firings_append (marks marks' : List (Mark ω)) :
    firings (marks ++ marks') = firings marks ++ firings marks' := List.filterMap_append

theorem Toils.firings (h : Toils s marks t) : firings marks = [] :=
  List.filterMap_eq_nil_iff.mpr fun mark hmark => (h.ofToil mark hmark).fired?

/-- Efforts that accept no firing. -/
def Effortful (w : Socket ω) (cmd : Command) (s t : Socket ω) : Prop :=
  ∃ marks, Efforts w cmd s marks t ∧ firings marks = []

theorem Effortful.trans (h : Effortful w cmd s t) (h' : Effortful w cmd t u) :
    Effortful w cmd s u := by
  obtain ⟨marks, hefforts, hnone⟩ := h
  obtain ⟨marks', hefforts', hnone'⟩ := h'
  exact ⟨marks ++ marks', hefforts.trans hefforts', by rw [firings_append, hnone, hnone']; rfl⟩

theorem Toiled.effortful (h : Toiled s t) : Effortful w cmd s t := by
  obtain ⟨marks, htoils⟩ := h
  exact ⟨marks, htoils.efforts, htoils.firings⟩

theorem Uneventful.effortful (h : Uneventful s t) : Effortful w cmd s t := h.toiled.effortful

/-- An effort that accepts no firing. -/
theorem Effort.effortful (h : Effort w cmd notes s t) (hnone : notes.filterMap Note.fired? = []) :
    Effortful w cmd s t := by
  refine ⟨_, h.efforts, ?_⟩
  rw [firings, List.filterMap_map]
  exact hnone

/-! ### Connecting -/

theorem uneventful_connect (s : Socket ω) : Uneventful s s.connect := by
  unfold connect
  split
  · exact .refl s
  · rcases s.config.params.resolve with ⟨value, params⟩
    dsimp only
    set s₁ : Socket ω := { s.tick with
      closeWasClean := false, config := { s.config with params := params } }
    have hready : Uneventful s s₁ := uneventful_of_eq rfl rfl rfl rfl rfl rfl rfl rfl
    split
    · set s₂ : Socket ω := { s₁ with
        nextTransport := s₁.nextTransport + 1, exchange := s₁.exchange.attach s₁.nextTransport }
      have hlistened : Uneventful s₁ s₂ := { Uneventful.refl s₁ with
        evolves := fun _ => .of_eq rfl rfl rfl rfl, silent := fun _ => rfl }
      exact ((hready.trans hlistened).trans (uneventful_perform s₂ rfl)).trans
        (uneventful_of_eq rfl rfl rfl rfl rfl rfl rfl rfl)
    · exact hready.trans (uneventful_report s₁ _)

theorem effortful_scheduleReconnect (s : Socket ω) : Effortful w cmd s s.scheduleReconnect :=
  (Effort.schedulesReconnect s).effortful rfl

theorem toiled_retire (s : Socket ω) : Toiled s s.retire := by
  unfold retire
  split
  · exact .refl s
  · rename_i conn _
    refine .trans ?_ (toiled_triggerErrors _)
    have hparted : Uneventful s { s with conn := none } := uneventful_of_eq rfl rfl rfl rfl rfl rfl rfl rfl
    have hdetached := hparted.trans (uneventful_detach _ conn.transport)
    have hclosed := hdetached.trans (uneventful_perform _ (e := .close conn.transport none none) rfl)
    refine (hclosed.trans ?_).toiled
    exact uneventful_of_eq rfl rfl rfl rfl rfl rfl rfl rfl

theorem effortful_replaceTransport (hsupplants : Supplants w cmd) (hforgives : Forgives w cmd)
    (s : Socket ω) (factory : Factory) : Effortful w cmd s (s.replaceTransport factory) := by
  have hticked : Uneventful s { s.tick with closeWasClean := true } :=
    uneventful_of_eq rfl rfl rfl rfl rfl rfl rfl rfl
  have hforgiven : Effortful w cmd { s.tick with closeWasClean := true }
      { s.tick with closeWasClean := true }.resetReconnect :=
    (Effort.forgivesReconnect _ hforgives).effortful rfl
  have hforgotten : Effortful w cmd { s.tick with closeWasClean := true }.resetReconnect
      { s.tick.resetReconnect with closeWasClean := true, sendBuffer := [] } :=
    (Effort.forgets { s.tick with closeWasClean := true }.resetReconnect hsupplants).effortful rfl
  refine ((hticked.effortful.trans hforgiven).trans hforgotten).trans ?_
  refine ((uneventful_pruneRetired _).toiled.trans (toiled_retire _)).effortful.trans ?_
  refine Uneventful.effortful ?_
  exact uneventful_of_eq rfl rfl rfl rfl rfl rfl rfl rfl

/-- The attempts to connect are forgotten with the transport. -/
theorem reconnectTimer_replaceTransport (s : Socket ω) (factory : Factory) :
    (s.replaceTransport factory).reconnectTimer = s.reconnectTimer.reset :=
  ((uneventful_pruneRetired _).toiled.trans (toiled_retire _)).reconnectTimer

theorem dwindles_replaceTransport (s : Socket ω) (factory : Factory) :
    Dwindles s (s.replaceTransport factory) := by
  set s₁ : Socket ω := { s.tick.resetReconnect with closeWasClean := true, sendBuffer := [] }
  have h := ((uneventful_pruneRetired s₁).toiled.trans (toiled_retire _)).dwindles
  exact ⟨⟨h.callbacks.onOpen, h.callbacks.onError⟩, h.channels⟩

/-- To hand over what waits leaves nothing that waits, and changes nothing else but the surroundings and
what is shared with them. -/
theorem flush_eq {s : Socket ω} (h : s.isConnected = true) : s.flush = { s with
    sendBuffer := [], exchange := s.flush.exchange, outside := s.flush.outside } := by
  unfold flush
  split
  · rename_i hidle
    have hempty : s.sendBuffer = [] := by simpa [h] using hidle
    rw [← hempty]
  · rw [transmits_eq]

/-! ### Teardown -/

/-- A socket goes on as it is told to: nothing worth noting is done, unless it is to arm the next attempt
to connect. -/
def Proceeds (k : Continuation) (s t : Socket ω) : Prop :=
  Uneventful s t ∨ k = .scheduleReconnect ∧ ∃ v, Uneventful s v ∧ t = v.scheduleReconnect

theorem Proceeds.effortful {k : Continuation} (h : Proceeds k s t) : Effortful w cmd s t := by
  obtain h | ⟨-, v, hv, rfl⟩ := h
  · exact h.effortful
  · exact hv.effortful.trans (effortful_scheduleReconnect v)

theorem Proceeds.uneventful {k : Continuation} (h : Proceeds k s t) (hk : k ≠ .scheduleReconnect) :
    Uneventful s t := h.resolve_right fun hschedules => hk hschedules.1

/-- What happens before does not matter. -/
theorem Proceeds.of_uneventful {k : Continuation} (h : Proceeds k t u) (hst : Uneventful s t) :
    Proceeds k s u := by
  obtain h | ⟨hk, v, hv, rfl⟩ := h
  · exact .inl (hst.trans h)
  · exact .inr ⟨hk, v, hst.trans hv, rfl⟩

theorem proceeds_continueWith (s : Socket ω) (k : Continuation) (clock : Nat) :
    Proceeds k s (s.continueWith k clock) := by
  cases k with
  | connect =>
    simp only [continueWith]
    split
    · exact .inl (uneventful_connect s)
    · exact .inl (.refl s)
  | scheduleReconnect =>
    simp only [continueWith]
    split
    · exact .inr ⟨rfl, s, .refl s, rfl⟩
    · exact .inl (.refl s)
  | notify ticket => exact .inl (uneventful_perform s rfl)
  | nothing => exact .inl (.refl s)

theorem uneventful_awaitTeardown (s : Socket ω) (t : Teardown) (delay : Nat) :
    Uneventful s (s.awaitTeardown t delay) := by
  refine .trans ?_ (uneventful_arm _ _ _)
  exact uneventful_of_eq rfl rfl rfl rfl rfl rfl rfl rfl

theorem uneventful_closeConnection (s : Socket ω) (code : Option Nat) (reason : Option String) :
    Uneventful s (s.closeConnection code reason) := by
  unfold closeConnection
  split
  · exact .refl s
  · exact uneventful_perform s rfl

theorem uneventful_dropConnection (s : Socket ω) : Uneventful s s.dropConnection := by
  unfold dropConnection
  split
  · exact .refl s
  · have hparted : Uneventful s { s with conn := none } := uneventful_of_eq rfl rfl rfl rfl rfl rfl rfl rfl
    exact (hparted.trans (uneventful_detach _ _)).trans (uneventful_perform _ rfl)

theorem proceeds_stepTeardown (s : Socket ω) (t : Teardown) :
    Proceeds t.continuation s (s.stepTeardown t) := by
  unfold stepTeardown
  split
  · split
    · exact .inl (uneventful_awaitTeardown s _ _)
    · exact .inl ((uneventful_awaitTeardown s _ _).trans (uneventful_closeConnection _ _ _))
  · split
    · exact .inl (uneventful_awaitTeardown s _ _)
    · refine (proceeds_continueWith _ _ _).of_uneventful (.trans ?_ (uneventful_performEach _ _ fun _ => rfl))
      have hover : Uneventful s { s with teardown := none } :=
        uneventful_of_eq rfl rfl rfl rfl rfl rfl rfl rfl
      exact hover.trans (uneventful_dropConnection _)

theorem proceeds_beginTeardown (s : Socket ω) (code : Option Nat) (reason : Option String)
    (k : Continuation) : Proceeds k s (s.beginTeardown code reason k) := by
  simp only [beginTeardown]
  split
  · refine (proceeds_continueWith _ _ _).of_uneventful (.trans ?_ (uneventful_performEach _ _ fun _ => rfl))
    exact uneventful_of_eq rfl rfl rfl rfl rfl rfl rfl rfl
  · refine (proceeds_stepTeardown _ _).of_uneventful ?_
    exact uneventful_of_eq rfl rfl rfl rfl rfl rfl rfl rfl

theorem effortful_teardownTimeout (s : Socket ω) (number generation : Nat) :
    Effortful w cmd s (s.teardownTimeout number generation) := by
  unfold teardownTimeout
  split
  · exact (Uneventful.refl s).effortful
  · split
    · split
      · exact ((proceeds_stepTeardown _ _).of_uneventful
          (uneventful_of_eq rfl rfl rfl rfl rfl rfl rfl rfl)).effortful
      · exact (Uneventful.refl s).effortful
    · exact (Uneventful.refl s).effortful

theorem effortful_disconnect (hforgives : Forgives w cmd) (s : Socket ω) (code : Option Nat)
    (reason : Option String) (k : Continuation) :
    Effortful w cmd s (s.disconnect code reason k) := by
  have hticked : Uneventful s { s.tick with closeWasClean := true } :=
    uneventful_of_eq rfl rfl rfl rfl rfl rfl rfl rfl
  have hforgiven : Effortful w cmd { s.tick with closeWasClean := true }
      { s.tick with closeWasClean := true }.resetReconnect :=
    (Effort.forgivesReconnect _ hforgives).effortful rfl
  exact (hticked.effortful.trans hforgiven).trans (proceeds_beginTeardown _ _ _ _).effortful

/-- The attempts to connect are forgotten with the connection. -/
theorem reconnectTimer_disconnect (s : Socket ω) (code : Option Nat) (reason : Option String)
    {k : Continuation} (hk : k ≠ .scheduleReconnect) :
    (s.disconnect code reason k).reconnectTimer = s.reconnectTimer.reset :=
  ((proceeds_beginTeardown _ code reason k).uneventful hk).reconnectTimer

/-! ### Signs of life -/

theorem uneventful_clearHeartbeats (s : Socket ω) : Uneventful s s.clearHeartbeats :=
  uneventful_of_eq rfl rfl rfl rfl rfl rfl rfl rfl

theorem uneventful_restartHeartbeat (s : Socket ω) : Uneventful s s.restartHeartbeat := by
  refine .trans ?_ (uneventful_arm _ _ _)
  exact uneventful_of_eq rfl rfl rfl rfl rfl rfl rfl rfl

theorem uneventful_resetHeartbeat (s : Socket ω) : Uneventful s s.resetHeartbeat := by
  unfold resetHeartbeat
  split
  · split
    · exact .refl s
    · exact uneventful_restartHeartbeat s
  · exact uneventful_restartHeartbeat s

theorem toiled_sendHeartbeat (s : Socket ω) : Toiled s s.sendHeartbeat := by
  unfold sendHeartbeat
  split
  · exact .refl s
  · have hdrawn : Uneventful s { s.drawRef.2 with pendingHeartbeat := some s.drawRef.1 } :=
      (uneventful_draws (.ref _)).trans (uneventful_of_eq rfl rfl rfl rfl rfl rfl rfl rfl)
    refine (hdrawn.toiled.trans (toiled_signOfLife _ (.heartbeat s.drawRef.1))).trans ?_
    refine Uneventful.toiled (.trans ?_ (uneventful_arm _ _ _))
    exact uneventful_of_eq rfl rfl rfl rfl rfl rfl rfl rfl

theorem toiled_heartbeatDue (s : Socket ω) (generation : Nat) :
    Toiled s (s.heartbeatDue generation) := by
  unfold heartbeatDue
  split
  · refine .trans (Uneventful.toiled ?_) (toiled_sendHeartbeat _)
    exact uneventful_of_eq rfl rfl rfl rfl rfl rfl rfl rfl
  · exact .refl s

theorem effortful_heartbeatTimeoutDue (s : Socket ω) (generation : Nat) :
    Effortful w cmd s (s.heartbeatTimeoutDue generation) := by
  unfold heartbeatTimeoutDue
  split
  · exact (Uneventful.refl s).effortful
  · rename_i timer _
    dsimp only
    split
    · set s₁ : Socket ω := { s with heartbeatTimeout := timer, pendingHeartbeat := none }
      have hready : Uneventful s s₁ := uneventful_of_eq rfl rfl rfl rfl rfl rfl rfl rfl
      have hunclean : Uneventful s₁.triggerErrors { s₁.triggerErrors with closeWasClean := false } :=
        uneventful_of_eq rfl rfl rfl rfl rfl rfl rfl rfl
      exact ((hready.toiled.trans (toiled_triggerErrors s₁)).trans hunclean.toiled).effortful.trans
        (proceeds_beginTeardown _ _ _ _).effortful
    · refine Uneventful.effortful ?_
      exact uneventful_of_eq rfl rfl rfl rfl rfl rfl rfl rfl

theorem effortful_ping (s : Socket ω) (ticket : Ticket) : Effortful w cmd s (s.ping ticket) := by
  unfold ping
  split
  · exact (uneventful_perform s rfl).effortful
  · have hsent : Toiled s (s.drawRef.2.pushMessage .socket (.heartbeat s.drawRef.1)).drawRef.2 :=
      ((uneventful_draws (.ref _)).toiled.trans (toiled_signOfLife _ _)).trans
        (uneventful_draws (.ref _)).toiled
    exact hsent.effortful.trans ((Effort.enlists _ _).effortful rfl)

/-! ### What transports report -/

/-- Efforts that accept no firing, let no callback and no channel come, and leave the timer of the next
connection alone. -/
structure Subsides (w : Socket ω) (cmd : Command) (s : Socket ω) (marks : List (Mark ω))
    (t : Socket ω) : Prop where
  efforts : Efforts w cmd s marks t
  firings : Socket.firings marks = []
  dwindles : Dwindles s t
  reconnectTimer : t.reconnectTimer = s.reconnectTimer

theorem Subsides.refl : Subsides w cmd s [] s := ⟨.refl, rfl, .refl s, rfl⟩

theorem Subsides.trans (h : Subsides w cmd s marks t) (h' : Subsides w cmd t marks' u) :
    Subsides w cmd s (marks ++ marks') u where
  efforts := h.efforts.trans h'.efforts
  firings := by rw [firings_append, h.firings, h'.firings]; rfl
  dwindles := h.dwindles.trans h'.dwindles
  reconnectTimer := h'.reconnectTimer.trans h.reconnectTimer

theorem Subsides.effortful (h : Subsides w cmd s marks t) : Effortful w cmd s t :=
  ⟨marks, h.efforts, h.firings⟩

theorem Toiled.subsides (h : Toiled s t) (w : Socket ω) (cmd : Command) :
    ∃ marks, Subsides w cmd s marks t := by
  have hsame := h.reconnectTimer
  obtain ⟨marks, htoils⟩ := h
  exact ⟨marks, htoils.efforts, htoils.firings, htoils.dwindles, hsame⟩

/-- The attempts of a channel to join are forgotten. -/
def Resets (marks : List (Mark ω)) (c : ChannelId) : Prop :=
  ∃ mark ∈ marks, mark.note = .retry (.rejoin c) .reset

omit [Outside ω] in
theorem Resets.append_left (marks : List (Mark ω)) (h : Resets marks' c) :
    Resets (marks ++ marks') c := by
  obtain ⟨mark, hmark, hnote⟩ := h
  exact ⟨mark, List.mem_append_right _ hmark, hnote⟩

omit [Outside ω] in
theorem Resets.append_right (marks' : List (Mark ω)) (h : Resets marks c) :
    Resets (marks ++ marks') c := by
  obtain ⟨mark, hmark, hnote⟩ := h
  exact ⟨mark, List.mem_append_left _ hmark, hnote⟩

/-- The callback of a channel runs as the connection opens. -/
theorem subsides_runOnOpen (hcmd : ∃ t, cmd = .transport t .opened) (s : Socket ω) (ref : Ref) :
    ∃ marks, Subsides w cmd s marks (runOnOpen s ref) ∧
      ∀ c ch, s.callbacks.onOpen.find? ref = some (.rejoin c) → s.channels.get? c = some ch →
        Resets marks c := by
  unfold runOnOpen
  split
  · rename_i callback hfind
    obtain ⟨marks, hsubsides⟩ := (toiled_perform s (e := .runOpen callback) rfl).subsides w cmd
    exact ⟨marks, hsubsides, fun c ch hown => absurd (hfind.symm.trans hown) (by simp)⟩
  · rename_i c hfind
    unfold rejoinIfErrored
    split
    · rename_i hnone
      refine ⟨[], .refl, fun d ch hown hd => ?_⟩
      cases hfind.symm.trans hown
      exact absurd (hnone.symm.trans hd) (by simp)
    · rename_i ch hc
      have hopens : Subsides w cmd s [⟨s, .retry (.rejoin c) .reset⟩] (s.resetRejoin c) :=
        ⟨(Effort.opens hcmd hfind hc).efforts, rfl, dwindles_modifyChannel s c _, rfl⟩
      have hresets : ∀ d ch', s.callbacks.onOpen.find? ref = some (.rejoin d) →
          s.channels.get? d = some ch' → Resets [⟨s, .retry (.rejoin c) .reset⟩] d := by
        intro d ch' hown _
        cases hfind.symm.trans hown
        exact ⟨_, List.mem_singleton_self _, rfl⟩
      dsimp only
      split
      · obtain ⟨marks, hrejoins⟩ := (toiled_rejoin (s.resetRejoin c) c).subsides w cmd
        exact ⟨_, hopens.trans hrejoins, fun d ch' hown hd =>
          (hresets d ch' hown hd).append_right marks⟩
      · exact ⟨_, hopens, hresets⟩
  · rename_i hfind
    exact ⟨[], .refl, fun c ch hown => absurd (hfind.symm.trans hown) (by simp)⟩

/-- As the connection opens, each channel forgets its attempts whose own callback is not removed. -/
theorem subsides_runOnOpens (hcmd : ∃ t, cmd = .transport t .opened) (refs : List Ref)
    (s : Socket ω) : ∃ marks, Subsides w cmd s marks (refs.foldl runOnOpen s) ∧
      ∀ ref ∈ refs, ∀ c ch, (refs.foldl runOnOpen s).callbacks.onOpen.find? ref = some (.rejoin c) →
        (refs.foldl runOnOpen s).channels.get? c = some ch → Resets marks c := by
  induction refs generalizing s with
  | nil => exact ⟨[], .refl, by simp⟩
  | cons ref refs ih =>
    obtain ⟨marks, hfirst, hresets⟩ := subsides_runOnOpen (w := w) hcmd s ref
    obtain ⟨marks', hrest, hresets'⟩ := ih (runOnOpen s ref)
    refine ⟨marks ++ marks', hfirst.trans hrest, fun r hr c ch hown hc => ?_⟩
    rcases List.mem_cons.mp hr with rfl | hr
    -- What is registered in the end was registered when it was its turn.
    · have hdwindles := hfirst.dwindles.trans hrest.dwindles
      obtain ⟨ch₀, hc₀⟩ := hdwindles.channels hc
      exact (hresets c ch₀ (hdwindles.callbacks.onOpen hown) hc₀).append_right marks'
    · exact (hresets' r hr c ch hown hc).append_left marks

/-- A channel's own callback runs as the transport fails. -/
theorem subsides_runOnError (hcmd : ∃ t cause, cmd = .transport t (.failed cause))
    (failure : SocketError) (context : ErrorContext) (s : Socket ω) (ref : Ref) :
    ∃ marks, Subsides w cmd s marks (runOnError failure (context, s) ref).2 ∧
      ∀ c ch, s.callbacks.onError.find? ref = some (.resetRejoin c) → s.channels.get? c = some ch →
        Resets marks c := by
  simp only [runOnError]
  split
  · rename_i callback hfind
    obtain ⟨marks, hsubsides⟩ :=
      (uneventful_runError s callback failure context).toiled.subsides w cmd
    exact ⟨marks, hsubsides, fun c ch hown => absurd (hfind.symm.trans hown) (by simp)⟩
  · rename_i c hfind
    cases hc : s.channels.get? c with
    | none =>
      obtain ⟨marks, hsubsides⟩ := (toiled_modifyChannel (s := s) (c := c)
        (f := fun ch => { ch with rejoinTimer := ch.rejoinTimer.reset })
        fun ch hch => absurd (hc.symm.trans hch) (by simp)).subsides w cmd
      refine ⟨marks, hsubsides, fun d ch hown hd => ?_⟩
      cases hfind.symm.trans hown
      exact absurd (hc.symm.trans hd) (by simp)
    | some ch =>
      refine ⟨_, ⟨(Effort.fails hcmd hfind hc).efforts, rfl, dwindles_modifyChannel s c _, rfl⟩,
        fun d ch' hown _ => ?_⟩
      cases hfind.symm.trans hown
      exact ⟨_, List.mem_singleton_self _, rfl⟩
  · rename_i hfind
    exact ⟨[], .refl, fun c ch hown => absurd (hfind.symm.trans hown) (by simp)⟩

/-- As the transport fails, each channel forgets its attempts whose own callback is not removed. -/
theorem subsides_runOnErrors (hcmd : ∃ t cause, cmd = .transport t (.failed cause))
    (failure : SocketError) (refs : List Ref) (context : ErrorContext) (s : Socket ω) :
    ∃ marks, Subsides w cmd s marks (refs.foldl (runOnError failure) (context, s)).2 ∧
      ∀ ref ∈ refs, ∀ c ch,
        (refs.foldl (runOnError failure) (context, s)).2.callbacks.onError.find? ref =
          some (.resetRejoin c) →
        (refs.foldl (runOnError failure) (context, s)).2.channels.get? c = some ch →
          Resets marks c := by
  induction refs generalizing context s with
  | nil => exact ⟨[], .refl, by simp⟩
  | cons ref refs ih =>
    obtain ⟨marks, hfirst, hresets⟩ := subsides_runOnError (w := w) hcmd failure context s ref
    obtain ⟨marks', hrest, hresets'⟩ := ih (runOnError failure (context, s) ref).1
      (runOnError failure (context, s) ref).2
    refine ⟨marks ++ marks', hfirst.trans hrest, fun r hr c ch hown hc => ?_⟩
    rcases List.mem_cons.mp hr with rfl | hr
    · have hdwindles := hfirst.dwindles.trans hrest.dwindles
      obtain ⟨ch₀, hc₀⟩ := hdwindles.channels hc
      exact (hresets c ch₀ (hdwindles.callbacks.onError hown) hc₀).append_right marks'
    · exact (hresets' r hr c ch hown hc).append_left marks

theorem toiled_frameReceived (s : Socket ω) (serializer : Serializer) (frame : Frame) :
    Toiled s (s.frameReceived serializer frame) := by
  unfold frameReceived
  split
  · rename_i m _
    refine .trans (.trans ?_ (toiled_foldl (fun c s => ?_) _ _)) (toiled_foldl (fun ref s => ?_) _ _)
    · split
      · exact (uneventful_restartHeartbeat s).toiled
      · exact .refl s
    · unfold deliver
      split
      · exact toiled_trigger s c _ _ _ _
      · exact .refl s
    · unfold runOnMessage
      split
      · exact toiled_perform s rfl
      · split
        · exact (toiled_perform s rfl).trans (uneventful_without _ [ref]).toiled
        · exact .refl s
      · exact .refl s
  · exact (uneventful_report s _).toiled

theorem effortful_connectionClosed (s : Socket ω) (event : CloseEvent) :
    Effortful w cmd s (s.connectionClosed event) := by
  simp only [connectionClosed]
  refine .trans ?_ (toiled_foldl (fun ref s => ?_) _ _).effortful
  · have hcleared : Effortful w cmd s s.triggerErrors.clearHeartbeats :=
      ((toiled_triggerErrors s).trans (uneventful_clearHeartbeats _).toiled).effortful
    split
    · exact hcleared.trans (effortful_scheduleReconnect _)
    · exact hcleared
  · unfold runOnClose
    split
    · exact toiled_perform s rfl
    · exact .refl s

/-! ### Commands -/

/-- The notes of a command, and what they are known to have. -/
structure Carried (w : Socket ω) (cmd : Command) (marks : List (Mark ω)) : Prop where
  efforts : Efforts w cmd w marks (w.handle cmd)
  /-- One firing is accepted if the command brings one that is awaited, and else none. -/
  firings : Socket.firings marks = (w.accepted? cmd).toList
  /-- A firing that is not awaited changes nothing. -/
  stale : ∀ {event}, cmd = .timer event → event.retry?.isSome = true → w.awaits event = false →
    w.handle cmd = w
  /-- As the connection opens, each channel forgets its attempts whose own callback is registered. -/
  opened : ∀ {t ref c ch}, cmd = .transport t .opened →
    (∃ conn, w.conn = some conn ∧ conn.transport = t) →
    (w.handle cmd).callbacks.onOpen.find? ref = some (.rejoin c) →
    (w.handle cmd).channels.get? c = some ch → Resets marks c
  /-- So does each channel as the transport fails. -/
  failed : ∀ {t cause ref c ch}, cmd = .transport t (.failed cause) →
    (∃ conn, w.conn = some conn ∧ conn.transport = t) →
    (w.handle cmd).callbacks.onError.find? ref = some (.resetRejoin c) →
    (w.handle cmd).channels.get? c = some ch → Resets marks c
  /-- A command that makes the socket forget its attempts to connect leaves none, and nothing armed. -/
  forgiven : Forgives w cmd →
    (w.handle cmd).reconnectTimer.tries = 0 ∧ (w.handle cmd).reconnectTimer.isPending = false

/-- A command that brings neither the firing of a backoff timer, nor the news that the connection is open
or has failed. -/
theorem Effortful.carried (h : Effortful w cmd w (w.handle cmd))
    (hevent : ∀ event, cmd = .timer event → event.retry? = none)
    (hnews : ∀ t event, cmd = .transport t event → (∃ conn, w.conn = some conn ∧ conn.transport = t) →
      event ≠ .opened ∧ ∀ cause, event ≠ .failed cause)
    (hforgiven : Forgives w cmd → ∃ b : BackoffTimer, (w.handle cmd).reconnectTimer = b.reset) :
    ∃ marks, Carried w cmd marks := by
  have hnone : w.accepted? cmd = none := by
    unfold accepted?
    split
    · rename_i event
      rw [hevent event rfl]
      exact ite_self none
    · rfl
  obtain ⟨marks, hefforts, hfirings⟩ := h
  refine ⟨marks, ?_⟩
  constructor
  case efforts => exact hefforts
  case firings =>
    rw [hfirings, hnone]
    rfl
  case stale =>
    intro event hcmd hretry
    rw [hevent event hcmd] at hretry
    cases hretry
  case opened => exact fun hcmd hconn => absurd rfl (hnews _ _ hcmd hconn).1
  case failed => exact fun hcmd hconn => absurd rfl ((hnews _ _ hcmd hconn).2 _)
  case forgiven =>
    intro h
    obtain ⟨b, hb⟩ := hforgiven h
    rw [hb]
    exact ⟨rfl, rfl⟩

/-- What a handle has asked for. -/
theorem Effortful.carried_request (h : Effortful w cmd w (w.handle cmd)) (hrequest : cmd.IsRequest)
    (hforgiven : Forgives w cmd → ∃ b : BackoffTimer, (w.handle cmd).reconnectTimer = b.reset) :
    ∃ marks, Carried w cmd marks := by
  refine h.carried ?_ ?_ hforgiven
  · rintro event rfl
    exact hrequest.elim
  · rintro t event rfl
    exact hrequest.elim

theorem effortful_markOpen (hforgives : Forgives w cmd) (s : Socket ω) :
    Effortful w cmd s s.markOpen := by
  set s₁ : Socket ω := { s with
    closeWasClean := false, established := min (s.established + 1) attemptLimit } with hs₁
  have hready : Uneventful s s₁ := uneventful_of_eq rfl rfl rfl rfl rfl rfl rfl rfl
  have hflush : Effortful w cmd s₁ s₁.flush := by
    by_cases hconnected : s₁.isConnected = true
    · exact (Effort.flushes hconnected).effortful rfl
    · rw [flush_of_idle (by simp [hconnected])]
      exact (Uneventful.refl s₁).effortful
  have hforgiven : Effortful w cmd s₁.flush s₁.flush.resetReconnect :=
    (Effort.forgivesReconnect _ hforgives).effortful rfl
  have hstarted : Uneventful s₁.flush.resetReconnect s.markOpen := uneventful_resetHeartbeat _
  exact ((hready.effortful.trans hflush).trans hforgiven).trans hstarted.effortful

/-- The attempts to connect are forgotten as the connection opens. -/
theorem reconnectTimer_markOpen (s : Socket ω) :
    ∃ b : BackoffTimer, s.markOpen.reconnectTimer = b.reset :=
  ⟨_, (uneventful_resetHeartbeat _).reconnectTimer⟩

omit [Outside ω] in
theorem mem_refs {α : Type} {registry : Registry α} {ref : Ref} {entry : α}
    (h : registry.find? ref = some entry) : ref ∈ registry.refs :=
  List.mem_map_of_mem (f := Prod.fst) (Registry.mem_of_find? h)

theorem carried_opened {t : TransportId} (hconn : ∃ conn, w.conn = some conn ∧ conn.transport = t) :
    ∃ marks, Carried w (.transport t .opened) marks := by
  obtain ⟨conn, hc, ht⟩ := hconn
  have hhandle : w.handle (.transport t .opened) = w.pruneRetired.connectionOpened := by
    simp only [handle, transportEvent, conn_pruneRetired, hc, ht, if_true]
  have hforgives : Forgives w (.transport t .opened) := ⟨conn, hc, ht⟩
  set s := w.pruneRetired.markOpen with hs
  obtain ⟨marks, hefforts, hfirings⟩ := (uneventful_pruneRetired w).effortful.trans
    (effortful_markOpen hforgives w.pruneRetired)
  have hcmd : ∃ t', Command.transport t .opened = .transport t' .opened := ⟨t, rfl⟩
  obtain ⟨marks', hsubsides, hresets⟩ :=
    subsides_runOnOpens (w := w) hcmd s.callbacks.onOpen.refs s
  have hend : w.handle (.transport t .opened) = s.callbacks.onOpen.refs.foldl runOnOpen s := hhandle
  refine ⟨marks ++ marks', ?_⟩
  constructor
  case efforts =>
    rw [hend]
    exact hefforts.trans hsubsides.efforts
  case firings =>
    rw [firings_append, hfirings, hsubsides.firings]
    rfl
  case stale => simp
  case failed => simp
  case opened =>
    rw [hend]
    intro _ ref c ch _ _ hown hch
    exact (hresets ref (mem_refs (hsubsides.dwindles.callbacks.onOpen hown)) c ch hown hch).append_left
      marks
  case forgiven =>
    obtain ⟨b, hb⟩ := reconnectTimer_markOpen w.pruneRetired
    rw [hend, hsubsides.reconnectTimer, hb]
    exact fun _ => ⟨rfl, rfl⟩

/-- A fallback is taken, if one was chosen. -/
theorem takeFallback_facts (hforgives : Supplants w cmd → Forgives w cmd) {fallback : Option Factory}
    (hchosen : fallback.isSome = true → Supplants w cmd) (s : Socket ω) :
    Effortful w cmd s (s.takeFallback fallback) ∧ Dwindles s (s.takeFallback fallback) ∧
      (fallback.isSome = true → (s.takeFallback fallback).reconnectTimer = s.reconnectTimer.reset) := by
  cases fallback with
  | none => exact ⟨(Uneventful.refl s).effortful, .refl s, by simp⟩
  | some factory =>
    have hsupplants := hchosen rfl
    have hconnects := uneventful_connect (s.replaceTransport factory)
    have heq : s.takeFallback (some factory) = (s.replaceTransport factory).connect := rfl
    rw [heq]
    refine ⟨?_, ?_, fun _ => ?_⟩
    · exact (effortful_replaceTransport hsupplants (hforgives hsupplants) s factory).trans
        hconnects.effortful
    · exact (dwindles_replaceTransport s factory).trans hconnects.dwindles
    · exact hconnects.reconnectTimer.trans (reconnectTimer_replaceTransport s factory)

theorem carried_failed {t : TransportId} (cause : TransportError)
    (hconn : ∃ conn, w.conn = some conn ∧ conn.transport = t) :
    ∃ marks, Carried w (.transport t (.failed cause)) marks := by
  obtain ⟨conn, hc, ht⟩ := hconn
  set cmd : Command := .transport t (.failed cause) with hcmd
  have hhandle : w.handle cmd = w.pruneRetired.connectionFailed cause := by
    simp only [hcmd, handle, transportEvent, conn_pruneRetired, hc, ht, if_true]
  obtain ⟨marks₁, hfirst, hresets⟩ := subsides_runOnErrors (w := w) ⟨t, cause, hcmd⟩
    (.transport cause) w.pruneRetired.callbacks.onError.refs w.pruneRetired.errorContext w.pruneRetired
  rcases hrun : w.pruneRetired.callbacks.onError.refs.foldl (runOnError (.transport cause))
    (w.pruneRetired.errorContext, w.pruneRetired) with ⟨context, s⟩
  rw [hrun] at hfirst hresets
  dsimp only at hfirst hresets
  have hchosen : context.fallback.isSome = true → Supplants w cmd := fun hsome =>
    ⟨conn, hc, ht, by rw [hrun]; exact hsome⟩
  obtain ⟨hfallback, hdwindles, htimer⟩ := takeFallback_facts (w := w) id hchosen s
  -- The channels are told at the end, unless the socket has fallen back.
  have htold : Toiled (s.takeFallback context.fallback) (w.handle cmd) := by
    rw [hhandle]
    simp only [connectionFailed, hrun]
    split
    · exact toiled_triggerErrors _
    · exact .refl _
  have hprune : Effortful w cmd w w.pruneRetired := (uneventful_pruneRetired w).effortful
  obtain ⟨marks₀, hpruned, hnone₀⟩ := hprune
  obtain ⟨marks₂, hrest, hnone₂⟩ := hfallback.trans htold.effortful
  have hdwindles' : Dwindles s (w.handle cmd) := hdwindles.trans htold.dwindles
  refine ⟨marks₀ ++ (marks₁ ++ marks₂), ?_⟩
  constructor
  case efforts => exact hpruned.trans (hfirst.efforts.trans hrest)
  case firings =>
    rw [firings_append, firings_append, hnone₀, hfirst.firings, hnone₂]
    rfl
  case stale => simp [hcmd]
  case opened => simp [hcmd]
  case failed =>
    intro _ _ ref c ch _ _ hown hch
    obtain ⟨ch', hch'⟩ := hdwindles'.channels hch
    have hown' := hdwindles'.callbacks.onError hown
    refine Resets.append_left marks₀ (Resets.append_right marks₂ ?_)
    exact hresets ref (mem_refs (hfirst.dwindles.callbacks.onError hown')) c ch' hown' hch'
  case forgiven =>
    rintro ⟨_, _, _, hsome⟩
    rw [hrun] at hsome
    rw [htold.reconnectTimer, htimer hsome]
    exact ⟨rfl, rfl⟩

theorem carried_transport (t : TransportId) (event : TransportEvent) :
    ∃ marks, Carried w (.transport t event) marks := by
  by_cases hlive : ∃ conn, w.conn = some conn ∧ conn.transport = t
  · have hlive' := hlive
    obtain ⟨conn, hc, ht⟩ := hlive
    cases event with
    | opened => exact carried_opened hlive'
    | failed cause => exact carried_failed cause hlive'
    | received frame =>
      refine Effortful.carried ?_ (by simp) (by simp) False.elim
      simp only [handle, transportEvent, conn_pruneRetired, hc, ht, if_true]
      exact ((uneventful_pruneRetired w).toiled.trans (toiled_frameReceived _ _ frame)).effortful
    | closed event =>
      refine Effortful.carried ?_ (by simp) (by simp) False.elim
      simp only [handle, transportEvent, conn_pruneRetired, hc, ht, if_true]
      exact (uneventful_pruneRetired w).effortful.trans (effortful_connectionClosed _ event)
  · have hhandle : w.handle (.transport t event) = w.pruneRetired := by
      simp only [handle, transportEvent, conn_pruneRetired]
      split
      · rfl
      · rename_i conn hc
        rw [if_neg fun ht => hlive ⟨conn, hc, ht⟩]
    refine Effortful.carried ?_ (by simp) ?_ fun hforgives => ?_
    · rw [hhandle]
      exact (uneventful_pruneRetired w).effortful
    · rintro _ _ ⟨⟩ hconn
      exact absurd hconn hlive
    · cases event with
      | opened => exact absurd hforgives hlive
      | failed cause =>
        obtain ⟨conn, hc, ht, -⟩ := hforgives
        exact absurd ⟨conn, hc, ht⟩ hlive
      | _ => cases hforgives

/-! ### Commands of timers -/

/-- A firing that is not awaited is passed over. -/
theorem carried_stale {event : TimerEvent} (hstale : w.awaits event = false)
    (hhandle : w.handle (.timer event) = w) : ∃ marks, Carried w (.timer event) marks := by
  refine ⟨[], ?_⟩
  constructor
  case efforts =>
    rw [hhandle]
    exact .refl
  case firings => simp [accepted?, hstale, firings]
  case stale => exact fun _ _ _ => hhandle
  case opened => simp
  case failed => simp
  case forgiven => exact False.elim

/-- The firing that is awaited is accepted first. -/
theorem carried_awaited {event : TimerEvent} {retry : Retry} {generation : Nat}
    (hretry : event.retry? = some (retry, generation)) (hawaits : w.awaits event = true)
    (hfires : Effort w (.timer event) [.retry retry (.fired generation)] w s)
    (hrest : Effortful w (.timer event) s (w.handle (.timer event))) :
    ∃ marks, Carried w (.timer event) marks := by
  obtain ⟨marks, hefforts, hfirings⟩ := hrest
  refine ⟨[⟨w, .retry retry (.fired generation)⟩] ++ marks, ?_⟩
  constructor
  case efforts => exact hfires.efforts.trans hefforts
  case firings =>
    rw [firings_append, hfirings]
    simp [accepted?, hawaits, hretry, firings, Note.fired?]
  case stale =>
    rintro _ ⟨⟩ _ hstale
    rw [hawaits] at hstale
    cases hstale
  case opened => simp
  case failed => simp
  case forgiven => exact False.elim

theorem carried_rejoin (c : ChannelId) (generation : Nat) :
    ∃ marks, Carried w (.timer (.rejoin c generation)) marks := by
  have hawaits : w.awaits (.rejoin c generation) =
      ((w.channels.get? c).bind fun ch => ch.rejoinTimer.fire generation).isSome := by
    simp only [awaits]
    cases w.channels.get? c <;> rfl
  cases hfire : (w.channels.get? c).bind fun ch => ch.rejoinTimer.fire generation with
  | none =>
    refine carried_stale ?_ ?_
    · rw [hawaits, hfire]
      rfl
    · simp only [handle, timerEvent, rejoinTimeout, hfire]
  | some timer =>
    obtain ⟨ch, hc, hfired⟩ := Option.bind_eq_some_iff.mp hfire
    refine carried_awaited rfl ?_ (.fires rfl hc hfired) ?_
    · rw [hawaits, hfire]
      rfl
    · simp only [handle, timerEvent, rejoinTimeout, hfire]
      split
      · exact (toiled_rejoin _ c).effortful
      · exact (Uneventful.refl _).effortful

theorem carried_reconnect (generation : Nat) :
    ∃ marks, Carried w (.timer (.reconnect generation)) marks := by
  cases hfired : w.reconnectTimer.fire generation with
  | none =>
    refine carried_stale ?_ ?_
    · simp [awaits, hfired]
    · simp only [handle, timerEvent, hfired]
  | some timer =>
    refine carried_awaited rfl ?_ (.reconnects rfl hfired) ?_
    · simp [awaits, hfired]
    · simp only [handle, timerEvent, hfired]
      exact (proceeds_beginTeardown _ _ _ _).effortful

theorem carried_timer (event : TimerEvent) : ∃ marks, Carried w (.timer event) marks := by
  have hplain : event.retry? = none → Effortful w (.timer event) w (w.handle (.timer event)) →
      ∃ marks, Carried w (.timer event) marks := fun hnone h =>
    h.carried (by rintro _ ⟨⟩; exact hnone) (by simp) False.elim
  cases event with
  | heartbeatDue generation => exact hplain rfl (toiled_heartbeatDue w generation).effortful
  | heartbeatTimeout generation => exact hplain rfl (effortful_heartbeatTimeoutDue w generation)
  | reconnect generation => exact carried_reconnect generation
  | rejoin c generation => exact carried_rejoin c generation
  | pushTimeout c p generation => exact hplain rfl (toiled_pushTimeout w c p generation).effortful
  | teardown number generation => exact hplain rfl (effortful_teardownTimeout w number generation)

/-! ### The end -/

/-- A socket that ends disarms its timers and gives its transports up, before all is forgotten. -/
theorem toiled_shutdown (s : Socket ω) :
    ∃ v : Socket ω, Toiled { s with teardown := none }.clearHeartbeats.resetReconnect v ∧
      s.shutdown = { v with channels := .empty, order := [], exchange := v.exchange.shut } := by
  have hconn : ∀ s : Socket ω, Uneventful s s.abandonConnection := by
    intro s
    unfold abandonConnection
    split
    · exact .refl s
    · have hparted : Uneventful s { s with conn := none } :=
        uneventful_of_eq rfl rfl rfl rfl rfl rfl rfl rfl
      refine (hparted.trans (uneventful_detach _ _)).trans (uneventful_performAll _ ?_)
      simp [Effect.isPostal]
  have hretired : ∀ (c : Connection) (s : Socket ω), Toiled s (s.abandonRetired c) :=
    fun c s => ((uneventful_detach s _).trans (uneventful_perform _ rfl)).toiled
  set s₁ := { s with teardown := none }.clearHeartbeats.resetReconnect
  have hclosed : Uneventful s₁ { s₁.abandonConnection with retired := [] } :=
    (hconn s₁).trans (uneventful_of_eq rfl rfl rfl rfl rfl rfl rfl rfl)
  exact ⟨_, hclosed.toiled.trans (toiled_foldl hretired s₁.abandonConnection.retired _), rfl⟩

theorem carried_shutdown (w : Socket ω) : ∃ marks, Carried w .shutdown marks := by
  obtain ⟨v, hgone, heq⟩ := toiled_shutdown w
  have hready : Uneventful w { w with teardown := none }.clearHeartbeats :=
    uneventful_of_eq rfl rfl rfl rfl rfl rfl rfl rfl
  have hforgives : Forgives w .shutdown := trivial
  have hforgiven : Effortful w .shutdown { w with teardown := none }.clearHeartbeats
      { w with teardown := none }.clearHeartbeats.resetReconnect :=
    (Effort.forgivesReconnect _ hforgives).effortful rfl
  have hends : Effortful w .shutdown v
      { v with channels := .empty, order := [], exchange := v.exchange.shut } :=
    (Effort.ends v).effortful rfl
  have hhandle : w.handle .shutdown =
      { v with channels := .empty, order := [], exchange := v.exchange.shut } := heq
  refine Effortful.carried ?_ (by simp) (by simp) fun _ => ⟨w.reconnectTimer, ?_⟩
  · rw [hhandle]
    exact ((hready.effortful.trans hforgiven).trans hgone.effortful).trans hends
  · rw [hhandle]
    exact hgone.reconnectTimer

/-- Every command is carried out in efforts. -/
theorem carried_handle (w : Socket ω) (cmd : Command) : ∃ marks, Carried w cmd marks := by
  have hplain : cmd.IsRequest → ¬ Forgives w cmd → Effortful w cmd w (w.handle cmd) →
      ∃ marks, Carried w cmd marks := fun hrequest hforgives h =>
    h.carried_request hrequest fun h => absurd h hforgives
  have hforgiving : cmd.IsRequest → Effortful w cmd w (w.handle cmd) → ∀ b : BackoffTimer,
      (w.handle cmd).reconnectTimer = b.reset → ∃ marks, Carried w cmd marks :=
    fun hrequest h b hb => h.carried_request hrequest fun _ => ⟨b, hb⟩
  cases cmd with
  | connect => exact hplain trivial id (uneventful_connect w).effortful
  | disconnect code reason done =>
    have hforgives : Forgives w (.disconnect code reason done) := trivial
    refine hforgiving trivial (effortful_disconnect hforgives w code reason _)
      w.reconnectTimer ?_
    exact reconnectTimer_disconnect w code reason (by cases done <;> simp [continuationOf])
  | replaceTransport factory =>
    have hsupplants : Supplants w (.replaceTransport factory) := trivial
    have hforgives : Forgives w (.replaceTransport factory) := trivial
    refine hforgiving trivial (effortful_replaceTransport hsupplants hforgives w factory)
      w.reconnectTimer ?_
    exact reconnectTimer_replaceTransport w factory
  | pause =>
    by_cases hconn : w.conn.isSome = true
    · have hhandle : w.handle .pause = { w.disconnect none none .nothing with
          awaitingResume := some (w.disconnect none none .nothing).connectClock } := if_pos hconn
      have hforgives : Forgives w .pause := hconn
      refine hforgiving trivial ?_ w.reconnectTimer ?_
      · rw [hhandle]
        refine (effortful_disconnect hforgives w none none .nothing).trans (Uneventful.effortful ?_)
        exact uneventful_of_eq rfl rfl rfl rfl rfl rfl rfl rfl
      · rw [hhandle]
        exact reconnectTimer_disconnect w none none (by simp)
    · have hhandle : w.handle .pause = w := if_neg hconn
      refine hplain trivial hconn ?_
      rw [hhandle]
      exact (Uneventful.refl w).effortful
  | resume =>
    refine hplain trivial id ?_
    simp only [handle, resume]
    split
    · refine Uneventful.effortful (.trans ?_ (uneventful_connect _))
      exact uneventful_of_eq rfl rfl rfl rfl rfl rfl rfl rfl
    · exact (Uneventful.refl w).effortful
  | register occasion ref callback =>
    exact hplain trivial id ((Effort.enlists w _).effortful rfl)
  | off refs => exact hplain trivial id (uneventful_off w refs).effortful
  | ping ticket => exact hplain trivial id (effortful_ping w ticket)
  | askReadyState ticket => exact hplain trivial id (uneventful_perform w rfl).effortful
  | askReconnectTries ticket => exact hplain trivial id (uneventful_perform w rfl).effortful
  | askEstablished ticket => exact hplain trivial id (uneventful_perform w rfl).effortful
  | createChannel c topic params =>
    exact hplain trivial id ((Effort.enters w c topic params).effortful rfl)
  | channel c op => exact hplain trivial id (toiled_channelOp w c op).effortful
  | dropChannel c => exact hplain trivial id (toiled_dropChannel w c).effortful
  | transport t event => exact carried_transport t event
  | timer event => exact carried_timer event
  | shutdown => exact carried_shutdown w

end Socket

end Switchboard
