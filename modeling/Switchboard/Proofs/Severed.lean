import Switchboard.Proofs.Cascade
import Switchboard.Proofs.LateReplies
import Switchboard.Proofs.Scripts

/-!
# The connection fails

A connection fails when its transport reports that it has closed, when a sign of life is not answered in
time, and when its transport is replaced.  In each case the channels that join or are joined are told once,
and afterwards none of them joins or is joined.

Main definitions

* `Socket.Unalarmed`: nobody is told of a failure meanwhile;
* `Socket.parted`, `Socket.Fails`: the commands by which a connection fails, and the socket when it comes
  to tell its channels;
* `Socket.Felled`: the channels that a failure concerns have failed, and the others are what they were;
* `Socket.Cascade`: what the failure of a connection comes to.

Main results

* `Socket.Fails.before`, `Socket.Fails.after`: what else such a command does;
* `Socket.felled_triggerErrors`, `Socket.made_triggerErrors`: what becomes of the channels, and who is told;
* `Socket.Reachable.failure_cascades`: the failure of a connection reaches each channel that it concerns
  once, and no other;
* `Socket.not_connected_of_replaced`: where the transport was replaced, no join attempt is armed.
-/

set_option autoImplicit false

namespace Switchboard

namespace Socket

section Outside

variable {ω : Type} [Outside ω] {s t u : Socket (Recorded (Watched ω))} {c : ChannelId} {ch : Channel}
variable {cmd : Command} {x : Exchange}

/-! ### What else is asked of the surroundings -/

/-- Nothing that is asked of the surroundings meanwhile tells of a failure. -/
def Unalarmed (s t : Socket (Recorded (Watched ω))) : Prop :=
  ∃ made, t.made = s.made ++ made ∧ ∀ call ∈ made, call.isAlarm = false

omit [Outside ω] in
theorem Unalarmed.of_eq (h : t.made = s.made) : Unalarmed s t := ⟨[], by simp [h], by simp⟩

omit [Outside ω] in
theorem Unalarmed.trans (h : Unalarmed s t) (h' : Unalarmed t u) : Unalarmed s u := by
  obtain ⟨made, hmade, hcalls⟩ := h
  obtain ⟨made', hmade', hcalls'⟩ := h'
  refine ⟨made ++ made', by rw [hmade', hmade, List.append_assoc], fun call hcall => ?_⟩
  exact (List.mem_append.mp hcall).elim (hcalls call) (hcalls' call)

theorem unalarmed_performAll (s : Socket (Recorded (Watched ω))) {es : List Effect}
    (h : ∀ e ∈ es, (Call.effect e).isAlarm = false) : Unalarmed s (s.performAll es) := by
  refine ⟨es.map .effect, made_performAll s es, fun call hcall => ?_⟩
  obtain ⟨e, he, rfl⟩ := List.mem_map.mp hcall
  exact h e he

theorem unalarmed_perform (s : Socket (Recorded (Watched ω))) {e : Effect}
    (h : (Call.effect e).isAlarm = false) : Unalarmed s (s.perform e) := by
  have hes : ∀ e' ∈ [e], (Call.effect e').isAlarm = false := by simpa using h
  exact unalarmed_performAll s hes

omit [Outside ω] in
theorem unalarmed_foldl {α : Type} {f : Socket (Recorded (Watched ω)) → α → Socket (Recorded (Watched ω))}
    (h : ∀ s a, Unalarmed s (f s a)) (l : List α) (s : Socket (Recorded (Watched ω))) :
    Unalarmed s (l.foldl f s) := by
  induction l generalizing s with
  | nil => exact .of_eq rfl
  | cons a l ih => exact (h s a).trans (ih (f s a))

theorem unalarmed_pruneRetired (s : Socket (Recorded (Watched ω))) : Unalarmed s s.pruneRetired := by
  refine unalarmed_performAll _ fun e he => ?_
  obtain ⟨conn, _, rfl⟩ := List.mem_map.mp he
  rfl

theorem unalarmed_runOnClose (event : CloseEvent) (s : Socket (Recorded (Watched ω))) (ref : Ref) :
    Unalarmed s (runOnClose event s ref) := by
  unfold runOnClose
  split
  · exact unalarmed_perform s rfl
  · exact .of_eq rfl

theorem unalarmed_closeConnection (s : Socket (Recorded (Watched ω))) (code : Option Nat)
    (reason : Option String) : Unalarmed s (s.closeConnection code reason) := by
  unfold closeConnection
  split
  · exact .of_eq rfl
  · exact unalarmed_perform s rfl

theorem unalarmed_notifyAll (s : Socket (Recorded (Watched ω))) (tickets : List Ticket) :
    Unalarmed s (s.notifyAll tickets) := by
  refine unalarmed_performAll s fun e he => ?_
  obtain ⟨ticket, _, rfl⟩ := List.mem_map.mp he
  rfl

/-- A teardown after which the socket connects again begins. -/
theorem unalarmed_beginTeardown (s : Socket (Recorded (Watched ω))) (code : Option Nat)
    (reason : Option String) : Unalarmed s (s.beginTeardown code reason .scheduleReconnect) := by
  simp only [beginTeardown]
  split
  · refine Unalarmed.trans (t := { s with teardown := none }) (.of_eq rfl)
      ((unalarmed_notifyAll _ s.teardownCallers).trans ?_)
    simp only [continueWith]
    split <;> exact .of_eq rfl
  · simp only [stepTeardown]
    split
    · exact .of_eq rfl
    · refine Unalarmed.trans ?_ (unalarmed_closeConnection _ code reason)
      exact .of_eq rfl

/-! ### How a connection fails -/

/-- The transport of a connection is asked to close and let go, and nobody has been told. -/
def parted {ω : Type} [Outside ω] (s : Socket ω) (conn : Connection) : Socket ω :=
  let s := { s.tick.resetReconnect with closeWasClean := true, sendBuffer := [] }.pruneRetired
  { ({ s with conn := none }.detach conn.transport).perform (.close conn.transport none none) with
    retired := s.retired ++ [conn] }

/-- A command by which the connection fails, and the socket when it comes to tell its channels. -/
inductive Fails {ω : Type} [Outside ω] (s : Socket ω) : Command → Socket ω → Prop
  /-- The transport reports that it has closed. -/
  | closed {conn : Connection} {event : CloseEvent} (live : s.conn = some conn) :
    Fails s (.transport conn.transport (.closed event)) s.pruneRetired
  /-- The reply to a sign of life did not come in time. -/
  | missed {generation : Nat} {timer : TimerSlot}
    (accepted : s.heartbeatTimeout.accept generation = some timer)
    (outstanding : s.pendingHeartbeat.isSome = true) :
    Fails s (.timer (.heartbeatTimeout generation))
      { s with heartbeatTimeout := timer, pendingHeartbeat := none }
  /-- The transport is replaced. -/
  | replaced {conn : Connection} {factory : Factory} (live : s.conn = some conn) :
    Fails s (.replaceTransport factory) (s.parted conn)

variable [Obliging ω]

/-- Before the channels are told nothing happens to them, and nobody is told of a failure. -/
theorem Fails.before (h : Fails s cmd t) : Quiet s t ∧ Unalarmed s t := by
  cases h with
  | closed live => exact ⟨quiet_pruneRetired s, unalarmed_pruneRetired s⟩
  | missed accepted outstanding => exact ⟨.of_eq rfl rfl rfl rfl, .of_eq rfl⟩
  | @replaced conn factory live =>
    set s₁ : Socket (Recorded (Watched ω)) := { s.tick.resetReconnect with
      closeWasClean := true, sendBuffer := [] } with hs₁
    set s₂ := { s₁.pruneRetired with conn := none }.detach conn.transport with hs₂
    have hstart : Quiet s s₁ := .of_eq rfl rfl rfl rfl
    have hletGo : Quiet s₁.pruneRetired s₂ :=
      Quiet.trans (t := { s₁.pruneRetired with conn := none }) (.of_eq rfl rfl rfl rfl)
        (quiet_detach _ conn.transport)
    have hasked : Quiet s₂ (s₂.perform (.close conn.transport none none)) := quiet_perform s₂ rfl
    refine ⟨(((hstart.trans (quiet_pruneRetired s₁)).trans hletGo).trans hasked).trans ?_, ?_⟩
    · exact .of_eq rfl rfl rfl rfl
    · have hunalarmed : Unalarmed s₂ (s₂.perform (.close conn.transport none none)) := unalarmed_perform s₂ rfl
      have hpruned : Unalarmed s s₁.pruneRetired := (Unalarmed.of_eq rfl).trans (unalarmed_pruneRetired s₁)
      exact (hpruned.trans (Unalarmed.of_eq rfl)).trans (hunalarmed.trans (.of_eq rfl))

omit [Obliging ω] in
theorem handle_closed {conn : Connection} (live : s.conn = some conn) (event : CloseEvent) :
    s.handle (.transport conn.transport (.closed event)) = s.pruneRetired.connectionClosed event := by
  simp only [handle, transportEvent, (conn_pruneRetired s).trans live, if_true]

omit [Obliging ω] in
theorem handle_missed {generation : Nat} {timer : TimerSlot}
    (accepted : s.heartbeatTimeout.accept generation = some timer)
    (outstanding : s.pendingHeartbeat.isSome = true) :
    s.handle (.timer (.heartbeatTimeout generation)) =
      { s with heartbeatTimeout := timer }.loseConnection := by
  simp only [handle, timerEvent, heartbeatTimeoutDue, accepted, outstanding, if_true]

omit [Obliging ω] in
theorem handle_replaced {conn : Connection} (live : s.conn = some conn) (factory : Factory) :
    s.handle (.replaceTransport factory) =
      { (s.parted conn).triggerErrors with factory := factory } := by
  have hconn : { s.tick.resetReconnect with
      closeWasClean := true, sendBuffer := [] }.pruneRetired.conn = some conn :=
    (conn_pruneRetired _).trans live
  simp only [handle, replaceTransport, retire, hconn]
  rfl

/-- Nor does anything happen to them once they have been told. -/
theorem Fails.after (h : Fails s cmd t) :
    Quiet t.triggerErrors (s.handle cmd) ∧ Unalarmed t.triggerErrors (s.handle cmd) := by
  cases h with
  | @closed conn event live =>
    rw [handle_closed live event]
    set u := s.pruneRetired.triggerErrors with hu
    have hclear : Quiet u u.clearHeartbeats := .of_eq rfl rfl rfl rfl
    simp only [connectionClosed, ← hu]
    split
    · refine ⟨hclear.trans ((quiet_scheduleReconnect _).trans (quiet_foldl (quiet_runOnClose event) _ _)),
        ?_⟩
      exact Unalarmed.trans (.of_eq rfl) (unalarmed_foldl (unalarmed_runOnClose event) _ _)
    · refine ⟨hclear.trans (quiet_foldl (quiet_runOnClose event) _ _), ?_⟩
      exact Unalarmed.trans (.of_eq rfl) (unalarmed_foldl (unalarmed_runOnClose event) _ _)
  | missed accepted outstanding =>
    rw [handle_missed accepted outstanding]
    refine ⟨Quiet.trans ?_ (quiet_beginTeardown _ _ _ _), Unalarmed.trans ?_ (unalarmed_beginTeardown _ _ _)⟩
    · exact .of_eq rfl rfl rfl rfl
    · exact .of_eq rfl
  | @replaced conn factory live =>
    rw [handle_replaced live factory]
    exact ⟨.of_eq rfl rfl rfl rfl, .of_eq rfl⟩

/-! ### What a failure comes to -/

theorem concerned_of_quiet {ω : Type} {s t : Socket (Recorded ω)} (h : Quiet s t) :
    t.concerned = s.concerned := by
  have hsame : t.isConcerned = s.isConcerned := by
    funext c
    rw [isConcerned, isConcerned, h.get? c]
  rw [concerned, concerned, h.order_eq, hsame]

/-- When a channel is told of a failure it is what it was, and so is the connection. -/
theorem facing_keeps (hs : Sound s) (hf : Throughout Channel.FailsFirst s) (c : ChannelId) :
    (s.facing c).2.channels.get? c = s.channels.get? c ∧ (s.facing c).2.conn = s.conn := by
  have htold := told_foldl hs hf (List.takeWhile_prefix (p := (· ≠ c)) (l := s.order))
  have hnot : c ∉ s.order.takeWhile (· ≠ c) := fun hmem => by
    simpa using List.mem_takeWhile_imp hmem
  rw [facing, alert_eq]
  refine ⟨?_, htold.conn_eq⟩
  have hget := htold.get? c
  simp only [hnot, false_and, if_false] at hget
  rw [hget, Option.map_id']

/-- The connection of a socket has failed: what the socket was, what it was when it came to tell its
channels, and what it is now. -/
structure Cascade (s before after : Socket (Recorded (Watched ω))) : Prop where
  /-- Each registered channel that joins or is joined is told once, in the order of registration. -/
  once : before.triggerErrors = s.concerned.foldl triggerError before
  /-- Their hooks and listeners are told, and nobody else is. -/
  told : ∃ made, after.made = s.made ++ made ∧ made.filter Call.isAlarm =
    s.concerned.flatMap fun c => (s.channels.get? c).elim [] (·.tidings (before.facing c).1)
  order_eq : after.order = s.order
  /-- They have failed, and the other channels are what they were. -/
  get? : ∀ c, after.channels.get? c = (s.channels.get? c).map fun ch =>
    if c ∈ s.concerned then ch.fallen (before.facing c).2.isConnected else ch
  /-- No registered channel joins or is joined any more. -/
  settled : ∀ ⦃c ch⦄, c ∈ after.order → after.channels.get? c = some ch →
    ch.state ≠ .joining ∧ ch.state ≠ .joined
  /-- A join that was not answered is where it was before it was sent, and no reply to it, however late,
  lets a channel in. -/
  lapsed : ∀ ⦃c ch⦄, c ∈ s.order → s.channels.get? c = some ch → ch.state = .joining →
    ∃ q ch', ch.pushes.get? joinPush = some q ∧ after.channels.get? c = some ch' ∧
      ch'.pushes.get? joinPush = some q.reset ∧ ¬ ch'.Awaits joinPush ∧
      ∀ r, q.ref = some r → Lapsed r after
  /-- The next join attempt is armed if the socket was connected at that moment, and else it is left as it
  was. -/
  rearmed : ∀ ⦃c ch⦄, c ∈ s.concerned → s.channels.get? c = some ch →
    ((before.facing c).2.failChannel c).exchange = (if (before.facing c).2.isConnected then
      (before.facing c).2.exchange.arm (ch.rejoinTimer.delay (before.facing c).2.config.rejoinAfter)
        (.rejoin c ch.rejoinTimer.schedule.slot.generation)
      else (before.facing c).2.exchange) ∧
    ((before.facing c).2.isConnected = true →
      after.awaits (.rejoin c ch.rejoinTimer.schedule.slot.generation) = true) ∧
    ((before.facing c).2.isConnected = false →
      (after.channels.get? c).map (·.rejoinTimer) = some ch.rejoinTimer)

theorem filter_isAlarm_eq_nil {made : List Call} (h : ∀ call ∈ made, call.isAlarm = false) :
    made.filter Call.isAlarm = [] :=
  List.filter_eq_nil_iff.mpr fun call hcall => by simp [h call hcall]

/-- All of what the channels are told is news of a failure. -/
theorem filter_isAlarm_tidings (cs : List ChannelId) (channels : Table Channel)
    (word : ChannelId → Payload) :
    (cs.flatMap fun c => (channels.get? c).elim [] (·.tidings (word c))).filter Call.isAlarm =
      cs.flatMap fun c => (channels.get? c).elim [] (·.tidings (word c)) := by
  refine List.filter_eq_self.mpr fun call hcall => ?_
  obtain ⟨c, _, hc⟩ := List.mem_flatMap.mp hcall
  cases hch : channels.get? c with
  | none => simp [hch] at hc
  | some ch => exact Channel.isAlarm_of_mem_tidings (by simpa [hch] using hc)

theorem concerned_of_joining {ω : Type} {s : Socket (Recorded ω)} {c : ChannelId} {ch : Channel}
    (hmem : c ∈ s.order) (hc : s.channels.get? c = some ch) (hjoining : ch.state = .joining) :
    c ∈ s.concerned :=
  (mem_concerned hc).mpr ⟨hmem, by simp [Channel.acceptsError, hjoining]⟩

/-- The channels that a failure concerns have failed, and the others are what they were. -/
def Felled {ω : Type} (connected : ChannelId → Bool) (s t : Socket (Recorded ω)) : Prop :=
  ∀ c, t.channels.get? c = (s.channels.get? c).map fun ch =>
    if c ∈ s.concerned then ch.fallen (connected c) else ch

section Felled

variable {ω : Type} {s t : Socket (Recorded ω)} {connected : ChannelId → Bool} {c : ChannelId}
variable {ch : Channel}

theorem Felled.of_concerned (h : Felled connected s t) (hin : c ∈ s.concerned)
    (hc : s.channels.get? c = some ch) : t.channels.get? c = some (ch.fallen (connected c)) := by
  rw [h c, hc, Option.map_some, if_pos hin]

theorem Felled.settled (h : Felled connected s t) {ch' : Channel} (hmem : c ∈ s.order)
    (hc' : t.channels.get? c = some ch') : ch'.state ≠ .joining ∧ ch'.state ≠ .joined := by
  obtain ⟨ch, hc, rfl⟩ := Option.map_eq_some_iff.mp ((h c).symm.trans hc')
  split
  · simp [Channel.fallen]
  · rename_i hnot
    have hleft : ch.acceptsError = false := by simpa [mem_concerned hc, hmem] using hnot
    constructor <;> intro hstate <;> simp [Channel.acceptsError, hstate] at hleft

/-- The ref of a join that was given up is the ref of no push. -/
theorem Felled.retired (h : Felled connected s t) (hs : Sound s) (he : s.exchange.Evolves t.exchange)
    (hmem : c ∈ s.order) (hc : s.channels.get? c = some ch) (hjoining : ch.state = .joining) {q : Push}
    {r : Ref} (hq : ch.pushes.get? joinPush = some q) (hr : q.ref = some r) : Retired r t where
  drew := he.drew ((hs.channels hc).drew hq hr)
  unused hb d ch' p q' hd hq' hr' := by
    have hapart := hs.apart (lt_of_le_of_lt he.drawn_le hb)
    obtain ⟨ch₀, hd₀, rfl⟩ := Option.map_eq_some_iff.mp ((h d).symm.trans hd)
    split at hq'
    · obtain ⟨hq₀, hother⟩ := Channel.fallen_push hq' hr'
      obtain ⟨rfl, rfl⟩ := hapart hc hd₀ hq hq₀ hr hr'
      rw [hc] at hd₀
      cases hd₀
      exact hother hjoining rfl
    · rename_i hnot
      obtain ⟨rfl, -⟩ := hapart hc hd₀ hq hq' hr hr'
      exact hnot (concerned_of_joining hmem hc hjoining)

end Felled

/-- Once the channels have been told, those that the failure concerns have failed. -/
theorem felled_triggerErrors {before after : Socket (Recorded (Watched ω))} (hs : Sound before)
    (hf : Throughout Channel.FailsFirst before) (hready : Quiet s before)
    (hrest : Quiet before.triggerErrors after) :
    Felled (fun c => (before.facing c).2.isConnected) s after := by
  intro c
  rw [hrest.get? c, (told_triggerErrors hs hf).get? c, hready.get? c]
  cases hc : s.channels.get? c with
  | none => rfl
  | some ch => simp only [Option.map_some, mem_concerned hc, hready.order_eq]

/-- The hooks and listeners of those channels are told of it, and nobody else is. -/
theorem made_triggerErrors {before after : Socket (Recorded (Watched ω))} (hs : Sound before)
    (hf : Throughout Channel.FailsFirst before) (hready : Quiet s before)
    (hunalarmed : Unalarmed s before) (hsilent : Unalarmed before.triggerErrors after) :
    ∃ made, after.made = s.made ++ made ∧ made.filter Call.isAlarm =
      s.concerned.flatMap fun c => (s.channels.get? c).elim [] (·.tidings (before.facing c).1) := by
  obtain ⟨made, hmade, hcalls⟩ := hunalarmed
  obtain ⟨made', hmade', hcalls'⟩ := hsilent
  have hall := (told_triggerErrors hs hf).made_eq
  rw [← concerned, concerned_of_quiet hready, hready.channels_eq, hmade] at hall
  set told := s.concerned.flatMap fun c =>
    (s.channels.get? c).elim [] (·.tidings (before.facing c).1) with htold
  refine ⟨made ++ told ++ made', by rw [hmade', hall]; simp only [List.append_assoc], ?_⟩
  rw [List.filter_append, List.filter_append, filter_isAlarm_eq_nil hcalls,
    filter_isAlarm_eq_nil hcalls', htold, filter_isAlarm_tidings, List.append_nil, List.nil_append]

/-- Where the transport was replaced there is no connection, so no join attempt is armed. -/
theorem not_connected_of_replaced {factory : Factory} (hs : Sound s)
    (hf : Throughout Channel.FailsFirst s) (h : Fails s (.replaceTransport factory) t) (c : ChannelId) :
    (t.facing c).2.isConnected = false := by
  have hquiet := h.before.1
  have hconn : t.conn = none := by
    cases h with
    | replaced live => rfl
  have hnone := ((facing_keeps (hs.quiet hquiet) (persists_failsFirst.quiet hf hquiet) c).2).trans hconn
  simp [isConnected, readyState, hnone]

/-- When the connection of a socket fails, each registered channel that joins or is joined is told of it
once, in the order of registration, and no other channel is.  Afterwards no registered channel joins or is
joined, a join that was not answered cannot be accepted any more, and the next join attempt of a channel
that has failed is armed if the socket was connected at that moment. -/
theorem Reachable.failure_cascades (h : Reachable (fun _ cmd => cmd.Within ChannelOp.KeepsAlarms) s)
    (next : s.exchange.next? = some (cmd, x)) {before : Socket (Recorded (Watched ω))}
    (fails : Fails { s with exchange := x } cmd before) :
    Cascade s before ({ s with exchange := x }.handle cmd) := by
  have hpreserved : Preserved (ω := Watched ω) (fun _ cmd => cmd.Within ChannelOp.KeepsAlarms)
      (Throughout Channel.FailsFirst) := persists_failsFirst.preserved fun _ _ => id
  obtain ⟨hs, hf⟩ := hpreserved.reachable (fun _ _ _ _ _ _ hc => by cases hc) h
  obtain ⟨hquiet, hunalarmed⟩ := fails.before
  obtain ⟨hrest, hsilent⟩ := fails.after
  have hready : Quiet s before := (quiet_next? next).trans hquiet
  have hsb : Sound before := hs.quiet hready
  have hfb : Throughout Channel.FailsFirst before := persists_failsFirst.quiet hf hready
  have htold := told_triggerErrors hsb hfb
  have hfelled := felled_triggerErrors hsb hfb hready hrest
  have htelling : Strides before .connect before before.triggerErrors := strides_triggerErrors hsb
  have hevolves := (hready.evolves.trans (htelling.evolves hsb)).trans hrest.evolves
  have horder := (hrest.order_eq.trans htold.order_eq).trans hready.order_eq
  refine ⟨?once, ?told, horder, hfelled, ?settled, ?lapsed, ?rearmed⟩
  case once =>
    rw [← concerned_of_quiet hready]
    exact htold.once
  case told => exact made_triggerErrors hsb hfb hready hunalarmed hsilent
  case settled => exact fun c ch hmem hc => hfelled.settled (horder ▸ hmem) hc
  case lapsed =>
    intro c ch hmem hc hjoining
    have hin := concerned_of_joining hmem hc hjoining
    obtain ⟨q, hq, hreset, hnot⟩ :=
      (hs.channels hc).fallen_join hjoining (before.facing c).2.isConnected
    refine ⟨q, _, hq, hfelled.of_concerned hin hc, hreset, hnot, fun r hr => ?_⟩
    exact (hfelled.retired hs hevolves hmem hc hjoining hq hr).lapsed (htold.sound.quiet hrest)
  case rearmed =>
    intro c ch hin hc
    have hfacing : (before.facing c).2.channels.get? c = some ch :=
      ((facing_keeps hsb hfb c).1.trans (hready.get? c)).trans hc
    have hnow := hfelled.of_concerned hin hc
    refine ⟨by rw [failChannel_eq hfacing], fun hconnected => ?_, fun hconnected => ?_⟩
    · simp [awaits, hnow, Channel.fallen, hconnected, BackoffTimer.fire, BackoffTimer.schedule,
        TimerSlot.accept, TimerSlot.arm]
    · simp [hnow, Channel.fallen, hconnected]

end Outside

/-! ### A failure in a script -/

/-- A socket before a script is played, in surroundings that are watched and recorded. -/
def observed : Socket (Recorded (Watched Idle)) :=
  .new "ws://example.test/socket" .standard ⟨0, "standard", false, false⟩
    ⟨⟨⟨.connecting, 0⟩, []⟩, [], []⟩

/-- The commands of a script that remove no binding for failures. -/
def alarming (_ : Socket (Recorded (Watched Idle))) : Command → Bool
  | .channel _ (.unbind event _) => event != Event.error
  | _ => true

theorem within_of_alarming {s : Socket (Recorded (Watched Idle))} {cmd : Command}
    (h : alarming s cmd = true) : cmd.Within ChannelOp.KeepsAlarms := by
  cases cmd with
  | channel c op =>
    cases op with
    | unbind event binding => simpa [alarming, Command.Within, ChannelOp.KeepsAlarms] using h
    | _ => trivial
  | _ => trivial

/-- Plays a script in idle surroundings that are watched. -/
def playWatched? : List Deed → Socket (Recorded (Watched Idle)) → Option (Socket (Recorded (Watched Idle))) :=
  playIn? (fun s o => some { s with outside := ⟨⟨o, s.made⟩, s.log, s.dealings⟩ }) alarming

theorem reachable_of_playWatched? {s : Socket (Recorded (Watched Idle))} {deeds : List Deed}
    (h : observed.playWatched? deeds = some s) :
    Reachable (fun _ cmd => cmd.Within ChannelOp.KeepsAlarms) s := by
  refine ⟨_, _, _, _, steps_of_playIn? (fun s _ lawful => ?_) (fun {s o _} hbecome => ?_)
    (fun hnext hpass => .take hnext (within_of_alarming hpass)) h⟩
  · exact .surroundings lawful s.outside.outside
  · cases hbecome
    exact .surroundings .refl _

/-- A listener waits for failures of a channel that has joined, and a second channel, with a hook, asks to
join; then a sign of life is not answered in time. -/
def missing : List Deed :=
  joined "room" ++ [
    .ask 0 (fun x => (x.bind 0 Event.error (.callback 5)).2) fun x known => .bind x known _ _, .take,
    .createChannel "hall", .take, .post (.channel 1 (.setHook 7)) fun _ => rfl, .take,
    .join 1 10000, .take, .fire (.heartbeatDue 2), .take, .fire (.heartbeatTimeout 2)]

/-- A sign of life is missed while one channel has joined and another one joins. -/
theorem failure_cascades_missed : ∃ (s before : Socket (Recorded (Watched Idle))) (x : Exchange),
    Reachable (fun _ cmd => cmd.Within ChannelOp.KeepsAlarms) s ∧
    s.exchange.next? = some (.timer (.heartbeatTimeout 2), x) ∧
    Fails { s with exchange := x } (.timer (.heartbeatTimeout 2)) before ∧ s.concerned = [0, 1] ∧
    Cascade s before ({ s with exchange := x }.handle (.timer (.heartbeatTimeout 2))) := by
  obtain ⟨s, hplay, hview⟩ := Option.map_eq_some_iff.mp
    (show (observed.playWatched? missing).map (fun s => (s.exchange.next?.map (·.1),
        (s.heartbeatTimeout.accept 2).isSome, s.pendingHeartbeat.isSome, s.concerned)) =
      some (some (.timer (.heartbeatTimeout 2)), true, true, [0, 1]) by cbv)
  simp only [Prod.mk.injEq] at hview
  obtain ⟨hnext, hlate, hawaited, hconcerned⟩ := hview
  obtain ⟨⟨cmd, x⟩, htaken, rfl⟩ := Option.map_eq_some_iff.mp hnext
  obtain ⟨timer, htimer⟩ := Option.isSome_iff_exists.mp hlate
  have hs := reachable_of_playWatched? hplay
  have hfails : Fails { s with exchange := x } (.timer (.heartbeatTimeout 2)) _ :=
    .missed htimer hawaited
  exact ⟨s, _, x, hs, htaken, hfails, hconcerned, hs.failure_cascades htaken hfails⟩

end Socket

end Switchboard
