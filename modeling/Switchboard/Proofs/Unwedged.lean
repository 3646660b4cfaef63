import Switchboard.Proofs.Tending
import Switchboard.Proofs.Trying

/-!
# No channel is wedged

Once the socket has nothing left to do and its connection is open, each channel that has failed has its
next join attempt armed, and each channel that joins has the timer of its join armed.  For this,
transports have to tell when they open, replies to joins need statuses that channels know, and a
transport must not fail and stay open while a channel has failed.

Main definitions

* `Socket.Cautious`: what is asked of commands;
* `Socket.HeraldedStep`, `Socket.HeraldedReachable`: runs in which no transport opens without telling;
* `Sole`, `Socket.playTold?`: surroundings with one transport at a time, and scripts that are played in
  them.

Main results

* `Socket.HeraldedReachable.tended`: on such runs no channel is forlorn;
* `Socket.no_wedged_channel`: something is armed that moves each channel that is to be joined;
* `Socket.wedged_of_unknown_status`, `Socket.wedged_of_failure`: nothing is armed otherwise.
-/

set_option autoImplicit false

namespace Switchboard

namespace Socket

section Outside

variable {ω : Type} [Outside ω] {s t u : Socket (Recorded ω)} {c : ChannelId} {ch : Channel}
variable {cmd : Command} {x : Exchange} {admits : Socket (Recorded ω) → Command → Prop}

/-- Besides what is asked of all commands, users install no hook and remove no reserved binding. -/
structure Cautious (s : Socket (Recorded ω)) (cmd : Command) : Prop extends Heedful s cmd where
  spares : cmd.Spares Event.IsReserved

/-! ### Runs in which openings are told of -/

/-- What may happen next, where no transport opens without telling. -/
inductive HeraldedStep (admits : Socket (Recorded ω) → Command → Prop) :
    Socket (Recorded ω) → Socket (Recorded ω) → Prop
  | surroundings {s : Socket (Recorded ω)} {x : Exchange} {o : ω} (acts : s.exchange.Acts x)
    (heralds : Heralds s.outside.outside x o) :
    HeraldedStep admits s { s with exchange := x, outside := ⟨o, s.log, s.dealings⟩ }
  | take {s : Socket (Recorded ω)} {cmd : Command} {x : Exchange}
    (next : s.exchange.next? = some (cmd, x)) (admitted : admits { s with exchange := x } cmd) :
    HeraldedStep admits s ({ s with exchange := x }.handle cmd)
  | abandon (s : Socket (Recorded ω)) : HeraldedStep admits s s.shutdown

/-- A socket that a run can come to in which no transport opens without telling. -/
def HeraldedReachable (admits : Socket (Recorded ω) → Command → Prop) (s : Socket (Recorded ω)) : Prop :=
  ∃ endpoint config factory outside, Relation.ReflTransGen (HeraldedStep admits)
    (Socket.new endpoint config factory ⟨outside, [], []⟩) s

theorem HeraldedStep.step (h : HeraldedStep admits s t) : Step admits s t := by
  cases h with
  | surroundings acts heralds => exact .surroundings acts _
  | take next admitted => exact .take next admitted
  | abandon => exact .abandon s

theorem HeraldedReachable.reachable (h : HeraldedReachable admits s) : Reachable admits s := by
  obtain ⟨endpoint, config, factory, outside, run⟩ := h
  refine ⟨endpoint, config, factory, outside, ?_⟩
  exact Relation.ReflTransGen.mono (fun _ _ => HeraldedStep.step) _ _ run

/-- To take a command turns the light on only if the connection has opened. -/
theorem tended_next? (next : s.exchange.next? = some (cmd, x))
    (hopened : ∀ id, cmd = .transport id .opened → ¬ s.IsLive id) (ht : s.Tended) :
    { s with exchange := x }.Tended := by
  rintro ⟨conn, hconn, hopen, hheard⟩ c hc
  refine ht ⟨conn, hconn, hopen, fun hmem => ?_⟩ c hc
  unfold Exchange.next? at next
  split at next
  · cases next
  · rename_i cmd' rest hqueue
    cases next
    rw [hqueue] at hmem
    rcases List.mem_cons.mp hmem with heq | hmem
    · exact hopened conn.transport heq.symm ⟨conn, hconn, rfl⟩
    · exact hheard hmem

/-- A socket with an open connection has heard of it once nothing is left in the queue. -/
theorem lit_of_idle (hconnected : s.isConnected = true) (hidle : s.exchange.queue = []) : s.Lit := by
  unfold isConnected readyState at hconnected
  split at hconnected
  · rename_i conn hconn
    have hopen : Outside.readyState s.outside conn.transport = .open := by simpa using hconnected
    exact ⟨conn, hconn, hopen, by simp [hidle]⟩
  · cases hconnected

variable [Obliging ω] [Heralding ω]

/-- On runs in which no transport opens without telling, no channel is forlorn while the light is on. -/
theorem HeraldedReachable.tended (h : HeraldedReachable admits s)
    (hadmits : ∀ s cmd, admits s cmd → Heedful s cmd) (hb : s.exchange.drawn < 2 ^ 64) :
    s.Enrolled ∧ s.Tended := by
  obtain ⟨endpoint, config, factory, outside, run⟩ := h
  induction run with
  | refl =>
    refine ⟨⟨?_, ?_, ?_, ?_, ?_, ?_⟩, fun hlit => absurd hlit (not_lit_of_vacant rfl)⟩ <;>
      (intros; contradiction)
  | @tail u v run step ih =>
    have hu : Sound u :=
      HeraldedReachable.reachable ⟨endpoint, config, factory, outside, run⟩ |>.sound
    cases step with
    | @surroundings x o acts heralds =>
      obtain ⟨he, ht⟩ := ih (lt_of_le_of_lt acts.evolves.drawn_le hb)
      have hfollows : Follows u { u with exchange := x, outside := ⟨o, u.log, u.dealings⟩ } :=
        ⟨rfl, heralds, acts.queue, acts.evolves.drawn_le⟩
      have htends : Tends none u { u with exchange := x, outside := ⟨o, u.log, u.dealings⟩ } :=
        hfollows.tends_of_eq rfl rfl rfl
      exact ⟨htends.enrolled he, htends.tended ht⟩
    | @take cmd x next admitted =>
      have hq := quiet_next? next
      have hux := hu.quiet hq
      have hstrides := strides_handle hux cmd (due_of_next? hu next)
      obtain ⟨he, ht⟩ := ih
        (lt_of_le_of_lt (hq.evolves.trans (hstrides.evolves hux)).drawn_le hb)
      refine tended_handle hux hb (hadmits _ _ admitted) ?_ fun hopened => tended_next? next hopened ht
      exact he.of_channels hq.evolves.drawn_le rfl rfl fun _ ch' hc' => ⟨ch', hc', rfl⟩
    | abandon =>
      obtain ⟨he, ht⟩ := ih (lt_of_le_of_lt (ends_shutdown u).evolves.drawn_le hb)
      exact ⟨enrolled_shutdown u he, fun hlit => absurd hlit (not_lit_of_vacant (conn_shutdown u))⟩

end Outside

end Socket

/-! ### Surroundings with one transport -/

/-- Surroundings with one transport at a time; the others are closed. -/
structure Sole where
  transport : TransportId
  state : ReadyState

instance : Outside Sole where
  readyState o t := if t = o.transport then o.state else .closed
  buffered _ _ := 0
  perform e x o :=
    match e with
    | .open request => (x, ⟨request.transport, .connecting⟩)
    | _ => (x, o)
  hook _ _ payload _ x o := (some payload, x, o)
  runError _ _ context x o := (context, x, o)

instance : Obliging Sole where
  perform e _ _ := by cases e <;> exact .refl
  hook _ _ _ _ _ _ := .refl
  runError _ _ _ _ _ := .refl

theorem Sole.not_open (t : TransportId) (request : OpenRequest) (x : Exchange) (o : Sole) :
    Outside.readyState (Outside.perform (.open request) x o).2 t ≠ .open := by
  simp only [Outside.readyState, Outside.perform]
  split <;> simp

/-- A transport that was just asked for connects, and nothing else changes. -/
instance : Heralding Sole where
  perform e x o t hopen := by
    cases e with
    | «open» request => exact absurd hopen (Sole.not_open t request x o)
    | _ => exact .inl hopen
  opens request x o hopen := absurd hopen (Sole.not_open _ request x o)
  hook _ _ _ _ _ _ _ := .inl
  runError _ _ _ _ _ _ := .inl

namespace Socket

/-! ### Runs of a transport that tells when it opens -/

variable {admits : Socket (Recorded Sole) → Command → Prop}
variable {test : Socket (Recorded Sole) → Command → Bool} {s t : Socket (Recorded Sole)}

/-- The transport has told that it opened, and the socket has not taken it. -/
def told (s : Socket (Recorded Sole)) : Bool :=
  s.exchange.queue.any fun cmd =>
    match cmd with
    | .transport t .opened => t == s.outside.outside.transport
    | _ => false

/-- Plays a script in which the transport changes only when it has told that it opened. -/
def playTold? (test : Socket (Recorded Sole) → Command → Bool) :
    List Deed → Socket (Recorded Sole) → Option (Socket (Recorded Sole)) :=
  playIn? (fun s o => if s.told then
    some { s with outside := ⟨⟨s.outside.outside.transport, o.state⟩, s.log, s.dealings⟩ } else none) test

theorem opened_of_told (h : s.told = true) :
    Command.transport s.outside.outside.transport .opened ∈ s.exchange.queue := by
  obtain ⟨cmd, hmem, hcmd⟩ := List.any_eq_true.mp h
  split at hcmd
  · rw [← eq_of_beq hcmd]
    exact hmem
  · cases hcmd

/-- A socket before a script is played. -/
def poised : Socket (Recorded Sole) :=
  .new "ws://example.test/socket" .standard ⟨0, "standard", false, false⟩ ⟨⟨0, .closed⟩, [], []⟩

theorem heraldedRun_of_playTold? (htest : ∀ s cmd, test s cmd = true → admits s cmd)
    {deeds : List Deed} (h : s.playTold? test deeds = some t) :
    Relation.ReflTransGen (HeraldedStep admits) s t := by
  refine steps_of_playIn? (fun s _ lawful => ?_) (fun {s o _} hbecome => ?_) (fun hnext hpass => ?_) h
  · exact .surroundings lawful fun _ => .inl
  · split at hbecome
    · rename_i htold
      cases hbecome
      refine .surroundings .refl fun t hopen => .inr ?_
      by_cases ht : t = s.outside.outside.transport
      · rw [ht]
        exact opened_of_told htold
      · simp [Outside.readyState, ht] at hopen
    · cases hbecome
  · exact .take hnext (htest _ _ hpass)

/-- What a script comes to can be reached; a view of it is computed by playing the script. -/
theorem heraldedReachable_of_playTold? {α : Type} {view : Socket (Recorded Sole) → α} {a : α}
    (htest : ∀ s cmd, test s cmd = true → admits s cmd) {deeds : List Deed}
    (h : (poised.playTold? test deeds).map view = some a) :
    ∃ s, HeraldedReachable admits s ∧ view s = a := by
  obtain ⟨s, hplay, hview⟩ := Option.map_eq_some_iff.mp h
  exact ⟨s, ⟨_, _, _, _, heraldedRun_of_playTold? htest hplay⟩, hview⟩

/-- The commands of a script that register and remove nothing, install no hook and report no failure. -/
def cautious (s : Socket (Recorded Sole)) : Command → Bool
  | .register .. | .off _ | .transport _ (.failed _) => false
  | cmd => sparesAll s cmd

theorem cautious_of_cautious (s : Socket (Recorded Sole)) (cmd : Command)
    (h : s.cautious cmd = true) : Cautious s cmd := by
  unfold cautious at h
  split at h
  · cases h
  · cases h
  · cases h
  · rename_i hregister hoff hfailed
    exact ⟨⟨fun _ _ _ heq => (hregister _ _ _ heq).elim, fun _ heq => (hoff _ heq).elim,
      fun _ _ heq => (hfailed _ _ heq).elim⟩, spares_of_sparesAll _ s _ h⟩

/-- The replies to joins that are recorded had statuses that channels know. -/
def heardAll (s : Socket (Recorded Sole)) : Bool :=
  s.log.all fun e =>
    match e with
    | .resolve _ p _ reply =>
      p != joinPush || [Status.ok, Status.error, Status.timeout].contains reply.status
    | _ => true

theorem heard_of_heardAll (h : s.heardAll = true) : Heard s := by
  intro c r reply hmem
  have hstatus := List.all_eq_true.mp h _ hmem
  simpa [Reply.IsJoinReply] using hstatus

/-! ### Channels that are to be joined -/

section Outside

variable {ω : Type} [Outside ω] [Obliging ω] [Heralding ω] {s : Socket (Recorded ω)} {c : ChannelId}
variable {ch : Channel}

/-- Once nothing is left in the queue and the connection is open, each registered channel that has
failed has its next join attempt armed, and each that joins has the timer of its join armed. -/
theorem no_wedged_channel (h : HeraldedReachable Cautious s) (hb : s.exchange.drawn < 2 ^ 64)
    (hheard : Heard s) (hidle : s.exchange.queue = []) (hconnected : s.isConnected = true)
    (hmem : c ∈ s.order) (hc : s.channels.get? c = some ch) :
    (ch.state = .errored → ∃ generation, s.awaits (.rejoin c generation) = true) ∧
      (ch.state = .joining → ∃ generation, s.awaits (.pushTimeout c joinPush generation) = true) := by
  have hreachable := h.reachable
  obtain ⟨_, htended⟩ := h.tended (fun _ _ hadmits => hadmits.toHeedful) hb
  have htries := hreachable.tries (fun _ _ hadmits => hadmits.spares) hb hheard
  constructor
  · intro hfailed
    have harmed : ch.rejoinTimer.slot.armed = true := by
      by_contra hunarmed
      refine htended ?_ c ⟨hmem, ch, hc, hfailed, by simpa using hunarmed⟩
      exact lit_of_idle hconnected hidle
    refine ⟨ch.rejoinTimer.slot.generation, ?_⟩
    simp [awaits, hc, BackoffTimer.fire, TimerSlot.accept, harmed]
  · intro hjoining
    obtain ⟨q, hq, _⟩ := (hreachable.sound.channels hc).join
    have harmed := (htries hc hjoining).2 hq
    refine ⟨q.timer.generation, ?_⟩
    simp [awaits, push?, hc, hq, TimerSlot.accept, harmed]

end Outside

/-- The server refuses to let the first channel join. -/
def refused : List Deed :=
  asking "room" ++ [.answer 0 "3" "3" "room" Status.error, .take]

/-- A channel whose join was refused is to join again, and so is its timer armed. -/
theorem no_wedged_channel_refused : ∃ (s : Socket (Recorded Sole)) (ch : Channel),
    HeraldedReachable Cautious s ∧ s.exchange.drawn < 2 ^ 64 ∧ Heard s ∧ s.exchange.queue = [] ∧
    s.isConnected = true ∧ 0 ∈ s.order ∧ s.channels.get? 0 = some ch ∧ ch.state = .errored ∧
    ((ch.state = .errored → ∃ generation, s.awaits (.rejoin 0 generation) = true) ∧
      (ch.state = .joining → ∃ generation, s.awaits (.pushTimeout 0 joinPush generation) = true)) := by
  obtain ⟨s, hs, hview⟩ := heraldedReachable_of_playTold? cautious_of_cautious
    (show (poised.playTold? cautious refused).map (fun s =>
        ((s.channels.get? 0).map (·.state), s.order, s.exchange.drawn, s.heardAll,
          s.exchange.queue.isEmpty, s.isConnected)) =
      some (some .errored, [0], 3, true, true, true) by cbv)
  simp only [Prod.mk.injEq] at hview
  obtain ⟨hchannel, horder, hdrawn, hheard, hidle, hconnected⟩ := hview
  obtain ⟨ch, hc, hstate⟩ := Option.map_eq_some_iff.mp hchannel
  have hb : s.exchange.drawn < 2 ^ 64 := by
    rw [hdrawn]
    decide
  have hqueue : s.exchange.queue = [] := List.isEmpty_iff.mp hidle
  have hmem : 0 ∈ s.order := by simp [horder]
  exact ⟨s, ch, hs, hb, heard_of_heardAll hheard, hqueue, hconnected, hmem, hc, hstate,
    no_wedged_channel hs hb (heard_of_heardAll hheard) hqueue hconnected hmem hc⟩

/-- Nothing is left to do over an open connection, and no timer of a registered channel is armed, which
is in some state. -/
def wedged (s : Socket (Recorded Sole)) (c : ChannelId) (state : ChannelState) : Bool :=
  s.exchange.queue.isEmpty && s.isConnected && s.order.contains c &&
    (s.channels.get? c).any fun ch => ch.state == state && !ch.rejoinTimer.slot.armed &&
      ch.pushes.entries.all fun e => !e.2.timer.armed

/-- Statuses have to be known: a reply of another status leaves a channel that joins with no timer. -/
theorem wedged_of_unknown_status : ∃ s : Socket (Recorded Sole),
    HeraldedReachable Cautious s ∧ s.wedged 0 .joining = true :=
  heraldedReachable_of_playTold? cautious_of_cautious
    (show (poised.playTold? cautious (asking "room" ++ [.answer 0 "3" "3" "room" "busy", .take])).map
        (fun s => s.wedged 0 .joining) = some true by cbv)

/-- Failures have to close the transport: one that is reported of an open transport forgets the next
join attempt of a channel that has failed. -/
theorem wedged_of_failure : ∃ s : Socket (Recorded Sole),
    HeraldedReachable (Sparing Event.IsReserved) s ∧ Heard s ∧ s.wedged 0 .errored = true := by
  obtain ⟨s, hs, hview⟩ := heraldedReachable_of_playTold? (spares_of_sparesAll Event.IsReserved)
    (show (poised.playTold? sparesAll (refused ++ [.report 0 (.failed .closed), .take])).map
        (fun s => (s.heardAll, s.wedged 0 .errored)) = some (true, true) by cbv)
  simp only [Prod.mk.injEq] at hview
  obtain ⟨hheard, hwedged⟩ := hview
  exact ⟨s, hs, heard_of_heardAll hheard, hwedged⟩

end Socket

end Switchboard
