import Switchboard.Proofs.Shifts
import Switchboard.Proofs.Scripts

/-!
# Disconnecting

After a disconnect a link is down: no reconnect is pending, no teardown goes on to connect, and a
connection that is lost is not made up for.  A link that is down stays down, and no transport is opened,
until somebody asks for a connection.  Two signs of life undo this: a transport that is still attached
reports that it has opened, or the reply to a heartbeat stays away.

Main definitions

* `Link.Down`: nothing that a link holds makes it connect again;
* `Link.openings`, `Socket.openings`: the transports opened so far;
* `Socket.Unsolicited`, `Socket.Restful`: what may happen while a link is down.

Main results

* `Socket.Shift.down`: a shift keeps a link down and opens nothing;
* `Socket.down_disconnect`: after a disconnect the link is down;
* `Socket.disconnect_is_final`: no transport is opened after a disconnect.
-/

set_option autoImplicit false

namespace Switchboard

/-- Whether a socket goes on to connect after a teardown. -/
def Continuation.reconnects : Continuation → Bool
  | .connect | .scheduleReconnect => true
  | .notify _ | .nothing => false

/-- The request of an effect that opens a transport. -/
def Effect.opening? : Effect → Option OpenRequest
  | .open request => some request
  | _ => none

namespace Link

/-- The transports opened so far. -/
def openings (l : Link) : List OpenRequest := l.dealings.filterMap Effect.opening?

/-- Nothing that a link holds makes it connect again. -/
structure Down (l : Link) : Prop where
  clean : l.closeWasClean = true
  unarmed : l.reconnectTimer.slot.armed = false
  teardown : ∀ ⦃t⦄, l.teardown = some t → t.continuation.reconnects = false

theorem openings_of_append {l l' : Link} {es : List Effect} (h : l'.dealings = l.dealings ++ es)
    (hes : ∀ e ∈ es, e.opening? = none) : l'.openings = l.openings := by
  have hnil : es.filterMap Effect.opening? = [] := List.filterMap_eq_nil_iff.mpr hes
  unfold openings
  rw [h, List.filterMap_append, hnil, List.append_nil]

@[simp] theorem openings_dropped (l : Link) : l.dropped.openings = l.openings := by
  unfold dropped
  split
  · rfl
  · exact openings_of_append rfl (by simp [Effect.opening?])

@[simp] theorem openings_parted (l : Link) : l.parted.openings = l.openings := by
  unfold parted
  split
  · rfl
  · exact openings_of_append rfl (by simp [Effect.opening?])

@[simp] theorem openings_pruned (l : Link) (isClosed : Connection → Bool) :
    (l.pruned isClosed).openings = l.openings := by
  refine openings_of_append rfl fun e he => ?_
  obtain ⟨c, _, rfl⟩ := List.mem_map.mp he
  rfl

variable {l : Link}

theorem Down.dropped (h : l.Down) : l.dropped.Down := by
  unfold Link.dropped
  split
  · exact h
  · exact ⟨h.clean, h.unarmed, h.teardown⟩

theorem Down.parted (h : l.Down) : l.parted.Down := by
  unfold Link.parted
  split
  · exact h
  · exact ⟨h.clean, h.unarmed, h.teardown⟩

/-- A link that turns is down unless the teardown in flight connects again. -/
theorem down_turned (h : ∀ ⦃t⦄, l.teardown = some t → t.continuation.reconnects = false) :
    l.turned.Down :=
  ⟨rfl, rfl, h⟩

end Link

namespace Socket

variable {ω : Type} [Outside ω]

/-- The transports opened so far. -/
def openings (s : Socket (Recorded ω)) : List OpenRequest := s.link.openings

/-- A command does not ask for a connection, and no callback falls back to another transport. -/
structure Unsolicited (s : Socket (Recorded ω)) (cmd : Command) : Prop where
  connect : cmd ≠ .connect
  resume : cmd ≠ .resume
  fallback : s.fallback? cmd = none

/-- A command that does not ask for a connection, and is no sign of life that a socket mistakes for
one: the connection does not open, and no awaited reply to a heartbeat is late. -/
structure Restful (s : Socket (Recorded ω)) (cmd : Command) : Prop extends Unsolicited s cmd where
  opened : ∀ ⦃t⦄, cmd = .transport t .opened → ¬ s.IsLive t
  heartbeat : ∀ ⦃generation⦄, cmd = .timer (.heartbeatTimeout generation) →
    s.heartbeatTimeout.accept generation = none ∨ s.pendingHeartbeat = none

variable {s t : Socket (Recorded ω)} {cmd : Command} {k : Continuation} {l l' : Link}

theorem restful_disconnect (s : Socket (Recorded ω)) (code : Option Nat) (reason : Option String)
    (done : Option Ticket) : Restful s (.disconnect code reason done) where
  connect h := by cases h
  resume h := by cases h
  fallback := rfl
  opened _ h := by cases h
  heartbeat _ h := by cases h

theorem restful_shutdown (s : Socket (Recorded ω)) : Restful s .shutdown where
  connect h := by cases h
  resume h := by cases h
  fallback := rfl
  opened _ h := by cases h
  heartbeat _ h := by cases h

/-! ### Nothing asks for a connection -/

omit [Outside ω] in
/-- Without a reconnect that is due and an awaited reply to a heartbeat that is late, nothing that a command
begins is to connect again. -/
theorem Seeks.not_reconnects (h : Seeks s cmd k) (hbeat : ∀ ⦃generation⦄,
      cmd = .timer (.heartbeatTimeout generation) →
      s.heartbeatTimeout.accept generation = none ∨ s.pendingHeartbeat = none)
    (hunarmed : s.reconnectTimer.slot.armed = false) : k.reconnects = false := by
  cases h with
  | disconnects code reason done => cases done <;> rfl
  | pauses => rfl
  | reconnects fires =>
    obtain ⟨harmed, _, _⟩ := BackoffTimer.fire_eq_some_iff.mp fires
    rw [hunarmed] at harmed
    cases harmed
  | loses late awaited =>
    rcases hbeat rfl with hnone | hnone
    · rw [hnone] at late
      cases late
    · rw [hnone] at awaited
      cases awaited

omit [Outside ω] in
theorem Continues.not_reconnects (h : Continues s cmd k) (hbeat : ∀ ⦃generation⦄,
      cmd = .timer (.heartbeatTimeout generation) →
      s.heartbeatTimeout.accept generation = none ∨ s.pendingHeartbeat = none)
    (hunarmed : s.reconnectTimer.slot.armed = false)
    (hteardown : ∀ ⦃t⦄, s.teardown = some t → t.continuation.reconnects = false) :
    k.reconnects = false := by
  cases h with
  | vacant seeks _ => exact seeks.not_reconnects hbeat hunarmed
  | elapsed inFlight => exact hteardown inFlight

theorem Unsolicited.not_asks (h : Unsolicited s cmd) : ¬ Asks s cmd :=
  not_asks_of_ne h.connect h.resume h.fallback

theorem Summons.elim (h : Summons s cmd l) (hcmd : Restful s cmd) (hs : s.link.Down) : False := by
  rcases h with ⟨asks, _⟩ | ⟨continues, _⟩
  · exact hcmd.toUnsolicited.not_asks asks
  · cases continues.not_reconnects hcmd.heartbeat hs.unarmed hs.teardown

theorem Retries.elim (h : Retries s cmd l) (hcmd : Restful s cmd) (hs : s.link.Down)
    (hl : l.Down) : False := by
  rcases h with ⟨_, _, _, unclean, _⟩ | continues
  · rw [hl.clean] at unclean
    cases unclean
  · cases continues.not_reconnects hcmd.heartbeat hs.unarmed hs.teardown

/-! ### A link stays down -/

/-- While nobody asks for a connection, what happens to a link keeps it down and opens nothing. -/
theorem Shift.down (h : Shift s cmd l l') (hcmd : Restful s cmd) (hs : s.link.Down)
    (hl : l.Down) : l'.Down ∧ l'.openings = l.openings := by
  cases h with
  | beats due timeout pending => exact ⟨⟨hl.clean, hl.unarmed, hl.teardown⟩, rfl⟩
  | prunes isClosed cause => exact ⟨⟨hl.clean, hl.unarmed, hl.teardown⟩, l.openings_pruned _⟩
  | opens command live established => exact (hcmd.opened command live).elim
  | schedules cause => exact (cause.elim hcmd hs hl).elim
  | fires command fires =>
    obtain ⟨harmed, _, _⟩ := BackoffTimer.fire_eq_some_iff.mp fires
    rw [hl.unarmed] at harmed
    cases harmed
  | turns => exact ⟨Link.down_turned hl.teardown, rfl⟩
  | pauses command conn => exact ⟨⟨hl.clean, hl.unarmed, hl.teardown⟩, rfl⟩
  | resumes command => exact ⟨⟨hl.clean, hl.unarmed, hl.teardown⟩, rfl⟩
  | loses seeks => cases seeks.not_reconnects hcmd.heartbeat hs.unarmed
  | begins seeks live conn number continuation =>
    refine ⟨⟨hl.clean, hl.unarmed, fun t' ht' => ?_⟩, rfl⟩
    cases ht'
    rw [continuation]
    exact seeks.not_reconnects hcmd.heartbeat hs.unarmed
  | drops seeks vacant => exact ⟨⟨hl.clean, hl.unarmed, fun t' ht' => by cases ht'⟩, rfl⟩
  | looks inFlight number continuation =>
    refine ⟨⟨hl.clean, hl.unarmed, fun t' ht' => ?_⟩, rfl⟩
    cases ht'
    rw [continuation]
    exact hl.teardown inFlight
  | closes inFlight conn code reason =>
    exact ⟨⟨hl.clean, hl.unarmed, hl.teardown⟩,
      Link.openings_of_append rfl (by simp [Effect.opening?])⟩
  | finishes inFlight =>
    refine ⟨Link.Down.dropped ⟨hl.clean, hl.unarmed, fun t' ht' => by cases ht'⟩, ?_⟩
    exact Link.openings_dropped _
  | readies summons config => exact (summons.elim hcmd hs).elim
  | connects summons vacant number transport => exact (summons.elim hcmd hs).elim
  | retires replaces =>
    exact ⟨(Link.down_turned hl.teardown).parted, Link.openings_parted _⟩
  | replaces replaces factory => exact ⟨⟨hl.clean, hl.unarmed, hl.teardown⟩, rfl⟩
  | ends command due timeout silent =>
    refine ⟨⟨hl.clean, rfl, fun t' ht' => by cases ht'⟩, Link.openings_of_append rfl ?_⟩
    intro e he
    cases e with
    | «open» request => exact (silent request he).elim
    | _ => rfl

theorem Shifts.down (h : Shifts s cmd l l') (hcmd : Restful s cmd) (hs : s.link.Down)
    (hl : l.Down) : l'.Down ∧ l'.openings = l.openings := by
  refine h.keeps (I := fun l₁ => l₁.Down ∧ l₁.openings = l.openings) ⟨hl, rfl⟩ ?_
  rintro l₁ l₂ shift ⟨hdown, hopenings⟩
  obtain ⟨hdown', hkept⟩ := shift.down hcmd hs hdown
  exact ⟨hdown', hkept.trans hopenings⟩

/-- A link that is down stays down while nobody asks for a connection. -/
theorem Run.down (h : Run Restful s t) (hs : s.link.Down) :
    t.link.Down ∧ t.openings = s.openings := by
  refine h.keeps_link (I := fun l => l.Down ∧ l.openings = s.link.openings) ⟨hs, rfl⟩ ?_
  rintro u cmd l l' ⟨hu, _⟩ hcmd shift ⟨hl, hopenings⟩
  have hrestful : Restful u cmd := by
    rcases hcmd with hadmitted | rfl
    · exact hadmitted
    · exact restful_shutdown u
  obtain ⟨hdown, hkept⟩ := shift.down hrestful hu hl
  exact ⟨hdown, hkept.trans hopenings⟩

/-! ### Disconnecting -/

/-- After a disconnect the link is down, and nothing was opened. -/
theorem down_disconnect (s : Socket (Recorded ω)) (code : Option Nat) (reason : Option String)
    (done : Option Ticket) : (s.handle (.disconnect code reason done)).link.Down ∧
      (s.handle (.disconnect code reason done)).openings = s.openings := by
  set k := continuationOf done with hk
  have hfinal : k.reconnects = false := by cases done <;> rfl
  set s₁ : Socket (Recorded ω) := { s.tick.resetReconnect with closeWasClean := true } with hs₁
  suffices hshifts : ∃ u : Socket (Recorded ω), u.link.Down ∧ u.openings = s.openings ∧
      Shifts u (.disconnect code reason done) u.link (s₁.beginTeardown code reason k).link by
    obtain ⟨u, hu, hopenings, hshifts⟩ := hshifts
    obtain ⟨hdown, hkept⟩ := hshifts.down (restful_disconnect u code reason done) hu hu
    exact ⟨hdown, hkept.trans hopenings⟩
  -- The teardown in flight is superseded before anything else happens.
  simp only [beginTeardown]
  split
  · rename_i hvacant
    refine ⟨{ s₁ with teardown := none }, ⟨rfl, rfl, fun t ht => by cases ht⟩, rfl, ?_⟩
    have hcontinues : Continues { s₁ with teardown := none } (.disconnect code reason done) k :=
      .vacant (.disconnects code reason done) (Option.isNone_iff_eq_none.mp hvacant)
    have hnotify := link_notifyAll { s₁ with teardown := none } s₁.teardownCallers
    rw [← hnotify]
    exact shifts_continueWith hcontinues (congrArg Link.teardown hnotify) _
  · set t₁ : Teardown := ⟨s₁.nextTeardown, s₁.connectClock, code, reason, k, s₁.teardownCallers,
      .drainBuffer, 1, .new⟩ with ht₁
    refine ⟨{ s₁ with teardown := some t₁, nextTeardown := s₁.nextTeardown + 1 },
      ⟨rfl, rfl, fun t ht => ?_⟩, rfl, shifts_stepTeardown rfl fun hphase => by cases hphase⟩
    cases ht
    exact hfinal

/-- Disconnecting is final: no transport is opened afterwards until a connection is asked for, as long
as no transport that is still attached opens and no awaited reply to a heartbeat is late. -/
theorem disconnect_is_final (s : Socket (Recorded ω)) {t : Socket (Recorded ω)} (code : Option Nat)
    (reason : Option String) (done : Option Ticket)
    (h : Run Restful (s.handle (.disconnect code reason done)) t) : t.openings = s.openings := by
  obtain ⟨hdown, hopenings⟩ := down_disconnect s code reason done
  exact (h.down hdown).2.trans hopenings

/-! ### Runs after a disconnect -/

/-- The commands of a script that do not ask for a connection. -/
def unsolicited (s : Socket (Recorded Idle)) : Command → Bool
  | .connect | .resume => false
  | cmd => (s.fallback? cmd).isNone

/-- Those that are no sign of life either. -/
def restful (s : Socket (Recorded Idle)) : Command → Bool
  | .transport _ .opened => false
  | .timer (.heartbeatTimeout _) => s.pendingHeartbeat.isNone
  | cmd => s.unsolicited cmd

theorem unsolicited_of_unsolicited (s : Socket (Recorded Idle)) (cmd : Command)
    (h : s.unsolicited cmd = true) : Unsolicited s cmd := by
  refine ⟨?_, ?_, ?_⟩
  · rintro rfl
    cases h
  · rintro rfl
    cases h
  · unfold unsolicited at h
    split at h
    · cases h
    · cases h
    · exact Option.isNone_iff_eq_none.mp h

theorem restful_of_restful (s : Socket (Recorded Idle)) (cmd : Command)
    (h : s.restful cmd = true) : Restful s cmd := by
  have hopened : ∀ ⦃t⦄, cmd = .transport t .opened → ¬ s.IsLive t := by
    rintro t rfl
    cases h
  unfold restful at h
  split at h
  · cases h
  · rename_i generation
    refine ⟨⟨by simp, by simp, rfl⟩, hopened, fun _ _ => ?_⟩
    exact .inr (Option.isNone_iff_eq_none.mp h)
  · rename_i _ hother
    exact ⟨unsolicited_of_unsolicited s _ h, hopened, fun generation heq =>
      (hother generation heq).elim⟩

/-- The connection is lost, and the teardown is over. -/
def losing : List Deed :=
  [.report 0 (.closed ⟨1006, none, false⟩), .take, .become ⟨.closed, 0⟩, .fire (.teardown 0 1), .take]

/-- After a disconnect the connection may be lost in whatever way. -/
theorem disconnect_is_final_lost : ∃ s t : Socket (Recorded Idle),
    Reachable (fun _ _ => True) s ∧ s.conn.isSome = true ∧
    Run Restful (s.handle (.disconnect none none none)) t ∧ t.conn = none ∧
    t.openings = s.openings := by
  obtain ⟨s, hs, hview⟩ := reachable_of_play? of_admitsAll
    (show (ready.play? admitsAll connecting).map (fun s => (s.conn.isSome,
        ((s.handle (.disconnect none none none)).play? restful losing).map fun t => t.conn)) =
      some (true, some none) by cbv)
  simp only [Prod.mk.injEq] at hview
  obtain ⟨hconn, hafter⟩ := hview
  obtain ⟨t, hplay, hvacant⟩ := Option.map_eq_some_iff.mp hafter
  have hrun : Run Restful (s.handle (.disconnect none none none)) t :=
    run_of_play? restful_of_restful hplay
  exact ⟨s, t, hs, hconn, hrun, hvacant, disconnect_is_final s none none none hrun⟩

/-- What a script does after a disconnect, seen from how many transports were opened. -/
theorem reconnects_of_play? (before after : List Deed) (n : Nat)
    (h : (ready.play? admitsAll before).map (fun s => (s.openings.length,
      ((s.handle (.disconnect none none none)).play? unsolicited after).map
        fun t => t.openings.length)) = some (n, some (n + 1))) :
    ∃ s t : Socket (Recorded Idle), Reachable (fun _ _ => True) s ∧
      Run Unsolicited (s.handle (.disconnect none none none)) t ∧
      t.openings.length = s.openings.length + 1 := by
  obtain ⟨s, hs, hview⟩ := reachable_of_play? of_admitsAll h
  simp only [Prod.mk.injEq] at hview
  obtain ⟨hbefore, hafter⟩ := hview
  obtain ⟨t, hplay, hopenings⟩ := Option.map_eq_some_iff.mp hafter
  refine ⟨s, t, hs, run_of_play? unsolicited_of_unsolicited hplay, ?_⟩
  rw [hopenings, hbefore]

/-- A transport that opens after a disconnect is made up for once it is lost. -/
theorem opening_after_disconnect_reconnects : ∃ s t : Socket (Recorded Idle),
    Reachable (fun _ _ => True) s ∧ Run Unsolicited (s.handle (.disconnect none none none)) t ∧
    t.openings.length = s.openings.length + 1 :=
  reconnects_of_play? [.connect, .take]
    ([.report 0 .opened, .take] ++ losing ++ [.fire (.reconnect 3), .take]) 1 (by cbv)

/-- Heartbeats go on after a disconnect, and one that stays without a reply connects again. -/
theorem heartbeat_after_disconnect_reconnects : ∃ s t : Socket (Recorded Idle),
    Reachable (fun _ _ => True) s ∧ Run Unsolicited (s.handle (.disconnect none none none)) t ∧
    t.openings.length = s.openings.length + 1 :=
  reconnects_of_play? connecting
    [.become ⟨.closed, 0⟩, .fire (.teardown 0 1), .take, .fire (.heartbeatDue 2), .take,
      .fire (.heartbeatTimeout 2), .take, .fire (.reconnect 3), .take] 1 (by cbv)

end Socket

end Switchboard
