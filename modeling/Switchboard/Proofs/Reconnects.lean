import Switchboard.Proofs.Teardowns
import Switchboard.Proofs.Efforts

/-!
# Pending reconnects

The firing of a reconnect names a generation, and no transport: it tears down whatever connection there
is when it is taken.  This is the connection of the time when it was armed unless another transport was
opened over the pending reconnect.  A disconnect, a replacement of the transport and the news that the
connection is open disarm the timer, so only three kinds of commands open a transport and leave it
armed, and the socket has not heard yet that the transport is open.

Main definitions

* `TimerSlot.Since`: what may have become of a slot;
* `Socket.AwaitsReconnect`: a reconnect is pending under a generation;
* `Socket.Bypasses`: a command opens a transport, and a reconnect stays pending;
* `Socket.Bypassed`: in a run, a transport was opened over a pending reconnect.

Main results

* `Socket.kept_or_summoned`: the connection after a command is the one before it, or was asked for;
* `Socket.opens_nothing_of_arms`: a command that arms a reconnect opens no transport;
* `Socket.bypasses_of_pending`: where a reconnect stays pending, only certain commands ask for one;
* `Socket.kept_or_bypassed`: the connection at the firing is the one at the arming, or one that was
  opened over the pending reconnect;
* `Socket.reconnect_spares_iff`: just in the latter case a transport is torn down that was not there.
-/

set_option autoImplicit false

namespace Switchboard

namespace TimerSlot

/-- A slot is as it was, or its generation has passed. -/
def Since (s s' : TimerSlot) : Prop := s' = s ∨ s.generation < s'.generation

variable {s s' s'' : TimerSlot}

theorem Since.refl (s : TimerSlot) : s.Since s := .inl rfl

theorem Since.trans (h : s.Since s') (h' : s'.Since s'') : s.Since s'' := by
  rcases h with rfl | hlt
  · exact h'
  · rcases h' with rfl | hlt'
    · exact .inr hlt
    · exact .inr (hlt.trans hlt')

/-- A slot that is as it was then has not changed in between. -/
theorem Since.eq_of_since (h : s.Since s') (h' : s'.Since s) : s' = s := by
  rcases h with heq | hlt
  · exact heq
  · rcases h' with heq | hlt'
    · exact heq.symm
    · exact absurd hlt' hlt.asymm

theorem since_cancel (s : TimerSlot) : s.Since s.cancel := .inr (Nat.lt_succ_self _)

theorem since_arm (s : TimerSlot) : s.Since s.arm := .inr (Nat.lt_succ_self _)

end TimerSlot

namespace Socket

variable {ω : Type} [Outside ω]
variable {s t u : Socket (Recorded ω)} {cmd : Command} {l l' : Link} {c : Connection} {x : Exchange}
variable {generation number : Nat} {admits : Socket (Recorded ω) → Command → Prop}

/-- A reconnect is pending, and its firing carries a generation. -/
def AwaitsReconnect (s : Socket (Recorded ω)) (generation : Nat) : Prop :=
  s.reconnectTimer.slot = ⟨generation, true⟩

omit [Outside ω] in
/-- A firing is claimed just if it is awaited. -/
theorem awaitsReconnect_iff :
    s.AwaitsReconnect generation ↔ ∃ timer, s.reconnectTimer.fire generation = some timer := by
  constructor
  · intro h
    exact ⟨_, BackoffTimer.fire_eq_some_iff.mpr
      ⟨congrArg TimerSlot.armed h, (congrArg TimerSlot.generation h).symm, rfl⟩⟩
  · rintro ⟨timer, hfires⟩
    obtain ⟨harmed, hgeneration, -⟩ := BackoffTimer.fire_eq_some_iff.mp hfires
    unfold AwaitsReconnect
    rw [hgeneration, ← harmed]

/-! ### The timer -/

theorem Shift.since (h : Shift s cmd l l') : l.reconnectTimer.slot.Since l'.reconnectTimer.slot := by
  cases h with
  | opens | turns | ends => exact TimerSlot.since_cancel _
  | schedules => exact TimerSlot.since_arm _
  | fires command fires =>
    obtain ⟨-, -, rfl⟩ := BackoffTimer.fire_eq_some_iff.mp fires
    exact TimerSlot.since_cancel _
  | finishes =>
    unfold Link.dropped
    split <;> exact .refl _
  | retires =>
    unfold Link.parted
    split <;> exact TimerSlot.since_cancel _
  | _ => exact .refl _

theorem Shifts.since (h : Shifts s cmd l l') :
    l.reconnectTimer.slot.Since l'.reconnectTimer.slot :=
  h.keeps (I := fun l₁ => l.reconnectTimer.slot.Since l₁.reconnectTimer.slot) (.refl _)
    fun shift hl => hl.trans shift.since

/-- A firing that is taken is not awaited any more. -/
theorem not_awaitsReconnect_of_fires (h : s.AwaitsReconnect generation) :
    ¬ (s.handle (.timer (.reconnect generation))).AwaitsReconnect generation := by
  obtain ⟨timer, hfires⟩ := awaitsReconnect_iff.mp h
  set s₁ : Socket (Recorded ω) := { s with reconnectTimer := timer } with hs₁
  have hhandle : s.handle (.timer (.reconnect generation)) = s₁.beginTeardown none none .connect := by
    simp only [handle, timerEvent, hfires, hs₁]
  have hlater : s₁.reconnectTimer.slot.Since
      (s.handle (.timer (.reconnect generation))).reconnectTimer.slot := by
    rw [hhandle]
    exact (shifts_beginTeardown (s := s₁) (.reconnects hfires) rfl none none).since
  intro hawaits
  obtain ⟨harmed, hgeneration, htimer⟩ := BackoffTimer.fire_eq_some_iff.mp hfires
  have hspent : generation < s₁.reconnectTimer.slot.generation := by
    rw [hs₁, htimer, hgeneration]
    exact Nat.lt_succ_self _
  rw [hawaits] at hlater
  rcases hlater with heq | hlt
  · exact hspent.ne (congrArg TimerSlot.generation heq)
  · exact hspent.asymm hlt

/-- After a command that makes the socket forget its attempts to connect no firing is awaited. -/
theorem not_awaitsReconnect_of_forgives (h : Forgives s cmd) :
    ¬ (s.handle cmd).AwaitsReconnect generation := by
  obtain ⟨marks, carried⟩ := carried_handle s cmd
  have hunarmed : (s.handle cmd).reconnectTimer.slot.armed = false := (carried.forgiven h).2
  intro hawaits
  rw [hawaits] at hunarmed
  cases hunarmed

theorem forgives_of_fallback {factory : Factory} (h : s.fallback? cmd = some factory) :
    Forgives s cmd := by
  unfold fallback? at h
  split at h
  · split at h
    · rename_i c hc
      split at h
      · rename_i ht
        exact ⟨c, hc, ht, Option.isSome_iff_exists.mpr ⟨factory, h⟩⟩
      · cases h
    · cases h
  · cases h

/-! ### One command -/

/-- The connection after a command is the one before it, or none, or one that the command asked for,
under a new number. -/
theorem kept_or_summoned (s : Socket (Recorded ω)) (cmd : Command) :
    (s.handle cmd).conn = s.conn ∨ (s.handle cmd).conn = none ∨ ∃ c, (s.handle cmd).conn = some c ∧
      s.nextTransport ≤ c.transport ∧ (Asks s cmd ∨ Continues s cmd .connect) := by
  refine ((shifts_handle s cmd).keeps (I := fun l => s.link.Grows l ∧ (l.conn = s.conn ∨
    l.conn = none ∨ ∃ c, l.conn = some c ∧ s.nextTransport ≤ c.transport ∧
      (Asks s cmd ∨ Continues s cmd .connect))) ⟨.refl _, .inl rfl⟩ ?_).2
  rintro l l' shift ⟨hgrows, hl⟩
  refine ⟨hgrows.trans shift.grows, ?_⟩
  cases shift with
  | finishes => exact .inr (.inl (Link.conn_dropped _))
  | retires => exact .inr (.inl (Link.conn_parted _))
  | ends => exact .inr (.inl rfl)
  | connects summons vacant number transport =>
    refine .inr (.inr ⟨_, rfl, transport.symm ▸ hgrows.next, ?_⟩)
    exact summons.imp And.left And.left
  | _ => exact hl

/-- What a command does to the timer: it is as it was, or disarmed, or the command is one after which the
socket is to connect again. -/
theorem disarmed_or_retried (s : Socket (Recorded ω)) (cmd : Command) :
    (s.handle cmd).reconnectTimer.slot = s.reconnectTimer.slot ∨
      (s.handle cmd).reconnectTimer.slot.armed = false ∨
      (∃ t event, cmd = .transport t (.closed event)) ∨ Continues s cmd .scheduleReconnect := by
  refine (shifts_handle s cmd).keeps (I := fun l => l.reconnectTimer.slot = s.reconnectTimer.slot ∨
    l.reconnectTimer.slot.armed = false ∨
    (∃ t event, cmd = .transport t (.closed event)) ∨ Continues s cmd .scheduleReconnect)
    (.inl rfl) ?_
  intro l l' shift hl
  cases shift with
  | opens | turns | ends => exact .inr (.inl rfl)
  | retires =>
    refine .inr (.inl ?_)
    unfold Link.parted
    split <;> rfl
  | fires command fires =>
    obtain ⟨-, -, rfl⟩ := BackoffTimer.fire_eq_some_iff.mp fires
    exact .inr (.inl rfl)
  | schedules cause =>
    rcases cause with ⟨t, event, hcmd, -⟩ | hretries
    · exact .inr (.inr (.inl ⟨t, event, hcmd⟩))
    · exact .inr (.inr (.inr hretries))
  | finishes =>
    unfold Link.dropped
    split <;> exact hl
  | _ => exact hl

omit [Outside ω] in
/-- A command goes on in one way only. -/
theorem Continues.unique {k k' : Continuation} (h : Continues s cmd k) (h' : Continues s cmd k') :
    k = k' := by
  cases h with
  | vacant seeks =>
    cases h' with
    | vacant seeks' => cases seeks <;> cases seeks' <;> rfl
    | elapsed => cases seeks
  | @elapsed t generation inFlight =>
    generalize hcmd : Command.timer (.teardown t.number generation) = cmd at h'
    cases h' with
    | vacant seeks => cases seeks <;> cases hcmd
    | elapsed inFlight' =>
      rw [inFlight] at inFlight'
      cases inFlight'
      rfl

theorem not_asks_of_continues {k : Continuation} (h : Continues s cmd k) : ¬ Asks s cmd := by
  refine not_asks_of_ne ?_ ?_ ?_
  · rintro rfl
    cases h with
    | vacant seeks => cases seeks
  · rintro rfl
    cases h with
    | vacant seeks => cases seeks
  · cases h with
    | vacant seeks => exact fallback?_of_tearsDown seeks.tearsDown
    | elapsed => rfl

/-- A command that arms the reconnect opens no transport: the connection that it leaves is the one of the
time when it armed the reconnect. -/
theorem opens_nothing_of_arms (before : ¬ s.AwaitsReconnect generation)
    (after : (s.handle cmd).AwaitsReconnect generation) :
    (s.handle cmd).conn = s.conn ∨ (s.handle cmd).conn = none := by
  have hcause : (∃ t event, cmd = .transport t (.closed event)) ∨
      Continues s cmd .scheduleReconnect := by
    rcases disarmed_or_retried s cmd with hsame | hunarmed | hcause
    · exact absurd (hsame.symm.trans after) before
    · rw [after] at hunarmed
      cases hunarmed
    · exact hcause
  rcases kept_or_summoned s cmd with hkept | hnone | ⟨c, -, -, asked⟩
  · exact .inl hkept
  · exact .inr hnone
  · exfalso
    rcases hcause with ⟨t, event, rfl⟩ | hretries
    · have hasks : ¬ Asks s (.transport t (.closed event)) := not_asks_of_ne nofun nofun rfl
      rcases asked with asks | continues
      · exact hasks asks
      · cases continues with
        | vacant seeks => cases seeks
    · rcases asked with asks | continues
      · exact not_asks_of_continues hretries asks
      · cases hretries.unique continues

/-- A command that opens a transport and leaves the reconnect pending: a connection is asked for where
there is none, or a teardown is over that another firing began. -/
inductive Bypasses (s : Socket (Recorded ω)) : Command → Prop
  | connect (vacant : s.conn = none) : Bypasses s .connect
  | resume (vacant : s.conn = none) (paused : s.awaitingResume = some s.connectClock) :
    Bypasses s .resume
  | proceeds {t : Teardown} {generation : Nat} (inFlight : s.teardown = some t)
    (continuation : t.continuation = .connect) :
    Bypasses s (.timer (.teardown t.number generation))

/-- Where the reconnect stays pending, no fallback is taken and no firing of a reconnect. -/
theorem bypasses_of_pending (before : s.AwaitsReconnect generation)
    (after : (s.handle cmd).AwaitsReconnect generation)
    (h : Asks s cmd ∨ Continues s cmd .connect) : Bypasses s cmd := by
  rcases h with asks | continues
  · cases asks with
    | connect vacant => exact .connect vacant
    | resume vacant paused => exact .resume vacant paused
    | fallback chosen =>
      exact absurd after (not_awaitsReconnect_of_forgives (forgives_of_fallback chosen))
  · generalize hk : Continuation.connect = k at continues
    cases continues with
    | vacant seeks =>
      cases seeks with
      | disconnects code reason done => cases done <;> cases hk
      | pauses => cases hk
      | loses => cases hk
      | @reconnects generation' timer fires =>
        have hawaits : s.AwaitsReconnect generation' := awaitsReconnect_iff.mpr ⟨timer, fires⟩
        obtain rfl : generation = generation' :=
          congrArg TimerSlot.generation (before.symm.trans hawaits)
        exact absurd after (not_awaitsReconnect_of_fires before)
    | elapsed inFlight => exact .proceeds inFlight hk.symm

/-! ### Runs -/

/-- On the way from one state to another, while a reconnect was pending, the socket opened a transport
for a command of its queue, and it has not taken the news since that this transport is open. -/
inductive Bypassed (admits : Socket (Recorded ω) → Command → Prop) (s t : Socket (Recorded ω))
    (generation : Nat) (c : Connection) : Prop
  | opened {u : Socket (Recorded ω)} {cmd : Command} {x : Exchange} (before : Run admits s u)
    (pending : u.AwaitsReconnect generation) (next : u.exchange.next? = some (cmd, x))
    (admitted : admits { u with exchange := x } cmd)
    (bypasses : Bypasses { u with exchange := x } cmd) (fresh : u.nextTransport ≤ c.transport)
    (opens : ({ u with exchange := x }.handle cmd).conn = some c)
    (unheard : Run (fun v cmd => admits v cmd ∧ cmd ≠ .transport c.transport .opened)
      ({ u with exchange := x }.handle cmd) t) : Bypassed admits s t generation c

theorem Bypassed.step (h : Bypassed admits s t generation c)
    (last : Step (fun v cmd => admits v cmd ∧ cmd ≠ .transport c.transport .opened) t u) :
    Bypassed admits s u generation c := by
  obtain ⟨before, pending, next, admitted, bypasses, fresh, opens, unheard⟩ := h
  exact .opened before pending next admitted bypasses fresh opens (unheard.tail last)

/-- A transport that was opened over a pending reconnect was not there before. -/
theorem Bypassed.not_conn (h : Bypassed admits s t generation c) (hs : s.link.Orderly) :
    s.conn ≠ some c := by
  obtain ⟨before, -, -, -, -, fresh, -, -⟩ := h
  intro hconn
  exact absurd (before.grows.next.trans fresh) (hs.transport hconn).not_ge

theorem Run.since (h : Run admits s t) : s.reconnectTimer.slot.Since t.reconnectTimer.slot :=
  h.keeps_link (I := fun l => s.reconnectTimer.slot.Since l.reconnectTimer.slot) (.refl _)
    fun _ _ shift hl => hl.trans shift.since

/-- As long as the reconnect stays pending, the connection is the one of the beginning, or it was opened
over the pending reconnect. -/
theorem kept_or_bypassed (armed : s.AwaitsReconnect generation) (h : Run admits s t)
    (pending : t.AwaitsReconnect generation) (live : t.conn = some c) :
    s.conn = some c ∨ Bypassed admits s t generation c := by
  induction h with
  | refl => exact .inl live
  | @tail u t before last ih =>
    -- The timer has not been touched in between, since its generation would have passed.
    have hpending : u.AwaitsReconnect generation := by
      have hfirst := Run.since before
      have hlast := Run.since (.single last)
      rw [armed] at hfirst
      rw [pending] at hlast
      exact hfirst.eq_of_since hlast
    cases last with
    | surroundings acts o =>
      exact (ih hpending live).imp_right fun h => h.step (.surroundings acts o)
    | @take cmd x next admitted =>
      rcases kept_or_summoned { u with exchange := x } cmd with hkept | hnone | ⟨c', hc', hfresh, asked⟩
      · have hconn : u.conn = some c := hkept.symm.trans live
        have hunheard : cmd ≠ .transport c.transport .opened := by
          rintro rfl
          have hforgives : Forgives { u with exchange := x } (.transport c.transport .opened) :=
            ⟨c, hconn, rfl⟩
          exact not_awaitsReconnect_of_forgives hforgives pending
        exact (ih hpending hconn).imp_right fun h => h.step (.take next ⟨admitted, hunheard⟩)
      · rw [live] at hnone
        cases hnone
      · cases hc'.symm.trans live
        have hbypasses : Bypasses { u with exchange := x } cmd :=
          bypasses_of_pending hpending pending asked
        exact .inr (.opened before hpending next admitted hbypasses hfresh live .refl)
    | abandon =>
      have hforgives : Forgives u .shutdown := trivial
      exact absurd pending (not_awaitsReconnect_of_forgives hforgives)

/-- Where nobody asks for a connection over a pending reconnect, the connection is the one of the
beginning. -/
theorem conn_kept_while_pending (patient : ∀ {u cmd}, admits u cmd → u.AwaitsReconnect generation →
    ¬ Bypasses u cmd) (armed : s.AwaitsReconnect generation) (h : Run admits s t)
    (pending : t.AwaitsReconnect generation) (live : t.conn = some c) : s.conn = some c := by
  refine (kept_or_bypassed armed h pending live).resolve_right ?_
  rintro ⟨-, hpending, -, admitted, bypasses, -, -, -⟩
  exact patient admitted hpending bypasses

/-! ### The firing -/

/-- The timer of a teardown touches the connection of the teardown only. -/
theorem touches_of_owns (hs : s.link.Orderly) (h : s.link.Owns number c) (generation : Nat) :
    Touches s (s.handle (.timer (.teardown number generation))) (· = c.transport) := by
  by_cases hflight : ∃ t, s.teardown = some t ∧ t.number = number
  · obtain ⟨t, ht, hnumber⟩ := hflight
    refine (touches_of_tearsDown rfl hs).mono ?_
    rintro id ⟨c', hc', rfl⟩
    have hconn : s.conn = some c ∨ s.conn = none := h ht hnumber
    rw [hc'] at hconn
    rcases hconn with hconn | hconn <;> cases hconn
    rfl
  · have hsame : s.handle (.timer (.teardown number generation)) = s :=
      handle_teardown_of_over fun t ht hnumber => hflight ⟨t, ht, hnumber⟩
    exact ⟨[], by rw [hsame, List.append_nil], by simp⟩

/-- What a pending reconnect tears down.  Take any state in which a reconnect is pending, say the one
that a command has left which armed it and so opened no transport, and any run on which it stays
pending until its firing is taken.  The firing closes and gives up no other transport than that of the
connection which it finds; if it finds one, it begins a teardown that goes on to connect, and, as long
as nobody asks for a connection while a teardown is in flight, the timer of this teardown closes and
gives up that transport only.  And this connection was there when the reconnect was armed, unless the
run has opened it over the pending reconnect and the socket has not heard yet that it is open. -/
theorem reconnect_spares_iff (h : Reachable admits s) (armed : s.AwaitsReconnect generation)
    (hrun : Run admits s t) (pending : t.AwaitsReconnect generation)
    (next : t.exchange.next? = some (.timer (.reconnect generation), x))
    (fired : u = { t with exchange := x }.handle (.timer (.reconnect generation))) :
    Step (fun _ _ => True) t u ∧ Touches t u t.IsLive ∧ ∀ c, t.conn = some c →
      (∃ e, u.teardown = some e ∧ e.number = t.nextTeardown ∧ e.continuation = .connect) ∧
      (∀ v, Run Undisturbed u v → ∀ generation',
        Touches v (v.handle (.timer (.teardown t.nextTeardown generation'))) (· = c.transport)) ∧
      (s.conn = some c ↔ ¬ Bypassed admits s t generation c) := by
  have hs := h.link_orderly
  set w : Socket (Recorded ω) := { t with exchange := x } with hw
  have hwell : w.link.Orderly := hrun.link_orderly hs
  obtain ⟨timer, hfires⟩ := awaitsReconnect_iff.mp pending
  have hseeks : Seeks w (.timer (.reconnect generation)) .connect := .reconnects hfires
  have hu : u.link.Orderly := fired ▸ orderly_handle hwell _
  refine ⟨fired ▸ .take next trivial, fired ▸ touches_of_tearsDown hseeks.tearsDown hwell,
    fun c hc => ?_⟩
  obtain ⟨e, he, hnumber, hgoes⟩ := teardown_of_seeks hseeks (c := c) hc
  rw [← fired] at he
  refine ⟨⟨e, he, hnumber, hgoes⟩, fun v hlater generation' => ?_, fun hconn hbypassed => ?_,
    fun hspared => ?_⟩
  · have howns : u.link.Owns w.nextTeardown c := by
      rw [fired]
      exact (shifts_handle w _).owns (undisturbed_of_tearsDown hseeks.tearsDown) hwell (.inr hc)
        fun _ _ _ => .inl hc
    have hgiven : w.nextTeardown < u.nextTeardown := hnumber ▸ hu.teardown he
    exact touches_of_owns (hlater.link_orderly hu) (hlater.owns hu hgiven howns) generation'
  · exact hbypassed.not_conn hs hconn
  · exact (kept_or_bypassed armed hrun pending hc).resolve_right hspared

/-- A connection is lost since its transport has closed, and is torn down when the reconnect is due. -/
theorem reconnect_spares_iff_closed : ∃ s t u : Socket (Recorded Idle), ∃ c : Connection,
    Reachable (fun _ _ => True) s ∧ s.AwaitsReconnect 2 ∧ s.conn = some c ∧
    Run (fun _ _ => True) s t ∧ t.AwaitsReconnect 2 ∧ t.conn = some c ∧
    Step (fun _ _ => True) t u ∧ Touches t u t.IsLive ∧
    (∀ v, Run Undisturbed u v → ∀ generation,
      Touches v (v.handle (.timer (.teardown t.nextTeardown generation))) (· = c.transport)) ∧
    ¬ Bypassed (fun _ _ => True) s t 2 c := by
  obtain ⟨s, hs, hview⟩ := reachable_of_play? of_admitsAll
    (show (ready.play? admitsAll (connecting ++
        [.report 0 (.closed ⟨1006, none, false⟩), .take])).map (fun s =>
          (s.reconnectTimer.slot, s.conn, (s.play? admitsAll [.fire (.reconnect 2)]).map fun t =>
            (t.reconnectTimer.slot, t.conn, t.exchange.next?.map Prod.fst))) =
      some (⟨2, true⟩, some ⟨0, .standard, false⟩,
        some (⟨2, true⟩, some ⟨0, .standard, false⟩, some (.timer (.reconnect 2)))) by cbv)
  simp only [Prod.mk.injEq] at hview
  obtain ⟨harmed, hconn, hafter⟩ := hview
  obtain ⟨t, hplay, hlater⟩ := Option.map_eq_some_iff.mp hafter
  simp only [Prod.mk.injEq] at hlater
  obtain ⟨hpending, hlive, hqueue⟩ := hlater
  obtain ⟨⟨cmd, x⟩, hnext, rfl⟩ := Option.map_eq_some_iff.mp hqueue
  have hrun : Run (fun _ _ => True) s t := run_of_play? of_admitsAll hplay
  obtain ⟨hstep, htouches, hfinds⟩ := reconnect_spares_iff hs harmed hrun hpending hnext rfl
  obtain ⟨-, hgoes, hspares⟩ := hfinds _ hlive
  exact ⟨s, t, _, _, hs, harmed, hconn, hrun, hpending, hlive, hstep, htouches, hgoes,
    hspares.mp hconn⟩

/-- The exception is real: a connection that is asked for after the last one was lost is torn down by the
reconnect that was armed before. -/
theorem bypassing_connection_torn_down : ∃ s t u : Socket (Recorded Idle), ∃ c : Connection,
    Reachable (fun _ _ => True) s ∧ s.AwaitsReconnect 2 ∧ s.conn = none ∧
    Run (fun _ _ => True) s t ∧ t.AwaitsReconnect 2 ∧ t.conn = some c ∧ Step (fun _ _ => True) t u ∧
    ¬ Touches t u (· ≠ c.transport) := by
  obtain ⟨s, hs, hview⟩ := reachable_of_play? of_admitsAll
    (show (ready.play? admitsAll (connecting ++ [.fire (.heartbeatDue 2), .take,
        .fire (.heartbeatTimeout 2), .take, .become ⟨.closed, 0⟩, .fire (.teardown 0 1), .take])).map
          (fun s => (s.reconnectTimer.slot, s.conn, (s.play? admitsAll [.become ⟨.connecting, 0⟩,
            .connect, .take, .fire (.reconnect 2)]).map fun t => (t.reconnectTimer.slot, t.conn,
              t.dealings.length, t.step?.map fun u => u.dealings[t.dealings.length]?))) =
      some (⟨2, true⟩, none, some (⟨2, true⟩, some ⟨1, .standard, false⟩, 4,
        some (some (.close 1 none none)))) by cbv)
  simp only [Prod.mk.injEq] at hview
  obtain ⟨harmed, hconn, hafter⟩ := hview
  obtain ⟨t, hplay, hlater⟩ := Option.map_eq_some_iff.mp hafter
  simp only [Prod.mk.injEq] at hlater
  obtain ⟨hpending, hlive, -, hfires⟩ := hlater
  obtain ⟨u, hstep, hlast⟩ := Option.map_eq_some_iff.mp hfires
  refine ⟨s, t, u, _, hs, harmed, hconn, run_of_play? of_admitsAll hplay, hpending, hlive,
    step_of_step? hstep, ?_⟩
  rintro ⟨es, hes, htouched⟩
  rw [hes, List.getElem?_append_right le_rfl, Nat.sub_self] at hlast
  exact htouched _ (List.mem_of_getElem? hlast) 1 rfl rfl

end Socket

end Switchboard
