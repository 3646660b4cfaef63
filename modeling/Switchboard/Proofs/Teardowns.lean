import Switchboard.Proofs.Shifts
import Switchboard.Proofs.Scripts

/-!
# Teardowns

A teardown has a number, but it does not say which connection it is about: its timer closes and gives
up whatever connection there is when it fires.  It is the connection of the time when the teardown
began unless a connection was asked for since; that is possible only after the transport was replaced.

Main definitions

* `Effect.touched?`: the transport that an effect closes or gives up;
* `Link.Orderly`, `Link.Owns`, `Link.Grows`: what shifts keep of a link;
* `Socket.Undisturbed`: nobody asks for a connection while a teardown is in flight.

Main results

* `Socket.Reachable.link_orderly`: links are in order at all times;
* `Socket.teardown_of_seeks`: with a connection, what seeks a teardown begins one;
* `Socket.Run.owns`: the connection of a teardown is not replaced while it is in flight;
* `Socket.teardown_touches_own`: a teardown closes and gives up its own transport only.
-/

set_option autoImplicit false

namespace Switchboard

/-- The transport that an effect closes or gives up. -/
def Effect.touched? : Effect → Option TransportId
  | .close t _ _ | .release t => some t
  | _ => none

/-- Commands that begin a teardown or go on with one. -/
def Command.tearsDown : Command → Bool
  | .disconnect .. | .pause | .timer _ => true
  | _ => false

namespace Link

/-- Transports and teardowns have numbers that were given before, and what was asked of a link after
a pause is known from its clock. -/
structure Orderly (l : Link) : Prop where
  transport : ∀ ⦃c⦄, l.conn = some c → c.transport < l.nextTransport
  teardown : ∀ ⦃t⦄, l.teardown = some t → t.number < l.nextTeardown
  paused : ∀ ⦃clock⦄, l.awaitingResume = some clock → clock ≤ l.connectClock
  resumable : l.awaitingResume = some l.connectClock → l.teardown = none ∨ l.conn.isSome = true

/-- As long as the teardown of a number is in flight, a connection is still there or was given up. -/
def Owns (l : Link) (number : Nat) (c : Connection) : Prop :=
  ∀ ⦃t⦄, l.teardown = some t → t.number = number → l.conn = some c ∨ l.conn = none

/-- What is done to transports is added to what was done before; transports that are opened have new
numbers. -/
structure Grows (l l' : Link) : Prop where
  next : l.nextTransport ≤ l'.nextTransport
  dealings : ∃ es, l'.dealings = l.dealings ++ es ∧
    ∀ request, .open request ∈ es → l.nextTransport ≤ request.transport

variable {l l' l'' : Link}

theorem Grows.refl (l : Link) : l.Grows l := ⟨le_rfl, [], by simp, by simp⟩

theorem Grows.trans (h : l.Grows l') (h' : l'.Grows l'') : l.Grows l'' := by
  obtain ⟨es, hes, hopens⟩ := h.dealings
  obtain ⟨es', hes', hopens'⟩ := h'.dealings
  refine ⟨h.next.trans h'.next, es ++ es', ?_, fun request hmem => ?_⟩
  · rw [hes', hes, List.append_assoc]
  · rcases List.mem_append.mp hmem with hmem | hmem
    · exact hopens request hmem
    · exact h.next.trans (hopens' request hmem)

/-- What opens no transport. -/
theorem Grows.of_append {es : List Effect} (hnext : l'.nextTransport = l.nextTransport)
    (h : l'.dealings = l.dealings ++ es) (hes : ∀ request, .open request ∉ es) : l.Grows l' :=
  ⟨hnext.ge, es, h, fun request hmem => absurd hmem (hes request)⟩

theorem Grows.of_eq (hnext : l'.nextTransport = l.nextTransport) (h : l'.dealings = l.dealings) :
    l.Grows l' :=
  .of_append hnext (h.trans (List.append_nil _).symm) (by simp)

theorem grows_dropped (l : Link) : l.Grows l.dropped := by
  unfold dropped
  split
  · exact .refl l
  · exact .of_append rfl rfl (by simp)

theorem grows_parted (l : Link) : l.Grows l.parted := by
  unfold parted
  split
  · exact .refl l
  · exact .of_append rfl rfl (by simp)

theorem Orderly.dropped (h : l.Orderly) (hdone : l.teardown = none) : l.dropped.Orderly := by
  unfold Link.dropped
  split
  · exact h
  · exact ⟨nofun, h.teardown, h.paused, fun _ => .inl hdone⟩

/-- After a turn of the clock nobody may resume. -/
theorem Orderly.turned (h : l.Orderly) : l.turned.Orderly := by
  have hlate : ∀ ⦃clock⦄, l.awaitingResume = some clock → clock < l.connectClock + 1 :=
    fun _ hclock => Nat.lt_succ_of_le (h.paused hclock)
  exact ⟨h.transport, h.teardown, fun _ hclock => (hlate hclock).le,
    fun hclock => absurd (hlate hclock) (lt_irrefl _)⟩

theorem Orderly.retired (h : l.Orderly) : l.turned.parted.Orderly := by
  unfold Link.parted
  split
  · exact h.turned
  · exact ⟨nofun, h.turned.teardown, h.turned.paused,
      fun hclock => absurd (Nat.lt_succ_of_le (h.paused hclock)) (lt_irrefl _)⟩

theorem conn_dropped (l : Link) : l.dropped.conn = none := by
  unfold dropped
  split
  · assumption
  · rfl

theorem conn_parted (l : Link) : l.parted.conn = none := by
  unfold parted
  split
  · assumption
  · rfl

end Link

namespace Socket

variable {ω : Type} [Outside ω]
variable {s t u : Socket (Recorded ω)} {cmd : Command} {k : Continuation} {l l' : Link}
variable {number : Nat} {c : Connection}

/-! ### What holds at all times -/

theorem Shift.orderly (h : Shift s cmd l l') (hl : l.Orderly) : l'.Orderly := by
  cases h with
  | beats | prunes | opens | schedules | fires | loses | closes | replaces =>
    exact ⟨hl.transport, hl.teardown, hl.paused, hl.resumable⟩
  | turns => exact hl.turned
  | pauses command conn =>
    refine ⟨hl.transport, hl.teardown, ?_, fun _ => .inr conn⟩
    rintro clock ⟨⟩
    exact le_rfl
  | resumes command => exact ⟨hl.transport, hl.teardown, nofun, nofun⟩
  | begins seeks live conn number continuation =>
    refine ⟨hl.transport, ?_, hl.paused, fun _ => .inr (conn ▸ rfl)⟩
    rintro t ⟨⟩
    exact number ▸ Nat.lt_succ_self _
  | drops seeks vacant => exact ⟨hl.transport, nofun, hl.paused, fun _ => .inl rfl⟩
  | looks inFlight number continuation =>
    refine ⟨hl.transport, ?_, hl.paused, fun hclock => ?_⟩
    · rintro t ⟨⟩
      exact number ▸ hl.teardown inFlight
    · rcases hl.resumable hclock with hnone | hconn
      · rw [hnone] at inFlight
        cases inFlight
      · exact .inr hconn
  | finishes inFlight =>
    exact Link.Orderly.dropped ⟨hl.transport, nofun, hl.paused, fun _ => .inl rfl⟩ rfl
  | readies summons config =>
    exact ⟨hl.turned.transport, hl.turned.teardown, hl.turned.paused, hl.turned.resumable⟩
  | connects summons vacant number transport =>
    refine ⟨?_, hl.teardown, hl.paused, fun _ => .inr rfl⟩
    rintro c ⟨⟩
    exact transport ▸ Nat.lt_succ_self _
  | retires replaces => exact hl.retired
  | ends command due timeout silent => exact ⟨nofun, nofun, hl.paused, fun _ => .inl rfl⟩

theorem orderly_handle (hs : s.link.Orderly) (cmd : Command) : (s.handle cmd).link.Orderly :=
  (shifts_handle s cmd).keeps hs Shift.orderly

theorem Run.link_orderly {admits : Socket (Recorded ω) → Command → Prop} (h : Run admits s t)
    (hs : s.link.Orderly) : t.link.Orderly :=
  h.keeps_link hs fun _ _ shift hl => shift.orderly hl

theorem Reachable.link_orderly {admits : Socket (Recorded ω) → Command → Prop} (h : Reachable admits s) :
    s.link.Orderly := by
  obtain ⟨endpoint, config, factory, outside, run⟩ := h
  exact run.link_orderly ⟨nofun, nofun, nofun, nofun⟩

theorem Shift.grows (h : Shift s cmd l l') : l.Grows l' := by
  cases h with
  | beats | opens | schedules | fires | turns | pauses | resumes | loses | begins | drops | looks
  | readies | replaces => exact .of_eq rfl rfl
  | prunes isClosed cause => exact .of_append rfl rfl (by simp)
  | closes inFlight conn code reason => exact .of_append rfl rfl (by simp)
  | finishes inFlight =>
    have hover : l.Grows { l with teardown := none } := .of_eq rfl rfl
    exact hover.trans (Link.grows_dropped _)
  | connects summons vacant number transport =>
    refine ⟨Nat.le_succ _, _, rfl, fun request hmem => ?_⟩
    cases List.mem_singleton.mp hmem
    exact number.ge
  | retires replaces =>
    have hturned : l.Grows l.turned := .of_eq rfl rfl
    exact hturned.trans (Link.grows_parted _)
  | ends command due timeout silent => exact .of_append rfl rfl silent

theorem grows_handle (s : Socket (Recorded ω)) (cmd : Command) :
    s.link.Grows (s.handle cmd).link :=
  (shifts_handle s cmd).keeps (.refl _) fun shift hl => hl.trans shift.grows

theorem Run.grows {admits : Socket (Recorded ω) → Command → Prop} (h : Run admits s t) :
    s.link.Grows t.link :=
  h.keeps_link (.refl _) fun _ _ shift hl => hl.trans shift.grows

/-! ### The connection of a teardown -/

/-- While a teardown is in flight nobody asks for a connection where there is none, and no callback
falls back to another transport. -/
structure Undisturbed (s : Socket (Recorded ω)) (cmd : Command) : Prop where
  connect : cmd = .connect → s.teardown.isSome = true → s.conn.isSome = true
  fallback : s.teardown.isSome = true → s.fallback? cmd = none

/-- Where a connection is asked for, no teardown is in flight. -/
theorem Summons.no_teardown (h : Summons s cmd l) (hcmd : Undisturbed s cmd) (hs : s.link.Orderly) :
    l.teardown = none := by
  rcases h with ⟨asks, hteardown⟩ | ⟨_, hover⟩
  · rw [hteardown]
    by_contra hflight
    have hsome : s.teardown.isSome = true := Option.isSome_iff_ne_none.mpr hflight
    cases asks with
    | connect vacant =>
      have hconn := hcmd.connect rfl hsome
      rw [vacant] at hconn
      cases hconn
    | resume vacant paused =>
      rcases hs.resumable paused with hnone | hconn
      · exact hflight hnone
      · have hconn : s.conn.isSome = true := hconn
        rw [vacant] at hconn
        cases hconn
    | fallback chosen =>
      rw [hcmd.fallback hsome] at chosen
      cases chosen
  · exact hover

/-- What happens to a link leaves a teardown its connection, be it one that began before or one that
begins now. -/
theorem Shift.owns (h : Shift s cmd l l') (hcmd : Undisturbed s cmd) (hs : s.link.Orderly)
    (hfresh : number < l.nextTeardown ∨ s.conn = some c) (hl : l.Owns number c) :
    l'.Owns number c := by
  cases h with
  | beats | prunes | opens | schedules | fires | turns | pauses | resumes | loses | closes
  | readies | replaces => exact hl
  | begins seeks live conn hnumber continuation =>
    rintro t ⟨⟩ rfl
    refine .inl (conn.trans ?_)
    rcases hfresh with hlt | hconn
    · exact absurd hnumber hlt.ne
    · exact live.symm.trans hconn
  | drops seeks vacant => exact nofun
  | looks inFlight hnumber continuation =>
    rintro t ⟨⟩ rfl
    exact hl inFlight hnumber.symm
  | finishes inFlight => exact fun _ _ _ => .inr (Link.conn_dropped _)
  | connects summons vacant hnumber transport =>
    intro t ht
    have hover := summons.no_teardown hcmd hs
    rw [show l.teardown = some t from ht] at hover
    cases hover
  | retires hreplaces => exact fun _ _ _ => .inr (Link.conn_parted _)
  | ends command due timeout silent => exact nofun

theorem Shift.nextTeardown_le (h : Shift s cmd l l') : l.nextTeardown ≤ l'.nextTeardown := by
  cases h with
  | begins => exact Nat.le_succ _
  | finishes =>
    unfold Link.dropped
    split <;> exact le_rfl
  | retires =>
    unfold Link.parted
    split <;> exact le_rfl
  | _ => exact le_rfl

theorem Shifts.owns (h : Shifts s cmd l l') (hcmd : Undisturbed s cmd) (hs : s.link.Orderly)
    (hfresh : number < l.nextTeardown ∨ s.conn = some c) (hl : l.Owns number c) :
    l'.Owns number c := by
  refine (h.keeps (I := fun l₁ => (number < l₁.nextTeardown ∨ s.conn = some c) ∧
    l₁.Owns number c) ⟨hfresh, hl⟩ ?_).2
  rintro l₁ l₂ shift ⟨hfresh₁, hl₁⟩
  exact ⟨hfresh₁.imp_left fun hlt => hlt.trans_le shift.nextTeardown_le,
    shift.owns hcmd hs hfresh₁ hl₁⟩

theorem undisturbed_shutdown (s : Socket (Recorded ω)) : Undisturbed s .shutdown where
  connect h := by cases h
  fallback _ := rfl

/-- A connection is not replaced while its teardown is in flight. -/
theorem Run.owns (h : Run Undisturbed s t) (hs : s.link.Orderly)
    (hgiven : number < s.nextTeardown) (howns : s.link.Owns number c) : t.link.Owns number c := by
  refine (h.keeps_link (I := fun l => l.Orderly ∧ number < l.nextTeardown ∧ l.Owns number c)
    ⟨hs, hgiven, howns⟩ ?_).2.2
  rintro u cmd l l' ⟨hu, _⟩ hcmd shift ⟨hl, hlt, howns⟩
  have hundisturbed : Undisturbed u cmd := by
    rcases hcmd with hadmitted | rfl
    · exact hadmitted
    · exact undisturbed_shutdown u
  exact ⟨shift.orderly hl, hlt.trans_le shift.nextTeardown_le,
    shift.owns hundisturbed hu (.inl hlt) howns⟩

/-! ### What teardowns do to transports -/

/-- All that is done to transports on the way is to close, or to give up, those of a kind. -/
def Touches (s t : Socket (Recorded ω)) (P : TransportId → Prop) : Prop :=
  ∃ es, t.dealings = s.dealings ++ es ∧ ∀ e ∈ es, ∀ id, e.touched? = some id → P id

omit [Outside ω] in
theorem Touches.mono {P Q : TransportId → Prop} (h : Touches s t P) (hPQ : ∀ id, P id → Q id) :
    Touches s t Q := by
  obtain ⟨es, hes, htouched⟩ := h
  exact ⟨es, hes, fun e he id hid => hPQ id (htouched e he id hid)⟩

omit [Outside ω] in
theorem Seeks.tearsDown (h : Seeks s cmd k) : cmd.tearsDown = true := by
  cases h <;> rfl

theorem fallback?_of_tearsDown (h : cmd.tearsDown = true) : s.fallback? cmd = none := by
  cases cmd with
  | disconnect | pause | timer => rfl
  | _ => cases h

theorem not_replaces_of_tearsDown (h : cmd.tearsDown = true) : ¬ Replaces s cmd := by
  refine not_replaces_of_ne (fun factory hcmd => ?_) (fallback?_of_tearsDown h)
  subst hcmd
  cases h

theorem undisturbed_of_tearsDown (h : cmd.tearsDown = true) : Undisturbed s cmd where
  connect heq := by
    subst heq
    cases h
  fallback _ := fallback?_of_tearsDown h

/-- A command that begins a teardown, or goes on with one, touches the connection only that it found. -/
theorem Shift.touches (h : Shift s cmd l l') (hcmd : cmd.tearsDown = true) (hs : s.link.Orderly)
    (hl : l.teardown ≠ none → l.conn = s.conn ∨ l.conn = none) :
    (l'.teardown ≠ none → l'.conn = s.conn ∨ l'.conn = none) ∧
      ∃ es, l'.dealings = l.dealings ++ es ∧ ∀ e ∈ es, ∀ id, e.touched? = some id → s.IsLive id := by
  have hlive : ∀ {t c}, l.teardown = some t → l.conn = some c → s.IsLive c.transport := by
    intro t c ht hc
    rcases hl (ht ▸ Option.some_ne_none t) with hsame | hnone
    · exact ⟨c, hsame ▸ hc, rfl⟩
    · rw [hnone] at hc
      cases hc
  cases h with
  | beats | schedules | fires | turns | pauses | resumes | loses | readies =>
    exact ⟨hl, [], (List.append_nil _).symm, by simp⟩
  | begins seeks live conn =>
    exact ⟨fun _ => .inl (conn.trans live.symm), [], (List.append_nil _).symm, by simp⟩
  | drops => exact ⟨fun h => absurd rfl h, [], (List.append_nil _).symm, by simp⟩
  | looks inFlight =>
    refine ⟨fun _ => hl ?_, [], (List.append_nil _).symm, by simp⟩
    rw [inFlight]
    exact Option.some_ne_none _
  | @closes t c inFlight conn code reason =>
    refine ⟨hl, _, rfl, fun e he id hid => ?_⟩
    cases List.mem_singleton.mp he
    cases hid
    exact hlive inFlight conn
  | finishes inFlight =>
    refine ⟨fun _ => .inr (Link.conn_dropped _), ?_⟩
    unfold Link.dropped
    split
    · exact ⟨[], (List.append_nil _).symm, by simp⟩
    · rename_i c hc
      refine ⟨_, rfl, fun e he id hid => ?_⟩
      cases List.mem_singleton.mp he
      cases hid
      exact hlive inFlight hc
  | connects summons vacant number transport =>
    have hover : l.teardown = none := summons.no_teardown (undisturbed_of_tearsDown hcmd) hs
    refine ⟨fun h => absurd hover h, _, rfl, fun e he id hid => ?_⟩
    cases List.mem_singleton.mp he
    cases hid
  | retires replaces => exact absurd replaces (not_replaces_of_tearsDown hcmd)
  | replaces replaces => exact absurd replaces (not_replaces_of_tearsDown hcmd)
  | prunes isClosed cause =>
    rcases cause with ⟨t, event, rfl⟩ | replaces
    · cases hcmd
    · exact absurd replaces (not_replaces_of_tearsDown hcmd)
  | opens command =>
    subst command
    cases hcmd
  | ends command =>
    subst command
    cases hcmd

theorem touches_of_tearsDown (hcmd : cmd.tearsDown = true) (hs : s.link.Orderly) :
    Touches s (s.handle cmd) s.IsLive := by
  refine ((shifts_handle s cmd).keeps (I := fun l =>
    (l.teardown ≠ none → l.conn = s.conn ∨ l.conn = none) ∧ ∃ es, l.dealings = s.dealings ++ es ∧
      ∀ e ∈ es, ∀ id, e.touched? = some id → s.IsLive id)
    ⟨fun _ => .inl rfl, [], (List.append_nil _).symm, by simp⟩ ?_).2
  rintro l l' shift ⟨hl, es, hes, htouched⟩
  obtain ⟨hl', es', hes', htouched'⟩ := shift.touches hcmd hs hl
  refine ⟨hl', es ++ es', by rw [hes', hes, List.append_assoc], fun e he => ?_⟩
  rcases List.mem_append.mp he with he | he
  · exact htouched e he
  · exact htouched' e he

/-- A timer of a teardown that is not in flight does nothing. -/
theorem handle_teardown_of_over {generation : Nat}
    (h : ∀ t, s.teardown = some t → t.number ≠ number) :
    s.handle (.timer (.teardown number generation)) = s := by
  change s.teardownTimeout number generation = s
  unfold teardownTimeout
  split
  · rfl
  · rename_i t ht
    rw [if_neg (h t ht)]

/-! ### Teardowns begin -/

theorem teardown_beginTeardown (hconn : s.conn.isSome = true) (code : Option Nat)
    (reason : Option String) (k : Continuation) :
    ∃ t, (s.beginTeardown code reason k).teardown = some t ∧ t.number = s.nextTeardown ∧
      t.continuation = k := by
  have hnone : s.conn.isNone = false := by simpa [Option.isNone_eq_false_iff] using hconn
  simp only [beginTeardown, hnone, Bool.false_eq_true, if_false, stepTeardown]
  split
  · exact ⟨_, rfl, rfl, rfl⟩
  · unfold closeConnection
    split <;> exact ⟨_, rfl, rfl, rfl⟩

/-- Where there is a connection, what seeks a teardown begins one, under the next number. -/
theorem teardown_of_seeks (h : Seeks s cmd k) (hlive : s.conn = some c) :
    ∃ t, (s.handle cmd).teardown = some t ∧ t.number = s.nextTeardown ∧ t.continuation = k := by
  have hconn : s.conn.isSome = true := hlive ▸ rfl
  cases h with
  | disconnects code reason done =>
    exact teardown_beginTeardown (s := { s.tick.resetReconnect with closeWasClean := true }) hconn _ _ _
  | pauses =>
    obtain ⟨t, ht⟩ := teardown_beginTeardown
      (s := { s.tick.resetReconnect with closeWasClean := true }) hconn none none .nothing
    simp only [handle, pause, hconn, if_true]
    exact ⟨t, ht⟩
  | @reconnects generation timer fires =>
    simp only [handle, timerEvent, fires]
    exact teardown_beginTeardown (s := { s with reconnectTimer := timer }) hconn _ _ _
  | @loses generation timer late awaited =>
    simp only [handle, timerEvent, heartbeatTimeoutDue, late, awaited, if_true, loseConnection]
    set s₁ : Socket (Recorded ω) := { s with heartbeatTimeout := timer, pendingHeartbeat := none }
    have hkept : s₁.triggerErrors.link = s₁.link := link_triggerErrors s₁
    have hnext : s₁.triggerErrors.nextTeardown = s.nextTeardown := congrArg Link.nextTeardown hkept
    have hconn₁ : s₁.triggerErrors.conn.isSome = true :=
      (congrArg (fun l : Link => l.conn.isSome) hkept).trans hconn
    rw [← hnext]
    exact teardown_beginTeardown (s := { s₁.triggerErrors with closeWasClean := false }) hconn₁ _ _ _

/-- A teardown touches its own transport only.  What seeks a teardown while there is a connection
begins it and asks no other transport to close; later on, as long as nobody asks for a connection
while a teardown is in flight, the connection is this one or given up, whatever the timer of the
teardown closes or gives up is its transport, and all transports opened since are others. -/
theorem teardown_touches_own {admits : Socket (Recorded ω) → Command → Prop}
    (h : Reachable admits s) (seeks : Seeks s cmd k) (live : s.conn = some c)
    (hrun : Run Undisturbed (s.handle cmd) u) :
    (∃ t, (s.handle cmd).teardown = some t ∧ t.number = s.nextTeardown ∧ t.continuation = k) ∧
      Touches s (s.handle cmd) (· = c.transport) ∧
      (∀ t, u.teardown = some t → t.number = s.nextTeardown → u.conn = some c ∨ u.conn = none) ∧
      (∀ generation, Touches u (u.handle (.timer (.teardown s.nextTeardown generation)))
        (· = c.transport)) ∧
      ∃ es, u.dealings = s.dealings ++ es ∧
        ∀ request, .open request ∈ es → request.transport ≠ c.transport := by
  have hs := h.link_orderly
  have hdown := seeks.tearsDown
  have hown : ∀ {id}, s.IsLive id → id = c.transport := by
    rintro id ⟨c', hc', rfl⟩
    rw [live] at hc'
    cases hc'
    rfl
  have hbegins := teardown_of_seeks seeks live
  have hgiven : s.nextTeardown < (s.handle cmd).nextTeardown := by
    obtain ⟨t, ht, hnumber, _⟩ := hbegins
    exact hnumber ▸ (orderly_handle hs cmd).teardown ht
  have howns : u.link.Owns s.nextTeardown c :=
    hrun.owns (orderly_handle hs cmd) hgiven (Shifts.owns (shifts_handle s cmd)
      (undisturbed_of_tearsDown hdown) hs (.inr live) fun _ _ _ => .inl live)
  refine ⟨hbegins, (touches_of_tearsDown hdown hs).mono fun _ => hown, howns, fun generation => ?_, ?_⟩
  · by_cases hflight : ∃ t, u.teardown = some t ∧ t.number = s.nextTeardown
    · obtain ⟨t, ht, hnumber⟩ := hflight
      refine (touches_of_tearsDown rfl (hrun.link_orderly (orderly_handle hs cmd))).mono ?_
      rintro id ⟨c', hc', rfl⟩
      have hconn : u.conn = some c ∨ u.conn = none := howns ht hnumber
      rw [hc'] at hconn
      rcases hconn with hconn | hconn <;> cases hconn
      rfl
    · have hsame : u.handle (.timer (.teardown s.nextTeardown generation)) = u :=
        handle_teardown_of_over fun t ht hnumber => hflight ⟨t, ht, hnumber⟩
      exact ⟨[], by rw [hsame, List.append_nil], by simp⟩
  · obtain ⟨es, hes, hopens⟩ := ((grows_handle s cmd).trans hrun.grows).dealings
    have hgiven' : c.transport < s.nextTransport := hs.transport live
    exact ⟨es, hes, fun request hmem => (hgiven'.trans_le (hopens request hmem)).ne'⟩

/-- The commands of a script that ask for no connection while a teardown is in flight. -/
def undisturbed (s : Socket (Recorded Idle)) (cmd : Command) : Bool :=
  s.teardown.isNone || match cmd with
    | .connect => s.conn.isSome
    | cmd => (s.fallback? cmd).isNone

theorem undisturbed_of_undisturbed (s : Socket (Recorded Idle)) (cmd : Command)
    (h : s.undisturbed cmd = true) : Undisturbed s cmd := by
  rcases (Bool.or_eq_true _ _).mp h with hnone | hcmd
  · have hover : s.teardown.isSome = false := by simpa using hnone
    exact ⟨fun _ hsome => absurd hsome (by simp [hover]), fun hsome => absurd hsome (by simp [hover])⟩
  · split at hcmd
    · exact ⟨fun _ _ => hcmd, fun _ => rfl⟩
    · rename_i hother
      exact ⟨fun heq => (hother heq).elim, fun _ => Option.isNone_iff_eq_none.mp hcmd⟩

/-- A teardown is over, and its timer does not touch the connection that was asked for since. -/
theorem teardown_touches_own_reconnected : ∃ s u : Socket (Recorded Idle), ∃ c d : Connection,
    Reachable (fun _ _ => True) s ∧ s.conn = some c ∧ u.conn = some d ∧ d.transport ≠ c.transport ∧
    Run Undisturbed (s.handle (.disconnect none none none)) u ∧
    Touches s (s.handle (.disconnect none none none)) (· = c.transport) ∧
    ∀ generation, Touches u (u.handle (.timer (.teardown s.nextTeardown generation)))
      (· = c.transport) := by
  obtain ⟨s, hs, hview⟩ := reachable_of_play? of_admitsAll
    (show (ready.play? admitsAll connecting).map (fun s => (s.conn.map (·.transport),
        ((s.handle (.disconnect none none none)).play? undisturbed [.become ⟨.closed, 0⟩,
          .fire (.teardown 0 1), .take, .post .connect fun _ => rfl, .take]).map
            fun u => u.conn.map (·.transport))) =
      some (some 0, some (some 1)) by cbv)
  simp only [Prod.mk.injEq] at hview
  obtain ⟨hconn, hafter⟩ := hview
  obtain ⟨c, hc, hfirst⟩ := Option.map_eq_some_iff.mp hconn
  obtain ⟨u, hplay, hlater⟩ := Option.map_eq_some_iff.mp hafter
  obtain ⟨d, hd, hsecond⟩ := Option.map_eq_some_iff.mp hlater
  have hrun : Run Undisturbed (s.handle (.disconnect none none none)) u :=
    run_of_play? undisturbed_of_undisturbed hplay
  obtain ⟨-, hbegins, -, hgoes, -⟩ :=
    teardown_touches_own hs (.disconnects none none none) hc hrun
  exact ⟨s, u, c, d, hs, hc, hd, by simp [hfirst, hsecond], hrun, hbegins, hgoes⟩

/-- The condition is needed: where the transport is replaced while its teardown is in flight, the
teardown goes on with the transport that is opened next. -/
theorem replaced_while_tearing_down_closes : ∃ s u : Socket (Recorded Idle), ∃ c d : Connection,
    Reachable (fun _ _ => True) s ∧ s.conn = some c ∧ u.conn = some d ∧ d.transport ≠ c.transport ∧
    Run (fun _ _ => True) (s.handle (.disconnect none none none)) u ∧
    ¬ Touches u (u.handle (.timer (.teardown s.nextTeardown 1))) (· = c.transport) := by
  obtain ⟨s, hs, hview⟩ := reachable_of_play? of_admitsAll
    (show (ready.play? admitsAll (connecting ++ [.become ⟨.open, 5⟩])).map (fun s =>
        (s.conn.map (·.transport), s.nextTeardown,
          ((s.handle (.disconnect none none none)).play? admitsAll
            [.post (.replaceTransport ⟨0, "standard", false, false⟩) fun _ => rfl, .take,
              .post .connect fun _ => rfl, .take, .become ⟨.open, 0⟩]).map fun u =>
            (u.conn.map (·.transport), u.dealings.length,
              (u.handle (.timer (.teardown 0 1))).dealings[u.dealings.length]?))) =
      some (some 0, 0, some (some 1, 3, some (.close 1 none none))) by cbv)
  simp only [Prod.mk.injEq] at hview
  obtain ⟨hconn, hnumber, hafter⟩ := hview
  obtain ⟨c, hc, hfirst⟩ := Option.map_eq_some_iff.mp hconn
  obtain ⟨u, hplay, hlater⟩ := Option.map_eq_some_iff.mp hafter
  simp only [Prod.mk.injEq] at hlater
  obtain ⟨hlater, -, hlast⟩ := hlater
  obtain ⟨d, hd, hsecond⟩ := Option.map_eq_some_iff.mp hlater
  refine ⟨s, u, c, d, hs, hc, hd, by simp [hfirst, hsecond], run_of_play? of_admitsAll hplay, ?_⟩
  rintro ⟨es, hes, htouched⟩
  rw [hnumber] at hes
  rw [hes, List.getElem?_append_right le_rfl, Nat.sub_self] at hlast
  have hmine := htouched _ (List.mem_of_getElem? hlast) 1 rfl
  rw [hfirst] at hmine
  cases hmine

end Socket

end Switchboard
