import Switchboard.Proofs.Link
import Switchboard.Proofs.Runs

/-!
# What a command does to the connection

Whatever command a socket takes, what becomes of its link is a sequence of shifts, each of which says
why it was made: the command asks for it, or what it carries on had been asked for before.

Main definitions

* `Socket.fallback?`: the transport that error callbacks choose while a command is carried out;
* `Socket.Seeks`, `Socket.Continues`, `Socket.Asks`: the causes of teardowns, of what comes after
  them, and of connections;
* `Socket.Shift`, `Socket.Shifts`.

Main results

* `Socket.shifts_handle`: every command is carried out in shifts;
* `Socket.Shifts.keeps`, `Socket.Run.keeps_link`: what each shift keeps of the link is kept by a
  command, and by a run.
-/

set_option autoImplicit false

namespace Switchboard

/-- The link without its connection, which is given up. -/
def Link.dropped (l : Link) : Link :=
  match l.conn with
  | none => l
  | some c => { l with conn := none, dealings := l.dealings ++ [.release c.transport] }

/-- The link without its connection, which goes on closing. -/
def Link.parted (l : Link) : Link :=
  match l.conn with
  | none => l
  | some c => { l with
      conn := none
      retired := l.retired ++ [c]
      dealings := l.dealings ++ [.close c.transport none none] }

/-- The link once what was asked for before is void: after a disconnect, a pause or a replacement. -/
def Link.turned (l : Link) : Link :=
  { l with
    connectClock := l.connectClock + 1
    reconnectTimer := l.reconnectTimer.reset
    closeWasClean := true }

/-- The link without the retired transports that have closed, which are given up. -/
def Link.pruned (l : Link) (isClosed : Connection → Bool) : Link :=
  { l with
    retired := l.retired.filter fun c => !isClosed c
    dealings := l.dealings ++ (l.retired.filter isClosed).map fun c => .release c.transport }

/-- Commands that disconnect, for good or for a while. -/
def Command.disconnects : Command → Bool
  | .disconnect .. | .pause => true
  | _ => false

namespace Socket

variable {ω : Type} [Outside ω]

/-! ### Causes -/

/-- Whether a transport is the one of the connection. -/
def IsLive (s : Socket (Recorded ω)) (t : TransportId) : Prop :=
  ∃ c, s.conn = some c ∧ c.transport = t

/-- The transport that error callbacks choose to fall back to when a transport fails. -/
def choice? (s : Socket (Recorded ω)) (cause : TransportError) : Option Factory :=
  (s.callbacks.onError.refs.foldl (runOnError (.transport cause)) (s.errorContext, s)).1.fallback

/-- The transport that error callbacks choose to fall back to while a command is carried out. -/
def fallback? (s : Socket (Recorded ω)) : Command → Option Factory
  | .transport t (.failed cause) =>
    match s.conn with
    | some c => if c.transport = t then s.pruneRetired.choice? cause else none
    | none => none
  | _ => none

/-- A command begins a teardown, after which the socket is to go on. -/
inductive Seeks (s : Socket (Recorded ω)) : Command → Continuation → Prop
  | disconnects (code : Option Nat) (reason : Option String) (done : Option Ticket) :
    Seeks s (.disconnect code reason done) (continuationOf done)
  | pauses : Seeks s .pause .nothing
  | reconnects {generation : Nat} {timer : BackoffTimer}
    (fires : s.reconnectTimer.fire generation = some timer) :
    Seeks s (.timer (.reconnect generation)) .connect
  | loses {generation : Nat} {timer : TimerSlot}
    (late : s.heartbeatTimeout.accept generation = some timer)
    (awaited : s.pendingHeartbeat.isSome = true) :
    Seeks s (.timer (.heartbeatTimeout generation)) .scheduleReconnect

/-- A socket goes on, since a teardown is over or there was nothing to tear down. -/
inductive Continues (s : Socket (Recorded ω)) : Command → Continuation → Prop
  | vacant {cmd : Command} {k : Continuation} (seeks : Seeks s cmd k) (vacant : s.conn = none) :
    Continues s cmd k
  | elapsed {t : Teardown} {generation : Nat} (inFlight : s.teardown = some t) :
    Continues s (.timer (.teardown t.number generation)) t.continuation

/-- A command asks for a connection. -/
inductive Asks (s : Socket (Recorded ω)) : Command → Prop
  | connect (vacant : s.conn = none) : Asks s .connect
  | resume (vacant : s.conn = none) (paused : s.awaitingResume = some s.connectClock) :
    Asks s .resume
  | fallback {cmd : Command} {factory : Factory} (chosen : s.fallback? cmd = some factory) :
    Asks s cmd

/-- A command, or the choice of a callback, puts another kind of transport in place. -/
def Replaces (s : Socket (Recorded ω)) (cmd : Command) : Prop :=
  (∃ factory, cmd = .replaceTransport factory) ∨ ∃ factory, s.fallback? cmd = some factory

theorem not_replaces_of_ne {s : Socket (Recorded ω)} {cmd : Command}
    (hcmd : ∀ factory, cmd ≠ .replaceTransport factory) (hchoice : s.fallback? cmd = none) :
    ¬ Replaces s cmd := by
  rintro (⟨factory, heq⟩ | ⟨factory, chosen⟩)
  · exact hcmd factory heq
  · rw [hchoice] at chosen
    cases chosen

theorem not_asks_of_ne {s : Socket (Recorded ω)} {cmd : Command} (hconnect : cmd ≠ .connect)
    (hresume : cmd ≠ .resume) (hchoice : s.fallback? cmd = none) : ¬ Asks s cmd := by
  intro hasks
  cases hasks with
  | connect => exact hconnect rfl
  | resume => exact hresume rfl
  | fallback chosen =>
    rw [hchoice] at chosen
    cases chosen

/-- A socket opens a transport: it was asked to, or it goes on after a teardown. -/
def Summons (s : Socket (Recorded ω)) (cmd : Command) (l : Link) : Prop :=
  (Asks s cmd ∧ l.teardown = s.teardown) ∨ (Continues s cmd .connect ∧ l.teardown = none)

/-- A socket is to connect again: its connection was lost, or it goes on after a teardown. -/
def Retries (s : Socket (Recorded ω)) (cmd : Command) (l : Link) : Prop :=
  (∃ t event, cmd = .transport t (.closed event) ∧ l.closeWasClean = false ∧
    event.code ≠ CloseEvent.normalCode) ∨ Continues s cmd .scheduleReconnect

/-! ### Shifts -/

/-- What becomes of the signs of life in one go, with the timer of the next, the timer of the reply and
the ref of the reply that is awaited. -/
inductive Pulse (s₀ : Socket (Recorded ω)) (cmd : Command) (l : Link) :
    TimerSlot → TimerSlot → Option Ref → Prop
  /-- A timer runs down or is disarmed, and a reply is no longer awaited. -/
  | subsides {due timeout : TimerSlot} {pending : Option Ref}
    (sooner : due = l.heartbeatTimer ∨ due.armed = false)
    (later : timeout = l.heartbeatTimeout ∨ timeout.armed = false)
    (awaited : pending = l.pendingHeartbeat ∨ pending = none) : Pulse s₀ cmd l due timeout pending
  /-- A connection that needs them has opened, or the reply has come. -/
  | restarts {due timeout : TimerSlot} (quiet : timeout.armed = false)
    (cause : (∃ c, l.conn = some c ∧ c.skipHeartbeat = false) ∨ l.pendingHeartbeat.isSome = true) :
    Pulse s₀ cmd l due timeout none
  | issues {timeout : TimerSlot} {ref : Ref} {generation : Nat}
    (command : cmd = .timer (.heartbeatDue generation)) (due : s₀.heartbeatTimer.armed = true)
    (factory : l.factory = s₀.factory) : Pulse s₀ cmd l l.heartbeatTimer timeout (some ref)

/-- What a command that a socket has just taken does to the link in one go. -/
inductive Shift (s₀ : Socket (Recorded ω)) (cmd : Command) : Link → Link → Prop
  /-- Signs of life. -/
  | beats (l : Link) (due timeout : TimerSlot) (pending : Option Ref)
    (pulse : Pulse s₀ cmd l due timeout pending) : Shift s₀ cmd l { l with
      heartbeatTimer := due, heartbeatTimeout := timeout, pendingHeartbeat := pending }
  /-- Retired transports that have closed are given up. -/
  | prunes (l : Link) (isClosed : Connection → Bool)
    (cause : (∃ t event, cmd = .transport t event) ∨ Replaces s₀ cmd) :
    Shift s₀ cmd l (l.pruned isClosed)
  | opens {l : Link} {t : TransportId} (command : cmd = .transport t .opened)
    (live : s₀.IsLive t) (established : Nat) : Shift s₀ cmd l { l with
      closeWasClean := false
      established := established
      reconnectTimer := l.reconnectTimer.reset }
  | schedules {l : Link} (cause : Retries s₀ cmd l) :
    Shift s₀ cmd l { l with reconnectTimer := l.reconnectTimer.schedule }
  | fires {l : Link} {generation : Nat} {timer : BackoffTimer}
    (command : cmd = .timer (.reconnect generation))
    (fires : l.reconnectTimer.fire generation = some timer) :
    Shift s₀ cmd l { l with reconnectTimer := timer }
  | turns {l : Link} (command : cmd.disconnects = true) : Shift s₀ cmd l l.turned
  | pauses {l : Link} (command : cmd = .pause) (conn : l.conn.isSome = true) :
    Shift s₀ cmd l { l with awaitingResume := some l.connectClock }
  | resumes {l : Link} (command : cmd = .resume) :
    Shift s₀ cmd l { l with awaitingResume := none }
  | loses {l : Link} (seeks : Seeks s₀ cmd .scheduleReconnect) :
    Shift s₀ cmd l { l with closeWasClean := false }
  | begins {l : Link} {k : Continuation} {t : Teardown} {c : Connection} (seeks : Seeks s₀ cmd k)
    (live : s₀.conn = some c) (conn : l.conn = some c) (number : t.number = l.nextTeardown)
    (continuation : t.continuation = k) (clock : t.clock = l.connectClock) :
    Shift s₀ cmd l { l with teardown := some t, nextTeardown := l.nextTeardown + 1 }
  /-- A teardown in flight is dropped where there is no connection any more. -/
  | drops {l : Link} {k : Continuation} (seeks : Seeks s₀ cmd k) (vacant : l.conn = none) :
    Shift s₀ cmd l { l with teardown := none }
  | looks {l : Link} {t t' : Teardown} (inFlight : l.teardown = some t)
    (number : t'.number = t.number) (continuation : t'.continuation = t.continuation)
    (clock : t'.clock = t.clock) :
    Shift s₀ cmd l { l with teardown := some t' }
  /-- A teardown asks the transport to close. -/
  | closes {l : Link} {t : Teardown} {c : Connection} (inFlight : l.teardown = some t)
    (conn : l.conn = some c) (code : Option Nat) (reason : Option String) :
    Shift s₀ cmd l { l with dealings := l.dealings ++ [.close c.transport code reason] }
  | finishes {l : Link} {t : Teardown} (inFlight : l.teardown = some t)
    (continues : Continues s₀ cmd t.continuation) :
    Shift s₀ cmd l { l with teardown := none }.dropped
  | readies {l : Link} (summons : Summons s₀ cmd l) (config : Config) : Shift s₀ cmd l { l with
      config := config, connectClock := l.connectClock + 1, closeWasClean := false }
  | connects {l : Link} {request : OpenRequest} {c : Connection} (summons : Summons s₀ cmd l)
    (vacant : l.conn = none) (number : request.transport = l.nextTransport)
    (transport : c.transport = l.nextTransport)
    (skips : c.skipHeartbeat = l.factory.skipHeartbeat) : Shift s₀ cmd l { l with
      nextTransport := l.nextTransport + 1
      conn := some c
      dealings := l.dealings ++ [.open request] }
  | retires {l : Link} (replaces : Replaces s₀ cmd) : Shift s₀ cmd l l.turned.parted
  | replaces {l : Link} (replaces : Replaces s₀ cmd) (factory : Factory)
    (chosen : cmd = .replaceTransport factory ∨ s₀.fallback? cmd = some factory)
    (vacant : l.conn = none) (due : l.heartbeatTimer = s₀.heartbeatTimer)
    (pending : l.pendingHeartbeat = s₀.pendingHeartbeat) :
    Shift s₀ cmd l { l with factory := factory }
  /-- All is over. -/
  | ends {l : Link} {es : List Effect} (command : cmd = .shutdown) (due timeout : TimerSlot)
    (silent : ∀ request, .open request ∉ es) (disarmed : due.armed = false ∧ timeout.armed = false) :
    Shift s₀ cmd l { l with
      conn := none
      retired := []
      heartbeatTimer := due
      heartbeatTimeout := timeout
      reconnectTimer := l.reconnectTimer.reset
      teardown := none
      dealings := l.dealings ++ es }

/-- Any number of shifts. -/
abbrev Shifts (s₀ : Socket (Recorded ω)) (cmd : Command) : Link → Link → Prop :=
  Relation.ReflTransGen (Shift s₀ cmd)

variable {s s₀ t : Socket (Recorded ω)} {cmd : Command} {k : Continuation}

theorem Shifts.of_eq (h : t.link = s.link) : Shifts s₀ cmd s.link t.link := by
  rw [h]

/-! ### Connecting -/

theorem shifts_openTransport (hsummons : Summons s₀ cmd s.link) (hvacant : s.conn = none)
    (url : String) : Shifts s₀ cmd s.link (s.openTransport url).link :=
  .single (.connects hsummons hvacant rfl rfl rfl)

theorem shifts_connect (hsummons : Summons s₀ cmd s.link) :
    Shifts s₀ cmd s.link s.connect.link := by
  unfold connect
  split
  · exact .refl
  · rename_i hconn
    have hvacant : s.conn = none := by simpa using hconn
    rcases s.config.params.resolve with ⟨value, params⟩
    dsimp only
    set s₁ : Socket (Recorded ω) := { s.tick with
      closeWasClean := false, config := { s.config with params := params } } with hs₁
    have hready : Shifts s₀ cmd s.link s₁.link := .single (.readies hsummons _)
    split
    · exact hready.trans (shifts_openTransport (s := s₁) hsummons hvacant _)
    · exact hready.trans (Shifts.of_eq (link_report _ _))

/-! ### Teardown -/

theorem link_notifyAll (s : Socket (Recorded ω)) (tickets : List Ticket) :
    (s.notifyAll tickets).link = s.link :=
  link_performAll s (by simp [Effect.concernsTransport])

theorem shifts_continueWith (hk : Continues s₀ cmd k) (hdone : s.teardown = none) (clock : Nat) :
    Shifts s₀ cmd s.link (s.continueWith k clock).link := by
  cases k with
  | connect =>
    simp only [continueWith]
    split
    · exact shifts_connect (.inr ⟨hk, hdone⟩)
    · exact .refl
  | scheduleReconnect =>
    simp only [continueWith]
    split
    · exact .single (.schedules (.inr hk))
    · exact .refl
  | notify ticket => exact .of_eq (link_perform_eq s rfl)
  | nothing => exact .refl

theorem link_dropConnection (s : Socket (Recorded ω)) : s.dropConnection.link = s.link.dropped := by
  unfold dropConnection
  cases hconn : s.conn with
  | none => simp [Link.dropped, link, hconn]
  | some c => simp only [Link.dropped, link, hconn]; rfl

theorem teardown_dropped (l : Link) : l.dropped.teardown = l.teardown := by
  unfold Link.dropped
  split <;> rfl

/-- What is left of a teardown when it is done. -/
theorem link_dropConnection_notifyAll (s : Socket (Recorded ω)) (tickets : List Ticket) :
    (({ s with teardown := none }.dropConnection).notifyAll tickets).link =
      { s.link with teardown := none }.dropped :=
  (link_notifyAll _ _).trans (link_dropConnection { s with teardown := none })

theorem shifts_finishTeardown {t : Teardown} (ht : s.teardown = some t)
    (hover : Continues s₀ cmd t.continuation) :
    Shifts s₀ cmd s.link (s.finishTeardown t).link := by
  have hdropped := link_dropConnection_notifyAll s t.waiters
  have hfinish : Shift s₀ cmd s.link { s.link with teardown := none }.dropped := .finishes ht hover
  rw [← hdropped] at hfinish
  refine .head hfinish (shifts_continueWith hover ?_ t.clock)
  exact (congrArg Link.teardown hdropped).trans (teardown_dropped _)

/-- A look at the transport; only one that waits for the close may be the last. -/
theorem shifts_stepTeardown {t : Teardown} (ht : s.teardown = some t)
    (hover : t.phase = .awaitClosed → Continues s₀ cmd t.continuation) :
    Shifts s₀ cmd s.link (s.stepTeardown t).link := by
  unfold stepTeardown
  split
  · split
    · exact .single (.looks ht rfl rfl rfl)
    · set t' : Teardown := { t with phase := .awaitClosed, tries := 1 } with ht'
      have hlook : Shift s₀ cmd s.link (s.awaitTeardown t' 0).link := .looks ht rfl rfl rfl
      refine .head hlook ?_
      unfold closeConnection
      split
      · exact .refl
      · rename_i c hconn
        have hflight : (s.awaitTeardown t' 0).link.teardown =
            some { t' with slot := t'.slot.arm } := rfl
        exact .single (.closes hflight hconn t.code _)
  · rename_i hphase
    split
    · exact .single (.looks ht rfl rfl rfl)
    · exact shifts_finishTeardown ht (hover hphase)

theorem shifts_teardownTimeout (s : Socket (Recorded ω)) (number generation : Nat) :
    Shifts s (.timer (.teardown number generation)) s.link
      (s.teardownTimeout number generation).link := by
  unfold teardownTimeout
  split
  · exact .refl
  · rename_i t ht
    split
    · rename_i hnumber
      split
      · rename_i slot _
        have hlook : Shift s (.timer (.teardown number generation)) s.link
            { s.link with teardown := some { t with slot := slot } } := .looks ht rfl rfl rfl
        refine .head hlook (shifts_stepTeardown (s := { s with
          teardown := some { t with slot := slot } }) rfl fun _ => ?_)
        rw [← hnumber]
        exact .elapsed ht
      · exact .refl
    · exact .refl

/-- A teardown begins; where there is no connection the socket goes on at once. -/
theorem shifts_beginTeardown (hseeks : Seeks s₀ cmd k) (hconn : s.conn = s₀.conn)
    (code : Option Nat) (reason : Option String) :
    Shifts s₀ cmd s.link (s.beginTeardown code reason k).link := by
  simp only [beginTeardown]
  split
  · rename_i hnone
    have hvacant : s.conn = none := by simpa using hnone
    have hdrop : Shift s₀ cmd s.link { s with teardown := none }.link := .drops hseeks hvacant
    have hnotify := link_notifyAll { s with teardown := none } s.teardownCallers
    rw [← hnotify] at hdrop
    refine .head hdrop (shifts_continueWith (.vacant hseeks (hconn ▸ hvacant)) ?_ _)
    exact congrArg Link.teardown hnotify
  · rename_i hsome
    obtain ⟨c, hc⟩ : ∃ c, s.conn = some c := Option.ne_none_iff_exists'.mp (by simpa using hsome)
    set t : Teardown := ⟨s.nextTeardown, s.connectClock, code, reason, k, s.teardownCallers,
      .drainBuffer, 1, .new⟩ with ht
    have hbegin : Shift s₀ cmd s.link { s with
        teardown := some t, nextTeardown := s.nextTeardown + 1 }.link :=
      .begins hseeks (hconn ▸ hc) hc rfl rfl rfl
    exact .head hbegin (shifts_stepTeardown rfl fun hphase => by cases hphase)

/-- As long as the transport sends what it has taken, the connection stays. -/
theorem conn_stepTeardown {t : Teardown} (ht : t.phase = .drainBuffer) :
    (s.stepTeardown t).conn = s.conn := by
  unfold stepTeardown
  simp only [ht]
  split
  · rfl
  · unfold closeConnection
    split <;> rfl

theorem conn_beginTeardown (hconn : s.conn.isSome = true) (code : Option Nat)
    (reason : Option String) (k : Continuation) :
    (s.beginTeardown code reason k).conn = s.conn := by
  have hnone : s.conn.isNone = false := by simpa [Option.isNone_eq_false_iff] using hconn
  simp only [beginTeardown, hnone, Bool.false_eq_true, if_false]
  exact conn_stepTeardown rfl

theorem shifts_disconnect (hcmd : cmd.disconnects = true) (hseeks : Seeks s₀ cmd k)
    (hconn : s.conn = s₀.conn) (code : Option Nat) (reason : Option String) :
    Shifts s₀ cmd s.link (s.disconnect code reason k).link :=
  .head (.turns hcmd) (shifts_beginTeardown
    (s := { s.tick.resetReconnect with closeWasClean := true }) hseeks hconn code reason)

/-! ### Retired transports -/

/-- Effects on transports come to the dealings. -/
theorem link_performAll_deals (s : Socket (Recorded ω)) (es : List Effect) : (s.performAll es).link =
    { s.link with dealings := s.dealings ++ es.filter Effect.concernsTransport } := by
  induction es generalizing s with
  | nil => simp [performAll, link]
  | cons e es ih =>
    have hdealings : (s.perform e).dealings = s.dealings ++ [e].filter Effect.concernsTransport := rfl
    refine (ih (s.perform e)).trans ?_
    rw [hdealings, link_perform, List.append_assoc, ← List.filter_append]
    rfl

theorem link_pruneRetired (s : Socket (Recorded ω)) : s.pruneRetired.link =
    s.link.pruned fun c => Outside.readyState s.outside c.transport == .closed := by
  set isClosed := fun c : Connection => Outside.readyState s.outside c.transport == .closed
    with hclosed
  have hall : ((s.retired.filter isClosed).map fun c => Effect.release c.transport).filter
      Effect.concernsTransport = (s.retired.filter isClosed).map fun c => .release c.transport := by
    refine List.filter_eq_self.mpr fun e he => ?_
    obtain ⟨c, _, rfl⟩ := List.mem_map.mp he
    rfl
  refine (link_performAll_deals { s with
    retired := s.retired.filter fun c => !isClosed c } _).trans ?_
  rw [← hclosed, hall]
  rfl

theorem link_retire (s : Socket (Recorded ω)) : s.retire.link = s.link.parted := by
  unfold retire
  cases hconn : s.conn with
  | none => simp [Link.parted, link, hconn]
  | some c =>
    dsimp only
    rw [link_triggerErrors]
    simp only [Link.parted, link, hconn]
    rfl

/-- Retired transports are given up, the connection is retired, and another kind of transport is
put in its place. -/
theorem link_replaceTransport (s : Socket (Recorded ω)) (factory : Factory) :
    (s.replaceTransport factory).link = { (s.link.pruned fun c =>
      Outside.readyState s.outside c.transport == .closed).turned.parted with
        factory := factory } := by
  have hretire := link_retire { s.tick.resetReconnect with
    closeWasClean := true, sendBuffer := [] }.pruneRetired
  rw [link_pruneRetired] at hretire
  exact congrArg (fun l : Link => { l with factory := factory }) hretire

theorem teardown_parted (l : Link) : l.parted.teardown = l.teardown := by
  unfold Link.parted
  split <;> rfl

theorem teardown_replaceTransport (s : Socket (Recorded ω)) (factory : Factory) :
    (s.replaceTransport factory).teardown = s.teardown :=
  (congrArg Link.teardown (link_replaceTransport s factory)).trans (teardown_parted _)

theorem shifts_replaceTransport {factory : Factory}
    (hchosen : cmd = .replaceTransport factory ∨ s₀.fallback? cmd = some factory)
    (hdue : s.heartbeatTimer = s₀.heartbeatTimer)
    (hpending : s.pendingHeartbeat = s₀.pendingHeartbeat) :
    Shifts s₀ cmd s.link (s.replaceTransport factory).link := by
  have hreplaces : Replaces s₀ cmd :=
    hchosen.imp (fun hcmd => ⟨factory, hcmd⟩) fun hfallback => ⟨factory, hfallback⟩
  rw [link_replaceTransport]
  set l := (s.link.pruned fun c => Outside.readyState s.outside c.transport == .closed).turned
  have hkept : l.parted.conn = none ∧ l.parted.heartbeatTimer = s.heartbeatTimer ∧
      l.parted.pendingHeartbeat = s.pendingHeartbeat := by
    unfold Link.parted
    split
    · exact ⟨‹_›, rfl, rfl⟩
    · exact ⟨rfl, rfl, rfl⟩
  obtain ⟨hvacant, hdue', hpending'⟩ := hkept
  exact ((Relation.ReflTransGen.single (.prunes _ _ (.inr hreplaces))).tail (.retires hreplaces)).tail
    (.replaces hreplaces factory hchosen hvacant (hdue'.trans hdue) (hpending'.trans hpending))

/-! ### Signs of life -/

theorem shifts_restartHeartbeat
    (hcause : (∃ c, s.conn = some c ∧ c.skipHeartbeat = false) ∨ s.pendingHeartbeat.isSome = true) :
    Shifts s₀ cmd s.link s.restartHeartbeat.link :=
  .single (.beats s.link _ _ _ (.restarts rfl hcause))

theorem shifts_resetHeartbeat (hconn : s.conn.isSome = true) :
    Shifts s₀ cmd s.link s.resetHeartbeat.link := by
  unfold resetHeartbeat
  split
  · rename_i c hc
    split
    · exact .refl
    · exact shifts_restartHeartbeat (.inl ⟨c, hc, by simpa using ‹¬c.skipHeartbeat = true›⟩)
  · rename_i hvacant
    rw [hvacant] at hconn
    cases hconn

theorem shifts_sendHeartbeat {generation : Nat} (hcmd : cmd = .timer (.heartbeatDue generation))
    (hdue : s₀.heartbeatTimer.armed = true) (hfactory : s.factory = s₀.factory) :
    Shifts s₀ cmd s.link s.sendHeartbeat.link := by
  unfold sendHeartbeat
  split
  · exact .refl
  · set s₁ : Socket (Recorded ω) := { s.drawRef.2 with pendingHeartbeat := some s.drawRef.1 }
    have hsent : (s₁.pushMessage .socket (.heartbeat s.drawRef.1)).armHeartbeatTimeout.link =
        { s₁.link with heartbeatTimeout := s.heartbeatTimeout.arm } := by
      have hkept : (s₁.pushMessage .socket (.heartbeat s.drawRef.1)).link = s₁.link :=
        link_pushMessage _ _ _
      rw [← hkept]
      exact congrArg (fun slot : TimerSlot => { (s₁.pushMessage .socket
        (.heartbeat s.drawRef.1)).link with heartbeatTimeout := slot.arm })
        (congrArg Link.heartbeatTimeout hkept)
    dsimp only
    rw [hsent]
    exact .single (.beats s.link _ _ _ (.issues hcmd hdue hfactory))

theorem shifts_heartbeatDue (s : Socket (Recorded ω)) (generation : Nat) :
    Shifts s (.timer (.heartbeatDue generation)) s.link (s.heartbeatDue generation).link := by
  unfold heartbeatDue
  split
  · rename_i timer hdue
    obtain ⟨harmed, _, rfl⟩ := TimerSlot.accept_eq_some_iff.mp hdue
    set s₁ : Socket (Recorded ω) := { s with heartbeatTimer := s.heartbeatTimer.cancel }
    have hbeat : Shift s (.timer (.heartbeatDue generation)) s.link s₁.link :=
      .beats s.link _ _ _ (.subsides (.inr rfl) (.inl rfl) (.inl rfl))
    exact .head hbeat (shifts_sendHeartbeat rfl harmed rfl)
  · exact .refl

theorem shifts_heartbeatTimeoutDue (s : Socket (Recorded ω)) (generation : Nat) :
    Shifts s (.timer (.heartbeatTimeout generation)) s.link
      (s.heartbeatTimeoutDue generation).link := by
  unfold heartbeatTimeoutDue
  split
  · exact .refl
  · rename_i timer hlate
    dsimp only
    split
    · rename_i hawaited
      have hseeks : Seeks s (.timer (.heartbeatTimeout generation)) .scheduleReconnect :=
        .loses hlate hawaited
      set s₁ : Socket (Recorded ω) := { s with heartbeatTimeout := timer, pendingHeartbeat := none }
      have hbeats : Shift s (.timer (.heartbeatTimeout generation)) s.link s₁.triggerErrors.link := by
        obtain ⟨_, _, rfl⟩ := TimerSlot.accept_eq_some_iff.mp hlate
        rw [link_triggerErrors]
        exact .beats s.link _ _ _ (.subsides (.inl rfl) (.inr rfl) (.inr rfl))
      refine .head hbeats (.head (.loses hseeks) (shifts_beginTeardown
        (s := { s₁.triggerErrors with closeWasClean := false }) hseeks ?_ _ _))
      exact congrArg Link.conn (link_triggerErrors s₁)
    · obtain ⟨_, _, rfl⟩ := TimerSlot.accept_eq_some_iff.mp hlate
      exact .single (.beats s.link _ _ _ (.subsides (.inl rfl) (.inr rfl) (.inl rfl)))

/-! ### What transports report -/

theorem shifts_connectionOpened {t : TransportId} (hcmd : cmd = .transport t .opened)
    (hlive : s₀.IsLive t) (hconn : s.conn.isSome = true) :
    Shifts s₀ cmd s.link s.connectionOpened.link := by
  set s₁ : Socket (Recorded ω) := { s with
    closeWasClean := false, established := min (s.established + 1) attemptLimit } with hs₁
  have hopens : Shift s₀ cmd s.link s₁.flush.resetReconnect.link := by
    have hflush : s₁.flush.resetReconnect.link =
        { s₁.link with reconnectTimer := s₁.link.reconnectTimer.reset } := by
      rw [← link_flush s₁]
      rfl
    rw [hflush]
    exact .opens hcmd hlive _
  have hconn₁ : s₁.flush.resetReconnect.conn.isSome = true :=
    (congrArg (fun l : Link => l.conn.isSome) (link_flush s₁)).trans hconn
  refine .head hopens ((shifts_resetHeartbeat hconn₁).trans (Shifts.of_eq ?_))
  exact link_foldl link_runOnOpen _ _

theorem shifts_connectionClosed {t : TransportId} {event : CloseEvent}
    (hcmd : cmd = .transport t (.closed event)) :
    Shifts s₀ cmd s.link (s.connectionClosed event).link := by
  have hclear : Shift s₀ cmd s.link s.triggerErrors.clearHeartbeats.link := by
    have hlink : s.triggerErrors.clearHeartbeats.link = { s.link with
        heartbeatTimer := s.link.heartbeatTimer.cancel
        heartbeatTimeout := s.link.heartbeatTimeout.cancel } := by
      rw [← link_triggerErrors s]
      rfl
    rw [hlink]
    exact .beats s.link _ _ _ (.subsides (.inr rfl) (.inr rfl) (.inl rfl))
  refine .head hclear ?_
  simp only [connectionClosed]
  split
  · rename_i hunclean
    simp only [Bool.and_eq_true, Bool.not_eq_true', decide_eq_true_eq] at hunclean
    have hschedule : Shift s₀ cmd s.triggerErrors.clearHeartbeats.link
        s.triggerErrors.clearHeartbeats.scheduleReconnect.link :=
      .schedules (.inl ⟨t, event, hcmd, hunclean.1, hunclean.2⟩)
    exact .head hschedule (Shifts.of_eq (link_foldl (link_runOnClose event) _ _))
  · exact Shifts.of_eq (link_foldl (link_runOnClose event) _ _)

theorem shifts_connectionFailed {cause : TransportError}
    (hchoice : s.choice? cause = s₀.fallback? cmd) (hteardown : s.teardown = s₀.teardown)
    (hdue : s.heartbeatTimer = s₀.heartbeatTimer)
    (hpending : s.pendingHeartbeat = s₀.pendingHeartbeat) :
    Shifts s₀ cmd s.link (s.connectionFailed cause).link := by
  have hlink := link_runOnErrors (.transport cause) s.callbacks.onError.refs s.errorContext s
  unfold choice? at hchoice
  simp only [connectionFailed]
  rcases hrun : s.callbacks.onError.refs.foldl (runOnError (.transport cause)) (s.errorContext, s)
    with ⟨context, s₁⟩
  rw [hrun] at hlink hchoice
  dsimp only at hlink hchoice ⊢
  have hfallback : Shifts s₀ cmd s.link (s₁.takeFallback context.fallback).link := by
    rw [← hlink]
    unfold takeFallback
    cases hf : context.fallback with
    | none => exact .refl
    | some factory =>
      have hchosen : s₀.fallback? cmd = some factory := hchoice.symm.trans hf
      have hreplace : Shifts s₀ cmd s₁.link (s₁.replaceTransport factory).link :=
        shifts_replaceTransport (.inr hchosen) ((congrArg Link.heartbeatTimer hlink).trans hdue)
          ((congrArg Link.pendingHeartbeat hlink).trans hpending)
      refine hreplace.trans (shifts_connect (.inl ⟨.fallback hchosen, ?_⟩))
      exact (teardown_replaceTransport s₁ factory).trans
        ((congrArg Link.teardown hlink).trans hteardown)
  split
  · exact hfallback.trans (Shifts.of_eq (link_triggerErrors _))
  · exact hfallback

theorem shifts_messageReceived (s : Socket (Recorded ω)) (m : Message) :
    Shifts s₀ cmd s.link (s.messageReceived m).link := by
  set s₁ := if s.answersHeartbeat m then s.acknowledgeHeartbeat else s with hs₁
  have hbeat : Shifts s₀ cmd s.link s₁.link := by
    rw [hs₁]
    split
    · rename_i hanswers
      simp only [answersHeartbeat, Bool.and_eq_true, beq_iff_eq] at hanswers
      exact shifts_restartHeartbeat (.inr (hanswers.2 ▸ hanswers.1))
    · exact .refl
  have hdeliver := link_foldl (link_deliver m) s₁.order s₁
  exact hbeat.trans (Shifts.of_eq ((link_foldl (link_runOnMessage m) _ _).trans hdeliver))

theorem shifts_transportEvent (s : Socket (Recorded ω)) (t : TransportId) (event : TransportEvent) :
    Shifts s (.transport t event) s.link (s.transportEvent t event).link := by
  have hprune : Shifts s (.transport t event) s.link s.pruneRetired.link := by
    rw [link_pruneRetired]
    exact .single (.prunes _ _ (.inl ⟨t, event, rfl⟩))
  have hconn : s.pruneRetired.conn = s.conn := congrArg Link.conn (link_pruneRetired s)
  refine hprune.trans ?_
  unfold transportEvent
  dsimp only
  split
  · exact .refl
  · rename_i c hc
    split
    · rename_i ht
      have hlive : s.IsLive t := ⟨c, hconn ▸ hc, ht⟩
      cases event with
      | opened => exact shifts_connectionOpened rfl hlive (hc ▸ rfl)
      | failed cause =>
        refine shifts_connectionFailed ?_ (congrArg Link.teardown (link_pruneRetired s))
          (congrArg Link.heartbeatTimer (link_pruneRetired s))
          (congrArg Link.pendingHeartbeat (link_pruneRetired s))
        simp only [fallback?, ← hconn, hc, ht, if_true]
      | received frame =>
        dsimp only
        unfold frameReceived
        split
        · exact shifts_messageReceived _ _
        · exact Shifts.of_eq (link_report _ _)
      | closed event => exact shifts_connectionClosed rfl
    · exact .refl

/-! ### Timers and the end -/

theorem shifts_timerEvent (s : Socket (Recorded ω)) (event : TimerEvent) :
    Shifts s (.timer event) s.link (s.timerEvent event).link := by
  cases event with
  | heartbeatDue generation => exact shifts_heartbeatDue s generation
  | heartbeatTimeout generation => exact shifts_heartbeatTimeoutDue s generation
  | reconnect generation =>
    simp only [timerEvent]
    split
    · rename_i timer hfires
      have hfire : Shift s (.timer (.reconnect generation)) s.link
          { s with reconnectTimer := timer }.link := .fires rfl hfires
      exact .head hfire (shifts_beginTeardown (s := { s with reconnectTimer := timer })
        (.reconnects hfires) rfl none none)
    · exact .refl
  | rejoin c generation => exact Shifts.of_eq (link_rejoinTimeout s c generation)
  | pushTimeout c p generation => exact Shifts.of_eq (link_pushTimeout s c p generation)
  | teardown number generation => exact shifts_teardownTimeout s number generation

/-- What is left to do to transports when a socket ends: nothing is opened. -/
theorem link_shutdown (s : Socket (Recorded ω)) : ∃ due timeout es,
    (∀ request, .open request ∉ es) ∧ (due.armed = false ∧ timeout.armed = false) ∧
    s.shutdown.link = { s.link with
      conn := none
      retired := []
      heartbeatTimer := due
      heartbeatTimeout := timeout
      reconnectTimer := s.reconnectTimer.reset
      teardown := none
      dealings := s.dealings ++ es } := by
  have hretired : ∀ (l : List Connection) (v : Socket (Recorded ω)),
      (l.foldl abandonRetired v).link = { v.link with
        dealings := v.dealings ++ l.map fun c => .release c.transport } := by
    intro l
    induction l with
    | nil => simp [link]
    | cons c l ih =>
      intro v
      have hstep : (v.abandonRetired c).dealings = v.dealings ++ [.release c.transport] := rfl
      refine (ih (v.abandonRetired c)).trans ?_
      rw [hstep, List.append_assoc]
      rfl
  set s₁ := { s with teardown := none }.clearHeartbeats.resetReconnect with hs₁
  have hconn : ∃ es, (∀ request, Effect.open request ∉ es) ∧ s₁.abandonConnection.link =
      { s₁.link with conn := none, dealings := s.dealings ++ es } := by
    unfold abandonConnection
    split
    · rename_i hnone
      have hself : s₁.link = { s₁.link with conn := s₁.conn, dealings := s.dealings ++ [] } := by
        rw [List.append_nil]
        rfl
      rw [hnone] at hself
      exact ⟨[], by simp, hself⟩
    · rename_i c _
      exact ⟨[.close c.transport (some CloseEvent.normalCode) none, .release c.transport], by simp,
        link_performAll_deals _ _⟩
  obtain ⟨es, hes, hlink⟩ := hconn
  refine ⟨s.heartbeatTimer.cancel, s.heartbeatTimeout.cancel,
    es ++ s₁.abandonConnection.retired.map fun c => .release c.transport, ?_, ⟨rfl, rfl⟩, ?_⟩
  · intro request hmem
    rcases List.mem_append.mp hmem with hmem | hmem
    · exact hes request hmem
    · obtain ⟨c, _, heq⟩ := List.mem_map.mp hmem
      cases heq
  · have hdealings : s₁.abandonConnection.dealings = s.dealings ++ es := congrArg Link.dealings hlink
    have hrest := hretired s₁.abandonConnection.retired { s₁.abandonConnection with retired := [] }
    rw [← List.append_assoc, ← hdealings]
    refine hrest.trans ?_
    have hbase : ({ s₁.abandonConnection with retired := [] } : Socket (Recorded ω)).link =
        { s₁.abandonConnection.link with retired := [] } := rfl
    rw [hbase, hlink]
    rfl

/-- Every command is carried out in shifts of the link. -/
theorem shifts_handle (s : Socket (Recorded ω)) (cmd : Command) :
    Shifts s cmd s.link (s.handle cmd).link := by
  cases cmd with
  | connect =>
    by_cases hconn : s.conn = none
    · exact shifts_connect (.inl ⟨.connect hconn, rfl⟩)
    · refine Shifts.of_eq ?_
      simp only [handle, connect, Option.isSome_iff_ne_none.mpr hconn, if_true]
  | disconnect code reason done => exact shifts_disconnect rfl (.disconnects code reason done) rfl _ _
  | replaceTransport factory =>
    exact shifts_replaceTransport (.inl rfl) rfl rfl
  | pause =>
    simp only [handle, pause]
    split
    · rename_i hconn
      set s₁ := s.disconnect none none .nothing with hs₁
      have hkept : s₁.conn.isSome = true := by
        have hturned := conn_beginTeardown
          (s := { s.tick.resetReconnect with closeWasClean := true }) hconn none none .nothing
        exact (congrArg Option.isSome hturned).trans hconn
      have hpause : Shift s .pause s₁.link
          { s₁ with awaitingResume := some s₁.connectClock }.link := .pauses rfl hkept
      exact (shifts_disconnect rfl .pauses rfl none none).tail hpause
    · exact .refl
  | resume =>
    simp only [handle, resume]
    split
    · rename_i hpaused
      have hresume : Shift s .resume s.link { s with awaitingResume := none }.link := .resumes rfl
      by_cases hconn : s.conn = none
      · exact .head hresume (shifts_connect (s := { s with awaitingResume := none })
          (.inl ⟨.resume hconn hpaused, rfl⟩))
      · refine .head hresume (Shifts.of_eq ?_)
        simp only [connect, Option.isSome_iff_ne_none.mpr hconn, if_true]
    · exact .refl
  | register occasion ref callback => exact .refl
  | off refs => exact Shifts.of_eq (link_off s refs)
  | ping ticket =>
    refine Shifts.of_eq ?_
    simp only [handle, ping]
    split
    · exact link_perform_eq s rfl
    · exact (link_drawRef _).trans (link_pushMessage s.drawRef.2 _ _)
  | askReadyState ticket => exact Shifts.of_eq (link_perform_eq s rfl)
  | askReconnectTries ticket => exact Shifts.of_eq (link_perform_eq s rfl)
  | askEstablished ticket => exact Shifts.of_eq (link_perform_eq s rfl)
  | createChannel c topic params => exact .refl
  | channel c op => exact Shifts.of_eq (link_channelOp s c op)
  | dropChannel c => exact Shifts.of_eq (link_dropChannel s c)
  | transport t event => exact shifts_transportEvent s t event
  | timer event => exact shifts_timerEvent s event
  | shutdown =>
    obtain ⟨due, timeout, es, hes, hdisarmed, hlink⟩ := link_shutdown s
    simp only [handle]
    rw [hlink]
    exact .single (.ends rfl due timeout hes hdisarmed)

/-! ### Runs -/

/-- What each shift keeps of the link is kept by all of them. -/
theorem Shifts.keeps {I : Link → Prop} {l l' : Link} (h : Shifts s cmd l l') (hl : I l)
    (step : ∀ {l l'}, Shift s cmd l l' → I l → I l') : I l' := by
  induction h with
  | refl => exact hl
  | tail _ shift ih => exact step shift ih

/-- What each shift keeps of the link, as long as commands are admitted, is kept by a run. -/
theorem Run.keeps_link {admits : Socket (Recorded ω) → Command → Prop} {I : Link → Prop}
    (h : Run admits s t) (hI : I s.link)
    (step : ∀ {u : Socket (Recorded ω)} {cmd l l'}, I u.link → admits u cmd ∨ cmd = .shutdown →
      Shift u cmd l l' → I l → I l') : I t.link := by
  have handles : ∀ (u : Socket (Recorded ω)) (cmd : Command), I u.link →
      admits u cmd ∨ cmd = .shutdown → I (u.handle cmd).link :=
    fun u cmd hu hcmd => (shifts_handle u cmd).keeps hu fun shift hl => step hu hcmd shift hl
  induction h with
  | refl => exact hI
  | tail run last ih =>
    cases last with
    | surroundings acts o => exact ih
    | @take cmd x next admitted => exact handles _ cmd ih (.inl admitted)
    | abandon => exact handles _ .shutdown ih (.inr rfl)

end Socket

end Switchboard
