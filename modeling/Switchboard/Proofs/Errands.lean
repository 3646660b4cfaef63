import Switchboard.Proofs.Watched

/-!
# What a command does to the connection and for its callers

Who asks for a disconnect leaves a slot with the socket and waits to be told.  While the socket carries
a command out, slots are in its hands: the one that came with the command, and those of a teardown whose
place it takes.  It puts them into a new teardown, or it tells their owners.

A command is carried out in errands.  Only some of them touch the connection, and they say how: a
transport is opened, given up, or left to close by itself.  A caller is told only where there is no
connection.

Main definitions

* `Command.caller?`, `Continuation.caller?`: who waits for a disconnect;
* `Custody`: a socket and the slots that are in its hands;
* `Socket.Errand`, `Socket.Errands`.

Main results

* `Socket.errands_handle`: every command but the end is carried out in errands, and leaves no slot in
  the hands of the socket.
-/

set_option autoImplicit false

namespace Switchboard

/-! ### Slots -/

/-- Who waits for the disconnect that a command asks for. -/
def Command.caller? : Command → Option Ticket
  | .disconnect _ _ done => done
  | _ => none

/-- Who is told after a teardown. -/
def Continuation.caller? : Continuation → Option Ticket
  | .notify ticket => some ticket
  | .connect | .scheduleReconnect | .nothing => none

theorem Teardown.callers_eq (t : Teardown) :
    t.callers = t.waiters ++ t.continuation.caller?.toList := by
  unfold callers Continuation.caller?
  split <;> simp_all

/-- A socket, and the slots that are in its hands while it carries out a command. -/
structure Custody (ω : Type) where
  hand : List Ticket
  socket : Socket ω

namespace Socket

variable {ω : Type} [Outside ω]

/-! ### Errands -/

/-- The connection, the transports that are listened to, the slots of the teardown in flight and the
surroundings stay. -/
structure Beside (s t : Socket ω) : Prop where
  conn : t.conn = s.conn
  nextTransport : t.nextTransport = s.nextTransport
  attached : t.exchange.attached = s.exchange.attached
  callers : t.teardownCallers = s.teardownCallers
  outside : t.outside = s.outside

/-- What a socket does in one go while it carries out a command. -/
inductive Errand : Custody ω → Custody ω → Prop
  | stroke {hand : List Ticket} {s t : Socket ω} (stroke : Stroke everyone s t) :
    Errand ⟨hand, s⟩ ⟨hand, t⟩
  | beside {hand : List Ticket} {s t : Socket ω} (beside : Beside s t) : Errand ⟨hand, s⟩ ⟨hand, t⟩
  | sorts {hand hand' : List Ticket} (perm : hand.Perm hand') (s : Socket ω) :
    Errand ⟨hand, s⟩ ⟨hand', s⟩
  /-- The slots of the teardown in flight are taken from it. -/
  | takes (hand : List Ticket) (s : Socket ω) :
    Errand ⟨hand, s⟩ ⟨hand ++ s.teardownCallers, { s with teardown := none }⟩
  /-- A teardown begins for all whose slots are at hand. -/
  | begins {s : Socket ω} {t : Teardown} (idle : s.teardown = none) (number : Nat) :
    Errand ⟨t.callers, s⟩ ⟨[], { s with teardown := some t, nextTeardown := number }⟩
  /-- A caller is told of the disconnect. -/
  | tells {s : Socket ω} (ticket : Ticket) (hand : List Ticket) (vacant : s.conn = none) :
    Errand ⟨ticket :: hand, s⟩ ⟨hand, s.perform (.answer ticket .disconnected)⟩
  | opens {hand : List Ticket} {s : Socket ω} (vacant : s.conn = none) (url : String) :
    Errand ⟨hand, s⟩ ⟨hand, s.openTransport url⟩
  /-- The connection is given up. -/
  | drops {hand : List Ticket} {s : Socket ω} {c : Connection} (conn : s.conn = some c) :
    Errand ⟨hand, s⟩
      ⟨hand, ({ s with conn := none }.detach c.transport).perform (.release c.transport)⟩
  /-- The connection is left to close by itself. -/
  | parts {hand : List Ticket} {s : Socket ω} {c : Connection} (conn : s.conn = some c) :
    Errand ⟨hand, s⟩
      ⟨hand, ({ s with conn := none }.detach c.transport).perform (.close c.transport none none)⟩
  /-- The transport of the connection is asked to close. -/
  | asks {hand : List Ticket} {s : Socket ω} {c : Connection} (conn : s.conn = some c)
    (code : Option Nat) (reason : Option String) :
    Errand ⟨hand, s⟩ ⟨hand, s.perform (.close c.transport code reason)⟩
  /-- A retired transport is given up. -/
  | prunes {hand : List Ticket} (s : Socket ω) (t : TransportId) :
    Errand ⟨hand, s⟩ ⟨hand, s.perform (.release t)⟩

/-- Any number of errands. -/
abbrev Errands : Custody ω → Custody ω → Prop := Relation.ReflTransGen Errand

variable {s t : Socket ω} {hand : List Ticket}

theorem Strokes.errands (h : Strokes everyone s t) : Errands ⟨hand, s⟩ ⟨hand, t⟩ := by
  induction h with
  | refl => exact .refl
  | tail _ stroke ih => exact ih.tail (.stroke stroke)

theorem Beside.errands (h : Beside s t) : Errands ⟨hand, s⟩ ⟨hand, t⟩ := .single (.beside h)

/-! ### Transports -/

theorem errands_connect (s : Socket ω) : Errands ⟨hand, s⟩ ⟨hand, s.connect⟩ := by
  unfold connect
  split
  · exact .refl
  · rename_i hconn
    have hvacant : s.conn = none := by simpa using hconn
    rcases s.config.params.resolve with ⟨value, params⟩
    dsimp only
    set s₁ : Socket ω := { s.tick with
      closeWasClean := false, config := { s.config with params := params } } with hs₁
    have hready : Errands ⟨hand, s⟩ ⟨hand, s₁⟩ := Beside.errands ⟨rfl, rfl, rfl, rfl, rfl⟩
    split
    · exact hready.tail (.opens (s := s₁) hvacant _)
    · exact hready.trans (strokes_report s₁ _).errands

theorem errands_pruneRetired (s : Socket ω) : Errands ⟨hand, s⟩ ⟨hand, s.pruneRetired⟩ := by
  have hreleases : ∀ (l : List Connection) (v : Socket ω),
      Errands ⟨hand, v⟩ ⟨hand, v.performAll (l.map fun c => .release c.transport)⟩ := by
    intro l
    induction l with
    | nil => exact fun _ => .refl
    | cons c l ih => exact fun v => .head (.prunes v c.transport) (ih (v.perform (.release _)))
  refine .trans (Beside.errands ?_) (hreleases _ _)
  exact ⟨rfl, rfl, rfl, rfl, rfl⟩

theorem errands_retire (s : Socket ω) : Errands ⟨hand, s⟩ ⟨hand, s.retire⟩ := by
  unfold retire
  split
  · exact .refl
  · rename_i c hconn
    refine .head (.parts hconn) (.trans ?_ (strokes_triggerErrors _).errands)
    exact Beside.errands ⟨rfl, rfl, rfl, rfl, rfl⟩

theorem errands_replaceTransport (s : Socket ω) (factory : Factory) :
    Errands ⟨hand, s⟩ ⟨hand, s.replaceTransport factory⟩ := by
  set s₁ : Socket ω := { s.tick.resetReconnect with closeWasClean := true, sendBuffer := [] } with hs₁
  have hturned : Errands ⟨hand, s⟩ ⟨hand, s₁⟩ := Beside.errands ⟨rfl, rfl, rfl, rfl, rfl⟩
  refine .trans (hturned.trans ((errands_pruneRetired s₁).trans (errands_retire _))) ?_
  exact Beside.errands ⟨rfl, rfl, rfl, rfl, rfl⟩

/-! ### Teardown -/

/-- Callers whose slots are at hand are told, where there is no connection. -/
theorem errands_notifyAll (hvacant : s.conn = none) (tickets : List Ticket) :
    Errands ⟨tickets ++ hand, s⟩ ⟨hand, s.notifyAll tickets⟩ := by
  induction tickets generalizing s with
  | nil => exact .refl
  | cons ticket rest ih => exact .head (.tells ticket (rest ++ hand) hvacant) (ih hvacant)

theorem conn_performAll (s : Socket ω) (es : List Effect) : (s.performAll es).conn = s.conn := by
  rw [performAll_eq]

/-- The socket goes on after a teardown; the caller of the teardown is told. -/
theorem errands_continueWith (hvacant : s.conn = none) (k : Continuation) (clock : Nat) :
    Errands ⟨k.caller?.toList, s⟩ ⟨[], s.continueWith k clock⟩ := by
  cases k with
  | connect =>
    simp only [continueWith]
    split
    · exact errands_connect s
    · exact .refl
  | scheduleReconnect =>
    simp only [continueWith]
    split
    · exact Beside.errands ⟨rfl, rfl, rfl, rfl, rfl⟩
    · exact .refl
  | notify ticket => exact .single (.tells ticket [] hvacant)
  | nothing => exact .refl

theorem errands_dropConnection (s : Socket ω) :
    Errands ⟨hand, s⟩ ⟨hand, s.dropConnection⟩ ∧ s.dropConnection.conn = none := by
  unfold dropConnection
  split
  · exact ⟨.refl, ‹_›⟩
  · exact ⟨.single (.drops ‹_›), rfl⟩

/-- A teardown is over: its slots are taken from it, the connection is given up, and all are told. -/
theorem errands_finishTeardown {t : Teardown} (ht : s.teardownCallers = t.callers) :
    Errands ⟨[], s⟩ ⟨[], s.finishTeardown t⟩ := by
  have htakes : Errands ⟨[], s⟩ ⟨t.callers, { s with teardown := none }⟩ := by
    rw [← ht]
    exact .single (.takes [] s)
  obtain ⟨hdrops, hvacant⟩ := errands_dropConnection { s with teardown := none }
  refine htakes.trans (hdrops.trans ?_)
  rw [Teardown.callers_eq]
  refine .trans (errands_notifyAll hvacant t.waiters) (errands_continueWith ?_ _ _)
  exact (conn_performAll _ _).trans hvacant

/-- The transport is looked at; the teardown in flight keeps its slots until it is over. -/
theorem errands_stepTeardown {t : Teardown} (ht : s.teardownCallers = t.callers) :
    Errands ⟨[], s⟩ ⟨[], s.stepTeardown t⟩ := by
  have hawaits : ∀ (t' : Teardown) (delay : Nat), t'.callers = t.callers →
      Errands ⟨[], s⟩ ⟨[], s.awaitTeardown t' delay⟩ :=
    fun t' delay heq => Beside.errands ⟨rfl, rfl, rfl, heq.trans ht.symm, rfl⟩
  unfold stepTeardown
  split
  · split
    · exact hawaits _ _ rfl
    · refine (hawaits { t with phase := .awaitClosed, tries := 1 } 0 rfl).trans ?_
      unfold closeConnection
      split
      · exact .refl
      · exact .single (.asks ‹_› _ _)
  · split
    · exact hawaits _ _ rfl
    · exact errands_finishTeardown ht

theorem errands_teardownTimeout (s : Socket ω) (number generation : Nat) :
    Errands ⟨[], s⟩ ⟨[], s.teardownTimeout number generation⟩ := by
  unfold teardownTimeout
  split
  · exact .refl
  · rename_i t ht
    have hcallers : s.teardownCallers = t.callers := by simp only [teardownCallers, ht]
    split
    · split
      · rename_i slot _
        refine .trans (Beside.errands ?_) (errands_stepTeardown rfl)
        exact ⟨rfl, rfl, rfl, hcallers.symm, rfl⟩
      · exact .refl
    · exact .refl

/-- A teardown takes the slots of the one in flight; without a connection all are told at once. -/
theorem errands_beginTeardown (s : Socket ω) (code : Option Nat) (reason : Option String)
    (k : Continuation) :
    Errands ⟨k.caller?.toList, s⟩ ⟨[], s.beginTeardown code reason k⟩ := by
  have htakes : Errands ⟨k.caller?.toList, s⟩
      ⟨s.teardownCallers ++ k.caller?.toList, { s with teardown := none }⟩ :=
    .tail (.single (.takes _ s)) (.sorts List.perm_append_comm _)
  simp only [beginTeardown]
  split
  · rename_i hnone
    have hvacant : s.conn = none := by simpa using hnone
    refine htakes.trans (.trans (errands_notifyAll (s := { s with teardown := none }) hvacant _)
      (errands_continueWith ?_ _ _))
    exact (conn_performAll _ _).trans hvacant
  · set t : Teardown := ⟨s.nextTeardown, s.connectClock, code, reason, k, s.teardownCallers,
      .drainBuffer, 1, .new⟩ with ht
    have hcallers : t.callers = s.teardownCallers ++ k.caller?.toList := t.callers_eq
    rw [← hcallers] at htakes
    exact (htakes.tail (.begins rfl _)).trans (errands_stepTeardown rfl)

theorem errands_disconnect (s : Socket ω) (code : Option Nat) (reason : Option String)
    (k : Continuation) : Errands ⟨k.caller?.toList, s⟩ ⟨[], s.disconnect code reason k⟩ := by
  refine .trans (Beside.errands ?_) (errands_beginTeardown _ code reason k)
  exact ⟨rfl, rfl, rfl, rfl, rfl⟩

/-! ### Reports and timers -/

theorem errands_heartbeatTimeoutDue (s : Socket ω) (generation : Nat) :
    Errands ⟨[], s⟩ ⟨[], s.heartbeatTimeoutDue generation⟩ := by
  unfold heartbeatTimeoutDue
  split
  · exact .refl
  · rename_i timer _
    dsimp only
    split
    · set s₁ : Socket ω := { s with heartbeatTimeout := timer, pendingHeartbeat := none }
      have hlate : Errands ⟨[], s⟩ ⟨[], s₁⟩ := Beside.errands ⟨rfl, rfl, rfl, rfl, rfl⟩
      have htold : Errands ⟨[], s₁⟩ ⟨[], { s₁.triggerErrors with closeWasClean := false }⟩ :=
        .trans (strokes_triggerErrors s₁).errands (Beside.errands ⟨rfl, rfl, rfl, rfl, rfl⟩)
      exact (hlate.trans htold).trans (errands_beginTeardown _ _ _ .scheduleReconnect)
    · exact Beside.errands ⟨rfl, rfl, rfl, rfl, rfl⟩

theorem errands_connectionFailed (s : Socket ω) (cause : TransportError) :
    Errands ⟨[], s⟩ ⟨[], s.connectionFailed cause⟩ := by
  have hran := strokes_runOnErrors (.transport cause) s.callbacks.onError.refs s.errorContext s
  simp only [connectionFailed]
  rcases hrun : s.callbacks.onError.refs.foldl (runOnError (.transport cause)) (s.errorContext, s)
    with ⟨context, s₁⟩
  rw [hrun] at hran
  dsimp only at hran ⊢
  have hfallback : Errands ⟨[], s⟩ ⟨[], s₁.takeFallback context.fallback⟩ := by
    refine hran.errands.trans ?_
    unfold takeFallback
    split
    · exact (errands_replaceTransport s₁ _).trans (errands_connect _)
    · exact .refl
  split
  · exact hfallback.trans (strokes_triggerErrors _).errands
  · exact hfallback

theorem errands_transportEvent (s : Socket ω) (t : TransportId) (event : TransportEvent) :
    Errands ⟨[], s⟩ ⟨[], s.transportEvent t event⟩ := by
  refine (errands_pruneRetired s).trans ?_
  unfold transportEvent
  dsimp only
  split
  · exact .refl
  · split
    · cases event with
      | opened => exact (strokes_connectionOpened _).errands
      | failed cause => exact errands_connectionFailed _ cause
      | received frame =>
        dsimp only
        unfold frameReceived
        split
        · exact ((strokes_messageReceived _ _).mono fun _ _ => trivial).errands
        · exact (strokes_report _ _).errands
      | closed event => exact (strokes_connectionClosed _ event).errands
    · exact .refl

/-! ### Commands -/

theorem errands_channelOp (s : Socket ω) (c : ChannelId) (op : ChannelOp) :
    Errands ⟨[], s⟩ ⟨[], s.channelOp c op⟩ := by
  unfold channelOp
  split
  · cases op with
    | join timeout =>
      refine .trans (Beside.errands ?_) (strokes_rejoin _ c).errands
      exact ⟨rfl, rfl, rfl, rfl, rfl⟩
    | push p event payload timeout => exact (strokes_push trivial s p event payload timeout).errands
    | leave p timeout => exact (strokes_leave trivial s p timeout false).errands
    | bind binding event listener => exact Beside.errands ⟨rfl, rfl, rfl, rfl, rfl⟩
    | unbind event binding => exact Beside.errands ⟨rfl, rfl, rfl, rfl, rfl⟩
    | setHook hook => exact Beside.errands ⟨rfl, rfl, rfl, rfl, rfl⟩
    | receive p status callback => exact (strokes_receive trivial s p status callback).errands
    | awaitReply p ticket => exact (strokes_awaitReply trivial s p ticket).errands
    | release p => exact (strokes_release trivial s p).errands
    | askState ticket => exact (strokes_tell (fun _ _ => .of_none rfl rfl) s c ticket).errands
    | askJoinRef ticket => exact (strokes_tell (fun _ _ => .of_none rfl rfl) s c ticket).errands
    | askRejoinTries ticket => exact (strokes_tell (fun _ _ => .of_none rfl rfl) s c ticket).errands
  · split
    · exact (strokes_perform (.of_none rfl rfl) rfl s).errands
    · exact .refl

theorem errands_timerEvent (s : Socket ω) (event : TimerEvent) :
    Errands ⟨[], s⟩ ⟨[], s.timerEvent event⟩ := by
  cases event with
  | heartbeatDue generation => exact (strokes_heartbeatDue s generation).errands
  | heartbeatTimeout generation => exact errands_heartbeatTimeoutDue s generation
  | reconnect generation =>
    simp only [timerEvent]
    split
    · refine .trans (Beside.errands ?_) (errands_beginTeardown _ none none .connect)
      exact ⟨rfl, rfl, rfl, rfl, rfl⟩
    · exact .refl
  | rejoin c generation => exact (strokes_rejoinTimeout s c generation).errands
  | pushTimeout c p generation => exact (strokes_pushTimeout trivial s p generation).errands
  | teardown number generation => exact errands_teardownTimeout s number generation

/-- Every command but the end is carried out in errands; the slot that comes with it is in the hands of
the socket at first, and in the end none is. -/
theorem errands_handle (s : Socket ω) {cmd : Command} (hcmd : cmd ≠ .shutdown) :
    Errands ⟨cmd.caller?.toList, s⟩ ⟨[], s.handle cmd⟩ := by
  cases cmd with
  | connect => exact errands_connect s
  | disconnect code reason done =>
    have hcaller : (continuationOf done).caller? = done := by cases done <;> rfl
    have h := errands_disconnect s code reason (continuationOf done)
    rwa [hcaller] at h
  | replaceTransport factory => exact errands_replaceTransport s factory
  | pause =>
    simp only [handle, pause]
    split
    · refine .trans (errands_disconnect s none none .nothing) (Beside.errands ?_)
      exact ⟨rfl, rfl, rfl, rfl, rfl⟩
    · exact .refl
  | resume =>
    simp only [handle, resume]
    split
    · refine .trans (Beside.errands ?_) (errands_connect _)
      exact ⟨rfl, rfl, rfl, rfl, rfl⟩
    · exact .refl
  | register occasion ref callback => exact Beside.errands ⟨rfl, rfl, rfl, rfl, rfl⟩
  | off refs => exact (strokes_off s refs).errands
  | ping ticket => exact (strokes_ping s ticket).errands
  | askReadyState ticket => exact (strokes_perform (.of_none rfl rfl) rfl s).errands
  | askReconnectTries ticket => exact (strokes_perform (.of_none rfl rfl) rfl s).errands
  | askEstablished ticket => exact (strokes_perform (.of_none rfl rfl) rfl s).errands
  | createChannel c topic params => exact Beside.errands ⟨rfl, rfl, rfl, rfl, rfl⟩
  | channel c op => exact errands_channelOp s c op
  | dropChannel c => exact (strokes_dropChannel trivial s).errands
  | transport t event => exact errands_transportEvent s t event
  | timer event => exact errands_timerEvent s event
  | shutdown => exact absurd rfl hcmd

/-! ### The end -/

theorem abandonRetired_foldl_eq (l : List Connection) (s : Socket ω) :
    l.foldl abandonRetired s = { s with
      exchange := (l.foldl abandonRetired s).exchange
      outside := (l.foldl abandonRetired s).outside } := by
  induction l generalizing s with
  | nil => rfl
  | cons c l ih => exact ih (s.abandonRetired c)

/-- At the end of a socket the connection and the teardown in flight are forgotten. -/
theorem vacant_shutdown (s : Socket ω) : s.shutdown.conn = none ∧ s.shutdown.teardown = none ∧
    s.shutdown.nextTransport = s.nextTransport := by
  have hconn : ∀ v : Socket ω, v.abandonConnection.conn = none ∧
      v.abandonConnection.teardown = v.teardown ∧
      v.abandonConnection.nextTransport = v.nextTransport := by
    intro v
    unfold abandonConnection
    split
    · exact ⟨‹_›, rfl, rfl⟩
    · exact ⟨rfl, rfl, rfl⟩
  unfold shutdown
  dsimp only
  rw [abandonRetired_foldl_eq]
  exact hconn _

end Socket

end Switchboard
