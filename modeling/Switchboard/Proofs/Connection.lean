import Switchboard.Proofs.Record
import Switchboard.Socket.Inbound

/-!
# What a connection does to channels

To connect, to tear down, to send signs of life and to run the callbacks of a socket leaves the
channels, the registry and the record of the pushes as they are.  Only the failure of a connection
concerns channels, and that is told to them one by one.

Main results

* `Socket.quiet_connect`, `Socket.quiet_beginTeardown`, `Socket.quiet_teardownTimeout`,
  `Socket.quiet_disconnect`, `Socket.quiet_pause`, `Socket.quiet_resume`;
* `Socket.quiet_heartbeatDue`, `Socket.quiet_ping`, `Socket.quiet_runOnMessage`.
-/

set_option autoImplicit false

namespace Switchboard

namespace Socket

variable {ω : Type}

/-! ### Timers of the socket -/

theorem quiet_scheduleReconnect (s : Socket (Recorded ω)) : Quiet s s.scheduleReconnect := by
  refine Quiet.trans ?_ (quiet_arm _ _ _)
  exact .of_eq rfl rfl rfl rfl

theorem quiet_awaitTeardown (s : Socket (Recorded ω)) (t : Teardown) (delay : Nat) :
    Quiet s (s.awaitTeardown t delay) := by
  refine Quiet.trans ?_ (quiet_arm _ _ _)
  exact .of_eq rfl rfl rfl rfl

theorem quiet_restartHeartbeat (s : Socket (Recorded ω)) : Quiet s s.restartHeartbeat := by
  refine Quiet.trans ?_ (quiet_arm _ _ _)
  exact .of_eq rfl rfl rfl rfl

theorem quiet_armHeartbeatTimeout (s : Socket (Recorded ω)) : Quiet s s.armHeartbeatTimeout := by
  refine Quiet.trans ?_ (quiet_arm _ _ _)
  exact .of_eq rfl rfl rfl rfl

theorem quiet_resetHeartbeat (s : Socket (Recorded ω)) : Quiet s s.resetHeartbeat := by
  unfold resetHeartbeat
  split
  · split
    · exact .refl s
    · exact quiet_restartHeartbeat s
  · exact quiet_restartHeartbeat s

variable [Outside ω] [Obliging ω]

/-! ### Connecting -/

theorem quiet_openTransport (s : Socket (Recorded ω)) (url : String) :
    Quiet s (s.openTransport url) := by
  have hattach : Quiet s { s with
      nextTransport := s.nextTransport + 1, exchange := s.exchange.attach s.nextTransport } :=
    ⟨rfl, rfl, (Exchange.Act.pass ..).evolves, (List.append_nil _).symm⟩
  refine (hattach.trans (quiet_perform _ (e := .open ⟨s.nextTransport, s.factory, url,
    s.config.binaryType, s.config.longPollTimeout⟩) rfl)).trans ?_
  exact .of_eq rfl rfl rfl rfl

theorem quiet_connect (s : Socket (Recorded ω)) : Quiet s s.connect := by
  unfold connect
  split
  · exact .refl s
  · rcases s.config.params.resolve with ⟨value, params⟩
    have hstart : Quiet s { s.tick with
        closeWasClean := false, config := { s.config with params := params } } :=
      .of_eq rfl rfl rfl rfl
    dsimp only
    split
    · exact hstart.trans (quiet_openTransport _ _)
    · exact hstart.trans (quiet_report _ _)

/-! ### Teardown -/

theorem quiet_notifyAll (s : Socket (Recorded ω)) (tickets : List Ticket) :
    Quiet s (s.notifyAll tickets) :=
  quiet_performAll s (by simp [Effect.concernsPush])

theorem quiet_continueWith (s : Socket (Recorded ω)) (k : Continuation) (clock : Nat) :
    Quiet s (s.continueWith k clock) := by
  unfold continueWith
  split
  · split
    · exact quiet_connect s
    · exact .refl s
  · split
    · exact quiet_scheduleReconnect s
    · exact .refl s
  · exact quiet_perform s rfl
  · exact .refl s

theorem quiet_closeConnection (s : Socket (Recorded ω)) (code : Option Nat)
    (reason : Option String) : Quiet s (s.closeConnection code reason) := by
  unfold closeConnection
  split
  · exact .refl s
  · exact quiet_perform s rfl

theorem quiet_dropConnection (s : Socket (Recorded ω)) : Quiet s s.dropConnection := by
  unfold dropConnection
  split
  · exact .refl s
  · refine Quiet.trans ?_ (quiet_perform _ rfl)
    refine Quiet.trans ?_ (quiet_detach _ _)
    exact .of_eq rfl rfl rfl rfl

theorem quiet_finishTeardown (s : Socket (Recorded ω)) (t : Teardown) :
    Quiet s (s.finishTeardown t) := by
  refine Quiet.trans ?_ (quiet_continueWith _ _ _)
  refine Quiet.trans ?_ (quiet_notifyAll _ _)
  refine Quiet.trans ?_ (quiet_dropConnection _)
  exact .of_eq rfl rfl rfl rfl

theorem quiet_stepTeardown (s : Socket (Recorded ω)) (t : Teardown) :
    Quiet s (s.stepTeardown t) := by
  unfold stepTeardown
  split
  · split
    · exact quiet_awaitTeardown s _ _
    · exact (quiet_awaitTeardown s _ _).trans (quiet_closeConnection _ _ _)
  · split
    · exact quiet_awaitTeardown s _ _
    · exact quiet_finishTeardown s t

theorem quiet_teardownTimeout (s : Socket (Recorded ω)) (number generation : Nat) :
    Quiet s (s.teardownTimeout number generation) := by
  unfold teardownTimeout
  split
  · exact .refl s
  · split
    · split
      · refine Quiet.trans ?_ (quiet_stepTeardown _ _)
        exact .of_eq rfl rfl rfl rfl
      · exact .refl s
    · exact .refl s

theorem quiet_beginTeardown (s : Socket (Recorded ω)) (code : Option Nat) (reason : Option String)
    (k : Continuation) : Quiet s (s.beginTeardown code reason k) := by
  have hstart : Quiet s { s with teardown := none } := .of_eq rfl rfl rfl rfl
  simp only [beginTeardown]
  split
  · exact hstart.trans ((quiet_notifyAll _ _).trans (quiet_continueWith _ _ _))
  · refine hstart.trans (Quiet.trans ?_ (quiet_stepTeardown _ _))
    exact .of_eq rfl rfl rfl rfl

theorem quiet_disconnect (s : Socket (Recorded ω)) (code : Option Nat) (reason : Option String)
    (k : Continuation) : Quiet s (s.disconnect code reason k) := by
  refine Quiet.trans ?_ (quiet_beginTeardown _ _ _ _)
  exact .of_eq rfl rfl rfl rfl

theorem quiet_pause (s : Socket (Recorded ω)) : Quiet s s.pause := by
  unfold pause
  split
  · refine (quiet_disconnect s none none .nothing).trans ?_
    exact .of_eq rfl rfl rfl rfl
  · exact .refl s

theorem quiet_resume (s : Socket (Recorded ω)) : Quiet s s.resume := by
  unfold resume
  split
  · refine Quiet.trans ?_ (quiet_connect _)
    exact .of_eq rfl rfl rfl rfl
  · exact .refl s

/-! ### Signs of life -/

/-- The messages of the socket itself are not on the record. -/
theorem quiet_pushMessage (s : Socket (Recorded ω)) (m : Message) :
    Quiet s (s.pushMessage .socket m) :=
  turns_pushMessage s .socket m

theorem quiet_sendHeartbeat (s : Socket (Recorded ω)) : Quiet s s.sendHeartbeat := by
  unfold sendHeartbeat
  split
  · exact .refl s
  · refine Quiet.trans ?_ (quiet_armHeartbeatTimeout _)
    refine Quiet.trans ?_ (quiet_pushMessage _ _)
    refine (quiet_drawRef s).trans ?_
    exact .of_eq rfl rfl rfl rfl

theorem quiet_heartbeatDue (s : Socket (Recorded ω)) (generation : Nat) :
    Quiet s (s.heartbeatDue generation) := by
  unfold heartbeatDue
  split
  · refine Quiet.trans ?_ (quiet_sendHeartbeat _)
    exact .of_eq rfl rfl rfl rfl
  · exact .refl s

theorem quiet_ping (s : Socket (Recorded ω)) (ticket : Ticket) : Quiet s (s.ping ticket) := by
  unfold ping
  split
  · exact quiet_perform s rfl
  · refine (quiet_drawRef s).trans ((quiet_pushMessage s.drawRef.2 (.heartbeat s.drawRef.1)).trans ?_)
    refine (quiet_drawRef _).trans ?_
    exact .of_eq rfl rfl rfl rfl

/-! ### Callbacks -/

theorem quiet_runOnClose (event : CloseEvent) (s : Socket (Recorded ω)) (ref : Ref) :
    Quiet s (runOnClose event s ref) := by
  unfold runOnClose
  split
  · exact quiet_perform s rfl
  · exact .refl s

theorem quiet_runOnMessage (m : Message) (s : Socket (Recorded ω)) (ref : Ref) :
    Quiet s (runOnMessage m s ref) := by
  unfold runOnMessage
  split
  · exact quiet_perform s rfl
  · split
    · rename_i ref started ticket _ _
      refine Quiet.trans (quiet_perform s (e := .answer ticket
        (.latency (some (s.exchange.now - started)))) rfl) ?_
      exact .of_eq rfl rfl rfl rfl
    · exact .refl s
  · exact .refl s

omit [Outside ω] [Obliging ω] in
/-- A fold of steps that leave channels alone leaves them alone. -/
theorem quiet_foldl {α : Type} {f : Socket (Recorded ω) → α → Socket (Recorded ω)}
    (hf : ∀ s a, Quiet s (f s a)) (l : List α) (s : Socket (Recorded ω)) :
    Quiet s (l.foldl f s) := by
  induction l generalizing s with
  | nil => exact .refl s
  | cons a l ih => exact (hf s a).trans (ih _)

end Socket

end Switchboard
