import Switchboard.Proofs.Postage
import Switchboard.Proofs.Scripts

/-!
# Registrations for messages

Callbacks for messages are registered by users, and a ping registers an entry that waits for its reply.
Whatever else a socket does removes registrations at most.  As long as no ref comes again, all entries are
registered under different refs, so that each of them is found under its own.

Main definitions

* `Socket.Sheds`: registrations for messages may go, but do not come;
* `Socket.Listed`: the entries for messages have different refs, all of which were drawn;
* `Socket.OwnRefs`: users register under refs that were drawn for it.

Main results

* `Socket.sheds_handle`: a command that neither registers nor pings sheds registrations at most;
* `Socket.Reachable.listed`: the entries for messages have different refs at all times.
-/

set_option autoImplicit false

namespace Switchboard

namespace Socket

section Outside

variable {ω : Type} {s t u : Socket ω} {c : ChannelId} {p : PushId}

/-- Registrations for messages may go, but do not come. -/
def Sheds (s t : Socket ω) : Prop := t.callbacks.onMessage.Sublist s.callbacks.onMessage

@[refl] theorem Sheds.refl (s : Socket ω) : Sheds s s := List.Sublist.refl _

theorem Sheds.trans (h : Sheds s t) (h' : Sheds t u) : Sheds s u := List.Sublist.trans h' h

/-- Other parts of the socket have changed. -/
theorem Sheds.of_eq (h : t.callbacks = s.callbacks) : Sheds s t := by
  rw [Sheds, h]

theorem sheds_foldl {α : Type} {f : Socket ω → α → Socket ω} (hf : ∀ s a, Sheds s (f s a))
    (l : List α) (s : Socket ω) : Sheds s (l.foldl f s) := by
  induction l generalizing s with
  | nil => exact .refl s
  | cons a l ih => exact (hf s a).trans (ih (f s a))

theorem sheds_modifyChannel (s : Socket ω) (c : ChannelId) (f : Channel → Channel) :
    Sheds s (s.modifyChannel c f) := .of_eq rfl

theorem sheds_modifyPush (s : Socket ω) (c : ChannelId) (p : PushId) (f : Push → Push) :
    Sheds s (s.modifyPush c p f) := .of_eq rfl

theorem sheds_armPush (s : Socket ω) (c : ChannelId) (p : PushId) (push : Push) :
    Sheds s (s.armPush c p push) := .of_eq rfl

/-! ### Sending -/

theorem sheds_startTimeout (s : Socket ω) (c : ChannelId) (p : PushId) :
    Sheds s (s.startTimeout c p) := by
  simp only [startTimeout]
  refine .trans (t := s.drawRef.2) (.of_eq rfl) ?_
  split
  · exact .refl _
  · refine .trans (t := (s.drawRef.2.drawBinding c).2) (.of_eq rfl) ?_
    split
    · exact .refl _
    · refine .trans ?_ (sheds_modifyChannel _ c _)
      refine .trans ?_ (sheds_armPush _ c p _)
      exact sheds_modifyPush _ c p _

theorem sheds_resetPush (s : Socket ω) (c : ChannelId) (p : PushId) : Sheds s (s.resetPush c p) := by
  unfold resetPush
  split <;> exact .of_eq rfl

theorem sheds_releasePush (s : Socket ω) (c : ChannelId) (p : PushId) :
    Sheds s (s.releasePush c p) := by
  unfold releasePush
  split
  · exact .refl s
  · split
    · exact .refl s
    · split <;> exact .of_eq rfl

theorem sheds_scheduleRejoin (s : Socket ω) (c : ChannelId) : Sheds s (s.scheduleRejoin c) := by
  unfold scheduleRejoin
  split <;> exact .of_eq rfl

theorem sheds_resetRejoin (s : Socket ω) (c : ChannelId) : Sheds s (s.resetRejoin c) := .of_eq rfl

variable [Outside ω]

theorem sheds_perform (s : Socket ω) (e : Effect) : Sheds s (s.perform e) := .of_eq rfl

theorem sheds_performAll (s : Socket ω) (es : List Effect) : Sheds s (s.performAll es) :=
  sheds_foldl sheds_perform es s

omit [Outside ω] in
theorem sheds_without (s : Socket ω) (refs : List Ref) :
    Sheds s { s with callbacks := s.callbacks.without refs } := List.filter_sublist

theorem sheds_off (s : Socket ω) (refs : List Ref) : Sheds s (s.off refs) :=
  (sheds_without s refs).trans (sheds_performAll { s with callbacks := s.callbacks.without refs } _)

theorem sheds_report (s : Socket ω) (failure : SocketError) : Sheds s (s.report failure) := by
  rw [report_eq]
  exact .of_eq rfl

theorem sheds_transmit (s : Socket ω) (m : Message) : Sheds s (s.transmit m) := by
  rw [transmit_eq]
  exact .of_eq rfl

theorem sheds_pushMessage (s : Socket ω) (sender : Sender) (m : Message) :
    Sheds s (s.pushMessage sender m) := by
  simp only [pushMessage]
  split
  · exact (sheds_perform s _).trans (sheds_transmit _ m)
  · exact .of_eq rfl

theorem sheds_flush (s : Socket ω) : Sheds s s.flush := by
  unfold flush
  split
  · exact .refl s
  · exact sheds_foldl sheds_transmit _ { s with sendBuffer := [] }

theorem sheds_dispatchPush (s : Socket ω) (c : ChannelId) (p : PushId) :
    Sheds s (s.dispatchPush c p) := by
  unfold dispatchPush
  split
  · exact .refl s
  · dsimp only
    split
    · exact .of_eq rfl
    · exact .trans (.of_eq rfl) (sheds_pushMessage _ _ _)

theorem sheds_sendPush (s : Socket ω) (c : ChannelId) (p : PushId) : Sheds s (s.sendPush c p) := by
  unfold sendPush
  split
  · exact .refl s
  · split
    · exact .refl s
    · exact (sheds_startTimeout s c p).trans (sheds_dispatchPush _ c p)

theorem sheds_resendPush (s : Socket ω) (c : ChannelId) (p : PushId) (timeout : Nat) :
    Sheds s (s.resendPush c p timeout) :=
  (sheds_modifyPush s c p _).trans ((sheds_resetPush _ c p).trans (sheds_sendPush _ c p))

/-! ### A channel closes or fails -/

theorem sheds_eraseChannel (s : Socket ω) (c : ChannelId) : Sheds s (s.eraseChannel c) := by
  unfold eraseChannel discardAll
  split
  · exact .refl s
  · exact .trans (.of_eq rfl) (sheds_performAll _ _)

theorem sheds_closeChannel (s : Socket ω) (c : ChannelId) : Sheds s (s.closeChannel c) := by
  unfold closeChannel removeChannel
  refine .trans (t := s.modifyChannel c _) (sheds_modifyChannel s c fun ch =>
    { ch with rejoinTimer := ch.rejoinTimer.reset, state := .closed }) ?_
  split
  · exact .refl _
  · rename_i ch _
    refine (sheds_off _ ch.socketRefs).trans ?_
    dsimp only
    split
    · exact .trans (.of_eq rfl) (sheds_eraseChannel _ c)
    · exact .of_eq rfl

omit [Outside ω] in
theorem sheds_markErrored (s : Socket ω) (c : ChannelId) : Sheds s (s.markErrored c) := .of_eq rfl

theorem sheds_scheduleRejoinIfConnected (s : Socket ω) (c : ChannelId) :
    Sheds s (s.scheduleRejoinIfConnected c) := by
  unfold scheduleRejoinIfConnected
  split
  · exact sheds_scheduleRejoin s c
  · exact .refl s

theorem sheds_failChannel (s : Socket ω) (c : ChannelId) : Sheds s (s.failChannel c) := by
  unfold failChannel
  split
  · exact .refl s
  · dsimp only
    refine .trans (.trans ?_ (sheds_markErrored _ c)) (sheds_scheduleRejoinIfConnected _ c)
    split
    · exact sheds_resetPush s c joinPush
    · exact .refl s

/-! ### Replies -/

theorem sheds_acceptJoin (s : Socket ω) (c : ChannelId) : Sheds s (s.acceptJoin c) := by
  unfold acceptJoin
  split
  · exact .refl s
  · exact (sheds_modifyChannel s c _).trans (sheds_foldl (fun s p => sheds_sendPush s c p) _ _)

theorem sheds_abandonJoin (s : Socket ω) (c : ChannelId) : Sheds s (s.abandonJoin c) := by
  unfold abandonJoin
  split
  · exact .refl s
  · dsimp only
    refine .trans ?_ (sheds_scheduleRejoinIfConnected _ c)
    refine .trans ?_ (sheds_resetPush _ c joinPush)
    refine .trans (.trans ?_ (sheds_sendPush _ c _)) (sheds_markErrored _ c)
    exact .of_eq rfl

/-- What is dispatched sheds registrations at most. -/
def Dispatch.Sheds (dispatch : Dispatch ω) : Prop :=
  ∀ c event payload ref joinRef s, Socket.Sheds s (dispatch c event payload ref joinRef s)

variable {dispatch : Dispatch ω}

theorem Dispatch.Sheds.react (h : dispatch.Sheds) (c : ChannelId) (reaction : Reaction)
    (s : Socket ω) : Socket.Sheds s (s.react dispatch c reaction) := by
  cases reaction with
  | joinOk => exact sheds_acceptJoin s c
  | joinError =>
    simp only [Socket.react]
    split
    · exact (sheds_markErrored s c).trans (sheds_scheduleRejoinIfConnected _ c)
    · exact .refl s
  | joinTimeout => exact sheds_abandonJoin s c
  | leaveDone => exact h c _ _ _ _ s

theorem Dispatch.Sheds.runReplyHook (h : dispatch.Sheds) (c : ChannelId) (p : PushId) (reply : Reply)
    (s : Socket ω) (index : Nat) : Socket.Sheds s (runReplyHook dispatch c p reply s index) := by
  unfold Socket.runReplyHook
  split
  · exact .refl s
  · dsimp only
    split
    · split
      · exact sheds_perform s _
      · exact (sheds_perform s _).trans (h.react c _ _)
    · exact .refl s

theorem sheds_settlePush (s : Socket ω) (c : ChannelId) (p : PushId) (push : Push) (reply : Reply) :
    Sheds s (s.settlePush c p push reply) := by
  unfold settlePush
  refine .trans (.trans (.trans ?_ (sheds_performAll _ _)) (sheds_modifyChannel _ c _))
    (sheds_perform _ _)
  exact sheds_modifyPush s c p _

theorem Dispatch.Sheds.resolvePush (h : dispatch.Sheds) (c : ChannelId) (p : PushId) (reply : Reply)
    (s : Socket ω) : Socket.Sheds s (s.resolvePush dispatch c p reply) := by
  unfold Socket.resolvePush runReplyHooks
  split
  · exact .refl s
  · rename_i push _
    refine .trans ?_ (sheds_releasePush _ c p)
    refine .trans (sheds_settlePush s c p push reply) ?_
    exact sheds_foldl (fun s i => h.runReplyHook c p reply s i) _ _

theorem Dispatch.Sheds.runTarget (h : dispatch.Sheds) (c : ChannelId) (event : InboundEvent)
    (target : Target) (s : Socket ω) : Socket.Sheds s (s.runTarget dispatch c event target) := by
  unfold Socket.runTarget
  split
  · exact sheds_perform s _
  · exact sheds_perform s _
  · unfold redirect
    split
    · exact h c _ _ _ _ s
    · exact .refl s
  · split
    · exact h.resolvePush c _ _ s
    · exact .refl s
  · exact sheds_closeChannel s c
  · exact sheds_failChannel s c

theorem sheds_passHook (s : Socket ω) (ch : Channel) (event : String) (payload : Payload)
    (ref : Option Ref) : Sheds s (s.passHook ch event payload ref).2 := by
  unfold passHook
  split
  · exact .refl s
  · dsimp only
    split
    · exact .of_eq rfl
    · split
      · exact .trans (.of_eq rfl) (sheds_report _ _)
      · exact .of_eq rfl

theorem Dispatch.Sheds.dispatchWith (h : dispatch.Sheds) : (dispatchWith dispatch).Sheds := by
  intro c event payload ref joinRef s
  unfold Socket.dispatchWith
  split
  · exact .refl s
  · rename_i ch _
    have hpass := sheds_passHook s ch event payload ref
    split
    · rename_i heq
      rwa [heq] at hpass
    · rename_i heq
      rw [heq] at hpass
      refine hpass.trans ?_
      unfold runBindings
      split
      · exact .refl _
      · refine sheds_foldl (fun s number => ?_) _ _
        unfold runBinding
        split
        · exact h.runTarget c _ _ s
        · exact .refl s

theorem sheds_trigger (s : Socket ω) (c : ChannelId) (event : String) (payload : Payload)
    (ref joinRef : Option Ref) : Sheds s (s.trigger c event payload ref joinRef) := by
  have hall : ∀ n, (dispatchTo n : Dispatch ω).Sheds := by
    intro n
    induction n with
    | zero => exact fun _ _ _ _ _ s => .refl s
    | succ n ih => exact ih.dispatchWith
  exact hall 3 c event payload ref joinRef s

theorem sheds_triggerErrors (s : Socket ω) : Sheds s s.triggerErrors := by
  refine sheds_foldl (fun s c => ?_) _ s
  split
  · split
    · exact sheds_trigger s c _ _ _ _
    · exact .refl s
  · exact .refl s

theorem sheds_triggerPush (s : Socket ω) (c : ChannelId) (p : PushId) (status : String)
    (response : Payload) : Sheds s (s.triggerPush c p status response) := by
  unfold triggerPush
  split
  · exact sheds_trigger s c _ _ _ _
  · exact .refl s

theorem sheds_pushTimeout (s : Socket ω) (c : ChannelId) (p : PushId) (generation : Nat) :
    Sheds s (s.pushTimeout c p generation) := by
  unfold pushTimeout
  split
  · exact .refl s
  · exact (sheds_modifyPush s c p _).trans (sheds_triggerPush _ c p _ _)

/-! ### Operations of channels -/

theorem sheds_leave (s : Socket ω) (c : ChannelId) (p : PushId) (timeout : Nat) (detached : Bool) :
    Sheds s (s.leave c p timeout detached) := by
  unfold leave
  split
  · exact .refl s
  · dsimp only
    split
    · exact .trans (sheds_modifyChannel s c _) (sheds_sendPush _ c p)
    · refine .trans ?_ (sheds_triggerPush _ c p _ _)
      exact .trans (sheds_modifyChannel s c _) (sheds_sendPush _ c p)

theorem sheds_rejoin (s : Socket ω) (c : ChannelId) : Sheds s (s.rejoin c) := by
  have hdisplaced : ∀ topic, Sheds s (s.leaveOpenTopic topic c) := by
    intro topic
    unfold leaveOpenTopic
    split
    · exact .refl s
    · split
      · exact .refl s
      · exact .trans (.of_eq rfl) (sheds_leave _ _ _ _ true)
  unfold rejoin
  split
  · exact .refl s
  · rename_i ch _
    split
    · exact .refl s
    · refine (hdisplaced ch.topic).trans ?_
      dsimp only
      split
      · exact .refl _
      · exact (sheds_modifyChannel _ c _).trans (sheds_resendPush _ c joinPush _)

theorem sheds_push (s : Socket ω) (c : ChannelId) (p : PushId) (event : String) (payload : Payload)
    (timeout : Nat) : Sheds s (s.push c p event payload timeout) := by
  unfold push
  split
  · exact .refl s
  · dsimp only
    split
    · exact .trans (sheds_modifyChannel s c _) (sheds_sendPush _ c p)
    · refine .trans ?_ (sheds_modifyChannel _ c _)
      exact .trans (sheds_modifyChannel s c _) (sheds_startTimeout _ c p)

theorem sheds_receive (s : Socket ω) (c : ChannelId) (p : PushId) (status : String)
    (callback : CallbackId) : Sheds s (s.receive c p status callback) := by
  unfold receive
  split
  · exact .refl s
  · refine .trans ?_ (sheds_modifyPush _ c p _)
    split
    · split
      · exact sheds_perform s _
      · exact .refl s
    · exact .refl s

theorem sheds_channelOp (s : Socket ω) (c : ChannelId) (op : ChannelOp) :
    Sheds s (s.channelOp c op) := by
  have htell : ∀ ticket f, Sheds s (s.tell c ticket f) := by
    intro ticket f
    unfold tell
    split <;> exact .of_eq rfl
  unfold channelOp
  split
  · cases op with
    | join timeout => exact (sheds_modifyChannel s c _).trans (sheds_rejoin _ c)
    | push p event payload timeout => exact sheds_push s c p event payload timeout
    | leave p timeout => exact sheds_leave s c p timeout false
    | bind binding event listener => exact .of_eq rfl
    | unbind event binding => exact .of_eq rfl
    | setHook hook => exact .of_eq rfl
    | receive p status callback => exact sheds_receive s c p status callback
    | awaitReply p ticket =>
      simp only [applyOp, awaitReply]
      split
      · exact .of_eq rfl
      · split <;> exact .of_eq rfl
    | release p =>
      simp only [applyOp, release]
      split
      · exact .refl s
      · exact (sheds_modifyPush s c p _).trans (sheds_releasePush _ c p)
    | askState ticket => exact htell ticket _
    | askJoinRef ticket => exact htell ticket _
    | askRejoinTries ticket => exact htell ticket _
  · split <;> exact .of_eq rfl

theorem sheds_dropChannel (s : Socket ω) (c : ChannelId) : Sheds s (s.dropChannel c) := by
  unfold dropChannel
  split
  · exact .of_eq rfl
  · exact sheds_eraseChannel s c

/-! ### The connection -/

theorem sheds_pruneRetired (s : Socket ω) : Sheds s s.pruneRetired := by
  rw [pruneRetired_eq]
  exact .of_eq rfl

theorem sheds_connect (s : Socket ω) : Sheds s s.connect := by
  unfold connect
  split
  · exact .refl s
  · dsimp only
    split
    · exact .of_eq rfl
    · exact .trans (.of_eq rfl) (sheds_report _ _)

theorem sheds_replaceTransport (s : Socket ω) (factory : Factory) :
    Sheds s (s.replaceTransport factory) := by
  have hretire : ∀ s : Socket ω, Sheds s s.retire := by
    intro s
    unfold retire
    split
    · exact .refl s
    · exact .trans (.of_eq rfl) (sheds_triggerErrors _)
  set u : Socket ω := { s.tick.resetReconnect with closeWasClean := true, sendBuffer := [] } with hu
  have hu : Sheds s u := .of_eq rfl
  exact hu.trans ((sheds_pruneRetired u).trans (hretire _))

theorem sheds_notifyAll (s : Socket ω) (tickets : List Ticket) : Sheds s (s.notifyAll tickets) :=
  sheds_performAll s _

theorem sheds_continueWith (s : Socket ω) (k : Continuation) (clock : Nat) :
    Sheds s (s.continueWith k clock) := by
  unfold continueWith
  split
  · split
    · exact sheds_connect s
    · exact .refl s
  · split <;> exact .of_eq rfl
  · exact .of_eq rfl
  · exact .refl s

theorem sheds_stepTeardown (s : Socket ω) (t : Teardown) : Sheds s (s.stepTeardown t) := by
  have hclose : ∀ (s : Socket ω) (code : Option Nat) (reason : Option String),
      Sheds s (s.closeConnection code reason) := by
    intro s code reason
    unfold closeConnection
    split <;> exact .of_eq rfl
  have hdrop : ∀ s : Socket ω, Sheds s s.dropConnection := by
    intro s
    unfold dropConnection
    split <;> exact .of_eq rfl
  unfold stepTeardown
  split
  · split
    · exact .of_eq rfl
    · exact .trans (.of_eq rfl) (hclose _ _ _)
  · split
    · exact .of_eq rfl
    · refine .trans (.trans ?_ (sheds_notifyAll _ _)) (sheds_continueWith _ _ _)
      exact .trans (.of_eq rfl) (hdrop _)

theorem sheds_teardownTimeout (s : Socket ω) (number generation : Nat) :
    Sheds s (s.teardownTimeout number generation) := by
  unfold teardownTimeout
  split
  · exact .refl s
  · split
    · split
      · exact .trans (.of_eq rfl) (sheds_stepTeardown _ _)
      · exact .refl s
    · exact .refl s

theorem sheds_beginTeardown (s : Socket ω) (code : Option Nat) (reason : Option String)
    (k : Continuation) : Sheds s (s.beginTeardown code reason k) := by
  unfold beginTeardown
  dsimp only
  split
  · refine .trans ?_ (sheds_continueWith _ _ _)
    exact sheds_notifyAll { s with teardown := none } _
  · exact .trans (.of_eq rfl) (sheds_stepTeardown _ _)

theorem sheds_disconnect (s : Socket ω) (code : Option Nat) (reason : Option String)
    (k : Continuation) : Sheds s (s.disconnect code reason k) := by
  set u : Socket ω := { s.tick.resetReconnect with closeWasClean := true } with hu
  have hturned : Sheds s u := .of_eq rfl
  exact hturned.trans (sheds_beginTeardown u code reason k)

theorem sheds_heartbeatDue (s : Socket ω) (generation : Nat) :
    Sheds s (s.heartbeatDue generation) := by
  have hsend : ∀ s : Socket ω, Sheds s s.sendHeartbeat := by
    intro s
    unfold sendHeartbeat
    split
    · exact .refl s
    · exact sheds_pushMessage { s.drawRef.2 with pendingHeartbeat := some s.drawRef.1 } .socket _
  unfold heartbeatDue
  split
  · exact .trans (.of_eq rfl) (hsend _)
  · exact .refl s

theorem sheds_heartbeatTimeoutDue (s : Socket ω) (generation : Nat) :
    Sheds s (s.heartbeatTimeoutDue generation) := by
  unfold heartbeatTimeoutDue
  split
  · exact .refl s
  · dsimp only
    split
    · refine .trans (.trans ?_ (.of_eq rfl)) (sheds_beginTeardown _ _ _ _)
      exact .trans (.of_eq rfl) (sheds_triggerErrors _)
    · exact .of_eq rfl

/-! ### Reports of transports -/

theorem sheds_connectionOpened (s : Socket ω) : Sheds s s.connectionOpened := by
  have hreset : ∀ s : Socket ω, Sheds s s.resetHeartbeat := by
    intro s
    unfold resetHeartbeat
    split
    · split <;> exact .of_eq rfl
    · exact .of_eq rfl
  have hmark : Sheds s s.markOpen := by
    set u : Socket ω := { s with
      closeWasClean := false
      established := min (s.established + 1) attemptLimit } with hu
    have hready : Sheds s u.flush := .trans (t := u) (.of_eq rfl) (sheds_flush u)
    have hreconnect : Sheds u.flush u.flush.resetReconnect := .of_eq rfl
    exact (hready.trans hreconnect).trans (hreset u.flush.resetReconnect)
  refine hmark.trans (sheds_foldl (fun s ref => ?_) _ _)
  unfold runOnOpen
  split
  · exact .of_eq rfl
  · unfold rejoinIfErrored
    split
    · exact .refl s
    · dsimp only
      split
      · exact (sheds_resetRejoin s _).trans (sheds_rejoin _ _)
      · exact .of_eq rfl
  · exact .refl s

theorem sheds_connectionClosed (s : Socket ω) (event : CloseEvent) :
    Sheds s (s.connectionClosed event) := by
  unfold connectionClosed
  refine .trans ?_ (sheds_foldl (fun s ref => ?_) _ _)
  · refine (sheds_triggerErrors s).trans ?_
    split <;> exact .of_eq rfl
  · unfold runOnClose
    split <;> exact .of_eq rfl

theorem sheds_connectionFailed (s : Socket ω) (cause : TransportError) :
    Sheds s (s.connectionFailed cause) := by
  have hruns : ∀ (refs : List Ref) (context : ErrorContext) (s : Socket ω),
      Sheds s (refs.foldl (runOnError (.transport cause)) (context, s)).2 := by
    intro refs
    induction refs with
    | nil => exact fun _ s => .refl s
    | cons ref refs ih =>
      intro context s
      refine .trans ?_ (ih _ (runOnError (.transport cause) (context, s) ref).2)
      unfold runOnError
      dsimp only
      split <;> exact .of_eq rfl
  unfold connectionFailed
  dsimp only
  refine (hruns s.callbacks.onError.refs s.errorContext s).trans ?_
  generalize s.callbacks.onError.refs.foldl (runOnError (.transport cause)) (s.errorContext, s) = run
  have hfallback : Sheds run.2 (run.2.takeFallback run.1.fallback) := by
    unfold takeFallback
    split
    · exact (sheds_replaceTransport _ _).trans (sheds_connect _)
    · exact .refl _
  split
  · exact hfallback.trans (sheds_triggerErrors _)
  · exact hfallback

theorem sheds_messageReceived (s : Socket ω) (m : Message) : Sheds s (s.messageReceived m) := by
  unfold messageReceived
  refine .trans (.trans ?_ (sheds_foldl (fun s c => ?_) _ _)) (sheds_foldl (fun s ref => ?_) _ _)
  · split <;> exact .of_eq rfl
  · unfold deliver
    split
    · exact sheds_trigger s c _ _ _ _
    · exact .refl s
  · unfold runOnMessage
    split
    · exact .of_eq rfl
    · split
      · exact (sheds_perform s _).trans (sheds_without _ _)
      · exact .refl s
    · exact .refl s

theorem sheds_transportEvent (s : Socket ω) (id : TransportId) (event : TransportEvent) :
    Sheds s (s.transportEvent id event) := by
  unfold transportEvent
  refine (sheds_pruneRetired s).trans ?_
  dsimp only
  split
  · exact .refl _
  · split
    · split
      · exact sheds_connectionOpened _
      · exact sheds_connectionFailed _ _
      · unfold frameReceived
        split
        · exact sheds_messageReceived _ _
        · exact sheds_report _ _
      · exact sheds_connectionClosed _ _
    · exact .refl _

/-! ### Commands -/

theorem sheds_timerEvent (s : Socket ω) (event : TimerEvent) : Sheds s (s.timerEvent event) := by
  cases event with
  | heartbeatDue generation => exact sheds_heartbeatDue s generation
  | heartbeatTimeout generation => exact sheds_heartbeatTimeoutDue s generation
  | reconnect generation =>
    simp only [timerEvent]
    split
    · exact .trans (.of_eq rfl) (sheds_beginTeardown _ _ _ _)
    · exact .refl s
  | rejoin c generation =>
    simp only [timerEvent, rejoinTimeout]
    split
    · exact .refl s
    · split
      · exact (sheds_modifyChannel s c _).trans (sheds_rejoin _ c)
      · exact .of_eq rfl
  | pushTimeout c p generation => exact sheds_pushTimeout s c p generation
  | teardown number generation => exact sheds_teardownTimeout s number generation

theorem sheds_shutdown (s : Socket ω) : Sheds s s.shutdown := by
  have habandon : ∀ s : Socket ω, Sheds s s.abandonConnection := by
    intro s
    unfold abandonConnection
    split
    · exact .refl s
    · exact .trans (.of_eq rfl) (sheds_performAll _ _)
  set u := { s with teardown := none }.clearHeartbeats.resetReconnect with hu
  have hretired : ∀ (s : Socket ω) (c : Connection), Sheds s (s.abandonRetired c) := fun _ _ => .of_eq rfl
  have hfold := sheds_foldl hretired u.abandonConnection.retired { u.abandonConnection with retired := [] }
  exact Sheds.trans (habandon u) hfold

/-- A command that neither registers a callback for messages nor pings sheds registrations at most. -/
theorem sheds_handle (s : Socket ω) {cmd : Command}
    (hregister : ∀ ref callback, cmd ≠ .register .message ref callback)
    (hping : ∀ ticket, cmd ≠ .ping ticket) : Sheds s (s.handle cmd) := by
  cases cmd with
  | connect => exact sheds_connect s
  | disconnect code reason done => exact sheds_disconnect s code reason _
  | replaceTransport factory => exact sheds_replaceTransport s factory
  | pause =>
    simp only [handle, pause]
    split
    · exact (sheds_disconnect s none none .nothing).trans (.of_eq rfl)
    · exact .refl s
  | resume =>
    simp only [handle, resume]
    split
    · set u : Socket ω := { s with awaitingResume := none } with hu
      have hresumed : Sheds s u := .of_eq rfl
      exact hresumed.trans (sheds_connect u)
    · exact .refl s
  | register occasion ref callback =>
    cases occasion with
    | message => exact absurd rfl (hregister ref callback)
    | _ => exact .refl s
  | off refs => exact sheds_off s refs
  | ping ticket => exact absurd rfl (hping ticket)
  | askReadyState ticket => exact sheds_perform s _
  | askReconnectTries ticket => exact sheds_perform s _
  | askEstablished ticket => exact sheds_perform s _
  | createChannel c topic params => exact .refl s
  | channel c op => exact sheds_channelOp s c op
  | dropChannel c => exact sheds_dropChannel s c
  | transport id event => exact sheds_transportEvent s id event
  | timer event => exact sheds_timerEvent s event
  | shutdown => exact sheds_shutdown s

end Outside

/-! ### Different refs -/

section Runs

variable {ω : Type} {s t : Socket (Recorded ω)}

/-- The entries for messages have different refs, all of which were drawn. -/
structure Listed (s : Socket (Recorded ω)) : Prop where
  nodup : s.callbacks.onMessage.refs.Nodup
  drew : ∀ r ∈ s.callbacks.onMessage.refs, s.exchange.Drew r

/-- Users register for messages under refs that were drawn, and that nobody else has. -/
def OwnRefs (s : Socket (Recorded ω)) (cmd : Command) : Prop :=
  ∀ ⦃ref callback⦄, cmd = .register .message ref callback →
    s.exchange.Drew ref ∧ ref ∉ s.callbacks.onMessage.refs

theorem Listed.sheds (h : s.Listed) (hsheds : Sheds s t) (hevolves : s.exchange.Evolves t.exchange) :
    t.Listed := by
  have hsub : t.callbacks.onMessage.refs.Sublist s.callbacks.onMessage.refs := hsheds.map _
  exact ⟨h.nodup.sublist hsub, fun r hr => hevolves.drew (h.drew r (hsub.subset hr))⟩

/-- An entry with a ref that nobody else has comes after those that there are. -/
theorem Listed.enlist (h : s.Listed) {ref : Ref} (hdrew : t.exchange.Drew ref)
    (hfree : ref ∉ s.callbacks.onMessage.refs) {entry : OnMessage}
    (hmessages : t.callbacks.onMessage = s.callbacks.onMessage ++ [(ref, entry)])
    (hevolves : s.exchange.Evolves t.exchange) : t.Listed := by
  have hrefs : t.callbacks.onMessage.refs = s.callbacks.onMessage.refs ++ [ref] := by
    simp [hmessages, Registry.refs]
  refine ⟨?_, fun r hr => ?_⟩
  · rw [hrefs, List.nodup_append]
    refine ⟨h.nodup, List.nodup_singleton ref, ?_⟩
    rintro r hr r' hr' rfl
    exact hfree (List.mem_singleton.mp hr' ▸ hr)
  · rw [hrefs, List.mem_append, List.mem_singleton] at hr
    rcases hr with hr | rfl
    · exact hevolves.drew (h.drew r hr)
    · exact hdrew

variable [Outside ω] [Obliging ω] {admits : Socket (Recorded ω) → Command → Prop}

/-- The entry of a ping has a ref of its own. -/
theorem Listed.ping (h : s.Listed) (hs : Sound s) (ticket : Ticket)
    (hb : (s.ping ticket).exchange.drawn < 2 ^ 64) : (s.ping ticket).Listed := by
  unfold Socket.ping at hb ⊢
  split
  · exact h.sheds (sheds_perform s _) (turns_perform s _).evolves
  · rename_i hconnected
    rw [if_neg hconnected] at hb
    dsimp only at hb ⊢
    set v := s.drawRef.2.pushMessage .socket (.heartbeat s.drawRef.1) with hv
    have hsheds : Sheds s v := Sheds.trans (t := s.drawRef.2) (.of_eq rfl) (sheds_pushMessage _ _ _)
    have hturns := turns_pushMessage s.drawRef.2 .socket (.heartbeat s.drawRef.1)
    have hsv : Sound v := (hs.quiet (quiet_drawRef s)).turns hturns
    have hlisted := h.sheds hsheds ((quiet_drawRef s).evolves.trans hturns.evolves)
    refine hlisted.enlist (Exchange.drew_drawRef hsv.tidy) (fun hmem => ?_) rfl
      (Exchange.evolves_drawRef _)
    exact Exchange.not_drew_drawRef hsv.tidy hb (hlisted.drew _ hmem)

/-- Every command keeps the entries for messages under different refs. -/
theorem Listed.handle (h : s.Listed) (hs : Sound s) {cmd : Command}
    (hevolves : s.exchange.Evolves (s.handle cmd).exchange)
    (hb : (s.handle cmd).exchange.drawn < 2 ^ 64) (hown : OwnRefs s cmd) : (s.handle cmd).Listed := by
  by_cases hregister : ∃ ref callback, cmd = .register .message ref callback
  · obtain ⟨ref, callback, rfl⟩ := hregister
    obtain ⟨hdrew, hfree⟩ := hown rfl
    exact h.enlist hdrew hfree rfl hevolves
  · by_cases hping : ∃ ticket, cmd = .ping ticket
    · obtain ⟨ticket, rfl⟩ := hping
      exact h.ping hs ticket hb
    · refine h.sheds (sheds_handle s (fun ref callback heq => ?_) fun ticket heq => ?_) hevolves
      · exact hregister ⟨ref, callback, heq⟩
      · exact hping ⟨ticket, heq⟩

/-- The entries for messages have different refs at all times, as long as no ref comes again. -/
theorem Reachable.listed (h : Reachable admits s) (hown : ∀ s cmd, admits s cmd → OwnRefs s cmd)
    (hb : s.exchange.drawn < 2 ^ 64) : s.Listed := by
  obtain ⟨endpoint, config, factory, outside, run⟩ := h
  induction run with
  | refl => exact ⟨List.nodup_nil, by simp [Socket.new, Callbacks.empty, Registry.refs]⟩
  | @tail t u run step ih =>
    have hs : Sound t := Reachable.sound ⟨_, _, _, _, run⟩
    cases step with
    | surroundings acts o =>
      have hlisted := ih (lt_of_le_of_lt acts.evolves.drawn_le hb)
      exact hlisted.sheds (.of_eq rfl) acts.evolves
    | @take cmd x next admitted =>
      have hq := quiet_next? next
      have hevolves := (strides_handle (hs.quiet hq) cmd (due_of_next? hs next)).evolves (hs.quiet hq)
      have hlisted := ih (lt_of_le_of_lt (hq.evolves.trans hevolves).drawn_le hb)
      exact (hlisted.sheds (t := { t with exchange := x }) (.of_eq rfl) hq.evolves).handle
        (hs.quiet hq) hevolves hb (hown _ _ admitted)
    | abandon =>
      have hevolves := (ends_shutdown t).evolves
      exact (ih (lt_of_le_of_lt hevolves.drawn_le hb)).sheds (sheds_shutdown t) hevolves

end Runs

end Socket

end Switchboard
