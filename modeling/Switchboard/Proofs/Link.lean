import Switchboard.Proofs.Record
import Switchboard.Socket.Step

/-!
# What channels leave alone

What a channel does, whatever event it is about, concerns channels, waiting messages, callbacks and
what is shared with the surroundings.  The connection, the teardown in flight, the timers of the socket
and the transports stay as they are.

Main definitions

* `Link`, `Socket.link`: all that a socket knows of its connection.

Main results

* `Socket.link_trigger`, `Socket.link_triggerErrors`: events of channels leave the link as it is;
* `Socket.link_channelOp`, `Socket.link_pushTimeout`, `Socket.link_rejoinTimeout`: so do handles and
  the timers of channels.
-/

set_option autoImplicit false

namespace Switchboard

/-- All that a socket knows of its connection, with what it has done to transports. -/
structure Link where
  config : Config
  factory : Factory
  conn : Option Connection
  retired : List Connection
  nextTransport : TransportId
  closeWasClean : Bool
  established : Nat
  connectClock : Nat
  awaitingResume : Option Nat
  heartbeatTimer : TimerSlot
  heartbeatTimeout : TimerSlot
  pendingHeartbeat : Option Ref
  reconnectTimer : BackoffTimer
  teardown : Option Teardown
  nextTeardown : Nat
  dealings : List Effect

namespace Socket

variable {ω : Type}

/-- All that a socket knows of its connection. -/
def link (s : Socket (Recorded ω)) : Link where
  config := s.config
  factory := s.factory
  conn := s.conn
  retired := s.retired
  nextTransport := s.nextTransport
  closeWasClean := s.closeWasClean
  established := s.established
  connectClock := s.connectClock
  awaitingResume := s.awaitingResume
  heartbeatTimer := s.heartbeatTimer
  heartbeatTimeout := s.heartbeatTimeout
  pendingHeartbeat := s.pendingHeartbeat
  reconnectTimer := s.reconnectTimer
  teardown := s.teardown
  nextTeardown := s.nextTeardown
  dealings := s.dealings

variable {s : Socket (Recorded ω)} {c : ChannelId} {p : PushId}

/-! ### The parts of which functions are made -/

@[simp] theorem link_drawRef (s : Socket (Recorded ω)) : s.drawRef.2.link = s.link := rfl

@[simp] theorem link_drawPush (s : Socket (Recorded ω)) (c : ChannelId) :
    (s.drawPush c).2.link = s.link := rfl

@[simp] theorem link_drawBinding (s : Socket (Recorded ω)) (c : ChannelId) :
    (s.drawBinding c).2.link = s.link := rfl

@[simp] theorem link_modifyChannel (s : Socket (Recorded ω)) (c : ChannelId)
    (f : Channel → Channel) : (s.modifyChannel c f).link = s.link := rfl

@[simp] theorem link_modifyPush (s : Socket (Recorded ω)) (c : ChannelId) (p : PushId)
    (f : Push → Push) : (s.modifyPush c p f).link = s.link := rfl

@[simp] theorem link_armPush (s : Socket (Recorded ω)) (c : ChannelId) (p : PushId) (push : Push) :
    (s.armPush c p push).link = s.link := rfl

@[simp] theorem link_markErrored (s : Socket (Recorded ω)) (c : ChannelId) :
    (s.markErrored c).link = s.link := rfl

@[simp] theorem link_resetRejoin (s : Socket (Recorded ω)) (c : ChannelId) :
    (s.resetRejoin c).link = s.link := rfl

/-- A fold of functions that leave the link alone leaves it alone. -/
theorem link_foldl {α : Type} {f : Socket (Recorded ω) → α → Socket (Recorded ω)}
    (hf : ∀ s a, (f s a).link = s.link) (l : List α) (s : Socket (Recorded ω)) :
    (l.foldl f s).link = s.link := by
  induction l generalizing s with
  | nil => rfl
  | cons a l ih => exact (ih _).trans (hf s a)

@[simp] theorem link_startTimeout (s : Socket (Recorded ω)) (c : ChannelId) (p : PushId) :
    (s.startTimeout c p).link = s.link := by
  simp only [startTimeout]
  split
  · exact link_drawRef s
  · split
    · rw [link_drawBinding, link_drawRef]
    · rw [link_modifyChannel, link_armPush, link_modifyPush, link_drawBinding, link_drawRef]

@[simp] theorem link_resetPush (s : Socket (Recorded ω)) (c : ChannelId) (p : PushId) :
    (s.resetPush c p).link = s.link := by
  unfold resetPush
  split <;> rfl

@[simp] theorem link_releasePush (s : Socket (Recorded ω)) (c : ChannelId) (p : PushId) :
    (s.releasePush c p).link = s.link := by
  unfold releasePush
  split
  · rfl
  · split
    · rfl
    · split <;> rfl

@[simp] theorem link_scheduleRejoin (s : Socket (Recorded ω)) (c : ChannelId) :
    (s.scheduleRejoin c).link = s.link := by
  unfold scheduleRejoin
  split <;> rfl

@[simp] theorem link_release (s : Socket (Recorded ω)) (c : ChannelId) (p : PushId) :
    (s.release c p).link = s.link := by
  unfold release
  split
  · rfl
  · exact link_releasePush _ c p

variable [Outside ω]

/-! ### Effects -/

theorem link_perform (s : Socket (Recorded ω)) (e : Effect) : (s.perform e).link =
    { s.link with dealings := s.dealings ++ [e].filter Effect.concernsTransport } := rfl

/-- An effect that does not concern transports leaves the link alone. -/
@[simp] theorem link_perform_eq (s : Socket (Recorded ω)) {e : Effect}
    (he : e.concernsTransport = false) : (s.perform e).link = s.link := by
  rw [link_perform, List.filter_singleton, he]
  simp [link]

theorem link_performAll (s : Socket (Recorded ω)) {es : List Effect}
    (hes : ∀ e ∈ es, e.concernsTransport = false) : (s.performAll es).link = s.link := by
  induction es generalizing s with
  | nil => rfl
  | cons e es ih =>
    exact (ih _ fun e' he' => hes e' (List.mem_cons_of_mem _ he')).trans
      (link_perform_eq s (hes e List.mem_cons_self))

@[simp] theorem link_discardAll (s : Socket (Recorded ω)) (tickets : List Ticket) :
    (s.discardAll tickets).link = s.link :=
  link_performAll s (by simp [Effect.concernsTransport])

@[simp] theorem link_off (s : Socket (Recorded ω)) (refs : List Ref) :
    (s.off refs).link = s.link :=
  link_performAll { s with callbacks := s.callbacks.without refs } (by
    simp [Effect.concernsTransport])

@[simp] theorem link_runError (s : Socket (Recorded ω)) (callback : CallbackId)
    (failure : SocketError) (context : ErrorContext) :
    (s.runError callback failure context).2.link = s.link := rfl

@[simp] theorem link_runErrors (failure : SocketError) (registry : Registry OnError)
    (context : ErrorContext) (s : Socket (Recorded ω)) :
    (runErrors failure registry context s).link = s.link := by
  induction registry generalizing context s with
  | nil => rfl
  | cons entry rest ih =>
    obtain ⟨ref, callback | channel⟩ := entry
    · exact ih _ (s.runError callback failure context).2
    · exact ih context s

@[simp] theorem link_report (s : Socket (Recorded ω)) (failure : SocketError) :
    (s.report failure).link = s.link :=
  link_runErrors failure s.callbacks.onError s.errorContext s

@[simp] theorem link_transmit (s : Socket (Recorded ω)) (m : Message) :
    (s.transmit m).link = s.link := by
  unfold transmit
  split
  · rfl
  · split
    · exact link_perform_eq s rfl
    · exact link_report s _

@[simp] theorem link_pushMessage (s : Socket (Recorded ω)) (sender : Sender) (m : Message) :
    (s.pushMessage sender m).link = s.link := by
  have haccept : (s.perform (.accept sender m)).link = s.link := link_perform_eq s rfl
  simp only [pushMessage]
  split
  · exact (link_transmit _ m).trans haccept
  · exact haccept

@[simp] theorem link_flush (s : Socket (Recorded ω)) : s.flush.link = s.link := by
  unfold flush
  split
  · rfl
  · exact link_foldl link_transmit _ { s with sendBuffer := [] }

@[simp] theorem link_dispatchPush (s : Socket (Recorded ω)) (c : ChannelId) (p : PushId) :
    (s.dispatchPush c p).link = s.link := by
  unfold dispatchPush
  split
  · rfl
  · dsimp only
    split
    · rfl
    · exact link_pushMessage _ _ _

@[simp] theorem link_sendPush (s : Socket (Recorded ω)) (c : ChannelId) (p : PushId) :
    (s.sendPush c p).link = s.link := by
  unfold sendPush
  split
  · rfl
  · split
    · rfl
    · rw [link_dispatchPush, link_startTimeout]

@[simp] theorem link_resendPush (s : Socket (Recorded ω)) (c : ChannelId) (p : PushId)
    (timeout : Nat) : (s.resendPush c p timeout).link = s.link := by
  unfold resendPush
  rw [link_sendPush, link_resetPush, link_modifyPush]

/-! ### A channel closes or fails -/

@[simp] theorem link_eraseChannel (s : Socket (Recorded ω)) (c : ChannelId) :
    (s.eraseChannel c).link = s.link := by
  unfold eraseChannel
  split
  · rfl
  · exact link_discardAll { s with channels := s.channels.erase c } _

@[simp] theorem link_dropChannel (s : Socket (Recorded ω)) (c : ChannelId) :
    (s.dropChannel c).link = s.link := by
  unfold dropChannel
  split
  · rfl
  · exact link_eraseChannel s c

@[simp] theorem link_removeChannel (s : Socket (Recorded ω)) (c : ChannelId) :
    (s.removeChannel c).link = s.link := by
  unfold removeChannel
  split
  · rfl
  · rename_i ch _
    dsimp only
    split
    · exact (link_eraseChannel { s.off ch.socketRefs with
        order := (s.off ch.socketRefs).order.filter (· ≠ c) } c).trans (link_off s ch.socketRefs)
    · exact link_off s ch.socketRefs

@[simp] theorem link_closeChannel (s : Socket (Recorded ω)) (c : ChannelId) :
    (s.closeChannel c).link = s.link := by
  unfold closeChannel
  rw [link_removeChannel, link_modifyChannel]

@[simp] theorem link_scheduleRejoinIfConnected (s : Socket (Recorded ω)) (c : ChannelId) :
    (s.scheduleRejoinIfConnected c).link = s.link := by
  unfold scheduleRejoinIfConnected
  split
  · exact link_scheduleRejoin s c
  · rfl

@[simp] theorem link_failChannel (s : Socket (Recorded ω)) (c : ChannelId) :
    (s.failChannel c).link = s.link := by
  unfold failChannel
  split
  · rfl
  · dsimp only
    rw [link_scheduleRejoinIfConnected, link_markErrored]
    split
    · exact link_resetPush s c joinPush
    · rfl

/-! ### Replies -/

@[simp] theorem link_acceptJoin (s : Socket (Recorded ω)) (c : ChannelId) :
    (s.acceptJoin c).link = s.link := by
  unfold acceptJoin
  split
  · rfl
  · exact (link_foldl (fun s p => link_sendPush s c p) _ _).trans (link_modifyChannel s c _)

@[simp] theorem link_abandonJoin (s : Socket (Recorded ω)) (c : ChannelId) :
    (s.abandonJoin c).link = s.link := by
  unfold abandonJoin
  split
  · rfl
  · dsimp only
    rw [link_scheduleRejoinIfConnected, link_resetPush, link_markErrored, link_sendPush,
      link_modifyChannel, link_drawPush]

/-- A dispatch leaves the link alone. -/
def KeepsLink (dispatch : Dispatch (Recorded ω)) : Prop :=
  ∀ c event payload ref joinRef s, (dispatch c event payload ref joinRef s).link = s.link

variable {dispatch : Dispatch (Recorded ω)}

theorem KeepsLink.react (h : KeepsLink dispatch) (c : ChannelId) (reaction : Reaction)
    (s : Socket (Recorded ω)) : (s.react dispatch c reaction).link = s.link := by
  cases reaction with
  | joinOk => exact link_acceptJoin s c
  | joinError =>
    simp only [Socket.react]
    split
    · rw [link_scheduleRejoinIfConnected, link_markErrored]
    · rfl
  | joinTimeout => exact link_abandonJoin s c
  | leaveDone => exact h c _ _ _ _ s

theorem KeepsLink.runReplyHook (h : KeepsLink dispatch) (c : ChannelId) (p : PushId) (reply : Reply)
    (s : Socket (Recorded ω)) (index : Nat) :
    (s.runReplyHook dispatch c p reply index).link = s.link := by
  unfold Socket.runReplyHook
  split
  · rfl
  · split
    · dsimp only
      split
      · exact link_perform_eq s rfl
      · exact (h.react c _ _).trans (link_perform_eq s rfl)
    · rfl

theorem link_settlePush (s : Socket (Recorded ω)) (c : ChannelId) (p : PushId) (push : Push)
    (reply : Reply) : (s.settlePush c p push reply).link = s.link := by
  unfold settlePush
  dsimp only
  rw [link_perform_eq _ rfl, link_modifyChannel, link_performAll, link_modifyPush]
  simp [Effect.concernsTransport]

theorem KeepsLink.resolvePush (h : KeepsLink dispatch) (c : ChannelId) (p : PushId) (reply : Reply)
    (s : Socket (Recorded ω)) : (s.resolvePush dispatch c p reply).link = s.link := by
  unfold Socket.resolvePush
  split
  · rfl
  · dsimp only
    rw [link_releasePush, runReplyHooks]
    exact (link_foldl (h.runReplyHook c p reply) _ _).trans (link_settlePush s c p _ reply)

/-! ### Events -/

theorem KeepsLink.runTarget (h : KeepsLink dispatch) (c : ChannelId) (event : InboundEvent)
    (target : Target) (s : Socket (Recorded ω)) :
    (s.runTarget dispatch c event target).link = s.link := by
  cases target with
  | listener listener => cases listener <;> exact link_perform_eq s rfl
  | redirect =>
    simp only [Socket.runTarget, redirect]
    split
    · exact h c _ _ _ _ s
    · rfl
  | resolve p =>
    simp only [Socket.runTarget]
    split
    · exact h.resolvePush c p _ s
    · rfl
  | close => exact link_closeChannel s c
  | error => exact link_failChannel s c

theorem KeepsLink.runBinding (h : KeepsLink dispatch) (c : ChannelId) (event : InboundEvent)
    (s : Socket (Recorded ω)) (number : BindingId) :
    (s.runBinding dispatch c event number).link = s.link := by
  unfold Socket.runBinding
  split
  · exact h.runTarget c event _ s
  · rfl

theorem link_passHook (s : Socket (Recorded ω)) (ch : Channel) (event : String) (payload : Payload)
    (ref : Option Ref) : (s.passHook ch event payload ref).2.link = s.link := by
  unfold passHook
  split
  · rfl
  · dsimp only
    split
    · rfl
    · split
      · exact link_report _ _
      · rfl

theorem KeepsLink.dispatchWith (h : KeepsLink dispatch) : KeepsLink (dispatchWith dispatch) := by
  intro c event payload ref joinRef s
  unfold Socket.dispatchWith
  split
  · rfl
  · rename_i ch _
    have hpass := link_passHook s ch event payload ref
    split
    · rename_i heq
      rwa [heq] at hpass
    · rename_i heq
      rw [heq] at hpass
      unfold runBindings
      split
      · exact hpass
      · exact (link_foldl (h.runBinding c _) _ _).trans hpass

theorem keepsLink_dispatchTo (n : Nat) : KeepsLink (ω := ω) (dispatchTo n) := by
  induction n with
  | zero => exact fun _ _ _ _ _ _ => rfl
  | succ n ih => exact ih.dispatchWith

@[simp] theorem link_trigger (s : Socket (Recorded ω)) (c : ChannelId) (event : String)
    (payload : Payload) (ref joinRef : Option Ref) :
    (s.trigger c event payload ref joinRef).link = s.link :=
  keepsLink_dispatchTo 3 c event payload ref joinRef s

/-- The channels that are told of a failure leave the link alone. -/
@[simp] theorem link_triggerErrors (s : Socket (Recorded ω)) : s.triggerErrors.link = s.link := by
  refine link_foldl (fun s c => ?_) s.order s
  split
  · split
    · exact link_trigger s c _ _ _ _
    · rfl
  · rfl

@[simp] theorem link_triggerPush (s : Socket (Recorded ω)) (c : ChannelId) (p : PushId)
    (status : String) (response : Payload) :
    (s.triggerPush c p status response).link = s.link := by
  unfold triggerPush
  split
  · exact link_trigger s c _ _ _ _
  · rfl

@[simp] theorem link_pushTimeout (s : Socket (Recorded ω)) (c : ChannelId) (p : PushId)
    (generation : Nat) : (s.pushTimeout c p generation).link = s.link := by
  unfold pushTimeout
  split
  · rfl
  · exact link_triggerPush _ c p _ _

@[simp] theorem link_deliver (m : Message) (s : Socket (Recorded ω)) (c : ChannelId) :
    (deliver m s c).link = s.link := by
  unfold deliver
  split
  · exact link_trigger s c _ _ _ _
  · rfl

/-! ### Handles and timers of channels -/

@[simp] theorem link_leave (s : Socket (Recorded ω)) (c : ChannelId) (p : PushId) (timeout : Nat)
    (detached : Bool) : (s.leave c p timeout detached).link = s.link := by
  unfold leave
  split
  · rfl
  · dsimp only
    split
    · exact link_sendPush _ c p
    · exact (link_triggerPush _ c p _ _).trans (link_sendPush _ c p)

@[simp] theorem link_leaveOpenTopic (s : Socket (Recorded ω)) (topic : String) (c : ChannelId) :
    (s.leaveOpenTopic topic c).link = s.link := by
  unfold leaveOpenTopic
  split
  · rfl
  · split
    · rfl
    · exact link_leave _ _ _ _ _

@[simp] theorem link_rejoin (s : Socket (Recorded ω)) (c : ChannelId) :
    (s.rejoin c).link = s.link := by
  unfold rejoin
  split
  · rfl
  · rename_i ch _
    split
    · rfl
    · dsimp only
      split
      · exact link_leaveOpenTopic s ch.topic c
      · rw [link_resendPush, link_modifyChannel, link_leaveOpenTopic]

@[simp] theorem link_push (s : Socket (Recorded ω)) (c : ChannelId) (p : PushId) (event : String)
    (payload : Payload) (timeout : Nat) : (s.push c p event payload timeout).link = s.link := by
  unfold push
  split
  · rfl
  · dsimp only
    split
    · exact link_sendPush _ c p
    · exact link_startTimeout _ c p

@[simp] theorem link_receive (s : Socket (Recorded ω)) (c : ChannelId) (p : PushId)
    (status : String) (callback : CallbackId) :
    (s.receive c p status callback).link = s.link := by
  unfold receive
  split
  · rfl
  · dsimp only
    rw [link_modifyPush]
    split
    · split
      · exact link_perform_eq s rfl
      · rfl
    · rfl

@[simp] theorem link_awaitReply (s : Socket (Recorded ω)) (c : ChannelId) (p : PushId)
    (ticket : Ticket) : (s.awaitReply c p ticket).link = s.link := by
  unfold awaitReply
  split
  · exact link_perform_eq s rfl
  · split
    · exact link_perform_eq s rfl
    · rfl

@[simp] theorem link_tell (s : Socket (Recorded ω)) (c : ChannelId) (ticket : Ticket)
    (f : Channel → Answer) : (s.tell c ticket f).link = s.link := by
  unfold tell
  split <;> exact link_perform_eq s rfl

@[simp] theorem link_channelOp (s : Socket (Recorded ω)) (c : ChannelId) (op : ChannelOp) :
    (s.channelOp c op).link = s.link := by
  unfold channelOp
  split
  · cases op with
    | join timeout => exact link_rejoin _ c
    | push p event payload timeout => exact link_push s c p event payload timeout
    | leave p timeout => exact link_leave s c p timeout false
    | bind binding event listener => rfl
    | unbind event binding => rfl
    | setHook hook => rfl
    | receive p status callback => exact link_receive s c p status callback
    | awaitReply p ticket => exact link_awaitReply s c p ticket
    | release p => exact link_release s c p
    | askState ticket => exact link_tell s c ticket _
    | askJoinRef ticket => exact link_tell s c ticket _
    | askRejoinTries ticket => exact link_tell s c ticket _
  · split
    · exact link_perform_eq s rfl
    · rfl

@[simp] theorem link_rejoinTimeout (s : Socket (Recorded ω)) (c : ChannelId) (generation : Nat) :
    (s.rejoinTimeout c generation).link = s.link := by
  unfold rejoinTimeout
  split
  · rfl
  · dsimp only
    split
    · exact link_rejoin _ c
    · rfl

/-! ### Callbacks of the socket -/

@[simp] theorem link_runOnOpen (s : Socket (Recorded ω)) (ref : Ref) :
    (runOnOpen s ref).link = s.link := by
  unfold runOnOpen
  split
  · exact link_perform_eq s rfl
  · unfold rejoinIfErrored
    split
    · rfl
    · dsimp only
      split
      · exact link_rejoin _ _
      · rfl
  · rfl

@[simp] theorem link_runOnClose (event : CloseEvent) (s : Socket (Recorded ω)) (ref : Ref) :
    (runOnClose event s ref).link = s.link := by
  unfold runOnClose
  split
  · exact link_perform_eq s rfl
  · rfl

theorem link_runOnErrors (failure : SocketError) (refs : List Ref) (context : ErrorContext)
    (s : Socket (Recorded ω)) :
    (refs.foldl (runOnError failure) (context, s)).2.link = s.link := by
  induction refs generalizing context s with
  | nil => rfl
  | cons ref refs ih =>
    rw [List.foldl_cons]
    refine (ih _ (runOnError failure (context, s) ref).2).trans ?_
    unfold runOnError
    dsimp only
    split
    · exact link_runError s _ failure context
    · exact link_resetRejoin s _
    · rfl

@[simp] theorem link_runOnMessage (m : Message) (s : Socket (Recorded ω)) (ref : Ref) :
    (runOnMessage m s ref).link = s.link := by
  unfold runOnMessage
  split
  · exact link_perform_eq s rfl
  · split
    · exact link_perform_eq s rfl
    · rfl
  · rfl

end Socket

end Switchboard
