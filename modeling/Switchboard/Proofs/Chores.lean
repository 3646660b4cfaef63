import Switchboard.Proofs.Watched

/-!
# Chores of a socket

Whatever a socket does while it carries out a command is a sequence of chores, and each chore is an
exact piece of it: a message is accepted, the waiting messages are sent, an effect happens, a hook or an
error callback runs, a number is drawn, a transport is opened.  In between only such parts change that
mails, connections and callbacks do not depend on.  So between two chores the socket is in a state that
it really goes through, and what holds of each chore holds of each command.

Messages that wait are forgotten by one chore only, and that takes a command that supplants the
transport.

Main definitions

* `Socket.Supplants`: a command makes a socket go on with another kind of transport;
* `Socket.Chore`, `Socket.Chores`.

Main results

* `Socket.chores_handle`: every command is carried out in chores.
-/

set_option autoImplicit false

namespace Switchboard

/-- An effect by which a message is accepted or a frame is handed over. -/
def Effect.isPostal : Effect → Bool
  | .send .. | .accept .. => true
  | _ => false

/-- Numbers are drawn, and timers are armed. -/
inductive Exchange.Draws : Exchange → Exchange → Prop
  | ref (x : Exchange) : Draws x x.drawRef.2
  | push (x : Exchange) (c : ChannelId) : Draws x (x.drawPush c).2
  | binding (x : Exchange) (c : ChannelId) : Draws x (x.drawBinding c).2
  | arm (x : Exchange) (delay : Nat) (event : TimerEvent) : Draws x (x.arm delay event)

/-- The user's callback of an entry, if it is one. -/
def OnError.user? : OnError → Option CallbackId
  | .callback number => some number
  | .resetRejoin _ => none

/-- The user's error callbacks, in the order of registration. -/
def Callbacks.userErrors (callbacks : Callbacks) : List CallbackId :=
  callbacks.onError.filterMap fun e => e.2.user?

namespace Socket

variable {ω : Type}

/-- Only parts have changed that neither mails nor callbacks nor the surroundings depend on. -/
structure Offstage (s t : Socket ω) : Prop where
  conn : t.conn = s.conn
  sendBuffer : t.sendBuffer = s.sendBuffer
  callbacks : t.callbacks = s.callbacks
  exchange : t.exchange = s.exchange
  outside : t.outside = s.outside

section Outside

variable [Outside ω]

/-- A command makes a socket go on with another kind of transport: it asks for one, or it tells that
the transport of the connection has failed, and the error callbacks then choose one. -/
def Supplants (s : Socket ω) : Command → Prop
  | .replaceTransport _ => True
  | .transport t (.failed cause) => ∃ c, s.conn = some c ∧ c.transport = t ∧
      (s.pruneRetired.callbacks.onError.refs.foldl (runOnError (.transport cause))
        (s.pruneRetired.errorContext, s.pruneRetired)).1.fallback.isSome = true
  | _ => False

/-- One thing that a socket does while it carries out a command which it began in state `w`. -/
inductive Chore (w : Socket ω) (cmd : Command) : Socket ω → Socket ω → Prop
  | draws {s : Socket ω} {x : Exchange} (draws : s.exchange.Draws x) :
    Chore w cmd s { s with exchange := x }
  | offstage {s t : Socket ω} (offstage : Offstage s t) : Chore w cmd s t
  /-- The socket itself registers, or a user does for another occasion. -/
  | registers {s : Socket ω} {callbacks : Callbacks}
    (users : callbacks.userErrors = s.callbacks.userErrors) : Chore w cmd s { s with callbacks }
  | enlists (s : Socket ω) (occasion : Occasion) (ref : Ref) (callback : CallbackId) :
    Chore w cmd s { s with callbacks := s.callbacks.register occasion ref callback }
  | removes (s : Socket ω) (refs : List Ref) :
    Chore w cmd s { s with callbacks := s.callbacks.without refs }
  | perform (s : Socket ω) {e : Effect} (other : e.isPostal = false) : Chore w cmd s (s.perform e)
  | hook (s : Socket ω) (callback : CallbackId) (event : String) (payload : Payload)
    (ref : Option Ref) : Chore w cmd s { s with
      exchange := (Outside.hook callback event payload ref s.exchange s.outside).2.1
      outside := (Outside.hook callback event payload ref s.exchange s.outside).2.2 }
  /-- An error callback hears of a failure, which is not that of an encoding. -/
  | error (s : Socket ω) (callback : CallbackId) {failure : SocketError} (context : ErrorContext)
    (other : ∀ cause, failure ≠ .codec cause) :
    Chore w cmd s (s.runError callback failure context).2
  /-- A message is accepted, and sent or kept. -/
  | push (s : Socket ω) (sender : Sender) (m : Message) : Chore w cmd s (s.pushMessage sender m)
  | flush (s : Socket ω) : Chore w cmd s s.flush
  | opens {s : Socket ω} (vacant : s.conn = none) (url : String) : Chore w cmd s (s.openTransport url)
  | parts (s : Socket ω) : Chore w cmd s { s with conn := none }
  | detaches (s : Socket ω) (t : TransportId) : Chore w cmd s (s.detach t)
  /-- What was asked of the transport before is void, and messages that wait are forgotten. -/
  | replaces (s : Socket ω) (supplants : Supplants w cmd) :
    Chore w cmd s { s.tick.resetReconnect with closeWasClean := true, sendBuffer := [] }
  | shuts (s : Socket ω) : Chore w cmd s { s with exchange := s.exchange.shut }

/-- Any number of chores. -/
abbrev Chores (w : Socket ω) (cmd : Command) : Socket ω → Socket ω → Prop :=
  Relation.ReflTransGen (Chore w cmd)

variable {w s t u : Socket ω} {cmd : Command} {c : ChannelId}

theorem Offstage.chores (h : Offstage s t) : Chores w cmd s t := .single (.offstage h)

/-- Chores are prepared offstage. -/
theorem chores_prepared (h : Chores w cmd t u) (hprepared : Offstage s t) : Chores w cmd s u :=
  .head (.offstage hprepared) h

/-- What is done for each entry of a list is done for all of them. -/
theorem chores_foldl {α : Type} {f : Socket ω → α → Socket ω}
    (hf : ∀ a s, Chores w cmd s (f s a)) (l : List α) (s : Socket ω) :
    Chores w cmd s (l.foldl f s) := by
  induction l generalizing s with
  | nil => exact .refl
  | cons a l ih => exact (hf a s).trans (ih (f s a))

/-! ### Effects and reports -/

theorem chores_perform (s : Socket ω) {e : Effect} (he : e.isPostal = false) :
    Chores w cmd s (s.perform e) := .single (.perform s he)

theorem chores_performAll (s : Socket ω) {es : List Effect} (hes : ∀ e ∈ es, e.isPostal = false) :
    Chores w cmd s (s.performAll es) := by
  induction es generalizing s with
  | nil => exact .refl
  | cons e es ih =>
    refine .head (.perform s (hes e List.mem_cons_self)) (ih (s.perform e) fun e' he' => ?_)
    exact hes e' (List.mem_cons_of_mem _ he')

theorem chores_discardAll (s : Socket ω) (tickets : List Ticket) :
    Chores w cmd s (s.discardAll tickets) := by
  refine chores_performAll s fun e he => ?_
  obtain ⟨ticket, -, rfl⟩ := List.mem_map.mp he
  rfl

theorem chores_off (s : Socket ω) (refs : List Ref) : Chores w cmd s (s.off refs) :=
  .head (.removes s refs) (chores_discardAll { s with callbacks := s.callbacks.without refs } _)

theorem chores_pruneRetired (s : Socket ω) : Chores w cmd s s.pruneRetired := by
  refine .head (.offstage ?_) (chores_performAll _ fun e he => ?_)
  · exact ⟨rfl, rfl, rfl, rfl, rfl⟩
  · obtain ⟨c, -, rfl⟩ := List.mem_map.mp he
    rfl

theorem chores_report (s : Socket ω) {failure : SocketError} (other : ∀ cause, failure ≠ .codec cause) :
    Chores w cmd s (s.report failure) := by
  have hrun : ∀ (registry : Registry OnError) (context : ErrorContext) (s : Socket ω),
      Chores w cmd s (runErrors failure registry context s) := by
    intro registry
    induction registry with
    | nil => exact fun _ _ => .refl
    | cons entry rest ih =>
      intro context s
      obtain ⟨ref, callback | channel⟩ := entry
      · exact .head (.error s callback context other) (ih _ _)
      · exact ih context s
  exact hrun _ _ s

/-! ### Channels -/

theorem chores_drawRef (s : Socket ω) : Chores w cmd s s.drawRef.2 := .single (.draws (.ref _))

theorem chores_drawPush (s : Socket ω) (c : ChannelId) : Chores w cmd s (s.drawPush c).2 :=
  .single (.draws (.push _ c))

theorem chores_drawBinding (s : Socket ω) (c : ChannelId) : Chores w cmd s (s.drawBinding c).2 :=
  .single (.draws (.binding _ c))

theorem chores_arm (s : Socket ω) (delay : Nat) (event : TimerEvent) :
    Chores w cmd s (s.arm delay event) := .single (.draws (.arm _ delay event))

theorem chores_modifyChannel (s : Socket ω) (c : ChannelId) (f : Channel → Channel) :
    Chores w cmd s (s.modifyChannel c f) := Offstage.chores ⟨rfl, rfl, rfl, rfl, rfl⟩

theorem chores_modifyPush (s : Socket ω) (c : ChannelId) (p : PushId) (f : Push → Push) :
    Chores w cmd s (s.modifyPush c p f) := chores_modifyChannel s c _

theorem chores_startTimeout (s : Socket ω) (c : ChannelId) (p : PushId) :
    Chores w cmd s (s.startTimeout c p) := by
  simp only [startTimeout]
  refine (chores_drawRef s).trans ?_
  split
  · exact .refl
  · refine (chores_drawBinding s.drawRef.2 c).trans ?_
    split
    · exact .refl
    · refine .trans ?_ (chores_modifyChannel _ c _)
      refine .trans ?_ (chores_arm _ _ _)
      exact .trans (chores_modifyPush _ c p _) (chores_modifyPush _ c p _)

theorem chores_resetPush (s : Socket ω) (c : ChannelId) (p : PushId) :
    Chores w cmd s (s.resetPush c p) := by
  unfold resetPush
  split
  · exact .refl
  · exact chores_modifyChannel s c _

theorem chores_releasePush (s : Socket ω) (c : ChannelId) (p : PushId) :
    Chores w cmd s (s.releasePush c p) := by
  unfold releasePush
  split
  · exact .refl
  · split
    · exact .refl
    · split
      · exact chores_modifyChannel s c _
      · exact .refl

theorem chores_scheduleRejoin (s : Socket ω) (c : ChannelId) :
    Chores w cmd s (s.scheduleRejoin c) := by
  unfold scheduleRejoin
  split
  · exact .refl
  · exact .trans (chores_modifyChannel s c _) (chores_arm _ _ _)

theorem chores_scheduleRejoinIfConnected (s : Socket ω) (c : ChannelId) :
    Chores w cmd s (s.scheduleRejoinIfConnected c) := by
  unfold scheduleRejoinIfConnected
  split
  · exact chores_scheduleRejoin s c
  · exact .refl

theorem chores_sendPush (s : Socket ω) (c : ChannelId) (p : PushId) :
    Chores w cmd s (s.sendPush c p) := by
  have hdispatch : ∀ s : Socket ω, Chores w cmd s (s.dispatchPush c p) := by
    intro s
    unfold dispatchPush
    split
    · exact .refl
    · dsimp only
      split
      · exact chores_modifyChannel s c _
      · exact .tail ((chores_modifyChannel s c _).trans (chores_modifyPush _ c p _)) (.push _ _ _)
  unfold sendPush
  split
  · exact .refl
  · split
    · exact .refl
    · exact (chores_startTimeout s c p).trans (hdispatch _)

theorem chores_resendPush (s : Socket ω) (c : ChannelId) (p : PushId) (timeout : Nat) :
    Chores w cmd s (s.resendPush c p timeout) :=
  (chores_modifyPush s c p _).trans ((chores_resetPush _ c p).trans (chores_sendPush _ c p))

/-! ### A channel closes or fails -/

theorem chores_eraseChannel (s : Socket ω) (c : ChannelId) :
    Chores w cmd s (s.eraseChannel c) := by
  unfold eraseChannel
  split
  · exact .refl
  · refine .trans ?_ (chores_discardAll _ _)
    exact Offstage.chores ⟨rfl, rfl, rfl, rfl, rfl⟩

theorem chores_dropChannel (s : Socket ω) (c : ChannelId) : Chores w cmd s (s.dropChannel c) := by
  unfold dropChannel
  split
  · exact chores_modifyChannel s c _
  · exact chores_eraseChannel s c

theorem chores_closeChannel (s : Socket ω) (c : ChannelId) : Chores w cmd s (s.closeChannel c) := by
  have hremove : ∀ s : Socket ω, Chores w cmd s (s.removeChannel c) := by
    intro s
    unfold removeChannel
    split
    · exact .refl
    · rename_i ch _
      have hstruck : Chores w cmd s { s.off ch.socketRefs with
          order := (s.off ch.socketRefs).order.filter (· ≠ c) } :=
        (chores_off s ch.socketRefs).tail (.offstage ⟨rfl, rfl, rfl, rfl, rfl⟩)
      dsimp only
      split
      · exact hstruck.trans (chores_eraseChannel _ c)
      · exact hstruck
  unfold closeChannel
  exact .trans (chores_modifyChannel s c _) (hremove _)

theorem chores_failChannel (s : Socket ω) (c : ChannelId) : Chores w cmd s (s.failChannel c) := by
  unfold failChannel
  split
  · exact .refl
  · dsimp only
    refine .trans ?_ (chores_scheduleRejoinIfConnected _ c)
    refine .trans ?_ (chores_modifyChannel _ c _)
    split
    · exact chores_resetPush s c joinPush
    · exact .refl

/-! ### Replies -/

theorem chores_acceptJoin (s : Socket ω) (c : ChannelId) : Chores w cmd s (s.acceptJoin c) := by
  unfold acceptJoin
  split
  · exact .refl
  · exact .trans (chores_modifyChannel s c _) (chores_foldl (fun p s => chores_sendPush s c p) _ _)

theorem chores_abandonJoin (s : Socket ω) (c : ChannelId) : Chores w cmd s (s.abandonJoin c) := by
  unfold abandonJoin
  split
  · exact .refl
  · dsimp only
    refine .trans ?_ (chores_scheduleRejoinIfConnected _ c)
    refine .trans ?_ (chores_resetPush _ c joinPush)
    refine .trans ?_ (chores_modifyChannel _ c _)
    refine .trans ?_ (chores_sendPush _ c _)
    exact (chores_drawPush s c).trans (chores_modifyChannel _ c _)

/-- All that a dispatch does is chores. -/
def Dispatch.IsChores (w : Socket ω) (cmd : Command) (dispatch : Dispatch ω) : Prop :=
  ∀ c event payload ref joinRef s, Chores w cmd s (dispatch c event payload ref joinRef s)

variable {dispatch : Dispatch ω}

theorem Dispatch.IsChores.react (h : dispatch.IsChores w cmd) (c : ChannelId) (reaction : Reaction)
    (s : Socket ω) : Chores w cmd s (s.react dispatch c reaction) := by
  cases reaction with
  | joinOk => exact chores_acceptJoin s c
  | joinError =>
    simp only [Socket.react]
    split
    · exact .trans (chores_modifyChannel s c _) (chores_scheduleRejoinIfConnected _ c)
    · exact .refl
  | joinTimeout => exact chores_abandonJoin s c
  | leaveDone => exact h c _ _ _ _ s

theorem Dispatch.IsChores.runReplyHook (h : dispatch.IsChores w cmd) (c : ChannelId) (p : PushId)
    (reply : Reply) (s : Socket ω) (index : Nat) :
    Chores w cmd s (s.runReplyHook dispatch c p reply index) := by
  unfold Socket.runReplyHook
  split
  · exact .refl
  · rename_i status hook _
    split
    · have hran : Chores w cmd s (s.perform (.runReply c p hook reply)) := chores_perform s rfl
      cases hook with
      | callback callback => exact hran
      | channel reaction => exact hran.trans (h.react c reaction _)
    · exact .refl

theorem Dispatch.IsChores.resolvePush (h : dispatch.IsChores w cmd) (c : ChannelId) (p : PushId)
    (reply : Reply) (s : Socket ω) : Chores w cmd s (s.resolvePush dispatch c p reply) := by
  have hsettle : ∀ push : Push, Chores w cmd s (s.settlePush c p push reply) := by
    intro push
    unfold settlePush
    refine .trans ?_ (chores_perform _ rfl)
    refine .trans ?_ (chores_modifyChannel _ c _)
    refine .trans (chores_modifyPush s c p _) (chores_performAll _ fun e he => ?_)
    obtain ⟨ticket, -, rfl⟩ := List.mem_map.mp he
    rfl
  unfold Socket.resolvePush
  split
  · exact .refl
  · rename_i push _
    refine .trans ((hsettle push).trans ?_) (chores_releasePush _ c p)
    exact chores_foldl (fun index s => h.runReplyHook c p reply s index) _ _

/-! ### Events -/

theorem Dispatch.IsChores.runTarget (h : dispatch.IsChores w cmd) (c : ChannelId)
    (event : InboundEvent) (target : Target) (s : Socket ω) :
    Chores w cmd s (s.runTarget dispatch c event target) := by
  cases target with
  | listener l => cases l <;> exact chores_perform s rfl
  | redirect =>
    simp only [Socket.runTarget, redirect]
    split
    · exact h c _ _ _ _ s
    · exact .refl
  | resolve p =>
    simp only [Socket.runTarget]
    split
    · exact h.resolvePush c p _ s
    · exact .refl
  | close => exact chores_closeChannel s c
  | error => exact chores_failChannel s c

theorem chores_passHook (s : Socket ω) (ch : Channel) (event : String) (payload : Payload)
    (ref : Option Ref) : Chores w cmd s (s.passHook ch event payload ref).2 := by
  unfold passHook
  split
  · exact .refl
  · rename_i callback _
    have hran : Chore w cmd s _ := .hook s callback event payload ref
    dsimp only
    split
    · exact .single hran
    · split
      · exact .head hran (chores_report _ nofun)
      · exact .single hran

theorem Dispatch.IsChores.dispatchWith (h : dispatch.IsChores w cmd) :
    Dispatch.IsChores w cmd (dispatchWith dispatch) := by
  intro c event payload ref joinRef s
  unfold Socket.dispatchWith
  split
  · exact .refl
  · rename_i ch _
    have hpass : Chores w cmd s (s.passHook ch event payload ref).2 :=
      chores_passHook s ch event payload ref
    split
    · rename_i heq
      rwa [heq] at hpass
    · rename_i heq
      rw [heq] at hpass
      refine hpass.trans ?_
      unfold runBindings
      split
      · exact .refl
      · refine chores_foldl (fun number s => ?_) _ _
        unfold runBinding
        split
        · exact h.runTarget c _ _ s
        · exact .refl

theorem isChores_dispatchTo (n : Nat) : Dispatch.IsChores w cmd (dispatchTo n) := by
  induction n with
  | zero => exact fun _ _ _ _ _ _ => .refl
  | succ n ih => exact ih.dispatchWith

theorem chores_trigger (s : Socket ω) (c : ChannelId) (event : String) (payload : Payload)
    (ref joinRef : Option Ref) : Chores w cmd s (s.trigger c event payload ref joinRef) :=
  isChores_dispatchTo 3 c event payload ref joinRef s

theorem chores_triggerErrors (s : Socket ω) : Chores w cmd s s.triggerErrors := by
  refine chores_foldl (fun c s => ?_) _ _
  split
  · split
    · exact chores_trigger s _ _ _ _ _
    · exact .refl
  · exact .refl

theorem chores_triggerPush (s : Socket ω) (c : ChannelId) (p : PushId) (status : String)
    (response : Payload) : Chores w cmd s (s.triggerPush c p status response) := by
  unfold triggerPush
  split
  · exact chores_trigger s _ _ _ _ _
  · exact .refl

theorem chores_pushTimeout (s : Socket ω) (c : ChannelId) (p : PushId) (generation : Nat) :
    Chores w cmd s (s.pushTimeout c p generation) := by
  unfold pushTimeout
  split
  · exact .refl
  · exact .trans (chores_modifyPush s c p _) (chores_triggerPush _ c p _ _)

/-! ### Handles and timers of channels -/

theorem chores_createChannel (s : Socket ω) (c : ChannelId) (topic : String) (params : Params) :
    Chores w cmd s (s.createChannel c topic params) := by
  have hdrawn : Chores w cmd s s.drawRef.2.drawRef.2 := (chores_drawRef s).trans (chores_drawRef _)
  have husers : ({ s.callbacks with
      onError := s.callbacks.onError ++ [(s.drawRef.1, .resetRejoin c)]
      onOpen := s.callbacks.onOpen ++ [(s.drawRef.2.drawRef.1, .rejoin c)] } : Callbacks).userErrors =
      s.callbacks.userErrors := by simp [Callbacks.userErrors, OnError.user?]
  exact (hdrawn.tail (.registers husers)).tail (.offstage ⟨rfl, rfl, rfl, rfl, rfl⟩)

theorem chores_leave (s : Socket ω) (c : ChannelId) (p : PushId) (timeout : Nat) (detached : Bool) :
    Chores w cmd s (s.leave c p timeout detached) := by
  unfold leave
  split
  · exact .refl
  · dsimp only
    split
    · exact .trans (chores_modifyChannel s c _) (chores_sendPush _ c p)
    · refine .trans ?_ (chores_triggerPush _ c p _ _)
      exact .trans (chores_modifyChannel s c _) (chores_sendPush _ c p)

/-- A join attempt may displace another channel of the topic. -/
theorem chores_rejoin (s : Socket ω) (c : ChannelId) : Chores w cmd s (s.rejoin c) := by
  have hdisplace : ∀ topic, Chores w cmd s (s.leaveOpenTopic topic c) := by
    intro topic
    unfold leaveOpenTopic
    split
    · exact .refl
    · split
      · exact .refl
      · exact (chores_drawPush s _).trans (chores_leave _ _ _ _ _)
  unfold rejoin
  split
  · exact .refl
  · rename_i ch _
    split
    · exact .refl
    · refine (hdisplace ch.topic).trans ?_
      dsimp only
      split
      · exact .refl
      · exact .trans (chores_modifyChannel _ c _) (chores_resendPush _ c joinPush _)

theorem chores_rejoinTimeout (s : Socket ω) (c : ChannelId) (generation : Nat) :
    Chores w cmd s (s.rejoinTimeout c generation) := by
  unfold rejoinTimeout
  split
  · exact .refl
  · dsimp only
    split
    · exact .trans (chores_modifyChannel s c _) (chores_rejoin _ c)
    · exact chores_modifyChannel s c _

theorem chores_push (s : Socket ω) (c : ChannelId) (p : PushId) (event : String) (payload : Payload)
    (timeout : Nat) : Chores w cmd s (s.push c p event payload timeout) := by
  unfold push
  split
  · exact .refl
  · dsimp only
    split
    · exact .trans (chores_modifyChannel s c _) (chores_sendPush _ c p)
    · refine .trans ?_ (chores_modifyChannel _ c _)
      exact .trans (chores_modifyChannel s c _) (chores_startTimeout _ c p)

theorem chores_tell (s : Socket ω) (c : ChannelId) (ticket : Ticket) (f : Channel → Answer) :
    Chores w cmd s (s.tell c ticket f) := by
  unfold tell
  split <;> exact chores_perform s rfl

theorem chores_channelOp (s : Socket ω) (c : ChannelId) (op : ChannelOp) :
    Chores w cmd s (s.channelOp c op) := by
  unfold channelOp
  split
  · cases op with
    | join timeout => exact .trans (chores_modifyChannel s c _) (chores_rejoin _ c)
    | push p event payload timeout => exact chores_push s c p event payload timeout
    | leave p timeout => exact chores_leave s c p timeout false
    | bind binding event listener => exact chores_modifyChannel s c _
    | unbind event binding => exact chores_modifyChannel s c _
    | setHook hook => exact chores_modifyChannel s c _
    | receive p status callback =>
      simp only [applyOp, receive]
      split
      · exact .refl
      · refine .trans ?_ (chores_modifyPush _ c p _)
        split
        · split
          · exact chores_perform s rfl
          · exact .refl
        · exact .refl
    | awaitReply p ticket =>
      simp only [applyOp, awaitReply]
      split
      · exact chores_perform s rfl
      · split
        · exact chores_perform s rfl
        · exact chores_modifyPush s c p _
    | release p =>
      simp only [applyOp, release]
      split
      · exact .refl
      · exact .trans (chores_modifyPush s c p _) (chores_releasePush _ c p)
    | askState ticket => exact chores_tell s c ticket _
    | askJoinRef ticket => exact chores_tell s c ticket _
    | askRejoinTries ticket => exact chores_tell s c ticket _
  · split
    · exact chores_perform s rfl
    · exact .refl

/-! ### Connecting -/

theorem chores_connect (s : Socket ω) : Chores w cmd s s.connect := by
  unfold connect
  split
  · exact .refl
  · rename_i hconn
    have hvacant : s.conn = none := by simpa using hconn
    rcases s.config.params.resolve with ⟨value, params⟩
    dsimp only
    set s₁ : Socket ω := { s.tick with
      closeWasClean := false, config := { s.config with params := params } }
    have hready : Chores w cmd s s₁ := Offstage.chores ⟨rfl, rfl, rfl, rfl, rfl⟩
    split
    · exact hready.tail (.opens (s := s₁) hvacant _)
    · exact hready.trans (chores_report s₁ nofun)

theorem chores_replaceTransport (hw : Supplants w cmd) (s : Socket ω) (factory : Factory) :
    Chores w cmd s (s.replaceTransport factory) := by
  have hretire : ∀ s : Socket ω, Chores w cmd s s.retire := by
    intro s
    unfold retire
    split
    · exact .refl
    · rename_i c _
      refine .trans ?_ (chores_triggerErrors _)
      have hparted : Chores w cmd s ({ s with conn := none }.detach c.transport) :=
        .head (.parts s) (.single (.detaches _ _))
      have hclosed := hparted.trans (chores_perform _ (e := .close c.transport none none) rfl)
      exact hclosed.tail (.offstage ⟨rfl, rfl, rfl, rfl, rfl⟩)
  refine .head (.replaces s hw) (.trans ((chores_pruneRetired _).trans (hretire _)) ?_)
  exact Offstage.chores ⟨rfl, rfl, rfl, rfl, rfl⟩

/-! ### Teardown -/

theorem chores_notifyAll (s : Socket ω) (tickets : List Ticket) :
    Chores w cmd s (s.notifyAll tickets) := by
  refine chores_performAll s fun e he => ?_
  obtain ⟨ticket, -, rfl⟩ := List.mem_map.mp he
  rfl

theorem chores_scheduleReconnect (s : Socket ω) : Chores w cmd s s.scheduleReconnect :=
  chores_prepared (chores_arm _ _ _) ⟨rfl, rfl, rfl, rfl, rfl⟩

theorem chores_continueWith (s : Socket ω) (k : Continuation) (clock : Nat) :
    Chores w cmd s (s.continueWith k clock) := by
  cases k with
  | connect =>
    simp only [continueWith]
    split
    · exact chores_connect s
    · exact .refl
  | scheduleReconnect =>
    simp only [continueWith]
    split
    · exact chores_scheduleReconnect s
    · exact .refl
  | notify ticket => exact chores_perform s rfl
  | nothing => exact .refl

theorem chores_closeConnection (s : Socket ω) (code : Option Nat) (reason : Option String) :
    Chores w cmd s (s.closeConnection code reason) := by
  unfold closeConnection
  split
  · exact .refl
  · exact chores_perform s rfl

theorem chores_dropConnection (s : Socket ω) : Chores w cmd s s.dropConnection := by
  unfold dropConnection
  split
  · exact .refl
  · refine .trans ?_ (chores_perform _ rfl)
    exact .head (.parts s) (.single (.detaches _ _))

theorem chores_stepTeardown (s : Socket ω) (t : Teardown) : Chores w cmd s (s.stepTeardown t) := by
  have hawaits : ∀ (t : Teardown) (delay : Nat), Chores w cmd s (s.awaitTeardown t delay) :=
    fun t delay => chores_prepared (chores_arm _ _ _) ⟨rfl, rfl, rfl, rfl, rfl⟩
  unfold stepTeardown
  split
  · split
    · exact hawaits _ _
    · exact .trans (hawaits _ _) (chores_closeConnection _ _ _)
  · split
    · exact hawaits _ _
    · refine .trans ?_ (chores_continueWith _ _ _)
      refine .trans ?_ (chores_notifyAll _ _)
      refine chores_prepared (chores_dropConnection _) ⟨rfl, rfl, rfl, rfl, rfl⟩

theorem chores_teardownTimeout (s : Socket ω) (number generation : Nat) :
    Chores w cmd s (s.teardownTimeout number generation) := by
  unfold teardownTimeout
  split
  · exact .refl
  · split
    · split
      · exact chores_prepared (chores_stepTeardown _ _) ⟨rfl, rfl, rfl, rfl, rfl⟩
      · exact .refl
    · exact .refl

theorem chores_beginTeardown (s : Socket ω) (code : Option Nat) (reason : Option String)
    (k : Continuation) : Chores w cmd s (s.beginTeardown code reason k) := by
  simp only [beginTeardown]
  split
  · set s₁ : Socket ω := { s with teardown := none }
    have htold : Chores w cmd s₁
        ((s₁.notifyAll s.teardownCallers).continueWith k s.connectClock) :=
      .trans (chores_notifyAll _ _) (chores_continueWith _ k _)
    exact chores_prepared htold ⟨rfl, rfl, rfl, rfl, rfl⟩
  · exact chores_prepared (chores_stepTeardown _ _) ⟨rfl, rfl, rfl, rfl, rfl⟩

theorem chores_disconnect (s : Socket ω) (code : Option Nat) (reason : Option String)
    (k : Continuation) : Chores w cmd s (s.disconnect code reason k) :=
  chores_prepared (chores_beginTeardown _ code reason k) ⟨rfl, rfl, rfl, rfl, rfl⟩

/-! ### Signs of life -/

theorem chores_restartHeartbeat (s : Socket ω) : Chores w cmd s s.restartHeartbeat :=
  chores_prepared (chores_arm _ _ _) ⟨rfl, rfl, rfl, rfl, rfl⟩

theorem chores_armHeartbeatTimeout (s : Socket ω) : Chores w cmd s s.armHeartbeatTimeout :=
  chores_prepared (chores_arm _ _ _) ⟨rfl, rfl, rfl, rfl, rfl⟩

theorem chores_sendHeartbeat (s : Socket ω) : Chores w cmd s s.sendHeartbeat := by
  unfold sendHeartbeat
  split
  · exact .refl
  · refine .trans ?_ (chores_armHeartbeatTimeout _)
    refine .tail ?_ (.push _ .socket _)
    exact (chores_drawRef s).tail (.offstage ⟨rfl, rfl, rfl, rfl, rfl⟩)

theorem chores_heartbeatDue (s : Socket ω) (generation : Nat) :
    Chores w cmd s (s.heartbeatDue generation) := by
  unfold heartbeatDue
  split
  · exact chores_prepared (chores_sendHeartbeat _) ⟨rfl, rfl, rfl, rfl, rfl⟩
  · exact .refl

theorem chores_heartbeatTimeoutDue (s : Socket ω) (generation : Nat) :
    Chores w cmd s (s.heartbeatTimeoutDue generation) := by
  unfold heartbeatTimeoutDue
  split
  · exact .refl
  · rename_i timer _
    dsimp only
    split
    · set s₁ : Socket ω := { s with heartbeatTimeout := timer, pendingHeartbeat := none }
      have htold : Chores w cmd s { s₁.triggerErrors with closeWasClean := false } :=
        .tail (chores_prepared (chores_triggerErrors s₁) ⟨rfl, rfl, rfl, rfl, rfl⟩)
          (.offstage ⟨rfl, rfl, rfl, rfl, rfl⟩)
      exact htold.trans (chores_beginTeardown _ _ _ .scheduleReconnect)
    · exact Offstage.chores ⟨rfl, rfl, rfl, rfl, rfl⟩

theorem chores_ping (s : Socket ω) (ticket : Ticket) : Chores w cmd s (s.ping ticket) := by
  unfold ping
  split
  · exact chores_perform s rfl
  · have hsent : Chores w cmd s
        (s.drawRef.2.pushMessage .socket (.heartbeat s.drawRef.1)).drawRef.2 :=
      .trans ((chores_drawRef s).tail (.push _ _ _)) (chores_drawRef _)
    exact hsent.tail (.registers rfl)

/-! ### What transports report -/

theorem chores_runOnOpen (s : Socket ω) (ref : Ref) : Chores w cmd s (runOnOpen s ref) := by
  unfold runOnOpen
  split
  · exact chores_perform s rfl
  · unfold rejoinIfErrored
    split
    · exact .refl
    · dsimp only
      split
      · exact .trans (chores_modifyChannel s _ _) (chores_rejoin _ _)
      · exact chores_modifyChannel s _ _
  · exact .refl

theorem chores_resetHeartbeat (s : Socket ω) : Chores w cmd s s.resetHeartbeat := by
  unfold resetHeartbeat
  split
  · split
    · exact .refl
    · exact chores_restartHeartbeat s
  · exact chores_restartHeartbeat s

theorem chores_connectionOpened (s : Socket ω) : Chores w cmd s s.connectionOpened := by
  refine .trans ?_ (chores_foldl (fun ref s => chores_runOnOpen s ref) _ _)
  refine .trans ?_ (chores_resetHeartbeat _)
  set s₁ : Socket ω := { s with
    closeWasClean := false, established := min (s.established + 1) attemptLimit }
  have hflushed : Chores w cmd s s₁.flush :=
    chores_prepared (.single (.flush s₁)) ⟨rfl, rfl, rfl, rfl, rfl⟩
  exact hflushed.tail (.offstage ⟨rfl, rfl, rfl, rfl, rfl⟩)

theorem chores_connectionClosed (s : Socket ω) (event : CloseEvent) :
    Chores w cmd s (s.connectionClosed event) := by
  simp only [connectionClosed]
  refine .trans ?_ (chores_foldl (fun ref s => ?_) _ _)
  · have hcleared : Chores w cmd s s.triggerErrors.clearHeartbeats :=
      (chores_triggerErrors s).trans (Offstage.chores ⟨rfl, rfl, rfl, rfl, rfl⟩)
    split
    · exact hcleared.trans (chores_scheduleReconnect _)
    · exact hcleared
  · unfold runOnClose
    split
    · exact chores_perform s rfl
    · exact .refl

/-- Error callbacks hear that a transport has failed. -/
theorem chores_runOnErrors (cause : TransportError) (refs : List Ref) (context : ErrorContext)
    (s : Socket ω) : Chores w cmd s (refs.foldl (runOnError (.transport cause)) (context, s)).2 := by
  induction refs generalizing context s with
  | nil => exact .refl
  | cons ref refs ih =>
    rw [List.foldl_cons]
    refine .trans ?_ (ih (runOnError (.transport cause) (context, s) ref).1 _)
    split
    · exact .single (.error s _ context nofun)
    · exact chores_modifyChannel s _ _
    · exact .refl

theorem chores_connectionFailed {cause : TransportError}
    (hw : (s.callbacks.onError.refs.foldl (runOnError (.transport cause))
      (s.errorContext, s)).1.fallback.isSome = true → Supplants w cmd) :
    Chores w cmd s (s.connectionFailed cause) := by
  have hran : Chores w cmd s (s.callbacks.onError.refs.foldl (runOnError (.transport cause))
      (s.errorContext, s)).2 := chores_runOnErrors cause _ _ s
  simp only [connectionFailed]
  rcases hrun : s.callbacks.onError.refs.foldl (runOnError (.transport cause)) (s.errorContext, s)
    with ⟨context, s₁⟩
  rw [hrun] at hran hw
  dsimp only at hran hw ⊢
  have hfallback : Chores w cmd s (s₁.takeFallback context.fallback) := by
    refine hran.trans ?_
    unfold takeFallback
    split
    · rename_i factory hchosen
      rw [hchosen] at hw
      exact (chores_replaceTransport (hw rfl) s₁ factory).trans (chores_connect _)
    · exact .refl
  split
  · exact hfallback.trans (chores_triggerErrors _)
  · exact hfallback

theorem chores_runOnMessage (m : Message) (s : Socket ω) (ref : Ref) :
    Chores w cmd s (runOnMessage m s ref) := by
  unfold runOnMessage
  split
  · exact chores_perform s rfl
  · split
    · exact .tail (chores_perform s rfl) (.removes _ [ref])
    · exact .refl
  · exact .refl

theorem chores_frameReceived (s : Socket ω) (serializer : Serializer) (frame : Frame) :
    Chores w cmd s (s.frameReceived serializer frame) := by
  unfold frameReceived
  split
  · rename_i m _
    refine .trans (.trans ?_ (chores_foldl (fun c s => ?_) _ _))
      (chores_foldl (fun ref s => chores_runOnMessage m s ref) _ _)
    · split
      · exact chores_restartHeartbeat s
      · exact .refl
    · unfold deliver
      split
      · exact chores_trigger s c _ _ _ _
      · exact .refl
  · exact chores_report s nofun

theorem chores_transportEvent (t : TransportId) (event : TransportEvent) :
    Chores w (.transport t event) w (w.transportEvent t event) := by
  refine (chores_pruneRetired w).trans ?_
  unfold transportEvent
  dsimp only
  split
  · exact .refl
  · rename_i conn hconn
    split
    · rename_i ht
      cases event with
      | opened => exact chores_connectionOpened _
      | failed cause =>
        have hsame : w.pruneRetired.conn = w.conn := by rw [pruneRetired_eq]
        exact chores_connectionFailed fun hchosen => ⟨conn, hsame ▸ hconn, ht, hchosen⟩
      | received frame => exact chores_frameReceived _ _ frame
      | closed event => exact chores_connectionClosed _ event
    · exact .refl

/-! ### Commands -/

theorem chores_timerEvent (s : Socket ω) (event : TimerEvent) :
    Chores w cmd s (s.timerEvent event) := by
  cases event with
  | heartbeatDue generation => exact chores_heartbeatDue s generation
  | heartbeatTimeout generation => exact chores_heartbeatTimeoutDue s generation
  | reconnect generation =>
    simp only [timerEvent]
    split
    · exact chores_prepared (chores_beginTeardown _ _ _ _) ⟨rfl, rfl, rfl, rfl, rfl⟩
    · exact .refl
  | rejoin c generation => exact chores_rejoinTimeout s c generation
  | pushTimeout c p generation => exact chores_pushTimeout s c p generation
  | teardown number generation => exact chores_teardownTimeout s number generation

theorem chores_shutdown (s : Socket ω) : Chores w cmd s s.shutdown := by
  have hconn : ∀ s : Socket ω, Chores w cmd s s.abandonConnection := by
    intro s
    unfold abandonConnection
    split
    · exact .refl
    · refine .trans ?_ (chores_performAll _ ?_)
      · exact .head (.parts s) (.single (.detaches _ _))
      · simp [Effect.isPostal]
  have hretired : ∀ (c : Connection) (s : Socket ω), Chores w cmd s (s.abandonRetired c) :=
    fun c s => .trans (.single (.detaches s _)) (chores_perform _ rfl)
  set s₁ := { s with teardown := none }.clearHeartbeats.resetReconnect
  set s₂ := s₁.abandonConnection.retired.foldl abandonRetired
    { s₁.abandonConnection with retired := [] } with hs₂
  have hclosed : Chores w cmd s s₂ := by
    refine .trans (chores_prepared (hconn s₁) ⟨rfl, rfl, rfl, rfl, rfl⟩) ?_
    exact chores_prepared (chores_foldl hretired _ _) ⟨rfl, rfl, rfl, rfl, rfl⟩
  exact (hclosed.tail (.shuts s₂)).tail (.offstage ⟨rfl, rfl, rfl, rfl, rfl⟩)

/-- Every command is carried out in chores. -/
theorem chores_handle (w : Socket ω) (cmd : Command) : Chores w cmd w (w.handle cmd) := by
  cases cmd with
  | connect => exact chores_connect w
  | disconnect code reason done => exact chores_disconnect w code reason _
  | replaceTransport factory =>
    have hsupplants : Supplants w (.replaceTransport factory) := trivial
    exact chores_replaceTransport hsupplants w factory
  | pause =>
    simp only [handle, pause]
    split
    · exact (chores_disconnect w none none .nothing).trans
        (Offstage.chores ⟨rfl, rfl, rfl, rfl, rfl⟩)
    · exact .refl
  | resume =>
    simp only [handle, resume]
    split
    · exact chores_prepared (chores_connect _) ⟨rfl, rfl, rfl, rfl, rfl⟩
    · exact .refl
  | register occasion ref callback => exact .single (.enlists w occasion ref callback)
  | off refs => exact chores_off w refs
  | ping ticket => exact chores_ping w ticket
  | askReadyState ticket => exact chores_perform w rfl
  | askReconnectTries ticket => exact chores_perform w rfl
  | askEstablished ticket => exact chores_perform w rfl
  | createChannel c topic params => exact chores_createChannel w c topic params
  | channel c op => exact chores_channelOp w c op
  | dropChannel c => exact chores_dropChannel w c
  | transport t event => exact chores_transportEvent t event
  | timer event => exact chores_timerEvent w event
  | shutdown => exact chores_shutdown w

end Outside

end Socket

end Switchboard
