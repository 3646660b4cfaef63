import Switchboard.Proofs.Announcements

/-!
# Who answers pings

A ping registers an entry that waits for the reply.  Such an entry belongs to no channel, and what a
socket does for its channels and its connection neither answers a ping nor removes its entry: of the
registrations for messages only those go that belong to a channel, when that closes.  This holds of each
function but those by which a ping begins, a message comes to the registrations, or a user removes some.

Main definitions

* `Call.latency?`: the caller of a ping is answered;
* `Command.enlists`: the commands that concern the registrations for messages;
* `Socket.Retains`: registrations for messages go only with the channel that they belong to, and no ping
  is answered.

Main results

* `Socket.retains_trigger`, `Socket.retains_closeChannel`: what becomes of registrations by events and
  when a channel closes;
* `Socket.retains_handle`: what becomes of them by a command that does not concern them.
-/

set_option autoImplicit false

namespace Switchboard

/-- The caller of a ping that is answered, and what the answer is. -/
def Call.latency? : Call → Option (Ticket × Option Nat)
  | .effect (.answer ticket (.latency elapsed)) => some (ticket, elapsed)
  | _ => none

/-- A command by which registrations for messages are made or removed, or a channel comes. -/
def Command.enlists : Command → Bool
  | .register .message .. | .ping _ | .off _ | .createChannel .. => true
  | _ => false

/-- What is removed after something else is removed is removed with it. -/
theorem Registry.without_without {α : Type} (registry : Registry α) (refs refs' : List Ref) :
    (registry.without refs).without refs' = registry.without (refs ++ refs') := by
  unfold without
  rw [List.filter_filter]
  refine List.filter_congr fun e _ => ?_
  simp [Bool.and_comm]

theorem Registry.without_nil {α : Type} (registry : Registry α) : registry.without [] = registry :=
    by
  simp [without]

namespace Socket

section Outside

variable {ω : Type} {s t u : Socket (Recorded (Watched ω))} {c : ChannelId} {p : PushId}

/-- Registrations for messages go only with the channel that they belong to, and no ping is answered. -/
structure Retains (s t : Socket (Recorded (Watched ω))) : Prop where
  channel : ∀ ⦃c ch'⦄, t.channels.get? c = some ch' →
    ∃ ch, s.channels.get? c = some ch ∧ ch'.socketRefs = ch.socketRefs
  messages : ∃ gone, t.callbacks.onMessage = s.callbacks.onMessage.without gone ∧
    ∀ r ∈ gone, ∃ c ch, s.channels.get? c = some ch ∧ r ∈ ch.socketRefs
  made : ∃ calls, t.made = s.made ++ calls ∧ ∀ call ∈ calls, call.latency? = none

theorem Retains.trans (h : Retains s t) (h' : Retains t u) : Retains s u where
  channel := by
    intro c ch'' hc
    obtain ⟨ch', hc', hrefs'⟩ := h'.channel hc
    obtain ⟨ch, hc, hrefs⟩ := h.channel hc'
    exact ⟨ch, hc, hrefs'.trans hrefs⟩
  messages := by
    obtain ⟨gone, heq, hgone⟩ := h.messages
    obtain ⟨gone', heq', hgone'⟩ := h'.messages
    refine ⟨gone ++ gone', ?_, fun r hr => ?_⟩
    · rw [heq', heq, Registry.without_without]
    · rcases List.mem_append.mp hr with hr | hr
      · exact hgone r hr
      · obtain ⟨c, ch', hc', hr⟩ := hgone' r hr
        obtain ⟨ch, hc, hrefs⟩ := h.channel hc'
        exact ⟨c, ch, hc, hrefs ▸ hr⟩
  made := by
    obtain ⟨calls, heq, hsilent⟩ := h.made
    obtain ⟨calls', heq', hsilent'⟩ := h'.made
    refine ⟨calls ++ calls', ?_, fun call hcall => ?_⟩
    · rw [heq', heq, List.append_assoc]
    · exact (List.mem_append.mp hcall).elim (hsilent call) (hsilent' call)

/-- Nothing becomes of the registrations, and the channels keep theirs. -/
theorem retains_aside (hchannel : ∀ ⦃c ch'⦄, t.channels.get? c = some ch' →
      ∃ ch, s.channels.get? c = some ch ∧ ch'.socketRefs = ch.socketRefs)
    (hmessages : t.callbacks.onMessage = s.callbacks.onMessage)
    (hmade : ∃ calls, t.made = s.made ++ calls ∧ ∀ call ∈ calls, call.latency? = none) :
    Retains s t :=
  ⟨hchannel, ⟨[], hmessages.trans (Registry.without_nil _).symm, by simp⟩, hmade⟩

/-- Other parts of the socket have changed. -/
theorem Retains.of_eq (hchannels : t.channels = s.channels) (hcallbacks : t.callbacks = s.callbacks)
    (hmade : t.made = s.made) : Retains s t :=
  retains_aside (fun _ ch' hc => ⟨ch', hchannels ▸ hc, rfl⟩) (congrArg (·.onMessage) hcallbacks)
    ⟨[], hmade.trans (List.append_nil _).symm, by simp⟩

theorem Retains.refl (s : Socket (Recorded (Watched ω))) : Retains s s := .of_eq rfl rfl rfl

/-- Besides, something is asked of the surroundings. -/
theorem Retains.of_call {call : Call} (hchannels : t.channels = s.channels)
    (hcallbacks : t.callbacks = s.callbacks) (hmade : t.made = s.made ++ [call])
    (hcall : call.latency? = none) : Retains s t :=
  retains_aside (fun _ ch' hc => ⟨ch', hchannels ▸ hc, rfl⟩) (congrArg (·.onMessage) hcallbacks)
    ⟨[call], hmade, by simp [hcall]⟩

theorem retains_foldl {α : Type}
    {f : Socket (Recorded (Watched ω)) → α → Socket (Recorded (Watched ω))}
    (hf : ∀ s a, Retains s (f s a)) (l : List α) (s : Socket (Recorded (Watched ω))) :
    Retains s (l.foldl f s) := by
  induction l generalizing s with
  | nil => exact .refl s
  | cons a l ih => exact (hf s a).trans (ih (f s a))

/-- A channel changes, and keeps its registrations. -/
theorem retains_modifyChannel (s : Socket (Recorded (Watched ω))) (c : ChannelId)
    {f : Channel → Channel} (hf : ∀ ch, (f ch).socketRefs = ch.socketRefs) :
    Retains s (s.modifyChannel c f) := by
  refine retains_aside (fun d ch' hd => ?_) rfl ⟨[], (List.append_nil _).symm, by simp⟩
  simp only [modifyChannel, Table.get?_modify] at hd
  split at hd
  · rename_i heq
    obtain ⟨ch, hc, rfl⟩ := Option.map_eq_some_iff.mp hd
    exact ⟨ch, heq ▸ hc, hf ch⟩
  · exact ⟨ch', hd, rfl⟩

theorem retains_modifyPush (s : Socket (Recorded (Watched ω))) (c : ChannelId) (p : PushId)
    (f : Push → Push) : Retains s (s.modifyPush c p f) := retains_modifyChannel s c fun _ => by rfl

theorem retains_armPush (s : Socket (Recorded (Watched ω))) (c : ChannelId) (p : PushId)
    (push : Push) : Retains s (s.armPush c p push) := (retains_modifyPush s c p _).trans
    (.of_eq rfl rfl rfl)

/-! ### Sending -/

theorem retains_startTimeout (s : Socket (Recorded (Watched ω))) (c : ChannelId) (p : PushId) :
    Retains s (s.startTimeout c p) := by
  simp only [startTimeout]
  refine .trans (t := s.drawRef.2) (.of_eq rfl rfl rfl) ?_
  split
  · exact .refl _
  · refine .trans (t := (s.drawRef.2.drawBinding c).2) (.of_eq rfl rfl rfl) ?_
    split
    · exact .refl _
    · refine .trans ?_ (retains_modifyChannel _ c fun _ => Channel.dropBindings?_socketRefs _)
      refine .trans ?_ (retains_armPush _ c p _)
      exact retains_modifyPush _ c p _

theorem retains_resetPush (s : Socket (Recorded (Watched ω))) (c : ChannelId) (p : PushId) :
    Retains s (s.resetPush c p) := by
  unfold resetPush
  split
  · exact .refl s
  · exact retains_modifyChannel s c fun _ => Channel.dropBindings?_socketRefs _

theorem retains_releasePush (s : Socket (Recorded (Watched ω))) (c : ChannelId) (p : PushId) :
    Retains s (s.releasePush c p) := by
  unfold releasePush
  split
  · exact .refl s
  · split
    · exact .refl s
    · split
      · exact retains_modifyChannel s c fun _ => Channel.dropBindings?_socketRefs _
      · exact .refl s

theorem retains_scheduleRejoin (s : Socket (Recorded (Watched ω))) (c : ChannelId) :
    Retains s (s.scheduleRejoin c) := by
  unfold scheduleRejoin
  split
  · exact .refl s
  · exact (retains_modifyChannel s c fun _ => by rfl).trans (.of_eq rfl rfl rfl)

theorem retains_resetRejoin (s : Socket (Recorded (Watched ω))) (c : ChannelId) :
    Retains s (s.resetRejoin c) := retains_modifyChannel s c fun _ => by rfl

variable [Outside ω]

theorem retains_perform (s : Socket (Recorded (Watched ω))) {e : Effect}
    (he : Call.latency? (.effect e) = none) : Retains s (s.perform e) := .of_call rfl rfl rfl he

omit [Outside ω] in
/-- Calls by which no ping is answered are made. -/
theorem OnlyCalls.retains {calls : List Call} (h : OnlyCalls calls s t)
    (hcalls : ∀ call ∈ calls, call.latency? = none) : Retains s t :=
  retains_aside (fun _ ch' hc => ⟨ch', h.channels_eq ▸ hc, rfl⟩)
    (congrArg (·.onMessage) h.callbacks_eq) ⟨calls, h.made_eq, hcalls⟩

theorem retains_performAll (s : Socket (Recorded (Watched ω))) {es : List Effect}
    (hes : ∀ e ∈ es, Call.latency? (.effect e) = none) : Retains s (s.performAll es) := by
  refine (onlyCalls_performAll s es).retains fun call hcall => ?_
  obtain ⟨e, he, rfl⟩ := List.mem_map.mp hcall
  exact hes e he

theorem retains_discardAll (s : Socket (Recorded (Watched ω))) (tickets : List Ticket) :
    Retains s (s.discardAll tickets) := by
  refine retains_performAll s fun e he => ?_
  obtain ⟨ticket, -, rfl⟩ := List.mem_map.mp he
  rfl

/-- The registrations of a channel are removed. -/
theorem retains_off {ch : Channel} (hc : s.channels.get? c = some ch) :
    Retains s (s.off ch.socketRefs) := by
  have hremoved : Retains s { s with callbacks := s.callbacks.without ch.socketRefs } :=
    ⟨fun _ ch' hc' => ⟨ch', hc', rfl⟩, ⟨ch.socketRefs, rfl, fun r hr => ⟨c, ch, hc, hr⟩⟩,
      [], (List.append_nil _).symm, by simp⟩
  exact hremoved.trans (retains_discardAll { s with callbacks := s.callbacks.without ch.socketRefs } _)

theorem retains_report (s : Socket (Recorded (Watched ω))) (failure : SocketError) :
    Retains s (s.report failure) := by
  refine (onlyCalls_report s failure).retains fun call hcall => ?_
  obtain ⟨callback, -, rfl⟩ := List.mem_map.mp hcall
  rfl

theorem retains_transmit (s : Socket (Recorded (Watched ω))) (m : Message) :
    Retains s (s.transmit m) := by
  unfold transmit
  split
  · exact .refl s
  · split
    · exact retains_perform s rfl
    · exact retains_report s _

theorem retains_pushMessage (s : Socket (Recorded (Watched ω))) (sender : Sender) (m : Message) :
    Retains s (s.pushMessage sender m) := by
  simp only [pushMessage]
  split
  · exact (retains_perform s rfl).trans (retains_transmit _ m)
  · exact (retains_perform s rfl).trans (.of_eq rfl rfl rfl)

theorem retains_flush (s : Socket (Recorded (Watched ω))) : Retains s s.flush := by
  unfold flush
  split
  · exact .refl s
  · have hemptied : Retains s { s with sendBuffer := [] } := .of_eq rfl rfl rfl
    exact hemptied.trans (retains_foldl retains_transmit _ { s with sendBuffer := [] })

theorem retains_dispatchPush (s : Socket (Recorded (Watched ω))) (c : ChannelId) (p : PushId) :
    Retains s (s.dispatchPush c p) := by
  unfold dispatchPush
  split
  · exact .refl s
  · dsimp only
    split
    · exact retains_modifyChannel s c fun _ => by rfl
    · refine .trans ?_ (retains_pushMessage _ _ _)
      exact (retains_modifyChannel s c fun _ => by rfl).trans (retains_modifyPush _ c p _)

theorem retains_sendPush (s : Socket (Recorded (Watched ω))) (c : ChannelId) (p : PushId) : Retains
    s (s.sendPush c p) := by
  unfold sendPush
  split
  · exact .refl s
  · split
    · exact .refl s
    · exact (retains_startTimeout s c p).trans (retains_dispatchPush _ c p)

theorem retains_resendPush (s : Socket (Recorded (Watched ω))) (c : ChannelId) (p : PushId)
    (timeout : Nat) : Retains s (s.resendPush c p timeout) :=
  (retains_modifyPush s c p _).trans ((retains_resetPush _ c p).trans (retains_sendPush _ c p))

/-! ### A channel closes or fails -/

theorem retains_eraseChannel (s : Socket (Recorded (Watched ω))) (c : ChannelId) :
    Retains s (s.eraseChannel c) := by
  unfold eraseChannel
  split
  · exact .refl s
  · refine .trans ?_ (retains_discardAll _ _)
    refine retains_aside (fun d ch' hd => ⟨ch', ?_, rfl⟩) rfl
      ⟨[], (List.append_nil _).symm, by simp⟩
    rw [Table.get?_erase] at hd
    split at hd
    · cases hd
    · exact hd

theorem retains_closeChannel (s : Socket (Recorded (Watched ω))) (c : ChannelId) :
    Retains s (s.closeChannel c) := by
  unfold closeChannel removeChannel
  refine Retains.trans (retains_modifyChannel s c (f := fun ch =>
    { ch with rejoinTimer := ch.rejoinTimer.reset, state := .closed }) fun _ => rfl) ?_
  split
  · exact .refl _
  · rename_i ch hc
    set v := (s.modifyChannel c fun ch =>
      { ch with rejoinTimer := ch.rejoinTimer.reset, state := .closed }).off ch.socketRefs with hv
    have hstruck : Retains v { v with order := v.order.filter (· ≠ c) } := .of_eq rfl rfl rfl
    refine ((retains_off hc).trans hstruck).trans ?_
    dsimp only
    split
    · exact retains_eraseChannel _ c
    · exact .refl _

omit [Outside ω] in
theorem retains_markErrored (s : Socket (Recorded (Watched ω))) (c : ChannelId) :
    Retains s (s.markErrored c) := retains_modifyChannel s c fun _ => by rfl

theorem retains_scheduleRejoinIfConnected (s : Socket (Recorded (Watched ω))) (c : ChannelId) :
    Retains s (s.scheduleRejoinIfConnected c) := by
  unfold scheduleRejoinIfConnected
  split
  · exact retains_scheduleRejoin s c
  · exact .refl s

theorem retains_failChannel (s : Socket (Recorded (Watched ω))) (c : ChannelId) :
    Retains s (s.failChannel c) := by
  unfold failChannel
  split
  · exact .refl s
  · dsimp only
    refine .trans (.trans ?_ (retains_markErrored _ c)) (retains_scheduleRejoinIfConnected _ c)
    split
    · exact retains_resetPush s c joinPush
    · exact .refl s

/-! ### Replies -/

theorem retains_acceptJoin (s : Socket (Recorded (Watched ω))) (c : ChannelId) :
    Retains s (s.acceptJoin c) := by
  unfold acceptJoin
  split
  · exact .refl s
  · refine .trans ?_ (retains_foldl (fun s p => retains_sendPush s c p) _ _)
    exact retains_modifyChannel s c fun _ => by rfl

theorem retains_abandonJoin (s : Socket (Recorded (Watched ω))) (c : ChannelId) :
    Retains s (s.abandonJoin c) := by
  unfold abandonJoin
  split
  · exact .refl s
  · dsimp only
    refine .trans ?_ (retains_scheduleRejoinIfConnected _ c)
    refine .trans ?_ (retains_resetPush _ c joinPush)
    refine .trans (.trans ?_ (retains_sendPush _ c _)) (retains_markErrored _ c)
    have hdrawn : Retains s (s.drawPush c).2 := .of_eq rfl rfl rfl
    exact hdrawn.trans (retains_modifyChannel _ c fun _ => by rfl)

/-- What is dispatched leaves the registrations for messages to the channels, and answers no ping. -/
def Dispatch.Retains (dispatch : Dispatch (Recorded (Watched ω))) : Prop :=
  ∀ c event payload ref joinRef s, Socket.Retains s (dispatch c event payload ref joinRef s)

variable {dispatch : Dispatch (Recorded (Watched ω))}

theorem Dispatch.Retains.react (h : dispatch.Retains) (c : ChannelId) (reaction : Reaction)
    (s : Socket (Recorded (Watched ω))) : Socket.Retains s (s.react dispatch c reaction) := by
  cases reaction with
  | joinOk => exact retains_acceptJoin s c
  | joinError =>
    simp only [Socket.react]
    split
    · exact (retains_markErrored s c).trans (retains_scheduleRejoinIfConnected _ c)
    · exact .refl s
  | joinTimeout => exact retains_abandonJoin s c
  | leaveDone => exact h c _ _ _ _ s

theorem Dispatch.Retains.runReplyHook (h : dispatch.Retains) (c : ChannelId) (p : PushId)
    (reply : Reply) (s : Socket (Recorded (Watched ω))) (index : Nat) :
    Socket.Retains s (runReplyHook dispatch c p reply s index) := by
  unfold Socket.runReplyHook
  split
  · exact .refl s
  · dsimp only
    split
    · split
      · exact retains_perform s rfl
      · exact (retains_perform s rfl).trans (h.react c _ _)
    · exact .refl s

theorem retains_settlePush (s : Socket (Recorded (Watched ω))) (c : ChannelId) (p : PushId)
    (push : Push) (reply : Reply) : Retains s (s.settlePush c p push reply) := by
  have hanswered : ∀ e ∈ push.waiters.map fun ticket => Effect.answer ticket (.reply c p reply),
      Call.latency? (.effect e) = none := by
    intro e he
    obtain ⟨ticket, -, rfl⟩ := List.mem_map.mp he
    rfl
  unfold settlePush
  refine .trans (.trans (.trans ?_ (retains_performAll _ hanswered)) (retains_modifyChannel _ c ?_))
    (retains_perform _ rfl)
  · exact retains_modifyPush s c p _
  · exact fun _ => Channel.dropBindings?_socketRefs _

theorem Dispatch.Retains.resolvePush (h : dispatch.Retains) (c : ChannelId) (p : PushId)
    (reply : Reply) (s : Socket (Recorded (Watched ω))) :
    Socket.Retains s (s.resolvePush dispatch c p reply) := by
  unfold Socket.resolvePush runReplyHooks
  split
  · exact .refl s
  · rename_i push _
    refine .trans ?_ (retains_releasePush _ c p)
    refine .trans (retains_settlePush s c p push reply) ?_
    exact retains_foldl (fun s i => h.runReplyHook c p reply s i) _ _

theorem Dispatch.Retains.runTarget (h : dispatch.Retains) (c : ChannelId) (event : InboundEvent)
    (target : Target) (s : Socket (Recorded (Watched ω))) :
    Socket.Retains s (s.runTarget dispatch c event target) := by
  unfold Socket.runTarget
  split
  · exact retains_perform s rfl
  · exact retains_perform s rfl
  · unfold redirect
    split
    · exact h c _ _ _ _ s
    · exact .refl s
  · split
    · exact h.resolvePush c _ _ s
    · exact .refl s
  · exact retains_closeChannel s c
  · exact retains_failChannel s c

theorem retains_passHook (s : Socket (Recorded (Watched ω))) (ch : Channel) (event : String)
    (payload : Payload) (ref : Option Ref) : Retains s (s.passHook ch event payload ref).2 := by
  unfold passHook
  split
  · exact .refl s
  · dsimp only
    split
    · exact .of_call rfl rfl rfl rfl
    · split
      · refine .trans ?_ (retains_report _ _)
        exact .of_call rfl rfl rfl rfl
      · exact .of_call rfl rfl rfl rfl

theorem Dispatch.Retains.dispatchWith (h : dispatch.Retains) : (dispatchWith dispatch).Retains := by
  intro c event payload ref joinRef s
  unfold Socket.dispatchWith
  split
  · exact .refl s
  · rename_i ch _
    have hpass := retains_passHook s ch event payload ref
    split
    · rename_i heq
      rwa [heq] at hpass
    · rename_i heq
      rw [heq] at hpass
      refine hpass.trans ?_
      unfold runBindings
      split
      · exact .refl _
      · refine retains_foldl (fun s number => ?_) _ _
        unfold runBinding
        split
        · exact h.runTarget c _ _ s
        · exact .refl s

theorem retains_trigger (s : Socket (Recorded (Watched ω))) (c : ChannelId) (event : String)
    (payload : Payload) (ref joinRef : Option Ref) :
    Retains s (s.trigger c event payload ref joinRef) := by
  have hall : ∀ n, (dispatchTo n : Dispatch (Recorded (Watched ω))).Retains := by
    intro n
    induction n with
    | zero => exact fun _ _ _ _ _ s => .refl s
    | succ n ih => exact ih.dispatchWith
  exact hall 3 c event payload ref joinRef s

theorem retains_triggerErrors (s : Socket (Recorded (Watched ω))) : Retains s s.triggerErrors := by
  refine retains_foldl (fun s c => ?_) _ s
  split
  · split
    · exact retains_trigger s c _ _ _ _
    · exact .refl s
  · exact .refl s

theorem retains_triggerPush (s : Socket (Recorded (Watched ω))) (c : ChannelId) (p : PushId)
    (status : String) (response : Payload) : Retains s (s.triggerPush c p status response) := by
  unfold triggerPush
  split
  · exact retains_trigger s c _ _ _ _
  · exact .refl s

theorem retains_pushTimeout (s : Socket (Recorded (Watched ω))) (c : ChannelId) (p : PushId)
    (generation : Nat) : Retains s (s.pushTimeout c p generation) := by
  unfold pushTimeout
  split
  · exact .refl s
  · exact (retains_modifyPush s c p _).trans (retains_triggerPush _ c p _ _)

/-! ### Operations of channels -/

theorem retains_leave (s : Socket (Recorded (Watched ω))) (c : ChannelId) (p : PushId)
    (timeout : Nat) (detached : Bool) : Retains s (s.leave c p timeout detached) := by
  unfold leave
  split
  · exact .refl s
  · dsimp only
    split
    · exact .trans (retains_modifyChannel s c fun _ => by rfl) (retains_sendPush _ c p)
    · refine .trans ?_ (retains_triggerPush _ c p _ _)
      exact .trans (retains_modifyChannel s c fun _ => by rfl) (retains_sendPush _ c p)

theorem retains_rejoin (s : Socket (Recorded (Watched ω))) (c : ChannelId) : Retains s (s.rejoin c)
    := by
  have hdisplaced : ∀ topic, Retains s (s.leaveOpenTopic topic c) := by
    intro topic
    unfold leaveOpenTopic
    split
    · exact .refl s
    · split
      · exact .refl s
      · refine .trans ?_ (retains_leave _ _ _ _ true)
        exact .of_eq rfl rfl rfl
  unfold rejoin
  split
  · exact .refl s
  · rename_i ch _
    split
    · exact .refl s
    · refine (hdisplaced ch.topic).trans ?_
      dsimp only
      split
      · exact .refl _
      · exact (retains_modifyChannel _ c fun _ => by rfl).trans (retains_resendPush _ c joinPush _)

theorem retains_push (s : Socket (Recorded (Watched ω))) (c : ChannelId) (p : PushId)
    (event : String) (payload : Payload) (timeout : Nat) :
    Retains s (s.push c p event payload timeout) := by
  unfold push
  split
  · exact .refl s
  · dsimp only
    split
    · exact .trans (retains_modifyChannel s c fun _ => by rfl) (retains_sendPush _ c p)
    · refine .trans ?_ (retains_modifyChannel _ c fun _ => by rfl)
      exact .trans (retains_modifyChannel s c fun _ => by rfl) (retains_startTimeout _ c p)

theorem retains_receive (s : Socket (Recorded (Watched ω))) (c : ChannelId) (p : PushId)
    (status : String) (callback : CallbackId) : Retains s (s.receive c p status callback) := by
  unfold receive
  split
  · exact .refl s
  · refine .trans ?_ (retains_modifyPush _ c p _)
    split
    · split
      · exact retains_perform s rfl
      · exact .refl s
    · exact .refl s

theorem retains_channelOp (s : Socket (Recorded (Watched ω))) (c : ChannelId) (op : ChannelOp) :
    Retains s (s.channelOp c op) := by
  have htell : ∀ {ticket f}, (∀ ch, Call.latency? (.effect (.answer ticket (f ch))) = none) →
      Retains s (s.tell c ticket f) := by
    intro ticket f hf
    unfold tell
    split
    · exact retains_perform s (hf _)
    · exact retains_perform s rfl
  unfold channelOp
  split
  · cases op with
    | join timeout => exact (retains_modifyChannel s c fun _ => by rfl).trans (retains_rejoin _ c)
    | push p event payload timeout => exact retains_push s c p event payload timeout
    | leave p timeout => exact retains_leave s c p timeout false
    | bind binding event listener => exact retains_modifyChannel s c fun _ => by rfl
    | unbind event binding => exact retains_modifyChannel s c fun _ => by rfl
    | setHook hook => exact retains_modifyChannel s c fun _ => by rfl
    | receive p status callback => exact retains_receive s c p status callback
    | awaitReply p ticket =>
      simp only [applyOp, awaitReply]
      split
      · exact retains_perform s rfl
      · split
        · exact retains_perform s rfl
        · exact retains_modifyPush s c p _
    | release p =>
      simp only [applyOp, release]
      split
      · exact .refl s
      · exact (retains_modifyPush s c p _).trans (retains_releasePush _ c p)
    | askState ticket => exact htell fun _ => rfl
    | askJoinRef ticket => exact htell fun _ => rfl
    | askRejoinTries ticket => exact htell fun _ => rfl
  · split
    · exact retains_perform s rfl
    · exact .refl s

theorem retains_dropChannel (s : Socket (Recorded (Watched ω))) (c : ChannelId) :
    Retains s (s.dropChannel c) := by
  unfold dropChannel
  split
  · exact retains_modifyChannel s c fun _ => by rfl
  · exact retains_eraseChannel s c

/-! ### The connection -/

theorem retains_pruneRetired (s : Socket (Recorded (Watched ω))) : Retains s s.pruneRetired := by
  refine Retains.trans (t := { s with retired := s.retired.filter fun c => !s.retiredIsClosed c })
    (.of_eq rfl rfl rfl) (retains_performAll _ fun e he => ?_)
  obtain ⟨c, -, rfl⟩ := List.mem_map.mp he
  rfl

theorem retains_connect (s : Socket (Recorded (Watched ω))) : Retains s s.connect := by
  unfold connect
  split
  · exact .refl s
  · dsimp only
    split
    · exact .of_call rfl rfl rfl rfl
    · refine .trans ?_ (retains_report _ _)
      exact .of_eq rfl rfl rfl

theorem retains_replaceTransport (s : Socket (Recorded (Watched ω))) (factory : Factory) :
    Retains s (s.replaceTransport factory) := by
  have hretire : ∀ s : Socket (Recorded (Watched ω)), Retains s s.retire := by
    intro s
    unfold retire
    split
    · exact .refl s
    · refine .trans ?_ (retains_triggerErrors _)
      exact .of_call rfl rfl rfl rfl
  set u : Socket (Recorded (Watched ω)) :=
    { s.tick.resetReconnect with closeWasClean := true, sendBuffer := [] } with hu
  have hcleared : Retains s u := .of_eq rfl rfl rfl
  exact (hcleared.trans ((retains_pruneRetired u).trans (hretire _))).trans (.of_eq rfl rfl rfl)

theorem retains_notifyAll (s : Socket (Recorded (Watched ω))) (tickets : List Ticket) :
    Retains s (s.notifyAll tickets) := by
  refine retains_performAll s fun e he => ?_
  obtain ⟨ticket, -, rfl⟩ := List.mem_map.mp he
  rfl

theorem retains_continueWith (s : Socket (Recorded (Watched ω))) (k : Continuation) (clock : Nat) :
    Retains s (s.continueWith k clock) := by
  unfold continueWith
  split
  · split
    · exact retains_connect s
    · exact .refl s
  · split
    · exact .of_eq rfl rfl rfl
    · exact .refl s
  · exact retains_perform s rfl
  · exact .refl s

theorem retains_stepTeardown (s : Socket (Recorded (Watched ω))) (t : Teardown) :
    Retains s (s.stepTeardown t) := by
  have hclose : ∀ (s : Socket (Recorded (Watched ω))) (code : Option Nat) (reason : Option String),
      Retains s (s.closeConnection code reason) := by
    intro s code reason
    unfold closeConnection
    split
    · exact .refl s
    · exact retains_perform s rfl
  have hdrop : ∀ s : Socket (Recorded (Watched ω)), Retains s s.dropConnection := by
    intro s
    unfold dropConnection
    split
    · exact .refl s
    · exact .of_call rfl rfl rfl rfl
  unfold stepTeardown
  split
  · split
    · exact .of_eq rfl rfl rfl
    · refine .trans ?_ (hclose _ _ _)
      exact .of_eq rfl rfl rfl
  · split
    · exact .of_eq rfl rfl rfl
    · refine .trans (.trans ?_ (retains_notifyAll _ _)) (retains_continueWith _ _ _)
      refine .trans ?_ (hdrop _)
      exact .of_eq rfl rfl rfl

theorem retains_teardownTimeout (s : Socket (Recorded (Watched ω))) (number generation : Nat) :
    Retains s (s.teardownTimeout number generation) := by
  unfold teardownTimeout
  split
  · exact .refl s
  · split
    · split
      · refine .trans ?_ (retains_stepTeardown _ _)
        exact .of_eq rfl rfl rfl
      · exact .refl s
    · exact .refl s

theorem retains_beginTeardown (s : Socket (Recorded (Watched ω))) (code : Option Nat)
    (reason : Option String) (k : Continuation) : Retains s (s.beginTeardown code reason k) := by
  unfold beginTeardown
  dsimp only
  split
  · refine .trans (.trans ?_ (retains_notifyAll _ _)) (retains_continueWith _ _ _)
    exact .of_eq rfl rfl rfl
  · refine .trans ?_ (retains_stepTeardown _ _)
    exact .of_eq rfl rfl rfl

theorem retains_disconnect (s : Socket (Recorded (Watched ω))) (code : Option Nat)
    (reason : Option String) (k : Continuation) : Retains s (s.disconnect code reason k) := by
  set u : Socket (Recorded (Watched ω)) := { s.tick.resetReconnect with closeWasClean := true } with hu
  have hturned : Retains s u := .of_eq rfl rfl rfl
  exact hturned.trans (retains_beginTeardown u code reason k)

theorem retains_heartbeatDue (s : Socket (Recorded (Watched ω))) (generation : Nat) :
    Retains s (s.heartbeatDue generation) := by
  have hsend : ∀ s : Socket (Recorded (Watched ω)), Retains s s.sendHeartbeat := by
    intro s
    unfold sendHeartbeat
    split
    · exact .refl s
    · set u : Socket (Recorded (Watched ω)) :=
        { s.drawRef.2 with pendingHeartbeat := some s.drawRef.1 } with hu
      have hdrawn : Retains s u := .of_eq rfl rfl rfl
      exact (hdrawn.trans (retains_pushMessage u .socket _)).trans (.of_eq rfl rfl rfl)
  unfold heartbeatDue
  split
  · refine .trans ?_ (hsend _)
    exact .of_eq rfl rfl rfl
  · exact .refl s

theorem retains_heartbeatTimeoutDue (s : Socket (Recorded (Watched ω))) (generation : Nat) :
    Retains s (s.heartbeatTimeoutDue generation) := by
  unfold heartbeatTimeoutDue
  split
  · exact .refl s
  · rename_i timer _
    dsimp only
    split
    · set u : Socket (Recorded (Watched ω)) :=
        { s with heartbeatTimeout := timer, pendingHeartbeat := none } with hu
      have hforgotten : Retains s u := .of_eq rfl rfl rfl
      have hlost : Retains u.triggerErrors { u.triggerErrors with closeWasClean := false } :=
        .of_eq rfl rfl rfl
      have htold := (hforgotten.trans (retains_triggerErrors u)).trans hlost
      exact htold.trans (retains_beginTeardown _ _ _ _)
    · exact .of_eq rfl rfl rfl

/-! ### Reports of transports -/

theorem retains_connectionOpened (s : Socket (Recorded (Watched ω))) : Retains s s.connectionOpened
    := by
  have hreset : ∀ s : Socket (Recorded (Watched ω)), Retains s s.resetHeartbeat := by
    intro s
    unfold resetHeartbeat
    split
    · split <;> exact .of_eq rfl rfl rfl
    · exact .of_eq rfl rfl rfl
  have hmark : Retains s s.markOpen := by
    set u : Socket (Recorded (Watched ω)) := { s with
      closeWasClean := false
      established := min (s.established + 1) attemptLimit } with hu
    have hready : Retains s u.flush := Retains.trans (t := u) (.of_eq rfl rfl rfl) (retains_flush u)
    have hreconnect : Retains u.flush u.flush.resetReconnect := .of_eq rfl rfl rfl
    exact (hready.trans hreconnect).trans (hreset u.flush.resetReconnect)
  refine hmark.trans (retains_foldl (fun s ref => ?_) _ _)
  unfold runOnOpen
  split
  · exact retains_perform s rfl
  · unfold rejoinIfErrored
    split
    · exact .refl s
    · dsimp only
      split
      · exact (retains_resetRejoin s _).trans (retains_rejoin _ _)
      · exact retains_resetRejoin s _
  · exact .refl s

theorem retains_connectionClosed (s : Socket (Recorded (Watched ω))) (event : CloseEvent) :
    Retains s (s.connectionClosed event) := by
  unfold connectionClosed
  refine .trans ?_ (retains_foldl (fun s ref => ?_) _ _)
  · refine (retains_triggerErrors s).trans ?_
    split <;> exact .of_eq rfl rfl rfl
  · unfold runOnClose
    split
    · exact retains_perform s rfl
    · exact .refl s

theorem retains_connectionFailed (s : Socket (Recorded (Watched ω))) (cause : TransportError) :
    Retains s (s.connectionFailed cause) := by
  have hruns : ∀ (refs : List Ref) (context : ErrorContext) (s : Socket (Recorded (Watched ω))),
      Retains s (refs.foldl (runOnError (.transport cause)) (context, s)).2 := by
    intro refs
    induction refs with
    | nil => exact fun _ s => .refl s
    | cons ref refs ih =>
      intro context s
      refine .trans ?_ (ih _ (runOnError (.transport cause) (context, s) ref).2)
      simp only [runOnError]
      split
      · exact .of_call rfl rfl rfl rfl
      · exact retains_resetRejoin s _
      · exact .refl s
  unfold connectionFailed
  dsimp only
  refine (hruns s.callbacks.onError.refs s.errorContext s).trans ?_
  generalize s.callbacks.onError.refs.foldl (runOnError (.transport cause)) (s.errorContext, s) = run
  have hfallback : Retains run.2 (run.2.takeFallback run.1.fallback) := by
    unfold takeFallback
    split
    · exact (retains_replaceTransport _ _).trans (retains_connect _)
    · exact .refl _
  split
  · exact hfallback.trans (retains_triggerErrors _)
  · exact hfallback

/-- A message has come to all channels, but not yet to the registrations. -/
theorem retains_delivered (s : Socket (Recorded (Watched ω))) (m : Message) :
    Retains s ((s.attentive m).order.foldl (deliver m) (s.attentive m)) := by
  refine .trans ?_ (retains_foldl (fun s c => ?_) _ _)
  · unfold attentive
    split
    · exact (retains_pruneRetired s).trans (.of_eq rfl rfl rfl)
    · exact retains_pruneRetired s
  · unfold deliver
    split
    · exact retains_trigger s c _ _ _ _
    · exact .refl s

/-- A transport reports something, but no message comes of it. -/
theorem retains_transportEvent {id : TransportId} {event : TransportEvent}
    (hm : s.incoming? (.transport id event) = none) : Retains s (s.transportEvent id event) := by
  have hconn : s.pruneRetired.conn = s.conn := (congrArg Socket.conn (pruneRetired_eq s)).trans rfl
  unfold transportEvent
  refine (retains_pruneRetired s).trans ?_
  dsimp only
  rw [hconn]
  split
  · exact .refl _
  · rename_i conn hc
    split
    · rename_i hid
      cases event with
      | opened => exact retains_connectionOpened _
      | failed cause => exact retains_connectionFailed _ _
      | received frame =>
        simp only [incoming?, hc, if_pos hid] at hm
        simp only [frameReceived]
        split
        · rename_i heq
          rw [heq] at hm
          cases hm
        · exact retains_report _ _
      | closed event => exact retains_connectionClosed _ _
    · exact .refl _

/-! ### Commands -/

theorem retains_timerEvent (s : Socket (Recorded (Watched ω))) (event : TimerEvent) :
    Retains s (s.timerEvent event) := by
  cases event with
  | heartbeatDue generation => exact retains_heartbeatDue s generation
  | heartbeatTimeout generation => exact retains_heartbeatTimeoutDue s generation
  | reconnect generation =>
    simp only [timerEvent]
    split
    · refine .trans ?_ (retains_beginTeardown _ _ _ _)
      exact .of_eq rfl rfl rfl
    · exact .refl s
  | rejoin c generation =>
    simp only [timerEvent, rejoinTimeout]
    split
    · exact .refl s
    · split
      · exact (retains_modifyChannel s c fun _ => by rfl).trans (retains_rejoin _ c)
      · exact retains_modifyChannel s c fun _ => by rfl
  | pushTimeout c p generation => exact retains_pushTimeout s c p generation
  | teardown number generation => exact retains_teardownTimeout s number generation

theorem retains_shutdown (s : Socket (Recorded (Watched ω))) : Retains s s.shutdown := by
  have habandon : ∀ s : Socket (Recorded (Watched ω)), Retains s s.abandonConnection := by
    intro s
    unfold abandonConnection
    split
    · exact .refl s
    · rename_i c _
      refine .trans ?_ (retains_performAll _ (by simp [Call.latency?]))
      exact .of_eq rfl rfl rfl
  set u := { s with teardown := none }.clearHeartbeats.resetReconnect with hu
  have hstopped : Retains s u := .of_eq rfl rfl rfl
  have hretired : ∀ (s : Socket (Recorded (Watched ω))) (c : Connection),
      Retains s (s.abandonRetired c) := fun _ _ => .of_call rfl rfl rfl rfl
  have hleft := retains_foldl hretired u.abandonConnection.retired
    { u.abandonConnection with retired := [] }
  have hemptied : Retains u.abandonConnection { u.abandonConnection with retired := [] } :=
    .of_eq rfl rfl rfl
  refine ((hstopped.trans (habandon u)).trans (hemptied.trans hleft)).trans ?_
  have hnone : s.shutdown.channels = .empty := rfl
  refine retains_aside (fun c ch hc => ?_) rfl ⟨[], (List.append_nil _).symm, by simp⟩
  rw [hnone, Table.get?_empty] at hc
  cases hc

/-- All other commands leave the registrations for messages to the channels and answer no ping, as long
as they bring no message. -/
theorem retains_handle {cmd : Command} (hcmd : cmd.enlists = false) (hm : s.incoming? cmd = none) :
    Retains s (s.handle cmd) := by
  cases cmd with
  | connect => exact retains_connect s
  | disconnect code reason done => exact retains_disconnect s code reason _
  | replaceTransport factory => exact retains_replaceTransport s factory
  | pause =>
    simp only [handle, pause]
    split
    · exact (retains_disconnect s none none .nothing).trans (.of_eq rfl rfl rfl)
    · exact .refl s
  | resume =>
    simp only [handle, resume]
    split
    · set u : Socket (Recorded (Watched ω)) := { s with awaitingResume := none } with hu
      have hresumed : Retains s u := .of_eq rfl rfl rfl
      exact hresumed.trans (retains_connect u)
    · exact .refl s
  | register occasion ref callback =>
    cases occasion with
    | message => cases hcmd
    | _ =>
      refine retains_aside (fun _ ch' hc => ⟨ch', hc, rfl⟩) rfl ?_
      exact ⟨[], (List.append_nil _).symm, by simp⟩
  | off refs => cases hcmd
  | ping ticket => cases hcmd
  | askReadyState ticket => exact retains_perform s rfl
  | askReconnectTries ticket => exact retains_perform s rfl
  | askEstablished ticket => exact retains_perform s rfl
  | createChannel c topic params => cases hcmd
  | channel c op => exact retains_channelOp s c op
  | dropChannel c => exact retains_dropChannel s c
  | transport id event => exact retains_transportEvent hm
  | timer event => exact retains_timerEvent s event
  | shutdown => exact retains_shutdown s

end Outside

end Socket

end Switchboard
