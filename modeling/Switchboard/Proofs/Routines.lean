import Switchboard.Proofs.Toils

/-!
# Routines of a socket

Whatever a socket does is a sequence of routines, and routines are exact about what a user has set.  The
endpoint, the version and the origin of a socket stay.  The parameters of a channel are evaluated by one
routine only: a push of the channel is sent, whatever it carries.  The push by which a channel joins keeps
its event and its body, since a push that comes to a channel later has a number of its own.

Main definitions

* `Channel.Keeps`: the parameters of a channel and its join stay;
* `Effect.isPlain`: an effect by which no transport is opened and no push is sent;
* `Socket.Routine`, `Socket.Routines`.

Main results

* `Socket.routines_sendPush`: what it takes to send a push;
* `Socket.routines_handle`: every command is a matter of routine.
-/

set_option autoImplicit false

namespace Switchboard

/-! ### What channels keep -/

namespace Channel

/-- The event and the body of the join of a channel. -/
def joinTerms (ch : Channel) : Option (String × PushBody) :=
  (ch.pushes.get? joinPush).map fun q => (q.event, q.body)

/-- A channel has the parameters and the join of another. -/
structure Keeps (ch ch' : Channel) : Prop where
  params : ch'.params = ch.params
  join : ch'.joinTerms = ch.joinTerms

variable {ch ch' ch'' : Channel} {p : PushId} {q q' : Push}

@[refl] theorem Keeps.refl (ch : Channel) : ch.Keeps ch := ⟨rfl, rfl⟩

theorem Keeps.trans (h : ch.Keeps ch') (h' : ch'.Keeps ch'') : ch.Keeps ch'' :=
  ⟨h'.params.trans h.params, h'.join.trans h.join⟩

theorem Keeps.of_eq (hparams : ch'.params = ch.params) (hpushes : ch'.pushes = ch.pushes) :
    ch.Keeps ch' := ⟨hparams, by rw [joinTerms, hpushes, joinTerms]⟩

/-- The pushes of a channel become others, but the one by which it joins stays. -/
theorem keeps_pushes {pushes : Table Push} (h : pushes.get? joinPush = ch.pushes.get? joinPush) :
    ch.Keeps { ch with pushes } := ⟨rfl, by simp only [joinTerms, h]⟩

/-- A push of the channel changes, but neither its event nor its body. -/
theorem joinTerms_set (hq : ch.pushes.get? p = some q) (hpushes : ch'.pushes = ch.pushes.set p q')
    (hevent : q'.event = q.event) (hbody : q'.body = q.body) : ch'.joinTerms = ch.joinTerms := by
  simp only [joinTerms, hpushes, Table.get?_set]
  split
  · rename_i heq
    rw [heq, hq, Option.map_some, Option.map_some, hevent, hbody]
  · rfl

theorem keeps_modifyPush {f : Push → Push} (hevent : ∀ q, (f q).event = q.event)
    (hbody : ∀ q, (f q).body = q.body) : ch.Keeps (ch.modifyPush p f) := by
  unfold modifyPush
  cases hq : ch.pushes.get? p with
  | none => rw [Table.modify_eq_self hq]
  | some q =>
    exact ⟨rfl, joinTerms_set hq (Table.modify_eq_set hq f) (hevent q) (hbody q)⟩

/-- Another push than the one by which it joins. -/
theorem keeps_set_other (hp : p ≠ joinPush) : ch.Keeps { ch with pushes := ch.pushes.set p q } :=
  keeps_pushes (Table.get?_set_of_ne _ hp.symm _)

theorem keeps_dropBindings? (event : Option String) : ch.Keeps (ch.dropBindings? event) :=
  .of_eq (by cases event <;> rfl) (dropBindings?_pushes event)

theorem keeps_start (hq : ch.pushes.get? p = some q) (ref : Ref) (number : BindingId) :
    ch.Keeps (ch.start p q ref number) := by
  refine ⟨?_, joinTerms_set hq (start_pushes ..) rfl rfl⟩
  unfold start
  cases q.refEvent <;> rfl

/-- A channel is about to leave, by another push than the one by which it joins. -/
theorem keeps_leaving (hp : p ≠ joinPush) : ch.Keeps { ch with
    rejoinTimer := ch.rejoinTimer.reset
    state := .leaving
    pushes := (ch.pushes.modify joinPush fun join => { join with timer := join.timer.cancel }).set p
      q } := by
  refine ⟨rfl, ?_⟩
  simp only [joinTerms, Table.get?_set_of_ne _ hp.symm, Table.get?_modify_self, Option.map_map]
  rfl

end Channel

/-- An effect by which no transport is opened, and no push is sent. -/
def Effect.isPlain : Effect → Bool
  | .open _ | .accept (.push _ _) _ => false
  | _ => true

/-- The number of a push that is drawn is not that of a join. -/
theorem Exchange.drawPush_ne_joinPush {x : Exchange} (hx : x.Tidy) (c : ChannelId) :
    (x.drawPush c).1 ≠ joinPush := by
  have hle : joinPush + 1 ≤ (x.drawPush c).1 := hx.first_le (.pushes c)
  exact Nat.ne_of_gt hle

namespace Socket

variable {ω : Type}

/-- Only parts have changed that neither the channels nor the addresses nor the surroundings depend
on. -/
structure Elsewhere (s t : Socket ω) : Prop where
  endpoint : t.endpoint = s.endpoint
  version : t.config.version = s.config.version
  origin : t.config.origin = s.config.origin
  channels : t.channels = s.channels
  exchange : t.exchange = s.exchange
  outside : t.outside = s.outside

section Outside

variable [Outside ω]

/-- One thing that a socket does while it carries out a command. -/
inductive Routine (cmd : Command) : Socket ω → Socket ω → Prop
  | elsewhere {s t : Socket ω} (elsewhere : Elsewhere s t) : Routine cmd s t
  | draws {s : Socket ω} {x : Exchange} (evolves : s.exchange.Evolves x) :
    Routine cmd s { s with exchange := x }
  | perform (s : Socket ω) {e : Effect} (plain : e.isPlain = true) : Routine cmd s (s.perform e)
  | hook (s : Socket ω) (callback : CallbackId) (event : String) (payload : Payload)
    (ref : Option Ref) : Routine cmd s { s with
      exchange := (Outside.hook callback event payload ref s.exchange s.outside).2.1
      outside := (Outside.hook callback event payload ref s.exchange s.outside).2.2 }
  | error (s : Socket ω) (callback : CallbackId) (failure : SocketError) (context : ErrorContext) :
    Routine cmd s (s.runError callback failure context).2
  /-- A transport is opened for an address that was made of the endpoint. -/
  | opens (s : Socket ω) {params : Json} {request : OpenRequest}
    (address : endpointUrl s.endpoint params s.config.version s.config.origin = .ok request.url) :
    Routine cmd s (s.perform (.open request))
  | alters {s : Socket ω} {c : ChannelId} {ch ch' : Channel} (channel : s.channels.get? c = some ch)
    (keeps : ch.Keeps ch') : Routine cmd s { s with channels := s.channels.set c ch' }
  /-- A channel gets a push with the number that is drawn next. -/
  | enters {s : Socket ω} {c : ChannelId} {ch ch' : Channel} (channel : s.channels.get? c = some ch)
    (keeps : (s.exchange.drawPush c).1 ≠ joinPush → ch.Keeps ch') :
    Routine cmd s { s with channels := s.channels.set c ch', exchange := (s.exchange.drawPush c).2 }
  /-- A push is sent: the parameters of its channel are evaluated, and its message is accepted. -/
  | sends {s : Socket ω} {c : ChannelId} {p : PushId} {ch ch' : Channel} {q : Push} {m : Message}
    (channel : s.channels.get? c = some ch) (push : ch.pushes.get? p = some q)
    (params : ch'.params = ch.params.resolve.2) (join : ch'.joinTerms = ch.joinTerms)
    (event : m.event = q.event) (payload : m.payload = bodyOf q ch.params.resolve.1) :
    Routine cmd s (({ s with channels := s.channels.set c ch' } : Socket ω).perform
      (.accept (.push c p) m))
  | creates (s : Socket ω) {c : ChannelId} {topic : String} {params : Params} (timeout : Nat)
    (refs : List Ref) (asked : cmd = .createChannel c topic params) :
    Routine cmd s { s with channels := s.channels.set c (.new topic params timeout refs) }
  | erases (s : Socket ω) (c : ChannelId) :
    Routine cmd s { s with channels := s.channels.erase c }
  | ends (s : Socket ω) : Routine cmd s { s with channels := .empty }

/-- Any number of routines. -/
abbrev Routines (cmd : Command) : Socket ω → Socket ω → Prop :=
  Relation.ReflTransGen (Routine cmd)

variable {s t u : Socket ω} {cmd : Command} {c : ChannelId} {p : PushId} {ch : Channel} {q : Push}

theorem Elsewhere.routines (h : Elsewhere s t) : Routines cmd s t := .single (.elsewhere h)

/-- Routines are prepared elsewhere. -/
theorem routines_prepared (h : Routines cmd t u) (hprepared : Elsewhere s t) : Routines cmd s u :=
  .head (.elsewhere hprepared) h

/-- What is done for each entry of a list is done for all of them. -/
theorem routines_foldl {α : Type} {f : Socket ω → α → Socket ω}
    (hf : ∀ a s, Routines cmd s (f s a)) (l : List α) (s : Socket ω) :
    Routines cmd s (l.foldl f s) := by
  induction l generalizing s with
  | nil => exact .refl
  | cons a l ih => exact (hf a s).trans (ih (f s a))

/-! ### Effects and reports -/

theorem routines_perform (s : Socket ω) {e : Effect} (he : e.isPlain = true) :
    Routines cmd s (s.perform e) := .single (.perform s he)

theorem routines_performAll (s : Socket ω) {es : List Effect} (hes : ∀ e ∈ es, e.isPlain = true) :
    Routines cmd s (s.performAll es) := by
  induction es generalizing s with
  | nil => exact .refl
  | cons e es ih =>
    refine .head (.perform s (hes e List.mem_cons_self)) (ih (s.perform e) fun e' he' => ?_)
    exact hes e' (List.mem_cons_of_mem _ he')

theorem routines_discardAll (s : Socket ω) (tickets : List Ticket) :
    Routines cmd s (s.discardAll tickets) := by
  refine routines_performAll s fun e he => ?_
  obtain ⟨ticket, -, rfl⟩ := List.mem_map.mp he
  rfl

theorem routines_off (s : Socket ω) (refs : List Ref) : Routines cmd s (s.off refs) :=
  routines_prepared (routines_discardAll { s with callbacks := s.callbacks.without refs } _)
    ⟨rfl, rfl, rfl, rfl, rfl, rfl⟩

theorem routines_pruneRetired (s : Socket ω) : Routines cmd s s.pruneRetired := by
  refine .head (.elsewhere ?_) (routines_performAll _ fun e he => ?_)
  · exact ⟨rfl, rfl, rfl, rfl, rfl, rfl⟩
  · obtain ⟨c, -, rfl⟩ := List.mem_map.mp he
    rfl

theorem routines_report (s : Socket ω) (failure : SocketError) : Routines cmd s (s.report failure) := by
  have hrun : ∀ (registry : Registry OnError) (context : ErrorContext) (s : Socket ω),
      Routines cmd s (runErrors failure registry context s) := by
    intro registry
    induction registry with
    | nil => exact fun _ _ => .refl
    | cons entry rest ih =>
      intro context s
      obtain ⟨ref, callback | channel⟩ := entry
      · exact .head (.error s callback failure context) (ih _ _)
      · exact ih context s
  exact hrun _ _ s

/-! ### Messages -/

theorem routines_transmit (s : Socket ω) (m : Message) : Routines cmd s (s.transmit m) := by
  unfold transmit
  split
  · exact .refl
  · split
    · exact routines_perform s rfl
    · exact routines_report s _

/-- A message that was accepted is handed over, or it waits. -/
theorem routines_pushMessage {sender : Sender} {m : Message}
    (h : Routines cmd s (t.perform (.accept sender m))) :
    Routines cmd s (t.pushMessage sender m) := by
  simp only [pushMessage]
  split
  · exact h.trans (routines_transmit _ m)
  · exact h.tail (.elsewhere ⟨rfl, rfl, rfl, rfl, rfl, rfl⟩)

theorem routines_flush (s : Socket ω) : Routines cmd s s.flush := by
  unfold flush
  split
  · exact .refl
  · refine routines_prepared (routines_foldl (fun m s => routines_transmit s m) _ _) ?_
    exact ⟨rfl, rfl, rfl, rfl, rfl, rfl⟩

/-! ### Channels -/

theorem routines_draws {x : Exchange} (h : s.exchange.Draws x) :
    Routines cmd s { s with exchange := x } := .single (.draws h.evolves)

theorem routines_drawRef (s : Socket ω) : Routines cmd s s.drawRef.2 := routines_draws (.ref _)

theorem routines_drawPush (s : Socket ω) (c : ChannelId) : Routines cmd s (s.drawPush c).2 :=
  routines_draws (.push _ c)

theorem routines_arm (s : Socket ω) (delay : Nat) (event : TimerEvent) :
    Routines cmd s (s.arm delay event) := routines_draws (.arm _ delay event)

theorem routines_detach (s : Socket ω) (t : TransportId) : Routines cmd s (s.detach t) :=
  .single (.draws (.of_eq rfl rfl rfl rfl))

theorem routines_modifyChannel (s : Socket ω) (c : ChannelId) {f : Channel → Channel}
    (hf : ∀ ch : Channel, ch.Keeps (f ch)) : Routines cmd s (s.modifyChannel c f) := by
  unfold modifyChannel
  cases hc : s.channels.get? c with
  | none =>
    rw [Table.modify_eq_self hc]
  | some ch =>
    rw [Table.modify_eq_set hc]
    exact .single (.alters hc (hf ch))

/-- A channel changes, but neither in its parameters nor in its pushes. -/
theorem routines_amend (s : Socket ω) (c : ChannelId) {f : Channel → Channel}
    (hparams : ∀ ch, (f ch).params = ch.params) (hpushes : ∀ ch, (f ch).pushes = ch.pushes) :
    Routines cmd s (s.modifyChannel c f) :=
  routines_modifyChannel s c fun ch => .of_eq (hparams ch) (hpushes ch)

theorem routines_modifyPush (s : Socket ω) (c : ChannelId) (p : PushId) {f : Push → Push}
    (hevent : ∀ q, (f q).event = q.event) (hbody : ∀ q, (f q).body = q.body) :
    Routines cmd s (s.modifyPush c p f) :=
  routines_modifyChannel s c fun _ => Channel.keeps_modifyPush hevent hbody

/-- A channel gets a push whose number is drawn. -/
theorem routines_enter {f : Channel → Channel} (hc : s.channels.get? c = some ch)
    (hf : (s.drawPush c).1 ≠ joinPush → ch.Keeps (f ch)) :
    Routines cmd s ((s.drawPush c).2.modifyChannel c f) := by
  have hmodified : s.channels.modify c f = s.channels.set c (f ch) := Table.modify_eq_set hc f
  simp only [drawPush, modifyChannel, hmodified]
  exact .single (.enters hc hf)

theorem routines_startTimeout (s : Socket ω) (c : ChannelId) (p : PushId) :
    Routines cmd s (s.startTimeout c p) := by
  cases hpush : s.push? c p with
  | none =>
    obtain ⟨x, heq, hevolves⟩ := startTimeout_of_none hpush
    rw [heq]
    exact .single (.draws hevolves)
  | some q =>
    obtain ⟨ch, hc, hq⟩ := Option.bind_eq_some_iff.mp hpush
    obtain ⟨n, x, heq, hevolves⟩ := startTimeout_of_some hc hq
    have hdrawn : Routine cmd s { s with exchange := x } :=
      .draws ((Exchange.evolves_drawRef _).trans hevolves)
    rw [heq]
    exact .head hdrawn (.single (.alters hc (Channel.keeps_start hq _ n)))

theorem routines_resetPush (s : Socket ω) (c : ChannelId) (p : PushId) :
    Routines cmd s (s.resetPush c p) := by
  unfold resetPush
  split
  · exact .refl
  · refine routines_modifyChannel s c fun ch => .trans ?_ (Channel.keeps_dropBindings? _)
    exact Channel.keeps_modifyPush (fun _ => rfl) fun _ => rfl

theorem routines_releasePush (s : Socket ω) (c : ChannelId) (p : PushId) :
    Routines cmd s (s.releasePush c p) := by
  unfold releasePush
  split
  · exact .refl
  · rename_i hp
    split
    · exact .refl
    · split
      · refine routines_modifyChannel s c fun ch => .trans ?_ (Channel.keeps_dropBindings? _)
        exact (Channel.keeps_pushes (Table.get?_erase_of_ne _ (Ne.symm hp))).trans (.of_eq rfl rfl)
      · exact .refl

theorem routines_scheduleRejoin (s : Socket ω) (c : ChannelId) :
    Routines cmd s (s.scheduleRejoin c) := by
  unfold scheduleRejoin
  split
  · exact .refl
  · refine .trans ?_ (routines_arm _ _ _)
    exact routines_amend s c (fun _ => rfl) (fun _ => rfl)

theorem routines_scheduleRejoinIfConnected (s : Socket ω) (c : ChannelId) :
    Routines cmd s (s.scheduleRejoinIfConnected c) := by
  unfold scheduleRejoinIfConnected
  split
  · exact routines_scheduleRejoin s c
  · exact .refl

/-- A push that is there is sent, and it is one of those that evaluate the parameters. -/
theorem routines_dispatchPush (hc : s.channels.get? c = some ch) (hq : ch.pushes.get? p = some q) :
    Routines cmd s (s.dispatchPush c p) := by
  have hsent : (s.modifyChannel c fun ch' => { ch' with params := ch.params.resolve.2 }).modifyPush c p
      (fun q => { q with sent := true }) = { s with
        channels := s.channels.set c { ch with
          params := ch.params.resolve.2, pushes := ch.pushes.set p { q with sent := true } } } := by
    simp [modifyPush, modifyChannel, Channel.modifyPush, Table.modify_eq_set hc,
      Table.modify_eq_set (Table.get?_set_self ..), Table.modify_eq_set hq]
  simp only [dispatchPush, hc, hq]
  rw [hsent]
  exact routines_pushMessage (.single (.sends hc hq rfl (Channel.joinTerms_set hq rfl rfl rfl) rfl rfl))

theorem routines_sendPush (s : Socket ω) (c : ChannelId) (p : PushId) :
    Routines cmd s (s.sendPush c p) := by
  unfold sendPush
  split
  · exact .refl
  · rename_i q hpush
    split
    · exact .refl
    · refine (routines_startTimeout s c p).trans ?_
      obtain ⟨ch, hc, hq⟩ := Option.bind_eq_some_iff.mp hpush
      obtain ⟨n, x, heq, -⟩ := startTimeout_of_some hc hq
      rw [heq]
      have hstarted : ((ch.start p q s.exchange.drawRef.1 n).pushes.get? p).isSome = true := by
        rw [Channel.start_pushes, Table.get?_set_self, Option.isSome_some]
      obtain ⟨q', hq'⟩ := Option.isSome_iff_exists.mp hstarted
      exact routines_dispatchPush (Table.get?_set_self ..) hq'

theorem routines_resendPush (s : Socket ω) (c : ChannelId) (p : PushId) (timeout : Nat) :
    Routines cmd s (s.resendPush c p timeout) := by
  refine .trans ?_ (.trans (routines_resetPush _ c p) (routines_sendPush _ c p))
  exact routines_modifyPush s c p (fun _ => rfl) (fun _ => rfl)

/-! ### A channel closes or fails -/

theorem routines_eraseChannel (s : Socket ω) (c : ChannelId) :
    Routines cmd s (s.eraseChannel c) := by
  unfold eraseChannel
  split
  · exact .refl
  · exact .head (.erases s c) (routines_discardAll _ _)

theorem routines_dropChannel (s : Socket ω) (c : ChannelId) : Routines cmd s (s.dropChannel c) := by
  unfold dropChannel
  split
  · exact routines_amend s c (fun _ => rfl) fun _ => rfl
  · exact routines_eraseChannel s c

theorem routines_closeChannel (s : Socket ω) (c : ChannelId) : Routines cmd s (s.closeChannel c) := by
  have hremove : ∀ s : Socket ω, Routines cmd s (s.removeChannel c) := by
    intro s
    unfold removeChannel
    split
    · exact .refl
    · rename_i ch _
      have hstruck : Routines cmd s { s.off ch.socketRefs with
          order := (s.off ch.socketRefs).order.filter (· ≠ c) } :=
        (routines_off s ch.socketRefs).tail (.elsewhere ⟨rfl, rfl, rfl, rfl, rfl, rfl⟩)
      dsimp only
      split
      · exact hstruck.trans (routines_eraseChannel _ c)
      · exact hstruck
  unfold closeChannel
  refine .trans ?_ (hremove _)
  exact routines_amend s c (fun _ => rfl) fun _ => rfl

theorem routines_markErrored (s : Socket ω) (c : ChannelId) : Routines cmd s (s.markErrored c) :=
  routines_amend s c (fun _ => rfl) fun _ => rfl

theorem routines_failChannel (s : Socket ω) (c : ChannelId) : Routines cmd s (s.failChannel c) := by
  unfold failChannel
  split
  · exact .refl
  · dsimp only
    refine .trans ?_ (routines_scheduleRejoinIfConnected _ c)
    refine .trans ?_ (routines_markErrored _ c)
    split
    · exact routines_resetPush s c joinPush
    · exact .refl

/-! ### Replies -/

theorem routines_acceptJoin (s : Socket ω) (c : ChannelId) : Routines cmd s (s.acceptJoin c) := by
  unfold acceptJoin
  split
  · exact .refl
  · refine .trans ?_ (routines_foldl (fun p s => routines_sendPush s c p) _ _)
    exact routines_amend s c (fun _ => rfl) fun _ => rfl

theorem routines_abandonJoin (s : Socket ω) (c : ChannelId) : Routines cmd s (s.abandonJoin c) := by
  unfold abandonJoin
  split
  · exact .refl
  · rename_i ch hc
    dsimp only
    refine .trans ?_ (routines_scheduleRejoinIfConnected _ c)
    refine .trans ?_ (routines_resetPush _ c joinPush)
    refine .trans ?_ (routines_markErrored _ c)
    refine .trans ?_ (routines_sendPush _ c _)
    exact routines_enter hc fun hp => Channel.keeps_set_other hp

/-- Whatever a dispatch does is a matter of routine. -/
def Dispatch.IsRoutines (cmd : Command) (dispatch : Dispatch ω) : Prop :=
  ∀ c event payload ref joinRef s, Routines cmd s (dispatch c event payload ref joinRef s)

variable {dispatch : Dispatch ω}

theorem Dispatch.IsRoutines.react (h : dispatch.IsRoutines cmd) (c : ChannelId) (reaction : Reaction)
    (s : Socket ω) : Routines cmd s (s.react dispatch c reaction) := by
  cases reaction with
  | joinOk => exact routines_acceptJoin s c
  | joinError =>
    simp only [Socket.react]
    split
    · exact .trans (routines_markErrored s c) (routines_scheduleRejoinIfConnected _ c)
    · exact .refl
  | joinTimeout => exact routines_abandonJoin s c
  | leaveDone => exact h c _ _ _ _ s

theorem Dispatch.IsRoutines.runReplyHook (h : dispatch.IsRoutines cmd) (c : ChannelId) (p : PushId)
    (reply : Reply) (s : Socket ω) (index : Nat) :
    Routines cmd s (s.runReplyHook dispatch c p reply index) := by
  unfold Socket.runReplyHook
  split
  · exact .refl
  · rename_i status hook _
    split
    · have hran : Routines cmd s (s.perform (.runReply c p hook reply)) := routines_perform s rfl
      cases hook with
      | callback callback => exact hran
      | channel reaction => exact hran.trans (h.react c reaction _)
    · exact .refl

theorem Dispatch.IsRoutines.resolvePush (h : dispatch.IsRoutines cmd) (c : ChannelId) (p : PushId)
    (reply : Reply) (s : Socket ω) : Routines cmd s (s.resolvePush dispatch c p reply) := by
  have hsettle : ∀ push : Push, Routines cmd s (s.settlePush c p push reply) := by
    intro push
    unfold settlePush
    refine .trans ?_ (routines_perform _ rfl)
    refine .trans ?_ (routines_modifyChannel _ c fun ch => Channel.keeps_dropBindings? _)
    refine .trans ?_ (routines_performAll _ fun e he => ?_)
    · exact routines_modifyPush s c p (fun _ => rfl) fun _ => rfl
    · obtain ⟨ticket, -, rfl⟩ := List.mem_map.mp he
      rfl
  unfold Socket.resolvePush
  split
  · exact .refl
  · rename_i push _
    refine .trans ((hsettle push).trans ?_) (routines_releasePush _ c p)
    exact routines_foldl (fun index s => h.runReplyHook c p reply s index) _ _

/-! ### Events -/

theorem Dispatch.IsRoutines.runTarget (h : dispatch.IsRoutines cmd) (c : ChannelId)
    (event : InboundEvent) (target : Target) (s : Socket ω) :
    Routines cmd s (s.runTarget dispatch c event target) := by
  cases target with
  | listener l => cases l <;> exact routines_perform s rfl
  | redirect =>
    simp only [Socket.runTarget, redirect]
    split
    · exact h c _ _ _ _ s
    · exact .refl
  | resolve p =>
    simp only [Socket.runTarget]
    split
    · exact h.resolvePush c p _ s
    · exact .refl
  | close => exact routines_closeChannel s c
  | error => exact routines_failChannel s c

theorem routines_passHook (s : Socket ω) (ch : Channel) (event : String) (payload : Payload)
    (ref : Option Ref) : Routines cmd s (s.passHook ch event payload ref).2 := by
  unfold passHook
  split
  · exact .refl
  · rename_i callback _
    have hran : Routine cmd s _ := .hook s callback event payload ref
    dsimp only
    split
    · exact .single hran
    · split
      · exact .head hran (routines_report _ _)
      · exact .single hran

theorem Dispatch.IsRoutines.dispatchWith (h : dispatch.IsRoutines cmd) :
    Dispatch.IsRoutines cmd (dispatchWith dispatch) := by
  intro c event payload ref joinRef s
  unfold Socket.dispatchWith
  split
  · exact .refl
  · rename_i ch _
    have hpass : Routines cmd s (s.passHook ch event payload ref).2 :=
      routines_passHook s ch event payload ref
    split
    · rename_i heq
      rwa [heq] at hpass
    · rename_i heq
      rw [heq] at hpass
      refine hpass.trans ?_
      unfold runBindings
      split
      · exact .refl
      · refine routines_foldl (fun number s => ?_) _ _
        unfold runBinding
        split
        · exact h.runTarget c _ _ s
        · exact .refl

theorem isRoutines_dispatchTo (n : Nat) :
    Dispatch.IsRoutines cmd (dispatchTo n : Dispatch ω) := by
  induction n with
  | zero => exact fun _ _ _ _ _ _ => .refl
  | succ n ih => exact ih.dispatchWith

theorem routines_trigger (s : Socket ω) (c : ChannelId) (event : String) (payload : Payload)
    (ref joinRef : Option Ref) : Routines cmd s (s.trigger c event payload ref joinRef) :=
  isRoutines_dispatchTo 3 c event payload ref joinRef s

theorem routines_triggerErrors (s : Socket ω) : Routines cmd s s.triggerErrors := by
  refine routines_foldl (fun c s => ?_) _ _
  split
  · split
    · exact routines_trigger s _ _ _ _ _
    · exact .refl
  · exact .refl

theorem routines_triggerPush (s : Socket ω) (c : ChannelId) (p : PushId) (status : String)
    (response : Payload) : Routines cmd s (s.triggerPush c p status response) := by
  unfold triggerPush
  split
  · exact routines_trigger s _ _ _ _ _
  · exact .refl

theorem routines_pushTimeout (s : Socket ω) (c : ChannelId) (p : PushId) (generation : Nat) :
    Routines cmd s (s.pushTimeout c p generation) := by
  unfold pushTimeout
  split
  · exact .refl
  · refine .trans ?_ (routines_triggerPush _ c p _ _)
    exact routines_modifyPush s c p (fun _ => rfl) fun _ => rfl

/-! ### Handles and timers of channels -/

theorem routines_createChannel (s : Socket ω) (c : ChannelId) (topic : String) (params : Params) :
    Routines (.createChannel c topic params) s (s.createChannel c topic params) := by
  have hdrawn : Routines (.createChannel c topic params) s s.drawRef.2.drawRef.2 :=
    (routines_drawRef s).trans (routines_drawRef _)
  exact (hdrawn.tail (.creates _ s.config.timeout _ rfl)).tail (.elsewhere ⟨rfl, rfl, rfl, rfl, rfl, rfl⟩)

/-- To leave is a matter of routine once the channel has the push for it. -/
theorem routines_leave (hpresent : Routines cmd s t) {timeout : Nat} {detached : Bool}
    (hasked : Routines cmd s (t.modifyChannel c fun ch => { ch with
      rejoinTimer := ch.rejoinTimer.reset
      state := .leaving
      pushes := (ch.pushes.modify joinPush fun join => { join with timer := join.timer.cancel }).set p
        { Push.leave timeout with detached := detached } })) :
    Routines cmd s (t.leave c p timeout detached) := by
  unfold leave
  split
  · exact hpresent
  · dsimp only
    split
    · exact hasked.trans (routines_sendPush _ c p)
    · refine .trans ?_ (routines_triggerPush _ c p _ _)
      exact hasked.trans (routines_sendPush _ c p)

/-- A join attempt may displace another channel of the topic. -/
theorem routines_rejoin (s : Socket ω) (c : ChannelId) : Routines cmd s (s.rejoin c) := by
  have hdisplace : ∀ topic, Routines cmd s (s.leaveOpenTopic topic c) := by
    intro topic
    unfold leaveOpenTopic
    split
    · exact .refl
    · split
      · exact .refl
      · rename_i ch hc
        refine routines_leave (routines_drawPush s _) (routines_enter hc fun hp => ?_)
        exact Channel.keeps_leaving hp
  unfold rejoin
  split
  · exact .refl
  · rename_i ch _
    split
    · exact .refl
    · refine (hdisplace ch.topic).trans ?_
      dsimp only
      split
      · exact .refl
      · refine .trans ?_ (routines_resendPush _ c joinPush _)
        exact routines_amend _ c (fun _ => rfl) fun _ => rfl

theorem routines_rejoinTimeout (s : Socket ω) (c : ChannelId) (generation : Nat) :
    Routines cmd s (s.rejoinTimeout c generation) := by
  unfold rejoinTimeout
  split
  · exact .refl
  · dsimp only
    split
    · refine .trans ?_ (routines_rejoin _ c)
      exact routines_amend s c (fun _ => rfl) fun _ => rfl
    · exact routines_amend s c (fun _ => rfl) fun _ => rfl

theorem routines_push (s : Socket ω) (c : ChannelId) (hp : p ≠ joinPush) (event : String)
    (payload : Payload) (timeout : Nat) : Routines cmd s (s.push c p event payload timeout) := by
  have hset : Routines cmd s (s.modifyChannel c fun ch =>
      { ch with pushes := ch.pushes.set p (.new event (.fixed payload) timeout) }) :=
    routines_modifyChannel s c fun _ => Channel.keeps_set_other hp
  unfold push
  split
  · exact .refl
  · dsimp only
    split
    · exact hset.trans (routines_sendPush _ c p)
    · refine .trans ?_ (routines_amend _ c (fun _ => rfl) fun _ => rfl)
      exact hset.trans (routines_startTimeout _ c p)

theorem routines_tell (s : Socket ω) (c : ChannelId) (ticket : Ticket) (f : Channel → Answer) :
    Routines cmd s (s.tell c ticket f) := by
  unfold tell
  split <;> exact routines_perform s rfl

/-- What a handle asks for, unless it puts a push in place of the one by which the channel joins. -/
theorem routines_channelOp (s : Socket ω) (c : ChannelId) (op : ChannelOp)
    (hop : ∀ p, (Command.channel c op).number? (.pushes c) = some p → p ≠ joinPush) :
    Routines cmd s (s.channelOp c op) := by
  unfold channelOp
  split
  · cases op with
    | join timeout =>
      refine .trans ?_ (routines_rejoin _ c)
      exact routines_amend s c (fun _ => rfl) fun _ => rfl
    | push p event payload timeout =>
      exact routines_push s c (hop p (by simp [Command.number?])) event payload timeout
    | leave p timeout =>
      refine routines_leave .refl (routines_modifyChannel s c fun ch => ?_)
      exact Channel.keeps_leaving (hop p (by simp [Command.number?]))
    | bind binding event listener => exact routines_amend s c (fun _ => rfl) fun _ => rfl
    | unbind event binding => exact routines_amend s c (fun _ => rfl) fun _ => rfl
    | setHook hook => exact routines_amend s c (fun _ => rfl) fun _ => rfl
    | receive p status callback =>
      simp only [applyOp, receive]
      split
      · exact .refl
      · refine .trans ?_ (routines_modifyPush _ c p (fun _ => rfl) fun _ => rfl)
        split
        · split
          · exact routines_perform s rfl
          · exact .refl
        · exact .refl
    | awaitReply p ticket =>
      simp only [applyOp, awaitReply]
      split
      · exact routines_perform s rfl
      · split
        · exact routines_perform s rfl
        · exact routines_modifyPush s c p (fun _ => rfl) fun _ => rfl
    | release p =>
      simp only [applyOp, release]
      split
      · exact .refl
      · refine .trans ?_ (routines_releasePush _ c p)
        exact routines_modifyPush s c p (fun _ => rfl) fun _ => rfl
    | askState ticket => exact routines_tell s c ticket _
    | askJoinRef ticket => exact routines_tell s c ticket _
    | askRejoinTries ticket => exact routines_tell s c ticket _
  · split
    · exact routines_perform s rfl
    · exact .refl

/-! ### Connecting -/

/-- A transport is listened to, and opened for an address that was made of the endpoint. -/
theorem routines_openTransport {params : Json} {url : String}
    (h : endpointUrl s.endpoint params s.config.version s.config.origin = .ok url) :
    Routines cmd s (s.openTransport url) := by
  set s₁ : Socket ω := { s with exchange := s.exchange.attach s.nextTransport }
  have hattached : Routine cmd s s₁ := .draws (.of_eq rfl rfl rfl rfl)
  set s₂ : Socket ω := { s₁ with nextTransport := s.nextTransport + 1 }
  have hnumbered : Routine cmd s₁ s₂ := .elsewhere ⟨rfl, rfl, rfl, rfl, rfl, rfl⟩
  have hopened : Routines cmd s (s₂.perform (.open
      ⟨s.nextTransport, s.factory, url, s.config.binaryType, s.config.longPollTimeout⟩)) :=
    .head hattached (.head hnumbered (.single (.opens s₂ h)))
  exact hopened.tail (.elsewhere ⟨rfl, rfl, rfl, rfl, rfl, rfl⟩)

theorem routines_connect (s : Socket ω) : Routines cmd s s.connect := by
  unfold connect
  split
  · exact .refl
  · rcases s.config.params.resolve with ⟨value, params⟩
    dsimp only
    set s₁ : Socket ω := { s.tick with
      closeWasClean := false, config := { s.config with params := params } }
    have hready : Routines cmd s s₁ := Elsewhere.routines ⟨rfl, rfl, rfl, rfl, rfl, rfl⟩
    split
    · rename_i url hurl
      exact hready.trans (routines_openTransport (s := s₁) hurl)
    · exact hready.trans (routines_report s₁ _)

theorem routines_replaceTransport (s : Socket ω) (factory : Factory) :
    Routines cmd s (s.replaceTransport factory) := by
  have hretire : ∀ s : Socket ω, Routines cmd s s.retire := by
    intro s
    unfold retire
    split
    · exact .refl
    · rename_i c _
      refine .trans ?_ (routines_triggerErrors _)
      have hparted : Routines cmd s ({ s with conn := none }.detach c.transport) :=
        routines_prepared (routines_detach _ _) ⟨rfl, rfl, rfl, rfl, rfl, rfl⟩
      have hclosed := hparted.trans (routines_perform _ (e := .close c.transport none none) rfl)
      exact hclosed.tail (.elsewhere ⟨rfl, rfl, rfl, rfl, rfl, rfl⟩)
  have hreplaced := (routines_pruneRetired
    { s.tick.resetReconnect with closeWasClean := true, sendBuffer := [] }).trans (hretire _)
  refine .tail (routines_prepared hreplaced ?_) (.elsewhere ?_)
  · exact ⟨rfl, rfl, rfl, rfl, rfl, rfl⟩
  · exact ⟨rfl, rfl, rfl, rfl, rfl, rfl⟩

/-! ### Teardown -/

theorem routines_notifyAll (s : Socket ω) (tickets : List Ticket) :
    Routines cmd s (s.notifyAll tickets) := by
  refine routines_performAll s fun e he => ?_
  obtain ⟨ticket, -, rfl⟩ := List.mem_map.mp he
  rfl

theorem routines_scheduleReconnect (s : Socket ω) : Routines cmd s s.scheduleReconnect :=
  routines_prepared (routines_arm _ _ _) ⟨rfl, rfl, rfl, rfl, rfl, rfl⟩

theorem routines_continueWith (s : Socket ω) (k : Continuation) (clock : Nat) :
    Routines cmd s (s.continueWith k clock) := by
  cases k with
  | connect =>
    simp only [continueWith]
    split
    · exact routines_connect s
    · exact .refl
  | scheduleReconnect =>
    simp only [continueWith]
    split
    · exact routines_scheduleReconnect s
    · exact .refl
  | notify ticket => exact routines_perform s rfl
  | nothing => exact .refl

theorem routines_closeConnection (s : Socket ω) (code : Option Nat) (reason : Option String) :
    Routines cmd s (s.closeConnection code reason) := by
  unfold closeConnection
  split
  · exact .refl
  · exact routines_perform s rfl

theorem routines_dropConnection (s : Socket ω) : Routines cmd s s.dropConnection := by
  unfold dropConnection
  split
  · exact .refl
  · refine .trans ?_ (routines_perform _ rfl)
    exact routines_prepared (routines_detach _ _) ⟨rfl, rfl, rfl, rfl, rfl, rfl⟩

theorem routines_stepTeardown (s : Socket ω) (t : Teardown) : Routines cmd s (s.stepTeardown t) := by
  have hawaits : ∀ (t : Teardown) (delay : Nat), Routines cmd s (s.awaitTeardown t delay) :=
    fun t delay => routines_prepared (routines_arm _ _ _) ⟨rfl, rfl, rfl, rfl, rfl, rfl⟩
  unfold stepTeardown
  split
  · split
    · exact hawaits _ _
    · exact .trans (hawaits _ _) (routines_closeConnection _ _ _)
  · split
    · exact hawaits _ _
    · refine .trans ?_ (routines_continueWith _ _ _)
      refine .trans ?_ (routines_notifyAll _ _)
      refine routines_prepared (routines_dropConnection _) ⟨rfl, rfl, rfl, rfl, rfl, rfl⟩

theorem routines_teardownTimeout (s : Socket ω) (number generation : Nat) :
    Routines cmd s (s.teardownTimeout number generation) := by
  unfold teardownTimeout
  split
  · exact .refl
  · split
    · split
      · exact routines_prepared (routines_stepTeardown _ _) ⟨rfl, rfl, rfl, rfl, rfl, rfl⟩
      · exact .refl
    · exact .refl

theorem routines_beginTeardown (s : Socket ω) (code : Option Nat) (reason : Option String)
    (k : Continuation) : Routines cmd s (s.beginTeardown code reason k) := by
  simp only [beginTeardown]
  split
  · set s₁ : Socket ω := { s with teardown := none }
    have htold : Routines cmd s₁
        ((s₁.notifyAll s.teardownCallers).continueWith k s.connectClock) :=
      .trans (routines_notifyAll _ _) (routines_continueWith _ k _)
    exact routines_prepared htold ⟨rfl, rfl, rfl, rfl, rfl, rfl⟩
  · exact routines_prepared (routines_stepTeardown _ _) ⟨rfl, rfl, rfl, rfl, rfl, rfl⟩

theorem routines_disconnect (s : Socket ω) (code : Option Nat) (reason : Option String)
    (k : Continuation) : Routines cmd s (s.disconnect code reason k) :=
  routines_prepared (routines_beginTeardown _ code reason k) ⟨rfl, rfl, rfl, rfl, rfl, rfl⟩

/-! ### Signs of life -/

theorem routines_restartHeartbeat (s : Socket ω) : Routines cmd s s.restartHeartbeat :=
  routines_prepared (routines_arm _ _ _) ⟨rfl, rfl, rfl, rfl, rfl, rfl⟩

theorem routines_armHeartbeatTimeout (s : Socket ω) : Routines cmd s s.armHeartbeatTimeout :=
  routines_prepared (routines_arm _ _ _) ⟨rfl, rfl, rfl, rfl, rfl, rfl⟩

theorem routines_sendHeartbeat (s : Socket ω) : Routines cmd s s.sendHeartbeat := by
  unfold sendHeartbeat
  split
  · exact .refl
  · refine .trans ?_ (routines_armHeartbeatTimeout _)
    refine routines_pushMessage (.tail ?_ (.perform _ rfl))
    exact (routines_drawRef s).tail (.elsewhere ⟨rfl, rfl, rfl, rfl, rfl, rfl⟩)

theorem routines_heartbeatDue (s : Socket ω) (generation : Nat) :
    Routines cmd s (s.heartbeatDue generation) := by
  unfold heartbeatDue
  split
  · exact routines_prepared (routines_sendHeartbeat _) ⟨rfl, rfl, rfl, rfl, rfl, rfl⟩
  · exact .refl

theorem routines_heartbeatTimeoutDue (s : Socket ω) (generation : Nat) :
    Routines cmd s (s.heartbeatTimeoutDue generation) := by
  unfold heartbeatTimeoutDue
  split
  · exact .refl
  · rename_i timer _
    dsimp only
    split
    · set s₁ : Socket ω := { s with heartbeatTimeout := timer, pendingHeartbeat := none }
      have htold : Routines cmd s { s₁.triggerErrors with closeWasClean := false } :=
        .tail (routines_prepared (routines_triggerErrors s₁) ⟨rfl, rfl, rfl, rfl, rfl, rfl⟩)
          (.elsewhere ⟨rfl, rfl, rfl, rfl, rfl, rfl⟩)
      exact htold.trans (routines_beginTeardown _ _ _ .scheduleReconnect)
    · exact Elsewhere.routines ⟨rfl, rfl, rfl, rfl, rfl, rfl⟩

theorem routines_ping (s : Socket ω) (ticket : Ticket) : Routines cmd s (s.ping ticket) := by
  unfold ping
  split
  · exact routines_perform s rfl
  · have hsent : Routines cmd s
        (s.drawRef.2.pushMessage .socket (.heartbeat s.drawRef.1)).drawRef.2 :=
      .trans (routines_pushMessage ((routines_drawRef s).tail (.perform _ rfl))) (routines_drawRef _)
    exact hsent.tail (.elsewhere ⟨rfl, rfl, rfl, rfl, rfl, rfl⟩)

/-! ### What transports report -/

theorem routines_resetRejoin (s : Socket ω) (c : ChannelId) : Routines cmd s (s.resetRejoin c) :=
  routines_amend s c (fun _ => rfl) fun _ => rfl

theorem routines_runOnOpen (s : Socket ω) (ref : Ref) : Routines cmd s (runOnOpen s ref) := by
  unfold runOnOpen
  split
  · exact routines_perform s rfl
  · unfold rejoinIfErrored
    split
    · exact .refl
    · dsimp only
      split
      · exact .trans (routines_resetRejoin s _) (routines_rejoin _ _)
      · exact routines_resetRejoin s _
  · exact .refl

theorem routines_resetHeartbeat (s : Socket ω) : Routines cmd s s.resetHeartbeat := by
  unfold resetHeartbeat
  split
  · split
    · exact .refl
    · exact routines_restartHeartbeat s
  · exact routines_restartHeartbeat s

theorem routines_connectionOpened (s : Socket ω) : Routines cmd s s.connectionOpened := by
  refine .trans ?_ (routines_foldl (fun ref s => routines_runOnOpen s ref) _ _)
  refine .trans ?_ (routines_resetHeartbeat _)
  set s₁ : Socket ω := { s with
    closeWasClean := false, established := min (s.established + 1) attemptLimit }
  have hflushed : Routines cmd s s₁.flush :=
    routines_prepared (routines_flush s₁) ⟨rfl, rfl, rfl, rfl, rfl, rfl⟩
  exact hflushed.tail (.elsewhere ⟨rfl, rfl, rfl, rfl, rfl, rfl⟩)

theorem routines_connectionClosed (s : Socket ω) (event : CloseEvent) :
    Routines cmd s (s.connectionClosed event) := by
  simp only [connectionClosed]
  refine .trans ?_ (routines_foldl (fun ref s => ?_) _ _)
  · have hcleared : Routines cmd s s.triggerErrors.clearHeartbeats :=
      (routines_triggerErrors s).trans (Elsewhere.routines ⟨rfl, rfl, rfl, rfl, rfl, rfl⟩)
    split
    · exact hcleared.trans (routines_scheduleReconnect _)
    · exact hcleared
  · unfold runOnClose
    split
    · exact routines_perform s rfl
    · exact .refl

/-- Error callbacks hear that a transport has failed. -/
theorem routines_runOnErrors (cause : TransportError) (refs : List Ref) (context : ErrorContext)
    (s : Socket ω) : Routines cmd s (refs.foldl (runOnError (.transport cause)) (context, s)).2 := by
  induction refs generalizing context s with
  | nil => exact .refl
  | cons ref refs ih =>
    rw [List.foldl_cons]
    refine .trans ?_ (ih (runOnError (.transport cause) (context, s) ref).1 _)
    split
    · exact .single (.error s _ _ context)
    · exact routines_resetRejoin s _
    · exact .refl

theorem routines_connectionFailed (s : Socket ω) (cause : TransportError) :
    Routines cmd s (s.connectionFailed cause) := by
  have hran : Routines cmd s (s.callbacks.onError.refs.foldl (runOnError (.transport cause))
      (s.errorContext, s)).2 := routines_runOnErrors cause _ _ s
  simp only [connectionFailed]
  rcases hrun : s.callbacks.onError.refs.foldl (runOnError (.transport cause)) (s.errorContext, s)
    with ⟨context, s₁⟩
  rw [hrun] at hran
  have hfallback : Routines cmd s (s₁.takeFallback context.fallback) := by
    refine hran.trans ?_
    unfold takeFallback
    split
    · exact (routines_replaceTransport s₁ _).trans (routines_connect _)
    · exact .refl
  split
  · exact hfallback.trans (routines_triggerErrors _)
  · exact hfallback

theorem routines_runOnMessage (m : Message) (s : Socket ω) (ref : Ref) :
    Routines cmd s (runOnMessage m s ref) := by
  unfold runOnMessage
  split
  · exact routines_perform s rfl
  · split
    · exact .tail (routines_perform s rfl) (.elsewhere ⟨rfl, rfl, rfl, rfl, rfl, rfl⟩)
    · exact .refl
  · exact .refl

theorem routines_frameReceived (s : Socket ω) (serializer : Serializer) (frame : Frame) :
    Routines cmd s (s.frameReceived serializer frame) := by
  unfold frameReceived
  split
  · rename_i m _
    refine .trans (.trans ?_ (routines_foldl (fun c s => ?_) _ _))
      (routines_foldl (fun ref s => routines_runOnMessage m s ref) _ _)
    · split
      · exact routines_restartHeartbeat s
      · exact .refl
    · unfold deliver
      split
      · exact routines_trigger s c _ _ _ _
      · exact .refl
  · exact routines_report s _

theorem routines_transportEvent (s : Socket ω) (t : TransportId) (event : TransportEvent) :
    Routines cmd s (s.transportEvent t event) := by
  refine (routines_pruneRetired s).trans ?_
  unfold transportEvent
  dsimp only
  split
  · exact .refl
  · split
    · cases event with
      | opened => exact routines_connectionOpened _
      | failed cause => exact routines_connectionFailed _ cause
      | received frame => exact routines_frameReceived _ _ frame
      | closed event => exact routines_connectionClosed _ event
    · exact .refl

/-! ### Commands -/

theorem routines_timerEvent (s : Socket ω) (event : TimerEvent) :
    Routines cmd s (s.timerEvent event) := by
  cases event with
  | heartbeatDue generation => exact routines_heartbeatDue s generation
  | heartbeatTimeout generation => exact routines_heartbeatTimeoutDue s generation
  | reconnect generation =>
    simp only [timerEvent]
    split
    · exact routines_prepared (routines_beginTeardown _ _ _ _) ⟨rfl, rfl, rfl, rfl, rfl, rfl⟩
    · exact .refl
  | rejoin c generation => exact routines_rejoinTimeout s c generation
  | pushTimeout c p generation => exact routines_pushTimeout s c p generation
  | teardown number generation => exact routines_teardownTimeout s number generation

theorem routines_shutdown (s : Socket ω) : Routines cmd s s.shutdown := by
  have hconn : ∀ s : Socket ω, Routines cmd s s.abandonConnection := by
    intro s
    unfold abandonConnection
    split
    · exact .refl
    · refine .trans ?_ (routines_performAll _ ?_)
      · exact routines_prepared (routines_detach _ _) ⟨rfl, rfl, rfl, rfl, rfl, rfl⟩
      · simp [Effect.isPlain]
  have hretired : ∀ (c : Connection) (s : Socket ω), Routines cmd s (s.abandonRetired c) :=
    fun c s => .trans (routines_detach s _) (routines_perform _ rfl)
  set s₁ := { s with teardown := none }.clearHeartbeats.resetReconnect
  set s₂ := s₁.abandonConnection.retired.foldl abandonRetired
    { s₁.abandonConnection with retired := [] } with hs₂
  have hclosed : Routines cmd s s₂ := by
    refine .trans (routines_prepared (hconn s₁) ⟨rfl, rfl, rfl, rfl, rfl, rfl⟩) ?_
    exact routines_prepared (routines_foldl hretired _ _) ⟨rfl, rfl, rfl, rfl, rfl, rfl⟩
  have hshut : Routines cmd s { s₂ with exchange := s₂.exchange.shut } :=
    hclosed.tail (.draws (Exchange.evolves_shut _))
  exact (hshut.tail (.ends _)).tail (.elsewhere ⟨rfl, rfl, rfl, rfl, rfl, rfl⟩)

/-- Every command is a matter of routine; a push that it asks for has not the number of a join. -/
theorem routines_handle (s : Socket ω) (cmd : Command)
    (hcmd : ∀ c p, cmd.number? (.pushes c) = some p → p ≠ joinPush) :
    Routines cmd s (s.handle cmd) := by
  cases cmd with
  | connect => exact routines_connect s
  | disconnect code reason done => exact routines_disconnect s code reason _
  | replaceTransport factory => exact routines_replaceTransport s factory
  | pause =>
    simp only [handle, pause]
    split
    · exact (routines_disconnect s none none .nothing).tail (.elsewhere ⟨rfl, rfl, rfl, rfl, rfl, rfl⟩)
    · exact .refl
  | resume =>
    simp only [handle, resume]
    split
    · exact routines_prepared (routines_connect _) ⟨rfl, rfl, rfl, rfl, rfl, rfl⟩
    · exact .refl
  | register occasion ref callback => exact Elsewhere.routines ⟨rfl, rfl, rfl, rfl, rfl, rfl⟩
  | off refs => exact routines_off s refs
  | ping ticket => exact routines_ping s ticket
  | askReadyState ticket => exact routines_perform s rfl
  | askReconnectTries ticket => exact routines_perform s rfl
  | askEstablished ticket => exact routines_perform s rfl
  | createChannel c topic params => exact routines_createChannel s c topic params
  | channel c op => exact routines_channelOp s c op (hcmd c)
  | dropChannel c => exact routines_dropChannel s c
  | transport t event => exact routines_transportEvent s t event
  | timer event => exact routines_timerEvent s event
  | shutdown => exact routines_shutdown s

end Outside

end Socket

end Switchboard
