import Switchboard.Proofs.Heralds
import Switchboard.Proofs.Registrations
import Switchboard.Proofs.Severed

/-!
# How a message is heard

A message whose event is none of those that channels listen to by themselves changes no channel.  It is
told to the channels that it is for, one after another: each asks its hook and then tells its listeners
for the event.  Then the callbacks for messages run.

Main definitions

* `Event.IsOrdinary`: an event that channels do not listen to by themselves;
* `Channel.retold`, `Socket.hearing`: what listeners, and a whole channel, are told of a message;
* `Socket.onTurn`: the socket when a message comes to a channel;
* `Call.isCallback`: code of a user runs;
* `Socket.OnlyCalls`: nothing has become of a socket but that it has made some calls;
* `Socket.Attended`: entries for messages have had a message.

Main results

* `Socket.onlyCalls_deliver`: what a message comes to for one channel;
* `Socket.onlyCalls_deliverAll`: and for all channels;
* `Socket.Reachable.heard_in_order`: which callbacks run because of a message, and in which order.
-/

set_option autoImplicit false

namespace Switchboard

/-- An event that channels do not listen to by themselves. -/
structure Event.IsOrdinary (event : String) : Prop where
  not_close : event ≠ Event.close
  not_error : event ≠ Event.error
  not_reply : event ≠ Event.reply
  not_named : ¬ Event.NamesReply event

/-- The user's callback of an entry, if it is one. -/
def OnMessage.user? : OnMessage → Option CallbackId
  | .callback number => some number
  | .ping .. => none

/-- The user's callbacks for messages, in the order of registration. -/
def Callbacks.userMessages (callbacks : Callbacks) : List CallbackId :=
  callbacks.onMessage.filterMap fun e => e.2.user?

/-- A call by which code of a user runs, or a stream of a user yields. -/
def Call.isCallback : Call → Bool
  | .hook .. | .error .. | .effect (.runOpen _) | .effect (.runClose ..) | .effect (.runMessage ..)
  | .effect (.runEvent ..) | .effect (.yield ..) | .effect (.runReply ..) => true
  | .effect _ => false

namespace Channel

/-- The listeners for an event, in the order of registration. -/
def listenersOf (ch : Channel) (event : String) : List Listener :=
  (ch.bindings.filter fun b => b.event == event).filterMap Binding.listener?

/-- What the listeners of a channel are told of a message, with the payload that its hook gave; a message
without a join ref belongs to the present join. -/
def retold (ch : Channel) (m : Message) (payload : Payload) : List Call :=
  (ch.listenersOf m.event).map fun l =>
    .effect (l.effect ⟨m.event, payload, m.ref, m.joinRef <|> ch.joinRef⟩)

variable {ch : Channel} {x : Exchange} {c : ChannelId}

/-- Only users listen to an ordinary event. -/
theorem Sound.isListener_of_ordinary (hs : ch.Sound x c) {b : Binding} (hb : b ∈ ch.bindings)
    (ordinary : Event.IsOrdinary b.event) : b.IsListener := by
  by_contra hnot
  rcases hs.internal hb hnot with rfl | rfl | rfl | ⟨_, _, r, _, _, _, _, he⟩
  · exact ordinary.not_close rfl
  · exact ordinary.not_error rfl
  · exact ordinary.not_reply rfl
  · exact ordinary.not_named ⟨r, he⟩

theorem isCallback_of_mem_retold {m : Message} {payload : Payload} {call : Call}
    (h : call ∈ ch.retold m payload) : call.isCallback = true := by
  obtain ⟨l, _, rfl⟩ := List.mem_map.mp h
  cases l <;> rfl

end Channel

/-- Under different refs, each entry is found under its own. -/
theorem Registry.find?_of_mem {α : Type} {registry : Registry α} (hnodup : registry.refs.Nodup)
    {e : Ref × α} (h : e ∈ registry) : registry.find? e.1 = some e.2 := by
  induction registry with
  | nil => cases h
  | cons first rest ih =>
    obtain ⟨hnot, hrest⟩ := List.nodup_cons.mp hnodup
    rw [find?_cons]
    rcases List.mem_cons.mp h with rfl | h
    · exact if_pos rfl
    · rw [if_neg fun heq => hnot (List.mem_map.mpr ⟨e, h, heq.symm⟩)]
      exact ih hrest h

namespace Socket

variable {ω : Type} [Outside ω] {s t u : Socket (Recorded (Watched ω))} {c : ChannelId}
variable {ch : Channel} {m : Message} {calls calls' : List Call}

/-- What the hook and the listeners of a channel are told of a message; if the hook withholds a payload,
the error callbacks are told instead. -/
def hearing (s : Socket (Recorded (Watched ω))) (ch : Channel) (m : Message) : List Call :=
  match ch.hook with
  | none => ch.retold m m.payload
  | some hook => .hook hook m.event m.payload m.ref ::
      match (Outside.hook hook m.event m.payload m.ref s.exchange s.outside).1 with
      | some payload => ch.retold m payload
      | none =>
        if m.payload.isPresent then
          s.callbacks.userErrors.map fun callback => .error callback (hookViolation ch.topic m.event)
        else ch.retold m .absent

/-- The socket when a message comes to a channel: the channels before it have had it. -/
def onTurn (s : Socket (Recorded (Watched ω))) (m : Message) (c : ChannelId) :
    Socket (Recorded (Watched ω)) :=
  (s.order.takeWhile (· ≠ c)).foldl (deliver m) s

/-- What all channels that a message is for are told of it. -/
def hearings (s : Socket (Recorded (Watched ω))) (m : Message) (l : List ChannelId) : List Call :=
  (l.filter (s.isMember · m)).flatMap fun c =>
    (s.channels.get? c).elim [] fun ch => (s.onTurn m c).hearing ch m

theorem isCallback_of_mem_hearing {call : Call} (h : call ∈ s.hearing ch m) :
    call.isCallback = true := by
  unfold hearing at h
  split at h
  · exact Channel.isCallback_of_mem_retold h
  · rcases List.mem_cons.mp h with rfl | h
    · rfl
    · split at h
      · exact Channel.isCallback_of_mem_retold h
      · split at h
        · obtain ⟨callback, _, rfl⟩ := List.mem_map.mp h
          rfl
        · exact Channel.isCallback_of_mem_retold h

theorem isCallback_of_mem_hearings {l : List ChannelId} {call : Call} (h : call ∈ s.hearings m l) :
    call.isCallback = true := by
  obtain ⟨c, _, hcall⟩ := List.mem_flatMap.mp h
  cases hc : s.channels.get? c with
  | none => simp [hc] at hcall
  | some ch =>
    rw [hc] at hcall
    exact isCallback_of_mem_hearing hcall

/-! ### Nothing but calls -/

/-- Nothing has become of a socket but that it has made some calls. -/
structure OnlyCalls (calls : List Call) (s t : Socket (Recorded (Watched ω))) : Prop where
  same : t = { s with exchange := t.exchange, outside := t.outside }
  made_eq : t.made = s.made ++ calls

omit [Outside ω] in
theorem OnlyCalls.refl (s : Socket (Recorded (Watched ω))) : OnlyCalls [] s s :=
  ⟨rfl, (List.append_nil _).symm⟩

omit [Outside ω] in
theorem OnlyCalls.trans (h : OnlyCalls calls s t) (h' : OnlyCalls calls' t u) :
    OnlyCalls (calls ++ calls') s u where
  same := by
    have hsame := h.same
    rw [h'.same, hsame]
  made_eq := by rw [h'.made_eq, h.made_eq, List.append_assoc]

omit [Outside ω] in
theorem OnlyCalls.channels_eq (h : OnlyCalls calls s t) : t.channels = s.channels :=
  (congrArg Socket.channels h.same).trans rfl

omit [Outside ω] in
theorem OnlyCalls.callbacks_eq (h : OnlyCalls calls s t) : t.callbacks = s.callbacks :=
  (congrArg Socket.callbacks h.same).trans rfl

omit [Outside ω] in
theorem OnlyCalls.order_eq (h : OnlyCalls calls s t) : t.order = s.order :=
  (congrArg Socket.order h.same).trans rfl

theorem onlyCalls_performAll (s : Socket (Recorded (Watched ω))) (es : List Effect) :
    OnlyCalls (es.map .effect) s (s.performAll es) :=
  ⟨performAll_eq s es, made_performAll s es⟩

theorem onlyCalls_runErrors (failure : SocketError) (registry : Registry OnError)
    (context : ErrorContext) (s : Socket (Recorded (Watched ω))) :
    OnlyCalls ((registry.filterMap fun e => e.2.user?).map fun callback => .error callback failure) s
      (runErrors failure registry context s) := by
  induction registry generalizing context s with
  | nil => exact .refl s
  | cons entry rest ih =>
    obtain ⟨ref, callback | channel⟩ := entry
    · have hcall : OnlyCalls [.error callback failure] s (s.runError callback failure context).2 :=
        ⟨rfl, rfl⟩
      exact hcall.trans (ih _ _)
    · exact ih context s

theorem onlyCalls_report (s : Socket (Recorded (Watched ω))) (failure : SocketError) :
    OnlyCalls (s.callbacks.userErrors.map fun callback => .error callback failure) s
      (s.report failure) :=
  onlyCalls_runErrors failure s.callbacks.onError s.errorContext s

/-! ### One channel -/

/-- An ordinary event reaches the listeners for it, one after another. -/
theorem onlyCalls_runBindings (nested : Dispatch (Recorded (Watched ω))) {x : Exchange}
    (hc : s.channels.get? c = some ch) (hs : ch.Sound x c) (ordinary : Event.IsOrdinary m.event)
    (payload : Payload) :
    OnlyCalls (ch.retold m payload) s
      (s.runBindings nested c ⟨m.event, payload, m.ref, m.joinRef⟩) := by
  have hwalk := walk_listeners (s := s) nested ⟨m.event, payload, m.ref, m.joinRef <|> ch.joinRef⟩
    hs.distinct (l := ch.bindings.filter fun b => b.event == m.event) (fun b hb => by
      obtain ⟨hmem, hevent⟩ := List.mem_filter.mp hb
      rw [beq_iff_eq] at hevent
      exact ⟨hmem, hevent, hs.isListener_of_ordinary hmem (hevent ▸ ordinary)⟩) hc
  simp only [runBindings, hc, Channel.bindingsOf]
  rw [hwalk]
  have hcalls : ch.retold m payload = ((ch.listenersOf m.event).map fun l =>
      l.effect ⟨m.event, payload, m.ref, m.joinRef <|> ch.joinRef⟩).map .effect := by
    rw [List.map_map]
    rfl
  rw [hcalls]
  exact onlyCalls_performAll s _

/-- A socket that has asked a hook what to make of a message. -/
def asked (s : Socket (Recorded (Watched ω))) (hook : CallbackId) (m : Message) :
    Socket (Recorded (Watched ω)) :=
  { s with
    exchange := (Outside.hook hook m.event m.payload m.ref s.exchange s.outside).2.1
    outside := (Outside.hook hook m.event m.payload m.ref s.exchange s.outside).2.2 }

theorem onlyCalls_asked (s : Socket (Recorded (Watched ω))) (hook : CallbackId) (m : Message) :
    OnlyCalls [.hook hook m.event m.payload m.ref] s (s.asked hook m) := ⟨rfl, rfl⟩

theorem passHook_asked {hook : CallbackId} (hhook : ch.hook = some hook) :
    s.passHook ch m.event m.payload m.ref =
      match (Outside.hook hook m.event m.payload m.ref s.exchange s.outside).1 with
      | some payload => (some payload, s.asked hook m)
      | none =>
        if m.payload.isPresent then (none, (s.asked hook m).report (hookViolation ch.topic m.event))
        else (some .absent, s.asked hook m) := by
  simp only [passHook, hhook]
  rfl

/-- A message that comes to a channel is put before its hook and told to its listeners. -/
theorem onlyCalls_trigger {x : Exchange} (hc : s.channels.get? c = some ch) (hs : ch.Sound x c)
    (ordinary : Event.IsOrdinary m.event) :
    OnlyCalls (s.hearing ch m) s (s.trigger c m.event m.payload m.ref m.joinRef) := by
  have htold : ∀ {t : Socket (Recorded (Watched ω))}, t.channels = s.channels → ∀ payload,
      OnlyCalls (ch.retold m payload) t
        (t.runBindings (dispatchTo 2) c ⟨m.event, payload, m.ref, m.joinRef⟩) :=
    fun heq payload => onlyCalls_runBindings _ (heq ▸ hc) hs ordinary payload
  have htrigger : s.trigger c m.event m.payload m.ref m.joinRef =
      dispatchWith (dispatchTo 2) c m.event m.payload m.ref m.joinRef s := rfl
  rw [htrigger]
  simp only [dispatchWith, hc]
  cases hhook : ch.hook with
  | none =>
    simp only [passHook, hearing, hhook]
    exact htold rfl m.payload
  | some hook =>
    simp only [passHook_asked hhook, hearing, hhook]
    have hasked := onlyCalls_asked s hook m
    cases (Outside.hook hook m.event m.payload m.ref s.exchange s.outside).1 with
    | some payload => exact hasked.trans (htold hasked.channels_eq payload)
    | none =>
      by_cases hpresent : m.payload.isPresent = true
      · simp only [hpresent, if_true]
        exact hasked.trans (onlyCalls_report (s.asked hook m) _)
      · simp only [hpresent, if_false, Bool.false_eq_true]
        exact hasked.trans (htold hasked.channels_eq .absent)

/-! ### All channels -/

/-- A message that is for a channel comes to it when the channels before it have had it; a channel that it
is not for hears nothing. -/
theorem OnlyCalls.deliver (h : OnlyCalls calls s t) (hs : Sound s)
    (ordinary : Event.IsOrdinary m.event) (hturn : s.onTurn m c = t) :
    OnlyCalls (s.hearings m [c]) t (t.deliver m c) := by
  have hmember : t.isMember c m = s.isMember c m := by
    unfold isMember
    rw [h.channels_eq]
  cases hfor : s.isMember c m with
  | false =>
    have hnothing : s.hearings m [c] = [] := by simp [hearings, hfor]
    have hpassed : t.deliver m c = t := by simp [Socket.deliver, hmember, hfor]
    rw [hnothing, hpassed]
    exact .refl t
  | true =>
    obtain ⟨ch, hc⟩ : ∃ ch, s.channels.get? c = some ch := by
      unfold isMember at hfor
      split at hfor
      · cases hfor
      · exact ⟨_, ‹_›⟩
    have hheard : s.hearings m [c] = t.hearing ch m := by simp [hearings, hfor, hc, hturn]
    have hcomes : t.deliver m c = t.trigger c m.event m.payload m.ref m.joinRef := by
      simp [Socket.deliver, hmember, hfor]
    rw [hheard, hcomes]
    exact onlyCalls_trigger (h.channels_eq ▸ hc) (hs.channels hc) ordinary

/-- A message comes to the channels in the order of registration. -/
theorem onlyCalls_deliverAll (hs : Sound s) (ordinary : Event.IsOrdinary m.event)
    {l : List ChannelId} (hl : l <+: s.order) :
    OnlyCalls (s.hearings m l) s (l.foldl (deliver m) s) := by
  -- The channels before one of them are those that the fold has been through.
  induction l using List.reverseRecOn with
  | nil => exact .refl s
  | append_singleton l c ih =>
    have hnot : c ∉ l := by
      have hnodup := hs.nodup.sublist hl.sublist
      exact fun hmem => (List.nodup_append.mp hnodup).2.2 c hmem c (List.mem_singleton_self c) rfl
    have hbefore := ih ((List.prefix_append l [c]).trans hl)
    have hturn : s.onTurn m c = l.foldl (deliver m) s := by
      rw [onTurn, takeWhile_ne_of_prefix hl hnot]
    have hsplit : s.hearings m (l ++ [c]) = s.hearings m l ++ s.hearings m [c] := by
      simp only [hearings, List.filter_append, List.flatMap_append]
    rw [List.foldl_append, hsplit]
    exact hbefore.trans (hbefore.deliver hs ordinary hturn)

/-! ### Callbacks for messages -/

/-- Entries for messages have had a message: the channels stay, and of all code of users, only callbacks
for messages have run. -/
structure Attended (m : Message) (users : List CallbackId) (s t : Socket (Recorded (Watched ω))) :
    Prop where
  channels_eq : t.channels = s.channels
  order_eq : t.order = s.order
  made : ∃ calls, t.made = s.made ++ calls ∧
    calls.filter Call.isCallback = users.map fun callback => .effect (.runMessage callback m)

variable {users users' : List CallbackId} {ref other : Ref}

omit [Outside ω] in
theorem Attended.refl (s : Socket (Recorded (Watched ω))) : Attended m [] s s :=
  ⟨rfl, rfl, [], by simp, rfl⟩

omit [Outside ω] in
theorem Attended.trans (h : Attended m users s t) (h' : Attended m users' t u) :
    Attended m (users ++ users') s u := by
  obtain ⟨calls, hmade, hcalls⟩ := h.made
  obtain ⟨calls', hmade', hcalls'⟩ := h'.made
  refine ⟨h'.channels_eq.trans h.channels_eq, h'.order_eq.trans h.order_eq, calls ++ calls', ?_, ?_⟩
  · rw [hmade', hmade, List.append_assoc]
  · rw [List.filter_append, hcalls, hcalls', List.map_append]

/-- The user's callback for messages that is registered under a ref. -/
def userMessage? (s : Socket (Recorded (Watched ω))) (ref : Ref) : Option CallbackId :=
  (s.callbacks.onMessage.find? ref).bind OnMessage.user?

/-- A callback has the message; the caller of a ping may be answered. -/
theorem attended_runOnMessage (s : Socket (Recorded (Watched ω))) (m : Message) (ref : Ref) :
    Attended m (s.userMessage? ref).toList s (s.runOnMessage m ref) := by
  unfold runOnMessage userMessage?
  cases s.callbacks.onMessage.find? ref with
  | none => exact .refl s
  | some entry =>
    cases entry with
    | callback callback => exact ⟨rfl, rfl, _, rfl, rfl⟩
    | ping waited started ticket =>
      dsimp only
      split
      · exact ⟨rfl, rfl, _, rfl, rfl⟩
      · exact .refl s

/-- What is registered under other refs stays. -/
theorem userMessage?_runOnMessage (s : Socket (Recorded (Watched ω))) (m : Message) (hne : other ≠ ref) :
    (s.runOnMessage m ref).userMessage? other = s.userMessage? other := by
  unfold runOnMessage
  split
  · rfl
  · split
    · have hkept : (s.callbacks.onMessage.without [ref]).find? other =
          s.callbacks.onMessage.find? other := by
        rw [Registry.find?_without, if_neg (by simpa using hne)]
      exact congrArg (·.bind OnMessage.user?) hkept
    · rfl
  · rfl

/-- Only callbacks for messages run.  Under different refs, each has the message once, in the order of
registration. -/
theorem attended_foldl (s : Socket (Recorded (Watched ω))) (m : Message) (refs : List Ref) :
    ∃ users, Attended m users s (refs.foldl (runOnMessage m) s) ∧
      (refs.Nodup → users = refs.filterMap s.userMessage?) := by
  induction refs generalizing s with
  | nil => exact ⟨[], .refl s, fun _ => rfl⟩
  | cons ref refs ih =>
    obtain ⟨users, h, husers⟩ := ih (s.runOnMessage m ref)
    refine ⟨_, (attended_runOnMessage s m ref).trans h, fun hnodup => ?_⟩
    obtain ⟨hnot, hrest⟩ := List.nodup_cons.mp hnodup
    have hkept : refs.filterMap (s.runOnMessage m ref).userMessage? =
        refs.filterMap s.userMessage? :=
      List.filterMap_congr fun other hmem =>
        userMessage?_runOnMessage s m fun heq => hnot (heq ▸ hmem)
    rw [husers hrest, hkept]
    cases huser : s.userMessage? ref <;> simp [huser]

omit [Outside ω] in
/-- Under different refs, what is registered is found under its own. -/
theorem Listed.userMessages_eq (h : s.Listed) :
    s.callbacks.onMessage.refs.filterMap s.userMessage? = s.callbacks.userMessages := by
  rw [Registry.refs, List.filterMap_map]
  refine List.filterMap_congr fun e hmem => ?_
  simp only [Function.comp_apply, userMessage?, Registry.find?_of_mem h.nodup hmem, Option.bind_some]

/-! ### A message is heard -/

/-- A socket that is about to hand a message to its channels: retired transports that have closed are given
up, and the reply to a sign of life is taken for that. -/
def attentive (s : Socket (Recorded (Watched ω))) (m : Message) : Socket (Recorded (Watched ω)) :=
  if s.pruneRetired.answersHeartbeat m then s.pruneRetired.acknowledgeHeartbeat else s.pruneRetired

/-- No code of a user has run by then, and the registrations are as they were. -/
theorem attended_attentive (s : Socket (Recorded (Watched ω))) (m : Message) :
    Attended m [] s (s.attentive m) ∧ (s.attentive m).callbacks = s.callbacks := by
  have hpruned := congrArg Socket.callbacks (pruneRetired_eq s)
  have hattended : Attended m [] s s.pruneRetired :=
    ⟨(congrArg Socket.channels (pruneRetired_eq s)).trans rfl,
      (congrArg Socket.order (pruneRetired_eq s)).trans rfl, _, made_performAll _ _, by
        simp [List.filter_map, Function.comp_def, Call.isCallback]⟩
  unfold attentive
  split
  · exact ⟨hattended.trans ⟨rfl, rfl, [], (List.append_nil _).symm, rfl⟩, hpruned⟩
  · exact ⟨hattended, hpruned⟩

variable [Obliging ω] {admits : Socket (Recorded (Watched ω)) → Command → Prop}

/-- A message with an ordinary event changes no channel.  The channels that it is for hear it, one after
another in the order of registration: each asks its hook once, and then, unless the hook keeps back a
payload, which is reported to the error callbacks instead, it tells its listeners for the event, which are
all its bindings of that name.  Then the callbacks for messages run, once each, in the order of
registration.  No other code of users runs. -/
theorem Reachable.heard_in_order (h : Reachable admits s) {cmd : Command} {x : Exchange}
    (next : s.exchange.next? = some (cmd, x)) (hm : { s with exchange := x }.incoming? cmd = some m)
    (ordinary : Event.IsOrdinary m.event) :
    let start := { s with exchange := x }.attentive m
    let handled := { s with exchange := x }.handle cmd
    handled.channels = s.channels ∧ handled.order = s.order ∧
    (∀ c ch, s.channels.get? c = some ch →
      ∀ b ∈ ch.bindings, b.event = m.event → b.IsListener) ∧
    ∃ calls users, handled.made = s.made ++ calls ∧
      calls.filter Call.isCallback = start.hearings m s.order ++
        users.map (fun callback => .effect (.runMessage callback m)) ∧
      ((∀ s cmd, admits s cmd → OwnRefs s cmd) → s.exchange.drawn < 2 ^ 64 →
        users = s.callbacks.userMessages) := by
  intro start handled
  have hnext : Sound { s with exchange := x } := h.sound.quiet (quiet_next? next)
  obtain ⟨hready, hcallbacks⟩ := attended_attentive { s with exchange := x } m
  have hstart : Sound start :=
    hnext.quiet ((quiet_pruneRetired _).trans (quiet_answerHeartbeat _ m))
  have htold := onlyCalls_deliverAll hstart ordinary (List.prefix_refl start.order)
  set told := start.order.foldl (deliver m) start with htoldeq
  obtain ⟨users, hattended, husers⟩ := attended_foldl told m told.callbacks.onMessage.refs
  have hhandled : handled = told.callbacks.onMessage.refs.foldl (runOnMessage m) told :=
    handle_of_incoming? hm
  rw [← hhandled] at hattended
  obtain ⟨before, hbefore, hsilent⟩ := hready.made
  obtain ⟨after, hafter, hheard⟩ := hattended.made
  have hregistered : told.callbacks = s.callbacks := htold.callbacks_eq.trans hcallbacks
  refine ⟨(hattended.channels_eq.trans htold.channels_eq).trans hready.channels_eq,
    (hattended.order_eq.trans htold.order_eq).trans hready.order_eq, ?_,
    before ++ start.hearings m s.order ++ after, users, ?_, ?_, fun hown hb => ?_⟩
  · intro c ch hc b hb hevent
    exact (h.sound.channels hc).isListener_of_ordinary hb (hevent ▸ ordinary)
  · rw [hafter, htold.made_eq, hready.order_eq, hbefore]
    simp only [List.append_assoc]
    rfl
  · rw [List.filter_append, List.filter_append, hsilent, hheard, List.map_nil, List.nil_append,
      List.filter_eq_self.mpr fun call => isCallback_of_mem_hearings]
  · have hlisted := h.listed hown hb
    have hrefs : told.userMessage? = s.userMessage? := by
      funext ref
      rw [userMessage?, userMessage?, hregistered]
    rw [husers (hregistered ▸ hlisted.nodup), hrefs, hregistered, hlisted.userMessages_eq]

/-! ### A message in a script -/

/-- The commands of a script that register for messages only under the fourth ref, once that was drawn. -/
def registersFourth (s : Socket (Recorded (Watched Idle))) : Command → Bool
  | .register .message ref _ =>
    ref == RefGenerator.text 4 && 4 ≤ s.exchange.drawn && !s.callbacks.onMessage.refs.contains ref
  | _ => true

theorem ownRefs_of_registersFourth {s : Socket (Recorded (Watched Idle))} {cmd : Command}
    (h : registersFourth s cmd = true) : OwnRefs s cmd := by
  rintro ref callback rfl
  simp only [registersFourth, Bool.and_eq_true, beq_iff_eq, decide_eq_true_eq, Bool.not_eq_true',
    List.contains_eq_mem, decide_eq_false_iff_not] at h
  exact ⟨⟨4, by decide, h.1.2, h.1.1⟩, h.2⟩

/-- A joined channel has a hook and a listener for news, a callback for messages is registered, and the
server announces news. -/
def announcing : List Deed :=
  joined "room" ++ [
    .ask 0 (fun x => (x.bind 0 "news" (.callback 5)).2) fun x known => .bind x known _ _, .take,
    .post (.channel 0 (.setHook 7)) fun _ => rfl, .take, .acts (fun x => x.drawRef.2) fun x =>
      .single (.drawRef x), .post (.register .message (RefGenerator.text 4) 9) fun _ => rfl, .take,
    .announce 0 "3" "room" "news"]

theorem ordinary_news : Event.IsOrdinary "news" where
  not_close := by decide
  not_error := by decide
  not_reply := by decide
  not_named := by
    rintro ⟨r, heq⟩
    have hfirst := congrArg (·.toList.head?) heq
    simp [Event.replyTo] at hfirst

/-- The hook, the listener and the callback have the news, in this order. -/
theorem heard_in_order_announced : ∃ (s : Socket (Recorded (Watched Idle))) (cmd : Command)
    (x : Exchange) (m : Message), Reachable OwnRefs s ∧ s.exchange.next? = some (cmd, x) ∧
    { s with exchange := x }.incoming? cmd = some m ∧ Event.IsOrdinary m.event ∧
    s.exchange.drawn < 2 ^ 64 ∧ ({ s with exchange := x }.handle cmd).channels = s.channels ∧
    ∃ calls, ({ s with exchange := x }.handle cmd).made = s.made ++ calls ∧
      calls.filter Call.isCallback = [.hook 7 "news" (.bytes []) none,
        .effect (.runEvent 5 ⟨"news", .bytes [], none, some "3"⟩), .effect (.runMessage 9 m)] := by
  obtain ⟨s, hplay, hview⟩ := Option.map_eq_some_iff.mp
    (show (observed.playIn? (fun s o => some { s with outside := ⟨⟨o, s.made⟩, s.log, s.dealings⟩ })
        registersFourth announcing).map (fun s =>
          (s.exchange.next?.map fun n =>
            ({ s with exchange := n.2 }.incoming? n.1).map fun m : Message => (m.event, 
              ({ s with exchange := n.2 }.attentive m).hearings m s.order),
            s.exchange.drawn, s.callbacks.userMessages)) =
      some (some (some ("news", [.hook 7 "news" (.bytes []) none,
        .effect (.runEvent 5 ⟨"news", .bytes [], none, some "3"⟩)])), 4, [9]) by cbv)
  simp only [Prod.mk.injEq] at hview
  obtain ⟨hnext, hdrawn, husers⟩ := hview
  obtain ⟨⟨cmd, x⟩, hnext, hm⟩ := Option.map_eq_some_iff.mp hnext
  obtain ⟨m, hm, hheard⟩ := Option.map_eq_some_iff.mp hm
  simp only [Prod.mk.injEq] at hheard
  obtain ⟨hevent, hheard⟩ := hheard
  have hs : Reachable OwnRefs s := by
    refine ⟨_, _, _, _, steps_of_playIn? (fun s _ lawful => ?_) (fun {s o _} hbecome => ?_)
      (fun hnext hpass => .take hnext (ownRefs_of_registersFourth hpass)) hplay⟩
    · exact .surroundings lawful s.outside.outside
    · cases hbecome
      exact .surroundings .refl _
  have hordinary : Event.IsOrdinary m.event := hevent ▸ ordinary_news
  have hfew : s.exchange.drawn < 2 ^ 64 := by rw [hdrawn]; decide
  obtain ⟨hkept, -, -, calls, users, hmade, hcalls, hown⟩ := hs.heard_in_order hnext hm hordinary
  refine ⟨s, cmd, x, m, hs, hnext, hm, hordinary, hfew, hkept, calls, hmade, ?_⟩
  rw [hcalls, hheard, hown (fun _ _ h => h) hfew, husers]
  rfl

end Socket

end Switchboard
