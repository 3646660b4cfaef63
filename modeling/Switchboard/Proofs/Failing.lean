import Switchboard.Proofs.Runs

/-!
# How a channel takes a failure

A channel that is told of a failure asks its hook, fails, and then tells its listeners.  It fails first
because its own binding for failures is the oldest: bindings are added behind the others, and where users
leave the name of failures alone none of its bindings goes.

Main definitions

* `Channel.alarms`, `Channel.FailsFirst`, `Channel.followers`: what hears of a failure;
* `ChannelOp.KeepsAlarms`: an operation removes no binding for failures;
* `Channel.fallen`: what becomes of a channel that fails;
* `Socket.alert`: the hook is asked.

Main results

* `Socket.Rough.alarms`: bindings for failures are only ever added, behind the others;
* `Socket.persists_failsFirst`: every channel fails before its listeners are told;
* `Socket.failChannel_eq`, `Socket.triggerError_eq`: what a failure comes to.
-/

set_option autoImplicit false

namespace Switchboard

/-- What a listener makes of an event. -/
def Listener.effect (event : InboundEvent) : Listener → Effect
  | .callback f => .runEvent f event
  | .stream t => .yield t event

/-- The listener of a user's binding. -/
def Binding.listener? (b : Binding) : Option Listener :=
  match b.target with
  | .listener l => some l
  | _ => none

/-- An operation removes no binding for failures. -/
def ChannelOp.KeepsAlarms : ChannelOp → Prop
  | .unbind event _ => event ≠ Event.error
  | _ => True

namespace Channel

variable {x y z : Exchange} {c : ChannelId} {ch ch' : Channel} {p : PushId} {q : Push}

/-! ### What hears of a failure -/

/-- The bindings for failures, in the order of registration. -/
def alarms (ch : Channel) : List Binding := ch.bindings.filter fun b => b.event == Event.error

/-- The first binding for failures is the channel's own. -/
def FailsFirst (ch : Channel) : Prop := ∃ rest, ch.alarms = ⟨Event.error, 1, .error⟩ :: rest

/-- The listeners that are told of failures, in the order of registration. -/
def followers (ch : Channel) : List Listener := ch.alarms.filterMap Binding.listener?

theorem mem_alarms {b : Binding} : b ∈ ch.alarms ↔ b ∈ ch.bindings ∧ b.event = Event.error := by
  rw [alarms, List.mem_filter, beq_iff_eq]

theorem alarms_congr (h : ch'.bindings = ch.bindings) : ch'.alarms = ch.alarms := by
  simp only [alarms, h]

theorem alarms_prefix (h : ch'.alarms = ch.alarms) : ch.alarms <+: ch'.alarms := by
  rw [h]

theorem FailsFirst.mono (h : ch.FailsFirst) (hle : ch.alarms <+: ch'.alarms) : ch'.FailsFirst := by
  obtain ⟨rest, hrest⟩ := h
  obtain ⟨more, hmore⟩ := hle
  exact ⟨rest ++ more, by rw [← hmore, hrest, List.cons_append]⟩

theorem failsFirst_new (topic : String) (params : Params) (timeout : Nat) (refs : List Ref) :
    (Channel.new topic params timeout refs).FailsFirst :=
  ⟨[], rfl⟩

theorem alarms_dropBindings? {event : Option String} (h : event ≠ some Event.error) :
    (ch.dropBindings? event).alarms = ch.alarms := by
  cases event with
  | none => rfl
  | some event =>
    have hne : Event.error ≠ event := fun heq => h (congrArg some heq.symm)
    simp only [alarms, dropBindings?, dropBindings, List.filter_filter]
    refine List.filter_congr fun b _ => ?_
    by_cases hb : b.event = Event.error
    · simp [hb, hne]
    · simp [hb]

/-- The bindings of a push are not those for failures. -/
theorem Sound.alarms_drop (hs : ch.Sound x c) (hq : ch.pushes.get? p = some q)
    (hb : ch'.bindings = ch.bindings) : (ch'.dropBindings? q.refEvent).alarms = ch.alarms := by
  refine (alarms_dropBindings? fun heq => ?_).trans (alarms_congr hb)
  rw [hs.events hq, Option.map_eq_some_iff] at heq
  obtain ⟨r, _, hr⟩ := heq
  exact Event.replyTo_ne_error r hr

theorem Sound.alarms_settle (hs : ch.Sound x c) (hq : ch.pushes.get? p = some q) (timer : TimerSlot)
    (reply : Reply) : (ch.settle p q timer reply).alarms = ch.alarms := by
  have hb : { ch with pushes := ch.pushes.set p { q with
    timer := timer, received := some reply, waiters := [] } }.bindings = ch.bindings := rfl
  exact hs.alarms_drop hq hb

theorem Sound.alarms_takeBack (hs : ch.Sound x c) (hq : ch.pushes.get? p = some q) :
    (ch.takeBack p q).alarms = ch.alarms :=
  hs.alarms_drop hq rfl

theorem Starts.alarms (h : ch.Starts x y c p ch') (hs : ch.Sound z c) : ch'.alarms = ch.alarms := by
  obtain ⟨q, r, n, hq, _, ha⟩ := h
  have hb : { ch with pushes := ch.pushes.set p { q with
    ref := some r, refEvent := some (Event.replyTo r), timer := q.timer.arm } }.bindings =
      ch.bindings := rfl
  have hdropped := hs.alarms_drop hq hb
  have hadded : (Event.replyTo r == Event.error) = false := beq_false_of_ne (Event.replyTo_ne_error r)
  rw [alarms_congr ha.bindings, ← hdropped]
  simp [Channel.start, Channel.bind, Channel.alarms, hadded]

/-- A new push is added and starts to wait. -/
theorem Starts.alarms_insert (h : (ch.insert p q).Starts x y c p ch') (hs : ch.Sound z c)
    (hspent : z.Spent (.pushes c) p) (hfree : ch.pushes.get? p = none) (hq : q.IsNew) :
    ch'.alarms = ch.alarms :=
  h.alarms (hs.insert_new hspent hfree hq)

end Channel

namespace Socket

variable {ω : Type} {s t u : Socket (Recorded ω)} {k : Prompt} {c d : ChannelId}
variable {ch ch' : Channel} {p : PushId} {q : Push} {es : List Effect}

theorem Alter.alarms {registered : Prop} {x y : Exchange}
    (h : Alter k x y registered c ch ch' es) (hk : k.Within ChannelOp.KeepsAlarms)
    (hs : ch.Sound x c) (hxy : x.Evolves y) : ch.alarms <+: ch'.alarms := by
  have hsy := hs.mono hxy
  cases h with
  | alike same notes => exact Channel.alarms_prefix (Channel.alarms_congr same.bindings)
  | hooked op => exact List.prefix_rfl
  | listen op spent fresh =>
    simp only [Channel.alarms, Channel.bind, List.filter_append]
    exact List.prefix_append _ _
  | @unbind event number op =>
    subst op
    refine Channel.alarms_prefix ?_
    simp only [Channel.alarms, Channel.unbind, List.filter_filter]
    refine List.filter_congr fun b _ => ?_
    by_cases hb : b.event = Event.error
    · have hne : (Event.error == event) = false := beq_false_of_ne hk.symm
      simp [hb, hne]
    · simp [hb]
  | enlist op free spent other starts waits accepts =>
    exact Channel.alarms_prefix (starts.alarms_insert hsy spent free (Push.isNew_new _ _ _))
  | settle other push awaits unarmed answers =>
    exact Channel.alarms_prefix (hs.alarms_settle push _ _)
  | forget other push received => exact Channel.alarms_prefix (hs.alarms_drop push rfl)
  | unheard push awaits unarmed answers => exact Channel.alarms_prefix (hs.alarms_settle push _ _)
  | refused push awaits unarmed answers => exact Channel.alarms_prefix (hs.alarms_settle push _ _)
  | @abandoned q q' timer reply p timeout m ch' push awaits unarmed answers fresh free spent other
      starts push' =>
    have hsettled := hs.settle push timer reply
    have hfree : (ch.settle joinPush q timer reply).pushes.get? p = none := by
      rw [Channel.settle_pushes, Table.get?_set_of_ne _ other]
      exact free
    have hch' := starts.sound_insert hsettled hxy spent hfree (Push.isNew_bareLeave _ _)
    have herrored : { ch' with state := .errored }.Sound y c :=
      hch'.filter (List.Sublist.refl _) rfl fun _ => id
    have hstarted : ch'.alarms = ch.alarms :=
      (starts.alarms_insert (hsettled.mono hxy) spent hfree (Push.isNew_bareLeave _ _)).trans
        (hs.alarms_settle push timer reply)
    exact Channel.alarms_prefix ((herrored.alarms_takeBack push').trans hstarted)
  | failed listed push =>
    split
    · exact Channel.alarms_prefix (hs.alarms_takeBack push)
    · exact List.prefix_rfl

theorem Move.alarms (h : Move k c s t) (hk : k.Within ChannelOp.KeepsAlarms) (hs : Sound s)
    (hc : t.channels.get? c = some ch') :
    ∃ ch, s.channels.get? c = some ch ∧ ch.alarms <+: ch'.alarms := by
  cases h with
  | quiet quiet => exact ⟨ch', quiet.get? c ▸ hc, List.prefix_rfl⟩
  | alter channel alter works =>
    rw [works.get?] at hc
    cases hc
    exact ⟨_, channel, alter.alarms hk (hs.channels channel) works.evolves⟩
  | @accepted u v ch q timer reply channel push awaits unarmed answers status works flush =>
    have hset : (ch.settle joinPush q timer reply).alarms = ch.alarms :=
      (hs.channels channel).alarms_settle push timer reply
    obtain ⟨ch₁, hc₁, hle⟩ := flush.channel (hs.accept channel push works)
      (Φ := fun ch₁ => ch.alarms <+: ch₁.alarms)
      (fun {u _ _ _ _} hu _ _ hch hstarts hle => by
        rw [hstarts.alarms (hu.channels hch)]
        exact hle)
      works.get? (Channel.alarms_prefix hset)
    rw [hc₁] at hc
    cases hc
    exact ⟨ch, channel, hle⟩
  | @closed _ ch channel closes =>
    rw [closes.get?_self] at hc
    split at hc
    · cases hc
    · cases hc
      exact ⟨ch, channel, List.prefix_rfl⟩

/-- Bindings for failures are only ever added, behind those that are there. -/
theorem Rough.alarms (h : Rough k c s t) (hk : k.Within ChannelOp.KeepsAlarms) (hs : Sound s)
    (hc : t.channels.get? c = some ch') :
    ∃ ch, s.channels.get? c = some ch ∧ ch.alarms <+: ch'.alarms := by
  cases h with
  | move move => exact move.alarms hk hs hc
  | @lapse ch p q channel push works =>
    rw [works.get?] at hc
    cases hc
    exact ⟨ch, channel, List.prefix_rfl⟩
  | @departs ch _ join p timeout detached es channel push free spent other starts works accepts =>
    rw [works.get?] at hc
    cases hc
    have hdep := (departing_sound (hs.channels channel) push).mono works.evolves
    have hfree : (departing ch join).pushes.get? p = none := by
      rw [departing, Table.get?_set_of_ne _ other]
      exact free
    exact ⟨ch, channel, Channel.alarms_prefix (starts.alarms_insert hdep spent hfree (Push.isNew_leave _ _))⟩
  | @joins ch _ join timeout value channel push stays starts works =>
    rw [works.get?] at hc
    cases hc
    have hch := hs.channels channel
    have hb : { ch with
        state := .joining
        pushes := ch.pushes.set joinPush { join with timeout := timeout }.reset }.bindings =
          ch.bindings := rfl
    have hback := hch.alarms_drop push hb
    exact ⟨ch, channel, Channel.alarms_prefix
      ((starts.alarms (joining_sound hch push timeout)).trans hback)⟩

/-- Where users leave the name of failures alone, every channel fails before its listeners are told. -/
theorem persists_failsFirst :
    Persists (ω := ω) ChannelOp.KeepsAlarms (Throughout Channel.FailsFirst) := by
  refine persists_throughout Channel.failsFirst_new fun {k c s t} hs hs' hk h d ch' hd => ?_
  by_cases hdc : d = c
  · subst hdc
    obtain ⟨ch, hc, hle⟩ := h.alarms hk hs hd
    exact (hs' hc).mono hle
  · exact hs' (h.frame.others hdc ▸ hd)

end Socket

namespace Channel

variable {x : Exchange} {c : ChannelId} {ch : Channel} {p : PushId} {q : Push} {r : Ref}
variable {connected : Bool}

/-! ### What becomes of a channel that fails -/

/-- The join push is taken back. -/
def retract (ch : Channel) : Channel :=
  match ch.pushes.get? joinPush with
  | some q => ch.takeBack joinPush q
  | none => ch

/-- A channel that has failed: a join that was not answered is taken back, and the next join attempt is
armed if the socket was connected then. -/
def fallen (ch : Channel) (connected : Bool) : Channel :=
  { (if ch.state = .joining then ch.retract else ch) with
    state := .errored
    rejoinTimer := if connected then ch.rejoinTimer.schedule else ch.rejoinTimer }

theorem retract_rejoinTimer : ch.retract.rejoinTimer = ch.rejoinTimer := by
  unfold retract
  split
  · exact dropBindings?_rejoinTimer _
  · rfl

theorem retract_bindings : ch.retract.bindings.Sublist ch.bindings := by
  unfold retract
  split
  · exact dropBindings?_sublist _
  · exact List.Sublist.refl _

theorem fallen_bindings : (ch.fallen connected).bindings.Sublist ch.bindings := by
  unfold fallen
  dsimp only
  split
  · exact retract_bindings
  · exact List.Sublist.refl _

theorem Sound.alarms_fallen (hs : ch.Sound x c) : (ch.fallen connected).alarms = ch.alarms := by
  obtain ⟨q, hq, _⟩ := hs.join
  unfold fallen
  split
  · simp only [retract, hq]
    exact hs.alarms_takeBack hq
  · rfl

/-- The pushes that have a ref after the failure had it before; a join that was not answered has none. -/
theorem fallen_push (hq : (ch.fallen connected).pushes.get? p = some q) (hr : q.ref = some r) :
    ch.pushes.get? p = some q ∧ (ch.state = .joining → p ≠ joinPush) := by
  unfold fallen at hq
  dsimp only at hq
  split at hq
  · rename_i hjoining
    unfold retract at hq
    split at hq
    · rw [takeBack_pushes, Table.get?_set] at hq
      split at hq
      · cases hq
        cases hr
      · rename_i hother
        exact ⟨hq, fun _ => hother⟩
    · rename_i hnone
      refine ⟨hq, ?_⟩
      rintro _ rfl
      rw [hnone] at hq
      cases hq
  · rename_i hsettled
    exact ⟨hq, fun hjoining => absurd hjoining hsettled⟩

/-- A join that was not answered is where it was before it was sent, and is listened for no longer. -/
theorem Sound.fallen_join (hs : ch.Sound x c) (hjoining : ch.state = .joining) (connected : Bool) :
    ∃ q, ch.pushes.get? joinPush = some q ∧
      (ch.fallen connected).pushes.get? joinPush = some q.reset ∧
      ¬ (ch.fallen connected).Awaits joinPush := by
  obtain ⟨q, hq, _⟩ := hs.join
  have hretract : ch.retract = ch.takeBack joinPush q := by simp only [retract, hq]
  have hnot : ¬ (ch.takeBack joinPush q).Awaits joinPush := hs.not_awaits_drop hq rfl
  refine ⟨q, hq, ?_, ?_⟩
  · simp only [fallen, if_pos hjoining, hretract, takeBack_pushes, Table.get?_set_self]
  · simp only [fallen, if_pos hjoining, hretract]
    exact hnot

/-! ### Bindings by number -/

theorem binding?_of_mem (hd : (ch.bindings.map (·.number)).Nodup) {b : Binding} (hb : b ∈ ch.bindings) :
    ch.binding? b.event b.number = some b := by
  cases hfind : ch.binding? b.event b.number with
  | none =>
    have := List.find?_eq_none.mp hfind b hb
    simp at this
  | some b' =>
    have hmem := List.mem_of_find?_eq_some hfind
    have hmatch := List.find?_some hfind
    simp only [Bool.and_eq_true, beq_iff_eq] at hmatch
    rw [List.inj_on_of_nodup_map hd hmem hb hmatch.1]

/-- Behind the channel's own binding, only listeners hear of failures. -/
theorem Sound.isListener_of_mem (hs : ch.Sound x c) {rest : List Binding}
    (h : ch.alarms = ⟨Event.error, 1, .error⟩ :: rest) {b : Binding} (hb : b ∈ rest) : b.IsListener := by
  by_contra hnot
  have hmem : b ∈ ch.alarms := h ▸ List.mem_cons_of_mem _ hb
  obtain ⟨hbindings, hevent⟩ := mem_alarms.mp hmem
  have hsub : (ch.alarms.map (·.number)).Sublist (ch.bindings.map (·.number)) :=
    List.filter_sublist.map _
  have hnodup := hs.distinct.sublist hsub
  rw [h, List.map_cons, List.nodup_cons] at hnodup
  refine hnodup.1 (List.mem_map.mpr ⟨b, hb, ?_⟩)
  rw [hs.eq_error hbindings hevent hnot]

end Channel

namespace Socket

variable {ω : Type} [Outside ω] {s t : Socket ω} {c d : ChannelId} {ch : Channel} {x : Exchange}

/-! ### A channel fails -/

theorem resetPush_eq {ω : Type} {s : Socket ω} (hc : s.channels.get? c = some ch) :
    s.resetPush c joinPush = { s with channels := s.channels.set c ch.retract } := by
  have hpush : s.push? c joinPush = ch.pushes.get? joinPush := by
    simp only [push?, hc, Option.bind_some]
  cases hq : ch.pushes.get? joinPush with
  | none => simp only [resetPush, Channel.retract, hpush, hq, Table.set_get? hc]
  | some q =>
    simp only [resetPush, Channel.retract, hpush, hq, modifyChannel, Table.modify_eq_set hc,
      Channel.modifyPush, Table.modify_eq_set hq, Channel.takeBack]

theorem isConnected_channels (s : Socket ω) (channels : Table Channel) :
    isConnected { s with channels := channels } = s.isConnected :=
  rfl

/-- What it is for a channel to fail. -/
theorem failChannel_eq (hc : s.channels.get? c = some ch) : s.failChannel c = { s with
    channels := s.channels.set c (ch.fallen s.isConnected)
    exchange := if s.isConnected then
      s.exchange.arm (ch.rejoinTimer.delay s.config.rejoinAfter)
        (.rejoin c ch.rejoinTimer.schedule.slot.generation)
      else s.exchange } := by
  have hstart : (if ch.state = .joining then s.resetPush c joinPush else s) = { s with
      channels := s.channels.set c (if ch.state = .joining then ch.retract else ch) } := by
    split
    · exact resetPush_eq hc
    · rw [Table.set_get? hc]
  have htimer : (if ch.state = .joining then ch.retract else ch).rejoinTimer = ch.rejoinTimer := by
    split
    · exact Channel.retract_rejoinTimer
    · rfl
  simp only [failChannel, hc, hstart, markErrored, modifyChannel,
    Table.modify_eq_set (Table.get?_set_self _ _ _), Table.set_set, scheduleRejoinIfConnected,
    isConnected_channels]
  cases s.isConnected with
  | true =>
    simp only [if_true, scheduleRejoin, Table.get?_set_self, modifyChannel,
      Table.modify_eq_set (Table.get?_set_self _ _ _), Table.set_set, htimer, Channel.fallen, arm]
  | false =>
    simp only [Bool.false_eq_true, if_false, Channel.fallen, ← htimer]

/-! ### A channel is told of a failure -/

/-- The hook of a channel is asked what its listeners are to be told of a failure. -/
def alert (s : Socket ω) (c : ChannelId) : Payload × Socket ω :=
  match s.channels.get? c with
  | none => (.absent, s)
  | some ch =>
    let (word, s) := s.passHook ch Event.error .absent none
    (word.getD .absent, s)

/-- Nothing is withheld by a hook where there was nothing. -/
theorem passHook_absent (s : Socket ω) (ch : Channel) (event : String) (ref : Option Ref) :
    ∃ word, s.passHook ch event .absent ref = (some word, (s.passHook ch event .absent ref).2) := by
  unfold passHook
  split
  · exact ⟨_, rfl⟩
  · dsimp only
    split
    · exact ⟨_, rfl⟩
    · exact ⟨_, rfl⟩

/-- A hook changes nothing but the surroundings and what is shared with them. -/
theorem alert_eq (s : Socket ω) (c : ChannelId) : (s.alert c).2 = { s with
    exchange := (s.alert c).2.exchange, outside := (s.alert c).2.outside } := by
  unfold alert
  split
  · rfl
  · rename_i ch hc
    unfold passHook
    dsimp only
    split
    · rfl
    · split <;> rfl

/-- A walk through bindings of listeners. -/
theorem walk_listeners (dispatch : Dispatch ω) (event : InboundEvent) {l : List Binding}
    (hd : (ch.bindings.map (·.number)).Nodup)
    (hl : ∀ b ∈ l, b ∈ ch.bindings ∧ b.event = event.event ∧ b.IsListener)
    (hc : s.channels.get? c = some ch) :
    (l.map (·.number)).foldl (runBinding dispatch c event) s =
      s.performAll ((l.filterMap Binding.listener?).map (·.effect event)) := by
  induction l generalizing s with
  | nil => rfl
  | cons b l ih =>
    obtain ⟨hmem, hevent, listener, hlistener⟩ := hl b List.mem_cons_self
    have hfind : ch.binding? event.event b.number = some b := hevent ▸ Channel.binding?_of_mem hd hmem
    have hstep : s.runBinding dispatch c event b.number = s.perform (listener.effect event) := by
      simp only [runBinding, hc, Option.bind_some, hfind, runTarget, hlistener]
      cases listener <;> rfl
    have hsome : b.listener? = some listener := by simp only [Binding.listener?, hlistener]
    rw [List.map_cons, List.foldl_cons, hstep, List.filterMap_cons_some hsome, List.map_cons]
    exact ih (fun b hb => hl b (List.mem_cons_of_mem _ hb)) hc

/-- Once a channel has failed, the bindings behind its own one are walked through, and its listeners are
told. -/
theorem walk_followers (dispatch : Dispatch ω) (word : Payload) (hc : s.channels.get? c = some ch)
    (hs : ch.Sound x c) {rest : List Binding} (hrest : ch.alarms = ⟨Event.error, 1, .error⟩ :: rest) :
    (rest.map (·.number)).foldl (runBinding dispatch c ⟨Event.error, word, none, ch.joinRef⟩)
        (s.failChannel c) =
      (s.failChannel c).performAll
        (ch.followers.map (·.effect ⟨Event.error, word, none, ch.joinRef⟩)) := by
  have hfallen : (s.failChannel c).channels.get? c = some (ch.fallen s.isConnected) := by
    rw [failChannel_eq hc, Table.get?_set_self]
  have hothers : ∀ b ∈ rest, b ∈ (ch.fallen s.isConnected).bindings ∧ b.event = Event.error ∧
      b.IsListener := by
    intro b hb
    have hmem : b ∈ (ch.fallen s.isConnected).alarms := by
      rw [hs.alarms_fallen, hrest]
      exact List.mem_cons_of_mem _ hb
    obtain ⟨hbindings, hevent⟩ := Channel.mem_alarms.mp hmem
    exact ⟨hbindings, hevent, hs.isListener_of_mem hrest hb⟩
  have hfollowers : ch.followers = rest.filterMap Binding.listener? := by
    rw [Channel.followers, hrest]
    rfl
  rw [hfollowers]
  exact walk_listeners dispatch ⟨Event.error, word, none, ch.joinRef⟩
    (hs.distinct.sublist (Channel.fallen_bindings.map _)) hothers hfallen

/-- What it is for a channel to be told of a failure: its hook is asked, it fails, and its listeners are
told in their order. -/
theorem triggerError_eq (hc : s.channels.get? c = some ch) (hs : ch.Sound x c) (hf : ch.FailsFirst) :
    s.triggerError c = ((s.alert c).2.failChannel c).performAll
      (ch.followers.map (·.effect ⟨Event.error, (s.alert c).1, none, ch.joinRef⟩)) := by
  obtain ⟨rest, hrest⟩ := hf
  obtain ⟨word, hword⟩ := passHook_absent s ch Event.error none
  set u := (s.passHook ch Event.error .absent none).2 with hu
  have halert : s.alert c = (word, u) := by simp only [alert, hc, hword, Option.getD_some]
  have hcu : u.channels.get? c = some ch := by
    have hsame := congrArg Socket.channels (alert_eq s c)
    rw [halert] at hsame
    exact (congrArg (·.get? c) hsame).trans hc
  have hnumbers : ch.bindingsOf Event.error = 1 :: rest.map (·.number) :=
    (congrArg (List.map Binding.number) hrest).trans rfl
  have hdispatch : s.triggerError c = (ch.bindingsOf Event.error).foldl
      (runBinding (dispatchTo 2) c ⟨Event.error, word, none, ch.joinRef⟩) u := by
    simp only [triggerError, trigger, dispatchTo, dispatchWith, hc, hword, runBindings, hcu]
    rfl
  -- The channel fails first, and its failure leaves the other bindings in their places.
  have hown : (⟨Event.error, 1, .error⟩ : Binding) ∈ ch.bindings :=
    (Channel.mem_alarms.mp (hrest ▸ List.mem_cons_self)).1
  have hfails : u.runBinding (dispatchTo 2) c ⟨Event.error, word, none, ch.joinRef⟩ 1 =
      u.failChannel c := by
    simp only [runBinding, hcu, Option.bind_some, Channel.binding?_of_mem hs.distinct hown, runTarget]
  rw [hdispatch, hnumbers, List.foldl_cons, hfails, walk_followers (dispatchTo 2) word hcu hs hrest,
    halert]

end Socket

end Switchboard
