import Switchboard.Proofs.Scripts
import Switchboard.Proofs.Watched

/-!
# Dispatches within dispatches

To dispatch an event may dispatch another one.  Which one depends on the bindings of its name, and these
have targets that fit their names at all times: replies to all are passed on under the name of one push,
a push is resolved under such a name only, and a push that is resolved leads to nothing but the closing
of its channel.  The closing leads to nothing.  So a dispatch is over after three levels at most,
whatever would become of an event on a fourth.

Main definitions

* `Binding.Fits`, `Socket.Fitted`: bindings have targets that fit their names;
* `Event.Nests`: one event is dispatched within the dispatch of another;
* `Socket.Agree`, `Dispatch.AgreeOn`: two ways of dispatching come to the same;
* `Socket.Amid`: what a socket may become while it carries out commands.

Main results

* `Socket.agree_dispatchWith`: what a dispatch comes to depends on the events that it nests only;
* `Socket.dispatch_nests_twice`: no dispatch goes deeper than three levels.
-/

set_option autoImplicit false

namespace Switchboard

/-! ### Targets that fit -/

/-- A binding has a target that its event may have. -/
def Binding.Fits (b : Binding) : Prop :=
  match b.target with
  | .listener _ => True
  | .redirect => b.event = Event.reply
  | .resolve _ => Event.NamesReply b.event
  | .close => b.event = Event.close
  | .error => b.event = Event.error

namespace Channel

variable {ch : Channel} {x : Exchange} {c : ChannelId}

/-- The reply to a push is listened for under the name of its ref. -/
theorem fits_bind_resolve (h : ∀ b ∈ ch.bindings, b.Fits) (r : Ref) (n : BindingId) (p : PushId) :
    ∀ b ∈ (ch.bind (Event.replyTo r) n (.resolve p)).bindings, b.Fits := by
  intro b hb
  rcases List.mem_append.mp hb with hb | hb
  · exact h b hb
  · rw [List.mem_singleton.mp hb]
    exact ⟨r, rfl⟩

theorem Sound.fits (h : ch.Sound x c) : ∀ b ∈ ch.bindings, b.Fits := by
  intro b hb
  by_cases hl : b.IsListener
  · obtain ⟨l, hl⟩ := hl
    simp only [Binding.Fits, hl]
  · rcases h.internal hb hl with rfl | rfl | rfl | ⟨p, _, r, ht, _, _, _, he⟩
    · rfl
    · rfl
    · rfl
    · simp only [Binding.Fits, ht]
      exact ⟨r, he⟩

end Channel

/-! ### Which event nests which -/

/-- The dispatch of one event may dispatch another one. -/
inductive Event.Nests : String → String → Prop
  /-- A reply is passed on to the push that it names. -/
  | answer {inner : String} (named : Event.NamesReply inner) : Nests Event.reply inner
  /-- The reply to a leave closes the channel. -/
  | closing {outer : String} (named : Event.NamesReply outer) : Nests outer Event.close

/-- The closing nests nothing. -/
theorem Event.Nests.not_close {inner : String} : ¬ Event.Nests Event.close inner := by
  generalize houter : Event.close = outer
  intro h
  cases h with
  | answer _ => exact absurd houter (by decide)
  | closing named =>
    obtain ⟨r, rfl⟩ := named
    exact Event.replyTo_ne_close r houter.symm

/-- There is one way only in which events nest twice. -/
theorem Event.Nests.twice {event inner innermost : String} (h : Event.Nests event inner)
    (h' : Event.Nests inner innermost) :
    event = Event.reply ∧ Event.NamesReply inner ∧ innermost = Event.close := by
  cases h with
  | answer named =>
    refine ⟨rfl, named, ?_⟩
    obtain ⟨r, rfl⟩ := named
    generalize houter : Event.replyTo r = outer at h'
    cases h' with
    | answer _ => exact absurd houter (Event.replyTo_ne_reply r)
    | closing _ => rfl
  | closing _ => exact absurd h' not_close

/-- Events do not nest three times. -/
theorem Event.Nests.not_thrice {e₀ e₁ e₂ e₃ : String} (h₀ : Event.Nests e₀ e₁)
    (h₁ : Event.Nests e₁ e₂) : ¬ Event.Nests e₂ e₃ := by
  intro h₂
  obtain ⟨rfl, -, -⟩ := h₁.twice h₂
  obtain ⟨-, ⟨r, hr⟩, -⟩ := h₀.twice h₁
  exact Event.replyTo_ne_reply r hr.symm

namespace Socket

section Outside

variable {ω : Type} [Outside ω] {s t u : Socket ω} {c : ChannelId} {ch : Channel} {p : PushId}

/-! ### Fitted sockets -/

/-- All bindings of all channels have targets that fit. -/
def Fitted (s : Socket ω) : Prop :=
  ∀ ⦃c ch⦄, s.channels.get? c = some ch → ∀ b ∈ ch.bindings, b.Fits

namespace Fitted

omit [Outside ω] in
theorem of_channels (h : s.Fitted) (heq : t.channels = s.channels) : t.Fitted :=
  fun _ _ hc => h (heq ▸ hc)

/-- What is no matter of any channel leaves the bindings alone. -/
theorem strokes (h : s.Fitted) (hst : Strokes (fun _ => False) s t) : t.Fitted :=
  fun _ _ hc => h ((hst.others not_false).1 ▸ hc)

omit [Outside ω] in
theorem modifyChannel (h : s.Fitted) (c : ChannelId) {f : Channel → Channel}
    (hf : ∀ ch, (∀ b ∈ ch.bindings, b.Fits) → ∀ b ∈ (f ch).bindings, b.Fits) :
    (s.modifyChannel c f).Fitted := by
  intro d ch hd
  simp only [Socket.modifyChannel, Table.get?_modify] at hd
  split at hd
  · obtain ⟨ch₀, hc₀, rfl⟩ := Option.map_eq_some_iff.mp hd
    exact hf ch₀ (h hc₀)
  · exact h hd

omit [Outside ω] in
/-- A channel changes, and gets no binding. -/
theorem amend (h : s.Fitted) (c : ChannelId) {f : Channel → Channel}
    (hf : ∀ ch, (f ch).bindings.Sublist ch.bindings) : (s.modifyChannel c f).Fitted :=
  h.modifyChannel c fun ch hch b hb => hch b ((hf ch).subset hb)

omit [Outside ω] in
theorem modifyPush (h : s.Fitted) (c : ChannelId) (p : PushId) (f : Push → Push) :
    (s.modifyPush c p f).Fitted := h.amend c fun _ => List.Sublist.refl _

omit [Outside ω] in
theorem erase (h : s.Fitted) (c : ChannelId) :
    { s with channels := s.channels.erase c }.Fitted := by
  intro d ch hd
  simp only [Table.get?_erase] at hd
  split at hd
  · cases hd
  · exact h hd

omit [Outside ω] in
theorem foldl {α : Type} {f : Socket ω → α → Socket ω} (hf : ∀ a s, s.Fitted → (f s a).Fitted)
    (h : s.Fitted) (l : List α) : (l.foldl f s).Fitted := by
  induction l generalizing s with
  | nil => exact h
  | cons a l ih => exact ih (hf a s h)

/-! ### Sending -/

omit [Outside ω] in
theorem armPush (h : s.Fitted) (c : ChannelId) (p : PushId) (push : Push) :
    (s.armPush c p push).Fitted := h.modifyPush c p _

omit [Outside ω] in
theorem startTimeout (h : s.Fitted) (c : ChannelId) (p : PushId) : (s.startTimeout c p).Fitted := by
  have hdrawn : (s.drawRef.2.drawBinding c).2.Fitted := h
  simp only [Socket.startTimeout]
  split
  · exact h
  · split
    · exact hdrawn
    · refine modifyChannel (armPush (hdrawn.modifyPush c p _) c p _) c fun ch hch => ?_
      refine Channel.fits_bind_resolve (fun b hb => ?_) _ _ _
      exact hch b ((Channel.dropBindings?_sublist _).subset hb)

omit [Outside ω] in
theorem resetPush (h : s.Fitted) (c : ChannelId) (p : PushId) : (s.resetPush c p).Fitted := by
  unfold Socket.resetPush
  split
  · exact h
  · exact h.amend c fun ch => Channel.dropBindings?_sublist _

omit [Outside ω] in
theorem releasePush (h : s.Fitted) (c : ChannelId) (p : PushId) : (s.releasePush c p).Fitted := by
  unfold Socket.releasePush
  split
  · exact h
  · split
    · exact h
    · split
      · exact h.amend c fun ch => Channel.dropBindings?_sublist _
      · exact h

theorem perform (h : s.Fitted) (e : Effect) : (s.perform e).Fitted := h

theorem performAll (h : s.Fitted) (es : List Effect) : (s.performAll es).Fitted :=
  h.of_channels ((congrArg Socket.channels (performAll_eq s es)).trans rfl)

theorem report (h : s.Fitted) (failure : SocketError) : (s.report failure).Fitted :=
  h.strokes (strokes_report s failure)

theorem pushMessage (h : s.Fitted) (sender : Sender) (m : Message) :
    (s.pushMessage sender m).Fitted := by
  simp only [Socket.pushMessage]
  split
  · exact strokes (h.perform _) (strokes_transmit _ m)
  · exact h.perform (.accept sender m)

theorem dispatchPush (h : s.Fitted) (c : ChannelId) (p : PushId) : (s.dispatchPush c p).Fitted := by
  unfold Socket.dispatchPush
  split
  · exact h
  · dsimp only
    split
    · exact h.amend c fun _ => List.Sublist.refl _
    · refine pushMessage (modifyPush ?_ c p _) _ _
      exact h.amend c fun _ => List.Sublist.refl _

theorem sendPush (h : s.Fitted) (c : ChannelId) (p : PushId) : (s.sendPush c p).Fitted := by
  unfold Socket.sendPush
  split
  · exact h
  · split
    · exact h
    · exact (h.startTimeout c p).dispatchPush c p

/-! ### A channel closes or fails -/

theorem closeChannel (h : s.Fitted) (c : ChannelId) : (s.closeChannel c).Fitted := by
  have herase : ∀ {s : Socket ω}, s.Fitted → (s.eraseChannel c).Fitted := by
    intro s h
    unfold eraseChannel
    split
    · exact h
    · exact (h.erase c).strokes (strokes_discardAll _ _)
  have hclosed : (s.modifyChannel c fun ch =>
      { ch with rejoinTimer := ch.rejoinTimer.reset, state := .closed }).Fitted :=
    h.amend c fun _ => List.Sublist.refl _
  unfold Socket.closeChannel removeChannel
  split
  · exact hclosed
  · rename_i ch _
    have hoff := hclosed.strokes (strokes_off _ ch.socketRefs)
    dsimp only
    split
    · exact herase hoff
    · exact hoff

omit [Outside ω] in
theorem markErrored (h : s.Fitted) (c : ChannelId) : (s.markErrored c).Fitted :=
  h.amend c fun _ => List.Sublist.refl _

theorem scheduleRejoinIfConnected (h : s.Fitted) (c : ChannelId) :
    (s.scheduleRejoinIfConnected c).Fitted := by
  unfold Socket.scheduleRejoinIfConnected scheduleRejoin
  split
  · split
    · exact h
    · exact h.amend c fun _ => List.Sublist.refl _
  · exact h

theorem failChannel (h : s.Fitted) (c : ChannelId) : (s.failChannel c).Fitted := by
  unfold Socket.failChannel
  split
  · exact h
  · dsimp only
    split
    · exact ((h.resetPush c joinPush).markErrored c).scheduleRejoinIfConnected c
    · exact (h.markErrored c).scheduleRejoinIfConnected c

/-! ### Replies -/

theorem acceptJoin (h : s.Fitted) (c : ChannelId) : (s.acceptJoin c).Fitted := by
  unfold Socket.acceptJoin
  split
  · exact h
  · refine foldl (fun p s hs => hs.sendPush c p) ?_ _
    exact h.amend c fun _ => List.Sublist.refl _

theorem abandonJoin (h : s.Fitted) (c : ChannelId) : (s.abandonJoin c).Fitted := by
  unfold Socket.abandonJoin
  split
  · exact h
  · have hdrawn : (s.drawPush c).2.Fitted := h
    refine scheduleRejoinIfConnected (resetPush (markErrored (sendPush ?_ c _) c) c joinPush) c
    exact hdrawn.amend c fun _ => List.Sublist.refl _

theorem settlePush (h : s.Fitted) (c : ChannelId) (p : PushId) (push : Push) (reply : Reply) :
    (s.settlePush c p push reply).Fitted := by
  refine perform (amend ?_ c fun ch => Channel.dropBindings?_sublist _) _
  exact performAll (h.modifyPush c p _) _

theorem passHook (h : s.Fitted) (ch : Channel) (event : String) (payload : Payload)
    (ref : Option Ref) : (s.passHook ch event payload ref).2.Fitted := by
  unfold Socket.passHook
  split
  · exact h
  · rename_i hook _
    have hran : { s with
        exchange := (Outside.hook hook event payload ref s.exchange s.outside).2.1
        outside := (Outside.hook hook event payload ref s.exchange s.outside).2.2 }.Fitted := h
    dsimp only
    split
    · exact hran
    · split
      · exact hran.report _
      · exact hran

end Fitted

/-! ### Dispatches that agree -/

/-- Two sockets are the same one, and a fitted one. -/
def Agree (s t : Socket ω) : Prop := s = t ∧ s.Fitted

/-- Two ways to dispatch certain events of a channel agree on fitted sockets. -/
def Dispatch.AgreeOn (c : ChannelId) (events : String → Prop) (nested nested' : Dispatch ω) : Prop :=
  ∀ ⦃event⦄, events event → ∀ payload ref joinRef ⦃s : Socket ω⦄, s.Fitted →
    Agree (nested c event payload ref joinRef s) (nested' c event payload ref joinRef s)

variable {nested nested' : Dispatch ω} {events : String → Prop}

omit [Outside ω] in
/-- What is done in the same way for each entry of a list comes to the same. -/
theorem agree_foldl {α : Type} {f g : Socket ω → α → Socket ω} {l : List α}
    (h : ∀ a ∈ l, ∀ s, s.Fitted → Agree (f s a) (g s a)) (hs : s.Fitted) :
    Agree (l.foldl f s) (l.foldl g s) := by
  induction l generalizing s with
  | nil => exact ⟨rfl, hs⟩
  | cons a l ih =>
    obtain ⟨heq, hfitted⟩ := h a List.mem_cons_self s hs
    rw [List.foldl_cons, List.foldl_cons, ← heq]
    exact ih (fun b hb => h b (List.mem_cons_of_mem _ hb)) hfitted

/-- What a channel does with the reply to a push of its own may dispatch the closing only. -/
theorem agree_react (h : Dispatch.AgreeOn c (· = Event.close) nested nested') (reaction : Reaction)
    (hs : s.Fitted) : Agree (s.react nested c reaction) (s.react nested' c reaction) := by
  cases reaction with
  | joinOk => exact ⟨rfl, hs.acceptJoin c⟩
  | joinError =>
    refine ⟨rfl, ?_⟩
    simp only [react]
    split
    · exact (hs.markErrored c).scheduleRejoinIfConnected c
    · exact hs
  | joinTimeout => exact ⟨rfl, hs.abandonJoin c⟩
  | leaveDone => exact h rfl _ _ _ hs

theorem agree_runReplyHook (h : Dispatch.AgreeOn c (· = Event.close) nested nested') (reply : Reply)
    (index : Nat) (hs : s.Fitted) :
    Agree (runReplyHook nested c p reply s index) (runReplyHook nested' c p reply s index) := by
  unfold runReplyHook
  split
  · exact ⟨rfl, hs⟩
  · dsimp only
    split
    · split
      · exact ⟨rfl, hs.perform _⟩
      · exact agree_react h _ (hs.perform _)
    · exact ⟨rfl, hs⟩

/-- So may a push that is resolved. -/
theorem agree_resolvePush (h : Dispatch.AgreeOn c (· = Event.close) nested nested') (reply : Reply)
    (hs : s.Fitted) : Agree (s.resolvePush nested c p reply) (s.resolvePush nested' c p reply) := by
  unfold resolvePush runReplyHooks
  split
  · exact ⟨rfl, hs⟩
  · rename_i push _
    obtain ⟨heq, hfitted⟩ := agree_foldl (l := List.range push.hooks.length)
      (fun index _ s hs => agree_runReplyHook (p := p) h reply index hs)
      (hs.settlePush c p push reply)
    exact ⟨congrArg (·.releasePush c p) heq, hfitted.releasePush c p⟩

/-- A binding with a target that fits dispatches such events only as its own event nests. -/
theorem agree_runTarget {b : Binding} (hb : b.Fits)
    (h : Dispatch.AgreeOn c (Event.Nests b.event) nested nested') (payload : Payload)
    (ref joinRef : Option Ref) (hs : s.Fitted) :
    Agree (s.runTarget nested c ⟨b.event, payload, ref, joinRef⟩ b.target)
      (s.runTarget nested' c ⟨b.event, payload, ref, joinRef⟩ b.target) := by
  simp only [Binding.Fits] at hb
  unfold runTarget
  split
  · exact ⟨rfl, hs.perform _⟩
  · exact ⟨rfl, hs.perform _⟩
  · rename_i htarget
    rw [htarget] at hb
    unfold redirect
    split
    · rename_i r _
      exact h (hb ▸ .answer ⟨r, rfl⟩) _ _ _ hs
    · exact ⟨rfl, hs⟩
  · rename_i p htarget
    rw [htarget] at hb
    split
    · refine agree_resolvePush (fun event hevent => ?_) _ hs
      exact h (hevent ▸ .closing hb)
    · exact ⟨rfl, hs⟩
  · exact ⟨rfl, hs.closeChannel c⟩
  · exact ⟨rfl, hs.failChannel c⟩

theorem agree_runBinding {event : InboundEvent}
    (h : Dispatch.AgreeOn c (Event.Nests event.event) nested nested') (number : BindingId)
    (hs : s.Fitted) :
    Agree (s.runBinding nested c event number) (s.runBinding nested' c event number) := by
  unfold runBinding
  split
  · rename_i b hb
    obtain ⟨ch, hc, hfind⟩ := Option.bind_eq_some_iff.mp hb
    have hmatch := List.find?_some hfind
    simp only [Bool.and_eq_true, beq_iff_eq] at hmatch
    obtain ⟨event, payload, ref, joinRef⟩ := event
    obtain rfl := hmatch.2
    exact agree_runTarget (hs hc b (List.mem_of_find?_eq_some hfind)) h payload ref joinRef hs
  · exact ⟨rfl, hs⟩

/-- What the dispatch of an event comes to depends on what becomes of the events that it nests, on the same
channel, and on nothing else that is dispatched. -/
theorem agree_dispatchWith {event : String}
    (h : Dispatch.AgreeOn c (Event.Nests event) nested nested') (payload : Payload)
    (ref joinRef : Option Ref) (hs : s.Fitted) :
    Agree (dispatchWith nested c event payload ref joinRef s)
      (dispatchWith nested' c event payload ref joinRef s) := by
  unfold dispatchWith
  split
  · exact ⟨rfl, hs⟩
  · rename_i ch _
    have hpass := hs.passHook ch event payload ref
    split
    · rename_i heq
      rw [heq] at hpass
      exact ⟨rfl, hpass⟩
    · rename_i heq
      rw [heq] at hpass
      unfold runBindings
      split
      · exact ⟨rfl, hpass⟩
      · exact agree_foldl (fun number _ s hs => agree_runBinding h number hs) hpass

/-! ### Three levels -/

/-- Whatever becomes of events on a fourth level, three levels come to the same. -/
theorem agree_three (nested nested' : Dispatch ω) (c : ChannelId) (event : String) (payload : Payload)
    (ref joinRef : Option Ref) (hs : s.Fitted) :
    Agree (dispatchWith (dispatchWith (dispatchWith nested)) c event payload ref joinRef s)
      (dispatchWith (dispatchWith (dispatchWith nested')) c event payload ref joinRef s) := by
  refine agree_dispatchWith (fun e₁ h₁ payload₁ ref₁ joinRef₁ s₁ hs₁ => ?_) payload ref joinRef hs
  refine agree_dispatchWith (fun e₂ h₂ payload₂ ref₂ joinRef₂ s₂ hs₂ => ?_) payload₁ ref₁ joinRef₁ hs₁
  refine agree_dispatchWith (fun e₃ h₃ => ?_) payload₂ ref₂ joinRef₂ hs₂
  exact absurd h₃ (h₁.not_thrice h₂)

end Outside

section Runs

variable {ω : Type} [Outside ω] {s t : Socket (Recorded ω)}
variable {admits : Socket (Recorded ω) → Command → Prop}

omit [Outside ω] in
theorem Sound.fitted (h : Sound s) : s.Fitted := fun _ _ hc => (h.channels hc).fits

/-- What a socket may become while it carries out commands: some strides are made, and of the next one
some moves. -/
abbrev Amid : Socket (Recorded ω) → Socket (Recorded ω) → Prop := Relation.ReflTransGen fun s t =>
  (∃ s₀ cmd, Stride s₀ cmd s t) ∨ ∃ k c, Rough k c s t

theorem Amid.sound [Obliging ω] (h : Amid s t) (hs : Sound s) : Sound t := by
  induction h with
  | refl => exact hs
  | tail _ step ih =>
    rcases step with ⟨s₀, cmd, stride⟩ | ⟨k, c, rough⟩
    · exact stride.sound ih
    · exact rough.sound ih

/-- No dispatch goes deeper than three levels.  In every state that a run can come to, and in all that
come up while the socket carries out a command from there, an event of a channel comes to the same
whatever would become of events on a fourth level: so the recursion ends, and `trigger` is what it comes
to without a bound.  Within the dispatch of an event only those events of the same channel are dispatched
that the event nests, and these nest twice only as the reply to a leave does. -/
theorem dispatch_nests_twice [Obliging ω] (h : Reachable admits s) (amid : Amid s t) (c : ChannelId)
    (event : String) (payload : Payload) (ref joinRef : Option Ref) :
    (∀ nested : Dispatch (Recorded ω),
      dispatchWith (dispatchWith (dispatchWith nested)) c event payload ref joinRef t =
        t.trigger c event payload ref joinRef) ∧
    dispatchWith (fun c event payload ref joinRef u => u.trigger c event payload ref joinRef)
      c event payload ref joinRef t = t.trigger c event payload ref joinRef ∧
    (∀ nested : Dispatch (Recorded ω),
      (∀ inner, Event.Nests event inner → ∀ payload ref joinRef u,
        nested c inner payload ref joinRef u = u.trigger c inner payload ref joinRef) →
      dispatchWith nested c event payload ref joinRef t = t.trigger c event payload ref joinRef) ∧
    ∀ inner innermost, Event.Nests event inner → Event.Nests inner innermost →
      event = Event.reply ∧ Event.NamesReply inner ∧ innermost = Event.close := by
  have ht := (amid.sound h.sound).fitted
  have hthree : ∀ nested : Dispatch (Recorded ω), ∀ {c event payload ref joinRef} {u : Socket (Recorded ω)},
      u.Fitted → Agree (dispatchWith (dispatchWith (dispatchWith nested)) c event payload ref joinRef u)
        (u.trigger c event payload ref joinRef) :=
    fun nested _ _ _ _ _ _ => agree_three nested (dispatchTo 0) _ _ _ _ _
  have hunbounded : dispatchWith (dispatchTo 3) c event payload ref joinRef t =
      t.trigger c event payload ref joinRef := (hthree (dispatchTo 1) ht).1
  refine ⟨fun nested => (hthree nested ht).1, hunbounded, fun nested hnested => ?_,
    fun _ _ => Event.Nests.twice⟩
  refine Eq.trans ?_ hunbounded
  refine (agree_dispatchWith (fun inner hinner payload ref joinRef u hu => ?_) payload ref joinRef ht).1
  obtain ⟨-, hfitted⟩ := hthree (dispatchTo 0) hu
  exact ⟨hnested inner hinner payload ref joinRef u, hnested inner hinner payload ref joinRef u ▸ hfitted⟩

end Runs

/-! ### Three levels in a script -/

/-- Surroundings that never act by themselves; the first hook keeps back every payload. -/
structure Muffled where
  state : ReadyState

instance : Outside Muffled where
  readyState o _ := o.state
  buffered _ _ := 0
  perform _ x o := (x, o)
  hook callback _ payload _ x o := (some (if callback = 0 then .absent else payload), x, o)
  runError _ _ context x o := (context, x, o)

instance : Obliging Muffled where
  perform _ _ _ := .refl
  hook _ _ _ _ _ _ := .refl
  runError _ _ _ _ _ := .refl

/-- A joined channel leaves, and its own answer to that is kept back; then it has a hook that keeps
nothing back. -/
def muffling : List Deed :=
  joined "room" ++ [.post (.channel 0 (.setHook 0)) fun _ => rfl, .take, .leave 0 10000, .take,
    .post (.channel 0 (.setHook 1)) fun _ => rfl, .take]

/-- The reply to a leave is dispatched on three levels, and two would not be enough for it. -/
theorem dispatch_nests_twice_left : ∃ s : Socket (Recorded Muffled), Reachable (fun _ _ => True) s ∧
    ((s.trigger 0 Event.reply (.reply Status.ok .absent) (some "4") none).channels.get? 0).map
      (·.state) = some .closed ∧
    ((dispatchTo 2 0 Event.reply (.reply Status.ok .absent) (some "4") none s).channels.get? 0).map
      (·.state) = some .leaving ∧
    ∀ nested : Dispatch (Recorded Muffled), dispatchWith (dispatchWith (dispatchWith nested)) 0
      Event.reply (.reply Status.ok .absent) (some "4") none s =
        s.trigger 0 Event.reply (.reply Status.ok .absent) (some "4") none := by
  let before : Socket (Recorded Muffled) :=
    .new "ws://example.test/socket" .standard ⟨0, "standard", false, false⟩ ⟨⟨.connecting⟩, [], []⟩
  obtain ⟨s, hplay, hview⟩ := Option.map_eq_some_iff.mp
    (show (before.playIn? (fun s o => some { s with outside := ⟨⟨o.state⟩, s.log, s.dealings⟩ })
        (fun _ _ => true) muffling).map (fun s =>
        (((s.trigger 0 Event.reply (.reply Status.ok .absent) (some "4") none).channels.get? 0).map
            (·.state),
          ((dispatchTo 2 0 Event.reply (.reply Status.ok .absent) (some "4") none s).channels.get?
            0).map (·.state))) = some (some .closed, some .leaving) by cbv)
  simp only [Prod.mk.injEq] at hview
  have hs : Reachable (fun _ _ => True) s := by
    refine ⟨_, _, _, _, steps_of_playIn? (fun s _ lawful => ?_) (fun {s o _} hbecome => ?_)
      (fun hnext _ => .take hnext trivial) hplay⟩
    · exact .surroundings lawful s.outside.outside
    · cases hbecome
      exact .surroundings .refl _
  exact ⟨s, hs, hview.1, hview.2, (dispatch_nests_twice hs .refl 0 _ _ _ _).1⟩

end Socket

end Switchboard
