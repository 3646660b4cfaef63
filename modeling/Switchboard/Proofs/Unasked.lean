import Switchboard.Proofs.Dormant
import Switchboard.Proofs.Strokes

/-!
# Channels that were not asked to join

A channel is registered before it is asked to join.  As long as it is not asked, it has no join attempt
armed, its join push has no ref and no timer, and nothing that comes for its other pushes lets it fail.
Only one thing reaches such a channel all the same: the server says that it has failed.  Then it counts
as failed, and is to join again.

Main definitions

* `Push.Rests`, `Binding.Rests`, `Channel.Rests`: a channel that made no attempt to join;
* `Socket.Rests`: the channel of a number, if there is one, made none;
* `Socket.Forbears`: a channel that made no attempt to join makes none;
* `Socket.Spared`: runs in which a channel is neither asked to join nor told by the server that it failed.

Main results

* `Socket.forbears_handle`: what a socket does for other reasons lets a channel rest;
* `Socket.no_join_unasked`: without being asked, a channel hands no join to the socket;
* `Socket.joins_unasked_failed`: unless the server says that it has failed.
-/

set_option autoImplicit false

namespace Switchboard

/-! ### Channels that rest -/

/-- A push of a channel that made no attempt to join.  The join push is as it was at first; nothing but
users and the end of a leave waits for another. -/
structure Push.Rests (p : PushId) (q : Push) : Prop where
  join : p = joinPush → q.ref = none ∧ q.refEvent = none ∧ q.timer.armed = false
  hooks : p ≠ joinPush → ∀ hook ∈ q.hooks, hook.2 = .channel .leaveDone ∨ IsCallback hook
  event : ∀ {event}, q.refEvent = some event → event ≠ Event.error

/-- A binding of a channel that made no attempt to join: it waits for no reply to a join, and lets the
channel fail only if the server says so. -/
structure Binding.Rests (b : Binding) : Prop where
  reply : b.target ≠ .resolve joinPush
  error : b.target = .error → b.event = Event.error

namespace Channel

/-- A channel that made no attempt to join. -/
structure Rests (ch : Channel) : Prop where
  state : ch.state = .closed ∨ ch.state = .leaving
  rejoin : ch.rejoinTimer.slot.armed = false
  pushes : ∀ {p q}, ch.pushes.get? p = some q → q.Rests p
  bindings : ∀ b ∈ ch.bindings, b.Rests

variable {ch : Channel} {p : PushId} {q : Push}

theorem rests_new (topic : String) (params : Params) (timeout : Nat) (refs : List Ref) :
    (Channel.new topic params timeout refs).Rests where
  state := .inl rfl
  rejoin := rfl
  pushes {p q} hq := by
    simp only [new, Table.get?_set] at hq
    split at hq
    · cases hq
      refine ⟨fun _ => ⟨rfl, rfl, rfl⟩, fun hp => absurd ‹p = joinPush› hp, ?_⟩
      simp [Push.join, Push.new, Push.onReply]
    · cases hq
  bindings b hb := by
    simp only [new, ownBindings, List.mem_cons, List.not_mem_nil, or_false] at hb
    rcases hb with rfl | rfl | rfl <;> exact ⟨by simp, by simp⟩

theorem Rests.not_live (h : ch.Rests) : ch.isLive = false := by
  rcases h.state with hstate | hstate <;> simp [isLive, hstate]

theorem Rests.not_accepts (h : ch.Rests) : ch.acceptsError = false := by
  rcases h.state with hstate | hstate <;> simp [acceptsError, hstate]

theorem Rests.not_errored (h : ch.Rests) : ch.state ≠ .errored := by
  rcases h.state with hstate | hstate <;> simp [hstate]

/-- A push is added, or put in the place of another. -/
theorem Rests.setPush (h : ch.Rests) (hq : q.Rests p) : { ch with pushes := ch.pushes.set p q }.Rests where
  state := h.state
  rejoin := h.rejoin
  pushes {p' q'} hq' := by
    simp only [Table.get?_set] at hq'
    split at hq'
    · cases hq'
      exact ‹p' = p› ▸ hq
    · exact h.pushes hq'
  bindings := h.bindings

theorem Rests.modifyPush (h : ch.Rests) {f : Push → Push} (hf : ∀ q : Push, q.Rests p → (f q).Rests p) :
    (ch.modifyPush p f).Rests where
  state := h.state
  rejoin := h.rejoin
  pushes {p' q'} hq' := by
    simp only [Channel.modifyPush, Table.get?_modify] at hq'
    split at hq'
    · obtain ⟨q, hq, rfl⟩ := Option.map_eq_some_iff.mp hq'
      exact ‹p' = p› ▸ hf q (h.pushes hq)
    · exact h.pushes hq'
  bindings := h.bindings

theorem Rests.erasePush (h : ch.Rests) (p : PushId) : { ch with pushes := ch.pushes.erase p }.Rests where
  state := h.state
  rejoin := h.rejoin
  pushes {p' q'} hq' := by
    simp only [Table.get?_erase] at hq'
    split at hq'
    · cases hq'
    · exact h.pushes hq'
  bindings := h.bindings

/-- The channel is asked to leave. -/
theorem Rests.leave (h : ch.Rests) (hother : p ≠ joinPush) (timeout : Nat) (detached : Bool) : { ch with
    rejoinTimer := ch.rejoinTimer.reset
    state := .leaving
    pushes := (ch.pushes.modify joinPush fun join => { join with timer := join.timer.cancel }).set p
      { Push.leave timeout with detached := detached } }.Rests := by
  have hcancelled := h.modifyPush (p := joinPush)
    (f := fun join => { join with timer := join.timer.cancel }) fun q hq =>
      ⟨fun hp => ⟨(hq.join hp).1, (hq.join hp).2.1, rfl⟩, hq.hooks, hq.event⟩
  have hleave : Push.Rests p { Push.leave timeout with detached := detached } := by
    refine ⟨fun hp => absurd hp hother, fun _ => ?_, ?_⟩
    · simp [Push.leave, Push.bareLeave, Push.new, Push.onReply]
    · simp [Push.leave, Push.bareLeave, Push.new, Push.onReply]
  have hset := hcancelled.setPush hleave
  exact ⟨.inr rfl, rfl, hset.pushes, hset.bindings⟩

theorem Rests.filterBindings (h : ch.Rests) (keep : Binding → Bool) :
    { ch with bindings := ch.bindings.filter keep }.Rests :=
  ⟨h.state, h.rejoin, h.pushes, fun b hb => h.bindings b (List.mem_of_mem_filter hb)⟩

theorem Rests.dropBindings? (h : ch.Rests) (event : Option String) : (ch.dropBindings? event).Rests := by
  cases event with
  | none => exact h
  | some event => exact h.filterBindings _

theorem Rests.bind (h : ch.Rests) {event : String} {n : BindingId} {target : Target}
    (hb : Binding.Rests ⟨event, n, target⟩) : (ch.bind event n target).Rests where
  state := h.state
  rejoin := h.rejoin
  pushes := h.pushes
  bindings b hmem := by
    simp only [Channel.bind, List.mem_append, List.mem_singleton] at hmem
    rcases hmem with hmem | rfl
    · exact h.bindings b hmem
    · exact hb

end Channel

/-- What becomes of a push besides its ref and its timer. -/
theorem Push.Rests.of_eq {p : PushId} {q q' : Push} (h : q.Rests p) (href : q'.ref = q.ref)
    (hevent : q'.refEvent = q.refEvent) (htimer : q'.timer = q.timer)
    (hhooks : ∀ hook ∈ q'.hooks, hook ∈ q.hooks ∨ IsCallback hook) : q'.Rests p where
  join hp := by
    rw [href, hevent, htimer]
    exact h.join hp
  hooks hp hook hmem := (hhooks hook hmem).elim (h.hooks hp hook) .inr
  event he := h.event (hevent ▸ he)

/-- A push other than the join may have its timer changed. -/
theorem Push.Rests.of_other {p : PushId} {q q' : Push} (h : q.Rests p) (hother : p ≠ joinPush)
    (hevent : q'.refEvent = q.refEvent) (hhooks : q'.hooks = q.hooks) : q'.Rests p where
  join hp := absurd hp hother
  hooks hp hook hmem := h.hooks hp hook (hhooks ▸ hmem)
  event he := h.event (hevent ▸ he)

namespace Socket

variable {ω : Type} {s t u : Socket (Recorded ω)} {c d : ChannelId} {ch : Channel} {p : PushId}
variable {q : Push}

/-- The channel of a number, if there is one, made no attempt to join. -/
def Rests (c : ChannelId) (s : Socket (Recorded ω)) : Prop :=
  ∀ ⦃ch⦄, s.channels.get? c = some ch → ch.Rests

/-- A channel that made no attempt to join makes none, and hands no join to the socket. -/
def Forbears (c : ChannelId) (s t : Socket (Recorded ω)) : Prop :=
  Rests c s → Rests c t ∧ Hushed c s t

@[refl] theorem Forbears.refl (s : Socket (Recorded ω)) : Forbears c s s := fun h => ⟨h, .refl s⟩

theorem Forbears.trans (h : Forbears c s t) (h' : Forbears c t u) : Forbears c s u := fun hs => by
  obtain ⟨ht, hushed⟩ := h hs
  obtain ⟨hu, hushed'⟩ := h' ht
  exact ⟨hu, hushed.trans hushed'⟩

/-- What happens only as long as a channel rests. -/
theorem Forbears.of_rests (h : Rests c s → Forbears c s t) : Forbears c s t := fun hs => h hs hs

theorem forbears_of_eq (hchannels : t.channels = s.channels) (hlog : t.log = s.log) : Forbears c s t :=
  fun hs => ⟨fun _ hc => hs (hchannels ▸ hc), .of_eq hlog⟩

theorem Quiet.forbears (h : Quiet s t) : Forbears c s t :=
  forbears_of_eq h.channels_eq (h.log_eq.trans (List.append_nil _))

theorem forbears_foldl {α : Type} {f : Socket (Recorded ω) → α → Socket (Recorded ω)} (l : List α)
    (hf : ∀ s, ∀ a ∈ l, Forbears c s (f s a)) (s : Socket (Recorded ω)) : Forbears c s (l.foldl f s) := by
  induction l generalizing s with
  | nil => exact .refl s
  | cons a l ih =>
    exact (hf s a List.mem_cons_self).trans (ih (fun s b hb => hf s b (List.mem_cons_of_mem _ hb)) (f s a))

/-- A channel is changed to one that rests as well. -/
theorem forbears_modifyChannel (s : Socket (Recorded ω)) (d : ChannelId) {f : Channel → Channel}
    (hf : ∀ ch : Channel, ch.Rests → (f ch).Rests) : Forbears c s (s.modifyChannel d f) := by
  refine fun hs => ⟨fun ch' hc => ?_, .of_eq rfl⟩
  simp only [modifyChannel, Table.get?_modify] at hc
  split at hc
  · obtain ⟨ch, hch, rfl⟩ := Option.map_eq_some_iff.mp hc
    exact hf ch (hs (‹c = d› ▸ hch))
  · exact hs hc

theorem forbears_modifyPush (s : Socket (Recorded ω)) (d : ChannelId) {f : Push → Push}
    (hf : ∀ q : Push, q.Rests p → (f q).Rests p) : Forbears c s (s.modifyPush d p f) :=
  forbears_modifyChannel s d fun _ h => h.modifyPush hf

theorem forbears_eraseEntry (s : Socket (Recorded ω)) (d : ChannelId) :
    Forbears c s { s with channels := s.channels.erase d } := by
  refine fun hs => ⟨fun ch' hc => ?_, .of_eq rfl⟩
  simp only [Table.get?_erase] at hc
  split at hc
  · cases hc
  · exact hs hc

/-- Whatever happens to another channel. -/
theorem forbears_modifyOther (s : Socket (Recorded ω)) (hd : d ≠ c) (f : Channel → Channel) :
    Forbears c s (s.modifyChannel d f) :=
  fun hs => ⟨fun _ hc => hs (Table.get?_modify_of_ne _ hd.symm f ▸ hc), .of_eq rfl⟩

theorem forbears_releasePush (s : Socket (Recorded ω)) (d : ChannelId) (p : PushId) :
    Forbears c s (s.releasePush d p) := by
  unfold releasePush
  split
  · exact .refl s
  · split
    · exact .refl s
    · split
      · refine forbears_modifyChannel s d fun ch h => Channel.Rests.dropBindings? ?_ _
        have herased := h.erasePush p
        exact ⟨herased.state, herased.rejoin, herased.pushes, herased.bindings⟩
      · exact .refl s

section Outside

variable [Outside ω]

/-! ### Other channels -/

/-- A stroke about other channels hands no join of a channel to the socket. -/
theorem Stroke.hushed (h : Stroke (· ≠ c) s t) : Hushed c s t := by
  cases h with
  | perform among heard =>
    refine .of_log rfl fun e he => ?_
    obtain ⟨he, -⟩ := List.mem_filter.mp he
    rw [List.mem_singleton] at he
    subst he
    by_contra hjoins
    obtain ⟨d, p, m, rfl, hd, -⟩ : ∃ d p m, e = .accept (.push d p) m ∧ d = c ∧ p = joinPush := by
      unfold Effect.joins at hjoins
      split at hjoins
      · exact ⟨_, _, _, rfl, by simpa using hjoins⟩
      · simp at hjoins
    exact among.channel rfl hd
  | aside aside => exact .of_eq (congrArg Recorded.record aside.outside)
  | _ => exact .of_eq rfl

theorem Strokes.forbears (h : Strokes (· ≠ c) s t) : Forbears c s t := by
  refine fun hs => ⟨fun ch hc => hs ((h.others (not_not.mpr rfl)).1 ▸ hc), ?_⟩
  induction h with
  | refl => exact .refl s
  | tail _ stroke ih => exact ih.trans stroke.hushed

/-- What is a matter of another channel. -/
theorem forbears_of_others (hd : d ≠ c)
    (h : ∀ {about : ChannelId → Prop}, about d → Strokes about s t) : Forbears c s t :=
  Strokes.forbears (h hd)

/-! ### The replies to pushes -/

theorem forbears_perform (s : Socket (Recorded ω)) {e : Effect} (he : e.joins c = false) :
    Forbears c s (s.perform e) := by
  refine fun hs => ⟨hs, .of_log rfl fun e' he' => ?_⟩
  obtain ⟨he', -⟩ := List.mem_filter.mp he'
  exact List.mem_singleton.mp he' ▸ he

theorem forbears_performAll (s : Socket (Recorded ω)) {es : List Effect}
    (hes : ∀ e ∈ es, e.joins c = false) : Forbears c s (s.performAll es) :=
  forbears_foldl es (fun s _ he => forbears_perform s (hes _ he)) s

theorem forbears_settlePush (s : Socket (Recorded ω)) (d : ChannelId) (hother : p ≠ joinPush) (q : Push)
    (reply : Reply) : Forbears c s (s.settlePush d p q reply) := by
  unfold settlePush
  dsimp only
  have hreceived : Forbears c s (s.modifyPush d p fun q =>
      { q with timer := q.timer.cancel, received := some reply, waiters := [] }) :=
    forbears_modifyPush s d fun q h => h.of_other hother rfl rfl
  refine .trans (.trans (hreceived.trans (forbears_performAll _ fun e he => ?_))
    (forbears_modifyChannel _ d fun ch h => h.dropBindings? _)) (forbears_perform _ rfl)
  obtain ⟨ticket, -, rfl⟩ := List.mem_map.mp he
  rfl

/-! ### Events -/

/-- Whatever event is dispatched to a channel, unless it says that the channel has failed. -/
def ForbearsIn (c : ChannelId) (dispatch : Dispatch (Recorded ω)) : Prop :=
  ∀ {event}, event ≠ Event.error → ∀ payload ref joinRef s,
    Forbears c s (dispatch c event payload ref joinRef s)

variable {dispatch : Dispatch (Recorded ω)}

/-- Besides callbacks, only the end of a leave waits for the reply to a push other than the join. -/
theorem ForbearsIn.runReplyHook (h : ForbearsIn c dispatch) (hother : p ≠ joinPush) (reply : Reply)
    (s : Socket (Recorded ω)) (index : Nat) :
    Forbears c s (s.runReplyHook dispatch c p reply index) := by
  refine .of_rests fun hs => ?_
  unfold Socket.runReplyHook
  split
  · exact .refl s
  · rename_i status hook hget
    split
    · obtain ⟨q, hq, hhook⟩ := Option.bind_eq_some_iff.mp hget
      obtain ⟨ch, hc, hp⟩ := push?_eq_some.mp hq
      dsimp only
      refine (forbears_perform s (e := .runReply c p hook reply) rfl).trans ?_
      rcases ((hs hc).pushes hp).hooks hother _ (List.mem_of_getElem? hhook) with heq | ⟨callback, heq⟩
      · obtain rfl : hook = .channel .leaveDone := heq
        exact h (by decide) _ _ _ _
      · obtain rfl : hook = .callback callback := heq
        exact .refl _
    · exact .refl s

theorem ForbearsIn.resolvePush (h : ForbearsIn c dispatch) (hother : p ≠ joinPush) (reply : Reply)
    (s : Socket (Recorded ω)) : Forbears c s (s.resolvePush dispatch c p reply) := by
  unfold Socket.resolvePush
  split
  · exact .refl s
  · rename_i push _
    refine (forbears_settlePush s c hother push reply).trans (.trans ?_ (forbears_releasePush _ c p))
    exact forbears_foldl _ (fun s index _ => h.runReplyHook hother reply s index) _

variable [Obliging ω]

theorem forbears_off (s : Socket (Recorded ω)) (refs : List Ref) : Forbears c s (s.off refs) :=
  (quiet_off s refs).forbears

theorem forbears_eraseChannel (s : Socket (Recorded ω)) (d : ChannelId) :
    Forbears c s (s.eraseChannel d) := by
  unfold eraseChannel
  split
  · exact .refl s
  · exact (forbears_eraseEntry s d).trans (quiet_discardAll _ _).forbears

theorem forbears_removeChannel (s : Socket (Recorded ω)) (d : ChannelId) :
    Forbears c s (s.removeChannel d) := by
  unfold removeChannel
  split
  · exact .refl s
  · rename_i ch _
    have hstruck : Forbears c s
        { s.off ch.socketRefs with order := (s.off ch.socketRefs).order.filter (· ≠ d) } :=
      (forbears_off s ch.socketRefs).trans (forbears_of_eq rfl rfl)
    dsimp only
    split
    · exact hstruck.trans (forbears_eraseChannel _ d)
    · exact hstruck

theorem forbears_closeChannel (s : Socket (Recorded ω)) (d : ChannelId) :
    Forbears c s (s.closeChannel d) := by
  unfold closeChannel
  refine .trans ?_ (forbears_removeChannel _ d)
  exact forbears_modifyChannel s d fun _ h => ⟨.inl rfl, rfl, h.pushes, h.bindings⟩

/-- An event that does not say that the channel has failed reaches no binding that lets it fail, and none
that takes it for the reply to a join. -/
theorem ForbearsIn.runBinding (h : ForbearsIn c dispatch) {event : InboundEvent}
    (hevent : event.event ≠ Event.error) (s : Socket (Recorded ω)) (number : BindingId) :
    Forbears c s (s.runBinding dispatch c event number) := by
  refine .of_rests fun hs => ?_
  unfold Socket.runBinding
  split
  · rename_i b hb
    obtain ⟨ch, hc, hfind⟩ := Option.bind_eq_some_iff.mp hb
    have hrests := (hs hc).bindings b (List.mem_of_find?_eq_some hfind)
    have hname : b.event = event.event := by
      have hfound := List.find?_some hfind
      simp only [Bool.and_eq_true, beq_iff_eq] at hfound
      exact hfound.2
    unfold runTarget
    split
    · exact forbears_perform s rfl
    · exact forbears_perform s rfl
    · unfold redirect
      split
      · exact h (Event.replyTo_ne_error _) _ _ _ s
      · exact .refl s
    · rename_i p htarget
      split
      · exact h.resolvePush (fun hp => hrests.reply (hp ▸ htarget)) _ s
      · exact .refl s
    · exact forbears_closeChannel s c
    · rename_i htarget
      exact absurd (hname.symm.trans (hrests.error htarget)) hevent
  · exact .refl s

theorem ForbearsIn.dispatchWith (h : ForbearsIn c dispatch) :
    ForbearsIn c (dispatchWith dispatch) := by
  intro event hevent payload ref joinRef s
  unfold Socket.dispatchWith
  split
  · exact .refl s
  · rename_i ch _
    have hpass := quiet_passHook s ch event payload ref
    split
    · rename_i s₁ hpassed
      rw [hpassed] at hpass
      exact hpass.forbears
    · rename_i payload' s₁ hpassed
      rw [hpassed] at hpass
      refine hpass.forbears.trans ?_
      unfold runBindings
      split
      · exact .refl _
      · exact forbears_foldl _ (fun s number _ => h.runBinding hevent s number) _

theorem forbearsIn_dispatchTo (n : Nat) : ForbearsIn c (dispatchTo (ω := Recorded ω) n) := by
  induction n with
  | zero => exact fun _ _ _ _ s => .refl s
  | succ n ih => exact ih.dispatchWith

theorem forbears_trigger (s : Socket (Recorded ω)) {event : String} (hevent : event ≠ Event.error)
    (payload : Payload) (ref joinRef : Option Ref) :
    Forbears c s (s.trigger c event payload ref joinRef) :=
  forbearsIn_dispatchTo 3 hevent payload ref joinRef s

/-- A push is answered by its channel. -/
theorem forbears_triggerPush (s : Socket (Recorded ω)) (p : PushId) (status : String)
    (response : Payload) : Forbears c s (s.triggerPush c p status response) := by
  refine .of_rests fun hs => ?_
  unfold triggerPush
  split
  · rename_i event hevent
    obtain ⟨q, hq, hnamed⟩ := Option.bind_eq_some_iff.mp hevent
    obtain ⟨ch, hc, hp⟩ := push?_eq_some.mp hq
    exact forbears_trigger s (((hs hc).pushes hp).event hnamed) _ _ _
  · exact .refl s

/-! ### Sending other pushes -/

omit [Outside ω] [Obliging ω] in
theorem forbears_armPush (s : Socket (Recorded ω)) (d : ChannelId) (hother : p ≠ joinPush) (q : Push) :
    Forbears c s (s.armPush d p q) := by
  unfold armPush
  refine .trans ?_ (forbears_of_eq rfl rfl)
  exact forbears_modifyPush s d fun q h => h.of_other hother rfl rfl

omit [Outside ω] [Obliging ω] in
theorem forbears_startTimeout (s : Socket (Recorded ω)) (d : ChannelId) (hother : p ≠ joinPush) :
    Forbears c s (s.startTimeout d p) := by
  simp only [startTimeout]
  refine .trans (t := s.drawRef.2) (forbears_of_eq rfl rfl) ?_
  split
  · exact .refl _
  · refine .trans (t := (s.drawRef.2.drawBinding d).2) (forbears_of_eq rfl rfl) ?_
    split
    · exact .refl _
    · rename_i push _
      refine .trans ?_ (forbears_modifyChannel _ d fun ch h =>
        (h.dropBindings? push.refEvent).bind ⟨by simpa using hother, by simp⟩)
      refine .trans ?_ (forbears_armPush _ d hother push)
      refine forbears_modifyPush _ d fun q h => ⟨fun hp => absurd hp hother, h.hooks, ?_⟩
      rintro event ⟨⟩
      exact Event.replyTo_ne_error _

theorem forbears_pushMessage (s : Socket (Recorded ω)) {sender : Sender} {m : Message}
    (hjoins : (Effect.accept sender m).joins c = false) : Forbears c s (s.pushMessage sender m) := by
  have hturns := turns_pushMessage s sender m
  refine fun hs => ⟨fun ch hc => hs (hturns.channels_eq ▸ hc), .of_log hturns.log_eq fun e he => ?_⟩
  obtain ⟨he, -⟩ := List.mem_filter.mp he
  exact List.mem_singleton.mp he ▸ hjoins

theorem forbears_dispatchPush (s : Socket (Recorded ω)) (d : ChannelId) (hother : p ≠ joinPush) :
    Forbears c s (s.dispatchPush d p) := by
  unfold dispatchPush
  split
  · exact .refl s
  · rename_i ch _
    have hresolved : Forbears c s
        (s.modifyChannel d fun ch' => { ch' with params := ch.params.resolve.2 }) :=
      forbears_modifyChannel s d fun _ h => ⟨h.state, h.rejoin, h.pushes, h.bindings⟩
    dsimp only
    split
    · exact hresolved
    · refine .trans (hresolved.trans ?_) (forbears_pushMessage _ (joins_accept hother _))
      exact forbears_modifyPush _ d fun q h => h.of_eq rfl rfl rfl fun _ => .inl

theorem forbears_sendPush (s : Socket (Recorded ω)) (d : ChannelId) (hother : p ≠ joinPush) :
    Forbears c s (s.sendPush d p) := by
  unfold sendPush
  split
  · exact .refl s
  · split
    · exact .refl s
    · exact (forbears_startTimeout s d hother).trans (forbears_dispatchPush _ d hother)

/-! ### Requests for the channel -/

/-- The time of a push is over; the join push is not waiting. -/
theorem forbears_pushTimeout (s : Socket (Recorded ω)) (p : PushId) (generation : Nat) :
    Forbears c s (s.pushTimeout c p generation) := by
  refine .of_rests fun hs => ?_
  unfold pushTimeout
  split
  · exact .refl s
  · rename_i timer htimer
    obtain ⟨q, hq, haccept⟩ := Option.bind_eq_some_iff.mp htimer
    obtain ⟨ch, hc, hp⟩ := push?_eq_some.mp hq
    have hother : p ≠ joinPush := by
      intro hjoin
      have hunarmed := (((hs hc).pushes hp).join hjoin).2.2
      rw [(TimerSlot.accept_eq_some_iff.mp haccept).1] at hunarmed
      cases hunarmed
    refine .trans ?_ (forbears_triggerPush _ p _ _)
    exact forbears_modifyPush s c fun q h => h.of_other hother rfl rfl

theorem forbears_leave (s : Socket (Recorded ω)) (hother : p ≠ joinPush) (timeout : Nat)
    (detached : Bool) : Forbears c s (s.leave c p timeout detached) := by
  unfold leave
  split
  · exact .refl s
  · have hleaving := forbears_modifyChannel (c := c) s c fun ch h => h.leave hother timeout detached
    have hsent := hleaving.trans (forbears_sendPush _ c hother)
    dsimp only
    split
    · exact hsent
    · exact hsent.trans (forbears_triggerPush _ p _ _)

theorem forbears_push (s : Socket (Recorded ω)) (d : ChannelId) (hother : p ≠ joinPush) (event : String)
    (payload : Payload) (timeout : Nat) : Forbears c s (s.push d p event payload timeout) := by
  unfold push
  split
  · exact .refl s
  · have hadded : Forbears c s (s.modifyChannel d fun ch =>
        { ch with pushes := ch.pushes.set p (.new event (.fixed payload) timeout) }) :=
      forbears_modifyChannel s d fun ch h => h.setPush
        ⟨fun hp => absurd hp hother, fun _ => by simp [Push.new], by simp [Push.new]⟩
    dsimp only
    split
    · exact hadded.trans (forbears_sendPush _ d hother)
    · refine .trans (hadded.trans (forbears_startTimeout _ d hother)) ?_
      exact forbears_modifyChannel _ d fun _ h => ⟨h.state, h.rejoin, h.pushes, h.bindings⟩

omit [Obliging ω] in
theorem forbears_receive (s : Socket (Recorded ω)) (d : ChannelId) (p : PushId) (status : String)
    (callback : CallbackId) : Forbears c s (s.receive d p status callback) := by
  unfold receive
  split
  · exact .refl s
  · dsimp only
    refine .trans ?_ (forbears_modifyPush _ d fun q h => h.of_eq rfl rfl rfl fun hook hmem => ?_)
    · split
      · split
        · exact forbears_perform s rfl
        · exact .refl s
      · exact .refl s
    · rcases List.mem_append.mp hmem with hmem | hmem
      · exact .inl hmem
      · exact .inr ⟨callback, by rw [List.mem_singleton.mp hmem]⟩

omit [Obliging ω] in
theorem forbears_awaitReply (s : Socket (Recorded ω)) (d : ChannelId) (p : PushId) (ticket : Ticket) :
    Forbears c s (s.awaitReply d p ticket) := by
  unfold awaitReply
  split
  · exact forbears_perform s rfl
  · split
    · exact forbears_perform s rfl
    · exact forbears_modifyPush s d fun q h => h.of_eq rfl rfl rfl fun _ => .inl

omit [Outside ω] [Obliging ω] in
theorem forbears_release (s : Socket (Recorded ω)) (d : ChannelId) (p : PushId) :
    Forbears c s (s.release d p) := by
  unfold release
  split
  · exact .refl s
  · refine .trans ?_ (forbears_releasePush _ d p)
    exact forbears_modifyPush s d fun q h => h.of_eq rfl rfl rfl fun _ => .inl

/-! ### Other channels join -/

omit [Obliging ω] in
/-- A channel that rests is not live, so no other channel of its topic displaces it. -/
theorem forbears_leaveOpenTopic (s : Socket (Recorded ω)) (topic : String) (d : ChannelId) :
    Forbears c s (s.leaveOpenTopic topic d) := by
  refine .of_rests fun hs => ?_
  unfold leaveOpenTopic
  split
  · exact .refl s
  · rename_i other hdup
    obtain ⟨-, -, ch, hch, -, hlive⟩ := liveDuplicate?_eq_some hdup
    have hne : other ≠ c := by
      rintro rfl
      rw [(hs hch).not_live] at hlive
      cases hlive
    simp only [hch]
    exact .trans (t := (s.drawPush other).2) (forbears_of_eq rfl rfl)
      (forbears_of_others hne fun h => strokes_leave h _ _ _ _)

omit [Obliging ω] in
/-- A join attempt of another channel. -/
theorem forbears_rejoin (s : Socket (Recorded ω)) (hd : d ≠ c) : Forbears c s (s.rejoin d) := by
  unfold rejoin
  split
  · exact .refl s
  · rename_i ch _
    split
    · exact .refl s
    · refine (forbears_leaveOpenTopic s ch.topic d).trans ?_
      dsimp only
      split
      · exact .refl _
      · exact (forbears_modifyOther _ hd _).trans
          (forbears_of_others hd fun h => strokes_resendPush h _ joinPush _)

/-- A channel rests whatever its handle asks, unless that is to join; the handle of another channel may
ask for anything. -/
theorem forbears_channelOp (s : Socket (Recorded ω)) (d : ChannelId) {op : ChannelOp}
    (hasks : ∀ timeout, Command.channel d op ≠ .channel c (.join timeout))
    (hnumber : ∀ p, (Command.channel d op).number? (.pushes d) = some p → p ≠ joinPush) :
    Forbears c s (s.channelOp d op) := by
  unfold channelOp
  split
  · cases op with
    | join timeout =>
      have hd : d ≠ c := fun heq => hasks timeout (heq ▸ rfl)
      exact (forbears_modifyOther s hd _).trans (forbears_rejoin _ hd)
    | push p event payload timeout =>
      exact forbears_push s d (hnumber p (by simp [Command.number?])) event payload timeout
    | leave p timeout =>
      by_cases hd : d = c
      · exact hd ▸ forbears_leave s (hnumber p (by simp [Command.number?])) timeout false
      · exact forbears_of_others hd fun h => strokes_leave h s p timeout false
    | bind n event listener =>
      exact forbears_modifyChannel s d fun _ h => h.bind ⟨by simp, by simp⟩
    | unbind event number => exact forbears_modifyChannel s d fun _ h => h.filterBindings _
    | setHook hook =>
      exact forbears_modifyChannel s d fun _ h => ⟨h.state, h.rejoin, h.pushes, h.bindings⟩
    | receive p status callback => exact forbears_receive s d p status callback
    | awaitReply p ticket => exact forbears_awaitReply s d p ticket
    | release p => exact forbears_release s d p
    | askState ticket => exact (quiet_tell s d ticket fun _ => rfl).forbears
    | askJoinRef ticket => exact (quiet_tell s d ticket fun _ => rfl).forbears
    | askRejoinTries ticket => exact (quiet_tell s d ticket fun _ => rfl).forbears
  · split
    · exact forbears_perform s rfl
    · exact .refl s

theorem forbears_dropChannel (s : Socket (Recorded ω)) (d : ChannelId) :
    Forbears c s (s.dropChannel d) := by
  unfold dropChannel
  split
  · exact forbears_modifyChannel s d fun _ h => ⟨h.state, h.rejoin, h.pushes, h.bindings⟩
  · exact forbears_eraseChannel s d

omit [Outside ω] [Obliging ω] in
theorem forbears_createChannel (s : Socket (Recorded ω)) (d : ChannelId) (topic : String)
    (params : Params) : Forbears c s (s.createChannel d topic params) := by
  obtain ⟨params', timeout, refs, hchannels⟩ := (enters_createChannel s d topic params).channels_eq
  refine fun hs => ⟨fun ch hc => ?_, .of_eq (enters_createChannel s d topic params).log_eq⟩
  rw [hchannels, Table.get?_set] at hc
  split at hc
  · cases hc
    exact Channel.rests_new topic params' timeout refs
  · exact hs hc

/-! ### The connection -/

omit [Obliging ω] in
/-- Only channels that join or are joined are told that their connection failed. -/
theorem forbears_triggerErrors (s : Socket (Recorded ω)) : Forbears c s s.triggerErrors := by
  refine forbears_foldl s.order (fun s d _ => .of_rests fun hs => ?_) s
  split
  · rename_i ch hch
    split
    · rename_i haccepts
      have hd : d ≠ c := by
        rintro rfl
        rw [(hs hch).not_accepts] at haccepts
        cases haccepts
      exact forbears_of_others hd fun h => strokes_trigger h s _ _ _ _
    · exact .refl s
  · exact .refl s

theorem forbears_loseConnection (s : Socket (Recorded ω)) : Forbears c s s.loseConnection := by
  have hstart : Quiet s { s with pendingHeartbeat := none } := .of_eq rfl rfl rfl rfl
  have htold := hstart.forbears.trans (forbears_triggerErrors (c := c) { s with pendingHeartbeat := none })
  unfold loseConnection
  refine .trans ?_ (quiet_beginTeardown _ _ _ _).forbears
  exact htold.trans (forbears_of_eq rfl rfl)

theorem forbears_replaceTransport (s : Socket (Recorded ω)) (factory : Factory) :
    Forbears c s (s.replaceTransport factory) := by
  unfold replaceTransport
  dsimp only
  have hstart : Quiet s { s.tick.resetReconnect with closeWasClean := true, sendBuffer := [] } :=
    .of_eq rfl rfl rfl rfl
  have hpruned := hstart.trans (quiet_pruneRetired _)
  set u := ({ s.tick.resetReconnect with closeWasClean := true, sendBuffer := [] } :
    Socket (Recorded ω)).pruneRetired with hu
  refine .trans (hpruned.forbears.trans ?_) (forbears_of_eq (s := u.retire) rfl rfl)
  rcases retire_cases u with ⟨-, heq⟩ | ⟨v, hquiet, heq⟩
  · rw [heq]
  · rw [heq]
    exact hquiet.forbears.trans (forbears_triggerErrors v)

omit [Outside ω] [Obliging ω] in
theorem forbears_resetRejoin (s : Socket (Recorded ω)) (d : ChannelId) :
    Forbears c s (s.resetRejoin d) :=
  forbears_modifyChannel s d fun _ h => ⟨h.state, rfl, h.pushes, h.bindings⟩

omit [Obliging ω] in
/-- When a connection opens, channels that have failed join again; a channel that rests has not failed. -/
theorem forbears_rejoinIfErrored (s : Socket (Recorded ω)) (d : ChannelId) :
    Forbears c s (s.rejoinIfErrored d) := by
  refine .of_rests fun hs => ?_
  unfold rejoinIfErrored
  split
  · exact .refl s
  · rename_i ch hch
    refine (forbears_resetRejoin s d).trans ?_
    split
    · rename_i hstate
      refine forbears_rejoin _ ?_
      rintro rfl
      exact (hs hch).not_errored hstate
    · exact .refl _

theorem forbears_connectionOpened (s : Socket (Recorded ω)) : Forbears c s s.connectionOpened := by
  refine (quiet_markOpen s).forbears.trans (forbears_foldl _ (fun s ref _ => ?_) _)
  unfold runOnOpen
  split
  · exact forbears_perform s rfl
  · exact forbears_rejoinIfErrored s _
  · exact .refl s

theorem forbears_connectionClosed (s : Socket (Recorded ω)) (event : CloseEvent) :
    Forbears c s (s.connectionClosed event) := by
  refine (forbears_triggerErrors s).trans (Quiet.forbears ?_)
  have hclear : Quiet s.triggerErrors s.triggerErrors.clearHeartbeats := .of_eq rfl rfl rfl rfl
  simp only [connectionClosed]
  split
  · exact hclear.trans ((quiet_scheduleReconnect _).trans (quiet_foldl (quiet_runOnClose event) _ _))
  · exact hclear.trans (quiet_foldl (quiet_runOnClose event) _ _)

theorem forbears_runOnErrors (failure : SocketError) (refs : List Ref) (context : ErrorContext)
    (s : Socket (Recorded ω)) : Forbears c s (refs.foldl (runOnError failure) (context, s)).2 := by
  induction refs generalizing context s with
  | nil => exact .refl s
  | cons ref refs ih =>
    refine .trans ?_ (ih _ (runOnError failure (context, s) ref).2)
    simp only [runOnError]
    split
    · exact (quiet_runError s _ failure context).forbears
    · exact forbears_resetRejoin s _
    · exact .refl s

theorem forbears_connectionFailed (s : Socket (Recorded ω)) (cause : TransportError) :
    Forbears c s (s.connectionFailed cause) := by
  have herrors : Forbears c s (s.callbacks.onError.refs.foldl
      (runOnError (.transport cause)) (s.errorContext, s)).2 := forbears_runOnErrors _ _ _ s
  rcases hrun : s.callbacks.onError.refs.foldl (runOnError (.transport cause)) (s.errorContext, s)
    with ⟨context, s₁⟩
  rw [hrun] at herrors
  have hfallback : Forbears c s (s₁.takeFallback context.fallback) := by
    unfold takeFallback
    split
    · exact herrors.trans ((forbears_replaceTransport s₁ _).trans (quiet_connect _).forbears)
    · exact herrors
  simp only [connectionFailed, hrun]
  split
  · exact hfallback.trans (forbears_triggerErrors _)
  · exact hfallback

/-! ### Messages -/

/-- A message that does not tell a channel that it has failed. -/
theorem forbears_messageReceived (s : Socket (Recorded ω)) {m : Message}
    (hm : m.event = Event.error → ¬ s.Addresses m c) : Forbears c s (s.messageReceived m) := by
  by_cases hevent : m.event = Event.error
  · exact ((strokes_messageReceived s m).mono fun d hd (heq : d = c) => hm hevent (heq ▸ hd)).forbears
  · have hbeat := quiet_answerHeartbeat s m
    unfold messageReceived
    refine (hbeat.forbears.trans (forbears_foldl _ (fun s d _ => ?_) _)).trans
      (quiet_foldl (quiet_runOnMessage m) _ _).forbears
    unfold deliver
    split
    · by_cases hd : d = c
      · exact hd ▸ forbears_trigger s hevent _ _ _
      · exact forbears_of_others hd fun h => strokes_trigger h s _ _ _ _
    · exact .refl s

/-! ### Commands -/

/-- The commands of a run in which a channel is neither asked to join nor told by the server that it has
failed. -/
structure Spared (c : ChannelId) (s : Socket (Recorded ω)) (cmd : Command) : Prop where
  unasked : Unasked c s cmd
  untold : ∀ {m}, s.incoming? cmd = some m → m.event = Event.error → ¬ s.Addresses m c

theorem forbears_transportEvent (s : Socket (Recorded ω)) (t : TransportId) (event : TransportEvent)
    (hspared : Spared c s (.transport t event)) : Forbears c s (s.transportEvent t event) := by
  have hprune := quiet_pruneRetired s
  cases hm : s.incoming? (.transport t event) with
  | some m =>
    have hhandled : s.transportEvent t event = s.pruneRetired.messageReceived m :=
      handle_of_incoming? hm
    rw [hhandled]
    refine hprune.forbears.trans (forbears_messageReceived _ fun hevent haddressed => ?_)
    refine hspared.untold hm hevent ⟨hprune.order_eq ▸ haddressed.1, ?_⟩
    rw [← isMember_congr (hprune.get? c)]
    exact haddressed.2
  | none =>
    have hconn := conn_pruneRetired s
    unfold transportEvent
    refine hprune.forbears.trans ?_
    dsimp only
    split
    · exact .refl _
    · rename_i conn hget
      rw [hconn] at hget
      split
      · rename_i ht
        split
        · exact forbears_connectionOpened _
        · exact forbears_connectionFailed _ _
        · rename_i frame
          unfold frameReceived
          split
          · rename_i m hdecode
            simp [incoming?, hget, ht, hdecode, Except.toOption] at hm
          · exact (quiet_report _ _).forbears
        · exact forbears_connectionClosed _ _
      · exact .refl _

omit [Obliging ω] in
/-- No attempt to join is armed for a channel that rests. -/
theorem forbears_rejoinTimeout (s : Socket (Recorded ω)) (d : ChannelId) (generation : Nat) :
    Forbears c s (s.rejoinTimeout d generation) := by
  refine .of_rests fun hs => ?_
  unfold rejoinTimeout
  split
  · exact .refl s
  · rename_i timer htimer
    obtain ⟨ch, hch, hfires⟩ := Option.bind_eq_some_iff.mp htimer
    have hd : d ≠ c := by
      rintro rfl
      have hunarmed := (hs hch).rejoin
      rw [(BackoffTimer.fire_eq_some_iff.mp hfires).1] at hunarmed
      cases hunarmed
    have hfired := forbears_modifyOther s hd fun ch => { ch with rejoinTimer := timer }
    dsimp only
    split
    · exact hfired.trans (forbears_rejoin _ hd)
    · exact hfired

theorem forbears_timerEvent (s : Socket (Recorded ω)) (event : TimerEvent) :
    Forbears c s (s.timerEvent event) := by
  cases event with
  | heartbeatDue generation => exact (quiet_heartbeatDue s generation).forbears
  | heartbeatTimeout generation =>
    simp only [timerEvent, heartbeatTimeoutDue]
    split
    · exact .refl s
    · split
      · refine .trans ?_ (forbears_loseConnection _)
        exact forbears_of_eq rfl rfl
      · exact forbears_of_eq rfl rfl
  | reconnect generation =>
    simp only [timerEvent]
    split
    · refine .trans ?_ (quiet_beginTeardown _ _ _ _).forbears
      exact forbears_of_eq rfl rfl
    · exact .refl s
  | rejoin d generation => exact forbears_rejoinTimeout s d generation
  | pushTimeout d p generation =>
    by_cases hd : d = c
    · exact hd ▸ forbears_pushTimeout s p generation
    · exact forbears_of_others hd fun h => strokes_pushTimeout h s p generation
  | teardown number generation => exact (quiet_teardownTimeout s number generation).forbears

/-- What a socket does lets a channel rest, unless the channel is asked to join, or the server says that it
has failed. -/
theorem forbears_handle (s : Socket (Recorded ω)) {cmd : Command} (hdue : Due s cmd)
    (hspared : Spared c s cmd) : Forbears c s (s.handle cmd) := by
  cases cmd with
  | connect => exact (quiet_connect s).forbears
  | disconnect code reason done => exact (quiet_disconnect s code reason _).forbears
  | replaceTransport factory => exact forbears_replaceTransport s factory
  | pause => exact (quiet_pause s).forbears
  | resume => exact (quiet_resume s).forbears
  | register occasion ref callback => exact forbears_of_eq rfl rfl
  | off refs => exact forbears_off s refs
  | ping ticket => exact (quiet_ping s ticket).forbears
  | askReadyState ticket => exact forbears_perform s rfl
  | askReconnectTries ticket => exact forbears_perform s rfl
  | askEstablished ticket => exact forbears_perform s rfl
  | createChannel d topic params => exact forbears_createChannel s d topic params
  | channel d op => exact forbears_channelOp s d hspared.unasked fun p hp => (hdue.push hp).2.1
  | dropChannel d => exact forbears_dropChannel s d
  | transport t event => exact forbears_transportEvent s t event hspared
  | timer event => exact forbears_timerEvent s event
  | shutdown =>
    have hends : Ends s (s.handle .shutdown) := ends_shutdown s
    refine fun _ => ⟨fun ch hc => ?_, .of_eq hends.log_eq⟩
    rw [hends.channels_eq, Table.get?_empty] at hc
    cases hc

/-! ### Runs -/

/-- A channel rests from the beginning. -/
theorem preserved_rests (s : Socket (Recorded ω)) :
    Preserved (Spared (ω := ω) c) fun t => Rests c t ∧ Hushed c s t where
  quiet hI hq := by
    obtain ⟨hrests, hhushed⟩ := hq.forbears hI.1
    exact ⟨hrests, hI.2.trans hhushed⟩
  ends hI he := by
    refine ⟨fun ch hc => ?_, hI.2.trans (.of_eq he.log_eq)⟩
    rw [he.channels_eq, Table.get?_empty] at hc
    cases hc
  handle hs hI hnext hadmit := by
    have hforbears := (quiet_next? hnext).forbears.trans
      (forbears_handle _ (due_of_next? hs hnext) hadmit)
    obtain ⟨hrests, hhushed⟩ := hforbears hI.1
    exact ⟨hrests, hI.2.trans hhushed⟩

/-- A channel that nobody asks to join does not join.  As long as its handle does not ask for it, and the
server does not say that it has failed, its join push is not handed to the socket, has no ref and no timer,
and no attempt is armed: the channel is closed, or leaves.  Connections may open and fail meanwhile, and
other messages may come for its topic. -/
theorem no_join_unasked (h : Reachable (Spared c) s) :
    (∀ m, .accept (.push c joinPush) m ∉ s.log) ∧
    ∀ ch, s.channels.get? c = some ch → (ch.state = .closed ∨ ch.state = .leaving) ∧
      ch.rejoinTimer.slot.armed = false ∧ ch.joinRef = none ∧
      ∀ q, ch.pushes.get? joinPush = some q → q.timer.armed = false := by
  obtain ⟨endpoint, config, factory, outside, run⟩ := h
  obtain ⟨-, hrests, es, hlog, hes⟩ := (preserved_rests _).run run (sound_new _ _ _ _)
    ⟨fun _ hc => (by cases hc), .refl _⟩
  refine ⟨fun m hm => ?_, fun ch hc => ?_⟩
  · have hnew : (Socket.new endpoint config factory (⟨outside, [], []⟩ : Recorded ω)).log = [] := rfl
    rw [hlog, hnew, List.nil_append] at hm
    have hjoins := hes _ hm
    simp [Effect.joins] at hjoins
  · have hch := hrests hc
    refine ⟨hch.state, hch.rejoin, ?_, fun q hq => ((hch.pushes hq).join rfl).2.2⟩
    cases hq : ch.pushes.get? joinPush with
    | none => simp [Channel.joinRef, hq]
    | some q => simpa [Channel.joinRef, hq] using ((hch.pushes hq).join rfl).1

end Outside

/-! ### A channel in a script that nobody asks to join -/

/-- The commands of a script that do not ask the first channel to join, and bring no message that a channel
has failed. -/
def sparedFirst (s : Socket (Recorded Idle)) (cmd : Command) : Bool :=
  unaskedFirst s cmd && (s.incoming? cmd).all fun m => m.event != Event.error

theorem spared_of_sparedFirst (s : Socket (Recorded Idle)) (cmd : Command)
    (h : sparedFirst s cmd = true) : Spared 0 s cmd := by
  simp only [sparedFirst, Bool.and_eq_true] at h
  refine ⟨unasked_of_unaskedFirst s cmd h.1, fun hm hevent => ?_⟩
  simp [hm, hevent] at h

/-- A channel of a topic is asked for on an open connection. -/
def registering (topic : String) : List Deed := connecting ++ [.createChannel topic, .take]

/-- News come for the topic, the connection fails and opens again, and the channel is still closed. -/
theorem no_join_unasked_reopened : ∃ s : Socket (Recorded Idle), Reachable (Spared 0) s ∧
    0 ∈ s.order ∧ (∃ ch, s.channels.get? 0 = some ch ∧ ch.joinRef = none) ∧
    ∀ m, .accept (.push 0 joinPush) m ∉ s.log := by
  obtain ⟨s, hs, hview⟩ := reachable_of_play? spared_of_sparedFirst
    (show (ready.play? sparedFirst (registering "room" ++ [.announce 0 "" "room" "news", .take,
        .report 0 (.failed .closed), .take, .report 0 .opened, .take])).map (fun s =>
        (s.order, (s.channels.get? 0).isSome)) = some ([0], true) by cbv)
  simp only [Prod.mk.injEq] at hview
  obtain ⟨ch, hc⟩ := Option.isSome_iff_exists.mp hview.2
  obtain ⟨hlog, hchannel⟩ := no_join_unasked hs
  exact ⟨s, hs, by simp [hview.1], ⟨ch, hc, (hchannel ch hc).2.2.1⟩, hlog⟩

/-- If the server says that it has failed, a channel joins that was never asked to. -/
theorem joins_unasked_failed : ∃ s : Socket (Recorded Idle), Reachable (Unasked 0) s ∧
    ∃ m, .accept (.push 0 joinPush) m ∈ s.log := by
  obtain ⟨s, hs, hview⟩ := reachable_of_play? unasked_of_unaskedFirst
    (show (ready.play? unaskedFirst (registering "room" ++ [.announce 0 "" "room" Event.error, .take,
        .fire (.rejoin 0 1), .take])).map (fun s => s.log.any (Effect.joins 0)) = some true by cbv)
  obtain ⟨e, hmem, he⟩ := List.any_eq_true.mp hview
  unfold Effect.joins at he
  split at he
  · rename_i d p m
    simp only [Bool.and_eq_true, beq_iff_eq] at he
    obtain ⟨rfl, rfl⟩ := he
    exact ⟨s, hs, m, hmem⟩
  · cases he

end Socket

end Switchboard
