import Mathlib
import Switchboard.Socket.Step

/-!
# Strokes of a socket

What a socket does for its channels is a sequence of strokes: a number is drawn, a channel changes, an
effect happens, a hook runs.  A stroke is about certain channels and leaves all others alone; of what
listens, it runs only what one of its own channels has.  It neither opens nor gives up a transport, and
tells nobody of a disconnect.

Main definitions

* `Channel.Hears`, `Channel.Within`: who listens to a channel, and that nobody comes to listen;
* `Effect.IsAbout`: effects that are a matter of certain channels;
* `Socket.Stroke`, `Socket.Strokes`;
* `Socket.Addresses`: a message is for a channel.

Main results

* `Socket.Strokes.others`: strokes leave all channels alone that they are not about;
* `Socket.Strokes.within`: no channel comes by strokes, and nobody comes to listen;
* `Socket.strokes_trigger`: an event of a channel is a matter of that channel alone, whatever it leads
  to;
* `Socket.strokes_messageReceived`: what becomes of a socket by a message is a matter of the channels
  that it is for.
-/

set_option autoImplicit false

namespace Switchboard

/-! ### Who listens -/

namespace Channel

/-- Someone listens to a channel. -/
def Hears (ch : Channel) (l : Listener) : Prop := ∃ b ∈ ch.bindings, b.target = .listener l

/-- A channel has the hook of another, and nobody listens to it who does not listen to the other. -/
structure Within (ch' ch : Channel) : Prop where
  hook : ch'.hook = ch.hook
  hears : ∀ ⦃l⦄, ch'.Hears l → ch.Hears l

variable {ch ch' ch'' : Channel}

@[refl] theorem Within.refl (ch : Channel) : ch.Within ch := ⟨rfl, fun _ => id⟩

theorem Within.trans (h : ch''.Within ch') (h' : ch'.Within ch) : ch''.Within ch :=
  ⟨h.hook.trans h'.hook, fun _ hl => h'.hears (h.hears hl)⟩

theorem Within.of_subset (hh : ch'.hook = ch.hook) (hb : ch'.bindings ⊆ ch.bindings) :
    ch'.Within ch :=
  ⟨hh, fun _ ⟨b, hmem, htarget⟩ => ⟨b, hb hmem, htarget⟩⟩

theorem within_dropBindings? (ch : Channel) (event : Option String) :
    (ch.dropBindings? event).Within ch := by
  cases event with
  | none => exact .refl ch
  | some event => exact .of_subset rfl List.filter_sublist.subset

/-- A binding that is no listener is nobody's. -/
theorem within_bind {target : Target} (ht : ∀ l, target ≠ .listener l) (ch : Channel)
    (event : String) (number : BindingId) : (ch.bind event number target).Within ch := by
  refine ⟨rfl, ?_⟩
  rintro l ⟨b, hb, htarget⟩
  simp only [bind, List.mem_append, List.mem_singleton] at hb
  rcases hb with hb | rfl
  · exact ⟨b, hb, htarget⟩
  · exact absurd htarget (ht l)

end Channel

/-! ### What effects are about -/

namespace Effect

/-- The channel whose push an effect tells of. -/
def channel? : Effect → Option ChannelId
  | .accept (.push c _) _ | .runReply c .. | .resolve c .. | .answer _ (.reply c ..) => some c
  | _ => none

/-- Who hears of an event by an effect. -/
def listener? : Effect → Option Listener
  | .runEvent callback _ => some (.callback callback)
  | .yield stream _ => some (.stream stream)
  | _ => none

/-- An effect that does nothing to transports but to hand them a frame, and that tells nobody of a
disconnect. -/
def isCalm : Effect → Bool
  | .open _ | .close .. | .release _ | .answer _ .disconnected => false
  | _ => true

/-- A calm effect that tells of the pushes of certain channels only. -/
structure IsAbout (about : ChannelId → Prop) (e : Effect) : Prop where
  calm : e.isCalm = true
  channel : ∀ ⦃c⦄, e.channel? = some c → about c

variable {about : ChannelId → Prop} {e : Effect} {c : ChannelId}

theorem IsAbout.of_none (calm : e.isCalm = true) (h : e.channel? = none) : e.IsAbout about :=
  ⟨calm, fun _ hc => by rw [h] at hc; cases hc⟩

theorem IsAbout.of_some (hc : about c) (calm : e.isCalm = true) (h : e.channel? = some c) :
    e.IsAbout about :=
  ⟨calm, fun _ hd => by rw [h] at hd; cases hd; exact hc⟩

end Effect

namespace Socket

variable {ω : Type}

/-! ### Strokes -/

/-- Only parts have changed that neither the channels nor the connection nor the surroundings know
of. -/
structure Aside (s t : Socket ω) : Prop where
  conn : t.conn = s.conn
  teardown : t.teardown = s.teardown
  nextTransport : t.nextTransport = s.nextTransport
  channels : t.channels = s.channels
  order : t.order = s.order
  exchange : t.exchange = s.exchange
  outside : t.outside = s.outside

section Outside

variable [Outside ω]

/-- What a socket does in one go, if that is about certain channels. -/
inductive Stroke (about : ChannelId → Prop) (s : Socket ω) : Socket ω → Prop
  /-- Numbers are drawn, and timers are armed. -/
  | draw {x : Exchange} (attached : x.attached = s.exchange.attached) :
    Stroke about s { s with exchange := x }
  | aside {t : Socket ω} (aside : Aside s t) : Stroke about s t
  | alter {c : ChannelId} {f : Channel → Channel} (among : about c)
    (within : ∀ ch, s.channels.get? c = some ch → (f ch).Within ch) :
    Stroke about s (s.modifyChannel c f)
  | strike {c : ChannelId} (among : about c) :
    Stroke about s { s with order := s.order.filter (· ≠ c) }
  | erase {c : ChannelId} (among : about c) :
    Stroke about s { s with channels := s.channels.erase c }
  /-- An effect happens; who hears of an event by it listens to one of the channels. -/
  | perform {e : Effect} (among : e.IsAbout about)
    (heard : ∀ l, e.listener? = some l → ∃ c ch, about c ∧ s.channels.get? c = some ch ∧ ch.Hears l) :
    Stroke about s (s.perform e)
  /-- The hook of one of the channels runs. -/
  | hook {c : ChannelId} {ch : Channel} {callback : CallbackId} (among : about c)
    (channel : s.channels.get? c = some ch) (hook : ch.hook = some callback) (event : String)
    (payload : Payload) (ref : Option Ref) : Stroke about s { s with
      exchange := (Outside.hook callback event payload ref s.exchange s.outside).2.1
      outside := (Outside.hook callback event payload ref s.exchange s.outside).2.2 }
  | error (callback : CallbackId) (failure : SocketError) (context : ErrorContext) :
    Stroke about s (s.runError callback failure context).2

/-- Any number of strokes. -/
abbrev Strokes (about : ChannelId → Prop) : Socket ω → Socket ω → Prop :=
  Relation.ReflTransGen (Stroke about)

variable {about : ChannelId → Prop} {s t : Socket ω} {c d : ChannelId} {m : Message}

/-- What is done for each entry of a list is done for all of them. -/
theorem strokes_foldl {α : Type} {f : Socket ω → α → Socket ω} {l : List α}
    (hf : ∀ a ∈ l, ∀ s, Strokes about s (f s a)) (s : Socket ω) :
    Strokes about s (l.foldl f s) := by
  induction l generalizing s with
  | nil => exact .refl
  | cons a l ih =>
    have hrest : ∀ b ∈ l, ∀ s, Strokes about s (f s b) := fun b hb =>
      hf b (List.mem_cons_of_mem _ hb)
    exact (hf a List.mem_cons_self s).trans (ih hrest (f s a))

/-- Strokes about some channels are strokes about more of them. -/
theorem Strokes.mono {about' : ChannelId → Prop} (h : Strokes about s t)
    (hle : ∀ c, about c → about' c) : Strokes about' s t := by
  induction h with
  | refl => exact .refl
  | tail _ stroke ih =>
    refine ih.tail ?_
    cases stroke with
    | draw attached => exact .draw attached
    | aside aside => exact .aside aside
    | alter among within => exact .alter (hle _ among) within
    | strike among => exact .strike (hle _ among)
    | erase among => exact .erase (hle _ among)
    | perform among heard =>
      refine .perform ⟨among.calm, fun _ hc => hle _ (among.channel hc)⟩ fun l hl => ?_
      obtain ⟨c, ch, hc, hch, hears⟩ := heard l hl
      exact ⟨c, ch, hle c hc, hch, hears⟩
    | hook among channel hook event payload ref =>
      exact .hook (hle _ among) channel hook event payload ref
    | error callback failure context => exact .error callback failure context

/-! ### Other channels -/

/-- A stroke leaves all channels and their registration alone that it is not about. -/
theorem Stroke.others (h : Stroke about s t) (hd : ¬ about d) :
    t.channels.get? d = s.channels.get? d ∧ (d ∈ t.order ↔ d ∈ s.order) := by
  cases h with
  | draw attached => exact ⟨rfl, .rfl⟩
  | aside aside => rw [aside.channels, aside.order]; exact ⟨rfl, .rfl⟩
  | @alter c f among within =>
    have hdc : d ≠ c := fun heq => hd (heq ▸ among)
    exact ⟨Table.get?_modify_of_ne _ hdc f, .rfl⟩
  | @strike c among =>
    have hdc : d ≠ c := fun heq => hd (heq ▸ among)
    exact ⟨rfl, by simp [hdc]⟩
  | @erase c among =>
    have hdc : d ≠ c := fun heq => hd (heq ▸ among)
    exact ⟨Table.get?_erase_of_ne _ hdc, .rfl⟩
  | perform among heard => exact ⟨rfl, .rfl⟩
  | hook among channel hook event payload ref => exact ⟨rfl, .rfl⟩
  | error callback failure context => exact ⟨rfl, .rfl⟩

theorem Strokes.others (h : Strokes about s t) (hd : ¬ about d) :
    t.channels.get? d = s.channels.get? d ∧ (d ∈ t.order ↔ d ∈ s.order) := by
  induction h with
  | refl => exact ⟨rfl, .rfl⟩
  | tail _ stroke ih =>
    obtain ⟨hget, horder⟩ := stroke.others hd
    exact ⟨hget.trans ih.1, horder.trans ih.2⟩

/-- A stroke leaves the connection alone, and opens no transport. -/
theorem Stroke.conn (h : Stroke about s t) :
    t.conn = s.conn ∧ t.nextTransport = s.nextTransport := by
  cases h with
  | aside aside => exact ⟨aside.conn, aside.nextTransport⟩
  | _ => exact ⟨rfl, rfl⟩

/-! ### Hooks and listeners -/

/-- No channel comes by a stroke, and nobody comes to listen. -/
theorem Stroke.within (h : Stroke about s t) {ch' : Channel} (hc : t.channels.get? c = some ch') :
    ∃ ch, s.channels.get? c = some ch ∧ ch'.Within ch := by
  have hsame : s.channels.get? c = some ch' → ∃ ch, s.channels.get? c = some ch ∧ ch'.Within ch :=
    fun h => ⟨ch', h, .refl ch'⟩
  cases h with
  | draw attached => exact hsame hc
  | aside aside => exact hsame (aside.channels ▸ hc)
  | @alter d f among within =>
    by_cases hcd : c = d
    · subst hcd
      obtain ⟨ch, hch, rfl⟩ := Option.map_eq_some_iff.mp ((Table.get?_modify_self _ c f).symm.trans hc)
      exact ⟨ch, hch, within ch hch⟩
    · exact hsame ((Table.get?_modify_of_ne _ hcd f).symm.trans hc)
  | strike among => exact hsame hc
  | @erase d among =>
    have hget := (Table.get?_erase _ d c).symm.trans hc
    split at hget
    · cases hget
    · exact hsame hget
  | perform among heard => exact hsame hc
  | hook among channel hook event payload ref => exact hsame hc
  | error callback failure context => exact hsame hc

theorem Strokes.within (h : Strokes about s t) {ch' : Channel}
    (hc : t.channels.get? c = some ch') :
    ∃ ch, s.channels.get? c = some ch ∧ ch'.Within ch := by
  induction h generalizing ch' with
  | refl => exact ⟨ch', hc, .refl ch'⟩
  | tail _ stroke ih =>
    obtain ⟨ch₁, hc₁, hwithin₁⟩ := stroke.within hc
    obtain ⟨ch, hch, hwithin⟩ := ih hc₁
    exact ⟨ch, hch, hwithin₁.trans hwithin⟩

/-! ### The parts of which functions are made -/

theorem strokes_drawRef (s : Socket ω) : Strokes about s s.drawRef.2 := .single (.draw rfl)

theorem strokes_drawPush (s : Socket ω) (c : ChannelId) : Strokes about s (s.drawPush c).2 :=
  .single (.draw rfl)

theorem strokes_drawBinding (s : Socket ω) (c : ChannelId) : Strokes about s (s.drawBinding c).2 :=
  .single (.draw rfl)

theorem strokes_arm (s : Socket ω) (delay : Nat) (event : TimerEvent) :
    Strokes about s (s.arm delay event) := .single (.draw rfl)

theorem strokes_modifyChannel (hc : about c) {f : Channel → Channel} (hf : ∀ ch, (f ch).Within ch)
    (s : Socket ω) : Strokes about s (s.modifyChannel c f) :=
  .single (.alter hc fun ch _ => hf ch)

/-- A channel changes in parts that neither its hook nor its listeners know of. -/
theorem strokes_amend (hc : about c) (s : Socket ω) (f : Channel → Channel)
    (hh : ∀ ch, (f ch).hook = ch.hook) (hb : ∀ ch, (f ch).bindings = ch.bindings) :
    Strokes about s (s.modifyChannel c f) :=
  strokes_modifyChannel hc (fun ch => .of_subset (hh ch) (hb ch ▸ List.Subset.refl _)) s

theorem strokes_modifyPush (hc : about c) (s : Socket ω) (p : PushId) (f : Push → Push) :
    Strokes about s (s.modifyPush c p f) :=
  strokes_amend hc s (fun ch => ch.modifyPush p f) (fun _ => rfl) (fun _ => rfl)

theorem strokes_armPush (hc : about c) (s : Socket ω) (p : PushId) (push : Push) :
    Strokes about s (s.armPush c p push) :=
  (strokes_modifyPush hc s p _).trans (strokes_arm _ _ _)

theorem strokes_startTimeout (hc : about c) (s : Socket ω) (p : PushId) :
    Strokes about s (s.startTimeout c p) := by
  simp only [startTimeout]
  refine (strokes_drawRef s).trans ?_
  split
  · exact .refl
  · refine (strokes_drawBinding s.drawRef.2 c).trans ?_
    split
    · exact .refl
    · refine .trans ?_ (strokes_modifyChannel hc (fun ch => ?_) _)
      · exact .trans (strokes_modifyPush hc _ p _) (strokes_armPush hc _ p _)
      · exact (Channel.within_bind (by simp) _ _ _).trans (Channel.within_dropBindings? ch _)

theorem strokes_resetPush (hc : about c) (s : Socket ω) (p : PushId) :
    Strokes about s (s.resetPush c p) := by
  unfold resetPush
  split
  · exact .refl
  · refine strokes_modifyChannel hc (fun ch => ?_) s
    exact (Channel.within_dropBindings? _ _).trans (.of_subset rfl (List.Subset.refl _))

theorem strokes_releasePush (hc : about c) (s : Socket ω) (p : PushId) :
    Strokes about s (s.releasePush c p) := by
  unfold releasePush
  split
  · exact .refl
  · split
    · exact .refl
    · split
      · refine strokes_modifyChannel hc (fun ch => ?_) s
        exact (Channel.within_dropBindings? _ _).trans (.of_subset rfl (List.Subset.refl _))
      · exact .refl

theorem strokes_scheduleRejoin (hc : about c) (s : Socket ω) :
    Strokes about s (s.scheduleRejoin c) := by
  unfold scheduleRejoin
  split
  · exact .refl
  · refine .trans ?_ (strokes_arm _ _ _)
    exact strokes_amend hc s _ (fun _ => rfl) (fun _ => rfl)

/-! ### Effects -/

/-- An effect that nobody hears an event by. -/
theorem strokes_perform {e : Effect} (he : e.IsAbout about) (hl : e.listener? = none)
    (s : Socket ω) : Strokes about s (s.perform e) :=
  .single (.perform he fun l h => by rw [hl] at h; cases h)

theorem strokes_performAll {es : List Effect} (hes : ∀ e ∈ es, e.IsAbout about ∧ e.listener? = none)
    (s : Socket ω) : Strokes about s (s.performAll es) :=
  strokes_foldl (fun e he => strokes_perform (hes e he).1 (hes e he).2) s

theorem strokes_discardAll (s : Socket ω) (tickets : List Ticket) :
    Strokes about s (s.discardAll tickets) := by
  refine strokes_performAll (fun e he => ?_) s
  obtain ⟨ticket, -, rfl⟩ := List.mem_map.mp he
  exact ⟨.of_none rfl rfl, rfl⟩

theorem strokes_off (s : Socket ω) (refs : List Ref) : Strokes about s (s.off refs) := by
  refine .head (.aside ?_) (strokes_discardAll { s with callbacks := s.callbacks.without refs }
    (s.callbacks.pingsOf refs))
  exact ⟨rfl, rfl, rfl, rfl, rfl, rfl, rfl⟩

theorem strokes_runErrors (failure : SocketError) (registry : Registry OnError)
    (context : ErrorContext) (s : Socket ω) :
    Strokes about s (runErrors failure registry context s) := by
  induction registry generalizing context s with
  | nil => exact .refl
  | cons entry rest ih =>
    obtain ⟨ref, callback | channel⟩ := entry
    · exact .head (.error callback failure context) (ih _ _)
    · exact ih context s

theorem strokes_report (s : Socket ω) (failure : SocketError) :
    Strokes about s (s.report failure) :=
  strokes_runErrors failure s.callbacks.onError s.errorContext s

theorem strokes_transmit (s : Socket ω) (m : Message) : Strokes about s (s.transmit m) := by
  unfold transmit
  split
  · exact .refl
  · split
    · exact strokes_perform (.of_none rfl rfl) rfl s
    · exact strokes_report s _

theorem strokes_pushMessage {sender : Sender} {m : Message}
    (hsender : (Effect.accept sender m).IsAbout about) (s : Socket ω) :
    Strokes about s (s.pushMessage sender m) := by
  simp only [pushMessage]
  refine (strokes_perform hsender rfl s).trans ?_
  split
  · exact strokes_transmit _ m
  · exact .single (.aside ⟨rfl, rfl, rfl, rfl, rfl, rfl, rfl⟩)

theorem strokes_flush (s : Socket ω) : Strokes about s s.flush := by
  unfold flush
  split
  · exact .refl
  · refine .head (.aside ?_) (strokes_foldl (fun m _ s => strokes_transmit s m) _)
    exact ⟨rfl, rfl, rfl, rfl, rfl, rfl, rfl⟩

/-! ### Pushes -/

theorem strokes_dispatchPush (hc : about c) (s : Socket ω) (p : PushId) :
    Strokes about s (s.dispatchPush c p) := by
  unfold dispatchPush
  split
  · exact .refl
  · dsimp only
    split
    · exact strokes_amend hc s _ (fun _ => rfl) (fun _ => rfl)
    · refine .trans ?_ (strokes_pushMessage (.of_some hc rfl rfl) _)
      refine .trans ?_ (strokes_modifyPush hc _ p _)
      exact strokes_amend hc s _ (fun _ => rfl) (fun _ => rfl)

theorem strokes_sendPush (hc : about c) (s : Socket ω) (p : PushId) :
    Strokes about s (s.sendPush c p) := by
  unfold sendPush
  split
  · exact .refl
  · split
    · exact .refl
    · exact (strokes_startTimeout hc s p).trans (strokes_dispatchPush hc _ p)

theorem strokes_resendPush (hc : about c) (s : Socket ω) (p : PushId) (timeout : Nat) :
    Strokes about s (s.resendPush c p timeout) :=
  (strokes_modifyPush hc s p _).trans
    ((strokes_resetPush hc _ p).trans (strokes_sendPush hc _ p))

/-! ### A channel closes or fails -/

theorem strokes_eraseChannel (hc : about c) (s : Socket ω) :
    Strokes about s (s.eraseChannel c) := by
  unfold eraseChannel
  split
  · exact .refl
  · exact .head (.erase hc) (strokes_discardAll _ _)

theorem strokes_dropChannel (hc : about c) (s : Socket ω) :
    Strokes about s (s.dropChannel c) := by
  unfold dropChannel
  split
  · exact strokes_amend hc s _ (fun _ => rfl) (fun _ => rfl)
  · exact strokes_eraseChannel hc s

theorem strokes_removeChannel (hc : about c) (s : Socket ω) :
    Strokes about s (s.removeChannel c) := by
  unfold removeChannel
  split
  · exact .refl
  · rename_i ch _
    have hstruck : Strokes about s { s.off ch.socketRefs with
        order := (s.off ch.socketRefs).order.filter (· ≠ c) } :=
      .tail (strokes_off s ch.socketRefs) (.strike hc)
    dsimp only
    split
    · exact hstruck.trans (strokes_eraseChannel hc _)
    · exact hstruck

theorem strokes_closeChannel (hc : about c) (s : Socket ω) :
    Strokes about s (s.closeChannel c) := by
  unfold closeChannel
  refine .trans ?_ (strokes_removeChannel hc _)
  exact strokes_amend hc s _ (fun _ => rfl) (fun _ => rfl)

theorem strokes_markErrored (hc : about c) (s : Socket ω) : Strokes about s (s.markErrored c) :=
  strokes_amend hc s _ (fun _ => rfl) (fun _ => rfl)

theorem strokes_scheduleRejoinIfConnected (hc : about c) (s : Socket ω) :
    Strokes about s (s.scheduleRejoinIfConnected c) := by
  unfold scheduleRejoinIfConnected
  split
  · exact strokes_scheduleRejoin hc s
  · exact .refl

theorem strokes_failChannel (hc : about c) (s : Socket ω) : Strokes about s (s.failChannel c) := by
  unfold failChannel
  split
  · exact .refl
  · dsimp only
    refine .trans ?_ (strokes_scheduleRejoinIfConnected hc _)
    refine .trans ?_ (strokes_markErrored hc _)
    split
    · exact strokes_resetPush hc s joinPush
    · exact .refl

/-! ### Replies -/

theorem strokes_acceptJoin (hc : about c) (s : Socket ω) : Strokes about s (s.acceptJoin c) := by
  unfold acceptJoin
  split
  · exact .refl
  · refine .trans ?_ (strokes_foldl (fun p _ s => strokes_sendPush hc s p) _)
    exact strokes_amend hc s _ (fun _ => rfl) (fun _ => rfl)

theorem strokes_abandonJoin (hc : about c) (s : Socket ω) :
    Strokes about s (s.abandonJoin c) := by
  unfold abandonJoin
  split
  · exact .refl
  · dsimp only
    refine .trans ?_ (strokes_scheduleRejoinIfConnected hc _)
    refine .trans ?_ (strokes_resetPush hc _ joinPush)
    refine .trans ?_ (strokes_markErrored hc _)
    refine .trans ?_ (strokes_sendPush hc _ _)
    exact .trans (strokes_drawPush s c) (strokes_amend hc _ _ (fun _ => rfl) (fun _ => rfl))

/-- What a dispatch does for one of certain channels is about them. -/
def Dispatch.KeepsTo (about : ChannelId → Prop) (dispatch : Dispatch ω) : Prop :=
  ∀ ⦃c⦄, about c → ∀ event payload ref joinRef s,
    Strokes about s (dispatch c event payload ref joinRef s)

variable {dispatch : Dispatch ω}

theorem Dispatch.KeepsTo.react (h : dispatch.KeepsTo about) (hc : about c) (reaction : Reaction)
    (s : Socket ω) : Strokes about s (s.react dispatch c reaction) := by
  cases reaction with
  | joinOk => exact strokes_acceptJoin hc s
  | joinError =>
    simp only [Socket.react]
    split
    · exact (strokes_markErrored hc s).trans (strokes_scheduleRejoinIfConnected hc _)
    · exact .refl
  | joinTimeout => exact strokes_abandonJoin hc s
  | leaveDone => exact h hc _ _ _ _ s

theorem Dispatch.KeepsTo.runReplyHook (h : dispatch.KeepsTo about) (hc : about c) (p : PushId)
    (reply : Reply) (s : Socket ω) (index : Nat) :
    Strokes about s (s.runReplyHook dispatch c p reply index) := by
  unfold Socket.runReplyHook
  split
  · exact .refl
  · rename_i status hook _
    have hran : (Effect.runReply c p hook reply).IsAbout about := .of_some hc rfl rfl
    split
    · refine .trans (strokes_perform hran rfl s) ?_
      cases hook with
      | callback callback => exact .refl
      | channel reaction => exact h.react hc reaction _
    · exact .refl

theorem strokes_settlePush (hc : about c) (s : Socket ω) (p : PushId) (push : Push)
    (reply : Reply) : Strokes about s (s.settlePush c p push reply) := by
  unfold settlePush
  dsimp only
  have hresolved : (Effect.resolve c p push.ref reply).IsAbout about := .of_some hc rfl rfl
  refine .trans ?_ (strokes_perform hresolved rfl _)
  refine .trans ?_ (strokes_modifyChannel hc (fun ch => Channel.within_dropBindings? ch _) _)
  refine .trans (strokes_modifyPush hc s p _) (strokes_performAll (fun e he => ?_) _)
  obtain ⟨ticket, -, rfl⟩ := List.mem_map.mp he
  exact ⟨.of_some hc rfl rfl, rfl⟩

theorem Dispatch.KeepsTo.resolvePush (h : dispatch.KeepsTo about) (hc : about c) (p : PushId)
    (reply : Reply) (s : Socket ω) : Strokes about s (s.resolvePush dispatch c p reply) := by
  unfold Socket.resolvePush
  split
  · exact .refl
  · rename_i push _
    refine .trans ?_ (strokes_releasePush hc _ p)
    refine .trans (strokes_settlePush hc s p push reply) ?_
    exact strokes_foldl (fun index _ s => h.runReplyHook hc p reply s index) _

/-! ### Events -/

/-- An event reaches a target; if someone listens, then to the channel of the event. -/
theorem Dispatch.KeepsTo.runTarget (h : dispatch.KeepsTo about) (hc : about c)
    (event : InboundEvent) {target : Target} {s : Socket ω} {ch : Channel}
    (hch : s.channels.get? c = some ch) (hl : ∀ l, target = .listener l → ch.Hears l) :
    Strokes about s (s.runTarget dispatch c event target) := by
  cases target with
  | listener l =>
    have hheard : ∃ d ch, about d ∧ s.channels.get? d = some ch ∧ ch.Hears l :=
      ⟨c, ch, hc, hch, hl l rfl⟩
    cases l with
    | callback callback =>
      refine .single (.perform (.of_none rfl rfl) fun l' hl' => ?_)
      cases hl'
      exact hheard
    | stream stream =>
      refine .single (.perform (.of_none rfl rfl) fun l' hl' => ?_)
      cases hl'
      exact hheard
  | redirect =>
    simp only [Socket.runTarget, redirect]
    split
    · exact h hc _ _ _ _ s
    · exact .refl
  | resolve p =>
    simp only [Socket.runTarget]
    split
    · exact h.resolvePush hc p _ s
    · exact .refl
  | close => exact strokes_closeChannel hc s
  | error => exact strokes_failChannel hc s

theorem Dispatch.KeepsTo.runBinding (h : dispatch.KeepsTo about) (hc : about c)
    (event : InboundEvent) (s : Socket ω) (number : BindingId) :
    Strokes about s (s.runBinding dispatch c event number) := by
  unfold Socket.runBinding
  split
  · rename_i binding hfound
    obtain ⟨ch, hch, hbinding⟩ := Option.bind_eq_some_iff.mp hfound
    refine h.runTarget hc event hch fun l hl => ?_
    exact ⟨binding, List.mem_of_find?_eq_some hbinding, hl⟩
  · exact .refl

theorem strokes_passHook (hc : about c) {s : Socket ω} {ch : Channel}
    (hch : s.channels.get? c = some ch) (event : String) (payload : Payload) (ref : Option Ref) :
    Strokes about s (s.passHook ch event payload ref).2 := by
  unfold passHook
  split
  · exact .refl
  · rename_i callback hhook
    have hran := Stroke.hook hc hch hhook event payload ref
    dsimp only
    split
    · exact .single hran
    · split
      · exact .head hran (strokes_report _ _)
      · exact .single hran

theorem Dispatch.KeepsTo.dispatchWith (h : dispatch.KeepsTo about) :
    Dispatch.KeepsTo about (dispatchWith dispatch) := by
  intro c hc event payload ref joinRef s
  unfold Socket.dispatchWith
  split
  · exact .refl
  · rename_i ch hch
    have hpass := strokes_passHook hc hch event payload ref
    split
    · rename_i heq
      rwa [heq] at hpass
    · rename_i heq
      rw [heq] at hpass
      refine hpass.trans ?_
      unfold runBindings
      split
      · exact .refl
      · exact strokes_foldl (fun number _ s => h.runBinding hc _ s number) _

theorem keepsTo_dispatchTo (n : Nat) : Dispatch.KeepsTo (ω := ω) about (dispatchTo n) := by
  induction n with
  | zero => exact fun _ _ _ _ _ _ _ => .refl
  | succ n ih => exact ih.dispatchWith

/-- An event of a channel is a matter of that channel, whatever it leads to. -/
theorem strokes_trigger (hc : about c) (s : Socket ω) (event : String) (payload : Payload)
    (ref joinRef : Option Ref) : Strokes about s (s.trigger c event payload ref joinRef) :=
  keepsTo_dispatchTo 3 hc event payload ref joinRef s

theorem strokes_triggerPush (hc : about c) (s : Socket ω) (p : PushId) (status : String)
    (response : Payload) : Strokes about s (s.triggerPush c p status response) := by
  unfold triggerPush
  split
  · exact strokes_trigger hc s _ _ _ _
  · exact .refl

theorem strokes_pushTimeout (hc : about c) (s : Socket ω) (p : PushId) (generation : Nat) :
    Strokes about s (s.pushTimeout c p generation) := by
  unfold pushTimeout
  split
  · exact .refl
  · exact (strokes_modifyPush hc s p _).trans (strokes_triggerPush hc _ p _ _)

/-- A message is a matter of the channels that it is for. -/
theorem strokes_deliver {m : Message} (hc : s.isMember c m = true → about c) :
    Strokes about s (deliver m s c) := by
  unfold deliver
  split
  · exact strokes_trigger (hc ‹_›) s _ _ _ _
  · exact .refl

/-! ### Handles and timers of channels -/

theorem strokes_leave (hc : about c) (s : Socket ω) (p : PushId) (timeout : Nat)
    (detached : Bool) : Strokes about s (s.leave c p timeout detached) := by
  unfold leave
  split
  · exact .refl
  · dsimp only
    split
    · refine .trans ?_ (strokes_sendPush hc _ p)
      exact strokes_amend hc s _ (fun _ => rfl) (fun _ => rfl)
    · refine .trans ?_ (strokes_triggerPush hc _ p _ _)
      refine .trans ?_ (strokes_sendPush hc _ p)
      exact strokes_amend hc s _ (fun _ => rfl) (fun _ => rfl)

theorem strokes_push (hc : about c) (s : Socket ω) (p : PushId) (event : String)
    (payload : Payload) (timeout : Nat) : Strokes about s (s.push c p event payload timeout) := by
  unfold push
  split
  · exact .refl
  · dsimp only
    split
    · refine .trans ?_ (strokes_sendPush hc _ p)
      exact strokes_amend hc s _ (fun _ => rfl) (fun _ => rfl)
    · refine .trans ?_ (strokes_amend hc _ _ (fun _ => rfl) (fun _ => rfl))
      refine .trans ?_ (strokes_startTimeout hc _ p)
      exact strokes_amend hc s _ (fun _ => rfl) (fun _ => rfl)

theorem strokes_receive (hc : about c) (s : Socket ω) (p : PushId) (status : String)
    (callback : CallbackId) : Strokes about s (s.receive c p status callback) := by
  unfold receive
  split
  · exact .refl
  · dsimp only
    refine .trans ?_ (strokes_modifyPush hc _ p _)
    split
    · split
      · exact strokes_perform (.of_some hc rfl rfl) rfl s
      · exact .refl
    · exact .refl

theorem strokes_awaitReply (hc : about c) (s : Socket ω) (p : PushId) (ticket : Ticket) :
    Strokes about s (s.awaitReply c p ticket) := by
  unfold awaitReply
  split
  · exact strokes_perform (.of_none rfl rfl) rfl s
  · split
    · exact strokes_perform (.of_some hc rfl rfl) rfl s
    · exact strokes_modifyPush hc s p _

theorem strokes_release (hc : about c) (s : Socket ω) (p : PushId) :
    Strokes about s (s.release c p) := by
  unfold release
  split
  · exact .refl
  · exact (strokes_modifyPush hc s p _).trans (strokes_releasePush hc _ p)

/-- A caller is told of a channel. -/
theorem strokes_tell {f : Channel → Answer}
    (hf : ∀ ticket ch, (Effect.answer ticket (f ch)).IsAbout about) (s : Socket ω) (c : ChannelId)
    (ticket : Ticket) : Strokes about s (s.tell c ticket f) := by
  unfold tell
  split
  · exact strokes_perform (hf _ _) rfl s
  · exact strokes_perform (.of_none rfl rfl) rfl s

/-! ### All channels -/

/-- All channels. -/
abbrev everyone (_ : ChannelId) : Prop := True

theorem strokes_triggerErrors (s : Socket ω) : Strokes everyone s s.triggerErrors := by
  refine strokes_foldl (fun c _ s => ?_) s
  split
  · split
    · exact strokes_trigger trivial s _ _ _ _
    · exact .refl
  · exact .refl

theorem strokes_leaveOpenTopic (s : Socket ω) (topic : String) (c : ChannelId) :
    Strokes everyone s (s.leaveOpenTopic topic c) := by
  unfold leaveOpenTopic
  split
  · exact .refl
  · split
    · exact .refl
    · exact .trans (strokes_drawPush s _) (strokes_leave trivial _ _ _ _)

/-- A join attempt may displace another channel of the topic. -/
theorem strokes_rejoin (s : Socket ω) (c : ChannelId) : Strokes everyone s (s.rejoin c) := by
  unfold rejoin
  split
  · exact .refl
  · rename_i ch _
    split
    · exact .refl
    · refine .trans (strokes_leaveOpenTopic s ch.topic c) ?_
      dsimp only
      split
      · exact .refl
      · refine .trans ?_ (strokes_resendPush trivial _ joinPush _)
        exact strokes_amend trivial _ _ (fun _ => rfl) (fun _ => rfl)

theorem strokes_rejoinTimeout (s : Socket ω) (c : ChannelId) (generation : Nat) :
    Strokes everyone s (s.rejoinTimeout c generation) := by
  unfold rejoinTimeout
  split
  · exact .refl
  · dsimp only
    split
    · refine .trans ?_ (strokes_rejoin _ c)
      exact strokes_amend trivial s _ (fun _ => rfl) (fun _ => rfl)
    · exact strokes_amend trivial s _ (fun _ => rfl) (fun _ => rfl)

theorem strokes_resetRejoin (s : Socket ω) (c : ChannelId) :
    Strokes everyone s (s.resetRejoin c) :=
  strokes_amend trivial s _ (fun _ => rfl) (fun _ => rfl)

/-! ### Signs of life -/

theorem strokes_restartHeartbeat (s : Socket ω) : Strokes about s s.restartHeartbeat := by
  unfold restartHeartbeat armHeartbeat
  refine .trans (.single (.aside ?_)) (strokes_arm _ _ _)
  exact ⟨rfl, rfl, rfl, rfl, rfl, rfl, rfl⟩

theorem strokes_resetHeartbeat (s : Socket ω) : Strokes everyone s s.resetHeartbeat := by
  unfold resetHeartbeat
  split
  · split
    · exact .refl
    · exact strokes_restartHeartbeat s
  · exact strokes_restartHeartbeat s

theorem strokes_armHeartbeatTimeout (s : Socket ω) : Strokes everyone s s.armHeartbeatTimeout := by
  unfold armHeartbeatTimeout
  refine .trans (.single (.aside ?_)) (strokes_arm _ _ _)
  exact ⟨rfl, rfl, rfl, rfl, rfl, rfl, rfl⟩

theorem strokes_sendHeartbeat (s : Socket ω) : Strokes everyone s s.sendHeartbeat := by
  unfold sendHeartbeat
  split
  · exact .refl
  · refine .trans ?_ (strokes_armHeartbeatTimeout _)
    refine .trans ?_ (strokes_pushMessage (.of_none rfl rfl) _)
    refine .tail (strokes_drawRef s) (.aside ?_)
    exact ⟨rfl, rfl, rfl, rfl, rfl, rfl, rfl⟩

theorem strokes_heartbeatDue (s : Socket ω) (generation : Nat) :
    Strokes everyone s (s.heartbeatDue generation) := by
  unfold heartbeatDue
  split
  · refine .head (.aside ?_) (strokes_sendHeartbeat _)
    exact ⟨rfl, rfl, rfl, rfl, rfl, rfl, rfl⟩
  · exact .refl

theorem strokes_ping (s : Socket ω) (ticket : Ticket) : Strokes everyone s (s.ping ticket) := by
  unfold ping
  split
  · exact strokes_perform (.of_none rfl rfl) rfl s
  · have hsent : Strokes everyone s
        (s.drawRef.2.pushMessage .socket (.heartbeat s.drawRef.1)).drawRef.2 :=
      .trans (.trans (strokes_drawRef s) (strokes_pushMessage (.of_none rfl rfl) _))
        (strokes_drawRef _)
    exact hsent.tail (.aside ⟨rfl, rfl, rfl, rfl, rfl, rfl, rfl⟩)

/-! ### What transports report -/

theorem strokes_runOnOpen (s : Socket ω) (ref : Ref) : Strokes everyone s (runOnOpen s ref) := by
  unfold runOnOpen
  split
  · exact strokes_perform (.of_none rfl rfl) rfl s
  · unfold rejoinIfErrored
    split
    · exact .refl
    · dsimp only
      split
      · exact (strokes_resetRejoin s _).trans (strokes_rejoin _ _)
      · exact strokes_resetRejoin s _
  · exact .refl

theorem strokes_connectionOpened (s : Socket ω) : Strokes everyone s s.connectionOpened := by
  refine .trans ?_ (strokes_foldl (fun ref _ s => strokes_runOnOpen s ref) _)
  set s₁ : Socket ω := { s with
    closeWasClean := false, established := min (s.established + 1) attemptLimit } with hs₁
  have hmarked : Strokes everyone s s₁ := .single (.aside ⟨rfl, rfl, rfl, rfl, rfl, rfl, rfl⟩)
  have hflushed : Strokes everyone s₁ s₁.flush.resetReconnect :=
    .tail (strokes_flush s₁) (.aside ⟨rfl, rfl, rfl, rfl, rfl, rfl, rfl⟩)
  exact hmarked.trans (hflushed.trans (strokes_resetHeartbeat _))

theorem strokes_runOnClose (event : CloseEvent) (s : Socket ω) (ref : Ref) :
    Strokes everyone s (runOnClose event s ref) := by
  unfold runOnClose
  split
  · exact strokes_perform (.of_none rfl rfl) rfl s
  · exact .refl

theorem strokes_connectionClosed (s : Socket ω) (event : CloseEvent) :
    Strokes everyone s (s.connectionClosed event) := by
  have hcleared : Strokes everyone s s.triggerErrors.clearHeartbeats :=
    .tail (strokes_triggerErrors s) (.aside ⟨rfl, rfl, rfl, rfl, rfl, rfl, rfl⟩)
  simp only [connectionClosed]
  refine .trans ?_ (strokes_foldl (fun ref _ s => strokes_runOnClose event s ref) _)
  split
  · unfold scheduleReconnect
    refine .trans (hcleared.tail (.aside ?_)) (strokes_arm _ _ _)
    exact ⟨rfl, rfl, rfl, rfl, rfl, rfl, rfl⟩
  · exact hcleared

theorem strokes_runOnErrors (failure : SocketError) (refs : List Ref) (context : ErrorContext)
    (s : Socket ω) :
    Strokes everyone s (refs.foldl (runOnError failure) (context, s)).2 := by
  induction refs generalizing context s with
  | nil => exact .refl
  | cons ref refs ih =>
    rw [List.foldl_cons]
    refine .trans ?_ (ih (runOnError failure (context, s) ref).1 _)
    split
    · exact .single (.error _ failure context)
    · exact strokes_resetRejoin s _
    · exact .refl

/-! ### Messages -/

/-- A message is for a registered channel. -/
def Addresses (s : Socket ω) (m : Message) (c : ChannelId) : Prop :=
  c ∈ s.order ∧ s.isMember c m = true

omit [Outside ω] in
theorem isMember_congr (h : t.channels.get? c = s.channels.get? c) :
    t.isMember c m = s.isMember c m := by
  simp only [isMember, h]

/-- Channels that a message does not reach leave the others alone, so it is known from the start for
whom the message is. -/
theorem strokes_deliverAll {l : List ChannelId}
    (hl : ∀ c ∈ l, s.isMember c m = true → about c) (h : Strokes about s t) :
    Strokes about s (l.foldl (deliver m) t) := by
  induction l generalizing t with
  | nil => exact h
  | cons c l ih =>
    refine ih (fun d hd => hl d (List.mem_cons_of_mem _ hd)) (h.trans (strokes_deliver ?_))
    intro hmember
    by_contra hnot
    -- A channel that was left alone so far is a member now if it was one before.
    rw [isMember_congr (h.others hnot).1] at hmember
    exact hnot (hl c List.mem_cons_self hmember)

theorem strokes_runOnMessage (m : Message) (s : Socket ω) (ref : Ref) :
    Strokes about s (runOnMessage m s ref) := by
  unfold runOnMessage
  split
  · exact strokes_perform (.of_none rfl rfl) rfl s
  · rename_i waited started ticket _
    split
    · have htold : (Effect.answer ticket (.latency (some (s.exchange.now - started)))).IsAbout about :=
        .of_none rfl rfl
      exact .tail (strokes_perform htold rfl s) (.aside ⟨rfl, rfl, rfl, rfl, rfl, rfl, rfl⟩)
    · exact .refl
  · exact .refl

/-- What becomes of a socket by a message is a matter of the channels that it is for. -/
theorem strokes_messageReceived (s : Socket ω) (m : Message) :
    Strokes (s.Addresses m) s (s.messageReceived m) := by
  have hbeat : Strokes (s.Addresses m) s
      (if s.answersHeartbeat m then s.acknowledgeHeartbeat else s) := by
    split
    · exact strokes_restartHeartbeat s
    · exact .refl
  have horder : (if s.answersHeartbeat m then s.acknowledgeHeartbeat else s).order = s.order := by
    split <;> rfl
  refine .trans (strokes_deliverAll (fun c hc hmember => ?_) hbeat)
    (strokes_foldl (fun ref _ s => strokes_runOnMessage m s ref) _)
  exact ⟨horder ▸ hc, hmember⟩

end Outside

end Socket

end Switchboard
