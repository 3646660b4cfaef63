import Switchboard.Proofs.Chores
import Switchboard.Proofs.Heralds

/-!
# Toils of channels

What a socket does with its channels is a sequence of toils, each of them an exact piece of the code.
Most toils are uneventful: no backoff timer, no join ref and no message that waits is touched by them.  The
others leave a note: a join attempt is armed, or the attempts are forgotten
because the channel has joined, leaves or closes; a join has a new ref, or none; a message of a push is
accepted with the ref that the push has.

A join attempt is armed for a failed channel only.

Main definitions

* `Retry`, `RetryEvent`: the backoff timers of a socket, and what happens to one;
* `Note`, `Socket.Mark`: something worth noting, and the state in which it is done;
* `Socket.Uneventful`: nothing worth noting was done;
* `Socket.Toil`, `Socket.Toils`, `Socket.Toiled`.

Main results

* `Socket.toiled_trigger`: what a dispatch does is toils;
* `Socket.toiled_channelOp`: so is what a handle of a channel asks for.
-/

set_option autoImplicit false

namespace Switchboard

/-! ### Notes -/

/-- The backoff timers of a socket. -/
inductive Retry where
  /-- The timer of the next attempt to join a channel again. -/
  | rejoin (channel : ChannelId)
  /-- The timer of the next attempt to connect again. -/
  | reconnect
  deriving DecidableEq

/-- What happens to a backoff timer. -/
inductive RetryEvent where
  /-- An attempt is armed under a generation, to be made after a delay. -/
  | armed (generation delay : Nat)
  /-- The firing with this generation is accepted. -/
  | fired (generation : Nat)
  | reset
  deriving DecidableEq

/-- Something worth noting that a socket does. -/
inductive Note where
  /-- A channel enters, with a timer of its own and without a join ref. -/
  | enters (channel : ChannelId)
  | retry (timer : Retry) (event : RetryEvent)
  /-- The join of a channel is taken back or issued anew, or the channel is forgotten. -/
  | renews (channel : ChannelId)
  /-- A message is accepted, and handed to the transport at once. -/
  | sends (sender : Sender) (message : Message)
  /-- A message is accepted, and waits for a connection. -/
  | keeps (sender : Sender) (message : Message)
  /-- The messages that wait are handed to the transport. -/
  | flushes (messages : List Message)
  /-- The messages that wait are forgotten. -/
  | forgets
  /-- Callbacks are registered. -/
  | enlists
  /-- All channels are forgotten. -/
  | ends

/-- What is noted of the toils of channels. -/
def Note.OfToil : Note → Prop
  | .retry (.rejoin _) (.armed ..) | .retry (.rejoin _) .reset | .renews _ | .sends .. | .keeps .. =>
    True
  | _ => False

/-- Numbers are drawn in a ledger that is kept. -/
theorem Exchange.Draws.evolves {x y : Exchange} (h : x.Draws y) : x.Evolves y := by
  -- A channel without a line has no numbers to draw.
  have hunknown : ∀ {c : ChannelId} {f : Line → Line}, ¬ c < x.lines.length → x.modifyLine c f = x := by
    intro c f hc
    simp only [modifyLine, List.modify_eq_self (Nat.le_of_not_lt hc)]
  cases h with
  | ref => exact evolves_drawRef x
  | push c =>
    by_cases hc : c < x.lines.length
    · exact evolves_drawPush x hc
    · have heq : (x.drawPush c).2 = x := hunknown hc
      rw [heq]
  | binding c =>
    by_cases hc : c < x.lines.length
    · exact evolves_drawBinding x hc
    · have heq : (x.drawBinding c).2 = x := hunknown hc
      rw [heq]
  | arm delay event => exact .of_eq rfl rfl rfl rfl

/-- A channel as it was, but for parts that matter neither to its retries nor to its join. -/
structure Channel.Uneventful (ch ch' : Channel) : Prop where
  rejoinTimer : ch'.rejoinTimer = ch.rejoinTimer
  joinRef : ch'.joinRef = ch.joinRef
  state : ch'.state = ch.state ∨ ch'.state = .errored ∨ ch'.state = .joining

namespace Channel

variable {ch ch' ch'' : Channel} {p : PushId} {f : Push → Push}

@[refl] theorem Uneventful.refl (ch : Channel) : ch.Uneventful ch := ⟨rfl, rfl, .inl rfl⟩

theorem Uneventful.trans (h : ch.Uneventful ch') (h' : ch'.Uneventful ch'') : ch.Uneventful ch'' where
  rejoinTimer := h'.rejoinTimer.trans h.rejoinTimer
  joinRef := h'.joinRef.trans h.joinRef
  state := h'.state.elim (fun heq => heq ▸ h.state) .inr

/-- A push of the channel changes, but keeps its ref. -/
theorem uneventful_modifyPush (hf : ∀ q, (f q).ref = q.ref) : ch.Uneventful (ch.modifyPush p f) := by
  refine ⟨rfl, ?_, .inl rfl⟩
  simp only [joinRef, modifyPush, Table.get?_modify]
  split
  · rename_i heq
    rw [heq]
    cases ch.pushes.get? p <;> simp [hf]
  · rfl

theorem uneventful_dropBindings? (event : Option String) : ch.Uneventful (ch.dropBindings? event) :=
  ⟨dropBindings?_rejoinTimer event, by simp only [joinRef, dropBindings?_pushes],
    .inl (dropBindings?_state event)⟩

end Channel

/-- No callback was registered. -/
structure Callbacks.Shrinks (k k' : Callbacks) : Prop where
  onOpen : ∀ {ref entry}, k'.onOpen.find? ref = some entry → k.onOpen.find? ref = some entry
  onError : ∀ {ref entry}, k'.onError.find? ref = some entry → k.onError.find? ref = some entry

namespace Socket

variable {ω : Type}

/-- The ref of the latest join attempt of a channel. -/
def joinRef? (s : Socket ω) (c : ChannelId) : Option Ref := (s.channels.get? c).bind Channel.joinRef

/-- The note of something, and the state in which it is done. -/
structure Mark (ω : Type) where
  now : Socket ω
  note : Note

section Outside

variable [Outside ω]

/-- A reading of the surroundings that hears of nothing but messages. -/
structure HearsMailOnly {α : Type} (ear : ω → α) : Prop where
  perform : ∀ {e x o}, e.isPostal = false → ear (Outside.perform e x o).2 = ear o
  hook : ∀ {callback event payload ref x o},
    ear (Outside.hook callback event payload ref x o).2.2 = ear o
  runError : ∀ {callback failure context x o},
    ear (Outside.runError callback failure context x o).2.2 = ear o

/-- Nothing worth noting was done. -/
structure Uneventful (s t : Socket ω) : Prop where
  channel : ∀ {c ch'}, t.channels.get? c = some ch' →
    ∃ ch, s.channels.get? c = some ch ∧ ch.Uneventful ch'
  gone : ∀ {c}, t.channels.get? c = none → s.channels.get? c = none
  callbacks : s.callbacks.Shrinks t.callbacks
  reconnectTimer : t.reconnectTimer = s.reconnectTimer
  sendBuffer : t.sendBuffer = s.sendBuffer
  rejoinAfter : t.config.rejoinAfter = s.config.rejoinAfter
  reconnectAfter : t.config.reconnectAfter = s.config.reconnectAfter
  evolves : Obliging ω → s.exchange.Evolves t.exchange
  silent : ∀ {α : Type} {ear : ω → α}, HearsMailOnly ear → ear t.outside = ear s.outside

/-- One thing that a socket does with its channels. -/
inductive Toil : List Note → Socket ω → Socket ω → Prop
  | uneventful {s t : Socket ω} (uneventful : Uneventful s t) : Toil [] s t
  /-- A push takes a fresh ref. -/
  | starts (s : Socket ω) (c : ChannelId) (p : PushId) :
    Toil (if p = joinPush then [.renews c] else []) s (s.startTimeout c p)
  | takesBack (s : Socket ω) (c : ChannelId) : Toil [.renews c] s (s.resetPush c joinPush)
  | inserts (s : Socket ω) (c : ChannelId) (p : PushId) {q : Push} (unsent : q.ref = none) :
    Toil (if p = joinPush then [.renews c] else []) s
      (s.modifyChannel c fun ch => { ch with pushes := ch.pushes.set p q })
  | erases (s : Socket ω) (c : ChannelId) :
    Toil [.renews c] s { s with channels := s.channels.erase c }
  | schedules {s : Socket ω} {c : ChannelId} {ch : Channel} (channel : s.channels.get? c = some ch)
    (errored : ch.state = .errored) :
    Toil [.retry (.rejoin c) (.armed ch.rejoinTimer.schedule.slot.generation
      (ch.rejoinTimer.delay s.config.rejoinAfter))] s (s.scheduleRejoin c)
  | joins {s : Socket ω} {c : ChannelId} {ch : Channel} (channel : s.channels.get? c = some ch) :
    Toil [.retry (.rejoin c) .reset] s (s.modifyChannel c fun ch =>
      { ch with state := .joined, rejoinTimer := ch.rejoinTimer.reset, buffer := [] })
  | leaves {s : Socket ω} {c : ChannelId} {ch : Channel} (channel : s.channels.get? c = some ch) :
    Toil [.retry (.rejoin c) .reset] s (s.modifyChannel c fun ch =>
      { ch with
        rejoinTimer := ch.rejoinTimer.reset
        state := .leaving
        pushes := ch.pushes.modify joinPush fun join => { join with timer := join.timer.cancel } })
  | closes {s : Socket ω} {c : ChannelId} {ch : Channel} (channel : s.channels.get? c = some ch) :
    Toil [.retry (.rejoin c) .reset] s (s.modifyChannel c fun ch =>
      { ch with rejoinTimer := ch.rejoinTimer.reset, state := .closed })
  | sends (s : Socket ω) {sender : Sender} {m : Message}
    (own : ∀ {c p}, sender = .push c p → m.ref.isSome ∧ (s.push? c p).bind Push.ref = m.ref)
    (connected : (s.perform (.accept sender m)).isConnected = true) :
    Toil [.sends sender m] s (s.pushMessage sender m)
  | keeps (s : Socket ω) {sender : Sender} {m : Message}
    (own : ∀ {c p}, sender = .push c p → m.ref.isSome ∧ (s.push? c p).bind Push.ref = m.ref)
    (unconnected : ¬ (s.perform (.accept sender m)).isConnected = true) :
    Toil [.keeps sender m] s (s.pushMessage sender m)

/-- Toils one after another, with their notes. -/
inductive Toils (s : Socket ω) : List (Mark ω) → Socket ω → Prop
  | refl : Toils s [] s
  | tail {marks : List (Mark ω)} {notes : List Note} {t u : Socket ω} (toils : Toils s marks t)
    (toil : Toil notes t u) : Toils s (marks ++ notes.map (Mark.mk t)) u

/-- Any number of toils. -/
def Toiled (s t : Socket ω) : Prop := ∃ marks, Toils s marks t

variable {s t u : Socket ω} {c d : ChannelId} {p : PushId} {ch ch' : Channel} {q : Push}
variable {notes : List Note} {marks marks' : List (Mark ω)}

theorem Toils.trans (h : Toils s marks t) (h' : Toils t marks' u) : Toils s (marks ++ marks') u := by
  induction h' with
  | refl => rwa [List.append_nil]
  | tail _ toil ih =>
    rw [← List.append_assoc]
    exact .tail ih toil

/-- The notes of toils are those of one after another. -/
theorem Toils.ofToil (h : Toils s marks t) : ∀ mark ∈ marks, mark.note.OfToil := by
  induction h with
  | refl => simp
  | tail _ toil ih =>
    refine List.forall_mem_append.mpr ⟨ih, ?_⟩
    cases toil <;> simp [Note.OfToil]

theorem Toiled.refl (s : Socket ω) : Toiled s s := ⟨[], .refl⟩

theorem Toil.toiled (h : Toil notes s t) : Toiled s t := ⟨_, .tail .refl h⟩

theorem Toiled.trans (h : Toiled s t) (h' : Toiled t u) : Toiled s u := by
  obtain ⟨marks, htoils⟩ := h
  obtain ⟨marks', htoils'⟩ := h'
  exact ⟨marks ++ marks', htoils.trans htoils'⟩

theorem Uneventful.toiled (h : Uneventful s t) : Toiled s t := (Toil.uneventful h).toiled

/-- What is done for each entry of a list is done for all of them. -/
theorem toiled_foldl {α : Type} {f : Socket ω → α → Socket ω} (hf : ∀ a s, Toiled s (f s a))
    (l : List α) (s : Socket ω) : Toiled s (l.foldl f s) := by
  induction l generalizing s with
  | nil => exact .refl s
  | cons a l ih => exact (hf a s).trans (ih (f s a))

/-! ### Uneventful toils -/

@[refl] theorem Uneventful.refl (s : Socket ω) : Uneventful s s where
  channel hc := ⟨_, hc, .refl _⟩
  gone := id
  callbacks := ⟨id, id⟩
  reconnectTimer := rfl
  sendBuffer := rfl
  rejoinAfter := rfl
  reconnectAfter := rfl
  evolves _ := .refl _
  silent _ := rfl

theorem Uneventful.trans (h : Uneventful s t) (h' : Uneventful t u) : Uneventful s u where
  channel hc := by
    obtain ⟨ch', hc', hch'⟩ := h'.channel hc
    obtain ⟨ch, hc, hch⟩ := h.channel hc'
    exact ⟨ch, hc, hch.trans hch'⟩
  gone := h.gone ∘ h'.gone
  callbacks := ⟨h.callbacks.onOpen ∘ h'.callbacks.onOpen, h.callbacks.onError ∘ h'.callbacks.onError⟩
  reconnectTimer := h'.reconnectTimer.trans h.reconnectTimer
  sendBuffer := h'.sendBuffer.trans h.sendBuffer
  rejoinAfter := h'.rejoinAfter.trans h.rejoinAfter
  reconnectAfter := h'.reconnectAfter.trans h.reconnectAfter
  evolves hω := (h.evolves hω).trans (h'.evolves hω)
  silent hear := (h'.silent hear).trans (h.silent hear)

/-- Only other parts of the socket have changed. -/
theorem uneventful_of_eq (hchannels : t.channels = s.channels) (hcallbacks : t.callbacks = s.callbacks)
    (htimer : t.reconnectTimer = s.reconnectTimer) (hbuffer : t.sendBuffer = s.sendBuffer)
    (hrejoin : t.config.rejoinAfter = s.config.rejoinAfter)
    (hreconnect : t.config.reconnectAfter = s.config.reconnectAfter)
    (hexchange : t.exchange = s.exchange) (houtside : t.outside = s.outside) : Uneventful s t where
  channel hc := ⟨_, hchannels ▸ hc, .refl _⟩
  gone hc := hchannels ▸ hc
  callbacks := hcallbacks ▸ ⟨id, id⟩
  reconnectTimer := htimer
  sendBuffer := hbuffer
  rejoinAfter := hrejoin
  reconnectAfter := hreconnect
  evolves _ := hexchange ▸ .refl _
  silent _ := houtside ▸ rfl

/-- Only the exchange and the surroundings have changed. -/
theorem uneventful_asked {x : Exchange} {o : ω} (h : Obliging ω → s.exchange.Evolves x)
    (hsilent : ∀ {α : Type} {ear : ω → α}, HearsMailOnly ear → ear o = ear s.outside) :
    Uneventful s { s with exchange := x, outside := o } :=
  { Uneventful.refl s with evolves := h, silent := hsilent }

theorem uneventful_exchange {x : Exchange} (h : s.exchange.Evolves x) :
    Uneventful s { s with exchange := x } := { Uneventful.refl s with evolves := fun _ => h }

theorem uneventful_draws {x : Exchange} (h : s.exchange.Draws x) :
    Uneventful s { s with exchange := x } := uneventful_exchange h.evolves

theorem uneventful_arm (s : Socket ω) (delay : Nat) (event : TimerEvent) :
    Uneventful s (s.arm delay event) := uneventful_draws (.arm _ delay event)

theorem uneventful_detach (s : Socket ω) (t : TransportId) : Uneventful s (s.detach t) :=
  uneventful_exchange (.of_eq rfl rfl rfl rfl)

/-- An effect that has nothing to do with messages happens. -/
theorem uneventful_perform (s : Socket ω) {e : Effect} (he : e.isPostal = false) :
    Uneventful s (s.perform e) :=
  uneventful_asked (fun hω => (hω.perform e s.exchange s.outside).evolves) fun hear => hear.perform he

theorem uneventful_performAll (s : Socket ω) {es : List Effect} (hes : ∀ e ∈ es, e.isPostal = false) :
    Uneventful s (s.performAll es) := by
  induction es generalizing s with
  | nil => exact .refl s
  | cons e es ih =>
    obtain ⟨he, hrest⟩ := List.forall_mem_cons.mp hes
    exact (uneventful_perform s he).trans (ih (s.perform e) hrest)

/-- So do such effects for all entries of a list. -/
theorem uneventful_performEach {α : Type} (s : Socket ω) (l : List α) {f : α → Effect}
    (hf : ∀ a, (f a).isPostal = false) : Uneventful s (s.performAll (l.map f)) :=
  uneventful_performAll s (List.forall_mem_map.mpr fun a _ => hf a)

theorem uneventful_runError (s : Socket ω) (callback : CallbackId) (failure : SocketError)
    (context : ErrorContext) : Uneventful s (s.runError callback failure context).2 :=
  uneventful_asked (fun hω => (hω.runError callback failure context s.exchange s.outside).evolves)
    fun hear => hear.runError

theorem uneventful_report (s : Socket ω) (failure : SocketError) :
    Uneventful s (s.report failure) := by
  have hrun : ∀ (registry : Registry OnError) (context : ErrorContext) (s : Socket ω),
      Uneventful s (runErrors failure registry context s) := by
    intro registry
    induction registry with
    | nil => exact fun _ s => .refl s
    | cons entry rest ih =>
      intro context s
      obtain ⟨ref, callback | channel⟩ := entry
      · exact (uneventful_runError s callback failure context).trans (ih _ _)
      · exact ih context s
  exact hrun _ _ s

theorem uneventful_pruneRetired (s : Socket ω) : Uneventful s s.pruneRetired := by
  refine .trans ?_ (uneventful_performEach _ _ fun _ => rfl)
  exact uneventful_of_eq rfl rfl rfl rfl rfl rfl rfl rfl

theorem uneventful_without (s : Socket ω) (refs : List Ref) :
    Uneventful s { s with callbacks := s.callbacks.without refs } :=
  { Uneventful.refl s with callbacks := ⟨Registry.find?_of_without, Registry.find?_of_without⟩ }

theorem uneventful_off (s : Socket ω) (refs : List Ref) : Uneventful s (s.off refs) :=
  (uneventful_without s refs).trans (uneventful_performEach _ _ fun _ => rfl)

/-- A channel changes in parts that do not matter. -/
theorem uneventful_modifyChannel {f : Channel → Channel}
    (hf : ∀ ch, s.channels.get? c = some ch → ch.Uneventful (f ch)) :
    Uneventful s (s.modifyChannel c f) := by
  refine { Uneventful.refl s with channel := fun {d ch'} hd => ?_, gone := fun {d} hd => ?_ } <;>
    simp only [modifyChannel, Table.get?_modify] at hd
  · split at hd
    · rename_i heq
      obtain ⟨ch, hc, rfl⟩ := Option.map_eq_some_iff.mp hd
      exact ⟨ch, heq ▸ hc, hf ch hc⟩
    · exact ⟨ch', hd, .refl ch'⟩
  · split at hd
    · rename_i heq
      exact heq ▸ Option.map_eq_none_iff.mp hd
    · exact hd

theorem uneventful_modifyPush {f : Push → Push} (hf : ∀ q, (f q).ref = q.ref) :
    Uneventful s (s.modifyPush c p f) :=
  uneventful_modifyChannel fun _ _ => Channel.uneventful_modifyPush hf

theorem uneventful_markErrored (s : Socket ω) (c : ChannelId) : Uneventful s (s.markErrored c) :=
  uneventful_modifyChannel fun _ _ => ⟨rfl, rfl, .inr (.inl rfl)⟩

theorem uneventful_discardAll (s : Socket ω) (tickets : List Ticket) :
    Uneventful s (s.discardAll tickets) := uneventful_performEach s _ fun _ => rfl

/-! ### Sending -/

theorem toiled_modifyChannel {f : Channel → Channel}
    (hf : ∀ ch, s.channels.get? c = some ch → ch.Uneventful (f ch)) :
    Toiled s (s.modifyChannel c f) := (uneventful_modifyChannel hf).toiled

theorem toiled_modifyPush {f : Push → Push} (hf : ∀ q, (f q).ref = q.ref) :
    Toiled s (s.modifyPush c p f) := (uneventful_modifyPush hf).toiled

theorem toiled_perform (s : Socket ω) {e : Effect} (he : e.isPostal = false) :
    Toiled s (s.perform e) := (uneventful_perform s he).toiled

omit [Outside ω] in
/-- A push that is not there does not start to wait; numbers may have been drawn. -/
theorem startTimeout_of_none (h : s.push? c p = none) :
    ∃ x, s.startTimeout c p = { s with exchange := x } ∧ s.exchange.Evolves x := by
  have hdrew : s.exchange.Evolves s.drawRef.2.exchange := Exchange.evolves_drawRef _
  unfold startTimeout
  simp only
  split
  · exact ⟨_, rfl, hdrew⟩
  · have hnone : (s.drawRef.2.drawBinding c).2.push? c p = none := h
    rw [hnone]
    exact ⟨_, rfl, hdrew.trans (Exchange.Draws.binding _ c).evolves⟩

omit [Outside ω] in
/-- A push takes the ref that is drawn next. -/
theorem startTimeout_of_some (hc : s.channels.get? c = some ch) (hq : ch.pushes.get? p = some q) :
    ∃ n x, s.startTimeout c p =
        { s with channels := s.channels.set c (ch.start p q s.exchange.drawRef.1 n), exchange := x } ∧
      s.exchange.drawRef.2.Evolves x := by
  have hcontains : s.drawRef.2.channels.contains c = true :=
    (Table.contains_iff _ _).mpr ⟨ch, hc⟩
  have hpush : (s.drawRef.2.drawBinding c).2.push? c p = some q := by
    have hc' : (s.drawRef.2.drawBinding c).2.channels.get? c = some ch := hc
    simp only [push?, hc', Option.bind_some, hq]
  have hbinding : s.drawRef.2.exchange.Evolves (s.drawRef.2.drawBinding c).2.exchange :=
    (Exchange.Draws.binding _ c).evolves
  simp only [startTimeout, hcontains, Bool.not_true, Bool.false_eq_true, if_false, hpush]
  refine ⟨(s.drawRef.2.drawBinding c).1,
    (s.drawRef.2.drawBinding c).2.exchange.arm q.timeout (.pushTimeout c p q.timer.arm.generation), ?_,
    hbinding.trans (.of_eq rfl rfl rfl rfl)⟩
  have hset : ∀ f : Channel → Channel, s.channels.modify c f = s.channels.set c (f ch) :=
    Table.modify_eq_set hc
  have hreset : ∀ (ch : Channel) (f : Channel → Channel),
      (s.channels.set c ch).modify c f = s.channels.set c (f ch) := fun ch f => by
    rw [Table.modify_eq_set (Table.get?_set_self _ _ _), Table.set_set]
  have hpushes : ∀ f : Push → Push, ch.pushes.modify p f = ch.pushes.set p (f q) :=
    Table.modify_eq_set hq
  simp only [armPush, modifyPush, modifyChannel, Socket.arm, drawBinding, drawRef, hset, hreset,
    Channel.modifyPush, hpushes, Table.modify_eq_set (Table.get?_set_self _ _ _), Table.set_set]
  rfl

omit [Outside ω] in
/-- To let a push wait changes its channel, and draws numbers. -/
theorem startTimeout_eq (s : Socket ω) (c : ChannelId) (p : PushId) : s.startTimeout c p = { s with
    channels := (s.startTimeout c p).channels, exchange := (s.startTimeout c p).exchange } := by
  cases hpush : s.push? c p with
  | none =>
    obtain ⟨x, heq, -⟩ := startTimeout_of_none hpush
    rw [heq]
  | some q =>
    obtain ⟨ch, hc, hq⟩ := Option.bind_eq_some_iff.mp hpush
    obtain ⟨n, x, heq, -⟩ := startTimeout_of_some hc hq
    rw [heq]

omit [Outside ω] in
/-- A push that starts to wait has a ref. -/
theorem ref_startTimeout (h : (s.startTimeout c p).push? c p = some q) : q.ref.isSome = true := by
  cases hpush : s.push? c p with
  | none =>
    obtain ⟨x, heq, -⟩ := startTimeout_of_none hpush
    rw [heq] at h
    exact absurd (hpush.symm.trans h) (by simp)
  | some q₀ =>
    obtain ⟨ch, hc, hq⟩ := Option.bind_eq_some_iff.mp hpush
    obtain ⟨n, x, heq, -⟩ := startTimeout_of_some hc hq
    rw [heq] at h
    simp only [push?, Table.get?_set_self, Option.bind_some, Channel.start_pushes,
      Option.some.injEq] at h
    rw [← h]
    rfl

theorem toiled_pushMessage (s : Socket ω) {sender : Sender} {m : Message}
    (own : ∀ {c p}, sender = .push c p → m.ref.isSome ∧ (s.push? c p).bind Push.ref = m.ref) :
    Toiled s (s.pushMessage sender m) := by
  by_cases hconnected : (s.perform (.accept sender m)).isConnected = true
  · exact (Toil.sends s own hconnected).toiled
  · exact (Toil.keeps s own hconnected).toiled

theorem toiled_signOfLife (s : Socket ω) (m : Message) : Toiled s (s.pushMessage .socket m) :=
  toiled_pushMessage s (by simp)

/-- A push that has a ref is handed to the socket. -/
theorem toiled_dispatchPush (h : ∀ q, s.push? c p = some q → q.ref.isSome = true) :
    Toiled s (s.dispatchPush c p) := by
  unfold dispatchPush
  split
  · exact .refl s
  · rename_i ch hc
    rcases hres : ch.params.resolve with ⟨value, params⟩
    have hparams : Uneventful s (s.modifyChannel c fun ch => { ch with params := params }) :=
      uneventful_modifyChannel fun _ _ => ⟨rfl, rfl, .inl rfl⟩
    dsimp only
    split
    · exact hparams.toiled
    · rename_i q hq
      have hsent := hparams.trans (uneventful_modifyPush (c := c) (p := p)
        (f := fun q => { q with sent := true }) fun _ => rfl)
      refine hsent.toiled.trans (toiled_pushMessage _ fun {d p'} heq => ?_)
      cases heq
      have hhas : q.ref.isSome = true := h q (by simp only [push?, hc, Option.bind_some, hq])
      refine ⟨hhas, ?_⟩
      simp [push?, modifyPush, modifyChannel, Channel.modifyPush, Table.get?_modify_self, hc, hq]

theorem toiled_startTimeout (s : Socket ω) (c : ChannelId) (p : PushId) :
    Toiled s (s.startTimeout c p) := (Toil.starts s c p).toiled

theorem toiled_sendPush (s : Socket ω) (c : ChannelId) (p : PushId) :
    Toiled s (s.sendPush c p) := by
  unfold sendPush
  split
  · exact .refl s
  · split
    · exact .refl s
    · exact (toiled_startTimeout s c p).trans (toiled_dispatchPush fun _ => ref_startTimeout)

theorem toiled_releasePush (s : Socket ω) (c : ChannelId) (p : PushId) :
    Toiled s (s.releasePush c p) := by
  unfold releasePush
  split
  · exact .refl s
  · rename_i hp
    split
    · exact .refl s
    · split
      · rename_i q _ _
        refine (uneventful_modifyChannel fun ch _ => .trans ?_ (Channel.uneventful_dropBindings? _)).toiled
        refine ⟨rfl, ?_, .inl rfl⟩
        simp only [Channel.joinRef, Table.get?_erase_of_ne _ (Ne.symm hp)]
      · exact .refl s

theorem toiled_drawPush (s : Socket ω) (c : ChannelId) : Toiled s (s.drawPush c).2 :=
  (uneventful_draws (.push _ c)).toiled

theorem toiled_resendPush (s : Socket ω) (c : ChannelId) (timeout : Nat) :
    Toiled s (s.resendPush c joinPush timeout) := by
  have htimed : Toiled s (s.modifyPush c joinPush fun q => { q with timeout := timeout }) :=
    toiled_modifyPush fun _ => rfl
  exact htimed.trans ((Toil.takesBack _ c).toiled.trans (toiled_sendPush _ c joinPush))

theorem toiled_scheduleRejoinIfConnected (h : ∀ ch, s.channels.get? c = some ch → ch.state = .errored) :
    Toiled s (s.scheduleRejoinIfConnected c) := by
  unfold scheduleRejoinIfConnected
  split
  · cases hc : s.channels.get? c with
    | none =>
      simp only [scheduleRejoin, hc]
      exact .refl s
    | some ch => exact (Toil.schedules hc (h ch hc)).toiled
  · exact .refl s

omit [Outside ω] in
/-- A channel that was marked has failed. -/
theorem errored_markErrored {s : Socket ω} (h : (s.markErrored c).channels.get? c = some ch) :
    ch.state = .errored := by
  simp only [markErrored, modifyChannel, Table.get?_modify_self] at h
  obtain ⟨ch₀, -, rfl⟩ := Option.map_eq_some_iff.mp h
  rfl

/-! ### A channel closes or fails -/

theorem toiled_eraseChannel (s : Socket ω) (c : ChannelId) : Toiled s (s.eraseChannel c) := by
  unfold eraseChannel
  split
  · exact .refl s
  · exact (Toil.erases s c).toiled.trans (uneventful_discardAll _ _).toiled

theorem toiled_dropChannel (s : Socket ω) (c : ChannelId) : Toiled s (s.dropChannel c) := by
  unfold dropChannel
  split
  · exact toiled_modifyChannel fun _ _ => ⟨rfl, rfl, .inl rfl⟩
  · exact toiled_eraseChannel s c

theorem toiled_closeChannel (s : Socket ω) (c : ChannelId) : Toiled s (s.closeChannel c) := by
  have hremove : ∀ s : Socket ω, Toiled s (s.removeChannel c) := by
    intro s
    unfold removeChannel
    split
    · exact .refl s
    · rename_i ch _
      have hstruck : Uneventful s { s.off ch.socketRefs with
          order := (s.off ch.socketRefs).order.filter (· ≠ c) } :=
        (uneventful_off s ch.socketRefs).trans (uneventful_of_eq rfl rfl rfl rfl rfl rfl rfl rfl)
      dsimp only
      split
      · exact hstruck.toiled.trans (toiled_eraseChannel _ c)
      · exact hstruck.toiled
  unfold closeChannel
  refine .trans ?_ (hremove _)
  cases hc : s.channels.get? c with
  | none => exact (uneventful_modifyChannel fun ch hch => absurd (hc.symm.trans hch) (by simp)).toiled
  | some ch => exact (Toil.closes hc).toiled

theorem toiled_failChannel (s : Socket ω) (c : ChannelId) : Toiled s (s.failChannel c) := by
  unfold failChannel
  split
  · exact .refl s
  · dsimp only
    refine .trans ?_ (toiled_scheduleRejoinIfConnected fun _ => errored_markErrored)
    refine .trans ?_ (uneventful_markErrored _ c).toiled
    split
    · exact (Toil.takesBack s c).toiled
    · exact .refl s

/-! ### Replies -/

theorem toiled_acceptJoin (s : Socket ω) (c : ChannelId) : Toiled s (s.acceptJoin c) := by
  unfold acceptJoin
  split
  · exact .refl s
  · rename_i ch hc
    exact (Toil.joins hc).toiled.trans (toiled_foldl (fun p s => toiled_sendPush s c p) _ _)

theorem toiled_abandonJoin (s : Socket ω) (c : ChannelId) : Toiled s (s.abandonJoin c) := by
  unfold abandonJoin
  split
  · exact .refl s
  · rename_i ch _
    dsimp only
    refine .trans ?_ (toiled_scheduleRejoinIfConnected fun ch' hch' => ?_)
    · refine .trans ?_ (Toil.takesBack _ c).toiled
      refine .trans ?_ (uneventful_markErrored _ c).toiled
      refine .trans ?_ (toiled_sendPush _ c _)
      exact (toiled_drawPush s c).trans (Toil.inserts _ c _ rfl).toiled
    -- To take the join back does not change that the channel has failed.
    · unfold resetPush at hch'
      split at hch'
      · exact errored_markErrored hch'
      · simp only [modifyChannel, Table.get?_modify_self] at hch'
        obtain ⟨ch₀, hch₀, rfl⟩ := Option.map_eq_some_iff.mp hch'
        have herrored : ch₀.state = .errored := errored_markErrored hch₀
        exact (Channel.dropBindings?_state _).trans herrored

/-- All that a dispatch does is toils. -/
def Dispatch.IsToil (dispatch : Dispatch ω) : Prop :=
  ∀ c event payload ref joinRef s, Toiled s (dispatch c event payload ref joinRef s)

variable {dispatch : Dispatch ω}

theorem Dispatch.IsToil.react (h : dispatch.IsToil) (c : ChannelId) (reaction : Reaction)
    (s : Socket ω) : Toiled s (s.react dispatch c reaction) := by
  cases reaction with
  | joinOk => exact toiled_acceptJoin s c
  | joinError =>
    simp only [Socket.react]
    split
    · exact (uneventful_markErrored s c).toiled.trans
        (toiled_scheduleRejoinIfConnected fun _ => errored_markErrored)
    · exact .refl s
  | joinTimeout => exact toiled_abandonJoin s c
  | leaveDone => exact h c _ _ _ _ s

theorem Dispatch.IsToil.runReplyHook (h : dispatch.IsToil) (c : ChannelId) (p : PushId)
    (reply : Reply) (s : Socket ω) (index : Nat) :
    Toiled s (s.runReplyHook dispatch c p reply index) := by
  unfold Socket.runReplyHook
  split
  · exact .refl s
  · rename_i status hook _
    split
    · have hran : Toiled s (s.perform (.runReply c p hook reply)) := toiled_perform s rfl
      cases hook with
      | callback callback => exact hran
      | channel reaction => exact hran.trans (h.react c reaction _)
    · exact .refl s

theorem Dispatch.IsToil.resolvePush (h : dispatch.IsToil) (c : ChannelId) (p : PushId)
    (reply : Reply) (s : Socket ω) : Toiled s (s.resolvePush dispatch c p reply) := by
  have hsettle : ∀ push : Push, Uneventful s (s.settlePush c p push reply) := by
    intro push
    unfold settlePush
    refine .trans ?_ (uneventful_perform _ rfl)
    refine .trans ?_ (uneventful_modifyChannel fun _ _ => Channel.uneventful_dropBindings? _)
    refine .trans ?_ (uneventful_performEach _ _ fun _ => rfl)
    exact uneventful_modifyPush fun _ => rfl
  unfold Socket.resolvePush
  split
  · exact .refl s
  · rename_i push _
    refine .trans ((hsettle push).toiled.trans ?_) (toiled_releasePush _ c p)
    exact toiled_foldl (fun index s => h.runReplyHook c p reply s index) _ _

/-! ### Events -/

theorem Dispatch.IsToil.runTarget (h : dispatch.IsToil) (c : ChannelId) (event : InboundEvent)
    (target : Target) (s : Socket ω) : Toiled s (s.runTarget dispatch c event target) := by
  cases target with
  | listener l => cases l <;> exact toiled_perform s rfl
  | redirect =>
    simp only [Socket.runTarget, redirect]
    split
    · exact h c _ _ _ _ s
    · exact .refl s
  | resolve p =>
    simp only [Socket.runTarget]
    split
    · exact h.resolvePush c p _ s
    · exact .refl s
  | close => exact toiled_closeChannel s c
  | error => exact toiled_failChannel s c

theorem uneventful_passHook (s : Socket ω) (ch : Channel) (event : String) (payload : Payload)
    (ref : Option Ref) : Uneventful s (s.passHook ch event payload ref).2 := by
  unfold passHook
  split
  · exact .refl s
  · rename_i callback _
    have hran : Uneventful s { s with
        exchange := (Outside.hook callback event payload ref s.exchange s.outside).2.1
        outside := (Outside.hook callback event payload ref s.exchange s.outside).2.2 } :=
      uneventful_asked (fun hω => (hω.hook callback event payload ref s.exchange s.outside).evolves)
        fun hear => hear.hook
    dsimp only
    split
    · exact hran
    · split
      · exact hran.trans (uneventful_report _ _)
      · exact hran

theorem Dispatch.IsToil.dispatchWith (h : dispatch.IsToil) :
    Dispatch.IsToil (dispatchWith dispatch) := by
  intro c event payload ref joinRef s
  unfold Socket.dispatchWith
  split
  · exact .refl s
  · rename_i ch _
    have hpass : Uneventful s (s.passHook ch event payload ref).2 :=
      uneventful_passHook s ch event payload ref
    split
    · rename_i heq
      rw [heq] at hpass
      exact hpass.toiled
    · rename_i heq
      rw [heq] at hpass
      refine hpass.toiled.trans ?_
      unfold runBindings
      split
      · exact .refl _
      · refine toiled_foldl (fun number s => ?_) _ _
        unfold runBinding
        split
        · exact h.runTarget c _ _ s
        · exact .refl s

theorem isToil_dispatchTo (n : Nat) : Dispatch.IsToil (dispatchTo (ω := ω) n) := by
  induction n with
  | zero => exact fun _ _ _ _ _ s => .refl s
  | succ n ih => exact ih.dispatchWith

/-- All that happens because of an event of a channel is toils. -/
theorem toiled_trigger (s : Socket ω) (c : ChannelId) (event : String) (payload : Payload)
    (ref joinRef : Option Ref) : Toiled s (s.trigger c event payload ref joinRef) :=
  isToil_dispatchTo 3 c event payload ref joinRef s

theorem toiled_triggerErrors (s : Socket ω) : Toiled s s.triggerErrors := by
  refine toiled_foldl (fun c s => ?_) _ _
  split
  · split
    · exact toiled_trigger s _ _ _ _ _
    · exact .refl s
  · exact .refl s

theorem toiled_triggerPush (s : Socket ω) (c : ChannelId) (p : PushId) (status : String)
    (response : Payload) : Toiled s (s.triggerPush c p status response) := by
  unfold triggerPush
  split
  · exact toiled_trigger s _ _ _ _ _
  · exact .refl s

theorem toiled_pushTimeout (s : Socket ω) (c : ChannelId) (p : PushId) (generation : Nat) :
    Toiled s (s.pushTimeout c p generation) := by
  unfold pushTimeout
  split
  · exact .refl s
  · refine .trans ?_ (toiled_triggerPush _ c p _ _)
    exact toiled_modifyPush fun _ => rfl

/-! ### Handles -/

omit [Outside ω] in
/-- One change of a channel after another is one change. -/
theorem modifyChannel_modifyChannel (s : Socket ω) (c : ChannelId) (f g : Channel → Channel) :
    (s.modifyChannel c f).modifyChannel c g = s.modifyChannel c fun ch => g (f ch) := by
  cases hc : s.channels.get? c with
  | none => simp only [modifyChannel, Table.modify_eq_self hc]
  | some ch =>
    simp only [modifyChannel, Table.modify_eq_set hc,
      Table.modify_eq_set (Table.get?_set_self _ _ _), Table.set_set]

theorem toiled_leave (s : Socket ω) (c : ChannelId) (p : PushId) (timeout : Nat) (detached : Bool) :
    Toiled s (s.leave c p timeout detached) := by
  unfold leave
  split
  · exact .refl s
  · rename_i hcontains
    obtain ⟨ch, hc⟩ := (Table.contains_iff _ _).mp (by simpa using hcontains)
    -- The channel leaves, and then the push is added.
    have hleaves := (Toil.leaves hc).toiled.trans
      (Toil.inserts _ c p (q := { Push.leave timeout with detached := detached }) rfl).toiled
    rw [modifyChannel_modifyChannel] at hleaves
    dsimp only
    split
    · exact hleaves.trans (toiled_sendPush _ c p)
    · exact (hleaves.trans (toiled_sendPush _ c p)).trans (toiled_triggerPush _ c p _ _)

/-- A join attempt may displace another channel of the topic. -/
theorem toiled_rejoin (s : Socket ω) (c : ChannelId) : Toiled s (s.rejoin c) := by
  have hdisplace : ∀ topic, Toiled s (s.leaveOpenTopic topic c) := by
    intro topic
    unfold leaveOpenTopic
    split
    · exact .refl s
    · split
      · exact .refl s
      · exact (toiled_drawPush s _).trans (toiled_leave _ _ _ _ _)
  unfold rejoin
  split
  · exact .refl s
  · rename_i ch _
    split
    · exact .refl s
    · refine (hdisplace ch.topic).trans ?_
      dsimp only
      split
      · exact .refl _
      · have hjoining : Uneventful (s.leaveOpenTopic ch.topic c)
            ((s.leaveOpenTopic ch.topic c).modifyChannel c fun ch => { ch with state := .joining }) :=
          uneventful_modifyChannel fun _ _ => ⟨rfl, rfl, .inr (.inr rfl)⟩
        exact hjoining.toiled.trans (toiled_resendPush _ c _)

theorem toiled_push (s : Socket ω) (c : ChannelId) (p : PushId) (event : String) (payload : Payload)
    (timeout : Nat) : Toiled s (s.push c p event payload timeout) := by
  unfold push
  split
  · exact .refl s
  · have hadded := (Toil.inserts s c p (q := .new event (.fixed payload) timeout) rfl).toiled
    dsimp only
    split
    · exact hadded.trans (toiled_sendPush _ c p)
    · refine .trans (hadded.trans (toiled_startTimeout _ c p)) ?_
      exact toiled_modifyChannel fun _ _ => ⟨rfl, rfl, .inl rfl⟩

theorem uneventful_tell (s : Socket ω) (c : ChannelId) (ticket : Ticket) (f : Channel → Answer) :
    Uneventful s (s.tell c ticket f) := by
  unfold tell
  split <;> exact uneventful_perform s rfl

/-- What the handle of a channel asks for is done in toils. -/
theorem toiled_channelOp (s : Socket ω) (c : ChannelId) (op : ChannelOp) :
    Toiled s (s.channelOp c op) := by
  unfold channelOp
  split
  · cases op with
    | join timeout =>
      refine .trans ?_ (toiled_rejoin _ c)
      exact toiled_modifyChannel fun _ _ => ⟨rfl, rfl, .inl rfl⟩
    | push p event payload timeout => exact toiled_push s c p event payload timeout
    | leave p timeout => exact toiled_leave s c p timeout false
    | bind binding event listener => exact toiled_modifyChannel fun _ _ => ⟨rfl, rfl, .inl rfl⟩
    | unbind event binding => exact toiled_modifyChannel fun _ _ => ⟨rfl, rfl, .inl rfl⟩
    | setHook hook => exact toiled_modifyChannel fun _ _ => ⟨rfl, rfl, .inl rfl⟩
    | receive p status callback =>
      simp only [applyOp, receive]
      split
      · exact .refl s
      · refine .trans ?_ (toiled_modifyPush fun _ => rfl)
        split
        · split
          · exact toiled_perform s rfl
          · exact .refl s
        · exact .refl s
    | awaitReply p ticket =>
      simp only [applyOp, awaitReply]
      split
      · exact toiled_perform s rfl
      · split
        · exact toiled_perform s rfl
        · exact toiled_modifyPush fun _ => rfl
    | release p =>
      simp only [applyOp, release]
      split
      · exact .refl s
      · refine .trans ?_ (toiled_releasePush _ c p)
        exact toiled_modifyPush fun _ => rfl
    | askState ticket => exact (uneventful_tell s c ticket _).toiled
    | askJoinRef ticket => exact (uneventful_tell s c ticket _).toiled
    | askRejoinTries ticket => exact (uneventful_tell s c ticket _).toiled
  · split
    · exact toiled_perform s rfl
    · exact .refl s

end Outside

end Socket

end Switchboard
