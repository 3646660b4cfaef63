import Switchboard.Proofs.Ledger
import Switchboard.Socket.Send

/-!
# Recorded surroundings

Surroundings that act on the exchange only as handles, transports and the clock do, together with a
record of what a socket has done about its pushes: the messages that it has accepted from them, their
replies, what has run because of a reply, and the answers to callers that waited for one.  A second
record holds what the socket has done to its transports.

Main definitions

* `Obliging`: the surroundings act on the exchange only by `Exchange.Acts`;
* `Recorded`, `Socket.log`, `Socket.dealings`: surroundings with records, and the records;
* `Socket.Turns`: the channels become others, the registry stays, and the record grows;
* `Socket.Quiet`, `Socket.Works`: nothing changes in the channels, or one of them changes.

Main results

* `Socket.quiet_perform`, `Socket.quiet_report`, `Socket.turns_pushMessage`, `Socket.quiet_flush`.
-/

set_option autoImplicit false

namespace Switchboard

/-! ### Surroundings -/

/-- All that surroundings do to an exchange is what handles, transports and the clock do. -/
class Obliging (ω : Type) [Outside ω] : Prop where
  perform : ∀ (e : Effect) (x : Exchange) (o : ω), x.Acts (Outside.perform e x o).1
  hook : ∀ (callback : CallbackId) (event : String) (payload : Payload) (ref : Option Ref)
    (x : Exchange) (o : ω), x.Acts (Outside.hook callback event payload ref x o).2.1
  runError : ∀ (callback : CallbackId) (failure : SocketError) (context : ErrorContext)
    (x : Exchange) (o : ω), x.Acts (Outside.runError callback failure context x o).2.1

/-- An effect that tells of a push. -/
def Effect.concernsPush : Effect → Bool
  | .accept (.push _ _) _ | .runReply .. | .resolve .. | .answer _ (.reply ..) => true
  | _ => false

/-- An effect that opens a transport, asks one to close, or gives one up. -/
def Effect.concernsTransport : Effect → Bool
  | .open _ | .close .. | .release _ => true
  | _ => false

/-- Surroundings with a record of the effects that tell of pushes, and one of those that open, close
or give up transports. -/
structure Recorded (ω : Type) where
  outside : ω
  record : List Effect
  transports : List Effect

instance {ω : Type} [Outside ω] : Outside (Recorded ω) where
  readyState r t := Outside.readyState r.outside t
  buffered r t := Outside.buffered r.outside t
  perform e x r :=
    let (x, o) := Outside.perform e x r.outside
    (x, ⟨o, r.record ++ [e].filter Effect.concernsPush,
      r.transports ++ [e].filter Effect.concernsTransport⟩)
  hook callback event payload ref x r :=
    let (result, x, o) := Outside.hook callback event payload ref x r.outside
    (result, x, ⟨o, r.record, r.transports⟩)
  runError callback failure context x r :=
    let (context, x, o) := Outside.runError callback failure context x r.outside
    (context, x, ⟨o, r.record, r.transports⟩)

namespace Socket

variable {ω : Type}

/-- What a socket has done about its pushes. -/
def log (s : Socket (Recorded ω)) : List Effect := s.outside.record

/-- What a socket has done to transports: it opened them, asked them to close, and gave them up. -/
def dealings (s : Socket (Recorded ω)) : List Effect := s.outside.transports

/-- The channels become others, the registry stays, and the record grows. -/
structure Turns (s t : Socket (Recorded ω)) (channels : Table Channel) (es : List Effect) :
    Prop where
  channels_eq : t.channels = channels
  order_eq : t.order = s.order
  evolves : s.exchange.Evolves t.exchange
  log_eq : t.log = s.log ++ es

/-- Channels, registry and record stay. -/
abbrev Quiet (s t : Socket (Recorded ω)) : Prop := Turns s t s.channels []

/-- One channel becomes another. -/
abbrev Works (c : ChannelId) (ch : Channel) (es : List Effect) (s t : Socket (Recorded ω)) : Prop :=
  Turns s t (s.channels.set c ch) es

variable {s t u : Socket (Recorded ω)} {c d : ChannelId} {ch ch' : Channel} {es es' : List Effect}

/-- Only parts that neither the channels nor the exchange nor the record know of have changed. -/
theorem Quiet.of_eq (hc : t.channels = s.channels) (ho : t.order = s.order)
    (hx : t.exchange = s.exchange) (hr : t.outside = s.outside) : Quiet s t :=
  ⟨hc, ho, hx ▸ .refl _, by simp [log, hr]⟩

@[refl] theorem Quiet.refl (s : Socket (Recorded ω)) : Quiet s s := .of_eq rfl rfl rfl rfl

theorem Turns.trans {channels channels' : Table Channel} (h : Turns s t channels es)
    (h' : Turns t u channels' es') : Turns s u channels' (es ++ es') where
  channels_eq := h'.channels_eq
  order_eq := h'.order_eq.trans h.order_eq
  evolves := h.evolves.trans h'.evolves
  log_eq := by rw [h'.log_eq, h.log_eq, List.append_assoc]

theorem Quiet.trans (h : Quiet s t) (h' : Quiet t u) : Quiet s u := by
  have := Turns.trans h h'
  rwa [h.channels_eq] at this

theorem Quiet.get? (h : Quiet s t) (c : ChannelId) : t.channels.get? c = s.channels.get? c := by
  rw [h.channels_eq]

theorem Quiet.push? (h : Quiet s t) (c : ChannelId) (p : PushId) : t.push? c p = s.push? c p := by
  simp only [Socket.push?, h.channels_eq]

theorem Works.get? (h : Works c ch es s t) : t.channels.get? c = some ch := by
  rw [h.channels_eq, Table.get?_set_self]

theorem Works.get?_of_ne (h : Works c ch es s t) (hd : d ≠ c) :
    t.channels.get? d = s.channels.get? d := by
  rw [h.channels_eq, Table.get?_set_of_ne _ hd]

/-- A channel that stays is a channel that becomes itself. -/
theorem Turns.works (h : Turns s t s.channels es) (hc : s.channels.get? c = some ch) :
    Works c ch es s t := by
  unfold Works
  rw [Table.set_get? hc]
  exact h

theorem Quiet.works (h : Quiet s t) (hc : s.channels.get? c = some ch) : Works c ch [] s t :=
  Turns.works h hc

theorem Works.trans (h : Works c ch es s t) (h' : Works c ch' es' t u) :
    Works c ch' (es ++ es') s u := by
  have := Turns.trans h h'
  rwa [h.channels_eq, Table.set_set] at this

theorem Works.quiet (h : Works c ch es s t) (h' : Quiet t u) : Works c ch es s u := by
  have := Turns.trans h h'
  rwa [h.channels_eq, List.append_nil] at this

theorem Quiet.then_works (h : Quiet s t) (h' : Works c ch es t u) : Works c ch es s u := by
  have := Turns.trans h h'
  rwa [h.channels_eq, List.nil_append] at this

/-- The record grows after a channel has changed. -/
theorem Works.then_turns (h : Works c ch es s t) (h' : Turns t u t.channels es') :
    Works c ch (es ++ es') s u := by
  have := Turns.trans h h'
  rwa [h.channels_eq] at this

/-- A channel is changed in its place. -/
theorem works_modifyChannel (h : s.channels.get? c = some ch) (f : Channel → Channel) :
    Works c (f ch) [] s (s.modifyChannel c f) :=
  ⟨Table.modify_eq_set h f, rfl, .refl _, (List.append_nil _).symm⟩

theorem works_modifyPush {p : PushId} {push : Push} (h : s.channels.get? c = some ch)
    (hp : ch.pushes.get? p = some push) (f : Push → Push) :
    Works c { ch with pushes := ch.pushes.set p (f push) } [] s (s.modifyPush c p f) := by
  have := works_modifyChannel h fun ch => ch.modifyPush p f
  rwa [show ch.modifyPush p f = { ch with pushes := ch.pushes.set p (f push) } by
    simp [Channel.modifyPush, Table.modify_eq_set hp]] at this

theorem push?_eq_some {p : PushId} {push : Push} :
    s.push? c p = some push ↔ ∃ ch, s.channels.get? c = some ch ∧ ch.pushes.get? p = some push := by
  simp [Socket.push?, Option.bind_eq_some_iff]

/-- There is no push to change. -/
theorem modifyPush_eq_self {p : PushId} (h : s.push? c p = none) (f : Push → Push) :
    s.modifyPush c p f = s := by
  simp only [modifyPush, modifyChannel]
  cases hc : s.channels.get? c with
  | none => rw [Table.modify_eq_self hc]
  | some ch =>
    have hp : ch.pushes.get? p = none := by
      simpa only [Socket.push?, hc, Option.bind_some] using h
    rw [Table.modify_eq_set hc, Channel.modifyPush, Table.modify_eq_self hp, Table.set_get? hc]

/-! ### The exchange -/

theorem quiet_drawRef (s : Socket (Recorded ω)) : Quiet s s.drawRef.2 :=
  ⟨rfl, rfl, Exchange.evolves_drawRef _, (List.append_nil _).symm⟩

theorem quiet_drawBinding (s : Socket (Recorded ω)) (hc : c < s.exchange.lines.length) :
    Quiet s (s.drawBinding c).2 :=
  ⟨rfl, rfl, Exchange.evolves_drawBinding _ hc, (List.append_nil _).symm⟩

theorem quiet_drawPush (s : Socket (Recorded ω)) (hc : c < s.exchange.lines.length) :
    Quiet s (s.drawPush c).2 :=
  ⟨rfl, rfl, Exchange.evolves_drawPush _ hc, (List.append_nil _).symm⟩

theorem quiet_arm (s : Socket (Recorded ω)) (delay : Nat) (event : TimerEvent) :
    Quiet s (s.arm delay event) :=
  ⟨rfl, rfl, (Exchange.Act.pass ..).evolves, (List.append_nil _).symm⟩

theorem quiet_detach (s : Socket (Recorded ω)) (t : TransportId) : Quiet s (s.detach t) :=
  ⟨rfl, rfl, (Exchange.Act.pass ..).evolves, (List.append_nil _).symm⟩

/-! ### Effects -/

section Effects

variable [Outside ω] [Obliging ω]

theorem turns_perform (s : Socket (Recorded ω)) (e : Effect) :
    Turns s (s.perform e) s.channels ([e].filter Effect.concernsPush) :=
  ⟨rfl, rfl, (Obliging.perform e s.exchange s.outside.outside).evolves, rfl⟩

theorem turns_performAll (s : Socket (Recorded ω)) (es : List Effect) :
    Turns s (s.performAll es) s.channels (es.filter Effect.concernsPush) := by
  induction es generalizing s with
  | nil => exact Quiet.refl s
  | cons e es ih =>
    have := (turns_perform s e).trans (ih (s.perform e))
    rwa [← List.filter_append] at this

theorem quiet_perform (s : Socket (Recorded ω)) {e : Effect} (he : e.concernsPush = false) :
    Quiet s (s.perform e) := by
  have := turns_perform s e
  rwa [List.filter_singleton, he] at this

theorem quiet_performAll (s : Socket (Recorded ω)) {es : List Effect}
    (hes : ∀ e ∈ es, e.concernsPush = false) : Quiet s (s.performAll es) := by
  have := turns_performAll s es
  rwa [List.filter_eq_nil_iff.mpr (by simpa using hes)] at this

theorem quiet_runError (s : Socket (Recorded ω)) (callback : CallbackId) (failure : SocketError)
    (context : ErrorContext) : Quiet s (s.runError callback failure context).2 :=
  ⟨rfl, rfl, (Obliging.runError callback failure context s.exchange s.outside.outside).evolves,
    (List.append_nil _).symm⟩

theorem quiet_runErrors (failure : SocketError) (registry : Registry OnError)
    (context : ErrorContext) (s : Socket (Recorded ω)) :
    Quiet s (runErrors failure registry context s) := by
  induction registry generalizing context s with
  | nil => exact .refl s
  | cons entry rest ih =>
    obtain ⟨ref, callback | channel⟩ := entry
    · exact (quiet_runError s callback failure context).trans (ih _ _)
    · exact ih context s

theorem quiet_report (s : Socket (Recorded ω)) (failure : SocketError) :
    Quiet s (s.report failure) :=
  quiet_runErrors failure s.callbacks.onError s.errorContext s

theorem quiet_transmit (s : Socket (Recorded ω)) (m : Message) : Quiet s (s.transmit m) := by
  unfold transmit
  split
  · exact .refl s
  · split
    · exact quiet_perform s rfl
    · exact quiet_report s _

/-- The record has the messages of pushes only. -/
theorem turns_pushMessage (s : Socket (Recorded ω)) (sender : Sender) (m : Message) :
    Turns s (s.pushMessage sender m) s.channels
      ([Effect.accept sender m].filter Effect.concernsPush) := by
  have h := turns_perform s (.accept sender m)
  simp only [pushMessage]
  split
  · have := h.trans (quiet_transmit (s.perform (.accept sender m)) m)
    rwa [h.channels_eq, List.append_nil] at this
  · exact ⟨h.channels_eq, h.order_eq, h.evolves, h.log_eq⟩

theorem quiet_transmitAll (s : Socket (Recorded ω)) (ms : List Message) :
    Quiet s (ms.foldl transmit s) := by
  induction ms generalizing s with
  | nil => exact .refl s
  | cons m ms ih => exact (quiet_transmit s m).trans (ih _)

theorem quiet_flush (s : Socket (Recorded ω)) : Quiet s s.flush := by
  unfold flush
  split
  · exact .refl s
  · refine Quiet.trans ?_ (quiet_transmitAll _ _)
    exact .of_eq rfl rfl rfl rfl

theorem quiet_off (s : Socket (Recorded ω)) (refs : List Ref) : Quiet s (s.off refs) := by
  refine Quiet.trans ?_ (quiet_performAll _ (by simp [Effect.concernsPush]))
  exact .of_eq rfl rfl rfl rfl

theorem quiet_discardAll (s : Socket (Recorded ω)) (tickets : List Ticket) :
    Quiet s (s.performAll (tickets.map .discard)) :=
  quiet_performAll s (by simp [Effect.concernsPush])

theorem quiet_pruneRetired (s : Socket (Recorded ω)) : Quiet s s.pruneRetired := by
  refine Quiet.trans ?_ (quiet_performAll _ ?_)
  · exact .of_eq rfl rfl rfl rfl
  · intro e he
    obtain ⟨conn, _, rfl⟩ := List.mem_map.mp he
    rfl

end Effects

end Socket

end Switchboard
