import Switchboard.Proofs.Record
import Switchboard.Proofs.Shape
import Switchboard.Channel.Operation

/-!
# Moves of a channel

Whatever a socket does to a channel is a sequence of moves, each of which changes the channel as a
whole and adds to the record what the socket lets be known of it.  A move says why it was made: a
message had come, the connection had failed, a handle had asked for it, or the channel itself answers
a push.

Main definitions

* `Prompt`, `Prompt.Answers`: why a move is made, and whether that is an answer to a push;
* `Socket.Alter`, `Socket.Flush`, `Socket.Closes`, `Socket.Move`: moves that leave every other
  channel alone;
* `Socket.Rough`: moves, and the parts of joining and leaving;
* `Socket.Sound`: what holds of a socket at all times.

Main results

* `Socket.Rough.sound`: each move keeps a socket sound;
* `Socket.Rough.frame`: what a move leaves as it is.
-/

set_option autoImplicit false

namespace Switchboard

/-! ### Prompts -/

/-- Why a channel changes. -/
inductive Prompt where
  | op (op : ChannelOp)
  | message (m : Message)
  | failure
  /-- The channel itself answers the push that has a ref. -/
  | reply (ref : Ref) (payload : Payload)

/-- A prompt gives a push its reply; a message hook may have put another payload in its place. -/
def Prompt.Answers (k : Prompt) (registered : Prop) (ch : Channel) (q : Push) (reply : Reply) :
    Prop :=
  match k with
  | .message m => registered ∧ (ch.hook = none → m.payload.reply? = some reply) ∧
      ∃ r, q.ref = some r ∧ (m.event = Event.replyTo r ∨ m.event = Event.reply ∧ m.ref = some r)
  | .reply ref payload => q.ref = some ref ∧ (ch.hook = none → payload.reply? = some reply)
  | .op _ | .failure => False

/-- A reply has one of the statuses that a channel knows of its join. -/
def Reply.IsJoinReply (reply : Reply) : Prop :=
  reply.status = Status.ok ∨ reply.status = Status.error ∨ reply.status = Status.timeout

/-- What is recorded when a push is resolved. -/
def settled (c : ChannelId) (p : PushId) (q : Push) (reply : Reply) : List Effect :=
  (q.waiters.map fun ticket => .answer ticket (.reply c p reply)) ++ [.resolve c p q.ref reply]

/-- What may be recorded of a push because of the reply that it has already. -/
inductive Channel.Notes (c : ChannelId) (ch : Channel) : Effect → Prop
  | hook {p : PushId} {hook : ReplyHook} {reply : Reply}
    (received : p = joinPush ∨ ∃ q, ch.pushes.get? p = some q ∧ q.received = some reply ∧
      (reply.status, hook) ∈ q.hooks) : ch.Notes c (.runReply c p hook reply)
  | answer {p : PushId} {q : Push} {ticket : Ticket} {reply : Reply}
    (push : ch.pushes.get? p = some q) (received : q.received = some reply) :
    ch.Notes c (.answer ticket (.reply c p reply))

/-- Between two exchanges a ref and the number of a binding were drawn. -/
structure Exchange.Fresh (x y : Exchange) (c : ChannelId) (r : Ref) (n : BindingId) : Prop where
  drew : y.Drew r
  not_drew : y.drawn < 2 ^ 64 → ¬ x.Drew r
  spent : y.Spent (.bindings c) n
  not_spent : ¬ x.Spent (.bindings c) n

theorem Exchange.Fresh.mono {x y z : Exchange} {c : ChannelId} {r : Ref} {n : BindingId}
    (h : x.Fresh y c r n) (hyz : y.Evolves z) : x.Fresh z c r n where
  drew := hyz.drew h.drew
  not_drew hb := h.not_drew (Nat.lt_of_le_of_lt hyz.drawn_le hb)
  spent := hyz.spent h.spent
  not_spent := h.not_spent

theorem Exchange.Fresh.of_evolves {w x y : Exchange} {c : ChannelId} {r : Ref} {n : BindingId}
    (h : x.Fresh y c r n) (hwx : w.Evolves x) : w.Fresh y c r n where
  drew := h.drew
  not_drew hb hr := h.not_drew hb (hwx.drew hr)
  spent := h.spent
  not_spent hn := h.not_spent (hwx.spent hn)

/-- The message by which a channel hands one of its pushes to the socket. -/
def Channel.handed (ch : Channel) (p : PushId) (event : String) (payload : Payload) : Message :=
  ⟨ch.joinRef, (ch.pushes.get? p).bind Push.ref, ch.topic, event, payload⟩

/-- A push is sent, or starts to wait for its reply. -/
def Channel.Starts (x y : Exchange) (c : ChannelId) (ch : Channel) (p : PushId) (ch' : Channel) :
    Prop :=
  ∃ q r n, ch.pushes.get? p = some q ∧ x.Fresh y c r n ∧ (ch.start p q r n).Alike ch'

theorem Channel.Starts.mono {w x y z : Exchange} {c : ChannelId} {ch ch' : Channel} {p : PushId}
    (h : ch.Starts x y c p ch') (hwx : w.Evolves x) (hyz : y.Evolves z) :
    ch.Starts w z c p ch' := by
  obtain ⟨q, r, n, hq, hfresh, ha⟩ := h
  exact ⟨q, r, n, hq, (hfresh.mono hyz).of_evolves hwx, ha⟩

namespace Socket

variable {ω : Type}

/-! ### Moves -/

/-- The changes of one channel that leave the registry alone. -/
inductive Alter (k : Prompt) (x y : Exchange) (registered : Prop) (c : ChannelId) (ch : Channel) :
    Channel → List Effect → Prop
  | alike {ch' : Channel} {es : List Effect} (same : ch.Alike ch')
    (notes : ∀ e ∈ es, ch'.Notes c e) : Alter k x y registered c ch ch' es
  | hooked {callback : CallbackId} (op : k = .op (.setHook callback)) :
    Alter k x y registered c ch { ch with hook := some callback } []
  | listen {n : BindingId} {event : String} {l : Listener} (op : k = .op (.bind n event l))
    (spent : y.Spent (.bindings c) n) (fresh : ∀ b ∈ ch.bindings, b.number ≠ n) :
    Alter k x y registered c ch (ch.bind event n (.listener l)) []
  | unbind {event : String} {number : Option BindingId} (op : k = .op (.unbind event number)) :
    Alter k x y registered c ch (ch.unbind event number) []
  /-- A user pushes; without a join the push is not handed over and waits in the buffer. -/
  | enlist {p : PushId} {event : String} {payload : Payload} {timeout : Nat} {ch' : Channel}
    {buffer : List PushId} {es : List Effect} (op : k = .op (.push p event payload timeout))
    (free : ch.pushes.get? p = none) (spent : y.Spent (.pushes c) p) (other : p ≠ joinPush)
    (starts : (ch.insert p (.new event (.fixed payload) timeout)).Starts x y c p ch')
    (waits : buffer = ch.buffer ∨ buffer = ch.buffer ++ [p])
    (accepts : es = [] ∨
      ch.state = .joined ∧ es = [.accept (.push c p) (ch'.handed p event payload)]) :
    Alter k x y registered c ch { ch' with buffer := buffer } es
  | settle {p : PushId} {q : Push} {timer : TimerSlot} {reply : Reply} (other : p ≠ joinPush)
    (push : ch.pushes.get? p = some q) (awaits : ch.Awaits p) (unarmed : timer.armed = false)
    (answers : k.Answers registered ch q reply) :
    Alter k x y registered c ch (ch.settle p q timer reply) (settled c p q reply)
  | forget {p : PushId} {q : Push} (other : p ≠ joinPush) (push : ch.pushes.get? p = some q)
    (received : q.received.isSome = true) : Alter k x y registered c ch (ch.forget p q) []
  /-- A join has a reply of an unknown status. -/
  | unheard {q : Push} {timer : TimerSlot} {reply : Reply}
    (push : ch.pushes.get? joinPush = some q) (awaits : ch.Awaits joinPush)
    (unarmed : timer.armed = false) (answers : k.Answers registered ch q reply)
    (status : ¬ reply.IsJoinReply) :
    Alter k x y registered c ch (ch.settle joinPush q timer reply) (settled c joinPush q reply)
  | refused {q : Push} {timer : TimerSlot} {reply : Reply}
    (push : ch.pushes.get? joinPush = some q) (awaits : ch.Awaits joinPush)
    (unarmed : timer.armed = false) (answers : k.Answers registered ch q reply) :
    Alter k x y registered c ch { ch.settle joinPush q timer reply with state := .errored }
      (settled c joinPush q reply ++ [.runReply c joinPush (.channel .joinError) reply])
  /-- A join that was not answered in time is taken back, and a leave is sent. -/
  | abandoned {q q' : Push} {timer : TimerSlot} {reply : Reply} {p : PushId} {timeout : Nat}
    {m : Message} {ch' : Channel}
    (push : ch.pushes.get? joinPush = some q) (awaits : ch.Awaits joinPush)
    (unarmed : timer.armed = false) (answers : k.Answers registered ch q reply)
    (fresh : ¬ x.Spent (.pushes c) p) (free : ch.pushes.get? p = none)
    (spent : y.Spent (.pushes c) p) (other : p ≠ joinPush)
    (starts : ((ch.settle joinPush q timer reply).insert p
      { Push.bareLeave timeout with detached := true }).Starts x y c p ch')
    (push' : ch'.pushes.get? joinPush = some q') :
    Alter k x y registered c ch ({ ch' with state := .errored }.takeBack joinPush q')
      (settled c joinPush q reply ++ [.runReply c joinPush (.channel .joinTimeout) reply,
        .accept (.push c p) m])
  | failed {q : Push} (listed : registered) (push : ch.pushes.get? joinPush = some q) :
    Alter k x y registered c ch
      { (if ch.state = .joining then ch.takeBack joinPush q else ch) with state := .errored } []

/-- Pushes that waited for a join are sent, unless their time was over before. -/
inductive Flush (c : ChannelId) : List PushId → Socket (Recorded ω) → Socket (Recorded ω) → Prop
  | nil (s : Socket (Recorded ω)) : Flush c [] s s
  | pass {p : PushId} {ps : List PushId} {s u : Socket (Recorded ω)}
    (late : ∀ q, s.push? c p = some q → q.hasReceived Status.timeout = true)
    (rest : Flush c ps s u) : Flush c (p :: ps) s u
  | send {p : PushId} {ps : List PushId} {s t u : Socket (Recorded ω)} {ch ch' : Channel} {q : Push}
    {value : Json} (channel : s.channels.get? c = some ch) (push : ch.pushes.get? p = some q)
    (inTime : q.hasReceived Status.timeout = false)
    (starts : ch.Starts s.exchange t.exchange c p ch')
    (works : Works c ch' [.accept (.push c p) (ch'.handed p q.event (bodyOf q value))] s t)
    (rest : Flush c ps t u) :
    Flush c (p :: ps) s u

/-- A channel closes and leaves the registry; without a handle it is forgotten. -/
structure Closes (c : ChannelId) (ch : Channel) (s t : Socket (Recorded ω)) : Prop where
  channels_eq : t.channels = if ch.orphaned then s.channels.erase c else
    s.channels.set c { ch with rejoinTimer := ch.rejoinTimer.reset, state := .closed }
  order_eq : t.order = s.order.filter (· ≠ c)
  evolves : s.exchange.Evolves t.exchange
  log_eq : t.log = s.log

/-- The moves of one channel. -/
inductive Move (k : Prompt) (c : ChannelId) : Socket (Recorded ω) → Socket (Recorded ω) → Prop
  | quiet {s t : Socket (Recorded ω)} (quiet : Quiet s t) : Move k c s t
  | alter {s t : Socket (Recorded ω)} {ch ch' : Channel} {es : List Effect}
    (channel : s.channels.get? c = some ch)
    (alter : Alter k s.exchange t.exchange (c ∈ s.order) c ch ch' es)
    (works : Works c ch' es s t) : Move k c s t
  | accepted {s t u : Socket (Recorded ω)} {ch : Channel} {q : Push} {timer : TimerSlot}
    {reply : Reply} (channel : s.channels.get? c = some ch)
    (push : ch.pushes.get? joinPush = some q) (awaits : ch.Awaits joinPush)
    (unarmed : timer.armed = false) (answers : k.Answers (c ∈ s.order) ch q reply)
    (status : reply.status = Status.ok) (works : Works c
      { ch.settle joinPush q timer reply with
        state := .joined
        rejoinTimer := ch.rejoinTimer.reset
        buffer := [] }
      (settled c joinPush q reply ++ [.runReply c joinPush (.channel .joinOk) reply]) s t)
    (flush : Flush c ch.buffer t u) : Move k c s u
  | closed {s t : Socket (Recorded ω)} {ch : Channel} (channel : s.channels.get? c = some ch)
    (closes : Closes c ch s t) : Move k c s t

/-- Moves of one channel. -/
abbrev Moves (k : Prompt) (c : ChannelId) :
    Socket (Recorded ω) → Socket (Recorded ω) → Prop := Relation.ReflTransGen (Move k c)

/-- A channel that is about to leave. -/
def departing (ch : Channel) (join : Push) : Channel :=
  { ch with
    rejoinTimer := ch.rejoinTimer.reset
    state := .leaving
    pushes := ch.pushes.set joinPush { join with timer := join.timer.cancel } }

/-- Moves, and the parts of joining, leaving and timing out between which a hook may interfere. -/
inductive Rough (k : Prompt) (c : ChannelId) : Socket (Recorded ω) → Socket (Recorded ω) → Prop
  | move {s t : Socket (Recorded ω)} (move : Move k c s t) : Rough k c s t
  | lapse {s t : Socket (Recorded ω)} {ch : Channel} {p : PushId} {q : Push}
    (channel : s.channels.get? c = some ch) (push : ch.pushes.get? p = some q)
    (works : Works c { ch with pushes := ch.pushes.set p { q with timer := q.timer.cancel } } []
      s t) : Rough k c s t
  | departs {s t : Socket (Recorded ω)} {ch ch' : Channel} {join : Push} {p : PushId}
    {timeout : Nat} {detached : Bool} {es : List Effect} (channel : s.channels.get? c = some ch)
    (push : ch.pushes.get? joinPush = some join) (free : ch.pushes.get? p = none)
    (spent : t.exchange.Spent (.pushes c) p) (other : p ≠ joinPush)
    (starts : ((departing ch join).insert p
      { Push.leave timeout with detached := detached }).Starts s.exchange t.exchange c p ch')
    (works : Works c ch' es s t) (accepts : ∀ e ∈ es, ∃ m, e = .accept (.push c p) m) :
    Rough k c s t
  | joins {s t : Socket (Recorded ω)} {ch ch' : Channel} {join : Push} {timeout : Nat}
    {value : Json} (channel : s.channels.get? c = some ch)
    (push : ch.pushes.get? joinPush = some join) (stays : ch.state ≠ .leaving)
    (starts : ({ ch with state := .joining }.takeBack joinPush
      { join with timeout := timeout }).Starts s.exchange t.exchange c joinPush ch')
    (works : Works c ch'
      [.accept (.push c joinPush) (ch'.handed joinPush join.event (bodyOf join value))] s t) :
    Rough k c s t

/-! ### Sound sockets -/

/-- The refs of the pushes of all channels are different as long as none came again. -/
def RefsApart (s : Socket (Recorded ω)) : Prop :=
  ∀ ⦃c d : ChannelId⦄ ⦃ch ch' : Channel⦄ ⦃p p' : PushId⦄ ⦃q q' : Push⦄ ⦃r : Ref⦄,
    s.channels.get? c = some ch → s.channels.get? d = some ch' →
    ch.pushes.get? p = some q → ch'.pushes.get? p' = some q' →
    q.ref = some r → q'.ref = some r → c = d ∧ p = p'

/-- What holds of a socket at all times. -/
structure Sound (s : Socket (Recorded ω)) : Prop where
  tidy : s.exchange.Tidy
  channels : ∀ {c ch}, s.channels.get? c = some ch → ch.Sound s.exchange c
  apart : s.exchange.drawn < 2 ^ 64 → s.RefsApart
  registered : ∀ c ∈ s.order, ∃ ch, s.channels.get? c = some ch
  nodup : s.order.Nodup

end Socket

/-! ### New pushes -/

/-- A push that was not sent, with nothing but users and the end of a leave waiting for it. -/
structure Push.IsNew (q : Push) : Prop where
  ref : q.ref = none
  refEvent : q.refEvent = none
  hooks : ∀ hook ∈ q.hooks, hook.2 = .channel .leaveDone ∨ IsCallback hook

theorem Push.isNew_new (event : String) (body : PushBody) (timeout : Nat) :
    (Push.new event body timeout).IsNew :=
  ⟨rfl, rfl, by simp [new]⟩

theorem Push.isNew_bareLeave (timeout : Nat) (detached : Bool) :
    { Push.bareLeave timeout with detached := detached }.IsNew :=
  ⟨rfl, rfl, by simp [bareLeave, new]⟩

theorem Push.isNew_leave (timeout : Nat) (detached : Bool) :
    { Push.leave timeout with detached := detached }.IsNew :=
  ⟨rfl, rfl, by simp [leave, bareLeave, new, onReply]⟩

/-! ### Refs -/

namespace Channel

/-- Each ref of a push was its ref before. -/
def RefsKept (ch ch' : Channel) : Prop :=
  ∀ ⦃p q r⦄, ch'.pushes.get? p = some q → q.ref = some r →
    ∃ q₀, ch.pushes.get? p = some q₀ ∧ q₀.ref = some r

/-- Each ref of a push was its ref before, or is fresh and the ref of no other push. -/
def RefsFrom (x y : Exchange) (ch ch' : Channel) : Prop :=
  y.drawn < 2 ^ 64 → ∀ ⦃p q r⦄, ch'.pushes.get? p = some q → q.ref = some r →
    (∃ q₀, ch.pushes.get? p = some q₀ ∧ q₀.ref = some r) ∨
      (¬ x.Drew r ∧ ∀ ⦃p' q'⦄, ch'.pushes.get? p' = some q' → q'.ref = some r → p' = p)

variable {x y : Exchange} {c : ChannelId} {ch ch' ch'' : Channel} {p : PushId} {q q' : Push}

theorem settle_pushes (timer : TimerSlot) (reply : Reply) :
    (ch.settle p q timer reply).pushes = ch.pushes.set p { q with
      timer := timer, received := some reply, waiters := [] } :=
  dropBindings?_pushes _

theorem takeBack_pushes : (ch.takeBack p q).pushes = ch.pushes.set p q.reset :=
  dropBindings?_pushes _

theorem forget_pushes : (ch.forget p q).pushes = ch.pushes.erase p := dropBindings?_pushes _

theorem start_pushes (r : Ref) (n : BindingId) :
    (ch.start p q r n).pushes = ch.pushes.set p { q with
      ref := some r, refEvent := some (Event.replyTo r), timer := q.timer.arm } :=
  dropBindings?_pushes _

theorem Alike.ref (h : ch.Alike ch') (p : PushId) :
    (ch'.pushes.get? p).bind Push.ref = (ch.pushes.get? p).bind Push.ref := by
  cases hq : ch.pushes.get? p with
  | none => rw [h.none hq]
  | some q =>
    obtain ⟨q', hq', hqq⟩ := h.some hq
    rw [hq', Option.bind_some, Option.bind_some, hqq.ref]

theorem Alike.handed (h : ch.Alike ch') (p : PushId) (event : String) (payload : Payload) :
    ch'.handed p event payload = ch.handed p event payload := by
  simp only [Channel.handed, joinRef, h.ref, h.topic]

theorem RefsKept.trans (h : ch.RefsKept ch') (h' : ch'.RefsKept ch'') : ch.RefsKept ch'' := by
  intro p q r hq hr
  obtain ⟨q', hq', hr'⟩ := h' hq hr
  exact h hq' hr'

theorem RefsKept.from (h : ch.RefsKept ch') : ch.RefsFrom x y ch' :=
  fun _ _ _ _ hq hr => .inl (h hq hr)

theorem RefsFrom.trans_kept (h : ch.RefsFrom x y ch') (h' : ch'.RefsKept ch'') :
    ch.RefsFrom x y ch'' := by
  intro hb p q r hq hr
  obtain ⟨q', hq', hr'⟩ := h' hq hr
  rcases h hb hq' hr' with hold | ⟨hnew, huniq⟩
  · exact .inl hold
  · refine .inr ⟨hnew, ?_⟩
    intro p' q'' hq'' hr''
    obtain ⟨q₃, hq₃, hr₃⟩ := h' hq'' hr''
    exact huniq hq₃ hr₃

theorem RefsKept.trans_from (h : ch.RefsKept ch') (h' : ch'.RefsFrom x y ch'') :
    ch.RefsFrom x y ch'' := by
  intro hb p q r hq hr
  rcases h' hb hq hr with ⟨q', hq', hr'⟩ | hnew
  · exact .inl (h hq' hr')
  · exact .inr hnew

theorem RefsKept.of_eq (h : ch'.pushes = ch.pushes) : ch.RefsKept ch' := by
  intro p q r hq hr
  exact ⟨q, h ▸ hq, hr⟩

theorem RefsKept.alike (h : ch.Alike ch') : ch.RefsKept ch' := by
  intro p q' r hq' hr
  cases hq : ch.pushes.get? p with
  | none => rw [h.none hq] at hq'; cases hq'
  | some q =>
    obtain ⟨q'', hq'', hqq⟩ := h.some hq
    rw [hq'] at hq''
    cases hq''
    exact ⟨q, rfl, hqq.ref ▸ hr⟩

theorem RefsKept.set (hp : ch'.pushes = ch.pushes.set p q') (hq : ch.pushes.get? p = some q)
    (hr : q'.ref = q.ref ∨ q'.ref = none) : ch.RefsKept ch' := by
  intro p' q'' r hq'' hr''
  rw [hp, Table.get?_set] at hq''
  split at hq''
  · rename_i heq
    cases hq''
    rcases hr with hr | hr
    · exact ⟨q, heq ▸ hq, hr ▸ hr''⟩
    · rw [hr] at hr''; cases hr''
  · exact ⟨q'', hq'', hr''⟩

theorem RefsKept.insert (hr : q.ref = none) : ch.RefsKept (ch.insert p q) := by
  intro p' q' r hq' hr'
  simp only [Channel.insert, Table.get?_set] at hq'
  split at hq'
  · cases hq'
    rw [hr] at hr'
    cases hr'
  · exact ⟨q', hq', hr'⟩

theorem RefsKept.forget : ch.RefsKept (ch.forget p q) := by
  intro p' q' r hq' hr'
  simp only [Channel.forget, dropBindings?_pushes, Table.get?_erase] at hq'
  split at hq'
  · cases hq'
  · exact ⟨q', hq', hr'⟩

theorem RefsKept.settle (hq : ch.pushes.get? p = some q) (timer : TimerSlot) (reply : Reply) :
    ch.RefsKept (ch.settle p q timer reply) :=
  RefsKept.set (settle_pushes timer reply) hq (.inl rfl)

theorem RefsKept.takeBack (hq : ch.pushes.get? p = some q) : ch.RefsKept (ch.takeBack p q) :=
  RefsKept.set takeBack_pushes hq (.inr rfl)

theorem Starts.refs (h : ch.Starts x y c p ch')
    (hd : ∀ {p q r}, ch.pushes.get? p = some q → q.ref = some r → x.Drew r) :
    ch.RefsFrom x y ch' := by
  obtain ⟨q, r, n, hq, hfresh, ha⟩ := h
  refine RefsFrom.trans_kept ?_ (RefsKept.alike ha)
  intro hb p' q' r' hq' hr'
  rw [start_pushes, Table.get?_set] at hq'
  split at hq'
  · rename_i heq
    cases hq'
    cases hr'
    refine .inr ⟨hfresh.not_drew hb, ?_⟩
    intro p'' q'' hq'' hr''
    rw [start_pushes, Table.get?_set] at hq''
    split at hq''
    · rename_i heq'
      rw [heq, heq']
    · exact absurd (hd hq'' hr'') (hfresh.not_drew hb)
  · exact .inl ⟨q', hq', hr'⟩

theorem Starts.sound (h : ch.Starts x y c p ch') (hs : ch.Sound y c)
    (hn : ∀ b ∈ ch.bindings, x.Spent (.bindings c) b.number) : ch'.Sound y c := by
  obtain ⟨q, r, n, hq, hfresh, ha⟩ := h
  refine (hs.start hq hfresh.drew hfresh.spent ?_).alike ha
  rintro b hb rfl
  exact hfresh.not_spent (hn b hb)

/-- A new push is added and starts to wait. -/
theorem Starts.sound_insert (h : (ch.insert p q).Starts x y c p ch') (hs : ch.Sound x c)
    (hxy : x.Evolves y) (hspent : y.Spent (.pushes c) p) (hfree : ch.pushes.get? p = none)
    (hq : q.IsNew) : ch'.Sound y c := by
  refine h.sound ((hs.mono hxy).insert hspent hfree ?_ ?_ hq.hooks) hs.numbers
  · rw [hq.ref, hq.refEvent, Option.map_none]
  · rw [hq.ref]
    simp

theorem Starts.refs_insert (h : (ch.insert p q).Starts x y c p ch') (hs : ch.Sound x c)
    (hq : q.IsNew) : ch.RefsFrom x y ch' := by
  have hkept : ch.RefsKept (ch.insert p q) := .insert hq.ref
  refine hkept.trans_from (h.refs ?_)
  intro p' q' r hq' hr'
  obtain ⟨q₀, hq₀, hr₀⟩ := hkept hq' hr'
  exact hs.drew hq₀ hr₀

end Channel

namespace Socket

variable {ω : Type} {s t u : Socket (Recorded ω)} {k : Prompt} {c d : ChannelId}
variable {ch ch' : Channel} {es : List Effect}

theorem Sound.lt_length (h : Sound s) (hc : s.channels.get? c = some ch) :
    c < s.exchange.lines.length :=
  (h.channels hc).known.1

/-- Only the record and the exchange have changed. -/
theorem Sound.turns (h : Sound s) (w : Turns s t s.channels es) : Sound t where
  tidy := w.evolves.tidy h.tidy
  channels hc := (h.channels (w.channels_eq ▸ hc)).mono w.evolves
  apart hb := by
    intro c d ch ch' p p' q₁ q₂ r hc hd
    rw [w.channels_eq] at hc hd
    exact h.apart (lt_of_le_of_lt w.evolves.drawn_le hb) hc hd
  registered := by
    rw [w.order_eq]
    intro c hc
    rw [w.channels_eq]
    exact h.registered c hc
  nodup := w.order_eq ▸ h.nodup

theorem Sound.quiet (h : Sound s) (q : Quiet s t) : Sound t := h.turns q

theorem Sound.works (h : Sound s) (hc : s.channels.get? c = some ch) (w : Works c ch' es s t)
    (hs : ch'.Sound t.exchange c) (hr : ch.RefsFrom s.exchange t.exchange ch') : Sound t where
  tidy := w.evolves.tidy h.tidy
  channels := by
    intro d ch₁ hd
    by_cases hdc : d = c
    · subst hdc
      rw [w.get?] at hd
      cases hd
      exact hs
    · exact (h.channels (w.get?_of_ne hdc ▸ hd)).mono w.evolves
  apart hb := by
    have hapart := h.apart (lt_of_le_of_lt w.evolves.drawn_le hb)
    -- A ref of the channel that has changed is compared with a ref of any channel.
    have key : ∀ {d ch₂ p q p' q' r}, ch'.pushes.get? p = some q → q.ref = some r →
        t.channels.get? d = some ch₂ → ch₂.pushes.get? p' = some q' → q'.ref = some r →
        c = d ∧ p = p' := by
      intro d ch₂ p q p' q' r hq hqr hd hq' hqr'
      by_cases hdc : d = c
      · subst hdc
        rw [w.get?] at hd
        cases hd
        rcases hr hb hq hqr with ⟨q₀, hq₀, hr₀⟩ | ⟨_, huniq⟩
        · rcases hr hb hq' hqr' with ⟨q₁, hq₁, hr₁⟩ | ⟨_, huniq⟩
          · exact hapart hc hc hq₀ hq₁ hr₀ hr₁
          · exact ⟨rfl, huniq hq hqr⟩
        · exact ⟨rfl, (huniq hq' hqr').symm⟩
      · rw [w.get?_of_ne hdc] at hd
        rcases hr hb hq hqr with ⟨q₀, hq₀, hr₀⟩ | ⟨hnew, _⟩
        · exact hapart hc hd hq₀ hq' hr₀ hqr'
        · exact absurd ((h.channels hd).drew hq' hqr') hnew
    intro d₁ d₂ ch₁ ch₂ p p' q q' r h₁ h₂ hq hq' hqr hqr'
    by_cases hd₁ : d₁ = c
    · subst hd₁
      rw [w.get?] at h₁
      cases h₁
      exact key hq hqr h₂ hq' hqr'
    · by_cases hd₂ : d₂ = c
      · subst hd₂
        rw [w.get?] at h₂
        cases h₂
        obtain ⟨heq, hpq⟩ := key hq' hqr' h₁ hq hqr
        exact ⟨heq.symm, hpq.symm⟩
      · rw [w.get?_of_ne hd₁] at h₁
        rw [w.get?_of_ne hd₂] at h₂
        exact hapart h₁ h₂ hq hq' hqr hqr'
  registered := by
    rw [w.order_eq]
    intro d hd
    by_cases hdc : d = c
    · exact ⟨ch', hdc ▸ w.get?⟩
    · rw [w.get?_of_ne hdc]
      exact h.registered d hd
  nodup := w.order_eq ▸ h.nodup

/-- One of the pushes of a channel has started to wait for the reply to a fresh ref. -/
theorem Sound.starts {p : PushId} (h : Sound s) (hc : s.channels.get? c = some ch)
    (hstarts : ch.Starts s.exchange t.exchange c p ch') (w : Works c ch' es s t) : Sound t :=
  have hch := h.channels hc
  h.works hc w (hstarts.sound (hch.mono w.evolves) hch.numbers) (hstarts.refs hch.drew)

/-- Of a push that is added at most its own message is recorded. -/
theorem eq_accept_of_mem {p : PushId} {joined : Prop} {m : Message}
    (h : es = [] ∨ joined ∧ es = [.accept (.push c p) m]) {e : Effect} (he : e ∈ es) :
    e = .accept (.push c p) m := by
  rcases h with rfl | ⟨-, rfl⟩
  · cases he
  · exact List.mem_singleton.mp he

/-! ### Moves keep a socket sound -/

theorem Alter.sound {registered : Prop} {x y : Exchange}
    (h : Alter k x y registered c ch ch' es) (hs : ch.Sound x c) (hxy : x.Evolves y) :
    ch'.Sound y c := by
  have hsy := hs.mono hxy
  cases h with
  | alike same notes => exact hsy.alike same
  | hooked op => exact hsy.filter (List.Sublist.refl _) rfl fun _ => id
  | listen op spent fresh => exact hsy.append spent fresh (.inl ⟨_, rfl⟩)
  | unbind op => exact hsy.filter List.filter_sublist rfl fun _ => id
  | @enlist p _ _ _ ch' _ _ op free spent other starts waits accepts =>
    have hstart := starts.sound_insert hs hxy spent free (Push.isNew_new _ _ _)
    obtain ⟨q, r, n, _, _, ha⟩ := starts
    have hbuffer : ch'.buffer = ch.buffer := ha.buffer.trans (Channel.dropBindings?_buffer _)
    obtain ⟨q', hq', _⟩ := ha.some (p := p) (by rw [Channel.start_pushes, Table.get?_set_self])
    refine { hstart with buffered := ?_, queued := ?_ } <;> intro p' hmem <;>
      rcases waits with rfl | rfl
    · exact hs.buffered p' hmem
    · rcases List.mem_append.mp hmem with hmem | hmem
      · exact hs.buffered p' hmem
      · exact List.mem_singleton.mp hmem ▸ other
    · exact hstart.queued p' (hbuffer ▸ hmem)
    · rcases List.mem_append.mp hmem with hmem | hmem
      · exact hstart.queued p' (hbuffer ▸ hmem)
      · rw [List.mem_singleton.mp hmem]
        exact ⟨q', hq'⟩
  | settle other push awaits unarmed answers => exact hsy.settle push _ _
  | forget other push received => exact hsy.forget push other
  | unheard push awaits unarmed answers => exact hsy.settle push _ _
  | refused push awaits unarmed answers =>
    exact (hsy.settle push _ _).filter (List.Sublist.refl _) rfl fun _ => id
  | abandoned push awaits unarmed answers fresh free spent other starts push' =>
    have hstart := starts.sound_insert (hs.settle push _ _) hxy spent ?_
      (Push.isNew_bareLeave _ _)
    · refine Channel.Sound.takeBack ?_ push'
      exact hstart.filter (List.Sublist.refl _) rfl fun _ => id
    · rw [Channel.settle_pushes, Table.get?_set_of_ne _ other]
      exact free
  | failed listed push =>
    split
    · exact (hsy.takeBack push).filter (List.Sublist.refl _) rfl fun _ => id
    · exact hsy.filter (List.Sublist.refl _) rfl fun _ => id

theorem Alter.refs {registered : Prop} {x y : Exchange}
    (h : Alter k x y registered c ch ch' es) (hs : ch.Sound x c) : ch.RefsFrom x y ch' := by
  cases h with
  | alike same notes => exact (Channel.RefsKept.alike same).from
  | hooked op => exact (Channel.RefsKept.of_eq rfl).from
  | listen op spent fresh => exact (Channel.RefsKept.of_eq rfl).from
  | unbind op => exact (Channel.RefsKept.of_eq rfl).from
  | enlist op free spent other starts waits accepts =>
    exact (starts.refs_insert hs (Push.isNew_new _ _ _)).trans_kept (.of_eq rfl)
  | settle other push awaits unarmed answers => exact (Channel.RefsKept.settle push _ _).from
  | forget other push received => exact Channel.RefsKept.forget.from
  | unheard push awaits unarmed answers => exact (Channel.RefsKept.settle push _ _).from
  | refused push awaits unarmed answers =>
    exact ((Channel.RefsKept.settle push _ _).trans (.of_eq rfl)).from
  | abandoned push awaits unarmed answers fresh free spent other starts push' =>
    have hstart := (Channel.RefsKept.settle push _ _).trans_from
      (starts.refs_insert (hs.settle push _ _) (Push.isNew_bareLeave _ _))
    refine hstart.trans_kept (Channel.RefsKept.trans ?_ (.takeBack push'))
    exact .of_eq rfl
  | failed listed push =>
    split
    · exact ((Channel.RefsKept.takeBack push).trans (.of_eq rfl)).from
    · exact (Channel.RefsKept.of_eq rfl).from

theorem Flush.sound {ps : List PushId} (h : Flush c ps s t) (hs : Sound s) : Sound t := by
  induction h with
  | nil => exact hs
  | pass late rest ih => exact ih hs
  | send channel push inTime starts works rest ih =>
    exact ih (hs.starts channel starts works)

theorem Closes.get?_self (h : Closes c ch s t) :
    t.channels.get? c = if ch.orphaned then none else
      some { ch with rejoinTimer := ch.rejoinTimer.reset, state := .closed } := by
  rw [h.channels_eq]
  split <;> simp

theorem Closes.get?_of_ne (h : Closes c ch s t) (hd : d ≠ c) :
    t.channels.get? d = s.channels.get? d := by
  rw [h.channels_eq]
  split
  · exact Table.get?_erase_of_ne _ hd
  · exact Table.get?_set_of_ne _ hd _

/-- What happens besides does not matter for the closing. -/
theorem Closes.of_quiet (h : Closes c ch t u) (hq : Quiet s t) : Closes c ch s u where
  channels_eq := by rw [h.channels_eq, hq.channels_eq]
  order_eq := by rw [h.order_eq, hq.order_eq]
  evolves := hq.evolves.trans h.evolves
  log_eq := by rw [h.log_eq, hq.log_eq, List.append_nil]

theorem Closes.quiet (h : Closes c ch s t) (hq : Quiet t u) : Closes c ch s u where
  channels_eq := by rw [hq.channels_eq, h.channels_eq]
  order_eq := by rw [hq.order_eq, h.order_eq]
  evolves := h.evolves.trans hq.evolves
  log_eq := by rw [hq.log_eq, h.log_eq, List.append_nil]

theorem Closes.sound (h : Closes c ch s t) (hs : Sound s) (hc : s.channels.get? c = some ch) :
    Sound t := by
  -- Each channel that is left has the pushes and bindings that it had.
  have back : ∀ {d ch₁}, t.channels.get? d = some ch₁ → ∃ ch₀, s.channels.get? d = some ch₀ ∧
      ch₁.bindings = ch₀.bindings ∧ ch₁.pushes = ch₀.pushes ∧ ch₁.buffer = ch₀.buffer := by
    intro d ch₁ hd
    by_cases hdc : d = c
    · subst hdc
      rw [h.get?_self] at hd
      split at hd
      · cases hd
      · cases hd
        exact ⟨ch, hc, rfl, rfl, rfl⟩
    · exact ⟨ch₁, h.get?_of_ne hdc ▸ hd, rfl, rfl, rfl⟩
  constructor
  · exact h.evolves.tidy hs.tidy
  · intro d ch₁ hd
    obtain ⟨ch₀, h₀, hb, hp, hbuf⟩ := back hd
    refine ((hs.channels h₀).mono h.evolves).filter ?_ hp ?_
    · rw [hb]
    · rw [hbuf]
      exact fun _ => id
  · intro hb d₁ d₂ ch₁ ch₂ p p' q q' r h₁ h₂ hq hq'
    obtain ⟨ch₃, h₃, _, hp₃, _⟩ := back h₁
    obtain ⟨ch₄, h₄, _, hp₄, _⟩ := back h₂
    exact hs.apart (lt_of_le_of_lt h.evolves.drawn_le hb) h₃ h₄ (hp₃ ▸ hq) (hp₄ ▸ hq')
  · rw [h.order_eq]
    intro d hd
    simp only [List.mem_filter, decide_eq_true_eq] at hd
    rw [h.get?_of_ne hd.2]
    exact hs.registered d hd.1
  · rw [h.order_eq]
    exact hs.nodup.filter _

/-- The socket is sound when a join has been accepted and the pushes that waited for it are not yet sent. -/
theorem Sound.accept {q : Push} {timer : TimerSlot} {reply : Reply} (hs : Sound s)
    (hc : s.channels.get? c = some ch) (hq : ch.pushes.get? joinPush = some q) (w : Works c
      { ch.settle joinPush q timer reply with
        state := .joined
        rejoinTimer := ch.rejoinTimer.reset
        buffer := [] } es s t) : Sound t := by
  refine hs.works hc w ?_ ((Channel.RefsKept.settle hq _ _).trans (.of_eq rfl)).from
  have hsettled := ((hs.channels hc).mono w.evolves).settle hq timer reply
  exact hsettled.filter (List.Sublist.refl _) rfl (by simp)

theorem Move.sound (h : Move k c s t) (hs : Sound s) : Sound t := by
  cases h with
  | quiet quiet => exact hs.quiet quiet
  | alter channel alter works =>
    have hch := hs.channels channel
    exact hs.works channel works (alter.sound hch works.evolves) (alter.refs hch)
  | accepted channel push awaits unarmed answers status works flush =>
    exact flush.sound (hs.accept channel push works)
  | closed channel closes => exact closes.sound hs channel

theorem Moves.sound (h : Moves k c s t) (hs : Sound s) : Sound t := by
  induction h with
  | refl => exact hs
  | tail _ move ih => exact move.sound ih

theorem departing_sound {x : Exchange} {join : Push} (hs : ch.Sound x c)
    (hq : ch.pushes.get? joinPush = some join) : (departing ch join).Sound x c :=
  hs.setPush hq (List.Sublist.refl _) rfl (fun _ => id) rfl rfl (hs.events hq :)
    (fun _ hr => hs.drew hq hr) (.inl rfl)

theorem departing_refs {join : Push} (hq : ch.pushes.get? joinPush = some join) :
    ch.RefsKept (departing ch join) :=
  .set rfl hq (.inl rfl)

/-- A join attempt first takes the join push back. -/
theorem joining_sound {x : Exchange} {join : Push} (hs : ch.Sound x c)
    (hq : ch.pushes.get? joinPush = some join) (timeout : Nat) :
    ({ ch with state := .joining }.takeBack joinPush { join with timeout := timeout }).Sound x c := by
  refine hs.setPush hq ?_ Channel.takeBack_pushes ?_ rfl rfl rfl (by simp [Push.reset]) (.inr ?_)
  · exact Channel.dropBindings?_sublist _
  · simp [Channel.takeBack]
  · have hbindings : { ch with
        state := .joining
        pushes := ch.pushes.set joinPush { join with timeout := timeout }.reset }.bindings =
          ch.bindings := rfl
    have hnot := hs.not_awaits_drop hq hbindings
    exact hnot

theorem joining_refs {join : Push} (hq : ch.pushes.get? joinPush = some join) (timeout : Nat) :
    ch.RefsKept
      ({ ch with state := .joining }.takeBack joinPush { join with timeout := timeout }) :=
  .set Channel.takeBack_pushes hq (.inr rfl)

theorem Rough.sound (h : Rough k c s t) (hs : Sound s) : Sound t := by
  cases h with
  | move move => exact move.sound hs
  | @lapse ch p q channel push works =>
    have hch := hs.channels channel
    refine hs.works channel works ?_ ?_
    · exact (hch.mono works.evolves).setPush push (List.Sublist.refl _) rfl (fun _ => id) rfl rfl
        (hch.events push :) (fun _ hr => works.evolves.drew (hch.drew push hr)) (.inl rfl)
    · refine Channel.RefsKept.from ?_
      exact .set rfl push (.inl rfl)
  | departs channel push free spent other starts works accepts =>
    have hch := hs.channels channel
    have hdep := departing_sound hch push
    refine hs.works channel works ?_ ?_
    · refine starts.sound_insert hdep works.evolves spent ?_ (Push.isNew_leave _ _)
      rw [departing, Table.get?_set_of_ne _ other]
      exact free
    · exact (departing_refs push).trans_from (starts.refs_insert hdep (Push.isNew_leave _ _))
  | joins channel push stays starts works =>
    have hch := hs.channels channel
    have hjoin := joining_sound hch push ‹Nat›
    refine hs.works channel works ?_ ?_
    · exact starts.sound (hjoin.mono works.evolves) hjoin.numbers
    · exact (joining_refs push _).trans_from (starts.refs hjoin.drew)

/-- Moves, rough or not. -/
abbrev Roughly (k : Prompt) (c : ChannelId) :
    Socket (Recorded ω) → Socket (Recorded ω) → Prop := Relation.ReflTransGen (Rough k c)

theorem Roughly.sound (h : Roughly k c s t) (hs : Sound s) : Sound t := by
  induction h with
  | refl => exact hs
  | tail _ move ih => exact move.sound ih

theorem Moves.roughly (h : Moves k c s t) : Roughly k c s t := 
  Relation.ReflTransGen.mono (fun _ _ => Rough.move) _ _ h

/-! ### What moves leave as it is -/

/-- What the moves of one channel leave as it is. -/
structure Framed (c : ChannelId) (s t : Socket (Recorded ω)) : Prop where
  others : ∀ {d}, d ≠ c → t.channels.get? d = s.channels.get? d
  order : t.order = s.order ∨ t.order = s.order.filter (· ≠ c)
  evolves : s.exchange.Evolves t.exchange
  log : ∃ es, t.log = s.log ++ es

theorem Framed.refl (s : Socket (Recorded ω)) : Framed c s s :=
  ⟨fun _ => rfl, .inl rfl, .refl _, [], (List.append_nil _).symm⟩

theorem Framed.trans (h : Framed c s t) (h' : Framed c t u) : Framed c s u where
  others hd := (h'.others hd).trans (h.others hd)
  order := by
    rcases h.order with h | h <;> rcases h'.order with h' | h' <;> rw [h', h]
    · exact .inl rfl
    · exact .inr rfl
    · exact .inr rfl
    · rw [List.filter_filter]
      exact .inr (by simp)
  evolves := h.evolves.trans h'.evolves
  log := by
    obtain ⟨es, hes⟩ := h.log
    obtain ⟨es', hes'⟩ := h'.log
    exact ⟨es ++ es', by rw [hes', hes, List.append_assoc]⟩

theorem Framed.mem_order (h : Framed c s t) (hd : d ≠ c) : d ∈ t.order ↔ d ∈ s.order := by
  rcases h.order with h | h <;> rw [h]
  simp [hd]

theorem Framed.of_mem_order (h : Framed c s t) (hd : d ∈ t.order) : d ∈ s.order := by
  rcases h.order with h | h <;> rw [h] at hd
  · exact hd
  · exact (List.mem_filter.mp hd).1

theorem Quiet.frame (h : Quiet s t) : Framed c s t :=
  ⟨fun _ => h.get? _, .inl h.order_eq, h.evolves, _, h.log_eq⟩

theorem Works.frame (h : Works c ch es s t) : Framed c s t :=
  ⟨fun hd => h.get?_of_ne hd, .inl h.order_eq, h.evolves, _, h.log_eq⟩

theorem Closes.frame (h : Closes c ch s t) : Framed c s t :=
  ⟨h.get?_of_ne, .inr h.order_eq, h.evolves, [], h.log_eq.trans (List.append_nil _).symm⟩

theorem Flush.frame {ps : List PushId} (h : Flush c ps s t) : Framed c s t := by
  induction h with
  | nil s => exact .refl s
  | pass late rest ih => exact ih
  | send channel push inTime starts works rest ih => exact works.frame.trans ih

/-- What each push that is sent keeps of a channel is kept when they are all sent. -/
theorem Flush.channel {ps : List PushId} (h : Flush c ps s t) (hs : Sound s)
    {Φ : Channel → Prop} (step : ∀ {u v : Socket (Recorded ω)} {ch ch' p}, Sound u → p ∈ ps →
      v.exchange.Evolves t.exchange → u.channels.get? c = some ch →
      ch.Starts u.exchange v.exchange c p ch' → Φ ch → Φ ch')
    (hc : s.channels.get? c = some ch) (hΦ : Φ ch) :
    ∃ ch', t.channels.get? c = some ch' ∧ Φ ch' := by
  induction h generalizing ch with
  | nil => exact ⟨ch, hc, hΦ⟩
  | pass late rest ih =>
    exact ih hs (fun hu hp => step hu (List.mem_cons_of_mem _ hp)) hc hΦ
  | send channel push inTime starts works rest ih =>
    rw [channel] at hc
    cases hc
    have hs' := hs.starts channel starts works
    refine ih hs' (fun hu hp => step hu (List.mem_cons_of_mem _ hp)) works.get? ?_
    exact step hs List.mem_cons_self rest.frame.evolves channel starts hΦ

theorem Move.frame (h : Move k c s t) : Framed c s t := by
  cases h with
  | quiet quiet => exact quiet.frame
  | alter channel alter works => exact works.frame
  | accepted channel push awaits unarmed answers status works flush => exact works.frame.trans flush.frame
  | closed channel closes => exact closes.frame

theorem Rough.frame (h : Rough k c s t) : Framed c s t := by
  cases h with
  | move move => exact move.frame
  | lapse channel push works => exact works.frame
  | departs channel push free spent other starts works accepts => exact works.frame
  | joins channel push stays starts works => exact works.frame

theorem Roughly.frame (h : Roughly k c s t) : Framed c s t := by
  induction h with
  | refl => exact .refl s
  | tail _ move ih => exact ih.trans move.frame

theorem Moves.frame (h : Moves k c s t) : Framed c s t := h.roughly.frame

/-! ### The bindings of a channel during a dispatch -/

/-- The hook stays, and bindings that were not there before have fresh numbers. -/
def Kept (x : Exchange) (c : ChannelId) (ch ch' : Channel) : Prop :=
  ch'.hook = ch.hook ∧ ∀ b ∈ ch'.bindings, b ∈ ch.bindings ∨ ¬ x.Spent (.bindings c) b.number

theorem Kept.refl (x : Exchange) (ch : Channel) : Kept x c ch ch := ⟨rfl, fun _ => .inl⟩

theorem Kept.trans {x y : Exchange} {ch'' : Channel} (hxy : x.Evolves y) (h : Kept x c ch ch')
    (h' : Kept y c ch' ch'') : Kept x c ch ch'' := by
  refine ⟨h'.1.trans h.1, ?_⟩
  intro b hb
  rcases h'.2 b hb with hb | hb
  · exact h.2 b hb
  · exact .inr fun hspent => hb (hxy.spent hspent)

theorem Kept.of_sublist {x : Exchange} (hh : ch'.hook = ch.hook)
    (hb : ch'.bindings.Sublist ch.bindings) : Kept x c ch ch' :=
  ⟨hh, fun _ hmem => .inl (hb.subset hmem)⟩

end Socket

namespace Channel

variable {x y : Exchange} {c : ChannelId} {ch ch' : Channel} {p : PushId} {q : Push}

theorem settle_bindings (timer : TimerSlot) (reply : Reply) :
    (ch.settle p q timer reply).bindings.Sublist ch.bindings := dropBindings?_sublist _

theorem takeBack_bindings : (ch.takeBack p q).bindings.Sublist ch.bindings :=
  dropBindings?_sublist _

theorem forget_bindings : (ch.forget p q).bindings.Sublist ch.bindings := dropBindings?_sublist _

@[simp] theorem settle_hook (timer : TimerSlot) (reply : Reply) :
    (ch.settle p q timer reply).hook = ch.hook := dropBindings?_hook _

@[simp] theorem takeBack_hook : (ch.takeBack p q).hook = ch.hook := dropBindings?_hook _

@[simp] theorem forget_hook : (ch.forget p q).hook = ch.hook := dropBindings?_hook _

@[simp] theorem start_hook (r : Ref) (n : BindingId) : (ch.start p q r n).hook = ch.hook :=
  dropBindings?_hook _

theorem mem_start_bindings {r : Ref} {n : BindingId} {b : Binding} :
    b ∈ (ch.start p q r n).bindings ↔
      (b ∈ ch.bindings ∧ q.refEvent ≠ some b.event) ∨ b = ⟨Event.replyTo r, n, .resolve p⟩ := by
  simp only [start, bind, List.mem_append, mem_dropBindings?, List.mem_singleton]

theorem Alike.kept (h : ch.Alike ch') : Socket.Kept x c ch ch' :=
  .of_sublist h.hook (by rw [h.bindings])

theorem Starts.kept (h : ch.Starts x y c p ch') : Socket.Kept x c ch ch' := by
  obtain ⟨q, r, n, _, hfresh, ha⟩ := h
  refine ⟨ha.hook.trans (start_hook r n), ?_⟩
  intro b hb
  rw [ha.bindings, mem_start_bindings] at hb
  rcases hb with hb | rfl
  · exact .inl hb.1
  · exact .inr hfresh.not_spent

end Channel

namespace Socket

variable {ω : Type} {s t u : Socket (Recorded ω)} {k : Prompt} {c d : ChannelId}
variable {ch ch' : Channel} {es : List Effect}

theorem Alter.kept {registered : Prop} {x y : Exchange} (hk : ∀ op, k ≠ .op op)
    (h : Alter k x y registered c ch ch' es) : Kept x c ch ch' := by
  cases h with
  | alike same notes => exact same.kept
  | hooked op => exact absurd op (hk _)
  | listen op spent fresh => exact absurd op (hk _)
  | unbind op => exact absurd op (hk _)
  | enlist op free spent other starts waits accepts => exact absurd op (hk _)
  | settle other push awaits unarmed answers =>
    exact .of_sublist (Channel.settle_hook _ _) (Channel.settle_bindings _ _)
  | forget other push received => exact .of_sublist Channel.forget_hook Channel.forget_bindings
  | unheard push awaits unarmed answers =>
    exact .of_sublist (Channel.settle_hook _ _) (Channel.settle_bindings _ _)
  | refused push awaits unarmed answers =>
    exact .of_sublist (Channel.settle_hook _ _) (Channel.settle_bindings _ _)
  | abandoned push awaits unarmed answers fresh free spent other starts push' =>
    have hstart := starts.kept
    refine ⟨?_, ?_⟩
    · rw [Channel.takeBack_hook]
      exact hstart.1.trans (Channel.settle_hook _ _)
    · intro b hb
      have hb' := Channel.takeBack_bindings.subset hb
      rcases hstart.2 b hb' with hb | hb
      · exact .inl ((Channel.settle_bindings _ _).subset hb)
      · exact .inr hb
  | failed listed push =>
    split
    · exact .of_sublist Channel.takeBack_hook Channel.takeBack_bindings
    · exact .of_sublist rfl (List.Sublist.refl _)

theorem Flush.kept {ps : List PushId} (h : Flush c ps s t) {ch : Channel}
    (hc : s.channels.get? c = some ch) :
    ∃ ch', t.channels.get? c = some ch' ∧ Kept s.exchange c ch ch' := by
  induction h generalizing ch with
  | nil s => exact ⟨ch, hc, .refl _ _⟩
  | pass late rest ih => exact ih hc
  | send channel push inTime starts works rest ih =>
    rw [channel] at hc
    cases hc
    obtain ⟨ch', hc', hkept⟩ := ih works.get?
    exact ⟨ch', hc', .trans works.evolves starts.kept hkept⟩

/-- A channel that is there after a move was there before it. -/
theorem Move.kept (hk : ∀ op, k ≠ .op op) (h : Move k c s t) {ch' : Channel}
    (hc' : t.channels.get? c = some ch') :
    ∃ ch, s.channels.get? c = some ch ∧ Kept s.exchange c ch ch' := by
  cases h with
  | quiet quiet => exact ⟨ch', quiet.get? c ▸ hc', .refl _ _⟩
  | alter channel alter works =>
    rw [works.get?] at hc'
    cases hc'
    exact ⟨_, channel, alter.kept hk⟩
  | accepted channel push awaits unarmed answers status works flush =>
    obtain ⟨ch'', hc'', hkept⟩ := flush.kept works.get?
    rw [hc''] at hc'
    cases hc'
    refine ⟨_, channel, .trans works.evolves ?_ hkept⟩
    exact .of_sublist (Channel.settle_hook _ _) (Channel.settle_bindings _ _)
  | closed channel closes =>
    rw [closes.get?_self] at hc'
    split at hc'
    · cases hc'
    · cases hc'
      exact ⟨_, channel, .of_sublist rfl (List.Sublist.refl _)⟩

theorem Moves.kept (hk : ∀ op, k ≠ .op op) (h : Moves k c s t) {ch' : Channel}
    (hc' : t.channels.get? c = some ch') :
    ∃ ch, s.channels.get? c = some ch ∧ Kept s.exchange c ch ch' := by
  induction h generalizing ch' with
  | refl => exact ⟨ch', hc', .refl _ _⟩
  | tail moves move ih =>
    obtain ⟨ch₁, hc₁, hkept₁⟩ := move.kept hk hc'
    obtain ⟨ch, hc, hkept⟩ := ih hc₁
    exact ⟨ch, hc, .trans (Moves.frame moves).evolves hkept hkept₁⟩

end Socket

end Switchboard
