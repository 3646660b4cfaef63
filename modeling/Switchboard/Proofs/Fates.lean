import Switchboard.Proofs.Intact

/-!
# What becomes of a push

Each move of a channel does one of a few things to each of its pushes: it leaves the push as it is,
adds or sends it, gives it its reply, takes it back or forgets it.  What is recorded agrees with that.

Main definitions

* `Effect.resolves`, `Effect.Tells`: what an effect says about a push;
* `Channel.Fate`: what becomes of one push of a channel;
* `Socket.Dated`: recorded replies concern pushes that were added before, under refs that were drawn;
* `Socket.Passes`: one step, seen from the pushes of a channel.

Main results

* `Socket.Alter.fate`: what becomes of a push in a move;
* `Socket.Move.passes`, `Socket.Moves.passes`: moves are made of steps.
-/

set_option autoImplicit false

namespace Switchboard

/-! ### What is recorded -/

/-- Whether an effect gives a push its reply. -/
def Effect.resolves (c : ChannelId) (p : PushId) : Effect → Bool
  | .resolve d p' _ _ => d == c && p' == p
  | _ => false

/-- By an effect somebody is told of the reply to a push. -/
inductive Effect.Tells (c : ChannelId) (p : PushId) (reply : Reply) : Effect → Prop
  | hook (hook : ReplyHook) : Tells c p reply (.runReply c p hook reply)
  | answer (ticket : Ticket) : Tells c p reply (.answer ticket (.reply c p reply))

/-- Effects say nothing about a push. -/
def Silent (c : ChannelId) (p : PushId) (es : List Effect) : Prop :=
  ∀ e ∈ es, e.resolves c p = false ∧ ∀ reply, ¬ e.Tells c p reply

/-- It is not recorded that a push had a reply. -/
def Unheard (c : ChannelId) (p : PushId) (log : List Effect) : Prop :=
  ∀ r reply, Effect.resolve c p r reply ∉ log

section Record

variable {c d : ChannelId} {p p' : PushId} {q : Push} {reply : Reply} {es es' : List Effect}

theorem Effect.resolves_resolve (r : Option Ref) :
    (Effect.resolve c p r reply).resolves c p = true := by
  simp [Effect.resolves]

theorem Silent.nil : Silent c p [] := by simp [Silent]

theorem Silent.append (h : Silent c p es) (h' : Silent c p es') : Silent c p (es ++ es') :=
  fun e he => (List.mem_append.mp he).elim (h e) (h' e)

theorem Unheard.of_unresolved (h : ∀ e ∈ es, e.resolves c p = false) : Unheard c p es := by
  intro r reply hmem
  have := h _ hmem
  rw [Effect.resolves_resolve] at this
  cases this

theorem Silent.unheard (h : Silent c p es) : Unheard c p es := .of_unresolved fun e he => (h e he).1

theorem Silent.countP (h : Silent c p es) : es.countP (Effect.resolves c p) = 0 :=
  List.countP_eq_zero.mpr fun e he => by simp [(h e he).1]

theorem silent_accepts (h : ∀ e ∈ es, ∃ m, e = Effect.accept (.push d p') m) : Silent c p es := by
  intro e he
  obtain ⟨m, rfl⟩ := h e he
  exact ⟨rfl, fun reply htells => by cases htells⟩

theorem silent_accept (m : Message) : Silent c p [Effect.accept (.push d p') m] :=
  silent_accepts fun _ he => ⟨m, List.mem_singleton.mp he⟩

theorem silent_runReply (h : d ≠ c ∨ p' ≠ p) (hook : ReplyHook) :
    Silent c p [Effect.runReply d p' hook reply] := by
  intro e he
  rw [List.mem_singleton.mp he]
  refine ⟨rfl, fun reply' htells => ?_⟩
  cases htells
  simp at h

/-- The reply to one push says nothing about the others. -/
theorem silent_settled (h : d ≠ c ∨ p' ≠ p) : Silent c p (settled d p' q reply) := by
  intro e he
  rcases List.mem_append.mp he with he | he
  · obtain ⟨ticket, _, rfl⟩ := List.mem_map.mp he
    refine ⟨rfl, fun reply' htells => ?_⟩
    cases htells
    simp at h
  · rw [List.mem_singleton.mp he]
    refine ⟨?_, fun reply' htells => by cases htells⟩
    simpa [Effect.resolves, Decidable.imp_iff_not_or] using h

theorem countP_settled : (settled c p q reply).countP (Effect.resolves c p) = 1 := by
  have hanswers : (q.waiters.map fun ticket => Effect.answer ticket (.reply c p reply)).countP
      (Effect.resolves c p) = 0 := by
    refine List.countP_eq_zero.mpr fun e he => ?_
    obtain ⟨ticket, _, rfl⟩ := List.mem_map.mp he
    simp [Effect.resolves]
  rw [settled, List.countP_append, hanswers]
  simp [Effect.resolves]

theorem mem_settled : Effect.resolve c p q.ref reply ∈ settled c p q reply :=
  List.mem_append_right _ (List.mem_singleton_self _)

theorem of_mem_settled {r : Option Ref} {reply' : Reply}
    (h : Effect.resolve c p r reply' ∈ settled c p q reply) : r = q.ref ∧ reply' = reply := by
  rcases List.mem_append.mp h with h | h
  · obtain ⟨ticket, _, h⟩ := List.mem_map.mp h
    cases h
  · cases List.mem_singleton.mp h
    exact ⟨rfl, rfl⟩

/-- Who waited for the reply is told of it; nothing else runs yet. -/
theorem tells_settled {e : Effect} {reply' : Reply} (h : e ∈ settled c p q reply)
    (htells : e.Tells c p reply') : reply' = reply ∧ ∃ ticket, e = .answer ticket (.reply c p reply) := by
  rcases List.mem_append.mp h with h | h
  · obtain ⟨ticket, _, rfl⟩ := List.mem_map.mp h
    cases htells
    exact ⟨rfl, ticket, rfl⟩
  · rw [List.mem_singleton.mp h] at htells
    cases htells

end Record

/-! ### Fates -/

/-- What does not depend on the ref of a push, and lasts when users wait for more. -/
def Push.Lasting (W : Push → Prop) : Prop :=
  ∀ ⦃q q' : Push⦄, W q → q'.received = q.received →
    (∃ more, q'.hooks = q.hooks ++ more ∧ ∀ hook ∈ more, IsCallback hook) → W q'

/-- What becomes of a push of a channel; `W` holds of the pushes that waited for a join. -/
inductive Channel.Fate (W : Push → Prop) (k : Prompt) (log : List Effect) (x : Exchange)
    (registered : Prop) (c : ChannelId) (ch : Channel) (p : PushId) (ch' : Channel)
    (es : List Effect) : Prop
  /-- Users may wait for more, and are told of the reply that the push has. -/
  | stays (push : Option.Rel Push.Alike (ch.pushes.get? p) (ch'.pushes.get? p))
    (awaits : ch'.Awaits p ↔ ch.Awaits p) (waits : p ∈ ch'.buffer → p ∈ ch.buffer)
    (unresolved : ∀ e ∈ es, e.resolves c p = false)
    (notes : p ≠ joinPush → ∀ e ∈ es, ∀ reply, e.Tells c p reply → ch'.Notes c e)
  /-- The time of a push is over that is not listened for, or a join is not timed any more. -/
  | lapses {q q' : Push} {timer : TimerSlot} (push : ch.pushes.get? p = some q)
    (late : p ≠ joinPush → q.timer.armed = true ∧ ¬ ch.Awaits p)
    (push' : ch'.pushes.get? p = some q') (same : { q with timer := timer }.Alike q')
    (awaits : ch'.Awaits p ↔ ch.Awaits p) (waits : p ∈ ch'.buffer → p ∈ ch.buffer)
    (silent : Silent c p es)
  | added {q : Push} {r : Ref} (other : p ≠ joinPush) (free : ch.pushes.get? p = none)
    (unheard : Unheard c p log) (push : ch'.pushes.get? p = some q) (unresolved : q.received = none)
    (armed : q.timer.armed = true) (ref : q.ref = some r) (fresh : ¬ x.Drew r)
    (awaits : ch'.Awaits p) (waits : p ∈ ch'.buffer → p ∈ ch.buffer ∨
      ∃ event payload timeout, k = .op (.push p event payload timeout))
    (plain : (∀ hook ∈ q.hooks, IsCallback hook) ∨ ∃ timeout, k = .op (.leave p timeout))
    (silent : Silent c p es)
  | sent {q q' : Push} {r : Ref} (push : ch.pushes.get? p = some q)
    (inTime : p ≠ joinPush → q.hasReceived Status.timeout = false)
    (waited : p ≠ joinPush → W q) (push' : ch'.pushes.get? p = some q')
    (received : p ≠ joinPush → q'.received = q.received) (armed : q'.timer.armed = true)
    (ref : q'.ref = some r) (fresh : ¬ x.Drew r) (awaits : ch'.Awaits p)
    (waits : p ∉ ch'.buffer)
    (hooks : ∃ more, q'.hooks = q.hooks ++ more ∧ ∀ hook ∈ more, IsCallback hook)
    (silent : Silent c p es)
  | settles {q : Push} {timer : TimerSlot} {reply : Reply} (push : ch.pushes.get? p = some q)
    (awaits : ch.Awaits p) (unarmed : timer.armed = false) (unhooked : ch.hook = none)
    (answers : k.Answers registered ch q reply)
    (push' : ch'.pushes.get? p = some { q with
      timer := timer, received := some reply, waiters := [] })
    (deaf : ¬ ch'.Awaits p) (waits : p ∈ ch'.buffer → p ∈ ch.buffer)
    (once : es.countP (Effect.resolves c p) = 1) (recorded : .resolve c p q.ref reply ∈ es)
    (resolved : ∀ r reply', .resolve c p r reply' ∈ es → r = q.ref ∧ reply' = reply)
    (tells : p ≠ joinPush → ∀ e ∈ es, ∀ reply', e.Tells c p reply' →
      reply' = reply ∧ ∃ ticket, e = .answer ticket (.reply c p reply))
  /-- The join push is where it was before it was sent. -/
  | withdrawn {q q' : Push} (join : p = joinPush) (push : ch.pushes.get? p = some q)
    (push' : ch'.pushes.get? p = some q') (ref : q'.ref = none) (waits : p ∉ ch'.buffer)
    (resolved : ∀ r reply, .resolve c p r reply ∈ es → r = q.ref)
  | gone (push : ch'.pushes.get? p = none) (waits : p ∉ ch'.buffer) (silent : Silent c p es)

namespace Channel

variable {W : Push → Prop} {k : Prompt} {log : List Effect} {x y : Exchange}
variable {registered : Prop} {c : ChannelId} {ch ch' ch₁ : Channel} {p p' : PushId} {q : Push}
variable {es : List Effect}

theorem rel_refl (o : Option Push) : Option.Rel Push.Alike o o := by
  cases o with
  | none => exact .none
  | some q => exact .some (.refl q)

/-- In a push that stays, nothing has changed that its reply depends on. -/
theorem alike_of_rel {o o' : Option Push} {q' : Push} (h : Option.Rel Push.Alike o o')
    (hq' : o' = some q') : ∃ q, o = some q ∧ q.Alike q' := by
  subst hq'
  cases h with
  | some hqq => exact ⟨_, rfl, hqq⟩

theorem Alike.rel (h : ch.Alike ch') (p : PushId) :
    Option.Rel Push.Alike (ch.pushes.get? p) (ch'.pushes.get? p) := by
  cases hq : ch.pushes.get? p with
  | none =>
    rw [h.none hq]
    exact .none
  | some q =>
    obtain ⟨q', hq', hqq⟩ := h.some hq
    rw [hq']
    exact .some hqq

theorem Starts.rel (h : ch.Starts x y c p ch') (hne : p' ≠ p) :
    Option.Rel Push.Alike (ch.pushes.get? p') (ch'.pushes.get? p') := by
  obtain ⟨q, r, n, hq, _, ha⟩ := h
  have hrel := ha.rel p'
  rwa [start_pushes, Table.get?_set_of_ne _ hne] at hrel

/-- Nothing happens to a push, and nothing is said about it. -/
theorem Fate.keeps (hpush : ch'.pushes.get? p = ch.pushes.get? p)
    (hawaits : ch'.Awaits p ↔ ch.Awaits p) (hwaits : p ∈ ch'.buffer → p ∈ ch.buffer)
    (hes : Silent c p es) : Fate W k log x registered c ch p ch' es :=
  .stays (hpush ▸ rel_refl _) hawaits hwaits (fun e he => (hes e he).1)
    fun _ e he reply htells => absurd htells ((hes e he).2 reply)

/-- The pushes of a channel have different refs when one has been sent. -/
theorem Starts.apart (h : ch.Starts x y c p ch') (hb : y.drawn < 2 ^ 64) (ha : ch.Apart)
    (hd : ∀ {p q r}, ch.pushes.get? p = some q → q.ref = some r → x.Drew r) : ch'.Apart := by
  intro p₁ p₂ q₁ q₂ r hq₁ hq₂ hr₁ hr₂
  rcases h.refs hd hb hq₁ hr₁ with ⟨q₃, hq₃, hr₃⟩ | ⟨hnew, huniq⟩
  · rcases h.refs hd hb hq₂ hr₂ with ⟨q₄, hq₄, hr₄⟩ | ⟨hnew, _⟩
    · exact ha hq₃ hq₄ hr₃ hr₄
    · exact absurd (hd hq₃ hr₃) hnew
  · exact (huniq hq₂ hr₂).symm

theorem Apart.insert (ha : ch.Apart) (hr : q.ref = none) : (ch.insert p q).Apart :=
  ha.kept (.insert hr)

/-- A push has its reply; what is said besides is said of the join push. -/
theorem Fate.settle {timer : TimerSlot} {reply : Reply} (hs : ch.Sound x c) (ha : ch.Apart)
    (hu : ch.hook = none)
    (push : ch.pushes.get? p' = some q) (awaits : ch.Awaits p') (unarmed : timer.armed = false)
    (answers : k.Answers registered ch q reply)
    (hpushes : ch'.pushes = (ch.settle p' q timer reply).pushes)
    (hbindings : ch'.bindings = (ch.settle p' q timer reply).bindings)
    (hbuffer : ∀ p ∈ ch'.buffer, p ∈ ch.buffer) {rest : List Effect}
    (hrest : ∀ e ∈ rest, e.resolves c p' = false) (hsilent : ∀ p, p ≠ p' → Silent c p rest)
    (hjoin : p' ≠ joinPush → rest = []) (p : PushId) :
    ch.Fate W k log x registered c p ch' (settled c p' q reply ++ rest) := by
  by_cases hp : p = p'
  · subst hp
    have hdeaf : ¬ (ch.settle p q timer reply).Awaits p := hs.not_awaits_drop push rfl
    refine .settles push awaits unarmed hu answers ?_ (mt (awaits_congr hbindings).mp hdeaf) (hbuffer p)
      ?_ (List.mem_append_left _ mem_settled) (fun r reply' hmem => ?_) fun hother e he _ htells => ?_
    · rw [hpushes, settle_pushes, Table.get?_set_self]
    · rw [List.countP_append, countP_settled, List.countP_eq_zero.mpr]
      exact fun e he => by simp [hrest e he]
    · rcases List.mem_append.mp hmem with hmem | hmem
      · exact of_mem_settled hmem
      · exact absurd hmem (Unheard.of_unresolved hrest _ _)
    · rw [hjoin hother, List.append_nil] at he
      exact tells_settled he htells
  · refine .keeps ?_ ?_ (hbuffer p) ((silent_settled (.inr (Ne.symm hp))).append (hsilent p hp))
    · rw [hpushes, settle_pushes, Table.get?_set_of_ne _ hp]
    · rw [awaits_congr hbindings, hs.awaits_settle ha push, and_iff_right hp]

/-- A push is added and sent; what else becomes of the channel does not concern it. -/
theorem Fate.starts {ch₀ : Channel} (hstarts : (ch₀.insert p q).Starts x y c p ch₁)
    (hb : y.drawn < 2 ^ 64) (hunresolved : q.received = none) (hhooks : q.hooks = [])
    (hother : p ≠ joinPush) (hfree : ch.pushes.get? p = none) (hunheard : Unheard c p log)
    (hpush : ch'.pushes.get? p = ch₁.pushes.get? p) (hawaits : ch₁.Awaits p → ch'.Awaits p)
    (hwaits : p ∈ ch'.buffer → p ∈ ch.buffer ∨
      ∃ event payload timeout, k = .op (.push p event payload timeout))
    (hes : Silent c p es) : Fate W k log x registered c ch p ch' es := by
  obtain ⟨q₀, r, n, q₁, hq₀, hfresh, hq₁, hr, harmed, hreceived, ⟨more, hmore, hcb⟩, hself⟩ :=
    hstarts.self
  rw [insert, Table.get?_set_self] at hq₀
  cases hq₀
  refine .added hother hfree hunheard (hpush.trans hq₁) (hreceived.trans hunresolved) harmed hr
    (hfresh.not_drew hb) (hawaits hself) hwaits (.inl fun hook hmem => ?_) hes
  rw [hmore, hhooks] at hmem
  exact hcb hook hmem

end Channel

namespace Socket

variable {ω : Type} {s t u : Socket (Recorded ω)} {k : Prompt} {c d : ChannelId}
variable {ch ch' : Channel} {p p' : PushId} {q : Push} {es : List Effect}
variable {W : Push → Prop}

/-- What is recorded of replies concerns pushes that were added before, under refs that were drawn. -/
def Dated (s : Socket (Recorded ω)) : Prop :=
  ∀ ⦃c p r reply⦄, Effect.resolve c p r reply ∈ s.log →
    s.exchange.Spent (.pushes c) p ∧ ∀ ref, r = some ref → s.exchange.Drew ref

/-- A push that is added has a number that was not used before, or a handle has just drawn it. -/
def Brings (k : Prompt) (x : Exchange) (c : ChannelId) (p : PushId) : Prop :=
  ¬ x.Spent (.pushes c) p ∨ ∃ event payload timeout, k = .op (.push p event payload timeout)

/-- A push is added, and sent unless it waits for the join. -/
theorem fate_enlist {registered : Prop} {x y : Exchange} {log : List Effect} {p₀ : PushId}
    {event : String} {payload : Payload} {timeout : Nat} {buffer : List PushId} (hs : ch.Sound x c)
    (ha : ch.Apart) (hxy : x.Evolves y) (hb : y.drawn < 2 ^ 64)
    (hop : k = .op (.push p₀ event payload timeout)) (hfree : ch.pushes.get? p₀ = none)
    (hspent : y.Spent (.pushes c) p₀) (hother : p₀ ≠ joinPush) (hunheard : Unheard c p₀ log)
    (hstarts : (ch.insert p₀ (.new event (.fixed payload) timeout)).Starts x y c p₀ ch')
    (hwaits : buffer = ch.buffer ∨ buffer = ch.buffer ++ [p₀])
    (hes : ∀ e ∈ es, ∃ m, e = .accept (.push c p₀) m) (p : PushId) :
    ch.Fate W k log x registered c p { ch' with buffer := buffer } es := by
  have hsilent : Silent c p es := silent_accepts hes
  have hs₁ := (hs.mono hxy).insert_new hspent hfree (Push.isNew_new event (.fixed payload) timeout)
  have ha₁ : (ch.insert p₀ (.new event (.fixed payload) timeout)).Apart := ha.insert rfl
  by_cases hp : p = p₀
  · subst hp
    exact .starts hstarts hb rfl rfl hother hfree hunheard rfl (Channel.awaits_congr rfl).mpr
      (fun _ => .inr ⟨_, _, _, hop⟩) hsilent
  · refine .stays ?_ ?_ ?_ (fun e he => (hsilent e he).1) fun _ e he reply htells =>
      absurd htells ((hsilent e he).2 reply)
    · have hrel := hstarts.rel hp
      rwa [Channel.insert, Table.get?_set_of_ne _ hp] at hrel
    · refine (Channel.awaits_congr rfl).trans ((hstarts.awaits hs₁ ha₁).trans ?_)
      rw [or_iff_right hp]
      exact Channel.awaits_congr rfl
    · rcases hwaits with rfl | rfl
      · exact id
      · intro hmem
        exact (List.mem_append.mp hmem).resolve_right fun h => hp (List.mem_singleton.mp h)

/-- A join that was not answered in time is taken back, and a leave is sent in its place. -/
theorem fate_abandoned {registered : Prop} {x y : Exchange} {log : List Effect} {q' : Push}
    {timer : TimerSlot} {reply : Reply} {p₀ : PushId} {timeout : Nat} {m : Message}
    (hs : ch.Sound x c) (ha : ch.Apart) (hxy : x.Evolves y) (hb : y.drawn < 2 ^ 64)
    (hpush : ch.pushes.get? joinPush = some q) (hfree : ch.pushes.get? p₀ = none)
    (hspent : y.Spent (.pushes c) p₀) (hother : p₀ ≠ joinPush) (hunheard : Unheard c p₀ log)
    (hstarts : ((ch.settle joinPush q timer reply).insert p₀
      { Push.bareLeave timeout with detached := true }).Starts x y c p₀ ch')
    (hpush' : ch'.pushes.get? joinPush = some q') (p : PushId) :
    ch.Fate W k log x registered c p ({ ch' with state := .errored }.takeBack joinPush q')
      (settled c joinPush q reply ++ [.runReply c joinPush (.channel .joinTimeout) reply,
        .accept (.push c p₀) m]) := by
  have hs₁ := hs.settle hpush timer reply
  have ha₁ : (ch.settle joinPush q timer reply).Apart := ha.kept (.settle hpush timer reply)
  have hfree₁ : (ch.settle joinPush q timer reply).pushes.get? p₀ = none := by
    rw [Channel.settle_pushes, Table.get?_set_of_ne _ hother]
    exact hfree
  have hs₂ := (hs₁.mono hxy).insert_new hspent hfree₁ (Push.isNew_bareLeave timeout true)
  have ha₂ : ((ch.settle joinPush q timer reply).insert p₀
      { Push.bareLeave timeout with detached := true }).Apart := ha₁.insert rfl
  have hs₃ := hstarts.sound_insert hs₁ hxy hspent hfree₁ (Push.isNew_bareLeave timeout true)
  have ha₃ : ch'.Apart := by
    refine hstarts.apart hb ha₂ fun hq hr => ?_
    obtain ⟨q₀, hq₀, hr₀⟩ := Channel.RefsKept.insert (p := p₀) rfl hq hr
    exact hs₁.drew hq₀ hr₀
  have herrored : { ch' with state := .errored }.Sound y c :=
    hs₃.filter (List.Sublist.refl _) rfl fun _ => id
  have hawaits : ∀ {p}, ({ ch' with state := .errored }.takeBack joinPush q').Awaits p ↔
      p ≠ joinPush ∧ ch'.Awaits p := herrored.awaits_takeBack ha₃ hpush'
  have hget : ∀ {p}, p ≠ joinPush →
      ({ ch' with state := .errored }.takeBack joinPush q').pushes.get? p = ch'.pushes.get? p := by
    intro p hp
    rw [Channel.takeBack_pushes, Table.get?_set_of_ne _ hp]
  have hbuffer : ({ ch' with state := .errored }.takeBack joinPush q').buffer = ch.buffer := by
    rw [Channel.takeBack_buffer]
    exact hstarts.buffer_eq.trans (Channel.settle_buffer timer reply)
  have hsilent : ∀ {p}, p ≠ joinPush → Silent c p (settled c joinPush q reply ++
      [.runReply c joinPush (.channel .joinTimeout) reply, .accept (.push c p₀) m]) := fun hp =>
    (silent_settled (.inr hp.symm)).append
      ((silent_runReply (.inr hp.symm) _).append (silent_accept m))
  by_cases hp : p = joinPush
  · subst hp
    have hself : ({ ch' with state := .errored }.takeBack joinPush q').pushes.get? joinPush =
        some q'.reset := by
      rw [Channel.takeBack_pushes, Table.get?_set_self]
    have hwaits : joinPush ∉ ch.buffer := fun hmem => hs.buffered joinPush hmem rfl
    refine .withdrawn rfl hpush hself rfl (hbuffer ▸ hwaits) fun r reply' hmem => ?_
    rcases List.mem_append.mp hmem with hmem | hmem
    · exact (of_mem_settled hmem).1
    · simp at hmem
  by_cases hp₀ : p = p₀
  · subst hp₀
    exact .starts hstarts hb rfl rfl hother hfree hunheard (hget hp) (fun h => hawaits.mpr ⟨hp, h⟩)
      (fun h => .inl (hbuffer ▸ h)) (hsilent hp)
  · refine .stays ?_ ?_ (fun h => hbuffer ▸ h) (fun e he => (hsilent hp e he).1)
      fun _ e he reply htells => absurd htells ((hsilent hp e he).2 reply)
    · rw [hget hp]
      have hrel := hstarts.rel hp₀
      rwa [Channel.insert, Table.get?_set_of_ne _ hp₀, Channel.settle_pushes,
        Table.get?_set_of_ne _ hp] at hrel
    · rw [hawaits, and_iff_right hp, hstarts.awaits hs₂ ha₂, or_iff_right hp₀]
      refine (Channel.awaits_congr rfl).trans ((hs.awaits_settle ha hpush timer reply).trans ?_)
      exact and_iff_right hp

/-- What becomes of a push in a move that leaves the registry alone. -/
theorem Alter.fate {registered : Prop} {x y : Exchange} {log : List Effect}
    (h : Alter k x y registered c ch ch' es) (hk : k.Spares Event.NamesReply) (hs : ch.Sound x c)
    (ha : ch.Apart) (hxy : x.Evolves y) (hb : y.drawn < 2 ^ 64)
    (hu : ch.hook = none) (hnew : ∀ p, Brings k x c p → Unheard c p log) (p : PushId) :
    ch.Fate W k log x registered c p ch' es := by
  cases h with
  | alike same notes =>
    refine .stays (same.rel p) (Channel.awaits_congr same.bindings) (fun hp => same.buffer ▸ hp)
      (fun e he => ?_) fun _ e he _ _ => notes e he
    cases notes e he <;> rfl
  | hooked op =>
    subst op
    exact hk.elim
  | listen op spent fresh => exact .keeps rfl Channel.awaits_bind id .nil
  | unbind op =>
    subst op
    exact .keeps rfl (hs.awaits_unbind (fun r heq => hk ⟨r, heq⟩) _) id .nil
  | @enlist p₀ event payload timeout ch₁ buffer _ op free spent other starts waits accepts =>
    exact fate_enlist hs ha hxy hb op free spent other (hnew p₀ (.inr ⟨_, _, _, op⟩)) starts waits
      (fun e he => ⟨_, eq_accept_of_mem accepts he⟩) p
  | @settle p₀ q timer reply other push awaits unarmed answers =>
    rw [← List.append_nil (settled c p₀ q reply)]
    exact .settle hs ha hu push awaits unarmed answers rfl rfl (by simp) (by simp) (fun _ _ => .nil)
      (fun _ => rfl) p
  | @forget p₀ q other push received =>
    by_cases hp : p = p₀
    · subst hp
      refine .gone ?_ ?_ .nil
      · rw [Channel.forget_pushes, Table.get?_erase_self]
      · simp [Channel.forget]
    · refine .keeps ?_ ?_ ?_ .nil
      · rw [Channel.forget_pushes, Table.get?_erase_of_ne _ hp]
      · rw [hs.awaits_forget ha push, and_iff_right hp]
      · simp only [Channel.forget, Channel.dropBindings?_buffer, List.mem_filter]
        exact And.left
  | @unheard q timer reply push awaits unarmed answers =>
    rw [← List.append_nil (settled c joinPush q reply)]
    exact .settle hs ha hu push awaits unarmed answers rfl rfl (by simp) (by simp) (fun _ _ => .nil)
      (fun _ => rfl) p
  | @refused q timer reply push awaits unarmed answers =>
    refine .settle hs ha hu push awaits unarmed answers ?_ ?_ ?_ ?_ (fun _ hp => ?_) (absurd rfl) p
    · rfl
    · rfl
    · simp
    · simp [Effect.resolves]
    · exact silent_runReply (.inr (Ne.symm hp)) _
  | @abandoned q q' timer reply p₀ timeout m ch' push awaits unarmed answers fresh free spent other
      starts push' =>
    exact fate_abandoned hs ha hxy hb push free spent other (hnew p₀ (.inl fresh)) starts push' p
  | @failed q listed push =>
    split
    · by_cases hp : p = joinPush
      · have hpush : (ch.takeBack joinPush q).pushes.get? p = some q.reset := by
          rw [Channel.takeBack_pushes, hp, Table.get?_set_self]
        have hback : (ch.takeBack joinPush q).buffer = ch.buffer := Channel.takeBack_buffer
        exact .withdrawn hp (hp ▸ push) hpush rfl (fun hmem => hs.buffered p (hback ▸ hmem) hp)
          (by simp)
      · refine .keeps ?_ ?_ (by simp) .nil
        · show (ch.takeBack joinPush q).pushes.get? p = ch.pushes.get? p
          rw [Channel.takeBack_pushes, Table.get?_set_of_ne _ hp]
        · refine (Channel.awaits_congr rfl).trans ((hs.awaits_takeBack ha push).trans ?_)
          exact and_iff_right hp
    · exact .keeps rfl (Channel.awaits_congr rfl) id .nil

/-! ### Steps -/

/-- One step of a channel: what is recorded concerns its pushes only, each of which has a fate. -/
structure Passes (W : Push → Prop) (k : Prompt) (c : ChannelId)
    (s t : Socket (Recorded ω)) : Prop where
  sound : Sound s
  frame : Framed c s t
  fate : ∃ es, t.log = s.log ++ es ∧ (∀ d p, d ≠ c → Silent d p es) ∧
    (t.channels.get? c = none → ∀ p, Silent c p es) ∧
    ∀ {ch'}, t.channels.get? c = some ch' → ∃ ch, s.channels.get? c = some ch ∧
      ∀ p, ch.Fate W k s.log s.exchange (c ∈ s.order) c p ch' es

theorem Works.passes (h : Works c ch' es s t) (hs : Sound s) (hc : s.channels.get? c = some ch)
    (hsilent : ∀ d p, d ≠ c → Silent d p es)
    (hfate : ∀ p, ch.Fate W k s.log s.exchange (c ∈ s.order) c p ch' es) : Passes W k c s t := by
  refine ⟨hs, h.frame, es, h.log_eq, hsilent, fun hnone => ?_, fun hc' => ?_⟩
  · rw [h.get?] at hnone
    cases hnone
  · rw [h.get?] at hc'
    cases hc'
    exact ⟨ch, hc, hfate⟩

theorem Quiet.passes (h : Quiet s t) (hs : Sound s) : Passes W k c s t := by
  refine ⟨hs, h.frame, [], h.log_eq, fun _ _ _ => .nil, fun _ _ => .nil, fun hc' => ?_⟩
  exact ⟨_, h.get? c ▸ hc', fun p => .keeps rfl Iff.rfl id .nil⟩

theorem Closes.passes (h : Closes c ch s t) (hs : Sound s) (hc : s.channels.get? c = some ch) :
    Passes W k c s t := by
  refine ⟨hs, h.frame, [], h.log_eq.trans (List.append_nil _).symm, fun _ _ _ => .nil,
    fun _ _ => .nil, fun hc' => ?_⟩
  rw [h.get?_self] at hc'
  split at hc'
  · cases hc'
  · cases hc'
    exact ⟨ch, hc, fun p => .keeps rfl (Channel.awaits_congr rfl) id .nil⟩

theorem Alter.silent {registered : Prop} {x y : Exchange}
    (h : Alter k x y registered c ch ch' es) (hd : d ≠ c) (p : PushId) : Silent d p es := by
  have hreply : ∀ hook reply, Silent d p [Effect.runReply c joinPush hook reply] :=
    fun hook _ => silent_runReply (.inl hd.symm) hook
  cases h with
  | alike same notes =>
    intro e he
    cases notes e he <;> refine ⟨rfl, fun reply htells => ?_⟩ <;>
      · cases htells
        exact hd rfl
  | hooked op => exact .nil
  | listen op spent fresh => exact .nil
  | unbind op => exact .nil
  | enlist op free spent other starts waits accepts =>
    exact silent_accepts fun e he => ⟨_, eq_accept_of_mem accepts he⟩
  | settle other push awaits unarmed answers => exact silent_settled (.inl hd.symm)
  | forget other push received => exact .nil
  | unheard push awaits unarmed answers => exact silent_settled (.inl hd.symm)
  | refused push awaits unarmed answers =>
    exact (silent_settled (.inl hd.symm)).append (hreply _ _)
  | abandoned push awaits unarmed answers fresh free spent other starts push' =>
    exact (silent_settled (.inl hd.symm)).append ((hreply _ _).append (silent_accept _))
  | failed listed push => exact .nil

/-- A push is sent; the others stay. -/
theorem fate_of_starts {x y : Exchange} {log : List Effect} {registered : Prop} {m : Message}
    (h : ch.Starts x y c p ch') (hs : ch.Sound x c) (ha : ch.Apart) (hb : y.drawn < 2 ^ 64)
    (hother : p ≠ joinPush) (hbuffer : ch.buffer = [])
    (hpush : ∀ q, ch.pushes.get? p = some q → q.hasReceived Status.timeout = false ∧ W q)
    (p' : PushId) : ch.Fate W k log x registered c p' ch' [.accept (.push c p) m] := by
  by_cases hp : p' = p
  · subst hp
    obtain ⟨q, r, n, q', hq, hfresh, hq', hr, harmed, hreceived, hhooks, hawaits⟩ := h.self
    obtain ⟨hinTime, hW⟩ := hpush q hq
    refine .sent hq (fun _ => hinTime) (fun _ => hW) hq' (fun _ => hreceived) harmed hr
      (hfresh.not_drew hb) hawaits ?_ hhooks (silent_accept m)
    rw [h.buffer_eq, hbuffer]
    exact List.not_mem_nil
  · refine .stays (h.rel hp) ?_ (fun hmem => h.buffer_eq ▸ hmem) (by simp [Effect.resolves])
      fun _ e he reply htells => absurd htells ((silent_accept m e he).2 reply)
    rw [h.awaits hs ha, or_iff_right hp]

theorem Flush.passes {ps : List PushId} (h : Flush c ps s t) (hs : Sound s)
    (hb : t.exchange.drawn < 2 ^ 64) (hlasts : Push.Lasting W) (hps : ∀ p ∈ ps, p ≠ joinPush)
    (hc : s.channels.get? c = some ch) (hbuffer : ch.buffer = [])
    (hW : ∀ p ∈ ps, ∀ q, ch.pushes.get? p = some q → W q) :
    Relation.ReflTransGen (Passes W k c) s t := by
  induction h generalizing ch with
  | nil => exact .refl
  | pass late rest ih =>
    exact ih hs hb (fun p hp => hps p (List.mem_cons_of_mem _ hp)) hc hbuffer
      fun p hp => hW p (List.mem_cons_of_mem _ hp)
  | @send p ps s t u ch₀ ch' q value channel push inTime starts works rest ih =>
    rw [channel] at hc
    cases hc
    have hch := hs.channels channel
    have hbs := lt_of_le_of_lt (works.evolves.trans rest.frame.evolves).drawn_le hb
    have ha := hs.channel_apart hbs channel
    have hs' := hs.starts channel starts works
    have hpush : ∀ q', ch₀.pushes.get? p = some q' →
        q'.hasReceived Status.timeout = false ∧ W q' := by
      intro q' hq'
      refine ⟨?_, hW p List.mem_cons_self q' hq'⟩
      rw [push] at hq'
      cases hq'
      exact inTime
    have hbt := lt_of_le_of_lt rest.frame.evolves.drawn_le hb
    refine .head (works.passes hs channel (fun d p' _ => silent_accept _)
      (fate_of_starts starts hch ha hbt (hps p List.mem_cons_self) hbuffer hpush)) (ih hs' hb
        (fun p' hp' => hps p' (List.mem_cons_of_mem _ hp')) works.get?
        (starts.buffer_eq.trans hbuffer) fun p' hp' q' hq' => ?_)
    -- The pushes that are still to be sent were there before.
    by_cases hpp : p' = p
    · subst hpp
      obtain ⟨q₀, _, _, q₁, hq₀, _, hq₁, _, _, hreceived, hhooks, _⟩ := starts.self
      rw [hq₁] at hq'
      cases hq'
      exact hlasts (hW _ List.mem_cons_self _ hq₀) hreceived hhooks
    · obtain ⟨q₀, hq₀, hqq⟩ := starts.other hpp hq'
      exact hlasts (hW p' (List.mem_cons_of_mem _ hp') q₀ hq₀) hqq.received hqq.hooks

/-- A move is made of steps. -/
theorem Move.passes (h : Move k c s t) (hk : k.Spares Event.NamesReply) (hs : Sound s)
    (hu : s.Unhooked) (hb : t.exchange.drawn < 2 ^ 64) (hlasts : Push.Lasting W)
    (hnew : ∀ p, Brings k s.exchange c p → Unheard c p s.log)
    (hW : ∀ {ch}, s.channels.get? c = some ch → ∀ p ∈ ch.buffer, ∀ q, ch.pushes.get? p = some q →
      W q) : Relation.ReflTransGen (Passes W k c) s t := by
  have hbs := lt_of_le_of_lt h.frame.evolves.drawn_le hb
  cases h with
  | quiet quiet => exact .single (quiet.passes hs)
  | alter channel alter works =>
    exact .single (works.passes hs channel (fun _ p hd => alter.silent hd p)
      (alter.fate hk (hs.channels channel) (hs.channel_apart hbs channel) works.evolves hb
        (hu channel) hnew))
  | @accepted u v ch q timer reply channel push awaits unarmed answers status works flush =>
    have hch := hs.channels channel
    have hsu := hs.accept channel push works
    refine .head (works.passes hs channel (fun d p hd => ?_) fun p => ?_)
      (flush.passes hsu hb hlasts hch.buffered works.get? rfl fun p hp q' hq' => ?_)
    · exact (silent_settled (.inl hd.symm)).append (silent_runReply (.inl hd.symm) _)
    · refine .settle hch (hs.channel_apart hbs channel) (hu channel) push awaits unarmed answers ?_ ?_ ?_ ?_
        (fun _ hp => ?_) (absurd rfl) p
      · rfl
      · rfl
      · simp
      · simp [Effect.resolves]
      · exact silent_runReply (.inr (Ne.symm hp)) _
    · have hsame : (ch.settle joinPush q timer reply).pushes.get? p = ch.pushes.get? p := by
        rw [Channel.settle_pushes, Table.get?_set_of_ne _ (hch.buffered p hp)]
      exact hW channel p hp q' (hsame ▸ hq')
  | closed channel closes => exact .single (closes.passes hs channel)

/-! ### Parts of leaving, joining and timing out -/

theorem passes_lapse (hs : Sound s) (hc : s.channels.get? c = some ch)
    (hp : ch.pushes.get? p = some q) (harmed : q.timer.armed = true) (hdeaf : ¬ ch.Awaits p)
    (hw : Works c { ch with pushes := ch.pushes.set p { q with timer := q.timer.cancel } } [] s t) :
    Passes W k c s t := by
  refine hw.passes hs hc (fun _ _ _ => .nil) fun p' => ?_
  by_cases hpp : p' = p
  · subst hpp
    exact .lapses hp (fun _ => ⟨harmed, hdeaf⟩) (Table.get?_set_self _ _ _) (.refl _)
      (Channel.awaits_congr rfl) id .nil
  · exact .keeps (Table.get?_set_of_ne _ hpp _) (Channel.awaits_congr rfl) id .nil

/-- A channel sends its leave. -/
theorem passes_depart (hs : Sound s) (hb : t.exchange.drawn < 2 ^ 64)
    (hc : s.channels.get? c = some ch) {join : Push} (hjoin : ch.pushes.get? joinPush = some join)
    (hspent : s.exchange.Spent (.pushes c) p) (hfree : ch.pushes.get? p = none)
    (hother : p ≠ joinPush) (hunheard : Unheard c p s.log) {timeout : Nat} {detached : Bool}
    {m : Message}
    (hstarts : ((departing ch join).insert p
      { Push.leave timeout with detached := detached }).Starts s.exchange t.exchange c p ch')
    (hw : Works c ch' [.accept (.push c p) m] s t) :
    Passes W (.op (.leave p timeout)) c s t := by
  have hch := hs.channels hc
  have hdep : (departing ch join).Sound s.exchange c := departing_sound hch hjoin
  have hkept : ch.RefsKept (departing ch join) := departing_refs hjoin
  have hfree' : (departing ch join).pushes.get? p = none := by
    rw [departing, Table.get?_set_of_ne _ hother]
    exact hfree
  have hs₁ := hdep.insert_new hspent hfree' (Push.isNew_leave timeout detached)
  have hbs := lt_of_le_of_lt hw.evolves.drawn_le hb
  have ha₁ : ((departing ch join).insert p
      { Push.leave timeout with detached := detached }).Apart :=
    Channel.Apart.insert ((hs.channel_apart hbs hc).kept hkept) rfl
  refine hw.passes hs hc (fun _ _ _ => silent_accept m) fun p' => ?_
  have hsilent : Silent c p' [Effect.accept (.push c p) m] := silent_accept m
  have hbuffer : p' ∈ ch'.buffer → p' ∈ ch.buffer := fun hmem => hstarts.buffer_eq ▸ hmem
  have hawaits : p' ≠ p → (ch'.Awaits p' ↔ ch.Awaits p') := by
    intro hne
    rw [hstarts.awaits hs₁ ha₁, or_iff_right hne]
    exact Channel.awaits_congr rfl
  by_cases hp : p' = p
  · subst hp
    obtain ⟨q₀, r, n, q₁, hq₀, hfresh, hq₁, hr, harmed, hreceived, _, hawaits'⟩ := hstarts.self
    rw [Channel.insert, Table.get?_set_self] at hq₀
    cases hq₀
    exact .added hother hfree hunheard hq₁ hreceived harmed hr (hfresh.not_drew hb) hawaits'
      (fun hmem => .inl (hbuffer hmem)) (.inr ⟨timeout, rfl⟩) hsilent
  · have hrel := hstarts.rel hp
    rw [Channel.insert, Table.get?_set_of_ne _ hp] at hrel
    by_cases hpj : p' = joinPush
    · subst hpj
      obtain ⟨q', hq', hsame⟩ := hstarts.carried hp (q := { join with
        timer := join.timer.cancel }) (by rw [Channel.insert, Table.get?_set_of_ne _ hp, departing,
          Table.get?_set_self])
      exact .lapses hjoin (absurd rfl) hq' hsame (hawaits hp) hbuffer hsilent
    · rw [departing, Table.get?_set_of_ne _ hpj] at hrel
      exact .stays hrel (hawaits hp) hbuffer (fun e he => (hsilent e he).1)
        fun _ e he reply htells => absurd htells ((hsilent e he).2 reply)

/-- A channel sends its join once more. -/
theorem passes_attempt (hs : Sound s) (hb : t.exchange.drawn < 2 ^ 64)
    (hc : s.channels.get? c = some ch) {join : Push} (hjoin : ch.pushes.get? joinPush = some join)
    {timeout : Nat} {m : Message}
    (hstarts : ({ ch with state := .joining }.takeBack joinPush
      { join with timeout := timeout }).Starts s.exchange t.exchange c joinPush ch')
    (hw : Works c ch' [.accept (.push c joinPush) m] s t) : Passes W k c s t := by
  have hch := hs.channels hc
  have ha := hs.channel_apart (lt_of_le_of_lt hw.evolves.drawn_le hb) hc
  have hs₁ := joining_sound hch hjoin timeout
  have ha₁ : ({ ch with state := .joining }.takeBack joinPush
      { join with timeout := timeout }).Apart := ha.kept (joining_refs hjoin timeout)
  have hback : ∀ {p}, ({ ch with state := .joining }.takeBack joinPush
      { join with timeout := timeout }).Awaits p ↔ p ≠ joinPush ∧ ch.Awaits p := by
    intro p
    have hb : { ch with
      state := .joining
      pushes := ch.pushes.set joinPush { join with timeout := timeout }.reset }.bindings =
        ch.bindings := rfl
    have hdrop : _ ↔ p ≠ joinPush ∧ ch.Awaits p := hch.awaits_drop ha hjoin hb
    exact hdrop
  refine hw.passes hs hc (fun _ _ _ => silent_accept m) fun p => ?_
  have hsilent : Silent c p [Effect.accept (.push c joinPush) m] := silent_accept m
  by_cases hp : p = joinPush
  · subst hp
    obtain ⟨q₀, r, n, q₁, hq₀, hfresh, hq₁, hr, harmed, _, ⟨more, hmore, hcb⟩, hawaits⟩ :=
      hstarts.self
    rw [Channel.takeBack_pushes, Table.get?_set_self] at hq₀
    cases hq₀
    refine .sent hjoin (absurd rfl) (absurd rfl) hq₁ (absurd rfl) harmed hr (hfresh.not_drew hb) hawaits
      (fun hmem => ?_) ⟨more, hmore, hcb⟩ hsilent
    rw [hstarts.buffer_eq, Channel.takeBack_buffer] at hmem
    exact hch.buffered joinPush hmem rfl
  · have hrel := hstarts.rel hp
    rw [Channel.takeBack_pushes, Table.get?_set_of_ne _ hp] at hrel
    refine .stays hrel ?_ (fun hmem => ?_) (fun e he => (hsilent e he).1)
      fun _ e he reply htells => absurd htells ((hsilent e he).2 reply)
    · rw [hstarts.awaits hs₁ ha₁, or_iff_right hp, hback, and_iff_right hp]
    · rw [hstarts.buffer_eq, Channel.takeBack_buffer] at hmem
      exact hmem

end Socket

end Switchboard
