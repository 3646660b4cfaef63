import Switchboard.Channel.Core
import Switchboard.Proofs.Ledger

/-!
# The shape of a channel

What holds of each channel at all times, whatever hooks are installed and whatever bindings users
remove: its numbers are spent, a binding that resolves a push carries the event of the ref that the
push has at that time, and the reactions of the channel to its own pushes are where they were put.

Main definitions

* `Channel.start`, `Channel.settle`, `Channel.takeBack`, `Channel.forget`, `Channel.insert`: what
  becomes of a channel when a push is sent, resolved, reset, released or added;
* `Channel.Awaits`: a push is listened for;
* `Channel.Alike`: a channel in which nothing has changed that replies depend on;
* `Channel.Sound`: what holds of each channel.

Main results

* `Channel.Sound.start`, `Channel.Sound.settle`, `Channel.Sound.takeBack`, `Channel.Sound.forget`,
  `Channel.Sound.insert`, `Channel.Sound.alike`, `Channel.Sound.filter`, `Channel.Sound.listen`.
-/

set_option autoImplicit false

namespace Switchboard

/-! ### Names of events -/

theorem Event.replyTo_injective {r r' : Ref} (h : Event.replyTo r = Event.replyTo r') : r = r' :=
  String.append_right_inj _ |>.mp h

/-- The event of a reply to a push is none of the events that a channel listens to by itself. -/
theorem Event.replyTo_ne {event : String} (h : event.toList.head? = some 'p') (r : Ref) :
    Event.replyTo r ≠ event := by
  intro heq
  rw [← heq, Event.replyTo, String.toList_append] at h
  simp at h

theorem Event.replyTo_ne_close (r : Ref) : Event.replyTo r ≠ Event.close :=
  Event.replyTo_ne (by decide) r

theorem Event.replyTo_ne_error (r : Ref) : Event.replyTo r ≠ Event.error :=
  Event.replyTo_ne (by decide) r

theorem Event.replyTo_ne_reply (r : Ref) : Event.replyTo r ≠ Event.reply :=
  Event.replyTo_ne (by decide) r

/-! ### Pushes -/

/-- The reactions of a channel to the replies to its join push. -/
def joinReactions : List (String × ReplyHook) :=
  [(Status.ok, .channel .joinOk), (Status.error, .channel .joinError),
    (Status.timeout, .channel .joinTimeout)]

/-- Something that a user put to wait for a reply. -/
def IsCallback (hook : String × ReplyHook) : Prop := ∃ callback, hook.2 = .callback callback

/-- A push in which nothing has changed that its reply depends on; users may wait for more. -/
structure Push.Alike (q q' : Push) : Prop where
  event : q'.event = q.event
  ref : q'.ref = q.ref
  refEvent : q'.refEvent = q.refEvent
  received : q'.received = q.received
  timer : q'.timer = q.timer
  hooks : ∃ more, q'.hooks = q.hooks ++ more ∧ ∀ h ∈ more, IsCallback h

@[refl] theorem Push.Alike.refl (q : Push) : q.Alike q :=
  ⟨rfl, rfl, rfl, rfl, rfl, [], by simp, by simp⟩

/-- A binding that belongs to a user. -/
def Binding.IsListener (b : Binding) : Prop := ∃ l, b.target = .listener l

theorem Push.Alike.trans {q q' q'' : Push} (h : q.Alike q') (h' : q'.Alike q'') : q.Alike q'' where
  event := h'.event.trans h.event
  ref := h'.ref.trans h.ref
  refEvent := h'.refEvent.trans h.refEvent
  received := h'.received.trans h.received
  timer := h'.timer.trans h.timer
  hooks := by
    obtain ⟨more, hmore, hcb⟩ := h.hooks
    obtain ⟨more', hmore', hcb'⟩ := h'.hooks
    refine ⟨more ++ more', by rw [hmore', hmore, List.append_assoc], ?_⟩
    intro hook hmem
    exact (List.mem_append.mp hmem).elim (hcb hook) (hcb' hook)

namespace Channel

/-! ### What becomes of a channel -/

/-- A push takes a ref, and its reply is listened for. -/
def start (ch : Channel) (p : PushId) (push : Push) (ref : Ref) (number : BindingId) : Channel :=
  ({ ch with
    pushes := ch.pushes.set p { push with
      ref := some ref
      refEvent := some (Event.replyTo ref)
      timer := push.timer.arm } }.dropBindings? push.refEvent).bind (Event.replyTo ref) number
    (.resolve p)

/-- A push has its reply, and is listened for no longer. -/
def settle (ch : Channel) (p : PushId) (push : Push) (timer : TimerSlot) (reply : Reply) :
    Channel :=
  { ch with
    pushes := ch.pushes.set p { push with
      timer := timer
      received := some reply
      waiters := [] } }.dropBindings? push.refEvent

/-- A push is where it was before it was sent. -/
def takeBack (ch : Channel) (p : PushId) (push : Push) : Channel :=
  { ch with pushes := ch.pushes.set p push.reset }.dropBindings? push.refEvent

/-- A push is forgotten. -/
def forget (ch : Channel) (p : PushId) (push : Push) : Channel :=
  { ch with
    pushes := ch.pushes.erase p
    buffer := ch.buffer.filter (· ≠ p) }.dropBindings? push.refEvent

/-- A push is added. -/
def insert (ch : Channel) (p : PushId) (push : Push) : Channel :=
  { ch with pushes := ch.pushes.set p push }

/-- The reply to a push is listened for. -/
def Awaits (ch : Channel) (p : PushId) : Prop := ∃ b ∈ ch.bindings, b.target = .resolve p


/-- A channel in which nothing has changed that replies depend on. -/
structure Alike (ch ch' : Channel) : Prop where
  topic : ch'.topic = ch.topic
  state : ch'.state = ch.state
  bindings : ch'.bindings = ch.bindings
  buffer : ch'.buffer = ch.buffer
  hook : ch'.hook = ch.hook
  some : ∀ {p q}, ch.pushes.get? p = some q → ∃ q', ch'.pushes.get? p = some q' ∧ q.Alike q'
  none : ∀ {p}, ch.pushes.get? p = none → ch'.pushes.get? p = none
  /-- A join attempt is armed anew only for a failed channel. -/
  rejoin : ch'.rejoinTimer.slot.armed = true →
    ch.rejoinTimer.slot.armed = true ∨ ch.state = .errored

@[refl] theorem Alike.refl (ch : Channel) : ch.Alike ch :=
  ⟨rfl, rfl, rfl, rfl, rfl, fun hq => ⟨_, hq, .refl _⟩, id, .inl⟩

theorem Alike.trans {ch ch' ch'' : Channel} (h : ch.Alike ch') (h' : ch'.Alike ch'') :
    ch.Alike ch'' where
  topic := h'.topic.trans h.topic
  state := h'.state.trans h.state
  bindings := h'.bindings.trans h.bindings
  buffer := h'.buffer.trans h.buffer
  hook := h'.hook.trans h.hook
  some hq := by
    obtain ⟨q', hq', hqq⟩ := h.some hq
    obtain ⟨q'', hq'', hqq'⟩ := h'.some hq'
    exact ⟨q'', hq'', hqq.trans hqq'⟩
  none hq := h'.none (h.none hq)
  rejoin harmed := (h'.rejoin harmed).elim h.rejoin fun hstate => .inr (h.state ▸ hstate)

/-- A push changes into one like it. -/
theorem Alike.set {ch : Channel} {p : PushId} {q q' : Push} (hp : ch.pushes.get? p = Option.some q)
    (hq : q.Alike q') : ch.Alike { ch with pushes := ch.pushes.set p q' } := by
  refine ⟨rfl, rfl, rfl, rfl, rfl, ?_, ?_, .inl⟩
  · intro p' q₁ hp'
    rw [Table.get?_set]
    split
    · rename_i heq
      rw [heq, hp] at hp'
      cases hp'
      exact ⟨q', rfl, hq⟩
    · exact ⟨q₁, hp', .refl q₁⟩
  · intro p' hp'
    rw [Table.get?_set]
    split
    · rename_i heq
      rw [heq, hp] at hp'
      cases hp'
    · exact hp'

/-- What holds of each channel. -/
structure Sound (x : Exchange) (c : ChannelId) (ch : Channel) : Prop where
  known : x.Spent .channels c
  pushes : ∀ {p q}, ch.pushes.get? p = Option.some q → x.Spent (.pushes c) p
  numbers : ∀ b ∈ ch.bindings, x.Spent (.bindings c) b.number
  distinct : (ch.bindings.map (·.number)).Nodup
  /-- Besides its own bindings and those of users, a channel listens for the replies to pushes. -/
  targets : ∀ b ∈ ch.bindings, b ∈ ownBindings ∨ b.IsListener ∨
    ∃ p q, b.target = .resolve p ∧ ch.pushes.get? p = Option.some q ∧
      q.refEvent = Option.some b.event
  single : ∀ b ∈ ch.bindings, ∀ b' ∈ ch.bindings, ∀ p,
    b.target = .resolve p → b'.target = .resolve p → b = b'
  events : ∀ {p q}, ch.pushes.get? p = Option.some q → q.refEvent = q.ref.map Event.replyTo
  drew : ∀ {p q r}, ch.pushes.get? p = Option.some q → q.ref = Option.some r → x.Drew r
  join : ∃ q, ch.pushes.get? joinPush = Option.some q ∧ q.event = Event.join ∧
    ∃ more, q.hooks = joinReactions ++ more ∧ ∀ h ∈ more, IsCallback h
  others : ∀ {p q}, p ≠ joinPush → ch.pushes.get? p = Option.some q →
    ∀ h ∈ q.hooks, h.2 = .channel .leaveDone ∨ IsCallback h
  buffered : ∀ p ∈ ch.buffer, p ≠ joinPush
  queued : ∀ p ∈ ch.buffer, ∃ q, ch.pushes.get? p = Option.some q

variable {x y : Exchange} {c : ChannelId} {ch ch' : Channel} {p : PushId} {q q' : Push}

theorem mem_dropBindings? {event : Option String} {b : Binding} :
    b ∈ (ch.dropBindings? event).bindings ↔ b ∈ ch.bindings ∧ event ≠ some b.event := by
  cases event with
  | none => simp [dropBindings?]
  | some event =>
    simp only [dropBindings?, dropBindings, List.mem_filter, bne_iff_ne, ne_eq, Option.some.injEq]
    exact and_congr_right fun _ => not_congr eq_comm

@[simp] theorem dropBindings?_pushes (event : Option String) :
    (ch.dropBindings? event).pushes = ch.pushes := by
  cases event <;> rfl

@[simp] theorem dropBindings?_buffer (event : Option String) :
    (ch.dropBindings? event).buffer = ch.buffer := by
  cases event <;> rfl

@[simp] theorem dropBindings?_state (event : Option String) :
    (ch.dropBindings? event).state = ch.state := by
  cases event <;> rfl

@[simp] theorem dropBindings?_hook (event : Option String) :
    (ch.dropBindings? event).hook = ch.hook := by
  cases event <;> rfl

@[simp] theorem dropBindings?_topic (event : Option String) :
    (ch.dropBindings? event).topic = ch.topic := by
  cases event <;> rfl

@[simp] theorem dropBindings?_rejoinTimer (event : Option String) :
    (ch.dropBindings? event).rejoinTimer = ch.rejoinTimer := by
  cases event <;> rfl

theorem dropBindings?_sublist (event : Option String) :
    (ch.dropBindings? event).bindings.Sublist ch.bindings := by
  cases event with
  | none => exact List.Sublist.refl _
  | some event => exact List.filter_sublist

namespace Sound

theorem mono (h : ch.Sound x c) (hxy : x.Evolves y) : ch.Sound y c where
  known := hxy.spent h.known
  pushes hp := hxy.spent (h.pushes hp)
  numbers b hb := hxy.spent (h.numbers b hb)
  distinct := h.distinct
  targets := h.targets
  single := h.single
  events := h.events
  drew hp hr := hxy.drew (h.drew hp hr)
  join := h.join
  others := h.others
  buffered := h.buffered
  queued := h.queued

/-- Bindings and waiting pushes may go. -/
theorem filter (h : ch.Sound x c) (hb : ch'.bindings.Sublist ch.bindings)
    (hp : ch'.pushes = ch.pushes) (hbuf : ∀ p ∈ ch'.buffer, p ∈ ch.buffer) : ch'.Sound x c where
  known := h.known
  pushes hq := h.pushes (hp ▸ hq)
  numbers b hmem := h.numbers b (hb.subset hmem)
  distinct := h.distinct.sublist (hb.map _)
  targets b hmem := by
    rw [hp]
    exact h.targets b (hb.subset hmem)
  single b hmem b' hmem' := h.single b (hb.subset hmem) b' (hb.subset hmem')
  events hq := h.events (hp ▸ hq)
  drew hq hr := h.drew (hp ▸ hq) hr
  join := hp ▸ h.join
  others hne hq := h.others hne (hp ▸ hq)
  buffered p hmem := h.buffered p (hbuf p hmem)
  queued p hmem := hp ▸ h.queued p (hbuf p hmem)

theorem alike (h : ch.Sound x c) (ha : ch.Alike ch') : ch'.Sound x c := by
  have back : ∀ {p q'}, ch'.pushes.get? p = some q' →
      ∃ q, ch.pushes.get? p = some q ∧ q.Alike q' := by
    intro p q' hq'
    cases hq : ch.pushes.get? p with
    | none => rw [ha.none hq] at hq'; cases hq'
    | some q =>
      obtain ⟨q'', hq'', hqq⟩ := ha.some hq
      rw [hq'] at hq''
      cases hq''
      exact ⟨q, rfl, hqq⟩
  constructor
  · exact h.known
  · intro p q' hq'
    obtain ⟨q, hq, _⟩ := back hq'
    exact h.pushes hq
  · rw [ha.bindings]; exact h.numbers
  · rw [ha.bindings]; exact h.distinct
  · rw [ha.bindings]
    intro b hb
    obtain hown | hlis | ⟨p, q, ht, hq, he⟩ := h.targets b hb
    · exact .inl hown
    · exact .inr (.inl hlis)
    · obtain ⟨q', hq', hqq⟩ := ha.some hq
      exact .inr (.inr ⟨p, q', ht, hq', hqq.refEvent.trans he⟩)
  · rw [ha.bindings]; exact h.single
  · intro p q' hq'
    obtain ⟨q, hq, hqq⟩ := back hq'
    rw [hqq.refEvent, hqq.ref, h.events hq]
  · intro p q' r hq' hr
    obtain ⟨q, hq, hqq⟩ := back hq'
    exact h.drew hq (hqq.ref ▸ hr)
  · obtain ⟨q, hq, hevent, more, hmore, hcb⟩ := h.join
    obtain ⟨q', hq', hqq⟩ := ha.some hq
    obtain ⟨more', hmore', hcb'⟩ := hqq.hooks
    refine ⟨q', hq', hqq.event.trans hevent, more ++ more', ?_, ?_⟩
    · rw [hmore', hmore, List.append_assoc]
    · intro hook hmem
      exact (List.mem_append.mp hmem).elim (hcb hook) (hcb' hook)
  · intro p q' hne hq' hook hmem
    obtain ⟨q, hq, hqq⟩ := back hq'
    obtain ⟨more, hmore, hcb⟩ := hqq.hooks
    rw [hmore, List.mem_append] at hmem
    rcases hmem with hmem | hmem
    · exact h.others hne hq hook hmem
    · exact .inr (hcb hook hmem)
  · rw [ha.buffer]; exact h.buffered
  · rw [ha.buffer]
    intro p hmem
    obtain ⟨q, hq⟩ := h.queued p hmem
    obtain ⟨q', hq', _⟩ := ha.some hq
    exact ⟨q', hq'⟩

/-- A binding that resolves a push carries the event of the push. -/
theorem event_of_target (h : ch.Sound x c) (hq : ch.pushes.get? p = some q) {b : Binding}
    (hb : b ∈ ch.bindings) (ht : b.target = .resolve p) : q.refEvent = some b.event := by
  obtain hown | ⟨l, hl⟩ | ⟨p', q', ht', hq', he⟩ := h.targets b hb
  · simp only [ownBindings, List.mem_cons, List.not_mem_nil, or_false] at hown
    rcases hown with rfl | rfl | rfl <;> cases ht
  · rw [hl] at ht; cases ht
  · rw [ht] at ht'
    cases ht'
    rw [hq] at hq'
    cases hq'
    exact he

/-- A binding that does not belong to a user. -/
theorem internal (h : ch.Sound x c) {b : Binding} (hb : b ∈ ch.bindings) (hne : ¬ b.IsListener) :
    b = ⟨Event.close, 0, .close⟩ ∨ b = ⟨Event.error, 1, .error⟩ ∨ b = ⟨Event.reply, 2, .redirect⟩ ∨
      ∃ p q r, b.target = .resolve p ∧ ch.pushes.get? p = some q ∧ q.ref = some r ∧
        q.refEvent = some b.event ∧ b.event = Event.replyTo r := by
  obtain hown | hlis | ⟨p, q, ht, hq, he⟩ := h.targets b hb
  · simp only [ownBindings, List.mem_cons, List.not_mem_nil, or_false] at hown
    rcases hown with hown | hown | hown
    · exact .inl hown
    · exact .inr (.inl hown)
    · exact .inr (.inr (.inl hown))
  · exact absurd hlis hne
  · obtain ⟨r, hr, heq⟩ : ∃ r, q.ref = some r ∧ Event.replyTo r = b.event := by
      rw [h.events hq, Option.map_eq_some_iff] at he
      exact he
    exact .inr (.inr (.inr ⟨p, q, r, ht, hq, hr, he, heq.symm⟩))

theorem eq_close (h : ch.Sound x c) {b : Binding} (hb : b ∈ ch.bindings)
    (hevent : b.event = Event.close) (hne : ¬ b.IsListener) : b = ⟨Event.close, 0, .close⟩ := by
  rcases h.internal hb hne with rfl | rfl | rfl | ⟨_, _, r, _, _, _, _, hr⟩
  · rfl
  · exact absurd hevent (by decide)
  · exact absurd hevent (by decide)
  · exact absurd (hr.symm.trans hevent) (Event.replyTo_ne_close r)

theorem eq_error (h : ch.Sound x c) {b : Binding} (hb : b ∈ ch.bindings)
    (hevent : b.event = Event.error) (hne : ¬ b.IsListener) : b = ⟨Event.error, 1, .error⟩ := by
  rcases h.internal hb hne with rfl | rfl | rfl | ⟨_, _, r, _, _, _, _, hr⟩
  · exact absurd hevent (by decide)
  · rfl
  · exact absurd hevent (by decide)
  · exact absurd (hr.symm.trans hevent) (Event.replyTo_ne_error r)

theorem eq_reply (h : ch.Sound x c) {b : Binding} (hb : b ∈ ch.bindings)
    (hevent : b.event = Event.reply) (hne : ¬ b.IsListener) : b = ⟨Event.reply, 2, .redirect⟩ := by
  rcases h.internal hb hne with rfl | rfl | rfl | ⟨_, _, r, _, _, _, _, hr⟩
  · exact absurd hevent (by decide)
  · exact absurd hevent (by decide)
  · rfl
  · exact absurd (hr.symm.trans hevent) (Event.replyTo_ne_reply r)

/-- No binding of a push is left when those of its event are dropped. -/
theorem not_awaits_drop (h : ch.Sound x c) (hq : ch.pushes.get? p = some q)
    (hb : ch'.bindings = ch.bindings) : ¬ (ch'.dropBindings? q.refEvent).Awaits p := by
  rintro ⟨b, hmem, ht⟩
  rw [mem_dropBindings?, hb] at hmem
  exact hmem.2 (h.event_of_target hq hmem.1 ht)

/-- A push changes, and bindings may go. -/
theorem setPush (h : ch.Sound x c) (hq : ch.pushes.get? p = some q)
    (hb : ch'.bindings.Sublist ch.bindings) (hp : ch'.pushes = ch.pushes.set p q')
    (hbuf : ∀ p ∈ ch'.buffer, p ∈ ch.buffer) (hname : q'.event = q.event)
    (hhooks : q'.hooks = q.hooks) (hevent : q'.refEvent = q'.ref.map Event.replyTo)
    (hdrew : ∀ r, q'.ref = some r → x.Drew r)
    (htarget : q'.refEvent = q.refEvent ∨ ¬ ch'.Awaits p) : ch'.Sound x c := by
  constructor
  · exact h.known
  · intro p' q'' hq'
    rw [hp, Table.get?_set] at hq'
    split at hq'
    · rename_i heq; exact heq ▸ h.pushes hq
    · exact h.pushes hq'
  · exact fun b hmem => h.numbers b (hb.subset hmem)
  · exact h.distinct.sublist (hb.map _)
  · intro b hmem
    obtain hown | hlis | ⟨p', q'', ht, hq', he⟩ := h.targets b (hb.subset hmem)
    · exact .inl hown
    · exact .inr (.inl hlis)
    · refine .inr (.inr ⟨p', ?_⟩)
      rw [hp, Table.get?_set]
      split
      · rename_i heq
        subst heq
        rw [hq] at hq'
        cases hq'
        rcases htarget with htarget | htarget
        · exact ⟨q', ht, rfl, htarget.trans he⟩
        · exact absurd ⟨b, hmem, ht⟩ htarget
      · exact ⟨q'', ht, hq', he⟩
  · exact fun b hmem b' hmem' => h.single b (hb.subset hmem) b' (hb.subset hmem')
  · intro p' q'' hq'
    rw [hp, Table.get?_set] at hq'
    split at hq'
    · cases hq'; exact hevent
    · exact h.events hq'
  · intro p' q'' r hq' hr
    rw [hp, Table.get?_set] at hq'
    split at hq'
    · cases hq'; exact hdrew r hr
    · exact h.drew hq' hr
  · obtain ⟨qj, hqj, hjoin, more, hmore, hcb⟩ := h.join
    rw [hp, Table.get?_set]
    split
    · rename_i heq
      rw [heq, hq] at hqj
      cases hqj
      exact ⟨q', rfl, hname.trans hjoin, more, hhooks.trans hmore, hcb⟩
    · exact ⟨qj, hqj, hjoin, more, hmore, hcb⟩
  · intro p' q'' hne hq'
    rw [hp, Table.get?_set] at hq'
    split at hq'
    · rename_i heq
      cases hq'
      rw [hhooks]
      exact h.others hne (heq ▸ hq)
    · exact h.others hne hq'
  · exact fun p hmem => h.buffered p (hbuf p hmem)
  · intro p' hmem
    rw [hp, Table.get?_set]
    split
    · exact ⟨q', rfl⟩
    · exact h.queued p' (hbuf p' hmem)

theorem settle (h : ch.Sound x c) (hq : ch.pushes.get? p = some q) (timer : TimerSlot)
    (reply : Reply) : (ch.settle p q timer reply).Sound x c := by
  refine h.setPush hq ?_ (dropBindings?_pushes _) (by simp [Channel.settle]) rfl rfl ?_ ?_
    (.inl rfl)
  · exact dropBindings?_sublist _
  · exact (h.events hq :)
  · exact fun r hr => h.drew hq hr

theorem takeBack (h : ch.Sound x c) (hq : ch.pushes.get? p = some q) :
    (ch.takeBack p q).Sound x c := by
  refine h.setPush hq ?_ (dropBindings?_pushes _) (by simp [Channel.takeBack]) rfl rfl
    rfl (by simp [Push.reset]) (.inr ?_)
  · exact dropBindings?_sublist _
  · exact h.not_awaits_drop hq rfl

/-- A binding with a fresh number is added. -/
theorem append (h : ch.Sound x c) {b : Binding} (hn : x.Spent (.bindings c) b.number)
    (hfresh : ∀ b' ∈ ch.bindings, b'.number ≠ b.number)
    (hb : b.IsListener ∨ ∃ p q, b.target = .resolve p ∧ ch.pushes.get? p = some q ∧
      q.refEvent = some b.event ∧ ¬ ch.Awaits p) :
    { ch with bindings := ch.bindings ++ [b] }.Sound x c := by
  refine { h with numbers := ?_, distinct := ?_, targets := ?_, single := ?_ }
  · intro b' hmem
    rcases List.mem_append.mp hmem with hmem | hmem
    · exact h.numbers b' hmem
    · exact List.mem_singleton.mp hmem ▸ hn
  · rw [List.map_append, List.nodup_append]
    refine ⟨h.distinct, List.nodup_singleton _, ?_⟩
    intro n hmem m hmem'
    obtain ⟨b', hb', rfl⟩ := List.mem_map.mp hmem
    simp only [List.map_cons, List.map_nil, List.mem_singleton] at hmem'
    exact hmem' ▸ hfresh b' hb'
  · intro b' hmem
    rcases List.mem_append.mp hmem with hmem | hmem
    · exact h.targets b' hmem
    · rw [List.mem_singleton.mp hmem]
      rcases hb with hlis | ⟨p, q, ht, hq, he, _⟩
      · exact .inr (.inl hlis)
      · exact .inr (.inr ⟨p, q, ht, hq, he⟩)
  · have hnew : ∀ b' ∈ ch.bindings, ∀ p, b'.target = .resolve p → b.target ≠ .resolve p := by
      intro b' hb' p ht ht'
      rcases hb with ⟨l, hl⟩ | ⟨p', _, htp, _, _, hnot⟩
      · rw [hl] at ht'; cases ht'
      · rw [htp] at ht'
        cases ht'
        exact hnot ⟨b', hb', ht⟩
    intro b₁ hmem₁ b₂ hmem₂ p ht₁ ht₂
    rcases List.mem_append.mp hmem₁ with hmem₁ | hmem₁ <;>
      rcases List.mem_append.mp hmem₂ with hmem₂ | hmem₂
    · exact h.single b₁ hmem₁ b₂ hmem₂ p ht₁ ht₂
    · exact absurd (List.mem_singleton.mp hmem₂ ▸ ht₂) (hnew b₁ hmem₁ p ht₁)
    · exact absurd (List.mem_singleton.mp hmem₁ ▸ ht₁) (hnew b₂ hmem₂ p ht₂)
    · exact (List.mem_singleton.mp hmem₁).trans (List.mem_singleton.mp hmem₂).symm

theorem start (h : ch.Sound x c) (hq : ch.pushes.get? p = some q) {r : Ref} {n : BindingId}
    (hr : x.Drew r) (hn : x.Spent (.bindings c) n) (hfresh : ∀ b ∈ ch.bindings, b.number ≠ n) :
    (ch.start p q r n).Sound x c := by
  have hset : ({ ch with pushes := ch.pushes.set p { q with
      ref := some r, refEvent := some (Event.replyTo r), timer := q.timer.arm } }.dropBindings?
        q.refEvent).Sound x c := by
    refine h.setPush hq ?_ (dropBindings?_pushes _) (by simp) rfl rfl rfl ?_ (.inr ?_)
    · exact dropBindings?_sublist _
    · intro r' hr'
      cases hr'
      exact hr
    · exact h.not_awaits_drop hq rfl
  refine hset.append hn ?_ (.inr ⟨p, { q with
      ref := some r, refEvent := some (Event.replyTo r), timer := q.timer.arm }, rfl, by simp, rfl, ?_⟩)
  · intro b hb
    exact hfresh b (mem_dropBindings?.mp hb).1
  · exact h.not_awaits_drop hq rfl

theorem forget (h : ch.Sound x c) (hq : ch.pushes.get? p = some q) (hne : p ≠ joinPush) :
    (ch.forget p q).Sound x c := by
  have hpushes : (ch.forget p q).pushes = ch.pushes.erase p := dropBindings?_pushes _
  have hsub : (ch.forget p q).bindings.Sublist ch.bindings := dropBindings?_sublist _
  have back : ∀ {p' q'}, (ch.forget p q).pushes.get? p' = some q' →
      ch.pushes.get? p' = some q' := by
    intro p' q' hq'
    rw [hpushes, Table.get?_erase] at hq'
    split at hq'
    · cases hq'
    · exact hq'
  constructor
  · exact h.known
  · exact fun hq' => h.pushes (back hq')
  · exact fun b hmem => h.numbers b (hsub.subset hmem)
  · exact h.distinct.sublist (hsub.map _)
  · intro b hmem
    obtain hown | hlis | ⟨p', q', ht, hq', he⟩ := h.targets b (hsub.subset hmem)
    · exact .inl hown
    · exact .inr (.inl hlis)
    · refine .inr (.inr ⟨p', q', ht, ?_, he⟩)
      rw [hpushes, Table.get?_erase]
      split
      · rename_i heq
        subst heq
        have hnot : ¬ (ch.forget p' q).Awaits p' := h.not_awaits_drop hq rfl
        exact absurd ⟨b, hmem, ht⟩ hnot
      · exact hq'
  · exact fun b hmem b' hmem' => h.single b (hsub.subset hmem) b' (hsub.subset hmem')
  · exact fun hq' => h.events (back hq')
  · exact fun hq' => h.drew (back hq')
  · rw [hpushes, Table.get?_erase_of_ne _ (Ne.symm hne)]
    exact h.join
  · exact fun hne' hq' => h.others hne' (back hq')
  · intro p' hmem
    simp only [Channel.forget, dropBindings?_buffer, List.mem_filter] at hmem
    exact h.buffered p' hmem.1
  · intro p' hmem
    simp only [Channel.forget, dropBindings?_buffer, List.mem_filter, decide_eq_true_eq] at hmem
    rw [hpushes, Table.get?_erase_of_ne _ hmem.2]
    exact h.queued p' hmem.1

theorem insert (h : ch.Sound x c) (hp : x.Spent (.pushes c) p) (hfree : ch.pushes.get? p = none)
    (hevent : q.refEvent = q.ref.map Event.replyTo) (hdrew : ∀ r, q.ref = some r → x.Drew r)
    (hhooks : ∀ hook ∈ q.hooks, hook.2 = .channel .leaveDone ∨ IsCallback hook) :
    (ch.insert p q).Sound x c := by
  constructor
  · exact h.known
  · intro p' q' hq'
    simp only [Channel.insert, Table.get?_set] at hq'
    split at hq'
    · rename_i heq; exact heq ▸ hp
    · exact h.pushes hq'
  · exact h.numbers
  · exact h.distinct
  · intro b hmem
    obtain hown | hlis | ⟨p', q', ht, hq', he⟩ := h.targets b hmem
    · exact .inl hown
    · exact .inr (.inl hlis)
    · refine .inr (.inr ⟨p', q', ht, ?_, he⟩)
      simp only [Channel.insert, Table.get?_set]
      split
      · rename_i heq
        rw [heq, hfree] at hq'
        cases hq'
      · exact hq'
  · exact h.single
  · intro p' q' hq'
    simp only [Channel.insert, Table.get?_set] at hq'
    split at hq'
    · cases hq'; exact hevent
    · exact h.events hq'
  · intro p' q' r hq' hr
    simp only [Channel.insert, Table.get?_set] at hq'
    split at hq'
    · cases hq'; exact hdrew r hr
    · exact h.drew hq' hr
  · obtain ⟨qj, hqj, hmore⟩ := h.join
    refine ⟨qj, ?_, hmore⟩
    simp only [Channel.insert, Table.get?_set]
    split
    · rename_i heq
      rw [heq, hfree] at hqj
      cases hqj
    · exact hqj
  · intro p' q' hne hq'
    simp only [Channel.insert, Table.get?_set] at hq'
    split at hq'
    · cases hq'; exact hhooks
    · exact h.others hne hq'
  · exact h.buffered
  · intro p' hmem
    simp only [Channel.insert, Table.get?_set]
    split
    · exact ⟨q, rfl⟩
    · exact h.queued p' hmem

end Sound

end Channel

end Switchboard
