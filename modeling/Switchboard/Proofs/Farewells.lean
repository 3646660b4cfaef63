import Switchboard.Proofs.Announcements
import Switchboard.Proofs.Nesting

/-!
# How the closing of a channel is announced

The closing of a channel is dispatched like any event: the hook is asked, and the bindings for it are
walked through.  The channel's own binding is the oldest of them, so where it is still there the channel
closes before any listener is told.  A channel that nobody has a handle of is forgotten by that, and the
walk ends there: none of its listeners is told.  In all other cases each of them is told once, in the
order of registration.

Main definitions

* `Call.isFarewell`: a hook or a listener is told of a closing;
* `Channel.closers`, `Channel.Fitting`: the bindings for the closing, and what holds of bindings;
* `Channel.SameClosing`: nothing has changed of what counts when a channel closes;
* `Socket.Unsaid`: nobody is told of a closing meanwhile;
* `Farewell`, `Farewell.closes`, `Farewell.told`: a closing that is announced, and who is told.

Main results

* `Farewell.after_eq`: what it is to announce a closing;
* `Farewell.closes_after`, `Farewell.quiet_after`: what becomes of the channel;
* `Farewell.made_after`: who is told.
-/

set_option autoImplicit false

namespace Switchboard

/-- A hook or a listener is told of the closing of a channel. -/
def Call.isFarewell : Call → Bool
  | .hook _ event _ _ => event == Event.close
  | .effect (.runEvent _ event) | .effect (.yield _ event) => event.event == Event.close
  | _ => false

theorem Call.not_isFarewell_of_listener? {e : Effect} (h : e.listener? = none) :
    (Call.effect e).isFarewell = false := by
  cases e <;> first | rfl | cases h

namespace Channel

variable {x : Exchange} {c : ChannelId} {ch ch' ch'' : Channel} {p : PushId} {q : Push}

/-! ### The bindings for the closing -/

/-- The bindings for the closing, in the order of registration. -/
def closers (ch : Channel) : List Binding := ch.bindings.filter fun b => b.event == Event.close

/-- The channel closes when its closing is dispatched: its own binding is still there. -/
def closesItself (ch : Channel) : Bool := ch.closers.any fun b => b.target == .close

/-- Bindings have targets that fit their names, replies are listened for under names of replies only, and
among the bindings for the closing the channel's own can only be the first. -/
structure Fitting (ch : Channel) : Prop where
  fits : ∀ b ∈ ch.bindings, b.Fits
  named : ∀ ⦃p q event⦄, ch.pushes.get? p = some q → q.refEvent = some event → Event.NamesReply event
  numbers : (ch.closers.map (·.number)).Nodup
  first : ch.closers.Pairwise fun _ b => b.target ≠ .close

/-- Nothing has changed of what counts when a channel closes. -/
structure SameClosing (ch ch' : Channel) : Prop where
  closers : ch'.closers = ch.closers
  hook : ch'.hook = ch.hook
  orphaned : ch'.orphaned = ch.orphaned

@[refl] theorem SameClosing.refl (ch : Channel) : ch.SameClosing ch := ⟨rfl, rfl, rfl⟩

theorem SameClosing.trans (h : ch.SameClosing ch') (h' : ch'.SameClosing ch'') : ch.SameClosing ch'' :=
  ⟨h'.closers.trans h.closers, h'.hook.trans h.hook, h'.orphaned.trans h.orphaned⟩

theorem mem_closers {b : Binding} : b ∈ ch.closers ↔ b ∈ ch.bindings ∧ b.event = Event.close := by
  rw [closers, List.mem_filter, beq_iff_eq]

/-- A binding for the closing is a user's or lets the channel close. -/
theorem Fitting.isListener_or (h : ch.Fitting) {b : Binding} (hb : b ∈ ch.closers) :
    b.IsListener ∨ b.target = .close := by
  obtain ⟨hmem, hevent⟩ := mem_closers.mp hb
  have hfits := h.fits b hmem
  cases htarget : b.target with
  | listener l => exact .inl ⟨l, htarget⟩
  | close => exact .inr rfl
  | redirect =>
    simp only [Binding.Fits, htarget, hevent] at hfits
    exact absurd hfits (by decide)
  | error =>
    simp only [Binding.Fits, htarget, hevent] at hfits
    exact absurd hfits (by decide)
  | resolve p =>
    simp only [Binding.Fits, htarget, hevent] at hfits
    obtain ⟨r, hr⟩ := hfits
    exact absurd hr.symm (Event.replyTo_ne_close r)

theorem Fitting.binding? (h : ch.Fitting) {b : Binding} (hb : b ∈ ch.closers) :
    ch.binding? Event.close b.number = some b := by
  obtain ⟨hmem, hevent⟩ := mem_closers.mp hb
  cases hfind : ch.binding? Event.close b.number with
  | none =>
    have := List.find?_eq_none.mp hfind b hmem
    simp [hevent] at this
  | some b' =>
    have hmatch := List.find?_some hfind
    simp only [Bool.and_eq_true, beq_iff_eq] at hmatch
    have hb' : b' ∈ ch.closers := mem_closers.mpr ⟨List.mem_of_find?_eq_some hfind, hmatch.2⟩
    rw [List.inj_on_of_nodup_map h.numbers hb' hb hmatch.1]

/-- Only users' bindings are for the closing, or the channel's own one is followed by users' ones. -/
theorem Fitting.closers_cases (h : ch.Fitting) :
    (ch.closesItself = false ∧ ∀ b ∈ ch.closers, b.IsListener) ∨
      ∃ b rest, ch.closers = b :: rest ∧ b.target = .close ∧ ch.closesItself = true ∧
        ∀ b ∈ rest, b.IsListener := by
  cases hown : ch.closesItself with
  | false =>
    refine .inl ⟨rfl, fun b hb => (h.isListener_or hb).resolve_right fun ht => ?_⟩
    have := List.any_eq_false.mp hown b hb
    simp [ht] at this
  | true =>
    obtain ⟨b, hb, ht⟩ := List.any_eq_true.mp hown
    rw [beq_iff_eq] at ht
    cases hclosers : ch.closers with
    | nil =>
      rw [hclosers] at hb
      cases hb
    | cons first rest =>
      have hpairs := h.first
      rw [hclosers, List.pairwise_cons] at hpairs
      have hrest : ∀ b ∈ rest, b.IsListener := fun b hb =>
        (h.isListener_or (hclosers ▸ List.mem_cons_of_mem _ hb)).resolve_right (hpairs.1 b hb)
      rw [hclosers] at hb
      rcases List.mem_cons.mp hb with rfl | hb
      · exact .inr ⟨b, rest, rfl, ht, rfl, hrest⟩
      · exact absurd ht (hpairs.1 b hb)

/-- What a channel is from the first. -/
theorem fitting_new (topic : String) (params : Params) (timeout : Nat) (refs : List Ref) :
    (Channel.new topic params timeout refs).Fitting where
  fits := by
    intro b hb
    simp only [Channel.new, ownBindings, List.mem_cons, List.not_mem_nil, or_false] at hb
    rcases hb with rfl | rfl | rfl <;> rfl
  named := by
    intro p q event hq hevent
    rw [Channel.new, Table.get?_set] at hq
    split at hq
    · cases hq
      cases hevent
    · cases hq
  numbers := List.nodup_singleton 0
  first := List.pairwise_singleton _ (⟨Event.close, 0, .close⟩ : Binding)

/-! ### Changes of a channel -/

/-- What counts when a channel closes is kept if its bindings and the names of its replies are. -/
theorem Fitting.keep (h : ch.Fitting) (hb : ch'.bindings = ch.bindings)
    (hp : ∀ ⦃p q event⦄, ch'.pushes.get? p = some q → q.refEvent = some event →
      Event.NamesReply event) (hh : ch'.hook = ch.hook) (ho : ch'.orphaned = ch.orphaned) :
    ch'.Fitting ∧ ch.SameClosing ch' := by
  have hclosers : ch'.closers = ch.closers := by rw [closers, closers, hb]
  exact ⟨⟨hb ▸ h.fits, hp, hclosers ▸ h.numbers, hclosers ▸ h.first⟩, hclosers, hh, ho⟩

theorem Fitting.keep_pushes (h : ch.Fitting) (hb : ch'.bindings = ch.bindings)
    (hp : ch'.pushes = ch.pushes) (hh : ch'.hook = ch.hook) (ho : ch'.orphaned = ch.orphaned) :
    ch'.Fitting ∧ ch.SameClosing ch' :=
  h.keep hb (hp ▸ h.named) hh ho

/-- A push changes, and listens for its reply as before or not at all. -/
theorem Fitting.modifyPush (h : ch.Fitting) (p : PushId) {f : Push → Push}
    (hf : ∀ q event, ch.pushes.get? p = some q → (f q).refEvent = some event →
      Event.NamesReply event) : (ch.modifyPush p f).Fitting ∧ ch.SameClosing (ch.modifyPush p f) := by
  refine h.keep rfl (fun p' q event hq hevent => ?_) rfl rfl
  simp only [Channel.modifyPush, Table.get?_modify] at hq
  split at hq
  · obtain ⟨q₀, hq₀, rfl⟩ := Option.map_eq_some_iff.mp hq
    exact hf q₀ event hq₀ hevent
  · exact h.named hq hevent

theorem Fitting.setPush (h : ch.Fitting) (p : PushId)
    (hq : ∀ event, q.refEvent = some event → Event.NamesReply event) :
    { ch with pushes := ch.pushes.set p q }.Fitting ∧
      ch.SameClosing { ch with pushes := ch.pushes.set p q } := by
  refine h.keep rfl (fun p' q' event hq' hevent => ?_) rfl rfl
  simp only [Table.get?_set] at hq'
  split at hq'
  · cases hq'
    exact hq event hevent
  · exact h.named hq' hevent

/-- A reply is listened for no longer. -/
theorem Fitting.dropBindings? (h : ch.Fitting) {event : Option String}
    (hevent : ∀ e, event = some e → Event.NamesReply e) :
    (ch.dropBindings? event).Fitting ∧ ch.SameClosing (ch.dropBindings? event) := by
  have hclosers : (ch.dropBindings? event).closers = ch.closers := by
    cases event with
    | none => rfl
    | some event =>
      obtain ⟨r, rfl⟩ := hevent event rfl
      simp only [closers, Channel.dropBindings?, dropBindings, List.filter_filter]
      refine List.filter_congr fun b _ => ?_
      by_cases hb : b.event = Event.close
      · simp [hb, (Event.replyTo_ne_close r).symm]
      · simp [hb]
  refine ⟨⟨fun b hb => h.fits b ((dropBindings?_sublist event).subset hb), ?_, hclosers ▸ h.numbers,
    hclosers ▸ h.first⟩, hclosers, dropBindings?_hook event, by cases event <;> rfl⟩
  rw [dropBindings?_pushes]
  exact h.named

/-- A reply is listened for under the name of its ref. -/
theorem Fitting.bindReply (h : ch.Fitting) (r : Ref) (n : BindingId) (p : PushId) :
    (ch.bind (Event.replyTo r) n (.resolve p)).Fitting ∧
      ch.SameClosing (ch.bind (Event.replyTo r) n (.resolve p)) := by
  have hclosers : (ch.bind (Event.replyTo r) n (.resolve p)).closers = ch.closers := by
    have hne : (Event.replyTo r == Event.close) = false := beq_false_of_ne (Event.replyTo_ne_close r)
    simp [closers, bind, List.filter_append, hne]
  exact ⟨⟨fits_bind_resolve h.fits r n p, h.named, hclosers ▸ h.numbers, hclosers ▸ h.first⟩, hclosers,
    rfl, rfl⟩

/-- A user adds a binding with a fresh number. -/
theorem Fitting.listen (h : ch.Fitting) {n : BindingId} (hn : ∀ b ∈ ch.bindings, b.number ≠ n)
    (event : String) (l : Listener) : (ch.bind event n (.listener l)).Fitting := by
  have hclosers : (ch.bind event n (.listener l)).closers =
      ch.closers ++ [⟨event, n, .listener l⟩].filter fun b => b.event == Event.close := by
    simp only [closers, bind, List.filter_append]
  have hadded : ∀ b ∈ [(⟨event, n, .listener l⟩ : Binding)].filter fun b => b.event == Event.close,
      b = ⟨event, n, .listener l⟩ := fun b hb => List.mem_singleton.mp (List.mem_filter.mp hb).1
  refine ⟨fun b hb => ?_, h.named, ?_, ?_⟩
  · rcases List.mem_append.mp hb with hb | hb
    · exact h.fits b hb
    · rw [List.mem_singleton.mp hb]
      trivial
  · rw [hclosers, List.map_append]
    refine List.nodup_append.mpr ⟨h.numbers, ?_, ?_⟩
    · exact (List.nodup_singleton n).sublist (List.filter_sublist.map _)
    · rintro _ hm _ hm' rfl
      obtain ⟨b, hb, hnumber⟩ := List.mem_map.mp hm
      obtain ⟨b', hb', rfl⟩ := List.mem_map.mp hm'
      rw [hadded b' hb'] at hnumber
      exact hn b (mem_closers.mp hb).1 hnumber
  · rw [hclosers]
    refine List.pairwise_append.mpr ⟨h.first, ?_, fun b _ b' hb' => by simp [hadded b' hb']⟩
    exact (List.pairwise_singleton _ _).sublist List.filter_sublist

/-- Bindings are removed. -/
theorem Fitting.filter (h : ch.Fitting) (keeps : Binding → Bool) :
    { ch with bindings := ch.bindings.filter keeps }.Fitting := by
  have hsub : ({ ch with bindings := ch.bindings.filter keeps } : Channel).closers.Sublist ch.closers := by
    simp only [closers, List.filter_filter]
    exact List.monotone_filter_right _ fun b hb => by
      simp only [Bool.and_eq_true] at hb
      exact hb.1
  exact ⟨fun b hb => h.fits b (List.mem_filter.mp hb).1, h.named, h.numbers.sublist (hsub.map _),
    h.first.sublist hsub⟩

end Channel

namespace Socket

section Outside

variable {ω : Type} {s t u : Socket (Recorded (Watched ω))} {c : ChannelId} {ch : Channel} {p : PushId}

/-! ### What is asked of the surroundings -/

/-- Nothing that is asked of the surroundings meanwhile is said of a closing. -/
def Unsaid (s t : Socket (Recorded (Watched ω))) : Prop :=
  ∃ made, t.made = s.made ++ made ∧ ∀ call ∈ made, call.isFarewell = false

theorem Unsaid.of_eq (h : t.made = s.made) : Unsaid s t := ⟨[], by simp [h], by simp⟩

theorem Unsaid.trans (h : Unsaid s t) (h' : Unsaid t u) : Unsaid s u := by
  obtain ⟨made, hmade, hcalls⟩ := h
  obtain ⟨made', hmade', hcalls'⟩ := h'
  refine ⟨made ++ made', by rw [hmade', hmade, List.append_assoc], fun call hcall => ?_⟩
  exact (List.mem_append.mp hcall).elim (hcalls call) (hcalls' call)

variable [Outside ω]

theorem unsaid_perform (s : Socket (Recorded (Watched ω))) {e : Effect} (h : e.listener? = none) :
    Unsaid s (s.perform e) :=
  ⟨[.effect e], rfl, by simpa using Call.not_isFarewell_of_listener? h⟩

/-- What is no matter of any channel is not said of a closing. -/
theorem Strokes.unsaid (h : Strokes (fun _ => False) s t) : Unsaid s t := by
  induction h with
  | refl => exact .of_eq rfl
  | tail _ stroke ih =>
    refine ih.trans ?_
    cases stroke with
    | draw attached => exact .of_eq rfl
    | aside aside => exact .of_eq (congrArg (·.outside.calls) aside.outside)
    | alter among within => exact among.elim
    | strike among => exact among.elim
    | erase among => exact among.elim
    | @perform e among heard =>
      refine unsaid_perform _ ?_
      cases hl : e.listener? with
      | none => rfl
      | some l =>
        obtain ⟨_, _, hfalse, _⟩ := heard l hl
        exact hfalse.elim
    | hook among channel hook event payload ref => exact among.elim
    | error callback failure context => exact ⟨[.error callback failure], rfl, by simp [Call.isFarewell]⟩

/-- A channel closes without a word by itself. -/
theorem unsaid_closeChannel (s : Socket (Recorded (Watched ω))) (c : ChannelId) :
    Unsaid s (s.closeChannel c) := by
  unfold closeChannel removeChannel
  split
  · exact .of_eq rfl
  · rename_i ch _
    have hoff := (strokes_off (s.modifyChannel c fun ch =>
      { ch with rejoinTimer := ch.rejoinTimer.reset, state := .closed }) ch.socketRefs).unsaid
    have hfirst : Unsaid s _ := Unsaid.trans (.of_eq rfl) hoff
    dsimp only
    split
    · unfold eraseChannel
      split
      · exact hfirst.trans (.of_eq rfl)
      · exact (hfirst.trans (.of_eq rfl)).trans (strokes_discardAll _ _).unsaid
    · exact hfirst.trans (.of_eq rfl)

/-- A walk through bindings of listeners for the closing. -/
theorem walk_closers (dispatch : Dispatch (Recorded (Watched ω))) {event : InboundEvent}
    (hevent : event.event = Event.close) {l : List Binding} (h : ch.Fitting)
    (hl : ∀ b ∈ l, b ∈ ch.closers ∧ b.IsListener) (hc : s.channels.get? c = some ch) :
    (l.map (·.number)).foldl (runBinding dispatch c event) s =
      s.performAll ((l.filterMap Binding.listener?).map (·.effect event)) := by
  induction l generalizing s with
  | nil => rfl
  | cons b l ih =>
    obtain ⟨hmem, listener, hlistener⟩ := hl b List.mem_cons_self
    have hfind := h.binding? hmem
    have hstep : s.runBinding dispatch c event b.number = s.perform (listener.effect event) := by
      simp only [runBinding, hc, Option.bind_some, hevent, hfind, runTarget, hlistener]
      cases listener <;> rfl
    have hsome : b.listener? = some listener := by simp only [Binding.listener?, hlistener]
    rw [List.map_cons, List.foldl_cons, hstep, List.filterMap_cons_some hsome, List.map_cons]
    exact ih (fun b hb => hl b (List.mem_cons_of_mem _ hb)) hc

/-- A channel that is gone hears of nothing. -/
theorem walk_gone (dispatch : Dispatch (Recorded (Watched ω))) (event : InboundEvent)
    (numbers : List BindingId) (hc : s.channels.get? c = none) :
    numbers.foldl (runBinding dispatch c event) s = s := by
  induction numbers with
  | nil => rfl
  | cons n numbers ih =>
    have hstep : s.runBinding dispatch c event n = s := by
      simp only [runBinding, hc, Option.bind_none]
    rw [List.foldl_cons, hstep, ih]

end Outside

end Socket

/-! ### A closing is announced -/

/-- A closing that is announced to a channel: the socket and the channel at that moment, and what is
announced. -/
structure Farewell (ω : Type) where
  before : Socket (Recorded (Watched ω))
  id : ChannelId
  channel : Channel
  found : before.channels.get? id = some channel
  payload : Payload
  ref : Option Ref
  joinRef : Option Ref

namespace Farewell

open Socket

variable {ω : Type} [Outside ω] (f : Farewell ω)

/-- What the hook of the channel leaves of the payload: nothing if it withholds it. -/
def word : Option Payload := (f.before.passHook f.channel Event.close f.payload f.ref).1

/-- The socket when the hook has been asked. -/
def asked : Socket (Recorded (Watched ω)) :=
  (f.before.passHook f.channel Event.close f.payload f.ref).2

/-- The channel closes. -/
def closes : Bool := f.word.isSome && f.channel.closesItself

/-- The channel is forgotten when it closes, since nobody has a handle of it. -/
def forgets : Bool := f.closes && f.channel.orphaned

/-- A channel leaves the registry by this. -/
def strikes (c : ChannelId) : Bool := f.id == c && f.closes && f.before.order.contains c

/-- What listeners hear, one after another. -/
def heard : List Effect :=
  match f.word with
  | none => []
  | some word =>
    if f.forgets then []
    else (f.channel.listenersOf Event.close).map
      (·.effect ⟨Event.close, word, f.ref, f.joinRef <|> f.channel.joinRef⟩)

/-- What the hook and the listeners of the channel are told. -/
def told : List Call :=
  f.channel.hook.toList.map (fun callback => .hook callback Event.close f.payload f.ref) ++
    f.heard.map .effect

/-- The socket after the announcement, which leaves a number of levels to what it dispatches in turn. -/
def after (n : Nat) : Socket (Recorded (Watched ω)) :=
  dispatchTo (n + 1) f.id Event.close f.payload f.ref f.joinRef f.before

variable {f}

theorem isFarewell_of_mem_told {call : Call} (h : call ∈ f.told) : call.isFarewell = true := by
  rcases List.mem_append.mp h with h | h
  · obtain ⟨callback, _, rfl⟩ := List.mem_map.mp h
    rfl
  · obtain ⟨e, he, rfl⟩ := List.mem_map.mp h
    unfold heard at he
    split at he
    · cases he
    · split at he
      · cases he
      · obtain ⟨l, _, rfl⟩ := List.mem_map.mp he
        cases l <;> rfl

theorem concernsPush_heard : ∀ e ∈ f.heard, e.concernsPush = false := by
  intro e he
  unfold heard at he
  split at he
  · cases he
  · split at he
    · cases he
    · obtain ⟨l, _, rfl⟩ := List.mem_map.mp he
      cases l <;> rfl

variable [Obliging ω]

theorem asked_found : f.asked.channels.get? f.id = some f.channel :=
  ((quiet_passHook f.before f.channel Event.close f.payload f.ref).get? f.id).trans f.found

/-- Once the channel has closed its other bindings for the closing tell their listeners, unless it is
forgotten. -/
theorem walk_closed (dispatch : Dispatch (Recorded (Watched ω))) {event : InboundEvent}
    (hevent : event.event = Event.close) (h : f.channel.Fitting) {rest : List Binding}
    (hrest : ∀ b ∈ rest, b ∈ f.channel.closers ∧ b.IsListener) :
    (rest.map (·.number)).foldl (runBinding dispatch f.id event) (f.asked.closeChannel f.id) =
      (f.asked.closeChannel f.id).performAll (if f.channel.orphaned then []
        else (rest.filterMap Binding.listener?).map (·.effect event)) := by
  have hcloses := closes_closeChannel f.asked_found
  by_cases horphaned : f.channel.orphaned = true
  · have hgone := hcloses.get?_self
    rw [if_pos horphaned] at hgone
    rw [if_pos horphaned]
    exact walk_gone _ _ _ hgone
  · have hclosed := hcloses.get?_self
    rw [if_neg horphaned] at hclosed
    rw [if_neg horphaned]
    set closed : Channel := { f.channel with
      rejoinTimer := f.channel.rejoinTimer.reset, state := .closed } with hclosedeq
    have hsame : closed.Fitting ∧ f.channel.SameClosing closed := h.keep_pushes rfl rfl rfl rfl
    exact walk_closers _ hevent hsame.1 (fun b hb => hsame.2.closers.symm ▸ hrest b hb) hclosed

/-- To announce a closing asks the hook, closes the channel, and tells the listeners. -/
theorem after_eq (h : f.channel.Fitting) (n : Nat) :
    f.after n = (if f.closes then f.asked.closeChannel f.id else f.asked).performAll f.heard := by
  have hfound := f.asked_found
  have hdispatch : f.after n = match f.word with
      | none => f.asked
      | some word => f.asked.runBindings (dispatchTo n) f.id ⟨Event.close, word, f.ref, f.joinRef⟩ := by
    simp only [after, dispatchTo, dispatchWith, f.found, word, asked]
    split
    · rename_i heq
      rw [heq]
    · rename_i heq
      rw [heq]
  rw [hdispatch]
  cases hword : f.word with
  | none =>
    simp only [closes, heard, hword, Option.isSome_none, Bool.false_and, Bool.false_eq_true, if_false]
    rfl
  | some word =>
    set event : InboundEvent := ⟨Event.close, word, f.ref, f.joinRef <|> f.channel.joinRef⟩ with hevent
    have hwalk : f.asked.runBindings (dispatchTo n) f.id ⟨Event.close, word, f.ref, f.joinRef⟩ =
        (f.channel.closers.map (·.number)).foldl (runBinding (dispatchTo n) f.id event) f.asked := by
      simp only [runBindings, hfound, Channel.bindingsOf, Channel.closers, hevent]
    have hlisteners : f.channel.listenersOf Event.close =
        f.channel.closers.filterMap Binding.listener? := rfl
    simp only [hwalk]
    rcases h.closers_cases with ⟨hown, hall⟩ | ⟨b, rest, hclosers, htarget, hown, hrest⟩
    · simp only [closes, heard, forgets, hword, hown, Option.isSome_some, Bool.true_and,
        Bool.false_and, Bool.false_eq_true, if_false, ← hevent, hlisteners]
      exact walk_closers _ rfl h (fun b hb => ⟨hb, hall b hb⟩) hfound
    · have hmem : b ∈ f.channel.closers := hclosers ▸ List.mem_cons_self
      have hstep : f.asked.runBinding (dispatchTo n) f.id event b.number =
          f.asked.closeChannel f.id := by
        simp only [runBinding, hfound, Option.bind_some, hevent, h.binding? hmem, runTarget, htarget]
      have hnone : b.listener? = none := by simp only [Binding.listener?, htarget]
      simp only [closes, heard, forgets, hword, hown, Option.isSome_some, Bool.true_and, if_true,
        hlisteners, hclosers, List.map_cons, List.foldl_cons, hstep, List.filterMap_cons_none hnone,
        ← hevent]
      refine walk_closed _ rfl h fun b hb => ⟨?_, hrest b hb⟩
      exact hclosers ▸ List.mem_cons_of_mem _ hb

/-- If the channel closes it does nothing else. -/
theorem closes_after (h : f.channel.Fitting) (n : Nat) (hcloses : f.closes = true) :
    Closes f.id f.channel f.before (f.after n) := by
  have hasked : Quiet f.before f.asked := quiet_passHook _ _ _ _ _
  rw [f.after_eq h n, if_pos hcloses]
  exact ((closes_closeChannel f.asked_found).of_quiet hasked).quiet
    (quiet_performAll _ concernsPush_heard)

/-- If it does not close, nothing becomes of it or of any other channel. -/
theorem quiet_after (h : f.channel.Fitting) (n : Nat) (hstays : f.closes = false) :
    Quiet f.before (f.after n) := by
  have hasked : Quiet f.before f.asked := quiet_passHook _ _ _ _ _
  rw [f.after_eq h n, hstays]
  exact hasked.trans (quiet_performAll _ concernsPush_heard)

omit [Obliging ω] in
/-- Of the closing the hook is told before anybody else is. -/
theorem made_asked : ∃ made, f.asked.made = f.before.made ++ made ∧
    made.filter Call.isFarewell =
      f.channel.hook.toList.map fun callback => .hook callback Event.close f.payload f.ref := by
  unfold asked passHook
  split
  · rename_i hnone
    exact ⟨[], (List.append_nil _).symm, by rw [hnone]; rfl⟩
  · rename_i callback hhook
    rw [hhook]
    dsimp only
    split
    · exact ⟨[.hook callback Event.close f.payload f.ref], rfl, rfl⟩
    · split
      · -- The hook has withheld a payload, and the socket reports that.
        set u : Socket (Recorded (Watched ω)) := { f.before with
          exchange := (Outside.hook callback Event.close f.payload f.ref f.before.exchange
            f.before.outside).2.1
          outside := (Outside.hook callback Event.close f.payload f.ref f.before.exchange
            f.before.outside).2.2 } with hu
        obtain ⟨made, hmade, hcalls⟩ :=
          (strokes_report u (hookViolation f.channel.topic Event.close)).unsaid
        refine ⟨.hook callback Event.close f.payload f.ref :: made, ?_, ?_⟩
        · refine hmade.trans ?_
          rw [List.append_cons]
          rfl
        · rw [List.filter_cons_of_pos rfl, List.filter_eq_nil_iff.mpr fun call hcall => by
            simp [hcalls call hcall]]
          rfl
      · exact ⟨[.hook callback Event.close f.payload f.ref], rfl, rfl⟩

/-- The hook and the listeners are told of the closing, and nobody else is. -/
theorem made_after (h : f.channel.Fitting) (n : Nat) :
    ∃ made, (f.after n).made = f.before.made ++ made ∧ made.filter Call.isFarewell = f.told := by
  obtain ⟨hooked, hhooked, hfarewells⟩ := f.made_asked
  obtain ⟨made, hmade, hcalls⟩ : Unsaid f.asked
      (if f.closes then f.asked.closeChannel f.id else f.asked) := by
    split
    · exact unsaid_closeChannel _ _
    · exact .of_eq rfl
  refine ⟨hooked ++ made ++ f.heard.map .effect, ?_, ?_⟩
  · rw [f.after_eq h n, made_performAll, hmade, hhooked]
    simp only [List.append_assoc]
  · have hself : (f.heard.map Call.effect).filter Call.isFarewell = f.heard.map .effect :=
      List.filter_eq_self.mpr fun call hcall =>
        isFarewell_of_mem_told (List.mem_append_right _ hcall)
    have hnone : made.filter Call.isFarewell = [] :=
      List.filter_eq_nil_iff.mpr fun call hcall => by simp [hcalls call hcall]
    rw [List.filter_append, List.filter_append, hfarewells, hnone, hself, List.append_nil]
    rfl

end Farewell

end Switchboard
