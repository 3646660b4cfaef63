import Switchboard.Proofs.Strokes

/-!
# Watched surroundings

Surroundings together with a record of all that a socket asks of them: the effects that it lets happen,
the message hooks and the error callbacks that it runs, in their order.

Main definitions

* `Call`, `Watched`, `Socket.calls`: what a socket asks, and the record;
* `Call.IsOf`: a call is made for certain channels.

Main results

* `Socket.Strokes.calls`: all calls are made for the channels that the strokes are about.
-/

set_option autoImplicit false

namespace Switchboard

/-! ### Calls -/

/-- What a socket asks of its surroundings. -/
inductive Call where
  | effect (e : Effect)
  | hook (callback : CallbackId) (event : String) (payload : Payload) (ref : Option Ref)
  | error (callback : CallbackId) (failure : SocketError)

/-- A call is made for certain channels: an effect that tells of a push tells of theirs, an event is
heard by one of their listeners, and a hook is one of their hooks. -/
def Call.IsOf (about : ChannelId → Prop) (channels : Table Channel) : Call → Prop
  | .effect e => (∀ c, e.channel? = some c → about c) ∧
      ∀ l, e.listener? = some l → ∃ c ch, about c ∧ channels.get? c = some ch ∧ ch.Hears l
  | .hook callback _ _ _ => ∃ c ch, about c ∧ channels.get? c = some ch ∧ ch.hook = some callback
  | .error _ _ => True

/-- What is made for some channels is made for more of them. -/
theorem Call.IsOf.mono {about about' : ChannelId → Prop} {channels : Table Channel} {call : Call}
    (h : call.IsOf about channels) (hle : ∀ c, about c → about' c) : call.IsOf about' channels := by
  cases call with
  | effect e =>
    refine ⟨fun c hc => hle c (h.1 c hc), fun l hl => ?_⟩
    obtain ⟨c, ch, hc, hch, hears⟩ := h.2 l hl
    exact ⟨c, ch, hle c hc, hch, hears⟩
  | hook callback event payload ref =>
    obtain ⟨c, ch, hc, hch, hhook⟩ := h
    exact ⟨c, ch, hle c hc, hch, hhook⟩
  | error callback failure => trivial

/-- Surroundings with a record of all that they are asked. -/
structure Watched (ω : Type) where
  outside : ω
  calls : List Call

instance {ω : Type} [Outside ω] : Outside (Watched ω) where
  readyState w t := Outside.readyState w.outside t
  buffered w t := Outside.buffered w.outside t
  perform e x w :=
    let (x, o) := Outside.perform e x w.outside
    (x, ⟨o, w.calls ++ [.effect e]⟩)
  hook callback event payload ref x w :=
    let (result, x, o) := Outside.hook callback event payload ref x w.outside
    (result, x, ⟨o, w.calls ++ [.hook callback event payload ref]⟩)
  runError callback failure context x w :=
    let (context, x, o) := Outside.runError callback failure context x w.outside
    (context, x, ⟨o, w.calls ++ [.error callback failure]⟩)

namespace Socket

variable {ω : Type}

/-- All that a socket has asked of its surroundings. -/
def calls (s : Socket (Watched ω)) : List Call := s.outside.calls

section Outside

variable [Outside ω] {s t : Socket (Watched ω)} {about : ChannelId → Prop}

theorem calls_perform (s : Socket (Watched ω)) (e : Effect) :
    (s.perform e).calls = s.calls ++ [.effect e] := rfl

theorem calls_performAll (s : Socket (Watched ω)) (es : List Effect) :
    (s.performAll es).calls = s.calls ++ es.map .effect := by
  induction es generalizing s with
  | nil => simp [performAll]
  | cons e es ih =>
    refine (ih (s.perform e)).trans ?_
    rw [calls_perform, List.append_assoc]
    rfl

/-! ### Retired transports -/

/-- Effects change nothing but the surroundings and what is shared with them. -/
theorem performAll_eq {ω : Type} [Outside ω] (s : Socket ω) (es : List Effect) : s.performAll es =
    { s with exchange := (s.performAll es).exchange, outside := (s.performAll es).outside } := by
  induction es generalizing s with
  | nil => rfl
  | cons e es ih => exact ih (s.perform e)

/-- A retired transport has closed. -/
def retiredIsClosed {ω : Type} [Outside ω] (s : Socket ω) (c : Connection) : Bool :=
  Outside.readyState s.outside c.transport == .closed

/-- The retired transports that are still closing are kept; nothing else is touched. -/
theorem pruneRetired_eq {ω : Type} [Outside ω] (s : Socket ω) : s.pruneRetired = { s with
    retired := s.retired.filter fun c => !s.retiredIsClosed c
    exchange := s.pruneRetired.exchange
    outside := s.pruneRetired.outside } :=
  performAll_eq { s with retired := s.retired.filter fun c => !s.retiredIsClosed c } _

/-- Those that have closed are given up. -/
theorem calls_pruneRetired (s : Socket (Watched ω)) : s.pruneRetired.calls =
    s.calls ++ (s.retired.filter s.retiredIsClosed).map fun c => .effect (.release c.transport) := by
  refine (calls_performAll _ _).trans ?_
  rw [List.map_map]
  rfl

/-! ### Calls of strokes -/

/-- A stroke makes one call at most, for the channels that it is about. -/
theorem Stroke.calls (h : Stroke about s t) : t.calls = s.calls ∨
    ∃ call, t.calls = s.calls ++ [call] ∧ call.IsOf about s.channels := by
  cases h with
  | draw attached => exact .inl rfl
  | aside aside => exact .inl (congrArg Watched.calls aside.outside)
  | alter among within => exact .inl rfl
  | strike among => exact .inl rfl
  | erase among => exact .inl rfl
  | perform among heard => exact .inr ⟨_, rfl, fun _ hc => among.channel hc, heard⟩
  | hook among channel hook event payload ref => exact .inr ⟨_, rfl, _, _, among, channel, hook⟩
  | error callback failure context => exact .inr ⟨.error callback failure, rfl, trivial⟩

/-- A call that is made for channels as they have become is made for them as they were. -/
theorem Strokes.isOf_before {ω : Type} [Outside ω] {s t : Socket ω} (h : Strokes about s t)
    {call : Call} (hcall : call.IsOf about t.channels) : call.IsOf about s.channels := by
  cases call with
  | effect e =>
    refine ⟨hcall.1, fun l hl => ?_⟩
    obtain ⟨c, ch', hc, hch', hears⟩ := hcall.2 l hl
    obtain ⟨ch, hch, hwithin⟩ := h.within hch'
    exact ⟨c, ch, hc, hch, hwithin.hears hears⟩
  | hook callback event payload ref =>
    obtain ⟨c, ch', hc, hch', hhook⟩ := hcall
    obtain ⟨ch, hch, hwithin⟩ := h.within hch'
    exact ⟨c, ch, hc, hch, hwithin.hook.symm.trans hhook⟩
  | error callback failure => trivial

/-- All calls of strokes are made for the channels that they are about, by hooks and listeners that
these channels had before. -/
theorem Strokes.calls (h : Strokes about s t) :
    ∃ calls, t.calls = s.calls ++ calls ∧ ∀ call ∈ calls, call.IsOf about s.channels := by
  induction h with
  | refl => exact ⟨[], (List.append_nil _).symm, by simp⟩
  | tail strokes stroke ih =>
    obtain ⟨calls, hcalls, hof⟩ := ih
    rcases stroke.calls with heq | ⟨call, heq, hcall⟩
    · exact ⟨calls, heq.trans hcalls, hof⟩
    · refine ⟨calls ++ [call], by rw [heq, hcalls, List.append_assoc], ?_⟩
      intro call' hmem
      rcases List.mem_append.mp hmem with hmem | hmem
      · exact hof call' hmem
      · rw [List.mem_singleton.mp hmem]
        exact Strokes.isOf_before strokes hcall

end Outside

end Socket

end Switchboard
