import Switchboard.Proofs.Failing
import Switchboard.Proofs.Joined
import Switchboard.Proofs.Watched

/-!
# A failure reaches the channels

When the connection of a socket fails, the channels that join or are joined are told of it, one after
another.  Each of them asks its hook, fails and tells its listeners; the others stay as they are.

Main definitions

* `Socket.concerned`: the channels that a failure concerns, in the order of registration;
* `Socket.facing`: what a channel is told, and the socket at that moment;
* `Channel.tidings`, `Call.isAlarm`: what a hook and listeners are told of a failure;
* `Socket.Told`: some channels have been told.

Main results

* `Socket.told_foldl`: what it is to tell the channels in turn;
* `Socket.told_triggerErrors`: what it is to tell them all.
-/

set_option autoImplicit false

namespace Switchboard

/-- What the hook and the listeners of a channel are told of a failure, after the hook has put some
payload in place of none. -/
def Channel.tidings (ch : Channel) (word : Payload) : List Call :=
  ch.hook.toList.map (fun callback => .hook callback Event.error .absent none) ++
    ch.followers.map fun l => .effect (l.effect ⟨Event.error, word, none, ch.joinRef⟩)

/-- A hook or a listener is told of a failure. -/
def Call.isAlarm : Call → Bool
  | .hook _ event _ _ => event == Event.error
  | .effect (.runEvent _ event) | .effect (.yield _ event) => event.event == Event.error
  | _ => false

theorem Channel.isAlarm_of_mem_tidings {ch : Channel} {word : Payload} {call : Call}
    (h : call ∈ ch.tidings word) : call.isAlarm = true := by
  rcases List.mem_append.mp h with h | h
  · obtain ⟨callback, _, rfl⟩ := List.mem_map.mp h
    rfl
  · obtain ⟨l, _, rfl⟩ := List.mem_map.mp h
    cases l <;> rfl

/-- In a list that begins with some entries and another one, these stand before that one. -/
theorem takeWhile_ne_of_prefix {α : Type} [DecidableEq α] {a : α} {l all : List α}
    (hl : l ++ [a] <+: all) (hnot : a ∉ l) : all.takeWhile (· ≠ a) = l := by
  obtain ⟨rest, rfl⟩ := hl
  rw [List.append_assoc, List.takeWhile_append_of_pos]
  · simp
  · intro b hb
    simpa using fun heq : b = a => hnot (heq ▸ hb)

/-- What is watched acts on the exchange as it would otherwise. -/
instance {ω : Type} [Outside ω] [Obliging ω] : Obliging (Watched ω) where
  perform e x w := Obliging.perform e x w.outside
  hook callback event payload ref x w := Obliging.hook callback event payload ref x w.outside
  runError callback failure context x w := Obliging.runError callback failure context x w.outside

namespace Socket

section Outside

variable {ω : Type} [Outside ω] {s : Socket ω} {c d : ChannelId} {ch : Channel} {x : Exchange}

/-! ### Whom a failure concerns -/

/-- A failure of the connection concerns a channel. -/
def isConcerned (s : Socket ω) (c : ChannelId) : Bool :=
  (s.channels.get? c).any Channel.acceptsError

/-- The registered channels that a failure of the connection concerns, in the order of registration. -/
def concerned (s : Socket ω) : List ChannelId := s.order.filter s.isConcerned

omit [Outside ω] in
theorem isConcerned_eq (hc : s.channels.get? c = some ch) : s.isConcerned c = ch.acceptsError := by
  simp only [isConcerned, hc, Option.any_some]

omit [Outside ω] in
theorem mem_concerned (hc : s.channels.get? c = some ch) :
    c ∈ s.concerned ↔ c ∈ s.order ∧ ch.acceptsError = true := by
  rw [concerned, List.mem_filter, isConcerned_eq hc]

/-! ### One channel is told -/

/-- A channel that is told of a failure becomes one that has failed, and nothing else of the registry and
the connection changes. -/
theorem triggerError_frame (hc : s.channels.get? c = some ch) (hs : ch.Sound x c) (hf : ch.FailsFirst) :
    (s.triggerError c).channels = s.channels.set c (ch.fallen (s.alert c).2.isConnected) ∧
      (s.triggerError c).order = s.order ∧ (s.triggerError c).conn = s.conn := by
  have hasked := alert_eq s c
  set u := (s.alert c).2 with hu
  have hcu : u.channels.get? c = some ch := by
    rw [hasked]
    exact hc
  have hperformed := performAll_eq (u.failChannel c)
    (ch.followers.map (·.effect ⟨Event.error, (s.alert c).1, none, ch.joinRef⟩))
  rw [triggerError_eq hc hs hf, ← hu, hperformed, failChannel_eq hcu]
  refine ⟨?_, ?_, ?_⟩
  · exact congrArg (·.channels.set c (ch.fallen u.isConnected)) hasked
  · exact congrArg (·.order) hasked
  · exact congrArg (·.conn) hasked

end Outside

variable {ω : Type} [Outside ω]

/-! ### What is asked of the surroundings -/

/-- All that a socket has asked of its surroundings. -/
def made (s : Socket (Recorded (Watched ω))) : List Call := s.outside.outside.calls

theorem made_perform (s : Socket (Recorded (Watched ω))) (e : Effect) :
    (s.perform e).made = s.made ++ [.effect e] := rfl

theorem made_performAll (s : Socket (Recorded (Watched ω))) (es : List Effect) :
    (s.performAll es).made = s.made ++ es.map .effect := by
  induction es generalizing s with
  | nil => simp [performAll]
  | cons e es ih =>
    refine (ih (s.perform e)).trans ?_
    rw [made_perform, List.append_assoc]
    rfl

variable {s t u : Socket (Recorded (Watched ω))} {c d : ChannelId} {ch : Channel} {x : Exchange}

theorem made_alert (hc : s.channels.get? c = some ch) : (s.alert c).2.made =
    s.made ++ ch.hook.toList.map fun callback => .hook callback Event.error .absent none := by
  simp only [alert, hc]
  cases hhook : ch.hook with
  | none => simp [passHook, hhook]
  | some callback =>
    simp only [passHook, hhook, Option.toList_some, List.map_cons, List.map_nil]
    split
    · rfl
    · rfl

/-- A channel that is told of a failure asks its hook and tells its listeners. -/
theorem made_triggerError (hc : s.channels.get? c = some ch) (hs : ch.Sound x c)
    (hf : ch.FailsFirst) : (s.triggerError c).made = s.made ++ ch.tidings (s.alert c).1 := by
  have hcu : (s.alert c).2.channels.get? c = some ch := by
    rw [alert_eq]
    exact hc
  have hfailed : ((s.alert c).2.failChannel c).made = (s.alert c).2.made := by
    rw [failChannel_eq hcu]
    rfl
  rw [triggerError_eq hc hs hf, made_performAll, hfailed, made_alert hc, List.append_assoc,
    List.map_map]
  rfl

/-! ### The channels are told in turn -/

/-- What a channel is told of a failure, and the socket at that moment: the channels before it have been
told, and its own hook has been asked. -/
def facing {ω : Type} [Outside ω] (s : Socket (Recorded ω)) (c : ChannelId) :
    Payload × Socket (Recorded ω) :=
  ((s.order.takeWhile (· ≠ c)).foldl tellFailure s).alert c

theorem facing_of_ahead {ω : Type} [Outside ω] {s : Socket (Recorded ω)} {l : List ChannelId}
    (hl : l ++ [c] <+: s.order) (hnot : c ∉ l) : s.facing c = (l.foldl tellFailure s).alert c := by
  rw [facing, takeWhile_ne_of_prefix hl hnot]

/-- Some channels have been told of a failure, as far as it concerns them. -/
structure Told (s : Socket (Recorded (Watched ω))) (l : List ChannelId)
    (t : Socket (Recorded (Watched ω))) : Prop where
  sound : Sound t
  failsFirst : Throughout Channel.FailsFirst t
  once : t = (l.filter s.isConcerned).foldl triggerError s
  order_eq : t.order = s.order
  conn_eq : t.conn = s.conn
  get? : ∀ c, t.channels.get? c = (s.channels.get? c).map fun ch =>
    if c ∈ l ∧ ch.acceptsError = true then ch.fallen (s.facing c).2.isConnected else ch
  made_eq : t.made = s.made ++ (l.filter s.isConcerned).flatMap fun c =>
    (s.channels.get? c).elim [] (·.tidings (s.facing c).1)

/-- A channel that the failure does not concern is passed over. -/
theorem Told.skip {l : List ChannelId} (h : Told s l t) (hc : s.channels.get? c = some ch)
    (hleft : ch.acceptsError = false) : Told s (l ++ [c]) t := by
  have hfilter : (l ++ [c]).filter s.isConcerned = l.filter s.isConcerned := by
    simp [List.filter_append, isConcerned_eq hc, hleft]
  refine { h with once := hfilter ▸ h.once, get? := fun d => ?_, made_eq := hfilter ▸ h.made_eq }
  rw [h.get? d]
  by_cases hd : d = c
  · simp [hd, hc, hleft]
  · simp [hd]

variable [Obliging ω]

/-- A channel that the failure concerns fails, and its hook and its listeners are told. -/
theorem Told.tell {l : List ChannelId} (h : Told s l t) (hmem : c ∈ s.order)
    (hc : s.channels.get? c = some ch) (hct : t.channels.get? c = some ch)
    (hconcerned : ch.acceptsError = true) (hfacing : s.facing c = t.alert c) :
    Told s (l ++ [c]) (t.triggerError c) := by
  have htold : t.tellFailure c = t.triggerError c := by simp [tellFailure, hct, hconcerned]
  have hmoves : Moves .failure c t (t.triggerError c) :=
    htold ▸ moves_tellFailure h.sound (h.order_eq ▸ hmem)
  have hfilter : (l ++ [c]).filter s.isConcerned = l.filter s.isConcerned ++ [c] := by
    simp [List.filter_append, isConcerned_eq hc, hconcerned]
  have hch := h.sound.channels hct
  obtain ⟨hchannels, horder, hconn⟩ := triggerError_frame hct hch (h.failsFirst hct)
  refine ⟨hmoves.sound h.sound, ?_, ?_, horder.trans h.order_eq, hconn.trans h.conn_eq, ?_, ?_⟩
  · exact persists_failsFirst.roughly (k := .failure) h.sound h.failsFirst trivial hmoves.roughly
  · rw [hfilter, List.foldl_append, ← h.once]
    rfl
  · intro d
    by_cases hd : d = c
    · rw [hd, hchannels, Table.get?_set_self, hc, hfacing]
      simp [hconcerned]
    · rw [hmoves.frame.others hd, h.get? d]
      simp [hd]
  · rw [hfilter, made_triggerError hct hch (h.failsFirst hct), h.made_eq, List.flatMap_append,
      List.append_assoc, hfacing.symm]
    simp [hc]

/-- The next channel is told, if the failure concerns it. -/
theorem Told.next {l : List ChannelId} (h : Told s l t) (hl : l ++ [c] <+: s.order) (hnot : c ∉ l)
    (hfacing : s.facing c = t.alert c) : Told s (l ++ [c]) (t.tellFailure c) := by
  have hmem : c ∈ s.order := hl.subset (List.mem_append_right _ (List.mem_singleton_self c))
  obtain ⟨ch, hct⟩ := h.sound.registered c (h.order_eq ▸ hmem)
  have hc : s.channels.get? c = some ch := by
    have hbefore := (h.get? c).symm.trans hct
    simpa [hnot] using hbefore
  cases hconcerned : ch.acceptsError with
  | false =>
    have hsame : t.tellFailure c = t := by simp [tellFailure, hct, hconcerned]
    rw [hsame]
    exact h.skip hc hconcerned
  | true =>
    have htold : t.tellFailure c = t.triggerError c := by simp [tellFailure, hct, hconcerned]
    rw [htold]
    exact h.tell hmem hc hct hconcerned hfacing

/-- To tell the channels in turn: each that the failure concerns is told once. -/
theorem told_foldl (hs : Sound s) (hf : Throughout Channel.FailsFirst s) {l : List ChannelId}
    (hl : l <+: s.order) : Told s l (l.foldl tellFailure s) := by
  induction l using List.reverseRecOn with
  | nil => exact ⟨hs, hf, rfl, rfl, rfl, by simp, by simp⟩
  | append_singleton l c ih =>
    have hnot : c ∉ l := by
      have hnodup := hs.nodup.sublist hl.sublist
      exact fun hmem => (List.nodup_append.mp hnodup).2.2 c hmem c (List.mem_singleton_self c) rfl
    have htold := ih ((List.prefix_append l [c]).trans hl)
    rw [List.foldl_append]
    exact htold.next hl hnot (facing_of_ahead hl hnot)

/-- All channels have been told. -/
theorem told_triggerErrors (hs : Sound s) (hf : Throughout Channel.FailsFirst s) :
    Told s s.order s.triggerErrors :=
  told_foldl hs hf List.prefix_rfl

end Socket

end Switchboard
