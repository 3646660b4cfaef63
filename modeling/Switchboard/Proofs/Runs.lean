import Switchboard.Proofs.Commands
import Switchboard.Proofs.Intact

/-!
# Runs of a socket

A run is any interleaving of what surrounds a socket and of the commands that it takes: handles post
requests, transports report, timers fire in any order and at any time, callbacks and hooks do the
same while they run, and the socket takes the first command of its queue.  A run may be restricted by
what is admitted as a command.

Main definitions

* `Socket.Step`, `Socket.Run`, `Socket.Reachable`;
* `Socket.Preserved`: something is kept by all that may happen;
* `Socket.Persists`: something is kept by each change of a channel, and when channels come and go.

Main results

* `Socket.Preserved.run`: what holds at first and is kept by each command holds at all times;
* `Socket.Persists.preserved`: what each change keeps is kept by all that may happen;
* `Socket.Reachable.sound`: every socket is sound at all times;
* `Socket.preserved_intact`: channels stay intact where users leave them alone.
-/

set_option autoImplicit false

namespace Switchboard

/-- A command asks channels for certain operations only. -/
def Command.Within (asks : ChannelOp → Prop) : Command → Prop
  | .channel _ op => asks op
  | _ => True

/-- A prompt is a certain operation, or none. -/
def Prompt.Within (asks : ChannelOp → Prop) : Prompt → Prop
  | .op request => asks request
  | _ => True

theorem Command.within_true (cmd : Command) : cmd.Within fun _ => True := by
  cases cmd <;> trivial

theorem Command.Spares.within {names : String → Prop} {cmd : Command} (h : cmd.Spares names) :
    cmd.Within (·.Spares names) := by
  cases cmd <;> exact h

namespace Socket

variable {ω : Type} {s t u : Socket (Recorded ω)} {c : ChannelId} {ch : Channel} {cmd : Command}
variable {x : Exchange}

/-! ### Commands are taken -/

theorem quiet_next? (h : s.exchange.next? = some (cmd, x)) : Quiet s { s with exchange := x } :=
  ⟨rfl, rfl, Exchange.evolves_next? h, (List.append_nil _).symm⟩

/-- The number of a command that was just taken was never used. -/
theorem due_of_next? (hs : Sound s) (h : s.exchange.next? = some (cmd, x)) :
    Due { s with exchange := x } cmd := by
  refine ⟨fun hn => ?_, fun hn => ?_, fun hn => ?_⟩
  · obtain ⟨hspent, hnot⟩ := Exchange.spent_of_next? hs.tidy h hn
    refine ⟨hspent, Option.eq_none_iff_forall_ne_some.mpr fun ch hc => ?_⟩
    exact hnot (hs.channels hc).known
  · obtain ⟨hspent, hnot⟩ := Exchange.spent_of_next? hs.tidy h hn
    refine ⟨hspent, ?_, fun hc => Option.eq_none_iff_forall_ne_some.mpr fun q hq => ?_⟩
    · rintro rfl
      exact hnot (Exchange.spent_of_lt_first hs.tidy (Nat.lt_succ_self _))
    · exact hnot ((hs.channels hc).pushes hq)
  · obtain ⟨hspent, hnot⟩ := Exchange.spent_of_next? hs.tidy h hn
    refine ⟨hspent, fun hc b hb heq => ?_⟩
    exact hnot (heq ▸ (hs.channels hc).numbers b hb)

section Outside

variable [Outside ω]

/-! ### Runs -/

/-- What may happen next, where only some commands are admitted. -/
inductive Step (admits : Socket (Recorded ω) → Command → Prop) :
    Socket (Recorded ω) → Socket (Recorded ω) → Prop
  /-- What surrounds the socket acts and changes; the records are the socket's own. -/
  | surroundings {s : Socket (Recorded ω)} {x : Exchange} (acts : s.exchange.Acts x) (o : ω) :
    Step admits s { s with exchange := x, outside := ⟨o, s.log, s.dealings⟩ }
  /-- The socket takes the first command of its queue. -/
  | take {s : Socket (Recorded ω)} {cmd : Command} {x : Exchange}
    (next : s.exchange.next? = some (cmd, x)) (admitted : admits { s with exchange := x } cmd) :
    Step admits s ({ s with exchange := x }.handle cmd)
  /-- The socket is given up. -/
  | abandon (s : Socket (Recorded ω)) : Step admits s s.shutdown

/-- Any number of steps. -/
abbrev Run (admits : Socket (Recorded ω) → Command → Prop) :
    Socket (Recorded ω) → Socket (Recorded ω) → Prop := Relation.ReflTransGen (Step admits)

/-- A socket that a run can come to. -/
def Reachable (admits : Socket (Recorded ω) → Command → Prop) (s : Socket (Recorded ω)) : Prop :=
  ∃ endpoint config factory outside,
    Run admits (Socket.new endpoint config factory ⟨outside, [], []⟩) s

variable {admits : Socket (Recorded ω) → Command → Prop}

/-- Where every command is admitted, to take the next command is a step. -/
theorem step_of_step? (h : s.step? = some t) : Step (fun _ _ => True) s t := by
  unfold step? at h
  split at h
  · cases h
  · rename_i cmd x hnext
    cases h
    exact .take hnext trivial

theorem Reachable.step (h : Reachable admits s) (h' : Step admits s t) : Reachable admits t := by
  obtain ⟨endpoint, config, factory, outside, run⟩ := h
  exact ⟨endpoint, config, factory, outside, run.tail h'⟩

omit [Outside ω] in
theorem sound_new (endpoint : String) (config : Config) (factory : Factory) (outside : Recorded ω) :
    Sound (Socket.new endpoint config factory outside) where
  tidy := Exchange.tidy_new
  channels hc := by cases hc
  apart _ := by
    intro c d ch ch' p p' q q' r hc
    cases hc
  registered := by simp [Socket.new]
  nodup := List.nodup_nil

variable [Obliging ω]

/-- Something is kept by all that may happen to a sound socket. -/
structure Preserved (admits : Socket (Recorded ω) → Command → Prop)
    (I : Socket (Recorded ω) → Prop) : Prop where
  quiet : ∀ {s t}, I s → Quiet s t → I t
  ends : ∀ {s t}, I s → Ends s t → I t
  handle : ∀ {s cmd x}, Sound s → I s → s.exchange.next? = some (cmd, x) →
    admits { s with exchange := x } cmd → I ({ s with exchange := x }.handle cmd)

theorem sound_handle (hs : Sound s) (h : s.exchange.next? = some (cmd, x)) :
    Sound ({ s with exchange := x }.handle cmd) :=
  have hx := hs.quiet (quiet_next? h)
  (strides_handle hx cmd (due_of_next? hs h)).sound hx

theorem Preserved.step {I : Socket (Recorded ω) → Prop} (hI : Preserved admits I)
    (h : Step admits s t) (hs : Sound s) (hs' : I s) : Sound t ∧ I t := by
  cases h with
  | @surroundings x acts o =>
    have hq : Quiet s { s with exchange := x, outside := ⟨o, s.log, s.dealings⟩ } :=
      ⟨rfl, rfl, acts.evolves, (List.append_nil _).symm⟩
    exact ⟨hs.quiet hq, hI.quiet hs' hq⟩
  | take next admitted => exact ⟨sound_handle hs next, hI.handle hs hs' next admitted⟩
  | abandon => exact ⟨(ends_shutdown s).sound hs, hI.ends hs' (ends_shutdown s)⟩

/-- What holds at first and is kept by all that may happen holds at all times. -/
theorem Preserved.run {I : Socket (Recorded ω) → Prop} (hI : Preserved admits I)
    (h : Run admits s t) (hs : Sound s) (hs' : I s) : Sound t ∧ I t := by
  induction h with
  | refl => exact ⟨hs, hs'⟩
  | tail _ step ih => exact hI.step step ih.1 ih.2

theorem Preserved.reachable {I : Socket (Recorded ω) → Prop} (hI : Preserved admits I)
    (hnew : ∀ endpoint config factory outside, I (Socket.new endpoint config factory ⟨outside, [], []⟩))
    (h : Reachable admits s) : Sound s ∧ I s := by
  obtain ⟨endpoint, config, factory, outside, run⟩ := h
  exact hI.run run (sound_new _ _ _ _) (hnew _ _ _ _)

theorem Reachable.sound (h : Reachable admits s) : Sound s :=
  (Preserved.reachable ⟨fun _ _ => trivial, fun _ _ => trivial, fun _ _ _ _ => trivial⟩
    (fun _ _ _ _ => trivial) h : Sound s ∧ True).1

/-! ### What persists -/

/-- Something persists whatever happens, where handles ask channels for certain operations only. -/
structure Persists (asks : ChannelOp → Prop) (I : Socket (Recorded ω) → Prop) : Prop where
  quiet : ∀ {s t}, I s → Quiet s t → I t
  rough : ∀ {k c s t}, Sound s → I s → Prompt.Within asks k → Rough k c s t → I t
  enters : ∀ {c topic s t}, I s → Enters c topic s t → I t
  erases : ∀ {c s t}, I s → Erases c s t → I t
  ends : ∀ {s t}, I s → Ends s t → I t

variable {asks : ChannelOp → Prop} {I : Socket (Recorded ω) → Prop} {k : Prompt}
variable {s₀ : Socket (Recorded ω)}

omit [Outside ω] [Obliging ω] in
theorem Heeds.within (h : Heeds s₀ cmd k c s) (hcmd : cmd.Within asks) : k.Within asks := by
  cases k with
  | op op =>
    obtain ⟨rfl, -⟩ := h
    exact hcmd
  | message m => trivial
  | failure => trivial
  | reply r payload => trivial

namespace Persists

omit [Outside ω] [Obliging ω] in
theorem roughly (hI : Persists asks I) (hs : Sound s) (hs' : I s) (hk : k.Within asks)
    (h : Roughly k c s t) : I t := by
  induction h with
  | refl => exact hs'
  | tail roughly rough ih => exact hI.rough (Roughly.sound roughly hs) ih hk rough

theorem leave {p : PushId} (hI : Persists asks I) (hs : Sound s) (hs' : I s)
    (hc : s.channels.get? c = some ch) (hspent : s.exchange.Spent (.pushes c) p)
    (hfree : ch.pushes.get? p = none) (hother : p ≠ joinPush) (timeout : Nat) (detached : Bool) :
    I (s.leave c p timeout detached) := by
  obtain ⟨t, _, _, _, hrough, _, _, _, hmoves⟩ :=
    roughly_leave (k := .failure) hs hc hspent hfree hother timeout detached
  have ht : I t := hI.rough (k := .failure) hs hs' trivial hrough
  exact hI.roughly (k := .reply _ _) (hrough.sound hs) ht trivial hmoves.roughly

theorem leaveOpenTopic (hI : Persists asks I) (hs : Sound s) (hs' : I s) (topic : String)
    (c : ChannelId) : I (s.leaveOpenTopic topic c) := by
  rcases leaveOpenTopic_cases hs topic c with ⟨_, heq⟩ |
    ⟨d, ch, p, t, _, _, _, hch, _, _, hquiet, _, hspent, hfree, hother, heq⟩
  · rw [heq]
    exact hs'
  · rw [heq]
    exact hI.leave (hs.quiet hquiet) (hI.quiet hs' hquiet) (hquiet.get? d ▸ hch) hspent hfree hother
      ch.timeout true

theorem stride (hI : Persists asks I) (hs : Sound s) (hs' : I s) (hcmd : cmd.Within asks)
    (h : Stride s₀ cmd s t) : I t := by
  cases h with
  | quiet quiet => exact hI.quiet hs' quiet
  | move heeds move => exact hI.rough hs hs' (heeds.within hcmd) (.move move)
  | @expire _ c p generation command =>
    rcases roughly_pushTimeout hs c p generation with heq | ⟨_, _, k, _, _, _, hk, hrough⟩
    · rw [heq]
      exact hs'
    · refine hI.roughly hs hs' ?_ hrough
      rcases hk with rfl | ⟨r, _, rfl⟩ <;> trivial
  | leave command channel spent free other => exact hI.leave hs hs' channel spent free other _ _
  | @rejoin _ c ch f channel same cause =>
    have hmove : Move .failure c s (s.modifyChannel c f) := move_alike channel same
    have hs₁ := hmove.sound hs
    have ht : I (s.modifyChannel c f) := hI.rough (k := .failure) hs hs' trivial (.move hmove)
    rcases rejoin_cases hs₁ (works_modifyChannel channel f).get? with ⟨_, heq⟩ | ⟨hstays, hget, heq⟩
    · rw [heq]
      exact ht
    · rw [heq]
      exact hI.rough (k := .failure) (sound_leaveOpenTopic hs₁ _ c) (hI.leaveOpenTopic hs₁ ht _ c)
        trivial (rough_attempt (sound_leaveOpenTopic hs₁ _ c) hget hstays)
  | enters command spent free enters => exact hI.enters hs' enters
  | erases unlisted erases => exact hI.erases hs' erases
  | ends ends => exact hI.ends hs' ends

theorem strides (hI : Persists asks I) (hs : Sound s) (hs' : I s) (hcmd : cmd.Within asks)
    (h : Strides s₀ cmd s t) : I t := by
  induction h with
  | refl => exact hs'
  | tail strides stride ih => exact hI.stride (Strides.sound strides hs) ih hcmd stride

/-- What each change keeps is kept by all that may happen. -/
theorem preserved (hI : Persists asks I) (hadmits : ∀ s cmd, admits s cmd → cmd.Within asks) :
    Preserved admits I where
  quiet := hI.quiet
  ends := hI.ends
  handle hs hs' hnext hadmit := by
    have hq := quiet_next? hnext
    exact hI.strides (hs.quiet hq) (hI.quiet hs' hq) (hadmits _ _ hadmit)
      (strides_handle (hs.quiet hq) _ (due_of_next? hs hnext))

end Persists

/-! ### What holds of every channel -/

/-- What every channel has, and each of its changes keeps. -/
structure Everywhere (P : Channel → Prop) : Prop where
  fresh : ∀ topic params timeout refs, P (.new topic params timeout refs)
  rough : ∀ {k : Prompt} {c : ChannelId} {s t : Socket (Recorded ω)} {ch' : Channel}, Rough k c s t →
    Sound s → (∀ {ch}, s.channels.get? c = some ch → P ch) → t.channels.get? c = some ch' → P ch'

/-- Something holds of every channel. -/
def Throughout (P : Channel → Prop) (s : Socket (Recorded ω)) : Prop :=
  ∀ ⦃c ch⦄, s.channels.get? c = some ch → P ch

variable {P : Channel → Prop}

omit [Outside ω] [Obliging ω] in
/-- What new channels have persists in every channel if changes of channels keep it. -/
theorem persists_throughout (hfresh : ∀ topic params timeout refs, P (.new topic params timeout refs))
    (hrough : ∀ {k c} {s t : Socket (Recorded ω)}, Sound s → Throughout P s → Prompt.Within asks k →
      Rough k c s t → Throughout P t) : Persists (ω := ω) asks (Throughout P) where
  quiet hs' hq c _ hc := hs' (hq.get? c ▸ hc)
  rough := hrough
  enters hs' he c ch hc := by
    rcases he.get? c hc with hold | ⟨_, params, timeout, refs, rfl⟩
    · exact hs' hold
    · exact hfresh _ params timeout refs
  erases hs' he _ _ hc := hs' (he.get? hc).2
  ends _ he c ch hc := by
    rw [he.channels_eq, Table.get?_empty] at hc
    cases hc

omit [Outside ω] [Obliging ω] in
theorem Everywhere.persists (hP : Everywhere (ω := ω) P) :
    Persists (ω := ω) (fun _ => True) (Throughout P) := by
  refine persists_throughout hP.fresh fun {k c s t} hs hs' _ h d ch hd => ?_
  by_cases hdc : d = c
  · subst hdc
    exact hP.rough h hs (fun hc => hs' hc) hd
  · exact hs' (h.frame.others hdc ▸ hd)

/-- What each change of a channel keeps holds of every channel at all times. -/
theorem Reachable.throughout (h : Reachable admits s) (hP : Everywhere (ω := ω) P) :
    Throughout P s := by
  have hpreserved : Preserved admits (Throughout P) :=
    hP.persists.preserved fun _ cmd _ => Command.within_true cmd
  refine (hpreserved.reachable (fun _ _ _ _ c ch hc => ?_) h).2
  cases hc

/-! ### Runs in which users leave something alone -/

variable {names : String → Prop}

omit [Outside ω] [Obliging ω] in
theorem Heeds.spares (h : Heeds s₀ cmd k c s) (hcmd : cmd.Spares names) : k.Spares names := by
  cases k <;> exact h.within (Command.Spares.within hcmd)

omit [Outside ω] [Obliging ω] in
theorem persists_intact : Persists (ω := ω) (·.Spares names) (Intact names) := by
  refine persists_throughout (fun _ _ _ _ => ⟨rfl, fun b hb _ => hb⟩) fun {k _ _ _} hs hi hk h => ?_
  exact h.intact (by cases k <;> exact hk) hs hi

omit [Outside ω] [Obliging ω] in
theorem Ends.intact (h : Ends s t) : Intact names t := by
  intro d ch hd
  rw [h.channels_eq] at hd
  cases hd

theorem intact_leave {p : PushId} (hs : Sound s) (hi : Intact names s)
    (hc : s.channels.get? c = some ch) (hspent : s.exchange.Spent (.pushes c) p)
    (hfree : ch.pushes.get? p = none) (hother : p ≠ joinPush) (timeout : Nat) (detached : Bool) :
    Intact names (s.leave c p timeout detached) :=
  persists_intact.leave hs hi hc hspent hfree hother timeout detached

theorem intact_leaveOpenTopic (hs : Sound s) (hi : Intact names s) (topic : String)
    (c : ChannelId) : Intact names (s.leaveOpenTopic topic c) :=
  persists_intact.leaveOpenTopic hs hi topic c

theorem Stride.intact (h : Stride s₀ cmd s t) (hcmd : cmd.Spares names) (hs : Sound s)
    (hi : Intact names s) : Intact names t :=
  persists_intact.stride hs hi (Command.Spares.within hcmd) h

/-- A run in which users install no hook and remove no binding with certain names. -/
abbrev Sparing (names : String → Prop) (_ : Socket (Recorded ω)) (cmd : Command) : Prop :=
  cmd.Spares names

theorem Strides.intact (h : Strides s₀ cmd s t) (hcmd : cmd.Spares names) (hs : Sound s)
    (hi : Intact names s) : Intact names t :=
  persists_intact.strides hs hi (Command.Spares.within hcmd) h

theorem preserved_intact (hadmits : ∀ s cmd, admits s cmd → cmd.Spares names) :
    Preserved admits (Intact names) :=
  persists_intact.preserved fun s cmd h => Command.Spares.within (hadmits s cmd h)

end Outside

end Socket

end Switchboard
