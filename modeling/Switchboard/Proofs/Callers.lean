import Switchboard.Proofs.Courses
import Switchboard.Proofs.Errands

/-!
# Callers of a disconnect

Each slot that came with a disconnect is kept by the teardown in flight until its owner is told, through
any number of teardowns that take each other's place.  An owner is told once, and where there is no
connection.  Only the end of the socket drops slots.

Main definitions

* `Socket.informed`: the callers that were told of their disconnect;
* `Custody.slots`: the slots at hand, those of the teardown in flight, and those whose owners were told.

Main results

* `Socket.Errand.slots`: no errand loses a slot, or makes one of two;
* `Socket.Errands.moment`: a caller is told at a moment when there is no connection;
* `Socket.no_disconnect_caller_forgotten`: what becomes of the slots at all times.
-/

set_option autoImplicit false

namespace Switchboard

/-- Who is told of a disconnect by a call. -/
def Call.told? : Call → Option Ticket
  | .effect (.answer ticket .disconnected) => some ticket
  | _ => none

namespace Socket

variable {ω : Type}

/-- The callers that were told of their disconnect, in the order in which they were told. -/
def informed (s : Socket (Watched ω)) : List Ticket := s.calls.filterMap Call.told?

theorem informed_of_calls {s t : Socket (Watched ω)} {calls : List Call}
    (h : t.calls = s.calls ++ calls) : t.informed = s.informed ++ calls.filterMap Call.told? := by
  rw [informed, h, List.filterMap_append]
  rfl

theorem informed_of_call {s t : Socket (Watched ω)} {call : Call}
    (h : t.calls = s.calls ++ [call]) (hcall : call.told? = none) : t.informed = s.informed := by
  rw [informed_of_calls h, List.filterMap_cons, hcall]
  exact List.append_nil _

variable [Outside ω] {s t : Socket (Watched ω)}

/-! ### Strokes -/

theorem Stroke.teardownCallers {about : ChannelId → Prop} (h : Stroke about s t) :
    t.teardownCallers = s.teardownCallers := by
  cases h with
  | aside aside => simp only [Socket.teardownCallers, aside.teardown]
  | _ => rfl

/-- Nobody is told of a disconnect by a stroke. -/
theorem Stroke.informed {about : ChannelId → Prop} (h : Stroke about s t) : t.informed = s.informed := by
  cases h with
  | aside aside => exact congrArg (fun w : Watched ω => w.calls.filterMap Call.told?) aside.outside
  | @perform e among heard =>
    refine informed_of_call (calls_perform s e) ?_
    have hcalm := among.calm
    unfold Call.told?
    split
    · rename_i heq
      cases heq
      cases hcalm
    · rfl
  | hook among channel hook event payload ref =>
    exact informed_of_call rfl rfl
  | error callback failure context =>
    exact informed_of_call rfl rfl
  | _ => rfl

/-! ### Errands -/

end Socket

/-- All slots of a socket: those at hand, those of the teardown in flight, and those whose owners were
told. -/
def Custody.slots {ω : Type} [Outside ω] (k : Custody (Watched ω)) : List Ticket :=
  k.hand ++ k.socket.teardownCallers ++ k.socket.informed

namespace Socket

variable {ω : Type} [Outside ω] {s t : Socket (Watched ω)} {k k' : Custody (Watched ω)}

/-- An effect by which nobody is told of a disconnect leaves the slots where they are. -/
theorem slots_perform (hand : List Ticket) (s : Socket (Watched ω)) {e : Effect}
    (he : Call.told? (.effect e) = none) :
    (Custody.mk hand (s.perform e)).slots = (Custody.mk hand s).slots := by
  simp only [Custody.slots, informed_of_call (calls_perform s e) he]
  rfl

/-- No errand loses a slot, or makes one of two. -/
theorem Errand.slots (h : Errand k k') : k'.slots.Perm k.slots := by
  cases h with
  | stroke stroke => simp only [Custody.slots, stroke.teardownCallers, stroke.informed, List.Perm.refl]
  | beside beside =>
    have hinformed := congrArg (fun w : Watched ω => w.calls.filterMap Call.told?) beside.outside
    simp only [Custody.slots, beside.callers]
    exact List.Perm.append_left _ (.of_eq hinformed)
  | sorts perm s => exact (perm.symm.append_right _).append_right _
  | takes hand s =>
    have hempty : ({ s with teardown := none } : Socket (Watched ω)).teardownCallers = [] := rfl
    simp only [Custody.slots, hempty, List.append_nil]
    exact .refl _
  | @begins s t idle number =>
    have hempty : s.teardownCallers = [] := by simp only [teardownCallers, idle]
    have hbegun : ({ s with teardown := some t, nextTeardown := number } :
        Socket (Watched ω)).teardownCallers = t.callers := rfl
    simp only [Custody.slots, hempty, hbegun, List.append_nil, List.nil_append]
    exact .refl _
  | @tells s ticket hand vacant =>
    have hinformed : (s.perform (.answer ticket .disconnected)).informed = s.informed ++ [ticket] :=
      informed_of_calls (calls_perform s _)
    have hkept : (s.perform (.answer ticket .disconnected)).teardownCallers = s.teardownCallers := rfl
    simp only [Custody.slots, hinformed, hkept]
    rw [← List.append_assoc]
    exact List.perm_append_singleton ticket _
  | @opens hand s vacant url =>
    exact .of_eq (slots_perform hand
      { s with nextTransport := s.nextTransport + 1, exchange := s.exchange.attach s.nextTransport }
      rfl)
  | @drops hand s c conn =>
    exact .of_eq (slots_perform hand ({ s with conn := none }.detach c.transport) rfl)
  | @parts hand s c conn =>
    exact .of_eq (slots_perform hand ({ s with conn := none }.detach c.transport) rfl)
  | @asks hand s c conn code reason => exact .of_eq (slots_perform hand s rfl)
  | @prunes hand s t => exact .of_eq (slots_perform hand s rfl)

theorem Errands.slots (h : Errands k k') : k'.slots.Perm k.slots := by
  induction h with
  | refl => exact .refl _
  | tail _ errand ih => exact errand.slots.trans ih

/-! ### The moment when a caller is told -/

/-- An errand makes one call at most; if a caller is told by it, then where there is no connection. -/
theorem Errand.calls (h : Errand k k') : k'.socket.calls = k.socket.calls ∨
    ∃ call, k'.socket.calls = k.socket.calls ++ [call] ∧
      ∀ ticket, call = .effect (.answer ticket .disconnected) → ∃ hand s,
        k = ⟨ticket :: hand, s⟩ ∧ s.conn = none ∧
        k' = ⟨hand, s.perform (.answer ticket .disconnected)⟩ := by
  have hsilent : ∀ {call : Call}, call.told? = none → ∀ ticket,
      call ≠ .effect (.answer ticket .disconnected) := by
    rintro call hnone ticket rfl
    cases hnone
  cases h with
  | @stroke hand s t stroke =>
    rcases stroke.calls with heq | ⟨call, heq, -⟩
    · exact .inl heq
    · have hinformed := informed_of_calls heq
      rw [stroke.informed, List.self_eq_append_right, List.filterMap_cons] at hinformed
      refine .inr ⟨call, heq, fun ticket hcall => ?_⟩
      rw [hcall] at hinformed
      cases hinformed
  | beside beside => exact .inl (congrArg Watched.calls beside.outside)
  | sorts perm s => exact .inl rfl
  | takes hand s => exact .inl rfl
  | begins idle number => exact .inl rfl
  | @tells s ticket hand vacant =>
    refine .inr ⟨_, rfl, fun ticket' hcall => ?_⟩
    cases hcall
    exact ⟨hand, s, rfl, vacant, rfl⟩
  | opens vacant url => exact .inr ⟨_, rfl, fun t h => absurd h (hsilent rfl t)⟩
  | drops conn => exact .inr ⟨_, rfl, fun t h => absurd h (hsilent rfl t)⟩
  | parts conn => exact .inr ⟨_, rfl, fun t h => absurd h (hsilent rfl t)⟩
  | asks conn code reason => exact .inr ⟨_, rfl, fun t h => absurd h (hsilent rfl t)⟩
  | prunes s t => exact .inr ⟨_, rfl, fun t h => absurd h (hsilent rfl t)⟩

/-- A caller is told at a moment when there is no connection: errands have led there, and others lead on
from it. -/
theorem Errands.moment (h : Errands k k') {before after : List Call} {ticket : Ticket}
    (heq : k'.socket.calls =
      k.socket.calls ++ before ++ .effect (.answer ticket .disconnected) :: after) :
    ∃ hand s, Errands k ⟨ticket :: hand, s⟩ ∧ s.conn = none ∧ s.calls = k.socket.calls ++ before ∧
      Errands ⟨hand, s.perform (.answer ticket .disconnected)⟩ k' := by
  induction h generalizing after with
  | refl =>
    rw [List.append_assoc, List.self_eq_append_right] at heq
    simp at heq
  | @tail k₁ k₂ errands errand ih =>
    rcases errand.calls with hcalls | ⟨call, hcalls, htells⟩
    · obtain ⟨hand, s, hbefore, hvacant, hmade, hafter⟩ := ih (hcalls ▸ heq)
      exact ⟨hand, s, hbefore, hvacant, hmade, hafter.tail errand⟩
    -- The caller is told by the last call, or was told before it.
    · rw [hcalls] at heq
      rcases List.eq_nil_or_concat after with rfl | ⟨after, last, rfl⟩
      · obtain ⟨hmade, hcall⟩ := List.append_inj' heq rfl
        obtain ⟨hand, s, rfl, hvacant, rfl⟩ := htells ticket (by simpa using hcall)
        exact ⟨hand, s, errands, hvacant, hmade, .refl⟩
      · rw [List.concat_eq_append, ← List.cons_append, ← List.append_assoc] at heq
        obtain ⟨hand, s, hbefore, hvacant, hmade, hafter⟩ := ih (List.append_inj' heq rfl).1
        exact ⟨hand, s, hbefore, hvacant, hmade, hafter.tail errand⟩

/-! ### The end -/

/-- The end of a socket closes its connection and gives transports up; it asks for nothing else. -/
theorem calls_shutdown (s : Socket (Watched ω)) : ∃ es : List Effect,
    s.shutdown.calls = s.calls ++ es.map .effect ∧ ∀ e ∈ es, e.concernsTransport = true := by
  have hretired : ∀ (l : List Connection) (v : Socket (Watched ω)), (l.foldl abandonRetired v).calls =
      v.calls ++ (l.map fun c => Effect.release c.transport).map .effect := by
    intro l
    induction l with
    | nil => simp
    | cons c l ih =>
      intro v
      refine (ih (v.abandonRetired c)).trans ?_
      have hstep : (v.abandonRetired c).calls = v.calls ++ [.effect (.release c.transport)] := rfl
      rw [hstep, List.append_assoc]
      rfl
  set s₁ := { s with teardown := none }.clearHeartbeats.resetReconnect with hs₁
  have hconn : ∃ es : List Effect, s₁.abandonConnection.calls = s.calls ++ es.map .effect ∧
      ∀ e ∈ es, e.concernsTransport = true := by
    unfold abandonConnection
    split
    · exact ⟨[], (List.append_nil _).symm, by simp⟩
    · rename_i c _
      exact ⟨[.close c.transport (some CloseEvent.normalCode) none, .release c.transport],
        calls_performAll _ _, by simp [Effect.concernsTransport]⟩
  obtain ⟨es, hes, hclosed⟩ := hconn
  refine ⟨es ++ s₁.abandonConnection.retired.map fun c => .release c.transport, ?_, ?_⟩
  · have hrest := hretired s₁.abandonConnection.retired { s₁.abandonConnection with retired := [] }
    rw [List.map_append, ← List.append_assoc, ← hes]
    exact hrest
  · intro e he
    rcases List.mem_append.mp he with he | he
    · exact hclosed e he
    · obtain ⟨c, -, rfl⟩ := List.mem_map.mp he
      rfl

theorem informed_shutdown (s : Socket (Watched ω)) : s.shutdown.informed = s.informed := by
  obtain ⟨es, hcalls, hes⟩ := calls_shutdown s
  rw [informed_of_calls hcalls, List.filterMap_map, List.append_right_eq_self, List.filterMap_eq_nil_iff]
  intro e he
  have := hes e he
  cases e <;> first | rfl | cases this

/-! ### Runs -/

/-- Surroundings may do what they like, as long as they know what they were asked. -/
abbrev KeepsCalls (s : Socket (Watched ω)) (_ : Exchange) (w : Watched ω) : Prop :=
  w.calls = s.calls

/-- The slots of the teardown in flight, those whose owners were told, and those that were dropped are
all that came with the commands; only an end of the socket drops slots. -/
theorem Course.slots {cmds : List Command} {s₀ : Socket (Watched ω)}
    (h : Course KeepsCalls s₀ cmds s) (hidle : s₀.teardown = none) (hnew : s₀.calls = []) :
    ∃ dropped, (s.teardownCallers ++ s.informed ++ dropped).Perm (cmds.filterMap Command.caller?) ∧
      (Command.shutdown ∉ cmds → dropped = []) := by
  have hends : ∀ {cmds : List Command} {t : Socket (Watched ω)} {dropped : List Ticket},
      (t.teardownCallers ++ t.informed ++ dropped).Perm (cmds.filterMap Command.caller?) →
      ∃ dropped, (t.shutdown.teardownCallers ++ t.shutdown.informed ++ dropped).Perm
        ((cmds ++ [Command.shutdown]).filterMap Command.caller?) ∧
        (Command.shutdown ∉ cmds ++ [.shutdown] → dropped = []) := by
    intro cmds t dropped hperm
    refine ⟨t.teardownCallers ++ dropped, ?_, by simp⟩
    have hnone : t.shutdown.teardownCallers = [] := by simp only [teardownCallers, (vacant_shutdown t).2.1]
    have hslots : (cmds ++ [Command.shutdown]).filterMap Command.caller? =
        cmds.filterMap Command.caller? := by simp [Command.caller?]
    rw [hnone, informed_shutdown, hslots, List.nil_append]
    refine List.Perm.trans ?_ hperm
    rw [← List.append_assoc]
    exact List.perm_append_comm.append_right dropped
  induction h with
  | start =>
    refine ⟨[], ?_, fun _ => rfl⟩
    simp [teardownCallers, hidle, informed, hnew]
  | @surroundings cmds t x w before allowed ih =>
    obtain ⟨dropped, hperm, hdropped⟩ := ih
    have hinformed : ({ t with exchange := x, outside := w } : Socket (Watched ω)).informed = t.informed :=
      congrArg (List.filterMap Call.told?) allowed
    exact ⟨dropped, by rw [hinformed]; exact hperm, hdropped⟩
  | @take cmds t cmd x before next ih =>
    obtain ⟨dropped, hperm, hdropped⟩ := ih
    by_cases hcmd : cmd = .shutdown
    · subst hcmd
      exact hends (t := { t with exchange := x }) hperm
    · refine ⟨dropped, ?_, fun hnot => hdropped fun hmem => hnot (List.mem_append_left _ hmem)⟩
      have hslots := (errands_handle { t with exchange := x } hcmd).slots
      simp only [Custody.slots, List.nil_append] at hslots
      have hissued : (cmds ++ [cmd]).filterMap Command.caller? =
          cmds.filterMap Command.caller? ++ cmd.caller?.toList := by
        rw [List.filterMap_append]
        cases hcaller : cmd.caller? <;> simp [hcaller]
      rw [hissued]
      refine (hslots.append_right dropped).trans ?_
      rw [List.append_assoc, List.append_assoc, ← List.append_assoc _ _ dropped]
      exact List.perm_append_comm.trans (hperm.append_right _)
  | @abandon cmds t before ih =>
    obtain ⟨dropped, hperm, -⟩ := ih
    exact hends hperm

/-- No caller of a disconnect is forgotten.  At all times each slot that came with a disconnect is kept
by the teardown in flight, or its owner was told, and only an end of the socket drops slots; a slot that
came once is in one place, once.  Without a teardown in flight no slot is kept.  A caller is told at a
moment when there is no connection. -/
theorem no_disconnect_caller_forgotten {endpoint : String} {config : Config} {factory : Factory}
    {outside : ω} {cmds : List Command}
    (h : Course KeepsCalls (Socket.new endpoint config factory ⟨outside, []⟩) cmds s) :
    (∃ dropped, (s.teardownCallers ++ s.informed ++ dropped).Perm (cmds.filterMap Command.caller?) ∧
      (Command.shutdown ∉ cmds → dropped = [])) ∧
    (∀ ticket, (cmds.filterMap Command.caller?).count ticket = 1 → Command.shutdown ∉ cmds →
      (s.teardownCallers.count ticket = 1 ∧ s.informed.count ticket = 0) ∨
        (s.teardownCallers.count ticket = 0 ∧ s.informed.count ticket = 1)) ∧
    (s.teardown = none → s.teardownCallers = []) ∧
    ∀ cmd before ticket after,
      (s.handle cmd).calls =
        s.calls ++ before ++ .effect (.answer ticket .disconnected) :: after →
      ∃ hand u, Errands ⟨cmd.caller?.toList, s⟩ ⟨ticket :: hand, u⟩ ∧ u.conn = none ∧
        u.calls = s.calls ++ before ∧
        Errands ⟨hand, u.perform (.answer ticket .disconnected)⟩ ⟨[], s.handle cmd⟩ := by
  obtain ⟨dropped, hperm, hdropped⟩ := h.slots rfl rfl
  refine ⟨⟨dropped, hperm, hdropped⟩, fun ticket honce hends => ?_, fun hidle => ?_, ?_⟩
  · have hcount := hperm.count_eq ticket
    rw [hdropped hends, List.append_nil, List.count_append, honce] at hcount
    omega
  · simp only [teardownCallers, hidle]
  · intro cmd before ticket after heq
    refine (errands_handle s ?_).moment heq
    -- Nobody is told at the end of a socket.
    rintro rfl
    have hinformed : (s.handle .shutdown).informed = s.informed := informed_shutdown s
    rw [informed_of_calls (heq.trans (List.append_assoc _ _ _)), List.append_right_eq_self] at hinformed
    simp [Call.told?] at hinformed

/-! ### Two callers -/

/-- Whether a command ends a socket. -/
def endsSocket : Command → Bool
  | .shutdown => true
  | _ => false

/-- A disconnect takes the place of another; when the transport has closed, both callers are told. -/
def superseding : List Deed :=
  connecting ++ [.post (.disconnect none none (some 1)) fun _ => rfl, .take,
    .post (.disconnect none none (some 2)) fun _ => rfl, .take,
    .become ⟨.closed, 0⟩, .fire (.teardown 1 1), .take]

/-- Both callers are told, each of them once, and no slot is kept. -/
theorem no_disconnect_caller_forgotten_superseded : ∃ (cmds : List Command)
    (s : Socket (Watched Idle)), Course KeepsCalls watched cmds s ∧
    cmds.filterMap Command.caller? = [1, 2] ∧ s.teardownCallers = [] ∧ s.informed.Perm [1, 2] := by
  obtain ⟨⟨cmds, s⟩, hplay, hview⟩ := Option.map_eq_some_iff.mp
    (show (watched.follow? anyhow watching superseding).map (fun r =>
        (r.1.filterMap Command.caller?, r.1.any endsSocket, r.2.teardown)) =
      some ([1, 2], false, none) by cbv)
  simp only [Prod.mk.injEq] at hview
  obtain ⟨hslots, hends, hidle⟩ := hview
  have hcourse : Course KeepsCalls watched cmds s :=
    course_of_follow? (fun _ _ => rfl) (fun _ _ => rfl) hplay
  obtain ⟨⟨dropped, hperm, hdropped⟩, -, hnone, -⟩ := no_disconnect_caller_forgotten hcourse
  have hnever : Command.shutdown ∉ cmds := by
    intro hmem
    have hany : cmds.any endsSocket = true := List.any_eq_true.mpr ⟨_, hmem, rfl⟩
    rw [hends] at hany
    cases hany
  rw [hnone hidle, hdropped hnever, hslots, List.nil_append, List.append_nil] at hperm
  exact ⟨cmds, s, hcourse, hslots, hnone hidle, hperm⟩

end Socket

end Switchboard
