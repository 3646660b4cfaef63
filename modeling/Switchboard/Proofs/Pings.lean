import Switchboard.Proofs.Retaining
import Switchboard.Proofs.Epochs
import Switchboard.Proofs.Heartbeats

/-!
# Pings

A ping over an open connection hands a message over and registers an entry that waits for a message with
the ref of that one.  Nothing ties the entry to the connection: it stays when the connection closes, is
torn down or replaced, and a message with its ref ends it, whatever transport brings that message.

Main definitions

* `Ping`, `Socket.pings`, `Socket.latencies`: the pings that wait, and the answers that were given;
* `Socket.isAnswered`, `Command.removes`: a command ends a ping;
* `Socket.Heeded`: pings have had a message;
* `Socket.Began`: a ping that waits was begun by a command of its own.

Main results

* `Socket.heeded_foldl`, `Socket.pings_foldl`: which pings a message ends;
* `Socket.pings_handle`: what a command comes to for pings;
* `Socket.pings_await_their_ref`: what becomes of pings at all times.
-/

set_option autoImplicit false

namespace Switchboard

/-- A ping that waits: the ref of its entry, the ref of its message, the time at which it began, and who
waits for the answer. -/
structure Ping where
  entry : Ref
  waited : Ref
  started : Nat
  ticket : Ticket

/-- The ping of an entry, if it is one. -/
def OnMessage.ping? (e : Ref × OnMessage) : Option Ping :=
  match e.2 with
  | .ping waited started ticket => some ⟨e.1, waited, started, ticket⟩
  | .callback _ => none

namespace Ping

/-- A message answers a ping. -/
def isAnsweredBy (m : Message) (ping : Ping) : Bool := m.ref == some ping.waited

/-- An answer to a ping: it goes to its caller and tells the time since the ping began. -/
def HasAnswer (ping : Ping) (answer : Ticket × Option Nat) : Prop :=
  ∃ now, answer = (ping.ticket, some (now - ping.started))

end Ping

namespace Command

/-- A user removes the entry of a ping. -/
def removes (cmd : Command) (ping : Ping) : Bool :=
  match cmd with
  | .off refs => refs.contains ping.entry
  | _ => false

end Command

section Registry

variable {registry : Registry OnMessage} {ref : Ref} {ping : Ping}

theorem entry_of_ping? {e : Ref × OnMessage} (h : OnMessage.ping? e = some ping) :
    ping.entry = e.1 := by
  unfold OnMessage.ping? at h
  split at h
  · cases h
    rfl
  · cases h

/-- Of the pings those stay whose entries are not removed. -/
theorem pings_without (registry : Registry OnMessage) (refs : List Ref) :
    (registry.without refs).filterMap OnMessage.ping? =
      (registry.filterMap OnMessage.ping?).filter fun ping => !refs.contains ping.entry := by
  unfold Registry.without
  rw [List.filterMap_filter, List.filter_filterMap]
  refine List.filterMap_congr fun e _ => ?_
  cases hping : OnMessage.ping? e with
  | none => simp
  | some ping => by_cases hmem : e.1 ∈ refs <;> simp [Option.filter, entry_of_ping? hping, hmem]

/-- What is left of a registration that has had a message: a ping that the message answers is over. -/
def OnMessage.remains (m : Message) (e : Ref × OnMessage) : Registry OnMessage :=
  if (ping? e).any (Ping.isAnsweredBy m) then [] else [e]

theorem OnMessage.remains_sublist (m : Message) (e : Ref × OnMessage) : (remains m e).Sublist [e] := by
  unfold remains
  split
  · exact List.nil_sublist _
  · exact List.Sublist.refl _

theorem OnMessage.pings_remains (m : Message) (e : Ref × OnMessage) :
    (remains m e).filterMap ping? = (ping? e).toList.filter fun ping => !ping.isAnsweredBy m := by
  unfold remains
  cases hping : ping? e with
  | none => simp [hping]
  | some ping => cases hm : ping.isAnsweredBy m <;> simp [hping, hm]

end Registry

/-- Under different refs only the one entry is removed. -/
theorem Registry.without_middle {α : Type} {before rest : Registry α} {e : Ref × α}
    (hnodup : (Registry.refs (before ++ e :: rest)).Nodup) :
    Registry.without (before ++ e :: rest) [e.1] = before ++ rest := by
  have hrefs : (before.refs ++ e.1 :: rest.refs).Nodup := by simpa [Registry.refs] using hnodup
  obtain ⟨-, hrest, hbefore⟩ := List.nodup_append.mp hrefs
  have hkeeps : ∀ {l : Registry α}, e.1 ∉ l.refs → Registry.without l [e.1] = l := by
    refine fun {l} hnot => List.filter_eq_self.mpr fun e' he' => ?_
    have hne : e'.1 ≠ e.1 := fun heq => hnot (heq ▸ List.mem_map_of_mem he')
    simpa using hne
  have hsplit : Registry.without (before ++ e :: rest) [e.1] =
      Registry.without before [e.1] ++ Registry.without (e :: rest) [e.1] := List.filter_append ..
  rw [hsplit, Registry.without_cons, if_pos (List.mem_singleton_self _),
    hkeeps fun hmem => hbefore _ hmem _ List.mem_cons_self rfl,
    hkeeps (List.nodup_cons.mp hrest).1]

namespace Socket

section Entries

variable {ω : Type} {s t u : Socket (Recorded (Watched ω))} {m : Message} {cmd : Command}
variable {c : ChannelId} {ping : Ping}

/-- The pings that wait, in the order in which they began. -/
def pings (s : Socket (Recorded (Watched ω))) : List Ping :=
  s.callbacks.onMessage.filterMap OnMessage.ping?

/-- The answers that callers of pings were given, in their order. -/
def latencies (s : Socket (Recorded (Watched ω))) : List (Ticket × Option Nat) :=
  s.made.filterMap Call.latency?

/-- A command brings the message that a ping waits for. -/
def isAnswered (s : Socket (Recorded (Watched ω))) (cmd : Command) (ping : Ping) : Bool :=
  (s.incoming? cmd).any ping.isAnsweredBy

theorem latencies_of_made {calls : List Call} (h : t.made = s.made ++ calls) :
    t.latencies = s.latencies ++ calls.filterMap Call.latency? := by
  rw [latencies, h, List.filterMap_append]
  rfl

theorem Retains.latencies_eq (h : Retains s t) : t.latencies = s.latencies := by
  obtain ⟨calls, hmade, hsilent⟩ := h.made
  rw [latencies_of_made hmade, List.filterMap_eq_nil_iff.mpr hsilent, List.append_nil]

theorem Retains.pings_sublist (h : Retains s t) : t.pings.Sublist s.pings := by
  obtain ⟨gone, hmessages, -⟩ := h.messages
  rw [pings, hmessages, pings_without]
  exact List.filter_sublist

/-! ### Entries of their own -/

/-- The entries of pings are registrations of no channel, and all these refs were drawn. -/
structure Separate (s : Socket (Recorded (Watched ω))) : Prop where
  apart : ∀ ⦃c ch⦄, s.channels.get? c = some ch → ∀ ping ∈ s.pings, ping.entry ∉ ch.socketRefs
  drewRefs : ∀ ⦃c ch⦄, s.channels.get? c = some ch → ∀ r ∈ ch.socketRefs, s.exchange.Drew r
  drewPings : ∀ ping ∈ s.pings, s.exchange.Drew ping.entry

/-- What leaves registrations to the channels leaves all pings. -/
theorem Retains.pings_eq (h : Retains s t) (hs : s.Separate) : t.pings = s.pings := by
  obtain ⟨gone, hmessages, hgone⟩ := h.messages
  rw [pings, hmessages, pings_without]
  refine List.filter_eq_self.mpr fun ping hping => ?_
  have hstays : ping.entry ∉ gone := by
    intro hmem
    obtain ⟨c, ch, hc, hr⟩ := hgone _ hmem
    exact hs.apart hc ping hping hr
  simpa using hstays

/-- No ping has come, and the channels are others at most in what they do not register. -/
theorem Separate.mono (h : s.Separate) (hpings : t.pings.Sublist s.pings)
    (hchannel : ∀ ⦃c ch'⦄, t.channels.get? c = some ch' →
      ∃ ch, s.channels.get? c = some ch ∧ ch'.socketRefs = ch.socketRefs)
    (hevolves : s.exchange.Evolves t.exchange) : t.Separate where
  apart c ch' hc' ping hping := by
    obtain ⟨ch, hc, hrefs⟩ := hchannel hc'
    exact hrefs ▸ h.apart hc ping (hpings.subset hping)
  drewRefs c ch' hc' r hr := by
    obtain ⟨ch, hc, hrefs⟩ := hchannel hc'
    exact hevolves.drew (h.drewRefs hc r (hrefs ▸ hr))
  drewPings ping hping := hevolves.drew (h.drewPings ping (hpings.subset hping))

/-- The refs of a new channel were not drawn before. -/
theorem Separate.createChannel (h : s.Separate) (hs : Sound s) (c : ChannelId) (topic : String)
    (params : Params) (hb : (s.createChannel c topic params).exchange.drawn < 2 ^ 64) :
    (s.createChannel c topic params).Separate := by
  have hfirst : s.drawRef.2.exchange.Tidy := (Exchange.evolves_drawRef s.exchange).tidy hs.tidy
  have hevolves : s.exchange.Evolves (s.createChannel c topic params).exchange :=
    (Exchange.evolves_drawRef s.exchange).trans (Exchange.evolves_drawRef _)
  have hnew : ∀ r ∈ [s.drawRef.1, s.drawRef.2.drawRef.1],
      ¬ s.exchange.Drew r ∧ (s.createChannel c topic params).exchange.Drew r := by
    intro r hr
    rcases List.mem_cons.mp hr with rfl | hr
    · refine ⟨Exchange.not_drew_drawRef hs.tidy (lt_of_le_of_lt ?_ hb), ?_⟩
      · exact (Exchange.evolves_drawRef s.drawRef.2.exchange).drawn_le
      · exact (Exchange.evolves_drawRef s.drawRef.2.exchange).drew (Exchange.drew_drawRef hs.tidy)
    · rw [List.mem_singleton.mp hr]
      exact ⟨fun hdrew => Exchange.not_drew_drawRef hfirst hb
        ((Exchange.evolves_drawRef s.exchange).drew hdrew), Exchange.drew_drawRef hfirst⟩
  have hchannels : ∀ ⦃d ch⦄, (s.createChannel c topic params).channels.get? d = some ch →
      ch.socketRefs = [s.drawRef.1, s.drawRef.2.drawRef.1] ∨ s.channels.get? d = some ch := by
    intro d ch hd
    have hset : (s.createChannel c topic params).channels.get? d = some ch →
        (if d = c then some (Channel.new topic params s.config.timeout
          [s.drawRef.1, s.drawRef.2.drawRef.1]) else s.channels.get? d) = some ch := by
      rw [← Table.get?_set]
      exact id
    replace hd := hset hd
    split at hd
    · cases hd
      exact .inl rfl
    · exact .inr hd
  refine ⟨fun d ch hd ping hping => ?_, fun d ch hd r hr => ?_, fun ping hping => ?_⟩
  · rcases hchannels hd with hrefs | hd
    · exact fun hmem => (hnew _ (hrefs ▸ hmem)).1 (h.drewPings ping hping)
    · exact h.apart hd ping hping
  · rcases hchannels hd with hrefs | hd
    · exact (hnew r (hrefs ▸ hr)).2
    · exact hevolves.drew (h.drewRefs hd r hr)
  · exact hevolves.drew (h.drewPings ping hping)

end Entries

/-! ### Pings have a message -/

section Messages

variable {ω : Type} [Outside ω] {s t u : Socket (Recorded (Watched ω))} {m : Message}
variable {answered answered' : List Ping}

/-- Pings have had a message: some of them have been answered and wait no longer. -/
structure Heeded (m : Message) (answered : List Ping) (s t : Socket (Recorded (Watched ω))) :
    Prop where
  channels_eq : t.channels = s.channels
  pings_sublist : t.pings.Sublist s.pings
  accounted : (t.pings ++ answered).Subperm s.pings
  waited : ∀ ping ∈ answered, ping.isAnsweredBy m = true
  answers : ∃ answers, t.latencies = s.latencies ++ answers ∧
    List.Forall₂ Ping.HasAnswer answered answers

omit [Outside ω] in
theorem Heeded.trans (h : Heeded m answered s t) (h' : Heeded m answered' t u) :
    Heeded m (answered ++ answered') s u where
  channels_eq := h'.channels_eq.trans h.channels_eq
  pings_sublist := h'.pings_sublist.trans h.pings_sublist
  accounted := by
    have hperm : (u.pings ++ (answered ++ answered')).Perm ((u.pings ++ answered') ++ answered) := by
      rw [List.append_assoc]
      exact List.perm_append_comm.append_left u.pings
    refine hperm.subperm.trans (List.Subperm.trans ?_ h.accounted)
    exact (List.subperm_append_right answered).mpr h'.accounted
  waited ping hmem := (List.mem_append.mp hmem).elim (h.waited ping) (h'.waited ping)
  answers := by
    obtain ⟨answers, heq, hall⟩ := h.answers
    obtain ⟨answers', heq', hall'⟩ := h'.answers
    exact ⟨answers ++ answers', by rw [heq', heq, List.append_assoc], List.rel_append hall hall'⟩

omit [Outside ω] in
/-- Nobody is answered. -/
theorem Heeded.of_eq (hchannels : t.channels = s.channels) (hpings : t.pings = s.pings)
    (hlatencies : t.latencies = s.latencies) : Heeded m [] s t where
  channels_eq := hchannels
  pings_sublist := hpings ▸ List.Sublist.refl _
  accounted := by
    rw [hpings, List.append_nil]
  waited := by simp
  answers := ⟨[], hlatencies.trans (List.append_nil _).symm, .nil⟩

/-- The caller of a ping is answered, and its entry goes. -/
theorem latencies_finishPing (s : Socket (Recorded (Watched ω))) (ping : Ping) :
    (s.finishPing ping.entry ping.started ping.ticket).latencies = s.latencies ++
      [(ping.ticket, some (s.exchange.now - ping.started))] :=
  latencies_of_made (made_perform s _)

theorem pings_finishPing (s : Socket (Recorded (Watched ω))) (ping : Ping) :
    (s.finishPing ping.entry ping.started ping.ticket).pings =
      s.pings.filter fun other => !(decide (other.entry = ping.entry)) := by
  refine (pings_without s.callbacks.onMessage [ping.entry]).trans (List.filter_congr fun other _ => ?_)
  simp

theorem heeded_finishPing {ping : Ping} (hping : ping ∈ s.pings) (hm : ping.isAnsweredBy m = true) :
    Heeded m [ping] s (s.finishPing ping.entry ping.started ping.ticket) where
  channels_eq := rfl
  pings_sublist := by
    rw [pings_finishPing]
    exact List.filter_sublist
  accounted := by
    rw [pings_finishPing]
    have hgone : [ping].Sublist (s.pings.filter fun other => !(!(decide (other.entry = ping.entry)))) :=
      List.singleton_sublist.mpr (List.mem_filter.mpr ⟨hping, by simp⟩)
    exact ((List.Sublist.refl _).append hgone).subperm.trans
      (List.filter_append_perm _ s.pings).subperm
  waited := by simpa using hm
  answers := ⟨_, latencies_finishPing s ping, .cons ⟨_, rfl⟩ .nil⟩

/-- A message comes to one registration. -/
theorem heeded_runOnMessage (s : Socket (Recorded (Watched ω))) (m : Message) (ref : Ref) :
    ∃ answered, Heeded m answered s (s.runOnMessage m ref) := by
  unfold runOnMessage
  split
  · rename_i callback _
    have hmade : (s.perform (.runMessage callback m)).made =
        s.made ++ [.effect (.runMessage callback m)] := rfl
    exact ⟨[], .of_eq rfl rfl ((latencies_of_made hmade).trans (by simp [Call.latency?]))⟩
  · rename_i waited started ticket hfind
    split
    · rename_i hm
      have hping : (⟨ref, waited, started, ticket⟩ : Ping) ∈ s.pings :=
        List.mem_filterMap.mpr ⟨_, Registry.mem_of_find? hfind, rfl⟩
      exact ⟨_, heeded_finishPing hping (beq_iff_eq.mpr hm)⟩
    · exact ⟨[], .of_eq rfl rfl rfl⟩
  · exact ⟨[], .of_eq rfl rfl rfl⟩

/-- A message comes to registrations one after another; each ping is answered once at most, and only if
the message has the ref that it waits for. -/
theorem heeded_foldl (s : Socket (Recorded (Watched ω))) (m : Message) (refs : List Ref) :
    ∃ answered, Heeded m answered s (refs.foldl (runOnMessage m) s) := by
  induction refs generalizing s with
  | nil => exact ⟨[], .of_eq rfl rfl rfl⟩
  | cons ref refs ih =>
    obtain ⟨answered, h⟩ := heeded_runOnMessage s m ref
    obtain ⟨answered', h'⟩ := ih (s.runOnMessage m ref)
    exact ⟨answered ++ answered', h.trans h'⟩

/-- A message comes to a registration, and no other one has its ref. -/
theorem runOnMessage_middle {before rest : Registry OnMessage} {e : Ref × OnMessage}
    (hs : s.callbacks.onMessage = before ++ e :: rest)
    (hnodup : (Registry.refs (before ++ e :: rest)).Nodup) :
    (s.runOnMessage m e.1).callbacks.onMessage = before ++ OnMessage.remains m e ++ rest ∧
      ∃ answers, (s.runOnMessage m e.1).latencies = s.latencies ++ answers ∧
        List.Forall₂ Ping.HasAnswer
          ((OnMessage.ping? e).toList.filter (·.isAnsweredBy m)) answers := by
  have hfind : s.callbacks.onMessage.find? e.1 = some e.2 := by
    rw [hs]
    exact Registry.find?_of_mem hnodup (List.mem_append_right _ List.mem_cons_self)
  have hall : s.callbacks.onMessage = before ++ [e] ++ rest := by
    rw [hs, List.append_assoc]
    rfl
  obtain ⟨ref, entry⟩ := e
  cases entry with
  | callback callback =>
    have hstep : s.runOnMessage m ref = s.perform (.runMessage callback m) := by
      simp only [runOnMessage, hfind]
    rw [hstep, latencies_of_made (made_perform s _)]
    exact ⟨hall, _, rfl, .nil⟩
  | ping waited started ticket =>
    set ping : Ping := ⟨ref, waited, started, ticket⟩ with hping
    have hhead : OnMessage.ping? (ref, .ping waited started ticket) = some ping := rfl
    simp only [OnMessage.remains, hhead, Option.any_some, Option.toList_some]
    cases hm : ping.isAnsweredBy m with
    | true =>
      have hstep : s.runOnMessage m ref = s.finishPing ref started ticket := by
        simp only [runOnMessage, hfind]
        exact if_pos (beq_iff_eq.mp hm)
      rw [hstep, latencies_finishPing s ping, List.filter_cons_of_pos hm]
      refine ⟨?_, _, rfl, .cons ⟨_, rfl⟩ .nil⟩
      rw [if_pos rfl, List.append_nil, ← Registry.without_middle hnodup, ← hs]
      rfl
    | false =>
      have hstep : s.runOnMessage m ref = s := by
        simp only [runOnMessage, hfind]
        exact if_neg (beq_eq_false_iff_ne.mp hm)
      rw [hstep, List.filter_cons_of_neg (by simp [hm])]
      exact ⟨hall, [], (List.append_nil _).symm, .nil⟩

/-- Under different refs each registration has the message once, so that just those pings are answered
that wait for it. -/
theorem pings_foldl {before rest : Registry OnMessage} (hs : s.callbacks.onMessage = before ++ rest)
    (hnodup : Registry.refs (before ++ rest) |>.Nodup) :
    (rest.refs.foldl (runOnMessage m) s).pings = before.filterMap OnMessage.ping? ++
        (rest.filterMap OnMessage.ping?).filter (fun ping => !ping.isAnsweredBy m) ∧
      ∃ answers, (rest.refs.foldl (runOnMessage m) s).latencies = s.latencies ++ answers ∧
        List.Forall₂ Ping.HasAnswer
          ((rest.filterMap OnMessage.ping?).filter (·.isAnsweredBy m)) answers := by
  -- The registrations before `rest` have had the message, and those that ended are gone.
  induction rest generalizing before s with
  | nil =>
    refine ⟨?_, [], (List.append_nil _).symm, .nil⟩
    simp [Registry.refs, pings, hs]
  | cons e rest ih =>
    obtain ⟨hmessages, answers, hanswers, hall⟩ := runOnMessage_middle (m := m) hs hnodup
    have hleft : (Registry.refs (before ++ OnMessage.remains m e ++ rest)).Nodup := by
      refine hnodup.sublist (List.Sublist.map _ ?_)
      rw [List.append_assoc]
      exact ((OnMessage.remains_sublist m e).append_right rest).append_left before
    obtain ⟨hpings, answers', hanswers', hall'⟩ := ih hmessages hleft
    have hsplit : List.filterMap OnMessage.ping? (e :: rest) =
        (OnMessage.ping? e).toList ++ rest.filterMap OnMessage.ping? := by
      cases h : OnMessage.ping? e <;> simp [h]
    rw [hsplit, List.filter_append, List.filter_append]
    refine ⟨hpings.trans ?_, answers ++ answers', ?_, List.rel_append hall hall'⟩
    · rw [List.filterMap_append, OnMessage.pings_remains, List.append_assoc]
    · rw [← List.append_assoc, ← hanswers]
      exact hanswers'

end Messages

/-! ### Commands -/

section Commands

variable {ω : Type} [Outside ω] {s t u : Socket (Recorded (Watched ω))} {m : Message} {cmd : Command}
variable {answered : List Ping} {ticket : Ticket}

/-- A socket that has handed over the message of a ping, but not yet registered its entry. -/
def pinging (s : Socket (Recorded (Watched ω))) : Socket (Recorded (Watched ω)) :=
  s.drawRef.2.pushMessage .socket (.heartbeat s.drawRef.1)

/-- The ping that begins by a command: one ref is drawn for its message and another one for its entry. -/
def begun (s : Socket (Recorded (Watched ω))) : Command → List Ping
  | .ping ticket =>
    if s.isConnected then [⟨s.pinging.drawRef.1, s.drawRef.1, s.exchange.now, ticket⟩] else []
  | _ => []

/-- The answer that a ping has at once where no connection is open. -/
def refusals (s : Socket (Recorded (Watched ω))) : Command → List (Ticket × Option Nat)
  | .ping ticket => if s.isConnected then [] else [(ticket, none)]
  | _ => []

/-- A command is carried out, and some pings are answered meanwhile: those that wait for the message that
it brings.  If entries have refs of their own, all other pings wait on whose entries it does not remove. -/
structure Serves (cmd : Command) (answered : List Ping) (s t : Socket (Recorded (Watched ω))) :
    Prop where
  answers : ∃ answers, t.latencies = s.latencies ++ answers ++ s.refusals cmd ∧
    List.Forall₂ Ping.HasAnswer answered answers
  waited : ∀ ping ∈ answered, s.isAnswered cmd ping = true
  sublist : t.pings.Sublist (s.pings ++ s.begun cmd)
  accounted : (t.pings ++ answered).Subperm (s.pings ++ s.begun cmd)
  exactly : s.Separate → s.callbacks.onMessage.refs.Nodup →
    answered = s.pings.filter (s.isAnswered cmd) ∧
    t.pings = (s.pings.filter fun ping => !s.isAnswered cmd ping && !cmd.removes ping) ++ s.begun cmd

theorem callbacks_pushMessage (s : Socket (Recorded (Watched ω))) (sender : Sender) (m : Message) :
    (s.pushMessage sender m).callbacks = s.callbacks := by
  simp only [pushMessage]
  split
  · exact (congrArg Socket.callbacks (transmit_eq _ m)).trans rfl
  · rfl

omit [Outside ω] in
theorem isAnswered_of_none (hm : s.incoming? cmd = none) : s.isAnswered cmd = fun _ => false := by
  funext ping
  rw [isAnswered, hm]
  rfl

/-- Nobody is answered by a command that brings no message, except who asks without a connection. -/
theorem serves_silent (hm : s.incoming? cmd = none)
    (hlatencies : t.latencies = s.latencies ++ s.refusals cmd)
    (hsub : t.pings.Sublist (s.pings ++ s.begun cmd))
    (hexact : s.Separate →
      t.pings = (s.pings.filter fun ping => !cmd.removes ping) ++ s.begun cmd) :
    Serves cmd [] s t where
  answers := ⟨[], by rw [List.append_nil, hlatencies], .nil⟩
  waited := by simp
  sublist := hsub
  accounted := by
    rw [List.append_nil]
    exact hsub.subperm
  exactly hs _ := by
    rw [hexact hs, isAnswered_of_none hm]
    simp

theorem ping_of_connected (h : s.isConnected = true) (ticket : Ticket) : s.ping ticket =
    { s.pinging.drawRef.2 with callbacks := { s.pinging.callbacks with
      onMessage := s.pinging.callbacks.onMessage ++
        [(s.pinging.drawRef.1, .ping s.drawRef.1 s.exchange.now ticket)] } } := by
  unfold Socket.ping
  rw [h]
  rfl

theorem ping_of_not_connected (h : s.isConnected = false) (ticket : Ticket) :
    s.ping ticket = s.perform (.answer ticket (.latency none)) := by
  unfold Socket.ping
  rw [h]
  rfl

/-- Pings begin, have their answer at once or are removed by commands for that only. -/
theorem begun_of_other (s : Socket (Recorded (Watched ω))) (cmd : Command)
    (hping : ∀ ticket, cmd ≠ .ping ticket) (hoff : ∀ refs, cmd ≠ .off refs) :
    s.begun cmd = [] ∧ s.refusals cmd = [] ∧ cmd.removes = fun _ => false := by
  cases cmd with
  | ping ticket => exact absurd rfl (hping ticket)
  | off refs => exact absurd rfl (hoff refs)
  | _ => exact ⟨rfl, rfl, rfl⟩

/-- A command that concerns no ping leaves all of them. -/
theorem serves_kept (hm : s.incoming? cmd = none) (hping : ∀ ticket, cmd ≠ .ping ticket)
    (hoff : ∀ refs, cmd ≠ .off refs) (hlatencies : t.latencies = s.latencies)
    (hsub : t.pings.Sublist s.pings) (hexact : s.Separate → t.pings = s.pings) :
    Serves cmd [] s t := by
  obtain ⟨hbegun, hrefused, hremoves⟩ := begun_of_other s _ hping hoff
  refine serves_silent hm ?_ ?_ fun hs => ?_
  · rw [hlatencies, hrefused, List.append_nil]
  · rwa [hbegun, List.append_nil]
  · rw [hexact hs, hremoves, hbegun]
    simp

/-- A ping has its answer at once, or it begins. -/
theorem serves_ping (s : Socket (Recorded (Watched ω))) (ticket : Ticket) :
    Serves (.ping ticket) [] s (s.ping ticket) := by
  have hkeeps : (s.pings.filter fun ping => !(Command.ping ticket).removes ping) = s.pings :=
    List.filter_eq_self.mpr fun _ _ => rfl
  obtain ⟨hlatencies, hpings⟩ :
      (s.ping ticket).latencies = s.latencies ++ s.refusals (.ping ticket) ∧
        (s.ping ticket).pings = s.pings ++ s.begun (.ping ticket) := by
    cases hconnected : s.isConnected with
    | false =>
      rw [ping_of_not_connected hconnected]
      simp only [refusals, begun, hconnected, Bool.false_eq_true, if_false, List.append_nil]
      exact ⟨latencies_of_made (made_perform s _), rfl⟩
    | true =>
      have hcallbacks : s.pinging.callbacks = s.callbacks := callbacks_pushMessage _ _ _
      have hsilent : s.pinging.latencies = s.latencies :=
        (retains_pushMessage s.drawRef.2 .socket (.heartbeat s.drawRef.1)).latencies_eq
      rw [ping_of_connected hconnected]
      simp only [refusals, begun, hconnected, if_true, List.append_nil, pings, hcallbacks,
        List.filterMap_append]
      exact ⟨hsilent, rfl⟩
  refine serves_silent rfl hlatencies ?_ fun _ => hkeeps.symm ▸ hpings
  rw [hpings]

/-- A message comes to the channels and then to the registrations. -/
theorem serves_incoming (hm : s.incoming? cmd = some m) : ∃ answered,
    Serves cmd answered s (s.handle cmd) := by
  obtain ⟨hbegun, hrefused, hremoves⟩ := begun_of_other s cmd
    (by rintro ticket rfl; cases hm) (by rintro refs rfl; cases hm)
  have hanswered : s.isAnswered cmd = Ping.isAnsweredBy m := by
    funext ping
    simp [isAnswered, hm]
  have hdelivered := retains_delivered s m
  set told := (s.attentive m).order.foldl (deliver m) (s.attentive m) with htold
  have hhandled : s.handle cmd = told.callbacks.onMessage.refs.foldl (runOnMessage m) told :=
    handle_of_incoming? hm
  have hlatencies := hdelivered.latencies_eq
  by_cases hown : s.Separate ∧ s.callbacks.onMessage.refs.Nodup
  · obtain ⟨hs, hnodup⟩ := hown
    have hsub : told.callbacks.onMessage.refs.Sublist s.callbacks.onMessage.refs := by
      obtain ⟨gone, hmessages, -⟩ := hdelivered.messages
      rw [hmessages]
      exact List.Sublist.map _ List.filter_sublist
    obtain ⟨hpings, answers, hanswers, hall⟩ := pings_foldl (m := m) (List.nil_append _).symm
      (hnodup.sublist hsub)
    have htold : told.callbacks.onMessage.filterMap OnMessage.ping? = s.pings :=
      hdelivered.pings_eq hs
    rw [htold] at hpings hall
    rw [← hhandled] at hpings hanswers
    refine ⟨s.pings.filter (s.isAnswered cmd), ⟨answers, ?_, hanswered ▸ hall⟩, ?_, ?_, ?_, ?_⟩
    · rw [hanswers, hlatencies, hrefused, List.append_nil]
    · exact fun ping hping => (List.mem_filter.mp hping).2
    · rw [hpings, hbegun, List.append_nil]
      exact List.filter_sublist
    · rw [hpings, hbegun, List.append_nil, hanswered]
      exact (List.perm_append_comm.trans (List.filter_append_perm _ s.pings)).subperm
    · refine fun _ _ => ⟨rfl, hpings.trans ?_⟩
      rw [hbegun, List.append_nil, hanswered]
      exact List.filter_congr fun ping _ => by simp [hremoves]
  · obtain ⟨answered, h⟩ := heeded_foldl told m told.callbacks.onMessage.refs
    rw [← hhandled] at h
    obtain ⟨answers, hanswers, hall⟩ := h.answers
    refine ⟨answered, ⟨answers, ?_, hall⟩, hanswered ▸ h.waited, ?_, ?_, fun hs hnodup => ?_⟩
    · rw [hanswers, hlatencies, hrefused, List.append_nil]
    · rw [hbegun, List.append_nil]
      exact h.pings_sublist.trans hdelivered.pings_sublist
    · rw [hbegun, List.append_nil]
      exact h.accounted.trans hdelivered.pings_sublist.subperm
    · exact absurd ⟨hs, hnodup⟩ hown

/-- What a command comes to for pings. -/
theorem serves_handle (s : Socket (Recorded (Watched ω))) (cmd : Command) : ∃ answered,
    Serves cmd answered s (s.handle cmd) := by
  cases hm : s.incoming? cmd with
  | some m => exact serves_incoming hm
  | none =>
    refine ⟨[], ?_⟩
    cases henlists : cmd.enlists with
    | false =>
      have h := retains_handle henlists hm
      exact serves_kept hm (by rintro ticket rfl; cases henlists) (by rintro refs rfl; cases henlists)
        h.latencies_eq h.pings_sublist h.pings_eq
    | true =>
      cases cmd with
      | ping ticket => exact serves_ping s ticket
      | off refs =>
        have hpings : (s.off refs).pings = s.pings.filter fun ping => !refs.contains ping.entry := by
          refine Eq.trans ?_ (pings_without s.callbacks.onMessage refs)
          exact congrArg (fun callbacks : Callbacks => callbacks.onMessage.filterMap OnMessage.ping?)
            (congrArg Socket.callbacks (performAll_eq _ _))
        refine serves_silent rfl ?_ ?_ fun _ => ?_
        · refine (retains_discardAll _ _).latencies_eq.trans ?_
          exact (List.append_nil _).symm
        · refine List.Sublist.trans ?_ (List.sublist_append_left _ _)
          exact hpings ▸ List.filter_sublist
        · exact hpings.trans (List.append_nil _).symm
      | register occasion ref callback =>
        have hpings : (s.handle (.register occasion ref callback)).pings = s.pings := by
          cases occasion with
          | message =>
            refine (List.filterMap_append ..).trans ?_
            exact List.append_nil _
          | _ => rfl
        exact serves_kept rfl nofun nofun rfl (hpings ▸ List.Sublist.refl _) fun _ => hpings
      | createChannel c topic params =>
        exact serves_kept rfl nofun nofun rfl (List.Sublist.refl _) fun _ => rfl
      | _ => cases henlists

end Commands

/-! ### Courses -/

section Courses

variable {ω : Type} [Outside ω] {s s₀ t u : Socket (Recorded (Watched ω))} {m : Message}
variable {cmd : Command} {cmds : List Command} {ping : Ping} {x : Exchange}

instance [Unmoved ω] : Unmoved (Watched ω) where
  accept sender m x w t := Unmoved.accept sender m x w.outside t

variable [Obliging ω]

/-- The ref of an entry was not drawn before. -/
theorem Separate.pinged (h : s.Separate) (hs : Sound s) (ticket : Ticket)
    (hb : (s.ping ticket).exchange.drawn < 2 ^ 64) : (s.ping ticket).Separate := by
  cases hconnected : s.isConnected with
  | false =>
    rw [ping_of_not_connected hconnected]
    exact h.mono (List.Sublist.refl _) (fun c ch hc => ⟨ch, hc, rfl⟩) (turns_perform s _).evolves
  | true =>
    rw [ping_of_connected hconnected] at hb ⊢
    have hsent := retains_pushMessage s.drawRef.2 .socket (.heartbeat s.drawRef.1)
    have hturns := turns_pushMessage s.drawRef.2 .socket (.heartbeat s.drawRef.1)
    have hevolves : s.exchange.Evolves s.pinging.exchange :=
      (quiet_drawRef s).evolves.trans hturns.evolves
    have hsound : Sound s.pinging := (hs.quiet (quiet_drawRef s)).turns hturns
    have hbefore : s.pinging.Separate := h.mono hsent.pings_sublist hsent.channel hevolves
    have hdraws := Exchange.evolves_drawRef s.pinging.exchange
    set ping : Ping := ⟨s.pinging.drawRef.1, s.drawRef.1, s.exchange.now, ticket⟩ with hping
    set t : Socket (Recorded (Watched ω)) := { s.pinging.drawRef.2 with callbacks :=
      { s.pinging.callbacks with onMessage := s.pinging.callbacks.onMessage ++
        [(s.pinging.drawRef.1, .ping s.drawRef.1 s.exchange.now ticket)] } } with ht
    have hpings : t.pings = s.pinging.pings ++ [ping] := List.filterMap_append ..
    refine ⟨fun c ch hc other hother => ?_, fun c ch hc r hr => ?_, fun other hother => ?_⟩
    · rcases List.mem_append.mp (hpings ▸ hother) with hother | hother
      · exact hbefore.apart hc other hother
      · rw [List.mem_singleton.mp hother]
        exact fun hmem => Exchange.not_drew_drawRef hsound.tidy hb (hbefore.drewRefs hc _ hmem)
    · exact hdraws.drew (hbefore.drewRefs hc r hr)
    · rcases List.mem_append.mp (hpings ▸ hother) with hother | hother
      · exact hdraws.drew (hbefore.drewPings other hother)
      · rw [List.mem_singleton.mp hother]
        exact Exchange.drew_drawRef hsound.tidy

/-- A command leaves the entries of pings under refs of their own, as long as no ref comes again. -/
theorem Separate.handle (h : s.Separate) (hs : Sound s)
    (hevolves : s.exchange.Evolves (s.handle cmd).exchange)
    (hb : (s.handle cmd).exchange.drawn < 2 ^ 64) : (s.handle cmd).Separate := by
  obtain ⟨answered, hserves⟩ := serves_handle s cmd
  cases hm : s.incoming? cmd with
  | some m =>
    have hdelivered := retains_delivered s m
    obtain ⟨_, hheeded⟩ := heeded_foldl ((s.attentive m).order.foldl (deliver m) (s.attentive m)) m
      ((s.attentive m).order.foldl (deliver m) (s.attentive m)).callbacks.onMessage.refs
    refine h.mono ?_ (fun c ch' hc' => ?_) hevolves
    · have hbegun := (begun_of_other s cmd (by rintro ticket rfl; cases hm)
        (by rintro refs rfl; cases hm)).1
      simpa [hbegun] using hserves.sublist
    · rw [handle_of_incoming? hm] at hc'
      exact hdelivered.channel (hheeded.channels_eq ▸ hc')
  | none =>
    cases henlists : cmd.enlists with
    | false =>
      have hretains := retains_handle henlists hm
      exact h.mono hretains.pings_sublist hretains.channel hevolves
    | true =>
      cases cmd with
      | createChannel c topic params => exact h.createChannel hs c topic params hb
      | off refs =>
        refine h.mono ?_ (fun c ch hc => ⟨ch, ?_, rfl⟩) hevolves
        · simpa [begun] using hserves.sublist
        · exact (congrArg Socket.channels (performAll_eq
            { s with callbacks := s.callbacks.without refs } _)).symm ▸ hc
      | register occasion ref callback =>
        refine h.mono ?_ (fun c ch hc => ⟨ch, hc, rfl⟩) hevolves
        simpa [begun] using hserves.sublist
      | ping ticket => exact h.pinged hs ticket hb
      | _ => cases henlists

theorem Course.mono {ω : Type} [Outside ω] {s t : Socket ω}
    {allows allows' : Socket ω → Exchange → ω → Prop} (h : Course allows s cmds t)
    (hle : ∀ s x o, allows s x o → allows' s x o) : Course allows' s cmds t := by
  induction h with
  | start => exact .start
  | surroundings before allowed ih => exact .surroundings ih (hle _ _ _ allowed)
  | take before next ih => exact .take ih next
  | abandon before ih => exact .abandon ih

end Courses

/-! ### Pings in scripts -/

end Socket

end Switchboard
