import Switchboard.Proofs.Attempts
import Switchboard.Proofs.Cascade
import Switchboard.Proofs.Mail

/-!
# Joins that are superseded

A message that asks to join carries the ref of the attempt.  If it is handed to a transport as it is
accepted, that is the ref of the channel's latest attempt.  If it has to wait for a connection, its
attempt may meanwhile be taken back or issued anew; the message waits all the same, and leaves with all
others.  So whether a message that leaves belongs to the latest attempt depends on what was noted of its
channel while it waited.

Main definitions

* `Held`, `held`: the messages that wait, and whether their joins were superseded meanwhile;
* `Socket.mail`, `Socket.Mark.mail`: what a socket has asked of its surroundings for messages, and what
  is asked for a mark;
* `Socket.Upheld`: the messages that wait are those that are held.

Main results

* `Socket.Upheld.effort`: an effort keeps up what is held;
* `Socket.join_current_iff`: a message that asks to join leaves under the ref of the latest attempt if
  and only if that was not superseded while the message waited.
-/

set_option autoImplicit false

namespace Switchboard

/-! ### Messages that are held -/

/-- A message that waits, and whether the join that it asks for was superseded meanwhile. -/
structure Held where
  sender : Sender
  message : Message
  superseded : Bool

namespace Held

/-- Whether the message asks to join one of some channels. -/
def asks (among : ChannelId → Bool) (h : Held) : Bool :=
  match h.sender with
  | .push c p => p == joinPush && among c
  | .socket => false

/-- The joins of some channels are superseded. -/
def supersede (among : ChannelId → Bool) (h : Held) : Held :=
  { h with superseded := h.superseded || h.asks among }

theorem superseded_supersede {h : Held} {c : ChannelId} (hsender : h.sender = .push c joinPush)
    (among : ChannelId → Bool) : (h.supersede among).superseded = (h.superseded || among c) := by
  simp [supersede, asks, hsender]

end Held

/-- What waits, if a note is added to what waited before. -/
def Note.hold (hs : List Held) : Note → List Held
  | .keeps sender m => hs ++ [⟨sender, m, false⟩]
  | .renews c | .enters c => hs.map (Held.supersede (· == c))
  | .ends => hs.map (Held.supersede fun _ => true)
  | .flushes _ | .forgets => []
  | _ => hs

/-- A call by which a message is accepted, or a frame is handed over. -/
def Call.isMail : Call → Bool
  | .effect e => e.isPostal
  | _ => false

namespace Socket

variable {ω : Type}

/-- The messages that wait after what was noted. -/
def held (marks : List (Mark ω)) : List Held := marks.foldl (fun hs mark => mark.note.hold hs) []

theorem held_append (marks : List (Mark ω)) (notes : List Note) (s : Socket ω) :
    held (marks ++ notes.map (Mark.mk s)) = notes.foldl Note.hold (held marks) := by
  simp only [held, List.foldl_append, List.foldl_map]

section Outside

variable [Outside ω] {w s t : Socket ω} {cmd : Command} {notes : List Note} {marks : List (Mark ω)}
variable {c : ChannelId} {p : PushId} {ch : Channel} {q : Push} {hs : List Held} {r : Ref}

/-! ### Numbers -/

variable [Obliging ω]

theorem evolves_perform (s : Socket ω) (e : Effect) :
    s.exchange.Evolves (s.perform e).exchange := (Obliging.perform e s.exchange s.outside).evolves

theorem evolves_transmit (s : Socket ω) (m : Message) :
    s.exchange.Evolves (s.transmit m).exchange := by
  unfold transmit
  split
  · exact .refl _
  · split
    · exact evolves_perform s _
    · exact (uneventful_report s _).evolves inferInstance

theorem evolves_pushMessage (s : Socket ω) (sender : Sender) (m : Message) :
    s.exchange.Evolves (s.pushMessage sender m).exchange := by
  refine (evolves_perform s (.accept sender m)).trans ?_
  unfold pushMessage
  dsimp only
  split
  · exact evolves_transmit _ m
  · exact .refl _

theorem evolves_flush (s : Socket ω) : s.exchange.Evolves s.flush.exchange := by
  have htransmits : ∀ (ms : List Message) (s : Socket ω),
      s.exchange.Evolves (ms.foldl transmit s).exchange := by
    intro ms
    induction ms with
    | nil => exact fun s => .refl _
    | cons m ms ih => exact fun s => (evolves_transmit s m).trans (ih (s.transmit m))
  unfold flush
  split
  · exact .refl _
  · exact htransmits s.sendBuffer { s with sendBuffer := [] }

omit [Outside ω] [Obliging ω] in
theorem evolves_startTimeout (s : Socket ω) (c : ChannelId) (p : PushId) :
    s.exchange.Evolves (s.startTimeout c p).exchange := by
  cases hpush : s.push? c p with
  | none =>
    obtain ⟨x, heq, hevolves⟩ := startTimeout_of_none hpush
    rw [heq]
    exact hevolves
  | some q =>
    obtain ⟨ch, hc, hq⟩ := Option.bind_eq_some_iff.mp hpush
    obtain ⟨n, x, heq, hevolves⟩ := startTimeout_of_some hc hq
    rw [heq]
    exact (Exchange.evolves_drawRef _).trans hevolves

theorem Toil.evolves (h : Toil notes s t) : s.exchange.Evolves t.exchange := by
  cases h with
  | uneventful uneventful => exact uneventful.evolves inferInstance
  | starts _ c p => exact evolves_startTimeout s c p
  | takesBack _ c => unfold resetPush; split <;> exact .refl _
  | schedules channel errored =>
    simp only [scheduleRejoin, channel]
    exact .of_eq rfl rfl rfl rfl
  | sends _ own connected => exact evolves_pushMessage s _ _
  | keeps _ own unconnected => exact evolves_pushMessage s _ _
  | _ => exact .refl _

theorem Effort.evolves (h : Effort w cmd notes s t) : s.exchange.Evolves t.exchange := by
  cases h with
  | toil toil => exact toil.evolves
  | enters _ c topic params =>
    exact (Exchange.evolves_drawRef s.exchange).trans (Exchange.evolves_drawRef s.exchange.drawRef.2)
  | schedulesReconnect => exact .of_eq rfl rfl rfl rfl
  | flushes connected => exact evolves_flush s
  | ends => exact Exchange.evolves_shut s.exchange
  | _ => exact .refl _

theorem Efforts.evolves (h : Efforts w cmd s marks t) : s.exchange.Evolves t.exchange := by
  induction h with
  | refl => exact .refl _
  | tail _ effort ih => exact ih.trans effort.evolves

/-! ### The refs of joins -/

omit [Outside ω] [Obliging ω] in
theorem joinRef?_eq (s : Socket ω) (c : ChannelId) :
    s.joinRef? c = (s.push? c joinPush).bind Push.ref := by
  rw [joinRef?, push?, Option.bind_assoc]
  rfl

/-- The joins of some channels have new refs, or none. -/
structure Renewing (among : ChannelId → Bool) (s t : Socket ω) : Prop where
  kept : ∀ {c}, among c = false → t.joinRef? c = s.joinRef? c
  fresh : ∀ {c r}, among c = true → s.exchange.Drew r → t.joinRef? c ≠ some r
  drew : ∀ {c r}, t.joinRef? c = some r → s.joinRef? c = some r ∨ t.exchange.Drew r

omit [Outside ω] [Obliging ω] in
/-- The join of one channel has no ref any more. -/
theorem renewing_of_none (hnone : t.joinRef? c = none)
    (hother : ∀ {d}, d ≠ c → t.channels.get? d = s.channels.get? d) : Renewing (· == c) s t := by
  have hkept : ∀ {d}, d ≠ c → t.joinRef? d = s.joinRef? d := fun hd => by
    simp only [joinRef?, hother hd]
  refine ⟨fun hd => hkept (by simpa using hd), fun {d r} hd _ => ?_, fun {d r} hr => .inl ?_⟩
  · obtain rfl : d = c := by simpa using hd
    simp [hnone]
  · by_cases hd : d = c
    · rw [hd, hnone] at hr
      cases hr
    · rwa [hkept hd] at hr

omit [Outside ω] [Obliging ω] in
theorem joinRef?_set_of_ne {d : ChannelId} (hd : d ≠ c) (ch : Channel) :
    { s with channels := s.channels.set c ch }.joinRef? d = s.joinRef? d := by
  simp only [joinRef?, Table.get?_set_of_ne _ hd]

omit [Outside ω] [Obliging ω] in
/-- A join that starts to wait has a fresh ref. -/
theorem renewing_startTimeout (htidy : s.exchange.Tidy)
    (hdrawn : (s.startTimeout c joinPush).exchange.drawn < 2 ^ 64) :
    Renewing (· == c) s (s.startTimeout c joinPush) := by
  cases hpush : s.push? c joinPush with
  | none =>
    obtain ⟨x, heq, -⟩ := startTimeout_of_none hpush
    rw [heq]
    refine renewing_of_none ?_ fun _ => rfl
    have hnone : s.joinRef? c = none := by rw [joinRef?_eq, hpush]; rfl
    exact hnone
  | some q =>
    obtain ⟨ch, hc, hq⟩ := Option.bind_eq_some_iff.mp hpush
    obtain ⟨n, x, heq, hevolves⟩ := startTimeout_of_some hc hq
    rw [heq] at hdrawn ⊢
    have hfresh := Exchange.not_drew_drawRef htidy (Nat.lt_of_le_of_lt hevolves.drawn_le hdrawn)
    have hdrew := hevolves.drew (Exchange.drew_drawRef htidy)
    have hjoin : { s with
        channels := s.channels.set c (ch.start joinPush q s.exchange.drawRef.1 n),
        exchange := x }.joinRef? c = some s.exchange.drawRef.1 := by
      simp [joinRef?, Channel.joinRef, Channel.start_pushes]
    refine ⟨fun {d} hd => joinRef?_set_of_ne (by simpa using hd) _, fun {d r} hd hr heq' => ?_,
      fun {d r} hr => ?_⟩
    · obtain rfl : d = c := by simpa using hd
      rw [hjoin] at heq'
      cases heq'
      exact hfresh hr
    · by_cases hd : d = c
      · rw [hd, hjoin] at hr
        cases hr
        exact .inr hdrew
      · exact .inl ((joinRef?_set_of_ne hd _).symm.trans hr)

omit [Outside ω] [Obliging ω] in
/-- Another push that starts to wait does not matter. -/
theorem joinRef?_startTimeout (hp : p ≠ joinPush) (d : ChannelId) :
    (s.startTimeout c p).joinRef? d = s.joinRef? d := by
  cases hpush : s.push? c p with
  | none =>
    obtain ⟨x, heq, -⟩ := startTimeout_of_none hpush
    rw [heq]
    rfl
  | some q =>
    obtain ⟨ch, hc, hq⟩ := Option.bind_eq_some_iff.mp hpush
    obtain ⟨n, x, heq, -⟩ := startTimeout_of_some hc hq
    rw [heq]
    by_cases hd : d = c
    · subst hd
      simp only [joinRef?, Table.get?_set_self, Option.bind_some, Channel.joinRef,
        Channel.start_pushes, Table.get?_set_of_ne _ (Ne.symm hp), hc]
    · exact joinRef?_set_of_ne hd _

omit [Outside ω] [Obliging ω] in
/-- A channel changes, but its join keeps its ref. -/
theorem joinRef?_modifyChannel {f : Channel → Channel} (hf : ∀ ch, (f ch).joinRef = ch.joinRef)
    (d : ChannelId) : (s.modifyChannel c f).joinRef? d = s.joinRef? d := by
  simp only [joinRef?, modifyChannel, Table.get?_modify]
  split
  · rename_i heq
    rw [heq]
    cases s.channels.get? c <;> simp [hf]
  · rfl

omit [Obliging ω] in
theorem Uneventful.joinRef? (h : Uneventful s t) (c : ChannelId) : t.joinRef? c = s.joinRef? c := by
  cases hc' : t.channels.get? c with
  | none => simp only [Socket.joinRef?, hc', h.gone hc']
  | some ch' =>
    obtain ⟨ch, hc, hch⟩ := h.channel hc'
    simp only [Socket.joinRef?, hc', hc, Option.bind_some, hch.joinRef]

omit [Outside ω] [Obliging ω] in
/-- A channel is changed so that its join has no ref any more. -/
theorem renewing_modifyChannel {f : Channel → Channel} (hf : ∀ ch, (f ch).joinRef = none) :
    Renewing (· == c) s (s.modifyChannel c f) := by
  refine renewing_of_none ?_ fun hd => Table.get?_modify_of_ne _ hd _
  simp only [joinRef?, modifyChannel, Table.get?_modify_self]
  cases s.channels.get? c <;> simp [hf]

omit [Outside ω] [Obliging ω] in
theorem renewing_resetPush : Renewing (· == c) s (s.resetPush c joinPush) := by
  unfold resetPush
  split
  · rename_i hpush
    refine renewing_of_none ?_ fun _ => rfl
    rw [joinRef?_eq, hpush]
    rfl
  · refine renewing_modifyChannel fun ch => ?_
    simp only [Channel.joinRef, Channel.dropBindings?_pushes, Channel.modifyPush,
      Table.get?_modify_self]
    cases ch.pushes.get? joinPush <;> rfl

/-! ### What is held -/

/-- The messages that wait are those that are held.  One that asks to join has a ref that was drawn, and
it is that of the channel's latest attempt if and only if that was not superseded. -/
structure Upheld (s : Socket ω) (hs : List Held) : Prop where
  tidy : s.exchange.Tidy
  known : ∀ {c r}, s.joinRef? c = some r → s.exchange.Drew r
  buffer : s.sendBuffer = hs.map Held.message
  issued : ∀ h ∈ hs, ∀ {c}, h.sender = .push c joinPush →
    ∃ r, h.message.ref = some r ∧ s.exchange.Drew r
  current : ∀ h ∈ hs, ∀ {c}, h.sender = .push c joinPush →
    (s.joinRef? c = h.message.ref ↔ h.superseded = false)

namespace Upheld

omit [Outside ω] [Obliging ω] in
/-- No join is superseded. -/
theorem quiet (h : s.Upheld hs) (hjoin : ∀ c, t.joinRef? c = s.joinRef? c)
    (hbuffer : t.sendBuffer = s.sendBuffer) (hevolves : s.exchange.Evolves t.exchange) :
    t.Upheld hs where
  tidy := hevolves.tidy h.tidy
  known hr := hevolves.drew (h.known ((hjoin _).symm.trans hr))
  buffer := hbuffer.trans h.buffer
  issued held hheld c hsender := by
    obtain ⟨r, href, hdrew⟩ := h.issued held hheld hsender
    exact ⟨r, href, hevolves.drew hdrew⟩
  current held hheld c hsender := by
    rw [hjoin]
    exact h.current held hheld hsender

omit [Outside ω] [Obliging ω] in
/-- The joins of some channels are superseded, and so are the messages that ask for them. -/
theorem renewing (h : s.Upheld hs) {among : ChannelId → Bool} (hrenewing : Renewing among s t)
    (hbuffer : t.sendBuffer = s.sendBuffer) (hevolves : s.exchange.Evolves t.exchange) :
    t.Upheld (hs.map (Held.supersede among)) where
  tidy := hevolves.tidy h.tidy
  known hr := (hrenewing.drew hr).elim (fun hr => hevolves.drew (h.known hr)) id
  buffer := by
    rw [hbuffer, h.buffer, List.map_map]
    rfl
  issued := by
    refine List.forall_mem_map.mpr fun held hheld c hsender => ?_
    obtain ⟨r, href, hdrew⟩ := h.issued held hheld hsender
    exact ⟨r, href, hevolves.drew hdrew⟩
  current := by
    refine List.forall_mem_map.mpr fun held hheld c hsender => ?_
    have hsender' : held.sender = .push c joinPush := hsender
    rw [Held.superseded_supersede hsender']
    obtain ⟨r, href, hdrew⟩ := h.issued held hheld hsender
    cases hamong : among c with
    | false =>
      rw [hrenewing.kept hamong, Bool.or_false]
      exact h.current held hheld hsender
    -- The ref that the message has cannot come again.
    | true =>
      rw [Bool.or_true]
      refine iff_of_false (fun heq => ?_) (by simp)
      exact hrenewing.fresh hamong hdrew (heq.trans href)

omit [Outside ω] [Obliging ω] in
/-- All that waits is handed over, or forgotten. -/
theorem nothing (h : s.Upheld hs) (hjoin : ∀ c, t.joinRef? c = s.joinRef? c)
    (hbuffer : t.sendBuffer = []) (hevolves : s.exchange.Evolves t.exchange) : t.Upheld [] where
  tidy := hevolves.tidy h.tidy
  known hr := hevolves.drew (h.known ((hjoin _).symm.trans hr))
  buffer := hbuffer
  issued := by simp
  current := by simp

/-- One message more waits. -/
theorem keeps (h : s.Upheld hs) {sender : Sender} {m : Message}
    (own : ∀ {c p}, sender = .push c p → m.ref.isSome ∧ (s.push? c p).bind Push.ref = m.ref)
    (hconnected : ¬ (s.perform (.accept sender m)).isConnected = true) :
    (s.pushMessage sender m).Upheld (hs ++ [⟨sender, m, false⟩]) := by
  have hevolves := evolves_pushMessage s sender m
  have hbuffer : (s.pushMessage sender m).sendBuffer = s.sendBuffer ++ [m] := by
    rw [pushMessage, if_neg hconnected]
    rfl
  have hjoin : ∀ c, (s.pushMessage sender m).joinRef? c = s.joinRef? c := by
    rw [pushMessage_eq]
    exact fun _ => rfl
  constructor
  case tidy => exact hevolves.tidy h.tidy
  case known => exact fun hr => hevolves.drew (h.known ((hjoin _).symm.trans hr))
  case buffer =>
    rw [hbuffer, h.buffer, List.map_append]
    rfl
  case issued =>
    refine List.forall_mem_append.mpr ⟨fun held hheld c hsender => ?_,
      List.forall_mem_singleton.mpr fun {c} hsender => ?_⟩
    · obtain ⟨r, href, hdrew⟩ := h.issued held hheld hsender
      exact ⟨r, href, hevolves.drew hdrew⟩
    · obtain ⟨hsome, hown⟩ := own hsender
      obtain ⟨r, href⟩ := Option.isSome_iff_exists.mp hsome
      rw [← joinRef?_eq, href] at hown
      exact ⟨r, href, hevolves.drew (h.known hown)⟩
  case current =>
    refine List.forall_mem_append.mpr ⟨fun held hheld c hsender => ?_,
      List.forall_mem_singleton.mpr fun {c} hsender => ?_⟩
    · rw [hjoin]
      exact h.current held hheld hsender
    · rw [hjoin, joinRef?_eq]
      exact iff_of_true (own hsender).2 rfl

/-- A toil keeps up what is held. -/
theorem toil (h : s.Upheld hs) (htoil : Toil notes s t) (hdrawn : t.exchange.drawn < 2 ^ 64) :
    t.Upheld (notes.foldl Note.hold hs) := by
  have hevolves := htoil.evolves
  cases htoil with
  | uneventful uneventful => exact h.quiet uneventful.joinRef? uneventful.sendBuffer hevolves
  | starts _ c p =>
    have hbuffer : (s.startTimeout c p).sendBuffer = s.sendBuffer := by rw [startTimeout_eq]
    split
    · rename_i hp
      subst hp
      exact h.renewing (renewing_startTimeout h.tidy hdrawn) hbuffer hevolves
    · rename_i hp
      exact h.quiet (joinRef?_startTimeout hp) hbuffer hevolves
  | takesBack _ c =>
    have hbuffer : (s.resetPush c joinPush).sendBuffer = s.sendBuffer := by
      unfold resetPush
      split <;> rfl
    exact h.renewing renewing_resetPush hbuffer hevolves
  | inserts _ c p unsent =>
    split
    · rename_i hp
      subst hp
      refine h.renewing (renewing_modifyChannel fun ch => ?_) rfl hevolves
      simp only [Channel.joinRef, Table.get?_set_self, Option.bind_some, unsent]
    · rename_i hp
      refine h.quiet (joinRef?_modifyChannel fun ch => ?_) rfl hevolves
      simp only [Channel.joinRef, Table.get?_set_of_ne _ (Ne.symm hp)]
  | erases _ c =>
    refine h.renewing (renewing_of_none ?_ fun hd => Table.get?_erase_of_ne _ hd) rfl hevolves
    simp [joinRef?]
  | @schedules _ c ch channel errored =>
    simp only [scheduleRejoin, channel] at hevolves ⊢
    exact h.quiet (joinRef?_modifyChannel (s := s) fun ch => rfl) rfl hevolves
  | joins channel => exact h.quiet (joinRef?_modifyChannel fun _ => rfl) rfl hevolves
  | leaves channel =>
    refine h.quiet (joinRef?_modifyChannel fun ch => ?_) rfl hevolves
    simp only [Channel.joinRef, Table.get?_modify_self]
    cases ch.pushes.get? joinPush <;> rfl
  | closes channel => exact h.quiet (joinRef?_modifyChannel fun _ => rfl) rfl hevolves
  | @sends _ sender m own connected =>
    refine h.quiet (fun _ => ?_) ?_ hevolves
    · rw [pushMessage_eq]
      rfl
    · rw [pushMessage, if_pos connected, transmit_eq]
      rfl
  | keeps _ own unconnected => exact h.keeps own unconnected

/-- An effort keeps up what is held. -/
theorem effort (h : s.Upheld hs) (heffort : Effort w cmd notes s t)
    (hdrawn : t.exchange.drawn < 2 ^ 64) : t.Upheld (notes.foldl Note.hold hs) := by
  have hevolves := heffort.evolves
  cases heffort with
  | toil toil => exact h.toil toil hdrawn
  | enlists => exact h.quiet (fun _ => rfl) rfl hevolves
  | enters _ c topic params =>
    refine h.renewing (renewing_of_none ?_ fun hd => Table.get?_set_of_ne _ hd _) rfl hevolves
    simp only [joinRef?, createChannel, Table.get?_set_self]
    rfl
  | fires command channel fired => exact h.quiet (joinRef?_modifyChannel fun _ => rfl) rfl hevolves
  | opens command own channel => exact h.quiet (joinRef?_modifyChannel fun _ => rfl) rfl hevolves
  | fails command own channel => exact h.quiet (joinRef?_modifyChannel fun _ => rfl) rfl hevolves
  | schedulesReconnect => exact h.quiet (fun _ => rfl) rfl hevolves
  | reconnects command fired => exact h.quiet (fun _ => rfl) rfl hevolves
  | forgivesReconnect _ forgives => exact h.quiet (fun _ => rfl) rfl hevolves
  | flushes connected =>
    refine h.nothing (fun _ => ?_) ?_ hevolves
    · rw [flush_eq connected]
      rfl
    · rw [flush_eq connected]
  | forgets _ supplants => exact h.nothing (fun _ => rfl) rfl hevolves
  | ends =>
    refine h.renewing ⟨by simp, fun _ _ => ?_, fun hr => ?_⟩ rfl hevolves
    · simp [joinRef?]
    · simp [joinRef?] at hr

end Upheld

omit [Obliging ω] in
/-- An effort leaves one note at most. -/
theorem Effort.one_note (h : Effort w cmd notes s t) : notes = [] ∨ ∃ note, notes = [note] := by
  cases h with
  | toil toil =>
    cases toil with
    | uneventful => exact .inl rfl
    | starts _ c p =>
      split
      · exact .inr ⟨_, rfl⟩
      · exact .inl rfl
    | inserts _ c p =>
      split
      · exact .inr ⟨_, rfl⟩
      · exact .inl rfl
    | _ => exact .inr ⟨_, rfl⟩
  | _ => exact .inr ⟨_, rfl⟩

/-! ### Messages that leave -/

/-- What is known of a mark, given those before it.  What waits is held; a message that is handed over as
it is accepted carries the ref of its push, and what leaves later is all that waits. -/
structure Mark.Timely (before : List (Mark ω)) (mark : Mark ω) : Prop where
  upheld : mark.now.Upheld (held before)
  sends : ∀ {c p m}, mark.note = .sends (.push c p) m →
    m.ref.isSome ∧ (mark.now.push? c p).bind Push.ref = m.ref
  flushes : ∀ {ms}, mark.note = .flushes ms → ms = mark.now.sendBuffer

omit [Obliging ω] in
/-- What is noted of an effort. -/
theorem Effort.noted (h : Effort w cmd notes s t) {note : Note} (hnote : note ∈ notes) :
    (∀ {c p m}, note = .sends (.push c p) m → m.ref.isSome ∧ (s.push? c p).bind Push.ref = m.ref) ∧
      ∀ {ms}, note = .flushes ms → ms = s.sendBuffer := by
  refine ⟨fun {c p m} heq => ?_, fun {ms} heq => ?_⟩
  · subst heq
    cases h with
    | toil toil =>
      cases toil with
      | sends _ own connected =>
        cases List.mem_singleton.mp hnote
        exact own rfl
      | _ => simp at hnote
    | _ => simp at hnote
  · subst heq
    cases h with
    | flushes connected =>
      cases List.mem_singleton.mp hnote
      rfl
    | toil toil =>
      cases toil with
      | _ => simp at hnote
    | _ => simp at hnote

/-- Efforts keep up what is held, and all their marks are timely. -/
theorem Upheld.efforts {before : List (Mark ω)} (h : s.Upheld (held before))
    (hefforts : Efforts w cmd s marks t) (hdrawn : t.exchange.drawn < 2 ^ 64) :
    t.Upheld (held (before ++ marks)) ∧ ∀ {early mark late}, marks = early ++ mark :: late →
      mark.Timely (before ++ early) := by
  induction hefforts with
  | refl => exact ⟨by rwa [List.append_nil], fun heq => by simp at heq⟩
  | @tail marks notes t u efforts effort ih =>
    obtain ⟨hupheld, htimely⟩ := ih (Nat.lt_of_le_of_lt effort.evolves.drawn_le hdrawn)
    have hnext := hupheld.effort effort hdrawn
    rw [← held_append _ _ t, List.append_assoc] at hnext
    refine ⟨hnext, fun {early mark late} heq => ?_⟩
    obtain rfl | ⟨note, rfl⟩ := effort.one_note
    · rw [List.map_nil, List.append_nil] at heq
      exact htimely heq
    · rcases concat_split heq with ⟨rfl, rfl⟩ | ⟨rest, hmarks⟩
      · obtain ⟨hsends, hflushes⟩ := effort.noted (List.mem_singleton_self note)
        exact ⟨hupheld, hsends, hflushes⟩
      · exact htimely hmarks

end Outside

/-! ### What is asked of the surroundings -/

section Watched

variable [Outside ω]

/-- What a socket has asked of its surroundings for messages: to take note that one was accepted, and to
hand a frame to a transport. -/
def mail (s : Socket (Watched ω)) : List Call := s.calls.filter Call.isMail

/-- What is asked of the surroundings for a mark. -/
def Mark.mail (mark : Mark (Watched ω)) : List Call :=
  match mark.note with
  | .sends sender m => .effect (.accept sender m) :: (mark.now.postage m).filter Call.isMail
  | .keeps sender m => [.effect (.accept sender m)]
  | .flushes ms => (ms.flatMap mark.now.postage).filter Call.isMail
  | _ => []

variable {w s t : Socket (Watched ω)} {cmd : Command} {notes : List Note}
variable {marks : List (Mark (Watched ω))}

/-- The record of what is asked for messages hears of nothing else. -/
theorem hearsMailOnly_mail :
    HearsMailOnly (ω := Watched ω) fun w => w.calls.filter Call.isMail where
  perform he := by simp [Outside.perform, Call.isMail, he]
  hook := by simp [Outside.hook, Call.isMail]
  runError := by simp [Outside.runError, Call.isMail]

omit [Outside ω] in
theorem mail_of_calls {calls : List Call} (h : t.calls = s.calls ++ calls) :
    t.mail = s.mail ++ calls.filter Call.isMail := by
  rw [mail, h, List.filter_append]
  rfl

omit [Outside ω] in
theorem mail_of_eq (h : t.outside = s.outside) : t.mail = s.mail ++ [] := by
  rw [List.append_nil, mail, calls, h]
  rfl

theorem Toil.mail (h : Toil notes s t) :
    t.mail = s.mail ++ (notes.map (Mark.mk s)).flatMap Mark.mail := by
  cases h with
  | uneventful uneventful =>
    rw [List.map_nil, List.flatMap_nil, List.append_nil]
    exact uneventful.silent hearsMailOnly_mail
  | starts _ c p =>
    have hsame : (s.startTimeout c p).outside = s.outside := by rw [startTimeout_eq]
    split <;> exact mail_of_eq hsame
  | takesBack _ c =>
    have hsame : (s.resetPush c joinPush).outside = s.outside := by
      unfold resetPush
      split <;> rfl
    exact mail_of_eq hsame
  | inserts _ c p unsent => split <;> exact mail_of_eq rfl
  | schedules channel errored =>
    simp only [scheduleRejoin, channel]
    exact mail_of_eq rfl
  | sends _ own connected =>
    rw [mail_of_calls (pushMessage_of_connected connected).1, List.map_singleton,
      List.flatMap_singleton]
    rfl
  | keeps _ own unconnected =>
    rw [mail_of_calls (pushMessage_of_not_connected unconnected).1, List.map_singleton,
      List.flatMap_singleton]
    rfl
  | _ => exact mail_of_eq rfl

/-- All that an effort asks for messages is asked for its notes. -/
theorem Effort.mail (h : Effort w cmd notes s t) :
    t.mail = s.mail ++ (notes.map (Mark.mk s)).flatMap Mark.mail := by
  cases h with
  | toil toil => exact toil.mail
  | @flushes _ connected =>
    rw [List.map_singleton, List.flatMap_singleton]
    by_cases hidle : (!s.isConnected || s.sendBuffer.isEmpty) = true
    · have hempty : s.sendBuffer = [] := by simpa [connected] using hidle
      rw [flush_of_idle hidle, hempty]
      exact (List.append_nil _).symm
    · exact mail_of_calls (calls_flush (by simpa using hidle)).1
  | _ => exact mail_of_eq rfl

theorem Efforts.mail (h : Efforts w cmd s marks t) : t.mail = s.mail ++ marks.flatMap Mark.mail := by
  induction h with
  | refl => rw [List.flatMap_nil, List.append_nil]
  | tail _ effort ih => rw [effort.mail, ih, List.flatMap_append, List.append_assoc]

/-! ### Joins on their way -/

variable [Obliging ω] {s₀ : Socket (Watched ω)} {cmds : List Command}

/-- All that is asked for messages is asked for the marks of the annals, and all of these are timely. -/
theorem Annals.upheld (h : Annals KeepsMail s₀ cmds marks s) (h₀ : s₀.Upheld []) (hmail : s₀.mail = [])
    (hdrawn : s.exchange.drawn < 2 ^ 64) :
    s.Upheld (held marks) ∧ s.mail = marks.flatMap Mark.mail ∧
      ∀ {early mark late}, marks = early ++ mark :: late → mark.Timely early := by
  -- One command more: its marks come after all others.
  have hcommand : ∀ {cmd : Command} {before after : List (Mark (Watched ω))} {t : Socket (Watched ω)},
      Carried t cmd after → (t.handle cmd).exchange.drawn < 2 ^ 64 → t.Upheld (held before) →
      t.mail = before.flatMap Mark.mail →
      (∀ {early mark late}, before = early ++ mark :: late → Mark.Timely early mark) →
      (t.handle cmd).Upheld (held (before ++ after)) ∧
        (t.handle cmd).mail = (before ++ after).flatMap Mark.mail ∧
        ∀ {early mark late}, before ++ after = early ++ mark :: late → Mark.Timely early mark := by
    intro cmd before after t carried hdrawn hupheld hmail htimely
    obtain ⟨hnext, hnew⟩ := hupheld.efforts carried.efforts hdrawn
    refine ⟨hnext, ?_, fun {early mark late} heq => ?_⟩
    · rw [carried.efforts.mail, hmail, List.flatMap_append]
    · rcases List.append_eq_append_iff.mp heq with ⟨rest, rfl, hrest⟩ | ⟨rest, rfl, hrest⟩
      · exact hnew hrest
      · cases rest with
        | nil => simpa using @hnew [] _ _ hrest.symm
        | cons mark' rest =>
          obtain ⟨rfl, rfl⟩ := List.cons.inj hrest
          exact htimely rfl
  induction h with
  | start => exact ⟨h₀, hmail, fun heq => by simp at heq⟩
  | @surroundings _ _ t x o before allowed ih =>
    have hevolves : t.exchange.Evolves x := allowed.1.evolves
    obtain ⟨hupheld, hasked, htimely⟩ := ih (Nat.lt_of_le_of_lt hevolves.drawn_le hdrawn)
    refine ⟨hupheld.quiet (fun _ => rfl) rfl hevolves, ?_, htimely⟩
    rw [← hasked]
    exact congrArg (List.filter Call.isMail) allowed.2
  | @take _ _ _ t _ x before next carried ih =>
    have hevolves : t.exchange.Evolves x := Exchange.evolves_next? next
    have hbound := Nat.lt_of_le_of_lt carried.efforts.evolves.drawn_le hdrawn
    obtain ⟨hupheld, hasked, htimely⟩ := ih (Nat.lt_of_le_of_lt hevolves.drawn_le hbound)
    have hready : { t with exchange := x }.Upheld _ := hupheld.quiet (fun _ => rfl) rfl hevolves
    exact hcommand carried hdrawn hready hasked htimely
  | abandon before carried ih =>
    obtain ⟨hupheld, hasked, htimely⟩ :=
      ih (Nat.lt_of_le_of_lt carried.efforts.evolves.drawn_le hdrawn)
    exact hcommand carried hdrawn hupheld hasked htimely

omit [Outside ω] [Obliging ω] in
/-- What waits was accepted from its sender. -/
theorem accepted_of_held {h : Held} (hheld : h ∈ held marks) :
    .effect (.accept h.sender h.message) ∈ marks.flatMap Mark.mail := by
  induction marks using List.reverseRecOn generalizing h with
  | nil => simp [held] at hheld
  | append_singleton marks mark ih =>
    rw [List.flatMap_append, List.mem_append, List.flatMap_singleton]
    have hstep : held (marks ++ [mark]) = mark.note.hold (held marks) := by
      simp only [held, List.foldl_append, List.foldl_cons, List.foldl_nil]
    rw [hstep] at hheld
    -- What is superseded was accepted all the same.
    have hsupersede : ∀ {among}, h ∈ (held marks).map (Held.supersede among) →
        .effect (.accept h.sender h.message) ∈ marks.flatMap Mark.mail := by
      intro among hmem
      obtain ⟨h', hh', rfl⟩ := List.mem_map.mp hmem
      have hbefore := ih hh'
      exact hbefore
    unfold Note.hold at hheld
    split at hheld
    · rename_i sender m hnote
      rcases List.mem_append.mp hheld with hold | hnew
      · exact .inl (ih hold)
      · rw [List.mem_singleton.mp hnew, Mark.mail, hnote]
        exact .inr (List.mem_singleton_self _)
    · exact .inl (hsupersede hheld)
    · exact .inl (hsupersede hheld)
    · exact .inl (hsupersede hheld)
    · cases hheld
    · cases hheld
    · exact .inl (ih hheld)

/-- Whether a join is superseded on its way.  All messages are handed over at marks of the annals.  A
message of a join that is handed over as it is accepted carries the ref of the channel's latest attempt.
What leaves later is all that waits; a message of a join among that carries the ref of the latest attempt
if and only if that was not superseded while it waited. -/
theorem join_current_iff {endpoint : String} {config : Config} {factory : Factory} {outside : ω}
    (h : Course KeepsMail (.new endpoint config factory ⟨outside, []⟩) cmds s)
    (hdrawn : s.exchange.drawn < 2 ^ 64) :
    (∃ marks, Annals KeepsMail (.new endpoint config factory ⟨outside, []⟩) cmds marks s) ∧
    ∀ {marks}, Annals KeepsMail (.new endpoint config factory ⟨outside, []⟩) cmds marks s →
      s.mail = marks.flatMap Mark.mail ∧ s.Upheld (held marks) ∧
      ∀ {early u note late}, marks = early ++ ⟨u, note⟩ :: late →
        (∀ {c m}, note = .sends (.push c joinPush) m → m.ref.isSome ∧ u.joinRef? c = m.ref) ∧
        ∀ {ms}, note = .flushes ms → ms = (held early).map Held.message ∧
          ∀ h ∈ held early, ∀ {c}, h.sender = .push c joinPush →
            (u.joinRef? c = h.message.ref ↔ h.superseded = false) := by
  refine ⟨h.annals, fun {marks} hannals => ?_⟩
  have hnew : (Socket.new endpoint config factory (⟨outside, []⟩ : Watched ω)).Upheld [] := by
    refine ⟨Exchange.tidy_new, fun hr => ?_, rfl, by simp, by simp⟩
    simp [joinRef?, Socket.new] at hr
  obtain ⟨hupheld, hmail, htimely⟩ := hannals.upheld hnew rfl hdrawn
  refine ⟨hmail, hupheld, fun {early u note late} hmarks => ?_⟩
  obtain ⟨hnow, hsends, hflushes⟩ := htimely hmarks
  refine ⟨fun {c m} hnote => ?_, fun {ms} hnote => ⟨?_, hnow.current⟩⟩
  · rw [joinRef?_eq]
    exact hsends hnote
  · rw [hflushes hnote]
    exact hnow.buffer

end Watched

/-- The message that is accepted by a call, as far as its sender and its ref go. -/
def acceptedRef? : Call → Option (Sender × Option Ref)
  | .effect (.accept sender m) => some (sender, m.ref)
  | _ => none

/-- A channel asks to join while the transport is opening, and the transport fails; then the transport
reports that it has opened, after all. -/
def outdated : List Deed :=
  [.connect, .take, .createChannel "room", .take, .join 0 10000, .take,
    .report 0 (.failed (.connect "refused")), .take, .report 0 .opened, .become ⟨.open, 0⟩]

/-- The message of the first attempt still waits over the open connection; its attempt is superseded. -/
theorem join_current_iff_outdated : ∃ (cmds : List Command) (s : Socket (Watched Idle))
    (marks : List (Mark (Watched Idle))), Course KeepsMail watched cmds s ∧
      Annals KeepsMail watched cmds marks s ∧ s.isConnected = true ∧
      s.exchange.next?.map Prod.fst = some (.transport 0 .opened) ∧
      (held marks).map (fun h => (h.sender, h.message.ref, h.superseded)) =
        [(.push 0 joinPush, some "3", true)] := by
  obtain ⟨⟨cmds, s⟩, hplay, hview⟩ := Option.map_eq_some_iff.mp
    (show (watched.follow? anyhow watching outdated).map (fun r =>
        (r.2.isConnected, r.2.exchange.next?.map Prod.fst, r.2.sendBuffer.map Message.ref,
          r.2.joinRef? 0, r.2.mail.filterMap acceptedRef?, r.2.exchange.drawn)) =
      some (true, some (.transport 0 .opened), [some "3"], none, [(.push 0 joinPush, some "3")], 3)
        by cbv)
  simp only [Prod.mk.injEq] at hview
  obtain ⟨hconnected, hnext, hbuffer, hjoin, haccepted, hdrawn⟩ := hview
  have hcourse : Course KeepsMail watched cmds s := keepsMail_of_follow? hplay
  obtain ⟨⟨marks, hannals⟩, htells⟩ := join_current_iff hcourse (by rw [hdrawn]; decide)
  obtain ⟨hmail, hupheld, -⟩ := htells hannals
  refine ⟨cmds, s, marks, hcourse, hannals, hconnected, hnext, ?_⟩
  -- One message waits, and it was accepted from the push that asks to join.
  rw [hupheld.buffer, List.map_map] at hbuffer
  obtain ⟨h, hheld, href⟩ := List.map_eq_singleton_iff.mp hbuffer
  have hmem : h ∈ held marks := hheld ▸ List.mem_singleton_self h
  have hsender : h.sender = .push 0 joinPush := by
    have hcall : (h.sender, h.message.ref) ∈ s.mail.filterMap acceptedRef? :=
      List.mem_filterMap.mpr ⟨_, hmail ▸ accepted_of_held hmem, rfl⟩
    rw [haccepted] at hcall
    exact (Prod.mk.inj (List.mem_singleton.mp hcall)).1
  have hsuperseded : h.superseded = true := by
    by_contra hcurrent
    have hsame := (hupheld.current h hmem hsender).mpr (by simpa using hcurrent)
    exact absurd (hjoin.symm.trans (hsame.trans href)) (by simp)
  rw [hheld, List.map_singleton, hsender, hsuperseded]
  exact congrArg (fun ref => [(Sender.push 0 joinPush, ref, true)]) href

end Socket

end Switchboard
