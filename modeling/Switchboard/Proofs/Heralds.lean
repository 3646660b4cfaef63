import Switchboard.Proofs.Link
import Switchboard.Proofs.Commands

/-!
# Channels that wait for a connection

A channel that fails while the connection is open arms its next join attempt; one that fails without
an open connection joins again when the connection has opened.  In between it is forlorn: nothing is
armed that could move it.  Transports tell when they open, so a forlorn channel is no harm as long as
the socket has not yet heard of the opening.

Main definitions

* `Heralds`, `Heralding`: no transport opens without telling;
* `Socket.Lit`: the connection is open, and the socket has heard of it;
* `Socket.Forlorn`: a registered channel has failed, and no join attempt is armed;
* `Socket.Enrolled`: each registered channel is told when the connection opens;
* `Socket.Tends`: no channel is forlorn that was not before, unless the light is out.

Main results

* `Socket.tends_trigger`, `Socket.tends_triggerErrors`, `Socket.tends_rejoin`: events and join attempts
  tend the channels;
* `Socket.tends_channelOp`, `Socket.tends_pushTimeout`, `Socket.tends_rejoinTimeout`: so do handles and
  the timers of channels.
-/

set_option autoImplicit false

namespace Switchboard

/-! ### Transports that open -/

section Heralds

variable {ω : Type} [Outside ω]

/-- A transport that is open was open before, or its opening is on the way to the socket. -/
def Heralds (o : ω) (y : Exchange) (o' : ω) : Prop :=
  ∀ ⦃t⦄, Outside.readyState o' t = .open →
    Outside.readyState o t = .open ∨ Command.transport t .opened ∈ y.queue

end Heralds

/-- Surroundings in which no transport opens without telling; one that was just asked for tells in any
case. -/
class Heralding (ω : Type) [Outside ω] : Prop where
  perform : ∀ (e : Effect) (x : Exchange) (o : ω),
    Heralds o (Outside.perform e x o).1 (Outside.perform e x o).2
  opens : ∀ (request : OpenRequest) (x : Exchange) (o : ω),
    Outside.readyState (Outside.perform (.open request) x o).2 request.transport = .open →
      Command.transport request.transport .opened ∈ (Outside.perform (.open request) x o).1.queue
  hook : ∀ (callback : CallbackId) (event : String) (payload : Payload) (ref : Option Ref)
    (x : Exchange) (o : ω), Heralds o (Outside.hook callback event payload ref x o).2.1
      (Outside.hook callback event payload ref x o).2.2
  runError : ∀ (callback : CallbackId) (failure : SocketError) (context : ErrorContext)
    (x : Exchange) (o : ω), Heralds o (Outside.runError callback failure context x o).2.1
      (Outside.runError callback failure context x o).2.2

/-- What surrounds a socket only adds to the queue. -/
theorem Exchange.Act.queue {x y : Exchange} (h : x.Act y) : x.queue ⊆ y.queue := by
  have post : ∀ (z : Exchange) (c : Command), z.queue = x.queue → x.queue ⊆ (z.post c).queue := by
    intro z c hq
    rw [post_eq, ← hq]
    split
    · exact List.subset_append_left _ _
    · exact List.Subset.refl _
  cases h with
  | post plain => exact post _ _ rfl
  | drawRef => exact List.Subset.refl _
  | openChannel _ topic params =>
    unfold Exchange.openChannel
    rw [submit_snd]
    exact post _ _ rfl
  | join _ c timeout =>
    unfold Exchange.join
    split
    · exact List.Subset.refl _
    · unfold channelRequest
      rw [submit_snd]
      exact post _ _ rfl
  | push _ known event payload timeout =>
    unfold Exchange.push
    split
    · exact List.Subset.refl _
    · unfold channelRequest
      rw [submit_snd]
      exact post _ _ rfl
  | leave _ known timeout =>
    unfold Exchange.leave channelRequest
    rw [submit_snd]
    exact post _ _ rfl
  | bind _ known event listener =>
    unfold Exchange.bind channelRequest
    rw [submit_snd]
    exact post _ _ rfl
  | pass => exact List.Subset.refl _

theorem Exchange.Acts.queue {x y : Exchange} (h : x.Acts y) : x.queue ⊆ y.queue := by
  induction h with
  | refl => exact List.Subset.refl _
  | tail _ act ih => exact List.Subset.trans ih act.queue

theorem Exchange.Drew.mono {x y : Exchange} {r : Ref} (h : x.Drew r) (hle : x.drawn ≤ y.drawn) :
    y.Drew r := by
  obtain ⟨n, hpos, hn, hr⟩ := h
  exact ⟨n, hpos, hn.trans hle, hr⟩

/-! ### Callbacks -/

namespace Registry

variable {α : Type} {registry : Registry α} {r : Ref} {a : α} {refs : List Ref}

theorem find?_append_of_some {rest : Registry α} (h : registry.find? r = some a) :
    Registry.find? (registry ++ rest) r = some a := by
  obtain ⟨e, he, rfl⟩ := Option.map_eq_some_iff.mp h
  rw [find?, List.find?_append, he]
  rfl

theorem mem_of_find? (h : registry.find? r = some a) : (r, a) ∈ registry := by
  obtain ⟨⟨r', a'⟩, he, rfl⟩ := Option.map_eq_some_iff.mp h
  have heq : r' = r := by simpa using List.find?_some he
  exact heq ▸ List.mem_of_find?_eq_some he

theorem find?_append_singleton (h : ∀ e ∈ registry, e.1 ≠ r) :
    Registry.find? (registry ++ [(r, a)]) r = some a := by
  have hnone : List.find? (fun e => e.1 == r) registry = none :=
    List.find?_eq_none.mpr fun e he => by simpa using h e he
  simp [find?, List.find?_append, hnone]

theorem find?_cons (e : Ref × α) (rest : Registry α) (r : Ref) :
    Registry.find? (e :: rest) r = if e.1 = r then some e.2 else Registry.find? rest r := by
  unfold find?
  rw [List.find?_cons]
  by_cases her : e.1 = r
  · simp [her]
  · have hne : (e.1 == r) = false := beq_false_of_ne her
    simp [her, hne]

theorem without_cons (e : Ref × α) (rest : Registry α) (refs : List Ref) :
    Registry.without (e :: rest) refs =
      if e.1 ∈ refs then Registry.without rest refs else e :: Registry.without rest refs := by
  unfold without
  rw [List.filter_cons]
  by_cases hmem : e.1 ∈ refs <;> simp [hmem]

/-- An entry that is not removed is found as before, and one that is removed is not found. -/
theorem find?_without (registry : Registry α) (refs : List Ref) (r : Ref) :
    (registry.without refs).find? r = if r ∈ refs then none else registry.find? r := by
  induction registry with
  | nil => split <;> rfl
  | cons e rest ih =>
    rw [without_cons, find?_cons]
    by_cases hmem : e.1 ∈ refs
    · rw [if_pos hmem, ih]
      by_cases her : e.1 = r
      · subst her
        rw [if_pos hmem, if_pos hmem]
      · rw [if_neg her]
    · rw [if_neg hmem, find?_cons, ih]
      by_cases her : e.1 = r
      · subst her
        rw [if_pos rfl, if_neg hmem, if_pos rfl]
      · rw [if_neg her, if_neg her]

theorem find?_of_without (h : (registry.without refs).find? r = some a) :
    registry.find? r = some a := by
  rw [find?_without] at h
  split at h
  · cases h
  · exact h

end Registry

/-- What happens when a message has come is that a ping is over. -/
def OnMessage.IsPing : OnMessage → Prop
  | .ping .. => True
  | .callback _ => False

/-- A channel that has failed without a join attempt that is armed. -/
def Channel.Stranded (ch : Channel) : Prop :=
  ch.state = .errored ∧ ch.rejoinTimer.slot.armed = false

/-- A change that strands no channel and leaves its registrations as they are. -/
structure Channel.Gentle (ch ch' : Channel) : Prop where
  refs : ch'.socketRefs = ch.socketRefs
  stranded : ch'.Stranded → ch.Stranded

namespace Channel

variable {ch ch' : Channel}

theorem Gentle.of_eq (hrefs : ch'.socketRefs = ch.socketRefs) (hstate : ch'.state = ch.state)
    (htimer : ch'.rejoinTimer = ch.rejoinTimer) : ch.Gentle ch' :=
  ⟨hrefs, fun h => ⟨hstate ▸ h.1, htimer ▸ h.2⟩⟩

theorem Gentle.of_state (hrefs : ch'.socketRefs = ch.socketRefs) (hstate : ch'.state ≠ .errored) :
    ch.Gentle ch' :=
  ⟨hrefs, fun h => absurd h.1 hstate⟩

@[simp] theorem dropBindings?_socketRefs (event : Option String) :
    (ch.dropBindings? event).socketRefs = ch.socketRefs := by
  cases event <;> rfl

end Channel

namespace Socket

variable {ω : Type} [Outside ω] {s t u : Socket (Recorded ω)} {c d : ChannelId} {p : PushId}
variable {ch : Channel} {X : Option ChannelId}

/-! ### The light -/

/-- The connection is open, and the socket has heard of it. -/
def Lit (s : Socket (Recorded ω)) : Prop :=
  ∃ conn, s.conn = some conn ∧ Outside.readyState s.outside.outside conn.transport = .open ∧
    Command.transport conn.transport .opened ∉ s.exchange.queue

/-- A registered channel has failed, and no join attempt is armed. -/
def Forlorn (s : Socket (Recorded ω)) (c : ChannelId) : Prop :=
  c ∈ s.order ∧ ∃ ch, s.channels.get? c = some ch ∧ ch.Stranded

/-- Each registered channel is told when the connection opens, and nobody else has its registrations. -/
structure Enrolled (s : Socket (Recorded ω)) : Prop where
  listed : ∀ ⦃c ch⦄, c ∈ s.order → s.channels.get? c = some ch →
    ∃ r ∈ ch.socketRefs, s.callbacks.onOpen.find? r = some (.rejoin c)
  own : ∀ ⦃c d ch ch' r⦄, s.channels.get? c = some ch → s.channels.get? d = some ch' →
    r ∈ ch.socketRefs → r ∈ ch'.socketRefs → c = d
  pings : ∀ ⦃c ch r e⦄, s.channels.get? c = some ch → r ∈ ch.socketRefs →
    (r, e) ∈ s.callbacks.onMessage → ¬ e.IsPing
  drewRefs : ∀ ⦃c ch r⦄, s.channels.get? c = some ch → r ∈ ch.socketRefs → s.exchange.Drew r
  drewOpen : ∀ e ∈ s.callbacks.onOpen, s.exchange.Drew e.1
  drewMessage : ∀ e ∈ s.callbacks.onMessage, s.exchange.Drew e.1

theorem Lit.isConnected (h : s.Lit) : s.isConnected = true := by
  obtain ⟨conn, hconn, hopen, _⟩ := h
  have hready : s.readyState = .open := by
    simp only [readyState, hconn]
    exact hopen
  simp [Socket.isConnected, hready]

theorem not_lit_of_vacant (h : s.conn = none) : ¬ s.Lit := by
  rintro ⟨conn, hconn, _⟩
  rw [h] at hconn
  cases hconn

/-! ### Tending the channels -/

/-- As long as the light is on, no channel becomes forlorn, except perhaps one; each registered channel
is told of openings as before. -/
structure Tends (X : Option ChannelId) (s t : Socket (Recorded ω)) : Prop where
  dims : t.Lit → s.Lit
  spares : t.Lit → ∀ ⦃c⦄, X ≠ some c → t.Forlorn c → s.Forlorn c
  enrolled : s.Enrolled → t.Enrolled
  entries : ∀ ⦃r e⦄, t.callbacks.onOpen.find? r = some e → s.callbacks.onOpen.find? r = some e

theorem Tends.refl (s : Socket (Recorded ω)) : Tends X s s :=
  ⟨id, fun _ _ _ => id, id, fun _ _ => id⟩

theorem Tends.trans (h : Tends X s t) (h' : Tends X t u) : Tends X s u where
  dims hu := h.dims (h'.dims hu)
  spares hu _ hX hc := h.spares (h'.dims hu) hX (h'.spares hu hX hc)
  enrolled := h'.enrolled ∘ h.enrolled
  entries _ _ he := h.entries (h'.entries he)

/-- The channel that may have become forlorn is not. -/
theorem Tends.strengthen (h : Tends (some c) s t) (hc : t.Lit → ¬ t.Forlorn c) : Tends none s t := by
  refine ⟨h.dims, fun ht d _ hd => h.spares ht ?_ hd, h.enrolled, h.entries⟩
  rintro heq
  cases heq
  exact hc ht hd

theorem Tends.weaken (h : Tends none s t) : Tends X s t :=
  ⟨h.dims, fun ht _ _ => h.spares ht nofun, h.enrolled, h.entries⟩

theorem tends_foldl {α : Type} {f : Socket (Recorded ω) → α → Socket (Recorded ω)}
    (hf : ∀ s a, Tends none s (f s a)) (l : List α) (s : Socket (Recorded ω)) :
    Tends none s (l.foldl f s) := by
  induction l generalizing s with
  | nil => exact .refl s
  | cons a l ih => exact (hf s a).trans (ih _)

/-- What there is of the surroundings in one socket and another: no transport has opened silently. -/
structure Follows (s t : Socket (Recorded ω)) : Prop where
  conn : t.conn = s.conn
  heralds : Heralds s.outside.outside t.exchange t.outside.outside
  queue : s.exchange.queue ⊆ t.exchange.queue
  drawn : s.exchange.drawn ≤ t.exchange.drawn

theorem Follows.of_eq (hconn : t.conn = s.conn) (hout : t.outside = s.outside)
    (hqueue : t.exchange.queue = s.exchange.queue) (hdrawn : s.exchange.drawn ≤ t.exchange.drawn) :
    Follows s t := by
  refine ⟨hconn, fun _ hopen => ?_, ?_, hdrawn⟩
  · rw [hout] at hopen
    exact .inl hopen
  · rw [hqueue]
    exact List.Subset.refl _

theorem Follows.dims (h : Follows s t) (ht : t.Lit) : s.Lit := by
  obtain ⟨conn, hconn, hopen, hheard⟩ := ht
  refine ⟨conn, h.conn ▸ hconn, (h.heralds hopen).resolve_right hheard, fun hmem => ?_⟩
  exact hheard (h.queue hmem)

omit [Outside ω] in
/-- Nothing has become of the registry, the callbacks and the registrations of channels. -/
theorem Enrolled.of_channels (h : s.Enrolled) (hdrawn : s.exchange.drawn ≤ t.exchange.drawn)
    (horder : t.order = s.order) (hcallbacks : t.callbacks = s.callbacks)
    (hchannels : ∀ ⦃c ch'⦄, t.channels.get? c = some ch' →
      ∃ ch, s.channels.get? c = some ch ∧ ch'.socketRefs = ch.socketRefs) : t.Enrolled where
  listed c ch' hmem hc' := by
    obtain ⟨ch, hc, hrefs⟩ := hchannels hc'
    rw [hrefs, hcallbacks]
    exact h.listed (horder ▸ hmem) hc
  own c d ch₁ ch₂ r h₁ h₂ hr₁ hr₂ := by
    obtain ⟨ch₃, h₃, hrefs₃⟩ := hchannels h₁
    obtain ⟨ch₄, h₄, hrefs₄⟩ := hchannels h₂
    exact h.own h₃ h₄ (hrefs₃ ▸ hr₁) (hrefs₄ ▸ hr₂)
  pings c ch' r e hc' hr := by
    obtain ⟨ch, hc, hrefs⟩ := hchannels hc'
    rw [hcallbacks]
    exact h.pings hc (hrefs ▸ hr)
  drewRefs c ch' r hc' hr := by
    obtain ⟨ch, hc, hrefs⟩ := hchannels hc'
    exact (h.drewRefs hc (hrefs ▸ hr)).mono hdrawn
  drewOpen e hmem := (h.drewOpen e (hcallbacks ▸ hmem)).mono hdrawn
  drewMessage e hmem := (h.drewMessage e (hcallbacks ▸ hmem)).mono hdrawn

/-- The channels change gently, and the registry and the callbacks stay. -/
theorem Follows.tends (h : Follows s t) (horder : t.order = s.order)
    (hcallbacks : t.callbacks = s.callbacks)
    (hchannels : ∀ ⦃c ch'⦄, t.channels.get? c = some ch' →
      ∃ ch, s.channels.get? c = some ch ∧ ch'.socketRefs = ch.socketRefs ∧
        (X ≠ some c → ch'.Stranded → ch.Stranded)) : Tends X s t where
  dims := h.dims
  spares := by
    rintro - c hX ⟨hmem, ch', hc', hstranded⟩
    obtain ⟨ch, hc, _, hback⟩ := hchannels hc'
    exact ⟨horder ▸ hmem, ch, hc, hback hX hstranded⟩
  enrolled he := he.of_channels h.drawn horder hcallbacks fun c ch' hc' => by
    obtain ⟨ch, hc, hrefs, _⟩ := hchannels hc'
    exact ⟨ch, hc, hrefs⟩
  entries _ _ he := hcallbacks ▸ he

/-- Neither the channels nor the registry nor the callbacks change. -/
theorem Follows.tends_of_eq (h : Follows s t) (hchannels : t.channels = s.channels)
    (horder : t.order = s.order) (hcallbacks : t.callbacks = s.callbacks) : Tends X s t :=
  h.tends horder hcallbacks fun _ ch' hc' => ⟨ch', hchannels ▸ hc', rfl, fun _ => id⟩

/-- Without a connection nothing is lit. -/
theorem tends_of_vacant (hvacant : t.conn = none) (hdrawn : s.exchange.drawn ≤ t.exchange.drawn)
    (hchannels : t.channels = s.channels) (horder : t.order = s.order)
    (hcallbacks : t.callbacks = s.callbacks) : Tends X s t where
  dims ht := absurd ht (not_lit_of_vacant hvacant)
  spares ht := absurd ht (not_lit_of_vacant hvacant)
  enrolled he := he.of_channels hdrawn horder hcallbacks fun _ ch' hc' =>
    ⟨ch', hchannels ▸ hc', rfl⟩
  entries _ _ he := hcallbacks ▸ he

/-- Nothing that matters to channels has changed. -/
theorem tends_of_eq (hconn : t.conn = s.conn) (hout : t.outside = s.outside)
    (hqueue : t.exchange.queue = s.exchange.queue) (hdrawn : s.exchange.drawn ≤ t.exchange.drawn)
    (hchannels : t.channels = s.channels) (horder : t.order = s.order)
    (hcallbacks : t.callbacks = s.callbacks) : Tends X s t :=
  (Follows.of_eq hconn hout hqueue hdrawn).tends_of_eq hchannels horder hcallbacks

/-- A channel is changed that keeps its registrations, and is stranded at most if it is excepted. -/
theorem tends_modify (s : Socket (Recorded ω)) {f : Channel → Channel}
    (hrefs : ∀ ch, s.channels.get? c = some ch → (f ch).socketRefs = ch.socketRefs)
    (hstranded : X ≠ some c → ∀ ch, s.channels.get? c = some ch → (f ch).Stranded → ch.Stranded) :
    Tends X s (s.modifyChannel c f) := by
  refine (Follows.of_eq (s := s) (t := s.modifyChannel c f) rfl rfl rfl le_rfl).tends rfl rfl
    fun d ch' hd => ?_
  by_cases hdc : d = c
  · subst hdc
    rw [modifyChannel, Table.get?_modify_self] at hd
    obtain ⟨ch, hc, rfl⟩ := Option.map_eq_some_iff.mp hd
    exact ⟨ch, hc, hrefs ch hc, fun hX => hstranded hX ch hc⟩
  · rw [modifyChannel, Table.get?_modify_of_ne _ hdc] at hd
    exact ⟨ch', hd, rfl, fun _ => id⟩

/-- A channel is changed, and not stranded. -/
theorem tends_modifyChannel (s : Socket (Recorded ω)) {f : Channel → Channel}
    (hf : ∀ ch, s.channels.get? c = some ch → ch.Gentle (f ch)) :
    Tends none s (s.modifyChannel c f) :=
  tends_modify s (fun ch hc => (hf ch hc).refs) fun _ ch hc => (hf ch hc).stranded

/-- A channel is changed in whatever way. -/
theorem tends_modifyChannel_at (s : Socket (Recorded ω)) {f : Channel → Channel}
    (hf : ∀ ch, (f ch).socketRefs = ch.socketRefs) : Tends (some c) s (s.modifyChannel c f) :=
  tends_modify s (fun ch _ => hf ch) fun hX => absurd rfl hX

theorem tends_modifyPush (s : Socket (Recorded ω)) (c : ChannelId) (p : PushId) (f : Push → Push) :
    Tends none s (s.modifyPush c p f) :=
  tends_modifyChannel s fun _ _ => .of_eq rfl rfl rfl

theorem tends_drawRef (s : Socket (Recorded ω)) : Tends none s s.drawRef.2 :=
  tends_of_eq rfl rfl rfl (Nat.le_succ _) rfl rfl rfl

theorem tends_drawPush (s : Socket (Recorded ω)) (c : ChannelId) : Tends none s (s.drawPush c).2 :=
  tends_of_eq rfl rfl rfl le_rfl rfl rfl rfl

theorem tends_drawBinding (s : Socket (Recorded ω)) (c : ChannelId) :
    Tends none s (s.drawBinding c).2 :=
  tends_of_eq rfl rfl rfl le_rfl rfl rfl rfl

theorem tends_arm (s : Socket (Recorded ω)) (delay : Nat) (event : TimerEvent) :
    Tends none s (s.arm delay event) :=
  tends_of_eq rfl rfl rfl le_rfl rfl rfl rfl

theorem tends_armPush (s : Socket (Recorded ω)) (c : ChannelId) (p : PushId) (push : Push) :
    Tends none s (s.armPush c p push) :=
  (tends_modifyPush s c p _).trans (tends_arm _ _ _)

theorem tends_startTimeout (s : Socket (Recorded ω)) (c : ChannelId) (p : PushId) :
    Tends none s (s.startTimeout c p) := by
  simp only [startTimeout]
  have hdraw := (tends_drawRef s).trans (tends_drawBinding _ c)
  split
  · exact tends_drawRef s
  · split
    · exact hdraw
    · refine Tends.trans ?_ (tends_modifyChannel _ fun ch _ => .of_eq (by simp [Channel.bind])
        (by simp [Channel.bind]) (by simp [Channel.bind]))
      refine Tends.trans ?_ (tends_armPush _ c p _)
      exact hdraw.trans (tends_modifyPush _ c p _)

theorem tends_resetPush (s : Socket (Recorded ω)) (c : ChannelId) (p : PushId) :
    Tends none s (s.resetPush c p) := by
  unfold resetPush
  split
  · exact .refl s
  · exact tends_modifyChannel _ fun ch _ => .of_eq (by simp [Channel.modifyPush])
      (by simp [Channel.modifyPush]) (by simp [Channel.modifyPush])

theorem tends_releasePush (s : Socket (Recorded ω)) (c : ChannelId) (p : PushId) :
    Tends none s (s.releasePush c p) := by
  unfold releasePush
  split
  · exact .refl s
  · split
    · exact .refl s
    · split
      · exact tends_modifyChannel _ fun ch _ => .of_eq (by simp) (by simp) (by simp)
      · exact .refl s

theorem tends_release (s : Socket (Recorded ω)) (c : ChannelId) (p : PushId) :
    Tends none s (s.release c p) := by
  unfold release
  split
  · exact .refl s
  · exact (tends_modifyPush s c p _).trans (tends_releasePush _ c p)

/-- A channel whose next join attempt is armed is not stranded. -/
theorem tends_scheduleRejoin (s : Socket (Recorded ω)) (c : ChannelId) :
    Tends none s (s.scheduleRejoin c) := by
  unfold scheduleRejoin
  split
  · exact .refl s
  · refine Tends.trans (tends_modifyChannel s fun ch _ => ?_) (tends_arm _ _ _)
    refine ⟨rfl, fun h => ?_⟩
    have harmed := h.2
    cases harmed

omit [Outside ω] in
theorem not_forlorn_scheduleRejoin (s : Socket (Recorded ω)) (c : ChannelId) :
    ¬ (s.scheduleRejoin c).Forlorn c := by
  rintro ⟨_, ch', hc', _, harmed⟩
  unfold scheduleRejoin at hc'
  split at hc'
  · rename_i hnone
    rw [hnone] at hc'
    cases hc'
  · have hget : (s.channels.modify c _).get? c = some ch' := hc'
    rw [Table.get?_modify_self] at hget
    obtain ⟨_, _, rfl⟩ := Option.map_eq_some_iff.mp hget
    cases harmed

/-- A channel that may have been stranded is not once its next join attempt is armed; it is, only if the
light is out. -/
theorem Tends.scheduleRejoinIfConnected (h : Tends (some c) s t) :
    Tends none s (t.scheduleRejoinIfConnected c) := by
  unfold Socket.scheduleRejoinIfConnected
  split
  · exact (h.trans (tends_scheduleRejoin t c).weaken).strengthen fun _ =>
      not_forlorn_scheduleRejoin t c
  · rename_i hdark
    exact h.strengthen fun hlit => absurd hlit.isConnected hdark

/-! ### Effects -/

variable [Obliging ω] [Heralding ω]

theorem follows_perform (s : Socket (Recorded ω)) (e : Effect) : Follows s (s.perform e) where
  conn := rfl
  heralds := Heralding.perform e s.exchange s.outside.outside
  queue := (Obliging.perform e s.exchange s.outside.outside).queue
  drawn := (Obliging.perform e s.exchange s.outside.outside).evolves.drawn_le

theorem tends_perform (s : Socket (Recorded ω)) (e : Effect) : Tends none s (s.perform e) :=
  (follows_perform s e).tends_of_eq rfl rfl rfl

theorem tends_performAll (s : Socket (Recorded ω)) (es : List Effect) :
    Tends none s (s.performAll es) :=
  tends_foldl tends_perform es s

theorem tends_discardAll (s : Socket (Recorded ω)) (tickets : List Ticket) :
    Tends none s (s.discardAll tickets) :=
  tends_performAll s _

theorem tends_runError (s : Socket (Recorded ω)) (callback : CallbackId) (failure : SocketError)
    (context : ErrorContext) : Tends none s (s.runError callback failure context).2 := by
  have hacts := Obliging.runError callback failure context s.exchange s.outside.outside
  have hfollows : Follows s (s.runError callback failure context).2 :=
    ⟨rfl, Heralding.runError callback failure context s.exchange s.outside.outside, hacts.queue,
      hacts.evolves.drawn_le⟩
  exact hfollows.tends_of_eq rfl rfl rfl

theorem tends_runErrors (failure : SocketError) (registry : Registry OnError)
    (context : ErrorContext) (s : Socket (Recorded ω)) :
    Tends none s (runErrors failure registry context s) := by
  induction registry generalizing context s with
  | nil => exact .refl s
  | cons entry rest ih =>
    obtain ⟨ref, callback | channel⟩ := entry
    · exact (tends_runError s callback failure context).trans (ih _ _)
    · exact ih context s

theorem tends_report (s : Socket (Recorded ω)) (failure : SocketError) :
    Tends none s (s.report failure) :=
  tends_runErrors failure s.callbacks.onError s.errorContext s

theorem tends_transmit (s : Socket (Recorded ω)) (m : Message) : Tends none s (s.transmit m) := by
  unfold transmit
  split
  · exact .refl s
  · split
    · exact tends_perform s _
    · exact tends_report s _

theorem tends_pushMessage (s : Socket (Recorded ω)) (sender : Sender) (m : Message) :
    Tends none s (s.pushMessage sender m) := by
  simp only [pushMessage]
  refine (tends_perform s (.accept sender m)).trans ?_
  split
  · exact tends_transmit _ m
  · exact tends_of_eq rfl rfl rfl le_rfl rfl rfl rfl

theorem tends_flush (s : Socket (Recorded ω)) : Tends none s s.flush := by
  unfold flush
  split
  · exact .refl s
  · refine Tends.trans (t := { s with sendBuffer := [] }) ?_ (tends_foldl tends_transmit _ _)
    exact tends_of_eq rfl rfl rfl le_rfl rfl rfl rfl

theorem tends_dispatchPush (s : Socket (Recorded ω)) (c : ChannelId) (p : PushId) :
    Tends none s (s.dispatchPush c p) := by
  unfold dispatchPush
  split
  · exact .refl s
  · dsimp only
    have hparams : ∀ params, Tends none s (s.modifyChannel c fun ch => { ch with params := params }) :=
      fun params => tends_modifyChannel s fun _ _ => .of_eq rfl rfl rfl
    split
    · exact hparams _
    · exact ((hparams _).trans (tends_modifyPush _ c p _)).trans (tends_pushMessage _ _ _)

theorem tends_sendPush (s : Socket (Recorded ω)) (c : ChannelId) (p : PushId) :
    Tends none s (s.sendPush c p) := by
  unfold sendPush
  split
  · exact .refl s
  · split
    · exact .refl s
    · exact (tends_startTimeout s c p).trans (tends_dispatchPush _ c p)

theorem tends_resendPush (s : Socket (Recorded ω)) (c : ChannelId) (p : PushId) (timeout : Nat) :
    Tends none s (s.resendPush c p timeout) := by
  unfold resendPush
  exact ((tends_modifyPush s c p _).trans (tends_resetPush _ c p)).trans (tends_sendPush _ c p)

/-! ### A channel closes or fails -/

theorem tends_eraseChannel (s : Socket (Recorded ω)) (c : ChannelId) :
    Tends none s (s.eraseChannel c) := by
  unfold eraseChannel
  split
  · exact .refl s
  · refine Tends.trans ?_ (tends_discardAll _ _)
    refine (Follows.of_eq (s := s) (t := { s with channels := s.channels.erase c })
      rfl rfl rfl le_rfl).tends rfl rfl fun d ch' hd => ?_
    have hne : d ≠ c := by
      rintro rfl
      rw [Table.get?_erase_self] at hd
      cases hd
    rw [Table.get?_erase_of_ne _ hne] at hd
    exact ⟨ch', hd, rfl, fun _ => id⟩

theorem tends_dropChannel (s : Socket (Recorded ω)) (c : ChannelId) :
    Tends none s (s.dropChannel c) := by
  unfold dropChannel
  split
  · exact tends_modifyChannel s fun _ _ => .of_eq rfl rfl rfl
  · exact tends_eraseChannel s c

omit [Obliging ω] [Heralding ω] in
/-- Callbacks are removed that are no registrations of the channels that stay registered. -/
theorem tends_without (s : Socket (Recorded ω)) {refs : List Ref} {order : List ChannelId}
    (hsub : order ⊆ s.order) (hothers : s.Enrolled → ∀ ⦃d ch r⦄, d ∈ order →
      s.channels.get? d = some ch → r ∈ ch.socketRefs → r ∉ refs) :
    Tends none s { s with callbacks := s.callbacks.without refs, order := order } where
  dims := id
  spares _ d _ hd := ⟨hsub hd.1, hd.2⟩
  enrolled he := by
    have hkept : ∀ {α : Type} (registry : Registry α) {e : Ref × α},
        e ∈ registry.without refs → e ∈ registry := fun _ _ he => List.mem_of_mem_filter he
    refine ⟨fun d ch' hmem hd => ?_, he.own, fun d ch' r e hd hr hmem => he.pings hd hr (hkept _ hmem),
      he.drewRefs, fun e hmem => he.drewOpen e (hkept _ hmem),
      fun e hmem => he.drewMessage e (hkept _ hmem)⟩
    obtain ⟨r, hr, hfind⟩ := he.listed (hsub hmem) hd
    exact ⟨r, hr, ((Registry.find?_without _ _ r).trans (if_neg (hothers he hmem hd hr))).trans hfind⟩
  entries _ _ he := Registry.find?_of_without he

omit [Obliging ω] [Heralding ω] in
/-- A channel that is struck out takes only its own registrations with it. -/
theorem tends_strike (s : Socket (Recorded ω)) (hc : s.channels.get? c = some ch) :
    Tends none s { s with
      callbacks := s.callbacks.without ch.socketRefs
      order := s.order.filter (· ≠ c) } := by
  refine tends_without s (List.filter_subset_self _) fun he d ch' r hmem hd hr hr' => ?_
  have hne := (List.mem_filter.mp hmem).2
  simp [he.own hd hc hr hr'] at hne

omit [Obliging ω] [Heralding ω] in
theorem performAll_order (s : Socket (Recorded ω)) (es : List Effect) (order : List ChannelId) :
    { s with order := order }.performAll es = { s.performAll es with order := order } := by
  induction es generalizing s with
  | nil => rfl
  | cons e es ih => exact ih (s.perform e)

omit [Obliging ω] [Heralding ω] in
theorem order_performAll (s : Socket (Recorded ω)) (es : List Effect) :
    (s.performAll es).order = s.order := by
  induction es generalizing s with
  | nil => rfl
  | cons e es ih => exact ih (s.perform e)

theorem tends_removeChannel (s : Socket (Recorded ω)) (c : ChannelId) :
    Tends none s (s.removeChannel c) := by
  unfold removeChannel
  split
  · exact .refl s
  · rename_i ch hc
    have hstruck : Tends none s { s.off ch.socketRefs with
        order := (s.off ch.socketRefs).order.filter (· ≠ c) } := by
      unfold off
      rw [← performAll_order, order_performAll]
      exact (tends_strike s hc).trans (tends_performAll _ _)
    dsimp only
    split
    · exact hstruck.trans (tends_eraseChannel _ c)
    · exact hstruck

theorem tends_closeChannel (s : Socket (Recorded ω)) (c : ChannelId) :
    Tends none s (s.closeChannel c) := by
  unfold closeChannel
  refine Tends.trans (tends_modifyChannel s fun _ _ => ?_) (tends_removeChannel _ c)
  exact .of_state rfl (by simp)

omit [Obliging ω] [Heralding ω] in
theorem tends_markErrored (s : Socket (Recorded ω)) (c : ChannelId) :
    Tends (some c) s (s.markErrored c) :=
  tends_modifyChannel_at s fun _ => rfl

omit [Obliging ω] [Heralding ω] in
theorem tends_failChannel (s : Socket (Recorded ω)) (c : ChannelId) :
    Tends none s (s.failChannel c) := by
  unfold failChannel
  split
  · exact .refl s
  · refine Tends.scheduleRejoinIfConnected (Tends.trans ?_ (tends_markErrored _ c))
    split
    · exact (tends_resetPush s c joinPush).weaken
    · exact .refl s

/-! ### Replies -/

theorem tends_acceptJoin (s : Socket (Recorded ω)) (c : ChannelId) :
    Tends none s (s.acceptJoin c) := by
  unfold acceptJoin
  split
  · exact .refl s
  · refine Tends.trans ?_ (tends_foldl (fun s p => tends_sendPush s c p) _ _)
    exact tends_modifyChannel s fun _ _ => .of_state rfl (by simp)

theorem tends_abandonJoin (s : Socket (Recorded ω)) (c : ChannelId) :
    Tends none s (s.abandonJoin c) := by
  unfold abandonJoin
  split
  · exact .refl s
  · refine Tends.scheduleRejoinIfConnected (Tends.trans ?_ (tends_resetPush _ c joinPush).weaken)
    refine Tends.trans ?_ (tends_markErrored _ c)
    refine (Tends.trans ?_ (tends_sendPush _ c _)).weaken
    exact (tends_drawPush s c).trans (tends_modifyChannel _ fun _ _ => .of_eq rfl rfl rfl)

/-- A dispatch tends the channels. -/
def KeepsTended (dispatch : Dispatch (Recorded ω)) : Prop :=
  ∀ c event payload ref joinRef s, Tends none s (dispatch c event payload ref joinRef s)

variable {dispatch : Dispatch (Recorded ω)}

theorem KeepsTended.react (h : KeepsTended dispatch) (c : ChannelId) (reaction : Reaction)
    (s : Socket (Recorded ω)) : Tends none s (s.react dispatch c reaction) := by
  cases reaction with
  | joinOk => exact tends_acceptJoin s c
  | joinError =>
    simp only [Socket.react]
    split
    · exact (tends_markErrored s c).scheduleRejoinIfConnected
    · exact .refl s
  | joinTimeout => exact tends_abandonJoin s c
  | leaveDone => exact h c _ _ _ _ s

theorem KeepsTended.runReplyHook (h : KeepsTended dispatch) (c : ChannelId) (p : PushId)
    (reply : Reply) (s : Socket (Recorded ω)) (index : Nat) :
    Tends none s (s.runReplyHook dispatch c p reply index) := by
  unfold Socket.runReplyHook
  split
  · exact .refl s
  · split
    · dsimp only
      split
      · exact tends_perform s _
      · exact (tends_perform s _).trans (h.react c _ _)
    · exact .refl s

theorem tends_settlePush (s : Socket (Recorded ω)) (c : ChannelId) (p : PushId) (push : Push)
    (reply : Reply) : Tends none s (s.settlePush c p push reply) := by
  unfold settlePush
  refine Tends.trans ?_ (tends_perform _ _)
  refine Tends.trans ?_ (tends_modifyChannel _ fun ch _ => .of_eq (by simp) (by simp) (by simp))
  exact (tends_modifyPush s c p _).trans (tends_performAll _ _)

theorem KeepsTended.resolvePush (h : KeepsTended dispatch) (c : ChannelId) (p : PushId)
    (reply : Reply) (s : Socket (Recorded ω)) : Tends none s (s.resolvePush dispatch c p reply) := by
  unfold Socket.resolvePush
  split
  · exact .refl s
  · refine Tends.trans ?_ (tends_releasePush _ c p)
    exact (tends_settlePush s c p _ reply).trans (tends_foldl (h.runReplyHook c p reply) _ _)

/-! ### Events -/

theorem KeepsTended.runTarget (h : KeepsTended dispatch) (c : ChannelId) (event : InboundEvent)
    (target : Target) (s : Socket (Recorded ω)) :
    Tends none s (s.runTarget dispatch c event target) := by
  cases target with
  | listener listener => cases listener <;> exact tends_perform s _
  | redirect =>
    simp only [Socket.runTarget, redirect]
    split
    · exact h c _ _ _ _ s
    · exact .refl s
  | resolve p =>
    simp only [Socket.runTarget]
    split
    · exact h.resolvePush c p _ s
    · exact .refl s
  | close => exact tends_closeChannel s c
  | error => exact tends_failChannel s c

theorem KeepsTended.runBinding (h : KeepsTended dispatch) (c : ChannelId) (event : InboundEvent)
    (s : Socket (Recorded ω)) (number : BindingId) :
    Tends none s (s.runBinding dispatch c event number) := by
  unfold Socket.runBinding
  split
  · exact h.runTarget c event _ s
  · exact .refl s

theorem tends_passHook (s : Socket (Recorded ω)) (ch : Channel) (event : String) (payload : Payload)
    (ref : Option Ref) : Tends none s (s.passHook ch event payload ref).2 := by
  unfold passHook
  split
  · exact .refl s
  · rename_i hook _
    have hacts := Obliging.hook hook event payload ref s.exchange s.outside.outside
    have hheralds := Heralding.hook hook event payload ref s.exchange s.outside.outside
    set result := Outside.hook hook event payload ref s.exchange s.outside.outside with hresult
    have hfollows : Follows s { s with
        exchange := result.2.1, outside := ⟨result.2.2, s.log, s.dealings⟩ } :=
      ⟨rfl, hheralds, hacts.queue, hacts.evolves.drawn_le⟩
    have htends : Tends none s { s with
        exchange := result.2.1, outside := ⟨result.2.2, s.log, s.dealings⟩ } :=
      hfollows.tends_of_eq rfl rfl rfl
    dsimp only
    split
    · exact htends
    · split
      · exact htends.trans (tends_report _ _)
      · exact htends

theorem KeepsTended.dispatchWith (h : KeepsTended dispatch) : KeepsTended (dispatchWith dispatch) := by
  intro c event payload ref joinRef s
  unfold Socket.dispatchWith
  split
  · exact .refl s
  · rename_i ch _
    have hpass := tends_passHook s ch event payload ref
    split
    · rename_i heq
      rwa [heq] at hpass
    · rename_i heq
      rw [heq] at hpass
      refine hpass.trans ?_
      unfold runBindings
      split
      · exact .refl _
      · exact tends_foldl (h.runBinding c _) _ _

theorem keepsTended_dispatchTo (n : Nat) : KeepsTended (ω := ω) (dispatchTo n) := by
  induction n with
  | zero => exact fun _ _ _ _ _ s => .refl s
  | succ n ih => exact ih.dispatchWith

theorem tends_trigger (s : Socket (Recorded ω)) (c : ChannelId) (event : String)
    (payload : Payload) (ref joinRef : Option Ref) :
    Tends none s (s.trigger c event payload ref joinRef) :=
  keepsTended_dispatchTo 3 c event payload ref joinRef s

theorem tends_triggerErrors (s : Socket (Recorded ω)) : Tends none s s.triggerErrors := by
  refine tends_foldl (fun s c => ?_) s.order s
  split
  · split
    · exact tends_trigger s c _ _ _ _
    · exact .refl s
  · exact .refl s

theorem tends_triggerPush (s : Socket (Recorded ω)) (c : ChannelId) (p : PushId)
    (status : String) (response : Payload) :
    Tends none s (s.triggerPush c p status response) := by
  unfold triggerPush
  split
  · exact tends_trigger s c _ _ _ _
  · exact .refl s

theorem tends_pushTimeout (s : Socket (Recorded ω)) (c : ChannelId) (p : PushId)
    (generation : Nat) : Tends none s (s.pushTimeout c p generation) := by
  unfold pushTimeout
  split
  · exact .refl s
  · exact (tends_modifyPush s c p _).trans (tends_triggerPush _ c p _ _)

theorem tends_deliver (m : Message) (s : Socket (Recorded ω)) (c : ChannelId) :
    Tends none s (deliver m s c) := by
  unfold deliver
  split
  · exact tends_trigger s c _ _ _ _
  · exact .refl s

/-! ### Handles and timers of channels -/

theorem tends_leave (s : Socket (Recorded ω)) (c : ChannelId) (p : PushId) (timeout : Nat)
    (detached : Bool) : Tends none s (s.leave c p timeout detached) := by
  unfold leave
  split
  · exact .refl s
  · dsimp only
    split
    · refine Tends.trans ?_ (tends_sendPush _ c p)
      exact tends_modifyChannel s fun _ _ => .of_state rfl (by simp)
    · refine Tends.trans ?_ (tends_triggerPush _ c p _ _)
      refine Tends.trans ?_ (tends_sendPush _ c p)
      exact tends_modifyChannel s fun _ _ => .of_state rfl (by simp)

theorem tends_leaveOpenTopic (s : Socket (Recorded ω)) (topic : String) (c : ChannelId) :
    Tends none s (s.leaveOpenTopic topic c) := by
  unfold leaveOpenTopic
  split
  · exact .refl s
  · split
    · exact .refl s
    · exact (tends_drawPush s _).trans (tends_leave _ _ _ _ _)

theorem tends_rejoin (s : Socket (Recorded ω)) (c : ChannelId) : Tends none s (s.rejoin c) := by
  unfold rejoin
  split
  · exact .refl s
  · rename_i ch _
    split
    · exact .refl s
    · dsimp only
      split
      · exact tends_leaveOpenTopic s ch.topic c
      · refine Tends.trans ?_ (tends_resendPush _ c joinPush _)
        refine Tends.trans ?_ (tends_modifyChannel _ fun _ _ => .of_state rfl (by simp))
        exact tends_leaveOpenTopic s ch.topic c

theorem tends_push (s : Socket (Recorded ω)) (c : ChannelId) (p : PushId) (event : String)
    (payload : Payload) (timeout : Nat) : Tends none s (s.push c p event payload timeout) := by
  unfold push
  split
  · exact .refl s
  · dsimp only
    have hadds : ∀ q : Push, Tends none s (s.modifyChannel c fun ch =>
        { ch with pushes := ch.pushes.set p q }) :=
      fun q => tends_modifyChannel s fun _ _ => .of_eq rfl rfl rfl
    split
    · exact (hadds _).trans (tends_sendPush _ c p)
    · refine Tends.trans ?_ (tends_modifyChannel _ fun _ _ => .of_eq rfl rfl rfl)
      exact (hadds _).trans (tends_startTimeout _ c p)

theorem tends_receive (s : Socket (Recorded ω)) (c : ChannelId) (p : PushId)
    (status : String) (callback : CallbackId) : Tends none s (s.receive c p status callback) := by
  unfold receive
  split
  · exact .refl s
  · refine Tends.trans ?_ (tends_modifyPush _ c p _)
    split
    · split
      · exact tends_perform s _
      · exact .refl s
    · exact .refl s

theorem tends_awaitReply (s : Socket (Recorded ω)) (c : ChannelId) (p : PushId)
    (ticket : Ticket) : Tends none s (s.awaitReply c p ticket) := by
  unfold awaitReply
  split
  · exact tends_perform s _
  · split
    · exact tends_perform s _
    · exact tends_modifyPush s c p _

theorem tends_tell (s : Socket (Recorded ω)) (c : ChannelId) (ticket : Ticket)
    (f : Channel → Answer) : Tends none s (s.tell c ticket f) := by
  unfold tell
  split <;> exact tends_perform s _

theorem tends_channelOp (s : Socket (Recorded ω)) (c : ChannelId) (op : ChannelOp) :
    Tends none s (s.channelOp c op) := by
  unfold channelOp
  split
  · cases op with
    | join timeout =>
      refine Tends.trans ?_ (tends_rejoin _ c)
      exact tends_modifyChannel s fun _ _ => .of_eq rfl rfl rfl
    | push p event payload timeout => exact tends_push s c p event payload timeout
    | leave p timeout => exact tends_leave s c p timeout false
    | bind binding event listener => exact tends_modifyChannel s fun _ _ => .of_eq rfl rfl rfl
    | unbind event binding => exact tends_modifyChannel s fun _ _ => .of_eq rfl rfl rfl
    | setHook hook => exact tends_modifyChannel s fun _ _ => .of_eq rfl rfl rfl
    | receive p status callback => exact tends_receive s c p status callback
    | awaitReply p ticket => exact tends_awaitReply s c p ticket
    | release p => exact tends_release s c p
    | askState ticket => exact tends_tell s c ticket _
    | askJoinRef ticket => exact tends_tell s c ticket _
    | askRejoinTries ticket => exact tends_tell s c ticket _
  · split
    · exact tends_perform s _
    · exact .refl s

end Socket

end Switchboard
