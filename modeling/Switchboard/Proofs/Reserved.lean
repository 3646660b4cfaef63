import Switchboard.Proofs.Fates
import Switchboard.Proofs.Runs

/-!
# Reserved names

The bindings by which a channel closes, fails and has its pushes answered are kept in the same list as
those of users, under reserved names.  Where users remove no binding with a reserved name, whatever hooks
they install, a channel has its own bindings at all times, and a push whose time is running is listened
for, as long as no ref has come again.

Main definitions

* `ChannelOp.KeepsReserved`: an operation removes no binding with a reserved name;
* `Channel.Attends`: a channel has its own bindings, and listens for the pushes whose time is running.

Main results

* `Socket.Rough.attends`: each change of a channel keeps it attending;
* `Socket.Reachable.attends`: all channels attend at all times.
-/

set_option autoImplicit false

namespace Switchboard

/-- An operation removes no binding with a reserved name. -/
def ChannelOp.KeepsReserved : ChannelOp → Prop
  | .unbind event _ => ¬ Event.IsReserved event
  | _ => True

namespace Channel

variable {x y z : Exchange} {c : ChannelId} {ch ch' : Channel} {p : PushId} {q : Push}

/-- A channel has its own bindings, and listens for the pushes whose time is running. -/
structure Attends (ch : Channel) : Prop where
  owns : ch.Owns Event.IsReserved
  listens : ∀ ⦃p q⦄, ch.pushes.get? p = some q → q.timer.armed = true → ch.Awaits p

namespace Attends

theorem new (topic : String) (params : Params) (timeout : Nat) (refs : List Ref) :
    (Channel.new topic params timeout refs).Attends where
  owns := fun b hb _ => hb
  listens := by
    intro p q hq harmed
    rw [Channel.new, Table.get?_set] at hq
    split at hq
    · cases hq
      cases harmed
    · cases hq

/-! ### Changes of a channel -/

/-- Of the pushes of a channel at most one changes, and its time runs only if it is listened for. -/
theorem of_push (h : ch.Attends) (hb : ch'.bindings = ch.bindings)
    (hp : ch'.pushes = ch.pushes.set p q) (hq : q.timer.armed = true → ch.Awaits p) : ch'.Attends where
  owns := h.owns.of_eq hb
  listens := by
    intro p' q' hq' harmed
    refine (awaits_congr hb).mpr ?_
    rw [hp, Table.get?_set] at hq'
    split at hq'
    · rename_i heq
      cases hq'
      exact heq ▸ hq harmed
    · exact h.listens hq' harmed

theorem of_eq (h : ch.Attends) (hb : ch'.bindings = ch.bindings) (hp : ch'.pushes = ch.pushes) :
    ch'.Attends :=
  ⟨h.owns.of_eq hb, fun _ _ hq harmed => (awaits_congr hb).mpr (h.listens (hp ▸ hq) harmed)⟩

theorem alike (h : ch.Attends) (same : ch.Alike ch') : ch'.Attends where
  owns := h.owns.of_eq same.bindings
  listens := by
    intro p q' hq' harmed
    obtain ⟨q, hq, hqq⟩ := same.push hq'
    exact (awaits_congr same.bindings).mpr (h.listens hq (hqq.timer ▸ harmed))

/-- A push that is listened for no longer has no time running. -/
theorem drop (h : ch.Attends) (hs : ch.Sound x c) (ha : ch.Apart) (hq : ch.pushes.get? p = some q)
    (hb : ch'.bindings = ch.bindings)
    (hp : ∀ ⦃p' q'⦄, ch'.pushes.get? p' = some q' → q'.timer.armed = true →
      p' ≠ p ∧ ch.pushes.get? p' = some q') : (ch'.dropBindings? q.refEvent).Attends where
  owns := h.owns.drop hs hq hb
  listens := by
    intro p' q' hq' harmed
    rw [dropBindings?_pushes] at hq'
    obtain ⟨hne, hold⟩ := hp hq' harmed
    exact (hs.awaits_drop ha hq hb).mpr ⟨hne, h.listens hold harmed⟩

/-- One push changes, and its time runs no longer. -/
theorem drop_set (h : ch.Attends) (hs : ch.Sound x c) (ha : ch.Apart)
    (hq : ch.pushes.get? p = some q) (hb : ch'.bindings = ch.bindings) {q' : Push}
    (hp : ch'.pushes = ch.pushes.set p q') (harmed : q'.timer.armed = false) :
    (ch'.dropBindings? q.refEvent).Attends := by
  refine h.drop hs ha hq hb fun p' q₁ hq₁ harmed₁ => ?_
  rw [hp, Table.get?_set] at hq₁
  split at hq₁
  · cases hq₁
    rw [harmed] at harmed₁
    cases harmed₁
  · exact ⟨‹_›, hq₁⟩

theorem settle (h : ch.Attends) (hs : ch.Sound x c) (ha : ch.Apart)
    (hq : ch.pushes.get? p = some q) {timer : TimerSlot} (harmed : timer.armed = false)
    (reply : Reply) : (ch.settle p q timer reply).Attends := by
  let ch₁ := { ch with pushes := ch.pushes.set p { q with
    timer := timer, received := some reply, waiters := [] } }
  have hdropped : (ch₁.dropBindings? q.refEvent).Attends := h.drop_set hs ha hq rfl rfl harmed
  exact hdropped

theorem takeBack (h : ch.Attends) (hs : ch.Sound x c) (ha : ch.Apart)
    (hq : ch.pushes.get? p = some q) : (ch.takeBack p q).Attends := by
  let ch₁ := { ch with pushes := ch.pushes.set p q.reset }
  have hdropped : (ch₁.dropBindings? q.refEvent).Attends := h.drop_set hs ha hq rfl rfl rfl
  exact hdropped

theorem forget (h : ch.Attends) (hs : ch.Sound x c) (ha : ch.Apart)
    (hq : ch.pushes.get? p = some q) : (ch.forget p q).Attends := by
  let ch₁ := { ch with
    pushes := ch.pushes.erase p
    buffer := ch.buffer.filter (· ≠ p) }
  have hdropped : (ch₁.dropBindings? q.refEvent).Attends := by
    refine h.drop hs ha hq rfl fun p' q' hq' _ => ?_
    rw [Table.get?_erase] at hq'
    split at hq'
    · cases hq'
    · exact ⟨‹_›, hq'⟩
  exact hdropped

theorem starts (h : ch.Attends) (hs : ch.Sound z c) (ha : ch.Apart)
    (hstarts : ch.Starts x y c p ch') : ch'.Attends where
  owns := h.owns.starts hs hstarts
  listens := by
    intro p' q' hq' harmed
    refine (hstarts.awaits hs ha).mpr ?_
    by_cases heq : p' = p
    · exact .inl heq
    · obtain ⟨q, hq, hqq⟩ := hstarts.other heq hq'
      exact .inr (h.listens hq (hqq.timer ▸ harmed))

theorem insert (h : ch.Attends) (harmed : q.timer.armed = false) : (ch.insert p q).Attends :=
  h.of_push rfl rfl fun hq => by
    rw [harmed] at hq
    cases hq

/-- A new push is sent. -/
theorem starts_insert (h : ch.Attends) (hs : ch.Sound z c) (ha : ch.Apart)
    (hspent : z.Spent (.pushes c) p) (hfree : ch.pushes.get? p = none) (hq : q.IsNew)
    (harmed : q.timer.armed = false) (hstarts : (ch.insert p q).Starts x y c p ch') : ch'.Attends :=
  (h.insert harmed).starts (hs.insert_new hspent hfree hq) (ha.insert hq.ref) hstarts

end Attends

/-- The pushes of a channel have different refs when a new one has been sent. -/
theorem Apart.starts_insert (ha : ch.Apart) (hs : ch.Sound x c) (hb : y.drawn < 2 ^ 64)
    (hq : q.IsNew) (hstarts : (ch.insert p q).Starts x y c p ch') : ch'.Apart := by
  refine hstarts.apart hb (ha.insert hq.ref) fun hq' hr => ?_
  obtain ⟨q₀, hq₀, hr₀⟩ := RefsKept.insert (p := p) hq.ref hq' hr
  exact hs.drew hq₀ hr₀

end Channel

namespace Socket

variable {ω : Type} {s t : Socket (Recorded ω)} {k : Prompt} {c d : ChannelId}
variable {ch ch' : Channel} {es : List Effect}

/-! ### Moves -/

theorem Alter.attends {registered : Prop} {x y : Exchange}
    (h : Alter k x y registered c ch ch' es) (hk : k.Within ChannelOp.KeepsReserved)
    (hs : ch.Sound x c) (ha : ch.Apart) (hxy : x.Evolves y) (hb : y.drawn < 2 ^ 64)
    (hi : ch.Attends) : ch'.Attends := by
  have hsy := hs.mono hxy
  cases h with
  | alike same notes => exact hi.alike same
  | hooked op => exact hi.of_eq rfl rfl
  | listen op spent fresh =>
    refine ⟨fun b hb hname => List.mem_append_left _ (hi.owns b hb hname), fun p q hq harmed => ?_⟩
    exact Channel.awaits_bind.mpr (hi.listens hq harmed)
  | unbind op =>
    subst op
    have hnone : ∀ r, _ ≠ Event.replyTo r := fun r heq => hk (.inr ⟨r, heq⟩)
    exact ⟨hi.owns.unbind hk _, fun p q hq harmed =>
      (hs.awaits_unbind hnone _).mpr (hi.listens hq harmed)⟩
  | enlist op free spent other starts waits accepts =>
    exact (hi.starts_insert hsy ha spent free (Push.isNew_new _ _ _) rfl starts).of_eq rfl rfl
  | settle other push awaits unarmed answers => exact hi.settle hs ha push unarmed _
  | forget other push received => exact hi.forget hs ha push
  | unheard push awaits unarmed answers => exact hi.settle hs ha push unarmed _
  | refused push awaits unarmed answers => exact (hi.settle hs ha push unarmed _).of_eq rfl rfl
  | @abandoned q q' timer reply p timeout m ch' push awaits unarmed answers fresh free spent other
      starts push' =>
    have hsettled := hs.settle push timer reply
    have hapart : (ch.settle joinPush q timer reply).Apart := ha.kept (.settle push timer reply)
    have hfree : (ch.settle joinPush q timer reply).pushes.get? p = none := by
      rw [Channel.settle_pushes, Table.get?_set_of_ne _ other]
      exact free
    have hnew := Push.isNew_bareLeave timeout true
    have hch' := starts.sound_insert hsettled hxy spent hfree hnew
    have hapart' := hapart.starts_insert hsettled hb hnew starts
    have hi' : ch'.Attends := (hi.settle hs ha push unarmed reply).starts_insert
      (hsettled.mono hxy) hapart spent hfree hnew rfl starts
    have herrored : { ch' with state := .errored }.Sound y c :=
      hch'.filter (List.Sublist.refl _) rfl fun _ => id
    have hattends : { ch' with state := .errored }.Attends := hi'.of_eq rfl rfl
    exact hattends.takeBack herrored hapart' push'
  | failed listed push =>
    split
    · exact (hi.takeBack hs ha push).of_eq rfl rfl
    · exact hi.of_eq rfl rfl

/-- One channel becomes another that attends. -/
theorem Throughout.works {P : Channel → Prop} (hi : Throughout P s) (hw : Works c ch' es s t)
    (h : P ch') : Throughout P t := by
  intro d ch₁ hd
  by_cases hdc : d = c
  · subst hdc
    rw [hw.get?] at hd
    cases hd
    exact h
  · rw [hw.get?_of_ne hdc] at hd
    exact hi hd

theorem Flush.attends {ps : List PushId} (h : Flush c ps s t) (hs : Sound s)
    (hb : t.exchange.drawn < 2 ^ 64) (hi : Throughout Channel.Attends s) :
    Throughout Channel.Attends t := by
  induction h with
  | nil => exact hi
  | pass late rest ih => exact ih hs hb hi
  | send channel push inTime starts works rest ih =>
    have hdrawn := lt_of_le_of_lt (works.evolves.trans rest.frame.evolves).drawn_le hb
    refine ih (hs.starts channel starts works) hb (hi.works works ?_)
    exact (hi channel).starts (hs.channels channel) (hs.channel_apart hdrawn channel) starts

theorem Move.attends (h : Move k c s t) (hk : k.Within ChannelOp.KeepsReserved) (hs : Sound s)
    (hb : t.exchange.drawn < 2 ^ 64) (hi : Throughout Channel.Attends s) :
    Throughout Channel.Attends t := by
  have hapart : ∀ {ch}, s.channels.get? c = some ch → ch.Apart :=
    hs.channel_apart (lt_of_le_of_lt h.frame.evolves.drawn_le hb)
  cases h with
  | quiet quiet =>
    intro d ch hd
    exact hi (quiet.get? d ▸ hd)
  | alter channel alter works =>
    exact hi.works works (alter.attends hk (hs.channels channel) (hapart channel) works.evolves hb
      (hi channel))
  | @accepted _ _ _ _ _ reply channel push awaits unarmed answers status works flush =>
    have hsettled := (hi channel).settle (hs.channels channel) (hapart channel) push unarmed reply
    exact flush.attends (hs.accept channel push works) hb (hi.works works (hsettled.of_eq rfl rfl))
  | @closed _ ch channel closes =>
    intro d ch' hd
    by_cases hdc : d = c
    · subst hdc
      rw [closes.get?_self] at hd
      split at hd
      · cases hd
      · cases hd
        exact (hi channel).of_eq rfl rfl
    · rw [closes.get?_of_ne hdc] at hd
      exact hi hd

/-- Each change of a channel keeps it attending. -/
theorem Rough.attends (h : Rough k c s t) (hk : k.Within ChannelOp.KeepsReserved) (hs : Sound s)
    (hb : t.exchange.drawn < 2 ^ 64) (hi : Throughout Channel.Attends s) :
    Throughout Channel.Attends t := by
  have hapart : ∀ {ch}, s.channels.get? c = some ch → ch.Apart :=
    hs.channel_apart (lt_of_le_of_lt h.frame.evolves.drawn_le hb)
  cases h with
  | move move => exact move.attends hk hs hb hi
  | lapse channel push works =>
    exact hi.works works ((hi channel).of_push rfl rfl nofun)
  | @departs ch _ join p timeout detached es channel push free spent other starts works accepts =>
    have hdep := (departing_sound (hs.channels channel) push).mono works.evolves
    have hi' : (departing ch join).Attends := (hi channel).of_push rfl rfl nofun
    refine hi.works works (hi'.starts_insert hdep ((hapart channel).kept (departing_refs push))
      spent ?_ (Push.isNew_leave timeout detached) rfl starts)
    rw [departing, Table.get?_set_of_ne _ other]
    exact free
  | @joins ch ch' join timeout value channel push stays starts works =>
    have hs' := joining_sound (hs.channels channel) push timeout
    let reset := { join with timeout := timeout }.reset
    let ch₁ := { ch with
      state := .joining
      pushes := ch.pushes.set joinPush reset }
    have hb₁ : ch₁.bindings = ch.bindings := rfl
    have hp : ch₁.pushes = ch.pushes.set joinPush reset := rfl
    have hback : (ch₁.dropBindings? join.refEvent).Attends :=
      (hi channel).drop_set (hs.channels channel) (hapart channel) push hb₁ hp rfl
    exact hi.works works (hback.starts hs' ((hapart channel).kept (joining_refs push timeout)) starts)

/-- As long as no ref has come again, all channels attend. -/
theorem persists_attends : Persists (ω := ω) ChannelOp.KeepsReserved fun s =>
    s.exchange.drawn < 2 ^ 64 → Throughout Channel.Attends s where
  quiet hi hq hb c ch hc := hi (lt_of_le_of_lt hq.evolves.drawn_le hb) (hq.get? c ▸ hc)
  rough hs hi hk h hb := h.attends hk hs hb (hi (lt_of_le_of_lt h.frame.evolves.drawn_le hb))
  enters hi he hb c ch hc := by
    rcases he.get? c hc with hold | ⟨_, params, timeout, refs, rfl⟩
    · exact hi (lt_of_le_of_lt he.evolves.drawn_le hb) hold
    · exact .new _ params timeout refs
  erases hi he hb c ch hc := hi (lt_of_le_of_lt he.evolves.drawn_le hb) (he.get? hc).2
  ends _ he _ c ch hc := by
    rw [he.channels_eq, Table.get?_empty] at hc
    cases hc

/-- Where users remove no binding with a reserved name, every channel attends, whatever hooks they
install. -/
theorem Reachable.attends [Outside ω] [Obliging ω]
    (h : Reachable (fun _ cmd => cmd.Within ChannelOp.KeepsReserved) s)
    (hb : s.exchange.drawn < 2 ^ 64) : Throughout Channel.Attends s := by
  refine ((persists_attends.preserved fun _ _ => id).reachable (fun _ _ _ _ _ c ch hc => ?_) h).2 hb
  cases hc

end Socket

end Switchboard
