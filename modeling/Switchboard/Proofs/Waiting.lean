import Switchboard.Proofs.Moves

/-!
# Which pushes are listened for

As long as no ref has come again, what is done to one push leaves the bindings of the others where
they are.

Main definitions

* `Channel.Apart`: the pushes of a channel have different refs;
* `Channel.Owns`: a channel has bindings that belong to it.

Main results

* `Channel.Sound.awaits_settle`, `Channel.Sound.awaits_takeBack`, `Channel.Sound.awaits_forget`,
  `Channel.Sound.awaits_start`, `Channel.Sound.awaits_unbind`: which pushes are listened for after a
  change;
* `Channel.Starts.self`, `Channel.Starts.other`, `Channel.Starts.awaits`: what it is to be sent.
-/

set_option autoImplicit false

namespace Switchboard

namespace Channel

variable {x y : Exchange} {c : ChannelId} {ch ch' : Channel} {p p' : PushId} {q q' : Push}

/-- The pushes of a channel have different refs. -/
def Apart (ch : Channel) : Prop :=
  ∀ ⦃p p' q q' r⦄, ch.pushes.get? p = some q → ch.pushes.get? p' = some q' → q.ref = some r →
    q'.ref = some r → p = p'

theorem Apart.kept (h : ch.Apart) (h' : ch.RefsKept ch') : ch'.Apart := by
  intro p p' q q' r hq hq' hr hr'
  obtain ⟨q₁, hq₁, hr₁⟩ := h' hq hr
  obtain ⟨q₂, hq₂, hr₂⟩ := h' hq' hr'
  exact h hq₁ hq₂ hr₁ hr₂

/-! ### Bindings that go -/

theorem awaits_congr (h : ch'.bindings = ch.bindings) : ch'.Awaits p ↔ ch.Awaits p := by
  simp only [Awaits, h]

theorem Awaits.of_sublist (h : ch'.Awaits p) (hb : ch'.bindings.Sublist ch.bindings) :
    ch.Awaits p := by
  obtain ⟨b, hmem, ht⟩ := h
  exact ⟨b, hb.subset hmem, ht⟩

namespace Sound

/-- A push that is listened for has a ref. -/
theorem ref_of_awaits (hs : ch.Sound x c) (h : ch.Awaits p) :
    ∃ b q r, b ∈ ch.bindings ∧ b.target = .resolve p ∧ ch.pushes.get? p = some q ∧
      q.ref = some r ∧ b.event = Event.replyTo r := by
  obtain ⟨b, hmem, ht⟩ := h
  have hnot : ¬ b.IsListener := by
    rintro ⟨l, hl⟩
    rw [hl] at ht
    cases ht
  rcases hs.internal hmem hnot with rfl | rfl | rfl | ⟨p', q, r, ht', hq, hr, _, hevent⟩
  · cases ht
  · cases ht
  · cases ht
  · rw [ht] at ht'
    cases ht'
    exact ⟨b, q, r, hmem, ht, hq, hr, hevent⟩

/-- The bindings of one push are dropped, those of the others are not. -/
theorem awaits_drop (hs : ch.Sound x c) (ha : ch.Apart) (hq : ch.pushes.get? p = some q)
    (hb : ch'.bindings = ch.bindings) :
    (ch'.dropBindings? q.refEvent).Awaits p' ↔ p' ≠ p ∧ ch.Awaits p' := by
  constructor
  · rintro hawaits
    refine ⟨?_, ?_⟩
    · rintro rfl
      exact hs.not_awaits_drop hq hb hawaits
    · refine hawaits.of_sublist ?_
      rw [← hb]
      exact dropBindings?_sublist _
  · rintro ⟨hne, hawaits⟩
    obtain ⟨b, q', r, hmem, ht, hq', hr', hevent⟩ := hs.ref_of_awaits hawaits
    refine ⟨b, mem_dropBindings?.mpr ⟨hb ▸ hmem, fun heq => hne ?_⟩, ht⟩
    rw [hs.events hq, hevent, Option.map_eq_some_iff] at heq
    obtain ⟨r', hr, heq⟩ := heq
    rw [Event.replyTo_injective heq] at hr
    exact ha hq' hq hr' hr

theorem awaits_settle (hs : ch.Sound x c) (ha : ch.Apart) (hq : ch.pushes.get? p = some q)
    (timer : TimerSlot) (reply : Reply) :
    (ch.settle p q timer reply).Awaits p' ↔ p' ≠ p ∧ ch.Awaits p' := by
  have hb : { ch with pushes := ch.pushes.set p { q with
    timer := timer, received := some reply, waiters := [] } }.bindings = ch.bindings := rfl
  exact hs.awaits_drop ha hq hb

theorem awaits_takeBack (hs : ch.Sound x c) (ha : ch.Apart) (hq : ch.pushes.get? p = some q) :
    (ch.takeBack p q).Awaits p' ↔ p' ≠ p ∧ ch.Awaits p' :=
  hs.awaits_drop ha hq rfl

theorem awaits_forget (hs : ch.Sound x c) (ha : ch.Apart) (hq : ch.pushes.get? p = some q) :
    (ch.forget p q).Awaits p' ↔ p' ≠ p ∧ ch.Awaits p' :=
  hs.awaits_drop ha hq rfl

theorem awaits_start (hs : ch.Sound x c) (ha : ch.Apart) (hq : ch.pushes.get? p = some q) (r : Ref)
    (n : BindingId) : (ch.start p q r n).Awaits p' ↔ p' = p ∨ ch.Awaits p' := by
  have hb : { ch with pushes := ch.pushes.set p { q with
    ref := some r, refEvent := some (Event.replyTo r), timer := q.timer.arm } }.bindings =
      ch.bindings := rfl
  have hdrop : _ ↔ p' ≠ p ∧ ch.Awaits p' := hs.awaits_drop ha hq hb
  constructor
  · rintro ⟨b, hmem, ht⟩
    rcases List.mem_append.mp hmem with hmem | hmem
    · exact .inr (hdrop.mp ⟨b, hmem, ht⟩).2
    · rw [List.mem_singleton.mp hmem] at ht
      cases ht
      exact .inl rfl
  · intro h
    by_cases hne : p' = p
    · subst hne
      exact ⟨_, List.mem_append_right _ (List.mem_singleton_self _), rfl⟩
    · obtain ⟨b, hmem, ht⟩ := hdrop.mpr ⟨hne, h.resolve_left hne⟩
      exact ⟨b, List.mem_append_left _ hmem, ht⟩

/-- To remove bindings of other events takes no reply away. -/
theorem awaits_unbind (hs : ch.Sound x c) {event : String} (he : ∀ r, event ≠ Event.replyTo r)
    (number : Option BindingId) : (ch.unbind event number).Awaits p ↔ ch.Awaits p := by
  constructor
  · exact fun h => h.of_sublist List.filter_sublist
  · intro h
    obtain ⟨b, _, r, hmem, ht, _, _, hevent⟩ := hs.ref_of_awaits h
    refine ⟨b, List.mem_filter.mpr ⟨hmem, ?_⟩, ht⟩
    have hne : (b.event == event) = false := beq_false_of_ne fun heq => he r (heq.symm.trans hevent)
    rw [hne]
    rfl

end Sound

theorem awaits_bind {event : String} {n : BindingId} {l : Listener} :
    (ch.bind event n (.listener l)).Awaits p ↔ ch.Awaits p := by
  constructor
  · rintro ⟨b, hmem, ht⟩
    rcases List.mem_append.mp hmem with hmem | hmem
    · exact ⟨b, hmem, ht⟩
    · rw [List.mem_singleton.mp hmem] at ht
      cases ht
  · rintro ⟨b, hmem, ht⟩
    exact ⟨b, List.mem_append_left _ hmem, ht⟩

/-! ### Own bindings -/

/-- Of the bindings that belong to it a channel has those with certain names. -/
def Owns (names : String → Prop) (ch : Channel) : Prop :=
  ∀ b ∈ ownBindings, names b.event → b ∈ ch.bindings

variable {names : String → Prop}

theorem Owns.of_eq (h : ch.Owns names) (hb : ch'.bindings = ch.bindings) : ch'.Owns names :=
  fun b hmem hname => hb ▸ h b hmem hname

/-- The bindings of the channel itself are not those of a push. -/
theorem Owns.drop (h : ch.Owns names) (hs : ch.Sound x c) (hq : ch.pushes.get? p = some q)
    (hb : ch'.bindings = ch.bindings) : (ch'.dropBindings? q.refEvent).Owns names := by
  intro b hmem hname
  refine mem_dropBindings?.mpr ⟨hb ▸ h b hmem hname, fun heq => ?_⟩
  rw [hs.events hq, Option.map_eq_some_iff] at heq
  obtain ⟨r, _, heq⟩ := heq
  simp only [ownBindings, List.mem_cons, List.not_mem_nil, or_false] at hmem
  rcases hmem with rfl | rfl | rfl
  · exact Event.replyTo_ne_close r heq
  · exact Event.replyTo_ne_error r heq
  · exact Event.replyTo_ne_reply r heq

theorem Owns.settle (h : ch.Owns names) (hs : ch.Sound x c) (hq : ch.pushes.get? p = some q)
    (timer : TimerSlot) (reply : Reply) : (ch.settle p q timer reply).Owns names := by
  have hb : { ch with pushes := ch.pushes.set p { q with
    timer := timer, received := some reply, waiters := [] } }.bindings = ch.bindings := rfl
  exact h.drop hs hq hb

theorem Owns.takeBack (h : ch.Owns names) (hs : ch.Sound x c) (hq : ch.pushes.get? p = some q) :
    (ch.takeBack p q).Owns names :=
  h.drop hs hq rfl

theorem Owns.forget (h : ch.Owns names) (hs : ch.Sound x c) (hq : ch.pushes.get? p = some q) :
    (ch.forget p q).Owns names :=
  h.drop hs hq rfl

theorem Owns.starts (h : ch.Owns names) (hs : ch.Sound x c) {y z : Exchange}
    (hstarts : ch.Starts y z c p ch') : ch'.Owns names := by
  obtain ⟨q, r, n, hq, _, ha⟩ := hstarts
  refine Owns.of_eq (fun b hmem hname => List.mem_append_left _ ?_) ha.bindings
  have hb : { ch with pushes := ch.pushes.set p { q with
    ref := some r, refEvent := some (Event.replyTo r), timer := q.timer.arm } }.bindings =
      ch.bindings := rfl
  exact h.drop hs hq hb b hmem hname

/-- To remove bindings of other names takes no own binding away. -/
theorem Owns.unbind (h : ch.Owns names) {event : String} (he : ¬ names event)
    (number : Option BindingId) : (ch.unbind event number).Owns names := by
  intro b hmem hname
  refine List.mem_filter.mpr ⟨h b hmem hname, ?_⟩
  have hne : (b.event == event) = false := beq_false_of_ne fun heq => he (heq ▸ hname)
  rw [hne]
  rfl

/-! ### Pushes that are sent -/

/-- A push that is sent waits for the reply to its fresh ref. -/
theorem Starts.self (h : ch.Starts x y c p ch') :
    ∃ q r n q', ch.pushes.get? p = some q ∧ x.Fresh y c r n ∧ ch'.pushes.get? p = some q' ∧
      q'.ref = some r ∧ q'.timer.armed = true ∧ q'.received = q.received ∧
      (∃ more, q'.hooks = q.hooks ++ more ∧ ∀ hook ∈ more, IsCallback hook) ∧ ch'.Awaits p := by
  obtain ⟨q, r, n, hq, hfresh, ha⟩ := h
  obtain ⟨q', hq', hqq⟩ := ha.some (p := p) (by rw [start_pushes, Table.get?_set_self])
  refine ⟨q, r, n, q', hq, hfresh, hq', hqq.ref, ?_, hqq.received, hqq.hooks, ?_⟩
  · rw [hqq.timer]
    rfl
  · rw [awaits_congr ha.bindings]
    exact ⟨_, List.mem_append_right _ (List.mem_singleton_self _), rfl⟩

/-- The other pushes stay as they are. -/
theorem Starts.other (h : ch.Starts x y c p ch') (hne : p' ≠ p)
    (hq' : ch'.pushes.get? p' = some q') : ∃ q, ch.pushes.get? p' = some q ∧ q.Alike q' := by
  obtain ⟨q₀, r, n, hq₀, _, ha⟩ := h
  have hsame : (ch.start p q₀ r n).pushes.get? p' = ch.pushes.get? p' := by
    rw [start_pushes, Table.get?_set_of_ne _ hne]
  cases hq : ch.pushes.get? p' with
  | none =>
    rw [ha.none (hsame.trans hq)] at hq'
    cases hq'
  | some q =>
    obtain ⟨q'', hq'', hqq⟩ := ha.some (hsame.trans hq)
    rw [hq'] at hq''
    cases hq''
    exact ⟨q, rfl, hqq⟩

theorem Starts.carried (h : ch.Starts x y c p ch') (hne : p' ≠ p)
    (hq : ch.pushes.get? p' = some q) : ∃ q', ch'.pushes.get? p' = some q' ∧ q.Alike q' := by
  obtain ⟨q₀, r, n, _, _, ha⟩ := h
  refine ha.some ?_
  rw [start_pushes, Table.get?_set_of_ne _ hne]
  exact hq

/-- To send one push makes the channel listen for no other. -/
theorem Starts.awaits_of_ne (h : ch.Starts x y c p ch') (hne : p' ≠ p) (h' : ch'.Awaits p') :
    ch.Awaits p' := by
  obtain ⟨q, r, n, _, _, ha⟩ := h
  obtain ⟨b, hmem, ht⟩ := (awaits_congr ha.bindings).mp h'
  rcases mem_start_bindings.mp hmem with hmem | rfl
  · exact ⟨b, hmem.1, ht⟩
  · cases ht
    exact absurd rfl hne

theorem Starts.awaits (h : ch.Starts x y c p ch') {z : Exchange} (hs : ch.Sound z c)
    (ha : ch.Apart) : ch'.Awaits p' ↔ p' = p ∨ ch.Awaits p' := by
  obtain ⟨q, r, n, hq, _, halike⟩ := h
  rw [awaits_congr halike.bindings]
  exact hs.awaits_start ha hq r n

/-- A channel like another has no push that the other has not. -/
theorem Alike.push (h : ch.Alike ch') (hq' : ch'.pushes.get? p = Option.some q') :
    ∃ q, ch.pushes.get? p = Option.some q ∧ q.Alike q' := by
  cases hq : ch.pushes.get? p with
  | none =>
    rw [h.none hq] at hq'
    cases hq'
  | some q =>
    obtain ⟨q'', hq'', hqq⟩ := h.some hq
    rw [hq'] at hq''
    cases hq''
    exact ⟨q, rfl, hqq⟩

end Channel

namespace Socket

variable {ω : Type} {s : Socket (Recorded ω)} {c : ChannelId} {ch : Channel}

theorem Sound.channel_apart (hs : Sound s) (hb : s.exchange.drawn < 2 ^ 64)
    (hc : s.channels.get? c = some ch) : ch.Apart := by
  intro p p' q q' r hq hq' hr hr'
  exact (hs.apart hb hc hc hq hq' hr hr').2

end Socket

end Switchboard
