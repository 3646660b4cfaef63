import Switchboard.Proofs.Epochs
import Switchboard.Proofs.Holdings

/-!
# The custody of channels

A channel that was created is kept by the registry until it closes, and by its handle until that is
dropped.  It is there as long as one of the two keeps it.  While the registry keeps it, it may have
entries among the callbacks of the socket; when it closes these go with it.  So when both have let it
go, in whatever order, nothing is left of it.

Main definitions

* `Socket.Created`, `Socket.Dropped`: what the commands that were taken did for a channel;
* `Holdings.Kept`: each channel is kept by the registry or by a handle;
* `Holdings.Rightful`: only registered channels have entries.

Main results

* `Holdings.Turn.kept`, `Holdings.Turn.rightful`: no command breaks that;
* `Socket.Course.stays_out`: a channel that has left the registry does not come back;
* `Socket.channels_in_custody`: how the registry, the channels and their entries fit together.
-/

set_option autoImplicit false

namespace Switchboard

/-! ### What holdings keep to -/

namespace Holdings

variable {h h' : Holdings} {c : ChannelId} {cmd : Command}

/-- Each registered channel is there once, and one without a handle is there only as long as it is
registered. -/
structure Kept (h : Holdings) : Prop where
  nodup : h.order.Nodup
  listed : ∀ c ∈ h.order, ∃ k, h.cores c = some k
  orphans : ∀ ⦃c k⦄, h.cores c = some k → k.orphaned = true → c ∈ h.order

/-- An entry belongs to a registered channel that knows its ref. -/
def Owned (h : Holdings) (e : Ref × ChannelId) : Prop :=
  e.2 ∈ h.order ∧ ∃ k, h.cores e.2 = some k ∧ e.1 ∈ k.refs

/-- All entries belong to registered channels. -/
def Rightful (h : Holdings) : Prop := ∀ e, e ∈ h.errors ∨ e ∈ h.opens → h.Owned e

/-- No handle keeps a channel. -/
def Unhandled (h : Holdings) (c : ChannelId) : Prop := ∀ k, h.cores c = some k → k.orphaned = true

/-! ### Channels that are struck out -/

theorem cores_erase (h : Holdings) (c d : ChannelId) :
    (h.erase c).cores d = if d = c then none else h.cores d := rfl

/-- What is there after a channel was struck out was there before; the channel itself only with a
handle. -/
theorem cores_strike {d : ChannelId} {k : Tenure} (hd : (h.strike c).cores d = some k) :
    h.cores d = some k ∧ (d = c → k.orphaned = false) := by
  unfold strike at hd
  split at hd
  · next hnone => exact ⟨hd, fun hdc => by rw [hdc, hnone] at hd; cases hd⟩
  · next k' hc =>
    dsimp only at hd
    split at hd
    · rw [cores_erase] at hd
      split at hd
      · cases hd
      · exact ⟨hd, fun hdc => absurd hdc ‹_›⟩
    · refine ⟨hd, fun hdc => ?_⟩
      obtain rfl : k' = k := Option.some.inj (hc.symm.trans (hdc ▸ hd))
      simpa using ‹¬k'.orphaned = true›

/-- A channel that is not struck out stays. -/
theorem cores_strike_of_ne {d : ChannelId} (hdc : d ≠ c) : (h.strike c).cores d = h.cores d := by
  unfold strike
  split
  · rfl
  · dsimp only
    split
    · rw [cores_erase, if_neg hdc]
      rfl
    · rfl

/-- A channel that is not there is not struck out. -/
theorem strike_of_none (hc : h.cores c = none) : h.strike c = h := by
  unfold strike
  rw [hc]

/-- A channel that is struck out leaves the order, if it is there at all. -/
theorem order_strike (hc : ∃ k, h.cores c = some k) :
    (h.strike c).order = h.order.filter (· ≠ c) := by
  obtain ⟨k, hk⟩ := hc
  unfold strike
  rw [hk]
  dsimp only
  split <;> rfl

theorem Lapse.order_sublist (hl : Lapse h h') : h'.order.Sublist h.order := by
  cases hl with
  | shed refs => exact .refl _
  | strike c =>
    cases hc : h.cores c with
    | none => rw [strike_of_none hc]
    | some k =>
      rw [order_strike ⟨k, hc⟩]
      exact List.filter_sublist

theorem Lapse.cores (hl : Lapse h h') {d : ChannelId} {k : Tenure} (hd : h'.cores d = some k) :
    h.cores d = some k := by
  cases hl with
  | shed refs => exact hd
  | strike c => exact (cores_strike hd).1

theorem Lapse.kept (hl : Lapse h h') (hk : h.Kept) : h'.Kept := by
  refine ⟨hk.nodup.sublist hl.order_sublist, fun d hd => ?_, fun d k hd horphaned => ?_⟩
  · obtain ⟨k, hk'⟩ := hk.listed d (hl.order_sublist.subset hd)
    cases hl with
    | shed refs => exact ⟨k, hk'⟩
    | strike c =>
      -- The channel that is struck out is no longer in the order.
      have hdc : d ≠ c := by
        rintro rfl
        rw [order_strike ⟨k, hk'⟩] at hd
        simp at hd
      exact ⟨k, (cores_strike_of_ne hdc).trans hk'⟩
  · have hmem := hk.orphans (hl.cores hd) horphaned
    cases hl with
    | shed refs => exact hmem
    | strike c =>
      have hdc : d ≠ c := fun hdc => by simp [(cores_strike hd).2 hdc] at horphaned
      cases hc : h.cores c with
      | none => rwa [strike_of_none hc]
      | some k' =>
        rw [order_strike ⟨k', hc⟩]
        simpa [hdc] using hmem

theorem rightful_shed (hr : h.Rightful) (refs : List Ref) : (h.shed refs).Rightful := by
  intro e he
  refine hr e (he.imp ?_ ?_) <;> exact fun hmem => List.mem_of_mem_filter hmem

theorem rightful_strike (hr : h.Rightful) (c : ChannelId) : (h.strike c).Rightful := by
  cases hc : h.cores c with
  | none => rwa [strike_of_none hc]
  | some k =>
    intro e he
    -- The entries that are left are not under the refs of the channel, so they are of others.
    have hleft : (e ∈ h.errors ∨ e ∈ h.opens) ∧ e.1 ∉ k.refs := by
      have hentries : (h.strike c).errors = (h.shed k.refs).errors ∧
          (h.strike c).opens = (h.shed k.refs).opens := by
        unfold strike
        rw [hc]
        dsimp only
        split <;> exact ⟨rfl, rfl⟩
      rw [hentries.1, hentries.2] at he
      rcases he with he | he <;>
        · obtain ⟨hmem, hnot⟩ := List.mem_filter.mp he
          exact ⟨by simp [hmem], by simpa using hnot⟩
    obtain ⟨hlisted, k', hk', href⟩ := hr e hleft.1
    have hec : e.2 ≠ c := by
      intro heq
      rw [heq, hc] at hk'
      exact hleft.2 (Option.some.inj hk' ▸ href)
    refine ⟨?_, k', (cores_strike_of_ne hec).trans hk', href⟩
    rw [order_strike ⟨k, hc⟩]
    simpa [hec] using hlisted

theorem Lapses.kept (hl : Lapses h h') (hk : h.Kept) : h'.Kept := by
  induction hl with
  | refl => exact hk
  | tail _ lapse ih => exact lapse.kept ih

theorem Lapses.rightful (hl : Lapses h h') (hr : h.Rightful) : h'.Rightful := by
  induction hl with
  | refl => exact hr
  | tail _ lapse ih =>
    cases lapse with
    | shed refs => exact rightful_shed ih refs
    | strike c => exact rightful_strike ih c

theorem Lapses.cores (hl : Lapses h h') {d : ChannelId} {k : Tenure} (hd : h'.cores d = some k) :
    h.cores d = some k := by
  induction hl with
  | refl => exact hd
  | tail _ lapse ih => exact ih (lapse.cores hd)

theorem Lapses.order_subset (hl : Lapses h h') : h'.order ⊆ h.order := by
  induction hl with
  | refl => exact List.Subset.refl _
  | tail _ lapse ih => exact List.Subset.trans lapse.order_sublist.subset ih

/-! ### Channels that enter, and handles that go -/

theorem cores_enter (h : Holdings) (c : ChannelId) (onError onOpen : Ref) (d : ChannelId) :
    (h.enter c onError onOpen).cores d =
      if d = c then some ⟨[onError, onOpen], false⟩ else h.cores d := rfl

theorem kept_enter (hk : h.Kept) (hc : h.cores c = none) (onError onOpen : Ref) :
    (h.enter c onError onOpen).Kept := by
  have hunlisted : c ∉ h.order := fun hmem => by
    obtain ⟨k, hk⟩ := hk.listed c hmem
    rw [hc] at hk
    cases hk
  refine ⟨?_, fun d hd => ?_, fun d k hd horphaned => ?_⟩
  · refine List.nodup_append.mpr ⟨hk.nodup, List.nodup_singleton c, ?_⟩
    rintro d hd e he rfl
    exact hunlisted (List.mem_singleton.mp he ▸ hd)
  · rw [cores_enter]
    split
    · exact ⟨_, rfl⟩
    · refine hk.listed d ((List.mem_append.mp hd).resolve_right fun hmem => ?_)
      exact ‹d ≠ c› (List.mem_singleton.mp hmem)
  · rw [cores_enter] at hd
    split at hd
    · cases hd
      cases horphaned
    · exact List.mem_append_left _ (hk.orphans hd horphaned)

theorem rightful_enter (hr : h.Rightful) (hc : h.cores c = none) (onError onOpen : Ref) :
    (h.enter c onError onOpen).Rightful := by
  have hold : ∀ e, h.Owned e → (h.enter c onError onOpen).Owned e := by
    rintro e ⟨hlisted, k, hk, href⟩
    have hec : e.2 ≠ c := fun heq => by rw [heq, hc] at hk; cases hk
    exact ⟨List.mem_append_left _ hlisted, k, by rw [cores_enter, if_neg hec, hk], href⟩
  have hnew : ∀ r ∈ [onError, onOpen], (h.enter c onError onOpen).Owned (r, c) := fun r hr =>
    ⟨List.mem_append_right _ List.mem_cons_self, _, by rw [cores_enter, if_pos rfl], hr⟩
  rintro e (he | he)
  · rcases List.mem_append.mp he with he | he
    · exact hold e (hr e (.inl he))
    · obtain rfl := List.mem_singleton.mp he
      exact hnew onError (by simp)
  · rcases List.mem_append.mp he with he | he
    · exact hold e (hr e (.inr he))
    · obtain rfl := List.mem_singleton.mp he
      exact hnew onOpen (by simp)

/-- What is there after a handle has gone was there before, and the channel of the handle only as one
that is registered and has no handle. -/
theorem cores_letGo {d : ChannelId} {k : Tenure} (hd : (h.letGo c).cores d = some k) :
    (d ≠ c ∧ h.cores d = some k) ∨
      (d = c ∧ c ∈ h.order ∧ k.orphaned = true ∧ ∃ k', h.cores c = some k' ∧ k.refs = k'.refs) := by
  unfold letGo at hd
  split at hd
  · dsimp only at hd
    split at hd
    · next hdc =>
      obtain ⟨k', hk', rfl⟩ := Option.map_eq_some_iff.mp hd
      exact .inr ⟨hdc, ‹_›, rfl, k', hk', rfl⟩
    · next hdc => exact .inl ⟨hdc, hd⟩
  · rw [cores_erase] at hd
    split at hd
    · cases hd
    · next hdc => exact .inl ⟨hdc, hd⟩

theorem order_letGo (h : Holdings) (c : ChannelId) : (h.letGo c).order = h.order := by
  unfold letGo
  split <;> rfl

/-- A registered channel stays when a handle goes. -/
theorem exists_cores_letGo {d : ChannelId} {k : Tenure} (hmem : d ∈ h.order)
    (hd : h.cores d = some k) : ∃ k', (h.letGo c).cores d = some k' ∧ k'.refs = k.refs := by
  unfold letGo
  split
  · by_cases hdc : d = c
    · subst hdc
      exact ⟨{ k with orphaned := true }, by simp [hd], rfl⟩
    · exact ⟨k, by simp [hdc, hd], rfl⟩
  · next hunlisted =>
    have hdc : d ≠ c := fun hdc => hunlisted (hdc ▸ hmem)
    exact ⟨k, by rw [cores_erase, if_neg hdc, hd], rfl⟩

theorem kept_letGo (hk : h.Kept) (c : ChannelId) : (h.letGo c).Kept := by
  refine ⟨order_letGo h c ▸ hk.nodup, fun d hd => ?_, fun d k hd horphaned => ?_⟩
  · rw [order_letGo] at hd
    obtain ⟨k, hk'⟩ := hk.listed d hd
    obtain ⟨k', hk'', -⟩ := exists_cores_letGo (c := c) hd hk'
    exact ⟨k', hk''⟩
  · rw [order_letGo]
    rcases cores_letGo hd with ⟨-, hold⟩ | ⟨rfl, hmem, -⟩
    · exact hk.orphans hold horphaned
    · exact hmem

theorem rightful_letGo (hr : h.Rightful) (c : ChannelId) : (h.letGo c).Rightful := by
  have hentries : (h.letGo c).errors = h.errors ∧ (h.letGo c).opens = h.opens := by
    unfold letGo
    split <;> exact ⟨rfl, rfl⟩
  intro e he
  rw [hentries.1, hentries.2] at he
  obtain ⟨hlisted, k, hk, href⟩ := hr e he
  obtain ⟨k', hk', hrefs⟩ := exists_cores_letGo (c := c) hlisted hk
  exact ⟨order_letGo h c ▸ hlisted, k', hk', hrefs ▸ href⟩

/-! ### Commands -/

/-- A command that creates a channel creates a new one. -/
def Fresh (h : Holdings) (cmd : Command) : Prop :=
  ∀ c topic params, cmd = .createChannel c topic params → h.cores c = none

theorem Turn.kept (ht : Turn h cmd h') (hfresh : h.Fresh cmd) (hk : h.Kept) : h'.Kept := by
  cases ht with
  | enter c topic params onError onOpen => exact kept_enter hk (hfresh c topic params rfl) _ _
  | letGo c => exact kept_letGo hk c
  | forget => exact ⟨List.nodup_nil, nofun, nofun⟩
  | lapse kept lapses => exact lapses.kept hk

/-- Only the end of the socket leaves entries behind; it takes no more commands. -/
theorem Turn.rightful (ht : Turn h cmd h') (hfresh : h.Fresh cmd) (hcmd : cmd ≠ .shutdown)
    (hr : h.Rightful) : h'.Rightful := by
  cases ht with
  | enter c topic params onError onOpen => exact rightful_enter hr (hfresh c topic params rfl) _ _
  | letGo c => exact rightful_letGo hr c
  | forget => exact absurd rfl hcmd
  | lapse kept lapses => exact lapses.rightful hr

/-- A channel that no handle keeps comes by none, unless it is created once more. -/
theorem Turn.unhandled (ht : Turn h cmd h') (hc : h.Unhandled c)
    (hcmd : ∀ topic params, cmd ≠ .createChannel c topic params) : h'.Unhandled c := by
  intro k hk
  cases ht with
  | enter d topic params onError onOpen =>
    rw [cores_enter] at hk
    split at hk
    · next hcd => exact absurd (hcd ▸ rfl) (hcmd topic params)
    · exact hc k hk
  | letGo d =>
    rcases cores_letGo hk with ⟨-, hold⟩ | ⟨-, -, horphaned, -⟩
    · exact hc k hold
    · exact horphaned
  | forget => cases hk
  | lapse kept lapses => exact hc k (lapses.cores hk)

/-- The handle of a channel that is dropped does not keep it. -/
theorem Turn.unhandled_drop (ht : Turn h (.dropChannel c) h') : h'.Unhandled c := by
  intro k hk
  cases ht with
  | letGo =>
    rcases cores_letGo hk with ⟨hne, -⟩ | ⟨-, -, horphaned, -⟩
    · exact absurd rfl hne
    · exact horphaned
  | lapse kept lapses => exact absurd rfl (kept c)

/-- A channel out of the order stays out, unless it is created once more. -/
theorem Turn.not_mem_order (ht : Turn h cmd h') (hc : c ∉ h.order)
    (hcmd : ∀ topic params, cmd ≠ .createChannel c topic params) : c ∉ h'.order := by
  cases ht with
  | enter d topic params onError onOpen =>
    intro hmem
    rcases List.mem_append.mp hmem with hmem | hmem
    · exact hc hmem
    · exact hcmd topic params (List.mem_singleton.mp hmem ▸ rfl)
  | letGo d => rwa [order_letGo]
  | forget => exact List.not_mem_nil
  | lapse kept lapses => exact fun hmem => hc (lapses.order_subset hmem)

end Holdings

namespace Socket

/-! ### Courses -/

/-- A channel was created. -/
def Created (cmds : List Command) (c : ChannelId) : Prop :=
  ∃ topic params, Command.createChannel c topic params ∈ cmds

/-- The handle of a channel that had been created was dropped. -/
def Dropped (cmds : List Command) (c : ChannelId) : Prop :=
  ∃ before after, cmds = before ++ .dropChannel c :: after ∧ Created before c

theorem Created.append {cmds : List Command} {c : ChannelId} (h : Created cmds c)
    (rest : List Command) : Created (cmds ++ rest) c := by
  obtain ⟨topic, params, hmem⟩ := h
  exact ⟨topic, params, List.mem_append_left _ hmem⟩

theorem Dropped.created {cmds : List Command} {c : ChannelId} (h : Dropped cmds c) :
    Created cmds c := by
  obtain ⟨before, after, rfl, hcreated⟩ := h
  exact hcreated.append _

theorem created_concat {cmds : List Command} {cmd : Command} {c : ChannelId}
    (h : Created (cmds ++ [cmd]) c) :
    Created cmds c ∨ ∃ topic params, cmd = .createChannel c topic params := by
  obtain ⟨topic, params, hmem⟩ := h
  rcases List.mem_append.mp hmem with hold | hnew
  · exact .inl ⟨topic, params, hold⟩
  · exact .inr ⟨topic, params, (List.mem_singleton.mp hnew).symm⟩

theorem dropped_concat {cmds : List Command} {cmd : Command} {c : ChannelId}
    (h : Dropped (cmds ++ [cmd]) c) : Dropped cmds c ∨ cmd = .dropChannel c := by
  obtain ⟨before, after, heq, hcreated⟩ := h
  rcases List.eq_nil_or_concat after with rfl | ⟨rest, last, rfl⟩
  · exact .inr (List.append_inj_right' heq rfl |> List.singleton_inj.mp)
  · rw [List.concat_eq_append, ← List.cons_append, ← List.append_assoc] at heq
    exact .inl ⟨before, rest, List.append_inj_left' heq rfl, hcreated⟩

variable {ω : Type} {s t u : Socket (Recorded ω)} {c : ChannelId} {cmds : List Command}
variable {cmd : Command} {x : Exchange}

/-- What holdings keep to, given the commands that were taken. -/
structure InCustody (cmds : List Command) (h : Holdings) : Prop where
  kept : h.Kept
  rightful : .shutdown ∉ cmds → h.Rightful
  dropped : ∀ ⦃c⦄, Dropped cmds c → h.Unhandled c

theorem inCustody_nil : InCustody [] ⟨[], [], [], fun _ => none⟩ where
  kept := ⟨List.nodup_nil, nofun, nofun⟩
  rightful _ e he := by rcases he with he | he <;> cases he
  dropped c hc := nofun

/-- One command. -/
theorem InCustody.turn {h h' : Holdings} (hc : InCustody cmds h) (ht : h.Turn cmd h')
    (hfresh : h.Fresh cmd)
    (hnew : ∀ c topic params, cmd = .createChannel c topic params → ¬Created cmds c) :
    InCustody (cmds ++ [cmd]) h' := by
  refine ⟨ht.kept hfresh hc.kept, fun hshut => ?_, fun c hdropped => ?_⟩
  · simp only [List.mem_append, List.mem_singleton, not_or] at hshut
    exact ht.rightful hfresh (Ne.symm hshut.2) (hc.rightful hshut.1)
  · rcases dropped_concat hdropped with hold | rfl
    · exact ht.unhandled (hc.dropped hold) fun topic params heq =>
        hnew c topic params heq hold.created
    · exact ht.unhandled_drop

section Outside

variable [Outside ω] [Obliging ω]

/-- The number of a channel that was created is spent. -/
theorem Course.created_spent (h : Course KeepsRecord s cmds t) (hs : Sound s)
    (hc : Created cmds c) : t.exchange.Spent .channels c := by
  induction h with
  | start =>
    obtain ⟨topic, params, hmem⟩ := hc
    cases hmem
  | surroundings before allowed ih => exact allowed.1.evolves.spent (ih hc)
  | @take cmds t cmd x before next ih =>
    have hst := before.sound hs
    have hx := hst.quiet (quiet_next? next)
    have hevolves := (strides_handle hx _ (due_of_next? hst next)).evolves hx
    rcases created_concat hc with hold | ⟨topic, params, rfl⟩
    · exact hevolves.spent ((Exchange.evolves_next? next).spent (ih hold))
    · exact hevolves.spent (Exchange.spent_of_next? hst.tidy next (by simp [Command.number?])).1
  | @abandon cmds t before ih =>
    rcases created_concat hc with hold | ⟨_, _, hshutdown⟩
    · exact (ends_shutdown t).evolves.spent (ih hold)
    · cases hshutdown

/-- A channel that a command creates was never created before. -/
theorem Course.not_created (h : Course KeepsRecord s cmds t) (hs : Sound s)
    (next : t.exchange.next? = some (cmd, x)) {topic : String} {params : Params}
    (hcmd : cmd = .createChannel c topic params) : ¬Created cmds c := by
  intro hc
  subst hcmd
  refine (Exchange.spent_of_next? (h.sound hs).tidy next (k := .channels) (n := c) ?_).2
    (h.created_spent hs hc)
  simp [Command.number?]

omit [Outside ω] [Obliging ω] in
theorem fresh_of_next? (hs : Sound t) (next : t.exchange.next? = some (cmd, x)) :
    t.holdings.Fresh cmd := by
  rintro c topic params rfl
  have hfree := ((due_of_next? hs next).channel (c := c) (by simp [Command.number?])).2
  have hnone : t.channels.get? c = none := hfree
  rw [cores_holdings, hnone]
  rfl

theorem Course.inCustody (h : Course KeepsRecord s cmds t) (hs : Sound s)
    (hc : InCustody [] s.holdings) : InCustody cmds t.holdings := by
  induction h with
  | start => exact hc
  | surroundings before allowed ih => exact ih
  | @take cmds t cmd x before next ih =>
    exact ih.turn (turn_handle { t with exchange := x } cmd) (fresh_of_next? (before.sound hs) next)
      fun c topic params heq => before.not_created hs next heq
  | @abandon cmds t before ih =>
    exact ih.turn (by rw [holdings_shutdown]; exact .forget) nofun nofun

/-- A channel that was created and has left the registry does not come back. -/
theorem Course.stays_out (h : Course KeepsRecord s cmds t) (hs : Sound s)
    (hspent : s.exchange.Spent .channels c) (hc : c ∉ s.order) : c ∉ t.order := by
  induction h with
  | start => exact hc
  | surroundings before allowed ih => exact ih
  | @take cmds t cmd x before next ih =>
    refine (turn_handle { t with exchange := x } cmd).not_mem_order ih fun topic params heq => ?_
    subst heq
    refine (Exchange.spent_of_next? (before.sound hs).tidy next (k := .channels) (n := c) ?_).2
      ((before.evolves hs).spent hspent)
    simp [Command.number?]
  | abandon before ih => exact List.not_mem_nil

/-- How the channels of a socket are kept, whatever has happened between the commands that were taken.
The order of registration has no channel twice, and each channel in it is there.  A channel without a
handle is there only as long as it is registered, and so one that is not registered still has its
handle: no handle of it was dropped since it was created.  Each entry of a channel in the registries for
openings and failures is that of a registered channel; only the end of the socket, after which no command
is taken any more, leaves entries behind.  So of a channel that was dropped and is not registered,
because it has closed before or after that, nothing is left: it is not there, nor any of its pushes, nor
any entry.  And a channel that was created and has left the registry never comes back to it. -/
theorem channels_in_custody {endpoint : String} {config : Config} {factory : Factory} {outside : ω}
    (h : Course KeepsRecord (Socket.new endpoint config factory ⟨outside, [], []⟩) cmds s) :
    s.order.Nodup ∧ (∀ c ∈ s.order, ∃ ch, s.channels.get? c = some ch) ∧
      (∀ c ch, s.channels.get? c = some ch → ch.orphaned = true → c ∈ s.order) ∧
      (∀ c ch, s.channels.get? c = some ch → c ∉ s.order → ¬Dropped cmds c) ∧
      (.shutdown ∉ cmds → (∀ r c, (r, .rejoin c) ∈ s.callbacks.onOpen → c ∈ s.order) ∧
        ∀ r c, (r, .resetRejoin c) ∈ s.callbacks.onError → c ∈ s.order) ∧
      (∀ c, Dropped cmds c → c ∉ s.order →
        s.channels.get? c = none ∧ (∀ p, s.push? c p = none) ∧
          (.shutdown ∉ cmds → (∀ r, (r, .rejoin c) ∉ s.callbacks.onOpen) ∧
            ∀ r, (r, .resetRejoin c) ∉ s.callbacks.onError)) ∧
      (∀ c, Created cmds c → c ∉ s.order →
        ∀ cmds' t, Course KeepsRecord s cmds' t → c ∉ t.order) := by
  have hs := sound_new endpoint config factory (⟨outside, [], []⟩ : Recorded ω)
  have hcustody := h.inCustody hs inCustody_nil
  have horphans : ∀ c ch, s.channels.get? c = some ch → ch.orphaned = true → c ∈ s.order :=
    fun c ch hc horphaned => hcustody.kept.orphans (by rw [cores_holdings, hc]; rfl) horphaned
  have hhandles : ∀ c ch, s.channels.get? c = some ch → c ∉ s.order → ¬Dropped cmds c :=
    fun c ch hc hout hdropped => hout (horphans c ch hc
      (hcustody.dropped hdropped ch.tenure (by rw [cores_holdings, hc]; rfl)))
  have hopens : .shutdown ∉ cmds → ∀ r c, (r, .rejoin c) ∈ s.callbacks.onOpen → c ∈ s.order :=
    fun hshut r c hmem =>
      (hcustody.rightful hshut (r, c) (.inr (Callbacks.mem_openClaims.mpr hmem))).1
  have herrors : .shutdown ∉ cmds →
      ∀ r c, (r, .resetRejoin c) ∈ s.callbacks.onError → c ∈ s.order := fun hshut r c hmem =>
    (hcustody.rightful hshut (r, c) (.inl (Callbacks.mem_errorClaims.mpr hmem))).1
  refine ⟨hcustody.kept.nodup, fun c hc => ?_, horphans, hhandles,
    fun hshut => ⟨hopens hshut, herrors hshut⟩, fun c hdropped hout => ?_,
    fun c hcreated hout cmds' t hrest => hrest.stays_out (h.sound hs) (h.created_spent hs hcreated) hout⟩
  · obtain ⟨k, hk⟩ := hcustody.kept.listed c hc
    rw [cores_holdings] at hk
    obtain ⟨ch, hch, -⟩ := Option.map_eq_some_iff.mp hk
    exact ⟨ch, hch⟩
  · have hgone : s.channels.get? c = none :=
      Option.eq_none_iff_forall_ne_some.mpr fun ch hch => hhandles c ch hch hout hdropped
    refine ⟨hgone, fun p => by simp [push?, hgone], fun hshut => ⟨fun r hmem => ?_, fun r hmem => ?_⟩⟩
    · exact hout (hopens hshut r c hmem)
    · exact hout (herrors hshut r c hmem)

end Outside

/-! ### Channels that are let go of -/

/-- What a command does for the custody of a channel. -/
inductive Concern where
  | creates (channel : ChannelId)
  | drops (channel : ChannelId)
  | ends
  deriving DecidableEq

/-- What a command does for the custody of a channel, if anything. -/
def concern? : Command → Option Concern
  | .createChannel c _ _ => some (.creates c)
  | .dropChannel c => some (.drops c)
  | .shutdown => some .ends
  | _ => none

theorem dropped_of_concerns (before after : List Concern)
    (h : cmds.filterMap concern? = before ++ .drops c :: after) (hcreated : .creates c ∈ before) :
    Dropped cmds c := by
  obtain ⟨cmds₁, rest, rfl, rfl, hrest⟩ := List.filterMap_eq_append_iff.mp h
  obtain ⟨cmds₂, cmd, cmds₃, rfl, -, hcmd, -⟩ := List.filterMap_eq_cons_iff.mp hrest
  obtain ⟨create, hmem, hcreate⟩ := List.mem_filterMap.mp hcreated
  refine ⟨cmds₁ ++ cmds₂, cmds₃, ?_, ?_⟩
  · unfold concern? at hcmd
    split at hcmd <;> cases hcmd
    simp
  · unfold concern? at hcreate
    split at hcreate <;> cases hcreate
    exact ⟨_, _, List.mem_append_left _ hmem⟩

/-- The first channel is dropped while it is joined, and then the server closes it; the second leaves,
and then it is dropped. -/
def lettingGo : List Deed :=
  joined "room" ++ [.post (.dropChannel 0) fun _ => rfl, .take, .announce 0 "3" "room" Event.close, .take,
    .createChannel "hall", .take, .leave 1 10000, .take, .post (.dropChannel 1) fun _ => rfl, .take]

/-- Of both channels nothing is left. -/
theorem channels_in_custody_lettingGo : ∃ (cmds : List Command) (s : Socket (Recorded Idle)),
    Course KeepsRecord ready cmds s ∧ Dropped cmds 0 ∧ Dropped cmds 1 ∧ .shutdown ∉ cmds ∧
      s.order = [] ∧ ∀ c, c = 0 ∨ c = 1 → s.channels.get? c = none ∧ (∀ p, s.push? c p = none) ∧
        (∀ r, (r, .rejoin c) ∉ s.callbacks.onOpen) ∧
          ∀ r, (r, .resetRejoin c) ∉ s.callbacks.onError := by
  obtain ⟨⟨cmds, s⟩, hplay, hview⟩ := Option.map_eq_some_iff.mp
    (show (ready.follow? anyhow recording lettingGo).map (fun r =>
        (r.1.filterMap concern?, r.2.order)) =
      some ([.creates 0, .drops 0, .creates 1, .drops 1], []) by cbv)
  obtain ⟨hconcerns, horder⟩ := Prod.mk.inj hview
  have hcourse : Course KeepsRecord ready cmds s :=
    course_of_follow? (fun hacts _ => ⟨hacts, rfl⟩) (fun _ _ => ⟨.refl, rfl⟩) hplay
  have h0 : Dropped cmds 0 := dropped_of_concerns [.creates 0] _ hconcerns (by simp)
  have h1 : Dropped cmds 1 :=
    dropped_of_concerns [.creates 0, .drops 0, .creates 1] _ hconcerns (by simp)
  have hshut : .shutdown ∉ cmds := fun hmem => by
    have hends : Concern.ends ∈ cmds.filterMap concern? := List.mem_filterMap.mpr ⟨_, hmem, rfl⟩
    simp [hconcerns] at hends
  obtain ⟨-, -, -, -, -, hgone, -⟩ := channels_in_custody hcourse
  refine ⟨cmds, s, hcourse, h0, h1, hshut, horder, ?_⟩
  rintro c (rfl | rfl)
  · obtain ⟨hcore, hpushes, hentries⟩ := hgone 0 h0 (by simp [show s.order = [] from horder])
    exact ⟨hcore, hpushes, hentries hshut⟩
  · obtain ⟨hcore, hpushes, hentries⟩ := hgone 1 h1 (by simp [show s.order = [] from horder])
    exact ⟨hcore, hpushes, hentries hshut⟩

end Socket

end Switchboard
