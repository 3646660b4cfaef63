import Mathlib
import Switchboard.Socket.Handles

/-!
# The ledger of an exchange

Handles and sockets draw numbers for channels, pushes and bindings, and refs.  A number that was
drawn is on its way in the queue, or it is spent; it never comes to the queue again.  A ref comes
again only when the counter of refs has gone all the way round.

Main definitions

* `Series`, `Exchange.upcoming`, `Exchange.queued`: the numbers of a series that are drawn next, and
  those on their way;
* `Exchange.Spent`, `Exchange.Drew`: numbers and refs that were used;
* `Exchange.Tidy`, `Exchange.Evolves`: no number is on its way twice, and what is spent stays spent;
* `Exchange.Act`: what handles, transports and the clock do to an exchange.

Main results

* `Exchange.Act.evolves`, `Exchange.evolves_drawRef`, `Exchange.evolves_drawPush`,
  `Exchange.evolves_drawBinding`, `Exchange.evolves_next?`, `Exchange.evolves_shut`;
* `Exchange.spent_of_next?`: the numbers of the first command of the queue are spent once it is
  taken;
* `Exchange.not_drew_drawRef`: a ref is fresh if fewer than `2 ^ 64` were drawn.
-/

set_option autoImplicit false

namespace Switchboard

/-! ### Series of numbers -/

/-- What an exchange numbers. -/
inductive Series where
  | channels
  | pushes (channel : ChannelId)
  | bindings (channel : ChannelId)
  deriving DecidableEq

/-- The first number of a series that is drawn; each channel has the numbers below from the start. -/
def Series.first : Series → Nat
  | .channels => 0
  | .pushes _ => joinPush + 1
  | .bindings _ => Line.firstBinding

/-- The number of a series that a command puts to use. -/
def Command.number? (k : Series) : Command → Option Nat
  | .createChannel c _ _ => if k = .channels then some c else none
  | .channel c (.push p _ _ _) => if k = .pushes c then some p else none
  | .channel c (.leave p _) => if k = .pushes c then some p else none
  | .channel c (.bind b _ _) => if k = .bindings c then some b else none
  | _ => none

/-- A command that puts no number to use. -/
def Command.IsPlain (c : Command) : Prop := ∀ k, c.number? k = none

namespace Exchange

/-- The next number of a series. -/
def upcoming (x : Exchange) : Series → Nat
  | .channels => x.lines.length
  | .pushes c => (x.line c).nextPush
  | .bindings c => (x.line c).nextBinding

/-- The numbers of a series that are on their way. -/
def queued (x : Exchange) (k : Series) : List Nat := x.queue.filterMap (Command.number? k)

/-- A number was drawn and is no longer on its way. -/
def Spent (x : Exchange) (k : Series) (n : Nat) : Prop := n < x.upcoming k ∧ n ∉ x.queued k

/-- The counter agrees with the number of refs drawn, and no number is on its way twice. -/
structure Tidy (x : Exchange) : Prop where
  refs : x.refs.current = UInt64.ofNat x.drawn
  first_le : ∀ k, k.first ≤ x.upcoming k
  bounds : ∀ k, ∀ n ∈ x.queued k, k.first ≤ n ∧ n < x.upcoming k
  nodup : ∀ k, (x.queued k).Nodup

/-- What was drawn stays drawn, and what is spent stays spent. -/
structure Evolves (x y : Exchange) : Prop where
  drawn_le : x.drawn ≤ y.drawn
  tidy : x.Tidy → y.Tidy
  spent : ∀ {k n}, x.Spent k n → y.Spent k n

namespace Evolves

variable {x y z : Exchange}

@[refl] theorem refl (x : Exchange) : Evolves x x := ⟨le_refl _, id, id⟩

theorem trans (h : Evolves x y) (h' : Evolves y z) : Evolves x z :=
  ⟨h.drawn_le.trans h'.drawn_le, h'.tidy ∘ h.tidy, h'.spent ∘ h.spent⟩

/-- The queue gets commands whose numbers were drawn just now. -/
theorem of_append (extra : List Command) (hd : x.drawn ≤ y.drawn)
    (hr : x.refs.current = UInt64.ofNat x.drawn → y.refs.current = UInt64.ofNat y.drawn)
    (hu : ∀ k, x.upcoming k ≤ y.upcoming k) (hq : y.queue = x.queue ++ extra)
    (he : ∀ k, ∀ n ∈ extra.filterMap (Command.number? k), x.upcoming k ≤ n ∧ n < y.upcoming k)
    (hn : ∀ k, (extra.filterMap (Command.number? k)).Nodup) : Evolves x y := by
  have hqueued : ∀ k, y.queued k = x.queued k ++ extra.filterMap (Command.number? k) := by
    intro k
    simp [queued, hq]
  refine ⟨hd, fun ht => ⟨hr ht.refs, fun k => (ht.first_le k).trans (hu k), ?_, ?_⟩, ?_⟩
  · intro k n hmem
    rw [hqueued, List.mem_append] at hmem
    rcases hmem with hmem | hmem
    · have := ht.bounds k n hmem
      have := hu k
      omega
    · have := he k n hmem
      have := ht.first_le k
      omega
  · intro k
    rw [hqueued, List.nodup_append]
    refine ⟨ht.nodup k, hn k, ?_⟩
    intro n hmem m hmem'
    have := (ht.bounds k n hmem).2
    have := (he k m hmem').1
    omega
  · intro k n ⟨hlt, hnot⟩
    refine ⟨lt_of_lt_of_le hlt (hu k), ?_⟩
    rw [hqueued, List.mem_append]
    rintro (hmem | hmem)
    · exact hnot hmem
    · have := (he k n hmem).1
      omega

/-- Nothing that the ledger knows of has changed. -/
theorem of_eq (hd : y.drawn = x.drawn) (hr : y.refs = x.refs) (hl : y.lines = x.lines)
    (hq : y.queue = x.queue) : Evolves x y := by
  have hu : ∀ k, y.upcoming k = x.upcoming k := by
    intro k
    cases k <;> simp [upcoming, line, hl]
  refine of_append [] hd.ge (by rw [hd, hr]; exact id) (fun k => (hu k).ge) (by simp [hq])
    (by simp) (by simp)

end Evolves

/-! ### The numbers of one channel -/

theorem line_modifyLine (x : Exchange) (c d : ChannelId) (f : Line → Line) :
    (x.modifyLine c f).line d = if d = c ∧ c < x.lines.length then f (x.line c) else x.line d := by
  unfold line modifyLine
  rw [List.getElem?_modify]
  by_cases hdc : d = c
  · subst hdc
    by_cases hlt : d < x.lines.length
    · simp [hlt]
    · simp [hlt]
  · simp [hdc, Ne.symm hdc]

@[simp] theorem length_modifyLine (x : Exchange) (c : ChannelId) (f : Line → Line) :
    (x.modifyLine c f).lines.length = x.lines.length := by
  simp [modifyLine]

theorem upcoming_drawPush (x : Exchange) {c : ChannelId} (hc : c < x.lines.length) (k : Series) :
    (x.drawPush c).2.upcoming k = if k = .pushes c then x.upcoming k + 1 else x.upcoming k := by
  cases k with
  | channels => simp [upcoming, drawPush]
  | pushes d => by_cases h : d = c <;> simp_all [upcoming, drawPush, line_modifyLine]
  | bindings d => by_cases h : d = c <;> simp_all [upcoming, drawPush, line_modifyLine]

theorem upcoming_drawBinding (x : Exchange) {c : ChannelId} (hc : c < x.lines.length)
    (k : Series) :
    (x.drawBinding c).2.upcoming k = if k = .bindings c then x.upcoming k + 1 else x.upcoming k := by
  cases k with
  | channels => simp [upcoming, drawBinding]
  | pushes d => by_cases h : d = c <;> simp_all [upcoming, drawBinding, line_modifyLine]
  | bindings d => by_cases h : d = c <;> simp_all [upcoming, drawBinding, line_modifyLine]

theorem line_append (x : Exchange) (topic : String) (d : ChannelId) :
    (((x.lines ++ [Line.new topic])[d]?).getD (Line.new "")).nextPush = (x.line d).nextPush ∧
      (((x.lines ++ [Line.new topic])[d]?).getD (Line.new "")).nextBinding =
        (x.line d).nextBinding := by
  unfold line
  rw [List.getElem?_append]
  split
  · exact ⟨rfl, rfl⟩
  · rename_i hd
    rw [List.getElem?_eq_none (Nat.le_of_not_lt hd), List.getElem?_singleton]
    split <;> exact ⟨rfl, rfl⟩

/-- A new line leaves the numbers of all channels as they are. -/
theorem upcoming_append_line (x : Exchange) (topic : String) (k : Series) :
    ({ x with lines := x.lines ++ [Line.new topic] } : Exchange).upcoming k =
      if k = .channels then x.upcoming k + 1 else x.upcoming k := by
  cases k with
  | channels => simp [upcoming]
  | pushes d => simpa [upcoming, line] using (line_append x topic d).1
  | bindings d => simpa [upcoming, line] using (line_append x topic d).2

/-! ### Commands come to the queue -/

theorem post_eq (x : Exchange) (c : Command) :
    x.post c = if x.isOpen then { x with queue := x.queue ++ [c] } else x := by
  unfold post post?
  split <;> rfl

/-- A number is drawn, and a command that puts it to use is posted. -/
theorem evolves_post_drawn {x y : Exchange} {k : Series} {c : Command} (hd : y.drawn = x.drawn)
    (hr : y.refs = x.refs) (hq : y.queue = x.queue)
    (hu : ∀ k', y.upcoming k' = if k' = k then x.upcoming k' + 1 else x.upcoming k')
    (hc : ∀ k', c.number? k' = if k' = k then some (x.upcoming k') else none) :
    Evolves x (y.post c) := by
  have hle : ∀ k', x.upcoming k' ≤ y.upcoming k' := by
    intro k'
    rw [hu]
    split <;> omega
  rw [post_eq]
  split
  · refine Evolves.of_append [c] hd.ge (by simp [hd, hr]) (fun k' => hle k')
      (by simp [hq]) ?_ ?_
    · intro k' n hmem
      simp only [List.filterMap_cons, List.filterMap_nil, hc] at hmem
      by_cases hk : k' = k
      · simp only [hk, if_true, List.mem_singleton] at hmem
        have hup : ({ y with queue := y.queue ++ [c] } : Exchange).upcoming k = y.upcoming k := by
          cases k <;> rfl
        rw [hk, hup, hu, if_pos rfl]
        omega
      · simp [hk] at hmem
    · intro k'
      simp only [List.filterMap_cons, List.filterMap_nil, hc]
      by_cases hk : k' = k <;> simp [hk]
  · exact Evolves.of_append [] hd.ge (by simp [hd, hr]) hle (by simp [hq]) (by simp)
      (by simp)

theorem evolves_post {c : Command} (hc : c.IsPlain) (x : Exchange) : Evolves x (x.post c) := by
  rw [post_eq]
  split
  · refine Evolves.of_append [c] le_rfl id (fun k => by cases k <;> exact le_rfl) rfl ?_ ?_
    · intro k n hmem
      simp [hc k] at hmem
    · intro k
      simp [hc k]
  · exact .refl x

theorem evolves_drawRef (x : Exchange) : Evolves x x.drawRef.2 := by
  refine Evolves.of_append [] (Nat.le_succ _) ?_ (fun k => by cases k <;> exact le_rfl)
    (by simp [drawRef]) (by simp) (by simp)
  intro h
  simp [drawRef, RefGenerator.next, h, UInt64.ofNat_add]

theorem evolves_drawPush (x : Exchange) {c : ChannelId} (hc : c < x.lines.length) :
    Evolves x (x.drawPush c).2 := by
  refine Evolves.of_append [] le_rfl id ?_ (by simp [drawPush, modifyLine]) (by simp)
    (by simp)
  intro k
  rw [upcoming_drawPush x hc]
  split <;> omega

theorem evolves_drawBinding (x : Exchange) {c : ChannelId} (hc : c < x.lines.length) :
    Evolves x (x.drawBinding c).2 := by
  refine Evolves.of_append [] le_rfl id ?_ (by simp [drawBinding, modifyLine]) (by simp)
    (by simp)
  intro k
  rw [upcoming_drawBinding x hc]
  split <;> omega

/-- A number that was drawn just now is spent, and was not spent before. -/
theorem spent_drawPush {x : Exchange} (hx : x.Tidy) {c : ChannelId} (hc : c < x.lines.length) :
    (x.drawPush c).2.Spent (.pushes c) (x.drawPush c).1 ∧
      ¬ x.Spent (.pushes c) (x.drawPush c).1 ∧ (x.drawPush c).1 ≠ joinPush := by
  have hup : (x.drawPush c).1 = x.upcoming (.pushes c) := rfl
  rw [hup]
  refine ⟨⟨?_, ?_⟩, fun h => ?_, fun h => ?_⟩
  · rw [upcoming_drawPush x hc, if_pos rfl]
    exact Nat.lt_succ_self _
  · intro hmem
    exact Nat.lt_irrefl _ (hx.bounds _ _ hmem).2
  · exact Nat.lt_irrefl _ h.1
  · have := hx.first_le (.pushes c)
    rw [h] at this
    exact Nat.lt_irrefl _ this

theorem spent_drawBinding {x : Exchange} (hx : x.Tidy) {c : ChannelId} (hc : c < x.lines.length) :
    (x.drawBinding c).2.Spent (.bindings c) (x.drawBinding c).1 ∧
      ¬ x.Spent (.bindings c) (x.drawBinding c).1 := by
  have hup : (x.drawBinding c).1 = x.upcoming (.bindings c) := rfl
  rw [hup]
  refine ⟨⟨?_, ?_⟩, fun h => ?_⟩
  · rw [upcoming_drawBinding x hc, if_pos rfl]
    exact Nat.lt_succ_self _
  · intro hmem
    exact Nat.lt_irrefl _ (hx.bounds _ _ hmem).2
  · exact Nat.lt_irrefl _ h.1

/-- The numbers that each channel has from the start were never on their way. -/
theorem spent_of_lt_first {x : Exchange} (hx : x.Tidy) {k : Series} {n : Nat} (h : n < k.first) :
    x.Spent k n := by
  refine ⟨h.trans_le (hx.first_le k), fun hmem => ?_⟩
  have := (hx.bounds k n hmem).1
  omega

/-! ### Commands leave the queue -/

theorem evolves_next? {x y : Exchange} {c : Command} (h : x.next? = some (c, y)) :
    Evolves x y := by
  unfold next? at h
  split at h
  · cases h
  · rename_i c' rest hq
    cases h
    have hsub : ∀ k, ({ x with queue := rest } : Exchange).queued k <:+ x.queued k := by
      intro k
      simp only [queued, hq, List.filterMap_cons]
      split
      · exact List.suffix_rfl
      · exact List.suffix_cons _ _
    have hup : ∀ k, ({ x with queue := rest } : Exchange).upcoming k = x.upcoming k := by
      intro k
      cases k <;> rfl
    refine ⟨le_rfl, fun hx => ⟨hx.refs, fun k => (hx.first_le k).trans (hup k).ge, ?_, ?_⟩, ?_⟩
    · intro k n hmem
      rw [hup]
      exact hx.bounds k n ((hsub k).subset hmem)
    · intro k
      exact (hx.nodup k).sublist (hsub k).sublist
    · intro k n ⟨hlt, hnot⟩
      exact ⟨(hup k).symm ▸ hlt, fun hmem => hnot ((hsub k).subset hmem)⟩

/-- A command that is taken has its number, which nobody has used before, spent. -/
theorem spent_of_next? {x y : Exchange} {c : Command} (hx : x.Tidy) (h : x.next? = some (c, y))
    {k : Series} {n : Nat} (hn : c.number? k = some n) : y.Spent k n ∧ ¬ x.Spent k n := by
  unfold next? at h
  split at h
  · cases h
  · rename_i c' rest hq
    cases h
    have hqueued : x.queued k = n :: ({ x with queue := rest } : Exchange).queued k := by
      simp [queued, hq, hn]
    have hmem : n ∈ x.queued k := by simp [hqueued]
    have hnodup := hx.nodup k
    rw [hqueued, List.nodup_cons] at hnodup
    refine ⟨⟨?_, hnodup.1⟩, fun hs => hs.2 hmem⟩
    have := (hx.bounds k n hmem).2
    cases k <;> exact this

theorem evolves_shut (x : Exchange) : Evolves x x.shut := by
  have hup : ∀ k, x.shut.upcoming k = x.upcoming k := by
    intro k
    cases k <;> rfl
  refine ⟨le_rfl, fun hx => ⟨hx.refs, fun k => (hx.first_le k).trans (hup k).ge, ?_, ?_⟩, ?_⟩
  · intro k n hmem
    simp [queued, shut] at hmem
  · intro k
    simp [queued, shut]
  · intro k n ⟨hlt, _⟩
    exact ⟨(hup k).symm ▸ hlt, by simp [queued, shut]⟩

/-! ### What surrounds a socket -/

/-- What the holders of handles, the transports and the clock do to an exchange. -/
inductive Act : Exchange → Exchange → Prop
  /-- A request that needs no number, a report of a transport, or the firing of a timer. -/
  | post {c : Command} (plain : c.IsPlain) (x : Exchange) : Act x (x.post c)
  | drawRef (x : Exchange) : Act x x.drawRef.2
  | openChannel (x : Exchange) (topic : String) (params : Params) :
    Act x (x.openChannel topic params).2
  | join (x : Exchange) (c : ChannelId) (timeout : Nat) : Act x (x.join c timeout).2
  | push (x : Exchange) {c : ChannelId} (known : c < x.lines.length) (event : String)
    (payload : Payload) (timeout : Nat) : Act x (x.push c event payload timeout).2
  | leave (x : Exchange) {c : ChannelId} (known : c < x.lines.length) (timeout : Nat) :
    Act x (x.leave c timeout).2
  | bind (x : Exchange) {c : ChannelId} (known : c < x.lines.length) (event : String)
    (listener : Listener) : Act x (x.bind c event listener).2
  /-- Time passes, timers run down, and transports are listened to or no longer. -/
  | pass (x : Exchange) (now : Nat) (timers : Agenda TimerEvent) (attached : List TransportId) :
    Act x { x with now, timers, attached }

/-- Any number of acts. -/
abbrev Acts : Exchange → Exchange → Prop := Relation.ReflTransGen Act

theorem submit_snd {ε α : Type} (x : Exchange) (failure : ε) (result : α) (c : Command) :
    (x.submit failure result c).2 = x.post c := by
  unfold submit post
  cases x.post? c <;> rfl

theorem Act.evolves {x y : Exchange} (h : Act x y) : Evolves x y := by
  cases h with
  | post plain _ => exact evolves_post plain x
  | drawRef => exact evolves_drawRef x
  | openChannel _ topic params =>
    unfold Exchange.openChannel
    rw [submit_snd]
    refine evolves_post_drawn (k := .channels) rfl rfl rfl (upcoming_append_line x topic) ?_
    intro k
    by_cases hk : k = .channels <;> simp [Command.number?, hk, upcoming]
  | join _ c timeout =>
    unfold Exchange.join
    split
    · exact .refl x
    · unfold channelRequest
      rw [submit_snd]
      refine Evolves.trans ?_ (evolves_post (fun k => rfl) _)
      refine Evolves.of_append [] le_rfl id ?_ (by simp [modifyLine]) (by simp) (by simp)
      intro k
      cases k with
      | channels => simp [upcoming]
      | pushes d => simp only [upcoming, line_modifyLine]; split <;> simp_all
      | bindings d => simp only [upcoming, line_modifyLine]; split <;> simp_all
  | @push _ c known event payload timeout =>
    unfold Exchange.push
    split
    · exact .refl x
    · unfold channelRequest
      rw [submit_snd]
      refine evolves_post_drawn (k := .pushes c) rfl rfl rfl (upcoming_drawPush x known) ?_
      intro k
      by_cases hk : k = .pushes c <;> simp [Command.number?, hk, upcoming, drawPush]
  | @leave _ c known timeout =>
    unfold Exchange.leave channelRequest
    rw [submit_snd]
    refine evolves_post_drawn (k := .pushes c) rfl rfl rfl (upcoming_drawPush x known) ?_
    intro k
    by_cases hk : k = .pushes c <;> simp [Command.number?, hk, upcoming, drawPush]
  | @bind _ c known event listener =>
    unfold Exchange.bind channelRequest
    rw [submit_snd]
    refine evolves_post_drawn (k := .bindings c) rfl rfl rfl (upcoming_drawBinding x known) ?_
    intro k
    by_cases hk : k = .bindings c <;> simp [Command.number?, hk, upcoming, drawBinding]
  | pass _ now timers attached => exact Evolves.of_eq rfl rfl rfl rfl

theorem Acts.evolves {x y : Exchange} (h : Acts x y) : Evolves x y := by
  induction h with
  | refl => exact .refl x
  | tail _ act ih => exact ih.trans act.evolves

theorem tidy_new : Exchange.new.Tidy where
  refs := rfl
  first_le k := by cases k <;> simp [Series.first, upcoming, line, new, Line.new]
  bounds k n h := by simp [queued, new] at h
  nodup k := by simp [queued, new]

/-! ### Refs -/

/-- A ref was drawn. -/
def Drew (x : Exchange) (r : Ref) : Prop :=
  ∃ n, 0 < n ∧ n ≤ x.drawn ∧ r = RefGenerator.text (UInt64.ofNat n)

theorem Evolves.drew {x y : Exchange} (h : Evolves x y) {r : Ref} (hr : x.Drew r) : y.Drew r := by
  obtain ⟨n, hpos, hle, rfl⟩ := hr
  exact ⟨n, hpos, hle.trans h.drawn_le, rfl⟩

theorem text_injective {m n : UInt64} (h : RefGenerator.text m = RefGenerator.text n) : m = n := by
  have hdigits : digitChars m.toNat = digitChars n.toNat := String.ofList_injective h
  have hread := congrArg (Nat.ofDigitChars 10 · 0) hdigits
  simp only [digitChars, Nat.ofDigitChars_ten_toDigits] at hread
  exact UInt64.toNat_inj.mp hread

theorem fst_drawRef {x : Exchange} (hx : x.Tidy) :
    x.drawRef.1 = RefGenerator.text (UInt64.ofNat (x.drawn + 1)) := by
  simp [drawRef, RefGenerator.next, hx.refs, UInt64.ofNat_add]

theorem drew_drawRef {x : Exchange} (hx : x.Tidy) : x.drawRef.2.Drew x.drawRef.1 :=
  ⟨x.drawn + 1, Nat.succ_pos _, le_rfl, fst_drawRef hx⟩

/-- As long as the counter has not gone round, a ref that is drawn is fresh. -/
theorem not_drew_drawRef {x : Exchange} (hx : x.Tidy) (hb : x.drawRef.2.drawn < 2 ^ 64) :
    ¬ x.Drew x.drawRef.1 := by
  rintro ⟨n, _, hle, heq⟩
  rw [fst_drawRef hx] at heq
  have hb' : x.drawn + 1 < 2 ^ 64 := hb
  have htoNat := congrArg UInt64.toNat (text_injective heq)
  rw [UInt64.toNat_ofNat_of_lt' hb', 
    UInt64.toNat_ofNat_of_lt' (Nat.lt_of_le_of_lt hle (Nat.lt_of_succ_lt hb'))] at htoNat
  omega

end Exchange

end Switchboard
