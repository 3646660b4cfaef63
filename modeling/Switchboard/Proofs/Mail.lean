import Switchboard.Proofs.Callers
import Switchboard.Proofs.Postage

/-!
# What becomes of mails

Each message that a socket accepts is a letter, with a number that says how many were accepted before
it.  Letters leave in mailings: one letter at once, as it is accepted over an open connection, or all
that wait.  A ledger of a run keeps the mailings in their order, the letters that wait, and those that
were forgotten.  It is kept chore by chore, so each mailing belongs to an instant of the run.

Letters leave in their order, but for one case.  Whether a letter leaves at once is decided by the state
of the transport, and those that wait leave only when the socket takes the report that the transport has
opened.  A letter that is accepted in between overtakes those that wait.

Main definitions

* `Socket.Instant`, `Socket.During`: a state between two chores of a command of a run;
* `Socket.Mailing`: letters that leave at an instant, or are forgotten there;
* `Socket.Ledger`, `Socket.Books`: an account of all letters.

Main results

* `Socket.Books.chore`: a chore keeps the books;
* `Socket.no_message_lost`: each letter has one fate;
* `Socket.sent_in_turn`: the order in which letters leave.
-/

set_option autoImplicit false

namespace Switchboard

namespace Socket

variable {ω : Type}

/-! ### Instants of a run -/

/-- A state that a socket goes through while it carries out a command, and the state in which it began
the command. -/
structure Instant (ω : Type) where
  start : Socket ω
  command : Command
  now : Socket ω

/-- A socket takes a command from its queue, or is given up. -/
inductive Takes (s : Socket ω) : Command → Socket ω → Prop
  | next {cmd : Command} {x : Exchange} (next : s.exchange.next? = some (cmd, x)) :
    Takes s cmd { s with exchange := x }
  | abandon : Takes s .shutdown s

section Outside

variable [Outside ω] {allows : Socket ω → Exchange → ω → Prop} {s₀ s t : Socket ω}
variable {cmds cmds' : List Command} {i : Instant ω}

/-- An instant of a course: the course has led to the command, chores have led to the instant, other
chores complete the command, and the rest of the course follows. -/
def During (allows : Socket ω → Exchange → ω → Prop) (s₀ : Socket ω) (cmds : List Command)
    (s : Socket ω) (i : Instant ω) : Prop :=
  ∃ (before after : List Command) (u : Socket ω),
    Course allows s₀ before u ∧ Takes u i.command i.start ∧
    Chores i.start i.command i.start i.now ∧
    Chores i.start i.command i.now (i.start.handle i.command) ∧
    Course allows (i.start.handle i.command) after s ∧ cmds = before ++ i.command :: after

/-- An instant of a course is an instant of each longer one. -/
theorem During.extend (h : During allows s₀ cmds s i) (hcourse : Course allows s cmds' t) :
    During allows s₀ (cmds ++ cmds') t i := by
  obtain ⟨before, after, u, hbefore, htakes, hled, hleads, hafter, rfl⟩ := h
  exact ⟨before, after ++ cmds', u, hbefore, htakes, hled, hleads, hafter.trans hcourse, by simp⟩

/-- What is reached by chores of the command that comes next is an instant. -/
theorem during_command {u start : Socket ω} {cmd : Command} (hcourse : Course allows s₀ cmds u)
    (htakes : Takes u cmd start) {now : Socket ω} (hled : Chores start cmd start now)
    (hleads : Chores start cmd now (start.handle cmd)) :
    During allows s₀ (cmds ++ [cmd]) (start.handle cmd) ⟨start, cmd, now⟩ :=
  ⟨cmds, [], u, hcourse, htakes, hled, hleads, .start, rfl⟩

end Outside

/-! ### Mailings -/

/-- A message, and how many were accepted before it. -/
abbrev Letter : Type := Message × Nat

/-- Letters that leave together, or are forgotten together, and the instant when that happens. -/
structure Mailing (ω : Type) where
  instant : Instant (Watched ω)
  letters : List Letter

namespace Mailing

/-- What it takes to hand the letters over. -/
def calls (p : Mailing ω) : List Call := p.letters.flatMap fun l => p.instant.now.postage l.1

variable [Outside ω]

/-- A letter leaves as it is accepted, since the connection is open. -/
def AtOnce (p : Mailing ω) : Prop :=
  ∃ sender m, p.letters = [(m, p.instant.now.accepted.length)] ∧
    (p.instant.now.perform (.accept sender m)).isConnected = true

/-- All letters that wait leave over an open connection, in the order in which they were accepted. -/
structure Flushes (p : Mailing ω) : Prop where
  connected : p.instant.now.isConnected = true
  buffer : p.letters.map Prod.fst = p.instant.now.sendBuffer
  inOrder : p.letters.Pairwise fun a b => a.2 < b.2

/-- All letters that wait are forgotten: the socket ends, or another kind of transport takes the place of
its own. -/
structure Forgets (p : Mailing ω) : Prop where
  buffer : p.letters.map Prod.fst = p.instant.now.sendBuffer
  cause : p.instant.command = .shutdown ∨ Supplants p.instant.start p.instant.command

/-- A letter leaves at once while another one waits that was accepted before it. -/
def Overtakes (p : Mailing ω) (b : Letter) : Prop :=
  p.AtOnce ∧ b.1 ∈ p.instant.now.sendBuffer ∧ ∀ a ∈ p.letters, b.2 < a.2

/-- The letters of a mailing were accepted before some others, unless they overtake them. -/
def Precedes (p : Mailing ω) (bs : List Letter) : Prop :=
  ∀ a ∈ p.letters, ∀ b ∈ bs, a.2 < b.2 ∨ p.Overtakes b

end Mailing

/-! ### Books -/

/-- An account of letters: the mailings that have left, the letters that wait, and the mailings that
were forgotten. -/
structure Ledger (ω : Type) where
  posted : List (Mailing ω)
  waiting : List Letter
  dropped : List (Mailing ω)

/-- Nothing was accepted. -/
def Ledger.blank (ω : Type) : Ledger ω := ⟨[], [], []⟩

/-- The letters that have left, in their order. -/
def Ledger.sent (l : Ledger ω) : List Letter := l.posted.flatMap Mailing.letters

/-- All letters of a ledger. -/
def Ledger.letters (l : Ledger ω) : List Letter :=
  l.sent ++ (l.waiting ++ l.dropped.flatMap Mailing.letters)

section Outside

variable [Outside ω]

/-- A ledger accounts for all that a socket has accepted and handed over, by mailings of certain
instants. -/
structure Books (among : Instant (Watched ω) → Prop) (s : Socket (Watched ω)) (l : Ledger ω) :
    Prop where
  /-- Each message that was accepted is in one place, once. -/
  accounted : l.letters.Perm s.accepted.zipIdx
  /-- What was handed over is what the mailings took, mailing by mailing. -/
  handedOver : s.handedOver = l.posted.flatMap Mailing.calls
  posted : ∀ p ∈ l.posted, among p.instant ∧ (p.AtOnce ∨ p.Flushes)
  dropped : ∀ p ∈ l.dropped, among p.instant ∧ p.Forgets
  waitingInOrder : l.waiting.Pairwise fun a b => a.2 < b.2
  postedInTurn : l.posted.Pairwise fun p q => p.Precedes q.letters
  postedFirst : ∀ p ∈ l.posted, p.Precedes l.waiting

variable {among among' : Instant (Watched ω) → Prop} {w s t : Socket (Watched ω)} {cmd : Command}
variable {l : Ledger ω} {m : Message}

theorem Books.mono (h : Books among s l) (hle : ∀ i, among i → among' i) : Books among' s l :=
  { h with
    posted := fun p hp => ⟨hle _ (h.posted p hp).1, (h.posted p hp).2⟩
    dropped := fun p hp => ⟨hle _ (h.dropped p hp).1, (h.dropped p hp).2⟩ }

theorem Books.of_eq (h : Books among s l) (haccepted : t.accepted = s.accepted)
    (hhanded : t.handedOver = s.handedOver) : Books among t l :=
  { h with
    accounted := haccepted ▸ h.accounted
    handedOver := hhanded ▸ h.handedOver }

omit [Outside ω] in
theorem Ledger.mem_letters {a : Letter} : a ∈ l.letters ↔
    (∃ p ∈ l.posted, a ∈ p.letters) ∨ a ∈ l.waiting ∨ ∃ p ∈ l.dropped, a ∈ p.letters := by
  simp [letters, sent]

/-- The number of a letter is below the number of all that were accepted. -/
theorem Books.lt_length (h : Books among s l) {a : Letter} (ha : a ∈ l.letters) :
    a.2 < s.accepted.length := by
  obtain ⟨m, n⟩ := a
  have hmem := h.accounted.mem_iff.mp ha
  have := List.snd_lt_add_of_mem_zipIdx hmem
  simpa using this

omit [Outside ω] in
/-- A letter that waits is in the buffer. -/
theorem mem_sendBuffer (hbuffer : s.sendBuffer = l.waiting.map Prod.fst) {b : Letter}
    (hb : b ∈ l.waiting) : b.1 ∈ s.sendBuffer := by
  rw [hbuffer]
  exact List.mem_map_of_mem hb

/-- The letter that is accepted next has the next number. -/
theorem accounted_next (h : Books among s l) (haccepted : t.accepted = s.accepted ++ [m])
    {letters : List Letter} (hperm : letters.Perm (l.letters ++ [(m, s.accepted.length)])) :
    letters.Perm t.accepted.zipIdx := by
  rw [haccepted, List.zipIdx_append]
  refine hperm.trans (h.accounted.append_right _ |>.trans (.of_eq ?_))
  simp

/-- A letter is accepted over an open connection. -/
theorem Books.atOnce (h : Books among s l) (hbuffer : s.sendBuffer = l.waiting.map Prod.fst)
    (hnow : among ⟨w, cmd, s⟩) {sender : Sender}
    (hconnected : (s.perform (.accept sender m)).isConnected = true) :
    Books among (s.pushMessage sender m)
      { l with posted := l.posted ++ [⟨⟨w, cmd, s⟩, [(m, s.accepted.length)]⟩] } := by
  obtain ⟨hcalls, -⟩ := pushMessage_of_connected hconnected
  obtain ⟨hnone, hpostal⟩ := filter_postages s [m]
  rw [List.flatMap_singleton] at hnone hpostal
  have hatOnce : Mailing.AtOnce ⟨⟨w, cmd, s⟩, [(m, s.accepted.length)]⟩ :=
    ⟨sender, m, rfl, hconnected⟩
  have hovertakes : ∀ b ∈ l.waiting, Mailing.Overtakes ⟨⟨w, cmd, s⟩, [(m, s.accepted.length)]⟩ b := by
    refine fun b hb => ⟨hatOnce, mem_sendBuffer hbuffer hb, fun a ha => ?_⟩
    rw [List.mem_singleton.mp ha]
    exact h.lt_length (Ledger.mem_letters.mpr (.inr (.inl hb)))
  have haccepted : (s.pushMessage sender m).accepted = s.accepted ++ [m] := by
    rw [accepted_of_calls hcalls, List.filterMap_cons, hnone]
    rfl
  constructor
  case accounted =>
    refine accounted_next h haccepted ?_
    simp only [Ledger.letters, Ledger.sent, List.flatMap_append, List.flatMap_singleton,
      List.append_assoc]
    refine List.Perm.append_left _ ?_
    rw [← List.append_assoc l.waiting]
    exact List.perm_append_comm
  case handedOver =>
    rw [handedOver_of_calls hcalls, List.filter_cons, hpostal, h.handedOver, List.flatMap_append,
      List.flatMap_singleton]
    simp [Call.isPostal, Mailing.calls]
  case posted =>
    exact List.forall_mem_append.mpr ⟨h.posted, List.forall_mem_singleton.mpr ⟨hnow, .inl hatOnce⟩⟩
  case dropped => exact h.dropped
  case waitingInOrder => exact h.waitingInOrder
  case postedInTurn =>
    -- All letters so far were accepted before this one.
    refine List.pairwise_append.mpr ⟨h.postedInTurn, List.pairwise_singleton _ _, ?_⟩
    intro p hp q hq a ha b hb
    rw [List.mem_singleton.mp hq, List.mem_singleton] at hb
    rw [hb]
    exact .inl (h.lt_length (Ledger.mem_letters.mpr (.inl ⟨p, hp, ha⟩)))
  case postedFirst =>
    refine List.forall_mem_append.mpr ⟨h.postedFirst, List.forall_mem_singleton.mpr ?_⟩
    exact fun _ _ b hb => .inr (hovertakes b hb)

/-- A letter is accepted without an open connection. -/
theorem Books.later (h : Books among s l) {sender : Sender}
    (hconnected : ¬ (s.perform (.accept sender m)).isConnected = true) :
    Books among (s.pushMessage sender m)
      { l with waiting := l.waiting ++ [(m, s.accepted.length)] } := by
  obtain ⟨hcalls, -⟩ := pushMessage_of_not_connected hconnected
  constructor
  case accounted =>
    refine accounted_next h (accepted_of_calls hcalls) ?_
    simp only [Ledger.letters, Ledger.sent, List.append_assoc]
    exact List.Perm.append_left _ (List.Perm.append_left _ List.perm_append_comm)
  case handedOver =>
    rw [handedOver_of_calls hcalls, ← h.handedOver]
    simp [Call.isPostal]
  case posted => exact h.posted
  case dropped => exact h.dropped
  case waitingInOrder =>
    refine List.pairwise_append.mpr ⟨h.waitingInOrder, List.pairwise_singleton _ _, ?_⟩
    intro a ha b hb
    rw [List.mem_singleton.mp hb]
    exact h.lt_length (Ledger.mem_letters.mpr (.inr (.inl ha)))
  case postedInTurn => exact h.postedInTurn
  case postedFirst =>
    intro p hp a ha
    refine List.forall_mem_append.mpr ⟨h.postedFirst p hp a ha, List.forall_mem_singleton.mpr ?_⟩
    exact .inl (h.lt_length (Ledger.mem_letters.mpr (.inl ⟨p, hp, ha⟩)))

/-- All letters that wait are sent. -/
theorem Books.flush (h : Books among s l) (hbuffer : s.sendBuffer = l.waiting.map Prod.fst)
    (hnow : among ⟨w, cmd, s⟩) (hready : (!s.isConnected || s.sendBuffer.isEmpty) = false) :
    Books among s.flush { l with posted := l.posted ++ [⟨⟨w, cmd, s⟩, l.waiting⟩], waiting := [] } := by
  obtain ⟨hcalls, -⟩ := calls_flush hready
  obtain ⟨hnone, hpostal⟩ := filter_postages s s.sendBuffer
  have hconnected : s.isConnected = true := by
    cases hs : s.isConnected
    · simp [hs] at hready
    · rfl
  constructor
  case accounted =>
    rw [accepted_of_calls hcalls, hnone, List.append_nil]
    refine List.Perm.trans (.of_eq ?_) h.accounted
    simp [Ledger.letters, Ledger.sent]
  case handedOver =>
    rw [handedOver_of_calls hcalls, hpostal, h.handedOver, List.flatMap_append,
      List.flatMap_singleton, hbuffer, List.flatMap_map]
    rfl
  case posted =>
    refine List.forall_mem_append.mpr ⟨h.posted, List.forall_mem_singleton.mpr ⟨hnow, .inr ?_⟩⟩
    exact ⟨hconnected, hbuffer.symm, h.waitingInOrder⟩
  case dropped => exact h.dropped
  case waitingInOrder => exact .nil
  case postedInTurn =>
    refine List.pairwise_append.mpr ⟨h.postedInTurn, List.pairwise_singleton _ _, ?_⟩
    intro p hp q hq
    rw [List.mem_singleton.mp hq]
    exact h.postedFirst p hp
  case postedFirst => exact fun p _ a _ b hb => nomatch hb

/-- All letters that wait are forgotten. -/
theorem Books.forget (h : Books among s l) {p : Mailing ω} (hletters : p.letters = l.waiting)
    (hp : among p.instant ∧ p.Forgets) :
    Books among s { l with waiting := [], dropped := l.dropped ++ [p] } := by
  constructor
  case accounted =>
    refine List.Perm.trans ?_ h.accounted
    simp only [Ledger.letters, Ledger.sent, List.flatMap_append, List.flatMap_singleton, hletters,
      List.nil_append]
    exact List.Perm.append_left _ List.perm_append_comm
  case handedOver => exact h.handedOver
  case posted => exact h.posted
  case dropped => exact List.forall_mem_append.mpr ⟨h.dropped, List.forall_mem_singleton.mpr hp⟩
  case waitingInOrder => exact .nil
  case postedInTurn => exact h.postedInTurn
  case postedFirst => exact fun p _ a _ b hb => nomatch hb

/-- A chore keeps the books of a socket that has not ended. -/
theorem Books.chore (h : Books among s l) (hbuffer : s.sendBuffer = l.waiting.map Prod.fst)
    (hnow : among ⟨w, cmd, s⟩) (hchore : Chore w cmd s t) :
    ∃ l', Books among t l' ∧ t.sendBuffer = l'.waiting.map Prod.fst := by
  cases hchore.mail with
  | mute mute =>
    exact ⟨l, h.of_eq mute.accepted mute.handedOver, mute.sendBuffer.trans hbuffer⟩
  | push sender m =>
    by_cases hconnected : (s.perform (.accept sender m)).isConnected = true
    · obtain ⟨-, hkept⟩ := pushMessage_of_connected hconnected
      exact ⟨_, h.atOnce hbuffer hnow hconnected, hkept.trans hbuffer⟩
    · obtain ⟨-, hkept⟩ := pushMessage_of_not_connected hconnected
      refine ⟨_, h.later hconnected, hkept.trans ?_⟩
      rw [hbuffer, List.map_append]
      rfl
  | flush =>
    cases hready : !s.isConnected || s.sendBuffer.isEmpty
    · exact ⟨_, h.flush hbuffer hnow hready, (calls_flush hready).2⟩
    · rw [flush_of_idle hready]
      exact ⟨l, h, hbuffer⟩
  | forget supplants accepted handedOver sendBuffer =>
    refine ⟨_, (h.forget (p := ⟨⟨w, cmd, s⟩, l.waiting⟩) rfl ⟨hnow, ?_⟩).of_eq accepted handedOver,
      sendBuffer⟩
    exact ⟨hbuffer.symm, .inr supplants⟩

/-- Chores that lead through certain instants keep the books of these instants. -/
theorem Books.chores (h : Books among s l) (hbuffer : s.sendBuffer = l.waiting.map Prod.fst)
    (hled : Chores w cmd w s) (hleads : Chores w cmd s t)
    (hamong : ∀ u, Chores w cmd w u → Chores w cmd u t → among ⟨w, cmd, u⟩) :
    ∃ l', Books among t l' ∧ t.sendBuffer = l'.waiting.map Prod.fst := by
  induction hleads using Relation.ReflTransGen.head_induction_on generalizing l with
  | refl => exact ⟨l, h, hbuffer⟩
  | head chore rest ih =>
    obtain ⟨l₁, h₁, hbuffer₁⟩ := h.chore hbuffer (hamong _ hled (.head chore rest)) chore
    exact ih h₁ hbuffer₁ (hled.tail chore)

/-! ### Runs -/

/-- Surroundings may act on what they share with the socket, and become what they like, as long as they
know what they were asked. -/
abbrev KeepsMail (s : Socket (Watched ω)) (x : Exchange) (w : Watched ω) : Prop :=
  s.exchange.Acts x ∧ w.calls = s.calls

/-- A command that is taken keeps the books; a socket that ends forgets all letters that wait. -/
theorem Books.handle {s₀ u start : Socket (Watched ω)} {cmds : List Command}
    (h : Books (During KeepsMail s₀ cmds u) u l) (hbuffer : u.sendBuffer = l.waiting.map Prod.fst)
    (hcourse : Course KeepsMail s₀ cmds u) (htakes : Takes u cmd start) :
    ∃ l', Books (During KeepsMail s₀ (cmds ++ [cmd]) (start.handle cmd)) (start.handle cmd) l' ∧
      ((start.handle cmd).sendBuffer = l'.waiting.map Prod.fst ∧ cmd ≠ .shutdown ∨
        l'.waiting = [] ∧ cmd = .shutdown) := by
  have hstep : Course KeepsMail u [cmd] (start.handle cmd) := by
    cases htakes with
    | next next => exact .take .start next
    | abandon => exact .abandon .start
  have hsame : start.calls = u.calls ∧ start.sendBuffer = u.sendBuffer := by
    cases htakes <;> exact ⟨rfl, rfl⟩
  have hstart : Books (During KeepsMail s₀ (cmds ++ [cmd]) (start.handle cmd)) start l :=
    (h.mono fun i hi => hi.extend hstep).of_eq
      (congrArg (List.filterMap Call.accepted?) hsame.1)
      (congrArg (List.filter Call.isPostal) hsame.1)
  -- Each chore on the way to the end of the command is an instant of the longer course.
  obtain ⟨l₁, h₁, hbuffer₁⟩ := hstart.chores (w := start) (hsame.2.trans hbuffer) .refl
    (chores_handle start cmd) fun v hled hleads => during_command hcourse htakes hled hleads
  by_cases hcmd : cmd = .shutdown
  -- The buffer of a socket that ends is never looked at again.
  · have hend := during_command hcourse htakes (chores_handle start cmd) .refl
    refine ⟨_, h₁.forget (p := ⟨⟨start, cmd, start.handle cmd⟩, l₁.waiting⟩) rfl ⟨hend, ?_⟩,
      .inr ⟨rfl, hcmd⟩⟩
    exact ⟨hbuffer₁.symm, .inl hcmd⟩
  · exact ⟨l₁, h₁, .inl ⟨hbuffer₁, hcmd⟩⟩

end Outside

end Socket

/-! ### After the end -/

namespace Exchange

/-- Commands are no longer taken, and none is left. -/
structure Over (x : Exchange) : Prop where
  closed : x.isOpen = false
  empty : x.queue = []

variable {x y : Exchange}

theorem Over.post (h : x.Over) (cmd : Command) : (x.post cmd).Over := by
  have hclosed : x.post? cmd = none := by simp [post?, h.closed]
  simpa [Exchange.post, hclosed] using h

theorem Act.over (h : Act x y) (hx : x.Over) : y.Over := by
  have hmodified : ∀ (c : ChannelId) (f : Line → Line), (x.modifyLine c f).Over :=
    fun _ _ => ⟨hx.closed, hx.empty⟩
  cases h with
  | post plain => exact hx.post _
  | drawRef => exact ⟨hx.closed, hx.empty⟩
  | openChannel _ topic params =>
    unfold Exchange.openChannel
    rw [submit_snd]
    have hadded : ({ x with lines := x.lines ++ [Line.new topic] } : Exchange).Over :=
      ⟨hx.closed, hx.empty⟩
    exact hadded.post _
  | join _ c timeout =>
    unfold Exchange.join
    split
    · exact hx
    · unfold channelRequest
      rw [submit_snd]
      exact (hmodified c _).post _
  | push known event payload timeout =>
    unfold Exchange.push
    split
    · exact hx
    · unfold channelRequest
      rw [submit_snd]
      exact (hmodified _ _).post _
  | leave known timeout =>
    unfold Exchange.leave channelRequest
    rw [submit_snd]
    exact (hmodified _ _).post _
  | bind known event listener =>
    unfold Exchange.bind channelRequest
    rw [submit_snd]
    exact (hmodified _ _).post _
  | pass now timers attached => exact ⟨hx.closed, hx.empty⟩

theorem Acts.over (h : Acts x y) (hx : x.Over) : y.Over := by
  induction h with
  | refl => exact hx
  | tail _ act ih => exact act.over ih

theorem over_shut (x : Exchange) : x.shut.Over := ⟨rfl, rfl⟩

end Exchange

namespace Socket

variable {ω : Type} [Outside ω] {s s₀ : Socket (Watched ω)} {cmds : List Command} {l : Ledger ω}

/-- The end of a socket does nothing to mails. -/
theorem mute_shutdown (s : Socket (Watched ω)) :
    s.shutdown.accepted = s.accepted ∧ s.shutdown.handedOver = s.handedOver := by
  obtain ⟨es, hcalls, hes⟩ := calls_shutdown s
  have hsilent : ∀ call ∈ es.map Call.effect, call.accepted? = none ∧ call.isPostal = false := by
    intro call hcall
    obtain ⟨e, he, rfl⟩ := List.mem_map.mp hcall
    have := hes e he
    cases e <;> first | exact ⟨rfl, rfl⟩ | cases this
  constructor
  · rw [accepted_of_calls hcalls, List.append_right_eq_self, List.filterMap_eq_nil_iff]
    exact fun call hcall => (hsilent call hcall).1
  · rw [handedOver_of_calls hcalls, List.append_right_eq_self, List.filter_eq_nil_iff]
    exact fun call hcall => by simp [(hsilent call hcall).2]

/-- The letters that wait are those in the buffer; when a socket has ended, none waits. -/
def Tallies (s : Socket (Watched ω)) (cmds : List Command) (l : Ledger ω) : Prop :=
  (Command.shutdown ∉ cmds ∧ s.sendBuffer = l.waiting.map Prod.fst) ∨
    (Command.shutdown ∈ cmds ∧ l.waiting = [])

/-- The books of a course are kept from its start. -/
theorem Course.books (h : Course KeepsMail s₀ cmds s) (hcalls : s₀.calls = [])
    (hbuffer : s₀.sendBuffer = []) :
    ∃ l, Books (During KeepsMail s₀ cmds s) s l ∧ s.Tallies cmds l ∧
      (Command.shutdown ∈ cmds → s.exchange.Over) := by
  induction h with
  | start =>
    refine ⟨.blank ω, ?_, .inl ⟨by simp, hbuffer⟩, by simp⟩
    constructor
    · simp [Ledger.letters, Ledger.sent, Ledger.blank, accepted, hcalls]
    · simp [Ledger.blank, handedOver, hcalls]
    all_goals simp [Ledger.blank]
  | @surroundings cmds t x w before allowed ih =>
    obtain ⟨l, hbooks, htallies, hover⟩ := ih
    refine ⟨l, ?_, htallies, fun hends => Exchange.Acts.over allowed.1 (hover hends)⟩
    refine (hbooks.mono fun i hi => ?_).of_eq (congrArg (List.filterMap Call.accepted?) allowed.2)
      (congrArg (List.filter Call.isPostal) allowed.2)
    have hlonger := hi.extend (.surroundings .start allowed)
    rwa [List.append_nil] at hlonger
  | @take cmds t cmd x before next ih =>
    obtain ⟨l, hbooks, ⟨hopen, hbuffer'⟩ | ⟨hends, -⟩, hover⟩ := ih
    · obtain ⟨l', hbooks', ⟨hkept, hcmd⟩ | ⟨hnone, rfl⟩⟩ := hbooks.handle hbuffer' before (.next next)
      · have hopen' : Command.shutdown ∉ cmds ++ [cmd] := by
          simp [hopen, Ne.symm hcmd]
        exact ⟨l', hbooks', .inl ⟨hopen', hkept⟩, fun hends => absurd hends hopen'⟩
      · exact ⟨l', hbooks', .inr ⟨by simp, hnone⟩, fun _ => Exchange.over_shut _⟩
    -- There is nothing to take when the socket has ended.
    · have hempty := (hover hends).empty
      simp [Exchange.next?, hempty] at next
  | @abandon cmds t before ih =>
    obtain ⟨l, hbooks, ⟨hopen, hbuffer'⟩ | ⟨hends, hnone⟩, hover⟩ := ih
    · obtain ⟨l', hbooks', ⟨-, hcmd⟩ | ⟨hnone, -⟩⟩ := hbooks.handle hbuffer' before .abandon
      · exact absurd rfl hcmd
      · exact ⟨l', hbooks', .inr ⟨by simp, hnone⟩, fun _ => Exchange.over_shut _⟩
    · obtain ⟨haccepted, hhanded⟩ := mute_shutdown t
      refine ⟨l, ?_, .inr ⟨by simp, hnone⟩, fun _ => Exchange.over_shut _⟩
      exact (hbooks.mono fun i hi => hi.extend (.abandon .start)).of_eq haccepted hhanded

theorem shutdown_not_mem (h : cmds.any endsSocket = false) : Command.shutdown ∉ cmds := by
  intro hmem
  have hany : cmds.any endsSocket = true := List.any_eq_true.mpr ⟨_, hmem, rfl⟩
  rw [h] at hany
  cases hany

/-- A script that can be played is a course on which mails are kept. -/
theorem keepsMail_of_follow? {s₀ t : Socket (Watched Idle)} {deeds : List Deed}
    (h : s₀.follow? anyhow watching deeds = some (cmds, t)) : Course KeepsMail s₀ cmds t :=
  course_of_follow? (fun hacts _ => ⟨hacts, rfl⟩) (fun _ _ => ⟨.refl, rfl⟩) h

/-! ### Fates -/

/-- Over an open connection a letter takes one frame for the transport of the connection, or one report
to each of the user's error callbacks. -/
theorem postage_of_connected {u : Socket ω} (h : u.isConnected = true) (m : Message) :
    ∃ c, u.conn = some c ∧
      ((∃ frame, c.serializer.encode m = .ok frame ∧
          u.postage m = [.effect (.send c.transport frame)]) ∨
        ∃ cause, c.serializer.encode m = .error cause ∧
          u.postage m = u.callbacks.userErrors.map fun callback => .error callback (.codec cause)) := by
  cases hconn : u.conn with
  | none => simp [isConnected, readyState, hconn] at h
  | some c =>
    refine ⟨c, rfl, ?_⟩
    cases hencode : c.serializer.encode m with
    | ok frame => exact .inl ⟨frame, rfl, by simp only [postage, hconn, hencode]⟩
    | error cause => exact .inr ⟨cause, rfl, by simp only [postage, hconn, hencode]⟩

/-- A letter that leaves is handed to the transport of the connection, or reported as one that cannot be
encoded. -/
theorem Mailing.postage_of_mem {p : Mailing ω} (h : p.AtOnce ∨ p.Flushes) (m : Message) :
    ∃ c, p.instant.now.conn = some c ∧
      ((∃ frame, c.serializer.encode m = .ok frame ∧
          p.instant.now.postage m = [.effect (.send c.transport frame)]) ∨
        ∃ cause, c.serializer.encode m = .error cause ∧ p.instant.now.postage m =
          p.instant.now.callbacks.userErrors.map fun callback => .error callback (.codec cause)) := by
  rcases h with ⟨sender, m', -, hconnected⟩ | flushes
  · exact postage_of_connected hconnected m
  · exact postage_of_connected flushes.connected m

/-- No message is lost, and none is sent twice.  At all times each letter is in one place of a ledger,
once.  Either it has left at an instant of the run when the connection was open: then it was handed to
the transport of that connection, or each of the user's error callbacks heard once that it could not be
encoded.  Or it waits in the send buffer.  Or it was forgotten with all that waited, as the socket ended
or another kind of transport took the place of its own.  What was handed over is what these mailings
took, and letters that leave the buffer together leave in the order in which they entered it. -/
theorem no_message_lost {endpoint : String} {config : Config} {factory : Factory} {outside : ω}
    (h : Course KeepsMail (Socket.new endpoint config factory ⟨outside, []⟩) cmds s) :
    ∃ l : Ledger ω,
      l.letters.Perm s.accepted.zipIdx ∧ l.letters.Nodup ∧
      s.handedOver = l.posted.flatMap Mailing.calls ∧
      (∀ p ∈ l.posted,
        During KeepsMail (Socket.new endpoint config factory ⟨outside, []⟩) cmds s p.instant ∧
        (p.AtOnce ∨ p.Flushes) ∧
        ∀ a ∈ p.letters, ∃ c, p.instant.now.conn = some c ∧
          ((∃ frame, c.serializer.encode a.1 = .ok frame ∧
              p.instant.now.postage a.1 = [.effect (.send c.transport frame)]) ∨
            ∃ cause, c.serializer.encode a.1 = .error cause ∧ p.instant.now.postage a.1 =
              p.instant.now.callbacks.userErrors.map fun callback =>
                .error callback (.codec cause))) ∧
      (∀ p ∈ l.dropped,
        During KeepsMail (Socket.new endpoint config factory ⟨outside, []⟩) cmds s p.instant ∧
        p.Forgets) ∧
      s.Tallies cmds l := by
  obtain ⟨l, books, htallies, -⟩ := h.books rfl rfl
  refine ⟨l, books.accounted, ?_, books.handedOver, fun p hp => ?_, books.dropped, htallies⟩
  · refine books.accounted.nodup_iff.mpr (List.Nodup.of_map Prod.snd ?_)
    rw [List.zipIdx_map_snd]
    exact List.nodup_range'
  · obtain ⟨hduring, hleaves⟩ := books.posted p hp
    exact ⟨hduring, hleaves, fun a _ => Mailing.postage_of_mem hleaves a.1⟩

/-- Two letters wait for the connection, and leave when it has opened; a third one waits for the next. -/
def flushing : List Deed :=
  [.connect, .take, .createChannel "room:1", .take, .join 0 10000, .take,
    .createChannel "room:2", .take, .join 1 10000, .take, .report 0 .opened, .become ⟨.open, 0⟩, .take,
    .become ⟨.closed, 0⟩, .leave 0 10000, .take]

/-- Three letters are in one place each: two were handed over, and one waits. -/
theorem no_message_lost_flushing : ∃ (cmds : List Command) (s : Socket (Watched Idle))
    (l : Ledger Idle), Course KeepsMail watched cmds s ∧
    s.accepted.map Message.event = [Event.join, Event.join, Event.leave] ∧
    s.handedOver.length = 2 ∧ s.sendBuffer.map Message.event = [Event.leave] ∧
    l.letters.Perm s.accepted.zipIdx ∧ s.handedOver = l.posted.flatMap Mailing.calls ∧
    s.sendBuffer = l.waiting.map Prod.fst := by
  obtain ⟨⟨cmds, s⟩, hplay, hview⟩ := Option.map_eq_some_iff.mp
    (show (watched.follow? anyhow watching flushing).map (fun r =>
        (r.1.any endsSocket, r.2.accepted.map Message.event, r.2.handedOver.length,
          r.2.sendBuffer.map Message.event)) =
      some (false, [Event.join, Event.join, Event.leave], 2, [Event.leave]) by cbv)
  simp only [Prod.mk.injEq] at hview
  obtain ⟨hends, haccepted, hhanded, hbuffer⟩ := hview
  have hcourse : Course KeepsMail watched cmds s := keepsMail_of_follow? hplay
  obtain ⟨l, hperm, -, hmailings, -, -, ⟨-, hwaiting⟩ | ⟨hshut, -⟩⟩ := no_message_lost hcourse
  · exact ⟨cmds, s, l, hcourse, haccepted, hhanded, hbuffer, hperm, hmailings, hwaiting⟩
  · exact absurd hshut (shutdown_not_mem hends)

/-! ### Order -/

/-- Letters that do not overtake others leave in their order. -/
theorem Books.sent_pairwise {among : Instant (Watched ω) → Prop} (h : Books among s l)
    (hnever : ∀ p ∈ l.posted, p.AtOnce → p.instant.now.sendBuffer = []) :
    l.sent.Pairwise fun a b => a.2 < b.2 := by
  refine List.pairwise_flatMap.mpr ⟨fun p hp => ?_, ?_⟩
  · rcases (h.posted p hp).2 with ⟨sender, m, hletters, -⟩ | flushes
    · rw [hletters]
      exact List.pairwise_singleton _ _
    · exact flushes.inOrder
  · refine h.postedInTurn.imp_of_mem fun {p q} hp hq hprecedes a ha b hb => ?_
    rcases hprecedes a ha b hb with hlt | ⟨hatOnce, hwaits, -⟩
    · exact hlt
    · rw [hnever p hp hatOnce] at hwaits
      cases hwaits

/-- The order in which letters leave.  A ledger accounts for all letters of a run; of two mailings the
earlier one has the letters that were accepted earlier, unless it is one letter that left as it was
accepted, over an open connection, while those of the later mailing still waited in the send buffer.  If
no letter is accepted over an open connection while others wait, all letters leave in the order in which
they were accepted. -/
theorem sent_in_turn {endpoint : String} {config : Config} {factory : Factory} {outside : ω}
    (h : Course KeepsMail (Socket.new endpoint config factory ⟨outside, []⟩) cmds s) :
    ∃ l : Ledger ω,
      Books (During KeepsMail (Socket.new endpoint config factory ⟨outside, []⟩) cmds s) s l ∧
      s.Tallies cmds l ∧
      l.posted.Pairwise (fun p q => ∀ a ∈ p.letters, ∀ b ∈ q.letters, a.2 < b.2 ∨ p.Overtakes b) ∧
      ((∀ p ∈ l.posted, p.AtOnce → p.instant.now.sendBuffer = []) →
        l.sent.Pairwise fun a b => a.2 < b.2) := by
  obtain ⟨l, books, htallies, -⟩ := h.books rfl rfl
  exact ⟨l, books, htallies, books.postedInTurn, books.sent_pairwise⟩

/-- A channel joins while the transport is opening; it leaves when that has opened, but before the
socket is told so. -/
def hasty : List Deed :=
  [.connect, .take, .createChannel "room:1", .take, .join 0 10000, .take,
    .leave 0 10000, .report 0 .opened, .become ⟨.open, 0⟩, .take]

/-- The leave has left, while the join that was accepted before it still waits. -/
theorem sent_in_turn_hasty : ∃ (cmds : List Command) (s : Socket (Watched Idle)) (l : Ledger Idle),
    Course KeepsMail watched cmds s ∧
    s.accepted.map Message.event = [Event.join, Event.leave] ∧ s.handedOver.length = 1 ∧
    s.sendBuffer.map Message.event = [Event.join] ∧ s.Tallies cmds l ∧
    l.posted.Pairwise (fun p q => ∀ a ∈ p.letters, ∀ b ∈ q.letters, a.2 < b.2 ∨ p.Overtakes b) := by
  obtain ⟨⟨cmds, s⟩, hplay, hview⟩ := Option.map_eq_some_iff.mp
    (show (watched.follow? anyhow watching hasty).map (fun r =>
        (r.2.accepted.map Message.event, r.2.handedOver.length, r.2.sendBuffer.map Message.event)) =
      some ([Event.join, Event.leave], 1, [Event.join]) by cbv)
  simp only [Prod.mk.injEq] at hview
  obtain ⟨haccepted, hhanded, hbuffer⟩ := hview
  have hcourse : Course KeepsMail watched cmds s := keepsMail_of_follow? hplay
  obtain ⟨l, -, htallies, hturn, -⟩ := sent_in_turn hcourse
  exact ⟨cmds, s, l, hcourse, haccepted, hhanded, hbuffer, htallies, hturn⟩

end Socket

end Switchboard
