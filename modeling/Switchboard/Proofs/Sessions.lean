import Switchboard.Proofs.Errands
import Switchboard.Proofs.Scripts
import Switchboard.Proofs.Traffic

/-!
# A socket on long-poll transports

Every transport that a socket opens is a long-poll one.  Its two tasks go on by themselves, and what they
report comes to the queue of the socket.  What the socket asks of a transport is done at once.

A transport lives as long as it is the one of the connection.  All others are over: they were closed or
given up.  Their polling tasks may not have looked yet, so each of them may make one more poll, and after
that none.

Main definitions

* `LongPoll.poll?`: the poll that a turn of a transport makes;
* `Polled`: surroundings with long-poll transports, the polls that these made, and what they posted;
* `Socket.Flow`, `Socket.Flows`: what happens to a socket and to its transports;
* `LongPoll.Ages`, `Polled.Matures`, `Polled.Evolves`: what transports cannot undo;
* `Socket.Solitary`: all transports are over but the one of the connection.

Main results

* `LongPoll.ages_of_turn?`: every turn has a transport age;
* `Socket.spans_handle`: by a command no transport comes to live beside the one of the connection, and none
  makes a poll;
* `Socket.Flows.solitary`: at all times every transport is over but the one of the connection.
-/

set_option autoImplicit false

namespace Switchboard

namespace LongPoll

variable {l m n : LongPoll} {t : Turn} {events : List TransportEvent} {r : HttpRequest}

/-! ### Polls and age -/

/-- The poll that a turn makes: a request without a body. -/
def poll? (l : LongPoll) (turn : Turn) : Option HttpRequest :=
  (l.request? turn).filter (·.body.isNone)

/-- A transport that is over stays over, and a polling task that has ended polls no more.  Once the
transport is over, the task makes no second poll. -/
structure Ages (l m : LongPoll) : Prop where
  ceased : l.cancelled = true → m.cancelled = true
  ended : l.poll = .ended → m.poll = .ended
  begun : l.cancelled = true → l.poll ≠ .idle → m.poll ≠ .idle

theorem Ages.refl (l : LongPoll) : l.Ages l := ⟨id, id, fun _ => id⟩

theorem Ages.trans (h : l.Ages m) (h' : m.Ages n) : l.Ages n where
  ceased hover := h'.ceased (h.ceased hover)
  ended hended := h'.ended (h.ended hended)
  begun hover hbegun := h'.begun (h.ceased hover) (h.begun hover hbegun)

/-- A task of a transport that is over is about to make a poll only if it was so before. -/
theorem Ages.idle (h : l.Ages m) (hover : l.cancelled = true) (hm : m.poll = .idle) : l.poll = .idle := by
  by_contra hbegun
  exact h.begun hover hbegun hm

theorem ages_of_poll_eq (hover : l.cancelled = true → m.cancelled = true) (hpoll : m.poll = l.poll) :
    l.Ages m := ⟨hover, fun h => hpoll.trans h, fun _ h => hpoll ▸ h⟩

/-- Every turn has a transport age. -/
theorem ages_of_turn? (h : l.turn? t = some (events, m)) : l.Ages m := by
  have hover : l.cancelled = true → m.cancelled = true := by
    intro hl
    simp [cancelled_of_turn? h, hl]
  cases work_of_turn? h with
  | asks hturn hidle hrequest =>
    refine ⟨hover, fun hended => ?_, fun _ hbegun => absurd hidle hbegun⟩
    rw [hidle] at hended
    cases hended
  | @pollEnds result m hwaiting hpoll hdeliver houtbound =>
    refine ⟨hover, fun hended => ?_, fun hl _ => ?_⟩
    · rw [hwaiting] at hended
      cases hended
    · obtain ⟨-, heq⟩ := by simpa [turn?] using h
      simp only [pollAnswered, hl, if_true, endPoll, Prod.mk.injEq] at heq
      rw [← heq.2]
      simp
  | pollQuits => exact ⟨hover, fun _ => rfl, fun _ _ => by simp⟩
  | leaves hturn hpoll => exact ages_of_poll_eq hover hpoll
  | postEnds hwaiting hdeliver hpoll => exact ages_of_poll_eq hover hpoll
  | _ => exact ages_of_poll_eq hover rfl

/-- A poll is made by a task that waits for nothing, and then it waits. -/
theorem idle_of_poll? (h : l.turn? t = some (events, m)) (hpoll : l.poll? t = some r) :
    l.poll = .idle ∧ m.poll = .waiting := by
  obtain ⟨hrequest, hbody⟩ := Option.filter_eq_some_iff.mp hpoll
  cases work_of_turn? h with
  | asks hturn hidle => exact ⟨hidle, rfl⟩
  | takes hturn hidle houtbound hmade =>
    rw [hmade] at hrequest
    cases hrequest
    cases hbody
  | leaves hturn =>
    rw [(leaves_idle hturn).1] at hrequest
    cases hrequest
  | _ => cases hrequest

/-- The socket makes no polls. -/
theorem poll?_of_not_task (h : ¬t.OfTask) : l.poll? t = none := by
  cases t with
  | sends | closes | abandons => rfl
  | _ => exact absurd trivial h

/-- A transport that posts a close was not over, and is. -/
theorem over_of_close (h : l.turn? t = some (events, m)) {event : CloseEvent}
    (hclose : .closed event ∈ events) : l.cancelled = false ∧ m.cancelled = true := by
  cases effect_of_turn? h with
  | stays hready hcancelled hturn hevents => exact absurd trivial (hevents _ hclose).1
  | opens => simp at hclose
  | ends event hlive hfailures hready hcancelled => exact ⟨hlive, hcancelled⟩
  | closesAgain => cases hclose
  | abandoned => cases hclose

theorem cancelled_of_leaves (hturn : t.leaves = true) (h : l.turn? t = some (events, m)) :
    m.cancelled = true := by
  simp [cancelled_of_turn? h, Entry.isLast, hturn]

end LongPoll

/-! ### Long-poll transports around a socket -/

/-- Surroundings in which every transport is a long-poll one, with the polls that were made and the events
that were posted to the socket. -/
structure Polled (ω : Type) where
  outside : ω
  transports : Table LongPoll
  polls : List (TransportId × HttpRequest)
  posted : List (TransportId × TransportEvent)

namespace Polled

variable {ω : Type}

/-- Someone goes on with a transport; what that posts comes to the queue. -/
def go? (p : Polled ω) (t : TransportId) (turn : LongPoll.Turn) (x : Exchange) :
    Option (Exchange × Polled ω) :=
  match p.transports.get? t with
  | none => none
  | some l => (l.turn? turn).map fun r =>
    (r.1.foldl (fun x event => x.emit t event) x,
      { p with
        transports := p.transports.set t r.2
        polls := p.polls ++ (l.poll? turn).toList.map fun request => (t, request)
        posted := p.posted ++ r.1.map fun event => (t, event) })

/-- What an effect makes of the transports. -/
def obey (p : Polled ω) (e : Effect) (x : Exchange) : Exchange × Polled ω :=
  match e with
  | .open r => (x, { p with transports := p.transports.set r.transport (.new r.url r.timeout) })
  | .send t frame => (p.go? t (.sends frame) x).getD (x, p)
  | .close t code reason => (p.go? t (.closes code reason) x).getD (x, p)
  | .release t => (p.go? t .abandons x).getD (x, p)
  | _ => (x, p)

instance [Outside ω] : Outside (Polled ω) where
  readyState p t := ((p.transports.get? t).map LongPoll.ready).getD .closed
  buffered _ _ := 0
  perform e x p :=
    let (x, o) := Outside.perform e x p.outside
    { p with outside := o }.obey e x
  hook callback event payload ref x p :=
    let (result, x, o) := Outside.hook callback event payload ref x p.outside
    (result, x, { p with outside := o })
  runError callback failure context x p :=
    let (context, x, o) := Outside.runError callback failure context x p.outside
    (context, x, { p with outside := o })

/-! ### What becomes of the transports -/

/-- A transport has posted a close. -/
def Closed (p : Polled ω) (t : TransportId) (event : CloseEvent) : Prop := (t, .closed event) ∈ p.posted

/-- A transport that has posted a close is over. -/
def Candid (p : Polled ω) : Prop :=
  ∀ ⦃t event⦄, p.Closed t event → ∃ l, p.transports.get? t = some l ∧ l.cancelled = true

/-- No transport was opened, and those that there are have aged: one that was over has posted no close. -/
structure Matures (p q : Polled ω) : Prop where
  ages : ∀ ⦃t l⦄, p.transports.get? t = some l → ∃ m, q.transports.get? t = some m ∧ l.Ages m
  known : ∀ ⦃t m⦄, q.transports.get? t = some m → ∃ l, p.transports.get? t = some l
  candid : p.Candid → q.Candid
  last : ∀ ⦃t l⦄, p.transports.get? t = some l → l.cancelled = true →
    ∀ ⦃event⦄, q.Closed t event → p.Closed t event

/-- Besides, no poll was made. -/
structure Evolves (p q : Polled ω) : Prop extends Matures p q where
  polls : q.polls = p.polls

variable {p q u : Polled ω} {t : TransportId} {x y : Exchange} {turn : LongPoll.Turn} {l m : LongPoll}

theorem Matures.of_eq (h : q.transports = p.transports) (hposted : q.posted = p.posted) :
    p.Matures q where
  ages _ l hl := ⟨l, h ▸ hl, .refl l⟩
  known _ m hm := ⟨m, h ▸ hm⟩
  candid hp t event hclosed := by
    rw [h]
    exact hp (show (t, .closed event) ∈ p.posted from hposted ▸ hclosed)
  last t _ _ _ event hclosed := show (t, .closed event) ∈ p.posted from hposted ▸ hclosed

theorem Matures.trans (h : p.Matures q) (h' : q.Matures u) : p.Matures u where
  ages t l hl := by
    obtain ⟨m, hm, hages⟩ := h.ages hl
    obtain ⟨n, hn, hages'⟩ := h'.ages hm
    exact ⟨n, hn, hages.trans hages'⟩
  known t n hn := by
    obtain ⟨m, hm⟩ := h'.known hn
    exact h.known hm
  candid hp := h'.candid (h.candid hp)
  last t l hl hover event hclosed := by
    obtain ⟨m, hm, hages⟩ := h.ages hl
    exact h.last hl hover (h'.last hm (hages.ceased hover) hclosed)

/-- A transport that is over stays over. -/
theorem Matures.ceased (h : p.Matures q)
    (hover : ∀ l, p.transports.get? t = some l → l.cancelled = true)
    (hm : q.transports.get? t = some m) : m.cancelled = true := by
  obtain ⟨l, hl⟩ := h.known hm
  obtain ⟨m', hm', hages⟩ := h.ages hl
  rw [hm] at hm'
  cases hm'
  exact hages.ceased (hover l hl)

theorem Evolves.of_eq (htransports : q.transports = p.transports) (hpolls : q.polls = p.polls)
    (hposted : q.posted = p.posted) : p.Evolves q := ⟨.of_eq htransports hposted, hpolls⟩

theorem Evolves.refl (p : Polled ω) : p.Evolves p := .of_eq rfl rfl rfl

theorem Evolves.trans (h : p.Evolves q) (h' : q.Evolves u) : p.Evolves u :=
  ⟨h.toMatures.trans h'.toMatures, h'.polls.trans h.polls⟩

theorem go?_of_turn? {r : List TransportEvent × LongPoll} (hl : p.transports.get? t = some l)
    (hturn : l.turn? turn = some r) (x : Exchange) :
    p.go? t turn x = some (r.1.foldl (fun x event => x.emit t event) x,
      { p with
        transports := p.transports.set t r.2
        polls := p.polls ++ (l.poll? turn).toList.map fun request => (t, request)
        posted := p.posted ++ r.1.map fun event => (t, event) }) := by
  simp only [go?, hl, hturn, Option.map_some]

/-- Someone goes on with a transport: all others are left alone. -/
theorem go?_eq_some (h : p.go? t turn x = some (y, q)) : ∃ l events m,
    p.transports.get? t = some l ∧ l.turn? turn = some (events, m) ∧
    y = events.foldl (fun x event => x.emit t event) x ∧
    q.transports = p.transports.set t m ∧
    q.polls = p.polls ++ (l.poll? turn).toList.map (fun request => (t, request)) ∧
    q.posted = p.posted ++ events.map fun event => (t, event) := by
  unfold go? at h
  split at h
  · cases h
  · rename_i l hl
    obtain ⟨⟨events, m⟩, hturn, heq⟩ := Option.map_eq_some_iff.mp h
    cases heq
    exact ⟨l, events, m, hl, hturn, rfl, rfl, rfl, rfl⟩

/-- One transport ages; it posts a close only if it was not over. -/
theorem matures_go? (h : p.go? t turn x = some (y, q)) : p.Matures q := by
  obtain ⟨l, events, m, hl, hturn, -, htransports, -, hposted⟩ := go?_eq_some h
  have hages := LongPoll.ages_of_turn? hturn
  have hself : q.transports.get? t = some m := by rw [htransports, Table.get?_set_self]
  have hothers : ∀ ⦃t'⦄, t' ≠ t → q.transports.get? t' = p.transports.get? t' := by
    intro t' ht
    rw [htransports, Table.get?_set_of_ne _ ht]
  have hclosed : ∀ ⦃t' event⦄, q.Closed t' event →
      p.Closed t' event ∨ t' = t ∧ l.cancelled = false ∧ m.cancelled = true := by
    intro t' event hmem
    unfold Closed at hmem
    rw [hposted, List.mem_append] at hmem
    refine hmem.imp_right fun hmem => ?_
    obtain ⟨event', hevent, heq⟩ := List.mem_map.mp hmem
    obtain ⟨rfl, rfl⟩ := Prod.mk.inj heq
    exact ⟨rfl, LongPoll.over_of_close hturn hevent⟩
  refine ⟨fun t' l' hl' => ?_, fun t' m' hm' => ?_, fun hp t' event hmem => ?_,
    fun t' l' hl' hover event hmem => ?_⟩
  · by_cases ht : t' = t
    · subst ht
      obtain rfl : l = l' := Option.some_inj.mp (hl.symm.trans hl')
      exact ⟨m, hself, hages⟩
    · exact ⟨l', (hothers ht).trans hl', .refl l'⟩
  · by_cases ht : t' = t
    · exact ⟨l, ht ▸ hl⟩
    · exact ⟨m', (hothers ht).symm.trans hm'⟩
  · rcases hclosed hmem with hbefore | ⟨rfl, -, hover⟩
    · obtain ⟨l', hl', hover⟩ := hp hbefore
      by_cases ht : t' = t
      · subst ht
        obtain rfl : l = l' := Option.some_inj.mp (hl.symm.trans hl')
        exact ⟨m, hself, hages.ceased hover⟩
      · exact ⟨l', (hothers ht).trans hl', hover⟩
    · exact ⟨m, hself, hover⟩
  · rcases hclosed hmem with hbefore | ⟨rfl, hlive, -⟩
    · exact hbefore
    · obtain rfl : l = l' := Option.some_inj.mp (hl.symm.trans hl')
      rw [hlive] at hover
      cases hover

/-- The socket asks something of a transport. -/
theorem evolves_go? (hturn : ¬turn.OfTask) (p : Polled ω) (t : TransportId) (x : Exchange) :
    p.Evolves ((p.go? t turn x).getD (x, p)).2 := by
  cases hgo : p.go? t turn x with
  | none => exact .refl p
  | some r =>
    obtain ⟨l, events, m, -, -, -, -, hpolls, -⟩ := go?_eq_some hgo
    rw [LongPoll.poll?_of_not_task hturn] at hpolls
    exact ⟨matures_go? hgo, hpolls.trans (List.append_nil _)⟩

/-- A transport that the socket closes or gives up is over. -/
theorem over_go? (hturn : turn.leaves = true)
    (hm : ((p.go? t turn x).getD (x, p)).2.transports.get? t = some m) : m.cancelled = true := by
  cases hgo : p.go? t turn x with
  | none =>
    rw [hgo] at hm
    obtain ⟨r, hr⟩ : ∃ r, m.turn? turn = some r := by
      cases turn with
      | closes | abandons => exact ⟨_, rfl⟩
      | _ => cases hturn
    simp only [Option.getD_none] at hm
    simp [go?, hm, hr] at hgo
  | some r =>
    obtain ⟨l, events, m', hl, htaken, -, htransports, -, -⟩ := go?_eq_some hgo
    rw [hgo, Option.getD_some, htransports, Table.get?_set_self] at hm
    cases hm
    exact LongPoll.cancelled_of_leaves hturn htaken

section Outside

variable [Outside ω]

/-- Only an effect that opens a transport brings one. -/
theorem evolves_perform {e : Effect} (he : ∀ request, e ≠ .open request) (x : Exchange) (p : Polled ω) :
    p.Evolves (Outside.perform e x p).2 := by
  set o := (Outside.perform e x p.outside).2 with ho
  have hobeys : p.Evolves { p with outside := o } := .of_eq rfl rfl rfl
  refine hobeys.trans ?_
  cases e with
  | «open» request => exact absurd rfl (he request)
  | send => exact evolves_go? id _ _ _
  | close => exact evolves_go? id _ _ _
  | release => exact evolves_go? id _ _ _
  | _ => exact .refl _

end Outside

end Polled

namespace Socket

variable {ω : Type}

/-- The transports of a socket and the polls that they made. -/
def polled (s : Socket (Recorded (Polled ω))) : Polled ω := s.outside.outside

/-- A transport that the socket has opened. -/
def longPoll? (s : Socket (Recorded (Polled ω))) (t : TransportId) : Option LongPoll :=
  s.polled.transports.get? t

/-- The polls that were made so far, each by a transport. -/
def polls (s : Socket (Recorded (Polled ω))) : List (TransportId × HttpRequest) := s.polled.polls

variable {s t u : Socket (Recorded (Polled ω))} {cmd : Command} {c : Connection}

/-- All transports are over but the one of the connection, those that have posted a close are over, and the
next one will be a new one. -/
structure Solitary (s : Socket (Recorded (Polled ω))) : Prop where
  known : ∀ ⦃t l⦄, s.longPoll? t = some l → t < s.nextTransport
  ceased : ∀ ⦃t l⦄, s.longPoll? t = some l → (∀ c, s.conn = some c → c.transport ≠ t) → l.cancelled = true
  candid : s.polled.Candid

theorem Solitary.of_matures (h : s.Solitary) (hconn : t.conn = s.conn)
    (hnext : t.nextTransport = s.nextTransport) (hmatures : s.polled.Matures t.polled) : t.Solitary where
  known t' m hm := by
    obtain ⟨l, hl⟩ := hmatures.known hm
    exact hnext ▸ h.known hl
  ceased t' m hm hnot := hmatures.ceased (fun l hl => h.ceased hl (hconn ▸ hnot)) hm
  candid := hmatures.candid h.candid

/-- The connection goes, and its transport is over. -/
theorem Solitary.part (h : s.Solitary) (hc : s.conn = some c)
    (hnext : t.nextTransport = s.nextTransport) (hevolves : s.polled.Evolves t.polled)
    (hover : ∀ l, t.longPoll? c.transport = some l → l.cancelled = true) : t.Solitary where
  known t' m hm := by
    obtain ⟨l, hl⟩ := hevolves.known hm
    exact hnext ▸ h.known hl
  ceased t' m hm _ := by
    by_cases ht : t' = c.transport
    · subst ht
      exact hover m hm
    · refine hevolves.ceased (fun l hl => h.ceased hl fun c' hc' => ?_) hm
      rw [hc] at hc'
      cases hc'
      exact Ne.symm ht
  candid := hevolves.candid h.candid

section Outside

variable [Outside ω]

/-! ### Errands -/

/-- What a command does to the transports: no poll is made, none is younger than it was, those that were over
post no close, and the new ones have new numbers. -/
structure Spans (s t : Socket (Recorded (Polled ω))) : Prop where
  solitary : t.Solitary
  polls : t.polls = s.polls
  next : s.nextTransport ≤ t.nextTransport
  ages : ∀ ⦃t' l⦄, s.longPoll? t' = some l → ∃ m, t.longPoll? t' = some m ∧ l.Ages m
  known : ∀ ⦃t' m⦄, t.longPoll? t' = some m → t' < s.nextTransport → ∃ l, s.longPoll? t' = some l
  last : ∀ ⦃t' l⦄, s.longPoll? t' = some l → l.cancelled = true →
    ∀ ⦃event⦄, t.polled.Closed t' event → s.polled.Closed t' event

omit [Outside ω] in
theorem Spans.of_evolves (hsolitary : t.Solitary) (hnext : t.nextTransport = s.nextTransport)
    (h : s.polled.Evolves t.polled) : Spans s t where
  solitary := hsolitary
  polls := h.polls
  next := hnext.ge
  ages := h.ages
  known _ _ hm _ := h.known hm
  last := h.last

omit [Outside ω] in
theorem Spans.trans (h : Spans s t) (h' : Spans t u) : Spans s u where
  solitary := h'.solitary
  polls := h'.polls.trans h.polls
  next := h.next.trans h'.next
  ages t' l hl := by
    obtain ⟨m, hm, hages⟩ := h.ages hl
    obtain ⟨n, hn, hages'⟩ := h'.ages hm
    exact ⟨n, hn, hages.trans hages'⟩
  known t' n hn hlt := by
    obtain ⟨m, hm⟩ := h'.known hn (hlt.trans_le h.next)
    exact h.known hm hlt
  last t' l hl hover event hclosed := by
    obtain ⟨m, hm, hages⟩ := h.ages hl
    exact h.last hl hover (h'.last hm (hages.ceased hover) hclosed)

theorem tended_perform (s : Socket (Recorded (Polled ω))) {e : Effect}
    (he : ∀ request, e ≠ .open request) : s.polled.Evolves (s.perform e).polled :=
  Polled.evolves_perform he s.exchange s.polled

theorem tended_performAll (s : Socket (Recorded (Polled ω))) {es : List Effect}
    (hes : ∀ e ∈ es, ∀ request, e ≠ .open request) : s.polled.Evolves (s.performAll es).polled := by
  induction es generalizing s with
  | nil => exact .refl _
  | cons e es ih =>
    refine (tended_perform s (hes e List.mem_cons_self)).trans (ih (s.perform e) fun e' he' => ?_)
    exact hes e' (List.mem_cons_of_mem _ he')

theorem Stroke.evolves {about : ChannelId → Prop} (h : Stroke about s t) :
    s.polled.Evolves t.polled := by
  cases h with
  | aside aside =>
    rw [polled, polled, aside.outside]
    exact .refl _
  | perform among heard =>
    refine tended_perform s ?_
    rintro request rfl
    cases among.calm
  | hook | error => exact .of_eq rfl rfl rfl
  | _ => exact .refl _

/-- A transport is opened under a new number. -/
theorem spans_openTransport (h : s.Solitary) (hvacant : s.conn = none) (url : String) :
    Spans s (s.openTransport url) := by
  set l : LongPoll := .new url s.config.longPollTimeout with hl
  have hget : ∀ t', (s.openTransport url).longPoll? t' =
      if t' = s.nextTransport then some l else s.longPoll? t' :=
    fun t' => Table.get?_set s.polled.transports s.nextTransport t' l
  have hold : ∀ ⦃t' m⦄, (s.openTransport url).longPoll? t' = some m → t' ≠ s.nextTransport →
      s.longPoll? t' = some m := by
    intro t' m hm hne
    rwa [hget, if_neg hne] at hm
  have hstays : ∀ ⦃t' m⦄, s.longPoll? t' = some m → (s.openTransport url).longPoll? t' = some m := by
    intro t' m hm
    rw [hget, if_neg (h.known hm).ne, hm]
  refine ⟨⟨fun t' m hm => ?_, fun t' m hm hnot => ?_, fun t' event hclosed => ?_⟩, rfl,
    Nat.le_succ _, fun t' m hm => ⟨m, hstays hm, .refl m⟩, fun t' m hm hlt => ⟨m, hold hm hlt.ne⟩,
    fun _ _ _ _ _ => id⟩
  · by_cases ht : t' = s.nextTransport
    · exact ht ▸ Nat.lt_succ_self _
    · exact (h.known (hold hm ht)).trans (Nat.lt_succ_self _)
  · have ht : t' ≠ s.nextTransport := fun ht => hnot _ rfl ht.symm
    refine h.ceased (hold hm ht) fun c hc => ?_
    rw [hvacant] at hc
    cases hc
  · obtain ⟨m, hm, hover⟩ := h.candid hclosed
    exact ⟨m, hstays hm, hover⟩

/-- By an errand no transport comes to live beside the one of the connection. -/
theorem Errand.spans {k k' : Custody (Recorded (Polled ω))} (h : Errand k k')
    (hk : k.socket.Solitary) : Spans k.socket k'.socket := by
  have hkept : ∀ {v : Socket (Recorded (Polled ω))}, v.conn = k.socket.conn →
      v.nextTransport = k.socket.nextTransport → k.socket.polled.Evolves v.polled →
      Spans k.socket v := fun hconn hnext hevolves =>
    .of_evolves (hk.of_matures hconn hnext hevolves.toMatures) hnext hevolves
  cases h with
  | stroke stroke => exact hkept stroke.conn.1 stroke.conn.2 stroke.evolves
  | @beside hand s t beside =>
    refine hkept beside.conn beside.nextTransport ?_
    simp only [polled, beside.outside]
    exact .refl _
  | sorts | takes | begins => exact hkept rfl rfl (.refl _)
  | tells => exact hkept rfl rfl (tended_perform _ nofun)
  | opens vacant url => exact spans_openTransport hk vacant url
  | @drops hand s c conn =>
    have hevolves := tended_perform ({ s with conn := none }.detach c.transport)
      (e := .release c.transport) nofun
    exact .of_evolves (hk.part conn rfl hevolves fun l hl => Polled.over_go? rfl hl) rfl hevolves
  | @parts hand s c conn =>
    have hevolves := tended_perform ({ s with conn := none }.detach c.transport)
      (e := .close c.transport none none) nofun
    exact .of_evolves (hk.part conn rfl hevolves fun l hl => Polled.over_go? rfl hl) rfl hevolves
  | asks => exact hkept rfl rfl (tended_perform _ nofun)
  | prunes => exact hkept rfl rfl (tended_perform _ nofun)

theorem Errands.spans {k k' : Custody (Recorded (Polled ω))} (h : Errands k k')
    (hk : k.socket.Solitary) : Spans k.socket k'.socket := by
  induction h with
  | refl => exact .of_evolves hk rfl (.refl _)
  | tail _ errand ih => exact ih.trans (errand.spans ih.solitary)

/-! ### Commands -/

/-- When a socket ends, all transports are over. -/
theorem spans_shutdown (h : s.Solitary) : Spans s s.shutdown := by
  have hretired : ∀ (l : List Connection) (v : Socket (Recorded (Polled ω))),
      v.polled.Evolves (l.foldl abandonRetired v).polled := by
    intro l
    induction l with
    | nil => exact fun v => .refl _
    | cons c l ih =>
      exact fun v => (tended_perform (v.detach c.transport) (e := .release c.transport) nofun).trans
        (ih (v.abandonRetired c))
  set s₁ : Socket (Recorded (Polled ω)) := { s with teardown := none }.clearHeartbeats.resetReconnect
  have hs : s₁.Solitary := h.of_matures rfl rfl (.of_eq rfl rfl)
  have hparted : Spans s₁ s₁.abandonConnection ∧ s₁.abandonConnection.conn = none ∧
      s₁.abandonConnection.nextTransport = s.nextTransport := by
    unfold abandonConnection
    split
    · rename_i hvacant
      exact ⟨.of_evolves hs rfl (.refl _), hvacant, rfl⟩
    · rename_i c hc
      have hopens : ∀ e ∈ [Effect.close c.transport (some CloseEvent.normalCode) none,
          .release c.transport], ∀ request, e ≠ .open request := by simp
      have hevolves := tended_performAll ({ s₁ with conn := none }.detach c.transport) hopens
      exact ⟨.of_evolves (hs.part hc rfl hevolves fun l hl => Polled.over_go? rfl hl) rfl hevolves,
        rfl, rfl⟩
  obtain ⟨hspans, hvacant, hsame⟩ := hparted
  obtain ⟨hgone, -, hnext⟩ := vacant_shutdown s
  have hevolves : s₁.abandonConnection.polled.Evolves s.shutdown.polled :=
    hretired s₁.abandonConnection.retired { s₁.abandonConnection with retired := [] }
  have hlast : s.shutdown.Solitary := hspans.solitary.of_matures (hgone.trans hvacant.symm)
    (hnext.trans hsame.symm) hevolves.toMatures
  have hfirst : Spans s s₁ := .of_evolves hs rfl (.refl _)
  exact hfirst.trans (hspans.trans (.of_evolves hlast (hnext.trans hsame.symm) hevolves))

/-- By a command no transport comes to live beside the one of the connection, and none makes a poll. -/
theorem spans_handle (h : s.Solitary) (cmd : Command) : Spans s (s.handle cmd) := by
  by_cases hcmd : cmd = .shutdown
  · subst hcmd
    exact spans_shutdown h
  · exact (errands_handle s hcmd).spans h

/-! ### Runs -/

omit [Outside ω] in
/-- What reports do to the exchange is what transports may do. -/
theorem acts_emits (x : Exchange) (t : TransportId) (events : List TransportEvent) :
    x.Acts (events.foldl (fun x event => x.emit t event) x) := by
  induction events generalizing x with
  | nil => exact .refl
  | cons event rest ih =>
    refine Relation.ReflTransGen.trans ?_ (ih (x.emit t event))
    unfold Exchange.emit
    split
    · exact .single (.post (fun _ => rfl) x)
    · exact .refl

/-- A socket with another exchange and with transports that have gone on. -/
def around (s : Socket (Recorded (Polled ω))) (x : Exchange) (p : Polled ω) :
    Socket (Recorded (Polled ω)) := { s with exchange := x, outside := ⟨p, s.log, s.dealings⟩ }

/-- What may happen next to a socket and its transports, where only some commands are admitted. -/
inductive Flow (admits : Socket (Recorded (Polled ω)) → Command → Prop) :
    Socket (Recorded (Polled ω)) → Socket (Recorded (Polled ω)) → Prop
  /-- Handles and the clock act, and the rest of the surroundings changes. -/
  | surroundings {s : Socket (Recorded (Polled ω))} {x : Exchange} (acts : s.exchange.Acts x) (o : ω) :
    Flow admits s (s.around x { s.polled with outside := o })
  /-- A task of a transport goes on. -/
  | turn {s : Socket (Recorded (Polled ω))} {t : TransportId} {turn : LongPoll.Turn} {x : Exchange}
    {p : Polled ω} (task : turn.OfTask) (goes : s.polled.go? t turn s.exchange = some (x, p)) :
    Flow admits s (s.around x p)
  /-- The socket takes the first command of its queue. -/
  | take {s : Socket (Recorded (Polled ω))} {cmd : Command} {x : Exchange}
    (next : s.exchange.next? = some (cmd, x)) (admitted : admits { s with exchange := x } cmd) :
    Flow admits s ({ s with exchange := x }.handle cmd)
  /-- The socket is given up. -/
  | abandon (s : Socket (Recorded (Polled ω))) : Flow admits s s.shutdown

/-- Any number of things that happen. -/
abbrev Flows (admits : Socket (Recorded (Polled ω)) → Command → Prop) :
    Socket (Recorded (Polled ω)) → Socket (Recorded (Polled ω)) → Prop :=
  Relation.ReflTransGen (Flow admits)

variable {admits : Socket (Recorded (Polled ω)) → Command → Prop}

/-- The transports are surroundings like others. -/
theorem Flow.step (h : Flow admits s t) : Step admits s t := by
  cases h with
  | surroundings acts o => exact .surroundings acts _
  | turn task goes =>
    obtain ⟨l, events, m, -, -, rfl, -, -, -⟩ := Polled.go?_eq_some goes
    exact .surroundings (acts_emits s.exchange _ events) _
  | take next admitted => exact .take next admitted
  | abandon => exact .abandon s

theorem Flows.run (h : Flows admits s t) : Run admits s t := by
  induction h with
  | refl => exact .refl
  | tail _ flow ih => exact ih.tail flow.step

omit [Outside ω] in
theorem solitary_new (endpoint : String) (config : Config) (factory : Factory) (o : ω) :
    (Socket.new endpoint config factory (⟨⟨o, .empty, [], []⟩, [], []⟩ : Recorded (Polled ω))).Solitary where
  known _ _ hl := by cases hl
  ceased _ _ hl := by cases hl
  candid _ _ hclosed := by cases hclosed

theorem Flow.solitary (h : Flow admits s t) (hs : s.Solitary) : t.Solitary := by
  cases h with
  | surroundings acts o => exact hs.of_matures rfl rfl (.of_eq rfl rfl)
  | turn task goes => exact hs.of_matures rfl rfl (Polled.matures_go? goes)
  | @take cmd x next admitted =>
    have hx : { s with exchange := x }.Solitary := hs.of_matures rfl rfl (.of_eq rfl rfl)
    exact (spans_handle hx cmd).solitary
  | abandon => exact (spans_shutdown hs).solitary

/-- At all times every transport is over but the one of the connection. -/
theorem Flows.solitary (h : Flows admits s t) (hs : s.Solitary) : t.Solitary := by
  induction h with
  | refl => exact hs
  | tail _ flow ih => exact flow.solitary ih

end Outside

end Socket

end Switchboard
