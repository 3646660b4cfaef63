import Switchboard.Proofs.Attached
import Switchboard.Proofs.Disconnect
import Switchboard.Proofs.Heartbeats
import Switchboard.Proofs.Reconnects
import Switchboard.Proofs.Sessions

/-!
# Polls that fail

A poll that is answered with the status 403 ends its transport, just as a failure of the server, a timeout or
an unknown status does: the polling task stops, and the transport reports the failure and a close.  Nothing
but the code of the close tells the socket why the transport is over, and only an unknown status is reported
by the code of a normal close.  So a socket on long-poll transports makes no poll after that until somebody
asks for a connection, or it has heard of the close: then a reconnect is armed, unless the close was wanted
or a normal one.  A forbidden session is no exception.

Main definitions

* `LongPoll.Fails`: an answer that ends a transport, with what it makes the transport report;
* `Socket.KeepsPolling`, `Socket.OnLongPoll`: a socket that uses long-poll transports only;
* `Link.Still`: no reconnect is pending or under way;
* `Socket.OnlyLate`: no polls but those of tasks that had not looked yet;
* `Socket.Breaks`, `Socket.Retried`: the connection is lost, and made up for.

Main results

* `LongPoll.exists_fails_of_over`: no other answers end a transport;
* `Socket.abides_handle`: a link is still until the connection breaks;
* `Socket.Flows.pollsOf_eq`: a polling task that has ended makes no polls;
* `Socket.Flows.unaware_or_retried`: until the connection breaks there are only late polls;
* `Socket.failed_poll_retried_once_heard`: what becomes of a socket whose poll fails.
-/

set_option autoImplicit false

namespace Switchboard

namespace LongPoll

variable {l : LongPoll} {result : HttpResult} {cause : TransportError} {event : CloseEvent}

/-- An answer of a poll that ends the transport: the failure that it reports, and the close. -/
inductive Fails : HttpResult → TransportError → CloseEvent → Prop
  | forbidden {body : Option Json} (stated : status body = 403) :
    Fails (.ok body) .forbidden ⟨forbiddenCode, some "forbidden", false⟩
  | server {body : Option Json} (stated : status body = 0 ∨ status body = 500) :
    Fails (.ok body) (.http (some 500)) ⟨serverErrorCode, some "internal server error", false⟩
  | timeout : Fails (.error .timeout) .timeout ⟨timeoutCode, some "timeout", false⟩
  | unreachable {cause : TransportError} (other : cause ≠ .timeout) :
    Fails (.error cause) (.http (some 500)) ⟨serverErrorCode, some "internal server error", false⟩
  | unhandled {body : Option Json} (stated : status body ∉ [200, 204, 410, 403, 0, 500]) :
    Fails (.ok body) (.unhandledPollStatus (min (status body) maxStatus)) ⟨CloseEvent.normalCode,
      some ("unhandled poll status " ++ natText (min (status body) maxStatus)), false⟩

/-- The transport reports its failure and its close, and polls no more. -/
theorem Fails.pollAnswered (h : Fails result cause event) (hlive : l.cancelled = false) :
    (l.pollAnswered result).1 = [.failed cause, .closed event] ∧
      (l.pollAnswered result).2.cancelled = true ∧ (l.pollAnswered result).2.poll = .ended := by
  have hkept : ∀ body, (l.storeToken body).cancelled = false := by
    intro body
    cases body <;> exact hlive
  unfold LongPoll.pollAnswered
  rw [if_neg (by simp [hlive])]
  cases h with
  | forbidden stated => simp [takeBody, stated, endPoll, failWith, closeWith, hkept]
  | @server body stated =>
    rcases stated with stated | stated <;>
      simp [takeBody, stated, endPoll, failOfServer, failAndRetry, failWith, closeWith, hkept]
  | timeout => simp [endPoll, failAndRetry, failWith, closeWith, hlive]
  | @unhandled body stated =>
    simp only [List.mem_cons, List.not_mem_nil, or_false, not_or] at stated
    simp [takeBody, stated, endPoll, failWith, closeWith, hkept]
  | @unreachable other hother =>
    cases other with
    | timeout => exact absurd rfl hother
    | _ => simp [takeBody, status, statedStatus?, endPoll, failOfServer, failAndRetry, failWith,
        closeWith, hlive]

/-- The answers that end a transport are those by which a poll fails. -/
theorem exists_fails_of_over (hlive : l.cancelled = false)
    (hover : (l.pollAnswered result).2.cancelled = true) : ∃ cause event, Fails result cause event := by
  cases result with
  | error cause =>
    by_cases hcause : cause = .timeout
    · subst hcause
      exact ⟨_, _, .timeout⟩
    · exact ⟨_, _, .unreachable hcause⟩
  | ok body =>
    have hkept : (l.storeToken body).cancelled = false := by cases body <;> exact hlive
    have hends : status body ∉ [200, 204, 410] := by
      intro hgoes
      simp only [List.mem_cons, List.not_mem_nil, or_false] at hgoes
      rcases hgoes with hgoes | hgoes | hgoes <;>
        simp [LongPoll.pollAnswered, takeBody, hlive, hgoes, hkept] at hover
    by_cases hforbidden : status body = 403
    · exact ⟨_, _, .forbidden hforbidden⟩
    · by_cases hserver : status body = 0 ∨ status body = 500
      · exact ⟨_, _, .server hserver⟩
      · exact ⟨_, _, .unhandled (by simp_all)⟩

end LongPoll

/-! ### Links that are still -/

namespace Link

/-- No reconnect is pending, and no teardown in flight goes on to connect. -/
structure Still (l : Link) : Prop where
  unarmed : l.reconnectTimer.slot.armed = false
  teardown : ∀ ⦃t⦄, l.teardown = some t → t.continuation.reconnects = false

/-- A link without signs of life, since its transports need none. -/
structure Silent (l : Link) : Prop extends Spared l where
  skips : l.factory.skipHeartbeat = true

/-- The link once its connection has reported a close. -/
def closed (l : Link) (event : CloseEvent) : Link := { l with
  heartbeatTimer := l.heartbeatTimer.cancel
  heartbeatTimeout := l.heartbeatTimeout.cancel
  reconnectTimer :=
    if !l.closeWasClean && decide (event.code ≠ CloseEvent.normalCode) then l.reconnectTimer.schedule
    else l.reconnectTimer }

variable {l : Link}

theorem Still.dropped (h : l.Still) : l.dropped.Still := by
  unfold Link.dropped
  split
  · exact h
  · exact ⟨h.unarmed, h.teardown⟩

theorem Still.parted (h : l.Still) : l.parted.Still := by
  unfold Link.parted
  split
  · exact h
  · exact ⟨h.unarmed, h.teardown⟩

/-- A still link, as far as it has come from another one: nothing was opened. -/
structure Abides (l l' : Link) : Prop where
  still : l'.Still
  next : l'.nextTransport = l.nextTransport
  conn : ∀ ⦃c⦄, l'.conn = some c → l.conn = some c

theorem Abides.trans {l' l'' : Link} (h : l.Abides l') (h' : l'.Abides l'') : l.Abides l'' :=
  ⟨h'.still, h'.next.trans h.next, fun _ hc => h.conn (h'.conn hc)⟩

/-- Neither the timer nor the connection has changed. -/
theorem Still.abides {l' : Link} (h : l.Still) (htimer : l'.reconnectTimer.slot = l.reconnectTimer.slot)
    (hteardown : l'.teardown = l.teardown) (hnext : l'.nextTransport = l.nextTransport)
    (hconn : l'.conn = l.conn) : l.Abides l' where
  still := ⟨htimer ▸ h.unarmed, hteardown ▸ h.teardown⟩
  next := hnext
  conn _ hc := hconn ▸ hc

end Link

namespace Socket

section Recorded

variable {ω : Type} [Outside ω] {s t u : Socket (Recorded ω)} {cmd : Command} {c : Connection}
variable {k : Continuation} {l l' : Link}

/-- The transports that a command or a callback puts in place need no signs of life. -/
def KeepsPolling (s : Socket (Recorded ω)) (cmd : Command) : Prop :=
  ∀ factory, cmd = .replaceTransport factory ∨ s.fallback? cmd = some factory →
    factory.skipHeartbeat = true

theorem Shift.silent (h : Shift s cmd l l') (hcmd : KeepsPolling s cmd) (hs : s.link.Silent)
    (hl : l.Silent) : l'.Silent := by
  refine ⟨h.spared (fun _ _ _ => ⟨hs.due hs.skips, hs.awaited hs.skips⟩) hs.toSpared hl.toSpared, ?_⟩
  cases h with
  | replaces replaces factory chosen => exact hcmd factory chosen
  | finishes =>
    unfold Link.dropped
    split <;> exact hl.skips
  | retires =>
    unfold Link.parted
    split <;> exact hl.skips
  | _ => exact hl.skips

theorem keepsPolling_shutdown (s : Socket (Recorded ω)) : KeepsPolling s .shutdown := by
  rintro factory (heq | heq) <;> cases heq

theorem Run.silent {admits : Socket (Recorded ω) → Command → Prop} (h : Run admits s t)
    (hadmits : ∀ s cmd, admits s cmd → KeepsPolling s cmd) (hs : s.link.Silent) : t.link.Silent := by
  refine h.keeps_link hs fun {v cmd _ _} hv hcmd shift hl => shift.silent ?_ hv hl
  rcases hcmd with hadmitted | rfl
  · exact hadmits _ _ hadmitted
  · exact keepsPolling_shutdown v

/-! ### The connection breaks -/

/-- A close of the connection that is not a normal one, and that nobody wanted. -/
def Breaks (s : Socket (Recorded ω)) (c : Connection) (event : CloseEvent) : Prop :=
  s.conn = some c ∧ s.closeWasClean = false ∧ event.code ≠ CloseEvent.normalCode

theorem link_connectionClosed (s : Socket (Recorded ω)) (event : CloseEvent) :
    (s.connectionClosed event).link = s.link.closed event := by
  have htold := link_triggerErrors s
  have hclean : s.triggerErrors.clearHeartbeats.closeWasClean = s.closeWasClean :=
    congrArg Link.closeWasClean htold
  have hcleared : s.triggerErrors.clearHeartbeats.link = { s.link with
      heartbeatTimer := s.heartbeatTimer.cancel, heartbeatTimeout := s.heartbeatTimeout.cancel } :=
    congrArg (fun l : Link => { l with
      heartbeatTimer := l.heartbeatTimer.cancel, heartbeatTimeout := l.heartbeatTimeout.cancel }) htold
  unfold connectionClosed Link.closed
  refine (link_foldl (link_runOnClose event) _ _).trans ?_
  rw [hclean]
  split
  · rename_i hunclean
    rw [if_pos (show (!s.link.closeWasClean && decide (event.code ≠ CloseEvent.normalCode)) = true
      from hunclean)]
    exact congrArg (fun l : Link => { l with reconnectTimer := l.reconnectTimer.schedule }) hcleared
  · rename_i hwanted
    rw [if_neg (show ¬(!s.link.closeWasClean && decide (event.code ≠ CloseEvent.normalCode)) = true
      from hwanted)]
    exact hcleared

/-- The transport of the connection reports a close. -/
theorem link_closed (hconn : s.conn = some c) (event : CloseEvent) :
    (s.handle (.transport c.transport (.closed event))).link =
      (s.link.pruned fun c => Outside.readyState s.outside c.transport == .closed).closed event := by
  have hheld : s.pruneRetired.conn = some c := (congrArg Link.conn (link_pruneRetired s)).trans hconn
  have hhandle : s.handle (.transport c.transport (.closed event)) =
      s.pruneRetired.connectionClosed event := by
    simp only [handle, transportEvent, hheld, if_true]
  rw [hhandle, link_connectionClosed, link_pruneRetired]

/-- A reconnect is armed for a close just if nobody wanted it and it is not a normal one. -/
theorem reconnectTimer_closed (hconn : s.conn = some c) (event : CloseEvent) :
    (s.handle (.transport c.transport (.closed event))).reconnectTimer =
      if !s.closeWasClean && decide (event.code ≠ CloseEvent.normalCode) then s.reconnectTimer.schedule
      else s.reconnectTimer :=
  congrArg Link.reconnectTimer (link_closed hconn event)

/-- Where the connection breaks a reconnect is pending. -/
theorem awaitsReconnect_of_breaks {event : CloseEvent} (h : s.Breaks c event) :
    (s.handle (.transport c.transport (.closed event))).AwaitsReconnect
      (s.reconnectTimer.slot.generation + 1) := by
  obtain ⟨hconn, hunclean, hcode⟩ := h
  unfold AwaitsReconnect
  rw [reconnectTimer_closed hconn, if_pos (by simp [hunclean, hcode])]
  rfl

/-! ### Commands of a still link -/

/-- What happens to a still link keeps it still, where no connection closes and none is asked for. -/
theorem Shift.abides (h : Shift s cmd l l') (hcmd : Unsolicited s cmd)
    (hother : ∀ t event, cmd ≠ .transport t (.closed event)) (hs : s.link.Still)
    (hsilent : s.pendingHeartbeat = none) (hl : l.Still) : l.Abides l' := by
  have hseeks : ∀ {k}, Seeks s cmd k → k.reconnects = false := fun seeks =>
    seeks.not_reconnects (fun _ _ => .inr hsilent) hs.unarmed
  have hcontinues : ∀ {k}, Continues s cmd k → k.reconnects = false := fun continues =>
    continues.not_reconnects (fun _ _ => .inr hsilent) hs.unarmed hs.teardown
  have hsummons : ∀ {l₁ : Link}, ¬Summons s cmd l₁ := by
    rintro l₁ (⟨asks, -⟩ | ⟨continues, -⟩)
    · exact hcmd.not_asks asks
    · cases hcontinues continues
  cases h with
  | schedules cause =>
    rcases cause with ⟨t, event, heq, -⟩ | continues
    · exact absurd heq (hother t event)
    · cases hcontinues continues
  | fires command fires =>
    obtain ⟨harmed, -, -⟩ := BackoffTimer.fire_eq_some_iff.mp fires
    rw [hl.unarmed] at harmed
    cases harmed
  | opens | turns => exact ⟨⟨rfl, hl.teardown⟩, rfl, fun _ => id⟩
  | begins seeks live conn number continuation =>
    refine ⟨⟨hl.unarmed, fun t ht => ?_⟩, rfl, fun _ => id⟩
    cases ht
    rw [continuation]
    exact hseeks seeks
  | drops => exact ⟨⟨hl.unarmed, nofun⟩, rfl, fun _ => id⟩
  | looks inFlight number continuation =>
    refine ⟨⟨hl.unarmed, fun t ht => ?_⟩, rfl, fun _ => id⟩
    cases ht
    rw [continuation]
    exact hl.teardown inFlight
  | finishes inFlight =>
    refine ⟨Link.Still.dropped ⟨hl.unarmed, nofun⟩, ?_, fun c hc => ?_⟩
    · unfold Link.dropped
      split <;> rfl
    · rw [Link.conn_dropped] at hc
      cases hc
  | readies summons => exact absurd summons hsummons
  | connects summons => exact absurd summons hsummons
  | retires =>
    refine ⟨Link.Still.parted ⟨rfl, hl.teardown⟩, ?_, fun c hc => ?_⟩
    · unfold Link.parted
      split <;> rfl
    · rw [Link.conn_parted] at hc
      cases hc
  | ends => exact ⟨⟨rfl, nofun⟩, rfl, nofun⟩
  | _ => exact hl.abides rfl rfl rfl rfl

/-- A link is still until the connection breaks. -/
theorem abides_handle (hcmd : Unsolicited s cmd)
    (hwhole : ∀ c event, cmd = .transport c.transport (.closed event) → ¬s.Breaks c event)
    (hs : s.link.Still) (hsilent : s.pendingHeartbeat = none) : s.link.Abides (s.handle cmd).link := by
  by_cases hclosed : ∃ t event, cmd = .transport t (.closed event)
  · obtain ⟨t, event, rfl⟩ := hclosed
    by_cases hlive : ∃ c, s.conn = some c ∧ c.transport = t
    · obtain ⟨c, hc, rfl⟩ := hlive
      have hwanted : ¬((!s.closeWasClean && decide (event.code ≠ CloseEvent.normalCode)) = true) := by
        intro h
        simp only [Bool.and_eq_true, Bool.not_eq_true', decide_eq_true_eq] at h
        exact hwhole c event rfl ⟨hc, h.1, h.2⟩
      rw [link_closed hc]
      refine hs.abides ?_ rfl rfl rfl
      exact congrArg BackoffTimer.slot (if_neg hwanted)
    · have hhandle : s.handle (.transport t (.closed event)) = s.pruneRetired :=
        transportEvent_of_ne (fun c hc ht => hlive ⟨c, hc, ht⟩) (.closed event)
      rw [hhandle, link_pruneRetired]
      exact hs.abides rfl rfl rfl rfl
  · have hrefl : s.link.Abides s.link := hs.abides rfl rfl rfl rfl
    refine (shifts_handle s cmd).keeps hrefl fun shift hl => hl.trans ?_
    exact shift.abides hcmd (fun t event heq => hclosed ⟨t, event, heq⟩) hs hsilent hl.still

end Recorded

/-! ### Late polls -/

section Polled

variable {ω : Type} {s t u v : Socket (Recorded (Polled ω))} {cmd : Command} {c : Connection}
variable {x : Exchange} {p : Polled ω} {l : LongPoll} {turn : LongPoll.Turn}

/-- The polls that a transport made so far. -/
def pollsOf (s : Socket (Recorded (Polled ω))) (t : TransportId) : List (TransportId × HttpRequest) :=
  s.polls.filter (·.1 = t)

/-- No poll was made but by transports that had been over, whose polling tasks were about to make one and
had not looked yet.  Each of them made one. -/
def OnlyLate (s u : Socket (Recorded (Polled ω))) : Prop :=
  ∃ late, u.polls = s.polls ++ late ∧ (late.map Prod.fst).Nodup ∧
    ∀ t ∈ late.map Prod.fst, ∃ l, s.longPoll? t = some l ∧ l.cancelled = true ∧ l.poll = .idle

/-- Transports that were over before linger on: their tasks make late polls. -/
structure Lingers (s u : Socket (Recorded (Polled ω))) : Prop where
  matures : s.polled.Matures u.polled
  late : ∃ late, u.polls = s.polls ++ late ∧ (late.map Prod.fst).Nodup ∧
    ∀ t ∈ late.map Prod.fst, (∃ l, s.longPoll? t = some l ∧ l.cancelled = true ∧ l.poll = .idle) ∧
      ∃ m, u.longPoll? t = some m ∧ m.poll ≠ .idle

theorem Lingers.refl (s : Socket (Recorded (Polled ω))) : Lingers s s :=
  ⟨.of_eq rfl rfl, [], (List.append_nil _).symm, List.nodup_nil, nofun⟩

theorem Lingers.onlyLate (h : Lingers s u) : s.OnlyLate u := by
  obtain ⟨late, hpolls, hnodup, hlate⟩ := h.late
  exact ⟨late, hpolls, hnodup, fun t ht => (hlate t ht).1⟩

/-- A task that has made its late poll makes no other one. -/
theorem Lingers.begun (h : Lingers s u) (hmatures : u.polled.Matures v.polled) {t : TransportId}
    {l m : LongPoll} (hl : s.longPoll? t = some l) (hover : l.cancelled = true)
    (hm : u.longPoll? t = some m) (hbegun : m.poll ≠ .idle) :
    ∃ n, v.longPoll? t = some n ∧ n.poll ≠ .idle := by
  obtain ⟨m', hm', hages⟩ := h.matures.ages hl
  obtain rfl : m = m' := Option.some_inj.mp (hm.symm.trans hm')
  obtain ⟨n, hn, hages'⟩ := hmatures.ages hm
  exact ⟨n, hn, hages'.begun (hages.ceased hover) hbegun⟩

/-- Nobody makes a poll. -/
theorem Lingers.evolve (h : Lingers s u) (hevolves : u.polled.Evolves v.polled) : Lingers s v := by
  obtain ⟨late, hpolls, hnodup, hlate⟩ := h.late
  refine ⟨h.matures.trans hevolves.toMatures, late, hevolves.polls.trans hpolls, hnodup, fun t ht => ?_⟩
  obtain ⟨⟨l, hl, hover, hidle⟩, m, hm, hbegun⟩ := hlate t ht
  exact ⟨⟨l, hl, hover, hidle⟩, h.begun hevolves.toMatures hl hover hm hbegun⟩

/-- A task of a transport goes on: its poll is a late one, and its first. -/
theorem Lingers.goes (h : Lingers s u) (hover : ∀ ⦃t l⦄, s.longPoll? t = some l → l.cancelled = true)
    {t : TransportId} (hgo : u.polled.go? t turn u.exchange = some (x, p)) : Lingers s (u.around x p) := by
  have hmatures : u.polled.Matures p := Polled.matures_go? hgo
  obtain ⟨l, events, m, hl, hturn, -, htransports, hpolls, -⟩ := Polled.go?_eq_some hgo
  cases hpoll : l.poll? turn with
  | none =>
    rw [hpoll] at hpolls
    exact h.evolve ⟨hmatures, hpolls.trans (List.append_nil _)⟩
  | some request =>
    obtain ⟨hidle, hwaits⟩ := LongPoll.idle_of_poll? hturn hpoll
    obtain ⟨late, hsofar, hnodup, hlate⟩ := h.late
    obtain ⟨l₀, hl₀⟩ := h.matures.known hl
    have hidle₀ : l₀.poll = .idle := by
      obtain ⟨l', hl', hages⟩ := h.matures.ages hl₀
      obtain rfl : l = l' := Option.some_inj.mp (hl.symm.trans hl')
      exact hages.idle (hover hl₀) hidle
    have hnew : t ∉ late.map Prod.fst := by
      intro ht
      obtain ⟨-, m', hm', hbegun⟩ := hlate t ht
      obtain rfl : l = m' := Option.some_inj.mp (hl.symm.trans hm')
      exact hbegun hidle
    have hm : (u.around x p).longPoll? t = some m :=
      (congrArg (·.get? t) htransports).trans (Table.get?_set_self ..)
    refine ⟨h.matures.trans hmatures, late ++ [(t, request)], ?_, ?_, fun t' ht' => ?_⟩
    · have hmade : (u.around x p).polls = u.polls ++ [(t, request)] := by
        rw [hpoll] at hpolls
        exact hpolls
      rw [hmade, hsofar, List.append_assoc]
    · rw [List.map_append, List.nodup_append]
      refine ⟨hnodup, List.nodup_singleton t, fun a ha b hb heq => ?_⟩
      obtain rfl : b = t := by simpa using hb
      exact hnew (heq ▸ ha)
    · rw [List.map_append, List.mem_append] at ht'
      rcases ht' with ht' | ht'
      · obtain ⟨⟨l₁, hl₁, hover₁, hidle₁⟩, m₁, hm₁, hbegun₁⟩ := hlate t' ht'
        exact ⟨⟨l₁, hl₁, hover₁, hidle₁⟩, h.begun (v := u.around x p) hmatures hl₁ hover₁ hm₁ hbegun₁⟩
      · obtain rfl : t' = t := by simpa using ht'
        exact ⟨⟨l₀, hl₀, hover hl₀, hidle₀⟩, m, hm, by simp [hwaits]⟩

section Outside

variable [Outside ω]

/-- A socket that has used long-poll transports only. -/
def OnLongPoll (s : Socket (Recorded (Polled ω))) : Prop :=
  ∃ endpoint config factory o, factory.skipHeartbeat = true ∧
    Flows KeepsPolling (Socket.new endpoint config factory ⟨⟨o, .empty, [], []⟩, [], []⟩) s

theorem OnLongPoll.solitary (h : s.OnLongPoll) : s.Solitary := by
  obtain ⟨endpoint, config, factory, o, -, hflows⟩ := h
  exact hflows.solitary (solitary_new endpoint config factory o)

theorem OnLongPoll.silent (h : s.OnLongPoll) : s.link.Silent := by
  obtain ⟨endpoint, config, factory, o, hskips, hflows⟩ := h
  exact hflows.run.silent (fun _ _ => id) ⟨⟨nofun, fun _ => rfl, fun _ => rfl⟩, hskips⟩

omit [Outside ω] in
/-- A command that opens nothing. -/
theorem Spans.evolves (h : Spans s t) (hnext : t.nextTransport = s.nextTransport) :
    s.polled.Evolves t.polled where
  ages := h.ages
  known _ _ hm := h.known hm (hnext ▸ h.solitary.known hm)
  candid _ := h.solitary.candid
  last := h.last
  polls := h.polls

omit [Outside ω] in
/-- Someone goes on with a transport: a polling task that has ended makes no poll. -/
theorem pollsOf_around {t t' : TransportId} (hl : s.longPoll? t = some l) (hended : l.poll = .ended)
    (hgo : s.polled.go? t' turn s.exchange = some (x, p)) :
    (s.around x p).pollsOf t = s.pollsOf t := by
  obtain ⟨l', events, m, hl', hturn, -, -, hpolls, -⟩ := Polled.go?_eq_some hgo
  have hmade : (s.around x p).pollsOf t =
      (s.polls ++ (l'.poll? turn).toList.map (t', ·)).filter (·.1 = t) := congrArg (List.filter _) hpolls
  rw [hmade, List.filter_append]
  refine (congrArg (s.pollsOf t ++ ·) ?_).trans (List.append_nil _)
  cases hpoll : l'.poll? turn with
  | none => rfl
  | some request =>
    have hother : t' ≠ t := by
      rintro rfl
      obtain rfl : l = l' := Option.some_inj.mp (hl.symm.trans hl')
      have hidle := (LongPoll.idle_of_poll? hturn hpoll).1
      rw [hended] at hidle
      cases hidle
    simp [hother]

theorem Flow.pollsOf_eq (h : Flow (fun _ _ => True) s u) (hs : s.Solitary) {t : TransportId}
    (hl : s.longPoll? t = some l) (hended : l.poll = .ended) :
    u.pollsOf t = s.pollsOf t ∧ ∃ m, u.longPoll? t = some m ∧ m.poll = .ended := by
  have hspans : ∀ {w : Socket (Recorded (Polled ω))}, w.pollsOf t = s.pollsOf t →
      (∃ m, w.longPoll? t = some m ∧ l.Ages m) →
      w.pollsOf t = s.pollsOf t ∧ ∃ m, w.longPoll? t = some m ∧ m.poll = .ended := by
    rintro w hsame ⟨m, hm, hages⟩
    exact ⟨hsame, m, hm, hages.ended hended⟩
  cases h with
  | surroundings acts o => exact hspans rfl ⟨l, hl, .refl l⟩
  | turn task goes => exact hspans (pollsOf_around hl hended goes) ((Polled.matures_go? goes).ages hl)
  | @take cmd x next admitted =>
    have hx : { s with exchange := x }.Solitary := hs.of_matures rfl rfl (.of_eq rfl rfl)
    have h := spans_handle hx cmd
    exact hspans (congrArg (List.filter _) h.polls) (h.ages hl)
  | abandon =>
    have h := spans_shutdown hs
    exact hspans (congrArg (List.filter _) h.polls) (h.ages hl)

/-- A polling task that has ended makes no poll any more, whatever happens. -/
theorem Flows.pollsOf_eq (h : Flows (fun _ _ => True) s u) (hs : s.Solitary) {t : TransportId}
    (hl : s.longPoll? t = some l) (hended : l.poll = .ended) : u.pollsOf t = s.pollsOf t := by
  suffices u.Solitary ∧ u.pollsOf t = s.pollsOf t ∧ ∃ m, u.longPoll? t = some m ∧ m.poll = .ended from
    this.2.1
  induction h with
  | refl => exact ⟨hs, rfl, l, hl, hended⟩
  | tail before flow ih =>
    obtain ⟨hu, hpolls, m, hm, hstill⟩ := ih
    obtain ⟨hsame, hrest⟩ := flow.pollsOf_eq hu hm hstill
    exact ⟨flow.solitary hu, hsame.trans hpolls, hrest⟩

/-! ### Until the connection breaks -/

/-- A command of a socket on long-poll transports that asks for no connection.  If it is the report of a
transport, that has posted it. -/
structure Undemanding (s : Socket (Recorded (Polled ω))) (cmd : Command) : Prop
    extends Unsolicited s cmd where
  polling : KeepsPolling s cmd
  genuine : ∀ ⦃t event⦄, cmd = .transport t event → (t, event) ∈ s.polled.posted

/-- Between two states the socket has heard of the close by which the connection broke, and then a reconnect
was pending.  Until then there were only late polls. -/
inductive Retried (s u : Socket (Recorded (Polled ω))) (c : Connection) (event : CloseEvent) : Prop
  | heard {v : Socket (Recorded (Polled ω))} {x : Exchange}
    (before : Flows Undemanding s v) (patient : s.OnlyLate v)
    (next : v.exchange.next? = some (.transport c.transport (.closed event), x))
    (breaks : Breaks { v with exchange := x } c event)
    (pending : ({ v with exchange := x }.handle (.transport c.transport (.closed event))).AwaitsReconnect
      (v.reconnectTimer.slot.generation + 1))
    (after : Flows Undemanding
      ({ v with exchange := x }.handle (.transport c.transport (.closed event))) u)

/-- A socket whose transports are all over, and which has not heard of it. -/
structure Unaware (s u : Socket (Recorded (Polled ω))) : Prop where
  solitary : u.Solitary
  silent : u.link.Silent
  abides : s.link.Abides u.link
  lingers : Lingers s u

/-- Whatever happens to a socket that has not heard of the end of its connection, it remains so, or the
connection breaks. -/
theorem Unaware.flow (h : Unaware s u)
    (hover : ∀ ⦃t l⦄, s.longPoll? t = some l → l.cancelled = true) (hflow : Flow Undemanding u v) :
    Unaware s v ∨ ∃ x c event,
      u.exchange.next? = some (.transport c.transport (.closed event), x) ∧
      u.polled.Closed c.transport event ∧ Breaks { u with exchange := x } c event ∧
      v = { u with exchange := x }.handle (.transport c.transport (.closed event)) := by
  have hsolitary := hflow.solitary h.solitary
  have hsilent : v.link.Silent :=
    Run.silent (.single hflow.step) (fun _ _ hcmd => hcmd.polling) h.silent
  cases hflow with
  | surroundings acts o =>
    exact .inl ⟨hsolitary, hsilent, h.abides, h.lingers.evolve (.of_eq rfl rfl rfl)⟩
  | turn task goes => exact .inl ⟨hsolitary, hsilent, h.abides, h.lingers.goes hover goes⟩
  | @take cmd x next admitted =>
    by_cases hbreaks : ∃ c event, cmd = .transport c.transport (.closed event) ∧
      Breaks { u with exchange := x } c event
    · obtain ⟨c, event, rfl, hbreaks⟩ := hbreaks
      exact .inr ⟨x, c, event, next, admitted.genuine rfl, hbreaks, rfl⟩
    · have habides : u.link.Abides ({ u with exchange := x }.handle cmd).link :=
        abides_handle (s := { u with exchange := x }) admitted.toUnsolicited
          (fun c event hcmd hc => hbreaks ⟨c, event, hcmd, hc⟩) h.abides.still
          (h.silent.awaited h.silent.skips)
      have hx : { u with exchange := x }.Solitary := h.solitary.of_matures rfl rfl (.of_eq rfl rfl)
      have hevolves : u.polled.Evolves ({ u with exchange := x }.handle cmd).polled :=
        (spans_handle hx cmd).evolves habides.next
      exact .inl ⟨hsolitary, hsilent, h.abides.trans habides, h.lingers.evolve hevolves⟩
  | abandon =>
    have habides : u.link.Abides u.shutdown.link :=
      abides_handle (restful_shutdown u).toUnsolicited nofun h.abides.still
        (h.silent.awaited h.silent.skips)
    have hevolves : u.polled.Evolves u.shutdown.polled :=
      (spans_shutdown h.solitary).evolves habides.next
    exact .inl ⟨hsolitary, hsilent, h.abides.trans habides, h.lingers.evolve hevolves⟩

/-- A socket whose transports are all over makes late polls only, until its connection breaks by the close
that its transport has posted. -/
theorem Flows.unaware_or_retried (h : Flows Undemanding s u) (hs : Unaware s s)
    (hover : ∀ ⦃t l⦄, s.longPoll? t = some l → l.cancelled = true) (hconn : s.conn = some c)
    (hl : s.longPoll? c.transport = some l) {event : CloseEvent}
    (honly : ∀ ⦃event'⦄, s.polled.Closed c.transport event' → event' = event) :
    Unaware s u ∨ Retried s u c event := by
  induction h with
  | refl => exact .inl hs
  | @tail u v before flow ih =>
    rcases ih with hu | ⟨hbefore, hpatient, hnext, hbreaks, hpending, hafter⟩
    · rcases hu.flow hover flow with hv | ⟨x, c', event', hnext, hclosed, hbreaks, rfl⟩
      · exact .inl hv
      · obtain rfl : c = c' := Option.some_inj.mp (hconn.symm.trans (hu.abides.conn hbreaks.1))
        obtain rfl : event' = event := honly (hu.lingers.matures.last hl (hover hl) hclosed)
        have hpending := awaitsReconnect_of_breaks hbreaks
        exact .inr (.heard before hu.lingers.onlyLate hnext hbreaks hpending .refl)
    · exact .inr (.heard hbefore hpatient hnext hbreaks hpending (hafter.tail flow))

omit [Outside ω] in
/-- The transport of the connection was the last one that was not over. -/
theorem Solitary.all_over (hs : s.Solitary) (hmatures : s.polled.Matures p) (hconn : s.conn = some c)
    {m : LongPoll} (hm : p.transports.get? c.transport = some m) (hover : m.cancelled = true) :
    ∀ ⦃t n⦄, (s.around x p).longPoll? t = some n → n.cancelled = true := by
  have hafter : (s.around x p).Solitary := hs.of_matures rfl rfl hmatures
  intro t n hn
  by_cases ht : t = c.transport
  · subst ht
    obtain rfl : m = n := Option.some_inj.mp (hm.symm.trans hn)
    exact hover
  · refine hafter.ceased hn fun c' hc' => ?_
    obtain rfl : c = c' := Option.some_inj.mp (hconn.symm.trans hc')
    exact Ne.symm ht

omit [Outside ω] in
/-- A transport that was not over has posted no close before. -/
theorem Solitary.closed_once (hs : s.Solitary) {t : TransportId} (hl : s.longPoll? t = some l)
    (hlive : l.cancelled = false) {cause : TransportError} {event event' : CloseEvent}
    (hposted : p.posted = s.polled.posted ++ [(t, .failed cause), (t, .closed event)])
    (hclosed : p.Closed t event') : event' = event := by
  unfold Polled.Closed at hclosed
  rw [hposted, List.mem_append] at hclosed
  rcases hclosed with hclosed | hclosed
  · obtain ⟨l', hl', hover⟩ := hs.candid hclosed
    obtain rfl : l = l' := Option.some_inj.mp (hl.symm.trans hl')
    rw [hlive] at hover
    cases hover
  · simpa using hclosed

/-- What becomes of a socket whose poll fails: the session is forbidden, the server fails, the time is over, or
the status is none that the transport knows.  The transport reports the failure and its close, and it
never polls again.  As long as nobody asks for a connection, and no reconnect was pending or under way,
there are only polls of tasks that had not looked, or the socket has heard of that close, and since then a
reconnect was pending.  It is armed for the close just if nobody wanted that and its code is not the normal
one, which only an unknown status has: a forbidden session is retried like any other. -/
theorem failed_poll_retried_once_heard (hs : s.OnLongPoll) {result : HttpResult}
    {cause : TransportError} {event : CloseEvent} (hconn : s.conn = some c)
    (hl : s.longPoll? c.transport = some l) (hlive : l.cancelled = false) (hwaits : l.poll = .waiting)
    (hfails : LongPoll.Fails result cause event) :
    ∃ x p, s.polled.go? c.transport (.pollEnds result) s.exchange = some (x, p) ∧
      x = (s.exchange.emit c.transport (.failed cause)).emit c.transport (.closed event) ∧
      (∀ u, Flows (fun _ _ => True) (s.around x p) u →
        u.pollsOf c.transport = s.pollsOf c.transport) ∧
      (s.link.Still → ∀ u, Flows Undemanding (s.around x p) u →
        (s.around x p).OnlyLate u ∨ Retried (s.around x p) u c event) ∧
      ∀ v : Socket (Recorded (Polled ω)), v.conn = some c →
        (v.handle (.transport c.transport (.closed event))).reconnectTimer =
          if v.closeWasClean ∨ event.code = CloseEvent.normalCode then v.reconnectTimer
          else v.reconnectTimer.schedule := by
  obtain ⟨hevents, hover, hended⟩ := hfails.pollAnswered hlive
  have hturn : l.turn? (.pollEnds result) = some (l.pollAnswered result) := if_pos hwaits
  have hgo := Polled.go?_of_turn? hl hturn s.exchange
  set x := (l.pollAnswered result).1.foldl (fun x event => x.emit c.transport event) s.exchange with hx
  set p : Polled ω := { s.polled with
    transports := s.polled.transports.set c.transport (l.pollAnswered result).2
    polls := s.polls ++ (l.poll? (.pollEnds result)).toList.map fun request => (c.transport, request)
    posted := s.polled.posted ++ (l.pollAnswered result).1.map fun event => (c.transport, event) }
    with hp
  have hget : (s.around x p).longPoll? c.transport = some (l.pollAnswered result).2 :=
    Table.get?_set_self ..
  have hmatures : s.polled.Matures p := Polled.matures_go? hgo
  have hsolitary : (s.around x p).Solitary := hs.solitary.of_matures rfl rfl hmatures
  have hposted : p.posted = s.polled.posted ++
      [(c.transport, .failed cause), (c.transport, .closed event)] :=
    congrArg (fun events => s.polled.posted ++ List.map (fun event => (c.transport, event)) events) hevents
  refine ⟨x, p, hgo, ?_, fun u hflows => ?_, fun hstill u hflows => ?_, fun v hv => ?_⟩
  · rw [hx, hevents]
    rfl
  · have hpolls : (s.around x p).polls = s.polls := List.append_nil _
    exact (hflows.pollsOf_eq hsolitary hget hended).trans (congrArg (List.filter _) hpolls)
  · have habides : s.link.Abides (s.around x p).link := hstill.abides rfl rfl rfl rfl
    have hunaware : Unaware (s.around x p) (s.around x p) :=
      ⟨hsolitary, hs.silent, habides, .refl _⟩
    have hlast := hflows.unaware_or_retried hunaware (hs.solitary.all_over hmatures hconn hget hover)
      hconn hget fun _ => hs.solitary.closed_once hl hlive hposted
    exact hlast.imp_left fun h => h.lingers.onlyLate
  · rw [reconnectTimer_closed hv]
    cases v.closeWasClean <;> by_cases hcode : event.code = CloseEvent.normalCode <;> simp [hcode]

/-! ### Scripts with long-poll transports -/

/-- A deed, or a task of a transport goes on. -/
inductive Doing where
  | deed (deed : Deed)
  | goes (t : TransportId) (turn : LongPoll.Turn) (task : turn.OfTask)

/-- What becomes of a socket and its transports. -/
def flow? (test : Socket (Recorded (Polled Idle)) → Command → Bool) :
    List Doing → Socket (Recorded (Polled Idle)) → Option (Socket (Recorded (Polled Idle)))
  | [], s => some s
  | .deed deed :: rest, s =>
    (s.doIn? (fun s o => some (s.around s.exchange { s.polled with outside := o })) test deed).bind
      (flow? test rest)
  | .goes t turn _ :: rest, s =>
    (s.polled.go? t turn s.exchange).bind fun r => flow? test rest (s.around r.1 r.2)

/-- A script that can be played is a flow. -/
theorem flows_of_flow? {admits : Socket (Recorded (Polled Idle)) → Command → Prop}
    {test : Socket (Recorded (Polled Idle)) → Command → Bool}
    (htest : ∀ s cmd, test s cmd = true → admits s cmd) {doings : List Doing}
    {s t : Socket (Recorded (Polled Idle))} (h : s.flow? test doings = some t) : Flows admits s t := by
  induction doings generalizing s with
  | nil =>
    cases h
    exact .refl
  | cons doing rest ih =>
    cases doing with
    | goes t' turn task =>
      obtain ⟨⟨x, p⟩, hgo, hrest⟩ := Option.bind_eq_some_iff.mp h
      exact .head (.turn task hgo) (ih hrest)
    | deed deed =>
      obtain ⟨u, hdeed, hrest⟩ := Option.bind_eq_some_iff.mp h
      refine .head ?_ (ih hrest)
      cases deed with
      | acts f lawful =>
        cases hdeed
        exact .surroundings (lawful s.exchange) s.polled.outside
      | become o =>
        cases hdeed
        exact .surroundings .refl o
      | take =>
        simp only [doIn?] at hdeed
        split at hdeed
        · cases hdeed
        · rename_i cmd x hnext
          split at hdeed
          · rename_i hpass
            cases hdeed
            exact .take hnext (htest _ _ hpass)
          · cases hdeed

/-- The commands of a script that put no other kind of transport in place. -/
def keepsPolling (s : Socket (Recorded (Polled Idle))) : Command → Bool
  | .replaceTransport _ => false
  | cmd => (s.fallback? cmd).isNone

/-- Those that ask for no connection either, and are no false reports. -/
def undemanding (s : Socket (Recorded (Polled Idle))) : Command → Bool
  | .connect | .resume => false
  | .transport t event =>
    decide ((t, event) ∈ s.polled.posted) && s.keepsPolling (.transport t event)
  | cmd => s.keepsPolling cmd

theorem chooses_nothing_of_keepsPolling {s : Socket (Recorded (Polled Idle))} {cmd : Command}
    (h : s.keepsPolling cmd = true) :
    (∀ factory, cmd ≠ .replaceTransport factory) ∧ s.fallback? cmd = none := by
  unfold keepsPolling at h
  split at h
  · cases h
  · rename_i hother
    exact ⟨hother, Option.isNone_iff_eq_none.mp h⟩

theorem keepsPolling_of_keepsPolling (s : Socket (Recorded (Polled Idle))) (cmd : Command)
    (h : s.keepsPolling cmd = true) : KeepsPolling s cmd := by
  obtain ⟨hreplaces, hchoice⟩ := chooses_nothing_of_keepsPolling h
  rintro factory (heq | heq)
  · exact absurd heq (hreplaces factory)
  · rw [hchoice] at heq
    cases heq

theorem undemanding_of_undemanding (s : Socket (Recorded (Polled Idle))) (cmd : Command)
    (h : s.undemanding cmd = true) : Undemanding s cmd := by
  unfold undemanding at h
  split at h
  · cases h
  · cases h
  · obtain ⟨hposted, hkeeps⟩ := Bool.and_eq_true_iff.mp h
    refine ⟨⟨nofun, nofun, (chooses_nothing_of_keepsPolling hkeeps).2⟩,
      keepsPolling_of_keepsPolling s _ hkeeps, ?_⟩
    rintro t event ⟨⟩
    exact of_decide_eq_true hposted
  · rename_i hconnect hresume hother
    exact ⟨⟨hconnect, hresume, (chooses_nothing_of_keepsPolling h).2⟩,
      keepsPolling_of_keepsPolling s cmd h, fun t event heq => absurd heq (hother t event)⟩

/-- A socket on long-poll transports before a script is played. -/
def unpolled : Socket (Recorded (Polled Idle)) :=
  .new "ws://example.test/socket" .standard ⟨0, "longpoll", true, true⟩
    ⟨⟨⟨.connecting, 0⟩, .empty, [], []⟩, [], []⟩

/-- The server says that a session is not allowed. -/
def forbiddenAnswer : HttpResult := .ok (some (.object [("status", .nat 403)]))

/-- The socket hears of the end of its connection; the reconnect falls due, the connection is torn down,
and another transport polls. -/
def pollingAgain : List Doing :=
  [.deed .take, .deed .take, .deed (.fire (.reconnect 1)), .deed .take,
    .deed (.fire (.teardown 0 1)), .deed .take, .goes 1 .polls trivial]

/-- A forbidden session is retried though nobody asks for a connection. -/
theorem failed_poll_retried_once_heard_forbidden :
    ∃ (s u : Socket (Recorded (Polled Idle))) (c : Connection) (x : Exchange) (p : Polled Idle),
      s.OnLongPoll ∧ s.conn = some c ∧ s.polls.map Prod.fst = [0] ∧
      s.polled.go? c.transport (.pollEnds forbiddenAnswer) s.exchange = some (x, p) ∧
      Flows Undemanding (s.around x p) u ∧ u.polls.map Prod.fst = [0, 1] ∧
      Retried (s.around x p) u c ⟨LongPoll.forbiddenCode, some "forbidden", false⟩ := by
  obtain ⟨s, hplay, hview⟩ := Option.map_eq_some_iff.mp
    (show (unpolled.flow? keepsPolling
        [.deed .connect, .deed .take, .goes 0 .polls trivial]).map (fun s =>
          (s.conn.map Connection.transport, (s.longPoll? 0).map fun l => (l.cancelled, l.poll),
            s.reconnectTimer.slot.armed, s.teardown.isNone, s.polls.map Prod.fst,
            (s.polled.go? 0 (.pollEnds forbiddenAnswer) s.exchange).bind fun r =>
              ((s.around r.1 r.2).flow? undemanding pollingAgain).map fun u =>
                (((s.around r.1 r.2).longPoll? 1).isNone,
                  (s.around r.1 r.2).polls.map Prod.fst, u.polls.map Prod.fst))) =
      some (some 0, some (false, .waiting), false, true, [0], some (true, [0], [0, 1])) by cbv)
  simp only [Prod.mk.injEq] at hview
  obtain ⟨hconn, hphase, hunarmed, hidle, hpolls, hafter⟩ := hview
  obtain ⟨c, hconn, hfirst⟩ := Option.map_eq_some_iff.mp hconn
  obtain ⟨l, hl, hphase⟩ := Option.map_eq_some_iff.mp hphase
  obtain ⟨hlive, hwaits⟩ := Prod.mk.inj hphase
  obtain ⟨⟨x, p⟩, hgo, hafter⟩ := Option.bind_eq_some_iff.mp hafter
  obtain ⟨u, hafter, hview⟩ := Option.map_eq_some_iff.mp hafter
  simp only [Prod.mk.injEq] at hview
  obtain ⟨hnew, honce, hagain⟩ := hview
  have hs : s.OnLongPoll := ⟨_, _, _, _, rfl, flows_of_flow? keepsPolling_of_keepsPolling hplay⟩
  have hflows : Flows Undemanding (s.around x p) u := flows_of_flow? undemanding_of_undemanding hafter
  have hstill : s.link.Still := ⟨hunarmed, fun t ht => by
    have hnone : s.teardown = none := Option.isNone_iff_eq_none.mp hidle
    cases hnone.symm.trans ht⟩
  rw [← hfirst] at hl hgo
  obtain ⟨x', p', hgo', -, -, hretried, -⟩ := failed_poll_retried_once_heard hs hconn hl hlive hwaits
    (@LongPoll.Fails.forbidden (some (.object [("status", .nat 403)])) rfl)
  obtain ⟨rfl, rfl⟩ := Prod.mk.inj (Option.some_inj.mp (hgo.symm.trans hgo'))
  refine ⟨s, u, c, x, p, hs, hconn, hpolls, hgo, hflows, hagain, ?_⟩
  refine (hretried hstill u hflows).resolve_left ?_
  -- The last poll is made by a transport that there was not when the answer came.
  rintro ⟨late, hmade, -, hlate⟩
  have hnext : late.map Prod.fst = [1] := by
    have hpolls := hagain
    rw [hmade, List.map_append, honce] at hpolls
    exact (List.cons.inj hpolls).2
  obtain ⟨l', hl', -⟩ := hlate 1 (hnext ▸ List.mem_singleton_self 1)
  rw [hl'] at hnew
  cases hnew

end Outside

end Polled

end Socket

end Switchboard
