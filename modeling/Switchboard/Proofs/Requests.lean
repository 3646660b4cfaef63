import Switchboard.Proofs.Teardowns
import Switchboard.Proofs.Unwedged

/-!
# Requests for a connection

A socket that is asked to connect looks only at whether it holds a connection, not at what has become
of it.  So a request is answered where there is no connection, and no teardown either; it is not needed
where the connection is up, or where the teardown in flight goes on to connect.  It is lost on a
connection that has closed by itself, and on one that is torn down for any other purpose.

Main definitions

* `Socket.IsUp`: the connection connects or is open;
* `Socket.Bides`, `Socket.Settles`: nothing is asked of the socket until the teardown in flight is done;
* `Socket.Honours`, `Socket.Receptive`: when a request is answered;
* `Socket.Unprompted`: nothing is asked of the connection.

Main results

* `Socket.Reachable.link_timely`: a teardown that is left without its connection is out of date;
* `Socket.isUp_finishTeardown_iff`, `Socket.Settles.isUp_iff`: what comes of a teardown;
* `Socket.request_answered_iff`: a request leaves a connection that is up if, and only if, the socket
  was receptive.
-/

set_option autoImplicit false

namespace Switchboard

/-- A transport that has just been opened connects, or is open at once. -/
class Starting (ω : Type) [Outside ω] : Prop where
  opens : ∀ (request : OpenRequest) (x : Exchange) (o : ω),
    Outside.readyState (Outside.perform (.open request) x o).2 request.transport = .connecting ∨
      Outside.readyState (Outside.perform (.open request) x o).2 request.transport = .open

/-- Commands that ask something of the connection. -/
def Command.asksOfConnection : Command → Bool
  | .connect | .disconnect .. | .replaceTransport _ | .pause | .resume => true
  | _ => false

/-! ### Endpoints that are not relative -/

theorem appendQuery_eq (url query : String) : ∃ rest, appendQuery url query = url ++ rest := by
  unfold appendQuery
  split
  · exact ⟨"", (String.append_empty).symm⟩
  · split
    · exact ⟨"&" ++ query, String.append_assoc ..⟩
    · exact ⟨"?" ++ query, String.append_assoc ..⟩

/-- A text that goes on is relative as the text is. -/
theorem isRelative_append {endpoint : String} (h : endpoint ≠ "") (rest : String) :
    isRelative (endpoint ++ rest) = isRelative endpoint := by
  unfold isRelative
  rw [String.toList_append]
  cases hchars : endpoint.toList with
  | nil => exact absurd (String.toList_eq_nil_iff.mp hchars) h
  | cons c cs => simp [List.isPrefixOf]

/-- An endpoint that is not relative has an address, whatever the parameters are. -/
theorem endpointUrl_of_absolute {endpoint : String} (h : isRelative endpoint = false)
    (hne : endpoint ≠ "") (params : Json) (version : String) (origin : Option Origin) :
    ∃ url, endpointUrl endpoint params version origin = .ok url := by
  obtain ⟨query, hquery⟩ := appendQuery_eq endpoint (serializeParams params none)
  obtain ⟨rest, hrest⟩ := appendQuery_eq (endpoint ++ query)
    (serializeParams (.object [("vsn", .string version)]) none)
  have huri : endpointWithQuery endpoint params version = endpoint ++ (query ++ rest) := by
    simp only [endpointWithQuery, appendParams]
    rw [hquery, hrest, String.append_assoc]
  have habsolute : isRelative (endpointWithQuery endpoint params version) = false := by
    rw [huri, isRelative_append hne, h]
  exact ⟨endpointWithQuery endpoint params version, by simp [endpointUrl, habsolute]⟩

/-- A command that comes to an empty queue is the next one. -/
theorem Exchange.next?_post_of_idle {x : Exchange} (hopen : x.isOpen = true) (hidle : x.queue = [])
    (cmd : Command) : (x.post cmd).next? = some (cmd, x) := by
  cases x
  simp_all [Exchange.post, Exchange.post?, Exchange.next?]

namespace Link

/-- No teardown began later than now; one that is left without its connection began before. -/
def Timely (l : Link) : Prop :=
  ∀ ⦃t⦄, l.teardown = some t → t.clock ≤ l.connectClock ∧ (l.conn = none → t.clock < l.connectClock)

/-- A teardown that began at a time goes on in a way when it is done. -/
def Pledged (k : Continuation) (clock now : Nat) (l : Link) : Prop :=
  (∃ t, l.teardown = some t ∧ t.continuation = k ∧ t.clock = clock) ∧ l.connectClock = now

variable {l : Link}

theorem connectClock_dropped (l : Link) : l.dropped.connectClock = l.connectClock := by
  unfold dropped
  split <;> rfl

/-- The clock turns. -/
theorem Timely.later (h : l.Timely) ⦃t : Teardown⦄ (ht : l.teardown = some t) :
    t.clock < l.connectClock + 1 :=
  Nat.lt_succ_of_le (h ht).1

theorem timely_of_over (h : l.teardown = none) : l.Timely := by
  intro t ht
  rw [h] at ht
  cases ht

theorem Timely.turned (h : l.Timely) : l.turned.Timely :=
  fun _ ht => ⟨(h.later ht).le, fun _ => h.later ht⟩

theorem Timely.retired (h : l.Timely) : l.turned.parted.Timely := by
  unfold Link.parted
  split
  · exact h.turned
  · exact fun _ ht => ⟨(h.later ht).le, fun _ => h.later ht⟩

end Link

namespace Socket

variable {ω : Type} [Outside ω]
variable {s t u w : Socket (Recorded ω)} {cmd : Command} {k : Continuation} {l l' : Link}
variable {clock now : Nat}

/-! ### Teardowns and the clock -/

theorem Shift.timely (h : Shift s cmd l l') (hl : l.Timely) : l'.Timely := by
  cases h with
  | beats | prunes | opens | schedules | fires | pauses | resumes | loses | closes | replaces =>
    exact hl
  | turns => exact hl.turned
  | begins seeks live conn number continuation hclock =>
    rintro t ⟨⟩
    refine ⟨hclock.le, fun hvacant => ?_⟩
    rw [conn] at hvacant
    cases hvacant
  | drops | ends => exact Link.timely_of_over rfl
  | looks inFlight number continuation hclock =>
    rintro t ⟨⟩
    rw [hclock]
    exact hl inFlight
  | finishes => exact Link.timely_of_over (teardown_dropped _)
  | readies => exact fun _ ht => ⟨(hl.later ht).le, fun _ => hl.later ht⟩
  | connects => exact fun _ ht => ⟨(hl ht).1, nofun⟩
  | retires => exact hl.retired

/-- A teardown that is left without its connection is out of date: the transport was replaced. -/
theorem Reachable.link_timely {admits : Socket (Recorded ω) → Command → Prop}
    (h : Reachable admits s) : s.link.Timely := by
  obtain ⟨endpoint, config, factory, outside, run⟩ := h
  exact run.keeps_link (Link.timely_of_over rfl) fun _ _ shift hl => shift.timely hl

/-! ### Waiting for a teardown -/

/-- What a socket takes while it waits for a teardown: timers fire and transports close, and no other
teardown begins. -/
structure Bides (s : Socket (Recorded ω)) (cmd : Command) : Prop where
  command : (∃ event, cmd = .timer event) ∨ ∃ t event, cmd = .transport t (.closed event)
  seeks : ∀ k, ¬ Seeks s cmd k

/-- Nothing is asked of the socket until the teardown in flight is done; where there is none, nothing
happens. -/
inductive Settles : Socket (Recorded ω) → Socket (Recorded ω) → Prop
  | idle {s : Socket (Recorded ω)} (idle : s.teardown = none) : Settles s s
  | surroundings {s u : Socket (Recorded ω)} {x : Exchange} (inFlight : s.teardown.isSome = true)
    (acts : s.exchange.Acts x) (o : ω)
    (rest : Settles { s with exchange := x, outside := ⟨o, s.log, s.dealings⟩ } u) : Settles s u
  | take {s u : Socket (Recorded ω)} {cmd : Command} {x : Exchange}
    (inFlight : s.teardown.isSome = true) (next : s.exchange.next? = some (cmd, x))
    (bides : Bides { s with exchange := x } cmd)
    (rest : Settles ({ s with exchange := x }.handle cmd) u) : Settles s u

theorem Settles.eq_of_over (h : Settles s u) (hover : s.teardown = none) : u = s := by
  cases h with
  | idle => rfl
  | surroundings inFlight | take inFlight =>
    rw [hover] at inFlight
    cases inFlight

theorem Bides.not_replaces (h : Bides s cmd) : ¬ Replaces s cmd := by
  obtain ⟨_, rfl⟩ | ⟨_, _, rfl⟩ := h.command <;> exact not_replaces_of_ne nofun rfl

theorem Bides.not_asks (h : Bides s cmd) : ¬ Asks s cmd := by
  obtain ⟨_, rfl⟩ | ⟨_, _, rfl⟩ := h.command <;> exact not_asks_of_ne nofun nofun rfl

omit [Outside ω] in
/-- Only the timer of a teardown may go on after it. -/
theorem Bides.not_continues (h : Bides s cmd)
    (hother : ∀ number generation, cmd ≠ .timer (.teardown number generation)) :
    ¬ Continues s cmd k := by
  intro hcontinues
  cases hcontinues with
  | vacant seeks => exact h.seeks _ seeks
  | elapsed => exact hother _ _ rfl

/-- What happens meanwhile leaves the teardown as it is. -/
theorem Shift.pledged (h : Shift s cmd l l') (hb : Bides s cmd)
    (hother : ∀ number generation, cmd ≠ .timer (.teardown number generation))
    (hl : l.Pledged k clock now) : l'.Pledged k clock now := by
  have hsummons : ∀ {l}, ¬ Summons s cmd l := by
    rintro l (⟨asks, _⟩ | ⟨continues, _⟩)
    · exact hb.not_asks asks
    · exact hb.not_continues hother continues
  cases h with
  | beats | prunes | schedules | fires | closes => exact hl
  | opens command | pauses command | resumes command | ends command =>
    subst command
    obtain ⟨_, hcmd⟩ | ⟨_, _, hcmd⟩ := hb.command <;> cases hcmd
  | turns command =>
    obtain ⟨_, rfl⟩ | ⟨_, _, rfl⟩ := hb.command <;> cases command
  | loses seeks | begins seeks | drops seeks => exact absurd seeks (hb.seeks _)
  | looks inFlight number continuation hclock =>
    obtain ⟨⟨t, ht, hk, hc⟩, hnow⟩ := hl
    cases inFlight.symm.trans ht
    exact ⟨⟨_, rfl, continuation.trans hk, hclock.trans hc⟩, hnow⟩
  | finishes inFlight continues => exact absurd continues (hb.not_continues hother)
  | readies summons | connects summons => exact absurd summons hsummons
  | retires replaces | replaces replaces => exact absurd replaces hb.not_replaces

theorem pledged_handle (hb : Bides s cmd)
    (hother : ∀ number generation, cmd ≠ .timer (.teardown number generation))
    (hs : s.link.Pledged k clock now) : (s.handle cmd).link.Pledged k clock now :=
  (shifts_handle s cmd).keeps hs fun shift hl => shift.pledged hb hother hl

/-- The timer of a teardown fires: the teardown is still in flight, or it is done. -/
theorem teardownTimeout_cases (hs : s.link.Pledged k clock now) (number generation : Nat) :
    (s.teardownTimeout number generation).link.Pledged k clock now ∨
      ∃ (v : Socket (Recorded ω)) (t : Teardown), s.teardownTimeout number generation =
        v.finishTeardown t ∧ t.continuation = k ∧ t.clock = clock ∧ v.connectClock = now := by
  unfold teardownTimeout
  split
  · exact .inl hs
  · rename_i t ht
    obtain ⟨⟨t', ht', hk, hclock⟩, hnow⟩ := id hs
    cases ht.symm.trans ht'
    split
    · split
      · rename_i slot _
        unfold stepTeardown
        split
        · split
          · exact .inl ⟨⟨_, rfl, hk, hclock⟩, hnow⟩
          · left
            unfold closeConnection
            split <;> exact ⟨⟨_, rfl, hk, hclock⟩, hnow⟩
        · split
          · exact .inl ⟨⟨_, rfl, hk, hclock⟩, hnow⟩
          · exact .inr ⟨_, _, rfl, hk, hclock, hnow⟩
      · exact .inl hs
    · exact .inl hs

/-! ### Connections that are up -/

/-- The connection connects or is open. -/
def IsUp (s : Socket (Recorded ω)) : Prop := s.readyState = .connecting ∨ s.readyState = .open

/-- There is an address to connect to, whatever the parameters of the socket are. -/
def Resolvable (s : Socket (Recorded ω)) : Prop :=
  ∀ value, ∃ url, endpointUrl s.endpoint value s.config.version s.config.origin = .ok url

theorem not_isUp_of_vacant (h : s.conn = none) : ¬ s.IsUp := by
  simp [IsUp, readyState, h]

theorem teardown_connect (s : Socket (Recorded ω)) : s.connect.teardown = s.teardown := by
  unfold connect
  split
  · rfl
  · dsimp only
    split
    · rfl
    · exact congrArg Link.teardown (link_report _ _)

theorem endpoint_report (s : Socket (Recorded ω)) (failure : SocketError) :
    (s.report failure).endpoint = s.endpoint := by
  have hall : ∀ (registry : Registry OnError) (context : ErrorContext) (v : Socket (Recorded ω)),
      (runErrors failure registry context v).endpoint = v.endpoint := by
    intro registry
    induction registry with
    | nil => exact fun _ _ => rfl
    | cons entry rest ih =>
      obtain ⟨ref, callback | channel⟩ := entry
      · exact fun context v => ih _ (v.runError callback failure context).2
      · exact ih
  exact hall s.callbacks.onError s.errorContext s

/-- To connect leaves the endpoint, the version and the origin as they are. -/
theorem resolvable_of_connect (h : s.connect.Resolvable) : s.Resolvable := by
  unfold connect at h
  split at h
  · exact h
  · dsimp only at h
    split at h
    · exact h
    · rename_i cause _
      set s₁ : Socket (Recorded ω) := { s.tick with
        closeWasClean := false
        config := { s.config with params := s.config.params.resolve.2 } } with hs₁
      have hconfig : (s₁.report (.config cause)).config = s₁.config :=
        congrArg Link.config (link_report s₁ _)
      intro value
      obtain ⟨url, hurl⟩ := h value
      rw [endpoint_report, hconfig] at hurl
      exact ⟨url, hurl⟩

/-- Where there is no connection and an address, to connect brings one up. -/
theorem isUp_connect [Starting ω] (hvacant : s.conn = none) (h : s.Resolvable) :
    s.connect.IsUp := by
  obtain ⟨url, hurl⟩ := h s.config.params.resolve.1
  have hurl' : endpointUrl s.tick.endpoint s.config.params.resolve.1 s.config.version
    s.config.origin = .ok url := hurl
  simp only [connect, hvacant, Option.isSome_none, Bool.false_eq_true, if_false, hurl']
  exact Starting.opens ⟨s.nextTransport, s.factory, url, s.config.binaryType,
    s.config.longPollTimeout⟩ _ s.outside.outside

/-! ### What comes of a teardown -/

theorem teardown_continueWith (s : Socket (Recorded ω)) (k : Continuation) (clock : Nat) :
    (s.continueWith k clock).teardown = s.teardown := by
  cases k with
  | connect =>
    simp only [continueWith]
    split
    · exact teardown_connect s
    · rfl
  | scheduleReconnect =>
    simp only [continueWith]
    split <;> rfl
  | notify | nothing => rfl

/-- Without a connection a socket goes on to one that is up only if it is to connect, and in time. -/
theorem isUp_continueWith_iff [Starting ω] (hvacant : s.conn = none)
    (h : (s.continueWith k clock).Resolvable) :
    (s.continueWith k clock).IsUp ↔ k = .connect ∧ clock = s.connectClock := by
  cases k with
  | connect =>
    simp only [continueWith] at h ⊢
    split at h
    · rename_i hclock
      simp only [hclock, if_true]
      simpa using isUp_connect hvacant (resolvable_of_connect h)
    · rename_i hclock
      simpa [hclock] using not_isUp_of_vacant hvacant
  | scheduleReconnect =>
    have hconn : (s.continueWith .scheduleReconnect clock).conn = none := by
      simp only [continueWith]
      split <;> exact hvacant
    simpa using not_isUp_of_vacant hconn
  | notify ticket =>
    have hconn : (s.continueWith (.notify ticket) clock).conn = none := hvacant
    simpa using not_isUp_of_vacant hconn
  | nothing =>
    have hconn : (s.continueWith .nothing clock).conn = none := hvacant
    simpa using not_isUp_of_vacant hconn

/-- A teardown that is done leaves a connection that is up if it was to connect, and in time. -/
theorem isUp_finishTeardown_iff [Starting ω] {t : Teardown}
    (h : (s.finishTeardown t).Resolvable) :
    (s.finishTeardown t).IsUp ↔ t.continuation = .connect ∧ t.clock = s.connectClock := by
  have hdropped := link_dropConnection_notifyAll s t.waiters
  have hvacant := (congrArg Link.conn hdropped).trans (Link.conn_dropped _)
  have hclock := (congrArg Link.connectClock hdropped).trans (Link.connectClock_dropped _)
  have hiff := isUp_continueWith_iff hvacant h
  exact hiff.trans (and_congr_right fun _ => by rw [show Socket.connectClock _ = _ from hclock]; rfl)

theorem teardown_finishTeardown (s : Socket (Recorded ω)) (t : Teardown) :
    (s.finishTeardown t).teardown = none := by
  have hdropped := link_dropConnection_notifyAll s t.waiters
  exact (teardown_continueWith _ _ _).trans
    ((congrArg Link.teardown hdropped).trans (teardown_dropped _))

/-- Once a teardown is done, a connection is up if the teardown was to connect, and in time. -/
theorem Settles.isUp_iff [Starting ω] (h : Settles s u) (hs : s.link.Pledged k clock now)
    (hresolvable : u.Resolvable) : u.IsUp ↔ k = .connect ∧ clock = now := by
  induction h with
  | idle idle =>
    obtain ⟨⟨t, ht, _⟩, _⟩ := hs
    cases idle.symm.trans ht
  | surroundings inFlight acts o rest ih => exact ih hs hresolvable
  | @take s u cmd x inFlight next bides rest ih =>
    by_cases hteardown : ∃ number generation, cmd = .timer (.teardown number generation)
    · obtain ⟨number, generation, rfl⟩ := hteardown
      rcases teardownTimeout_cases (s := { s with exchange := x }) hs number generation with
        hstill | ⟨v, t, hdone, rfl, rfl, rfl⟩
      · exact ih hstill hresolvable
      · have hu : u = v.finishTeardown t := by
          have hhandle : ({ s with exchange := x } : Socket (Recorded ω)).handle
            (.timer (.teardown number generation)) = v.finishTeardown t := hdone
          rw [hhandle] at rest
          exact rest.eq_of_over (teardown_finishTeardown v t)
        subst hu
        exact isUp_finishTeardown_iff hresolvable
    · exact ih (pledged_handle bides (fun number generation heq => hteardown ⟨_, _, heq⟩) hs)
        hresolvable

/-! ### Requests -/

/-- A socket that is asked to connect does so where there is no connection; it resumes what was paused
last if nothing was asked of the connection since. -/
def Honours (s : Socket (Recorded ω)) : Command → Prop
  | .connect => True
  | .resume => s.awaitingResume = some s.connectClock
  | _ => False

/-- A request comes at a time when it is answered, or when it is not needed. -/
def Receptive (s : Socket (Recorded ω)) (cmd : Command) : Prop :=
  match s.teardown with
  | none => s.IsUp ∨ s.conn = none ∧ s.Honours cmd
  | some t => s.conn.isSome = true ∧ t.continuation = .connect ∧ t.clock = s.connectClock

/-- Nothing is asked of the connection, no callback falls back to another transport, and the socket does
not connect by itself. -/
structure Unprompted (s : Socket (Recorded ω)) (cmd : Command) : Prop where
  command : cmd.asksOfConnection = false
  fallback : s.fallback? cmd = none
  continues : ¬ Continues s cmd .connect

/-- A request that is not heeded, and one for which there is a connection, leave the connection as it
is. -/
theorem handle_request_of_held (request : cmd = .connect ∨ cmd = .resume)
    (h : s.conn.isSome = true ∨ ¬ s.Honours cmd) :
    ∃ paused, s.handle cmd = { s with awaitingResume := paused } := by
  rcases request with rfl | rfl
  · have hconn : s.conn.isSome = true := h.resolve_right (by simp [Honours])
    exact ⟨s.awaitingResume, by simp [handle, connect, hconn]⟩
  · simp only [handle, resume]
    split
    · rename_i hhonours
      have hconn : s.conn.isSome = true := h.resolve_right (by simpa [Honours] using hhonours)
      exact ⟨none, by simp [connect, hconn]⟩
    · exact ⟨s.awaitingResume, rfl⟩

theorem handle_request_of_honoured (request : cmd = .connect ∨ cmd = .resume) (h : s.Honours cmd) :
    ∃ paused, s.handle cmd = ({ s with awaitingResume := paused } : Socket (Recorded ω)).connect := by
  rcases request with rfl | rfl
  · exact ⟨s.awaitingResume, rfl⟩
  · have hpaused : s.awaitingResume = some s.connectClock := h
    exact ⟨none, by simp [handle, resume, hpaused]⟩

theorem connectClock_connect (hvacant : s.conn = none) :
    s.connect.connectClock = s.connectClock + 1 := by
  simp only [connect, hvacant, Option.isSome_none, Bool.false_eq_true, if_false]
  split
  · rfl
  · exact congrArg Link.connectClock (link_report _ _)

/-- Where no teardown is in flight, a request is answered at once. -/
theorem isUp_iff_receptive_of_over [Starting ω] (hover : s.teardown = none)
    (request : cmd = .connect ∨ cmd = .resume) (hresolvable : u.Resolvable)
    (hu : Settles (s.handle cmd) u) : u.IsUp ↔ s.Receptive cmd := by
  simp only [Receptive, hover]
  by_cases hvacant : s.conn = none
  · by_cases hhonours : s.Honours cmd
    · obtain ⟨paused, hhandle⟩ := handle_request_of_honoured request hhonours
      rw [hhandle] at hu
      cases hu.eq_of_over ((teardown_connect _).trans hover)
      simpa [hvacant, hhonours] using
        isUp_connect (s := { s with awaitingResume := paused }) hvacant
          (resolvable_of_connect hresolvable)
    · obtain ⟨paused, hhandle⟩ := handle_request_of_held request (.inr hhonours)
      rw [hhandle] at hu
      cases hu.eq_of_over hover
      simpa [hhonours, not_isUp_of_vacant hvacant] using
        not_isUp_of_vacant (s := { s with awaitingResume := paused }) hvacant
  · have hconn : s.conn.isSome = true := Option.isSome_iff_ne_none.mpr hvacant
    obtain ⟨paused, hhandle⟩ := handle_request_of_held request (.inl hconn)
    rw [hhandle] at hu
    cases hu.eq_of_over hover
    simp [hvacant, IsUp, readyState]

/-- A teardown in flight decides what comes of a request. -/
theorem isUp_iff_receptive_of_inFlight [Starting ω] {t : Teardown} (hs : s.link.Timely)
    (hflight : s.teardown = some t) (request : cmd = .connect ∨ cmd = .resume)
    (hresolvable : u.Resolvable) (hu : Settles (s.handle cmd) u) :
    u.IsUp ↔ s.Receptive cmd := by
  simp only [Receptive, hflight]
  by_cases hvacant : s.conn = none
  · have hearlier : t.clock < s.connectClock := (hs hflight).2 hvacant
    -- Whatever is opened now, the teardown gives it up.
    have hdown : ∃ now, s.connectClock ≤ now ∧
        (s.handle cmd).link.Pledged t.continuation t.clock now := by
      by_cases hhonours : s.Honours cmd
      · obtain ⟨paused, hhandle⟩ := handle_request_of_honoured request hhonours
        rw [hhandle]
        exact ⟨_, Nat.le_succ _, ⟨t, (teardown_connect _).trans hflight, rfl, rfl⟩,
          connectClock_connect hvacant⟩
      · obtain ⟨paused, hhandle⟩ := handle_request_of_held request (.inr hhonours)
        rw [hhandle]
        exact ⟨_, le_rfl, ⟨t, hflight, rfl, rfl⟩, rfl⟩
    obtain ⟨now, hnow, hpledged⟩ := hdown
    have hlate : t.clock ≠ now := by omega
    simpa [hvacant, hlate] using hu.isUp_iff hpledged hresolvable
  · have hconn : s.conn.isSome = true := Option.isSome_iff_ne_none.mpr hvacant
    obtain ⟨paused, hhandle⟩ := handle_request_of_held request (.inl hconn)
    have hpledged : (s.handle cmd).link.Pledged t.continuation t.clock s.connectClock := by
      rw [hhandle]
      exact ⟨⟨t, hflight, rfl, rfl⟩, rfl⟩
    simpa [hconn] using hu.isUp_iff hpledged hresolvable

theorem unprompted_shutdown (s : Socket (Recorded ω)) : Unprompted s .shutdown where
  command := rfl
  fallback := rfl
  continues := by
    rintro (⟨⟨⟩, _⟩)

theorem Unprompted.not_replaces (h : Unprompted s cmd) : ¬ Replaces s cmd := by
  refine not_replaces_of_ne (fun factory hcmd => ?_) h.fallback
  subst hcmd
  cases h.command

theorem Unprompted.not_asks (h : Unprompted s cmd) : ¬ Asks s cmd := by
  refine not_asks_of_ne ?_ ?_ h.fallback
  all_goals
    intro hcmd
    subst hcmd
    cases h.command

theorem Unprompted.not_summons (h : Unprompted s cmd) : ¬ Summons s cmd l := by
  rintro (⟨asks, _⟩ | ⟨continues, _⟩)
  · exact h.not_asks asks
  · exact h.continues continues

/-- As long as nothing is asked of the connection, a pause may be resumed. -/
theorem Shift.resumable (h : Shift s cmd l l') (hcmd : Unprompted s cmd)
    (hl : l.awaitingResume = some l.connectClock) : l'.awaitingResume = some l'.connectClock := by
  cases h with
  | beats | prunes | opens | schedules | fires | loses | begins | drops | looks | closes
  | connects | replaces | ends => exact hl
  | turns command =>
    cases cmd with
    | disconnect | pause => cases hcmd.command
    | _ => cases command
  | pauses => rfl
  | resumes command =>
    subst command
    cases hcmd.command
  | finishes =>
    unfold Link.dropped
    split <;> exact hl
  | readies summons => exact absurd summons hcmd.not_summons
  | retires replaces => exact absurd replaces hcmd.not_replaces

/-- A pause of a connection may be resumed as long as nothing else is asked of it. -/
theorem resumable_of_paused (hconn : w.conn.isSome = true) (h : Run Unprompted (w.handle .pause) s) :
    s.awaitingResume = some s.connectClock := by
  refine h.keeps_link (I := fun l => l.awaitingResume = some l.connectClock) ?_
    fun {v cmd _ _} _ hcmd shift hl => shift.resumable ?_ hl
  · simp only [handle, pause, hconn, if_true, link]
  · rcases hcmd with hadmitted | rfl
    · exact hadmitted
    · exact unprompted_shutdown v

/-- A request for a connection leaves one that is up, once the teardown in flight is done, if and only
if it comes at a time when the socket is receptive.  Where it is asked to resume, what is asked is to be
done as long as nothing was asked of the connection since the pause. -/
theorem request_answered_iff [Starting ω] {admits : Socket (Recorded ω) → Command → Prop}
    (h : Reachable admits s) (request : cmd = .connect ∨ cmd = .resume)
    (settles : Settles (s.handle cmd) u) (resolvable : u.Resolvable) :
    (u.IsUp ↔ s.Receptive cmd) ∧
      ∀ w : Socket (Recorded ω), w.conn.isSome = true → Run Unprompted (w.handle .pause) s →
        s.Honours .resume := by
  refine ⟨?_, fun w hconn hrun => resumable_of_paused hconn hrun⟩
  cases hteardown : s.teardown with
  | none => exact isUp_iff_receptive_of_over hteardown request resolvable settles
  | some t =>
    exact isUp_iff_receptive_of_inFlight h.link_timely hteardown request resolvable settles

/-! ### Requests in surroundings with one transport -/

instance : Starting Sole where
  opens request x o := .inl (by simp [Outside.readyState, Outside.perform])

/-- The transport changes as it pleases. -/
def becomes? (s : Socket (Recorded Sole)) (o : Idle) : Option (Socket (Recorded Sole)) :=
  some { s with outside := ⟨⟨s.outside.outside.transport, o.state⟩, s.log, s.dealings⟩ }

/-- Plays a script in which the transport changes as it pleases. -/
def playSole? (test : Socket (Recorded Sole) → Command → Bool) :
    List Deed → Socket (Recorded Sole) → Option (Socket (Recorded Sole)) := playIn? becomes? test

theorem run_of_playSole? {test : Socket (Recorded Sole) → Command → Bool}
    {admits : Socket (Recorded Sole) → Command → Prop} {s t : Socket (Recorded Sole)}
    (htest : ∀ s cmd, test s cmd = true → admits s cmd) {deeds : List Deed}
    (h : s.playSole? test deeds = some t) : Run admits s t := by
  refine steps_of_playIn? (fun s _ lawful => ?_) (fun {s o _} hbecome => ?_) (fun hnext hpass => ?_) h
  · exact .surroundings lawful s.outside.outside
  · cases hbecome
    exact .surroundings .refl _
  · exact .take hnext (htest _ _ hpass)

/-- The timers of a teardown that does not go on to connect. -/
def unprompted (s : Socket (Recorded Sole)) : Command → Bool
  | .timer (.teardown _ _) => s.teardown.all fun t => t.continuation ≠ .connect
  | _ => false

theorem unprompted_of_unprompted (s : Socket (Recorded Sole)) (cmd : Command)
    (h : s.unprompted cmd = true) : Unprompted s cmd := by
  unfold unprompted at h
  split at h
  · refine ⟨rfl, rfl, fun hcontinues => ?_⟩
    generalize hk : Continuation.connect = k at hcontinues
    cases hcontinues with
    | vacant seeks => cases seeks
    | elapsed inFlight => simp [inFlight, ← hk] at h
  · cases h

theorem Reachable.run {admits : Socket (Recorded Sole) → Command → Prop} {s t : Socket (Recorded Sole)}
    (h : Reachable (fun _ _ => True) s) (h' : Run admits s t) : Reachable (fun _ _ => True) t := by
  induction h' with
  | refl => exact h
  | tail _ step ih =>
    cases step with
    | surroundings acts o => exact ih.step (.surroundings acts o)
    | take next => exact ih.step (.take next trivial)
    | abandon => exact ih.step (.abandon _)

/-- A handle asks for something, and the socket takes it at once. -/
theorem reachable_handle {s : Socket (Recorded Sole)} (h : Reachable (fun _ _ => True) s)
    (hopen : s.exchange.isOpen = true) (hidle : s.exchange.queue.isEmpty = true) {cmd : Command}
    (hplain : cmd.IsPlain) : Reachable (fun _ _ => True) (s.handle cmd) := by
  have hnext := Exchange.next?_post_of_idle hopen (List.isEmpty_iff.mp hidle) cmd
  have hposted := h.step (.surroundings (.single (.post hplain s.exchange)) s.outside.outside)
  exact hposted.step (.take hnext trivial)

/-- What a script comes to can be reached; a view of it is computed by playing the script. -/
theorem reachable_of_playSole? {α : Type} {view : Socket (Recorded Sole) → α} {a : α}
    {deeds : List Deed} (h : (poised.playSole? (fun _ _ => true) deeds).map view = some a) :
    ∃ s, Reachable (fun _ _ => True) s ∧ view s = a := by
  obtain ⟨s, hplay, hview⟩ := Option.map_eq_some_iff.mp h
  exact ⟨s, ⟨_, _, _, _, run_of_playSole? (fun _ _ _ => trivial) hplay⟩, hview⟩

theorem resolvable_of_endpoint {s : Socket (Recorded Sole)}
    (h : s.endpoint = "ws://example.test/socket/websocket") : s.Resolvable := by
  intro value
  rw [h]
  exact endpointUrl_of_absolute (by decide) (by decide) value _ _

/-- A connection is open, and nothing is left to do. -/
def connected : List Deed := connecting ++ [.become ⟨.open, 0⟩]

/-- The transport closes as it was asked to, and the teardown takes note of it. -/
def tornDown : List Deed := [.become ⟨.closed, 0⟩, .fire (.teardown 0 1), .take]

/-- A pause is resumed once its teardown is done. -/
theorem request_answered_iff_resumed : ∃ s u w : Socket (Recorded Sole),
    Reachable (fun _ _ => True) s ∧ w.conn.isSome = true ∧ Run Unprompted (w.handle .pause) s ∧
    Settles (s.handle .resume) u ∧ u.Resolvable ∧ u.IsUp ∧ s.Honours .resume := by
  obtain ⟨w, hw, hview⟩ := reachable_of_playSole?
    (show (poised.playSole? (fun _ _ => true) connected).map (fun w =>
        (w.exchange.isOpen, w.exchange.queue.isEmpty, w.conn.isSome,
          ((w.handle .pause).playSole? unprompted tornDown).map fun s : Socket (Recorded Sole) =>
            (s.teardown, s.conn.isNone, (s.handle .resume).teardown,
              (s.handle .resume).endpoint))) =
      some (true, true, true, some (none, true, none, "ws://example.test/socket/websocket")) by cbv)
  simp only [Prod.mk.injEq] at hview
  obtain ⟨hopen, hidle, hconn, hafter⟩ := hview
  obtain ⟨s, hplay, hview⟩ := Option.map_eq_some_iff.mp hafter
  simp only [Prod.mk.injEq] at hview
  obtain ⟨hover, hvacant, hover', hendpoint⟩ := hview
  have hrun : Run Unprompted (w.handle .pause) s := run_of_playSole? unprompted_of_unprompted hplay
  have hplain : Command.pause.IsPlain := fun _ => rfl
  have hs : Reachable (fun _ _ => True) s := (reachable_handle hw hopen hidle hplain).run hrun
  have hresolvable : (s.handle .resume).Resolvable := resolvable_of_endpoint hendpoint
  have hanswered := request_answered_iff hs (.inr rfl) (.idle hover') hresolvable
  have hhonours : s.Honours .resume := hanswered.2 w hconn hrun
  have hreceptive : s.Receptive .resume := by
    simp only [Receptive, hover]
    exact .inr ⟨Option.isNone_iff_eq_none.mp hvacant, hhonours⟩
  exact ⟨s, s.handle .resume, w, hs, hconn, hrun, .idle hover', hresolvable,
    hanswered.1.mpr hreceptive, hhonours⟩

/-- A request is lost on a connection that the server has closed as it should be. -/
theorem connect_lost_after_close : ∃ s : Socket (Recorded Sole), Reachable (fun _ _ => True) s ∧
    s.teardown = none ∧ s.conn.isSome = true ∧ (s.handle .connect).Resolvable ∧
    Settles (s.handle .connect) (s.handle .connect) ∧ ¬ (s.handle .connect).IsUp := by
  obtain ⟨s, hs, hview⟩ := reachable_of_playSole?
    (show (poised.playSole? (fun _ _ => true) (connected ++
        [.report 0 (.closed ⟨1000, none, true⟩), .become ⟨.closed, 0⟩, .take])).map (fun s =>
        (s.teardown, s.conn.isSome, (s.handle .connect).endpoint, (s.handle .connect).teardown,
          (s.handle .connect).readyState)) =
      some (none, true, "ws://example.test/socket/websocket", none, .closed) by cbv)
  simp only [Prod.mk.injEq] at hview
  obtain ⟨hover, hconn, hendpoint, hover', hdown⟩ := hview
  exact ⟨s, hs, hover, hconn, resolvable_of_endpoint hendpoint, .idle hover', by simp [IsUp, hdown]⟩

/-- The timers of teardowns. -/
def looksAgain (_ : Socket (Recorded Sole)) : Command → Bool
  | .timer (.teardown _ _) => true
  | _ => false

/-- Plays a script until the teardown in flight is done; only its timer fires. -/
def settle? : List Deed → Socket (Recorded Sole) → Option (Socket (Recorded Sole))
  | [], s => if s.teardown.isNone then some s else none
  | deed :: rest, s =>
    if s.teardown.isSome then (s.doIn? becomes? looksAgain deed).bind (settle? rest) else none

theorem settles_of_settle? {deeds : List Deed} {s u : Socket (Recorded Sole)}
    (h : s.settle? deeds = some u) : Settles s u := by
  induction deeds generalizing s with
  | nil =>
    obtain ⟨hover, heq⟩ := Option.ite_none_right_eq_some.mp h
    cases heq
    exact .idle (Option.isNone_iff_eq_none.mp hover)
  | cons deed rest ih =>
    obtain ⟨hflight, h⟩ := Option.ite_none_right_eq_some.mp h
    obtain ⟨v, hdeed, hrest⟩ := Option.bind_eq_some_iff.mp h
    cases deed with
    | acts f lawful =>
      cases hdeed
      exact .surroundings hflight (lawful _) s.outside.outside (ih hrest)
    | become o =>
      cases hdeed
      exact .surroundings hflight .refl _ (ih hrest)
    | take =>
      simp only [doIn?] at hdeed
      split at hdeed
      · cases hdeed
      · rename_i cmd x hnext
        obtain ⟨htest, heq⟩ := Option.ite_none_right_eq_some.mp hdeed
        cases heq
        refine .take hflight hnext ?_ (ih hrest)
        unfold looksAgain at htest
        split at htest
        · refine ⟨.inl ⟨_, rfl⟩, fun k seeks => ?_⟩
          cases seeks
        · cases htest

/-- A pause is resumed before its teardown is done: the request is lost. -/
theorem resume_lost_while_tearing_down : ∃ s u w : Socket (Recorded Sole),
    Reachable (fun _ _ => True) s ∧ w.conn.isSome = true ∧ Run Unprompted (w.handle .pause) s ∧
    Settles (s.handle .resume) u ∧ u.Resolvable ∧ s.Honours .resume ∧ ¬ u.IsUp := by
  obtain ⟨w, hw, hview⟩ := reachable_of_playSole?
    (show (poised.playSole? (fun _ _ => true) connected).map (fun w =>
        (w.exchange.isOpen, w.exchange.queue.isEmpty, w.conn.isSome,
          (((w.handle .pause).handle .resume).settle? tornDown).map fun u : Socket (Recorded Sole) =>
            (u.endpoint, u.readyState))) =
      some (true, true, true, some ("ws://example.test/socket/websocket", .closed)) by cbv)
  simp only [Prod.mk.injEq] at hview
  obtain ⟨hopen, hidle, hconn, hafter⟩ := hview
  obtain ⟨u, hsettle, hview⟩ := Option.map_eq_some_iff.mp hafter
  simp only [Prod.mk.injEq] at hview
  obtain ⟨hendpoint, hdown⟩ := hview
  exact ⟨w.handle .pause, u, w, reachable_handle hw hopen hidle fun _ => rfl, hconn, .refl,
    settles_of_settle? hsettle, resolvable_of_endpoint hendpoint, resumable_of_paused hconn .refl,
    by simp [IsUp, hdown]⟩

end Socket

end Switchboard
