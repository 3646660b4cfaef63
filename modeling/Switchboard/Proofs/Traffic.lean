import Mathlib
import Switchboard.Proofs.Polling

/-!
# The traffic of a long-poll transport

The turns of a transport with the requests that they make.  Each task waits for its request before it
makes the next, so of either kind at most one is in flight.  The delivering task takes the frames in
the order in which they were sent, and no frame twice.  The polling task hears the bodies that answer
its requests for as long as the transport is not over: their messages are reported in order, and the
latest of them alone says which token the next request echoes.

A request that is made late, after the transport was closed, still echoes that token.  The answer of a
poll that comes later than the close is dropped, with its token and its messages.

Main definitions

* `LongPoll.Transfer`, `LongPoll.Traffic`: turns with their requests, one after another;
* `LongPoll.bodies`: the bodies that the polling task heard;
* `LongPoll.tokenOf`, `LongPoll.spoken`: the token and the messages of a body;
* `LongPoll.Paced`, `LongPoll.Carried`: what the traffic so far says about the transport.

Main results

* `LongPoll.hears_of_turn?`: what a turn makes of the token and which messages it reports;
* `LongPoll.Traffic.carried`: the log of a traffic tells its tokens, messages and frames;
* `LongPoll.Traffic.in_order`: requests, messages and tokens of a traffic.
-/

set_option autoImplicit false

namespace Switchboard

/-- The frame that a transport reports to have received. -/
def TransportEvent.frame? : TransportEvent → Option Frame
  | .received frame => some frame
  | _ => none

namespace LongPoll

/-! ### Turns with their requests -/

/-- The request that a turn makes. -/
def request? (l : LongPoll) : Turn → Option HttpRequest
  | .polls => l.startPoll?.map (·.1)
  | .pollsLate => some (l.request none)
  | .posts => l.startPost?.map (·.1)
  | .postsLate => l.outbound.head?.map fun body => l.request (some body)
  | _ => none

/-- A turn with what it posted to the socket and the request that it made. -/
structure Transfer extends Entry where
  request : Option HttpRequest
  deriving Inhabited

/-- Turns of a transport with their requests, one after another. -/
inductive Traffic (l : LongPoll) : List Transfer → LongPoll → Prop
  | start : Traffic l [] l
  | turn {log : List Transfer} {m m' : LongPoll} {turn : Turn} {events : List TransportEvent}
      (htraffic : Traffic l log m) (hturn : m.turn? turn = some (events, m')) :
      Traffic l (log ++ [⟨⟨turn, events⟩, m.request? turn⟩]) m'

variable {l m l₀ : LongPoll} {t : Turn} {events : List TransportEvent} {log : List Transfer}
variable {url : String} {timeout : Nat}

theorem Traffic.cons (hturn : l₀.turn? t = some (events, l)) (h : Traffic l log m) :
    Traffic l₀ (⟨⟨t, events⟩, l₀.request? t⟩ :: log) m := by
  induction h with
  | start => exact .turn .start hturn
  | turn _ hnext ih => exact .turn ih hnext

/-- What turns do one after another, if each of them is somebody's turn. -/
def trace? (l : LongPoll) : List Turn → Option (List Transfer × LongPoll)
  | [] => some ([], l)
  | t :: rest =>
    match l.turn? t with
    | some (events, m) =>
      (m.trace? rest).map fun r => (⟨⟨t, events⟩, l.request? t⟩ :: r.1, r.2)
    | none => none

theorem traffic_of_trace? {turns : List Turn} (h : l.trace? turns = some (log, m)) :
    Traffic l log m := by
  induction turns generalizing l log with
  | nil =>
    cases h
    exact .start
  | cons t rest ih =>
    unfold trace? at h
    split at h
    · next events m' hturn =>
      obtain ⟨⟨more, last⟩, hrest, heq⟩ := Option.map_eq_some_iff.1 h
      cases heq
      exact .cons hturn (ih hrest)
    · cases h

/-! ### What a log tells -/

/-- A turn that answers a poll. -/
def Turn.endsPoll : Turn → Bool
  | .pollEnds _ => true
  | _ => false

/-- A turn that answers a delivery. -/
def Turn.endsPost : Turn → Bool
  | .postEnds _ => true
  | _ => false

/-- A turn in which the socket closes the transport or gives it up. -/
def Turn.leaves : Turn → Bool
  | .closes _ _ | .abandons => true
  | _ => false

/-- The text frame that the socket sends. -/
def Turn.text? : Turn → Option String
  | .sends (.text body) => some body
  | _ => none

/-- The body that answers a poll. -/
def Turn.body? : Turn → Option Json
  | .pollEnds (.ok body) => body
  | _ => none

/-- The transport is over after this entry: the socket left it, or it reported a close. -/
def Entry.isLast (e : Entry) : Bool := e.turn.leaves || e.events.any (·.IsClose)

/-- The polls that were started, each a request without a body. -/
def polls (log : List Transfer) : Nat := log.countP fun e => e.request.any (·.body.isNone)

/-- The polls that were answered. -/
def answeredPolls (log : List Transfer) : Nat := log.countP (·.turn.endsPoll)

/-- The bodies of the deliveries that were started. -/
def posted (log : List Transfer) : List String := log.filterMap fun e => e.request.bind (·.body)

/-- The deliveries that were answered. -/
def answeredPosts (log : List Transfer) : Nat := log.countP (·.turn.endsPost)

/-- The text frames that the socket sent. -/
def texts (log : List Transfer) : List String := log.filterMap (·.turn.text?)

/-- The frames that were reported as received. -/
def received (log : List Transfer) : List Frame :=
  log.flatMap fun e => e.events.filterMap TransportEvent.frame?

/-- The bodies that answered a poll while the transport was not over. -/
def bodies : List Transfer → List Json
  | [] => []
  | e :: rest => e.turn.body?.toList ++ if e.isLast then [] else bodies rest

/-- The token that a body names, if it is a text. -/
def tokenOf (body : Json) : Option String :=
  match body.get? "token" with
  | some (.string token) => some token
  | _ => none

/-- The messages that a body with the status 200 brings: texts as they are, others as compact JSON. -/
def spoken (body : Json) : List String :=
  match body.get? "status", body.get? "messages" with
  | some (.number (.integer 200)), some (.array items) => items.map fun
    | .string text => text
    | other => other.compact
  | _, _ => []

/-- An endpoint with a token as a parameter. -/
def addressWith (endpoint : String) : Option String → String
  | none => endpoint
  | some token => appendQuery endpoint (String.ofList ("token=".toList ++ percentEncode token))

section Concat

variable {e : Transfer}

theorem polls_concat (log : List Transfer) (e : Transfer) :
    polls (log ++ [e]) = polls log + if e.request.any (·.body.isNone) then 1 else 0 := by
  simp [polls, List.countP_append, List.countP_singleton]

theorem answeredPolls_concat (log : List Transfer) (e : Transfer) :
    answeredPolls (log ++ [e]) = answeredPolls log + if e.turn.endsPoll then 1 else 0 := by
  simp [answeredPolls, List.countP_append, List.countP_singleton]

theorem answeredPosts_concat (log : List Transfer) (e : Transfer) :
    answeredPosts (log ++ [e]) = answeredPosts log + if e.turn.endsPost then 1 else 0 := by
  simp [answeredPosts, List.countP_append, List.countP_singleton]

theorem posted_concat (log : List Transfer) (e : Transfer) :
    posted (log ++ [e]) = posted log ++ (e.request.bind (·.body)).toList := by
  cases h : e.request.bind (·.body) <;> simp [posted, List.filterMap_append, h]

theorem texts_concat (log : List Transfer) (e : Transfer) :
    texts (log ++ [e]) = texts log ++ e.turn.text?.toList := by
  cases h : e.turn.text? <;> simp [texts, List.filterMap_append, h]

theorem received_concat (log : List Transfer) (e : Transfer) :
    received (log ++ [e]) = received log ++ e.events.filterMap TransportEvent.frame? := by
  simp [received]

/-- The last body counts if nothing before it was the end. -/
theorem bodies_concat (log : List Transfer) (e : Transfer) :
    bodies (log ++ [e]) =
      bodies log ++ if log.any (·.isLast) then [] else e.turn.body?.toList := by
  induction log with
  | nil => simp [bodies]
  | cons first rest ih =>
    cases hlast : first.isLast with
    | true => simp [bodies, hlast]
    | false => simp [bodies, hlast, ih]

end Concat

/-! ### Addresses -/

theorem percentEncode_token : percentEncode "token" = "token".toList := by decide

theorem url_eq (l : LongPoll) : l.url = addressWith l.endpoint l.token := by
  unfold LongPoll.url addressWith
  cases l.token with
  | none => rfl
  | some token =>
    have hpair : Query.memberPairs none [("token", .string token)]
        = "token".toList ++ '=' :: percentEncode token := by
      simp only [Query.memberPairs, Query.childPath, Query.pairs, Query.pair, percentEncode_token]
      rfl
    simp only [appendParams, serializeParams, hpair]
    rfl

/-! ### Bodies -/

theorem status_eq_iff (body : Json) :
    status (some body) = 200 ↔ body.get? "status" = some (.number (.integer 200)) := by
  simp only [status, statedStatus?, Option.bind_some]
  constructor
  · intro h
    cases hstated : body.get? "status" with
    | none => simp [hstated] at h
    | some v =>
      rw [hstated, Option.bind_some] at h
      unfold Json.word? at h
      split at h
      · next i =>
        split_ifs at h with hi
        · have hval : i = 200 := by
            simp only [Option.getD_some] at h
            omega
          rw [hval]
        · simp at h
      · simp at h
  · intro h
    rw [h]
    rfl

/-- The messages are taken from a body with the status 200 only. -/
theorem spoken_eq (body : Json) :
    spoken body = if status (some body) = 200 then messages (some body) else [] := by
  unfold spoken
  split_ifs with h
  · rw [(status_eq_iff body).1 h]
    unfold messages
    cases hmessages : body.get? "messages" with
    | none => simp [hmessages]
    | some v =>
      cases v with
      | array items =>
        have hitems : (((some body).bind fun b => b.get? "messages").bind Json.array?).getD [] = items := by
          simp [hmessages, Json.array?]
        refine Eq.trans ?_ (congrArg (List.map _) hitems.symm)
        exact List.map_congr_left fun item _ => by cases item <;> rfl
      | _ => simp [hmessages, Json.array?]
  · split
    · next hstated _ => exact absurd ((status_eq_iff body).2 hstated) h
    · rfl

theorem tokenOf_eq (body : Json) : tokenOf body = (body.get? "token").bind Json.string? := by
  unfold tokenOf
  cases body.get? "token" with
  | none => rfl
  | some v => cases v <;> rfl

/-! ### Answers -/

theorem frames_closeWith (l : LongPoll) (event : CloseEvent) :
    (l.closeWith event).1.filterMap TransportEvent.frame? = [] := by
  unfold closeWith
  split_ifs <;> rfl

theorem frames_failWith (l : LongPoll) (cause : TransportError) (code : Nat) (reason : String) :
    (l.failWith cause code reason).1.filterMap TransportEvent.frame? = [] :=
  frames_closeWith l _

/-- A body with the status 200 is reported message by message, and no other brings a message. -/
theorem frames_takeBody (l : LongPoll) (body : Option Json) :
    (l.takeBody body).1.filterMap TransportEvent.frame? =
      if status body = 200 then (messages body).map Frame.text else [] := by
  unfold takeBody
  split
  · next h => simp [h, List.filterMap_map, Function.comp_def, TransportEvent.frame?]
  · next h => simp [h]
  · next h => simp [h, TransportEvent.frame?]
  · next h => exact (frames_failWith l _ _ _).trans (by simp [h])
  · next h => exact (frames_failWith l _ _ _).trans (by simp [h])
  · next h => exact (frames_failWith l _ _ _).trans (by simp [h])
  · next h200 _ _ _ _ _ => exact (frames_failWith l _ _ _).trans (if_neg h200).symm

/-- A body leaves everything as it was but how the transport goes on. -/
theorem takeBody_keeps (l : LongPoll) (body : Option Json) :
    (l.takeBody body).2.endpoint = l.endpoint ∧ (l.takeBody body).2.token = l.token ∧
      (l.takeBody body).2.outbound = l.outbound ∧ (l.takeBody body).2.deliver = l.deliver ∧
      (l.takeBody body).2.poll ≠ .waiting := by
  unfold takeBody
  split <;> exact ⟨rfl, rfl, rfl, rfl, by simp [endPoll]⟩

/-- The body that a turn makes the polling task hear. -/
def heard? (l : LongPoll) (t : Turn) : Option Json := if l.cancelled then none else t.body?

/-- What a turn does to the token, and which frames it reports: those of the body that is heard. -/
structure Hears (l : LongPoll) (t : Turn) (events : List TransportEvent) (m : LongPoll) : Prop where
  endpoint : m.endpoint = l.endpoint
  token : m.token = (l.heard? t).elim l.token tokenOf
  frames : events.filterMap TransportEvent.frame? =
    (l.heard? t).elim [] fun body => (spoken body).map Frame.text

/-- Whoever is not the polling task hears nothing. -/
theorem Hears.nothing (hbody : t.body? = none) (hendpoint : m.endpoint = l.endpoint)
    (htoken : m.token = l.token) (hframes : events.filterMap TransportEvent.frame? = []) :
    Hears l t events m := by
  have hheard : l.heard? t = none := by simp [heard?, hbody]
  exact ⟨hendpoint, by rw [hheard, htoken]; rfl, by rw [hheard, hframes]; rfl⟩

theorem hears_pollAnswered (l : LongPoll) (result : HttpResult) :
    Hears l (.pollEnds result) (l.pollAnswered result).1 (l.pollAnswered result).2 := by
  unfold pollAnswered
  split_ifs with hover
  · exact ⟨rfl, by simp [heard?, hover, endPoll], by simp [heard?, hover, endPoll]⟩
  cases result with
  | ok body =>
    cases body with
    | none =>
      obtain ⟨hendpoint, htoken, -⟩ := takeBody_keeps l none
      exact .nothing rfl hendpoint htoken (frames_takeBody l none)
    | some body =>
      obtain ⟨hendpoint, htoken, -⟩ := takeBody_keeps (l.storeToken (some body)) (some body)
      have hheard : l.heard? (.pollEnds (.ok (some body))) = some body := by
        simp [heard?, hover, Turn.body?]
      refine ⟨hendpoint, ?_, ?_⟩
      · rw [hheard, htoken]
        exact (tokenOf_eq body).symm
      · rw [hheard, frames_takeBody, Option.elim_some, spoken_eq]
        split_ifs <;> rfl
  | error cause =>
    have hbody : (Turn.pollEnds (.error cause)).body? = none := rfl
    cases cause
    case timeout => exact .nothing hbody rfl rfl (frames_failWith l _ _ _)
    all_goals
      obtain ⟨hendpoint, htoken, -⟩ := takeBody_keeps l none
      exact .nothing hbody hendpoint htoken (frames_takeBody l none)

/-- An answered poll leaves the deliveries alone, and the polling task no longer waits. -/
theorem pollAnswered_keeps (l : LongPoll) (result : HttpResult) :
    (l.pollAnswered result).2.outbound = l.outbound ∧
      (l.pollAnswered result).2.deliver = l.deliver ∧ (l.pollAnswered result).2.poll ≠ .waiting := by
  unfold pollAnswered
  split_ifs with hover
  · exact ⟨rfl, rfl, by simp [endPoll]⟩
  split
  · next body =>
    obtain ⟨-, -, houtbound, hdeliver, hpoll⟩ := takeBody_keeps (l.storeToken body) body
    refine ⟨houtbound.trans ?_, hdeliver.trans ?_, hpoll⟩ <;> cases body <;> rfl
  · exact ⟨rfl, rfl, by simp [endPoll]⟩
  · exact (takeBody_keeps l none).2.2

/-- An answered delivery leaves the polls alone, and the delivering task no longer waits. -/
theorem postAnswered_keeps (l : LongPoll) (result : HttpResult) :
    (l.postAnswered result).2.endpoint = l.endpoint ∧ (l.postAnswered result).2.token = l.token ∧
      (l.postAnswered result).2.outbound = l.outbound ∧ (l.postAnswered result).2.poll = l.poll ∧
      (l.postAnswered result).2.deliver ≠ .waiting ∧
      (l.postAnswered result).1.filterMap TransportEvent.frame? = [] := by
  unfold postAnswered
  split_ifs with hover
  · exact ⟨rfl, rfl, rfl, rfl, by simp [endDeliver], rfl⟩
  split
  · split_ifs
    · exact ⟨rfl, rfl, rfl, rfl, by simp, rfl⟩
    · exact ⟨rfl, rfl, rfl, rfl, by simp [endDeliver], frames_failWith l _ _ _⟩
  · exact ⟨rfl, rfl, rfl, rfl, by simp, rfl⟩
  · exact ⟨rfl, rfl, rfl, rfl, by simp [endDeliver], frames_failWith l _ _ _⟩

/-! ### One turn -/

theorem startPoll?_eq_some {r : HttpRequest × LongPoll} (h : l.startPoll? = some r) :
    l.poll = .idle ∧ r = (l.request none, { l with poll := .waiting }) := by
  obtain ⟨hidle, hr⟩ := by simpa [startPoll?] using h
  exact ⟨hidle.1, hr.symm⟩

theorem startPost?_eq_some {r : HttpRequest × LongPoll} (h : l.startPost? = some r) :
    l.deliver = .idle ∧ ∃ body rest, l.outbound = body :: rest ∧
      r = (l.request (some body), { l with deliver := .waiting, outbound := rest }) := by
  unfold startPost? at h
  split at h
  · cases h
  · next body rest houtbound =>
    obtain ⟨hidle, hr⟩ := by simpa using h
    exact ⟨hidle.1, body, rest, houtbound, hr.symm⟩

theorem hears_of_turn? (h : l.turn? t = some (events, m)) : Hears l t events m := by
  cases t with
  | polls =>
    obtain ⟨r, hr, heq⟩ := Option.map_eq_some_iff.1 h
    obtain ⟨-, rfl⟩ := startPoll?_eq_some hr
    cases heq
    exact .nothing rfl rfl rfl rfl
  | pollsLate =>
    obtain ⟨-, rfl, rfl⟩ := by simpa [turn?] using h
    exact .nothing rfl rfl rfl rfl
  | pollEnds result =>
    obtain ⟨-, heq⟩ := by simpa [turn?] using h
    simpa [heq] using hears_pollAnswered l result
  | pollQuits =>
    obtain ⟨-, rfl, rfl⟩ := by simpa [turn?, endPoll] using h
    exact .nothing rfl rfl rfl rfl
  | posts =>
    obtain ⟨r, hr, heq⟩ := Option.map_eq_some_iff.1 h
    obtain ⟨-, body, rest, -, rfl⟩ := startPost?_eq_some hr
    cases heq
    exact .nothing rfl rfl rfl rfl
  | postsLate =>
    obtain ⟨-, rfl, rfl⟩ := by simpa [turn?] using h
    exact .nothing rfl rfl rfl rfl
  | postEnds result =>
    obtain ⟨-, heq⟩ := by simpa [turn?] using h
    obtain ⟨hendpoint, htoken, -, -, -, hframes⟩ := postAnswered_keeps l result
    rw [heq] at hendpoint htoken hframes
    exact .nothing rfl hendpoint htoken hframes
  | deliverQuits =>
    obtain ⟨-, rfl, rfl⟩ := by simpa [turn?, endDeliver] using h
    exact .nothing rfl rfl rfl rfl
  | sends frame =>
    have heq : l.send frame = (events, m) := by simpa [turn?] using h
    unfold send at heq
    split at heq
    · cases heq
      exact .nothing rfl rfl rfl rfl
    · split_ifs at heq <;> cases heq <;> exact .nothing rfl rfl rfl rfl
  | closes code reason =>
    have heq : l.close code reason = (events, m) := by simpa [turn?] using h
    have hframes := frames_closeWith l ⟨code.getD CloseEvent.normalCode, reason, true⟩
    cases heq
    exact .nothing rfl rfl rfl hframes
  | abandons =>
    obtain ⟨rfl, rfl⟩ := by simpa [turn?] using h
    exact .nothing rfl rfl rfl rfl

/-- A transport is over after a turn if it was, if the socket leaves it or if it reports a close. -/
theorem cancelled_of_turn? (h : l.turn? t = some (events, m)) :
    m.cancelled = (l.cancelled || Entry.isLast ⟨t, events⟩) := by
  by_cases hleaves : t = .abandons
  · subst hleaves
    obtain ⟨rfl, rfl⟩ := by simpa [turn?] using h
    simp [abandon, Entry.isLast, Turn.leaves]
  have hleaves_iff : t.leaves = true → t.Closes := by
    cases t with
    | closes => exact fun _ => trivial
    | abandons => exact absurd rfl hleaves
    | _ => exact fun hl => by cases hl
  cases effect_of_turn? h with
  | stays hready hcancelled hturn hevents hover =>
    have hclose : events.any (·.IsClose) = false := by
      simpa using fun e he => (hevents e he).1
    have hstays : t.leaves = false := by
      rw [Bool.eq_false_iff]
      exact fun hl => hturn (hleaves_iff hl)
    simp [Entry.isLast, hcancelled, hclose, hstays]
  | opens hlive hturn hready hcancelled =>
    have hstays : t.leaves = false := by
      rw [Bool.eq_false_iff]
      exact fun hl => hturn.not_closes (hleaves_iff hl)
    simp [Entry.isLast, hcancelled, hlive, hstays]
  | ends event hlive hfailures hready hcancelled =>
    simp [Entry.isLast, hcancelled]
  | closesAgain hover hturn hready hcancelled => simp [hover, hcancelled]
  | abandoned hturn hready hcancelled => exact absurd hturn hleaves

/-- What a turn does to the two tasks and to the frames that wait. -/
inductive Work (l : LongPoll) : Turn → LongPoll → Prop
  /-- The polling task makes a request. -/
  | asks {turn : Turn} (hturn : turn = .polls ∨ turn = .pollsLate) (hidle : l.poll = .idle)
      (hrequest : l.request? turn = some (l.request none)) :
      Work l turn { l with poll := .waiting }
  | pollEnds {result : HttpResult} {m : LongPoll} (hwaiting : l.poll = .waiting)
      (hpoll : m.poll ≠ .waiting) (hdeliver : m.deliver = l.deliver)
      (houtbound : m.outbound = l.outbound) :
      Work l (.pollEnds result) m
  | pollQuits : Work l .pollQuits { l with poll := .ended }
  /-- The delivering task makes a request with the first frame that waits. -/
  | takes {turn : Turn} {body : String} {rest : List String}
      (hturn : turn = .posts ∨ turn = .postsLate) (hidle : l.deliver = .idle)
      (houtbound : l.outbound = body :: rest)
      (hrequest : l.request? turn = some (l.request (some body))) :
      Work l turn { l with deliver := .waiting, outbound := rest }
  | postEnds {result : HttpResult} {m : LongPoll} (hwaiting : l.deliver = .waiting)
      (hdeliver : m.deliver ≠ .waiting) (hpoll : m.poll = l.poll)
      (houtbound : m.outbound = l.outbound) :
      Work l (.postEnds result) m
  | deliverQuits : Work l .deliverQuits { l with deliver := .ended }
  | accepts {body : String} (hdeliver : l.deliver ≠ .ended) :
      Work l (.sends (.text body)) { l with outbound := l.outbound ++ [body] }
  /-- A frame is refused if it is binary or the delivering task is gone. -/
  | refuses {frame : Frame} (hframe : (∃ bytes, frame = .binary bytes) ∨ l.deliver = .ended) :
      Work l (.sends frame) l
  | leaves {turn : Turn} {m : LongPoll} (hturn : turn.leaves = true) (hpoll : m.poll = l.poll)
      (hdeliver : m.deliver = l.deliver) (houtbound : m.outbound = l.outbound) :
      Work l turn m

theorem work_of_turn? (h : l.turn? t = some (events, m)) : Work l t m := by
  cases t with
  | polls =>
    obtain ⟨r, hr, heq⟩ := Option.map_eq_some_iff.1 h
    obtain ⟨hidle, rfl⟩ := startPoll?_eq_some hr
    cases heq
    exact .asks (.inl rfl) hidle (by rw [request?, hr]; rfl)
  | pollsLate =>
    obtain ⟨⟨hidle, -⟩, rfl, rfl⟩ := by simpa [turn?] using h
    exact .asks (.inr rfl) hidle rfl
  | pollEnds result =>
    obtain ⟨hwaiting, heq⟩ := by simpa [turn?] using h
    obtain ⟨houtbound, hdeliver, hpoll⟩ := pollAnswered_keeps l result
    rw [heq] at houtbound hdeliver hpoll
    exact .pollEnds hwaiting hpoll hdeliver houtbound
  | pollQuits =>
    obtain ⟨-, rfl, rfl⟩ := by simpa [turn?, endPoll] using h
    exact .pollQuits
  | posts =>
    obtain ⟨r, hr, heq⟩ := Option.map_eq_some_iff.1 h
    obtain ⟨hidle, body, rest, houtbound, rfl⟩ := startPost?_eq_some hr
    cases heq
    exact .takes (.inl rfl) hidle houtbound (by rw [request?, hr]; rfl)
  | postsLate =>
    obtain ⟨⟨⟨hidle, -⟩, hsome⟩, rfl, rfl⟩ := by simpa [turn?] using h
    obtain ⟨body, rest, houtbound⟩ := List.exists_cons_of_ne_nil hsome
    rw [houtbound]
    exact .takes (.inr rfl) hidle houtbound (by rw [request?, houtbound]; rfl)
  | postEnds result =>
    obtain ⟨hwaiting, heq⟩ := by simpa [turn?] using h
    obtain ⟨-, -, houtbound, hpoll, hdeliver, -⟩ := postAnswered_keeps l result
    rw [heq] at houtbound hpoll hdeliver
    exact .postEnds hwaiting hdeliver hpoll houtbound
  | deliverQuits =>
    obtain ⟨-, rfl, rfl⟩ := by simpa [turn?, endDeliver] using h
    exact .deliverQuits
  | sends frame =>
    have heq : l.send frame = (events, m) := by simpa [turn?] using h
    unfold send at heq
    split at heq
    · cases heq
      exact .refuses (.inl ⟨_, rfl⟩)
    · split_ifs at heq with hdeliver
      · cases heq
        exact .refuses (.inr hdeliver)
      · cases heq
        exact .accepts hdeliver
  | closes code reason =>
    have heq : l.close code reason = (events, m) := by simpa [turn?] using h
    cases heq
    exact .leaves rfl rfl rfl rfl
  | abandons =>
    obtain ⟨rfl, rfl⟩ := by simpa [turn?] using h
    exact .leaves rfl rfl rfl rfl

/-- A turn in which the socket leaves makes no request and is nobody's answer. -/
theorem leaves_idle (h : t.leaves = true) :
    l.request? t = none ∧ t.endsPoll = false ∧ t.endsPost = false ∧ t.text? = none := by
  cases t with
  | closes | abandons => exact ⟨rfl, rfl, rfl, rfl⟩
  | _ => cases h

/-! ### One request at a time -/

/-- How many requests of a task were made and how many answered, by what the task is at. -/
def Paced (phase : TaskPhase) (made answered : Nat) : Prop :=
  match phase with
  | .idle => made = answered
  | .waiting => made = answered + 1
  | .ended => answered ≤ made ∧ made ≤ answered + 1

variable {phase phase' : TaskPhase} {made answered : Nat}

theorem Paced.le (h : Paced phase made answered) : made ≤ answered + 1 := by
  cases phase with
  | idle => exact h.le.trans (Nat.le_succ _)
  | waiting => exact h.le
  | ended => exact h.2

theorem Paced.ge (h : Paced phase made answered) : answered ≤ made := by
  cases phase with
  | idle => exact Eq.ge h
  | waiting => exact (Nat.le_succ _).trans (Eq.ge h)
  | ended => exact h.1

theorem Paced.make (h : Paced phase made answered) (hphase : phase = .idle) :
    Paced .waiting (made + 1) answered := by
  subst hphase
  exact congrArg (· + 1) h

theorem Paced.answer (h : Paced phase made answered) (hphase : phase = .waiting)
    (hphase' : phase' ≠ .waiting) : Paced phase' made (answered + 1) := by
  subst hphase
  have heq : made = answered + 1 := h
  cases phase' with
  | idle => exact heq
  | waiting => exact absurd rfl hphase'
  | ended => exact ⟨heq.ge, heq.le.trans (Nat.le_succ _)⟩

theorem Paced.quit (h : Paced phase made answered) : Paced .ended made answered := ⟨h.ge, h.le⟩

/-- Only the polling task makes requests without a body, and only while it waits for none. -/
theorem Work.polls (h : Work l t m) (hpaced : Paced l.poll made answered) :
    Paced m.poll (made + if (l.request? t).any (·.body.isNone) then 1 else 0)
      (answered + if t.endsPoll then 1 else 0) := by
  cases h with
  | asks hturn hidle hrequest =>
    rw [hrequest]
    rcases hturn with rfl | rfl <;> exact hpaced.make hidle
  | pollEnds hwaiting hpoll hdeliver houtbound => exact hpaced.answer hwaiting hpoll
  | pollQuits => exact hpaced.quit
  | takes hturn hidle houtbound hrequest =>
    rw [hrequest]
    rcases hturn with rfl | rfl <;> exact hpaced
  | postEnds hwaiting hdeliver hpoll houtbound =>
    rw [hpoll]
    exact hpaced
  | deliverQuits => exact hpaced
  | accepts hdeliver => exact hpaced
  | refuses hframe => exact hpaced
  | leaves hturn hpoll hdeliver houtbound =>
    obtain ⟨hrequest, hends, -⟩ := leaves_idle (l := l) hturn
    rw [hrequest, hends, hpoll]
    exact hpaced

/-- Only the delivering task makes requests with a body, and only while it waits for none. -/
theorem Work.posts (h : Work l t m) (hpaced : Paced l.deliver made answered) :
    Paced m.deliver (made + ((l.request? t).bind (·.body)).toList.length)
      (answered + if t.endsPost then 1 else 0) := by
  cases h with
  | asks hturn hidle hrequest =>
    rw [hrequest]
    rcases hturn with rfl | rfl <;> exact hpaced
  | pollEnds hwaiting hpoll hdeliver houtbound =>
    rw [hdeliver]
    exact hpaced
  | pollQuits => exact hpaced
  | takes hturn hidle houtbound hrequest =>
    rw [hrequest]
    rcases hturn with rfl | rfl <;> exact hpaced.make hidle
  | postEnds hwaiting hdeliver hpoll houtbound => exact hpaced.answer hwaiting hdeliver
  | deliverQuits => exact hpaced.quit
  | accepts hdeliver => exact hpaced
  | refuses hframe => exact hpaced
  | leaves hturn hpoll hdeliver houtbound =>
    obtain ⟨hrequest, -, hends, -⟩ := leaves_idle (l := l) hturn
    rw [hrequest, hends, hdeliver]
    exact hpaced

/-! ### Frames in their order -/

/-- The frames that were sent are those that were posted, then those that wait; but nothing is known
of what waits once the delivering task is gone. -/
def InOrder (l : LongPoll) (sent posted : List String) : Prop :=
  ∃ rest, sent = posted ++ rest ∧ (l.deliver ≠ .ended → rest = l.outbound)

theorem InOrder.congr {sent posted : List String} (h : InOrder l sent posted)
    (hdeliver : m.deliver = l.deliver) (houtbound : m.outbound = l.outbound) :
    InOrder m sent posted := by
  unfold InOrder
  rwa [hdeliver, houtbound]

theorem Work.inOrder {sent posted : List String} (h : Work l t m) (horder : InOrder l sent posted) :
    InOrder m (sent ++ t.text?.toList) (posted ++ ((l.request? t).bind (·.body)).toList) := by
  -- Most turns neither send nor post.
  have hsilent (hrequest : (l.request? t).bind (·.body) = none) (htext : t.text? = none)
      (hm : InOrder m sent posted) :
      InOrder m (sent ++ t.text?.toList) (posted ++ ((l.request? t).bind (·.body)).toList) := by
    rw [hrequest, htext]
    simpa using hm
  obtain ⟨waiting, hsent, hwaiting⟩ := id horder
  cases h with
  | asks hturn hidle hrequest =>
    refine hsilent (by rw [hrequest]; rfl) (by rcases hturn with rfl | rfl <;> rfl) ?_
    exact horder.congr rfl rfl
  | pollEnds _ hpoll hdeliver houtbound =>
    exact hsilent rfl rfl (horder.congr hdeliver houtbound)
  | pollQuits => exact hsilent rfl rfl (horder.congr rfl rfl)
  | @takes t body rest hturn hidle houtbound hrequest =>
    have htext : t.text? = none := by rcases hturn with rfl | rfl <;> rfl
    have hrest : waiting = body :: rest := by rw [hwaiting (by simp [hidle]), houtbound]
    exact ⟨rest, by simp [hsent, htext, hrequest, request, hrest], fun _ => rfl⟩
  | postEnds hpost hdeliver hpoll houtbound =>
    refine hsilent rfl rfl ⟨waiting, hsent, fun _ => ?_⟩
    rw [houtbound, hwaiting (by simp [hpost])]
  | deliverQuits => exact hsilent rfl rfl ⟨waiting, hsent, fun hends => absurd rfl hends⟩
  | @accepts body hdeliver =>
    refine ⟨waiting ++ [body], by simp [hsent, request?, Turn.text?], fun hends => ?_⟩
    rw [hwaiting hends]
  | @refuses frame hframe =>
    rcases hframe with ⟨bytes, rfl⟩ | hended
    · exact hsilent rfl rfl horder
    · exact ⟨waiting ++ (Turn.sends frame).text?.toList, by simp [hsent, request?],
        fun hends => absurd hended hends⟩
  | leaves hturn hpoll hdeliver houtbound =>
    obtain ⟨hrequest, -, -, htext⟩ := leaves_idle (l := l) hturn
    exact hsilent (by rw [hrequest]; rfl) htext (horder.congr hdeliver houtbound)

/-! ### Whole runs -/

/-- What the log of a traffic says about the transport. -/
structure Carried (endpoint : String) (log : List Transfer) (l : LongPoll) : Prop where
  endpoint : l.endpoint = endpoint
  cancelled : l.cancelled = log.any (·.isLast)
  /-- The token is that of the last body that was heard. -/
  token : l.token = (bodies log).getLast?.bind tokenOf
  frames : received log = ((bodies log).flatMap spoken).map Frame.text
  polls : Paced l.poll (polls log) (answeredPolls log)
  posts : Paced l.deliver (posted log).length (answeredPosts log)
  order : InOrder l (texts log) (posted log)

theorem Carried.new (url : String) (timeout : Nat) :
    Carried (longPollEndpoint url) [] (.new url timeout) :=
  ⟨rfl, rfl, rfl, rfl, rfl, rfl, [], rfl, fun _ => rfl⟩

/-- One turn: the log goes on to tell the tokens, the messages and the frames. -/
theorem Carried.turn {endpoint : String} (h : Carried endpoint log l)
    (hturn : l.turn? t = some (events, m)) :
    Carried endpoint (log ++ [⟨⟨t, events⟩, l.request? t⟩]) m := by
  have hears : Hears l t events m := hears_of_turn? hturn
  have work : Work l t m := work_of_turn? hturn
  have hbodies : bodies (log ++ [⟨⟨t, events⟩, l.request? t⟩])
      = bodies log ++ (l.heard? t).toList := by
    rw [bodies_concat, ← h.cancelled, heard?]
    cases l.cancelled <;> rfl
  refine ⟨hears.endpoint.trans h.endpoint, ?_, ?_, ?_, ?_, ?_, ?_⟩
  · rw [cancelled_of_turn? hturn, h.cancelled]
    simp
  · rw [hears.token, hbodies]
    cases l.heard? t with
    | none => simpa using h.token
    | some body => simp
  · rw [received_concat, hears.frames, hbodies, h.frames]
    cases l.heard? t <;> simp
  · rw [polls_concat, answeredPolls_concat]
    exact work.polls h.polls
  · rw [posted_concat, answeredPosts_concat, List.length_append]
    exact work.posts h.posts
  · rw [posted_concat, texts_concat]
    exact work.inOrder h.order

theorem Traffic.carried (h : Traffic (.new url timeout) log l) :
    Carried (longPollEndpoint url) log l := by
  induction h with
  | start => exact .new url timeout
  | turn _ hturn ih => exact ih.turn hturn

/-- Every entry of a traffic is a turn of the transport that the entries before it lead to. -/
theorem Traffic.turn_of_split (h : Traffic l₀ log l) {before after : List Transfer} {e : Transfer}
    (hlog : log = before ++ e :: after) :
    ∃ m m', Traffic l₀ before m ∧ m.turn? e.turn = some (e.events, m') ∧
      e.request = m.request? e.turn := by
  induction h generalizing after with
  | start => simp at hlog
  | @turn log m m' t events htraffic hturn ih =>
    rcases List.eq_nil_or_concat after with rfl | ⟨rest, last, rfl⟩
    · obtain ⟨rfl, rfl⟩ := List.append_singleton_inj.1 hlog
      exact ⟨m, m', htraffic, hturn, rfl⟩
    · rw [List.concat_eq_append, ← List.cons_append, ← List.append_assoc] at hlog
      exact ih (List.append_singleton_inj.1 hlog).1

theorem url_of_request? {r : HttpRequest} (h : l.request? t = some r) : r.url = l.url := by
  cases t with
  | polls =>
    obtain ⟨s, hs, rfl⟩ := Option.map_eq_some_iff.1 h
    rw [(startPoll?_eq_some hs).2]
    rfl
  | pollsLate =>
    cases h
    rfl
  | posts =>
    obtain ⟨s, hs, rfl⟩ := Option.map_eq_some_iff.1 h
    obtain ⟨-, body, rest, -, rfl⟩ := startPost?_eq_some hs
    rfl
  | postsLate =>
    obtain ⟨body, -, rfl⟩ := Option.map_eq_some_iff.1 h
    rfl
  | _ => cases h

/--
The traffic of a transport, whatever is answered and whoever goes on next.  Of the polls and of the
deliveries at most one is not answered.  The bodies that were posted are, in order, the first of the
text frames that were sent; a binary frame makes no request and is reported as unsupported.  The
frames that are reported as received are, in order, the messages of the answers with the status 200
that came to a poll before the transport was over.  And each request goes to the endpoint with the
token of the latest body that came to a poll before it, or without one if that body named none.
-/
theorem Traffic.in_order (h : Traffic (.new url timeout) log l) :
    (answeredPolls log ≤ polls log ∧ polls log ≤ answeredPolls log + 1) ∧
      (answeredPosts log ≤ (posted log).length ∧ (posted log).length ≤ answeredPosts log + 1) ∧
      posted log <+: texts log ∧
      (∀ e ∈ log, ∀ bytes, e.turn = .sends (.binary bytes) →
        e.request = none ∧ e.events = [.failed .binaryUnsupported]) ∧
      received log = ((bodies log).flatMap spoken).map Frame.text ∧
      ∀ before e after r, log = before ++ e :: after → e.request = some r →
        r.url = addressWith (longPollEndpoint url) ((bodies before).getLast?.bind tokenOf) := by
  have hcarried := h.carried
  obtain ⟨rest, hrest, -⟩ := hcarried.order
  refine ⟨⟨hcarried.polls.ge, hcarried.polls.le⟩, ⟨hcarried.posts.ge, hcarried.posts.le⟩,
    ⟨rest, hrest.symm⟩, ?_, hcarried.frames, ?_⟩
  · intro e he bytes hbinary
    obtain ⟨before, after, hlog⟩ := List.append_of_mem he
    obtain ⟨m, m', -, hturn, hrequest⟩ := h.turn_of_split hlog
    rw [hbinary] at hturn hrequest
    exact ⟨hrequest, (congrArg Prod.fst (Option.some.inj hturn)).symm⟩
  · intro before e after r hlog hr
    obtain ⟨m, m', hbefore, -, hrequest⟩ := h.turn_of_split hlog
    rw [hr] at hrequest
    rw [url_of_request? hrequest.symm, url_eq, hbefore.carried.endpoint, hbefore.carried.token]

/-- The answer of a poll. -/
def answerOf (status : Nat) (members : Members) : HttpResult :=
  .ok (some (.object (("status", .nat status) :: members)))

/-- The token changes, and then there is none; the socket closes while frames wait. -/
def busyTurns : List Turn :=
  [.polls, .pollEnds (answerOf 410 [("token", .string "t1")]), .sends (.text "a"),
    .sends (.binary []), .posts, .polls,
    .pollEnds (answerOf 200 [("token", .string "t2"), ("messages", .array [.string "b", .null])]),
    .postEnds (answerOf 200 []), .polls, .pollEnds (answerOf 204 []), .sends (.text "c"),
    .closes none none, .postsLate, .sends (.text "d"), .deliverQuits]

/-- What a new transport does in these turns. -/
def busy : List Transfer × LongPoll := ((new "ws://host/socket" 20000).trace? busyTurns).getD default

theorem in_order_busy :
    Traffic (new "ws://host/socket" 20000) busy.1 busy.2 ∧ posted busy.1 <+: texts busy.1 ∧
      received busy.1 = [.text "b", .text "null"] ∧
      (busy.1[4]?.bind (·.request)).map (·.url) =
        some (addressWith (longPollEndpoint "ws://host/socket") (some "t1")) := by
  have htrace : (new "ws://host/socket" 20000).trace? busyTurns = some busy := rfl
  have htraffic : Traffic (new "ws://host/socket" 20000) busy.1 busy.2 := traffic_of_trace? htrace
  obtain ⟨-, -, hposted, -, hreceived, hurl⟩ := htraffic.in_order
  refine ⟨htraffic, hposted, hreceived.trans rfl, ?_⟩
  exact congrArg some (hurl (busy.1.take 4) busy.1[4] (busy.1.drop 5) _ rfl rfl)

end LongPoll

end Switchboard
