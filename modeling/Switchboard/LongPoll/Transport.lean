import Switchboard.Endpoint.Address
import Switchboard.Socket.Command

/-!
# The long-poll transport

A connection made of repeated requests.  One task polls: the status in the body of each answer says
whether messages came, whether the connection is open, or why it is over.  The other task delivers
the frames that were sent, one request at a time.  Closing the transport ends both tasks; a request
in flight is given up with its task.

Main definitions

* `HttpRequest`, `HttpResult`;
* `LongPoll`, `LongPoll.new`;
* `LongPoll.startPoll?`, `LongPoll.pollAnswered`: the polling task;
* `LongPoll.startPost?`, `LongPoll.postAnswered`: the delivering task;
* `LongPoll.send`, `LongPoll.close`.
-/

set_option autoImplicit false

namespace Switchboard

/-- A request of the long-poll transport; a body makes it one that delivers. -/
structure HttpRequest where
  url : String
  accept : String
  body : Option String
  timeout : Nat
  deriving DecidableEq, Repr, Inhabited

/-- How a request ended: with a body, with one that is no JSON value, or not at all. -/
abbrev HttpResult : Type := Except TransportError (Option Json)

/-- What a task of the transport is at. -/
inductive TaskPhase where
  /-- About to make the next request, if there is one to make. -/
  | idle
  /-- A request is in flight. -/
  | waiting
  | ended
  deriving DecidableEq, Repr, Inhabited

/-- A connection made of repeated requests. -/
structure LongPoll where
  endpoint : String
  timeout : Nat
  /-- The session that the last poll named. -/
  token : Option String
  ready : ReadyState
  /-- The transport was closed. -/
  cancelled : Bool
  /-- Frames that were sent and not yet delivered. -/
  outbound : List String
  poll : TaskPhase
  deliver : TaskPhase
  deriving DecidableEq, Inhabited

namespace LongPoll

/-- The content type that every request names. -/
def contentType : String := "application/json"

/-- A transport for the address of a websocket. -/
def new (url : String) (timeout : Nat) : LongPoll :=
  ⟨longPollEndpoint url, timeout, none, .connecting, false, [], .idle, .idle⟩

/-- The address of the next request: it echoes the token. -/
def url (l : LongPoll) : String :=
  match l.token with
  | some token => appendParams l.endpoint (.object [("token", .string token)])
  | none => l.endpoint

/-- A request with the present token. -/
def request (l : LongPoll) (body : Option String) : HttpRequest :=
  ⟨l.url, contentType, body, l.timeout⟩

/-! ### Bodies -/

/-- The status that a body states. -/
def statedStatus? (body : Option Json) : Option Nat :=
  (body.bind fun b => b.get? "status").bind Json.word?

/-- The status of a body, zero if it states none. -/
def status (body : Option Json) : Nat := (statedStatus? body).getD 0

/-- The largest status that has a name. -/
def maxStatus : Nat := 0xFFFF

/-- The messages of a body: texts as they are, other values as compact JSON. -/
def messages (body : Option Json) : List String :=
  (((body.bind fun b => b.get? "messages").bind Json.array?).getD []).map fun
    | .string text => text
    | other => other.compact

/-- Keeps the token that a body names; a body without one takes the token away. -/
def storeToken (l : LongPoll) (body : Option Json) : LongPoll :=
  match body with
  | some b => { l with token := (b.get? "token").bind Json.string? }
  | none => l

/-! ### Closing -/

/-- Closes the transport, which reports it the first time. -/
def closeWith (l : LongPoll) (event : CloseEvent) : List TransportEvent × LongPoll :=
  (if l.cancelled then [] else [.closed event], { l with cancelled := true, ready := .closed })

/-- The socket asks the transport to close. -/
def close (l : LongPoll) (code : Option Nat) (reason : Option String) :
    List TransportEvent × LongPoll :=
  l.closeWith ⟨code.getD CloseEvent.normalCode, reason, true⟩

/-- The transport is given up. -/
def abandon (l : LongPoll) : LongPoll := { l with cancelled := true }

/-- Reports a failure and closes; both tasks end. -/
def failWith (l : LongPoll) (cause : TransportError) (code : Nat) (reason : String) :
    List TransportEvent × LongPoll :=
  let (events, l) := l.closeWith ⟨code, some reason, false⟩
  (.failed cause :: events, l)

/-- Reports a failure and closes, in such a way that the socket connects again. -/
def failAndRetry (l : LongPoll) (cause : TransportError) (code : Nat) (reason : String) :
    List TransportEvent × LongPoll :=
  let (events, l) := l.failWith cause code reason
  -- Not closed: a teardown of the socket will ask it to close once more.
  (events, { l with ready := .connecting })

/-- The close code of a connection that stopped answering. -/
def timeoutCode : Nat := 1005

/-- The close code of a connection that the server does not allow. -/
def forbiddenCode : Nat := 1008

/-- The close code of a failure of the server. -/
def serverErrorCode : Nat := 1011

/-- Reports a failure of the server and closes. -/
def failOfServer (l : LongPoll) (cause : TransportError) : List TransportEvent × LongPoll :=
  l.failAndRetry cause serverErrorCode "internal server error"

/-! ### Polling -/

/-- The next poll; nothing if one is in flight or the transport is closed. -/
def startPoll? (l : LongPoll) : Option (HttpRequest × LongPoll) :=
  if l.poll = .idle && !l.cancelled then some (l.request none, { l with poll := .waiting })
  else none

/-- The polling task ends. -/
def endPoll (r : List TransportEvent × LongPoll) : List TransportEvent × LongPoll :=
  (r.1, { r.2 with poll := .ended })

/-- A poll has come to a body: its status says how to go on. -/
def takeBody (l : LongPoll) (body : Option Json) : List TransportEvent × LongPoll :=
  match status body with
  | 200 => ((messages body).map fun text => .received (.text text), { l with poll := .idle })
  | 204 => ([], { l with poll := .idle })
  | 410 => ([.opened], { l with poll := .idle, ready := .open })
  | 403 => endPoll (l.failWith .forbidden forbiddenCode "forbidden")
  | 0 | 500 => endPoll (l.failOfServer (.http (some 500)))
  | other =>
    let code := min other maxStatus
    endPoll (l.failWith (.unhandledPollStatus code) CloseEvent.normalCode
      ("unhandled poll status " ++ natText code))

/-- A poll has ended. -/
def pollAnswered (l : LongPoll) (result : HttpResult) : List TransportEvent × LongPoll :=
  if l.cancelled then endPoll ([], l)
  else
    match result with
    | .ok body => (l.storeToken body).takeBody body
    | .error .timeout => endPoll (l.failAndRetry .timeout timeoutCode "timeout")
    | .error _ => l.takeBody none

/-! ### Delivering -/

/-- The next delivery; nothing if one is in flight, nothing was sent or the transport is closed. -/
def startPost? (l : LongPoll) : Option (HttpRequest × LongPoll) :=
  match l.outbound with
  | [] => none
  | body :: rest =>
    if l.deliver = .idle && !l.cancelled then
      some (l.request (some body), { l with deliver := .waiting, outbound := rest })
    else none

/-- The delivering task ends. -/
def endDeliver (r : List TransportEvent × LongPoll) : List TransportEvent × LongPoll :=
  (r.1, { r.2 with deliver := .ended })

/-- The status that a body states, if it is one that has a name. -/
def namedStatus? (body : Option Json) : Option Nat :=
  (statedStatus? body).filter (· ≤ maxStatus)

/-- A delivery has ended; only a timeout lets the task go on after a failure. -/
def postAnswered (l : LongPoll) (result : HttpResult) : List TransportEvent × LongPoll :=
  if l.cancelled then endDeliver ([], l)
  else
    match result with
    | .ok body =>
      if status body = 200 then ([], { l with deliver := .idle })
      else endDeliver (l.failOfServer (.http (namedStatus? body)))
    | .error .timeout => ([.failed .timeout], { l with deliver := .idle })
    | .error cause => endDeliver (l.failOfServer cause)

/-- A task that finds the transport closed ends. -/
def endIfCancelled (l : LongPoll) : LongPoll :=
  if l.cancelled then { l with poll := .ended, deliver := .ended } else l

/-! ### Sending -/

/-- Takes a frame for delivery; binary frames cannot be delivered. -/
def send (l : LongPoll) (frame : Frame) : List TransportEvent × LongPoll :=
  match frame with
  | .binary _ => ([.failed .binaryUnsupported], l)
  | .text body =>
    if l.deliver = .ended then ([.failed .closed], l)
    else ([], { l with outbound := l.outbound ++ [body] })

end LongPoll

end Switchboard
