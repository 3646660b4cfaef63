import Switchboard.Json.Value
import Switchboard.Text.Utf8

/-!
# Payloads and replies

The body of a message is a JSON value, raw bytes, or the status and response of a binary reply.
A reply in a text frame is an ordinary JSON object with a `status`; `Payload.reply?` reads both
kinds alike.

Main definitions

* `Payload`, `Reply`;
* `Payload.reply?`: the reply that a payload carries;
* `Payload.tagged`: a payload as a JSON object with its kind;
* `Reply.json?`: the JSON form of a reply.
-/

set_option autoImplicit false

namespace Switchboard

/-- The body of a message. -/
inductive Payload where
  | json (value : Json)
  | bytes (value : Bytes)
  | reply (status : String) (response : Payload)
  deriving Inhabited

/-- The answer to a push: a status and a response. -/
structure Reply where
  status : String
  response : Payload
  deriving Inhabited

namespace Status

/-- The push was accepted. -/
def ok : String := "ok"

/-- The push was refused. -/
def error : String := "error"

/-- No reply came in time. -/
def timeout : String := "timeout"

end Status

namespace Payload

/-- The payload of a message that carries no data. -/
def empty : Payload := .json .empty

/-- The absent payload. -/
def absent : Payload := .json .null

/-- A JSON `null` stands for no payload at all. -/
def isPresent : Payload → Bool
  | .json .null => false
  | _ => true

/-- The JSON value of a payload from a text frame. -/
def json? : Payload → Option Json
  | .json v => some v
  | _ => none

/-- The raw bytes of a payload from a binary frame. -/
def bytes? : Payload → Option Bytes
  | .bytes b => some b
  | _ => none

/--
The reply that a payload carries: a binary reply, or a JSON object whose `status` is a string.
A missing `response` reads as `null`.
-/
def reply? : Payload → Option Reply
  | .reply status response => some ⟨status, response⟩
  | .json (.object members) =>
    match Members.get? members "status" with
    | some (.string status) => some ⟨status, .json ((Members.get? members "response").getD .null)⟩
    | _ => none
  | _ => none

/-- A payload as a JSON object with its kind; bytes are written as hexadecimal digits. -/
def tagged : Payload → Json
  | .json v => .object [("json", v)]
  | .bytes b => .object [("hex", .string (hexText b))]
  | .reply status response =>
    .object [("reply", .object [("response", response.tagged), ("status", .string status)])]

end Payload

namespace Reply

/-- A plain acceptance. -/
def ok : Reply := ⟨Status.ok, .empty⟩

/-- The reply that a push gives itself when its time is over. -/
def timeout : Reply := ⟨Status.timeout, .empty⟩

/-- Whether the push was accepted. -/
def isOk (r : Reply) : Bool := r.status == Status.ok

/-- The reply as the body of a message. -/
def toPayload (r : Reply) : Payload := .reply r.status r.response

/-- The object with `response` and `status`; nothing if the response is not JSON. -/
def json? (r : Reply) : Option Json :=
  r.response.json?.map fun response =>
    .object [("response", response), ("status", .string r.status)]

end Reply

end Switchboard
