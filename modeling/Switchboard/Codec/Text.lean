import Switchboard.Message
import Switchboard.Error
import Switchboard.Json.Printer
import Switchboard.Json.Reader

/-!
# Text frames

A text frame is the compact JSON array `[join_ref, ref, topic, event, payload]`.

Main definitions

* `Message.envelope`, `Message.encodeText`: writing;
* `Message.ofEnvelope`, `Message.decodeText`: reading.
-/

set_option autoImplicit false

namespace Switchboard.Message

/-- The JSON form of a payload; raw bytes have none, neither alone nor inside a reply. -/
def payloadJson (payload : Payload) : Except CodecError Json :=
  match payload with
  | .json v => .ok v
  | .reply status response =>
    match Reply.json? ⟨status, response⟩ with
    | some v => .ok v
    | none => .error (.unencodablePayload "reply with a binary response")
  | .bytes _ => .error (.unencodablePayload "raw bytes in a text frame")

/-- The array of five elements that stands for a message with the given body. -/
def envelope (m : Message) (body : Json) : Json :=
  .array [.optional m.joinRef, .optional m.ref, .string m.topic, .string m.event, body]

/-- The text frame of a message. -/
def encodeText (m : Message) : Except CodecError String :=
  (payloadJson m.payload).map fun body => (m.envelope body).compact

/-- A ref of an envelope: `null` is none, and a number stands for its text. -/
def optionalRef (position : String) : Json → Except CodecError (Option Ref)
  | .null => .ok none
  | .string s => .ok (some s)
  | .number n => .ok (some n.text)
  | v => .error (.malformedEnvelope (position ++ " must be a string or null, got " ++ v.compact))

/-- A string of an envelope. -/
def requiredString (position : String) : Json → Except CodecError String
  | .string s => .ok s
  | v => .error (.malformedEnvelope (position ++ " must be a string, got " ++ v.compact))

/-- The message of an envelope; the first faulty position is the error. -/
def ofEnvelope : List Json → Except CodecError Message
  | [joinRef, ref, topic, event, body] => do
    let joinRef ← optionalRef "join_ref" joinRef
    let ref ← optionalRef "ref" ref
    let topic ← requiredString "topic" topic
    let event ← requiredString "event" event
    return ⟨joinRef, ref, topic, event, .json body⟩
  | _ => .error (.malformedEnvelope "expected a five element array")

/-- The message of a text frame. -/
def decodeText (text : String) : Except CodecError Message :=
  match Json.read? text with
  | some (.array items) => ofEnvelope items
  | _ => .error .json

end Switchboard.Message
