import Switchboard.Message
import Switchboard.Error
import Switchboard.Text.Utf8

/-!
# Binary frames

A binary frame carries raw bytes behind a short header: the kind of the frame, one length byte for
each of its fields, the fields, and then the payload.

| kind | fields |
|---|---|
| client push, 0 | join ref, ref, topic, event |
| server push, 0 | join ref, topic, event |
| reply, 1 | join ref, ref, topic, status |
| broadcast, 2 | topic, event |

Fields are ASCII texts of at most 255 bytes when written and any UTF-8 when read; an empty ref is
no ref.

Main definitions

* `BinaryFrame.layout`: the kind byte, the fields and the payload side by side;
* `Message.encodePush`, `Message.encodeServerPush`, `Message.encodeReply`,
  `Message.encodeBroadcast`: writing;
* `Message.decodeBinary`: reading what a server sends;
* `Message.decodePush`: reading what a client sends.
-/

set_option autoImplicit false

namespace Switchboard

namespace BinaryFrame

/-- The kind byte of pushes. -/
def pushKind : UInt8 := 0

/-- The kind byte of replies. -/
def replyKind : UInt8 := 1

/-- The kind byte of broadcasts. -/
def broadcastKind : UInt8 := 2

/-- The places of a header. -/
inductive Field where
  | joinRef
  | ref
  | topic
  | event
  deriving DecidableEq, Repr

namespace Field

/-- The name of a place in errors. -/
def name : Field → String
  | .joinRef => "join_ref"
  | .ref => "ref"
  | .topic => "topic"
  | .event => "event"

end Field

/-! ### Writing -/

/-- Whether all characters are ASCII. -/
def isAscii (s : String) : Bool := s.toList.all fun c => c.toNat < 128

/-- The bytes of a field, which must be ASCII and fit a length byte. -/
def fieldBytes (field : Field) (value : String) : Except CodecError Bytes :=
  if !isAscii value then .error (.nonAsciiField field.name)
  else if 255 < value.utf8ByteSize then .error (.fieldTooLong field.name value.utf8ByteSize)
  else .ok (utf8Bytes value)

/-- The bytes of several fields; the first faulty one is the error. -/
def fieldsBytes : List (Field × String) → Except CodecError (List Bytes)
  | [] => .ok []
  | (field, value) :: rest => do
    let b ← fieldBytes field value
    let bs ← fieldsBytes rest
    return b :: bs

/-- A frame: the kind, the lengths of the fields, the fields, the payload. -/
def layout (kind : UInt8) (fields : List Bytes) (payload : Bytes) : Bytes :=
  kind :: (fields.map (fun f => UInt8.ofNat f.length) ++ (fields.flatten ++ payload))

/-- The frame of a payload, which must be raw bytes; faulty fields are reported first. -/
def write (kind : UInt8) (fields : List (Field × String)) (payload : Payload) :
    Except CodecError Bytes := do
  let bs ← fieldsBytes fields
  match payload with
  | .bytes b => return layout kind bs b
  | _ => throw (.unencodablePayload "binary frames carry raw bytes only")

/-! ### Reading -/

/-- A place in a frame: how many bytes were passed, and the bytes from there on. -/
structure Cursor where
  passed : Nat
  rest : Bytes
  deriving DecidableEq, Repr

namespace Cursor

/-- The start of a frame. -/
def ofFrame (frame : Bytes) : Cursor := ⟨0, frame⟩

/-- The length of the frame. -/
def available (c : Cursor) : Nat := c.passed + c.rest.length

/-- The next `n` bytes. -/
def take (c : Cursor) (n : Nat) : Except CodecError (Bytes × Cursor) :=
  if n ≤ c.rest.length then .ok (c.rest.take n, ⟨c.passed + n, c.rest.drop n⟩)
  else .error (.truncated (c.passed + n) c.available)

/-- The next byte. -/
def byte (c : Cursor) : Except CodecError (UInt8 × Cursor) :=
  match c.rest with
  | b :: rest => .ok (b, ⟨c.passed + 1, rest⟩)
  | [] => .error (.truncated (c.passed + 1) c.available)

/-- One length byte a field. -/
def lengths (c : Cursor) : List Field → Except CodecError (List (Field × Nat) × Cursor)
  | [] => .ok ([], c)
  | field :: rest => do
    let (n, c) ← c.byte
    let (ns, c) ← c.lengths rest
    return ((field, n.toNat) :: ns, c)

/-- The text of the next `n` bytes. -/
def text (c : Cursor) (field : Field) (n : Nat) : Except CodecError (String × Cursor) := do
  let (b, c) ← c.take n
  match utf8Text? b with
  | some s => return (s, c)
  | none => throw (.invalidUtf8 field.name)

/-- The texts of fields with known lengths. -/
def texts (c : Cursor) : List (Field × Nat) → Except CodecError (List (Field × String) × Cursor)
  | [] => .ok ([], c)
  | (field, n) :: rest => do
    let (s, c) ← c.text field n
    let (ss, c) ← c.texts rest
    return ((field, s) :: ss, c)

/-- The header fields and the payload behind them. -/
def fields (c : Cursor) (names : List Field) :
    Except CodecError (List (Field × String) × Bytes) := do
  let (ns, c) ← c.lengths names
  let (ss, c) ← c.texts ns
  return (ss, c.rest)

end Cursor

/-- The text of a field; a field that the frame does not have is empty. -/
def valueOf (fields : List (Field × String)) (field : Field) : String :=
  (fields.lookup field).getD ""

/-- The ref of a field; an empty field is no ref. -/
def refOf (fields : List (Field × String)) (field : Field) : Option Ref :=
  if valueOf fields field = "" then none else some (valueOf fields field)

end BinaryFrame

namespace Message

open BinaryFrame

/-! ### Messages in frames -/

/-- The push of a client, the only binary frame that a client sends. -/
def encodePush (m : Message) : Except CodecError Bytes :=
  write pushKind
    [(.joinRef, m.joinRef.getD ""), (.ref, m.ref.getD ""), (.topic, m.topic), (.event, m.event)]
    m.payload

/-- The push of a server, which has no ref. -/
def encodeServerPush (m : Message) : Except CodecError Bytes :=
  write pushKind [(.joinRef, m.joinRef.getD ""), (.topic, m.topic), (.event, m.event)] m.payload

/-- The reply of a server; the status takes the place of the event. -/
def encodeReply (m : Message) (status : String) : Except CodecError Bytes :=
  write replyKind
    [(.joinRef, m.joinRef.getD ""), (.ref, m.ref.getD ""), (.topic, m.topic), (.event, status)]
    m.payload

/-- The broadcast of a server, which has no refs. -/
def encodeBroadcast (m : Message) : Except CodecError Bytes :=
  write broadcastKind [(.topic, m.topic), (.event, m.event)] m.payload

/-- The message of a push frame of a client. -/
def decodePush (frame : Bytes) : Except CodecError Message := do
  let (kind, c) ← (Cursor.ofFrame frame).byte
  if kind = pushKind then
    let (fs, payload) ← c.fields [.joinRef, .ref, .topic, .event]
    return ⟨refOf fs .joinRef, refOf fs .ref, valueOf fs .topic, valueOf fs .event, .bytes payload⟩
  else throw (.unknownKind kind)

/-- The message of a frame that a server sends. -/
def decodeBinary (frame : Bytes) : Except CodecError Message := do
  let (kind, c) ← (Cursor.ofFrame frame).byte
  if kind = pushKind then
    let (fs, payload) ← c.fields [.joinRef, .topic, .event]
    return ⟨refOf fs .joinRef, none, valueOf fs .topic, valueOf fs .event, .bytes payload⟩
  else if kind = replyKind then
    let (fs, payload) ← c.fields [.joinRef, .ref, .topic, .event]
    return ⟨refOf fs .joinRef, refOf fs .ref, valueOf fs .topic, Event.reply,
      .reply (valueOf fs .event) (.bytes payload)⟩
  else if kind = broadcastKind then
    let (fs, payload) ← c.fields [.topic, .event]
    return ⟨none, none, valueOf fs .topic, valueOf fs .event, .bytes payload⟩
  else throw (.unknownKind kind)

end Message

end Switchboard
