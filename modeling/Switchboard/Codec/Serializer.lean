import Switchboard.Codec.Text
import Switchboard.Codec.Binary

/-!
# Serializers

A serializer turns messages into frames and back.  The standard one writes raw bytes as binary
frames and everything else as text frames.

Main definitions

* `Serializer`;
* `Serializer.standard`: the standard wire format;
* `Serializer.marked`: the same with a mark in front of each text.
-/

set_option autoImplicit false

namespace Switchboard

/-- A pair of functions between messages and frames. -/
structure Serializer where
  encode : Message → Except CodecError Frame
  decode : Frame → Except CodecError Message

namespace Serializer

/-- Raw bytes go into a binary frame, anything else into a text frame. -/
def encodeStandard (m : Message) : Except CodecError Frame :=
  match m.payload with
  | .bytes _ => m.encodePush.map .binary
  | _ => m.encodeText.map .text

/-- The message of either kind of frame. -/
def decodeStandard : Frame → Except CodecError Message
  | .text s => Message.decodeText s
  | .binary b => Message.decodeBinary b

/-- The standard wire format. -/
def standard : Serializer := ⟨encodeStandard, decodeStandard⟩

/-- The standard wire format with a mark in front of each text frame. -/
def marked (mark : Char) : Serializer where
  encode m := (encodeStandard m).map fun
    | .text s => .text (String.ofList (mark :: s.toList))
    | .binary b => .binary b
  decode
    | .text s =>
      match s.toList with
      | c :: rest =>
        if c = mark then Message.decodeText (String.ofList rest)
        else .error (.malformedEnvelope "missing prefix")
      | [] => .error (.malformedEnvelope "missing prefix")
    | .binary b => Message.decodeBinary b

end Serializer

end Switchboard
