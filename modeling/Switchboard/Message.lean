import Switchboard.Payload
import Switchboard.Refs

/-!
# Messages and frames

A message belongs to a topic and has an event name.  Its own ref lets a reply name it, and its join
ref names the join attempt that it belongs to.  On the wire a message is a text frame or a binary
frame.

Main definitions

* `Message`, `Frame`;
* `Event`: the event names of the channel protocol;
* `ReadyState`, `BinaryType`, `CloseEvent`: what a transport tells and is told;
* `ChannelState`: the life cycle of a channel.
-/

set_option autoImplicit false

namespace Switchboard

/-- A protocol message in either direction. -/
structure Message where
  joinRef : Option Ref
  ref : Option Ref
  topic : String
  event : String
  payload : Payload
  deriving Inhabited

namespace Event

/-- The channel is closed. -/
def close : String := "phx_close"

/-- The channel has failed. -/
def error : String := "phx_error"

/-- A client asks to join. -/
def join : String := "phx_join"

/-- The server answers a push. -/
def reply : String := "phx_reply"

/-- A client asks to leave. -/
def leave : String := "phx_leave"

/-- A sign of life. -/
def heartbeat : String := "heartbeat"

/-- The event under which the reply to the push with the given ref is dispatched. -/
def replyTo (ref : Ref) : String := "chan_reply_" ++ ref

end Event

/-- The topic of messages that belong to the connection itself. -/
def connectionTopic : String := "phoenix"

namespace Message

/-- The sign of life with the given ref. -/
def heartbeat (ref : Ref) : Message :=
  ⟨none, some ref, connectionTopic, Event.heartbeat, .empty⟩

end Message

/-- The raw unit that a transport carries. -/
inductive Frame where
  | text (text : String)
  | binary (bytes : Bytes)
  deriving DecidableEq, Inhabited

namespace Frame

/-- The number of bytes of a frame. -/
def size : Frame → Nat
  | .text s => s.utf8ByteSize
  | .binary b => b.length

/-- Whether a frame has no bytes. -/
def isEmpty (f : Frame) : Bool := f.size == 0

end Frame

/-! ### Transports -/

/-- How far a connection has got. -/
inductive ReadyState where
  | connecting
  | open
  | closing
  | closed
  deriving DecidableEq, Repr, Inhabited

namespace ReadyState

/-- The state of a code; codes above two mean closed. -/
def ofCode (code : Nat) : ReadyState :=
  match code with
  | 0 => .connecting
  | 1 => .open
  | 2 => .closing
  | _ => .closed

/-- The name of a state. -/
def name : ReadyState → String
  | .connecting => "connecting"
  | .open => "open"
  | .closing => "closing"
  | .closed => "closed"

end ReadyState

/-- The kind of object in which a transport should hand over binary frames. -/
inductive BinaryType where
  | arrayBuffer
  | blob
  deriving DecidableEq, Repr, Inhabited

/-- A transport's notice that its connection is closed. -/
structure CloseEvent where
  code : Nat
  reason : Option String
  wasClean : Bool
  deriving DecidableEq, Repr, Inhabited

namespace CloseEvent

/-- The code of a normal close. -/
def normalCode : Nat := 1000

/-- A clean close without a reason. -/
def normal : CloseEvent := ⟨normalCode, none, true⟩

end CloseEvent

/-! ### Channels -/

/-- The life cycle of a channel. -/
inductive ChannelState where
  | closed
  | errored
  | joining
  | joined
  | leaving
  deriving DecidableEq, Repr, Inhabited

namespace ChannelState

/-- The name of a state. -/
def name : ChannelState → String
  | .closed => "closed"
  | .errored => "errored"
  | .joining => "joining"
  | .joined => "joined"
  | .leaving => "leaving"

end ChannelState

end Switchboard
