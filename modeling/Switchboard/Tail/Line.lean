import Switchboard.Error
import Switchboard.Json.Printer
import Switchboard.Message

/-!
# Lines of the channel viewer

Each message of the topic is one line: the topic, the event and the body.

Main definitions

* `Tail.bodyText`: a payload on one line;
* `Tail.messageLine`: a message on one line.
-/

set_option autoImplicit false

namespace Switchboard.Tail

/-- A body on one line; raw bytes are only counted. -/
def bodyText : Payload → String
  | .json v => v.compact
  | .bytes b => "<" ++ natText b.length ++ " bytes>"
  | .reply status response =>
    match (Reply.mk status response).json? with
    | some v => v.compact
    | none => status ++ " <binary response>"

/-- A message on one line. -/
def messageLine (m : Message) : String := m.topic ++ " " ++ m.event ++ " " ++ bodyText m.payload

end Switchboard.Tail
