import Switchboard.Codec.Serializer
import Switchboard.Endpoint.Address
import Switchboard.Tail.Line
import Switchboard.Tail.Options

/-!
# The channel viewer

Prints the messages of one topic.  The frames come from standard input, one in each line, as the
server sends them; a line that is no frame is reported and passed over.

Main definitions

* `main`: the viewer.
-/

set_option autoImplicit false

namespace Switchboard.Tail

/-- Prints the message of a frame if it is for the topic. -/
def showFrame (topic line : String) : IO Unit :=
  match Serializer.standard.decode (.text line) with
  | .ok m => if m.topic = topic then IO.println (messageLine m) else pure ()
  | .error cause => IO.eprintln cause.message

/-- Prints the messages of a topic until the input ends. -/
partial def follow (topic : String) (input : IO.FS.Stream) : IO Unit := do
  let line ← input.getLine
  if line.isEmpty then return
  showFrame topic line.trimAscii.toString
  follow topic input

/-- Follows the topic of the settings, if nothing is wrong with them. -/
def runWith (s : Settings) : IO UInt32 := do
  match s.invalid? with
  | some fault =>
    IO.eprintln fault
    return 1
  | none =>
    IO.eprintln ("tailing " ++ s.topic ++ " of " ++ websocketEndpoint s.endpoint)
    follow s.topic (← IO.getStdin)
    return 0

end Switchboard.Tail

/-- Prints the messages of the topic that the arguments name. -/
def main (args : List String) : IO UInt32 := do
  match Switchboard.Tail.parse args with
  | .error fault =>
    IO.eprintln fault.message
    return 2
  | .ok s => Switchboard.Tail.runWith s
