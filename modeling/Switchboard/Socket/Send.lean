import Switchboard.Socket.State

/-!
# Sending

A message is handed to the transport at once if the connection is open, and waits in the send
buffer if it is not.  A message that cannot be encoded is reported to the error callbacks.

Main definitions

* `Socket.report`: tells the user's error callbacks of a failure;
* `Socket.transmit`, `Socket.pushMessage`, `Socket.flush`.
-/

set_option autoImplicit false

namespace Switchboard.Socket

variable {ω : Type} [Outside ω]

/-- The context of an error that happens now. -/
def errorContext (s : Socket ω) : ErrorContext := ⟨s.factory.name, s.established, none⟩

/-- An error callback runs. -/
def runError (s : Socket ω) (callback : CallbackId) (failure : SocketError)
    (context : ErrorContext) : ErrorContext × Socket ω :=
  let (context, exchange, outside) :=
    Outside.runError callback failure context s.exchange s.outside
  (context, { s with exchange, outside })

/-- Runs the user's error callbacks in the order of registration. -/
def runErrors (failure : SocketError) : Registry OnError → ErrorContext → Socket ω → Socket ω
  | [], _, s => s
  | (_, .callback callback) :: rest, context, s =>
    let (context, s) := s.runError callback failure context
    runErrors failure rest context s
  | (_, .resetRejoin _) :: rest, context, s => runErrors failure rest context s

/-- Tells the user's error callbacks of a failure; a fallback that they choose is not taken. -/
def report (s : Socket ω) (failure : SocketError) : Socket ω :=
  runErrors failure s.callbacks.onError s.errorContext s

/-- Hands a message to the transport. -/
def transmit (s : Socket ω) (m : Message) : Socket ω :=
  match s.conn with
  | none => s
  | some conn =>
    match conn.serializer.encode m with
    | .ok frame => s.perform (.send conn.transport frame)
    | .error cause => s.report (.codec cause)

/-- Sends a message now if the connection is open, and else as soon as one is. -/
def pushMessage (s : Socket ω) (sender : Sender) (m : Message) : Socket ω :=
  let s := s.perform (.accept sender m)
  if s.isConnected then s.transmit m else { s with sendBuffer := s.sendBuffer ++ [m] }

/-- Sends the messages that wait, in their order. -/
def flush (s : Socket ω) : Socket ω :=
  if !s.isConnected || s.sendBuffer.isEmpty then s
  else s.sendBuffer.foldl transmit { s with sendBuffer := [] }

end Switchboard.Socket
