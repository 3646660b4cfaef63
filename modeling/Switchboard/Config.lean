import Switchboard.Codec.Serializer
import Switchboard.Endpoint.Address
import Switchboard.Params
import Switchboard.Timer.Backoff

/-!
# Configuration

What a socket is set up with.  Times are in milliseconds.

Main definitions

* `Factory`: a kind of transport that a socket can open;
* `Config`, `Config.standard`;
* `Config.description`: the configuration on one line.
-/

set_option autoImplicit false

namespace Switchboard

/--
A kind of transport.  Two factories are the same just if their numbers are; the name is for error
reports.
-/
structure Factory where
  number : Nat
  name : String
  /-- Its transports carry the standard wire format only. -/
  standardOnly : Bool
  /-- Its transports need no signs of life. -/
  skipHeartbeat : Bool
  deriving DecidableEq, Repr, Inhabited

/-- What a socket is set up with. -/
structure Config where
  timeout : Nat
  heartbeatInterval : Nat
  longPollTimeout : Nat
  version : String
  params : Params
  binaryType : BinaryType
  reconnectAfter : Backoff
  rejoinAfter : Backoff
  origin : Option Origin
  transport : Option Factory
  serializer : Serializer

namespace Config

/-- The configuration of a socket that is told nothing; it has no transport. -/
def standard : Config where
  timeout := 10000
  heartbeatInterval := 30000
  longPollTimeout := 20000
  version := defaultVersion
  params := .fixed .empty
  binaryType := .arrayBuffer
  reconnectAfter := .reconnect
  rejoinAfter := .rejoin
  origin := none
  transport := none
  serializer := .standard

instance : Inhabited Config := ⟨standard⟩

/-- Digits behind a point without the zeros at the end; nothing for a whole number. -/
def fractionText (ms : Nat) : String :=
  let digits := (digitChars ms).length
  let padded := List.replicate (3 - digits) '0' ++ digitChars ms
  let kept := (padded.reverse.dropWhile (· == '0')).reverse
  if kept = [] then "" else String.ofList ('.' :: kept)

/-- A duration in seconds, below one second in milliseconds. -/
def durationText (ms : Nat) : String :=
  if ms = 0 then "0ns"
  else if ms < 1000 then natText ms ++ "ms"
  else natText (ms / 1000) ++ fractionText (ms % 1000) ++ "s"

/-- The name of a kind of object for binary frames. -/
def binaryTypeText : BinaryType → String
  | .arrayBuffer => "Arraybuffer"
  | .blob => "Blob"

/-- The configuration on one line. -/
def description (c : Config) : String :=
  "SocketConfig \x7b timeout: " ++ durationText c.timeout
    ++ ", heartbeat_interval: " ++ durationText c.heartbeatInterval
    ++ ", longpoll_timeout: " ++ durationText c.longPollTimeout
    ++ ", vsn: " ++ quoteText c.version
    ++ ", params: " ++ c.params.description
    ++ ", binary_type: " ++ binaryTypeText c.binaryType
    ++ ", origin: " ++ Origin.optionText (c.origin.map Origin.description)
    ++ ", transport: " ++ Origin.optionText (c.transport.map fun f => quoteText f.name)
    ++ ", .. \x7d"

end Config

end Switchboard
