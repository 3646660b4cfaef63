import Switchboard.Json.Number

/-!
# Errors

Every failure is a cause; the wording is in one `message` function a kind of cause.

Main definitions

* `ChannelError`: a call that the state of a channel does not allow;
* `CodecError`: a message or frame that has no encoded or decoded form;
* `TransportError`: what goes wrong on the way;
* `ConfigError`: a configuration that cannot work;
* `SocketError`: any of these, as the error callbacks of a socket see it.
-/

set_option autoImplicit false

namespace Switchboard

/-- A natural number in decimal. -/
def natText (n : Nat) : String := String.ofList (digitChars n)

/-- A call that a channel or push cannot serve. -/
inductive ChannelError where
  | alreadyJoined (topic : String)
  | pushBeforeJoin (topic event : String)
  | actorUnavailable
  | replyDropped
  deriving DecidableEq, Repr, Inhabited

namespace ChannelError

/-- The wording of an error. -/
def message : ChannelError → String
  | .alreadyJoined topic =>
    "tried to join multiple times. 'join' can only be called a single time per channel instance"
      ++ " (topic: " ++ topic ++ ")"
  | .pushBeforeJoin topic event =>
    "tried to push '" ++ event ++ "' to '" ++ topic
      ++ "' before joining. Use channel.join() before pushing events"
  | .actorUnavailable => "socket actor unavailable"
  | .replyDropped => "push was discarded before it resolved"

end ChannelError

/-- A message that cannot be encoded or a frame that cannot be decoded. -/
inductive CodecError where
  | fieldTooLong (field : String) (length : Nat)
  | nonAsciiField (field : String)
  | truncated (needed available : Nat)
  | unknownKind (kind : UInt8)
  | invalidUtf8 (field : String)
  | json
  | malformedEnvelope (detail : String)
  | unencodablePayload (detail : String)
  deriving DecidableEq, Repr, Inhabited

namespace CodecError

/-- The wording of an error. -/
def message : CodecError → String
  | .fieldTooLong field length =>
    field ++ " is " ++ natText length ++ " bytes, binary frames allow at most 255"
  | .nonAsciiField field => field ++ " must be ASCII in binary frames"
  | .truncated needed available =>
    "binary frame truncated: needed " ++ natText needed ++ " bytes, had " ++ natText available
  | .unknownKind kind => "unknown binary frame kind " ++ natText kind.toNat
  | .invalidUtf8 field => "invalid utf-8 in " ++ field
  | .json => "JSON error"
  | .malformedEnvelope detail => "malformed envelope: " ++ detail
  | .unencodablePayload detail => "payload cannot be encoded: " ++ detail

end CodecError

/-- A failure that a transport reports. -/
inductive TransportError where
  | connect (detail : String)
  | send (detail : String)
  | closed
  | http (status : Option Nat)
  | timeout
  | forbidden
  | unhandledPollStatus (status : Nat)
  | binaryUnsupported
  deriving DecidableEq, Repr, Inhabited

namespace TransportError

/-- A status that may be missing. -/
def statusText : Option Nat → String
  | some n => "Some(" ++ natText n ++ ")"
  | none => "None"

/-- The wording of an error. -/
def message : TransportError → String
  | .connect detail => "connection failed: " ++ detail
  | .send detail => "send failed: " ++ detail
  | .closed => "transport closed"
  | .http status => "HTTP request failed with status " ++ statusText status
  | .timeout => "request timed out"
  | .forbidden => "forbidden"
  | .unhandledPollStatus status => "unhandled poll status " ++ natText status
  | .binaryUnsupported => "binary frames are not supported by the long-poll transport"

end TransportError

/-- Why a text is not the URL of an origin. -/
inductive OriginError where
  | noBase
  | emptyHost
  | invalidPort
  | invalidIpv4
  | invalidIpv6
  | invalidCharacter
  | invalidName
  deriving DecidableEq, Repr, Inhabited

namespace OriginError

/-- The wording of an error. -/
def message : OriginError → String
  | .noBase => "relative URL without a base"
  | .emptyHost => "empty host"
  | .invalidPort => "invalid port number"
  | .invalidIpv4 => "invalid IPv4 address"
  | .invalidIpv6 => "invalid IPv6 address"
  | .invalidCharacter => "invalid domain character"
  | .invalidName => "invalid international domain name"

end OriginError

/-- A configuration that cannot work. -/
inductive ConfigError where
  | relativeEndpoint (endpoint : String)
  | invalidOrigin (cause : OriginError)
  | noTransport
  deriving DecidableEq, Repr, Inhabited

namespace ConfigError

/-- The wording of an error. -/
def message : ConfigError → String
  | .relativeEndpoint endpoint =>
    "endpoint " ++ endpoint ++ " is host-relative but no origin is configured"
  | .invalidOrigin cause => "invalid origin: " ++ cause.message
  | .noTransport => "no transport configured and the websocket feature is disabled"

end ConfigError

/-- A failure as the error callbacks and the queries of a socket see it. -/
inductive SocketError where
  | channel (cause : ChannelError)
  | codec (cause : CodecError)
  | transport (cause : TransportError)
  | config (cause : ConfigError)
  | protocol (detail : String)
  | actorUnavailable
  deriving DecidableEq, Repr, Inhabited

namespace SocketError

/-- The wording of an error. -/
def message : SocketError → String
  | .channel cause => "Channel error: " ++ cause.message
  | .codec cause => "Codec error: " ++ cause.message
  | .transport cause => "Transport error: " ++ cause.message
  | .config cause => "Config error: " ++ cause.message
  | .protocol detail => "Protocol violation: " ++ detail
  | .actorUnavailable => "socket actor unavailable"

end SocketError

end Switchboard
