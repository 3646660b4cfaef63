import Switchboard.Endpoint.Query
import Switchboard.Endpoint.Origin

/-!
# Addresses of connections

The address of a connection is the endpoint with the path of its transport, the parameters and the
version of the protocol.  An endpoint that starts with a slash is relative: it takes the host of the
page's origin, and one that starts with two slashes takes only the origin's scheme.

Main definitions

* `websocketEndpoint`, `endpointUrl`: the address of a websocket;
* `longPollEndpoint`: the address of the long-poll transport beside it.
-/

set_option autoImplicit false

namespace Switchboard

/-- The version of the protocol that a client asks for unless it is told otherwise. -/
def defaultVersion : String := "2.0.0"

/-- The path of the websocket behind an endpoint. -/
def websocketPath : String := "/websocket"

/-- The path of the long-poll transport behind an endpoint. -/
def longPollPath : String := "/longpoll"

/-- An endpoint with the path of its websocket. -/
def websocketEndpoint (endpoint : String) : String := endpoint ++ websocketPath

/-- The endpoint with parameters and version behind it. -/
def endpointWithQuery (endpoint : String) (params : Json) (version : String) : String :=
  appendParams (appendParams endpoint params) (.object [("vsn", .string version)])

/-- Whether an endpoint takes its scheme, at least, from the origin. -/
def isRelative (endpoint : String) : Bool := "/".toList.isPrefixOf endpoint.toList

/-- The scheme of the websocket of a page. -/
def websocketScheme (origin : Origin) : String := if origin.scheme = "https" then "wss" else "ws"

/-- The address of a connection; a relative endpoint needs an origin, and a single slash a host. -/
def endpointUrl (endpoint : String) (params : Json) (version : String) (origin : Option Origin) :
    Except ConfigError String :=
  let uri := endpointWithQuery endpoint params version
  if !isRelative uri then .ok uri
  else
    match origin with
    | none => .error (.relativeEndpoint endpoint)
    | some origin =>
      if "//".toList.isPrefixOf uri.toList then .ok (websocketScheme origin ++ ":" ++ uri)
      else
        match origin.authorityText? with
        | none => .error (.relativeEndpoint endpoint)
        | some authority => .ok (websocketScheme origin ++ "://" ++ authority ++ uri)

/-- Replaces a text at the front. -/
def replaceFront? (old new : List Char) (cs : List Char) : Option (List Char) :=
  if old.isPrefixOf cs then some (new ++ cs.drop old.length) else none

/-- Replaces the last occurrence of a text; nothing if there is none. -/
def replaceLast? (old new : List Char) : List Char → Option (List Char)
  | [] => none
  | c :: rest =>
    match replaceLast? old new rest with
    | some done => some (c :: done)
    | none => replaceFront? old new (c :: rest)

/-- The scheme of a websocket gives way to the scheme of plain requests. -/
def requestScheme (cs : List Char) : List Char :=
  match replaceFront? "ws://".toList "http://".toList cs with
  | some cs => cs
  | none => (replaceFront? "wss://".toList "https://".toList cs).getD cs

/-- The address of the long-poll transport beside a websocket; the last websocket path counts. -/
def longPollEndpoint (url : String) : String :=
  let cs := requestScheme url.toList
  String.ofList ((replaceLast? websocketPath.toList longPollPath.toList cs).getD cs)

end Switchboard
