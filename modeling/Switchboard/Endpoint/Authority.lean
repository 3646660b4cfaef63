import Switchboard.Endpoint.Host
import Switchboard.Endpoint.Scheme

/-!
# Authorities of URLs

Between two slashes and the path of a URL there may stand a user with a password, a host and a port.

Main definitions

* `Authority`;
* `splitUser`, `splitPort`: where user and port are;
* `authorityOf`: the authority in front of a path;
* `fileHost`: the host of a local file.
-/

set_option autoImplicit false

namespace Switchboard

namespace Origin

/-- The parts behind the scheme and in front of the path. -/
structure Authority where
  username : String
  password : Option String
  host : Option Host
  port : Option Nat
  deriving DecidableEq, Repr, Inhabited

namespace Authority

/-- No user, no host, no port. -/
def none : Authority := ⟨"", Option.none, Option.none, Option.none⟩

/-- Whether there is a user. -/
def hasUser (a : Authority) : Bool := a.username != "" || a.password.isSome

end Authority

/-! ### Users -/

/-- What stands before and behind the last `@`. -/
def splitUser (cs : List Char) : Option (List Char) × List Char :=
  match cut (· == '@') cs.reverse with
  | (host, '@' :: user) => (some user.reverse, host.reverse)
  | _ => (none, cs)

/-- User name and password; an empty password is none. -/
def credentials (cs : List Char) : String × Option String :=
  match cut (· == ':') cs with
  | (user, _ :: c :: password) =>
    (escapeIn userMarks user, some (escapeIn userMarks (c :: password)))
  | (user, _) => (escapeIn userMarks user, none)

/-! ### Ports -/

/-- The host and what follows the colon behind it; a colon in brackets is part of the host. -/
def splitPort (inBrackets : Bool) : List Char → List Char × Option (List Char)
  | [] => ([], none)
  | c :: rest =>
    if c == ':' && !inBrackets then ([], some rest)
    else
      let (host, port) := splitPort (c == '[' || (inBrackets && c != ']')) rest
      (c :: host, port)

/--
The port at the front of a text, and the rest, which starts with a slash of either kind.  An empty
port and the scheme's own count as none.
-/
def portOf (scheme : String) (cs : List Char) :
    Except OriginError (Option Nat × List Char) :=
  let (ds, rest) := cut (!·.isDigit) cs
  let n := (Host.numberIn? 10 ds).getD 0
  if 65535 < n ∨ !rest.head?.all (fun c => c == '/' || c == '\\') then .error .invalidPort
  else .ok (if ds = [] ∨ defaultPort scheme = some n then none else some n, rest)

/-! ### Authorities -/

/-- The authority in front of a path, and the path with what follows it. -/
def authorityOf (scheme : String) (cs : List Char) :
    Except OriginError (Authority × List Char) := do
  let (front, rest) := cut (fun c => isSlash scheme c || endsPath c) cs
  let (user, hostPort) := splitUser front
  -- A user mark alone is no host, unless nothing follows.
  if user = some [] ∧ hostPort = [] ∧ rest ≠ [] then throw .emptyHost
  let (username, password) := credentials (user.getD [])
  let (hostText, portText) := splitPort false hostPort
  if hostText = [] ∧ (isSpecial scheme ∨ portText.isSome) then throw .emptyHost
  let host ←
    if hostText = [] then pure none
    else some <$> if isSpecial scheme then Host.ofSpecial hostText else Host.ofOpaque hostText
  let (port, behind) ← portOf scheme (portText.getD [])
  let authority : Authority := { username, password, host, port }
  if host = none ∧ authority.hasUser then throw .emptyHost
  return (authority, behind ++ rest)

/-- The host of a local file; the machine itself counts as none. -/
def fileHost (cs : List Char) : Except OriginError (Option Host) := do
  if cs = [] then return none
  let host ← Host.ofSpecial cs
  return if host = .domain "localhost" then none else some host

end Origin

end Switchboard
