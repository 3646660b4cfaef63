import Switchboard.Endpoint.Authority
import Switchboard.Endpoint.Path

/-!
# Origins

The origin of a page is a URL: a scheme, perhaps a user, a host and a port, a path, and perhaps a
query and a fragment.  Blanks around the text and line breaks inside it are ignored.  A well-known
scheme has a host, a default port and backslashes that count as slashes.

Main definitions

* `Origin`, `Origin.parse`;
* `Origin.hostText?`: the host as it stands in a URL;
* `Origin.description`: all parts on one line.
-/

set_option autoImplicit false

namespace Switchboard

/-- The parts of a URL. -/
structure Origin where
  scheme : String
  /-- There is no host and the path is not hierarchical. -/
  isOpaque : Bool
  username : String
  password : Option String
  host : Option Host
  port : Option Nat
  path : String
  query : Option String
  fragment : Option String
  deriving DecidableEq, Repr, Inhabited

namespace Origin

/-! ### Reading -/

/-- What is read in front of a query: the authority, the path, and whether it is opaque. -/
structure Hierarchy where
  isOpaque : Bool
  authority : Authority
  path : String

/-- What stands behind two slashes of a local file: a drive and a path, or a host and a path. -/
def fileHierarchy (cs : List Char) : Except OriginError (Option Host × List Segment) := do
  let (name, path) := cut (isSlash fileScheme) cs
  let host ← if isDrive name then pure none else fileHost name
  match host with
  | none =>
    -- The slash behind a missing host starts a segment of its own.
    let front := if isDrive name then cs else path
    return (none, Path.ofSegments true (splitPath fileScheme front))
  | some host =>
    let segments := Path.ofSegments true (pathSegments fileScheme path)
    return (if startsWithDrive segments then none else some host, segments)

/-- The parts of a local file's URL behind its scheme. -/
def readFile (cs : List Char) : Except OriginError Hierarchy := do
  let (host, segments) ←
    match cs with
    | a :: b :: rest =>
      if isSlash fileScheme a && isSlash fileScheme b then fileHierarchy rest
      else pure (none, Path.ofSegments true (pathSegments fileScheme cs))
    | _ => pure (none, Path.ofSegments true (pathSegments fileScheme cs))
  return ⟨false, { Authority.none with host }, pathText (filePathSegments segments)⟩

/-- A path behind an authority; only a well-known scheme always has one. -/
def readPath (scheme : String) (cs : List Char) : String :=
  if cs = [] ∧ !isSpecial scheme then ""
  else pathText (Path.ofSegments false (pathSegments scheme cs))

/-- The parts of a URL with an authority, and the query with what follows it. -/
def readAuthority (scheme : String) (cs : List Char) :
    Except OriginError (Hierarchy × List Char) := do
  let (authority, rest) ← authorityOf scheme cs
  let (path, rest) := cut endsPath rest
  return (⟨false, authority, readPath scheme path⟩, rest)

/-- The parts of a URL behind its scheme, and the query with what follows it. -/
def readHierarchy (scheme : String) (cs : List Char) :
    Except OriginError (Hierarchy × List Char) := do
  let (path, rest) := cut endsPath cs
  if scheme = fileScheme then return (← readFile path, rest)
  else if isSpecial scheme then readAuthority scheme (cs.dropWhile (isSlash scheme))
  else
    match cs with
    | '/' :: '/' :: cs => readAuthority scheme cs
    | '/' :: _ => return (⟨false, .none, readPath scheme path⟩, rest)
    | _ => return (⟨true, .none, escapeIn [] path⟩, rest)

/-- What stands behind a mark, the mark dropped. -/
def behind : List Char → Option (List Char)
  | [] => none
  | _ :: rest => some rest

/-- Reads a URL. -/
def parse (text : String) : Except OriginError Origin := do
  match scheme? (clean text) with
  | none => throw .noBase
  | some (scheme, rest) =>
    let (hierarchy, rest) ← readHierarchy scheme rest
    let (query, fragment) := cut (· == '#') rest
    return {
      scheme
      isOpaque := hierarchy.isOpaque
      username := hierarchy.authority.username
      password := hierarchy.authority.password
      host := hierarchy.authority.host
      port := hierarchy.authority.port
      path := hierarchy.path
      query := (behind query).map (escapeIn (queryMarks (isSpecial scheme)))
      fragment := (behind fragment).map (escapeIn fragmentMarks) }

/-! ### Texts -/

/-- The host as it stands in a URL. -/
def hostText? (o : Origin) : Option String := o.host.map Host.text

/-- The host with its port, if it has one. -/
def authorityText? (o : Origin) : Option String :=
  o.hostText?.map fun host =>
    match o.port with
    | some port => host ++ ":" ++ natText port
    | none => host

/-- A value that may be missing. -/
def optionText : Option String → String
  | some s => "Some(" ++ s ++ ")"
  | none => "None"

/-- All parts on one line. -/
def description (o : Origin) : String :=
  "Url \x7b scheme: " ++ quoteText o.scheme
    ++ ", cannot_be_a_base: " ++ (if o.isOpaque then "true" else "false")
    ++ ", username: " ++ quoteText o.username
    ++ ", password: " ++ optionText (o.password.map quoteText)
    ++ ", host: " ++ optionText (o.host.map Host.description)
    ++ ", port: " ++ optionText (o.port.map natText)
    ++ ", path: " ++ quoteText o.path
    ++ ", query: " ++ optionText (o.query.map quoteText)
    ++ ", fragment: " ++ optionText (o.fragment.map quoteText) ++ " \x7d"

end Origin

end Switchboard
