import Switchboard.Text.Percent

/-!
# Schemes

A URL starts with its scheme and a colon.  A well-known scheme has a host, a default port and
backslashes that count as slashes.

Main definitions

* `isSpecial`, `defaultPort`: what is known of a scheme;
* `scheme?`: the scheme in front of a URL;
* `escapeIn` and the sets of marks: how odd characters of each part are written.
-/

set_option autoImplicit false

namespace Switchboard

namespace Origin

/-! ### Well-known schemes -/

/-- The scheme of local files. -/
def fileScheme : String := "file"

/-- The well-known schemes with their default ports; a local file has none. -/
def specialSchemes : List (String × Option Nat) :=
  [("http", some 80), ("https", some 443), ("ws", some 80), ("wss", some 443), ("ftp", some 21),
    (fileScheme, none)]

/-- Whether a scheme is well known. -/
def isSpecial (scheme : String) : Bool := specialSchemes.any (·.1 == scheme)

/-- The port that a scheme has if none is given. -/
def defaultPort (scheme : String) : Option Nat := (specialSchemes.lookup scheme).join

/-- Whether a character counts as a slash. -/
def isSlash (scheme : String) (c : Char) : Bool := c == '/' || (isSpecial scheme && c == '\\')

/-- Whether a query or a fragment starts at a character. -/
def endsPath (c : Char) : Bool := c == '?' || c == '#'

/-! ### Reading the front -/

/-- A text without blanks around it and without tabs and line breaks. -/
def clean (s : String) : List Char :=
  let inner := (s.toList.dropWhile fun c => c.toNat ≤ 32).reverse.dropWhile fun c => c.toNat ≤ 32
  inner.reverse.filter fun c => c ≠ '\t' ∧ c ≠ '\n' ∧ c ≠ '\r'

/-- What stands before and from the first character with a property on. -/
def cut (p : Char → Bool) (cs : List Char) : List Char × List Char :=
  (cs.takeWhile (!p ·), cs.dropWhile (!p ·))

/-- The scheme in lower case and what follows its colon. -/
def scheme? (cs : List Char) : Option (String × List Char) :=
  let (name, rest) := cut (· == ':') cs
  match rest, name with
  | ':' :: rest, c :: _ =>
    if c.isAlpha ∧ name.all fun c => c.isAlphanum || c == '+' || c == '-' || c == '.' then
      some (String.ofList (name.map Char.toLower), rest)
    else none
  | _, _ => none

/-! ### Escapes -/

/-- Escapes the characters of a set and everything that is not visible ASCII. -/
def escapeIn (marks : List Char) (cs : List Char) : String :=
  String.ofList (cs.flatMap fun c =>
    if c.toNat < 33 ∨ 126 < c.toNat ∨ c ∈ marks then
      if c = ' ' ∧ ' ' ∉ marks then [c] else (utf8Bytes (String.singleton c)).flatMap percentByte
    else [c])

/-- Marks that are escaped in a fragment. -/
def fragmentMarks : List Char := [' ', '"', '<', '>', '\x60']

/-- Marks that are escaped in a query. -/
def queryMarks (special : Bool) : List Char :=
  [' ', '"', '#', '<', '>'] ++ if special then ['\x27'] else []

/-- Marks that are escaped in a path. -/
def pathMarks : List Char := [' ', '"', '#', '<', '>', '?', '\x60', '{', '}']

/-- Marks that are escaped in a user name or password. -/
def userMarks : List Char :=
  pathMarks ++ ['/', ':', ';', '=', '@', '[', '\\', ']', '^', '|']

end Origin

end Switchboard
