import Switchboard.Text.Utf8

/-!
# Percent encoding

A text inside a query keeps its unreserved characters; every other byte of its UTF-8 form is
written as a percent sign and two upper-case hexadecimal digits.

Main definitions

* `isUnreserved`: ASCII letters and digits, and four marks;
* `percentEncode`: the encoded text;
* `percentByte`: one escaped byte.
-/

set_option autoImplicit false

namespace Switchboard

/-- An upper-case hexadecimal digit. -/
def upperHexDigit (n : Nat) : Char := (Nat.digitChar n).toUpper

/-- A byte as a percent sign and two digits. -/
def percentByte (b : UInt8) : List Char :=
  ['%', upperHexDigit (b.toNat / 16), upperHexDigit (b.toNat % 16)]

/-- ASCII letters and digits and the marks `-`, `_`, `.` and `~`. -/
def isUnreserved (c : Char) : Bool :=
  c.isAlphanum || c == '-' || c == '_' || c == '.' || c == '~'

/-- One character of a text inside a query. -/
def percentChar (c : Char) : List Char :=
  if isUnreserved c then [c] else (utf8Bytes (String.singleton c)).flatMap percentByte

/-- A text inside a query. -/
def percentEncode (s : String) : List Char := s.toList.flatMap percentChar

end Switchboard
