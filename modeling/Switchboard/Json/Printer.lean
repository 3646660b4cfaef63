import Switchboard.Json.Number

/-!
# Compact JSON text

A value is written without blanks, the members of an object in the order of their keys.  Inside a
string only the quote, the backslash and the characters below U+0020 are escaped.

Main definitions

* `Json.quoted`: a string literal;
* `Json.chars`, `Json.compact`: the text of a value.
-/

set_option autoImplicit false

namespace Switchboard.Json

/-- A lower-case hexadecimal digit. -/
def hexDigit (n : Nat) : Char := Nat.digitChar n

/-- One character of a string literal. -/
def escapeChar (c : Char) : List Char :=
  if c = '"' then ['\\', '"']
  else if c = '\\' then ['\\', '\\']
  else if c = '\n' then ['\\', 'n']
  else if c = '\r' then ['\\', 'r']
  else if c = '\t' then ['\\', 't']
  else if c.toNat = 8 then ['\\', 'b']
  else if c.toNat = 12 then ['\\', 'f']
  else if c.toNat < 32 then
    ['\\', 'u', '0', '0', hexDigit (c.toNat / 16), hexDigit (c.toNat % 16)]
  else [c]

/-- The characters of a string literal between its quotes, then the closing quote. -/
def quotedTail : List Char → List Char
  | [] => ['"']
  | c :: rest => escapeChar c ++ quotedTail rest

/-- A string literal. -/
def quoted (s : String) : List Char := '"' :: quotedTail s.toList

mutual

/-- The text of a value. -/
def chars : Json → List Char
  | .null => ['n', 'u', 'l', 'l']
  | .bool true => ['t', 'r', 'u', 'e']
  | .bool false => ['f', 'a', 'l', 's', 'e']
  | .number n => n.chars
  | .string s => quoted s
  | .array [] => ['[', ']']
  | .array (v :: rest) => '[' :: (chars v ++ itemChars rest)
  | .object [] => ['{', '}']
  | .object ((k, v) :: rest) => '{' :: (quoted k ++ ':' :: (chars v ++ memberChars rest))

/-- The items after the first, each behind a comma, then the closing bracket. -/
def itemChars : List Json → List Char
  | [] => [']']
  | v :: rest => ',' :: (chars v ++ itemChars rest)

/-- The members after the first, each behind a comma, then the closing brace. -/
def memberChars : List (String × Json) → List Char
  | [] => ['}']
  | (k, v) :: rest => ',' :: (quoted k ++ ':' :: (chars v ++ memberChars rest))

end

/-- The compact text of a value. -/
def compact (value : Json) : String := String.ofList value.chars

end Switchboard.Json
