import Switchboard.Text.Hidden

/-!
# Quoted text

A text between double quotes, on one line.  Characters that cannot be seen are written by their
code.

Main definitions

* `quoteChar`: one character, or how it is written if it cannot stand for itself;
* `quoteText`: a text in quotes.
-/

set_option autoImplicit false

namespace Switchboard

/-- One character inside quotes. -/
def quoteChar (c : Char) : List Char :=
  if c = '"' then ['\\', '"']
  else if c = '\\' then ['\\', '\\']
  else if c = '\n' then ['\\', 'n']
  else if c = '\r' then ['\\', 'r']
  else if c = '\t' then ['\\', 't']
  else if c.toNat = 0 then ['\\', '0']
  else if isVisible c then [c]
  else ['\\', 'u', '{'] ++ Nat.toDigits 16 c.toNat ++ ['}']

/-- A text in quotes. -/
def quoteText (s : String) : String :=
  String.ofList ('"' :: (s.toList.flatMap quoteChar ++ ['"']))

end Switchboard
