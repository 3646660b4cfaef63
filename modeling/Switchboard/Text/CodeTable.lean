import Switchboard.Text.Pieces

/-!
# Tables of characters

A property of characters is a table whose rows are ranges.  A table is written as words, one for
each row: the codes of the first and the last character in hexadecimal digits, and behind a colon
what the row says of them.  A dash joins the ends of a full range; a tilde joins the ends of a range
of which only every second character is meant.

Main definitions

* `CodeRow`, `CodeTable`;
* `CodeTable.ofText`: a table as it is written;
* `CodeTable.contains`, `CodeTable.value`, `CodeTable.replacement?`: what a table says of a
  character.
-/

set_option autoImplicit false

namespace Switchboard

/-- A row of a table. -/
structure CodeRow where
  first : Nat
  last : Nat
  /-- How far apart the characters of the row are. -/
  step : Nat
  /-- What the row says of its characters. -/
  codes : List Nat
  deriving DecidableEq, Repr, Inhabited

namespace CodeRow

/-- Whether a row is about a character. -/
def covers (r : CodeRow) (c : Char) : Bool :=
  r.first ≤ c.toNat && c.toNat ≤ r.last && (c.toNat - r.first) % r.step == 0

/-- What a character of the row stands for; a single code moves along with the character. -/
def replacement (r : CodeRow) (c : Char) : List Char :=
  match r.codes with
  | [code] => [Char.ofNat (code + (c.toNat - r.first))]
  | codes => codes.map Char.ofNat

/-- The value of a hexadecimal digit. -/
def digitValue (d : Char) : Nat :=
  if d.isDigit then d.toNat - '0'.toNat else d.toNat - 'a'.toNat + 10

/-- The number that hexadecimal digits write. -/
def code (digits : List Char) : Nat := digits.foldl (fun n d => n * 16 + digitValue d) 0

/-- A row whose characters are written as a range, with what it says of them. -/
def ofRange (range : List Char) (codes : List Nat) : CodeRow :=
  match splitAt '-' range, splitAt '~' range with
  | [first, last], _ => ⟨code first, code last, 1, codes⟩
  | _, [first, last] => ⟨code first, code last, 2, codes⟩
  | _, _ => ⟨code range, code range, 1, codes⟩

/-- A row as it is written. -/
def ofWord (word : List Char) : CodeRow :=
  match splitAt ':' word with
  | [range, codes] => ofRange range ((splitAt '.' codes).map code)
  | _ => ofRange word []

end CodeRow

/-- What is said of some characters, range by range. -/
abbrev CodeTable : Type := List CodeRow

namespace CodeTable

/-- A table as it is written. -/
def ofText (s : String) : CodeTable := (words s).map CodeRow.ofWord

/-- The row that is about a character. -/
def row? (t : CodeTable) (c : Char) : Option CodeRow := t.find? (·.covers c)

/-- Whether a table is about a character. -/
def contains (t : CodeTable) (c : Char) : Bool := (t.row? c).isSome

/-- The number that a table gives to a character, zero if it does not say. -/
def value (t : CodeTable) (c : Char) : Nat := ((t.row? c).bind (·.codes.head?)).getD 0

/-- What a character stands for, if a table says so. -/
def replacement? (t : CodeTable) (c : Char) : Option (List Char) :=
  (t.row? c).map (·.replacement c)

end CodeTable

end Switchboard
