import Switchboard.DomainName.Direction
import Switchboard.DomainName.Folding
import Switchboard.DomainName.Joiner
import Switchboard.Text.Normal
import Switchboard.Text.Punycode

/-!
# Labels of domain names

A label is a part of a domain name between points.  It reads as a text of any language and is
written in ASCII: as it is if it reads as ASCII, and else in digits behind a mark.

Main definitions

* `Label`: a label as it reads and as it is written;
* `Label.read?`, `Label.write`: the label of what is written, or of what it is to read as;
* `Label.isWellFormed`: whether a label may stand in a name.
-/

set_option autoImplicit false

namespace Switchboard

namespace DomainName

/-- A label of a domain name. -/
structure Label where
  /-- What it reads as. -/
  reading : List Char
  /-- How it is written in ASCII. -/
  ascii : List Char
  deriving DecidableEq, Repr, Inhabited

namespace Label

/-- What stands in front of the digits of a label. -/
def digitsMark : List Char := "xn--".toList

/-- How long a label may be that does not read as ASCII. -/
def longestReading : Nat := 1000

/-- How long the digits of a label may be. -/
def longestDigits : Nat := 2000

/-- The label that is written with digits; it may not read as ASCII or as something to be folded. -/
def read? (ascii : List Char) : Option Label := do
  let digits := ascii.drop digitsMark.length
  let reading ← Punycode.decode? digits
  if longestDigits < digits.length ∨ reading.all Punycode.isBasic
      ∨ !(ascii.all Punycode.isBasic && reading.all isKept) ∨ normalize reading ≠ reading then none
  else some ⟨reading, ascii⟩

/-- The label that reads as a folded text. -/
def write (reading : List Char) : Label :=
  ⟨reading,
    if reading.all Punycode.isBasic then reading else digitsMark ++ Punycode.encode reading⟩

/-- The label of a piece of a folded name. -/
def of? (piece : List Char) : Option Label :=
  if digitsMark.isPrefixOf piece then read? piece else some (write piece)

/-- Whether a label may stand in a name: it starts with no mark, and its joiners are needed. -/
def isWellFormed (l : Label) : Bool :=
  l.reading.all Punycode.isBasic
    || (!l.reading.head?.any isMark && joinersFit l.reading && l.reading.length ≤ longestReading)

end Label

end DomainName

end Switchboard
