import Switchboard.Text.Composition
import Switchboard.Text.Mark

/-!
# Normal form of text

The same text can be written with different characters: an accented letter is one character, or a
letter with a mark behind it, and marks of different classes may change places.  In the normal form
characters are taken apart, marks stand in the order of their classes, and what can be written as
one character is.

Main definitions

* `decompose`: a text with its characters taken apart;
* `orderMarks`: a text with its marks in order;
* `compose`: a text with pairs put together;
* `normalize`: the normal form.
-/

set_option autoImplicit false

namespace Switchboard

/-! ### Korean syllables -/

namespace Hangul

/-- The first syllable. -/
def firstSyllable : Nat := 0xac00

/-- The first of the letters that start a syllable. -/
def firstStart : Nat := 0x1100

/-- The first of the vowels. -/
def firstVowel : Nat := 0x1161

/-- The code in front of the first of the letters that end a syllable. -/
def noEnd : Nat := 0x11a7

/-- The number of letters that start a syllable. -/
def starts : Nat := 19

/-- The number of vowels. -/
def vowels : Nat := 21

/-- The number of endings, the missing one included. -/
def ends : Nat := 28

/-- The letters of a syllable: a start, a vowel and perhaps an end. -/
def letters? (c : Char) : Option (List Char) :=
  let n := c.toNat - firstSyllable
  if c.toNat < firstSyllable ∨ starts * vowels * ends ≤ n then none
  else
    let start := Char.ofNat (firstStart + n / (vowels * ends))
    let vowel := Char.ofNat (firstVowel + n / ends % vowels)
    if n % ends = 0 then some [start, vowel]
    else some [start, vowel, Char.ofNat (noEnd + n % ends)]

/-- The syllable of a start and a vowel, or of a syllable without an end and an end. -/
def syllable? (a b : Char) : Option Char :=
  if firstStart ≤ a.toNat ∧ a.toNat < firstStart + starts ∧ firstVowel ≤ b.toNat
      ∧ b.toNat < firstVowel + vowels then
    some (Char.ofNat (firstSyllable
      + ((a.toNat - firstStart) * vowels + (b.toNat - firstVowel)) * ends))
  else if firstSyllable ≤ a.toNat ∧ a.toNat < firstSyllable + starts * vowels * ends
      ∧ (a.toNat - firstSyllable) % ends = 0 ∧ noEnd < b.toNat ∧ b.toNat < noEnd + ends then
    some (Char.ofNat (a.toNat + (b.toNat - noEnd)))
  else none

end Hangul

/-! ### Taking apart -/

/-- A character taken apart, with a limit on how often its parts are taken apart again. -/
def decomposeWithin : Nat → Char → List Char
  | 0, c => [c]
  | n + 1, c =>
    match Hangul.letters? c with
    | some letters => letters
    | none =>
      match parts? c with
      | some parts => parts.flatMap (decomposeWithin n)
      | none => [c]

/-- How often the parts of a character can have parts themselves; none in the tables needs more. -/
def decompositionDepth : Nat := 3

/-- A text with its characters taken apart; an ASCII character has no parts. -/
def decompose (cs : List Char) : List Char :=
  cs.flatMap fun c => if c.toNat < 128 then [c] else decomposeWithin decompositionDepth c

/-! ### The order of marks -/

/-- Puts a mark behind the marks of smaller classes that it stands in front of. -/
def placeMark (c : Char) : List Char → List Char
  | [] => [c]
  | d :: rest =>
    if 0 < combiningClass d ∧ combiningClass d < combiningClass c then d :: placeMark c rest
    else c :: d :: rest

/-- A text with the marks behind each character in the order of their classes. -/
def orderMarks (cs : List Char) : List Char := cs.foldr placeMark []

/-! ### Putting together -/

/-- The character that two characters are written as. -/
def pair? (a b : Char) : Option Char :=
  match Hangul.syllable? a b with
  | some c => some c
  | none => joined? a b

/--
What is put together so far: a character, the marks behind it that stay apart from it, the last one
first, and the text before it, reversed.
-/
structure Composing where
  before : List Char
  base : Char
  marks : List Char

namespace Composing

/-- All that was put together, reversed. -/
def reversed (p : Composing) : List Char := p.marks ++ p.base :: p.before

/-- Whether nothing between the base and a character keeps them apart. -/
def reaches (p : Composing) (c : Char) : Bool :=
  match p.marks with
  | [] => true
  | mark :: _ => combiningClass mark < combiningClass c

/-- One more character. -/
def add (p : Composing) (c : Char) : Composing :=
  match if p.reaches c then pair? p.base c else none with
  | some whole => { p with base := whole }
  | none =>
    if combiningClass c = 0 then ⟨p.reversed, c, []⟩ else { p with marks := c :: p.marks }

end Composing

/-- A text with its pairs put together. -/
def compose : List Char → List Char
  | [] => []
  | c :: rest => (rest.foldl Composing.add ⟨[], c, []⟩).reversed.reverse

/-- The normal form of a text. -/
def normalize (cs : List Char) : List Char := compose (orderMarks (decompose cs))

end Switchboard
