import Switchboard.Text.Percent

/-!
# Punycode

A label of a domain name is written in ASCII: its ASCII characters come first, and behind a dash
the others are inserted one after another, the smallest first.  Each insertion is a number, the
distance from the insertion before it, in digits of a base whose carry limit adapts to how far the
insertions lie apart.

Main definitions

* `Punycode.digits`: a number in digits that mark their own end;
* `Punycode.insertions`, `Punycode.encode`: a label in ASCII;
* `Punycode.decode?`: the label that is written so.

Main results

* `Punycode.digitValue?_digit`: reading a digit undoes writing it.
-/

set_option autoImplicit false

namespace Switchboard

namespace Punycode

/-! ### Numbers -/

/-- The base of the digits. -/
def base : Nat := 36

/-- A digit: a letter, or a decimal digit from 26 on. -/
def digit (n : Nat) : Char :=
  if n < 26 then Char.ofNat ('a'.toNat + n) else Char.ofNat ('0'.toNat + (n - 26))

/-- The value of a digit; the size of letters does not matter. -/
def digitValue? (c : Char) : Option Nat :=
  if 'a' ≤ c ∧ c ≤ 'z' then some (c.toNat - 'a'.toNat)
  else if 'A' ≤ c ∧ c ≤ 'Z' then some (c.toNat - 'A'.toNat)
  else if '0' ≤ c ∧ c ≤ '9' then some (c.toNat - '0'.toNat + 26)
  else none

theorem digitValue?_digit {n : Nat} (h : n < base) : digitValue? (digit n) = some n := by
  have all : ∀ m ∈ List.range base, digitValue? (digit m) = some m := by decide
  exact all n (List.mem_range.mpr h)

/-- A digit below this limit is the last of its number; `place` counts in steps of the base. -/
def limit (bias place : Nat) : Nat := max 1 (min 26 (place - bias))

/-- A number in digits that mark their own end, the least first. -/
def digits (bias place n : Nat) : List Char :=
  if n < limit bias place then [digit n]
  else
    digit (limit bias place + (n - limit bias place) % (base - limit bias place))
      :: digits bias (place + base) ((n - limit bias place) / (base - limit bias place))
termination_by n
decreasing_by
  have h : 1 ≤ limit bias place := Nat.le_max_left 1 _
  exact Nat.lt_of_le_of_lt (Nat.div_le_self _ _) (by omega)

/-- A distance in steps of 35, and what is left of it. -/
def shrink (steps distance : Nat) : Nat × Nat :=
  if 455 < distance then shrink (steps + 1) (distance / 35) else (steps, distance)
termination_by distance
decreasing_by exact Nat.div_lt_self (by omega) (by omega)

/-- The bias after a distance, given how many characters there are now. -/
def adapt (distance count : Nat) (isFirst : Bool) : Nat :=
  let scaled := if isFirst then distance / 700 else distance / 2
  let (steps, rest) := shrink 0 (scaled + scaled / count)
  steps * base + base * rest / (rest + 38)

/-- The bias in front of the first insertion. -/
def firstBias : Nat := 72

/-- The first character that is not ASCII. -/
def firstInserted : Nat := 128

/-! ### Writing labels -/

/-- Whether a character is ASCII. -/
def isBasic (c : Char) : Bool := c.toNat < firstInserted

/--
The characters to insert, the smallest first, each with the place that it takes among the ASCII
characters and those inserted before it.
-/
def insertions (label : List Char) : List (Char × Nat) :=
  ((label.zipIdx.filter fun e => !isBasic e.1).mergeSort fun e f => e.1.toNat ≤ f.1.toNat).map
    fun e => (e.1, (label.take e.2).countP fun c => c.toNat ≤ e.1.toNat)

/-- What is known after some insertions. -/
structure Progress where
  /-- The last character that was inserted. -/
  character : Nat
  /-- The place behind it. -/
  place : Nat
  /-- How many characters there are. -/
  count : Nat
  bias : Nat
  isFirst : Bool
  written : List Char

/-- One more insertion: its distance is counted in places, and from one character to the next. -/
def insert (p : Progress) (entry : Char × Nat) : Progress :=
  -- A new character may stand in any of `count + 1` places.
  let distance := (entry.1.toNat - p.character) * (p.count + 1) + entry.2 - p.place
  { character := entry.1.toNat
    place := entry.2 + 1
    count := p.count + 1
    bias := adapt distance (p.count + 1) p.isFirst
    isFirst := false
    written := p.written ++ digits p.bias base distance }

/-- A label in ASCII. -/
def encode (label : List Char) : List Char :=
  let basic := label.filter isBasic
  let start : Progress := ⟨firstInserted, 0, basic.length, firstBias, true, []⟩
  (if basic = [] then [] else basic ++ ['-'])
    ++ ((insertions label).foldl insert start).written

/-! ### Reading labels -/

/-- What is known of a label after some digits of its insertions. -/
structure Reading where
  label : List Char
  /-- The last character that was inserted. -/
  character : Nat
  /-- The place behind it. -/
  place : Nat
  bias : Nat
  isFirst : Bool
  /-- The distance that the digits of this insertion give so far. -/
  distance : Nat
  /-- What the next digit counts. -/
  weight : Nat
  /-- The place of the next digit, in steps of the base; the base in front of an insertion. -/
  digitPlace : Nat

/-- Numbers stay below this one. -/
def bound : Nat := 0x100000000

/-- The character of a code; nothing if there is none. -/
def character? (code : Nat) : Option Char :=
  if code.isValidChar then some (Char.ofNat code) else none

/-- The insertion at a distance is made. -/
def Reading.insert? (r : Reading) (distance : Nat) : Option Reading := do
  let count := r.label.length + 1
  let position := r.place + distance
  let place := position % count
  let c ← character? (r.character + position / count)
  return {
    label := r.label.take place ++ c :: r.label.drop place
    character := c.toNat
    place := place + 1
    bias := adapt distance count r.isFirst
    isFirst := false
    distance := 0
    weight := 1
    digitPlace := base }

/-- One more digit; nothing if it is no digit, or a number grows too large. -/
def Reading.add? (r : Reading) (c : Char) : Option Reading := do
  let d ← digitValue? c
  let distance := r.distance + d * r.weight
  if bound ≤ r.place + distance then none
  else if d < limit r.bias r.digitPlace then r.insert? distance
  else
    let weight := r.weight * (base - limit r.bias r.digitPlace)
    if bound ≤ weight then none
    else some { r with distance, weight, digitPlace := r.digitPlace + base }

/-- The ASCII characters of a label in front of the last dash, and its digits. -/
def parts (cs : List Char) : List Char × List Char :=
  let digits := (cs.reverse.takeWhile (· != '-')).reverse
  let basic := cs.take (cs.length - digits.length - 1)
  if basic = [] then ([], cs) else (basic, digits)

/-- The label that is written in ASCII; nothing if it is not written as it should be. -/
def decode? (cs : List Char) : Option (List Char) := do
  let (basic, digits) := parts cs
  let start : Reading := ⟨basic, firstInserted, 0, firstBias, true, 0, 1, base⟩
  let r ← digits.foldlM Reading.add? start
  -- The digits may not end inside a number.
  if r.digitPlace = base then some r.label else none

end Punycode

end Switchboard
