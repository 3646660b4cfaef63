import Switchboard.Json.Value
import Switchboard.Decimal.Shortest

/-!
# Number literals

How a number is written and read.  An integer is its decimal digits.  A double is the shortest
decimal that rounds to it, written in positional notation from `1e-5` up to `1e16` and with an
exponent outside; a double always shows a point or an exponent.

Main definitions

* `Double.text`, `Number.text`: writing;
* `Literal`, `Literal.ofChars?`: the parts of a literal;
* `Number.ofLiteral?`: reading.
-/

set_option autoImplicit false

namespace Switchboard

/-! ### Writing -/

/-- The decimal digits of a natural number. -/
def digitChars (n : Nat) : List Char := Nat.toDigits 10 n

/-- The decimal digits of an integer, with a minus sign in front of a negative one. -/
def intChars : Int → List Char
  | .ofNat n => digitChars n
  | .negSucc n => '-' :: digitChars (n + 1)

/-- The choices of the notation of a double. -/
structure DoubleNotation where
  /-- The least power of ten of a leading digit that is written positionally. -/
  leastPositional : Int
  /-- The greatest power of ten of a leading digit that is written positionally. -/
  greatestPositional : Int
  /-- The sign in front of an exponent that is not negative. -/
  exponentSign : List Char

namespace DoubleNotation

/-- Positional from `1e-5` up to `1e16`; a positive exponent has its sign. -/
def json : DoubleNotation := ⟨-5, 15, ['+']⟩

/-- A decimal with the leading digit at the given power of ten. -/
def positional (digits : List Char) (leading : Int) : List Char :=
  if leading < 0 then
    '0' :: '.' :: (List.replicate (-leading - 1).toNat '0' ++ digits)
  else
    let whole := leading.toNat + 1
    if digits.length ≤ whole then
      digits ++ List.replicate (whole - digits.length) '0' ++ ['.', '0']
    else
      digits.take whole ++ '.' :: digits.drop whole

/-- One digit, a point if more follow, the other digits and the exponent. -/
def scientific (style : DoubleNotation) (digits : List Char) (leading : Int) : List Char :=
  let tail := if digits.length ≤ 1 then [] else '.' :: digits.drop 1
  let sign := if leading < 0 then [] else style.exponentSign
  digits.take 1 ++ tail ++ 'e' :: (sign ++ intChars leading)

/-- The text of a positive decimal. -/
def write (style : DoubleNotation) (d : Decimal) : List Char :=
  let digits := digitChars d.digits
  let leading := d.exponent + digits.length - 1
  if style.leastPositional ≤ leading ∧ leading ≤ style.greatestPositional then
    positional digits leading
  else style.scientific digits leading

end DoubleNotation

namespace Double

/-- Whether the sign bit is set. -/
def negative (x : Double) : Bool := x.bits >>> 63 == 1

/-- The biased exponent. -/
def exponentField (x : Double) : Nat := (x.bits >>> 52).toNat % 2048

/-- The fraction bits. -/
def fractionField (x : Double) : Nat := x.bits.toNat % 0x10000000000000

/-- The interval of reals that round to the magnitude of a double. -/
def rounding (x : Double) : Rounding :=
  if x.exponentField = 0 then .ofBinary x.fractionField (-1074) false
  else
    .ofBinary (0x10000000000000 + x.fractionField) ((x.exponentField : Int) - 1075)
      (x.fractionField == 0 && 1 < x.exponentField)

/-- The text of the magnitude of a double. -/
def magnitudeChars (x : Double) : List Char :=
  if x.isZero then ['0', '.', '0'] else DoubleNotation.json.write x.rounding.shortest

/-- The text of a double. -/
def chars (x : Double) : List Char :=
  if x.negative then '-' :: x.magnitudeChars else x.magnitudeChars

end Double

namespace Number

/-- The text of a number. -/
def chars : Number → List Char
  | .integer i => intChars i
  | .double x => x.chars

/-- The text of a number. -/
def text (n : Number) : String := String.ofList n.chars

end Number

/-! ### Literals -/

/-- The parts of a number literal; the exponent is there if `e` or `E` is. -/
structure Literal where
  negative : Bool
  whole : List Char
  fraction : Option (List Char)
  exponent : Option (Bool × List Char)
  deriving DecidableEq, Repr, Inhabited

namespace Literal

/-- The exponent part, without the letter: a sign and at least one digit. -/
def exponentOf? (cs : List Char) : Option (Bool × List Char) :=
  let (negative, digits) := match cs with
    | '-' :: r => (true, r)
    | '+' :: r => (false, r)
    | r => (false, r)
  if digits ≠ [] ∧ digits.all Char.isDigit then some (negative, digits) else none

/-- What may follow the integer part: a fraction, an exponent, both, or nothing. -/
def tailOf? (cs : List Char) : Option (Option (List Char) × Option (Bool × List Char)) :=
  let (fraction, rest) := match cs with
    | '.' :: r => (some (r.takeWhile Char.isDigit), r.dropWhile Char.isDigit)
    | r => (none, r)
  if fraction = some [] then none
  else
    match rest with
    | [] => some (fraction, none)
    | c :: r => if c = 'e' ∨ c = 'E' then (exponentOf? r).map fun e => (fraction, some e) else none

/-- Reads a literal: no sign but a minus, no leading zero, no bare point. -/
def ofChars? (cs : List Char) : Option Literal :=
  let (negative, cs) := match cs with
    | '-' :: r => (true, r)
    | r => (false, r)
  let whole := cs.takeWhile Char.isDigit
  if whole = [] ∨ (whole.head? = some '0' ∧ whole ≠ ['0']) then none
  else
    (tailOf? (cs.dropWhile Char.isDigit)).map fun (fraction, exponent) =>
      ⟨negative, whole, fraction, exponent⟩

end Literal

/-! ### Reading -/

/-- The value of a decimal digit. -/
def digitValue (c : Char) : Nat := c.toNat - '0'.toNat

/-- The number that a list of decimal digits writes. -/
def digitsValue (ds : List Char) : Nat := ds.foldl (fun n d => n * 10 + digitValue d) 0

/-- The largest number of 64 bits. -/
def wordLimit : Nat := 0xFFFFFFFFFFFFFFFF

/--
The leading digits, as many as the significand holds, and how many digits were left.
-/
def leadingDigits (significand : Nat) : List Char → Nat × List Char
  | [] => (significand, [])
  | d :: rest =>
    let next := significand * 10 + digitValue d
    if next ≤ wordLimit then leadingDigits next rest else (significand, d :: rest)

namespace Literal

/-- The significand and the power of ten that scales it, before the exponent part. -/
def significand (l : Literal) : Nat × Int :=
  let (whole, dropped) := leadingDigits 0 l.whole
  let (both, left) := leadingDigits whole (l.fraction.getD [])
  -- Digits of the whole part that were left still count as powers of ten; those of the
  -- fraction count for nothing.
  (both, (dropped.length : Int) - ((l.fraction.getD []).length - left.length : Nat))

/-- The exponent part; nothing if it does not fit in 31 bits. -/
def exponentValue? (l : Literal) : Option Int :=
  match l.exponent with
  | none => some 0
  | some (negative, digits) =>
    let n := digitsValue digits
    if n ≤ 0x7FFFFFFF then some (if negative then -n else n) else none

end Literal

/-- The double nearest to `10 ^ n`, for `n` up to 308. -/
def powerOfTen (n : Nat) : Float := Float.ofScientific (Nat.pow 10 n) false 0

/--
Divides by a power of ten in at most two steps, each by a power that a double holds; beyond that
nothing is left of a 64-bit significand.
-/
def scaleDown (x : Float) (exponent : Nat) : Float :=
  if exponent ≤ 308 then x / powerOfTen exponent
  else if exponent ≤ 616 then x / powerOfTen 308 / powerOfTen (exponent - 308)
  else 0

/-- Multiplies by a power of ten; nothing if the product is not finite. -/
def scaleUp? (x : Float) (exponent : Nat) : Option Float :=
  if exponent ≤ 308 then
    let y := x * powerOfTen exponent
    if y.isInf then none else some y
  else if x == 0 then some x
  else none

/-- The magnitude of a decimal with a bounded significand, scaled by one power of ten. -/
def scaled? (significand : Nat) (exponent : Int) : Option Float :=
  let x := (UInt64.ofNat significand).toFloat
  if 0 ≤ exponent then scaleUp? x exponent.toNat else some (scaleDown x (-exponent).toNat)

namespace Number

/-- A double with the given sign. -/
def signed (negative : Bool) (x : Float) : Number :=
  .double (.ofFloat (if negative then -x else x))

/-- The double of a literal; nothing if it is too large. -/
def doubleOf? (l : Literal) : Option Number :=
  let (significand, scale) := l.significand
  match l.exponentValue? with
  | some e => (scaled? significand (scale + e)).map (signed l.negative)
  | none =>
    match l.exponent with
    | some (false, _) => if significand = 0 then some (signed l.negative 0) else none
    | _ => some (signed l.negative 0)

/--
The number of a literal: exact if it is written as an integer between `-2 ^ 63` and `2 ^ 64 - 1`,
otherwise a double.  The literal `-0` is a double, because integers have one zero only.
-/
def ofLiteral? (l : Literal) : Option Number :=
  match l.fraction, l.exponent with
  | none, none =>
    let n := digitsValue l.whole
    if l.negative then
      if 0 < n ∧ n ≤ 0x8000000000000000 then some (.integer (-n)) else doubleOf? l
    else if n ≤ wordLimit then some (.integer n) else doubleOf? l
  | _, _ => doubleOf? l

end Number

end Switchboard
