/-!
# The shortest decimal of a binary fraction

A double stands for every real number that rounds to it.  Of the decimals in that interval the
shortest one has the fewest significant digits, and of those it is the nearest to the double
itself.  All arithmetic is exact, on natural numbers.

Main definitions

* `Decimal`: digits and the power of ten of the last digit;
* `Rounding`: a positive rational with the interval of reals that round to it;
* `Rounding.shortest`: its shortest decimal.
-/

set_option autoImplicit false

namespace Switchboard

/-- The number `digits * 10 ^ exponent`. -/
structure Decimal where
  digits : Nat
  exponent : Int
  deriving DecidableEq, Repr, Inhabited

/--
A positive rational `value / unit` and the interval that rounds to it, from `low / unit` to
`high / unit`; the two ends belong to it if `closed`.
-/
structure Rounding where
  low : Nat
  value : Nat
  high : Nat
  unit : Nat
  closed : Bool
  deriving DecidableEq, Repr, Inhabited

namespace Rounding

/--
The interval of `mantissa * 2 ^ exponent`.  It reaches half way to the two neighbours; below a
power of two the neighbour is twice as near, which `narrow` tells.
-/
def ofBinary (mantissa : Nat) (exponent : Int) (narrow : Bool) : Rounding :=
  let scale := Nat.pow 2 exponent.toNat
  { low := (4 * mantissa - if narrow then 1 else 2) * scale
    value := 4 * mantissa * scale
    high := (4 * mantissa + 2) * scale
    unit := 4 * Nat.pow 2 (-exponent).toNat
    closed := mantissa % 2 == 0 }

/-- Whether `digits * 10 ^ exponent` rounds to the value. -/
def holds (r : Rounding) (d : Decimal) : Bool :=
  let num := d.digits * Nat.pow 10 d.exponent.toNat * r.unit
  let scale := Nat.pow 10 (-d.exponent).toNat
  if r.closed then r.low * scale ≤ num && num ≤ r.high * scale
  else r.low * scale < num && num < r.high * scale

/-- The greatest multiple of `10 ^ exponent` that is not above the value. -/
def floorAt (r : Rounding) (exponent : Int) : Nat :=
  r.value * Nat.pow 10 (-exponent).toNat / (r.unit * Nat.pow 10 exponent.toNat)

/-- Twice the distance from the floor, in units of `10 ^ exponent`, compared with one unit. -/
def upperNearer (r : Rounding) (exponent : Int) : Bool :=
  let step := r.unit * Nat.pow 10 exponent.toNat
  let rest := r.value * Nat.pow 10 (-exponent).toNat % step
  let floor := r.floorAt exponent
  step < 2 * rest || (2 * rest == step && floor % 2 == 1)

/-- The point of the grid `10 ^ exponent` that rounds to the value and is nearest to it. -/
def nearestAt (r : Rounding) (exponent : Int) : Option Decimal :=
  let below : Decimal := ⟨r.floorAt exponent, exponent⟩
  let above : Decimal := ⟨r.floorAt exponent + 1, exponent⟩
  match r.holds below, r.holds above with
  | true, true => some (if r.upperNearer exponent then above else below)
  | true, false => some below
  | false, true => some above
  | false, false => none

/-- The least `j` with `value * 10 ^ j` at least `unit`, looked for among `fuel` candidates. -/
def shiftUp (r : Rounding) : (fuel : Nat) → (j : Nat) → Nat
  | 0, j => j
  | fuel + 1, j => if r.unit ≤ r.value * Nat.pow 10 j then j else shiftUp r fuel (j + 1)

/-- The power of ten of the leading digit. -/
def magnitude (r : Rounding) : Int :=
  if r.unit ≤ r.value then ((Nat.toDigits 10 (r.value / r.unit)).length : Int) - 1
  else -(r.shiftUp 400 0 : Int)

/-- The first grid that has a point which rounds to the value, from coarse to fine. -/
def search (r : Rounding) (leading : Int) : (grids : List Nat) → Option Decimal
  | [] => none
  | n :: rest =>
    match r.nearestAt (leading - n) with
    | some d => some d
    | none => search r leading rest

/--
The shortest decimal that rounds to the value; 17 digits always suffice for a double.  The search
starts one power of ten above the leading digit, since the value may round up to that power.
-/
def shortest (r : Rounding) : Decimal :=
  (r.search (r.magnitude + 1) (List.range 19)).getD ⟨0, 0⟩

end Rounding

end Switchboard
