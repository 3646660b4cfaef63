import Switchboard.Json.Number

/-!
# Refs

A ref names a message, a join or a registration.  Refs are decimal texts of a 64-bit counter, which
wraps to zero.

Main definitions

* `Ref`, `RefGenerator`;
* `RefGenerator.next`: the next ref, and the generator after it;
* `RefGenerator.take`: several refs.
-/

set_option autoImplicit false

namespace Switchboard

/-- A name for a message, a join or a registration. -/
abbrev Ref : Type := String

/-- A source of refs; `current` is the number of the last one. -/
structure RefGenerator where
  current : UInt64
  deriving DecidableEq, Repr, Inhabited

namespace RefGenerator

/-- A generator whose first ref is `1`. -/
def new : RefGenerator := ⟨0⟩

/-- The text of a counter. -/
def text (n : UInt64) : Ref := String.ofList (digitChars n.toNat)

/-- Advances the counter; its new text is the ref. -/
def next (g : RefGenerator) : Ref × RefGenerator :=
  let n := g.current + 1
  (text n, ⟨n⟩)

/-- The next `count` refs. -/
def take (g : RefGenerator) : (count : Nat) → List Ref × RefGenerator
  | 0 => ([], g)
  | count + 1 =>
    let (ref, g) := g.next
    let (refs, g) := take g count
    (ref :: refs, g)

end RefGenerator

end Switchboard
