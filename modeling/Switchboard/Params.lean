import Switchboard.Json.Printer
import Switchboard.Text.Quoted

/-!
# Parameters

Parameters are evaluated each time they are sent: they are a fixed value, or a function of how
often they were evaluated before.

Main definitions

* `Params`, `Params.resolve`;
* `Params.description`: the parameters on one line.
-/

set_option autoImplicit false

namespace Switchboard

/-- Where the values of parameters come from. -/
inductive ParamSource where
  | fixed (value : Json)
  | computed (value : Nat → Json)

instance : Inhabited ParamSource := ⟨.fixed .null⟩

/-- A source, and how often it was evaluated. -/
structure Params where
  source : ParamSource
  evaluations : Nat
  deriving Inhabited

namespace Params

/-- The same value each time. -/
def fixed (value : Json) : Params := ⟨.fixed value, 0⟩

/-- The value of the n-th evaluation, counted from zero. -/
def computed (value : Nat → Json) : Params := ⟨.computed value, 0⟩

/-- The value of the next evaluation. -/
def value (p : Params) : Json :=
  match p.source with
  | .fixed v => v
  | .computed f => f p.evaluations

/-- Evaluates once. -/
def resolve (p : Params) : Json × Params :=
  (p.value, { p with evaluations := p.evaluations + 1 })

mutual

/-- A value with the kinds of its parts. -/
def describeJson : Json → List Char
  | .null => "Null".toList
  | .bool true => "Bool(true)".toList
  | .bool false => "Bool(false)".toList
  | .number n => "Number(".toList ++ n.chars ++ [')']
  | .string s => "String(".toList ++ (quoteText s).toList ++ [')']
  | .array items => "Array [".toList ++ describeItems items ++ [']']
  | .object members => "Object ".toList ++ '\x7b' :: (describeMembers members ++ ['\x7d'])

/-- Items with commas between them. -/
def describeItems : List Json → List Char
  | [] => []
  | [v] => describeJson v
  | v :: w :: rest => describeJson v ++ ',' :: ' ' :: describeItems (w :: rest)

/-- Members with commas between them. -/
def describeMembers : List (String × Json) → List Char
  | [] => []
  | [(k, v)] => (quoteText k).toList ++ ':' :: ' ' :: describeJson v
  | (k, v) :: p :: rest =>
    (quoteText k).toList ++ ':' :: ' ' ::
      (describeJson v ++ ',' :: ' ' :: describeMembers (p :: rest))

end

/-- The parameters on one line. -/
def description (p : Params) : String :=
  match p.source with
  | .fixed v => "Static(" ++ String.ofList (describeJson v) ++ ")"
  | .computed _ => "Computed(..)"

end Params

end Switchboard
