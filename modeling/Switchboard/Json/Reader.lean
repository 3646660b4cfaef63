import Switchboard.Json.Token

/-!
# Reading JSON texts

A text is read strictly: one value, no trailing commas, and at most `nestingLimit` containers
inside one another.  Of the members of one key the last is kept.

Main definitions

* `Json.readValue`, `Json.readItems`, `Json.readMembers`: the grammar over tokens;
* `Json.read?`: the value of a text.
-/

set_option autoImplicit false

namespace Switchboard.Json

/-- How many containers may enclose one another in a text. -/
def nestingLimit : Nat := 127

/-- What is left of a list of tokens after at least one of them. -/
abbrev Rest (ts : List Token) : Type := { rest : List Token // rest.length < ts.length }

mutual

/-- The value at the head, with at most `depth` nested containers, and what follows it. -/
def readValue (depth : Nat) (ts : List Token) : Option (Json × Rest ts) :=
  match depth, ts with
  | _, .null :: rest => some (.null, ⟨rest, by simp⟩)
  | _, .bool b :: rest => some (.bool b, ⟨rest, by simp⟩)
  | _, .number n :: rest => some (.number n, ⟨rest, by simp⟩)
  | _, .string s :: rest => some (.string s, ⟨rest, by simp⟩)
  | _ + 1, .openBracket :: .closeBracket :: rest =>
    some (.array [], ⟨rest, by simp only [List.length_cons]; omega⟩)
  | _ + 1, .openBrace :: .closeBrace :: rest =>
    some (.empty, ⟨rest, by simp only [List.length_cons]; omega⟩)
  | depth + 1, .openBracket :: rest =>
    match readItems depth rest with
    | some (items, ⟨after, h⟩) => some (.array items, ⟨after, by simp; omega⟩)
    | none => none
  | depth + 1, .openBrace :: rest =>
    match readMembers depth rest with
    | some (pairs, ⟨after, h⟩) => some (.ofPairs pairs, ⟨after, by simp; omega⟩)
    | none => none
  | _, _ => none
termination_by (ts.length, 0)

/-- One or more items behind an opening bracket, through the closing one. -/
def readItems (depth : Nat) (ts : List Token) : Option (List Json × Rest ts) :=
  match readValue depth ts with
  | some (v, ⟨.comma :: rest, h⟩) =>
    have : rest.length + 1 < ts.length := h
    match readItems depth rest with
    | some (vs, ⟨after, h'⟩) => some (v :: vs, ⟨after, by simp at h; omega⟩)
    | none => none
  | some (v, ⟨.closeBracket :: rest, h⟩) => some ([v], ⟨rest, by simp at h; omega⟩)
  | _ => none
termination_by (ts.length, 1)

/-- One or more members behind an opening brace, through the closing one. -/
def readMembers (depth : Nat) (ts : List Token) : Option (List (String × Json) × Rest ts) :=
  match ts with
  | .string k :: .colon :: ts =>
    match readValue depth ts with
    | some (v, ⟨.comma :: rest, h⟩) =>
      have : rest.length + 1 < ts.length := h
      match readMembers depth rest with
      | some (ps, ⟨after, h'⟩) => some ((k, v) :: ps, ⟨after, by simp at h ⊢; omega⟩)
      | none => none
    | some (v, ⟨.closeBrace :: rest, h⟩) => some ([(k, v)], ⟨rest, by simp at h ⊢; omega⟩)
    | _ => none
  | _ => none
termination_by (ts.length, 1)

end

/-- The value of a text; nothing if the text is not strictly one JSON value. -/
def read? (text : String) : Option Json := do
  let ts ← Token.scan text.toList
  match readValue nestingLimit ts with
  | some (v, ⟨[], _⟩) => some v
  | _ => none

end Switchboard.Json
