import Switchboard.Json.Printer
import Switchboard.Text.Percent

/-!
# Queries

Parameters become a query: each string, number and boolean is one `path=text` pair, where a nested
path is written `parent[child]`.  Nulls and empty containers leave no pair.

Main definitions

* `childPath`: the path of a member or an item;
* `Query.pairs`: the pairs of one value, joined by `&`;
* `serializeParams`, `appendParams`.
-/

set_option autoImplicit false

namespace Switchboard

namespace Query

/-- The path of a key under a parent. -/
def childPath (parent : Option String) (key : String) : String :=
  match parent with
  | none => key
  | some parent => parent ++ "[" ++ key ++ "]"

/-- Two queries in a row; an empty one leaves no trace. -/
def join (a b : List Char) : List Char :=
  match a, b with
  | [], b => b
  | a, [] => a
  | a, b => a ++ '&' :: b

/-- One pair. -/
def pair (path text : String) : List Char := percentEncode path ++ '=' :: percentEncode text

mutual

/-- The pairs of a value at a path. -/
def pairs (path : String) : Json → List Char
  | .object members => memberPairs (some path) members
  | .array items => itemPairs (some path) 0 items
  | .null => []
  | .string s => pair path s
  | .bool b => pair path (Json.bool b).compact
  | .number n => pair path n.text

/-- The pairs of members, in their order. -/
def memberPairs (parent : Option String) : List (String × Json) → List Char
  | [] => []
  | (key, value) :: rest =>
    join (pairs (childPath parent key) value) (memberPairs parent rest)

/-- The pairs of items from an index on. -/
def itemPairs (parent : Option String) (index : Nat) : List Json → List Char
  | [] => []
  | value :: rest =>
    join (pairs (childPath parent (String.ofList (digitChars index))) value)
      (itemPairs parent (index + 1) rest)

end

end Query

/-- The query of parameters under an optional key; only containers have parameters. -/
def serializeParams (params : Json) (parent : Option String) : String :=
  match params with
  | .object members => String.ofList (Query.memberPairs parent members)
  | .array items => String.ofList (Query.itemPairs parent 0 items)
  | _ => ""

/-- A URL with a query behind it, after `?` if it has none yet and after `&` if it has. -/
def appendQuery (url query : String) : String :=
  if query = "" then url
  else if '?' ∈ url.toList then url ++ "&" ++ query
  else url ++ "?" ++ query

/-- A URL with parameters. -/
def appendParams (url : String) (params : Json) : String :=
  appendQuery url (serializeParams params none)

end Switchboard
