/-!
# Pieces

A list is cut at a separator, and a text into words.

Main definitions

* `splitAt`: the pieces of a list between separators;
* `words`: the words of a text.
-/

set_option autoImplicit false

namespace Switchboard

/-- The pieces of a list between separators. -/
def splitAt (sep : Char) : List Char → List (List Char)
  | [] => [[]]
  | c :: rest =>
    match splitAt sep rest with
    | [] => [[c]]
    | piece :: pieces => if c = sep then [] :: piece :: pieces else (c :: piece) :: pieces

/-- The words of a text and the part of a word in front of them, one more character read. -/
def readWord (c : Char) (read : List Char × List (List Char)) : List Char × List (List Char) :=
  if c = ' ' ∨ c = '\n' then ([], if read.1 = [] then read.2 else read.1 :: read.2)
  else (c :: read.1, read.2)

/-- The words of a text, which stand between blanks and line breaks. -/
def words (s : String) : List (List Char) := ((' ' :: s.toList).foldr readWord ([], [])).2

end Switchboard
