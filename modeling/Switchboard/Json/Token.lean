import Switchboard.Json.Number

/-!
# JSON tokens

A JSON text is a sequence of tokens with blanks between them: six marks, three words, numbers and
strings.

Main definitions

* `Json.Token`: a token;
* `Json.unquote`: the rest of a string literal, with its escapes undone;
* `Json.Token.scan`: the tokens of a text.
-/

set_option autoImplicit false

namespace Switchboard.Json

/-- A lexical unit of a JSON text. -/
inductive Token where
  | openBracket
  | closeBracket
  | openBrace
  | closeBrace
  | colon
  | comma
  | null
  | bool (value : Bool)
  | number (value : Number)
  | string (value : String)
  deriving DecidableEq, Repr

/-! ### Strings -/

/-- The value of a hexadecimal digit of either case. -/
def hexValue? (c : Char) : Option Nat :=
  if '0' ≤ c ∧ c ≤ '9' then some (c.toNat - '0'.toNat)
  else if 'a' ≤ c ∧ c ≤ 'f' then some (c.toNat - 'a'.toNat + 10)
  else if 'A' ≤ c ∧ c ≤ 'F' then some (c.toNat - 'A'.toNat + 10)
  else none

/-- The unit that four hexadecimal digits write. -/
def unitOf? (a b c d : Char) : Option Nat := do
  let a ← hexValue? a
  let b ← hexValue? b
  let c ← hexValue? c
  let d ← hexValue? d
  return ((a * 16 + b) * 16 + c) * 16 + d

/-- A unit that leads a pair. -/
def isHighSurrogate (n : Nat) : Bool := 0xD800 ≤ n && n < 0xDC00

/-- A unit that ends a pair. -/
def isLowSurrogate (n : Nat) : Bool := 0xDC00 ≤ n && n < 0xE000

/-- The character that a pair of units writes. -/
def pairChar (high low : Nat) : Char :=
  Char.ofNat (0x10000 + (high - 0xD800) * 0x400 + (low - 0xDC00))

/-- The character of an escape of one letter. -/
def simpleEscape? (c : Char) : Option Char :=
  if c = '"' then some '"'
  else if c = '\\' then some '\\'
  else if c = '/' then some '/'
  else if c = 'b' then some '\x08'
  else if c = 'f' then some '\x0c'
  else if c = 'n' then some '\n'
  else if c = 'r' then some '\r'
  else if c = 't' then some '\t'
  else none

/-- The second unit of a pair behind its first, with its own backslash. -/
def lowHalf? (high : Nat) : List Char → Option (Char × List Char)
  | slash :: u :: a :: b :: c :: d :: rest =>
    if slash = '\\' ∧ u = 'u' then
      match unitOf? a b c d with
      | some low => if isLowSurrogate low then some (pairChar high low, rest) else none
      | none => none
    else none
  | _ => none

/-- The character of four hexadecimal digits; a unit of a pair is refused without its partner. -/
def unicodeEscape? : List Char → Option (Char × List Char)
  | a :: b :: c :: d :: rest =>
    match unitOf? a b c d with
    | none => none
    | some n =>
      if isHighSurrogate n then lowHalf? n rest
      else if isLowSurrogate n then none
      else some (Char.ofNat n, rest)
  | _ => none

/-- The character of an escape, behind the backslash. -/
def escape? : List Char → Option (Char × List Char)
  | [] => none
  | c :: rest =>
    if c = 'u' then unicodeEscape? rest else (simpleEscape? c).map fun c => (c, rest)

/-- One character of a string literal and what follows it; a raw control character is refused. -/
def unescape? : List Char → Option (Char × List Char)
  | [] => none
  | c :: rest =>
    if c = '\\' then escape? rest else if c.toNat < 32 then none else some (c, rest)

theorem length_of_lowHalf? {high : Nat} {cs rest : List Char} {c : Char}
    (h : lowHalf? high cs = some (c, rest)) : rest.length < cs.length := by
  unfold lowHalf? at h
  split at h
  · split at h
    · split at h
      · split at h
        · obtain ⟨_, rfl⟩ := Prod.mk.inj (Option.some.inj h)
          simp; omega
        · cases h
      · cases h
    · cases h
  · cases h

theorem length_of_unicodeEscape? {cs rest : List Char} {c : Char}
    (h : unicodeEscape? cs = some (c, rest)) : rest.length < cs.length := by
  unfold unicodeEscape? at h
  split at h
  · split at h
    · cases h
    · split at h
      · have := length_of_lowHalf? h
        simp; omega
      · split at h
        · cases h
        · obtain ⟨_, rfl⟩ := Prod.mk.inj (Option.some.inj h)
          simp; omega
  · cases h

theorem length_of_escape? {cs rest : List Char} {c : Char} (h : escape? cs = some (c, rest)) :
    rest.length < cs.length := by
  unfold escape? at h
  split at h
  · cases h
  · split at h
    · have := length_of_unicodeEscape? h
      simp; omega
    · obtain ⟨d, _, hd⟩ := Option.map_eq_some_iff.1 h
      cases hd; simp

theorem length_of_unescape? {cs rest : List Char} {c : Char} (h : unescape? cs = some (c, rest)) :
    rest.length < cs.length := by
  unfold unescape? at h
  split at h
  · cases h
  · split at h
    · have := length_of_escape? h
      simp; omega
    · split at h
      · cases h
      · cases h; simp

/-- The string up to its closing quote, and what follows the quote. -/
def unquote (cs : List Char) : Option (List Char × List Char) :=
  if cs.head? = some '"' then some ([], cs.tail)
  else
    match h : unescape? cs with
    | none => none
    | some (c, rest) =>
      have : rest.length < cs.length := length_of_unescape? h
      (unquote rest).map fun (s, after) => (c :: s, after)
termination_by cs.length

theorem length_of_unquote {cs s rest : List Char} (h : unquote cs = some (s, rest)) :
    rest.length < cs.length := by
  fun_induction unquote cs generalizing s with
  | case1 cs hcs =>
    cases h
    cases cs with
    | nil => simp at hcs
    | cons => simp
  | case2 => cases h
  | case3 cs _ c after hc hlt ih =>
    obtain ⟨⟨t, u⟩, ht, hu⟩ := Option.map_eq_some_iff.1 h
    cases hu
    exact Nat.lt_trans (ih ht) hlt

/-! ### Texts -/

/-- The blanks between tokens. -/
def isBlank (c : Char) : Bool := c == ' ' || c == '\t' || c == '\n' || c == '\r'

/-- The characters that number literals are made of. -/
def inNumber (c : Char) : Bool :=
  c.isDigit || c == '-' || c == '+' || c == '.' || c == 'e' || c == 'E'

namespace Token

/-- The mark that a character is. -/
def mark? (c : Char) : Option Token :=
  if c = '[' then some .openBracket
  else if c = ']' then some .closeBracket
  else if c = '{' then some .openBrace
  else if c = '}' then some .closeBrace
  else if c = ':' then some .colon
  else if c = ',' then some .comma
  else none

/-- The word at the head of a text, and what follows it. -/
def word? (cs : List Char) : Option (Token × List Char) :=
  if cs.take 4 = ['n', 'u', 'l', 'l'] then some (.null, cs.drop 4)
  else if cs.take 4 = ['t', 'r', 'u', 'e'] then some (.bool true, cs.drop 4)
  else if cs.take 5 = ['f', 'a', 'l', 's', 'e'] then some (.bool false, cs.drop 5)
  else none

/-- The number at the head of a text, as far as its characters go, and what follows it. -/
def number? (cs : List Char) : Option (Token × List Char) :=
  match (Literal.ofChars? (cs.takeWhile inNumber)).bind Number.ofLiteral? with
  | some n => some (.number n, cs.dropWhile inNumber)
  | none => none

/-- The token at the head of a text that is not a blank, and what follows it. -/
def next? : List Char → Option (Token × List Char)
  | [] => none
  | c :: rest =>
    match mark? c with
    | some t => some (t, rest)
    | none =>
      if c = '"' then (unquote rest).map fun (s, after) => (.string (String.ofList s), after)
      else if c.isDigit || c == '-' then number? (c :: rest)
      else word? (c :: rest)

theorem length_of_word? {cs rest : List Char} {t : Token} (h : word? cs = some (t, rest)) :
    rest.length < cs.length := by
  have key : ∀ {w : List Char} {n : Nat}, [] ≠ w → 0 < n → cs.take n = w →
      (cs.drop n).length < cs.length := by
    intro w n hw hn hcs
    cases cs with
    | nil => exact absurd (by simpa using hcs) hw
    | cons => simp; omega
  unfold word? at h
  split at h
  · rename_i hcs; cases h; exact key (by simp) (by omega) hcs
  · split at h
    · rename_i hcs; cases h; exact key (by simp) (by omega) hcs
    · split at h
      · rename_i hcs; cases h; exact key (by simp) (by omega) hcs
      · cases h

theorem length_dropWhile_le (p : Char → Bool) (cs : List Char) :
    (cs.dropWhile p).length ≤ cs.length := by
  induction cs with
  | nil => simp
  | cons c rest ih =>
    by_cases h : p c
    · simp [h]; omega
    · simp [h]

theorem length_of_number? {c : Char} {cs rest : List Char} {t : Token} (hc : inNumber c)
    (h : number? (c :: cs) = some (t, rest)) : rest.length < cs.length + 1 := by
  unfold number? at h
  split at h
  · cases h
    have := length_dropWhile_le inNumber cs
    simp [hc]; omega
  · cases h

theorem length_of_next? {cs rest : List Char} {t : Token} (h : next? cs = some (t, rest)) :
    rest.length < cs.length := by
  unfold next? at h
  split at h
  · cases h
  · split at h
    · cases h; simp
    · split at h
      · obtain ⟨⟨s, after⟩, hs, ht⟩ := Option.map_eq_some_iff.1 h
        cases ht
        have := length_of_unquote hs
        simp; omega
      · split at h
        · rename_i hc
          refine length_of_number? ?_ h
          rw [Bool.or_eq_true] at hc
          rcases hc with hc | hc <;> simp [inNumber, hc]
        · exact length_of_word? h

/-- The tokens of a text; nothing if some part of it is no token. -/
def scan (cs : List Char) : Option (List Token) :=
  match cs with
  | [] => some []
  | c :: rest =>
    if isBlank c then scan rest
    else
      match h : next? (c :: rest) with
      | none => none
      | some (t, after) =>
        have : after.length < rest.length + 1 := length_of_next? h
        (scan after).map (t :: ·)
termination_by cs.length

end Token

end Switchboard.Json
