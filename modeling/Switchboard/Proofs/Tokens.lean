import Mathlib
import Switchboard.Json.Printer
import Switchboard.Json.Token

/-!
# Printed values as tokens

The compact text of a value is made of the texts of its tokens, and scanning gives these tokens back.
What follows a token matters to numbers only: a number goes on as long as the characters do, and
behind a printed value there stands a comma, a closing mark or nothing.

Only integers of at most 64 bits are read back as they were, and of an object only the order of its
keys that it was printed in.  `Plain` values keep to this.

Main definitions

* `Json.Plain`: values that their text tells in full;
* `Json.tokens`: the tokens of a value;
* `Json.Scans`: what scanning makes of the head of a text.

Main results

* `Json.unquote_quotedTail`: a string is read back from its literal, whatever its characters are;
* `Json.number?_intChars`: an integer is read back from its digits;
* `Json.scans_chars`: scanning the text of a plain value gives its tokens.
-/

set_option autoImplicit false

namespace Switchboard.Json

variable {c : Char} {cs rest after : List Char} {t : Token} {v : Json} {n : Nat} {i : Int}

/-! ### One token after another -/

namespace Token

theorem isBlank_eq_false_of_next? (h : next? (c :: cs) = some (t, after)) : isBlank c = false := by
  by_contra hc
  rw [Bool.not_eq_false] at hc
  have hblank : c = ' ' ∨ c = '\t' ∨ c = '\n' ∨ c = '\r' := by
    simpa [isBlank, or_assoc] using hc
  rcases hblank with rfl | rfl | rfl | rfl <;> simp [next?, mark?, word?] at h

theorem scan_of_next? (h : next? cs = some (t, after)) : scan cs = (scan after).map (t :: ·) := by
  cases cs with
  | nil => cases h
  | cons c rest =>
    rw [scan, if_neg (by simp [isBlank_eq_false_of_next? h])]
    split
    · next hnone => rw [h] at hnone; cases hnone
    · next hsome => rw [h] at hsome; cases hsome; rfl

end Token

/-! ### Strings -/

theorem hexValue?_hexDigit : ∀ n < 16, hexValue? (hexDigit n) = some n := by decide

theorem unescape?_escapeChar (c : Char) (rest : List Char) :
    unescape? (escapeChar c ++ rest) = some (c, rest) := by
  unfold escapeChar
  split_ifs with h1 h2 h3 h4 h5 h6 h7 h8
  · subst h1; rfl
  · subst h2; rfl
  · subst h3; rfl
  · subst h4; rfl
  · subst h5; rfl
  · rw [← Char.ofNat_toNat c, h6]; rfl
  · rw [← Char.ofNat_toNat c, h7]; rfl
  · have high := hexValue?_hexDigit (c.toNat / 16) (by omega)
    have low := hexValue?_hexDigit (c.toNat % 16) (by omega)
    have zero : hexValue? '0' = some 0 := by decide
    have hunit : c.toNat / 16 * 16 + c.toNat % 16 = c.toNat := by omega
    have hh : isHighSurrogate c.toNat = false := by simp [isHighSurrogate]; omega
    have hl : isLowSurrogate c.toNat = false := by simp [isLowSurrogate]; omega
    simp [unescape?, escape?, unicodeEscape?, unitOf?, high, low, zero, hunit, hh, hl,
      Char.ofNat_toNat]
  · simp [unescape?, h2, h8]

theorem head?_escapeChar (c : Char) (rest : List Char) :
    (escapeChar c ++ rest).head? ≠ some '"' := by
  unfold escapeChar
  split_ifs with h1 <;> simp [h1]

theorem unquote_quotedTail (cs rest : List Char) :
    unquote (quotedTail cs ++ rest) = some (cs, rest) := by
  induction cs with
  | nil => rw [unquote]; simp [quotedTail]
  | cons c cs ih =>
    rw [quotedTail, List.append_assoc, unquote, if_neg (head?_escapeChar c _)]
    split
    · next hnone => rw [unescape?_escapeChar] at hnone; cases hnone
    · next hsome =>
      rw [unescape?_escapeChar] at hsome
      cases hsome
      simp [ih]

theorem next?_quoted (s : String) (rest : List Char) :
    Token.next? (quoted s ++ rest) = some (.string s, rest) := by
  simp [quoted, Token.next?, Token.mark?, unquote_quotedTail]

/-! ### Integers -/

/-- An integer that a literal can carry: a word of 64 bits, with or without a sign. -/
def Exact (i : Int) : Prop := -2 ^ 63 ≤ i ∧ i < 2 ^ 64

instance (i : Int) : Decidable (Exact i) := inferInstanceAs (Decidable (_ ∧ _))

/-- A text in front of which a number has come to its end. -/
def Stops (rest : List Char) : Prop := ∀ c ∈ rest.head?, inNumber c = false

theorem isDigit_of_mem_digitChars (h : c ∈ digitChars n) : c.isDigit = true :=
  Nat.isDigit_of_mem_toDigits (by decide) (by decide) h

theorem digitsValue_digitChars (n : Nat) : digitsValue (digitChars n) = n := by
  have hread : Nat.ofDigitChars 10 (Nat.toDigits 10 n) 0 = n := Nat.ofDigitChars_ten_toDigits
  simpa [digitsValue, digitChars, digitValue, Nat.ofDigitChars, Nat.mul_comm] using hread

/-- Only zero is written with a leading zero. -/
theorem head?_digitChars (h : (digitChars n).head? = some '0') : digitChars n = ['0'] := by
  induction n using Nat.strong_induction_on with
  | _ n ih =>
    rw [digitChars, Nat.toDigits_eq_if (by decide)] at h ⊢
    split_ifs at h ⊢ with hn
    · simpa using h
    -- The digits before the last would be those of zero, but they are those of a positive number.
    · have hne : Nat.toDigits 10 (n / 10) ≠ [] := Nat.toDigits_ne_nil
      rw [List.head?_append_of_ne_nil _ hne] at h
      have hzero := ih (n / 10) (by omega) h
      have hvalue := digitsValue_digitChars (n / 10)
      rw [hzero] at hvalue
      simp [digitsValue, digitValue] at hvalue
      omega

theorem takeWhile_append_stops {p : Char → Bool} (h : ∀ c ∈ cs, p c = true)
    (hrest : ∀ c ∈ rest.head?, p c = false) : (cs ++ rest).takeWhile p = cs := by
  rw [List.takeWhile_append_of_pos h]
  cases rest with
  | nil => simp
  | cons c rest => simp [hrest c rfl]

theorem dropWhile_append_stops {p : Char → Bool} (h : ∀ c ∈ cs, p c = true)
    (hrest : ∀ c ∈ rest.head?, p c = false) : (cs ++ rest).dropWhile p = rest := by
  rw [List.dropWhile_append_of_pos h]
  cases rest with
  | nil => simp
  | cons c rest => simp [hrest c rfl]

/-- The sign in front of digits. -/
def signChars (negative : Bool) : List Char := if negative then ['-'] else []

theorem ofChars?_signed (negative : Bool) (n : Nat) :
    Literal.ofChars? (signChars negative ++ digitChars n)
      = some ⟨negative, digitChars n, none, none⟩ := by
  have hdigits : ∀ c ∈ digitChars n, c.isDigit = true := fun c hc => isDigit_of_mem_digitChars hc
  have hne : digitChars n ≠ [] := Nat.toDigits_ne_nil
  have htake : (digitChars n).takeWhile Char.isDigit = digitChars n := by simpa using hdigits
  have hdrop : (digitChars n).dropWhile Char.isDigit = [] := by simpa using hdigits
  unfold Literal.ofChars?
  split
  next sign cs heq =>
  obtain ⟨rfl, rfl⟩ : sign = negative ∧ cs = digitChars n := by
    cases negative with
    | true => simpa [signChars, eq_comm] using heq
    | false =>
      split at heq
      · next r h =>
        have := hdigits '-' (by simp_all [signChars])
        simp at this
      · simpa [signChars, eq_comm] using heq
  rw [htake, hdrop, if_neg]
  · simp [Literal.tailOf?]
  · rintro (h | ⟨h, h'⟩)
    · exact hne h
    · exact h' (head?_digitChars h)

theorem intChars_eq (i : Int) : intChars i = signChars (decide (i < 0)) ++ digitChars i.natAbs := by
  cases i with
  | ofNat n => simp [intChars, signChars]
  | negSucc n => simp [intChars, signChars]

theorem ofLiteral?_exact (h : Exact i) :
    Number.ofLiteral? ⟨decide (i < 0), digitChars i.natAbs, none, none⟩ = some (.integer i) := by
  obtain ⟨hlow, hhigh⟩ := h
  simp only [Number.ofLiteral?, digitsValue_digitChars, wordLimit]
  by_cases hneg : i < 0
  · rw [if_pos (by simpa using hneg), if_pos (by omega), Int.ofNat_natAbs_of_nonpos (by omega)]
    simp
  · rw [if_neg (by simpa using hneg), if_pos (by omega), Int.natAbs_of_nonneg (by omega)]

/-- The characters of an integer are those that a number begins with. -/
theorem beginsNumber_of_mem_intChars (h : c ∈ intChars i) : (c.isDigit || c == '-') = true := by
  rw [intChars_eq, List.mem_append] at h
  rcases h with h | h
  · have hc : c = '-' := by
      unfold signChars at h
      split_ifs at h <;> simp_all
    simp [hc]
  · simp [isDigit_of_mem_digitChars h]

theorem inNumber_of_mem_intChars (h : c ∈ intChars i) : inNumber c = true := by
  simp [inNumber, beginsNumber_of_mem_intChars h]

theorem intChars_ne_nil (i : Int) : intChars i ≠ [] := by
  have hne : digitChars i.natAbs ≠ [] := Nat.toDigits_ne_nil
  simp [intChars_eq, hne]

theorem number?_intChars (h : Exact i) (hrest : Stops rest) :
    Token.number? (intChars i ++ rest) = some (.number (.integer i), rest) := by
  have hread : (Literal.ofChars? (intChars i)).bind Number.ofLiteral? = some (.integer i) := by
    rw [intChars_eq, ofChars?_signed, Option.bind_some, ofLiteral?_exact h]
  rw [Token.number?, takeWhile_append_stops (fun c => inNumber_of_mem_intChars) hrest,
    dropWhile_append_stops (fun c => inNumber_of_mem_intChars) hrest, hread]

theorem next?_of_beginsNumber (h : (c.isDigit || c == '-') = true) :
    Token.next? (c :: cs) = Token.number? (c :: cs) := by
  have hmark : Token.mark? c = none := by
    unfold Token.mark?
    split_ifs with h1 h2 h3 h4 h5 h6
    all_goals first | rfl | (subst c; simp at h)
  have hquote : c ≠ '"' := by rintro rfl; simp at h
  rw [Token.next?, hmark]
  simp [hquote, h]

theorem next?_intChars (h : Exact i) (hrest : Stops rest) :
    Token.next? (intChars i ++ rest) = some (.number (.integer i), rest) := by
  obtain ⟨c, cs, hcs⟩ := List.exists_cons_of_ne_nil (intChars_ne_nil i)
  have hc := beginsNumber_of_mem_intChars (c := c) (i := i) (by simp [hcs])
  rw [← number?_intChars h hrest, hcs, List.cons_append, next?_of_beginsNumber hc]

/-! ### Whole values -/

mutual

/-- The tokens of a value, in the order of its text. -/
def tokens : Json → List Token
  | .null => [.null]
  | .bool b => [.bool b]
  | .number n => [.number n]
  | .string s => [.string s]
  | .array [] => [.openBracket, .closeBracket]
  | .array (v :: rest) => .openBracket :: (tokens v ++ itemTokens rest)
  | .object [] => [.openBrace, .closeBrace]
  | .object ((k, v) :: rest) =>
    .openBrace :: .string k :: .colon :: (tokens v ++ memberTokens rest)

/-- The tokens of the items after the first, and of the closing bracket. -/
def itemTokens : List Json → List Token
  | [] => [.closeBracket]
  | v :: rest => .comma :: (tokens v ++ itemTokens rest)

/-- The tokens of the members after the first, and of the closing brace. -/
def memberTokens : List (String × Json) → List Token
  | [] => [.closeBrace]
  | (k, v) :: rest => .comma :: .string k :: .colon :: (tokens v ++ memberTokens rest)

end

/--
A value that its text tells in full: its numbers are integers of at most 64 bits.  Members stand in
the order of their keys, as in every object that was read or built.
-/
inductive Plain : Json → Prop
  | null : Plain .null
  | bool (b : Bool) : Plain (.bool b)
  | number {i : Int} (exact : Exact i) : Plain (.number (.integer i))
  | string (s : String) : Plain (.string s)
  | array {items : List Json} (plain : ∀ v ∈ items, Plain v) : Plain (.array items)
  | object {members : Members} (sorted : members.Sorted) (plain : ∀ p ∈ members, Plain p.2) :
    Plain (.object members)

/-- In front of the given rest, a text is scanned as the given tokens. -/
def Scans (cs : List Char) (ts : List Token) (rest : List Char) : Prop :=
  Token.scan (cs ++ rest) = (Token.scan rest).map (ts ++ ·)

namespace Scans

variable {ds : List Char} {ts us : List Token} {k : String}

theorem one (h : Token.next? (cs ++ rest) = some (t, rest)) : Scans cs [t] rest := by
  simpa [Scans] using Token.scan_of_next? h

theorem append (h : Scans cs ts (ds ++ rest)) (h' : Scans ds us rest) :
    Scans (cs ++ ds) (ts ++ us) rest := by
  rw [Scans, List.append_assoc, h, h', Option.map_map]
  simp [Function.comp_def]

theorem mark (hc : Token.mark? c = some t) (h : Scans cs ts rest) :
    Scans (c :: cs) (t :: ts) rest := by
  have first : Scans [c] [t] (cs ++ rest) := one (by simp [Token.next?, hc])
  exact first.append h

theorem key (h : Scans cs ts rest) :
    Scans (quoted k ++ ':' :: cs) (.string k :: .colon :: ts) rest := by
  have name : Scans (quoted k) [.string k] (':' :: cs ++ rest) := one (next?_quoted k _)
  exact name.append (mark rfl h)

end Scans

theorem stops_itemChars (items : List Json) : Stops (itemChars items ++ rest) := by
  cases items <;> simp [itemChars, Stops, inNumber]

theorem stops_memberChars (members : Members) : Stops (memberChars members ++ rest) := by
  rcases members with _ | ⟨⟨k, v⟩, _⟩ <;> simp [memberChars, Stops, inNumber]

mutual

theorem scans_chars : ∀ (v : Json) (rest : List Char), v.Plain → Stops rest →
    Scans v.chars v.tokens rest
  | .null, rest, _, _ => .one rfl
  | .bool true, rest, _, _ => .one rfl
  | .bool false, rest, _, _ => .one rfl
  | .number _, rest, .number exact, hrest => .one (next?_intChars exact hrest)
  | .string s, rest, _, _ => .one (next?_quoted s rest)
  | .array [], rest, _, _ => .mark rfl (.one rfl)
  | .array (v :: items), rest, .array plain, _ => by
    obtain ⟨hv, hitems⟩ := List.forall_mem_cons.1 plain
    have head := scans_chars v (itemChars items ++ rest) hv (stops_itemChars items)
    exact .mark rfl (head.append (scans_itemChars items rest hitems))
  | .object [], rest, _, _ => .mark rfl (.one rfl)
  | .object ((k, v) :: members), rest, .object _ plain, _ => by
    obtain ⟨hv, hmembers⟩ := List.forall_mem_cons.1 plain
    have head := scans_chars v (memberChars members ++ rest) hv (stops_memberChars members)
    exact .mark rfl (.key (head.append (scans_memberChars members rest hmembers)))

theorem scans_itemChars : ∀ (items : List Json) (rest : List Char), (∀ v ∈ items, v.Plain) →
    Scans (itemChars items) (itemTokens items) rest
  | [], rest, _ => .one rfl
  | v :: items, rest, plain => by
    obtain ⟨hv, hitems⟩ := List.forall_mem_cons.1 plain
    have head := scans_chars v (itemChars items ++ rest) hv (stops_itemChars items)
    exact .mark rfl (head.append (scans_itemChars items rest hitems))

theorem scans_memberChars : ∀ (members : List (String × Json)) (rest : List Char),
    (∀ p ∈ members, p.2.Plain) → Scans (memberChars members) (memberTokens members) rest
  | [], rest, _ => .one rfl
  | (k, v) :: members, rest, plain => by
    obtain ⟨hv, hmembers⟩ := List.forall_mem_cons.1 plain
    have head := scans_chars v (memberChars members ++ rest) hv (stops_memberChars members)
    exact .mark rfl (.key (head.append (scans_memberChars members rest hmembers)))

end

end Switchboard.Json
