import Mathlib
import Switchboard.Endpoint.Query
import Switchboard.Json.Token
import Switchboard.Text.Pieces

/-!
# Queries, read back

A query is read by cutting it at `&`, each piece at its `=`, and decoding both sides.  What
parameters leave in a query is read back as their leaves: the strings, numbers and booleans in them,
each with the path that leads to it.  Encoding keeps both marks out of paths and texts, so that a
piece is never mistaken for two, and a nested value leaves the pieces of its parts in a row.

The order of the leaves is the order of their paths: members by key, items by position.

Main definitions

* `percentDecode?`, `Query.readPair?`, `Query.read?`: reading;
* `Json.Step`, `Json.at?`: the parts of a value and the paths that lead to them;
* `Json.leaves`, `Json.parameters`: the leaves of a value and of parameters;
* `Json.pathText`: how a path is written under a key;
* `Query.text`: pairs in a row.

Main results

* `percentDecode?_percentEncode`: decoding undoes encoding;
* `Query.read?_text`: reading undoes writing, whatever the pairs are;
* `serializeParams_eq`: the query of parameters is that of their leaves;
* `Json.mem_leaves_iff`, `Json.Ordered.pairwise_leaves`: which leaves there are, and in which order;
* `serializeParams_read_back`: the query of parameters is read back.
-/

set_option autoImplicit false

namespace Switchboard

/-! ### Percent encoding, undone -/

/-- The bytes that an encoded text stands for; nothing if an escape is cut short. -/
def percentBytes? : List Char → Option Bytes
  | [] => some []
  | '%' :: a :: b :: rest => do
    let high ← Json.hexValue? a
    let low ← Json.hexValue? b
    let bytes ← percentBytes? rest
    return UInt8.ofNat (high * 16 + low) :: bytes
  | c :: rest =>
    if c = '%' then none else (percentBytes? rest).map (utf8Bytes (String.singleton c) ++ ·)

/-- The text that an encoded text stands for; nothing if it stands for no UTF-8. -/
def percentDecode? (cs : List Char) : Option String := (percentBytes? cs).bind utf8Text?

section Percent

variable {c : Char} {rest : List Char} {bytes : Bytes}

theorem hexValue?_upperHexDigit : ∀ n < 16, Json.hexValue? (upperHexDigit n) = some n := by decide

theorem isUnreserved_upperHexDigit : ∀ n < 16, isUnreserved (upperHexDigit n) = true := by decide

theorem percentBytes?_percentByte (b : UInt8) (h : percentBytes? rest = some bytes) :
    percentBytes? (percentByte b ++ rest) = some (b :: bytes) := by
  have hb : b.toNat < 256 := UInt8.toNat_lt b
  have hhigh := hexValue?_upperHexDigit (b.toNat / 16) (by omega)
  have hlow := hexValue?_upperHexDigit (b.toNat % 16) (by omega)
  have hdigits : b.toNat / 16 * 16 + b.toNat % 16 = b.toNat := by omega
  simp only [percentByte, List.cons_append, List.nil_append, percentBytes?, hhigh, hlow, h,
    Option.bind_eq_bind, Option.bind_some, hdigits, UInt8.ofNat_toNat, Option.pure_def]

theorem percentBytes?_flatMap_percentByte (bs : Bytes) (h : percentBytes? rest = some bytes) :
    percentBytes? (bs.flatMap percentByte ++ rest) = some (bs ++ bytes) := by
  induction bs with
  | nil => exact h
  | cons b bs ih =>
    rw [List.flatMap_cons, List.append_assoc, percentBytes?_percentByte b ih, List.cons_append]

theorem percentBytes?_cons (hc : c ≠ '%') (h : percentBytes? rest = some bytes) :
    percentBytes? (c :: rest) = some (utf8Bytes (String.singleton c) ++ bytes) := by
  rw [percentBytes?, if_neg hc, h, Option.map_some]
  exact fun _ _ _ heq => absurd heq hc

theorem percentBytes?_percentChar (c : Char) (h : percentBytes? rest = some bytes) :
    percentBytes? (percentChar c ++ rest) = some (utf8Bytes (String.singleton c) ++ bytes) := by
  unfold percentChar
  split
  · next hplain => exact percentBytes?_cons (by rintro rfl; simp [isUnreserved] at hplain) h
  · exact percentBytes?_flatMap_percentByte _ h

theorem utf8Bytes_append (s t : String) : utf8Bytes (s ++ t) = utf8Bytes s ++ utf8Bytes t := by
  simp [utf8Bytes, String.toByteArray_append]

theorem percentBytes?_flatMap_percentChar (cs : List Char) :
    percentBytes? (cs.flatMap percentChar) = some (utf8Bytes (String.ofList cs)) := by
  induction cs with
  | nil => rfl
  | cons c cs ih =>
    rw [List.flatMap_cons, percentBytes?_percentChar c ih, ← utf8Bytes_append]
    congr 2
    rw [← String.toList_inj]
    simp

/-- Decoding undoes encoding. -/
theorem percentDecode?_percentEncode (s : String) : percentDecode? (percentEncode s) = some s := by
  rw [percentDecode?, percentEncode, percentBytes?_flatMap_percentChar, String.ofList_toList,
    Option.bind_some, utf8Text?_utf8Bytes]

theorem mem_percentByte {b : UInt8} (h : c ∈ percentByte b) : isUnreserved c ∨ c = '%' := by
  have hb : b.toNat < 256 := UInt8.toNat_lt b
  simp only [percentByte, List.mem_cons, List.not_mem_nil, or_false] at h
  rcases h with rfl | rfl | rfl
  · exact Or.inr rfl
  · exact Or.inl (isUnreserved_upperHexDigit _ (by omega))
  · exact Or.inl (isUnreserved_upperHexDigit _ (by omega))

/-- An encoded text is made of unreserved characters and percent signs. -/
theorem mem_percentEncode {s : String} (h : c ∈ percentEncode s) : isUnreserved c ∨ c = '%' := by
  obtain ⟨d, _, hd⟩ := List.mem_flatMap.1 h
  unfold percentChar at hd
  split at hd
  · next hplain => exact Or.inl (List.mem_singleton.1 hd ▸ hplain)
  · obtain ⟨b, _, hb⟩ := List.mem_flatMap.1 hd
    exact mem_percentByte hb

/-- A character that is reserved and no percent sign marks something: it is never encoded text. -/
theorem notMem_percentEncode (hc : isUnreserved c = false) (hpercent : c ≠ '%') (s : String) :
    c ∉ percentEncode s := by
  intro h
  rcases mem_percentEncode h with h | h
  · rw [hc] at h
    cases h
  · exact hpercent h

end Percent

/-! ### Pieces -/

section Pieces

variable {sep : Char} {piece : List Char}

theorem splitAt_eq_self (h : sep ∉ piece) : splitAt sep piece = [piece] := by
  induction piece with
  | nil => rfl
  | cons c piece ih =>
    obtain ⟨hc, hpiece⟩ := not_or.1 (mt List.mem_cons.2 h)
    rw [splitAt, ih hpiece]
    simp [Ne.symm hc]

theorem splitAt_ne_nil (cs : List Char) : splitAt sep cs ≠ [] := by
  cases cs with
  | nil => simp [splitAt]
  | cons c cs =>
    rw [splitAt]
    split
    · simp
    · split <;> simp

/-- The first piece ends at the first separator. -/
theorem splitAt_append_cons (h : sep ∉ piece) (rest : List Char) :
    splitAt sep (piece ++ sep :: rest) = piece :: splitAt sep rest := by
  induction piece with
  | nil =>
    rw [List.nil_append, splitAt]
    split
    · next hnil => exact absurd hnil (splitAt_ne_nil rest)
    · next heq => rw [if_pos rfl, heq]
  | cons c piece ih =>
    obtain ⟨hc, hpiece⟩ := not_or.1 (mt List.mem_cons.2 h)
    rw [List.cons_append, splitAt, ih hpiece]
    simp [Ne.symm hc]

/-- Pieces that are free of the separator are the pieces of what they make in a row. -/
theorem splitAt_intercalate {pieces : List (List Char)} (hne : pieces ≠ [])
    (h : ∀ piece ∈ pieces, sep ∉ piece) : splitAt sep ([sep].intercalate pieces) = pieces := by
  induction pieces with
  | nil => exact absurd rfl hne
  | cons piece pieces ih =>
    obtain ⟨hpiece, hpieces⟩ := List.forall_mem_cons.1 h
    by_cases hnil : pieces = []
    · subst hnil
      rw [List.intercalate_singleton, splitAt_eq_self hpiece]
    · rw [List.intercalate_cons_of_ne_nil hnil, List.append_assoc, List.singleton_append,
        splitAt_append_cons hpiece, ih hnil hpieces]

end Pieces

/-! ### Pairs in a row -/

namespace Query

/-- Pairs in a row. -/
def text (pairs : List (String × String)) : List Char :=
  ['&'].intercalate (pairs.map fun p => pair p.1 p.2)

/-- The pair of a piece, which has one `=`. -/
def readPair? (piece : List Char) : Option (String × String) :=
  match splitAt '=' piece with
  | [path, text] => do
    let path ← percentDecode? path
    let text ← percentDecode? text
    return (path, text)
  | _ => none

/-- The pairs of a query; the empty query has none. -/
def read? (query : List Char) : Option (List (String × String)) :=
  if query = [] then some [] else (splitAt '&' query).mapM readPair?

variable {c : Char} {pairs : List (String × String)} {path value : String}

theorem pair_ne_nil (path value : String) : pair path value ≠ [] := by simp [pair]

theorem mem_pair (h : c ∈ pair path value) : isUnreserved c ∨ c = '%' ∨ c = '=' := by
  rcases List.mem_append.1 h with h | h
  · exact (mem_percentEncode h).imp_right Or.inl
  · rcases List.mem_cons.1 h with h | h
    · exact Or.inr (Or.inr h)
    · exact (mem_percentEncode h).imp_right Or.inl

theorem readPair?_pair (path value : String) : readPair? (pair path value) = some (path, value) := by
  have hequals : ∀ s, '=' ∉ percentEncode s := notMem_percentEncode (by decide) (by decide)
  rw [readPair?, pair, splitAt_append_cons (hequals path), splitAt_eq_self (hequals value)]
  simp [percentDecode?_percentEncode]

theorem text_nil : text [] = [] := rfl

theorem text_singleton (p : String × String) : text [p] = pair p.1 p.2 := by simp [text]

theorem text_cons (p : String × String) (h : pairs ≠ []) :
    text (p :: pairs) = pair p.1 p.2 ++ '&' :: text pairs := by
  rw [text, List.map_cons, List.intercalate_cons_of_ne_nil (by simpa using h), List.append_assoc,
    List.singleton_append, text]

theorem text_eq_nil_iff : text pairs = [] ↔ pairs = [] := by
  cases pairs with
  | nil => simp [text_nil]
  | cons p rest =>
    by_cases hrest : rest = []
    · simp [hrest, text_singleton, pair_ne_nil]
    · simp [text_cons p hrest]

theorem mem_text (h : c ∈ text pairs) : isUnreserved c ∨ c = '%' ∨ c = '=' ∨ c = '&' := by
  induction pairs with
  | nil => simp [text_nil] at h
  | cons p rest ih =>
    have hpair : c ∈ pair p.1 p.2 → isUnreserved c ∨ c = '%' ∨ c = '=' ∨ c = '&' := fun h =>
      (mem_pair h).imp_right (Or.imp_right Or.inl)
    by_cases hrest : rest = []
    · rw [hrest, text_singleton] at h
      exact hpair h
    · rw [text_cons p hrest, List.mem_append, List.mem_cons] at h
      rcases h with h | h | h
      · exact hpair h
      · exact Or.inr (Or.inr (Or.inr h))
      · exact ih h

/-- A reserved character that is none of the marks stands in no query. -/
theorem notMem_text (hc : isUnreserved c = false) (hmarks : c ∉ ['%', '=', '&'])
    (pairs : List (String × String)) : c ∉ text pairs := by
  intro h
  rcases mem_text h with hplain | hmark
  · rw [hc] at hplain
    cases hplain
  · exact hmarks (by simpa using hmark)

theorem splitAt_text (h : pairs ≠ []) :
    splitAt '&' (text pairs) = pairs.map fun p => pair p.1 p.2 := by
  refine splitAt_intercalate (by simpa using h) fun piece hpiece => ?_
  obtain ⟨p, _, rfl⟩ := List.mem_map.1 hpiece
  intro hamp
  rcases mem_pair hamp with h | h | h <;> revert h <;> decide

theorem mapM_readPair? (pairs : List (String × String)) :
    (pairs.map fun p => pair p.1 p.2).mapM readPair? = some pairs := by
  induction pairs with
  | nil => rfl
  | cons p rest ih =>
    rw [List.map_cons, List.mapM_cons, readPair?_pair, ih]
    rfl

/-- Reading undoes writing. -/
theorem read?_text (pairs : List (String × String)) : read? (text pairs) = some pairs := by
  by_cases hnil : pairs = []
  · rw [hnil, text_nil, read?, if_pos rfl]
  · rw [read?, if_neg (mt text_eq_nil_iff.1 hnil), splitAt_text hnil, mapM_readPair?]

theorem join_of_ne_nil {a b : List Char} (ha : a ≠ []) (hb : b ≠ []) :
    join a b = a ++ '&' :: b := by
  unfold join
  split <;> first | contradiction | rfl

/-- Queries in a row are the query of their pairs in a row. -/
theorem join_text (a b : List (String × String)) : join (text a) (text b) = text (a ++ b) := by
  by_cases hb : b = []
  · rw [hb, text_nil, List.append_nil]
    cases text a <;> rfl
  induction a with
  | nil => rfl
  | cons p a ih =>
    have htext : text b ≠ [] := mt text_eq_nil_iff.1 hb
    rw [join_of_ne_nil (mt text_eq_nil_iff.1 (List.cons_ne_nil p a)) htext, List.cons_append,
      text_cons p (List.append_ne_nil_of_right_ne_nil a hb), ← ih]
    by_cases ha : a = []
    · rw [ha, text_singleton]
      rfl
    · rw [text_cons p ha, join_of_ne_nil (mt text_eq_nil_iff.1 ha) htext, List.append_assoc,
        List.cons_append]

end Query

/-! ### Leaves -/

namespace Json

/-- A step from a container to one of its parts. -/
inductive Step where
  | key (name : String)
  | index (position : Nat)
  deriving DecidableEq, Repr

namespace Step

/-- How a step is written. -/
def text : Step → String
  | .key name => name
  | .index position => String.ofList (digitChars position)

/-- Members stand in the order of their keys, items in that of their positions. -/
def Before : Step → Step → Prop
  | .key a, .key b => a < b
  | .index i, .index j => i < j
  | _, _ => False

end Step

/-- The part of a value that one step leads to. -/
def child? : Json → Step → Option Json
  | .object members, .key name => Members.get? members name
  | .array items, .index position => items[position]?
  | _, _ => none

/-- The part of a value that a path leads to. -/
def at? (value : Json) : List Step → Option Json
  | [] => some value
  | step :: path => (value.child? step).bind (at? · path)

/-- The text of a leaf; nulls and containers are no leaves. -/
def leafText? : Json → Option String
  | .string s => some s
  | .bool b => some (Json.bool b).compact
  | .number n => some (Json.number n).compact
  | _ => none

/-- A leaf: the path that leads to it and its text. -/
abbrev Leaf : Type := List Step × String

/-- Leaves of a part, seen from the container. -/
def behind (step : Step) (leaves : List Leaf) : List Leaf :=
  leaves.map fun leaf => (step :: leaf.1, leaf.2)

mutual

/-- The leaves of a value, in the order of its members and items. -/
def leaves : Json → List Leaf
  | .object members => memberLeaves members
  | .array items => itemLeaves 0 items
  | .null => []
  | .string s => [([], s)]
  | .bool b => [([], (Json.bool b).compact)]
  | .number n => [([], (Json.number n).compact)]

/-- The leaves of members. -/
def memberLeaves : List (String × Json) → List Leaf
  | [] => []
  | (key, value) :: rest => behind (.key key) value.leaves ++ memberLeaves rest

/-- The leaves of items, of which the first has the given position. -/
def itemLeaves (position : Nat) : List Json → List Leaf
  | [] => []
  | value :: rest => behind (.index position) value.leaves ++ itemLeaves (position + 1) rest

end

/-- The leaves of parameters; only containers have any. -/
def parameters : Json → List Leaf
  | .object members => (Json.object members).leaves
  | .array items => (Json.array items).leaves
  | _ => []

/-- Every step of a path in brackets. -/
def bracketed : List Step → String
  | [] => ""
  | step :: path => "[" ++ step.text ++ "]" ++ bracketed path

/-- A path under a key; without a key the first step stands for one. -/
def pathText (parent : Option String) (path : List Step) : String :=
  match parent, path with
  | some parent, path => parent ++ bracketed path
  | none, [] => ""
  | none, step :: path => step.text ++ bracketed path

/-- The pair that a leaf leaves in a query. -/
def leafPair (parent : Option String) (leaf : Leaf) : String × String :=
  (pathText parent leaf.1, leaf.2)

end Json

/-! ### The query of parameters -/

section Parameters

open Json

theorem pathText_cons (parent : Option String) (step : Step) (path : List Step) :
    pathText parent (step :: path) = pathText (some (Query.childPath parent step.text)) path := by
  cases parent with
  | none => rfl
  | some parent => simp [pathText, bracketed, Query.childPath, String.append_assoc]

theorem map_leafPair_behind (parent : Option String) (step : Step) (leaves : List Leaf) :
    (behind step leaves).map (leafPair parent)
      = leaves.map (leafPair (some (Query.childPath parent step.text))) := by
  simp [behind, leafPair, pathText_cons]

theorem leafPair_root (path text : String) : leafPair (some path) ([], text) = (path, text) := by
  simp [leafPair, pathText, bracketed]

mutual

/-- The pairs of a value are those of its leaves. -/
theorem pairs_eq : ∀ (value : Json) (path : String),
    Query.pairs path value = Query.text (value.leaves.map (leafPair (some path)))
  | .object members, path => by
    rw [Query.pairs, leaves, memberPairs_eq members (some path)]
  | .array items, path => by
    rw [Query.pairs, leaves, itemPairs_eq items (some path) 0]
  | .null, _ => rfl
  | .string s, path => by
    rw [Query.pairs, leaves, List.map_singleton, leafPair_root, Query.text_singleton]
  | .bool b, path => by
    rw [Query.pairs, leaves, List.map_singleton, leafPair_root, Query.text_singleton]
  | .number n, path => by
    rw [Query.pairs, leaves, List.map_singleton, leafPair_root, Query.text_singleton]
    rfl

theorem memberPairs_eq : ∀ (members : List (String × Json)) (parent : Option String),
    Query.memberPairs parent members = Query.text ((memberLeaves members).map (leafPair parent))
  | [], _ => rfl
  | (key, value) :: rest, parent => by
    rw [Query.memberPairs, pairs_eq value, memberPairs_eq rest parent, Query.join_text,
      memberLeaves, List.map_append, map_leafPair_behind]
    rfl

theorem itemPairs_eq : ∀ (items : List Json) (parent : Option String) (position : Nat),
    Query.itemPairs parent position items
      = Query.text ((itemLeaves position items).map (leafPair parent))
  | [], _, _ => rfl
  | value :: rest, parent, position => by
    rw [Query.itemPairs, pairs_eq value, itemPairs_eq rest parent, Query.join_text,
      itemLeaves, List.map_append, map_leafPair_behind]
    rfl

end

/-- The query of parameters is that of their leaves. -/
theorem serializeParams_eq (params : Json) (parent : Option String) :
    (serializeParams params parent).toList
      = Query.text (params.parameters.map (leafPair parent)) := by
  cases params with
  | object members => simp [serializeParams, parameters, leaves, memberPairs_eq]
  | array items => simp [serializeParams, parameters, leaves, itemPairs_eq]
  | _ => rfl

end Parameters

/-! ### Which leaves there are -/

theorem Members.Sorted.get?_eq_some_iff {members : Members} (h : members.Sorted) {key : String}
    {value : Json} : members.get? key = some value ↔ (key, value) ∈ members := by
  induction members with
  | nil => simp [Members.get?]
  | cons p rest ih =>
    obtain ⟨k, v⟩ := p
    obtain ⟨hhead, hrest⟩ := List.pairwise_cons.1 h
    rw [Members.get?, List.mem_cons, Prod.mk.injEq]
    split
    · next heq =>
      subst heq
      -- The key stands in front once, and so not behind as well.
      have hnot : (key, value) ∉ rest := fun hmem =>
        String.lt_irrefl key (hhead (key, value) hmem)
      simp [hnot, eq_comm]
    · next hne => simp [hne, ih hrest]

namespace Json

/-- Every object keeps its members in the order of their keys. -/
inductive Ordered : Json → Prop
  | null : Ordered .null
  | bool (b : Bool) : Ordered (.bool b)
  | number (n : Number) : Ordered (.number n)
  | string (s : String) : Ordered (.string s)
  | array {items : List Json} (ordered : ∀ v ∈ items, Ordered v) : Ordered (.array items)
  | object {members : Members} (sorted : members.Sorted) (ordered : ∀ p ∈ members, Ordered p.2) :
    Ordered (.object members)

variable {value : Json} {step : Step} {path : List Step} {text : String} {found : List Leaf}

theorem mem_behind : (path, text) ∈ behind step found ↔
    ∃ rest, path = step :: rest ∧ (rest, text) ∈ found := by
  simp only [behind, List.mem_map, Prod.mk.injEq, Prod.exists]
  constructor
  · rintro ⟨rest, _, hmem, rfl, rfl⟩
    exact ⟨rest, rfl, hmem⟩
  · rintro ⟨rest, rfl, hmem⟩
    exact ⟨rest, text, hmem, rfl, rfl⟩

theorem memberLeaves_eq (members : List (String × Json)) :
    memberLeaves members = members.flatMap fun p => behind (.key p.1) p.2.leaves := by
  induction members with
  | nil => rfl
  | cons p rest ih => rw [memberLeaves, List.flatMap_cons, ih]

theorem itemLeaves_eq (items : List Json) (position : Nat) :
    itemLeaves position items
      = (items.zipIdx position).flatMap fun p => behind (.index p.2) p.1.leaves := by
  induction items generalizing position with
  | nil => rfl
  | cons v rest ih => rw [itemLeaves, List.zipIdx_cons, List.flatMap_cons, ih]

/-- A path leads to a leaf with a text. -/
def LeadsTo (value : Json) (path : List Step) (text : String) : Prop :=
  ∃ leaf, value.at? path = some leaf ∧ leaf.leafText? = some text

theorem leadsTo_cons : value.LeadsTo (step :: path) text ↔
    ∃ part, value.child? step = some part ∧ part.LeadsTo path text := by
  simp only [LeadsTo, at?, Option.bind_eq_some_iff]
  constructor
  · rintro ⟨leaf, ⟨part, hpart, hleaf⟩, htext⟩
    exact ⟨part, hpart, leaf, hleaf, htext⟩
  · rintro ⟨part, hpart, leaf, hleaf, htext⟩
    exact ⟨leaf, ⟨part, hpart, hleaf⟩, htext⟩

theorem leadsTo_nil : value.LeadsTo [] text ↔ value.leafText? = some text := by
  simp [LeadsTo, at?]

/-- The leaves of a value are those that a path leads to. -/
theorem mem_leaves_iff (h : value.Ordered) : (path, text) ∈ value.leaves ↔
    value.LeadsTo path text := by
  induction h generalizing path with
  | null => cases path <;> simp [leaves, leadsTo_nil, leadsTo_cons, leafText?, child?]
  | bool b => cases path <;> simp [leaves, leadsTo_nil, leadsTo_cons, leafText?, child?, eq_comm]
  | number n =>
    cases path <;> simp [leaves, leadsTo_nil, leadsTo_cons, leafText?, child?, eq_comm]
  | string s =>
    cases path <;> simp [leaves, leadsTo_nil, leadsTo_cons, leafText?, child?, eq_comm]
  | array _ ih =>
    simp only [leaves, itemLeaves_eq, List.mem_flatMap, mem_behind, Prod.exists,
      List.mem_zipIdx_iff_getElem?]
    cases path with
    | nil => simp [leadsTo_nil, leafText?]
    | cons step path =>
      rw [leadsTo_cons]
      constructor
      · rintro ⟨part, position, hpart, rest, hpath, hmem⟩
        obtain ⟨rfl, rfl⟩ := List.cons.inj hpath
        exact ⟨part, hpart, (ih part (List.mem_of_getElem? hpart)).1 hmem⟩
      · rintro ⟨part, hpart, hleads⟩
        cases step with
        | key name => cases hpart
        | index position =>
          exact ⟨part, position, hpart, path, rfl,
            (ih part (List.mem_of_getElem? hpart)).2 hleads⟩
  | object sorted _ ih =>
    simp only [leaves, memberLeaves_eq, List.mem_flatMap, mem_behind, Prod.exists]
    cases path with
    | nil => simp [leadsTo_nil, leafText?]
    | cons step path =>
      rw [leadsTo_cons]
      constructor
      · rintro ⟨name, part, hpart, rest, hpath, hmem⟩
        obtain ⟨rfl, rfl⟩ := List.cons.inj hpath
        exact ⟨part, sorted.get?_eq_some_iff.2 hpart, (ih _ hpart).1 hmem⟩
      · rintro ⟨part, hpart, hleads⟩
        cases step with
        | index position => cases hpart
        | key name =>
          have hmem := sorted.get?_eq_some_iff.1 hpart
          exact ⟨name, part, hmem, path, rfl, (ih _ hmem).2 hleads⟩

/-- One leaf in front of another: their paths are in lexicographic order. -/
def Leaf.Before (a b : Leaf) : Prop := List.Lex Step.Before a.1 b.1

theorem pairwise_behind (h : found.Pairwise Leaf.Before) :
    (behind step found).Pairwise Leaf.Before := by
  rw [behind, List.pairwise_map]
  exact h.imp fun hab => List.Lex.cons hab

theorem before_of_step {step' : Step} (h : step.Before step') {found' : List Leaf} :
    ∀ a ∈ behind step found, ∀ b ∈ behind step' found', Leaf.Before a b := by
  intro a ha b hb
  obtain ⟨_, _, rfl⟩ := List.mem_map.1 ha
  obtain ⟨_, _, rfl⟩ := List.mem_map.1 hb
  exact List.Lex.rel h

theorem pairwise_zipIdx (items : List Json) (position : Nat) :
    (items.zipIdx position).Pairwise fun a b => a.2 < b.2 := by
  induction items generalizing position with
  | nil => exact List.Pairwise.nil
  | cons v rest ih =>
    exact List.pairwise_cons.2 ⟨fun _ hb => List.le_snd_of_mem_zipIdx hb, ih (position + 1)⟩

/-- The leaves stand in the order of their paths. -/
theorem Ordered.pairwise_leaves (h : value.Ordered) : value.leaves.Pairwise Leaf.Before := by
  induction h with
  | null => exact List.Pairwise.nil
  | bool b => exact List.pairwise_singleton ..
  | number n => exact List.pairwise_singleton ..
  | string s => exact List.pairwise_singleton ..
  | @array items _ ih =>
    rw [leaves, itemLeaves_eq, List.pairwise_flatMap]
    refine ⟨fun p hp => pairwise_behind (ih p.1 ?_), ?_⟩
    · exact List.mem_of_getElem? (List.mem_zipIdx_iff_getElem?.1 hp)
    · exact (pairwise_zipIdx items 0).imp fun hlt => before_of_step hlt
  | @object members sorted _ ih =>
    rw [leaves, memberLeaves_eq, List.pairwise_flatMap]
    refine ⟨fun p hp => pairwise_behind (ih p hp), List.Pairwise.imp (fun {p q} hlt => ?_) sorted⟩
    exact before_of_step (show Step.Before (.key p.1) (.key q.1) from hlt)

/-- The leaves of parameters are the leaves that at least one step leads to. -/
theorem Ordered.mem_parameters_iff (h : value.Ordered) :
    (path, text) ∈ value.parameters ↔ path ≠ [] ∧ value.LeadsTo path text := by
  cases path with
  | nil => cases value <;> simp [parameters, mem_leaves_iff h, leadsTo_nil, leafText?]
  | cons step path =>
    cases value <;> simp [parameters, mem_leaves_iff h, leadsTo_cons, child?]

theorem Ordered.pairwise_parameters (h : value.Ordered) :
    value.parameters.Pairwise Leaf.Before := by
  cases value with
  | object members => exact h.pairwise_leaves
  | array items => exact h.pairwise_leaves
  | _ => exact List.Pairwise.nil

end Json

/-! ### Reading parameters back -/

/--
The query of parameters is read back, under any key: it has only unreserved characters and three
marks, its pairs are the leaves of the parameters, and it is empty only if there are none.  The
leaves are those that a path leads to, in the order of their paths.
-/
theorem serializeParams_read_back (params : Json) (parent : Option String) :
    (∀ c ∈ (serializeParams params parent).toList,
      isUnreserved c ∨ c = '%' ∨ c = '=' ∨ c = '&') ∧
    (serializeParams params parent = "" ↔ params.parameters = []) ∧
    (serializeParams params parent ≠ "" →
      (splitAt '&' (serializeParams params parent).toList).mapM Query.readPair?
        = some (params.parameters.map (Json.leafPair parent))) ∧
    (params.Ordered →
      params.parameters.Pairwise Json.Leaf.Before ∧
      ∀ path text, (path, text) ∈ params.parameters ↔
        path ≠ [] ∧ params.LeadsTo path text) := by
  have hempty : serializeParams params parent = "" ↔ params.parameters = [] := by
    rw [← String.toList_eq_nil_iff, serializeParams_eq, Query.text_eq_nil_iff, List.map_eq_nil_iff]
  refine ⟨fun c hc => ?_, hempty, fun hne => ?_, fun hordered => ?_⟩
  · rw [serializeParams_eq] at hc
    exact Query.mem_text hc
  · rw [serializeParams_eq, Query.splitAt_text (by simpa using mt hempty.2 hne),
      Query.mapM_readPair?]
  · exact ⟨hordered.pairwise_parameters, fun path text => hordered.mem_parameters_iff⟩

/-- Parameters with a part inside a part, a null and an empty array. -/
def Json.nested : Json :=
  .object [("token", .string "a&b"), ("user", .object [("id", .number (.integer 1)),
    ("names", .array [.string "x y", .array []]), ("ü", .null)])]

theorem Json.ordered_nested : Json.nested.Ordered := by
  refine .object (by unfold Members.Sorted; decide) fun p hp => ?_
  simp only [List.mem_cons, List.not_mem_nil, or_false] at hp
  rcases hp with rfl | rfl
  · exact .string _
  · refine .object (by unfold Members.Sorted; decide) fun p hp => ?_
    simp only [List.mem_cons, List.not_mem_nil, or_false] at hp
    rcases hp with rfl | rfl | rfl
    · exact .number _
    · refine .array fun v hv => ?_
      simp only [List.mem_cons, List.not_mem_nil, or_false] at hv
      rcases hv with rfl | rfl
      · exact .string _
      · exact .array fun v hv => absurd hv List.not_mem_nil
    · exact .null

theorem serializeParams_read_back_nested :
    (splitAt '&' (serializeParams Json.nested none).toList).mapM Query.readPair?
        = some [("token", "a&b"), ("user[id]", "1"), ("user[names][0]", "x y")] ∧
      Json.nested.parameters.Pairwise Json.Leaf.Before :=
  have ⟨_, _, pairs, order⟩ := serializeParams_read_back Json.nested none
  ⟨pairs (by decide), (order Json.ordered_nested).1⟩

end Switchboard
