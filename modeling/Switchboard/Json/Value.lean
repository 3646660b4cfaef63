/-!
# JSON values

The data that payloads, parameters and presence entries are made of.  A number is either an exact
integer or a binary double, and the two are never the same number.  The members of an object are
kept in the order of their keys, one member a key.

Main definitions

* `Double`, `Number`, `Json`: the values;
* `Members.insert`, `Members.ofList`, `Members.get?`: the members of an object;
* `Json.same`: equality of values, under which the two zeros of a double are one number;
* `Json.depth`: how many containers are nested.

Main results

* `Members.sorted_insert`, `Members.sorted_ofList`: members stay in strictly increasing key order.
-/

set_option autoImplicit false

namespace Switchboard

/-- A binary double, given by the 64 bits of its standard encoding. -/
structure Double where
  bits : UInt64
  deriving DecidableEq, Repr, Inhabited

namespace Double

/-- Both zeros: every bit but the sign is clear. -/
def isZero (x : Double) : Bool := x.bits <<< 1 == 0

/-- Equal as numbers: the same bits, or two zeros. -/
def same (x y : Double) : Bool := x.bits == y.bits || (x.isZero && y.isZero)

/-- The double that a floating-point computation ended in. -/
def ofFloat (x : Float) : Double := ⟨x.toBits⟩

end Double

/-- A JSON number: an exact integer, or a double. -/
inductive Number where
  | integer (value : Int)
  | double (value : Double)
  deriving DecidableEq, Repr, Inhabited

namespace Number

/-- An integer and a double are never the same number. -/
def same : Number → Number → Bool
  | .integer a, .integer b => a == b
  | .double a, .double b => a.same b
  | _, _ => false

end Number

/-- A JSON value. -/
inductive Json where
  | null
  | bool (value : Bool)
  | number (value : Number)
  | string (value : String)
  | array (items : List Json)
  | object (members : List (String × Json))
  deriving Inhabited

/-- The members of an object. -/
abbrev Members : Type := List (String × Json)

/-! ### Objects -/

namespace Members

/-- Puts a member in its place, in front of the first greater key; of one key the newer wins. -/
def insert (key : String) (value : Json) : Members → Members
  | [] => [(key, value)]
  | (k, v) :: rest =>
    if key < k then (key, value) :: (k, v) :: rest
    else if key = k then (key, value) :: rest
    else (k, v) :: insert key value rest

/-- The members of a list of pairs; of one key the last wins. -/
def ofList (pairs : List (String × Json)) : Members :=
  pairs.foldl (fun members p => insert p.1 p.2 members) []

/-- The value of a key. -/
def get? (members : Members) (key : String) : Option Json :=
  match members with
  | [] => none
  | (k, v) :: rest => if key = k then some v else get? rest key

/-- The members without those of a key. -/
def erase (members : Members) (key : String) : Members :=
  members.filter fun p => p.1 ≠ key

/-- Keys are in strictly increasing order. -/
def Sorted (members : Members) : Prop :=
  members.Pairwise fun p q => p.1 < q.1

end Members

namespace Json

/-- The object without members. -/
def empty : Json := .object []

/-- The object with the given pairs; of one key the last wins. -/
def ofPairs (pairs : List (String × Json)) : Json := .object (Members.ofList pairs)

/-- The member of an object; nothing for any other value. -/
def get? (value : Json) (key : String) : Option Json :=
  match value with
  | .object members => Members.get? members key
  | _ => none

/-- The text of a string value. -/
def string? : Json → Option String
  | .string s => some s
  | _ => none

/-- The items of an array value. -/
def array? : Json → Option (List Json)
  | .array items => some items
  | _ => none

/-- A value that is a natural number below `2 ^ 64`. -/
def word? : Json → Option Nat
  | .number (.integer i) => if 0 ≤ i then some i.toNat else none
  | _ => none

/-- A whole number as a value. -/
def nat (n : Nat) : Json := .number (.integer n)

/-- A text that may be missing, with `null` for none. -/
def optional : Option String → Json
  | some s => .string s
  | none => .null

/-! ### Equality -/

mutual

/-- Equality of values; doubles are compared as numbers. -/
def same : Json → Json → Bool
  | .null, .null => true
  | .bool a, .bool b => a == b
  | .number a, .number b => a.same b
  | .string a, .string b => a == b
  | .array a, .array b => sameItems a b
  | .object a, .object b => sameMembers a b
  | _, _ => false

/-- Equality of lists of values, item by item. -/
def sameItems : List Json → List Json → Bool
  | [], [] => true
  | a :: as, b :: bs => same a b && sameItems as bs
  | _, _ => false

/-- Equality of member lists, keys and values. -/
def sameMembers : List (String × Json) → List (String × Json) → Bool
  | [], [] => true
  | (k, a) :: as, (l, b) :: bs => k == l && same a b && sameMembers as bs
  | _, _ => false

end

instance : BEq Json := ⟨same⟩

/-! ### Nesting -/

mutual

/-- The greatest number of containers that enclose one another. -/
def depth : Json → Nat
  | .array items => depthItems items + 1
  | .object members => depthMembers members + 1
  | _ => 0

/-- The greatest depth among items. -/
def depthItems : List Json → Nat
  | [] => 0
  | v :: rest => max (depth v) (depthItems rest)

/-- The greatest depth among the values of members. -/
def depthMembers : List (String × Json) → Nat
  | [] => 0
  | (_, v) :: rest => max (depth v) (depthMembers rest)

end

end Json

/-! ### Key order -/

namespace Members

theorem mem_insert {key : String} {value : Json} {members : Members} {p : String × Json}
    (h : p ∈ insert key value members) : p = (key, value) ∨ p ∈ members := by
  induction members with
  | nil => simpa [insert] using h
  | cons q rest ih =>
    obtain ⟨k, v⟩ := q
    unfold insert at h
    split at h
    · simpa using h
    · split at h
      · rcases List.mem_cons.1 h with h | h
        · exact Or.inl h
        · exact Or.inr (List.mem_cons_of_mem _ h)
      · rcases List.mem_cons.1 h with h | h
        · exact Or.inr (h ▸ List.mem_cons_self)
        · rcases ih h with h | h
          · exact Or.inl h
          · exact Or.inr (List.mem_cons_of_mem _ h)

theorem sorted_insert (key : String) (value : Json) {members : Members} (h : members.Sorted) :
    (insert key value members).Sorted := by
  induction members with
  | nil => simp [insert, Sorted]
  | cons q rest ih =>
    obtain ⟨k, v⟩ := q
    obtain ⟨hhead, hrest⟩ := List.pairwise_cons.1 h
    unfold insert
    split
    · rename_i hlt
      refine List.pairwise_cons.2 ⟨fun p hp => ?_, h⟩
      rcases List.mem_cons.1 hp with rfl | hp
      · exact hlt
      · exact String.lt_trans hlt (hhead p hp)
    · split
      · rename_i _ heq
        subst heq
        exact List.pairwise_cons.2 ⟨hhead, hrest⟩
      · rename_i hnlt hne
        have hlt : k < key := by
          rcases String.le_total key k with hle | hle
          · exact absurd (Std.lt_of_le_of_ne hle hne) hnlt
          · exact Std.lt_of_le_of_ne hle (Ne.symm hne)
        refine List.pairwise_cons.2 ⟨fun p hp => ?_, ih hrest⟩
        rcases mem_insert hp with rfl | hp
        · exact hlt
        · exact hhead p hp

theorem sorted_foldl_insert (pairs : List (String × Json)) {members : Members}
    (h : members.Sorted) :
    (pairs.foldl (fun members p => insert p.1 p.2 members) members).Sorted := by
  induction pairs generalizing members with
  | nil => exact h
  | cons p rest ih => exact ih (sorted_insert p.1 p.2 h)

theorem sorted_ofList (pairs : List (String × Json)) : (ofList pairs).Sorted :=
  sorted_foldl_insert pairs List.Pairwise.nil

end Members

end Switchboard
