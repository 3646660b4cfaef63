/-!
# Tables

Entries under numbers, in the order in which the numbers were first entered.

Main definitions

* `Table`;
* `Table.get?`, `Table.set`, `Table.modify`, `Table.erase`.

Main results

* `Table.get?_set_self`, `Table.get?_set_of_ne`: an entry is found, and other entries stay;
* `Table.get?_erase_self`, `Table.get?_erase_of_ne`: an erased entry is gone, other entries stay;
* `Table.set_set`, `Table.set_get?`: a later entry takes the place of an earlier one.
-/

set_option autoImplicit false

namespace Switchboard

universe u

/-- Entries under numbers. -/
structure Table (α : Type u) where
  entries : List (Nat × α)
  deriving Inhabited

namespace Table

variable {α : Type u}

/-- No entries. -/
def empty : Table α := ⟨[]⟩

/-- The entry of a key in a list of entries. -/
def find? (key : Nat) : List (Nat × α) → Option α
  | [] => none
  | (k, a) :: rest => if k = key then some a else find? key rest

/-- The entry of a key. -/
def get? (t : Table α) (key : Nat) : Option α := find? key t.entries

/-- Whether a key has an entry. -/
def contains (t : Table α) (key : Nat) : Bool := (t.get? key).isSome

/-- Puts an entry in the place of the old one of its key, or at the end. -/
def put (key : Nat) (value : α) : List (Nat × α) → List (Nat × α)
  | [] => [(key, value)]
  | (k, a) :: rest => if k = key then (key, value) :: rest else (k, a) :: put key value rest

/-- Sets the entry of a key. -/
def set (t : Table α) (key : Nat) (value : α) : Table α := ⟨put key value t.entries⟩

/-- Changes the entry of a key, if there is one. -/
def modify (t : Table α) (key : Nat) (f : α → α) : Table α :=
  match t.get? key with
  | some a => t.set key (f a)
  | none => t

/-- Removes the entry of a key. -/
def erase (t : Table α) (key : Nat) : Table α := ⟨t.entries.filter fun e => e.1 ≠ key⟩

/-! ### Look-ups -/

theorem mem_of_find? {key : Nat} {a : α} {es : List (Nat × α)} (h : find? key es = some a) :
    (key, a) ∈ es := by
  induction es with
  | nil => cases h
  | cons e rest ih =>
    simp only [find?] at h
    split at h
    · rename_i hkey
      cases h
      exact hkey ▸ List.mem_cons_self
    · exact List.mem_cons_of_mem _ (ih h)

/-- An entry that is found is one of the entries. -/
theorem mem_entries_of_get? {t : Table α} {key : Nat} {a : α} (h : t.get? key = some a) :
    (key, a) ∈ t.entries :=
  mem_of_find? h

theorem find?_put_self (key : Nat) (value : α) (es : List (Nat × α)) :
    find? key (put key value es) = some value := by
  induction es with
  | nil => simp [put, find?]
  | cons e rest ih => by_cases h : e.1 = key <;> simp [put, find?, h, ih]

theorem find?_put_of_ne {key other : Nat} (h : other ≠ key) (value : α) (es : List (Nat × α)) :
    find? other (put key value es) = find? other es := by
  induction es with
  | nil => simp [put, find?, Ne.symm h]
  | cons e rest ih =>
    obtain ⟨k, a⟩ := e
    by_cases hk : k = key
    · subst hk; simp [put, find?, Ne.symm h]
    · by_cases ho : k = other
      · subst ho; simp [put, find?, hk]
      · simp [put, find?, hk, ho, ih]

@[simp] theorem get?_set_self (t : Table α) (key : Nat) (value : α) :
    (t.set key value).get? key = some value :=
  find?_put_self key value t.entries

theorem get?_set_of_ne (t : Table α) {key other : Nat} (h : other ≠ key) (value : α) :
    (t.set key value).get? other = t.get? other :=
  find?_put_of_ne h value t.entries

theorem find?_filter_self (key : Nat) (es : List (Nat × α)) :
    find? key (es.filter fun e => e.1 ≠ key) = none := by
  induction es with
  | nil => rfl
  | cons e rest ih => by_cases h : e.1 = key <;> simp_all [find?]

theorem find?_filter_of_ne {key other : Nat} (h : other ≠ key) (es : List (Nat × α)) :
    find? other (es.filter fun e => e.1 ≠ key) = find? other es := by
  induction es with
  | nil => rfl
  | cons e rest ih =>
    obtain ⟨k, a⟩ := e
    by_cases hk : k = key
    · subst hk; simp_all [find?, Ne.symm h]
    · by_cases ho : k = other <;> simp_all [find?]

@[simp] theorem get?_erase_self (t : Table α) (key : Nat) : (t.erase key).get? key = none :=
  find?_filter_self key t.entries

theorem get?_erase_of_ne (t : Table α) {key other : Nat} (h : other ≠ key) :
    (t.erase key).get? other = t.get? other :=
  find?_filter_of_ne h t.entries

theorem get?_modify_self (t : Table α) (key : Nat) (f : α → α) :
    (t.modify key f).get? key = (t.get? key).map f := by
  unfold modify
  split
  · rename_i a h; simp [h]
  · rename_i h; simp [h]

theorem get?_modify_of_ne (t : Table α) {key other : Nat} (h : other ≠ key) (f : α → α) :
    (t.modify key f).get? other = t.get? other := by
  unfold modify
  split
  · exact get?_set_of_ne t h _
  · rfl

@[simp] theorem get?_empty (key : Nat) : (empty : Table α).get? key = none := rfl

theorem get?_set (t : Table α) (key other : Nat) (value : α) :
    (t.set key value).get? other = if other = key then some value else t.get? other := by
  by_cases h : other = key
  · subst h; simp
  · simp [h, get?_set_of_ne t h]

theorem get?_erase (t : Table α) (key other : Nat) :
    (t.erase key).get? other = if other = key then none else t.get? other := by
  by_cases h : other = key
  · subst h; simp
  · simp [h, get?_erase_of_ne t h]

theorem get?_modify (t : Table α) (key other : Nat) (f : α → α) :
    (t.modify key f).get? other =
      if other = key then (t.get? key).map f else t.get? other := by
  by_cases h : other = key
  · subst h; simp [get?_modify_self]
  · simp [h, get?_modify_of_ne t h]

theorem contains_iff (t : Table α) (key : Nat) :
    t.contains key = true ↔ ∃ a, t.get? key = some a := by
  simp [contains, Option.isSome_iff_exists]

/-! ### One entry after another -/

theorem put_put (key : Nat) (a b : α) (es : List (Nat × α)) :
    put key b (put key a es) = put key b es := by
  induction es with
  | nil => simp [put]
  | cons e rest ih =>
    obtain ⟨k, v⟩ := e
    by_cases h : k = key <;> simp [put, h, ih]

@[simp] theorem set_set (t : Table α) (key : Nat) (a b : α) :
    (t.set key a).set key b = t.set key b :=
  congrArg Table.mk (put_put key a b t.entries)

theorem filter_put (key : Nat) (a : α) (es : List (Nat × α)) :
    (put key a es).filter (fun e => e.1 ≠ key) = es.filter fun e => e.1 ≠ key := by
  induction es with
  | nil => simp [put]
  | cons e rest ih =>
    obtain ⟨k, v⟩ := e
    by_cases h : k = key
    · simp [put, h]
    · simpa [put, h] using ih

@[simp] theorem erase_set (t : Table α) (key : Nat) (a : α) :
    (t.set key a).erase key = t.erase key :=
  congrArg Table.mk (filter_put key a t.entries)

theorem put_find? {key : Nat} {a : α} {es : List (Nat × α)} (h : find? key es = some a) :
    put key a es = es := by
  induction es with
  | nil => simp [find?] at h
  | cons e rest ih =>
    obtain ⟨k, v⟩ := e
    by_cases hk : k = key
    · simp_all [find?, put]
    · simp only [find?, hk, if_false] at h
      simp [put, hk, ih h]

theorem set_get? {t : Table α} {key : Nat} {a : α} (h : t.get? key = some a) :
    t.set key a = t :=
  congrArg Table.mk (put_find? h)

theorem modify_eq_set {t : Table α} {key : Nat} {a : α} (h : t.get? key = some a) (f : α → α) :
    t.modify key f = t.set key (f a) := by
  simp [modify, h]

theorem modify_eq_self {t : Table α} {key : Nat} (h : t.get? key = none) (f : α → α) :
    t.modify key f = t := by
  simp [modify, h]

end Table

end Switchboard
