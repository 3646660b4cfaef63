/-!
# Agendas

An agenda holds what is to happen at later times.  What is due at one time happens in the order in
which it was entered.

Main definitions

* `Agenda`: entries with their times, in the order of entry;
* `Agenda.add`, `Agenda.drop`;
* `Agenda.next?`: the earliest time;
* `Agenda.takeDue`: what is due, earliest first.
-/

set_option autoImplicit false

namespace Switchboard

universe u

/-- Entries with their times, in the order of entry. -/
structure Agenda (α : Type u) where
  entries : List (Nat × α)
  deriving Repr, Inhabited

namespace Agenda

variable {α : Type u}

/-- Nothing to happen. -/
def empty : Agenda α := ⟨[]⟩

/-- Enters something. -/
def add (a : Agenda α) (due : Nat) (entry : α) : Agenda α := ⟨a.entries ++ [(due, entry)]⟩

/-- Strikes out the entries of a kind. -/
def drop (a : Agenda α) (p : α → Bool) : Agenda α := ⟨a.entries.filter fun e => !p e.2⟩

/-- The earliest time of an entry. -/
def next? (a : Agenda α) : Option Nat :=
  a.entries.foldl
    (fun best e => match best with
      | none => some e.1
      | some t => some (min t e.1))
    none

/-- What is due by a time, earliest first, each with its time, and the agenda without it. -/
def takeDue (a : Agenda α) (time : Nat) : List (Nat × α) × Agenda α :=
  ((a.entries.filter fun e => e.1 ≤ time).mergeSort (fun e f => e.1 ≤ f.1),
    ⟨a.entries.filter fun e => time < e.1⟩)

end Agenda

end Switchboard
