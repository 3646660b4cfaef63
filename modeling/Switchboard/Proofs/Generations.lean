import Mathlib
import Switchboard.Timer.Slot
import Switchboard.Proofs.Attempts

/-!
# Generations

A slot is armed, cancelled and offered firings in any order, and a firing that is offered may carry any
generation: that of a timer that has long been cancelled, or one that was never armed.  The log of the
outcomes tells what such calls came to.  Whatever was called, the slot awaits a firing just if to arm
it was the last thing that changed it, and accepts that firing only.  Every change advances the
generation, so no generation is armed twice, and what was overtaken by a change stays refused.

A slot whose generation is a word of 64 bits starts over after so many changes, and then an old firing
would be accepted again.  As each call advances the generation by one at most, such a slot cannot be
told from this one by fewer than `2 ^ 64` calls.

Main definitions

* `TimerCall`, `TimerOutcome`: calls on a slot, and what they come to;
* `TimerSlot.after`: a slot after calls, and the log of their outcomes;
* `lastChange`: the last outcome that changed the slot;
* `TimerSlot.Explained`: a slot is as the log says;
* `WordSlot`: a slot whose generation is a word.

Main results

* `TimerSlot.Explained.call`: one call more;
* `WordSlot.agrees_after`: words are as good as numbers for fewer than `2 ^ 64` calls;
* `TimerSlot.accepts_last_armed`: what every sequence of calls comes to.
-/

set_option autoImplicit false

namespace Switchboard

/-- A call on a slot. -/
inductive TimerCall (γ : Type) where
  | arm
  | cancel
  /-- A firing is offered, with the generation that it carries. -/
  | accept (generation : γ)
  deriving DecidableEq, Repr

/-- What a call comes to. -/
inductive TimerOutcome (γ : Type) where
  /-- Armed, and the firing will carry this generation. -/
  | armed (generation : γ)
  | cancelled
  | accepted (generation : γ)
  | refused (generation : γ)
  deriving DecidableEq, Repr

namespace TimerCall

/-- The call with another representation of its generation. -/
def map {γ δ : Type} (f : γ → δ) : TimerCall γ → TimerCall δ
  | .arm => .arm
  | .cancel => .cancel
  | .accept g => .accept (f g)

end TimerCall

namespace TimerOutcome

variable {γ δ : Type}

/-- The outcome with another representation of its generation. -/
def map (f : γ → δ) : TimerOutcome γ → TimerOutcome δ
  | .armed g => .armed (f g)
  | .cancelled => .cancelled
  | .accepted g => .accepted (f g)
  | .refused g => .refused (f g)

/-- Whether a call changed the slot: only a firing that is refused does not. -/
def changes : TimerOutcome γ → Bool
  | .refused _ => false
  | _ => true

/-- The generation under which the slot was armed. -/
def armed? : TimerOutcome γ → Option γ
  | .armed g => some g
  | _ => none

/-- The generation of a firing that was accepted. -/
def accepted? : TimerOutcome γ → Option γ
  | .accepted g => some g
  | _ => none

end TimerOutcome

/-! ### Logs -/

section Logs

variable {γ : Type} {log before after : List (TimerOutcome γ)} {o : TimerOutcome γ} {g : γ}

/-- The last outcome that changed the slot. -/
def lastChange (log : List (TimerOutcome γ)) : Option (TimerOutcome γ) :=
  (log.filter (·.changes)).getLast?

/-- The generations under which the slot was armed. -/
def armings (log : List (TimerOutcome γ)) : List γ := log.filterMap TimerOutcome.armed?

/-- The generations of the firings that were accepted. -/
def claims (log : List (TimerOutcome γ)) : List γ := log.filterMap TimerOutcome.accepted?

theorem lastChange_concat (log : List (TimerOutcome γ)) (o : TimerOutcome γ) :
    lastChange (log ++ [o]) = if o.changes then some o else lastChange log := by
  cases h : o.changes <;> simp [lastChange, h]

theorem armings_concat (log : List (TimerOutcome γ)) (o : TimerOutcome γ) :
    armings (log ++ [o]) = armings log ++ o.armed?.toList := by
  cases o <;> simp [armings, TimerOutcome.armed?]

theorem armings_concat_of_none (log : List (TimerOutcome γ)) (h : o.armed? = none) :
    armings (log ++ [o]) = armings log := by
  rw [armings_concat, h, Option.toList_none, List.append_nil]

theorem armings_append_armed (before after : List (TimerOutcome γ)) (g : γ) :
    armings (before ++ .armed g :: after) = armings before ++ g :: armings after := by
  simp [armings, TimerOutcome.armed?]

theorem claims_concat (log : List (TimerOutcome γ)) (o : TimerOutcome γ) :
    claims (log ++ [o]) = claims log ++ o.accepted?.toList := by
  cases o <;> simp [claims, TimerOutcome.accepted?]

theorem claims_concat_of_none (log : List (TimerOutcome γ)) (h : o.accepted? = none) :
    claims (log ++ [o]) = claims log := by
  rw [claims_concat, h, Option.toList_none, List.append_nil]

theorem mem_armings : g ∈ armings log ↔ .armed g ∈ log := by
  rw [armings, List.mem_filterMap]
  constructor
  · rintro ⟨o, hmem, ho⟩
    cases o <;> cases ho
    exact hmem
  · exact fun hmem => ⟨_, hmem, rfl⟩

/-- If anything changed the slot later, the last change is one of the later outcomes. -/
theorem mem_of_lastChange_append (hchanges : ∃ o ∈ after, o.changes = true)
    (h : lastChange (before ++ after) = some o) : o ∈ after := by
  obtain ⟨o', hmem, ho'⟩ := hchanges
  have hne : after.filter (·.changes) ≠ [] :=
    List.ne_nil_of_mem (List.mem_filter.2 ⟨hmem, ho'⟩)
  rw [lastChange, List.filter_append, List.getLast?_append_of_ne_nil _ hne] at h
  exact (List.mem_filter.1 (List.mem_of_getLast? h)).1

end Logs

/-! ### Slots and calls -/

namespace TimerSlot

variable {s t : TimerSlot} {log : List (TimerOutcome Nat)} {o : TimerOutcome Nat} {g : Nat}

/-- What a call comes to, and the slot after it. -/
def call (s : TimerSlot) : TimerCall Nat → TimerOutcome Nat × TimerSlot
  | .arm => (.armed s.arm.generation, s.arm)
  | .cancel => (.cancelled, s.cancel)
  | .accept g =>
    match s.accept g with
    | some t => (.accepted g, t)
    | none => (.refused g, s)

/-- The slot after calls, and the log of what they came to. -/
def after (calls : List (TimerCall Nat)) : TimerSlot × List (TimerOutcome Nat) :=
  calls.foldl (fun (s, log) c => ((s.call c).2, log ++ [(s.call c).1])) (.new, [])

theorem after_concat (calls : List (TimerCall Nat)) (c : TimerCall Nat) :
    after (calls ++ [c]) =
      (((after calls).1.call c).2, (after calls).2 ++ [((after calls).1.call c).1]) :=
  List.foldl_concat ..

theorem length_after (calls : List (TimerCall Nat)) : (after calls).2.length = calls.length := by
  induction calls using List.reverseRecOn with
  | nil => rfl
  | append_singleton calls c ih => simp [after_concat, ih]

theorem accept_isSome_iff : (s.accept g).isSome = true ↔ s.armed = true ∧ g = s.generation := by
  rw [Option.isSome_iff_exists]
  simp only [accept_eq_some_iff]
  exact ⟨fun ⟨_, harmed, hg, _⟩ => ⟨harmed, hg⟩, fun ⟨harmed, hg⟩ => ⟨_, harmed, hg, rfl⟩⟩

theorem call_of_accept (h : s.accept g = some t) : s.call (.accept g) = (.accepted g, t) := by
  simp only [call, h]

theorem call_of_refuse (h : s.accept g = none) : s.call (.accept g) = (.refused g, s) := by
  simp only [call, h]

/-- The log of outcomes explains what a slot awaits. -/
structure Explained (s : TimerSlot) (log : List (TimerOutcome Nat)) : Prop where
  /-- A firing is awaited just if to arm it was the last change. -/
  awaited : ∀ {g}, s.armed = true ∧ g = s.generation ↔ lastChange log = some (.armed g)
  /-- A firing was accepted only if to arm it had been the last change. -/
  claimed : ∀ {before g after}, log = before ++ .accepted g :: after →
    lastChange before = some (.armed g)
  fresh : (armings log).Nodup
  bounded : ∀ g ∈ armings log, g ≤ s.generation
  once : (claims log).Nodup
  spent : ∀ g ∈ claims log, g < s.generation
  /-- Each outcome has advanced the generation by one at most. -/
  counted : s.generation ≤ log.length

theorem explained_new : TimerSlot.new.Explained [] where
  awaited := by simp [TimerSlot.new, lastChange]
  claimed := by simp
  fresh := .nil
  bounded := by simp [armings]
  once := .nil
  spent := by simp [claims]
  counted := Nat.le_refl 0

/-- What the whole log claims it has claimed before, or its last outcome claims it. -/
theorem Explained.claimed_concat (h : s.Explained log)
    (hlast : ∀ {g}, o = .accepted g → lastChange log = some (.armed g))
    {before after : List (TimerOutcome Nat)} (heq : log ++ [o] = before ++ .accepted g :: after) :
    lastChange before = some (.armed g) := by
  rcases concat_split heq with ⟨rfl, ho⟩ | ⟨rest, hbefore⟩
  · exact hlast ho.symm
  · exact h.claimed hbefore

/-- A refused firing explains nothing new. -/
theorem Explained.refused (h : s.Explained log) (g : Nat) : s.Explained (log ++ [.refused g]) where
  awaited := by
    rw [lastChange_concat]
    exact h.awaited
  claimed heq := h.claimed_concat (by simp) heq
  fresh := by
    rw [armings_concat_of_none log rfl]
    exact h.fresh
  bounded := by
    rw [armings_concat_of_none log rfl]
    exact h.bounded
  once := by
    rw [claims_concat_of_none log rfl]
    exact h.once
  spent := by
    rw [claims_concat_of_none log rfl]
    exact h.spent
  counted := by
    rw [List.length_append]
    exact Nat.le_add_right_of_le h.counted

/-- To arm explains the new generation, which is greater than all those before. -/
theorem Explained.armed (h : s.Explained log) :
    s.arm.Explained (log ++ [.armed s.arm.generation]) where
  awaited := by
    intro g
    rw [lastChange_concat]
    simp [arm, TimerOutcome.changes, eq_comm]
  claimed heq := h.claimed_concat (by simp) heq
  fresh := by
    rw [armings_concat]
    refine List.nodup_append.2 ⟨h.fresh, List.nodup_singleton _, fun g hg g' hg' => ?_⟩
    rw [List.mem_singleton.1 hg']
    exact Nat.ne_of_lt (Nat.lt_succ_of_le (h.bounded g hg))
  bounded g hg := by
    rw [armings_concat] at hg
    rcases List.mem_append.1 hg with hg | hg
    · exact Nat.le_succ_of_le (h.bounded g hg)
    · rw [List.mem_singleton.1 hg]
  once := by
    rw [claims_concat_of_none log rfl]
    exact h.once
  spent g hg := by
    rw [claims_concat_of_none log rfl] at hg
    exact Nat.lt_succ_of_lt (h.spent g hg)
  counted := by
    rw [List.length_append]
    exact Nat.succ_le_succ h.counted

/-- A slot that is disarmed awaits nothing; a firing that disarms it was the one that it awaited. -/
theorem Explained.disarmed (h : s.Explained log) (hchanges : o.changes = true)
    (hunarmed : o.armed? = none)
    (hlast : ∀ {g}, o = .accepted g → s.armed = true ∧ g = s.generation) :
    s.cancel.Explained (log ++ [o]) where
  awaited := by
    intro g
    rw [lastChange_concat, if_pos hchanges, Option.some_inj]
    refine ⟨fun hawaited => absurd hawaited.1 Bool.false_ne_true, fun ho => ?_⟩
    rw [ho] at hunarmed
    cases hunarmed
  claimed heq := h.claimed_concat (fun ho => h.awaited.1 (hlast ho)) heq
  fresh := by
    rw [armings_concat_of_none log hunarmed]
    exact h.fresh
  bounded g hg := by
    rw [armings_concat_of_none log hunarmed] at hg
    exact Nat.le_succ_of_le (h.bounded g hg)
  once := by
    rw [claims_concat]
    refine List.nodup_append.2 ⟨h.once, by cases o.accepted? <;> simp, fun g hg g' hg' => ?_⟩
    cases o with
    | accepted g'' =>
      rw [List.mem_singleton.1 hg', (hlast rfl).2]
      exact Nat.ne_of_lt (h.spent g hg)
    | _ => cases hg'
  spent g hg := by
    rw [claims_concat] at hg
    rcases List.mem_append.1 hg with hg | hg
    · exact Nat.lt_succ_of_lt (h.spent g hg)
    · cases o with
      | accepted g' =>
        rw [List.mem_singleton.1 hg, (hlast rfl).2]
        exact Nat.lt_succ_self _
      | _ => cases hg
  counted := by
    rw [List.length_append]
    exact Nat.succ_le_succ h.counted

/-- One call more is explained by one outcome more. -/
theorem Explained.call (h : s.Explained log) (c : TimerCall Nat) :
    (s.call c).2.Explained (log ++ [(s.call c).1]) := by
  cases c with
  | arm => exact h.armed
  | cancel =>
    change s.cancel.Explained (log ++ [.cancelled])
    exact h.disarmed rfl rfl nofun
  | accept g =>
    cases hg : s.accept g with
    | none =>
      rw [call_of_refuse hg]
      exact h.refused g
    | some t =>
      rw [call_of_accept hg]
      obtain ⟨harmed, rfl, rfl⟩ := accept_eq_some_iff.1 hg
      refine h.disarmed rfl rfl fun ho => ?_
      cases ho
      exact ⟨harmed, rfl⟩

/-- All calls are explained by their outcomes. -/
theorem explained_after (calls : List (TimerCall Nat)) :
    (after calls).1.Explained (after calls).2 := by
  induction calls using List.reverseRecOn with
  | nil => exact explained_new
  | append_singleton calls c ih =>
    rw [after_concat]
    exact ih.call c

/-- A firing that a later change has overtaken is refused. -/
theorem Explained.overtaken (h : s.Explained log) {before later : List (TimerOutcome Nat)}
    (heq : log = before ++ .armed g :: later) (hchanges : ∃ o ∈ later, o.changes = true) :
    s.accept g = none := by
  by_contra hsome
  have hlast := h.awaited.1 (accept_isSome_iff.1 (Option.isSome_iff_ne_none.2 hsome))
  rw [heq, List.append_cons] at hlast
  -- To be accepted it would have to be armed a second time.
  have hagain : g ∈ armings later := mem_armings.2 (mem_of_lastChange_append hchanges hlast)
  have hfresh := h.fresh
  rw [heq, armings_append_armed] at hfresh
  exact (List.nodup_cons.1 (List.nodup_append.1 hfresh).2.1).1 hagain

end TimerSlot

/-! ### Generations that are words -/

/-- A slot whose generation is a word of 64 bits, which starts over at its end. -/
structure WordSlot where
  generation : UInt64
  armed : Bool
  deriving DecidableEq, Repr

namespace WordSlot

/-- A slot that was never armed. -/
def new : WordSlot := ⟨0, false⟩

/-- Disarms the slot. -/
def cancel (w : WordSlot) : WordSlot := ⟨w.generation + 1, false⟩

/-- Arms the slot anew. -/
def arm (w : WordSlot) : WordSlot := { w.cancel with armed := true }

/-- Claims a firing; nothing if the firing is stale. -/
def accept (w : WordSlot) (generation : UInt64) : Option WordSlot :=
  if w.armed && generation == w.generation then some w.cancel else none

/-- What a call comes to, and the slot after it. -/
def call (w : WordSlot) : TimerCall UInt64 → TimerOutcome UInt64 × WordSlot
  | .arm => (.armed w.arm.generation, w.arm)
  | .cancel => (.cancelled, w.cancel)
  | .accept g =>
    match w.accept g with
    | some w' => (.accepted g, w')
    | none => (.refused g, w)

/-- The slot after calls, and the log of what they came to. -/
def after (calls : List (TimerCall UInt64)) : WordSlot × List (TimerOutcome UInt64) :=
  calls.foldl (fun (w, log) c => ((w.call c).2, log ++ [(w.call c).1])) (.new, [])

theorem after_concat (calls : List (TimerCall UInt64)) (c : TimerCall UInt64) :
    after (calls ++ [c]) =
      (((after calls).1.call c).2, (after calls).2 ++ [((after calls).1.call c).1]) :=
  List.foldl_concat ..

/-- A slot of words is as a slot of numbers. -/
structure Agrees (w : WordSlot) (s : TimerSlot) : Prop where
  generation : w.generation.toNat = s.generation
  armed : w.armed = s.armed

variable {w : WordSlot} {s : TimerSlot}

theorem Agrees.cancel (h : w.Agrees s) (room : s.generation + 1 < 2 ^ 64) :
    w.cancel.Agrees s.cancel where
  generation := by
    have hword : (1 : UInt64).toNat = 1 := rfl
    rw [WordSlot.cancel, UInt64.toNat_add, hword, h.generation]
    exact Nat.mod_eq_of_lt room
  armed := rfl

theorem Agrees.arm (h : w.Agrees s) (room : s.generation + 1 < 2 ^ 64) : w.arm.Agrees s.arm where
  generation := (h.cancel room).generation
  armed := rfl

/-- Both take the same firings for stale. -/
theorem Agrees.stale_iff (h : w.Agrees s) (g : UInt64) :
    (g == w.generation) = (g.toNat == s.generation) := by
  rw [Bool.eq_iff_iff, beq_iff_eq, beq_iff_eq, ← h.generation, UInt64.toNat_inj]

/-- A call comes to the same if the word has room for one more. -/
theorem Agrees.call (h : w.Agrees s) (room : s.generation + 1 < 2 ^ 64) (c : TimerCall UInt64) :
    (w.call c).1.map UInt64.toNat = (s.call (c.map UInt64.toNat)).1 ∧
      (w.call c).2.Agrees (s.call (c.map UInt64.toNat)).2 := by
  cases c with
  | arm => exact ⟨congrArg _ (h.arm room).generation, h.arm room⟩
  | cancel => exact ⟨rfl, h.cancel room⟩
  | accept g =>
    simp only [WordSlot.call, TimerSlot.call, TimerCall.map, WordSlot.accept, TimerSlot.accept,
      h.armed, h.stale_iff]
    cases s.armed && g.toNat == s.generation with
    | false => exact ⟨rfl, h⟩
    | true => exact ⟨rfl, h.cancel room⟩

/-- Words are as good as numbers for fewer than `2 ^ 64` calls. -/
theorem agrees_after (calls : List (TimerCall UInt64)) (few : calls.length < 2 ^ 64) :
    (after calls).2.map (·.map UInt64.toNat) = (TimerSlot.after (calls.map (·.map UInt64.toNat))).2 ∧
      (after calls).1.Agrees (TimerSlot.after (calls.map (·.map UInt64.toNat))).1 := by
  induction calls using List.reverseRecOn with
  | nil => exact ⟨rfl, rfl, rfl⟩
  | append_singleton calls c ih =>
    rw [List.length_append, List.length_singleton] at few
    obtain ⟨hlog, hagrees⟩ := ih (Nat.lt_of_succ_lt few)
    have hcounted := (TimerSlot.explained_after (calls.map (·.map UInt64.toNat))).counted
    rw [TimerSlot.length_after, List.length_map] at hcounted
    obtain ⟨houtcome, hslot⟩ := hagrees.call (by omega) c
    rw [List.map_append, List.map_singleton, after_concat, TimerSlot.after_concat]
    exact ⟨by rw [List.map_append, List.map_singleton, hlog, houtcome], hslot⟩

end WordSlot

namespace TimerSlot

/--
After all calls a firing is accepted just if to arm it was the last thing that changed the slot, and the
slot is armed just if to arm it was the last change.  No generation is armed twice and none is accepted
twice, and each firing that was accepted had been armed by the last change before.  A refused firing
leaves the slot as it is, and a firing that a later change has overtaken is refused.  The generation has
not advanced beyond the number of calls, and fewer than `2 ^ 64` calls come to the same if it is a word.
-/
theorem accepts_last_armed (calls : List (TimerCall Nat)) :
    (∀ g, ((after calls).1.accept g).isSome = true ↔ lastChange (after calls).2 = some (.armed g)) ∧
    ((after calls).1.armed = true ↔ ∃ g, lastChange (after calls).2 = some (.armed g)) ∧
    (armings (after calls).2).Nodup ∧ (claims (after calls).2).Nodup ∧
    (∀ before g later, (after calls).2 = before ++ .accepted g :: later →
      lastChange before = some (.armed g)) ∧
    (∀ g, (after calls).1.accept g = none →
      (after calls).1.call (.accept g) = (.refused g, (after calls).1)) ∧
    (∀ before g later, (after calls).2 = before ++ .armed g :: later →
      (∃ o ∈ later, o.changes = true) → (after calls).1.accept g = none) ∧
    (after calls).1.generation ≤ calls.length ∧
    ∀ words : List (TimerCall UInt64), words.length < 2 ^ 64 → calls = words.map (·.map UInt64.toNat) →
      (WordSlot.after words).2.map (·.map UInt64.toNat) = (after calls).2 ∧
        (WordSlot.after words).1.Agrees (after calls).1 := by
  have h := explained_after calls
  refine ⟨fun g => accept_isSome_iff.trans h.awaited, ⟨fun harmed => ?_, ?_⟩, h.fresh, h.once,
    fun _ _ _ => h.claimed, fun _ => call_of_refuse, fun _ _ _ => h.overtaken, ?_, ?_⟩
  · exact ⟨_, h.awaited.1 ⟨harmed, rfl⟩⟩
  · rintro ⟨g, hlast⟩
    exact (h.awaited.2 hlast).1
  · rw [← length_after]
    exact h.counted
  · rintro words few rfl
    exact WordSlot.agrees_after words few

/-- A timer is armed again before it fires: only the second firing is accepted. -/
theorem accepts_last_armed_again :
    let calls : List (TimerCall Nat) := [.arm, .arm]
    (after calls).1.accept 1 = none ∧ ((after calls).1.accept 2).isSome = true ∧
      (after calls).1.call (.accept 1) = (.refused 1, (after calls).1) := by
  intro calls
  obtain ⟨haccept, -, -, -, -, hrefuse, hovertaken, -⟩ := accepts_last_armed calls
  have hstale : (after calls).1.accept 1 = none :=
    hovertaken [] 1 [.armed 2] rfl ⟨_, List.mem_singleton_self _, rfl⟩
  exact ⟨hstale, (haccept 2).2 rfl, hrefuse 1 hstale⟩

end TimerSlot

end Switchboard
