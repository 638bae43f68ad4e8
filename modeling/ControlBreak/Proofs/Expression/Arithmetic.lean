import ControlBreak.Proofs.Expression.Places
import ControlBreak.Proofs.Expression.Summary
import ControlBreak.Proofs.Number.Results
import Mathlib

/-!
# Outcomes of arithmetic

The four operations end in few ways, whatever values they are applied to. Texts are joined, all
else that is no number is invalid, and so is an operation on numbers that has no result; only a
quotient by zero has an error of its own. A signaling divisor is the one operand that arithmetic
cannot stand: it is asked whether it is zero before anything is guarded.

* `Arithmetic.Gives`: the outcomes of an operation on two values;
* `Arithmetic.onValues_eq_ok_iff`: an operation has just these outcomes, unless it refuses;
* `applyArithmetic_iff_gives`: so has the operation with a sign, which has one if it does not
  refuse, and the exact one for integers and fractions.
-/

namespace ControlBreak

/-- Whether a value is a number. -/
def Value.IsNumber (v : Value) : Prop :=
  ∃ n, v = .num n

namespace Arithmetic

variable {o : Arithmetic} {left right : Value} {a b : Number} {outcome : Except EvalError Value}

/-- The outcomes of an operation on two values. -/
inductive Gives : Arithmetic → Value → Value → Except EvalError Value → Prop
  | joined {s t : String} : Gives .add (.str s) (.str t) (.ok (.str (s ++ t)))
  | notNumbers {o : Arithmetic} {left right : Value}
    (ht : ¬ (o = .add ∧ left.IsText ∧ right.IsText))
    (hn : ¬ (left.IsNumber ∧ right.IsNumber)) :
    Gives o left right (.error (.invalidArithmetic (.str o.symbol) left right))
  | zeroDivisor {a b : Number} (hz : b.isZero = true) :
    Gives .div (.num a) (.num b) (.error .divisionByZero)
  | result {o : Arithmetic} {a b n : Number} (hz : o = .div → b.isZero = false)
    (h : a.apply o b = .ok n) : Gives o (.num a) (.num b) (.ok (.num n))
  | noResult {o : Arithmetic} {a b : Number} {f : NumberFault} (hz : o = .div → b.isZero = false)
    (h : Number.Lacks o a b f) :
    Gives o (.num a) (.num b) (.error (.invalidArithmetic (.str o.symbol) (.num a) (.num b)))

/-- An operation refuses a signaling divisor. -/
def Refuses (o : Arithmetic) (left right : Value) : Prop :=
  o = .div ∧ left.IsNumber ∧ ∃ b : Number, right = .num b ∧ b.isSignaling = true

theorem onValues_eq_fault_iff {f : Fault} :
    (o.onValues left right).run = .error f ↔ f = .invalidDecimal ∧ o.Refuses left right := by
  rw [onValues_eq_fault]
  constructor
  · rintro ⟨ho, hf, a, b, hl, hr, hs⟩
    exact ⟨hf, ho, ⟨a, hl⟩, b, hr, hs⟩
  · rintro ⟨hf, ho, ⟨a, hl⟩, b, hr, hs⟩
    exact ⟨ho, hf, a, b, hl, hr, hs⟩

/-- A number that is not asked whether it is zero, or is not and can be asked, is operated on. -/
theorem onNumbers_of_isZero (hs : o = .div → b.isSignaling = false) : o.onNumbers a b =
    if o = .div ∧ b.isZero = true then throw .divisionByZero
    else match a.apply o b with
      | .ok n => pure (.num n)
      | .error _ => throw (.invalidArithmetic (.str o.symbol) (.num a) (.num b)) := by
  rw [onNumbers]
  by_cases ho : o = .div
  · rw [if_pos ho, Number.equals_zero (hs ho)]
    simp only [ho, true_and]
    rfl
  · rw [if_neg ho, if_neg fun h => ho h.1]
    rfl

theorem onNumbers_eq_ok_iff (hs : o = .div → b.isSignaling = false) :
    (o.onNumbers a b).run = .ok outcome ↔ Gives o (.num a) (.num b) outcome := by
  have hnumbers : (Value.num a).IsNumber ∧ (Value.num b).IsNumber := ⟨⟨a, rfl⟩, b, rfl⟩
  rw [onNumbers_of_isZero hs]
  by_cases hzero : o = .div ∧ b.isZero = true
  · rw [if_pos hzero]
    obtain ⟨rfl, hz⟩ := hzero
    constructor
    · intro h
      cases h
      exact .zeroDivisor hz
    · intro h
      cases h with
      | notNumbers _ hn => exact absurd hnumbers hn
      | zeroDivisor => rfl
      | result hz' | noResult hz' => exact absurd hz (ne_true_of_eq_false (hz' rfl))
  · rw [if_neg hzero]
    have hz : o = .div → b.isZero = false := fun ho => eq_false_of_ne_true fun h => hzero ⟨ho, h⟩
    cases happly : a.apply o b with
    | ok n =>
      constructor
      · intro h
        cases h
        exact .result hz happly
      · intro h
        cases h with
        | notNumbers _ hn => exact absurd hnumbers hn
        | zeroDivisor h => exact absurd ⟨rfl, h⟩ hzero
        | result _ h =>
          cases happly.symm.trans h
          rfl
        | noResult _ h => cases happly.symm.trans ((Number.apply_eq_error_iff hz).2 h)
    | error f =>
      constructor
      · intro h
        cases h
        exact .noResult hz ((Number.apply_eq_error_iff hz).1 happly)
      · intro h
        cases h with
        | notNumbers _ hn => exact absurd hnumbers hn
        | zeroDivisor h => exact absurd ⟨rfl, h⟩ hzero
        | result _ h => cases happly.symm.trans h
        | noResult => rfl

/-- An operation has just the outcomes that it gives, unless it refuses. -/
theorem onValues_eq_ok_iff : (o.onValues left right).run = .ok outcome ↔
    Gives o left right outcome ∧ ¬ o.Refuses left right := by
  by_cases hr : o.Refuses left right
  · rw [onValues_eq_fault_iff.2 ⟨rfl, hr⟩]
    exact iff_of_false (by simp) fun h => h.2 hr
  rw [and_iff_left hr]
  rw [onValues.eq_def]
  split
  · constructor
    · intro h
      cases h
      exact .joined
    · intro h
      cases h with
      | joined => rfl
      | notNumbers ht => exact absurd ⟨rfl, ⟨_, rfl⟩, _, rfl⟩ ht
  · rename_i a b
    exact onNumbers_eq_ok_iff fun ho => eq_false_of_ne_true fun hs => hr ⟨ho, ⟨a, rfl⟩, b, rfl, hs⟩
  · rename_i hnum htext
    constructor
    · intro h
      cases h
      refine .notNumbers ?_ ?_
      · rintro ⟨ho, ⟨s, rfl⟩, t, rfl⟩
        exact htext s t ho rfl rfl
      · rintro ⟨⟨a, rfl⟩, b, rfl⟩
        exact hnum a b rfl rfl
    · intro h
      cases h with
      | joined => exact (htext _ _ rfl rfl rfl).elim
      | notNumbers => rfl
      | zeroDivisor | result | noResult => exact (hnum _ _ rfl rfl).elim

end Arithmetic

open Arithmetic

/-- The operation with a sign has just the outcomes that it gives, and fails where it refuses; it
    has an outcome everywhere else. Of integers and fractions it is the exact result, but for a
    quotient of two integers. -/
theorem applyArithmetic_iff_gives (o : Arithmetic) (left right : Value) :
    (∀ outcome, (applyArithmetic (.str o.symbol) left right).run = .ok outcome ↔
      Gives o left right outcome ∧ ¬ o.Refuses left right) ∧
    (∀ f, (applyArithmetic (.str o.symbol) left right).run = .error f ↔
      f = .invalidDecimal ∧ o.Refuses left right) ∧
    ((∃ outcome, (applyArithmetic (.str o.symbol) left right).run = .ok outcome) ↔
      ¬ o.Refuses left right) ∧
    ∀ (a b : Number) (p q : ℚ), left = .num a → right = .num b →
      a.rat? = some p → b.rat? = some q →
      (o = .div → b.isZero = false ∧ ((∃ r, a = .frac r) ∨ ∃ r, b = .frac r)) →
      ∃ n, (applyArithmetic (.str o.symbol) left right).run = .ok (.ok (.num n)) ∧
        n.rat? = some (o.onRat p q) := by
  have hsign : applyArithmetic (.str o.symbol) left right = o.onValues left right := by
    simp only [applyArithmetic.eq_def, ofValue?, ofSymbol?_symbol]
  rw [hsign]
  refine ⟨fun _ => onValues_eq_ok_iff, fun _ => onValues_eq_fault_iff, ⟨?_, fun hr => ?_⟩, ?_⟩
  · rintro ⟨outcome, h⟩
    exact (onValues_eq_ok_iff.1 h).2
  · cases h : (o.onValues left right).run with
    | ok outcome => exact ⟨outcome, rfl⟩
    | error f => exact absurd (onValues_eq_fault_iff.1 h).2 hr
  · rintro a b p q rfl rfl ha hb hdiv
    obtain ⟨n, hn, hrat⟩ := Number.exists_apply_of_rat? ha hb hdiv
    refine ⟨n, onValues_eq_ok_iff.2 ⟨.result (fun ho => (hdiv ho).1) hn, ?_⟩, hrat⟩
    rintro ⟨-, -, b', hb', hs⟩
    cases hb'
    cases b with
    | dec => cases hb
    | _ => cases hs

/-- One over a third is three, exactly. -/
theorem applyArithmetic_one_over_third :
    ∃ n, (applyArithmetic (.str "/") (.num (.int 1)) (.num (.frac (1 / 3)))).run =
      .ok (.ok (.num n)) ∧ n.rat? = some 3 := by
  have hthree : Arithmetic.div.onRat 1 (1 / 3) = 3 := by norm_num [onRat]
  have hzero : (Number.frac (1 / 3)).isZero = false := by simp [Number.isZero]
  have h := (applyArithmetic_iff_gives .div (.num (.int 1)) (.num (.frac (1 / 3)))).2.2.2
    (.int 1) (.frac (1 / 3)) 1 (1 / 3) rfl rfl (by simp [Number.rat?]) rfl
    fun _ => ⟨hzero, .inr ⟨_, rfl⟩⟩
  rwa [hthree] at h

/-- A quotient by a signaling decimal has no outcome at all. -/
theorem applyArithmetic_signaling_divisor :
    ¬ ∃ outcome, (applyArithmetic (.str "/") (.num (.int 1))
      (.num (.dec (.nan false true 0 .fresh)))).run = .ok outcome := by
  rintro ⟨outcome, h⟩
  cases h

end ControlBreak
