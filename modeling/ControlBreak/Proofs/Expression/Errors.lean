import ControlBreak.Proofs.Expression.Places

/-!
# Errors that come before values

Some errors have nothing to do with values: an expression is not supported, or a relationship
leads nowhere. They come up where the node of an expression is read, and on the way to a field.
What is done from there on does not end with them: neither a field that is read, nor an operation,
nor a function of the host.

* `Evaluation.Avoids`: evaluations that end with none of some errors;
* `avoids_evaluateCall`: a call avoids errors that come before values if its arguments do, unless
  it has a wrong number of them.
-/

namespace ControlBreak

/-- Whether an error comes before all values: an expression is not supported, or a relationship
    leads nowhere. -/
def EvalError.isPreliminary : EvalError → Bool
  | .unsupported _ => true
  | .relationshipNotFound _ => true
  | .invalidRelationship _ => true
  | _ => false

namespace Evaluation

variable {α β : Type} {P : EvalError → Prop} {x : Evaluation α} {f : α → Evaluation β}

/-- An evaluation ends with none of some errors. -/
def Avoids (P : EvalError → Prop) (x : Evaluation α) : Prop :=
  ∀ error, P error → x.run ≠ .ok (.error error)

theorem Avoids.bind (hx : x.Avoids P) (hf : ∀ a, (f a).Avoids P) : (x >>= f).Avoids P := by
  intro error hp h
  rcases bind_eq.1 h with ⟨_, he, hu⟩ | ⟨a, -, ha⟩
  · cases hu
    exact hx error hp he
  · exact hf a error hp ha

theorem avoids_pure (a : α) : (pure a : Evaluation α).Avoids P :=
  fun _ _ h => by cases h

theorem avoids_lift (y : Host α) : Avoids P (ExceptT.lift y) :=
  fun _ _ => lift_ne_error

theorem avoids_throw {error : EvalError} (h : ¬P error) :
    (throw error : Evaluation α).Avoids P := by
  intro _ hp he
  cases he
  exact h hp

end Evaluation

open Evaluation

/-- Only a relationship can lead nowhere on the way along a path. -/
theorem avoids_follow {P : EvalError → Prop} (hn : ∀ name, ¬P (.relationshipNotFound name))
    (hi : ∀ name, ¬P (.invalidRelationship name)) (record : Value) (path : List Value) :
    (record.follow path).Avoids P := by
  induction path generalizing record with
  | nil => exact avoids_pure record
  | cons name path ih =>
    refine (avoids_lift _).bind fun found => ?_
    split
    · exact avoids_throw (hn name)
    · exact avoids_throw (hn name)
    · split
      exacts [ih _, avoids_throw (hi name)]

section Values

variable {P : EvalError → Prop} (hP : ∀ error, P error → error.isPreliminary = true)

include hP

theorem avoids_throw_of_values {α : Type} {error : EvalError} (h : error.isPreliminary = false) :
    (throw error : Evaluation α).Avoids P :=
  avoids_throw fun hp => Bool.false_ne_true (h.symm.trans (hP error hp))

theorem avoids_readField (record name : Value) : (record.readField name).Avoids P := by
  refine (avoids_lift _).bind fun found => ?_
  cases found with
  | some v => exact avoids_pure v
  | none => exact avoids_throw_of_values hP rfl

theorem avoids_captured (o : Outcome) : o.captured.Avoids P := by
  cases o with
  | value v => exact avoids_pure v
  | escaped f => exact avoids_lift _
  | _ => exact avoids_throw_of_values hP rfl

theorem avoids_onNumbers (o : Arithmetic) (a b : Number) : (o.onNumbers a b).Avoids P := by
  rw [Arithmetic.onNumbers]
  split
  on_goal 1 => refine (avoids_lift _).bind fun byZero => ?_
  on_goal 2 => refine (avoids_pure _).bind fun byZero => ?_
  -- Either way it is known then whether the divisor is zero.
  all_goals
    cases byZero with
    | true => exact avoids_throw_of_values hP rfl
    | false =>
      cases a.apply o b with
      | ok n => exact avoids_pure _
      | error f => exact avoids_throw_of_values hP rfl

theorem avoids_onValues (o : Arithmetic) (left right : Value) :
    (o.onValues left right).Avoids P := by
  rw [Arithmetic.onValues.eq_def]
  split
  exacts [avoids_pure _, avoids_onNumbers hP o _ _, avoids_throw_of_values hP rfl]

end Values

namespace Registry

variable {r : Registry} {record op : Value} {args : List Value} {P : EvalError → Prop}

theorem avoids_evaluateAll (h : ∀ arg ∈ args, (r.evaluate arg record).Avoids P) :
    (r.evaluateAll args record).Avoids P := by
  induction args with
  | nil =>
    rw [evaluateAll]
    exact avoids_pure _
  | cons arg rest ih =>
    obtain ⟨ha, h⟩ := List.forall_mem_cons.1 h
    rw [evaluateAll]
    exact ha.bind fun v => (ih h).bind fun vs => avoids_pure _

/-- A call is not supported only if it has a wrong number of arguments. -/
theorem avoids_evaluateCall (hP : ∀ error, P error → error.isPreliminary = true)
    (hcount : P (.unsupported (.call op args)) →
      (Operator.of op).arity?.all (· == args.length) = true)
    (h : ∀ arg ∈ args, (r.evaluate arg record).Avoids P) :
    (r.evaluateCall op args record).Avoids P := by
  rw [evaluateCall.eq_def]
  split
  · rename_i o left right _
    exact (h left (by simp)).bind fun a => (h right (by simp)).bind fun b =>
      avoids_onValues hP o a b
  · rename_i condition yes no _
    refine (h condition (by simp)).bind fun c => ?_
    split
    exacts [h yes (by simp), h no (by simp)]
  · refine (avoids_lift _).bind fun found => ?_
    cases found with
    | none => exact avoids_throw_of_values hP rfl
    | some function => exact (avoids_evaluateAll h).bind fun vs => avoids_captured hP _
  · rename_i args _ _ hfunction harithmetic hconditional
    refine avoids_throw fun hp => ?_
    have hcount := hcount hp
    cases ho : Operator.of op with
    | arithmetic o =>
      have hl : 2 = args.length := by simpa [ho, Operator.arity?] using hcount
      obtain ⟨left, right, hargs⟩ := List.length_eq_two.1 hl.symm
      exact harithmetic o left right ho hargs
    | conditional =>
      have hl : 3 = args.length := by simpa [ho, Operator.arity?] using hcount
      obtain ⟨condition, yes, no, hargs⟩ := List.length_eq_three.1 hl.symm
      exact hconditional condition yes no ho hargs
    | function => exact hfunction ho

end Registry

end ControlBreak
