import ControlBreak.Proofs.Expression.Parts

/-!
# Expressions written out

A value of the host that stands for an expression is not rewritten when it comes in. Whatever is
done with it reads its node, one level at a time, as far as that is needed; so each traversal
meets the shapes of the host on its own.

An expression is *written out* if all of its parts are replaced by the nodes that they stand for.
That can be done at once, before anything else, and makes no difference. Only an error that holds
an expression holds it written out then.

* `node?_writtenOut`, `eq_toValue_of_isPart`: what is written out stands for the same nodes, and
  its parts are these nodes themselves;
* `evaluate_writtenOut`, `validate_writtenOut`: it has the same value, and is as well formed;
* `writtenOut_transparent`: with them, the analyses that need no record.
-/

namespace ControlBreak

namespace Value

/-- An expression with all of its parts replaced by the nodes that they stand for. What stands
    for none is left as it is. -/
def writtenOut (e : Value) : Value :=
  match _h : e.node? with
  | .ok (some (.call op args)) => .call op (args.attach.map fun arg => arg.1.writtenOut)
  | .ok (some n) => n.toValue
  | _ => e
  termination_by sizeOf e
  decreasing_by exact Nat.lt_trans (List.sizeOf_lt_of_mem arg.2) (sizeOf_lt_of_node? _h)

end Value

/-- A node with its arguments written out. -/
def Node.writtenOut : Node → Node
  | .call op args => .call op (args.map Value.writtenOut)
  | n => n

/-- An error with the expression in it written out. -/
def EvalError.writtenOut : EvalError → EvalError
  | .unsupported e => .unsupported e.writtenOut
  | error => error

theorem Node.node?_toValue (n : Node) : n.toValue.node? = .ok (some n) := by
  cases n <;> rfl

namespace Value

variable {e op : Value} {n : Node} {args : List Value}

theorem writtenOut_of_node? (hn : e.node? = .ok (some n)) :
    e.writtenOut = n.writtenOut.toValue := by
  rw [writtenOut]
  split
  case h_1 hcall =>
    cases hn.symm.trans hcall
    simp [Node.writtenOut, Node.toValue]
  case h_2 m hcall hm =>
    cases hn.symm.trans hm
    cases n with
    | call op args => exact absurd rfl (hcall op args)
    | _ => rfl
  case h_3 hnone => exact absurd hn (hnone n)

theorem writtenOut_of_ne (hn : ∀ n, e.node? ≠ .ok (some n)) : e.writtenOut = e := by
  rw [writtenOut]
  split
  case h_1 h => exact absurd h (hn _)
  case h_2 h => exact absurd h (hn _)
  case h_3 => rfl

/-- What is written out stands for the same node, its arguments being written out. -/
theorem node?_writtenOut (e : Value) :
    e.writtenOut.node? = e.node?.map (Option.map Node.writtenOut) := by
  cases hn : e.node? with
  | error f => rw [writtenOut_of_ne (by simp [hn]), hn]; rfl
  | ok found =>
    cases found with
    | none => rw [writtenOut_of_ne (by simp [hn]), hn]; rfl
    | some n => rw [writtenOut_of_node? hn, Node.node?_toValue]; rfl

/-- The parts of what is written out are nodes. -/
theorem eq_toValue_of_isPart {part : Value} (e : Value) (hp : IsPart part e.writtenOut)
    (hn : part.node? = .ok (some n)) : part = n.toValue := by
  generalize hw : e.writtenOut = w at hp
  induction hp generalizing e with
  | self =>
    subst hw
    rw [node?_writtenOut, Host.map_eq_ok] at hn
    obtain ⟨found, hf, hn⟩ := hn
    obtain ⟨m, rfl, rfl⟩ := Option.map_eq_some_iff.1 hn
    exact writtenOut_of_node? hf
  | argument hm ha _ ih =>
    subst hw
    rw [node?_writtenOut, Host.map_eq_ok] at hm
    obtain ⟨found, -, hm⟩ := hm
    obtain ⟨m, rfl, rfl⟩ := Option.map_eq_some_iff.1 hm
    cases m with
    | call op args =>
      obtain ⟨arg, -, rfl⟩ := List.mem_map.1 ha
      exact ih arg rfl
    | _ => cases ha

/-! ### Analyses -/

theorem referencesOfAll_map {f : Value → Value}
    (h : ∀ arg ∈ args, (f arg).references = arg.references) :
    referencesOfAll (args.map f) = referencesOfAll args := by
  induction args with
  | nil => rfl
  | cons arg rest ih =>
    obtain ⟨ha, h⟩ := List.forall_mem_cons.1 h
    rw [List.map_cons, referencesOfAll, referencesOfAll, ha, ih h]

theorem relationshipPathsOfAll_map {f : Value → Value} {found : List (List Value)}
    (h : ∀ arg ∈ args, (f arg).relationshipPaths = arg.relationshipPaths) :
    relationshipPathsOfAll found (args.map f) = relationshipPathsOfAll found args := by
  induction args generalizing found with
  | nil => rfl
  | cons arg rest ih =>
    obtain ⟨ha, h⟩ := List.forall_mem_cons.1 h
    rw [List.map_cons, relationshipPathsOfAll, relationshipPathsOfAll, ha]
    simp only [ih h]

theorem anyCallsHost_map {f : Value → Value}
    (h : ∀ arg ∈ args, (f arg).callsHost = arg.callsHost) :
    anyCallsHost (args.map f) = anyCallsHost args := by
  induction args with
  | nil => rfl
  | cons arg rest ih =>
    obtain ⟨ha, h⟩ := List.forall_mem_cons.1 h
    rw [List.map_cons, anyCallsHost, anyCallsHost, ha, ih h]

theorem references_writtenOut (e : Value) : e.writtenOut.references = e.references := by
  rw [references, references, node?_writtenOut]
  rcases hn : e.node? with f | _ | n
  · rfl
  · rfl
  cases n with
  | call op args =>
    refine congrArg (· >>= distinctKeys) (referencesOfAll_map fun arg ha => ?_)
    have := sizeOf_lt_of_arguments hn ha
    exact references_writtenOut arg
  | _ => rfl
  termination_by sizeOf e

theorem relationshipPaths_writtenOut (e : Value) :
    e.writtenOut.relationshipPaths = e.relationshipPaths := by
  rw [relationshipPaths, relationshipPaths, node?_writtenOut]
  rcases hn : e.node? with f | _ | n
  · rfl
  · rfl
  cases n with
  | call op args =>
    refine relationshipPathsOfAll_map fun arg ha => ?_
    have := sizeOf_lt_of_arguments hn ha
    exact relationshipPaths_writtenOut arg
  | _ => rfl
  termination_by sizeOf e

theorem callsHost_writtenOut (e : Value) : e.writtenOut.callsHost = e.callsHost := by
  rw [callsHost, callsHost, node?_writtenOut]
  rcases hn : e.node? with f | _ | n
  · rfl
  · rfl
  cases n with
  | call op args =>
    refine anyCallsHost_map fun arg ha => ?_
    have := sizeOf_lt_of_arguments hn ha
    exact callsHost_writtenOut arg
  | _ => rfl
  termination_by sizeOf e

end Value

/-! ### Outcomes with other errors -/

namespace Evaluation

variable {ε ε' α β : Type} {f : ε → ε'}

theorem adapt_bind (x : ExceptT ε Host α) (g : α → ExceptT ε Host β) :
    ExceptT.adapt f (x >>= g) = ExceptT.adapt f x >>= fun a => ExceptT.adapt f (g a) := by
  rcases x with _ | _ | _ <;> rfl

theorem adapt_lift (y : Host α) :
    ExceptT.adapt f (ExceptT.lift y) = ExceptT.lift y := by
  cases y <;> rfl

/-- Writing an expression out in an error makes no difference where there is none. -/
theorem IsSupported.adapt_writtenOut {x : Evaluation α} (hx : x.IsSupported) :
    ExceptT.adapt EvalError.writtenOut x = x := by
  rcases x with f | error | a
  · rfl
  · cases error with
    | unsupported e => exact absurd rfl (hx e)
    | _ => rfl
  · rfl

end Evaluation

open Evaluation

/-! ### Validation -/

namespace Node

variable (n : Node)

/-- Whether a node is sound does not depend on how its arguments are written. -/
theorem isSound_writtenOut : n.writtenOut.isSound = n.isSound := by
  cases n with
  | call op args => simp [writtenOut, isSound]
  | _ => rfl

theorem arguments_writtenOut : n.writtenOut.arguments = n.arguments.map Value.writtenOut := by
  cases n <;> rfl

end Node

namespace Value

variable {args : List Value}

theorem validateAll_map_writtenOut
    (h : ∀ arg ∈ args, arg.writtenOut.validate = ExceptT.adapt EvalError.writtenOut arg.validate) :
    validateAll (args.map writtenOut) = ExceptT.adapt EvalError.writtenOut (validateAll args) := by
  induction args with
  | nil =>
    rw [List.map_nil, validateAll]
    rfl
  | cons arg rest ih =>
    obtain ⟨ha, h⟩ := List.forall_mem_cons.1 h
    rw [List.map_cons, validateAll, validateAll, adapt_bind, ha]
    simp only [ih h]

/-- An expression that is written out is as well formed. -/
theorem validate_writtenOut (e : Value) :
    e.writtenOut.validate = ExceptT.adapt EvalError.writtenOut e.validate := by
  rcases hn : e.node? with f | _ | n
  · rw [validate, validate, node?_writtenOut, hn]
    rfl
  · rw [validate, validate, node?_writtenOut, hn]
    rfl
  have hw : e.writtenOut.node? = .ok (some n.writtenOut) := by rw [node?_writtenOut, hn]; rfl
  rw [validate_of_node hw, validate_of_node hn, n.isSound_writtenOut, n.arguments_writtenOut,
    ← writtenOut_of_node? n.node?_toValue, apply_ite (ExceptT.adapt EvalError.writtenOut)]
  congr 1
  refine validateAll_map_writtenOut fun arg ha => ?_
  have := sizeOf_lt_of_arguments hn ha
  exact validate_writtenOut arg
  termination_by sizeOf e

end Value

/-! ### Evaluation -/

namespace Registry

open Value

variable {r : Registry} {record op : Value} {args : List Value}

theorem evaluateAll_map_writtenOut (h : ∀ arg ∈ args, r.evaluate arg.writtenOut record =
      ExceptT.adapt EvalError.writtenOut (r.evaluate arg record)) :
    r.evaluateAll (args.map writtenOut) record =
      ExceptT.adapt EvalError.writtenOut (r.evaluateAll args record) := by
  induction args with
  | nil =>
    rw [List.map_nil, evaluateAll]
    rfl
  | cons arg rest ih =>
    obtain ⟨ha, h⟩ := List.forall_mem_cons.1 h
    rw [List.map_cons, evaluateAll, evaluateAll, adapt_bind, ha]
    simp only [ih h, adapt_bind]
    rfl

/-- Which arguments of a call are evaluated does not depend on how they are written. -/
theorem evaluateCall_map_writtenOut (h : ∀ arg ∈ args, r.evaluate arg.writtenOut record =
      ExceptT.adapt EvalError.writtenOut (r.evaluate arg record)) :
    r.evaluateCall op (args.map writtenOut) record =
      ExceptT.adapt EvalError.writtenOut (r.evaluateCall op args record) := by
  rw [evaluateCall.eq_def r op args]
  split
  · rename_i o left right ho
    rw [List.map_cons, List.map_cons, List.map_nil, evaluateCall_of_arithmetic ho,
      h left (by simp), h right (by simp)]
    simp only [adapt_bind, (o.isSupported_onValues _ _).adapt_writtenOut]
  · rename_i condition yes no ho
    rw [List.map_cons, List.map_cons, List.map_cons, List.map_nil, evaluateCall_of_conditional ho,
      h condition (by simp), adapt_bind]
    refine bind_congr fun c => ?_
    split
    exacts [h yes (by simp), h no (by simp)]
  · rename_i ho
    rw [evaluateCall_of_function ho, adapt_bind, adapt_lift, evaluateAll_map_writtenOut h]
    refine bind_congr fun found => ?_
    cases found with
    | none => rfl
    | some function =>
      simp only [adapt_bind, (Outcome.isSupported_captured _).adapt_writtenOut]
  · rename_i args _ _ hfunction harithmetic hconditional
    have hcall : (Value.call op args).writtenOut = .call op (args.map writtenOut) :=
      writtenOut_of_node? (n := .call op args) rfl
    -- There are as many arguments as before, so the call is not supported either.
    rw [evaluateCall.eq_def]
    split
    · rename_i ho hargs
      obtain ⟨left, right, rfl⟩ : ∃ left right, args = [left, right] :=
        List.length_eq_two.1 (by simpa using congrArg List.length hargs)
      exact (harithmetic _ _ _ ho rfl).elim
    · rename_i ho hargs
      obtain ⟨condition, yes, no, rfl⟩ : ∃ condition yes no, args = [condition, yes, no] :=
        List.length_eq_three.1 (by simpa using congrArg List.length hargs)
      exact (hconditional _ _ _ ho rfl).elim
    · rename_i ho
      exact (hfunction ho).elim
    · exact congrArg (fun e => throw (EvalError.unsupported e)) hcall.symm

/-- What is written out has the same value, or the same error. -/
theorem evaluate_writtenOut (r : Registry) (e record : Value) : r.evaluate e.writtenOut record =
    ExceptT.adapt EvalError.writtenOut (r.evaluate e record) := by
  rw [evaluate, evaluate, node?_writtenOut]
  rcases hn : e.node? with f | _ | n
  · rfl
  · rfl
  cases n with
  | call op args =>
    refine evaluateCall_map_writtenOut fun arg ha => ?_
    have := sizeOf_lt_of_arguments hn ha
    exact evaluate_writtenOut r arg record
  | field name => exact (isSupported_readField record name).adapt_writtenOut.symm
  | related path last => exact (isSupported_readPath record path last).adapt_writtenOut.symm
  | explicit relationship last =>
    exact (isSupported_readPath record [relationship] last).adapt_writtenOut.symm
  | host function => exact (Outcome.isSupported_captured _).adapt_writtenOut.symm
  | _ => rfl
  termination_by sizeOf e

end Registry

/-- Whether the parts of an expression are nodes, or shapes of the host that stand for them, makes
    no difference to what is done with it, except that an error holds an expression as it is
    written. -/
theorem writtenOut_transparent (e : Value) :
    (∀ (r : Registry) (record : Value), r.evaluate e.writtenOut record =
      ExceptT.adapt EvalError.writtenOut (r.evaluate e record)) ∧
    e.writtenOut.validate = ExceptT.adapt EvalError.writtenOut e.validate ∧
    e.writtenOut.references = e.references ∧
    e.writtenOut.relationshipPaths = e.relationshipPaths ∧
    e.writtenOut.callsHost = e.callsHost :=
  ⟨fun r record => r.evaluate_writtenOut e record, e.validate_writtenOut, e.references_writtenOut,
    e.relationshipPaths_writtenOut, e.callsHost_writtenOut⟩

end ControlBreak
