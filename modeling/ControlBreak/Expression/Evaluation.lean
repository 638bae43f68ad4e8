import ControlBreak.EvalError
import ControlBreak.Expression
import ControlBreak.Expression.Operator
import ControlBreak.Registry

/-!
# Evaluation

An expression is evaluated against a record. Each node is read when it is
reached, so of a conditional only the branch taken is read at all; an operand
that has no value ends the evaluation with its error, before the next is looked
at, and a function is looked for before its arguments are evaluated.

Whatever a function of the host does is captured as a value or an error, unless it
is interrupted: that is let through. All other faults come from shapes that the host
cannot handle: names that are no texts or no keys, computed attributes that fail,
and a divisor that signals.

* `evaluate_literal`, `evaluate_absent`, `evaluate_name`: what the simplest
  expressions give.
-/

namespace ControlBreak

/-- An evaluation that ends with a fault of the host. -/
def Evaluation.fault {α : Type} (f : Fault) : Evaluation α :=
  ExceptT.lift (.error f)

/-- The outcome of a call of a host function, as an evaluation. -/
def Outcome.captured : Outcome → Evaluation Value
  | .value v => pure v
  | .fault f => throw (.evaluationError (some f))
  | .thrown payload => throw (.thrown payload)
  | .exited reason => throw (.processExit reason)
  | .escaped f => .fault f

namespace Arithmetic

/-- The result of an operation on two numbers. Only a quotient asks first whether
    its divisor is zero; all else that has no result is invalid. -/
def onNumbers (o : Arithmetic) (a b : Number) : Evaluation Value := do
  let byZero ← if o = .div then ExceptT.lift (hostNumber (b.equals (.int 0))) else pure false
  if byZero then throw .divisionByZero
  else match a.apply o b with
    | .ok n => pure (.num n)
    | .error _ => throw (.invalidArithmetic (.str o.symbol) (.num a) (.num b))

/-- The result of an operation on two values: texts are joined by addition, and
    all else is done with numbers only. -/
def onValues (o : Arithmetic) (left right : Value) : Evaluation Value :=
  match o, left, right with
  | .add, .str s, .str t => pure (.str (s ++ t))
  | o, .num a, .num b => o.onNumbers a b
  | o, left, right => throw (.invalidArithmetic (.str o.symbol) left right)

end Arithmetic

/-- The operation that a value is the sign of. -/
def Arithmetic.ofValue? : Value → Option Arithmetic
  | .str s => ofSymbol? s
  | _ => none

/-- The result of the operation with a given sign on two values. -/
def applyArithmetic (sign left right : Value) : Evaluation Value :=
  match Arithmetic.ofValue? sign with
  | some o => o.onValues left right
  | none =>
    match left, right with
    | .num _, .num _ => .fault (.badValue ("Unknown arithmetic operator: " ++ sign.text))
    | left, right => throw (.invalidArithmetic sign left right)

namespace Value

/-- The field of a record, which has to be there. -/
def readField (record name : Value) : Evaluation Value := do
  match ← ExceptT.lift (record.lookup name) with
  | some v => pure v
  | none => throw (.fieldNotFound name)

/-- The record at the end of a path of relationships. -/
def follow (record : Value) : List Value → Evaluation Value
  | [] => pure record
  | relationship :: path => do
    match ← ExceptT.lift (record.lookup relationship) with
    | none => throw (.relationshipNotFound relationship)
    | some .nil => throw (.relationshipNotFound relationship)
    | some next =>
      if next.isRecord then next.follow path
      else throw (.invalidRelationship relationship)

/-- The field at the end of a path of relationships. -/
def readPath (record : Value) (path : List Value) (name : Value) : Evaluation Value := do
  (← record.follow path).readField name

end Value

namespace Registry

mutual

/-- The value of an expression for a record. -/
def evaluate (r : Registry) (e record : Value) : Evaluation Value :=
  match _h : e.node? with
  | .error f => .fault f
  | .ok none => throw (.unsupported e)
  | .ok (some .absent) => pure .nil
  | .ok (some (.literal v)) => pure v
  | .ok (some (.field name)) => record.readField name
  | .ok (some (.related path name)) => record.readPath path name
  | .ok (some (.explicit relationship name)) => record.readPath [relationship] name
  | .ok (some (.host function)) => (function.callWith [record]).captured
  | .ok (some (.call op args)) => evaluateCall r op args record
  termination_by (sizeOf e, 0)
  decreasing_by exact Prod.Lex.left _ _ (Value.sizeOf_lt_of_node? _h)

/-- The value of a call for a record. -/
def evaluateCall (r : Registry) (op : Value) (args : List Value) (record : Value) :
    Evaluation Value :=
  match Operator.of op, args with
  | .arithmetic o, [left, right] => do
    let a ← evaluate r left record
    let b ← evaluate r right record
    o.onValues a b
  | .conditional, [condition, yes, no] => do
    let c ← evaluate r condition record
    if c.isTruthy then evaluate r yes record else evaluate r no record
  | .function, args => do
    match ← ExceptT.lift (r.get? op) with
    | some function => (function (← evaluateAll r args record)).captured
    | none => throw (.unknownFunction op)
  | _, args => throw (.unsupported (.call op args))
  termination_by (sizeOf args, 1)
  decreasing_by all_goals (simp_wf; omega)

/-- The values of arguments for a record, in turn. -/
def evaluateAll (r : Registry) (args : List Value) (record : Value) :
    Evaluation (List Value) :=
  match args with
  | [] => pure []
  | arg :: rest => do
    let v ← evaluate r arg record
    return v :: (← evaluateAll r rest record)
  termination_by (sizeOf args, 0)
  decreasing_by all_goals (simp_wf; omega)

end

theorem evaluate_literal (r : Registry) (v record : Value) :
    r.evaluate (.literal v) record = pure v := by
  rw [evaluate]
  rfl

theorem evaluate_absent (r : Registry) (record : Value) :
    r.evaluate .absent record = pure .nil := by
  rw [evaluate]
  rfl

end Registry

end ControlBreak
