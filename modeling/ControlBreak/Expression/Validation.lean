import ControlBreak.EvalError
import ControlBreak.Expression
import ControlBreak.Expression.Operator

/-!
# Well-formed expressions

An expression is well formed if each of its nodes is: names are texts that are
not empty, a path has a step, what is called is callable, and an operator with a
fixed number of arguments has as many. The first node that is not is the error.
-/

namespace ControlBreak

/-- Whether a value can be a name: a text that is not empty. -/
def Value.isName : Value → Bool
  | .str s => s != ""
  | _ => false

/-- Whether a node is well formed, its arguments apart. -/
def Node.isSound : Node → Bool
  | .field name => name.isName
  | .related path last => !path.isEmpty && path.all Value.isName && last.isName
  | .explicit relationship last => relationship.isName && last.isName
  | .literal _ => true
  | .call op args =>
    op.isName && ((Operator.of op).arity?.all (· == args.length))
  | .host function => function.isCallable
  | .absent => true

namespace Value

mutual

/-- Checks that an expression is well formed. -/
def validate (e : Value) : Evaluation Unit :=
  match _h : e.node? with
  | .error f => ExceptT.lift (.error f)
  | .ok none => throw (.unsupported e)
  | .ok (some (.call op args)) =>
    if (Node.call op args).isSound then validateAll args
    else throw (.unsupported (.call op args))
  | .ok (some n) => if n.isSound then pure () else throw (.unsupported n.toValue)
  termination_by sizeOf e
  decreasing_by exact sizeOf_lt_of_node? _h

/-- Checks that all expressions are well formed, in turn. -/
def validateAll (es : List Value) : Evaluation Unit :=
  match es with
  | [] => pure ()
  | e :: rest => do
    validate e
    validateAll rest
  termination_by sizeOf es
  decreasing_by all_goals (simp_wf <;> omega)

end

end Value

end ControlBreak
