import ControlBreak.Value.Text

/-!
# Errors

What a report can meet and goes on from: an expression that has no value for a
record is an `EvalError`, and variables that cannot be put in an order are a
`DependencyError`. Each holds what it is about and has a text.

An evaluation ends with a value, with an error, or with a fault, if the record or
the expression is of a shape that the host cannot handle.
-/

namespace ControlBreak

/-- Why an expression has no value. -/
inductive EvalError
  | unspecified
  | fieldNotFound (name : Value)
  | relationshipNotFound (relationship : Value)
  | invalidRelationship (relationship : Value)
  | invalidArithmetic (op left right : Value)
  | divisionByZero
  | unknownFunction (name : Value)
  /-- A function failed, with this fault. -/
  | evaluationError (fault : Option Fault)
  | thrown (payload : Value)
  | processExit (reason : Value)
  | unsupported (expression : Value)
  deriving Inhabited, Repr

/-- Why variables have no order. -/
inductive DependencyError
  | unspecified
  | circular (cycle : List String)
  | missing (names : List String)
  deriving DecidableEq, Inhabited, Repr

/-- An evaluation: a value or an error, unless the host fails. -/
abbrev Evaluation := ExceptT EvalError Host

namespace EvalError

/-- The word for the kind of an error. -/
def kind : EvalError → String
  | .unspecified => "eval_error"
  | .fieldNotFound _ => "field_not_found"
  | .relationshipNotFound _ => "relationship_not_found"
  | .invalidRelationship _ => "invalid_relationship"
  | .invalidArithmetic .. => "invalid_arithmetic"
  | .divisionByZero => "division_by_zero"
  | .unknownFunction _ => "unknown_function"
  | .evaluationError _ => "evaluation_error"
  | .thrown _ => "thrown_error"
  | .processExit _ => "process_exit"
  | .unsupported _ => "unsupported_expression"

/-- The parts of an error, by name; the fault of a failed function is no value. -/
def parts : EvalError → List (String × Value)
  | .unspecified => []
  | .fieldNotFound name => [("name", name)]
  | .relationshipNotFound r => [("relationship", r)]
  | .invalidRelationship r => [("relationship", r)]
  | .invalidArithmetic op left right => [("op", op), ("left", left), ("right", right)]
  | .divisionByZero => []
  | .unknownFunction name => [("name", name)]
  | .evaluationError _ => []
  | .thrown payload => [("payload", payload)]
  | .processExit reason => [("reason", reason)]
  | .unsupported e => [("expression", e)]

/-- The error with another value for one of its parts, if it has such a part. -/
def withPart? (e : EvalError) (name : String) (v : Value) : Option EvalError :=
  match e, name with
  | .fieldNotFound _, "name" => some (.fieldNotFound v)
  | .relationshipNotFound _, "relationship" => some (.relationshipNotFound v)
  | .invalidRelationship _, "relationship" => some (.invalidRelationship v)
  | .invalidArithmetic _ left right, "op" => some (.invalidArithmetic v left right)
  | .invalidArithmetic op _ right, "left" => some (.invalidArithmetic op v right)
  | .invalidArithmetic op left _, "right" => some (.invalidArithmetic op left v)
  | .unknownFunction _, "name" => some (.unknownFunction v)
  | .evaluationError _, "exception" => some (.evaluationError none)
  | .thrown _, "payload" => some (.thrown v)
  | .processExit _, "reason" => some (.processExit v)
  | .unsupported _, "expression" => some (.unsupported v)
  | _, _ => none

/-- The text of an error. That of a failed function is the text of its fault, if
    that has one. -/
def describe? : EvalError → Option String
  | .unspecified => some "eval_error"
  | .fieldNotFound name => some ("Field '" ++ name.text ++ "' not found")
  | .relationshipNotFound r => some ("Relationship '" ++ r.text ++ "' not found")
  | .invalidRelationship r => some ("Relationship '" ++ r.text ++ "' is not a record")
  | .invalidArithmetic op left right =>
    some ("Cannot apply '" ++ op.text ++ "' to " ++ left.describe ++ " and " ++ right.describe)
  | .divisionByZero => some "Division by zero"
  | .unknownFunction name => some ("Unknown function: " ++ name.text ++ "()")
  | .evaluationError none => some "Evaluation failed: None"
  | .evaluationError (some f) => f.describe?.map ("Evaluation failed: " ++ ·)
  | .thrown payload => some ("Function threw " ++ payload.describe)
  | .processExit reason => some ("Function exited with " ++ reason.describe)
  | .unsupported e => some ("Unsupported expression: " ++ e.describe)

/-- The message of a failure with this error. -/
def failureMessage? (e : EvalError) : Option String :=
  e.describe?.map ("Expression evaluation failed: " ++ ·)

end EvalError

namespace DependencyError

/-- The word for the kind of an error. -/
def kind : DependencyError → String
  | .unspecified => "dependency_error"
  | .circular _ => "circular_dependency"
  | .missing _ => "missing_dependencies"

/-- The text of an error. -/
def describe : DependencyError → String
  | .unspecified => "dependency_error"
  | .circular cycle => "Circular dependency: " ++ " -> ".intercalate cycle
  | .missing names => "Missing dependencies: " ++ ", ".intercalate names

end DependencyError

end ControlBreak
