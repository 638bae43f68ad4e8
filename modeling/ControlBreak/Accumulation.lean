import ControlBreak.Definition
import ControlBreak.Expression.Evaluation
import ControlBreak.Value.Held
import ControlBreak.Value.Order

/-!
# Accumulation

A variable folds one value of each record into its state. Sums and averages add,
the latter counting what they added; least and greatest values keep the one that
came first among equals; a count takes no notice of the value, and a custom
variable of nothing but it. Nothing is passed over, by all but the last two.

A failed accumulation leaves the state as it was.
-/

namespace ControlBreak

/-- The state of a variable. That of an average holds the sum. -/
structure VariableState where
  value : Value
  /-- How many values were taken since the last reset. -/
  count : Int
  /-- How many values were taken, whatever resets there were. -/
  taken : Nat := 0
  deriving Inhabited, Repr

namespace VariableState

/-- The state after one more value that makes the state's value `v`. -/
def withValue (s : VariableState) (v : Value) : VariableState :=
  ⟨v, s.count + 1, s.taken + 1⟩

end VariableState

namespace VariableDefinition

/-- The state of a variable before all records. -/
def initialState (d : VariableDefinition) : VariableState :=
  { value := d.initial, count := 0 }

/-- The initial state again, without a number used twice for the values taken. -/
def resetState (d : VariableDefinition) (s : VariableState) : VariableState :=
  { d.initialState with taken := s.taken }

/-- The state with its value as the one thing that the variable holds. -/
def holdValue (d : VariableDefinition) (s : VariableState) : VariableState :=
  { s with value := s.value.heldBy d.name s.taken }

/-- The value that a variable shows: an average divides its sum. -/
def displayValue (d : VariableDefinition) (s : VariableState) : Host Value :=
  match d.kind with
  | .average => if 0 < s.count then s.value.dividedBy s.count else .ok (.int 0)
  | _ => .ok s.value

end VariableDefinition

namespace AggregateKind

/-- One more than a counted value, which counts as zero if it is empty. -/
def increment (v : Value) : Host Value :=
  Value.plus (if v.isEmpty then .int 0 else v) (.int 1)

/-- The value to keep of two: `new` if it stands in the relation to `old`. Values
    that do not compare are an error of the aggregate. -/
def choose (kind : AggregateKind) (c : Comparison) (old new : Value) : Evaluation Value :=
  match new.compares c old with
  | .ok true => pure new
  | .ok false => pure old
  | .error .unsuitable => throw (.invalidArithmetic (.str kind.name) old new)
  | .error f => .fault f

/-- The result of joining a value that is there to a value of the state that is
    there. -/
def join (kind : AggregateKind) (old new : Value) : Evaluation Value :=
  match kind with
  | .sum | .average => Arithmetic.onValues .add old new
  | .min => choose .min .lt old new
  | .max => choose .max .gt old new
  | .count => ExceptT.lift (increment old)
  | .custom => pure new

/-- Folds a value into a state. -/
def accumulate (kind : AggregateKind) (s : VariableState) (v : Value) :
    Evaluation VariableState :=
  match kind, s.value, v with
  | .count, old, _ => do return s.withValue (← ExceptT.lift (increment old))
  | .custom, _, v => return s.withValue v
  | _, _, .nil => return s
  | _, .nil, v => return s.withValue v
  | kind, old, v => do return s.withValue (← kind.join old v)

end AggregateKind

end ControlBreak
