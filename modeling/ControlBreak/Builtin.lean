import ControlBreak.HostFunction
import ControlBreak.Value.Text
import ControlBreak.Text.Casing

/-!
# Built-in functions

The functions that every report has at hand: comparisons, logic on truth values
that takes only nothing and falsehood as false, and functions on numbers, texts
and lists of arguments. A call with a wrong number of arguments is unsuitable.
-/

namespace ControlBreak

namespace Builtin

/-- A function of one argument. -/
def unary (f : Value → Host Value) : HostFunction
  | [v] => .ofHost (f v)
  | _ => .fault .unsuitable

/-- A function of two arguments. -/
def binary (f : Value → Value → Host Value) : HostFunction
  | [v, w] => .ofHost (f v w)
  | _ => .fault .unsuitable

/-- A function of any number of arguments. -/
def variadic (f : List Value → Host Value) : HostFunction :=
  fun args => .ofHost (f args)

def equal (v w : Value) : Host Value :=
  (v.equalsShown w).map .bool

def notEqual (v w : Value) : Host Value :=
  (v.equalsShown w).map fun b => .bool !b

def comparison (c : Comparison) (v w : Value) : Host Value :=
  (v.compares c w).map .bool

def magnitude (v : Value) : Host Value :=
  match v with
  | .num n => (hostNumber n.abs).map .num
  | v => .error (.badArgument ("abs() requires a numeric argument, got " ++ v.describe))

/-- Rounding of a number to a number of places. -/
def roundTo (v places : Value) : Host Value :=
  match v with
  | .num n =>
    match places with
    | .num (.int p) => (hostNumber (n.round p)).map .num
    | p => .error (.badArgument ("round() digits must be an integer, got " ++ p.describe))
  | v => .error (.badArgument ("round() requires a numeric argument, got " ++ v.describe))

/-- Rounding, to whole numbers if no number of places is given. -/
def round : HostFunction
  | [v] => .ofHost (roundTo v (.int 0))
  | [v, places] => .ofHost (roundTo v places)
  | _ => .fault .unsuitable

/-- Values without those that are nothing. -/
def present (args : List Value) : List Value :=
  args.filter fun
    | .nil => false
    | _ => true

theorem present_cons {v : Value} {args : List Value} (hv : v ≠ .nil) :
    present (v :: args) = v :: present args := by
  cases v with
  | nil => exact absurd rfl hv
  | _ => rfl

theorem mem_present {v : Value} {args : List Value} :
    v ∈ present args ↔ v ∈ args ∧ v ≠ .nil := by
  cases v <;> simp [present]

def minimum (args : List Value) : Host Value :=
  match present args with
  | [] => .ok .nil
  | v :: rest => Value.least v rest

def maximum (args : List Value) : Host Value :=
  match present args with
  | [] => .ok .nil
  | v :: rest => Value.greatest v rest

/-- The first value that is not nothing. -/
def coalesce (args : List Value) : Host Value :=
  .ok ((present args).headD .nil)

def concat (args : List Value) : Host Value :=
  .ok (.str (String.join ((present args).map Value.text)))

/-- A mapping of texts, under the name of its function; nothing stays nothing. -/
def onText (name : String) (f : String → String) (v : Value) : Host Value :=
  match v with
  | .nil => .ok .nil
  | .str s => .ok (.str (f s))
  | v => .error (.badArgument (name ++ "() requires a string argument, got " ++ v.describe))

/-- The number of members of a value; nothing has none. -/
def length (v : Value) : Host Value :=
  match v with
  | .nil => .ok (.int 0)
  | .str s => .ok (.int s.length)
  | .list items => .ok (.int items.length)
  | .tuple items => .ok (.int items.length)
  | .row fields => .ok (.int fields.length)
  | .dict entries => .ok (.int entries.length)
  | .bytes b => .ok (.int b.length)
  | .layered layer record => (Value.fieldNames (.layered layer record)).map fun names =>
    .int names.length
  | _ => .error .unsuitable

/-- The built-in functions, in their order. -/
def all : List (String × HostFunction) := [
  ("==", binary equal),
  ("!=", binary notEqual),
  ("<", binary (comparison .lt)),
  ("<=", binary (comparison .le)),
  (">", binary (comparison .gt)),
  (">=", binary (comparison .ge)),
  ("and", binary fun v w => .ok (.bool (v.isTruthy && w.isTruthy))),
  ("or", binary fun v w => .ok (.bool (v.isTruthy || w.isTruthy))),
  ("not", unary fun v => .ok (.bool !v.isTruthy)),
  ("abs", unary magnitude),
  ("round", round),
  ("min", variadic minimum),
  ("max", variadic maximum),
  ("coalesce", variadic coalesce),
  ("concat", variadic concat),
  ("upper", unary (onText "upper" upperCase)),
  ("lower", unary (onText "lower" lowerCase)),
  ("length", unary length)]

end Builtin

end ControlBreak
