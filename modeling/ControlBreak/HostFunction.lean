import ControlBreak.Value.Order
import ControlBreak.Value.Record

/-!
# Functions of the host

A report calls functions that it does not know. Whatever they do, a call ends in
one of five ways, an `Outcome`; functions depend on nothing but their arguments.
Four of these ways are answers to whoever calls. The fifth is none: what interrupts
the whole program goes past the caller.
-/

namespace ControlBreak

/-- How a call of a host function ends. -/
inductive Outcome
  | value (v : Value)
  | fault (f : Fault)
  /-- The function gave up, with a payload. -/
  | thrown (payload : Value)
  /-- The function asked to leave the process or a generator. -/
  | exited (reason : Value)
  /-- The function was interrupted, or raised what is no fault of its own. -/
  | escaped (f : Fault)
  deriving Inhabited, Repr

/-- A function of the host. -/
abbrev HostFunction := List Value → Outcome

namespace Outcome

/-- The outcome of a call that ends with a result or a fault. -/
def ofHost : Host Value → Outcome
  | .ok v => .value v
  | .error f => .fault f

end Outcome

namespace NativeAction

/-- A field of a record, which has to be there. -/
def readField (record name : Value) : Host Value := do
  match ← record.lookup name with
  | some v => .ok v
  | none =>
    match record with
    | .dict _ | .layered .. => .error .missingKey
    | _ => .error .missingAttribute

/-- The kinds of faults that take no values at will. -/
def strictKinds : List String :=
  ["UnicodeDecodeError", "UnicodeEncodeError", "UnicodeTranslateError"]

/-- Kinds of faults that have another name too. -/
def properKind (kind : String) : String :=
  if kind = "IOError" ∨ kind = "EnvironmentError" then "OSError" else kind

/-- The kinds that are no faults of a function, but end whatever runs it. -/
def fatalKinds : List String :=
  ["BaseException", "KeyboardInterrupt"]

/-- The outcome of failing with a fault of a kind, which carries values. Two kinds
    ask to leave, and two are let through. -/
def raised (kind : String) (values : List Value) : Outcome :=
  if kind = "SystemExit" then
    .exited (match values with
      | [] => .nil
      | [v] => v
      | vs => .tuple vs)
  else if kind = "GeneratorExit" then .exited (.str "generator_exit")
  else if fatalKinds.contains kind then .escaped (.raised kind values)
  else if strictKinds.contains kind then .fault .unsuitable
  else .fault (.raised (properKind kind) values)

/-- What an action does with its own values and the arguments. -/
def run (action : NativeAction) (own args : List Value) : Outcome :=
  match action, own, args with
  | .const, own, _ => .value (own.headD .nil)
  | .argc, _, _ => .value (.int args.length)
  | .raise, .str kind :: values, _ => raised kind values
  | .throw, own, _ => .thrown (own.headD .nil)
  | .exit, own, _ => .exited (own.headD .nil)
  | .genexit, _, _ => .exited (.str "generator_exit")
  | _, _, [] => .fault .outOfRange
  | .first, _, v :: _ => .value v
  | .add, own, v :: _ => .ofHost (v.plus (own.headD .nil))
  | .field, own, v :: _ => .ofHost (readField v (own.headD .nil))
  | .gt, [name, least], v :: _ => .ofHost do
    let field ← readField v name
    return .bool (← field.compares .gt least)
  | _, _, _ => .fault .unsuitable

/-- What an action does with the arguments, unless its own values cannot be
    made. An argument that is needed is asked for first. -/
def call (action : NativeAction) (own : Host (List Value)) (args : List Value) : Outcome :=
  match own, action, args with
  | .ok own, action, args => action.run own args
  | .error _, .add, [] => .fault .outOfRange
  | .error _, .gt, [] => .fault .outOfRange
  | .error f, _, _ => .fault f

end NativeAction

/-- A call of a value, which fails unless the value is a function. -/
def Value.callWith (function : Value) (args : List Value) : Outcome :=
  match function with
  | .native _ _ action own => action.call own args
  | _ => .fault .unsuitable

end ControlBreak
