import ControlBreak.Accumulation
import ControlBreak.Break
import ControlBreak.Dependency.Definitions
import ControlBreak.Event
import ControlBreak.Settings

/-!
# Variables of a report

The variables of a report are planned once: their names are distinct, and each is
evaluated after all others that its expression or its condition refers to. Then
every record updates each of them in this order. The expression of a variable is
evaluated against the record seen through the values that the variables hold, so
it finds the new values of those before it.

* `process` works on a copy of the states, so that a fault leaves them all alone;
  a variable that fails keeps its state, and its error is reported.
* What a function made is held as one thing, so that all variables that keep it keep
  the same thing.
* Resets put variables back to their initial states.
-/

namespace ControlBreak

/-- The variables of a report and the order to evaluate them in. -/
structure Plan where
  definitions : List VariableDefinition
  /-- The names that each variable refers to. -/
  dependencies : List (String × List Value)
  order : List String
  missingAsNil : Bool
  deriving Inhabited, Repr

/-- The state of each variable, by name and in the order of their definitions. -/
abbrev States := List (String × VariableState)

/-- The variables of a report in their current states. -/
structure Variables where
  plan : Plan
  states : States
  deriving Inhabited, Repr

namespace Plan

/-- The first name that an earlier variable has already. -/
def duplicate? (seen : List String) : List VariableDefinition → Option String
  | [] => none
  | d :: rest => if seen.contains d.name then some d.name else duplicate? (d.name :: seen) rest

/-- The texts that values are, if all are texts. -/
def texts? (values : List Value) : Option (List String) :=
  values.mapM fun
    | .str s => some s
    | _ => none

/-- Checks that all names are variables or known fields, if fields are known. -/
def checkKnown (g : Graph Value) (names : List String) :
    Option (List Value) → ExceptT DependencyError Host Unit
  | none => pure ()
  | some known => do
    let known ← ExceptT.lift (Value.distinctKeys known)
    match g.missing (known ++ names.map .str) with
    | [] => pure ()
    | missing =>
      match texts? missing with
      | some names => throw (.missing names)
      | none => ExceptT.lift (.error .unsuitable)

/-- The plan of variables. With known fields, a name that is neither one of them nor
    a variable is an error. -/
def make (settings : Settings) (definitions : List VariableDefinition)
    (known : Option (List Value)) : ExceptT DependencyError Host Plan := do
  match duplicate? [] definitions with
  | some name => ExceptT.lift (.error (.badValue ("Duplicate variable name: " ++ name)))
  | none => pure ()
  let names := definitions.map (·.name)
  let dependencies ← ExceptT.lift
    (VariableDefinition.graph definitions settings.conservativeDependencies)
  let g := Graph.ofDependencies dependencies
  if !g.isComparable then ExceptT.lift (.error .unsuitable)
  checkKnown g names known
  let order ← ExceptT.mk (.ok ((g.ofVariables names).order.mapError .circular))
  return ⟨definitions, dependencies, order, settings.missingFieldsAsNil⟩

/-- What is told while variables are planned. -/
def events : Host (Except DependencyError Plan) → List Event
  | .ok (.ok p) => [.orderFound p.order]
  | .ok (.error (.circular cycle)) => [.circleFound cycle]
  | _ => []

/-- The variable with a name. -/
def definition? (p : Plan) (name : String) : Option VariableDefinition :=
  p.definitions.find? fun d => d.name == name

/-- The variables in the order of evaluation. -/
def ordered (p : Plan) : List VariableDefinition :=
  p.order.filterMap p.definition?

/-- The states of all variables before all records. -/
def initialStates (p : Plan) : States :=
  p.definitions.map fun d => (d.name, d.initialState)

/-- The state of a variable. -/
def stateOf (states : States) (d : VariableDefinition) : VariableState :=
  (keyed? states d.name).getD d.initialState

/-- The values that the variables show. -/
def displayValues (p : Plan) (states : States) : Host (List (String × Value)) :=
  p.definitions.mapM fun d => do return (d.name, ← d.displayValue (stateOf states d))

/-- The value that a variable shows, as one thing: a quotient is made when it is
    shown. -/
def shownValue (states : States) (d : VariableDefinition) : Host Value :=
  let s := stateOf states d
  (d.displayValue s).map (·.heldBy d.name s.taken)

/-- A record seen through the values that the variables hold. -/
def context (p : Plan) (states : States) (record : Value) : Host Value := do
  let layer ← p.definitions.mapM fun d => do return (d.name, ← shownValue states d)
  return .layered layer record

/-- The value of an expression in a context; a missing field may count as nothing. -/
def valueOf (r : Registry) (p : Plan) (e context : Value) : Evaluation Value :=
  tryCatch (r.evaluate e context) fun
    | .fieldNotFound name => if p.missingAsNil then pure .nil else throw (.fieldNotFound name)
    | error => throw error

/-- Whether a variable takes a record: it has no condition, or the condition holds. -/
def admits (r : Registry) (p : Plan) (d : VariableDefinition) (context : Value) :
    Evaluation Bool :=
  if d.isConditional then do return (← p.valueOf r d.condition context).isTruthy
  else return true

/-- The new state of a variable that stands at `s`, in a context. -/
def take (r : Registry) (p : Plan) (d : VariableDefinition) (context : Value)
    (s : VariableState) : Evaluation VariableState := do
  if ← p.admits r d context then
    let v ← p.valueOf r d.expression context
    return d.holdValue (← d.kind.accumulate s v)
  else return s

/-- The new state of a variable for a record, given the states of all. -/
def evaluate (r : Registry) (p : Plan) (d : VariableDefinition) (states : States)
    (record : Value) : Evaluation VariableState := do
  let context ← ExceptT.lift (p.context states record)
  p.take r d context (stateOf states d)

/-- States with a variable put back to its initial one. -/
def resetState (d : VariableDefinition) (states : States) : States :=
  setKeyed d.name (d.resetState (stateOf states d)) states

/-- Updates variables in turn, each after its reset if it is one of `invalidated`;
    with the errors of those that keep their states. -/
def stage (r : Registry) (p : Plan) (record : Value) (invalidated : List String) :
    List VariableDefinition → States → Host (States × List (String × EvalError))
  | [], states => .ok (states, [])
  | d :: rest, states => do
    let states := if invalidated.contains d.name then resetState d states else states
    match ← (p.evaluate r d states record).run with
    | .ok new => stage r p record invalidated rest (setKeyed d.name new states)
    | .error e => do
      let (states, errors) ← stage r p record invalidated rest states
      return (states, (d.name, e) :: errors)

/-- The names that breaks send back. -/
def invalidated (p : Plan) (changes : List Break) : List String :=
  Break.variablesToResetAll p.definitions changes

/-- States with variables put back to their initial ones. -/
def resetStates (p : Plan) (names : List String) (states : States) : States :=
  names.foldl (fun states name =>
    match p.definition? name with
    | some d => resetState d states
    | none => states) states

end Plan

namespace Variables

/-- The variables of a plan before all records. -/
def ofPlan (p : Plan) : Variables :=
  ⟨p, p.initialStates⟩

/-- Puts variables back for breaks, then updates all of them for a record. -/
def process (r : Registry) (v : Variables) (record : Value) (changes : List Break) :
    Host (Variables × List (String × EvalError)) := do
  let (states, errors) ← v.plan.stage r record (v.plan.invalidated changes) v.plan.ordered v.states
  return ({ v with states := states }, errors)

/-- What is told of a reset. -/
def resetEvents : List String → List Event
  | [] => []
  | names => [.variablesReset names]

/-- What is told while a record is processed: the resets, by name. -/
def processEvents (v : Variables) (changes : List Break) : List Event :=
  resetEvents ((v.plan.invalidated changes).mergeSort fun a b => !decide (b < a))

/-- The variable with a name, which has to be one. -/
def definition (v : Variables) (name : String) : Host VariableDefinition :=
  orFault (.badValue ("Unknown variable: " ++ name)) (v.plan.definition? name)

/-- Updates a single variable for a record, and shows its new value. The state is
    kept even if its value cannot be shown. -/
def update (r : Registry) (v : Variables) (name : String) (record : Value) :
    Variables × Host (Except EvalError Value) :=
  match v.definition name with
  | .error f => (v, .error f)
  | .ok d =>
    match (v.plan.evaluate r d v.states record).run with
    | .error f => (v, .error f)
    | .ok (.error e) => (v, .ok (.error e))
    | .ok (.ok new) =>
      ({ v with states := setKeyed name new v.states }, (d.displayValue new).map .ok)

/-- Puts the named variables back. -/
def reset (v : Variables) (names : List String) : Variables :=
  { v with states := v.plan.resetStates names v.states }

/-- The names that a break sends back. -/
def sentBack (v : Variables) : Option Break → List String
  | some b => b.variablesToReset v.plan.definitions
  | none => []

/-- The names of a scope, at a level or at all levels. -/
def inScope (v : Variables) (scope : ResetScope) (level : Option Int) : List String :=
  (v.plan.definitions.filter fun d => d.shouldReset scope level).map (·.name)

/-- The names of all variables. -/
def names (v : Variables) : List String :=
  v.plan.definitions.map (·.name)

/-- Puts back what a break sends back. -/
def handle (v : Variables) (b : Option Break) : Variables :=
  v.reset (v.sentBack b)

/-- Puts back the variables of a scope. -/
def resetScope (v : Variables) (scope : ResetScope) (level : Option Int) : Variables :=
  v.reset (v.inScope scope level)

/-- Puts all variables back. No value is held any more then, so the values taken are
    numbered anew. -/
def resetAll (v : Variables) : Variables :=
  ⟨v.plan, v.plan.definitions.foldl
    (fun states d => setKeyed d.name d.initialState states) v.states⟩

/-- Whether a variable has a given name. -/
def has (v : Variables) (name : String) : Bool :=
  (v.plan.definition? name).isSome

/-- The value that a variable shows, or another one if there is no such variable. -/
def value (v : Variables) (name : String) (other : Value) : Host Value :=
  match v.plan.definition? name with
  | some d => d.displayValue (Plan.stateOf v.states d)
  | none => .ok other

/-- The values that all variables show. -/
def values (v : Variables) : Host (List (String × Value)) :=
  v.plan.displayValues v.states

end Variables

end ControlBreak
