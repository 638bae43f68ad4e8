import ControlBreak.Groups
import ControlBreak.Variables

/-!
# The execution of a report

An execution consumes records: the groups find what a record breaks, then the
variables go back accordingly and take the record. A record is consumed by the
groups first, and stays so if the host fails in a variable.
-/

namespace ControlBreak

/-- A report in the middle of its records. -/
structure Execution where
  groups : Groups
  totals : Variables
  deriving Inhabited, Repr

/-- What one record did: its breaks, the values that the variables show then, and
    the errors of those that were not updated. -/
structure ExecutionStep where
  step : GroupStep
  values : List (String × Value)
  errors : List (String × EvalError)
  deriving Inhabited, Repr

namespace Execution

/-- The execution before all records. -/
def ofDefinitions (groups : List GroupDefinition) (plan : Plan) : Execution :=
  ⟨.ofDefinitions groups, .ofPlan plan⟩

/-- Consumes a record. The texts of the errors are made only when they are read, and so
    an integer of more than 4300 digits in one of them, for which the host has no text,
    does no harm. -/
def process (r : Registry) (e : Execution) (record : Value) : Execution × Host ExecutionStep :=
  match e.groups.process r record with
  | .error f => (e, .error f)
  | .ok (groups, step) =>
    match e.totals.process r record step.changes with
    | .error f => (⟨groups, e.totals⟩, .error f)
    | .ok (totals, errors) =>
      (⟨groups, totals⟩, totals.values.map fun values => ⟨step, values, errors⟩)

/-- What is told while a record is consumed. -/
def processEvents (r : Registry) (e : Execution) (record : Value) : List Event :=
  e.groups.processEvents r record ++
    match e.groups.process r record with
    | .error _ => []
    | .ok (_, step) =>
      e.totals.processEvents step.changes ++
        match e.totals.process r record step.changes with
        | .error _ => []
        | .ok (_, errors) => errors.map fun (name, error) => .variableKept name error

/-- Consumes records in turn. If the host fails at one, those before it stay
    consumed. -/
def processAll (r : Registry) (e : Execution) : List Value → Execution × Host (List ExecutionStep)
  | [] => (e, .ok [])
  | record :: rest =>
    match e.process r record with
    | (e, .error f) => (e, .error f)
    | (e, .ok step) =>
      let (e, steps) := processAll r e rest
      (e, steps.map (step :: ·))

/-- What is told while records are consumed. -/
def processAllEvents (r : Registry) (e : Execution) : List Value → List Event
  | [] => []
  | record :: rest =>
    e.processEvents r record ++
      match e.process r record with
      | (_, .error _) => []
      | (e, .ok _) => processAllEvents r e rest

/-- The execution on a new page. -/
def breakPage (e : Execution) : Execution :=
  ⟨e.groups.breakPage, e.totals.handle (some .page)⟩

/-- The execution after a break of groups at a level that no record made. -/
def breakGroup (e : Execution) (level : Int) : Execution :=
  { e with totals := e.totals.handle (some (.group level)) }

/-- The execution with all records forgotten. -/
def reset (e : Execution) : Execution :=
  ⟨e.groups.reset, e.totals.resetAll⟩

/-- What is told of a new page. -/
def breakPageEvents (e : Execution) : List Event :=
  .pageBroken (e.groups.scope.page + 1) ::
    Variables.resetEvents (e.totals.sentBack (some .page))

end Execution

end ControlBreak
