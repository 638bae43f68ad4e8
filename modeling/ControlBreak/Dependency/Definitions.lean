import ControlBreak.Definition
import ControlBreak.Dependency.Order
import ControlBreak.EvalError
import ControlBreak.Expression.References

/-!
# The graph of variables

A variable depends on all names that its expression and its condition refer to;
many of them are fields of the record and not variables. What a function of the
host reads is not known: a cautious graph takes it to read all other variables.

Names may be any values. Those that a graph compares have to be keys, and only
texts can be names of variables.
-/

namespace ControlBreak

/-- Values are one name if they are one key. -/
instance : BEq Value := ⟨Value.sameKey⟩

namespace VariableDefinition

/-- The names that a variable refers to. -/
def references (v : VariableDefinition) : Host (List Value) := do
  let names ← v.expression.references
  if v.isConditional then Value.distinctKeys (names ++ (← v.condition.references))
  else return names

/-- Whether a variable calls into the host. -/
def callsHost (v : VariableDefinition) : Host Bool := do
  if ← v.expression.callsHost then return true else v.condition.callsHost

/-- The names that a variable depends on, among variables of the given names. -/
def dependencies (v : VariableDefinition) (cautious : Bool) (names : List String) :
    Host (List Value) := do
  let references ← v.references
  let all ← if cautious then v.callsHost else .ok false
  if all then Value.distinctKeys (references ++ (names.filter (· != v.name)).map .str)
  else return references

/-- The dependencies of all variables; of two variables of one name, the later
    counts. -/
def graph (definitions : List VariableDefinition) (cautious : Bool) :
    Host (List (String × List Value)) :=
  definitions.foldlM (fun entries v => do
    let deps ← v.dependencies cautious (definitions.map (·.name))
    return setKeyed v.name deps entries) []

end VariableDefinition

namespace Graph

/-- The graph with all its names as values. -/
def ofDependencies (entries : List (String × List Value)) : Graph Value :=
  ⟨entries.map fun e => (.str e.1, e.2)⟩

/-- Whether all names may be keys. -/
def isComparable (g : Graph Value) : Bool :=
  g.entries.all fun e => e.2.all Value.isHashable

/-- The graph as it is searched for circles: a dependency that is nothing ends the
    dependencies of a name, and one that cannot be a key is a circle by itself. -/
def searched (g : Graph Value) : Graph Value :=
  let entries := g.entries.map fun e => (e.1, e.2.takeWhile fun
    | .nil => false
    | _ => true)
  let odd := (entries.flatMap (·.2)).filter fun d => !d.isHashable
  ⟨entries ++ odd.map fun d => (d, [d])⟩

/-- The order of evaluation of all names, or a circle; a name that cannot be a key is
    a fault once the search comes to it. What a circle that was not found holds up is
    left out. -/
def orderOfNames (g : Graph Value) : Host (Except (List Value) (List Value)) :=
  match g.searched.findCycle with
  | some cycle => if cycle.all Value.isHashable then .ok (.error cycle) else .error .unsuitable
  | none => .ok (.ok g.sort)

/-- The text that a value is as a name. -/
def nameText : Value → String
  | .str s => s
  | v => v.describe

/-- The graph of the variables only: all other names are left out. -/
def ofVariables (g : Graph Value) (names : List String) : Graph String :=
  let kept := g.restrict (names.map .str)
  ⟨kept.entries.map fun e => (nameText e.1, e.2.map nameText)⟩

end Graph

end ControlBreak
