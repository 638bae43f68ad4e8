import ControlBreak.Value.Text

/-!
# Definitions of groups and variables

What a report is made of: groups, each with a level and a key, the first level
being the outermost, and variables, running aggregates that go back to their
initial values at certain breaks.

Definitions are made from values that may be unsuitable; those that were made are
sound.
-/

namespace ControlBreak

/-- How a variable folds the value of each record into its own. -/
inductive AggregateKind
  | sum
  | count
  | average
  | min
  | max
  | custom
  deriving DecidableEq, Repr, Inhabited

namespace AggregateKind

/-- The word for a kind. -/
def name : AggregateKind → String
  | .sum => "sum"
  | .count => "count"
  | .average => "average"
  | .min => "min"
  | .max => "max"
  | .custom => "custom"

def all : List AggregateKind := [.sum, .count, .average, .min, .max, .custom]

/-- The kind that a word stands for. -/
def parse (word : String) : Host AggregateKind :=
  orFault (.badValue (quoted word ++ " is not a valid AggregateKind"))
    (all.find? fun k => k.name == word)

/-- The initial value of a variable that gives none. -/
def defaultInitial : AggregateKind → Value
  | .sum | .count | .average => .int 0
  | .min | .max | .custom => .nil

end AggregateKind

/-- What a variable goes back to its initial value for. -/
inductive ResetScope
  | detail
  | group
  | page
  | report
  deriving DecidableEq, Repr, Inhabited

namespace ResetScope

/-- The word for a scope. -/
def name : ResetScope → String
  | .detail => "detail"
  | .group => "group"
  | .page => "page"
  | .report => "report"

def all : List ResetScope := [.detail, .group, .page, .report]

/-- The scope that a word stands for. -/
def parse (word : String) : Host ResetScope :=
  orFault (.badValue (quoted word ++ " is not a valid ResetScope"))
    (all.find? fun s => s.name == word)

end ResetScope

/-- The direction in which the records of a group are sorted. -/
inductive SortDirection
  | ascending
  | descending
  deriving DecidableEq, Repr, Inhabited

namespace SortDirection

/-- The word for a direction. -/
def name : SortDirection → String
  | .ascending => "asc"
  | .descending => "desc"

/-- The direction that a value stands for. -/
def ofValue? : Value → Option SortDirection
  | .str "asc" => some .ascending
  | .str "desc" => some .descending
  | _ => none

end SortDirection

/-- The level that a value stands for: levels are counted from one. -/
def level? : Value → Option Nat
  | .num (.int n) => if 1 ≤ n then some n.toNat else none
  | _ => none

/-- A group of the report. The first level is the outermost. -/
structure GroupDefinition where
  name : String
  level : Nat
  key : Value
  sort : SortDirection
  deriving Repr, Inhabited

/-- A group with the given parts, if its level and its direction are sound. -/
def GroupDefinition.make (name : String) (level key sort : Value) : Host GroupDefinition := do
  let n ← orFault (.badValue ("Group '" ++ name ++ "' level must be a positive integer, got " ++
    level.describe)) (level? level)
  let direction ← orFault (.badValue ("Group '" ++ name ++
    "' sort direction must be 'asc' or 'desc', got " ++ sort.describe))
    (SortDirection.ofValue? sort)
  return ⟨name, n, key, direction⟩

/-- A running aggregate of the report. A variable that resets on groups does so on
    breaks of its group's level and of those around it, and on all breaks of
    groups if it names no level. Only records that meet the condition count. -/
structure VariableDefinition where
  name : String
  kind : AggregateKind
  expression : Value
  resetOn : ResetScope
  resetGroup : Option Nat
  initial : Value
  condition : Value
  deriving Repr, Inhabited

namespace VariableDefinition

/-- A variable with the given parts, if they are sound. Without an initial value it
    has that of its kind. -/
def make (name kind : String) (expression : Value) (resetOn : String) (resetGroup : Value)
    (initial : Option Value) (condition : Value) : Host VariableDefinition := do
  let kind ← AggregateKind.parse kind
  let scope ← ResetScope.parse resetOn
  let group ← match resetGroup with
    | .nil => .ok none
    | v => (orFault (.badValue ("Variable '" ++ name ++
      "' reset_group must be a positive integer, got " ++ v.describe)) (level? v)).map some
  return ⟨name, kind, expression, scope, group, initial.getD kind.defaultInitial, condition⟩

/-- Whether a reset of a scope, at a level or at all levels, is meant for the
    variable. -/
def shouldReset (v : VariableDefinition) (scope : ResetScope) (level : Option Int) : Bool :=
  v.resetOn == scope &&
    match scope, level, v.resetGroup with
    | .group, some l, some g => decide (l ≤ g)
    | _, _, _ => true

/-- Whether the variable has a condition. -/
def isConditional (v : VariableDefinition) : Bool :=
  match v.condition with
  | .nil => false
  | _ => true

end VariableDefinition

end ControlBreak
