import ControlBreak.Definition

/-!
# Breaks

What a record, or a request, does to the report: nothing if it is the same record
again, a new detail row, a break of a group, and with it of all groups within, or
a new page. Each break sends some variables back to their initial values.
-/

namespace ControlBreak

/-- A break of the report. -/
inductive Break
  /-- The same record was seen again. -/
  | unchanged
  /-- A new record, whose keys are those of the last one. -/
  | detail
  /-- The key at a level changed. -/
  | group (level : Int)
  /-- A new page. -/
  | page
  /-- A break of no particular kind. -/
  | general
  deriving DecidableEq, Repr, Inhabited

namespace Break

/-- The word for the kind of a break. -/
def kind : Break → String
  | .unchanged => "NoChange"
  | .detail => "DetailChange"
  | .group _ => "GroupChange"
  | .page => "PageChange"
  | .general => "BreakClassification"

/-- Whether there is a new record. -/
def changesRecord : Break → Bool
  | .unchanged => false
  | _ => true

/-- The level of the group that broke. -/
def level? : Break → Option Int
  | .group level => some level
  | _ => none

/-- Whether a group broke. -/
def isGroup : Break → Bool
  | .group _ => true
  | _ => false

/-- Whether a break sends a variable back to its initial value. No break does so to
    a variable of the whole report. -/
def resets (b : Break) (v : VariableDefinition) : Bool :=
  match b, v.resetOn with
  | .unchanged, _ => false
  | _, .report => false
  | _, .detail => true
  | .page, _ => true
  | .group level, .group => v.resetGroup.all fun (g : Nat) => decide (level ≤ g)
  | _, _ => false

/-- The names of the variables that a break sends back, in their order. -/
def variablesToReset (definitions : List VariableDefinition) (b : Break) : List String :=
  (definitions.filter b.resets).map (·.name)

/-- The names of the variables that one of several breaks sends back, in their
    order. -/
def variablesToResetAll (definitions : List VariableDefinition) (breaks : List Break) :
    List String :=
  let names := breaks.flatMap (variablesToReset definitions)
  (definitions.map (·.name)).filter names.contains

end Break

end ControlBreak
