import ControlBreak.Expression
import ControlBreak.Value.Equality

/-!
# What an expression refers to

The names of the fields that an expression reads, the paths of relationships that
it follows, and whether it calls into the host, without a record. An expression
of no recognised shape refers to nothing.

The names on a path are names like all others, so a field of a related record
counts as a reference too.
-/

namespace ControlBreak

namespace Value

mutual

/-- The names that an expression refers to, in the order of their first
    occurrence. -/
def references (e : Value) : Host (List Value) :=
  match _h : e.node? with
  | .error f => .error f
  | .ok (some (.field name)) => .ok [name]
  | .ok (some (.related path name)) => distinctKeys (path ++ [name])
  | .ok (some (.explicit relationship name)) => distinctKeys [relationship, name]
  | .ok (some (.call _ args)) => do distinctKeys (← referencesOfAll args)
  | .ok _ => .ok []
  termination_by sizeOf e
  decreasing_by exact sizeOf_lt_of_node? _h

/-- The names that expressions refer to, one expression after the other. -/
def referencesOfAll (es : List Value) : Host (List Value) :=
  match es with
  | [] => .ok []
  | e :: rest => do return (← references e) ++ (← referencesOfAll rest)
  termination_by sizeOf es
  decreasing_by all_goals (simp_wf <;> omega)

end

/-- The paths with another one at the end, unless it is there already. -/
def insertPath (path : List Value) (paths : List (List Value)) : Host (List (List Value)) := do
  let rec isIn : List (List Value) → Host Bool
    | [] => .ok false
    | p :: rest => do
      if ← equals (.list p) (.list path) then .ok true else isIn rest
  if ← isIn paths then .ok paths else .ok (paths ++ [path])

mutual

/-- The paths of relationships that an expression follows, in the order of their
    first occurrence. -/
def relationshipPaths (e : Value) : Host (List (List Value)) :=
  match _h : e.node? with
  | .error f => .error f
  | .ok (some (.related path _)) => .ok [path]
  | .ok (some (.explicit relationship _)) => .ok [[relationship]]
  | .ok (some (.call _ args)) => relationshipPathsOfAll [] args
  | .ok _ => .ok []
  termination_by sizeOf e
  decreasing_by exact sizeOf_lt_of_node? _h

/-- The paths found before, and those that expressions follow. -/
def relationshipPathsOfAll (found : List (List Value)) (es : List Value) :
    Host (List (List Value)) :=
  match es with
  | [] => .ok found
  | e :: rest => do
    let found ← (← relationshipPaths e).foldlM (fun paths path => insertPath path paths) found
    relationshipPathsOfAll found rest
  termination_by sizeOf es
  decreasing_by all_goals (simp_wf <;> omega)

end

mutual

/-- Whether an expression is a function of the host, or calls with one. -/
def callsHost (e : Value) : Host Bool :=
  match _h : e.node? with
  | .error f => .error f
  | .ok (some (.host _)) => .ok true
  | .ok (some (.call _ args)) => anyCallsHost args
  | .ok _ => .ok false
  termination_by sizeOf e
  decreasing_by exact sizeOf_lt_of_node? _h

/-- Whether one of several expressions calls into the host. -/
def anyCallsHost (es : List Value) : Host Bool :=
  match es with
  | [] => .ok false
  | e :: rest => do
    if ← callsHost e then .ok true else anyCallsHost rest
  termination_by sizeOf es
  decreasing_by all_goals (simp_wf <;> omega)

end

end Value

end ControlBreak
