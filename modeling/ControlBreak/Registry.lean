import ControlBreak.Builtin

/-!
# Registries

A registry names the functions that expressions can call. Registering a name
again replaces its function and keeps its place; nothing is ever removed.

* `find?_add`: after a registration, the name has its function and every
  other name the one it had.
-/

namespace ControlBreak

/-- The functions that expressions can call, by name and in order. -/
structure Registry where
  functions : List (String × HostFunction)

namespace Registry

/-- A registry without functions. -/
def empty : Registry := ⟨[]⟩

/-- A registry of the built-in functions. -/
def builtins : Registry := ⟨Builtin.all⟩

/-- The registered names, in order of registration. -/
def names (r : Registry) : List String :=
  r.functions.map (·.1)

/-- The function with a given name. -/
def find? (r : Registry) (name : String) : Option HostFunction :=
  keyed? r.functions name

/-- The function for an operator, which may be any value that can be a key. -/
def get? (r : Registry) (op : Value) : Host (Option HostFunction) :=
  op.asKey.map fun
    | .str name => r.find? name
    | _ => none

/-- Whether a value is a registered name. -/
def contains (r : Registry) (name : Value) : Host Bool :=
  (r.get? name).map (·.isSome)

/-- The registry with a function under a name. -/
def add (r : Registry) (name : String) (function : HostFunction) : Registry :=
  ⟨setKeyed name function r.functions⟩

theorem find?_add (r : Registry) (name other : String) (function : HostFunction) :
    (r.add name function).find? other = if other = name then some function else r.find? other :=
  keyed?_setKeyed name other function r.functions

/-- The registry with a value as the function under a name: names are texts that
    are not empty, and functions have to be callable. -/
def register (r : Registry) (name function : Value) : Host Registry :=
  match name with
  | .str n =>
    if n = "" then
      .error (.badValue ("Function name must be a non-empty string, got " ++ name.describe))
    else if !function.isCallable then
      .error (.badValue ("Function '" ++ n ++ "' is not callable"))
    else .ok (r.add n function.callWith)
  | _ => .error (.badValue ("Function name must be a non-empty string, got " ++ name.describe))

/-- The name that a registration would replace. -/
def replaced? (r : Registry) (name : Value) : Option String :=
  match name with
  | .str n => if (r.find? n).isSome then some n else none
  | _ => none

end Registry

end ControlBreak
