import ControlBreak.Break
import ControlBreak.Event
import ControlBreak.Expression.Evaluation

/-!
# The scope of a record

Records come sorted by the keys of the groups. The scope holds the keys of the
record consumed last, one for each group in the order of levels, and tells what
the next record breaks: the outermost group whose key differs, or else whether
the record is another one. A key that has no value is nothing.

Groups of one level share its reported value, which is the key of the last of
them; breaks are found from all keys.

* `check` changes nothing, and `consume` does not look at the record before.
-/

namespace ControlBreak

/-- The keys of the record consumed last, with the number of records and pages. -/
structure Scope where
  /-- The groups, in the order of their levels. -/
  groups : List GroupDefinition
  keys : List Value
  /-- The reported value of each level. -/
  values : List (Nat × Value)
  previous : Value
  page : Nat
  count : Nat
  deriving Inhabited, Repr

namespace Scope

/-- The scope before all records. Groups of one level keep their order. -/
def ofGroups (groups : List GroupDefinition) : Scope where
  groups := groups.mergeSort fun a b => a.level ≤ b.level
  keys := []
  values := []
  previous := .nil
  page := 1
  count := 0

/-- The scope with all records forgotten. -/
def reset (s : Scope) : Scope :=
  { s with keys := [], values := [], previous := .nil, page := 1, count := 0 }

/-- The levels of the groups, each once. -/
def levels (s : Scope) : List Nat :=
  (s.groups.map (·.level)).eraseDups

/-- The reported value of a level; nothing if there is none. -/
def value (s : Scope) (level : Int) : Value :=
  ((s.values.find? fun e => (e.1 : Int) == level).map (·.2)).getD .nil

/-- The keys of groups for a record. A key that cannot be evaluated is logged with the
    text of the error; the host makes the text even if nobody reads it, and cannot make
    that of an integer of more than 4300 digits, which is left out. -/
def evaluateKeys (r : Registry) (record : Value) : List GroupDefinition → Host (List Value)
  | [] => .ok []
  | g :: rest => do
    let key ← (r.evaluate g.key record).run
    return key.toOption.getD .nil :: (← evaluateKeys r record rest)

/-- The keys that have no value for a record, in turn until the host fails. -/
def keyEvents (r : Registry) (record : Value) : List GroupDefinition → List Event
  | [] => []
  | g :: rest =>
    match (r.evaluate g.key record).run with
    | .ok (.ok _) => keyEvents r record rest
    | .ok (.error e) => .keyMissing g.name e :: keyEvents r record rest
    | .error _ => []

/-- The reported values of the levels, given the keys of the groups. -/
def levelValues (groups : List GroupDefinition) (keys : List Value) : List (Nat × Value) :=
  (groups.zip keys).foldl (fun values e => setKeyed e.1.level e.2 values) []

/-- The level of the first group whose key differs. -/
def firstDifference : List GroupDefinition → List Value → List Value → Host (Option Nat)
  | g :: groups, old :: olds, new :: news => do
    if ← old.recurs new then firstDifference groups olds news else .ok (some g.level)
  | _, _, _ => .ok none

/-- What a record would break; nothing is said before the first record. -/
def check (r : Registry) (s : Scope) (record : Value) : Host (Option Break) :=
  if s.count = 0 then .ok none
  else do
    let keys ← evaluateKeys r record s.groups
    match ← firstDifference s.groups s.keys keys with
    | some level => .ok (some (.group level))
    | none =>
      if ← record.equals s.previous then .ok (some .unchanged) else .ok (some .detail)

/-- What is told while a record is checked. -/
def checkEvents (r : Registry) (s : Scope) (record : Value) : List Event :=
  if s.count = 0 then [] else keyEvents r record s.groups

/-- The scope after a record. -/
def consume (r : Registry) (s : Scope) (record : Value) : Host Scope := do
  let keys ← evaluateKeys r record s.groups
  return { s with
    keys := keys
    values := levelValues s.groups keys
    previous := record
    count := s.count + 1 }

/-- The scope on a new page. -/
def breakPage (s : Scope) : Scope :=
  { s with page := s.page + 1 }

end Scope

end ControlBreak
