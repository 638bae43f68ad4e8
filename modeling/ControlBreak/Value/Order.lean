import ControlBreak.Value.Equality

/-!
# The order of values

Numbers, texts, byte strings, dates, moments, times and durations have an order,
each kind within itself; lists and tuples are ordered by their first members that
differ, and else by length. All other pairs are unsuitable.
-/

namespace ControlBreak

/-- The order of a pair of which one is less by a decidable relation. -/
def orderOf {α : Type} [DecidableEq α] (less : α → α → Bool) (a b : α) : Ordering :=
  if a = b then .eq else if less a b then .lt else .gt

/-- The order of byte strings: by the first bytes that differ, and else by length. -/
def orderBytes : List UInt8 → List UInt8 → Ordering
  | [], [] => .eq
  | [], _ :: _ => .lt
  | _ :: _, [] => .gt
  | a :: rest, b :: others => if a = b then orderBytes rest others else if a < b then .lt else .gt

namespace Value

mutual

/-- Whether `v` stands in the relation to `w`. -/
def compares (c : Comparison) : Value → Value → Host Bool
  | .bool a, w => match w.number? with
    | some n => hostNumber ((Number.int (if a then 1 else 0)).compares c n)
    | none => .error .unsuitable
  | .num a, w => match w.number? with
    | some n => hostNumber (a.compares c n)
    | none => .error .unsuitable
  | .str s, .str t => .ok (c.holds (orderOf (fun a b => decide (a < b)) s t))
  | .bytes a, .bytes b => .ok (c.holds (orderBytes a b))
  | .date a, .date b => .ok (c.holds (compare a.ordinal b.ordinal))
  | .time a, .time b => .ok (c.holds (compare a.sinceMidnight b.sinceMidnight))
  | .moment a, .moment b => .ok (c.holds (compare a.position b.position))
  | .duration a, .duration b => .ok (c.holds (compare a.microseconds b.microseconds))
  | .list items, .list others => comparesMembers c items others
  | .tuple items, w => match w.members? with
    | some others => comparesMembers c items others
    | none => .error .unsuitable
  | .row fields, w => match w.members? with
    | some others => comparesRow c fields others
    | none => .error .unsuitable
  | _, _ => .error .unsuitable
  termination_by structural v => v

/-- Whether a sequence of members stands in the relation to another. -/
def comparesMembers (c : Comparison) : List Value → List Value → Host Bool
  | [], [] => .ok (c.holds .eq)
  | [], _ :: _ => .ok (c.holds .lt)
  | _ :: _, [] => .ok (c.holds .gt)
  | v :: rest, w :: others => do
    if ← equalMember v w then comparesMembers c rest others else v.compares c w
  termination_by structural vs => vs

/-- Whether the places of a row stand in the relation to a sequence of members. -/
def comparesRow (c : Comparison) : List (String × Value) → List Value → Host Bool
  | [], [] => .ok (c.holds .eq)
  | [], _ :: _ => .ok (c.holds .lt)
  | _ :: _, [] => .ok (c.holds .gt)
  | (_, v) :: rest, w :: others => do
    if ← equalMember v w then comparesRow c rest others else v.compares c w
  termination_by structural fs => fs

end

/-- The first of the least values: a later one takes its place only if it is
    less. -/
def least : Value → List Value → Host Value
  | best, [] => .ok best
  | best, v :: rest => do
    if ← v.compares .lt best then least v rest else least best rest

/-- The first of the greatest values: a later one takes its place only if it is
    greater. -/
def greatest : Value → List Value → Host Value
  | best, [] => .ok best
  | best, v :: rest => do
    if ← v.compares .gt best then greatest v rest else greatest best rest

end Value

end ControlBreak
