import ControlBreak.Number.Rounding

/-!
# The extended line

Numbers of different kinds are compared by the exact value they stand for: a
quotient times a power of ten, one of two infinities, or nothing at all. Powers
of ten are expanded only as far as two values are of one order.
-/

namespace ControlBreak

/-- The exact value of a number of any kind. -/
inductive Extended
  | undefined
  | negInfinity
  /-- The value `num / den * 10 ^ exponent`, where `den` is positive. -/
  | finite (num : Int) (den : Nat) (exponent : Int)
  | posInfinity
  deriving DecidableEq, Repr, Inhabited

namespace Extended

/-- An infinity, with its sign. -/
def infinity (negative : Bool) : Extended :=
  if negative then .negInfinity else .posInfinity

/-- A rational on the line. -/
def rational (q : Rat) : Extended :=
  .finite q.num q.den 0

/-- How `x * 10 ^ e` and `y * 10 ^ f` lie: if one has its leading digit at a higher
    place, it is the greater. -/
def compareScaled (x : Nat) (e : Int) (y : Nat) (f : Int) : Ordering :=
  if x = 0 ∨ y = 0 then compare x y
  else
    match compare (e + digitCount x) (f + digitCount y) with
    | .eq => compare (x * tenTo (e - f)) (y * tenTo (f - e))
    | o => o

/-- How two values lie on the line; `none` if one of them is undefined. -/
def compare? : Extended → Extended → Option Ordering
  | .undefined, _ => none
  | _, .undefined => none
  | .finite a b e, .finite c d f =>
    let x := a * d
    let y := c * b
    some <|
      if 0 ≤ x ∧ 0 ≤ y then compareScaled x.natAbs e y.natAbs f
      else if x < 0 ∧ y < 0 then compareScaled y.natAbs f x.natAbs e
      else compare x y
  | .negInfinity, .negInfinity => some .eq
  | .posInfinity, .posInfinity => some .eq
  | .negInfinity, _ => some .lt
  | _, .negInfinity => some .gt
  | .posInfinity, _ => some .gt
  | _, .posInfinity => some .lt

end Extended

end ControlBreak
