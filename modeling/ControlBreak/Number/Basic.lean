import ControlBreak.Number.Shortest
import ControlBreak.Number.Decimal

/-!
# Numbers

The numbers of a record are integers, floating-point numbers, decimals or
fractions. Integers go with every kind and fractions with floats; decimals go
with neither fractions nor floats in arithmetic, though all kinds compare, by the
exact values they stand for.

* Arithmetic on integers and fractions is exact (`add_int`, `mul_frac`, …); only
  the quotient of two integers is a float, the one nearest to it.
* `equals` fails on signaling decimals only; `precedes`, the order, on every
  decimal that is not a number.
-/

namespace ControlBreak

/-- A number of one of four kinds. -/
inductive Number
  | int (n : Int)
  | float (x : Binary64)
  | dec (d : Decimal)
  | frac (q : Rat)
  deriving DecidableEq, Repr, Inhabited

/-- Why an operation on numbers has no result. -/
inductive NumberFault
  /-- The kinds of the numbers do not go together. -/
  | mixedKinds
  /-- The result, or an operand, is too large for a float. -/
  | tooLarge
  /-- A divisor is zero. -/
  | zeroDivisor
  /-- The operation is not defined on these decimals. -/
  | invalidDecimal
  /-- The result is too large for a decimal. -/
  | decimalTooLarge
  deriving DecidableEq, Repr

/-- The fault of an operation on decimals, as one on numbers. -/
def DecimalFault.toNumberFault : DecimalFault → NumberFault
  | .invalid => .invalidDecimal
  | .tooLarge => .decimalTooLarge

/-- The four operations of arithmetic. -/
inductive Arithmetic
  | add
  | sub
  | mul
  | div
  deriving DecidableEq, Repr, Inhabited

namespace Arithmetic

/-- The sign of an operation. -/
def symbol : Arithmetic → String
  | .add => "+"
  | .sub => "-"
  | .mul => "*"
  | .div => "/"

/-- The operation that a sign stands for. -/
def ofSymbol? (s : String) : Option Arithmetic :=
  if s = "+" then some .add
  else if s = "-" then some .sub
  else if s = "*" then some .mul
  else if s = "/" then some .div
  else none

theorem ofSymbol?_symbol (o : Arithmetic) : ofSymbol? o.symbol = some o := by
  cases o <;> decide

end Arithmetic

/-- The four relations of order. -/
inductive Comparison
  | lt
  | le
  | gt
  | ge
  deriving DecidableEq, Repr, Inhabited

namespace Comparison

/-- Whether the relation holds of two values that compare as `o`. -/
def holds : Comparison → Ordering → Bool
  | .lt, o => o == .lt
  | .le, o => o != .gt
  | .gt, o => o == .gt
  | .ge, o => o != .lt

end Comparison

namespace Number

/-- The exact value. -/
def extended : Number → Extended
  | .int n => .rational n
  | .float (.nan _) => .undefined
  | .float (.infinity s) => .infinity s
  | .float (.finite s m e) => .rational (Binary64.rat s m e)
  | .dec d => d.extended
  | .frac q => .rational q

def isDecimal : Number → Bool
  | .dec _ => true
  | _ => false

/-- Whether the number is a signaling decimal. -/
def isSignaling : Number → Bool
  | .dec d => d.isSignaling
  | _ => false

/-- Whether two numbers are equal in value. A number that is none equals nothing,
    and a signaling one refuses to be asked. -/
def equals (a b : Number) : Except NumberFault Bool :=
  if a.isSignaling || b.isSignaling then .error .invalidDecimal
  else .ok (a.extended.compare? b.extended == some .eq)

/-- Whether `a` stands in the relation to `b`. What is not a number precedes
    nothing, but among decimals it refuses to be compared. -/
def compares (c : Comparison) (a b : Number) : Except NumberFault Bool :=
  match a.extended.compare? b.extended with
  | some o => .ok (c.holds o)
  | none => if a.isDecimal || b.isDecimal then .error .invalidDecimal else .ok false

def isZero : Number → Bool
  | .int n => n == 0
  | .float x => x.isZero
  | .dec d => d.isZero
  | .frac q => q == 0

/-- The number as a float: exactly the nearest one, if there is one. -/
def toFloat? : Number → Except NumberFault Binary64
  | .int n => (Binary64.ofInt? n).elim (.error .tooLarge) .ok
  | .float x => .ok x
  | .dec _ => .error .mixedKinds
  | .frac q => (Binary64.ofRat? q).elim (.error .tooLarge) .ok

/-- The number as a decimal, which only integers and decimals are. -/
def toDecimal? : Number → Except NumberFault Decimal
  | .int n => .ok (.ofInt n)
  | .dec d => .ok d
  | _ => .error .mixedKinds

/-- An operation on integers. A quotient is a float, a zero one with the sign of
    the division. -/
def applyInt (o : Arithmetic) (a b : Int) : Except NumberFault Number :=
  match o with
  | .add => .ok (.int (a + b))
  | .sub => .ok (.int (a - b))
  | .mul => .ok (.int (a * b))
  | .div =>
    if b = 0 then .error .zeroDivisor
    else match Binary64.round ((a < 0) != (b < 0)) a.natAbs b.natAbs with
      | .infinity _ => .error .tooLarge
      | x => .ok (.float x)

/-- An operation on fractions, exact. -/
def applyFrac (o : Arithmetic) (p q : Rat) : Except NumberFault Number :=
  match o with
  | .add => .ok (.frac (p + q))
  | .sub => .ok (.frac (p - q))
  | .mul => .ok (.frac (p * q))
  | .div => if q = 0 then .error .zeroDivisor else .ok (.frac (p / q))

/-- An operation on floats. -/
def applyFloat (o : Arithmetic) (x y : Binary64) : Except NumberFault Number :=
  match o with
  | .add => .ok (.float (x.add y))
  | .sub => .ok (.float (x.sub y))
  | .mul => .ok (.float (x.mul y))
  | .div => if y.isZero then .error .zeroDivisor else .ok (.float (x.div y))

/-- An operation on decimals. -/
def applyDecimal (o : Arithmetic) (a b : Decimal) : Except NumberFault Number :=
  let result := match o with
    | .add => a.add b
    | .sub => a.sub b
    | .mul => a.mul b
    | .div => a.div b
  match result with
  | .ok d => .ok (.dec d)
  | .error f => .error f.toNumberFault

/-- The rational that an integer or a fraction is. -/
def rat? : Number → Option Rat
  | .int n => some n
  | .frac q => some q
  | _ => none

/-- An operation on two numbers of any kinds: in the integers, else in the
    fractions, else in the decimals if one operand is a decimal, and else in the
    floats. -/
def apply (o : Arithmetic) (a b : Number) : Except NumberFault Number :=
  match a, b with
  | .int m, .int n => applyInt o m n
  | .int m, .frac q => applyFrac o m q
  | .frac p, .int n => applyFrac o p n
  | .frac p, .frac q => applyFrac o p q
  | _, _ =>
    if a.isDecimal || b.isDecimal then do
      let x ← a.toDecimal?
      let y ← b.toDecimal?
      applyDecimal o x y
    else do
      let x ← a.toFloat?
      let y ← b.toFloat?
      applyFloat o x y

/-- The magnitude, of the same kind. -/
def abs : Number → Except NumberFault Number
  | .int n => .ok (.int n.natAbs)
  | .float x => .ok (.float x.abs)
  | .frac q => .ok (.frac (if q < 0 then -q else q))
  | .dec d => match d.abs with
    | .ok r => .ok (.dec r)
    | .error f => .error f.toNumberFault

/-- Rounding of an integer to tens, hundreds, … for negative `places`. Beyond the
    length of the number nothing is left of it. -/
def roundInt (n places : Int) : Int :=
  if 0 ≤ places then n
  else if (digitCount n.natAbs : Int) < -places then 0
  else
    let unit : Nat := tenTo (-places)
    roundHalfEvenInt n unit * unit

/-- Rounding of a fraction to `places` decimal places. -/
def roundRat (q : Rat) (places : Int) : Rat :=
  if 0 ≤ places then
    let unit : Nat := tenTo places
    mkRat (roundHalfEvenInt (q.num * unit) q.den) unit
  else
    let unit : Nat := tenTo (-places)
    (roundHalfEvenInt q.num (q.den * unit) * unit : Int)

/-- The greatest number of places that decimals can be asked for. -/
def maxPlaces : Int := 9223372036854775807

/-- Rounding to `places` decimal places, half to even; the number keeps its
    kind. -/
def round (n : Number) (places : Int) : Except NumberFault Number :=
  match n with
  | .int n => .ok (.int (roundInt n places))
  | .frac q => .ok (.frac (roundRat q places))
  | .float x =>
    match x, x.roundPlaces places with
    | .finite .., .infinity _ => .error .tooLarge
    | _, y => .ok (.float y)
  | .dec d =>
    if maxPlaces < places ∨ places < -maxPlaces - 1 then .error .tooLarge
    else match d.roundPlaces places with
      | .ok r => .ok (.dec r)
      | .error f => .error f.toNumberFault

/-- The text of a fraction: a whole one is written as an integer. -/
def ratText (q : Rat) : String :=
  if q.den = 1 then intText q.num else intText q.num ++ "/" ++ natText q.den

/-- The text of a number for people. -/
def text : Number → String
  | .int n => intText n
  | .float x => x.text
  | .dec d => d.text
  | .frac q => ratText q

/-- The text of a number that tells its kind. -/
def describe : Number → String
  | .int n => intText n
  | .float x => x.text
  | .dec d => "Decimal('" ++ d.text ++ "')"
  | .frac q => "Fraction(" ++ intText q.num ++ ", " ++ natText q.den ++ ")"

end Number

end ControlBreak
