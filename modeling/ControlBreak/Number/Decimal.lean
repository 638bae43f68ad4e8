import ControlBreak.Mark
import ControlBreak.Number.Rounding
import ControlBreak.Number.Extended

/-!
# Decimal numbers

Decimals keep the digits they were written with: `1.50` and `1.5` are equal and
yet two numbers, with coefficients `150` and `15`. A decimal of any length can
be given; the result of an operation is brought to 28 digits, a tie going to
the even digit, and has to fit the range of exponents. What has no result is a
`DecimalFault`.
-/

namespace ControlBreak

/-- A decimal number; the finite one is `coefficient * 10 ^ exponent`, negated
    if `negative`. A not-a-number may be *signaling*: then every operation on it
    fails. Marks are those of `Binary64.nan`. -/
inductive Decimal
  | nan (negative signaling : Bool) (payload : Nat) (mark : Mark)
  | infinity (negative : Bool)
  | finite (negative : Bool) (coefficient : Nat) (exponent : Int)
  deriving DecidableEq, Repr, Inhabited

/-- Why an operation on decimals has no result. -/
inductive DecimalFault
  | invalid
  | tooLarge
  deriving DecidableEq, Repr

namespace Decimal

/-- The digits that a result keeps. -/
def precision : Nat := 28

/-- The greatest leading exponent of a result. -/
def maxExponent : Int := 999999

/-- The least exponent of a result, that of its last digit. -/
def minExponent : Int := -1000026

/-- The exponent of the leading digit. -/
def leadingExponent (coefficient : Nat) (exponent : Int) : Int :=
  exponent + digitCount coefficient - 1

/-- Dropping the last `count` digits, with rounding. -/
def dropDigits (coefficient count : Nat) : Nat :=
  if digitCount coefficient < count then 0 else roundHalfEven coefficient (tenTo count)

/-- A result brought to the precision and the range of exponents. -/
def fit (negative : Bool) (coefficient : Nat) (exponent : Int) : Except DecimalFault Decimal :=
  if coefficient = 0 then
    .ok (.finite negative 0 (min (max exponent minExponent) maxExponent))
  else
    let surplus := max (digitCount coefficient - precision) (minExponent - exponent).toNat
    let c := dropDigits coefficient surplus
    let e := exponent + surplus
    let (c, e) := if precision < digitCount c then (c / 10, e + 1) else (c, e)
    if maxExponent < leadingExponent c e then .error .tooLarge else .ok (.finite negative c e)

/-- A quiet not-a-number as the result of an operation. -/
def quiet (negative : Bool) (payload : Nat) : Decimal :=
  .nan negative false (payload % tenTo precision) .fresh

/-- What an operation on `a` and `b` gives if one of them is not a number: the
    first such operand, unless one is signaling. -/
def undefined? : Decimal → Decimal → Option (Except DecimalFault Decimal)
  | .nan _ true _ _, _ => some (.error .invalid)
  | _, .nan _ true _ _ => some (.error .invalid)
  | .nan s false p _, _ => some (.ok (quiet s p))
  | _, .nan s false p _ => some (.ok (quiet s p))
  | _, _ => none

/-- A finite decimal as an integer, over the power of ten with exponent `scale`. -/
def scaled (negative : Bool) (coefficient : Nat) (exponent scale : Int) : Int :=
  let n : Int := if coefficient = 0 then 0 else coefficient * tenTo (exponent - scale)
  if negative then -n else n

/-- What to add to `c * 10 ^ e` in place of `d * 10 ^ f`, where `f ≤ e`. A part
    that is far below the digits that the sum keeps is brought near: it counts
    only by not being zero. -/
def nearby (c : Nat) (e : Int) (d : Nat) (f : Int) : Nat × Int :=
  let least := e + min (-1) ((digitCount c : Int) - precision - 2)
  if c = 0 then (d, f)
  else if d = 0 then (0, max f (e - precision - 1))
  else if leadingExponent d f < least then (1, least)
  else (d, f)

def neg : Decimal → Decimal
  | .nan s g p m => .nan (!s) g p m
  | .infinity s => .infinity (!s)
  | .finite s c e => .finite (!s) c e

/-- The sum, with the smaller exponent if it fits. A sum of zero is positive
    unless both parts are negative zeros. -/
def add (a b : Decimal) : Except DecimalFault Decimal :=
  match undefined? a b with
  | some r => r
  | none =>
    match a, b with
    | .finite s c e, .finite t d f =>
      let (c, e) := if e < f then nearby d f c e else (c, e)
      let (d, f) := if f < e then nearby c e d f else (d, f)
      let scale := min e f
      let sum := scaled s c e scale + scaled t d f scale
      fit (if sum = 0 then s && t else sum < 0) sum.natAbs scale
    | .infinity s, .infinity t => if s = t then .ok (.infinity s) else .error .invalid
    | .infinity s, _ => .ok (.infinity s)
    | _, x => .ok x

/-- The difference. -/
def sub (a b : Decimal) : Except DecimalFault Decimal :=
  match undefined? a b with
  | some r => r
  | none => add a (neg b)

/-- The product, its exponent the sum of the exponents if it fits. -/
def mul (a b : Decimal) : Except DecimalFault Decimal :=
  match undefined? a b with
  | some r => r
  | none =>
    match a, b with
    | .finite s c e, .finite t d f => fit (s != t) (c * d) (e + f)
    | .infinity s, .finite t c _ => if c = 0 then .error .invalid else .ok (.infinity (s != t))
    | .finite s c _, .infinity t => if c = 0 then .error .invalid else .ok (.infinity (s != t))
    | .infinity s, .infinity t => .ok (.infinity (s != t))
    | x, _ => .ok x

/-- Takes zeros off the end of `coefficient`, raising its exponent no further
    than `ideal`. -/
def trimTo (ideal : Int) (coefficient : Nat) (exponent : Int) : Nat → Nat × Int
  | 0 => (coefficient, exponent)
  | left + 1 =>
    if exponent < ideal ∧ coefficient % 10 = 0 then
      trimTo ideal (coefficient / 10) (exponent + 1) left
    else (coefficient, exponent)

/-- The quotient: exact, with the exponent nearest to the difference of the
    exponents, if it has few enough digits, and else rounded. The divisor is not
    zero wherever it is used. -/
def div (a b : Decimal) : Except DecimalFault Decimal :=
  match undefined? a b with
  | some r => r
  | none =>
    match a, b with
    | .finite s c e, .finite t d f =>
      if d = 0 then .error .invalid
      else if c = 0 then fit (s != t) 0 (e - f)
      else
        let shift : Int := (digitCount d : Int) - digitCount c + precision + 1
        let num := c * tenTo shift
        let den := d * tenTo (-shift)
        let q := num / den
        let exponent := e - f - shift
        if num % den = 0 then
          let (q, exponent) := trimTo (e - f) q exponent (digitCount q)
          fit (s != t) q exponent
        else
          -- A digit below the quotient keeps the rest from looking like a tie.
          fit (s != t) (if q % 5 = 0 then q + 1 else q) exponent
    | .infinity _, .infinity _ => .error .invalid
    | .infinity s, .finite t _ _ => .ok (.infinity (s != t))
    | .finite s _ _, .infinity t => .ok (.finite (s != t) 0 minExponent)
    | x, _ => .ok x

/-- The magnitude, brought to the precision. -/
def abs : Decimal → Except DecimalFault Decimal
  | .nan _ true _ _ => .error .invalid
  | .nan s false p _ => .ok (quiet s p)
  | .infinity _ => .ok (.infinity false)
  | .finite _ c e => fit false c e

/-- Rounding to `places` decimal places: the result has just these places, if
    they fit. -/
def roundPlaces (x : Decimal) (places : Int) : Except DecimalFault Decimal :=
  match x with
  | .nan _ true _ _ => .error .invalid
  | .nan s false p _ => .ok (quiet s p)
  | .infinity _ => .error .invalid
  | .finite s c e =>
    let target := -places
    if maxExponent < target ∨ target < minExponent then .error .invalid
    else if c = 0 then .ok (.finite s 0 target)
    else if (precision : Int) < digitCount c + (e - target) then .error .invalid
    else
      let c := if target ≤ e then c * tenTo (e - target) else dropDigits c (target - e).toNat
      if precision < digitCount c ∨ maxExponent < leadingExponent c target then .error .invalid
      else .ok (.finite s c target)

/-- A whole number as a decimal. -/
def ofInt (n : Int) : Decimal :=
  .finite (n < 0) n.natAbs 0

def isZero : Decimal → Bool
  | .finite _ c _ => c == 0
  | _ => false

def isSignaling : Decimal → Bool
  | .nan _ true _ _ => true
  | _ => false

def isNaN : Decimal → Bool
  | .nan .. => true
  | _ => false

/-- The exact value. -/
def extended : Decimal → Extended
  | .nan .. => .undefined
  | .infinity s => .infinity s
  | .finite s c e =>
    .finite (if s then -c else c) 1 e

/-- The text of a decimal: positional unless that would need zeros that are not
    digits of it after the last digit, or more than five of them before the
    first. -/
def text : Decimal → String
  | .nan s g p _ =>
    (if s then "-" else "") ++ (if g then "sNaN" else "NaN") ++ (if p = 0 then "" else natText p)
  | .infinity s => (if s then "-" else "") ++ "Infinity"
  | .finite s c e =>
    let digits := decimalDigits c
    let left := e + digits.length
    let place := if e ≤ 0 ∧ -6 < left then left else 1
    let body :=
      if place ≤ 0 then '0' :: '.' :: (List.replicate place.natAbs '0' ++ digits)
      else if digits.length ≤ place.toNat then
        digits ++ List.replicate (place.toNat - digits.length) '0'
      else digits.take place.toNat ++ '.' :: digits.drop place.toNat
    let mark := if left = place then ""
      else "E" ++ (if left < place then "-" else "+") ++ natText (left - place).natAbs
    (if s then "-" else "") ++ String.ofList body ++ mark

end Decimal

end ControlBreak
