import ControlBreak.Mark
import ControlBreak.Number.Rounding

/-!
# Binary floating point

Numbers of 53 significant bits, as exact data: a finite one is a significand
times a power of two, and each operation is the exact result brought to the
nearest representable number, a tie going to the even significand. No machine
arithmetic is involved, so that all of it can be evaluated and reasoned about.

A not-a-number carries a mark. Arithmetic never looks at marks, and what it
computes is new; they only tell whether two members of a container are one and
the same occurrence.
-/

namespace ControlBreak

/-- A binary floating-point number. The finite number is
    `significand * 2 ^ exponent`, negated if `negative`; `Binary64.round` makes
    significands below `2 ^ 53` with exponents from `-1074` to `971`, full
    (at least `2 ^ 52`) unless the exponent is the least one. -/
inductive Binary64
  | nan (mark : Mark)
  | infinity (negative : Bool)
  | finite (negative : Bool) (significand : Nat) (exponent : Int)
  deriving DecidableEq, Repr, Inhabited

namespace Binary64

/-- The least exponent, that of the smallest numbers. -/
def minExponent : Int := -1074

/-- The greatest exponent of a finite number. -/
def maxExponent : Int := 971

/-- A zero, with its sign. -/
def zero (negative : Bool) : Binary64 :=
  .finite negative 0 minExponent

/-- The greatest `k` with `2 ^ k ≤ num / den`, for positive `num` and `den`. -/
def binaryOrder (num den : Nat) : Int :=
  let k : Int := (num.log2 : Int) - (den.log2 : Int)
  if den * twoTo k ≤ num * twoTo (-k) then k else k - 1

/-- The number nearest to `num / den`, negated if `negative`: zeros keep their
    sign, and what is too large for a finite number becomes an infinity. -/
def round (negative : Bool) (num den : Nat) : Binary64 :=
  if num = 0 then zero negative
  else
    let e := max (binaryOrder num den - 52) minExponent
    let m := roundHalfEven (num * twoTo (-e)) (den * twoTo e)
    let (m, e) := if m = twoTo 53 then (twoTo 52, e + 1) else (m, e)
    if maxExponent < e then .infinity negative else .finite negative m e

/-- The number nearest to `digits * 10 ^ exponent`. Exponents far outside the
    range are not expanded. -/
def ofDecimal (negative : Bool) (digits : Nat) (exponent : Int) : Binary64 :=
  if digits = 0 then zero negative
  else
    let order := exponent + digitCount digits
    if 310 < order then .infinity negative
    else if order < -330 then zero negative
    else round negative (digits * tenTo exponent) (tenTo (-exponent))

/-- The number nearest to a quotient of integers, `none` if it is too large. -/
def ofQuotient? (num : Int) (den : Nat) : Option Binary64 :=
  match round (num < 0) num.natAbs den with
  | .infinity _ => none
  | x => some x

/-- The number nearest to an integer, `none` if it is too large. -/
def ofInt? (n : Int) : Option Binary64 :=
  ofQuotient? n 1

/-- The number nearest to a rational, `none` if it is too large. -/
def ofRat? (q : Rat) : Option Binary64 :=
  ofQuotient? q.num q.den

/-- The exact value of a finite number, as numerator and denominator. -/
def fraction (negative : Bool) (significand : Nat) (exponent : Int) : Int × Nat :=
  let n : Int := significand * twoTo exponent
  (if negative then -n else n, twoTo (-exponent))

/-- The exact value of a finite number. -/
def rat (negative : Bool) (significand : Nat) (exponent : Int) : Rat :=
  let (n, d) := fraction negative significand exponent
  mkRat n d

def isZero : Binary64 → Bool
  | .finite _ m _ => m == 0
  | _ => false

def neg : Binary64 → Binary64
  | .nan _ => .nan .fresh
  | .infinity s => .infinity (!s)
  | .finite s m e => .finite (!s) m e

def abs : Binary64 → Binary64
  | .nan _ => .nan .fresh
  | .infinity _ => .infinity false
  | .finite _ m e => .finite false m e

/-- The exact sum, rounded. A sum of zero is positive unless both parts are
    negative zeros. -/
def add : Binary64 → Binary64 → Binary64
  | .finite s m e, .finite t n f =>
    let (a, c) := fraction s m e
    let (b, d) := fraction t n f
    let sum := a * d + b * c
    if sum = 0 then zero (s && t) else round (sum < 0) sum.natAbs (c * d)
  | .infinity s, .infinity t => if s = t then .infinity s else .nan .fresh
  | .infinity s, .finite .. => .infinity s
  | .finite .., .infinity t => .infinity t
  | _, _ => .nan .fresh

def sub (x y : Binary64) : Binary64 :=
  add x (neg y)

def mul : Binary64 → Binary64 → Binary64
  | .finite s m e, .finite t n f =>
    round (s != t) (m * n * twoTo (e + f)) (twoTo (-(e + f)))
  | .infinity s, .infinity t => .infinity (s != t)
  | .infinity s, .finite t n _ => if n = 0 then .nan .fresh else .infinity (s != t)
  | .finite s m _, .infinity t => if m = 0 then .nan .fresh else .infinity (s != t)
  | _, _ => .nan .fresh

/-- The exact quotient, rounded. A zero divisor gives an infinity, or a
    not-a-number below a zero; callers refuse it beforehand. -/
def div : Binary64 → Binary64 → Binary64
  | .finite s m e, .finite t n f =>
    if n = 0 then (if m = 0 then .nan .fresh else .infinity (s != t))
    else round (s != t) (m * twoTo (e - f)) (n * twoTo (f - e))
  | .infinity _, .infinity _ => .nan .fresh
  | .infinity s, .finite t _ _ => .infinity (s != t)
  | .finite s _ _, .infinity t => zero (s != t)
  | _, _ => .nan .fresh

/-- Rounding to `places` decimal places (tens, hundreds, … when negative),
    exactly and half to even, then to the nearest representable number. Past
    the last place that a number can have nothing changes; before the first,
    what remains is a zero. -/
def roundPlaces (x : Binary64) (places : Int) : Binary64 :=
  match x with
  | .finite s m e =>
    if 323 < places then x
    else if places < -308 then zero s
    else
      let (n, d) := fraction s m e
      let r := roundHalfEven (n.natAbs * tenTo places) (d * tenTo (-places))
      round s (r * tenTo (-places)) (tenTo places)
  | .nan _ => .nan .fresh
  | .infinity s => .infinity s

end Binary64

end ControlBreak
