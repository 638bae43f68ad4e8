import ControlBreak.Number.Binary64

/-!
# Shortest decimal text

A floating-point number is written with the fewest digits that read back as the
same number; of several such decimals with that many digits, the nearest one.
The search goes through the grids of 1, 2, … 17 digits and tests, on each, the
two neighbours of the exact value: if a point of a grid reads back, one of
these two does.
-/

namespace ControlBreak

namespace Binary64

/-- The `p` with `10 ^ (p - 1) ≤ num / den < 10 ^ p`, for positive `num` and
    `den`: the place of the leading digit, counted from the point. -/
def decimalOrder (num den : Nat) : Int :=
  if den ≤ num then digitCount (num / den)
  else
    let d := digitCount (den / num)
    if den = num * tenTo (d - 1) then 2 - (d : Int) else 1 - (d : Int)

/-- On the grid of `count` digits below the place `order`, the decimals next to
    `num / den` that read back as `x`: the nearer one, the even one of two
    equally near. -/
def onGrid? (x : Binary64) (num den : Nat) (order : Int) (count : Nat) : Option Nat :=
  let scale := order - count
  let n := num * tenTo (-scale)
  let d := den * tenTo scale
  let low := n / d
  let readsBack (digits : Nat) : Bool := ofDecimal false digits scale == x
  let nearest := roundHalfEven n d
  let other := if nearest = low then low + 1 else low
  if readsBack nearest then some nearest
  else if readsBack other then some other
  else none

/-- The first grid from `count` digits on, with at most `left` more, that has a
    decimal reading back as `x`; its digits and how many they are. -/
def searchGrids (x : Binary64) (num den : Nat) (order : Int) (count : Nat) : Nat → Nat × Nat
  | 0 => (roundHalfEven (num * tenTo (count - order)) (den * tenTo (order - count)), count)
  | left + 1 =>
    match onGrid? x num den order count with
    | some digits => (digits, count)
    | none => searchGrids x num den order (count + 1) left

/-- The shortest digits of a positive number and the place of their point: the
    number is near `0.digits * 10 ^ place`. -/
def shortest (significand : Nat) (exponent : Int) : List Char × Int :=
  let x := Binary64.finite false significand exponent
  let (n, den) := fraction false significand exponent
  let num := n.natAbs
  let order := decimalOrder num den
  let (digits, count) := searchGrids x num den order 1 16
  let text := decimalDigits digits
  (text, order + ((text.length : Int) - count))

end Binary64

/-- How digits and the place of the point are laid out as text. -/
structure NumberLayout where
  /-- The least leading exponent written without an exponent mark. -/
  minPositional : Int
  /-- The least leading exponent beyond these that is written with a mark. -/
  maxPositional : Int
  /-- What follows the digits of a whole number. -/
  wholeSuffix : String
  exponentMark : String
  /-- The least number of digits of an exponent. -/
  exponentWidth : Nat
  notANumber : String
  infinity : String

/-- Floating-point numbers are positional from `0.0001` to below `10 ^ 16`, show
    `.0` when whole, and write exponents with a sign and two digits. -/
def floatLayout : NumberLayout where
  minPositional := -4
  maxPositional := 16
  wholeSuffix := ".0"
  exponentMark := "e"
  exponentWidth := 2
  notANumber := "nan"
  infinity := "inf"

namespace NumberLayout

/-- Digits without the zeros at their end. -/
def trimZeros (digits : List Char) : List Char :=
  (digits.reverse.dropWhile (· == '0')).reverse

/-- The text of `0.digits * 10 ^ place`. -/
def lay (l : NumberLayout) (digits : List Char) (place : Int) : String :=
  let digits := trimZeros digits
  let leading := place - 1
  if leading < l.minPositional ∨ l.maxPositional ≤ leading then
    let mantissa := match digits with
      | [] => "0"
      | [c] => String.ofList [c]
      | c :: rest => String.ofList (c :: '.' :: rest)
    let sign := if leading < 0 then "-" else "+"
    mantissa ++ l.exponentMark ++ sign ++ paddedText l.exponentWidth leading.natAbs
  else if place ≤ 0 then
    "0." ++ String.ofList (List.replicate place.natAbs '0' ++ digits)
  else if digits.length ≤ place.toNat then
    String.ofList (digits ++ List.replicate (place.toNat - digits.length) '0') ++ l.wholeSuffix
  else
    String.ofList (digits.take place.toNat ++ '.' :: digits.drop place.toNat)

/-- The text of a floating-point number. -/
def text (l : NumberLayout) : Binary64 → String
  | .nan _ => l.notANumber
  | .infinity s => (if s then "-" else "") ++ l.infinity
  | .finite s m e =>
    let sign := if s then "-" else ""
    if m = 0 then sign ++ "0" ++ l.wholeSuffix
    else
      let (digits, place) := Binary64.shortest m e
      sign ++ l.lay digits place

end NumberLayout

/-- The text of a floating-point number in the layout of this library. -/
def Binary64.text (x : Binary64) : String :=
  floatLayout.text x

end ControlBreak
