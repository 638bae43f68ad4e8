/-!
# Rounding

Every inexact result of this library is an exact quotient brought to the
nearest point of a grid, a tie going to the even neighbour. Here is that one
step on natural numbers, and the count of decimal digits that places a grid.

* `roundHalfEven_mul`: a multiple of the divisor is its own quotient;
* `div_le_roundHalfEven`, `roundHalfEven_le`: rounding picks one of the two
  neighbours of the quotient.
-/

namespace ControlBreak

/-- Ten to a power; one if the exponent is negative. -/
def tenTo (exponent : Int) : Nat :=
  Nat.pow 10 exponent.toNat

/-- Two to a power; one if the exponent is negative. -/
def twoTo (exponent : Int) : Nat :=
  Nat.pow 2 exponent.toNat

/-- The natural number nearest to `num / den`, the even one of two equally
    near. (`den` is positive wherever it is used.) -/
def roundHalfEven (num den : Nat) : Nat :=
  let q := num / den
  let r := num % den
  if 2 * r < den then q
  else if den < 2 * r then q + 1
  else q + q % 2

theorem div_le_roundHalfEven (num den : Nat) : num / den ≤ roundHalfEven num den := by
  simp only [roundHalfEven]
  split
  · exact Nat.le_refl _
  · split <;> omega

theorem roundHalfEven_le (num den : Nat) : roundHalfEven num den ≤ num / den + 1 := by
  simp only [roundHalfEven]
  split
  · omega
  · split
    · exact Nat.le_refl _
    · have := Nat.mod_lt (num / den) (by decide : 0 < 2)
      omega

theorem roundHalfEven_mul (q : Nat) {den : Nat} (h : 0 < den) :
    roundHalfEven (q * den) den = q := by
  simp [roundHalfEven, Nat.mul_div_cancel _ h, h]

/-- Rounding of a quotient of integers, by magnitude: the sign is that of the
    quotient. -/
def roundHalfEvenInt (num : Int) (den : Nat) : Int :=
  if num < 0 then -(roundHalfEven num.natAbs den : Int) else (roundHalfEven num.natAbs den : Int)

/-- The decimal digits of `n`, most significant first. -/
def decimalDigits (n : Nat) : List Char :=
  Nat.toDigits 10 n

/-- How many decimal digits `n` has; zero has one. -/
def digitCount (n : Nat) : Nat :=
  (decimalDigits n).length

/-- The text of a natural number. -/
def natText (n : Nat) : String :=
  String.ofList (decimalDigits n)

/-- The text of an integer, with a sign only below zero. -/
def intText (n : Int) : String :=
  if n < 0 then "-" ++ natText n.natAbs else natText n.natAbs

/-- The text of a natural number, padded with zeros on the left to `width`. -/
def paddedText (width n : Nat) : String :=
  let digits := decimalDigits n
  String.ofList (List.replicate (width - digits.length) '0' ++ digits)

end ControlBreak
