import ControlBreak.Number.Binary64
import ControlBreak.Number.Decimal
import ControlBreak.Text.Blank
import ControlBreak.Text.Digit

/-!
# Numerals

The written forms of numbers. Blanks around them do not count, and digits may be
those of any script. Between two digits may stand a low line, to group them; the
numerals of decimals take low lines anywhere.
-/

namespace ControlBreak

/-- A written decimal: `digits * 10 ^ exponent`, with its sign. -/
structure Numeral where
  negative : Bool
  digits : Nat
  exponent : Int
  deriving DecidableEq, Repr

namespace Numeral

/-- A text without the low lines that group its digits; none if there is another low
    line. The character before the text is given. -/
def ungrouped? (before : Char) : List Char → Option (List Char)
  | [] => some []
  | '_' :: d :: rest =>
    if before.isDigit && d.isDigit then (ungrouped? d rest).map (d :: ·) else none
  | c :: rest => if c = '_' then none else (ungrouped? c rest).map (c :: ·)

/-- A text with blanks and digits as in ASCII, without blanks around it. -/
def plain (text : List Char) : List Char :=
  trim isPlainBlank (text.map fun c =>
    if c.toNat < 128 then c else if isBlank c then ' ' else asciiDigit c)

/-- The value of a run of ASCII digits. -/
def natOf (digits : List Char) : Nat :=
  digits.foldl (fun n c => 10 * n + (c.toNat - '0'.toNat)) 0

/-- A nonempty run of ASCII digits as a number. -/
def nat? (digits : List Char) : Option Nat :=
  if !digits.isEmpty && digits.all Char.isDigit then some (natOf digits) else none

/-- A sign at the start of a text, and the rest. -/
def sign : List Char → Bool × List Char
  | '-' :: rest => (true, rest)
  | '+' :: rest => (false, rest)
  | text => (false, text)

/-- An integer with an optional sign, in ASCII. -/
def int? (text : List Char) : Option Int :=
  let (negative, digits) := sign text
  (nat? digits).map fun n => if negative then -(n : Int) else n

/-- A decimal with an optional sign, an optional point and an optional exponent, in
    ASCII. -/
def parse? (text : List Char) : Option Numeral :=
  let (negative, rest) := sign text
  let whole := rest.takeWhile Char.isDigit
  let rest := rest.dropWhile Char.isDigit
  let (places, rest) := match rest with
    | '.' :: r => (r.takeWhile Char.isDigit, r.dropWhile Char.isDigit)
    | r => ([], r)
  match nat? (whole ++ places) with
  | none => none
  | some digits =>
    match rest with
    | [] => some ⟨negative, digits, -(places.length : Int)⟩
    | e :: r =>
      if e = 'e' ∨ e = 'E' then
        (int? r).map fun exponent => ⟨negative, digits, exponent - places.length⟩
      else none

/-- Whether a text is a given word, in any case. -/
def isWord (word : String) (text : List Char) : Bool :=
  text.map Char.toLower == word.toList

end Numeral

/-- An integer as written. -/
def intParse? (s : String) : Option Int :=
  (Numeral.ungrouped? ' ' (Numeral.plain s.toList)).bind Numeral.int?

/-- A floating-point number as written; a not-a-number gets the mark. -/
def Binary64.parse? (mark : Mark) (s : String) : Option Binary64 := do
  let text ← Numeral.ungrouped? ' ' (Numeral.plain s.toList)
  let (negative, rest) := Numeral.sign text
  if Numeral.isWord "nan" rest then some (.nan mark)
  else if Numeral.isWord "inf" rest || Numeral.isWord "infinity" rest then
    some (.infinity negative)
  else (Numeral.parse? text).map fun n => .ofDecimal n.negative n.digits n.exponent

/-- The greatest exponent of a written decimal, as that of its first digit. -/
def Decimal.maxWritten : Int := 999999999999999999

/-- The least exponent of a written decimal, as that of its last digit. -/
def Decimal.minWritten : Int := -1999999999999999997

/-- A decimal as written; a not-a-number gets the mark. -/
def Decimal.parse? (mark : Mark) (s : String) : Option Decimal :=
  let text := ((trim isBlank s.toList).filter (· ≠ '_')).map asciiDigit
  let (negative, rest) := Numeral.sign text
  if Numeral.isWord "inf" rest || Numeral.isWord "infinity" rest then some (.infinity negative)
  else if Numeral.isWord "nan" (rest.take 3) && (rest.drop 3).all Char.isDigit then
    some (.nan negative false (Numeral.natOf (rest.drop 3)) mark)
  else if Numeral.isWord "snan" (rest.take 4) && (rest.drop 4).all Char.isDigit then
    some (.nan negative true (Numeral.natOf (rest.drop 4)) mark)
  else
    (Numeral.parse? text).bind fun n =>
      if minWritten ≤ n.exponent ∧ n.exponent + (natText n.digits).length - 1 ≤ maxWritten then
        some (.finite n.negative n.digits n.exponent)
      else none

/-- The numerator and the denominator of a rational as written: an integer, two with
    a stroke between them, or a decimal. The denominator may be zero. -/
def ratParts? (s : String) : Option (Int × Nat) := do
  let text ← Numeral.ungrouped? ' ' ((trim isBlank s.toList).map asciiDigit)
  let num := text.takeWhile (· ≠ '/')
  match text.drop num.length with
  | _ :: den => return (← Numeral.int? num, ← Numeral.nat? den)
  | [] =>
    let n ← Numeral.parse? text
    let m : Int := n.digits * tenTo n.exponent
    return (if n.negative then -m else m, tenTo (-n.exponent))

end ControlBreak
