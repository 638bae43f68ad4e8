import ControlBreak.Text.CharName
import ControlBreak.Text.Digit
import ControlBreak.Text.Quoted

/-!
# Escapes in texts

Between its quotes, a text of a formula may hold escapes, which start with a
backslash:

* a quote, a backslash or one of the letters `a b f n r t v` after it, for that
  character or that control;
* up to three octal digits, for the character of that number;
* `x`, `u` or `U` with two, four or eight hexadecimal digits, for the character
  of that number; a number of no character gives the replacement character, and
  one beyond the last character is malformed;
* `N` with the name of a character in braces, for that character;
* an end of line, for nothing.

A backslash before anything else stands for itself, except that before a character
beyond the first 256 it turns that character into its escape by number.
-/

namespace ControlBreak

namespace Formula

/-- The character that a letter or a quote after a backslash stands for. -/
def simpleEscape? : Char → Option Char
  | '\\' => some '\\'
  | '\'' => some '\''
  | '"' => some '"'
  | 'a' => some '\x07'
  | 'b' => some '\x08'
  | 'f' => some '\x0c'
  | 'n' => some '\n'
  | 'r' => some '\r'
  | 't' => some '\t'
  | 'v' => some '\x0b'
  | _ => none

/-- Whether a character is an octal digit. -/
def isOctalDigit (c : Char) : Bool :=
  '0' ≤ c && c ≤ '7'

/-- The number that digits spell in a base. -/
def numberIn (base : Nat) (digits : List Nat) : Nat :=
  digits.foldl (fun n d => base * n + d) 0

/-- The character of a number; the replacement character if there is none. The numbers that
    are set aside for pairs are those of no character here, where the program's own texts
    keep each of them by itself: escapes of these numbers are read as the replacement
    character, and told apart no more. -/
def charOf (code : Nat) : Char :=
  if code.isValidChar then Char.ofNat code else '\uFFFD'

/-- The number of hexadecimal digits after a letter. -/
def hexWidth? : Char → Option Nat
  | 'x' => some 2
  | 'u' => some 4
  | 'U' => some 8
  | _ => none

/-- The character that `width` hexadecimal digits stand for. -/
def hexEscape? (width : Nat) (text : List Char) : Option Char :=
  let digits := (text.take width).filterMap hexValue?
  let code := numberIn 16 digits
  if digits.length = width ∧ code < 0x110000 then some (charOf code) else none

/-- The character whose name stands in braces before a text, and how many characters
    of the text belong to it. -/
def namedEscape? : List Char → Option (Char × Nat)
  | '\x7b' :: rest => do
    let name := rest.takeWhile (· ≠ '\x7d')
    if name.isEmpty ∨ name.length = rest.length then none
    else some (charOf (← codeNamed? name), name.length + 2)
  | _ => none

/-- What the escape before a text stands for, and how many characters of the text
    belong to it; `none` if the escape is malformed. -/
def readEscape? : List Char → Option (List Char × Nat)
  | [] => none
  | c :: rest =>
    match simpleEscape? c, hexWidth? c with
    | some r, _ => some ([r], 1)
    | none, some width => (hexEscape? width rest).map fun r => ([r], width + 1)
    | none, none =>
      if c = '\n' then some ([], 1)
      else if c = 'N' then (namedEscape? rest).map fun (r, taken) => ([r], taken + 1)
      else if isOctalDigit c then
        let digits := ((c :: rest).take 3).takeWhile isOctalDigit
        some ([charOf (numberIn 8 (digits.filterMap hexValue?))], digits.length)
      else if 0x100 ≤ c.toNat then some (numericEscape c.toNat, 1)
      else some (['\\', c], 1)

/-- The text that a written text stands for; `none` if an escape is malformed. -/
def unescape? : List Char → Option (List Char)
  | [] => some []
  | c :: rest =>
    if c = '\\' then
      match readEscape? rest with
      | some (chars, taken) => (unescape? (rest.drop taken)).map (chars ++ ·)
      | none => none
    else (unescape? rest).map (c :: ·)
  termination_by text => text.length
  decreasing_by all_goals (simp; try omega)

end Formula

end ControlBreak
