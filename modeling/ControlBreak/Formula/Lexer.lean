import ControlBreak.Formula.Escape
import ControlBreak.Formula.Token
import ControlBreak.Number.Binary64
import ControlBreak.Text.Digit

/-!
# Splitting a formula into tokens

At each place the first of these that fits is taken: digits with a point and
digits, digits alone, a text in quotes, a name in backticks, a word, the longest
sign. Digits may be those of any script, words are made of letters of ASCII.
Blanks, tabs and ends of lines are passed over; where nothing fits, the formula
ends with an illegal character. A text with a malformed escape ends it too, and so do
digits alone that are too many for a number.

The tokens before such an end are kept, so that a reader of the formula meets the
end only after them.
-/

namespace ControlBreak

namespace Formula

/-- How the tokens of a text end. -/
inductive Ending
  | complete
  | illegal (c : Char) (position : Nat)
  | malformed (position : Nat)
  | oversized (digits position : Nat)
  deriving DecidableEq, Repr, Inhabited

/-- What a text starts with. -/
inductive Scan
  | lexeme (l : Lexeme) (width : Nat)
  /-- A text in quotes with a malformed escape. -/
  | malformed
  /-- Digits alone, too many for a number. -/
  | oversized (digits : Nat)
  | illegal
  deriving DecidableEq, Repr, Inhabited

/-- Whether a character is passed over. -/
def isSkipped (c : Char) : Bool :=
  c == ' ' || c == '\t' || c == '\r' || c == '\n'

/-- Whether a word can start with a character. -/
def isWordStart (c : Char) : Bool :=
  c.isAlpha || c == '_'

/-- Whether a word can go on with a character. -/
def isWordChar (c : Char) : Bool :=
  c.isAlphanum || c == '_'

/-- The number of characters before the closing quote. After a backslash, any
    character but an end of line belongs to the text. -/
def quotedLength? (quote : Char) : List Char → Option Nat
  | [] => none
  | '\\' :: c :: rest => if c = '\n' then none else (quotedLength? quote rest).map (· + 2)
  | c :: rest =>
    if c = quote then some 0
    else if c = '\\' then none
    else (quotedLength? quote rest).map (· + 1)

/-- The largest number of digits that a number without a point is read from. Zeros at the
    front count. -/
def integerDigitLimit : Nat := 4300

/-- The number that a text starts with. -/
def scanNumber (cs : List Char) : Scan :=
  let whole := cs.takeWhile isDecimalDigit
  let rest := cs.dropWhile isDecimalDigit
  let places := match rest with
    | '.' :: rest => rest.takeWhile isDecimalDigit
    | _ => []
  if places.isEmpty then
    if whole.length ≤ integerDigitLimit then .lexeme (.integer (digitsValue whole)) whole.length
    else .oversized whole.length
  else
    .lexeme (.float (.ofDecimal false (digitsValue (whole ++ places)) (-(places.length : Int))))
      (whole.length + 1 + places.length)

/-- The text in quotes that a text starts with, `quote` being its first character. -/
def scanText (quote : Char) (rest : List Char) : Scan :=
  match quotedLength? quote rest with
  | none => .illegal
  | some n =>
    match unescape? (rest.take n) with
    | some chars => .lexeme (.text (String.ofList chars)) (n + 2)
    | none => .malformed

/-- The quote of names. -/
def backtick : Char := '\x60'

/-- The name in backticks that a text starts with, after the first backtick. -/
def scanTicked (rest : List Char) : Scan :=
  let name := rest.takeWhile (· != backtick)
  if name.isEmpty || name.length == rest.length then .illegal
  else .lexeme (.name (String.ofList name)) (name.length + 2)

/-- The word that a text starts with. -/
def scanWord (cs : List Char) : Scan :=
  let word := cs.takeWhile isWordChar
  match Keyword.ofWord? word with
  | some k => .lexeme (.keyword k (String.ofList word)) word.length
  | none => .lexeme (.name (String.ofList word)) word.length

/-- The sign that a text starts with. -/
def scanSign (cs : List Char) : Scan :=
  match Sign.all.find? fun s => s.chars.isPrefixOf cs with
  | some s => .lexeme (.sign s) s.chars.length
  | none => .illegal

/-- What a text starts with. -/
def scan : List Char → Scan
  | [] => .illegal
  | c :: rest =>
    if isDecimalDigit c then scanNumber (c :: rest)
    else if c = '"' ∨ c = '\'' then scanText c rest
    else if c = backtick then scanTicked rest
    else if isWordStart c then scanWord (c :: rest)
    else scanSign (c :: rest)

/-- The tokens of a text that has `position` characters before it, and how they
    end. A token has at least one character. -/
def tokensFrom (position : Nat) : List Char → List Token × Ending
  | [] => ([], .complete)
  | c :: rest =>
    if isSkipped c then tokensFrom (position + 1) rest
    else
      match scan (c :: rest) with
      | .lexeme l width =>
        let (tokens, ending) := tokensFrom (position + width) (rest.drop (width - 1))
        (⟨l, position, width⟩ :: tokens, ending)
      | .malformed => ([], .malformed position)
      | .oversized digits => ([], .oversized digits position)
      | .illegal => ([], .illegal c position)
  termination_by text => text.length
  decreasing_by all_goals (simp; try omega)

/-- The tokens of a formula, and how they end. -/
def tokens (text : String) : List Token × Ending :=
  tokensFrom 0 text.toList

end Formula

end ControlBreak
