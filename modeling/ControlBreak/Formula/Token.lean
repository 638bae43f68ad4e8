import ControlBreak.Value.Text

/-!
# Tokens of formulas

A formula is a sequence of numbers, texts, names, keywords and signs, with blanks
between them. Keywords are recognised in any case; a name in backticks may be
any text, a keyword or a sign included.
-/

namespace ControlBreak

namespace Formula

/-- The signs of a formula: operators and punctuation. -/
inductive Sign
  | comma
  | dot
  | openParen
  | closeParen
  | plus
  | minus
  | star
  | slash
  | eq
  | ne
  | lt
  | le
  | gt
  | ge
  deriving DecidableEq, Repr, Inhabited

namespace Sign

/-- The characters of a sign. -/
def chars : Sign → List Char
  | .comma => [',']
  | .dot => ['.']
  | .openParen => ['(']
  | .closeParen => [')']
  | .plus => ['+']
  | .minus => ['-']
  | .star => ['*']
  | .slash => ['/']
  | .eq => ['=', '=']
  | .ne => ['!', '=']
  | .lt => ['<']
  | .le => ['<', '=']
  | .gt => ['>']
  | .ge => ['>', '=']

/-- The signs, those of two characters first, so that the first one that a text
    starts with is the longest. -/
def all : List Sign := [
  .eq, .ne, .le, .ge, .comma, .dot, .openParen, .closeParen, .plus, .minus, .star, .slash, .lt, .gt]

theorem mem_all (s : Sign) : s ∈ all := by
  cases s <;> decide

/-- The word for the kind of a sign. -/
def kind : Sign → String
  | .comma => "COMMA"
  | .dot => "DOT"
  | .openParen => "LPAREN"
  | .closeParen => "RPAREN"
  | .plus => "PLUS"
  | .minus => "MINUS"
  | .star => "STAR"
  | .slash => "SLASH"
  | .eq => "EQ"
  | .ne => "NEQ"
  | .lt => "LT"
  | .le => "LTE"
  | .gt => "GT"
  | .ge => "GTE"

end Sign

/-- The words of a formula that are no names. -/
inductive Keyword
  | and
  | or
  | not
  | true
  | false
  | nil
  deriving DecidableEq, Repr, Inhabited

namespace Keyword

/-- The spellings of the keywords, in small letters. -/
def spellings : List (List Char × Keyword) := [
  (['a', 'n', 'd'], .and),
  (['o', 'r'], .or),
  (['n', 'o', 't'], .not),
  (['t', 'r', 'u', 'e'], .true),
  (['f', 'a', 'l', 's', 'e'], .false),
  (['n', 'i', 'l'], .nil),
  (['n', 'u', 'l', 'l'], .nil)]

/-- The keyword that a word is, in any case. -/
def ofWord? (word : List Char) : Option Keyword :=
  (spellings.find? fun s => s.1 == word.map Char.toLower).map (·.2)

/-- The word for the kind of a keyword. -/
def kind : Keyword → String
  | .and => "AND"
  | .or => "OR"
  | .not => "NOT"
  | .true => "TRUE"
  | .false => "FALSE"
  | .nil => "NIL"

end Keyword

/-- What a token is. -/
inductive Lexeme
  | float (x : Binary64)
  | integer (n : Nat)
  | text (s : String)
  | name (s : String)
  | keyword (k : Keyword) (spelling : String)
  | sign (s : Sign)
  deriving DecidableEq, Repr, Inhabited

namespace Lexeme

/-- The word for the kind of a token. -/
def kind : Lexeme → String
  | .float _ => "FLOAT"
  | .integer _ => "INTEGER"
  | .text _ => "STRING"
  | .name _ => "IDENTIFIER"
  | .keyword k _ => k.kind
  | .sign s => s.kind

/-- The value that a token carries: a number, or a text. -/
def value : Lexeme → Value
  | .float x => .num (.float x)
  | .integer n => .int n
  | .text s => .str s
  | .name s => .str s
  | .keyword _ spelling => .str spelling
  | .sign s => .str (String.ofList s.chars)

end Lexeme

/-- A token at its place: the number of characters before it, and its own. -/
structure Token where
  lexeme : Lexeme
  position : Nat
  width : Nat
  deriving DecidableEq, Repr, Inhabited

end Formula

end ControlBreak
