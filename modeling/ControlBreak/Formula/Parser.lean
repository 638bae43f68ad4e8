import ControlBreak.Formula.Lexer
import ControlBreak.Formula.Tree
import ControlBreak.Text.Blank

/-!
# From tokens to expressions

A formula is read token by token by a machine with a stack. The stack holds what
waits for an operand to its right: an operator with its left operand, a sign or a
`not` before an operand, an open parenthesis, a call with its arguments so far.
When an operator comes, all that binds tighter is completed first; operators that
bind alike are completed from the left, but a comparison does not stand next to
another.

The machine stops at the first token with which no formula can go on. What it makes
is the tree of the formula, and the expression is read off that.
-/

namespace ControlBreak

namespace Formula

/-- What waits for an operand. -/
inductive Frame
  | operator (op : BinaryOp) (left : Tree)
  | not (spelling : String)
  | negation
  | group
  | call (name : String) (args : List Tree)
  deriving Inhabited, Repr

/-- What may come next. -/
inductive Phase
  /-- An operand has to start. -/
  | operand
  /-- A name was read: a point, an open parenthesis or what follows an operand. -/
  | named (name : String)
  /-- The parenthesis of a call was opened: it is closed or an operand starts. -/
  | opened (name : String)
  /-- A point was read after these names: another one has to follow. -/
  | dotted (first : String) (between : List String)
  /-- A path was read: a point or what follows an operand. -/
  | path (first : String) (between : List String) (last : String)
  /-- An operand was read: what follows one. -/
  | value (t : Tree)
  deriving Inhabited, Repr

/-- A formula read in part. -/
structure Reading where
  stack : List Frame
  phase : Phase
  deriving Inhabited, Repr

/-- Completes what binds tighter than `binding`, or alike from the left; `none` if
    a comparison would stand next to another. -/
def settle (binding : Binding) : List Frame → Tree → Option (List Frame × Tree)
  | .operator op left :: stack, t =>
    if op.binding.level < binding.level then some (.operator op left :: stack, t)
    else if op.binding = .comparison ∧ binding = .comparison then none
    else settle binding stack (.binary op left t)
  | .not spelling :: stack, t =>
    if Binding.not.level < binding.level then some (.not spelling :: stack, t)
    else settle binding stack (.not spelling t)
  | .negation :: stack, t => settle binding stack (.negation t)
  | stack, t => some (stack, t)

namespace Reading

/-- Nothing read yet. -/
def start : Reading := ⟨[], .operand⟩

/-- Reads the token that an operand starts with. -/
def beginOperand (stack : List Frame) (l : Lexeme) : Option Reading :=
  match l.constant?, l with
  | some c, _ => some ⟨stack, .value (.constant c)⟩
  | none, .name s => some ⟨stack, .named s⟩
  | none, .keyword .not spelling => some ⟨.not spelling :: stack, .operand⟩
  | none, .sign .minus => some ⟨.negation :: stack, .operand⟩
  | none, .sign .openParen => some ⟨.group :: stack, .operand⟩
  | none, _ => none

/-- Reads the token after the operand `t`. -/
def afterOperand (stack : List Frame) (t : Tree) (l : Lexeme) : Option Reading :=
  match l.binary? with
  | some op =>
    (settle op.binding stack t).map fun (stack, t) => ⟨.operator op t :: stack, .operand⟩
  | none =>
    match l, settle .closing stack t with
    | .sign .comma, some (.call name args :: stack, t) =>
      some ⟨.call name (args ++ [t]) :: stack, .operand⟩
    | .sign .closeParen, some (.call name args :: stack, t) =>
      some ⟨stack, .value (.call name (args ++ [t]))⟩
    | .sign .closeParen, some (.group :: stack, t) => some ⟨stack, .value (.group t)⟩
    | _, _ => none

/-- Reads one token; `none` if no formula goes on with it. -/
def step (r : Reading) (l : Lexeme) : Option Reading :=
  match r.phase, l with
  | .operand, l => beginOperand r.stack l
  | .named name, .sign .dot => some ⟨r.stack, .dotted name []⟩
  | .named name, .sign .openParen => some ⟨r.stack, .opened name⟩
  | .named name, l => afterOperand r.stack (.field name) l
  | .opened name, .sign .closeParen => some ⟨r.stack, .value (.call name [])⟩
  | .opened name, l => beginOperand (.call name [] :: r.stack) l
  | .dotted first between, .name s => some ⟨r.stack, .path first between s⟩
  | .dotted .., _ => none
  | .path first between last, .sign .dot => some ⟨r.stack, .dotted first (between ++ [last])⟩
  | .path first between last, l => afterOperand r.stack (.path first between last) l
  | .value t, l => afterOperand r.stack t l

/-- The operand just read. -/
def operand? (r : Reading) : Option Tree :=
  match r.phase with
  | .named name => some (.field name)
  | .path first between last => some (.path first between last)
  | .value t => some t
  | _ => none

/-- The formula read, if it can end here. -/
def finish (r : Reading) : Option Tree :=
  match r.operand?.bind (settle .closing r.stack) with
  | some ([], t) => some t
  | _ => none

end Reading

/-- Why a text is no formula. -/
inductive ParseError
  | empty
  | illegal (c : Char) (position : Nat)
  | unexpected (token : Token)
  | unexpectedEnd
  /-- An escape in a text is malformed. -/
  | malformedEscape
  /-- A number without a point has too many digits. -/
  | oversized (digits : Nat)
  deriving DecidableEq, Repr, Inhabited

namespace ParseError

/-- The error that the end of the tokens is. -/
def ofEnding? : Ending → Option ParseError
  | .complete => none
  | .illegal c position => some (.illegal c position)
  | .malformed _ => some .malformedEscape
  | .oversized digits _ => some (.oversized digits)

/-- The message of a number with too many digits. -/
def oversizedMessage (digits : Nat) : String :=
  "Exceeds the limit (" ++ natText integerDigitLimit ++
    " digits) for integer string conversion: value has " ++ natText digits ++
    " digits; use sys.set_int_max_str_digits() to increase the limit"

/-- The fault of an error of syntax. -/
def syntaxFault (message : String) : Fault :=
  .raised "SyntaxError" [.str message]

/-- The fault that an error is where a value is made from a formula. A malformed escape
    is a fault of the decoding of texts, and a number with too many digits one of the
    making of numbers; all others are errors of syntax. -/
def toFault : ParseError → Fault
  | .empty => syntaxFault "Empty formula"
  | .illegal c position => syntaxFault
    ("Illegal character '" ++ String.singleton c ++ "' at position " ++ natText position)
  | .unexpected t => syntaxFault
    ("Syntax error at '" ++ t.lexeme.value.text ++ "' (position " ++ natText t.position ++ ")")
  | .unexpectedEnd => syntaxFault "Syntax error at end of input"
  | .malformedEscape => .undecodable
  | .oversized digits => .badValue (oversizedMessage digits)

end ParseError

/-- The reading after more tokens. -/
def readTokens (r : Reading) : List Token → Except ParseError Reading
  | [] => .ok r
  | t :: rest =>
    match r.step t.lexeme with
    | some r => readTokens r rest
    | none => .error (.unexpected t)

/-- The tokens of a text, unless they end early. -/
def tokenize (text : String) : Except ParseError (List Token) :=
  let (tokens, ending) := tokens text
  match ParseError.ofEnding? ending with
  | none => .ok tokens
  | some e => .error e

/-- The expression that a formula stands for. -/
def parse (text : String) : Except ParseError Value := do
  if allBlank text then .error .empty
  else
    let (tokens, ending) := tokens text
    let r ← readTokens .start tokens
    match ParseError.ofEnding? ending with
    | some e => .error e
    | none => r.finish.elim (.error .unexpectedEnd) fun t => .ok t.value

end Formula

end ControlBreak
