import ControlBreak.Expression
import ControlBreak.Formula.Token

/-!
# Trees of formulas

A formula is made by the rules of a grammar: an expression is a constant, a field, a
path of names with points between them, a call with its arguments, an expression in
parentheses, a negation, a `not`, or an operator between two expressions. A tree says
which rule made which part, and so which tokens the formula has and which expression
it stands for.

From the loosest, operators bind like this: `or`, `and`, `not`, comparisons, sums,
products, negation.
-/

namespace ControlBreak

namespace Formula

/-- How tightly an operator binds. -/
inductive Binding
  /-- Looser than all operators: the end of what stands in parentheses. -/
  | closing
  | or
  | and
  | not
  | comparison
  | sum
  | product
  | negation
  deriving DecidableEq, Repr, Inhabited

namespace Binding

/-- The place of a binding in the order from the loosest. -/
def level : Binding → Nat
  | .closing => 0
  | .or => 1
  | .and => 2
  | .not => 3
  | .comparison => 4
  | .sum => 5
  | .product => 6
  | .negation => 7

end Binding

/-- An operator between two operands. A word keeps its spelling. -/
inductive BinaryOp
  | or (spelling : String)
  | and (spelling : String)
  | eq
  | ne
  | lt
  | le
  | gt
  | ge
  | plus
  | minus
  | star
  | slash
  deriving DecidableEq, Repr, Inhabited

namespace BinaryOp

/-- The token of an operator. -/
def lexeme : BinaryOp → Lexeme
  | .or spelling => .keyword .or spelling
  | .and spelling => .keyword .and spelling
  | .eq => .sign .eq
  | .ne => .sign .ne
  | .lt => .sign .lt
  | .le => .sign .le
  | .gt => .sign .gt
  | .ge => .sign .ge
  | .plus => .sign .plus
  | .minus => .sign .minus
  | .star => .sign .star
  | .slash => .sign .slash

/-- The operator of the call that is made. -/
def name : BinaryOp → String
  | .or _ => "or"
  | .and _ => "and"
  | .eq => "=="
  | .ne => "!="
  | .lt => "<"
  | .le => "<="
  | .gt => ">"
  | .ge => ">="
  | .plus => "+"
  | .minus => "-"
  | .star => "*"
  | .slash => "/"

/-- How tightly an operator binds. -/
def binding : BinaryOp → Binding
  | .or _ => .or
  | .and _ => .and
  | .eq | .ne | .lt | .le | .gt | .ge => .comparison
  | .plus | .minus => .sum
  | .star | .slash => .product

end BinaryOp

/-- The operator between two operands that a token is. -/
def Lexeme.binary? : Lexeme → Option BinaryOp
  | .keyword .or spelling => some (.or spelling)
  | .keyword .and spelling => some (.and spelling)
  | .sign .eq => some .eq
  | .sign .ne => some .ne
  | .sign .lt => some .lt
  | .sign .le => some .le
  | .sign .gt => some .gt
  | .sign .ge => some .ge
  | .sign .plus => some .plus
  | .sign .minus => some .minus
  | .sign .star => some .star
  | .sign .slash => some .slash
  | _ => none

/-- An expression of one token that is not a name. -/
inductive Constant
  | integer (n : Nat)
  | float (x : Binary64)
  | text (s : String)
  | truth (holds : Bool) (spelling : String)
  | nil (spelling : String)
  deriving Repr, Inhabited

namespace Constant

/-- The token of a constant. -/
def lexeme : Constant → Lexeme
  | .integer n => .integer n
  | .float x => .float x
  | .text s => .text s
  | .truth true spelling => .keyword .true spelling
  | .truth false spelling => .keyword .false spelling
  | .nil spelling => .keyword .nil spelling

/-- The expression that a constant stands for. -/
def value : Constant → Value
  | .integer n => .literal (.int n)
  | .float x => .literal (.num (.float x))
  | .text s => .literal (.str s)
  | .truth holds _ => .literal (.bool holds)
  | .nil _ => .absent

end Constant

/-- The constant that a token is. -/
def Lexeme.constant? : Lexeme → Option Constant
  | .integer n => some (.integer n)
  | .float x => some (.float x)
  | .text s => some (.text s)
  | .keyword .true spelling => some (.truth true spelling)
  | .keyword .false spelling => some (.truth false spelling)
  | .keyword .nil spelling => some (.nil spelling)
  | _ => none

/-- How a formula is made, with one kind of node for each kind of rule. A path has a first
    name, the names between, and a last one. -/
inductive Tree
  | constant (c : Constant)
  | field (name : String)
  | path (first : String) (between : List String) (last : String)
  | call (name : String) (args : List Tree)
  | group (inner : Tree)
  | negation (operand : Tree)
  | not (spelling : String) (operand : Tree)
  | binary (op : BinaryOp) (left right : Tree)
  deriving Repr, Inhabited

/-- The negation of an operand: of a numeral at once, and else its difference from
    zero. A truth value counts as a numeral. -/
def negate : Value → Value
  | .literal (.num (.int n)) => .literal (.int (-n))
  | .literal (.num (.float x)) => .literal (.num (.float x.neg))
  | .literal (.bool b) => .literal (.int (if b then -1 else 0))
  | v => .call (.str "-") [.literal (.int 0), v]

/-- The tokens of names that points lead to. -/
def pointed (names : List String) : List Lexeme :=
  names.flatMap fun name => [.sign .dot, .name name]

namespace Tree

mutual

/-- The tokens of a formula. -/
def tokens : Tree → List Lexeme
  | .constant c => [c.lexeme]
  | .field name => [.name name]
  | .path first between last => .name first :: pointed (between ++ [last])
  | .call name args => .name name :: .sign .openParen :: (tokensAll args ++ [.sign .closeParen])
  | .group inner => .sign .openParen :: (tokens inner ++ [.sign .closeParen])
  | .negation operand => .sign .minus :: tokens operand
  | .not spelling operand => .keyword .not spelling :: tokens operand
  | .binary op left right => tokens left ++ op.lexeme :: tokens right
  termination_by structural t => t

/-- The tokens of arguments, with commas between them. -/
def tokensAll : List Tree → List Lexeme
  | [] => []
  | arg :: rest => tokens arg ++ tokensRest rest
  termination_by structural args => args

/-- The tokens of arguments that come after others. -/
def tokensRest : List Tree → List Lexeme
  | [] => []
  | arg :: rest => .sign .comma :: tokens arg ++ tokensRest rest
  termination_by structural args => args

end

mutual

/-- The expression that a formula stands for. -/
def value : Tree → Value
  | .constant c => c.value
  | .field name => .fieldRef (.str name)
  | .path first between last => .relatedRef ((first :: between).map .str) (.str last)
  | .call name args => .call (.str name) (valueAll args)
  | .group inner => value inner
  | .negation operand => negate (value operand)
  | .not _ operand => .call (.str "not") [value operand]
  | .binary op left right => .call (.str op.name) [value left, value right]
  termination_by structural t => t

/-- The expressions that arguments stand for. -/
def valueAll : List Tree → List Value
  | [] => []
  | arg :: rest => value arg :: valueAll rest
  termination_by structural args => args

end

end Tree

end Formula

end ControlBreak
