import ControlBreak.Value.Basic

/-!
# Operators of calls

A call applies an operator, which may be any value. The four signs of arithmetic
and the conditional are built into evaluation and take a fixed number of
arguments; every other operator names a function of a registry.
-/

namespace ControlBreak

/-- How a call is evaluated. -/
inductive Operator
  | arithmetic (o : Arithmetic)
  | conditional
  | function
  deriving DecidableEq, Repr

namespace Operator

/-- The way to evaluate a call of an operator. -/
def of : Value → Operator
  | .str s =>
    match Arithmetic.ofSymbol? s with
    | some o => .arithmetic o
    | none => if s = "if" then .conditional else .function
  | _ => .function

/-- The number of arguments that an operator takes, if it is fixed. -/
def arity? : Operator → Option Nat
  | .arithmetic _ => some 2
  | .conditional => some 3
  | .function => none

theorem of_symbol (o : Arithmetic) : of (.str o.symbol) = .arithmetic o := by
  simp [of, Arithmetic.ofSymbol?_symbol]

end Operator

end ControlBreak
