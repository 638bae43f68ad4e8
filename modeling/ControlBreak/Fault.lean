import ControlBreak.Value.Basic

/-!
# Faults

A fault is what an operation of the host ends with when it has no result. Most
are told by their cause alone; a fault with a message is one that was raised
deliberately, with the values it carries.
-/

namespace ControlBreak

/-- Why an operation of the host has no result. -/
abbrev Fault := Cause Value

/-- An operation of the host: a result or a fault. -/
abbrev Host := Except Fault

namespace Fault

/-- A fault about an argument, raised by a built-in function. -/
def badArgument (message : String) : Fault :=
  .raised "RuntimeError" [.str message]

/-- A fault about a value that is out of its domain. -/
def badValue (message : String) : Fault :=
  .raised "ValueError" [.str message]

end Fault

/-- The fault of an operation on numbers. -/
def NumberFault.toFault : NumberFault → Fault
  | .mixedKinds => .unsuitable
  | .tooLarge => .overflow
  | .zeroDivisor => .zeroDivisor
  | .invalidDecimal => .invalidDecimal
  | .decimalTooLarge => .decimalOverflow

/-- A result that may be missing, with the fault that its absence is. -/
def orFault {α : Type} (f : Fault) : Option α → Host α
  | some a => .ok a
  | none => .error f

/-- The result of an operation on numbers, as one of the host. -/
def hostNumber {α : Type} : Except NumberFault α → Host α
  | .ok a => .ok a
  | .error f => .error f.toFault

end ControlBreak
