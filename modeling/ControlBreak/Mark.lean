/-!
# Marks

Some things are told apart although they look alike: two numbers that are none,
two objects with the same slots. Each has a mark, and is the same as another only
if it has the same mark.

What a function of the host makes is new with every call, and the same as nothing
at all. Once a variable holds it, whoever reads the variable gets the same thing, and
it stays that thing for whoever keeps it longer than the variable does.
-/

namespace ControlBreak

/-- What tells a thing from others that look alike. -/
inductive Mark
  /-- Of a thing made just now. -/
  | fresh
  /-- Of a thing that was given, by its number. -/
  | given (n : Nat)
  /-- Of a thing that a variable took with the value of a given number, by its place
      within the value. -/
  | held (holder : String) (number : Nat) (place : List Nat)
  deriving DecidableEq, Repr, Inhabited

namespace Mark

/-- Whether two marks are those of one thing. -/
def same : Mark → Mark → Bool
  | .fresh, _ => false
  | m, n => m == n

/-- The mark of a thing that may have been made just now, once it is held. -/
def heldBy (holder : String) (number : Nat) (place : List Nat) : Mark → Mark
  | .fresh => .held holder number place
  | m => m

theorem not_same_fresh (m : Mark) : m.same .fresh = false := by
  cases m <;> rfl

theorem same_self {m : Mark} (h : m ≠ .fresh) : m.same m = true := by
  cases m <;> simp_all [same]

end Mark

end ControlBreak
