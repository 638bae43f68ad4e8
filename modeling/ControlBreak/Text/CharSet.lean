/-!
# Sets of characters

A set of characters is given by the code points at which membership changes:
from the first one on characters are in, from the second on out, and so on.
-/

namespace ControlBreak

/-- A set of characters, by the code points where membership changes, in
    ascending order. -/
structure CharSet where
  boundaries : List Nat

namespace CharSet

/-- Whether a code point is in a set with the given boundaries, if `inside`
    tells whether it is before all of them. -/
def memberFrom (code : Nat) : Bool → List Nat → Bool
  | inside, [] => inside
  | inside, b :: rest => if code < b then inside else memberFrom code (!inside) rest

/-- Whether the character is in the set. -/
def contains (s : CharSet) (c : Char) : Bool :=
  memberFrom c.toNat false s.boundaries

end CharSet

end ControlBreak
