import ControlBreak.Value.Basic

/-!
# Values that are held

What a function of the host made has fresh marks, by which it is the same as
nothing. A variable that holds it makes it one thing: each fresh mark in the value
becomes a mark of its own, named after the variable, the number of the value among
those that the variable took, and the place in the value. Other marks stay, so what
is held already is still the same when it is held again. What an object computes is
not held: it is made anew whenever it is asked for.
-/

namespace ControlBreak

namespace Number

/-- A number that is held; only one that is none has a mark. -/
def heldBy (holder : String) (number : Nat) (place : List Nat) : Number → Number
  | .float (.nan m) => .float (.nan (m.heldBy holder number place))
  | .dec (.nan s g p m) => .dec (.nan s g p (m.heldBy holder number place))
  | n => n

end Number

namespace Value

variable (holder : String) (number : Nat)

mutual

/-- A value that is held, at a place in what is held. -/
def holdAt (place : List Nat) : Value → Value
  | .num n => .num (n.heldBy holder number place)
  | .list items => .list (holdAll place 0 items)
  | .tuple items => .tuple (holdAll place 0 items)
  | .dict entries => .dict (holdEntries place 0 entries)
  | .object attributes => .object (holdFields place 0 attributes)
  | .row fields => .row (holdFields place 0 fields)
  | .slots id bare declared =>
    .slots (id.heldBy holder number place) bare (holdSlots place 0 declared)
  | .priced id region price quantity =>
    .priced (id.heldBy holder number place) (holdAt (0 :: place) region) (holdAt (1 :: place) price)
      (holdAt (2 :: place) quantity)
  | .entity id kind none declared computed =>
    .entity (id.heldBy holder number place) kind none (holdSlots (1 :: place) 0 declared) computed
  | .entity id kind (some attributes) declared computed =>
    .entity (id.heldBy holder number place) kind (some (holdFields (0 :: place) 0 attributes))
      (holdSlots (1 :: place) 0 declared) computed
  | .sealed id label => .sealed (id.heldBy holder number place) label
  | .native id written action own => .native (id.heldBy holder number place) written action own
  | .member sort name owner => .member sort name (holdAt (0 :: place) owner)
  | .layered layer record =>
    .layered (holdFields (0 :: place) 0 layer) (holdAt (1 :: place) record)
  | .fieldRef name => .fieldRef (holdAt (0 :: place) name)
  | .relatedRef path field => .relatedRef (holdAll (0 :: place) 0 path) (holdAt (1 :: place) field)
  | .explicitRef relationship field =>
    .explicitRef (holdAt (0 :: place) relationship) (holdAt (1 :: place) field)
  | .literal value => .literal (holdAt (0 :: place) value)
  | .call op args => .call (holdAt (0 :: place) op) (holdAll (1 :: place) 0 args)
  | .hostCall function => .hostCall (holdAt (0 :: place) function)
  | v => v
  termination_by structural v => v

/-- Values that are held, from a position on. -/
def holdAll (place : List Nat) (position : Nat) : List Value → List Value
  | [] => []
  | v :: rest => holdAt (position :: place) v :: holdAll place (position + 1) rest
  termination_by structural vs => vs

/-- Entries that are held, from a position on. -/
def holdEntries (place : List Nat) (position : Nat) : List (Value × Value) → List (Value × Value)
  | [] => []
  | (k, v) :: rest =>
    (holdAt (0 :: position :: place) k, holdAt (1 :: position :: place) v) ::
      holdEntries place (position + 1) rest
  termination_by structural es => es

/-- Named values that are held, from a position on. -/
def holdFields (place : List Nat) (position : Nat) : List (String × Value) → List (String × Value)
  | [] => []
  | (name, v) :: rest =>
    (name, holdAt (position :: place) v) :: holdFields place (position + 1) rest
  termination_by structural fs => fs

/-- Slots that are held, from a position on. -/
def holdSlots (place : List Nat) (position : Nat) :
    List (String × Option Value) → List (String × Option Value)
  | [] => []
  | (name, none) :: rest => (name, none) :: holdSlots place (position + 1) rest
  | (name, some v) :: rest =>
    (name, some (holdAt (position :: place) v)) :: holdSlots place (position + 1) rest
  termination_by structural ss => ss

end

/-- A value that `holder` took as that of a given number. -/
def heldBy (v : Value) : Value :=
  holdAt holder number [] v

end Value

end ControlBreak
