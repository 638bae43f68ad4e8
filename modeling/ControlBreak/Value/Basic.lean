import ControlBreak.Number.Basic
import ControlBreak.Calendar

/-!
# Values

A report reads records of any shape, and its expressions are values as well:
nodes written out, or shapes that stand for nodes. So there is one type of
values, of four sorts:

* data: nothing, truth values, numbers, texts, containers, dates and times;
* records: mappings, objects with attributes, rows, objects with fixed slots, and
  objects of kinds of their own;
* functions of the host, and things the report cannot look into;
* expression nodes, whose parts may be any values.

Slotted and priced objects, objects of kinds of their own, sealed ones and
functions are told apart by their marks; all else is compared by what it holds.
-/

namespace ControlBreak

/-- What a function of the host does with its arguments, and with values of its
    own, which stand beside the action in `Value.native`. -/
inductive NativeAction
  /-- Gives its own value. -/
  | const
  /-- Gives its first argument. -/
  | first
  /-- Gives the number of its arguments. -/
  | argc
  /-- Adds its own value to its first argument. -/
  | add
  /-- Reads the field of its first argument that its own value names. -/
  | field
  /-- Whether the field that its own first value names is greater than the second. -/
  | gt
  /-- Fails with a fault of the kind that its own first value names; the fault
      carries the others. -/
  | raise
  /-- Throws its own value. -/
  | throw
  /-- Asks to leave the process, with its own value if it has one. -/
  | exit
  /-- Asks to leave a generator. -/
  | genexit
  deriving DecidableEq, Repr, Inhabited

namespace NativeAction

/-- The name of an action. -/
def name : NativeAction → String
  | .const => "const"
  | .first => "first"
  | .argc => "argc"
  | .add => "add"
  | .field => "field"
  | .gt => "gt"
  | .raise => "raise"
  | .throw => "throw"
  | .exit => "exit"
  | .genexit => "genexit"

def all : List NativeAction := [
  .const, .first, .argc, .add, .field, .gt, .raise, .throw, .exit, .genexit]

/-- The action with a given name. -/
def ofWord? (word : String) : Option NativeAction :=
  all.find? fun a => a.name == word

end NativeAction

/-- What a member is that all values of a kind have. -/
inductive MemberSort
  /-- A function built into the kind. -/
  | function
  /-- A function behind an operator of the host. -/
  | operator
  /-- A function written for the kind, with its owner as the first argument. -/
  | method
  /-- A function written for the kind, without its owner. -/
  | definition
  /-- The kind itself, which is of some family. -/
  | kind (family : String)
  /-- Some other thing of the host. -/
  | thing (word : String)
  deriving DecidableEq, Repr, Inhabited

namespace MemberSort

/-- The host's word for members of a sort. -/
def name : MemberSort → String
  | .function => "builtin_function_or_method"
  | .operator => "method-wrapper"
  | .method => "method"
  | .definition => "function"
  | .kind family => family
  | .thing word => word

/-- Whether members of a sort can be called. -/
def isCallable : MemberSort → Bool
  | .thing _ => false
  | _ => true

/-- Whether members of a sort belong to their owner, so that those of another owner
    are others. -/
def isBound : MemberSort → Bool
  | .function | .operator | .method => true
  | _ => false

/-- Whether members of a sort have attributes of their own. -/
def hasAttributes : MemberSort → Bool
  | .method | .definition | .kind _ => true
  | _ => false

end MemberSort

/-- Why an operation of the host has no result; `ν` is the type of values. -/
inductive Cause (ν : Type)
  /-- The operands, or the number of arguments, do not suit the operation. -/
  | unsuitable
  | missingKey
  | missingAttribute
  | outOfRange
  /-- A number is too large for its kind. -/
  | overflow
  /-- A result takes more room than there is. -/
  | outOfMemory
  | zeroDivisor
  | invalidDecimal
  | decimalOverflow
  /-- A text cannot be decoded. -/
  | undecodable
  /-- Raised deliberately, with a kind and the values it carries. -/
  | raised (kind : String) (values : List ν)
  deriving Inhabited, Repr

/-- A value: data, a record, a function of the host or an expression node. -/
inductive Value
  | nil
  | bool (b : Bool)
  | num (n : Number)
  | str (s : String)
  | list (items : List Value)
  | tuple (items : List Value)
  /-- A mapping, in the order of insertion, its keys distinct. -/
  | dict (entries : List (Value × Value))
  | bytes (bytes : List UInt8)
  | date (d : Date)
  | time (t : TimeOfDay)
  | moment (m : Moment)
  | duration (d : Duration)
  /-- An object with attributes. -/
  | object (attributes : List (String × Value))
  /-- A tuple whose places have names. -/
  | row (fields : List (String × Value))
  /-- An object with fixed slots, some of them unset; `bare` if its only slot was
      declared by itself and not in a list. -/
  | slots (id : Mark) (bare : Bool) (declared : List (String × Option Value))
  /-- An object with a region, a price and a quantity, and an amount computed
      from the latter two. -/
  | priced (id : Mark) (region price quantity : Value)
  /-- An object of a kind of its own. It keeps attributes if it can keep any, and has
      slots, some of them unset, those of its own kind before those of the kinds that this
      derives from. The kind computes attributes of any names: each comes to a value, to
      nothing or to a fault. -/
  | entity (id : Mark) (kind : String) (attributes : Option (List (String × Value)))
      (declared : List (String × Option Value))
      (computed : List (String × Except (Cause Value) (Option Value)))
  /-- A thing of which only a label is known. -/
  | sealed (id : Mark) (label : String)
  /-- A function of the host, as the host writes it down, with the values of its own
      that it makes in every call, unless making them fails. -/
  | native (id : Mark) (written : String) (action : NativeAction)
      (own : Except (Cause Value) (List Value))
  /-- A member that the owner has for being of its kind. -/
  | member (sort : MemberSort) (name : String) (owner : Value)
  /-- A record seen through a layer of named values that hide its fields. -/
  | layered (layer : List (String × Value)) (record : Value)
  /-- The node that reads a field. -/
  | fieldRef (name : Value)
  /-- The node that follows a path of relationships to a field. -/
  | relatedRef (path : List Value) (field : Value)
  /-- The node that follows one relationship to a field. -/
  | explicitRef (relationship field : Value)
  /-- The node that gives a value. -/
  | literal (value : Value)
  /-- The node that applies an operator or a function to arguments. -/
  | call (op : Value) (args : List Value)
  /-- The node that applies a function of the host to the record. -/
  | hostCall (function : Value)
  /-- The node that gives nothing. -/
  | absent
  deriving Inhabited, Repr

namespace Value

/-- An integer as a value. -/
def int (n : Int) : Value :=
  .num (.int n)

/-- The number that a value counts as in comparisons and in the arithmetic of the
    host: truth values count as one and zero. -/
def number? : Value → Option Number
  | .num n => some n
  | .bool b => some (.int (if b then 1 else 0))
  | _ => none

/-- The members of a tuple or a row. -/
def members? : Value → Option (List Value)
  | .tuple items => some items
  | .row fields => some (fields.map (·.2))
  | _ => none

/-- Reports take only nothing and the false truth value as false. -/
def isTruthy : Value → Bool
  | .nil => false
  | .bool b => b
  | _ => true

/-- Whether the host counts a value as empty: nothing, falsehood, zeros, and texts
    and containers without members. -/
def isEmpty : Value → Bool
  | .nil => true
  | .bool b => !b
  | .num n => n.isZero
  | .str s => s == ""
  | .list items => items.isEmpty
  | .tuple items => items.isEmpty
  | .dict entries => entries.isEmpty
  | .bytes b => b.isEmpty
  | .duration d => d.microseconds == 0
  | .row fields => fields.isEmpty
  | _ => false

/-- Whether a value is a node written out. -/
def isNode : Value → Bool
  | .fieldRef _ => true
  | .relatedRef .. => true
  | .explicitRef .. => true
  | .literal _ => true
  | .call .. => true
  | .hostCall _ => true
  | .absent => true
  | _ => false

/-- Whether a value can be called. -/
def isCallable : Value → Bool
  | .native .. => true
  | .member sort _ _ => sort.isCallable
  | _ => false

end Value

end ControlBreak
