import ControlBreak.EvalError

/-!
# Events

What a report tells about its work, for those who look for the reason of a result.
Events change nothing; each has a source, the part of the report it comes from,
and a message. All of them are details, of the lowest rank.
-/

namespace ControlBreak

/-- Something that happened in a report. -/
inductive Event
  | functionReplaced (name : String)
  | circleFound (cycle : List String)
  | orderFound (order : List String)
  | variablesReset (names : List String)
  /-- The key of a group has no value for a record. -/
  | keyMissing (group : String) (error : EvalError)
  | pageBroken (page : Nat)
  | groupBroken (level : Int)
  | variableKept (name : String) (error : EvalError)
  deriving Inhabited, Repr

/-- The parts of a report that tell about their work. -/
inductive Source
  | functions
  | dependency
  | aggregation
  | scope
  | groups
  | execution
  deriving DecidableEq, Inhabited, Repr

namespace Source

/-- The word for a source. -/
def name : Source → String
  | .functions => "functions"
  | .dependency => "dependency"
  | .aggregation => "variables"
  | .scope => "scope"
  | .groups => "group_processor"
  | .execution => "execution"

end Source

namespace Event

/-- The part of the report that an event comes from. -/
def source : Event → Source
  | .functionReplaced _ => .functions
  | .circleFound _ => .dependency
  | .orderFound _ => .aggregation
  | .variablesReset _ => .aggregation
  | .keyMissing .. => .scope
  | .pageBroken _ => .scope
  | .groupBroken _ => .groups
  | .variableKept .. => .execution

/-- The text of a list of names. -/
def namesText (names : List String) : String :=
  "[" ++ commaText (names.map quoted) ++ "]"

/-- The message of an event; none for an error without a text. -/
def message? : Event → Option String
  | .functionReplaced name => some ("Replacing registered function '" ++ name ++ "'")
  | .circleFound cycle => some ("Circular dependency detected: " ++ " -> ".intercalate cycle)
  | .orderFound order => some ("Variable evaluation order: " ++ namesText order)
  | .variablesReset names => some ("Resetting variables " ++ namesText names)
  | .keyMissing group error => error.describe?.map fun text =>
    "Group '" ++ group ++ "' key could not be evaluated (" ++ text ++ "); using nil"
  | .pageBroken page => some ("Page break; now on page " ++ natText page)
  | .groupBroken level => some ("Group break at level " ++ intText level)
  | .variableKept name error => error.describe?.map fun text =>
    "Variable '" ++ name ++ "' not updated: " ++ text

end Event

end ControlBreak
