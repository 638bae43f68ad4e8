import ControlBreak.Fault
import ControlBreak.Text.Quoted

/-!
# The text of values

A value is shown in one of two ways: `Value.describe` tells its kind and quotes
texts, for messages, and `Value.text` shows texts, numbers and dates as people
write them.

The host refuses to write integers of more than 4300 digits. That is left out: here
every value has a text, wherever one is made.
-/

namespace ControlBreak

/-- The parts of a time of the day as a list: seconds and microseconds only if
    there are any. -/
def TimeOfDay.parts (t : TimeOfDay) : List String :=
  [natText t.hour, natText t.minute] ++
    (if t.second = 0 ∧ t.microsecond = 0 then []
     else if t.microsecond = 0 then [natText t.second]
     else [natText t.second, natText t.microsecond])

/-- The parts of a date as a list. -/
def Date.parts (d : Date) : List String :=
  [natText d.year, natText d.month, natText d.day]

/-- The parts of a duration as a list: those that are not zero, by name. -/
def Duration.parts (d : Duration) : List String :=
  let named (name : String) (n : Int) := if n = 0 then [] else [name ++ "=" ++ intText n]
  match named "days" d.days ++ named "seconds" d.seconds ++ named "microseconds" d.subseconds with
  | [] => ["0"]
  | parts => parts

/-- Parts with commas between them. -/
def commaText (parts : List String) : String :=
  ", ".intercalate parts

/-- A tuple of described members: a single one has a comma after it. -/
def tupleText : List String → String
  | [one] => "(" ++ one ++ ",)"
  | parts => "(" ++ commaText parts ++ ")"

namespace Value

mutual

/-- The text of a value that tells its kind. -/
def describe : Value → String
  | .nil => "None"
  | .bool b => if b then "True" else "False"
  | .num n => n.describe
  | .str s => quoted s
  | .list items => "[" ++ commaText (describeAll items) ++ "]"
  | .tuple items => tupleText (describeAll items)
  | .dict entries => "\x7b" ++ commaText (describeEntries entries) ++ "\x7d"
  | .bytes b => quotedBytes b
  | .date d => "datetime.date(" ++ commaText d.parts ++ ")"
  | .time t => "datetime.time(" ++ commaText t.parts ++ ")"
  | .moment m => "datetime.datetime(" ++ commaText (m.date.parts ++ m.time.parts) ++ ")"
  | .duration d => "datetime.timedelta(" ++ commaText d.parts ++ ")"
  | .object attributes => "namespace(" ++ commaText (describeAttributes attributes) ++ ")"
  | .row fields => "Row(" ++ commaText (describeFields fields) ++ ")"
  | .slots .. => "<slotted>"
  | .priced .. => "<priced>"
  | .entity _ kind _ _ _ => "<" ++ kind ++ " object>"
  | .sealed _ label => "<opaque " ++ label ++ ">"
  | .native _ _ action _ => "<native " ++ action.name ++ ">"
  | .member (.kind _) name _ => "<class '" ++ name ++ "'>"
  | .member sort name _ => "<" ++ sort.name ++ " " ++ name ++ ">"
  | .layered .. => "<record>"
  | .fieldRef name => "FieldRef(name=" ++ name.describe ++ ")"
  | .relatedRef path field =>
    "RelationshipFieldRef(path=[" ++ commaText (describeAll path) ++ "], field=" ++
      field.describe ++ ")"
  | .explicitRef relationship field =>
    "ExplicitFieldRef(relationship=" ++ relationship.describe ++ ", field=" ++ field.describe ++ ")"
  | .literal value => "Literal(value=" ++ value.describe ++ ")"
  | .call op args =>
    "Call(op=" ++ op.describe ++ ", args=[" ++ commaText (describeAll args) ++ "])"
  | .hostCall function => "NativeFunction(function=" ++ function.describe ++ ")"
  | .absent => "Nil()"
  termination_by structural v => v

/-- The texts of several values. -/
def describeAll : List Value → List String
  | [] => []
  | v :: rest => v.describe :: describeAll rest
  termination_by structural vs => vs

/-- The texts of the entries of a mapping. -/
def describeEntries : List (Value × Value) → List String
  | [] => []
  | (k, v) :: rest => (k.describe ++ ": " ++ v.describe) :: describeEntries rest
  termination_by structural es => es

/-- The texts of attributes; one without a name is not shown. -/
def describeAttributes : List (String × Value) → List String
  | [] => []
  | (name, v) :: rest =>
    if name = "" then describeAttributes rest
    else (name ++ "=" ++ v.describe) :: describeAttributes rest
  termination_by structural fs => fs

/-- The texts of named values. -/
def describeFields : List (String × Value) → List String
  | [] => []
  | (name, v) :: rest => (name ++ "=" ++ v.describe) :: describeFields rest
  termination_by structural fs => fs

end

/-- The text of a value for people. -/
def text : Value → String
  | .str s => s
  | .num n => n.text
  | .date d => d.text
  | .time t => t.text
  | .moment m => m.text " "
  | .duration d => d.text
  | v => v.describe

end Value

namespace Fault

/-- The text of a fault that tells its kind and what it carries, if it was raised
    deliberately. -/
def describe? : Fault → Option String
  | .raised kind [v] => some (kind ++ "(" ++ v.describe ++ ")")
  | .raised kind values => some (kind ++ "(" ++ commaText (Value.describeAll values) ++ ")")
  | _ => none

/-- The message of a fault that was raised deliberately: the value it carries. A
    missing key is quoted. -/
def message? : Fault → Option String
  | .raised kind [] => some (if kind = "SyntaxError" then "None" else "")
  | .raised kind [v] => some (if kind = "KeyError" then v.describe else v.text)
  | .raised _ values => some (tupleText (Value.describeAll values))
  | _ => none

end Fault

end ControlBreak
