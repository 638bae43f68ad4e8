import ControlBreak.Fault
import ControlBreak.Text.Blank
import ControlBreak.Text.Casing

/-!
# Settings

The switches of a report, and how the environment sets them. A level of messages
is a number with a name; names are read in any case.
-/

namespace ControlBreak

/-- The named levels of messages; a number that has two names is shown by the
    first. -/
def levelNames : List (String × Int) := [
  ("CRITICAL", 50), ("FATAL", 50), ("ERROR", 40), ("WARNING", 30), ("WARN", 30), ("INFO", 20),
  ("DEBUG", 10), ("NOTSET", 0)]

/-- The level with a name. -/
def levelOfName? (name : String) : Option Int :=
  (levelNames.find? fun l => l.1 == upperCase name).map (·.2)

/-- The name that a level is shown by. -/
def levelName (level : Int) : String :=
  match levelNames.find? fun l => l.2 == level with
  | some l => l.1
  | none => "Level " ++ intText level

/-- The problem with a name of no level. -/
def unknownLevel (name : String) : String :=
  "Unknown log level: " ++ name

/-- The level with a name, which has to be one. -/
def parseLevel (name : String) : Host Int :=
  orFault (.badValue (unknownLevel name)) (levelOfName? name)

/-- The switches of a report. -/
structure Settings where
  /-- A variable that calls into the host depends on all others. -/
  conservativeDependencies : Bool := false
  /-- A field that the record lacks counts as nothing. -/
  missingFieldsAsNil : Bool := true
  logLevel : String := "WARNING"
  deriving DecidableEq, Repr, Inhabited

namespace Settings

/-- The problems of settings. -/
def problems (s : Settings) : List String :=
  if (levelOfName? s.logLevel).isSome then [] else [unknownLevel s.logLevel]

/-- The level of messages. -/
def numericLevel (s : Settings) : Host Int :=
  parseLevel s.logLevel

/-- The words that turn a switch on. -/
def onWords : List String := ["1", "true", "yes", "on"]

/-- A switch as the environment sets it; unset or empty, it is as before. -/
def flag (setting : Option String) (unset : Bool) : Bool :=
  match setting with
  | none => unset
  | some "" => unset
  | some word => onWords.contains (lowerCase (trimBlanks word))

/-- The settings that an environment makes. -/
def ofEnvironment (setting? : String → Option String) : Settings where
  conservativeDependencies := flag (setting? "CONSERVATIVE_DEPS") false
  missingFieldsAsNil := flag (setting? "MISSING_AS_NIL") true
  logLevel := match setting? "LOG_LEVEL" with
    | none => "WARNING"
    | some "" => "WARNING"
    | some level => level

end Settings

end ControlBreak
