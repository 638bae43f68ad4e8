import ControlBreak.Event
import ControlBreak.Settings
import ControlBreak.Text.Lines

/-!
# Diagnostics

Where messages go. The report's messages have a source within the package, and
are written once a writer is attached; attaching it again only sets the level.
Messages below the level are held back, and so are those below the least level of
all details.
-/

namespace ControlBreak

/-- The level of messages, and whether a writer is attached. -/
structure Diagnostics where
  level : Int
  attached : Bool
  deriving DecidableEq, Repr, Inhabited

/-- A level as it is asked for: by number or by name. -/
inductive LevelRequest
  | number (level : Int)
  | name (name : String)
  deriving DecidableEq, Repr, Inhabited

namespace Diagnostics

/-- The name of the package that messages come from. -/
def package : String := "banded_reports"

/-- The full name of a source. -/
def sourceName (s : Source) : String :=
  package ++ "." ++ s.name

/-- The level of details, which all events have. -/
def detailLevel : Int := 10

/-- The level that holds where none is set. -/
def defaultLevel : Int := 30

/-- Nothing set and no writer attached. -/
def start : Diagnostics := ⟨0, false⟩

/-- The level that is asked for, or else the one of the settings. -/
def requestedLevel (request : Option LevelRequest) (settings : Settings) : Host Int :=
  match request with
  | some (.number level) => .ok level
  | some (.name name) => parseLevel name
  | none => settings.numericLevel

/-- What holds after the writer is attached at a level. -/
def configured (request : Option LevelRequest) (settings : Settings) : Host Diagnostics :=
  (requestedLevel request settings).map fun level => ⟨level, true⟩

/-- Whether a source belongs to the package. -/
def isOwn (source : String) : Bool :=
  source == package || (package ++ ".").isPrefixOf source

/-- Whether a message of a source and a level is written. -/
def writes (d : Diagnostics) (source : String) (level : Int) : Bool :=
  let least := if d.level = 0 then defaultLevel else d.level
  d.attached && isOwn source && decide (least ≤ level) && decide (detailLevel ≤ level)

/-- What is written of a message, without its time and its end. -/
def entry (source : String) (level : Int) (message : String) : String :=
  source ++ " - " ++ levelName level ++ " - " ++ message

/-- The lines that a message makes. -/
def linesOf (d : Diagnostics) (source : String) (level : Int) (message : String) : List String :=
  if d.writes source level then linesIn (entry source level message ++ "\n") else []

end Diagnostics

end ControlBreak
