import ControlBreak.Scope

/-!
# Breaks of groups over a stream

Each record that is consumed is reported with what it breaks. The first record
breaks nothing; the same record again is a new detail row all the same. A break
at a level is counted for that level and for all levels within it.

Summaries count the records that share all their keys, wherever they stand in the
stream, and leave the stream alone.
-/

namespace ControlBreak

/-- The scope of a stream and the number of breaks at each level. -/
structure Groups where
  scope : Scope
  /-- The breaks counted at each level that broke. -/
  counts : List (Nat × Nat)
  deriving Inhabited, Repr

/-- What happened when a record was consumed. -/
structure GroupStep where
  changes : List Break
  /-- The reported value of each level. -/
  values : List (Nat × Value)
  deriving Inhabited, Repr

/-- Whether a group broke, so that variables go back. -/
def GroupStep.resetsVariables (s : GroupStep) : Bool :=
  s.changes.any Break.isGroup

/-- The records that share all keys: how many there are, which came first and which
    last, and the reported values of the levels. -/
structure Summary (ρ : Type) where
  keys : List Value
  count : Nat
  first : ρ
  last : ρ
  values : List (Nat × Value)

namespace Groups

/-- The state before all records. -/
def ofDefinitions (groups : List GroupDefinition) : Groups :=
  ⟨.ofGroups groups, []⟩

/-- The state with all records forgotten. -/
def reset (g : Groups) : Groups :=
  ⟨g.scope.reset, []⟩

/-- The state on a new page. -/
def breakPage (g : Groups) : Groups :=
  { g with scope := g.scope.breakPage }

/-- The number of breaks at a level, those of the groups around it included. -/
def breakCount (g : Groups) (level : Int) : Nat :=
  ((g.counts.find? fun e => (e.1 : Int) == level).map (·.2)).getD 0

/-- The counts after a break at a level. -/
def countBreak (levels : List Nat) (level : Int) (counts : List (Nat × Nat)) :
    List (Nat × Nat) :=
  (levels.filter fun (l : Nat) => decide (level ≤ (l : Int))).foldl
    (fun counts l => setKeyed l ((keyed? counts l).getD 0 + 1) counts) counts

/-- The breaks that are reported for what the scope found. -/
def reported : Option Break → List Break
  | none => []
  | some .unchanged => [.detail]
  | some b => [b]

/-- The counts after what the scope found. -/
def countsAfter (g : Groups) : Option Break → List (Nat × Nat)
  | some (.group level) => countBreak g.scope.levels level g.counts
  | _ => g.counts

/-- Consumes a record. -/
def process (r : Registry) (g : Groups) (record : Value) : Host (Groups × GroupStep) := do
  let change ← g.scope.check r record
  let scope ← g.scope.consume r record
  return (⟨scope, g.countsAfter change⟩, ⟨reported change, scope.values⟩)

/-- What is told while a record is consumed. -/
def processEvents (r : Registry) (g : Groups) (record : Value) : List Event :=
  g.scope.checkEvents r record ++
    match g.scope.check r record with
    | .error _ => []
    | .ok (some (.group level)) => .groupBroken level :: Scope.keyEvents r record g.scope.groups
    | .ok _ => Scope.keyEvents r record g.scope.groups

/-- Consumes records in turn. If the host fails at one, those before it stay
    consumed. -/
def processAll (r : Registry) (g : Groups) : List Value → Groups × Host (List GroupStep)
  | [] => (g, .ok [])
  | record :: rest =>
    match g.process r record with
    | .error f => (g, .error f)
    | .ok (g, step) =>
      let (g, steps) := processAll r g rest
      (g, steps.map (step :: ·))

/-- What is told while records are consumed. -/
def processAllEvents (r : Registry) (g : Groups) : List Value → List Event
  | [] => []
  | record :: rest =>
    g.processEvents r record ++
      match g.process r record with
      | .error _ => []
      | .ok (g, _) => processAllEvents r g rest

/-- The reported values that a record would have. -/
def valuesOf (r : Registry) (g : Groups) (record : Value) : Host (List (Nat × Value)) :=
  (Scope.evaluateKeys r record g.scope.groups).map (Scope.levelValues g.scope.groups)

/-- The summaries with one more record of the given keys. -/
def addToSummaries {ρ : Type} (groups : List GroupDefinition) (keys : List Value) (record : ρ) :
    List (Summary ρ) → List (Summary ρ)
  | [] => [⟨keys, 1, record, record, Scope.levelValues groups keys⟩]
  | s :: rest =>
    if Value.recurAll s.keys keys then
      { s with count := s.count + 1, last := record } :: rest
    else s :: addToSummaries groups keys record rest

/-- The summaries of records, each given with what is remembered of it, in the order
    of the first record of each. -/
def summarize {ρ : Type} (r : Registry) (g : Groups) (records : List (Value × ρ)) :
    Host (List (Summary ρ)) :=
  records.foldlM (fun summaries (record, remembered) => do
    let keys ← Scope.evaluateKeys r record g.scope.groups
    let _ ← Value.asKey (.tuple keys)
    return addToSummaries g.scope.groups keys remembered summaries) []

/-- What is told while records are summarized. -/
def summarizeEvents (r : Registry) (g : Groups) : List Value → List Event
  | [] => []
  | record :: rest =>
    Scope.keyEvents r record g.scope.groups ++
      match Scope.evaluateKeys r record g.scope.groups with
      | .ok keys => if Value.allHashable keys then summarizeEvents r g rest else []
      | .error _ => []

end Groups

end ControlBreak
