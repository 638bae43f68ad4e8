import ControlBreak.Keyed
import ControlBreak.Value.Equality
import ControlBreak.Value.Member
import ControlBreak.Value.Operators

/-!
# Records

A record is read field by field. A mapping gives the value under a key, and any
other value its attribute of that name: a part of it, or a member of its kind. A
layered record gives the value of its layer, and below it what the record gives.
A missing field is `none` and no fault; faults come from names that cannot be
looked for, and from an attribute whose computation fails.

`Value.fieldNames` lists the fields that a record announces: a slot that is unset is
not listed, and a computed attribute is found although it is not. An attribute that is
kept is listed even where an unset slot or a computed attribute of its name hides it.
-/

namespace ControlBreak

namespace Value

/-- Named values as a mapping. -/
def ofNamed (fields : List (String × Value)) : Value :=
  .dict (fields.map fun f => (.str f.1, f.2))

/-- Names as a tuple. -/
def ofNames (names : List String) : Value :=
  .tuple (names.map .str)

/-- The parts of a number. -/
def numberPart? (n : Number) (name : String) : Option Value :=
  match n, name with
  | n, "real" => some (.num n)
  | .float _, "imag" => some (.num (.float (.zero false)))
  | .dec _, "imag" => some (.num (.dec (.finite false 0 0)))
  | _, "imag" => some (.int 0)
  | .int n, "numerator" => some (.int n)
  | .int _, "denominator" => some (.int 1)
  | .frac q, "numerator" | .frac q, "_numerator" => some (.int q.num)
  | .frac q, "denominator" | .frac q, "_denominator" => some (.int q.den)
  | .frac _, "__slots__" => some (ofNames ["_numerator", "_denominator"])
  | _, _ => none

/-- The parts of a date, and the ends of the calendar. -/
def datePart? (d : Date) : String → Option Value
  | "year" => some (.int d.year)
  | "month" => some (.int d.month)
  | "day" => some (.int d.day)
  | "min" => some (.date .first)
  | "max" => some (.date .last)
  | "resolution" => some (.duration (.ofParts 1 0 0))
  | _ => none

/-- The parts of a time, and the ends of the day. -/
def timePart? (t : TimeOfDay) : String → Option Value
  | "hour" => some (.int t.hour)
  | "minute" => some (.int t.minute)
  | "second" => some (.int t.second)
  | "microsecond" => some (.int t.microsecond)
  | "tzinfo" => some .nil
  | "fold" => some (.int 0)
  | "min" => some (.time .first)
  | "max" => some (.time .last)
  | "resolution" => some (.duration ⟨1⟩)
  | _ => none

/-- The parts of a moment: those of its date and its time, and the ends of the
    calendar. -/
def momentPart? (m : Moment) : String → Option Value
  | "min" => some (.moment ⟨.first, .first⟩)
  | "max" => some (.moment ⟨.last, .last⟩)
  | "resolution" => some (.duration ⟨1⟩)
  | name => (datePart? m.date name).or (timePart? m.time name)

/-- The parts of a duration, and the ends of their range. -/
def durationPart? (d : Duration) : String → Option Value
  | "days" => some (.int d.days)
  | "seconds" => some (.int d.seconds)
  | "microseconds" => some (.int d.subseconds)
  | "min" => some (.duration .least)
  | "max" => some (.duration .greatest)
  | "resolution" => some (.duration ⟨1⟩)
  | _ => none

/-- What objects with attributes hold beside them: all of them as a mapping, and
    nothing where a key would be computed. -/
def attributePart? (attributes : List (String × Value)) : String → Option Value
  | "__dict__" => some (ofNamed attributes)
  | "__hash__" => some .nil
  | _ => none

/-- What rows hold beside their places. -/
def rowPart? (fields : List (String × Value)) : String → Option Value
  | "_fields" | "__match_args__" => some (ofNames (fields.map (·.1)))
  | "_field_defaults" => some (.dict [])
  | "__slots__" => some (.tuple [])
  | "__doc__" => some (.str ("Row(" ++ ", ".intercalate (fields.map (·.1)) ++ ")"))
  | _ => none

/-- The fields of a node, by name. -/
def nodeFields : Value → List (String × Value)
  | .fieldRef name => [("name", name)]
  | .relatedRef path field => [("path", .list path), ("field", field)]
  | .explicitRef relationship field => [("relationship", relationship), ("field", field)]
  | .literal value => [("value", value)]
  | .call op args => [("op", op), ("args", .list args)]
  | .hostCall function => [("function", function)]
  | _ => []

/-- What nodes hold beside their fields. -/
def nodePart? (fields : List (String × Value)) : String → Option Value
  | "__match_args__" => some (ofNames (fields.map (·.1)))
  | "__weakref__" => some .nil
  | name => attributePart? fields name

/-- What a member shows of itself: its name and its owner, and a kind what the host
    says about it. -/
def memberPart? (sort : MemberSort) (own : String) (owner : Value) : String → Option Value :=
  match sort with
  | .kind _ => fun
    | "__name__" | "__qualname__" => some (.str owner.kindName)
    | "__module__" => some (.str owner.kindPackage)
    | "__doc__" => some (owner.kindText?.elim .nil .str)
    | _ => none
  | sort => fun
    | "__name__" => some (.str own)
    | "__self__" => if sort.isBound then some owner else none
    | _ => none

/-- The value of the slot with a given name: of one that is listed twice, the value that was set
    last. -/
def slot? (declared : List (String × Option Value)) (name : String) : Option Value :=
  declared.reverse.findSome? fun s => if s.1 = name then s.2 else none

/-- What a kind puts in the place of an attribute: what it computes, and below that the first
    slot of the name. -/
def inPlace? (declared : List (String × Option Value))
    (computed : List (String × Host (Option Value))) (name : String) :
    Option (Host (Option Value)) :=
  (keyed? computed name).or ((keyed? declared name).map .ok)

/-- What an object of a kind of its own has under a name: all attributes as a mapping, what its
    kind puts in the place of an attribute, or the attribute. -/
def ownPart? (attributes : Option (List (String × Value)))
    (declared : List (String × Option Value)) (computed : List (String × Host (Option Value)))
    (name : String) : Host (Option Value) :=
  if name = "__dict__" then .ok (attributes.map ofNamed)
  else match inPlace? declared computed name with
    | some answer => answer
    | none => .ok (if name = "__class__" then none else attributes.bind (keyed? · name))

/-- The parts of a value of its own that it shows by name. The amount of a priced
    object is computed when it is asked for. -/
def part? (v : Value) (name : String) : Host (Option Value) :=
  match v with
  | .bool b => .ok (numberPart? (.int (if b then 1 else 0)) name)
  | .num n => .ok (numberPart? n name)
  | .list _ => .ok (if name = "__hash__" then some .nil else none)
  | .date d => .ok (datePart? d name)
  | .time t => .ok (timePart? t name)
  | .moment m => .ok (momentPart? m name)
  | .duration d => .ok (durationPart? d name)
  | .object attributes =>
    .ok (if name ∈ ["__dict__", "__class__"] then attributePart? attributes name
      else (keyed? attributes name).or (attributePart? attributes name))
  | .row fields => .ok ((keyed? fields name).or (rowPart? fields name))
  | .slots _ bare declared => .ok (match name with
    | "__slots__" => match bare, declared with
      | true, (only, _) :: _ => some (.str only)
      | _, _ => some (ofNames (declared.map (·.1)))
    | name => slot? declared name)
  | .priced _ region price quantity =>
    match name with
    | "region" => .ok (some region)
    | "price" => .ok (some price)
    | "qty" => .ok (some quantity)
    | "amount" => (price.times quantity).map some
    | "__dict__" => .ok (some (ofNamed [("region", region), ("price", price), ("qty", quantity)]))
    | "__weakref__" => .ok (some .nil)
    | _ => .ok none
  | .entity _ _ attributes declared computed => ownPart? attributes declared computed name
  | .sealed _ label => .ok (match name with
    | "label" => some (.str label)
    | "__slots__" => some (ofNames ["label"])
    | _ => none)
  | .member sort own owner => .ok (memberPart? sort own owner name)
  | v =>
    if v.isNode then .ok ((keyed? v.nodeFields name).or (nodePart? v.nodeFields name)) else .ok none

/-- The names of the attributes that an object keeps as a mapping. -/
def attributeNames : Value → List String
  | .object attributes => attributes.map (·.1)
  | .priced .. => ["region", "price", "qty"]
  | .entity _ _ attributes _ _ => (attributes.getD []).map (·.1)
  | v => v.nodeFields.map (·.1)

/-- The names of the slots that an object of its kind has, set or not. -/
def slotNames : Value → List String
  | .slots _ _ declared => declared.map (·.1)
  | .entity _ _ _ declared _ => declared.map (·.1)
  | .sealed .. => ["label"]
  | .num (.frac _) => ["_numerator", "_denominator"]
  | _ => []

/-- The names of what a kind puts in the place of attributes and of members: slots, and what it
    computes. -/
def managedNames : Value → List String
  | .entity _ _ _ declared computed => computed.map (·.1) ++ declared.map (·.1)
  | v => v.slotNames

/-- The attribute of a value with a given name: a part of it, or a member that all
    values of its kind have. A slot stands in the place of such a member even if it is unset, and
    a computed attribute even if it comes to nothing. -/
def attribute? (v : Value) (name : String) : Host (Option Value) :=
  (v.part? name).map fun found =>
    if name ∈ v.managedNames then found else found.or (v.member? name)

/-- Whether a value has fields that a path may go through: it is a mapping or an
    object with attributes of its own. -/
def isRecord : Value → Bool
  | .dict _ => true
  | .layered .. => true
  | .object _ => true
  | .priced .. => true
  | .entity _ _ attributes _ _ => attributes.isSome
  | .member sort _ _ => sort.hasAttributes
  | v => v.isNode

/-- The field of a record with a given name. -/
def lookup : Value → Value → Host (Option Value)
  | .dict entries, name => (name.asKey).map (under? entries)
  | .layered layer record, name => do
    let key ← name.asKey
    match key with
    | .str s =>
      match keyed? layer s with
      | some v => .ok (some v)
      | none => record.lookup name
    | _ => .ok none
  | record, .str s => record.attribute? s
  | _, _ => .error .unsuitable

/-- The members of a value that the host can go through one by one. -/
def iterate : Value → Host (List Value)
  | .str s => .ok (s.toList.map fun c => .str (String.singleton c))
  | .list items => .ok items
  | .tuple items => .ok items
  | .row fields => .ok (fields.map (·.2))
  | .dict entries => .ok (entries.map (·.1))
  | .bytes b => .ok (b.map fun byte => .int byte.toNat)
  | _ => .error .unsuitable

/-- The names of the fields that a record announces, each once: the keys of a
    mapping, what its own `_fields` says, as that of a row does, or else the attributes and
    the slots that are set. -/
def fieldNames : Value → Host (List Value)
  | .dict entries => .ok (entries.map (·.1))
  | .layered layer record => do
    let below ← record.fieldNames
    distinctKeys (below ++ layer.map fun e => .str e.1)
  | v => do
    -- No kind has a member of this name, and a slot hides a member of its name.
    match ← v.part? "_fields" with
    | some places => places.iterate
    | none =>
      let slots ← v.slotNames.filterM fun name => (v.part? name).map (·.isSome)
      return (v.attributeNames ++ slots).eraseDups.map .str

/-- How many fields a record announces. -/
def fieldCount (record : Value) : Host Nat :=
  record.fieldNames.map (·.length)

/-- Whether a record has a field of a given name; only texts are names. -/
def hasField (record name : Value) : Host Bool :=
  match name with
  | .str _ => (record.lookup name).map (·.isSome)
  | _ => .ok false

/-- The field of a record with a given name, which it must have. -/
def fieldValue (record name : Value) : Host Value := do
  match ← record.lookup name with
  | some v => .ok v
  | none => .error .missingKey

mutual

/-- A layered record as a mapping of all the fields that it announces, each of which
    has to be there; any other value as it is. -/
def asMapping : Value → Host Value
  | .layered layer record => do
    let layer ← layerAsMappings layer
    let names ← (Value.layered layer record).fieldNames
    let entries ← names.mapM fun name => do
      let shown := match name with
        | .str s => keyed? layer s
        | _ => none
      match shown with
      | some v => return (name, v)
      | none => return (name, ← record.fieldValue name)
    return .dict entries
  | v => .ok v
  termination_by structural v => v

/-- Named values, the layered records among them as mappings. -/
def layerAsMappings : List (String × Value) → Host (List (String × Value))
  | [] => .ok []
  | (name, v) :: rest => do return (name, ← asMapping v) :: (← layerAsMappings rest)
  termination_by structural fs => fs

end

/-- Whether a value is a mapping, layered or not. -/
def isMapping : Value → Bool
  | .dict _ => true
  | .layered .. => true
  | _ => false

/-- Whether two values are equal, layered records being the mappings that they
    show. -/
def equalsShown (v w : Value) : Host Bool :=
  if v.isMapping && w.isMapping then do (← v.asMapping).equals (← w.asMapping)
  else v.equals w

end Value

end ControlBreak
