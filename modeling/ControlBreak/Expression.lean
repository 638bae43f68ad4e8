import ControlBreak.Value.Record
import ControlBreak.Value.Text

/-!
# Expressions

An expression is a value that can be read as a node: a node itself, a shape that
stands for one (nothing, a name, a tuple of names, a number, a date), an object
that describes a reference or a call by its attributes, or a function of the
host. Everything that is done with expressions reads them one node at a time, by
`Value.node?`; the arguments of a call are read only when they are needed.

* `sizeOf_lt_of_node?`: the arguments of a call are smaller than what was read as
  the call, whatever its shape; so every traversal ends.
-/

namespace ControlBreak

/-- An expression read one level deep. The parts of references and calls are
    names in well-formed expressions, but may be any values. -/
inductive Node
  | field (name : Value)
  | related (path : List Value) (field : Value)
  | explicit (relationship field : Value)
  | literal (value : Value)
  | call (op : Value) (args : List Value)
  | host (function : Value)
  | absent
  deriving Inhabited, Repr

namespace Node

/-- The node as a value. -/
def toValue : Node → Value
  | .field name => .fieldRef name
  | .related path last => .relatedRef path last
  | .explicit relationship last => .explicitRef relationship last
  | .literal value => .literal value
  | .call op args => .call op args
  | .host function => .hostCall function
  | .absent => .absent

/-- The steps from the record to a field, as texts. A single step is a field, two
    are a relationship and its field, and more need the word `field` before them. -/
def ofSteps? : List Value → Option Node
  | [.str name] => some (.field (.str name))
  | [.str relationship, .str last] => some (.related [.str relationship] (.str last))
  | [.str "field", .str relationship, .str last] =>
    some (.explicit (.str relationship) (.str last))
  | .str "field" :: first :: second :: steps =>
    let path := first :: second :: steps.dropLast
    match steps.getLast? with
    | some last =>
      if (last :: path).all isStr then some (.related path last) else none
    | none => none
  | _ => none
where
  /-- Whether a value is a text. -/
  isStr : Value → Bool
    | .str _ => true
    | _ => false

end Node

namespace Value

/-- The value of an attribute that is there and not nothing. -/
def present? : Option Value → Option Value
  | some .nil => none
  | v => v

/-- The path of a reference, from its attribute: a missing or an empty one is no
    path, and else its members have to be texts. -/
def path? (found : Option Value) : Host (Option (List Value)) :=
  match found with
  | none => .ok (some [])
  | some v =>
    if v.isEmpty then .ok (some [])
    else do
      let steps ← v.iterate
      return if steps.all Node.ofSteps?.isStr then some steps else none

/-- The reference that an object describes: its `attribute` is a name or has one,
    and its `relationship_path` leads there. -/
def reference? (v : Value) : Host (Option Node) := do
  match present? (← v.attribute? "attribute") with
  | none => return none
  | some target =>
    match (← target.attribute? "name").getD target with
    | .str name =>
      match ← path? (← v.attribute? "relationship_path") with
      | none => return none
      | some [] => return some (.field (.str name))
      | some path => return some (.related path (.str name))
    | _ => return none

/-- The arguments of a call, which stand in a list or a tuple. -/
def arguments? : Value → Option (List Value)
  | .list items => some items
  | .tuple items => some items
  | .row fields => some (fields.map (·.2))
  | _ => none

/-- The call that an object describes by its `name` and its `args`. -/
def application? (v : Value) : Host (Option Node) := do
  match ← v.attribute? "name", ← v.attribute? "args" with
  | some (.str name), some args => return args.arguments?.map (.call (.str name))
  | _, _ => return none

/-- The node that an object stands for by its attributes, or by being a function
    of the host. -/
def described? (v : Value) : Host (Option Node) := do
  match ← v.reference? with
  | some n => return some n
  | none =>
    match ← v.application? with
    | some n => return some n
    | none => return if v.isCallable then some (.host v) else none

/-- The node that a value stands for; `none` if it is of no recognised shape. The text that
    describes such a value is not made here, so that it does not fail for integers of more than
    4300 digits as that of the host. -/
def node? (v : Value) : Host (Option Node) :=
  match v with
  | .fieldRef name => .ok (some (.field name))
  | .relatedRef path field => .ok (some (.related path field))
  | .explicitRef relationship field => .ok (some (.explicit relationship field))
  | .literal value => .ok (some (.literal value))
  | .call op args => .ok (some (.call op args))
  | .hostCall function => .ok (some (.host function))
  | .absent => .ok (some .absent)
  | .nil => .ok (some .absent)
  | .str name => .ok (some (.field (.str name)))
  | .bool b => .ok (some (.literal (.bool b)))
  | .num n => .ok (some (.literal (.num n)))
  | .date d => .ok (some (.literal (.date d)))
  | .time t => .ok (some (.literal (.time t)))
  | .moment m => .ok (some (.literal (.moment m)))
  | .duration d => .ok (some (.literal (.duration d)))
  | .tuple items => .ok (Node.ofSteps? items)
  | .row fields => .ok (Node.ofSteps? (fields.map (·.2)))
  | v => v.described?

/-- The fault of a value of no recognised shape. -/
def unrecognized (v : Value) : Fault :=
  .raised "UnrecognizedShape" [.str ("Unsupported expression shape: " ++ v.describe)]

/-- The node that follows relationships to a field: all steps but the last. -/
def related (steps : List Value) : Host Value :=
  match steps with
  | first :: second :: rest =>
    let steps := first :: second :: rest
    .ok (.relatedRef steps.dropLast (steps.getLastD .nil))
  | _ => .error (.badValue "related() requires a relationship and a field")

end Value

/-! ### The arguments of a call are smaller -/

theorem sizeOf_keyed?_lt {α : Type} [SizeOf α] {fields : List (String × α)} {name : String}
    {v : α} (h : keyed? fields name = some v) : sizeOf v < sizeOf fields := by
  simp only [keyed?, Option.map_eq_some_iff] at h
  obtain ⟨e, he, rfl⟩ := h
  have hm := List.sizeOf_lt_of_mem (List.mem_of_find?_eq_some he)
  obtain ⟨n, w⟩ := e
  simp at hm ⊢
  omega

theorem sizeOf_slot?_lt {declared : List (String × Option Value)} {name : String} {v : Value}
    (h : Value.slot? declared name = some v) : sizeOf v < sizeOf declared := by
  obtain ⟨⟨n, w⟩, hm, hv⟩ := List.exists_of_findSome?_eq_some h
  have hm := List.sizeOf_lt_of_mem (List.mem_reverse.1 hm)
  split at hv
  · dsimp only at hv
    subst hv
    simp at hm ⊢
    omega
  · cases hv

theorem sizeOf_map_snd_le (fields : List (String × Value)) :
    sizeOf (fields.map (·.2)) ≤ sizeOf fields := by
  induction fields with
  | nil => simp
  | cons f rest ih =>
    obtain ⟨n, v⟩ := f
    simp at ih ⊢
    omega

namespace Value

theorem sizeOf_pos (v : Value) : 0 < sizeOf v := by
  cases v <;> simp +arith

theorem sizeOf_lt_of_arguments? {v : Value} {args : List Value} (h : v.arguments? = some args) :
    sizeOf args < sizeOf v := by
  cases v <;> simp [arguments?] at h
  case list => subst h; simp
  case tuple => subst h; simp
  case row fields =>
    subst h
    have := sizeOf_map_snd_le fields
    simp
    omega

theorem arguments?_of_member? {v w : Value} {name : String} (h : v.member? name = some w) :
    w.arguments? = none := by
  unfold member? at h
  split at h
  · cases h
    rfl
  · cases h
    cases v.kindText? <;> rfl
  · obtain ⟨home, -, rfl⟩ := Option.map_eq_some_iff.1 h
    rfl
  · obtain ⟨sort, -, rfl⟩ := Option.map_eq_some_iff.1 h
    rfl

theorem sizeOf_lt_of_ownPart? {attributes : Option (List (String × Value))}
    {declared : List (String × Option Value)} {computed : List (String × Host (Option Value))}
    {name : String} {w : Value} (hn : name ≠ "__dict__")
    (h : ownPart? attributes declared computed name = .ok (some w)) :
    sizeOf w < sizeOf attributes + sizeOf declared + sizeOf computed := by
  rw [ownPart?, if_neg hn] at h
  split at h
  · rename_i answer ha
    subst h
    rcases Option.or_eq_some_iff.1 ha with hc | ⟨-, hd⟩
    · have := sizeOf_keyed?_lt hc
      simp at this
      omega
    · obtain ⟨found, hd, hf⟩ := Option.map_eq_some_iff.1 hd
      cases hf
      have := sizeOf_keyed?_lt hd
      simp at this
      omega
  · split at h
    · cases h
    · obtain ⟨kept, rfl, hw⟩ := Option.bind_eq_some_iff.1 (Except.ok.inj h)
      have := sizeOf_keyed?_lt hw
      simp
      omega

/-- Nothing but objects has a part `args`, nodes and rows apart. -/
theorem sizeOf_lt_of_part?_args {v w : Value} (h : v.part? "args" = .ok (some w)) :
    sizeOf w < sizeOf v := by
  cases v
  case call op args =>
    simp [part?, isNode, nodeFields, keyed?] at h
    subst h
    have := op.sizeOf_pos
    simp only [call.sizeOf_spec, list.sizeOf_spec]
    omega
  case object attributes =>
    have hn : attributePart? attributes "args" = none := rfl
    have hm : "args" ∉ ["__dict__", "__class__"] := by decide
    simp only [part?, hm, ↓reduceIte, hn, Option.or_none, Except.ok.injEq] at h
    have := sizeOf_keyed?_lt h
    simp
    omega
  case row fields =>
    have hn : rowPart? fields "args" = none := rfl
    simp only [part?, hn, Option.or_none, Except.ok.injEq] at h
    have := sizeOf_keyed?_lt h
    simp
    omega
  case slots id bare declared =>
    simp only [part?, Except.ok.injEq] at h
    have := sizeOf_slot?_lt h
    simp
    omega
  case entity id kind attributes declared computed =>
    have := sizeOf_lt_of_ownPart? (by decide) h
    simp
    omega
  case member sort own owner =>
    have hn : memberPart? sort own owner "args" = none := by cases sort <;> rfl
    simp [part?, hn] at h
  all_goals simp [part?, numberPart?, datePart?, timePart?, momentPart?, durationPart?, isNode,
    nodeFields, nodePart?, attributePart?, keyed?] at h

/-- The arguments that an attribute `args` holds are smaller than its owner. -/
theorem sizeOf_lt_of_attribute?_args {v w : Value} {args : List Value}
    (h : v.attribute? "args" = .ok (some w)) (hw : w.arguments? = some args) :
    sizeOf args < sizeOf v := by
  unfold attribute? at h
  cases hp : v.part? "args" with
  | error f => simp [hp, Except.map] at h
  | ok found =>
    have hpart : found = some w ∨ v.member? "args" = some w := by
      simp only [hp, Except.map, Except.ok.injEq] at h
      split at h
      · exact .inl h
      · exact (Option.or_eq_some_iff.1 h).imp id And.right
    rcases hpart with rfl | hm
    · exact Nat.lt_trans (sizeOf_lt_of_arguments? hw) (sizeOf_lt_of_part?_args hp)
    · simp [arguments?_of_member? hm] at hw

theorem application?_eq_some {v : Value} {n : Node} (h : v.application? = .ok (some n)) :
    ∃ name w args, v.attribute? "args" = .ok (some w) ∧ w.arguments? = some args ∧
      n = .call (.str name) args := by
  unfold application? at h
  cases hn : v.attribute? "name" with
  | error f => simp [hn, bind, Except.bind] at h
  | ok a =>
    cases ha : v.attribute? "args" with
    | error f => simp [hn, ha, bind, Except.bind] at h
    | ok b =>
      simp only [hn, ha, bind, Except.bind] at h
      split at h
      · rename_i a b name w
        simp only [pure, Except.pure, Except.ok.injEq, Option.map_eq_some_iff] at h
        obtain ⟨args, hargs, rfl⟩ := h
        exact ⟨name, w, args, rfl, hargs, rfl⟩
      · simp [pure, Except.pure] at h

theorem reference?_ne_call (v : Value) (op : Value) (args : List Value) :
    v.reference? ≠ .ok (some (.call op args)) := by
  intro h
  simp only [reference?, bind, Except.bind, pure, Except.pure] at h
  repeat' split at h
  all_goals simp at h

theorem sizeOf_lt_of_described? {v op : Value} {args : List Value}
    (h : v.described? = .ok (some (.call op args))) : sizeOf args < sizeOf v := by
  simp only [described?, bind, Except.bind, pure, Except.pure] at h
  split at h
  · simp at h
  · rename_i hr
    split at h
    · simp only [Except.ok.injEq, Option.some.injEq] at h
      subst h
      exact absurd hr (reference?_ne_call v op args)
    · split at h
      · simp at h
      · rename_i ha
        split at h
        · simp only [Except.ok.injEq, Option.some.injEq] at h
          subst h
          obtain ⟨name, w, args', hw, hargs, he⟩ := application?_eq_some ha
          cases he
          exact sizeOf_lt_of_attribute?_args hw hargs
        · split at h <;> simp at h

theorem ofSteps?_ne_call (items : List Value) (op : Value) (args : List Value) :
    Node.ofSteps? items ≠ some (.call op args) := by
  intro h
  unfold Node.ofSteps? at h
  repeat' split at h
  all_goals simp at h

theorem sizeOf_args_lt (op : Value) (args : List Value) : sizeOf args < sizeOf (call op args) := by
  simp only [call.sizeOf_spec]
  omega

theorem sizeOf_lt_of_node? {v op : Value} {args : List Value}
    (h : v.node? = .ok (some (.call op args))) : sizeOf args < sizeOf v := by
  unfold node? at h
  split at h
  all_goals try (exact sizeOf_lt_of_described? h)
  all_goals simp [ofSteps?_ne_call] at h
  obtain ⟨rfl, rfl⟩ := h
  exact sizeOf_args_lt _ _

end Value

end ControlBreak
