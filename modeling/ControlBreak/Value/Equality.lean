import ControlBreak.Fault

/-!
# Equality of values

Values are equal when what they hold is equal: numbers of all kinds by value,
truth values among them, containers member by member, objects attribute by
attribute. Objects that are told apart by marks equal themselves only.

A member of a container counts as equal to itself even if it is a number that is
none, which otherwise equals nothing; that is what marks are for. Comparison
fails only on a decimal that signals.

Keys of mappings must be hashable; no comparison of hashable values fails.

`Value.recurs` compares the values that two records have.
-/

namespace ControlBreak

namespace Value

/-- Whether two values are one occurrence of a number that is none. -/
def sameMark : Value → Value → Bool
  | .num (.float (.nan m)), .num (.float (.nan n)) => m.same n
  | .num (.dec (.nan _ _ _ m)), .num (.dec (.nan _ _ _ n)) => m.same n
  | _, _ => false

/-- Whether two members of containers are equal, given whether their values are:
    one occurrence is equal to itself. -/
def orSame (v w : Value) (equal : Host Bool) : Host Bool :=
  if sameMark v w then .ok true else equal

mutual

/-- Whether two values are equal. -/
def equals : Value → Value → Host Bool
  | .nil, .nil => .ok true
  | .bool a, w => match w.number? with
    | some n => hostNumber ((Number.int (if a then 1 else 0)).equals n)
    | none => .ok false
  | .num a, w => match w.number? with
    | some n => hostNumber (a.equals n)
    | none => .ok false
  | .str s, .str t => .ok (s == t)
  | .list items, .list others =>
    if items.length = others.length then equalMembers items others else .ok false
  | .tuple items, w => match w.members? with
    | some others => equalMembers items others
    | none => .ok false
  | .row fields, w => match w.members? with
    | some others => equalRow fields others
    | none => .ok false
  | .dict entries, .dict others =>
    if entries.length = others.length then equalEntries entries others else .ok false
  | .bytes a, .bytes b => .ok (a == b)
  | .date a, .date b => .ok (a == b)
  | .time a, .time b => .ok (a == b)
  | .moment a, .moment b => .ok (a == b)
  | .duration a, .duration b => .ok (a == b)
  | .object attributes, .object others =>
    if attributes.length = others.length then equalFields attributes others else .ok false
  | .slots i _ _, .slots j _ _ => .ok (i.same j)
  | .priced i _ _ _, .priced j _ _ _ => .ok (i.same j)
  | .entity i _ _ _ _, .entity j _ _ _ _ => .ok (i.same j)
  | .sealed i _, .sealed j _ => .ok (i.same j)
  | .native i _ _ _, .native j _ _ _ => .ok (i.same j)
  | .member sort name owner, .member sort' name' owner' =>
    if sort = sort' ∧ name = name' then
      if sort.isBound then orSame owner owner' (owner.equals owner') else .ok true
    else .ok false
  | .fieldRef a, .fieldRef b => orSame a b (a.equals b)
  | .relatedRef path a, .relatedRef others b =>
    if path.length = others.length then do
      if ← equalMembers path others then orSame a b (a.equals b) else .ok false
    else .ok false
  | .explicitRef r a, .explicitRef s b => do
    if ← orSame r s (r.equals s) then orSame a b (a.equals b) else .ok false
  | .literal a, .literal b => orSame a b (a.equals b)
  | .call op args, .call op' others => do
    if ← orSame op op' (op.equals op') then
      if args.length = others.length then equalMembers args others else .ok false
    else .ok false
  | .hostCall a, .hostCall b => orSame a b (a.equals b)
  | .absent, .absent => .ok true
  | _, _ => .ok false
  termination_by structural v => v

/-- Whether members are equal one by one. -/
def equalMembers : List Value → List Value → Host Bool
  | [], [] => .ok true
  | v :: rest, w :: others => do
    if ← orSame v w (v.equals w) then equalMembers rest others else .ok false
  | _, _ => .ok false
  termination_by structural vs => vs

/-- Whether the places of a row are equal to members, one by one. -/
def equalRow : List (String × Value) → List Value → Host Bool
  | [], [] => .ok true
  | (_, v) :: rest, w :: others => do
    if ← orSame v w (v.equals w) then equalRow rest others else .ok false
  | _, _ => .ok false
  termination_by structural fs => fs

/-- Whether each entry has an equal one under the same key. -/
def equalEntries : List (Value × Value) → List (Value × Value) → Host Bool
  | [], _ => .ok true
  | (k, v) :: rest, others =>
    let same (key : Value) : Bool := sameMark k key ||
      match k.equals key with
      | .ok b => b
      | .error _ => false
    match others.find? fun e => same e.1 with
    | none => .ok false
    | some (_, w) => do
      if ← orSame v w (v.equals w) then equalEntries rest others
      else .ok false
  termination_by structural es => es

/-- Whether each attribute has an equal one of the same name. -/
def equalFields : List (String × Value) → List (String × Value) → Host Bool
  | [], _ => .ok true
  | (name, v) :: rest, others =>
    match others.find? fun e => e.1 == name with
    | none => .ok false
    | some (_, w) => do
      if ← orSame v w (v.equals w) then equalFields rest others
      else .ok false
  termination_by structural fs => fs

end

/-- Whether two members of containers are equal. -/
def equalMember (v w : Value) : Host Bool :=
  orSame v w (v.equals w)

/-- Whether two keys are one key. -/
def sameKey (k key : Value) : Bool :=
  match equalMember k key with
  | .ok b => b
  | .error _ => false

/-- Whether equal values are one thing of the host wherever they come from, as the
    least of numbers, texts and tuples are. -/
def isShared : Value → Bool
  | .nil => true
  | .bool _ => true
  | .num (.int n) => -5 ≤ n && n ≤ 256
  | .str s => s.length ≤ 1 && s.toList.all (·.toNat < 256)
  | .tuple items => items.isEmpty
  | .bytes b => b.length ≤ 1
  | _ => false

/-- Whether a value comes back with another record. A member that belongs to its
    owner does not, unless the owner is shared: another record has its own. So it is
    also if one record is consumed twice, though the host would then take a member of
    it for the same one. -/
def recurs (v w : Value) : Host Bool :=
  match v, w with
  | .member sort _ owner, .member .. =>
    if sort.isBound && !owner.isShared then .ok false else v.equals w
  | v, w => v.equals w

/-- Whether values come back with another record, as keys. -/
def recurAll : List Value → List Value → Bool
  | [], [] => true
  | v :: rest, w :: others =>
    (sameMark v w || match v.recurs w with
      | .ok b => b
      | .error _ => false) && recurAll rest others
  | _, _ => false

mutual

/-- Whether a value may be a key: it is not a container that could change, nor
    holds one. -/
def isHashable : Value → Bool
  | .num n => !n.isSignaling
  | .list _ => false
  | .tuple items => allHashable items
  | .dict _ => false
  | .object _ => false
  | .row fields => allFieldsHashable fields
  | .layered .. => false
  | .fieldRef _ => false
  | .relatedRef .. => false
  | .explicitRef .. => false
  | .literal _ => false
  | .call .. => false
  | .hostCall _ => false
  | .absent => false
  | _ => true
  termination_by structural v => v

/-- Whether all values may be keys. -/
def allHashable : List Value → Bool
  | [] => true
  | v :: rest => v.isHashable && allHashable rest
  termination_by structural vs => vs

/-- Whether all places of a row may be keys. -/
def allFieldsHashable : List (String × Value) → Bool
  | [] => true
  | (_, v) :: rest => v.isHashable && allFieldsHashable rest
  termination_by structural fs => fs

end

/-- The key, if it may be one. -/
def asKey (k : Value) : Host Value :=
  if k.isHashable then .ok k else .error .unsuitable

/-- The value under a key. -/
def under? (entries : List (Value × Value)) (key : Value) : Option Value :=
  (entries.find? fun e => sameKey e.1 key).map (·.2)

/-- The entries with a value under a key: in its old place if the key was there,
    else at the end. -/
def insertEntry (key value : Value) : List (Value × Value) → List (Value × Value)
  | [] => [(key, value)]
  | (k, v) :: rest =>
    if sameKey k key then (k, value) :: rest else (k, v) :: insertEntry key value rest

/-- Keys without those that occurred before. -/
def distinct (keys : List Value) : List Value :=
  keys.foldl (fun seen k => if seen.any (sameKey · k) then seen else seen ++ [k]) []

/-- Keys without those that occurred before, if all may be keys. -/
def distinctKeys (keys : List Value) : Host (List Value) :=
  if keys.all isHashable then .ok (distinct keys) else .error .unsuitable

end Value

end ControlBreak
