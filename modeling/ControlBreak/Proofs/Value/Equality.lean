import ControlBreak.Proofs.Host
import ControlBreak.Value.Equality

/-!
# Values and themselves

A value is compared with itself when a record comes again. Most values are equal to themselves,
but not all: a number that is none equals nothing, and what a function of the host makes is
another thing every time.

A value *lasts* if nothing in it was made just now. Of the values that last, only the numbers
that are none are not equal to themselves (`Lasts.equals_self_iff`). A container that holds one
is equal to itself all the same, as the member is one occurrence.
-/

namespace ControlBreak

namespace Extended

theorem compareScaled_self (x : Nat) (e : Int) : compareScaled x e x e = .eq := by
  rw [compareScaled]
  split
  · exact Std.ReflCmp.compare_self
  · simp only [Std.ReflCmp.compare_self]

theorem compare?_self_iff {x : Extended} : x.compare? x = some .eq ↔ x ≠ .undefined := by
  cases x with
  | undefined => simp [compare?]
  | negInfinity | posInfinity => simp [compare?]
  | finite a b e =>
    refine iff_of_true ?_ nofun
    rw [compare?]
    simp only [compareScaled_self, Std.ReflCmp.compare_self, ite_self]

end Extended

/-- A number equals itself unless it is none. -/
theorem Number.equals_self_iff {n : Number} : n.equals n = .ok true ↔ n.extended ≠ .undefined := by
  rw [← Extended.compare?_self_iff, equals, Bool.or_self]
  split
  · rename_i hs
    -- What signals is a decimal that is none.
    have hundefined : n.extended = .undefined := by
      cases n with
      | dec d =>
        cases d with
        | nan => rfl
        | _ => cases hs
      | int | float | frac => cases hs
    simp [hundefined, Extended.compare?]
  · simp

/-- An operation of the host fails only on a decimal for which it is not defined. -/
def Host.FailsOnDecimals {α : Type} (x : Host α) : Prop :=
  ∀ f, x = .error f → f = .invalidDecimal

namespace Host.FailsOnDecimals

variable {α β : Type}

theorem ok (a : α) : FailsOnDecimals (.ok a) := nofun

theorem bind {x : Host α} {f : α → Host β} (hx : FailsOnDecimals x)
    (hf : ∀ a, FailsOnDecimals (f a)) : FailsOnDecimals (x >>= f) := by
  intro g h
  cases x with
  | error =>
    cases h
    exact hx g rfl
  | ok a => exact hf a g h

theorem ite {c : Prop} [Decidable c] {x y : Host α} (hx : FailsOnDecimals x)
    (hy : FailsOnDecimals y) : FailsOnDecimals (if c then x else y) := by
  split
  exacts [hx, hy]

end Host.FailsOnDecimals

namespace Value

variable {v : Value} {items : List Value} {entries : List (Value × Value)}
  {fields : List (String × Value)}

/-- A number that is none. -/
def IsUndefined : Value → Prop
  | .num n => n.extended = .undefined
  | _ => False

/-- A value of which nothing was made just now, so that it is the same thing whenever it is
    looked at. The keys of a mapping are distinct, and the names of attributes are. -/
inductive Lasts : Value → Prop
  | nil : Lasts .nil
  | bool (b : Bool) : Lasts (.bool b)
  | num {n : Number} : (n.extended = .undefined → sameMark (.num n) (.num n) = true) →
    Lasts (.num n)
  | str (s : String) : Lasts (.str s)
  | list {items : List Value} : (∀ v ∈ items, Lasts v) → Lasts (.list items)
  | tuple {items : List Value} : (∀ v ∈ items, Lasts v) → Lasts (.tuple items)
  | dict {entries : List (Value × Value)} : (∀ e ∈ entries, Lasts e.1) →
    (∀ e ∈ entries, Lasts e.2) → (entries.Pairwise fun e f => sameKey f.1 e.1 = false) →
    Lasts (.dict entries)
  | bytes (b : List UInt8) : Lasts (.bytes b)
  | date (d : Date) : Lasts (.date d)
  | time (t : TimeOfDay) : Lasts (.time t)
  | moment (m : Moment) : Lasts (.moment m)
  | duration (d : Duration) : Lasts (.duration d)
  | object {attributes : List (String × Value)} : (∀ e ∈ attributes, Lasts e.2) →
    (attributes.map (·.1)).Nodup → Lasts (.object attributes)
  | row {fields : List (String × Value)} : (∀ e ∈ fields, Lasts e.2) → Lasts (.row fields)
  | slots {id : Mark} (bare : Bool) (declared : List (String × Option Value)) : id ≠ .fresh →
    Lasts (.slots id bare declared)
  | priced {id : Mark} (region price quantity : Value) : id ≠ .fresh →
    Lasts (.priced id region price quantity)
  | entity {id : Mark} (kind : String) (attributes : Option (List (String × Value)))
    (declared : List (String × Option Value))
    (computed : List (String × Except (Cause Value) (Option Value))) : id ≠ .fresh →
    Lasts (.entity id kind attributes declared computed)
  | sealed {id : Mark} (label : String) : id ≠ .fresh → Lasts (.sealed id label)
  | native {id : Mark} (written : String) (action : NativeAction)
    (own : Except (Cause Value) (List Value)) : id ≠ .fresh → Lasts (.native id written action own)
  | member (sort : MemberSort) (name : String) {owner : Value} : Lasts owner →
    Lasts (.member sort name owner)
  | fieldRef {name : Value} : Lasts name → Lasts (.fieldRef name)
  | relatedRef {path : List Value} {field : Value} : (∀ v ∈ path, Lasts v) → Lasts field →
    Lasts (.relatedRef path field)
  | explicitRef {relationship field : Value} : Lasts relationship → Lasts field →
    Lasts (.explicitRef relationship field)
  | literal {value : Value} : Lasts value → Lasts (.literal value)
  | call {op : Value} {args : List Value} : Lasts op → (∀ v ∈ args, Lasts v) → Lasts (.call op args)
  | hostCall {function : Value} : Lasts function → Lasts (.hostCall function)
  | absent : Lasts .absent

/-- A member that lasts is equal to itself if it is so outside of containers, and also if it is
    a number that is none. -/
theorem equalMember_self (h : Lasts v) (hv : ¬v.IsUndefined → v.equals v = .ok true) :
    equalMember v v = .ok true := by
  rw [equalMember, orSame]
  by_cases hu : v.IsUndefined
  · cases h with
    | num hmark => rw [if_pos (hmark hu)]
    | _ => cases hu
  · rw [hv hu, ite_self]

theorem equalMembers_self (h : ∀ v ∈ items, equalMember v v = .ok true) :
    equalMembers items items = .ok true := by
  induction items with
  | nil => rfl
  | cons v items ih =>
    obtain ⟨hv, h⟩ := List.forall_mem_cons.1 h
    exact Host.bind_eq_ok.2 ⟨true, hv, ih h⟩

theorem equalRow_self (h : ∀ e ∈ fields, equalMember e.2 e.2 = .ok true) :
    equalRow fields (fields.map (·.2)) = .ok true := by
  induction fields with
  | nil => rfl
  | cons e fields ih =>
    obtain ⟨hv, h⟩ := List.forall_mem_cons.1 h
    exact Host.bind_eq_ok.2 ⟨true, hv, ih h⟩

theorem sameKey_eq (k key : Value) : sameKey k key = (sameMark k key ||
    match k.equals key with
    | .ok b => b
    | .error _ => false) := by
  rw [sameKey, equalMember, orSame]
  cases sameMark k key <;> rfl

/-- What differs from all that stands before it is found where it stands. -/
theorem find?_of_mem {α : Type} {p : α → α → Bool} {l : List α} {e : α}
    (hd : l.Pairwise fun e f => p f e = false) (he : e ∈ l) (hself : p e e = true) :
    l.find? (p e) = some e := by
  obtain ⟨before, after, rfl⟩ := List.append_of_mem he
  refine List.find?_eq_some_iff_append.2 ⟨hself, before, after, rfl, fun f hf => ?_⟩
  rw [(List.pairwise_append.1 hd).2.2 f hf e List.mem_cons_self]
  rfl

theorem equalEntries_self {others : List (Value × Value)} (hsub : ∀ e ∈ entries, e ∈ others)
    (hd : others.Pairwise fun e f => sameKey f.1 e.1 = false)
    (hk : ∀ e ∈ entries, equalMember e.1 e.1 = .ok true)
    (hv : ∀ e ∈ entries, equalMember e.2 e.2 = .ok true) :
    equalEntries entries others = .ok true := by
  induction entries with
  | nil => rfl
  | cons e entries ih =>
    obtain ⟨he, hsub⟩ := List.forall_mem_cons.1 hsub
    obtain ⟨hek, hk⟩ := List.forall_mem_cons.1 hk
    obtain ⟨hev, hv⟩ := List.forall_mem_cons.1 hv
    -- A key finds its own entry, as no key before it is the same one.
    have hfind := find?_of_mem (p := fun e f => sameKey e.1 f.1) hd he (by rw [sameKey, hek])
    simp only [sameKey_eq] at hfind
    have hrest := ih hsub hk hv
    rw [equalEntries]
    split
    · rename_i hnone
      cases hfind.symm.trans hnone
    · rename_i hsome
      cases hfind.symm.trans hsome
      exact Host.bind_eq_ok.2 ⟨true, hev, hrest⟩

theorem equalFields_self {others : List (String × Value)} (hsub : ∀ e ∈ fields, e ∈ others)
    (hd : (others.map (·.1)).Nodup) (hv : ∀ e ∈ fields, equalMember e.2 e.2 = .ok true) :
    equalFields fields others = .ok true := by
  induction fields with
  | nil => rfl
  | cons e fields ih =>
    obtain ⟨he, hsub⟩ := List.forall_mem_cons.1 hsub
    obtain ⟨hev, hv⟩ := List.forall_mem_cons.1 hv
    have hfind := find?_of_mem (p := fun e f : String × Value => f.1 == e.1)
      ((List.pairwise_map.1 hd).imp fun h => beq_eq_false_iff_ne.2 h) he (beq_self_eq_true _)
    rw [equalFields, hfind]
    exact Host.bind_eq_ok.2 ⟨true, hev, ih hsub hv⟩

/-- A value that lasts is equal to itself unless it is a number that is none. -/
theorem Lasts.equals_self (h : Lasts v) (hv : ¬v.IsUndefined) : v.equals v = .ok true := by
  induction h with
  | nil => rfl
  | absent => rfl
  | bool b =>
    have hint : (Number.int (if b then 1 else 0)).extended ≠ .undefined := by cases b <;> nofun
    exact congrArg hostNumber (Number.equals_self_iff.2 hint)
  | num => exact congrArg hostNumber (Number.equals_self_iff.2 hv)
  | str | bytes | date | time | moment | duration => simp [equals]
  | list hitems ih =>
    rw [equals, if_pos rfl]
    exact equalMembers_self fun v hv => equalMember_self (hitems v hv) (ih v hv)
  | tuple hitems ih =>
    rw [equals, members?]
    exact equalMembers_self fun v hv => equalMember_self (hitems v hv) (ih v hv)
  | row hfields ih =>
    rw [equals, members?]
    exact equalRow_self fun e he => equalMember_self (hfields e he) (ih e he)
  | dict hkeys hvalues hd ihk ihv =>
    rw [equals, if_pos rfl]
    exact equalEntries_self (fun _ => id) hd (fun e he => equalMember_self (hkeys e he) (ihk e he))
      fun e he => equalMember_self (hvalues e he) (ihv e he)
  | object hvalues hd ih =>
    rw [equals, if_pos rfl]
    exact equalFields_self (fun _ => id) hd fun e he => equalMember_self (hvalues e he) (ih e he)
  | slots _ _ hid => rw [equals, Mark.same_self hid]
  | priced _ _ _ hid => rw [equals, Mark.same_self hid]
  | entity _ _ _ _ hid => rw [equals, Mark.same_self hid]
  | sealed _ hid => rw [equals, Mark.same_self hid]
  | native _ _ _ hid => rw [equals, Mark.same_self hid]
  | member sort _ ho ih =>
    rw [equals, if_pos ⟨rfl, rfl⟩]
    split
    · exact equalMember_self ho ih
    · rfl
  | fieldRef ha ih => exact equalMember_self ha ih
  | literal ha ih => exact equalMember_self ha ih
  | hostCall ha ih => exact equalMember_self ha ih
  | relatedRef hpath ha ihp ih =>
    rw [equals, if_pos rfl]
    have hself := equalMembers_self fun v hv => equalMember_self (hpath v hv) (ihp v hv)
    exact Host.bind_eq_ok.2 ⟨true, hself, equalMember_self ha ih⟩
  | explicitRef hr ha ihr ih =>
    exact Host.bind_eq_ok.2 ⟨true, equalMember_self hr ihr, equalMember_self ha ih⟩
  | call ho hargs iho ih =>
    rw [equals]
    refine Host.bind_eq_ok.2 ⟨true, equalMember_self ho iho, ?_⟩
    rw [if_pos rfl, if_pos rfl]
    exact equalMembers_self fun v hv => equalMember_self (hargs v hv) (ih v hv)

theorem equals_of_isUndefined (hv : v.IsUndefined) : v.equals v ≠ .ok true := by
  cases v with
  | num n =>
    intro h
    rw [equals, number?] at h
    refine Number.equals_self_iff.1 ?_ hv
    cases he : n.equals n <;> simp_all [hostNumber]
  | _ => cases hv

/-- Of the values that last, only the numbers that are none are not equal to themselves. -/
theorem Lasts.equals_self_iff (h : Lasts v) : v.equals v = .ok true ↔ ¬v.IsUndefined :=
  ⟨fun he hv => equals_of_isUndefined hv he, h.equals_self⟩

/-! ### Equality that fails -/

theorem failsOnDecimals_equals_num (a b : Number) : (hostNumber (a.equals b)).FailsOnDecimals := by
  rw [Number.equals]
  split
  · rintro _ ⟨⟩
    rfl
  · exact .ok _

theorem failsOnDecimals_orSame {v w : Value} {equal : Host Bool} (h : equal.FailsOnDecimals) :
    (orSame v w equal).FailsOnDecimals := .ite (.ok true) h

mutual

/-- Equality fails only on decimals that signal. -/
theorem failsOnDecimals_equals : ∀ v w : Value, (v.equals w).FailsOnDecimals
  | .num a, w => by
    rw [equals]
    cases w.number? with
    | some b => exact failsOnDecimals_equals_num a b
    | none => exact .ok _
  | .bool a, w => by
    rw [equals]
    cases w.number? with
    | some b => exact failsOnDecimals_equals_num _ b
    | none => exact .ok _
  | .list items, w => by
    cases w with
    | list others => exact .ite (failsOnDecimals_equalMembers items others) (.ok _)
    | _ => exact .ok _
  | .tuple items, w => by
    rw [equals]
    cases w.members? with
    | some others => exact failsOnDecimals_equalMembers items others
    | none => exact .ok _
  | .row fields, w => by
    rw [equals]
    cases w.members? with
    | some others => exact failsOnDecimals_equalRow fields others
    | none => exact .ok _
  | .dict entries, w => by
    cases w with
    | dict others => exact .ite (failsOnDecimals_equalEntries entries others) (.ok _)
    | _ => exact .ok _
  | .object attributes, w => by
    cases w with
    | object others => exact .ite (failsOnDecimals_equalFields attributes others) (.ok _)
    | _ => exact .ok _
  | .member sort name owner, w => by
    cases w with
    | member sort' name' owner' =>
      refine .ite (.ite ?_ (.ok _)) (.ok _)
      exact failsOnDecimals_orSame (failsOnDecimals_equals owner owner')
    | _ => exact .ok _
  | .fieldRef a, w => by
    cases w with
    | fieldRef b => exact failsOnDecimals_orSame (failsOnDecimals_equals a b)
    | _ => exact .ok _
  | .relatedRef path a, w => by
    cases w with
    | relatedRef others b =>
      refine .ite (.bind (failsOnDecimals_equalMembers path others) fun _ => ?_) (.ok _)
      exact .ite (failsOnDecimals_orSame (failsOnDecimals_equals a b)) (.ok _)
    | _ => exact .ok _
  | .explicitRef r a, w => by
    cases w with
    | explicitRef s b =>
      refine .bind (failsOnDecimals_orSame (failsOnDecimals_equals r s)) fun _ => .ite ?_ (.ok _)
      exact failsOnDecimals_orSame (failsOnDecimals_equals a b)
    | _ => exact .ok _
  | .literal a, w => by
    cases w with
    | literal b => exact failsOnDecimals_orSame (failsOnDecimals_equals a b)
    | _ => exact .ok _
  | .call op args, w => by
    cases w with
    | call op' others =>
      refine .bind (failsOnDecimals_orSame (failsOnDecimals_equals op op')) fun _ => .ite ?_ (.ok _)
      exact .ite (failsOnDecimals_equalMembers args others) (.ok _)
    | _ => exact .ok _
  | .hostCall a, w => by
    cases w with
    | hostCall b => exact failsOnDecimals_orSame (failsOnDecimals_equals a b)
    | _ => exact .ok _
  | .nil, w | .str _, w | .bytes _, w | .date _, w | .time _, w | .moment _, w | .duration _, w
  | .slots .., w | .priced .., w | .entity .., w | .sealed .., w | .native .., w | .layered .., w
  | .absent, w => by
    cases w <;> exact .ok _
  termination_by structural v => v

theorem failsOnDecimals_equalMembers :
    ∀ items others : List Value, (equalMembers items others).FailsOnDecimals
  | [], others => by cases others <;> exact .ok _
  | v :: items, [] => .ok _
  | v :: items, w :: others =>
    .bind (failsOnDecimals_orSame (failsOnDecimals_equals v w)) fun _ =>
      .ite (failsOnDecimals_equalMembers items others) (.ok _)
  termination_by structural items => items

theorem failsOnDecimals_equalRow :
    ∀ (fields : List (String × Value)) (others : List Value),
      (equalRow fields others).FailsOnDecimals
  | [], others => by cases others <;> exact .ok _
  | (_, v) :: fields, [] => .ok _
  | (_, v) :: fields, w :: others =>
    .bind (failsOnDecimals_orSame (failsOnDecimals_equals v w)) fun _ =>
      .ite (failsOnDecimals_equalRow fields others) (.ok _)
  termination_by structural fields => fields

theorem failsOnDecimals_equalEntries :
    ∀ entries others : List (Value × Value), (equalEntries entries others).FailsOnDecimals
  | [], _ => .ok _
  | (k, v) :: entries, others => by
    rw [equalEntries]
    split
    · exact .ok _
    · refine .bind (failsOnDecimals_orSame (failsOnDecimals_equals v _)) fun _ => .ite ?_ (.ok _)
      exact failsOnDecimals_equalEntries entries others
  termination_by structural entries => entries

theorem failsOnDecimals_equalFields :
    ∀ fields others : List (String × Value), (equalFields fields others).FailsOnDecimals
  | [], _ => .ok _
  | (name, v) :: fields, others => by
    rw [equalFields]
    split
    · exact .ok _
    · refine .bind (failsOnDecimals_orSame (failsOnDecimals_equals v _)) fun _ => .ite ?_ (.ok _)
      exact failsOnDecimals_equalFields fields others
  termination_by structural fields => fields

end

end Value

end ControlBreak
