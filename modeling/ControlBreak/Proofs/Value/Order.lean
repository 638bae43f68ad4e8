import ControlBreak.Proofs.Value.Equality
import ControlBreak.Value.Order

/-!
# Pairs that refuse to be compared

Most pairs of values have no order, and that is found out and reported. Some pairs have none for
another reason: a decimal that is none refuses to be compared with any number, and so does a
decimal with any number that is none. A sequence is compared by the first members that are not
equal, so it refuses what they refuse, and also if it cannot be told whether members are equal.

* `Undecided`: the pairs that refuse to be compared, as a relation;
* `compares_eq_fault_iff`: a comparison fails if the pair is unsuitable, or if it is undecided.
-/

namespace ControlBreak

namespace Extended

theorem compare?_eq_none_iff {x y : Extended} :
    x.compare? y = none ↔ x = .undefined ∨ y = .undefined := by
  cases x <;> cases y <;> simp [compare?]

end Extended

/-- Two numbers refuse to be compared: one of them is none, and one is a decimal. -/
def Number.Undecided (a b : Number) : Prop :=
  (a.extended = .undefined ∨ b.extended = .undefined) ∧ (a.isDecimal || b.isDecimal) = true

instance (a b : Number) : Decidable (a.Undecided b) :=
  inferInstanceAs (Decidable (_ ∧ _))

theorem Number.compares_eq_fault_iff {c : Comparison} {a b : Number} {f : Fault} :
    hostNumber (a.compares c b) = .error f ↔ f = .invalidDecimal ∧ a.Undecided b := by
  rw [Number.compares, Number.Undecided, ← Extended.compare?_eq_none_iff]
  cases a.extended.compare? b.extended with
  | some o => simp [hostNumber]
  | none =>
    cases a.isDecimal || b.isDecimal with
    | true => simp [hostNumber, NumberFault.toFault, eq_comm]
    | false => simp [hostNumber]

namespace Value

variable {c : Comparison} {v w v' w' : Value} {items others : List Value} {f : Fault}

/-- The first members of two sequences that are not found to be equal. -/
inductive FirstUnequal : List Value → List Value → Value → Value → Prop
  | head {v w : Value} (rest others : List Value) : equalMember v w ≠ .ok true →
    FirstUnequal (v :: rest) (w :: others) v w
  | tail {v w v' w' : Value} {rest others : List Value} : equalMember v w = .ok true →
    FirstUnequal rest others v' w' → FirstUnequal (v :: rest) (w :: others) v' w'

/-- Two lists with their members, or two tuples or rows with theirs. -/
inductive Sequences : Value → Value → List Value → List Value → Prop
  | lists (items others : List Value) : Sequences (.list items) (.list others) items others
  | tuples {v w : Value} {items others : List Value} : v.members? = some items →
    w.members? = some others → Sequences v w items others

/-- Two values refuse to be compared: they are numbers that do, or sequences for which the first
    members that are not found to be equal do, or refuse to be asked whether they are equal. -/
inductive Undecided : Value → Value → Prop
  | numbers {v w : Value} {a b : Number} : v.number? = some a → w.number? = some b →
    a.Undecided b → Undecided v w
  | equality {v w v' w' : Value} {items others : List Value} : Sequences v w items others →
    FirstUnequal items others v' w' → equalMember v' w' = .error .invalidDecimal → Undecided v w
  | order {v w v' w' : Value} {items others : List Value} : Sequences v w items others →
    FirstUnequal items others v' w' → equalMember v' w' = .ok false → Undecided v' w' →
    Undecided v w

theorem FirstUnequal.mem (h : FirstUnequal items others v w) : v ∈ items := by
  induction h with
  | head => exact List.mem_cons_self
  | tail _ _ ih => exact List.mem_cons_of_mem _ ih

theorem firstUnequal_cons_iff {rest : List Value} :
    FirstUnequal (v :: rest) (w :: others) v' w' ↔ equalMember v w ≠ .ok true ∧ v' = v ∧ w' = w ∨
      equalMember v w = .ok true ∧ FirstUnequal rest others v' w' := by
  constructor
  · rintro (⟨_, _, hne⟩ | ⟨he, h⟩)
    exacts [.inl ⟨hne, rfl, rfl⟩, .inr ⟨he, h⟩]
  · rintro (⟨hne, rfl, rfl⟩ | ⟨he, h⟩)
    exacts [.head _ _ hne, .tail he h]

/-- The members of a sequence are smaller than it. -/
theorem Sequences.sizeOf_lt (h : Sequences v w items others) (hv : v' ∈ items) :
    sizeOf v' < sizeOf v := by
  cases h with
  | lists =>
    have hlt := List.sizeOf_lt_of_mem hv
    simp only [list.sizeOf_spec]
    omega
  | tuples hm =>
    cases v with
    | tuple =>
      cases hm
      have hlt := List.sizeOf_lt_of_mem hv
      simp only [tuple.sizeOf_spec]
      omega
    | row fields =>
      cases hm
      obtain ⟨e, he, rfl⟩ := List.mem_map.1 hv
      have hlt := List.sizeOf_lt_of_mem he
      obtain ⟨name, value⟩ := e
      simp only [row.sizeOf_spec, Prod.mk.sizeOf_spec] at hlt ⊢
      omega
    | _ => cases hm

/-! ### Comparisons -/

/-- Sequences are compared by their first members that are not found to be equal. -/
theorem comparesMembers_eq_fault_iff : comparesMembers c items others = .error f ↔
    ∃ v w, FirstUnequal items others v w ∧ (equalMember v w = .error f ∨
      equalMember v w = .ok false ∧ v.compares c w = .error f) := by
  induction items generalizing others with
  | nil =>
    refine iff_of_false (by cases others <;> nofun) ?_
    rintro ⟨_, _, ⟨⟩, -⟩
  | cons v items ih =>
    cases others with
    | nil =>
      refine iff_of_false nofun ?_
      rintro ⟨_, _, ⟨⟩, -⟩
    | cons w others =>
      rw [comparesMembers]
      simp only [firstUnequal_cons_iff]
      cases he : equalMember v w with
      | error g => simp [he, bind, Except.bind]
      | ok equal =>
        cases equal with
        | true => simpa [bind, Except.bind] using ih
        | false => simp [he, bind, Except.bind]

theorem comparesRow_eq (fields : List (String × Value)) (others : List Value) :
    comparesRow c fields others = comparesMembers c (fields.map (·.2)) others := by
  induction fields generalizing others with
  | nil => cases others <;> rfl
  | cons e fields ih =>
    cases others with
    | nil => rfl
    | cons w others => rw [comparesRow, List.map_cons, comparesMembers, ih]

/-- Numbers, truth values among them, are compared as numbers. -/
theorem compares_of_number? {a b : Number} (hv : v.number? = some a) (hw : w.number? = some b) :
    v.compares c w = hostNumber (a.compares c b) := by
  cases v with
  | num | bool =>
    cases hv
    simp only [compares, hw]
  | _ => cases hv

theorem compares_of_sequences (h : Sequences v w items others) :
    v.compares c w = comparesMembers c items others := by
  cases h with
  | lists => rfl
  | tuples hv hw =>
    cases v with
    | tuple =>
      cases hv
      simp only [compares, hw]
    | row =>
      cases hv
      simp only [compares, hw, comparesRow_eq]
    | _ => cases hv

/-- All other pairs have an order or are unsuitable. -/
theorem compares_of_other (hn : ∀ a b, v.number? = some a → w.number? ≠ some b)
    (hs : ∀ items others, ¬Sequences v w items others) (h : v.compares c w = .error f) :
    f = .unsuitable := by
  cases v with
  | num | bool =>
    rw [compares] at h
    cases hw : w.number? with
    | some b => exact (hn _ b rfl hw).elim
    | none =>
      rw [hw] at h
      cases h
      rfl
  | tuple | row =>
    rw [compares] at h
    cases hw : w.members? with
    | some others => exact (hs _ others (.tuples rfl hw)).elim
    | none =>
      rw [hw] at h
      cases h
      rfl
  | list items =>
    cases w with
    | list others => exact (hs _ _ (.lists items others)).elim
    | _ =>
      cases h
      rfl
  | _ =>
    cases w <;> cases h <;> rfl

theorem Undecided.compares (h : Undecided v w) : v.compares c w = .error .invalidDecimal := by
  induction h with
  | numbers hv hw h =>
    rw [compares_of_number? hv hw]
    exact Number.compares_eq_fault_iff.2 ⟨rfl, h⟩
  | equality hs hf he =>
    rw [compares_of_sequences hs]
    exact comparesMembers_eq_fault_iff.2 ⟨_, _, hf, .inl he⟩
  | order hs hf he _ ih =>
    rw [compares_of_sequences hs]
    exact comparesMembers_eq_fault_iff.2 ⟨_, _, hf, .inr ⟨he, ih⟩⟩

theorem undecided_of_compares {v w : Value} (h : v.compares c w = .error f)
    (hf : f ≠ .unsuitable) : f = .invalidDecimal ∧ Undecided v w := by
  by_cases hn : ∃ a b, v.number? = some a ∧ w.number? = some b
  · obtain ⟨a, b, hv, hw⟩ := hn
    rw [compares_of_number? hv hw] at h
    obtain ⟨rfl, hu⟩ := Number.compares_eq_fault_iff.1 h
    exact ⟨rfl, .numbers hv hw hu⟩
  by_cases hs : ∃ items others, Sequences v w items others
  · obtain ⟨items, others, hs⟩ := hs
    rw [compares_of_sequences hs] at h
    obtain ⟨v', w', hfirst, he | ⟨he, hrest⟩⟩ := comparesMembers_eq_fault_iff.1 h
    · obtain rfl := failsOnDecimals_orSame (failsOnDecimals_equals v' w') f he
      exact ⟨rfl, .equality hs hfirst he⟩
    · obtain ⟨rfl, hu⟩ := undecided_of_compares hrest hf
      exact ⟨rfl, .order hs hfirst he hu⟩
  -- All other pairs can only be unsuitable.
  · exact absurd (compares_of_other (fun a b hv hw => hn ⟨a, b, hv, hw⟩)
      (fun items others h => hs ⟨items, others, h⟩) h) hf
  termination_by sizeOf v
  decreasing_by exact hs.sizeOf_lt hfirst.mem

/-- A comparison of values that are not unsuitable fails if and only if they are undecided. -/
theorem compares_eq_fault_iff (hf : f ≠ .unsuitable) :
    v.compares c w = .error f ↔ f = .invalidDecimal ∧ Undecided v w := by
  refine ⟨fun h => undecided_of_compares h hf, ?_⟩
  rintro ⟨rfl, h⟩
  exact h.compares

/-- Numbers outside of sequences are undecided if they refuse to be compared as numbers. -/
theorem undecided_num_iff {a b : Number} : Undecided (.num a) (.num b) ↔ a.Undecided b := by
  refine ⟨fun h => ?_, .numbers rfl rfl⟩
  cases h with
  | numbers hv hw h =>
    cases hv
    cases hw
    exact h
  | equality hs | order hs =>
    cases hs with
    | tuples hv => cases hv

end Value

end ControlBreak
