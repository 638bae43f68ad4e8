import ControlBreak.Proofs.Number.Comparison
import ControlBreak.Proofs.Value.Equality

/-!
# Keys that are one key

Values may be one key although they differ: an integer and a decimal of the same size, a tuple and
a row with the same members. A mapping cannot tell them apart, so that whatever is found under one
of them is found under the other one too.

* `IsKey`: the values that this is shown of. A mapping or an object could change, and so a value
  that holds one is not among them, nor is what belongs to one;
* `IsKey.isInterchangeable`: what is equal to one of two keys that are one key is equal to the
  other, by induction on the key;
* `under?_congr`: so it does not matter which of them a mapping is asked for.
-/

namespace ControlBreak

/-- Numbers are equal if they are defined, and lie at one place on the line. -/
theorem Number.equals_eq_true_iff {a b : Number} : a.equals b = .ok true ↔
    a.extended ≠ .undefined ∧ b.extended ≠ .undefined ∧ a.extended.place = b.extended.place := by
  by_cases ha : a.extended = .undefined
  · refine iff_of_false (fun h => ?_) fun h => h.1 ha
    rw [equals, ha] at h
    split at h <;> cases h
  by_cases hb : b.extended = .undefined
  · refine iff_of_false (fun h => ?_) fun h => h.2.1 hb
    have hnone : a.extended.compare? b.extended = none := by
      rw [hb]
      cases a.extended <;> rfl
    rw [equals, hnone] at h
    split at h <;> cases h
  · simp [equals_eq ha hb, ha, hb]

namespace Value

/-- A value that can be a key. A member that belongs to its owner is one only if the owner is. -/
inductive IsKey : Value → Prop
  | nil : IsKey .nil
  | bool (b : Bool) : IsKey (.bool b)
  | num (n : Number) : IsKey (.num n)
  | str (s : String) : IsKey (.str s)
  | bytes (b : List UInt8) : IsKey (.bytes b)
  | date (d : Date) : IsKey (.date d)
  | time (t : TimeOfDay) : IsKey (.time t)
  | moment (m : Moment) : IsKey (.moment m)
  | duration (d : Duration) : IsKey (.duration d)
  | slots (id : Mark) (bare : Bool) (declared : List (String × Option Value)) :
    IsKey (.slots id bare declared)
  | priced (id : Mark) (region price quantity : Value) : IsKey (.priced id region price quantity)
  | entity (id : Mark) (kind : String) (attributes : Option (List (String × Value)))
    (declared : List (String × Option Value))
    (computed : List (String × Except (Cause Value) (Option Value))) :
    IsKey (.entity id kind attributes declared computed)
  | sealed (id : Mark) (label : String) : IsKey (.sealed id label)
  | native (id : Mark) (written : String) (action : NativeAction)
    (own : Except (Cause Value) (List Value)) : IsKey (.native id written action own)
  | tuple {items : List Value} : (∀ v ∈ items, IsKey v) → IsKey (.tuple items)
  | row {fields : List (String × Value)} : (∀ f ∈ fields, IsKey f.2) → IsKey (.row fields)
  | member {sort : MemberSort} (name : String) {owner : Value} :
    (sort.isBound = true → IsKey owner) → IsKey (.member sort name owner)

variable {v w k key : Value} {a b : Number} {items others : List Value}

/-! ### Equality, told from either side -/

theorem equalMember_eq_true_iff :
    equalMember v w = .ok true ↔ sameMark v w = true ∨ v.equals w = .ok true := by
  rw [equalMember, orSame]
  split <;> simp_all

/-- Only numbers are told by their marks. -/
theorem equalMember_of_number? (h : v.number? = none ∨ w.number? = none) :
    equalMember v w = v.equals w := by
  have hm : sameMark v w = false := by
    rw [sameMark.eq_def]
    split <;> simp_all [number?]
  rw [equalMember, orSame, hm]
  rfl

theorem number?_of_members (h : v.members? = some items) : v.number? = none := by
  cases v with
  | tuple | row => rfl
  | _ => cases h

theorem hostNumber_eq_ok_iff {α : Type} {x : Except NumberFault α} {y : α} :
    hostNumber x = .ok y ↔ x = .ok y := by
  cases x <;> simp [hostNumber]

/-- A number is equal to numbers only. -/
theorem equals_numbers (h : v.number?.isSome = true ∨ w.number?.isSome = true) :
    v.equals w = .ok true ↔
      ∃ a b, v.number? = some a ∧ w.number? = some b ∧ a.equals b = .ok true := by
  cases hv : v.number? with
  | some a =>
    cases v with
    | bool | num =>
      cases hv
      rw [equals]
      cases w.number? <;> simp [hostNumber_eq_ok_iff]
    | _ => cases hv
  | none =>
    refine iff_of_false (fun he => ?_) (by simp)
    -- What is no number is compared with one.
    have hw : w.number?.isSome = true := by simpa [hv] using h
    cases w with
    | bool | num =>
      cases v with
      | bool | num => cases hv
      | _ => cases he
    | _ => cases hw

theorem equalRow_eq (fields : List (String × Value)) (others : List Value) :
    equalRow fields others = equalMembers (fields.map (·.2)) others := by
  induction fields generalizing others with
  | nil => cases others <;> rfl
  | cons f fields ih =>
    cases others with
    | nil => rfl
    | cons w others =>
      simp only [equalRow, List.map_cons, equalMembers, ih]

/-- A tuple or a row is equal to tuples and rows only. -/
theorem equals_members (h : v.members?.isSome = true ∨ w.members?.isSome = true) :
    v.equals w = .ok true ↔ ∃ items others, v.members? = some items ∧ w.members? = some others ∧
      equalMembers items others = .ok true := by
  cases hv : v.members? with
  | some items =>
    cases v with
    | tuple =>
      cases hv
      rw [equals]
      cases w.members? <;> simp
    | row =>
      cases hv
      rw [equals]
      cases w.members? <;> simp [equalRow_eq]
    | _ => cases hv
  | none =>
    refine iff_of_false (fun he => ?_) (by simp)
    have hw : w.members?.isSome = true := by simpa [hv] using h
    cases w with
    | tuple | row =>
      cases v with
      | tuple | row => cases hv
      | _ => cases he
    | _ => cases hw

theorem equalMembers_eq_true_iff : equalMembers items others = .ok true ↔
    List.Forall₂ (fun v w => equalMember v w = .ok true) items others := by
  induction items generalizing others with
  | nil =>
    cases others with
    | nil => exact iff_of_true rfl .nil
    | cons => exact iff_of_false nofun nofun
  | cons v items ih =>
    cases others with
    | nil => exact iff_of_false nofun nofun
    | cons w others =>
      rw [List.forall₂_cons, equalMembers, Host.bind_eq_ok, ← ih]
      constructor
      · rintro ⟨b, hb, h⟩
        cases b with
        | true => exact ⟨hb, h⟩
        | false => cases h
      · rintro ⟨hb, h⟩
        exact ⟨true, hb, h⟩

/-- A member is equal to one of the same sort and name, and of an equal owner if it belongs to
    that. -/
theorem equalMember_member {sort sort' : MemberSort} {name name' : String} {owner owner' : Value} :
    equalMember (.member sort name owner) (.member sort' name' owner') = .ok true ↔ sort = sort' ∧
      name = name' ∧ (sort.isBound = true → equalMember owner owner' = .ok true) := by
  rw [equalMember_of_number? (.inl rfl), equals, ← equalMember, ← and_assoc]
  by_cases h : sort = sort' ∧ name = name'
  · rw [if_pos h, and_iff_right h]
    by_cases hb : sort.isBound = true
    · rw [if_pos hb, forall_prop_of_true hb]
    · rw [if_neg hb]
      exact iff_of_true rfl fun hb' => absurd hb' hb
  · rw [if_neg h]
    exact iff_of_false (by simp) fun h' => h h'.1

/-! ### Keys that are one key -/

/-- A value that may be exchanged for all that are one key with it: what is equal to the one is
    equal to the others. -/
def IsInterchangeable (k : Value) : Prop :=
  ∀ key, equalMember k key = .ok true → ∀ v,
    (equalMember v k = .ok true ↔ equalMember v key = .ok true)

/-- What is one thing has one mark. -/
theorem eq_of_same {m n : Mark} (h : m.same n = true) : m = n := by
  cases m <;> simp_all [Mark.same]

/-- Numbers that are none are told apart by their marks only. -/
theorem equalMember_congr_of_sameMark (h : sameMark k key = true) (v : Value) :
    equalMember v k = .ok true ↔ equalMember v key = .ok true := by
  have hundefined : ∀ {a : Number}, a.extended = .undefined → ∀ v : Value,
      v.equals (.num a) ≠ .ok true := by
    intro a ha v he
    obtain ⟨_, _, -, hb, hab⟩ := (equals_numbers (.inr rfl)).1 he
    cases hb
    exact (Number.equals_eq_true_iff.1 hab).2.1 ha
  rw [sameMark.eq_def] at h
  split at h
  · obtain rfl := eq_of_same h
    exact Iff.rfl
  · obtain rfl := eq_of_same h
    rw [equalMember_eq_true_iff, equalMember_eq_true_iff, or_iff_left (hundefined rfl v),
      or_iff_left (hundefined rfl v)]
    -- The sign and the payload do not matter.
    cases v with
    | num a =>
      cases a with
      | dec d => cases d <;> simp [sameMark]
      | _ => simp [sameMark]
    | _ => simp [sameMark]
  · cases h

theorem sameMark_eq_false (hk : k.number? = some a) (ha : a.extended ≠ .undefined) (v : Value) :
    sameMark v k = false := by
  rw [sameMark.eq_def]
  split
  · cases hk
    exact absurd rfl ha
  · cases hk
    exact absurd rfl ha
  · rfl

theorem isInterchangeable_of_number (hk : k.number? = some a) : IsInterchangeable k := by
  intro key h v
  rcases equalMember_eq_true_iff.1 h with hm | he
  · exact equalMember_congr_of_sameMark hm v
  obtain ⟨_, b, ha, hb, hab⟩ := (equals_numbers (.inl (by simp [hk]))).1 he
  cases hk.symm.trans ha
  -- Both are defined, and lie at one place on the line.
  obtain ⟨hda, hdb, hplace⟩ := Number.equals_eq_true_iff.1 hab
  rw [equalMember_eq_true_iff, equalMember_eq_true_iff, sameMark_eq_false ha hda,
    sameMark_eq_false hb hdb, equals_numbers (.inr (by simp [ha])),
    equals_numbers (.inr (by simp [hb]))]
  simp [ha, hb, Number.equals_eq_true_iff, hda, hdb, hplace]

theorem exists_members (hk : k.members? = some items) (h : equalMember k key = .ok true) :
    ∃ others, key.members? = some others ∧
      List.Forall₂ (fun v w => equalMember v w = .ok true) items others := by
  rw [equalMember_of_number? (.inl (number?_of_members hk))] at h
  obtain ⟨_, others, hk', hkey, hmembers⟩ := (equals_members (.inl (by simp [hk]))).1 h
  cases hk.symm.trans hk'
  exact ⟨others, hkey, equalMembers_eq_true_iff.1 hmembers⟩

/-- Members may be exchanged one by one. -/
theorem equalMembers_congr
    (h : List.Forall₂ (fun v w => equalMember v w = .ok true) items others)
    (hi : ∀ w ∈ items, IsInterchangeable w) (vs : List Value) :
    equalMembers vs items = .ok true ↔ equalMembers vs others = .ok true := by
  simp only [equalMembers_eq_true_iff]
  induction h generalizing vs with
  | nil => exact Iff.rfl
  | @cons w key items others hw _ ih =>
    obtain ⟨hhead, hi⟩ := List.forall_mem_cons.1 hi
    cases vs with
    | nil => exact iff_of_false nofun nofun
    | cons v vs => rw [List.forall₂_cons, List.forall₂_cons, hhead key hw v, ih hi vs]

theorem isInterchangeable_of_members (hk : k.members? = some items)
    (hi : ∀ w ∈ items, IsInterchangeable w) : IsInterchangeable k := by
  intro key h v
  obtain ⟨others, hkey, hmembers⟩ := exists_members hk h
  rw [equalMember_of_number? (.inr (number?_of_members hk)),
    equalMember_of_number? (.inr (number?_of_members hkey)),
    equals_members (.inr (by simp [hk])), equals_members (.inr (by simp [hkey]))]
  simp [hk, hkey, equalMembers_congr hmembers hi]

/-- What is compared alike with all values may be exchanged. -/
theorem isInterchangeable_of_equals (hk : k.number? = none)
    (h : ∀ key, k.equals key = .ok true →
      key.number? = none ∧ ∀ v : Value, v.equals k = v.equals key) : IsInterchangeable k := by
  intro key hkey v
  rw [equalMember_of_number? (.inl hk)] at hkey
  obtain ⟨hnone, hv⟩ := h key hkey
  rw [equalMember_of_number? (.inr hk), equalMember_of_number? (.inr hnone), hv]

/-- Keys may be exchanged for those that are one key with them. -/
theorem IsKey.isInterchangeable (hk : IsKey k) : IsInterchangeable k := by
  induction hk with
  | bool | num => exact isInterchangeable_of_number rfl
  | tuple _ ih => exact isInterchangeable_of_members rfl ih
  | row _ ih => exact isInterchangeable_of_members rfl (List.forall_mem_map.2 ih)
  | nil =>
    refine isInterchangeable_of_equals rfl fun key h => ?_
    cases key <;> cases h
    exact ⟨rfl, fun _ => rfl⟩
  | str | bytes | date | time | moment | duration =>
    refine isInterchangeable_of_equals rfl fun key h => ?_
    -- What is equal is the same.
    cases key <;> try cases h
    obtain rfl := eq_of_beq (Except.ok.inj h)
    exact ⟨rfl, fun _ => rfl⟩
  | slots | priced | entity | sealed | native =>
    refine isInterchangeable_of_equals rfl fun key h => ?_
    -- Only the mark counts.
    cases key <;> try cases h
    obtain rfl := eq_of_same (Except.ok.inj h)
    refine ⟨rfl, fun v => ?_⟩
    cases v <;> rfl
  | member name hk ih =>
    intro key h v
    cases key with
    | member sort' name' owner' =>
      obtain ⟨rfl, rfl, howner⟩ := equalMember_member.1 h
      cases v with
      | member sort'' name'' owner'' =>
        rw [equalMember_member, equalMember_member]
        refine and_congr_right fun hs => and_congr_right fun _ => forall_congr' fun hb => ?_
        exact ih (hs ▸ hb) owner' (howner (hs ▸ hb)) owner''
      | _ =>
        rw [equalMember_of_number? (.inr rfl), equalMember_of_number? (.inr rfl)]
        exact Iff.rfl
    | _ => cases h

theorem isKey_of_members (hk : k.members? = some items) (h : equalMember k key = .ok true)
    (ih : ∀ w ∈ items, ∀ key, equalMember w key = .ok true → IsKey key) : IsKey key := by
  obtain ⟨others, hkey, hmembers⟩ := exists_members hk h
  have hothers : ∀ w ∈ others, IsKey w := by
    clear hk hkey h
    induction hmembers with
    | nil => simp
    | cons hw _ ihrest =>
      obtain ⟨hhead, ih⟩ := List.forall_mem_cons.1 ih
      exact List.forall_mem_cons.2 ⟨hhead _ hw, ihrest ih⟩
  cases key with
  | tuple =>
    cases hkey
    exact .tuple hothers
  | row =>
    cases hkey
    exact .row (List.forall_mem_map.1 hothers)
  | _ => cases hkey

/-- What is one key with a key can be one, too. -/
theorem IsKey.of_equalMember (hk : IsKey k) (h : equalMember k key = .ok true) : IsKey key := by
  induction hk generalizing key with
  | bool | num =>
    have hkey : key.number? ≠ none := by
      intro hnone
      rw [equalMember_of_number? (.inr hnone)] at h
      obtain ⟨_, _, -, hb, -⟩ := (equals_numbers (.inl rfl)).1 h
      cases hnone.symm.trans hb
    cases key with
    | bool b => exact .bool b
    | num n => exact .num n
    | _ => exact absurd rfl hkey
  | nil | str | bytes | date | time | moment | duration | slots | priced | entity | sealed |
    native =>
    cases key <;> try cases h
    constructor
  | tuple _ ih => exact isKey_of_members rfl h fun w hw key h => ih w hw h
  | row _ ih => exact isKey_of_members rfl h (List.forall_mem_map.2 fun f hf key h => ih f hf h)
  | member name hk ih =>
    cases key with
    | member sort' name' owner' =>
      obtain ⟨rfl, rfl, howner⟩ := equalMember_member.1 h
      exact .member name fun hb => ih hb (howner hb)
    | _ => cases h

theorem sameKey_iff : sameKey v w = true ↔ equalMember v w = .ok true := by
  rw [sameKey]
  split <;> simp_all

/-- A mapping has the same under keys that are one key. -/
theorem under?_congr (hk : IsKey k) (h : equalMember k key = .ok true)
    (entries : List (Value × Value)) : under? entries k = under? entries key := by
  have hsame : ∀ v, sameKey v k = sameKey v key := fun v => by
    rw [Bool.eq_iff_iff, sameKey_iff, sameKey_iff, hk.isInterchangeable key h v]
  simp only [under?, hsame]

end Value

end ControlBreak
