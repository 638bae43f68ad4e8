import ControlBreak.Proofs.Groups.Counting
import ControlBreak.Proofs.Value.Equality
import Mathlib

/-!
# A record that comes again

The keys of a record that was just consumed are evaluated again if it comes again, and are then
compared with themselves. What is found rests on whether they are equal to themselves, and, if
they are, on whether the record is.

* `firstDifference_self_iff`: keys that are compared with themselves;
* `changes_of_process_again`: no group is broken if all keys come back;
* `process_again_iff`: when the record is found to be the same one, and when it is a new detail
  row that breaks nothing. If nothing in the keys was made just now, this is so unless a key is
  a number that is none.

A member that belongs to its owner is another one if another record has it, however alike the
records are. `Value.recurs` does not ask whether the record is the same, and so such keys of a record
that comes again differ, where the host takes them for the same. They are left out here.
-/

namespace ControlBreak

namespace Value

/-- Whether a value is a member that belongs to its owner, which no other record has. -/
def isTied : Value → Bool
  | .member sort _ owner => sort.isBound && !owner.isShared
  | _ => false

theorem recurs_self {v : Value} (h : v.isTied = false) : v.recurs v = v.equals v := by
  cases v with
  | member sort name owner => exact if_neg (Bool.eq_false_iff.1 h)
  | _ => rfl

end Value

namespace Scope

variable {r : Registry} {s s' : Scope} {record : Value} {keys : List Value}
  {groups : List GroupDefinition}

/-- Keys that are compared with themselves differ at no level if all of them come back, and only
    then if there is a group for each. -/
theorem firstDifference_self_iff (hl : keys.length ≤ groups.length) :
    firstDifference groups keys keys = .ok none ↔ ∀ key ∈ keys, key.recurs key = .ok true := by
  induction keys generalizing groups with
  | nil => cases groups <;> exact iff_of_true rfl (by simp)
  | cons key keys ih =>
    cases groups with
    | nil => cases hl
    | cons g groups =>
      rw [firstDifference, Host.bind_eq_ok, List.forall_mem_cons,
        ← ih (Nat.le_of_succ_le_succ hl)]
      constructor
      · rintro ⟨same, hsame, hrest⟩
        cases same with
        | true => exact ⟨hsame, hrest⟩
        | false => cases hrest
      · rintro ⟨hsame, hrest⟩
        exact ⟨true, hsame, hrest⟩

/-- A record that comes again is compared with itself, key by key. -/
theorem check_of_consume (h : s.consume r record = .ok s') : s'.check r record =
    (firstDifference s'.groups s'.keys s'.keys >>= fun
      | some level => .ok (some (.group level))
      | none => record.equals record >>= fun same =>
        .ok (some (if same then .unchanged else .detail))) := by
  obtain ⟨keys, hkeys, h⟩ := Host.bind_eq_ok.1 h
  cases h
  rw [check, if_neg (Nat.succ_ne_zero _), hkeys]
  change (firstDifference s.groups keys keys >>= _) = (firstDifference s.groups keys keys >>= _)
  refine bind_congr fun difference => ?_
  cases difference with
  | some level => rfl
  | none => exact bind_congr fun same => by cases same <;> rfl

theorem length_keys_of_consume (h : s.consume r record = .ok s') :
    s'.keys.length = s'.groups.length := by
  obtain ⟨keys, hkeys, h⟩ := Host.bind_eq_ok.1 h
  cases h
  exact (evaluateKeys_eq_ok.1 hkeys).length_eq.symm

/-- A record that was consumed can be consumed again. -/
theorem exists_consume_again (h : s.consume r record = .ok s') :
    ∃ s'', s'.consume r record = .ok s'' := by
  obtain ⟨keys, hkeys, h⟩ := Host.bind_eq_ok.1 h
  cases h
  exact ⟨_, Host.bind_eq_ok.2 ⟨keys, hkeys, rfl⟩⟩

/-- If all keys come back, only the record is left to look at. -/
theorem check_of_consume_of_recurs (h : s.consume r record = .ok s')
    (hk : ∀ key ∈ s'.keys, key.recurs key = .ok true) : s'.check r record =
      record.equals record >>= fun same => .ok (some (if same then .unchanged else .detail)) := by
  rw [check_of_consume h, (firstDifference_self_iff (length_keys_of_consume h).le).2 hk]
  rfl

/-- A record that comes again is found to break nothing if and only if all keys come back and it
    can be compared with itself. -/
theorem check_again_iff (h : s.consume r record = .ok s') (same : Bool) :
    s'.check r record = .ok (some (if same then .unchanged else .detail)) ↔
      (∀ key ∈ s'.keys, key.recurs key = .ok true) ∧ record.equals record = .ok same := by
  have hinj : ∀ b : Bool, (if b then Break.unchanged else .detail) =
      (if same then .unchanged else .detail) ↔ b = same := by
    cases same <;> simp
  constructor
  · intro hc
    have hk : ∀ key ∈ s'.keys, key.recurs key = .ok true := by
      rw [← firstDifference_self_iff (length_keys_of_consume h).le]
      rw [check_of_consume h, Host.bind_eq_ok] at hc
      obtain ⟨difference | level, hd, hc⟩ := hc
      · exact hd
      · cases same <;> cases hc
    rw [check_of_consume_of_recurs h hk, Host.bind_eq_ok] at hc
    obtain ⟨same', hsame, hc⟩ := hc
    rw [Except.ok.injEq, Option.some.injEq, hinj] at hc
    exact ⟨hk, hc ▸ hsame⟩
  · rintro ⟨hk, hsame⟩
    rw [check_of_consume_of_recurs h hk, hsame]
    rfl

end Scope

namespace Groups

variable {r : Registry} {g g' g'' : Groups} {s s' : Scope} {record : Value}
  {step step' : GroupStep}

/-- A new detail row is reported for another record and for the same one. -/
theorem reported_eq_detail_iff {change : Option Break} : reported change = [.detail] ↔
    ∃ same : Bool, change = some (if same then .unchanged else .detail) := by
  constructor
  · intro h
    cases change with
    | none => cases h
    | some b =>
      cases b with
      | unchanged => exact ⟨true, rfl⟩
      | detail => exact ⟨false, rfl⟩
      | group | page | general => cases h
  · rintro ⟨_ | _, rfl⟩ <;> rfl

/-- A record that comes again breaks no group if all its keys come back. -/
theorem changes_of_process_again (h : g.process r record = .ok (g', step))
    (hk : ∀ key ∈ g'.scope.keys, key.recurs key = .ok true)
    (h' : g'.process r record = .ok (g'', step')) : step'.changes = [.detail] := by
  obtain ⟨_, scope, -, hs, rfl, -⟩ := process_eq_ok_iff.1 h
  obtain ⟨change, _, hc, -, -, rfl⟩ := process_eq_ok_iff.1 h'
  rw [Scope.check_of_consume_of_recurs hs hk, Host.bind_eq_ok] at hc
  obtain ⟨same, -, hc⟩ := hc
  exact reported_eq_detail_iff.2 ⟨same, (Except.ok.inj hc).symm⟩

/-- A record that comes again is a new detail row if and only if all its keys come back and it
    can be compared with itself. Then no break is counted. -/
theorem changes_again_iff (h : s.consume r record = .ok s') (counts : List (Nat × Nat)) :
    (∃ g step, process r ⟨s', counts⟩ record = .ok (g, step) ∧ step.changes = [.detail] ∧
      ∀ level, g.breakCount level = breakCount ⟨s', counts⟩ level) ↔
    (∀ key ∈ s'.keys, key.recurs key = .ok true) ∧ ∃ same, record.equals record = .ok same := by
  constructor
  · rintro ⟨g, step, hp, hchanges, -⟩
    obtain ⟨change, _, hc, -, -, rfl⟩ := process_eq_ok_iff.1 hp
    obtain ⟨same, rfl⟩ := reported_eq_detail_iff.1 hchanges
    obtain ⟨hk, hsame⟩ := (Scope.check_again_iff h same).1 hc
    exact ⟨hk, same, hsame⟩
  · rintro ⟨hk, same, hsame⟩
    -- The keys were evaluated once, so they can be evaluated to consume the record again.
    obtain ⟨scope, hs⟩ := Scope.exists_consume_again h
    have hc := (Scope.check_again_iff h same).2 ⟨hk, hsame⟩
    refine ⟨_, _, process_eq_ok_iff.2 ⟨_, scope, hc, hs, rfl, rfl⟩,
      reported_eq_detail_iff.2 ⟨same, rfl⟩, fun level => ?_⟩
    cases same <;> rfl

/-- A record that was just consumed is found to be the same one if and only if its keys and the
    record are equal to themselves, and is a new detail row that breaks nothing if and only if
    its keys are and the record can be compared with itself. If the keys and the record last, it
    takes that none of them is a number that is none. Keys that are members bound to the record
    are not spoken of. -/
theorem process_again_iff (h : s.consume r record = .ok s')
    (ht : ∀ key ∈ s'.keys, key.isTied = false) (counts : List (Nat × Nat)) :
    (s'.check r record = .ok (some .unchanged) ↔
      (∀ key ∈ s'.keys, key.equals key = .ok true) ∧ record.equals record = .ok true) ∧
    ((∃ g step, process r ⟨s', counts⟩ record = .ok (g, step) ∧ step.changes = [.detail] ∧
        ∀ level, g.breakCount level = breakCount ⟨s', counts⟩ level) ↔
      (∀ key ∈ s'.keys, key.equals key = .ok true) ∧ ∃ same, record.equals record = .ok same) ∧
    ((∀ key ∈ s'.keys, key.Lasts) → record.Lasts →
      (s'.check r record = .ok (some .unchanged) ↔
        (∀ key ∈ s'.keys, ¬key.IsUndefined) ∧ ¬record.IsUndefined)) := by
  have hrecurs : (∀ key ∈ s'.keys, key.recurs key = .ok true) ↔
      ∀ key ∈ s'.keys, key.equals key = .ok true :=
    forall₂_congr fun key hkey => by rw [Value.recurs_self (ht key hkey)]
  have hcheck : s'.check r record = .ok (some .unchanged) ↔
      (∀ key ∈ s'.keys, key.equals key = .ok true) ∧ record.equals record = .ok true :=
    (Scope.check_again_iff h true).trans (and_congr_left' hrecurs)
  refine ⟨hcheck, (changes_again_iff h counts).trans (and_congr_left' hrecurs),
    fun hkeys hrecord => ?_⟩
  rw [hcheck, hrecord.equals_self_iff]
  exact and_congr_left fun _ => forall₂_congr fun key hkey => (hkeys key hkey).equals_self_iff

/-- Records by a key that is the same for all of them, a number that is none. -/
def byNone : GroupDefinition := ⟨"none", 1, .literal (.num (.float (.nan (.given 0)))), .ascending⟩

/-- A sale in a region, and the same sale again. -/
theorem process_again_sale : ∃ s',
    (Scope.ofGroups [⟨"region", 1, .str "region", .ascending⟩]).consume .empty
      (.dict [(.str "region", .str "north")]) = .ok s' ∧
    (∀ key ∈ s'.keys, key.isTied = false) ∧
    s'.check .empty (.dict [(.str "region", .str "north")]) = .ok (some .unchanged) := by
  obtain ⟨s', hs, hkeys⟩ : ∃ s',
      (Scope.ofGroups [⟨"region", 1, .str "region", .ascending⟩]).consume .empty
        (.dict [(.str "region", .str "north")]) = .ok s' ∧ s'.keys = [.str "north"] :=
    ⟨_, by cbv, by cbv⟩
  have ht : ∀ key ∈ s'.keys, key.isTied = false := by simp [hkeys, Value.isTied]
  refine ⟨s', hs, ht, (process_again_iff hs ht []).1.2 ⟨?_, by cbv⟩⟩
  rw [hkeys]
  exact List.forall_mem_singleton.2 (by cbv)

/-- A record that was just consumed breaks a group if its key is a number that is none. -/
theorem process_again_byNone : ∃ s' g step, (Scope.ofGroups [byNone]).consume .empty
      (.dict [(.str "x", .int 1)]) = .ok s' ∧
    s'.check .empty (.dict [(.str "x", .int 1)]) = .ok (some (.group 1)) ∧
    process .empty ⟨s', []⟩ (.dict [(.str "x", .int 1)]) = .ok (g, step) ∧
    step.changes = [.group 1] ∧ breakCount ⟨s', []⟩ 1 = 0 ∧ g.breakCount 1 = 1 :=
  ⟨_, _, _, by cbv, by cbv, by cbv, by cbv, by cbv, by cbv⟩

end Groups

end ControlBreak
