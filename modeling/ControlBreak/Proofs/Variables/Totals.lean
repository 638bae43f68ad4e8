import ControlBreak.Proofs.Variables.Accumulation
import Mathlib

/-!
# Exact totals

Integers and fractions are added exactly. So a sum or an average that takes nothing else tells
what was taken, and not in which order: the sum of all values is an integer, or a fraction if one
of them is.

* `total`: the sum of the integers and fractions among values;
* `totalled`: the state that tells what was taken, kept by one more value (`accumulate_totalled`)
  and reached by any number of them (`accumulateAll_of_exact`);
* `accumulateAll_perm_of_exact`: sums, counts and averages of integers and fractions, in any order.
-/

namespace ControlBreak

open Builtin (present)

/-! ### Integers and fractions -/

namespace Value

variable {v : Value} {values values' : List Value}

/-- A number that sums take exactly. -/
inductive IsExact : Value → Prop
  | int (n : ℤ) : IsExact (.int n)
  | frac (q : ℚ) : IsExact (.num (.frac q))

/-- The integer that a value is. -/
def int? : Value → Option ℤ
  | .num (.int n) => some n
  | _ => none

/-- The rational that an integer or a fraction is. -/
def rat? : Value → Option ℚ
  | .num n => n.rat?
  | _ => none

def isFraction : Value → Bool
  | .num (.frac _) => true
  | _ => false

/-- The sum of the integers and fractions among values: a fraction if one of them is. -/
def total (values : List Value) : Number :=
  if values.any isFraction then .frac (values.filterMap rat?).sum
  else .int (values.filterMap int?).sum

theorem rat?_eq_map (h : v.isFraction = false) : v.rat? = v.int?.map (↑) := by
  cases v with
  | num n =>
    cases n with
    | frac => cases h
    | _ => rfl
  | _ => rfl

theorem sum_rat?_of_any_eq_false (h : values.any isFraction = false) :
    (values.filterMap rat?).sum = ((values.filterMap int?).sum : ℤ) := by
  rw [List.any_eq_false] at h
  have hrat : values.filterMap rat? = (values.filterMap int?).map (↑) := by
    rw [List.map_filterMap]
    exact List.filterMap_congr fun v hv => rat?_eq_map (Bool.eq_false_iff.2 (h v hv))
  rw [hrat, Int.cast_list_sum]

/-- One more integer or fraction is added to the total. -/
theorem apply_add_total (values : List Value) (hv : v.IsExact) : ∃ n, v = .num n ∧
    (total values).apply .add n = .ok (total (values ++ [v])) := by
  cases hv with
  | int n =>
    refine ⟨.int n, rfl, ?_⟩
    cases hany : values.any isFraction <;>
      simp [total, hany, isFraction, rat?, int?, Value.int, Number.apply, Number.applyInt,
        Number.applyFrac, Number.rat?]
  | frac q =>
    refine ⟨.frac q, rfl, ?_⟩
    -- The first fraction turns the sum of the integers before it into a fraction.
    cases hany : values.any isFraction with
    | false =>
      have hsum := sum_rat?_of_any_eq_false hany
      simp [total, hany, isFraction, rat?, hsum, Number.apply, Number.applyFrac, Number.rat?]
    | true => simp [total, hany, isFraction, rat?, Number.apply, Number.applyFrac, Number.rat?]

theorem total_perm (h : values.Perm values') : total values = total values' := by
  rw [total, total, h.any_eq, (h.filterMap rat?).sum_eq, (h.filterMap int?).sum_eq]

end Value

theorem Arithmetic.onNumbers_add {a b n : Number} (h : a.apply .add b = .ok n) :
    onNumbers .add a b = pure (.num n) := by
  rw [onNumbers, if_neg (by decide), pure_bind, h]
  rfl

/-! ### States -/

namespace VariableState

/-- The state of a sum that took these values. -/
def totalled (values : List Value) : VariableState :=
  ⟨.num (Value.total values), values.length, values.length⟩

/-- The state of a count that took so many values. -/
def counted (n : ℕ) : VariableState :=
  ⟨.int n, n, n⟩

end VariableState

namespace AggregateKind

open VariableState

variable {kind : AggregateKind} {v : Value} {values seen : List Value}

theorem accumulate_counted (n : ℕ) (v : Value) :
    count.accumulate (counted n) v = pure (counted (n + 1)) := by
  rw [accumulate, counted, increment_int]
  rfl

theorem accumulateAll_counted (n : ℕ) (values : List Value) :
    count.accumulateAll (counted n) values = pure (counted (n + values.length)) := by
  induction values generalizing n with
  | nil => rfl
  | cons v values ih =>
    rw [accumulateAll_cons, accumulate_counted, pure_bind, ih, List.length_cons, Nat.add_right_comm,
      Nat.add_assoc]

/-- One more integer or fraction is added to what was taken. -/
theorem accumulate_totalled (hk : kind = .sum ∨ kind = .average) (hv : v.IsExact) :
    kind.accumulate (totalled seen) v = pure (totalled (seen ++ [v])) := by
  obtain ⟨n, rfl, hadd⟩ := Value.apply_add_total seen hv
  have hjoin : kind.join (totalled seen).value (.num n) =
      pure (.num (Value.total (seen ++ [.num n]))) := by
    have h : kind.join (totalled seen).value (.num n) =
        Arithmetic.onNumbers .add (Value.total seen) n := by
      rcases hk with rfl | rfl <;> rfl
    rw [h, Arithmetic.onNumbers_add hadd]
  rw [accumulate_join (by rintro ⟨⟩) (by rintro ⟨⟩), hjoin, pure_bind]
  simp [totalled, withValue]

theorem accumulateAll_totalled (hk : kind = .sum ∨ kind = .average)
    (hv : ∀ v ∈ values, v.IsExact) :
    kind.accumulateAll (totalled seen) values = pure (totalled (seen ++ values)) := by
  induction values generalizing seen with
  | nil => rw [List.append_nil]; rfl
  | cons v values ih =>
    obtain ⟨hv, hrest⟩ := List.forall_mem_cons.1 hv
    rw [accumulateAll_cons, accumulate_totalled hk hv, pure_bind, ih hrest, List.append_assoc]
    rfl

end AggregateKind

namespace VariableDefinition

open VariableState

variable {d : VariableDefinition} {values : List Value}

/-- What a variable that starts anew comes to by taking values. -/
theorem accumulateAll_of_exact (hk : d.kind = .sum ∨ d.kind = .average)
    (hi : d.initial = d.kind.defaultInitial) (hv : ∀ v ∈ present values, v.IsExact) :
    d.kind.accumulateAll d.initialState values = pure (totalled (present values)) := by
  have hs : d.initialState = totalled [] := by
    rw [initialState, hi]
    rcases hk with hk | hk <;> rw [hk] <;> rfl
  have hcount : d.kind ≠ .count := by rcases hk with hk | hk <;> simp [hk]
  have hcustom : d.kind ≠ .custom := by rcases hk with hk | hk <;> simp [hk]
  rw [hs, ← AggregateKind.accumulateAll_present hcount hcustom,
    AggregateKind.accumulateAll_totalled hk hv, List.nil_append]

theorem accumulateAll_of_count (hk : d.kind = .count) (hi : d.initial = d.kind.defaultInitial) :
    d.kind.accumulateAll d.initialState values = pure (counted values.length) := by
  have hs : d.initialState = counted 0 := by
    rw [initialState, hi, hk]
    rfl
  rw [hs, hk, AggregateKind.accumulateAll_counted, Nat.zero_add]

theorem displayValue_totalled_nil (hk : d.kind = .average) :
    d.displayValue (totalled []) = .ok (.int 0) := by
  rw [displayValue, hk]
  rfl

/-- An average of fractions is exact, too. -/
theorem displayValue_totalled (hk : d.kind = .average) (hany : values.any Value.isFraction = true) :
    d.displayValue (totalled values) =
      .ok (.num (.frac ((values.filterMap Value.rat?).sum / values.length))) := by
  have hpos : 0 < values.length := by
    obtain ⟨v, hv, -⟩ := List.any_eq_true.1 hany
    exact List.length_pos_of_mem hv
  have hne : (values.length : ℚ) ≠ 0 := Nat.cast_ne_zero.2 hpos.ne'
  simp [displayValue, hk, totalled, hpos, Value.total, hany, Value.dividedBy, Value.number?,
    Number.apply, Number.applyFrac, hne, hostNumber, Except.map]

/-- A sum, a count or an average that takes nothing but integers and fractions takes all of them,
    and ends in the same state in whatever order they come: with the exact sum of the values, or
    with their number. -/
theorem accumulateAll_perm_of_exact (hk : d.kind = .sum ∨ d.kind = .count ∨ d.kind = .average)
    (hi : d.initial = d.kind.defaultInitial) (hv : ∀ v ∈ present values, v.IsExact) :
    ∃ s, (d.kind.accumulateAll d.initialState values).run = .ok (.ok s) ∧
      (d.kind ≠ .count → s.value = .num (Value.total (present values))) ∧
      (d.kind = .count → s.value = .int values.length) ∧
      (d.kind = .average → s.count = (present values).length ∧
        (present values = [] → d.displayValue s = .ok (.int 0)) ∧
        ((present values).any Value.isFraction = true → d.displayValue s = .ok (.num (.frac
          (((present values).filterMap Value.rat?).sum / (present values).length))))) ∧
      ∀ values', values'.Perm values →
        (d.kind.accumulateAll d.initialState values').run = .ok (.ok s) := by
  by_cases hc : d.kind = .count
  -- A count takes no notice of the values, so only their number matters.
  · have hrun : ∀ values, d.kind.accumulateAll d.initialState values =
        pure (counted values.length) := fun values => accumulateAll_of_count hc hi
    refine ⟨counted values.length, by rw [hrun]; rfl, absurd hc, fun _ => rfl, ?_, ?_⟩
    · intro ha
      cases hc.symm.trans ha
    · intro values' hperm
      rw [hrun, hperm.length_eq]
      rfl
  · have hk : d.kind = .sum ∨ d.kind = .average := by tauto
    refine ⟨totalled (present values), by rw [accumulateAll_of_exact hk hi hv]; rfl, fun _ => rfl,
      fun h => absurd h hc, fun ha => ⟨rfl, ?_, displayValue_totalled ha⟩, ?_⟩
    · intro hnil
      rw [hnil]
      exact displayValue_totalled_nil ha
    · intro values' hperm
      have hpresent : (present values').Perm (present values) := hperm.filter _
      rw [accumulateAll_of_exact hk hi fun v hmem => hv v (hpresent.mem_iff.1 hmem), totalled,
        Value.total_perm hpresent, hpresent.length_eq]
      rfl

/-- The average of the field `x`. -/
def averageOf : VariableDefinition := ⟨"average", .average, .str "x", .report, none, .int 0, .nil⟩

/-- An integer and two fractions, with nothing between them. -/
def mixedAmounts : List Value := [.nil, .num (.frac (1 / 2)), .int 2, .nil, .num (.frac (1 / 3))]

theorem accumulateAll_perm_of_exact_mixedAmounts :
    averageOf.kind = .average ∧ averageOf.initial = averageOf.kind.defaultInitial ∧
    (∀ v ∈ present mixedAmounts, v.IsExact) ∧
    ∃ s, (averageOf.kind.accumulateAll averageOf.initialState mixedAmounts).run = .ok (.ok s) ∧
      s.count = 3 ∧ s.value = .num (.frac (17 / 6)) ∧
      averageOf.displayValue s = .ok (.num (.frac (17 / 18))) := by
  have hv : ∀ v ∈ present mixedAmounts, v.IsExact :=
    List.forall_mem_cons.2 ⟨.frac _, List.forall_mem_cons.2
      ⟨.int _, List.forall_mem_singleton.2 (.frac _)⟩⟩
  have hsum : ((present mixedAmounts).filterMap Value.rat?).sum = 17 / 6 := by decide +kernel
  obtain ⟨s, hs, hvalue, -, haverage, -⟩ :=
    accumulateAll_perm_of_exact (d := averageOf) (.inr (.inr rfl)) rfl hv
  obtain ⟨hcount, -, hshown⟩ := haverage rfl
  have hany : (present mixedAmounts).any Value.isFraction = true := rfl
  refine ⟨rfl, rfl, hv, s, hs, hcount, ?_, ?_⟩
  · rw [hvalue (by decide), Value.total, hany, if_pos rfl, hsum]
  · rw [hshown hany, hsum]
    have h : (17 / 6 / (present mixedAmounts).length : ℚ) = 17 / 18 := by decide +kernel
    rw [h]

end VariableDefinition

end ControlBreak
