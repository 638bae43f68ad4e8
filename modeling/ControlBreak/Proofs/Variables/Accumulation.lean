import ControlBreak.Proofs.Expression.Places
import ControlBreak.Proofs.Value.Order
import ControlBreak.Variables

/-!
# Values that are taken

What a variable cannot take is reported as an error, and the other variables go on. A fault of
the host is not: it ends the record for all of them.

Sums report whatever fails. The least and the greatest value are found by comparing, and only
pairs that are unsuitable are reported; pairs that refuse to be compared are not. So a decimal
that is none, taken by a variable that has a number, is a fault.

* `accumulate_nil`, `accumulate_first`, `accumulate_join`: the three ways to take a value;
* `accumulateAll`: values in turn, those that are nothing left out or not
  (`accumulateAll_present`);
* `Accumulates`: the states that a variable comes to by taking values;
* `accumulate_returns_iff`: a value is taken or reported unless the least or the greatest value
  is asked for and the value and the state are undecided.
-/

namespace ControlBreak

namespace Value

variable {v : Value}

theorem not_undecided_nil_left : ¬Undecided .nil v := by
  intro h
  cases h with
  | numbers hv => cases hv
  | equality hs | order hs =>
    cases hs with
    | tuples hv => cases hv

theorem not_undecided_nil_right : ¬Undecided v .nil := by
  intro h
  cases h with
  | numbers _ hw => cases hw
  | equality hs | order hs =>
    cases hs with
    | tuples _ hw => cases hw

end Value

namespace AggregateKind

variable {kind : AggregateKind} {s : VariableState} {v : Value} {f : Fault}

/-! ### One value -/

/-- Nothing leaves the state as it is. -/
theorem accumulate_nil (hcount : kind ≠ .count) (hcustom : kind ≠ .custom) :
    kind.accumulate s .nil = pure s := by
  obtain ⟨value, count, taken⟩ := s
  cases kind with
  | count => exact absurd rfl hcount
  | custom => exact absurd rfl hcustom
  | sum | average | min | max => cases value <;> rfl

/-- A first value is the state's as it is. -/
theorem accumulate_first (hcount : kind ≠ .count) (hs : s.value = .nil) (hv : v ≠ .nil) :
    kind.accumulate s v = pure (s.withValue v) := by
  rw [accumulate.eq_def, hs]
  cases kind with
  | count => exact absurd rfl hcount
  | _ =>
    cases v with
    | nil => exact absurd rfl hv
    | _ => rfl

/-- All other values are joined to that of the state. -/
theorem accumulate_join (hs : s.value ≠ .nil) (hv : v ≠ .nil) :
    kind.accumulate s v = (do return s.withValue (← kind.join s.value v)) := by
  obtain ⟨value, count, taken⟩ := s
  cases kind with
  | count | custom => rfl
  | _ =>
    cases value with
    | nil => exact absurd rfl hs
    | _ =>
      cases v with
      | nil => exact absurd rfl hv
      | _ => rfl

/-! ### One value after another -/

/-- Folds values into a state, in their order. -/
def accumulateAll (kind : AggregateKind) (s : VariableState) (values : List Value) :
    Evaluation VariableState :=
  values.foldlM kind.accumulate s

theorem accumulateAll_cons {values : List Value} : kind.accumulateAll s (v :: values) =
    kind.accumulate s v >>= fun s => kind.accumulateAll s values :=
  List.foldlM_cons

/-- It makes no difference whether values that are nothing are left out. -/
theorem accumulateAll_present (hcount : kind ≠ .count) (hcustom : kind ≠ .custom)
    {values : List Value} :
    kind.accumulateAll s (Builtin.present values) = kind.accumulateAll s values := by
  induction values generalizing s with
  | nil => rfl
  | cons v values ih =>
    by_cases hv : v = .nil
    · rw [hv, accumulateAll_cons, accumulate_nil hcount hcustom, pure_bind]
      exact ih
    · rw [Builtin.present_cons hv, accumulateAll_cons, accumulateAll_cons]
      exact bind_congr fun s => ih

/-! ### Faults -/

theorem increment_int (n : Int) : increment (.int n) = .ok (.int (n + 1)) := by
  rw [increment]
  by_cases hn : n = 0
  · subst hn
    rfl
  · have he : (Value.int n).isEmpty = false := beq_eq_false_iff_ne.2 hn
    rw [he]
    rfl

theorem choose_eq_fault {c : Comparison} {old new : Value} :
    (choose kind c old new).run = .error f ↔ f = .invalidDecimal ∧ new.Undecided old := by
  rw [choose]
  cases hc : new.compares c old with
  | ok chosen =>
    refine iff_of_false (by cases chosen <;> exact Evaluation.pure_ne_fault) ?_
    rintro ⟨-, h⟩
    cases h.compares.symm.trans hc
  | error g =>
    by_cases hg : g = .unsuitable
    · subst hg
      refine iff_of_false Evaluation.throw_ne_fault ?_
      rintro ⟨-, h⟩
      cases h.compares.symm.trans hc
    · obtain ⟨rfl, h⟩ := Value.undecided_of_compares hc hg
      rw [and_iff_left h]
      constructor
      · intro hf
        exact (Except.error.inj hf).symm
      · rintro rfl
        rfl

/-- Values that are there are joined, or it is reported why not, unless the least or the greatest
    is asked for and they are undecided. -/
theorem join_eq_fault {old new : Value} (hcount : kind ≠ .count) :
    (kind.join old new).run = .error f ↔
      f = .invalidDecimal ∧ (kind = .min ∨ kind = .max) ∧ new.Undecided old := by
  cases kind with
  | count => exact absurd rfl hcount
  | custom => exact iff_of_false Evaluation.pure_ne_fault (by simp)
  | sum | average =>
    refine iff_of_false (fun h => ?_) (by simp)
    cases (Arithmetic.onValues_eq_fault.1 h).1
  | min | max =>
    rw [join, choose_eq_fault]
    simp

/-- Taking a value fails only where the least or the greatest value is asked for, and the value
    and that of the state are undecided. -/
theorem accumulate_eq_fault (hcount : kind = .count → ∃ n : Int, s.value = .int n) :
    (kind.accumulate s v).run = .error f ↔
      f = .invalidDecimal ∧ (kind = .min ∨ kind = .max) ∧ v.Undecided s.value := by
  by_cases hc : kind = .count
  · obtain ⟨n, hn⟩ := hcount hc
    subst hc
    rw [accumulate, hn, increment_int]
    exact iff_of_false Evaluation.pure_ne_fault (by simp)
  by_cases hu : kind = .custom
  · subst hu
    exact iff_of_false Evaluation.pure_ne_fault (by simp)
  -- Nothing is compared unless both the state and what it takes have a value.
  by_cases hv : v = .nil
  · rw [hv, accumulate_nil hc hu]
    exact iff_of_false Evaluation.pure_ne_fault fun h => Value.not_undecided_nil_left h.2.2
  by_cases hs : s.value = .nil
  · rw [accumulate_first hc hs hv, hs]
    exact iff_of_false Evaluation.pure_ne_fault fun h => Value.not_undecided_nil_right h.2.2
  · rw [accumulate_join hs hv, Evaluation.bind_eq_fault, join_eq_fault hc, or_iff_left]
    rintro ⟨_, -, h⟩
    exact Evaluation.pure_ne_fault h

end AggregateKind

/-! ### All values -/

namespace VariableDefinition

variable {d : VariableDefinition} {s s' : VariableState} {v : Value}

/-- The states that a variable comes to by taking values, before all records or after a reset.
    What is taken may be held. -/
inductive Accumulates (d : VariableDefinition) : VariableState → Prop
  | start (taken : Nat) : Accumulates d { d.initialState with taken := taken }
  | step {s s' : VariableState} {v : Value} : Accumulates d s →
    (d.kind.accumulate s v).run = .ok (.ok s') → Accumulates d s'
  | hold {s : VariableState} : Accumulates d s → Accumulates d (d.holdValue s)

/-- A count that starts from an integer stays with integers. -/
theorem Accumulates.int_of_count (h : Accumulates d s) (hk : d.kind = .count)
    (hi : ∃ n : Int, d.initial = .int n) : ∃ n : Int, s.value = .int n := by
  induction h with
  | start => exact hi
  | @step s _ v _ ha ih =>
    obtain ⟨n, hn⟩ := ih
    rw [hk, AggregateKind.accumulate, hn, AggregateKind.increment_int] at ha
    cases ha
    exact ⟨n + 1, rfl⟩
  | @hold s _ ih =>
    obtain ⟨n, hn⟩ := ih
    exact ⟨n, by rw [holdValue, hn]; rfl⟩

/-- A variable with the initial value of its kind, in any state that it comes to, takes a value
    or reports why not, unless it is the least or the greatest and the value and that of the
    state refuse to be compared. Then the fault is that of a decimal. -/
theorem accumulate_returns_iff (hi : d.initial = d.kind.defaultInitial) (hs : d.Accumulates s)
    (v : Value) : ((∃ outcome, (d.kind.accumulate s v).run = .ok outcome) ↔
      ¬((d.kind = .min ∨ d.kind = .max) ∧ v.Undecided s.value)) ∧
      ∀ f, (d.kind.accumulate s v).run = .error f → f = .invalidDecimal := by
  have hcount : d.kind = .count → ∃ n : Int, s.value = .int n := fun hk =>
    hs.int_of_count hk ⟨0, by rw [hi, hk]; rfl⟩
  refine ⟨?_, fun f hf => ((AggregateKind.accumulate_eq_fault hcount).1 hf).1⟩
  cases hr : (d.kind.accumulate s v).run with
  | ok outcome =>
    refine iff_of_true ⟨outcome, rfl⟩ fun h => ?_
    cases ((AggregateKind.accumulate_eq_fault hcount).2 ⟨rfl, h⟩).symm.trans hr
  | error f =>
    refine iff_of_false (by rintro ⟨_, ⟨⟩⟩) (not_not.2 ?_)
    exact ((AggregateKind.accumulate_eq_fault hcount).1 hr).2

/-- The least value of the field `x`. -/
def leastOf : VariableDefinition := ⟨"least", .min, .str "x", .report, none, .nil, .nil⟩

/-- The number of values of the field `x`. -/
def countOf : VariableDefinition := ⟨"count", .count, .str "x", .report, none, .int 0, .nil⟩

/-- The state of the least value after a value of 2. -/
theorem accumulates_leastOf : leastOf.Accumulates ⟨.int 2, 1, 1⟩ := by
  have h : (leastOf.kind.accumulate leastOf.initialState (.int 2)).run =
      .ok (.ok ⟨.int 2, 1, 1⟩) := by
    cbv
  exact .step (.start 0) h

/-- A float that is none is less than nothing, and so it is taken and the least value stays. -/
theorem accumulate_returns_iff_leastOf : leastOf.initial = leastOf.kind.defaultInitial ∧
    leastOf.Accumulates ⟨.int 2, 1, 1⟩ ∧ ∃ outcome,
      (leastOf.kind.accumulate ⟨.int 2, 1, 1⟩ (.num (.float (.nan .fresh)))).run = .ok outcome := by
  refine ⟨rfl, accumulates_leastOf,
    (accumulate_returns_iff rfl accumulates_leastOf (.num (.float (.nan .fresh)))).1.2 ?_⟩
  rintro ⟨-, h⟩
  exact absurd (Value.undecided_num_iff.1 h) (by decide)

/-- A decimal that is none is neither taken nor reported by the least value. The count takes it,
    but not beside the least value: then the record is refused. -/
theorem accumulate_undecided : leastOf.initial = leastOf.kind.defaultInitial ∧
    leastOf.Accumulates ⟨.int 2, 1, 1⟩ ∧
    (leastOf.kind.accumulate ⟨.int 2, 1, 1⟩ (.num (.dec (.nan false false 0 (.given 0))))).run =
      .error .invalidDecimal ∧
    (countOf.kind.accumulate ⟨.int 1, 1, 1⟩ (.num (.dec (.nan false false 0 (.given 0))))).run =
      .ok (.ok ⟨.int 2, 2, 2⟩) ∧
    ∃ p v, (Plan.make {} [leastOf, countOf] none).run = .ok (.ok p) ∧
      (Variables.ofPlan p).process .empty (.dict [(.str "x", .int 2)]) [] = .ok (v, []) ∧
      v.process .empty (.dict [(.str "x", .num (.dec (.nan false false 0 (.given 0))))]) [] =
        .error .invalidDecimal :=
  ⟨rfl, accumulates_leastOf, by cbv, by cbv, _, _, by cbv, by cbv, by cbv⟩

end VariableDefinition

end ControlBreak
