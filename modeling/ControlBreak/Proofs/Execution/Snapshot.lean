import ControlBreak.Proofs.Execution.Segment
import ControlBreak.Proofs.Number.Mean
import ControlBreak.Proofs.Variables.Accumulation

/-!
# What variables show

A variable shows its value, but an average shows its sum divided by the number of values in
it. If that fails for one average, then the values of all variables cannot be shown together,
and no record can be seen through them.

An average that starts from a number stays with numbers: what it takes is added, or it is an
error. So its mean is defined, unless a float for it is too large. An average that starts from
nothing takes its first value as it is, and only what comes then is added to it.

* `Reached.of_isKept`: what one value keeps true of the state of a variable is true after any
  calls;
* `isKept_isMean`, `isKept_isStarted`: this is so of the sums of averages;
* `snapshot_iff`: after any calls, the variables can be shown if and only if no sum is too
  large for a float, and no first value is there that was not checked.
-/

namespace ControlBreak

namespace VariableState

/-- The state of an average: its sum is a number, and the result of additions once there are
    values in it. -/
def IsMean (s : VariableState) : Prop :=
  ∃ n, s.value = .num n ∧ (0 < s.count → n.IsSum)

/-- The state of an average that starts from nothing: there is nothing in it, or a first value,
    or a text or a number that was added up. -/
def IsStarted (s : VariableState) : Prop :=
  s.value = .nil ∧ s.count = 0 ∨ s.value ≠ .nil ∧ s.count = 1 ∨
    0 < s.count ∧ ((∃ t, s.value = .str t) ∨ ∃ n, s.value = .num n ∧ n.IsSum)

/-- The mean of a state is too large for a float. -/
def IsOverlarge (s : VariableState) : Prop :=
  0 < s.count ∧ ∃ n, s.value = .num n ∧ n.apply .div (.int s.count) = .error .tooLarge

example : IsOverlarge ⟨.num (.int (10 ^ 400)), 1, 1⟩ :=
  ⟨by decide, _, rfl, by decide +kernel⟩

/-- The sum of a state was not checked when it was taken: it is a text, or a first value that
    cannot be divided. -/
def IsUnchecked (s : VariableState) : Prop :=
  0 < s.count ∧ ((∃ t, s.value = .str t) ∨ s.count = 1 ∧ ∃ f, s.value.dividedBy 1 = .error f)

end VariableState

/-! ### Values that are added -/

namespace Arithmetic

theorem onNumbers_add_eq_ok {a b : Number} {v : Value}
    (h : (onNumbers .add a b).run = .ok (.ok v)) : ∃ n, v = .num n ∧ n.IsSum := by
  rw [onNumbers, if_neg (by decide)] at h
  cases hs : a.apply .add b with
  | error f =>
    rw [hs] at h
    cases h
  | ok n =>
    rw [hs] at h
    cases h
    exact ⟨n, rfl, Number.isSum_of_apply hs⟩

/-- Texts are added to texts, and numbers to numbers. -/
theorem onValues_add_eq_ok {left right v : Value}
    (h : (onValues .add left right).run = .ok (.ok v)) :
    (∃ s t, left = .str s ∧ v = .str t) ∨ ∃ a n, left = .num a ∧ v = .num n ∧ n.IsSum := by
  cases left with
  | str s =>
    cases right with
    | str t =>
      cases h
      exact .inl ⟨s, s ++ t, rfl, rfl⟩
    | _ => cases h
  | num a =>
    cases right with
    | num b =>
      obtain ⟨n, rfl, hn⟩ := onNumbers_add_eq_ok h
      exact .inr ⟨a, n, rfl, rfl, hn⟩
    | _ => cases h
  | _ => cases h

end Arithmetic

namespace Value

variable {holder : String} {number : Nat}

theorem heldBy_ne_nil {v : Value} (h : v ≠ .nil) : v.heldBy holder number ≠ .nil := by
  cases v with
  | nil => exact absurd rfl h
  | entity id kind attributes declared computed => cases attributes <;> simp [heldBy, holdAt]
  | _ => simp [heldBy, holdAt]

theorem heldBy_num (n : Number) :
    (Value.num n).heldBy holder number = .num (n.heldBy holder number []) := rfl

end Value

/-- A number that is held is the same sum. -/
theorem Number.IsSum.heldBy {n : Number} (h : n.IsSum) (holder : String) (number : Nat)
    (place : List Nat) : (n.heldBy holder number place).IsSum := by
  cases n with
  | int | frac => trivial
  | float x => cases x <;> trivial
  | dec x => cases x <;> exact h

namespace VariableDefinition

variable {d : VariableDefinition} {s s' : VariableState} {v : Value}

/-- A property of the states of a variable is *kept* by the variable: it has it before all
    records, after any number of values taken before, and one more value leaves it to it. -/
structure IsKept (d : VariableDefinition) (Q : VariableState → Prop) : Prop where
  initial : ∀ taken, Q { d.initialState with taken := taken }
  step : ∀ s v s', Q s → (d.kind.accumulate s v).run = .ok (.ok s') → Q (d.holdValue s')

theorem isMean_holdValue (h : s.IsMean) : (d.holdValue s).IsMean := by
  obtain ⟨n, hn, hs⟩ := h
  exact ⟨_, by rw [holdValue, hn, Value.heldBy_num], fun hc => (hs hc).heldBy _ _ _⟩

theorem isStarted_holdValue (h : s.IsStarted) : (d.holdValue s).IsStarted := by
  rcases h with ⟨hv, hc⟩ | ⟨hv, hc⟩ | ⟨hc, ⟨t, ht⟩ | ⟨n, hn, hs⟩⟩
  · exact .inl ⟨by rw [holdValue, hv]; rfl, hc⟩
  · exact .inr (.inl ⟨Value.heldBy_ne_nil hv, hc⟩)
  · exact .inr (.inr ⟨hc, .inl ⟨t, by rw [holdValue, ht]; rfl⟩⟩)
  · exact .inr (.inr ⟨hc, .inr ⟨_, by rw [holdValue, hn, Value.heldBy_num], hs.heldBy _ _ _⟩⟩)

theorem isMean_of_accumulate (h : s.IsMean)
    (ha : (AggregateKind.average.accumulate s v).run = .ok (.ok s')) : s'.IsMean := by
  obtain ⟨n, hn, hs⟩ := h
  by_cases hv : v = .nil
  · rw [hv, AggregateKind.accumulate_nil (by decide) (by decide)] at ha
    cases ha
    exact ⟨n, hn, hs⟩
  · rw [AggregateKind.accumulate_join (by simp [hn]) hv] at ha
    obtain ⟨sum, hadd, ha⟩ := Evaluation.bind_eq_ok.1 ha
    cases ha
    rcases Arithmetic.onValues_add_eq_ok hadd with ⟨t, u, ht, -⟩ | ⟨a, m, -, rfl, hm⟩
    · cases hn.symm.trans ht
    · exact ⟨m, rfl, fun _ => hm⟩

theorem isStarted_of_accumulate (h : s.IsStarted)
    (ha : (AggregateKind.average.accumulate s v).run = .ok (.ok s')) : s'.IsStarted := by
  by_cases hv : v = .nil
  · rw [hv, AggregateKind.accumulate_nil (by decide) (by decide)] at ha
    cases ha
    exact h
  by_cases hs : s.value = .nil
  · rw [AggregateKind.accumulate_first (by decide) hs hv] at ha
    cases ha
    have hc : s.count = 0 := by
      rcases h with ⟨-, hc⟩ | ⟨hne, -⟩ | ⟨-, ⟨t, ht⟩ | ⟨n, hn, -⟩⟩
      · exact hc
      · exact absurd hs hne
      · cases hs.symm.trans ht
      · cases hs.symm.trans hn
    exact .inr (.inl ⟨hv, by simp [VariableState.withValue, hc]⟩)
  · rw [AggregateKind.accumulate_join hs hv] at ha
    obtain ⟨sum, hadd, ha⟩ := Evaluation.bind_eq_ok.1 ha
    cases ha
    have hc : 0 < s.count + 1 := by
      rcases h with ⟨hnil, -⟩ | ⟨-, hc⟩ | ⟨hc, -⟩
      · exact absurd hnil hs
      · omega
      · omega
    refine .inr (.inr ⟨hc, ?_⟩)
    rcases Arithmetic.onValues_add_eq_ok hadd with ⟨-, t, -, rfl⟩ | ⟨-, n, -, rfl, hn⟩
    exacts [.inl ⟨t, rfl⟩, .inr ⟨n, rfl, hn⟩]

/-- An average that starts from a number stays a mean. -/
theorem isKept_isMean {n : Number} (hd : d.kind = .average) (hn : d.initial = .num n) :
    d.IsKept VariableState.IsMean where
  initial _ := ⟨n, hn, fun h => absurd h (lt_irrefl 0)⟩
  step _ _ _ hs ha := isMean_holdValue (isMean_of_accumulate hs (hd ▸ ha))

/-- An average that starts from nothing stays with its first value, or with the texts or the
    numbers that are added to it. -/
theorem isKept_isStarted (hd : d.kind = .average) (hn : d.initial = .nil) :
    d.IsKept VariableState.IsStarted where
  initial _ := .inl ⟨hn, rfl⟩
  step _ _ _ hs ha := isStarted_holdValue (isStarted_of_accumulate hs (hd ▸ ha))

/-! ### Averages that can be shown -/

theorem displayValue_of_ne (hd : d.kind ≠ .average) : d.displayValue s = .ok s.value := by
  rw [displayValue]
  split
  · contradiction
  · rfl

theorem displayValue_average (hd : d.kind = .average) :
    d.displayValue s = if 0 < s.count then s.value.dividedBy s.count else .ok (.int 0) := by
  rw [displayValue, hd]

theorem dividedBy_num {n : Number} (hn : s.value = .num n) : s.value.dividedBy s.count =
    (hostNumber (n.apply .div (.int s.count))).map .num := by
  rw [hn]
  rfl

theorem not_isOverlarge_of_dividedBy {w : Value} (h : s.value.dividedBy s.count = .ok w) :
    ¬ s.IsOverlarge := by
  rintro ⟨-, n, hn, hf⟩
  rw [dividedBy_num hn, hf] at h
  cases h

theorem not_isUnchecked_of_dividedBy {w : Value} (h : s.value.dividedBy s.count = .ok w) :
    ¬ s.IsUnchecked := by
  rintro ⟨-, ⟨t, ht⟩ | ⟨hc, f, hf⟩⟩
  · rw [ht] at h
    cases h
  · rw [hc, hf] at h
    cases h

/-- A sum can be divided unless it is too large. -/
theorem exists_dividedBy_of_isSum {n : Number} (hc : 0 < s.count) (hn : s.value = .num n)
    (hs : n.IsSum) (h : ¬ s.IsOverlarge) : ∃ w, s.value.dividedBy s.count = .ok w := by
  rw [dividedBy_num hn]
  rcases hs.apply_div hc.ne' with ⟨q, hq⟩ | hq
  · exact ⟨.num q, by rw [hq]; rfl⟩
  · exact absurd ⟨hc, n, hn, hq⟩ h

/-- An average with a sum can be shown if and only if its mean is not too large for a float. -/
theorem exists_displayValue_of_isMean (hd : d.kind = .average) (h : s.IsMean) :
    (∃ w, d.displayValue s = .ok w) ↔ ¬ s.IsOverlarge := by
  obtain ⟨n, hn, hs⟩ := h
  rw [displayValue_average hd]
  by_cases hc : 0 < s.count
  · rw [if_pos hc]
    refine ⟨?_, exists_dividedBy_of_isSum hc hn (hs hc)⟩
    rintro ⟨w, hw⟩
    exact not_isOverlarge_of_dividedBy hw
  · rw [if_neg hc]
    exact ⟨fun _ h => hc h.1, fun _ => ⟨_, rfl⟩⟩

/-- One that started from nothing has to be checked as well. -/
theorem exists_displayValue_of_isStarted (hd : d.kind = .average) (h : s.IsStarted) :
    (∃ w, d.displayValue s = .ok w) ↔ ¬ s.IsOverlarge ∧ ¬ s.IsUnchecked := by
  rw [displayValue_average hd]
  by_cases hc : 0 < s.count
  · rw [if_pos hc]
    constructor
    · rintro ⟨w, hw⟩
      exact ⟨not_isOverlarge_of_dividedBy hw, not_isUnchecked_of_dividedBy hw⟩
    · rintro ⟨hlarge, hchecked⟩
      rcases h with ⟨-, h0⟩ | ⟨-, h1⟩ | ⟨-, ht | ⟨n, hn, hs⟩⟩
      · omega
      · cases hw : s.value.dividedBy 1 with
        | error f => exact absurd ⟨hc, .inr ⟨h1, f, hw⟩⟩ hchecked
        | ok w => exact ⟨w, h1 ▸ hw⟩
      · exact absurd ⟨hc, .inl ht⟩ hchecked
      · exact exists_dividedBy_of_isSum hc hn hs hlarge
  · rw [if_neg hc]
    exact ⟨fun _ => ⟨fun h => hc h.1, fun h => hc h.1⟩, fun _ => ⟨_, rfl⟩⟩

end VariableDefinition

/-! ### Calls -/

namespace Variables

open Plan VariableDefinition

/-- The variables that calls lead to, from those of a start: records with any breaks, if they
    are not refused, and resets. -/
inductive Reached (r : Registry) (start : Variables) : Variables → Prop
  | start : Reached r start start
  | process {v v' : Variables} {record : Value} {changes : List Break}
    {errors : List (String × EvalError)} : Reached r start v →
    v.process r record changes = .ok (v', errors) → Reached r start v'
  | reset {v : Variables} (names : List String) : Reached r start v → Reached r start (v.reset names)

variable {r : Registry} {p : Plan} {v v' : Variables} {record : Value} {changes : List Break}
  {errors : List (String × EvalError)} {d : VariableDefinition} {Q : VariableState → Prop}
  {cautious : Bool}

/-- A variable that takes a context keeps what each value keeps true. -/
theorem of_take {context : Value} {s s' : VariableState} (hq : d.IsKept Q) (hs : Q s)
    (h : (p.take r d context s).run = .ok (.ok s')) : Q s' := by
  obtain ⟨admitted, -, h⟩ := Evaluation.bind_eq_ok.1 h
  cases admitted with
  | false =>
    cases h
    exact hs
  | true =>
    obtain ⟨value, -, h⟩ := Evaluation.bind_eq_ok.1 h
    obtain ⟨new, ha, h⟩ := Evaluation.bind_eq_ok.1 h
    cases h
    exact hq.step s value new hs ha

/-- So does a record, after the reset that a break asks for. -/
theorem of_process (hq : d.IsKept Q) (hp : v.plan.IsOrdered cautious)
    (hm : d ∈ v.plan.definitions) (hs : Q (stateOf v.states d))
    (h : v.process r record changes = .ok (v', errors)) : Q (stateOf v'.states d) := by
  obtain ⟨⟨states', errors'⟩, hstage, h⟩ := Host.bind_eq_ok.1 h
  cases h
  obtain ⟨-, context, outcome, -, -, ht, -, -, -, hstate, -⟩ := hp.moment hm hstage
  have hbase : Q (baseState changes d (stateOf v.states d)) := by
    rw [baseState]
    split
    exacts [hq.initial _, hs]
  rw [hstate]
  cases outcome with
  | ok s => exact of_take hq hbase ht
  | error e => exact hbase

theorem Reached.plan_eq (h : Reached r (.ofPlan p) v) : v.plan = p := by
  induction h with
  | start => rfl
  | process _ h ih =>
    obtain ⟨_, -, h⟩ := Host.bind_eq_ok.1 h
    cases h
    exact ih
  | reset _ _ ih => exact ih

/-- After any calls, what a variable keeps is true of its state. -/
theorem Reached.of_isKept (h : Reached r (.ofPlan p) v) (hq : d.IsKept Q)
    (hp : p.IsOrdered cautious) (hm : d ∈ p.definitions) : Q (stateOf v.states d) := by
  induction h with
  | start =>
    rw [ofPlan, stateOf_initialStates hp.nodup hm]
    exact hq.initial 0
  | process hv h ih =>
    obtain rfl := hv.plan_eq
    exact of_process hq hp hm ih h
  | @reset v names hv ih =>
    obtain rfl := hv.plan_eq
    rw [Variables.reset, stateOf_resetStates hp.nodup hm]
    split
    exacts [hq.initial _, ih]

/-! ### Snapshots -/

/-- All values are shown if each variable can be. -/
theorem exists_values_iff : (∃ shown, v.values = .ok shown) ↔
    ∀ d ∈ v.plan.definitions, ∃ w, d.displayValue (stateOf v.states d) = .ok w := by
  constructor
  · rintro ⟨shown, h⟩ d hd
    obtain ⟨e, he⟩ := Host.exists_of_mapM_eq_ok h hd
    obtain ⟨w, hw, -⟩ := Host.bind_eq_ok.1 he
    exact ⟨w, hw⟩
  · intro h
    refine Host.exists_mapM_eq_ok fun d hd => ?_
    obtain ⟨w, hw⟩ := h d hd
    exact ⟨_, Host.bind_eq_ok.2 ⟨w, hw, rfl⟩⟩

/-- A record is seen through the variables if all of their values are shown. -/
theorem exists_context_of_values {shown : List (String × Value)} (h : v.values = .ok shown)
    (record : Value) : ∃ context, v.plan.context v.states record = .ok context := by
  refine exists_context (fun d hd => ?_) record
  obtain ⟨w, hw⟩ := exists_values_iff.1 ⟨shown, h⟩ d hd
  exact ⟨_, Host.map_eq_ok.2 ⟨w, hw, rfl⟩⟩

theorem exists_value_of_values {shown : List (String × Value)} (h : v.values = .ok shown)
    (name : String) (other : Value) : ∃ w, v.value name other = .ok w := by
  rw [value]
  split
  · rename_i d hd
    exact exists_values_iff.1 ⟨shown, h⟩ d (definition?_some hd).1
  · exact ⟨other, rfl⟩

/-- If all averages of a plan start from numbers or from nothing, then after any calls all
    variables can be shown, and every record can be seen through them, if and only if no mean
    is too large for a float, and none that started from nothing has a sum that was not checked. -/
theorem snapshot_iff {settings : Settings} {definitions : List VariableDefinition}
    {known : Option (List Value)} (hp : (make settings definitions known).run = .ok (.ok p))
    (hi : ∀ d ∈ definitions, d.kind = .average → (∃ n, d.initial = .num n) ∨ d.initial = .nil)
    (h : Reached r (.ofPlan p) v) :
    ((∃ shown, v.values = .ok shown) ∧ (∀ name other, ∃ w, v.value name other = .ok w) ∧
        ∀ record, ∃ context, v.plan.context v.states record = .ok context) ↔
      ∀ d ∈ definitions, d.kind = .average → ¬ (stateOf v.states d).IsOverlarge ∧
        (d.initial = .nil → ¬ (stateOf v.states d).IsUnchecked) := by
  obtain ⟨rfl, -, ho⟩ := isOrdered_of_make hp
  have hshow : (∃ shown, v.values = .ok shown) ↔ ∀ d ∈ p.definitions, d.kind = .average →
      ¬ (stateOf v.states d).IsOverlarge ∧
        (d.initial = .nil → ¬ (stateOf v.states d).IsUnchecked) := by
    rw [exists_values_iff, h.plan_eq]
    refine forall₂_congr fun d hd => ?_
    by_cases hk : d.kind = .average
    · rcases hi d hd hk with ⟨n, hn⟩ | hn
      · rw [exists_displayValue_of_isMean hk (h.of_isKept (isKept_isMean hk hn) ho hd)]
        simp [hk, hn]
      · rw [exists_displayValue_of_isStarted hk (h.of_isKept (isKept_isStarted hk hn) ho hd)]
        simp [hk, hn]
    · exact ⟨fun _ hk' => absurd hk' hk, fun _ => ⟨_, displayValue_of_ne hk⟩⟩
  rw [← hshow]
  refine ⟨fun h => h.1, ?_⟩
  rintro ⟨shown, hs⟩
  exact ⟨⟨shown, hs⟩, exists_value_of_values hs, exists_context_of_values hs⟩

/-- The mean of the field `x`, from a given value on. -/
def mean (initial : Value) : VariableDefinition :=
  ⟨"mean", .average, .str "x", .report, none, initial, .nil⟩

/-- The plan of a mean alone. -/
def meanAlone (initial : Value) : Plan :=
  ⟨[mean initial], [("mean", [.str "x"])], ["mean"], true⟩

/-- The mean of 7 and a text that is left out, from 0 on, can be shown. -/
theorem snapshot_iff_mean : ∃ v,
    (make {} [mean (.int 0)] none).run = .ok (.ok (meanAlone (.int 0))) ∧
    Reached .empty (.ofPlan (meanAlone (.int 0))) v ∧
    (∃ shown, v.values = .ok shown) ∧ (∀ name other, ∃ w, v.value name other = .ok w) ∧
      ∀ record, ∃ context, v.plan.context v.states record = .ok context := by
  have hp : (make {} [mean (.int 0)] none).run = .ok (.ok (meanAlone (.int 0))) := by cbv
  obtain ⟨v₁, v₂, errors, h₁, h₂, hs⟩ : ∃ v₁ v₂ errors,
      (ofPlan (meanAlone (.int 0))).process .empty (.dict [(.str "x", .str "a")]) [] =
        .ok (v₁, errors) ∧
      v₁.process .empty (.dict [(.str "x", .int 7)]) [] = .ok (v₂, []) ∧
      stateOf v₂.states (mean (.int 0)) = ⟨.int 7, 1, 1⟩ :=
    ⟨_, _, _, by cbv, by cbv, by cbv⟩
  have hv : Reached .empty (.ofPlan (meanAlone (.int 0))) v₂ := .process (.process .start h₁) h₂
  refine ⟨v₂, hp, hv, (snapshot_iff hp ?_ hv).2 ?_⟩
  · rintro d hd -
    obtain rfl := List.mem_singleton.1 hd
    exact .inl ⟨_, rfl⟩
  · rintro d hd -
    obtain rfl := List.mem_singleton.1 hd
    rw [hs]
    refine ⟨?_, by simp [mean, Value.int]⟩
    rintro ⟨-, n, hn, hf⟩
    cases hn
    exact absurd hf (by decide +kernel)

/-- A mean that starts from nothing takes a text for its sum: no value can be shown then, and
    the next record is refused. -/
theorem values_of_mean_of_text : ∃ v,
    (make {} [mean .nil] none).run = .ok (.ok (meanAlone .nil)) ∧
    (ofPlan (meanAlone .nil)).process .empty (.dict [(.str "x", .str "a")]) [] = .ok (v, []) ∧
    v.values = .error .unsuitable ∧ v.value "mean" .nil = .error .unsuitable ∧
    v.process .empty (.dict [(.str "x", .int 1)]) [] = .error .unsuitable :=
  ⟨_, by cbv, by cbv, by cbv, by cbv, by cbv⟩

end Variables

end ControlBreak
