import ControlBreak.Proofs.Expression.Reads
import ControlBreak.Proofs.Host
import Mathlib

/-!
# Where an evaluation fails

An evaluation ends with a value or an error, unless the host fails under it. What functions of
the host raise is captured, and so is no reason for that, unless they are interrupted. There are
five *places* where an evaluation fails: a shape that cannot be read, a name that cannot be looked
up, an operator that is no key, a divisor that signals, and a function that is interrupted.

An evaluation *needs* some of the arguments of a call: all of them in turn as long as they
have values, or a condition and one branch.

* `failsInPlace_or_needs`: an expression fails in its place, or in an argument that it needs;
* `evaluate_eq_fault_iff`: so it fails if and only if an expression that it comes to fails in
  its place;
* `evaluate_returns_iff`: it has an outcome if and only if nothing that it comes to does.
-/

namespace ControlBreak

/-- The names that lead from the record to the field that a node reads, in turn. -/
def Node.steps : Node → List Value
  | .field name => [name]
  | .related path last => path ++ [last]
  | .explicit relationship last => [relationship, last]
  | _ => []

/-! ### Fields -/

namespace Value

variable {record c name last : Value} {path : List Value} {f : Fault}

theorem readField_eq_fault : (record.readField name).run = .error f ↔
    record.lookup name = .error f := by
  rw [readField, Evaluation.bind_eq_fault, Evaluation.lift_eq_fault, or_iff_left]
  rintro ⟨found, -, h⟩
  cases found with
  | some v => exact Evaluation.pure_ne_fault h
  | none => exact Evaluation.throw_ne_fault h

/-- A path goes on in a related record. -/
theorem follow_of_isRecord {next : Value} (hl : record.lookup name = .ok (some next))
    (hr : next.isRecord = true) : record.follow (name :: path) = next.follow path := by
  rw [follow, hl]
  cases next with
  | nil => cases hr
  | _ => exact if_pos (e := (throw (.invalidRelationship name) : Evaluation Value)) hr

theorem follow_cons_eq_ok : (record.follow (name :: path)).run = .ok (.ok c) ↔
    ∃ next, record.lookup name = .ok (some next) ∧ next.isRecord = true ∧
      (next.follow path).run = .ok (.ok c) := by
  constructor
  · intro h
    rw [follow] at h
    obtain ⟨found, hl, h⟩ := Evaluation.bind_eq_ok.1 h
    split at h
    · cases h
    · cases h
    · split at h
      · exact ⟨_, Evaluation.lift_eq_ok.1 hl, ‹_›, h⟩
      · cases h
  · rintro ⟨next, hl, hr, h⟩
    rwa [follow_of_isRecord hl hr]

theorem follow_cons_eq_fault : (record.follow (name :: path)).run = .error f ↔
    record.lookup name = .error f ∨ ∃ next, record.lookup name = .ok (some next) ∧
      next.isRecord = true ∧ (next.follow path).run = .error f := by
  constructor
  · intro h
    rw [follow] at h
    rcases Evaluation.bind_eq_fault.1 h with h | ⟨found, hl, h⟩
    · exact .inl (Evaluation.lift_eq_fault.1 h)
    split at h
    · cases h
    · cases h
    · split at h
      · exact .inr ⟨_, Evaluation.lift_eq_ok.1 hl, ‹_›, h⟩
      · cases h
  · rintro (hl | ⟨next, hl, hr, h⟩)
    · rw [follow, hl]
      rfl
    · rwa [follow_of_isRecord hl hr]

theorem readPath_eq_fault : (record.readPath path last).run = .error f ↔
    (record.follow path).run = .error f ∨
      ∃ c, (record.follow path).run = .ok (.ok c) ∧ c.lookup last = .error f := by
  simp only [readPath, Evaluation.bind_eq_fault, readField_eq_fault]

theorem readPath_cons_eq_fault : (record.readPath (name :: path) last).run = .error f ↔
    record.lookup name = .error f ∨ ∃ next, record.lookup name = .ok (some next) ∧
      next.isRecord = true ∧ (next.readPath path last).run = .error f := by
  simp only [readPath_eq_fault, follow_cons_eq_fault, follow_cons_eq_ok]
  constructor
  · rintro ((h | ⟨next, hl, hr, h⟩) | ⟨c, ⟨next, hl, hr, hc⟩, h⟩)
    exacts [.inl h, .inr ⟨next, hl, hr, .inl h⟩, .inr ⟨next, hl, hr, .inr ⟨c, hc, h⟩⟩]
  · rintro (h | ⟨next, hl, hr, h | ⟨c, hc, h⟩⟩)
    exacts [.inl (.inl h), .inl (.inr ⟨next, hl, hr, h⟩), .inr ⟨c, ⟨next, hl, hr, hc⟩, h⟩]

/-- A field cannot be read if and only if one of the steps to it cannot be looked up where
    the steps before lead. -/
theorem readPath_eq_fault_iff : (record.readPath path last).run = .error f ↔
    ∃ before name after c, path ++ [last] = before ++ name :: after ∧
      (record.follow before).run = .ok (.ok c) ∧ c.lookup name = .error f := by
  -- The step that fails is the first one, or one of those from the next record on.
  induction path generalizing record with
  | nil =>
    rw [readPath_eq_fault]
    constructor
    · rintro (h | ⟨c, hc, h⟩)
      · cases h
      · exact ⟨[], last, [], c, rfl, hc, h⟩
    · rintro ⟨before, name, after, c, hs, hc, h⟩
      cases before with
      | nil =>
        cases hs
        exact .inr ⟨c, hc, h⟩
      | cons first rest => simp at hs
  | cons step path ih =>
    rw [readPath_cons_eq_fault]
    constructor
    · rintro (h | ⟨next, hl, hr, h⟩)
      · exact ⟨[], step, path ++ [last], record, rfl, rfl, h⟩
      · obtain ⟨before, name, after, c, hs, hc, h⟩ := ih.1 h
        exact ⟨step :: before, name, after, c, by simp [hs],
          follow_cons_eq_ok.2 ⟨next, hl, hr, hc⟩, h⟩
    · rintro ⟨before, name, after, c, hs, hc, h⟩
      cases before with
      | nil =>
        cases hs
        cases hc
        exact .inl h
      | cons first rest =>
        rw [List.cons_append, List.cons_append, List.cons.injEq] at hs
        obtain ⟨rfl, hs⟩ := hs
        obtain ⟨next, hl, hr, hc⟩ := follow_cons_eq_ok.1 hc
        exact .inr ⟨next, hl, hr, ih.2 ⟨rest, name, after, c, hs, hc, h⟩⟩

end Value

/-! ### Operations -/

/-- What a function of the host does is captured, unless it is interrupted. -/
theorem Outcome.captured_eq_fault {o : Outcome} {f : Fault} :
    o.captured.run = .error f ↔ o = .escaped f := by
  constructor
  · intro h
    cases o <;> cases h
    rfl
  · rintro rfl
    rfl

namespace Arithmetic

variable {o : Arithmetic} {f : Fault}

/-- A divisor that can be asked whether it is zero is all that arithmetic asks of numbers. -/
theorem onNumbers_eq_fault {a b : Number} : (o.onNumbers a b).run = .error f ↔
    o = .div ∧ b.isSignaling = true ∧ f = .invalidDecimal := by
  rw [onNumbers]
  by_cases ho : o = .div
  · rw [if_pos ho, Evaluation.bind_eq_fault, Evaluation.lift_eq_fault, Number.equals, or_iff_left]
    · have hzero : (Number.int 0).isSignaling = false := rfl
      by_cases hs : b.isSignaling = true
      · simp [ho, hs, hostNumber, NumberFault.toFault, eq_comm]
      · simp [hs, hzero, hostNumber]
    · rintro ⟨byZero, -, h⟩
      cases byZero with
      | true => exact absurd h Evaluation.throw_ne_fault
      | false =>
        simp only [Bool.false_eq_true, ↓reduceIte] at h
        split at h <;> cases h
  · rw [if_neg ho]
    refine ⟨fun h => ?_, fun h => absurd h.1 ho⟩
    simp only [pure_bind, Bool.false_eq_true, ↓reduceIte] at h
    split at h <;> cases h

/-- Arithmetic fails only where a divisor is asked whether it is zero and signals. -/
theorem onValues_eq_fault {left right : Value} : (o.onValues left right).run = .error f ↔
    o = .div ∧ f = .invalidDecimal ∧
      ∃ a b, left = .num a ∧ right = .num b ∧ b.isSignaling = true := by
  rw [onValues.eq_def]
  split
  · exact ⟨fun h => absurd h Evaluation.pure_ne_fault, by rintro ⟨ho, -⟩; cases ho⟩
  · rename_i a b
    rw [onNumbers_eq_fault]
    constructor
    · rintro ⟨ho, hs, hf⟩
      exact ⟨ho, hf, a, b, rfl, rfl, hs⟩
    · rintro ⟨ho, hf, _, _, ha, hb, hs⟩
      cases ha
      cases hb
      exact ⟨ho, hs, hf⟩
  · rename_i hnum _
    refine ⟨fun h => absurd h Evaluation.throw_ne_fault, ?_⟩
    rintro ⟨-, -, a, b, rfl, rfl, -⟩
    exact (hnum a b rfl rfl).elim

end Arithmetic

namespace Registry

open Value

variable (r : Registry) (record : Value)

/-- Whether a call evaluates its arguments in turn: a sign of arithmetic its two, and a
    function that is found all of them. -/
inductive TakesAll : Value → List Value → Prop
  | arithmetic {op left right : Value} {o : Arithmetic} : Operator.of op = .arithmetic o →
    TakesAll op [left, right]
  | function {op : Value} {args : List Value} {function : HostFunction} :
    Operator.of op = .function → r.get? op = .ok (some function) → TakesAll op args

/-- The arguments that the evaluation of an expression needs: those of a call in turn, as
    long as they have values, or a condition and then one branch. -/
inductive Needs : Value → Value → Prop
  | operand {e op arg : Value} {before after : List Value} :
    e.node? = .ok (some (.call op (before ++ arg :: after))) →
    r.TakesAll op (before ++ arg :: after) →
    (∀ b ∈ before, ∃ v, (r.evaluate b record).run = .ok (.ok v)) → Needs e arg
  | condition {e op condition yes no : Value} :
    e.node? = .ok (some (.call op [condition, yes, no])) → Operator.of op = .conditional →
    Needs e condition
  | branch {e op condition yes no v : Value} :
    e.node? = .ok (some (.call op [condition, yes, no])) → Operator.of op = .conditional →
    (r.evaluate condition record).run = .ok (.ok v) → Needs e (if v.isTruthy then yes else no)

/-- An expression calls a function of the host in its place, and how that ends. -/
inductive Invokes : Value → Outcome → Prop
  | host {e function : Value} : e.node? = .ok (some (.host function)) →
    Invokes e (function.callWith [record])
  | function {e op : Value} {args vs : List Value} {function : HostFunction} :
    e.node? = .ok (some (.call op args)) → Operator.of op = .function →
    r.get? op = .ok (some function) → (r.evaluateAll args record).run = .ok (.ok vs) →
    Invokes e (function vs)

/-- How an expression fails in its place, whatever its arguments do. -/
inductive FailsInPlace : Value → Fault → Prop
  | shape {e : Value} {f : Fault} : e.node? = .error f → FailsInPlace e f
  | step {e name c : Value} {n : Node} {before after : List Value} {f : Fault} :
    e.node? = .ok (some n) → n.steps = before ++ name :: after →
    (record.follow before).run = .ok (.ok c) → c.lookup name = .error f → FailsInPlace e f
  | operator {e op : Value} {args : List Value} {f : Fault} :
    e.node? = .ok (some (.call op args)) → Operator.of op = .function → r.get? op = .error f →
    FailsInPlace e f
  | divisor {e op left right : Value} {a b : Number} :
    e.node? = .ok (some (.call op [left, right])) → Operator.of op = .arithmetic .div →
    (r.evaluate left record).run = .ok (.ok (.num a)) →
    (r.evaluate right record).run = .ok (.ok (.num b)) → b.isSignaling = true →
    FailsInPlace e .invalidDecimal
  | interrupted {e : Value} {f : Fault} : Invokes r record e (.escaped f) → FailsInPlace e f

variable {r record} {e op : Value} {args : List Value} {f : Fault}

/-! ### One node -/

theorem evaluate_of_call (hn : e.node? = .ok (some (.call op args))) :
    r.evaluate e record = r.evaluateCall op args record := by
  rw [evaluate]
  split <;> simp_all

/-- The fields that nodes read, however they are written, are read along their steps. -/
theorem evaluate_of_steps {n : Node} {path : List Value} {last : Value}
    (hn : e.node? = .ok (some n)) (hs : n.steps = path ++ [last]) :
    r.evaluate e record = record.readPath path last := by
  cases n with
  | field name =>
    obtain ⟨rfl, rfl⟩ : [] = path ∧ name = last := by
      have hs : [] ++ [name] = path ++ [last] := hs
      simpa using List.append_inj' hs rfl
    rw [evaluate]
    split <;> simp_all [readPath, follow]
  | related path' last' =>
    obtain ⟨rfl, hl⟩ := List.append_inj' hs rfl
    cases hl
    rw [evaluate]
    split <;> simp_all
  | explicit relationship last' =>
    obtain ⟨rfl, hl⟩ : [relationship] = path ∧ [last'] = [last] := List.append_inj' hs rfl
    cases hl
    rw [evaluate]
    split <;> simp_all
  | _ => simp [Node.steps] at hs

theorem evaluateCall_of_arithmetic {o : Arithmetic} {left right : Value}
    (ho : Operator.of op = .arithmetic o) : r.evaluateCall op [left, right] record = (do
      o.onValues (← r.evaluate left record) (← r.evaluate right record)) := by
  rw [evaluateCall.eq_def]
  simp only [ho]

theorem evaluateCall_of_conditional {condition yes no : Value}
    (ho : Operator.of op = .conditional) :
    r.evaluateCall op [condition, yes, no] record = (do
      let c ← r.evaluate condition record
      r.evaluate (if c.isTruthy then yes else no) record) := by
  rw [evaluateCall.eq_def]
  simp only [ho, apply_ite (r.evaluate · record)]

theorem evaluateCall_of_function (ho : Operator.of op = .function) :
    r.evaluateCall op args record = (do
      match ← ExceptT.lift (r.get? op) with
      | some function => (function (← r.evaluateAll args record)).captured
      | none => throw (.unknownFunction op)) := by
  rw [evaluateCall.eq_def]
  split
  case h_1 ho' | h_2 ho' => cases ho.symm.trans ho'
  case h_3 => rfl
  case h_4 => contradiction

/-- A call of a function that is registered applies it to the values of the arguments. -/
theorem evaluate_of_function {f : HostFunction} (hn : e.node? = .ok (some (.call op args)))
    (ho : Operator.of op = .function) (hf : r.get? op = .ok (some f)) (c : Value) :
    r.evaluate e c = r.evaluateAll args c >>= fun vs => (f vs).captured := by
  rw [evaluate_of_call hn, evaluateCall_of_function ho, hf]
  rfl

theorem evaluateAll_cons_eq_fault {arg : Value} :
    (r.evaluateAll (arg :: args) record).run = .error f ↔
      (r.evaluate arg record).run = .error f ∨
        ∃ v, (r.evaluate arg record).run = .ok (.ok v) ∧
          (r.evaluateAll args record).run = .error f := by
  rw [evaluateAll]
  simp only [Evaluation.bind_eq_fault, Evaluation.pure_ne_fault, and_false, exists_false, or_false]

/-- Arguments fail in turn if one of them does and those before it have values. -/
theorem evaluateAll_eq_fault : (r.evaluateAll args record).run = .error f ↔
    ∃ before arg after, args = before ++ arg :: after ∧
      (∀ b ∈ before, ∃ v, (r.evaluate b record).run = .ok (.ok v)) ∧
      (r.evaluate arg record).run = .error f := by
  induction args with
  | nil =>
    rw [evaluateAll]
    exact ⟨fun h => absurd h Evaluation.pure_ne_fault, by simp⟩
  | cons first rest ih =>
    rw [evaluateAll_cons_eq_fault, ih]
    constructor
    · rintro (h | ⟨v, hv, before, arg, after, rfl, hb, h⟩)
      · exact ⟨[], first, rest, rfl, by simp, h⟩
      · exact ⟨first :: before, arg, after, rfl, List.forall_mem_cons.2 ⟨⟨v, hv⟩, hb⟩, h⟩
    · rintro ⟨before, arg, after, hs, hb, h⟩
      cases before with
      | nil =>
        cases hs
        exact .inl h
      | cons b before =>
        cases hs
        obtain ⟨⟨v, hv⟩, hb⟩ := List.forall_mem_cons.1 hb
        exact .inr ⟨v, hv, before, arg, after, rfl, hb, h⟩

/-- A function of the host that is called is what an expression comes to. -/
theorem Invokes.evaluate_run {o : Outcome} (h : Invokes r record e o) :
    (r.evaluate e record).run = o.captured.run := by
  cases h with
  | host hn =>
    rw [evaluate]
    split <;> simp_all
  | function hn ho hg hvs =>
    rw [evaluate_of_function hn ho hg, ExceptT.run_bind, hvs]
    rfl

/-! ### One step of a failure -/

/-- A call that takes all of its arguments fails if they do. -/
theorem TakesAll.evaluateCall_eq_fault (h : TakesAll r op args)
    (ha : (r.evaluateAll args record).run = .error f) :
    (r.evaluateCall op args record).run = .error f := by
  cases h with
  | arithmetic ho =>
    rw [evaluateCall_of_arithmetic ho, Evaluation.bind_eq_fault]
    refine (evaluateAll_cons_eq_fault.1 ha).imp_right fun ⟨a, hl, h⟩ => ⟨a, hl, ?_⟩
    rw [Evaluation.bind_eq_fault]
    refine (evaluateAll_cons_eq_fault.1 h).imp_right fun ⟨b, _, h⟩ => ?_
    rw [evaluateAll] at h
    cases h
  | function ho hg =>
    rw [evaluateCall_of_function ho, Evaluation.bind_eq_fault]
    refine .inr ⟨_, Evaluation.lift_eq_ok.2 hg, ?_⟩
    rw [Evaluation.bind_eq_fault]
    exact .inl ha

/-- An expression fails where an argument fails that it needs. -/
theorem Needs.evaluate_eq_fault {arg : Value} (h : Needs r record e arg)
    (ha : (r.evaluate arg record).run = .error f) : (r.evaluate e record).run = .error f := by
  cases h with
  | operand hn ht hb =>
    rw [evaluate_of_call hn]
    exact ht.evaluateCall_eq_fault (evaluateAll_eq_fault.2 ⟨_, _, _, rfl, hb, ha⟩)
  | condition hn ho =>
    rw [evaluate_of_call hn, evaluateCall_of_conditional ho, Evaluation.bind_eq_fault]
    exact .inl ha
  | branch hn ho hc =>
    rw [evaluate_of_call hn, evaluateCall_of_conditional ho, Evaluation.bind_eq_fault]
    exact .inr ⟨_, hc, ha⟩

theorem FailsInPlace.evaluate_eq_fault (h : FailsInPlace r record e f) :
    (r.evaluate e record).run = .error f := by
  cases h with
  | shape hn =>
    rw [evaluate]
    split <;> simp_all
    rfl
  | @step _ _ n _ _ _ hn hs hc hl =>
    rcases List.eq_nil_or_concat' n.steps with h | ⟨path, last, h⟩
    · simp [h] at hs
    · rw [evaluate_of_steps hn h]
      exact readPath_eq_fault_iff.2 ⟨_, _, _, _, h ▸ hs, hc, hl⟩
  | operator hn ho hg =>
    rw [evaluate_of_call hn, evaluateCall_of_function ho, Evaluation.bind_eq_fault]
    exact .inl (Evaluation.lift_eq_fault.2 hg)
  | @divisor _ _ _ a b hn ho ha hb hs =>
    rw [evaluate_of_call hn, evaluateCall_of_arithmetic ho]
    refine Evaluation.bind_eq_fault.2 (.inr ⟨_, ha, Evaluation.bind_eq_fault.2 (.inr ⟨_, hb, ?_⟩)⟩)
    exact Arithmetic.onValues_eq_fault.2 ⟨rfl, rfl, a, b, rfl, rfl, hs⟩
  | interrupted hi => exact hi.evaluate_run.trans (Outcome.captured_eq_fault.2 rfl)

/-- A failure to read fields is one of their steps. -/
theorem failsInPlace_of_steps {n : Node} {path : List Value} {last : Value}
    (hn : e.node? = .ok (some n)) (hs : n.steps = path ++ [last])
    (h : (r.evaluate e record).run = .error f) : FailsInPlace r record e f := by
  rw [evaluate_of_steps hn hs, readPath_eq_fault_iff] at h
  obtain ⟨before, name, after, c, hp, hc, hl⟩ := h
  exact .step hn (hs.trans hp) hc hl

/-- A call fails in its place or where one of its arguments does. -/
theorem failsInPlace_or_needs_of_call (hn : e.node? = .ok (some (.call op args)))
    (h : (r.evaluateCall op args record).run = .error f) : FailsInPlace r record e f ∨
      ∃ arg, Needs r record e arg ∧ (r.evaluate arg record).run = .error f := by
  rw [evaluateCall.eq_def] at h
  split at h
  -- Operands are evaluated from left to right, and only then does the operation itself fail.
  · rename_i o left right ho
    rcases Evaluation.bind_eq_fault.1 h with h | ⟨a, ha, h⟩
    · have hn : e.node? = .ok (some (.call op ([] ++ left :: [right]))) := hn
      exact .inr ⟨left, .operand hn (.arithmetic ho) (by simp), h⟩
    rcases Evaluation.bind_eq_fault.1 h with h | ⟨b, hb, h⟩
    · have hn : e.node? = .ok (some (.call op ([left] ++ right :: []))) := hn
      exact .inr ⟨right, .operand hn (.arithmetic ho) (by simp [ha]), h⟩
    obtain ⟨rfl, rfl, m, n, rfl, rfl, hs⟩ := Arithmetic.onValues_eq_fault.1 h
    exact .inl (.divisor hn ho ha hb hs)
  -- The branch that is not taken is not looked at.
  · rename_i condition yes no ho
    rcases Evaluation.bind_eq_fault.1 h with h | ⟨c, hc, h⟩
    · exact .inr ⟨condition, .condition hn ho, h⟩
    · refine .inr ⟨_, .branch hn ho hc, ?_⟩
      rwa [apply_ite (r.evaluate · record)]
  -- A function is looked for first, and what it does with its arguments is mostly captured.
  · rename_i args ho
    rcases Evaluation.bind_eq_fault.1 h with h | ⟨found, hg, h⟩
    · exact .inl (.operator hn ho (Evaluation.lift_eq_fault.1 h))
    cases found with
    | none => exact absurd h Evaluation.throw_ne_fault
    | some function =>
      have hg := Evaluation.lift_eq_ok.1 hg
      rcases Evaluation.bind_eq_fault.1 h with h | ⟨vs, hvs, h⟩
      · obtain ⟨before, arg, after, rfl, hb, h⟩ := evaluateAll_eq_fault.1 h
        exact .inr ⟨arg, .operand hn (.function ho hg) hb, h⟩
      · have hi : Invokes r record e (function vs) := .function hn ho hg hvs
        rw [Outcome.captured_eq_fault.1 h] at hi
        exact .inl (.interrupted hi)
  · exact absurd h Evaluation.throw_ne_fault

/-- An expression that fails does so in its place or in an argument that it needs. -/
theorem failsInPlace_or_needs (h : (r.evaluate e record).run = .error f) :
    FailsInPlace r record e f ∨
      ∃ arg, Needs r record e arg ∧ (r.evaluate arg record).run = .error f := by
  have hrun := h
  rw [evaluate] at hrun
  split at hrun
  case h_1 g hn =>
    cases hrun
    exact .inl (.shape hn)
  case h_2 | h_3 | h_4 => cases hrun
  case h_5 name hn =>
    have hs : Node.steps (.field name) = [] ++ [name] := rfl
    exact .inl (failsInPlace_of_steps hn hs h)
  case h_6 path last hn => exact .inl (failsInPlace_of_steps hn rfl h)
  case h_7 relationship last hn =>
    have hs : Node.steps (.explicit relationship last) = [relationship] ++ [last] := rfl
    exact .inl (failsInPlace_of_steps hn hs h)
  case h_8 function hn =>
    have hi : Invokes r record e (function.callWith [record]) := .host hn
    rw [Outcome.captured_eq_fault.1 hrun] at hi
    exact .inl (.interrupted hi)
  case h_9 op args hn => exact failsInPlace_or_needs_of_call hn hrun

/-! ### Where a failure starts -/

theorem Needs.sizeOf_lt {arg : Value} (h : Needs r record e arg) : sizeOf arg < sizeOf e := by
  cases h with
  | operand hn _ _ =>
    exact Nat.lt_trans (List.sizeOf_lt_of_mem (by simp)) (sizeOf_lt_of_node? hn)
  | condition hn _ =>
    exact Nat.lt_trans (List.sizeOf_lt_of_mem (by simp)) (sizeOf_lt_of_node? hn)
  | branch hn _ _ =>
    refine Nat.lt_trans (List.sizeOf_lt_of_mem ?_) (sizeOf_lt_of_node? hn)
    split <;> simp

/-- An expression *comes to* what it needs, what that needs, and so on. -/
def ComesTo (r : Registry) (record e part : Value) : Prop :=
  Relation.ReflTransGen (Needs r record) e part

/-- An evaluation fails if and only if something that it comes to fails in its place. -/
theorem evaluate_eq_fault_iff (e : Value) : (r.evaluate e record).run = .error f ↔
    ∃ part, ComesTo r record e part ∧ FailsInPlace r record part f := by
  constructor
  -- What an expression needs is smaller than it, so that the way to the place ends.
  · intro h
    rcases failsInPlace_or_needs h with h | ⟨arg, ha, h⟩
    · exact ⟨e, .refl, h⟩
    · have := ha.sizeOf_lt
      obtain ⟨part, hp, h⟩ := (evaluate_eq_fault_iff arg).1 h
      exact ⟨part, hp.head ha, h⟩
  · rintro ⟨part, hp, h⟩
    induction hp using Relation.ReflTransGen.head_induction_on with
    | refl => exact h.evaluate_eq_fault
    | head ha _ ih => exact ha.evaluate_eq_fault ih
  termination_by sizeOf e

/-- An evaluation ends with a value or an error if and only if nothing that it comes to fails
    in its place: whatever functions of the host do, unless they are interrupted. -/
theorem evaluate_returns_iff : (∃ outcome, (r.evaluate e record).run = .ok outcome) ↔
    ∀ part, ComesTo r record e part → ∀ f, ¬ FailsInPlace r record part f := by
  constructor
  · rintro ⟨outcome, h⟩ part hp f hf
    rw [(evaluate_eq_fault_iff e).2 ⟨part, hp, hf⟩] at h
    cases h
  · intro h
    cases hr : (r.evaluate e record).run with
    | ok outcome => exact ⟨outcome, rfl⟩
    | error f =>
      obtain ⟨part, hp, hf⟩ := (evaluate_eq_fault_iff e).1 hr
      exact (h part hp f hf).elim

/-- A divisor that signals ends the evaluation of a quotient, though it has operands only. -/
theorem evaluate_signaling_divisor :
    ¬ ∃ outcome, (Registry.empty.evaluate (.call (.str "/") [.str "a", .str "b"])
      (.dict [(.str "a", .int 1), (.str "b", .num (.dec (.nan false true 0 .fresh)))])).run =
        .ok outcome := by
  rintro ⟨outcome, h⟩
  have hf : FailsInPlace .empty (.dict [(.str "a", .int 1),
      (.str "b", .num (.dec (.nan false true 0 .fresh)))])
      (.call (.str "/") [.str "a", .str "b"]) .invalidDecimal :=
    .divisor rfl (Operator.of_symbol .div) (by cbv) (by cbv) rfl
  rw [hf.evaluate_eq_fault] at h
  cases h

end Registry

end ControlBreak
