import ControlBreak.Expression.Evaluation
import ControlBreak.Expression.References
import Mathlib.Tactic.Common

/-!
# What an evaluation reads

An expression *reads* the names that its evaluation may look up in the record: the
names of fields, and of paths the first step only. It *calls* the operators of its
calls that name functions of a registry.

* `evaluate_congr`: apart from functions of the host, an expression has the same
  value, or the same error, for records that agree on the names it reads, with
  registries that agree on the operators it calls;
* `mem_references_of_reads`: all texts that an expression reads are found by the
  analysis, which takes all steps of a path.
-/

namespace ControlBreak

namespace Value

/-- A name that the evaluation of an expression may look up in the record. -/
inductive Reads (name : Value) : Value → Prop
  | field {e : Value} : e.node? = .ok (some (.field name)) → Reads name e
  | step {e last : Value} {path : List Value} :
    e.node? = .ok (some (.related (name :: path) last)) → Reads name e
  | last {e : Value} : e.node? = .ok (some (.related [] name)) → Reads name e
  | explicit {e last : Value} : e.node? = .ok (some (.explicit name last)) → Reads name e
  | argument {e op arg : Value} {args : List Value} :
    e.node? = .ok (some (.call op args)) → arg ∈ args → Reads name arg → Reads name e

/-- An operator that the evaluation of an expression may look up in the registry. -/
inductive Calls (op : Value) : Value → Prop
  | here {e : Value} {args : List Value} : e.node? = .ok (some (.call op args)) →
    Operator.of op = .function → Calls op e
  | argument {e op' arg : Value} {args : List Value} :
    e.node? = .ok (some (.call op' args)) → arg ∈ args → Calls op arg → Calls op e

/-! ### Functions of the host -/

variable {e op : Value} {args : List Value}

theorem callsHost_of_call (h : e.node? = .ok (some (.call op args))) :
    e.callsHost = anyCallsHost args := by
  rw [callsHost]
  split <;> simp_all

theorem callsHost_of_host {function : Value} (h : e.node? = .ok (some (.host function))) :
    e.callsHost = .ok true := by
  rw [callsHost]
  split <;> simp_all

theorem callsHost_of_anyCallsHost (h : anyCallsHost args = .ok false) :
    ∀ arg ∈ args, arg.callsHost = .ok false := by
  induction args with
  | nil => simp
  | cons arg rest ih =>
    rw [anyCallsHost] at h
    cases ha : arg.callsHost with
    | error f => simp [ha, bind, Except.bind] at h
    | ok b =>
      cases b with
      | true => simp [ha, bind, Except.bind] at h
      | false =>
        simp only [ha, bind, Except.bind, Bool.false_eq_true, ↓reduceIte] at h
        exact List.forall_mem_cons.2 ⟨ha, ih h⟩

theorem exists_anyCallsHost {args : List Value} (h : ∀ arg ∈ args, ∃ b, arg.callsHost = .ok b) :
    ∃ b, anyCallsHost args = .ok b := by
  induction args with
  | nil => exact ⟨false, by rw [anyCallsHost]⟩
  | cons arg rest ih =>
    obtain ⟨⟨b, hb⟩, h⟩ := List.forall_mem_cons.1 h
    rw [anyCallsHost, hb]
    cases b with
    | true => exact ⟨true, rfl⟩
    | false => exact ih h

/-! ### Records that agree -/

/-- A value that may be a key is its own key. -/
theorem eq_of_asKey {k key : Value} (h : k.asKey = .ok key) : k = key := by
  rw [asKey] at h
  split at h
  · exact Except.ok.inj h
  · cases h

/-- A name is found alike below layers that show it alike. -/
theorem lookup_layered_congr {layer layer' : List (String × Value)} {record name : Value}
    (h : ∀ t, name = .str t → keyed? layer t = keyed? layer' t) :
    (layered layer record).lookup name = (layered layer' record).lookup name := by
  rw [lookup, lookup]
  cases hk : name.asKey with
  | error f => rfl
  | ok key =>
    obtain rfl := eq_of_asKey hk
    cases name with
    | str t => simp only [bind, Except.bind, h t rfl]
    | _ => rfl

theorem readField_congr {c c' name : Value} (h : c.lookup name = c'.lookup name) :
    c.readField name = c'.readField name := by
  rw [readField, readField, h]

/-- Of the steps to a field, only the first one is looked up in the record. -/
theorem readPath_congr {c c' : Value} {path : List Value} {last : Value}
    (h : c.lookup (path.headD last) = c'.lookup (path.headD last)) :
    c.readPath path last = c'.readPath path last := by
  cases path with
  | nil => exact readField_congr h
  | cons name path =>
    rw [List.headD_cons] at h
    rw [readPath, readPath, follow, follow, h]

end Value

namespace Registry

open Value

variable {r r' : Registry} {c c' : Value}

theorem evaluateAll_congr {args : List Value}
    (h : ∀ arg ∈ args, r.evaluate arg c = r'.evaluate arg c') :
    r.evaluateAll args c = r'.evaluateAll args c' := by
  induction args with
  | nil => rw [evaluateAll, evaluateAll]
  | cons arg rest ih =>
    obtain ⟨ha, hr⟩ := List.forall_mem_cons.1 h
    rw [evaluateAll, evaluateAll, ha, ih hr]

theorem evaluateCall_congr {op : Value} {args : List Value}
    (hop : Operator.of op = .function → r.get? op = r'.get? op)
    (h : ∀ arg ∈ args, r.evaluate arg c = r'.evaluate arg c') :
    r.evaluateCall op args c = r'.evaluateCall op args c' := by
  rw [evaluateCall.eq_def, evaluateCall.eq_def r']
  split
  · rename_i left right _
    rw [h left (by simp), h right (by simp)]
  · rename_i condition yes no _
    rw [h condition (by simp), h yes (by simp), h no (by simp)]
  · rename_i args ho
    rw [hop ho, evaluateAll_congr h]
  · rfl

/-- The value of an expression depends on what it reads and calls only, and on the record
    as a whole if it calls into the host. -/
theorem evaluate_congr_of_reads (e : Value) (hh : e.callsHost = .ok false ∨ c = c')
    (hr : ∀ name, Reads name e → c.lookup name = c'.lookup name)
    (hc : ∀ op, Calls op e → r.get? op = r'.get? op) :
    r.evaluate e c = r'.evaluate e c' := by
  rw [evaluate, evaluate]
  split
  case h_1 | h_2 | h_3 | h_4 => rfl
  case h_5 name hn => exact readField_congr (hr name (.field hn))
  case h_6 path last hn =>
    refine readPath_congr ?_
    cases path with
    | nil => exact hr last (.last hn)
    | cons name path => exact hr name (.step hn)
  case h_7 name last hn => exact readPath_congr (hr name (.explicit hn))
  case h_8 function hn =>
    rcases hh with hh | rfl
    · rw [callsHost_of_host hn] at hh
      cases hh
    · rfl
  case h_9 op args hn =>
    -- Not all arguments need to be evaluated, but all of them may be.
    rw [callsHost_of_call hn] at hh
    refine evaluateCall_congr (fun ho => hc op (.here hn ho)) fun arg ha => ?_
    have := List.sizeOf_lt_of_mem ha
    have := sizeOf_lt_of_node? hn
    exact evaluate_congr_of_reads arg (hh.imp_left fun hh => callsHost_of_anyCallsHost hh arg ha)
      (fun name hname => hr name (.argument hn ha hname))
      fun op' hop => hc op' (.argument hn ha hop)
  termination_by sizeOf e

/-- The value of an expression depends on what it reads and calls only. -/
theorem evaluate_congr (e : Value) (hh : e.callsHost = .ok false)
    (hr : ∀ name, Reads name e → c.lookup name = c'.lookup name)
    (hc : ∀ op, Calls op e → r.get? op = r'.get? op) :
    r.evaluate e c = r'.evaluate e c' :=
  evaluate_congr_of_reads e (.inl hh) hr hc

end Registry

namespace Value

/-! ### The names that the analysis finds -/

variable {e : Value} {s : String}

/-- A text is one key with itself only. -/
theorem sameKey_str {k : Value} : sameKey k (.str s) = true ↔ k = .str s := by
  have hm : sameMark k (.str s) = false := by cases k <;> simp [sameMark]
  rw [sameKey, equalMember, orSame, hm]
  cases k <;> simp [equals, number?, members?]

theorem mem_foldl_distinct {keys seen : List Value} (h : .str s ∈ seen ∨ .str s ∈ keys) :
    .str s ∈
      keys.foldl (fun seen k => if seen.any (sameKey · k) then seen else seen ++ [k]) seen := by
  induction keys generalizing seen with
  | nil => simpa using h
  | cons k rest ih =>
    rw [List.foldl_cons]
    refine ih ?_
    rcases h with h | h
    · left
      split
      exacts [h, List.mem_append_left _ h]
    · rcases List.mem_cons.1 h with rfl | h
      · left
        split
        · rename_i ha
          obtain ⟨k, hk, he⟩ := List.any_eq_true.1 ha
          rwa [← sameKey_str.1 he]
        · simp
      · exact .inr h

theorem mem_of_distinctKeys {keys names : List Value} (h : distinctKeys keys = .ok names)
    (hs : .str s ∈ keys) : .str s ∈ names := by
  rw [distinctKeys] at h
  split at h
  · cases h
    exact mem_foldl_distinct (.inr hs)
  · cases h

/-- What is found in an argument is found in all arguments. -/
theorem exists_of_referencesOfAll {arg : Value} {args names : List Value}
    (h : referencesOfAll args = .ok names) (ha : arg ∈ args) :
    ∃ found, arg.references = .ok found ∧ found ⊆ names := by
  induction args generalizing names with
  | nil => cases ha
  | cons first rest ih =>
    rw [referencesOfAll] at h
    cases hf : first.references with
    | error f => simp [hf, bind, Except.bind] at h
    | ok found =>
      cases hr : referencesOfAll rest with
      | error f => simp [hf, hr, bind, Except.bind] at h
      | ok others =>
        simp only [hf, hr, bind, Except.bind, pure, Except.pure, Except.ok.injEq] at h
        subst h
        rcases List.mem_cons.1 ha with rfl | ha
        · exact ⟨found, hf, List.subset_append_left _ _⟩
        · obtain ⟨found', hf', hs⟩ := ih hr ha
          exact ⟨found', hf', List.subset_append_of_subset_right _ hs⟩

theorem references_of_field {name : Value} (h : e.node? = .ok (some (.field name))) :
    e.references = .ok [name] := by
  rw [references]
  split <;> simp_all

theorem references_of_related {path : List Value} {last : Value}
    (h : e.node? = .ok (some (.related path last))) :
    e.references = distinctKeys (path ++ [last]) := by
  rw [references]
  split <;> simp_all

theorem references_of_explicit {name last : Value}
    (h : e.node? = .ok (some (.explicit name last))) :
    e.references = distinctKeys [name, last] := by
  rw [references]
  split <;> simp_all

theorem references_of_call {op : Value} {args : List Value}
    (h : e.node? = .ok (some (.call op args))) :
    e.references = referencesOfAll args >>= distinctKeys := by
  rw [references]
  split <;> simp_all [bind, Except.bind]

/-- All texts that an expression reads are among its references. -/
theorem mem_references_of_reads {names : List Value} (hr : Reads (.str s) e)
    (h : e.references = .ok names) : .str s ∈ names := by
  induction hr generalizing names with
  | field hn =>
    rw [references_of_field hn] at h
    cases h
    exact List.mem_singleton_self _
  | step hn =>
    rw [references_of_related hn] at h
    exact mem_of_distinctKeys h (by simp)
  | last hn =>
    rw [references_of_related hn] at h
    exact mem_of_distinctKeys h (by simp)
  | explicit hn =>
    rw [references_of_explicit hn] at h
    exact mem_of_distinctKeys h (by simp)
  | @argument e op arg args hn ha _ ih =>
    rw [references_of_call hn] at h
    cases hall : referencesOfAll args with
    | error f =>
      rw [hall] at h
      cases h
    | ok all =>
      rw [hall] at h
      obtain ⟨found, hf, hs⟩ := exists_of_referencesOfAll hall ha
      exact mem_of_distinctKeys h (hs (ih hf))

/-- Where all references can be told, it can be told whether the host is called: both look at
    the same expressions. -/
theorem exists_callsHost_of_references (e : Value) {names : List Value}
    (h : e.references = .ok names) : ∃ b, e.callsHost = .ok b := by
  rw [callsHost]
  split
  case h_1 f hn =>
    rw [references] at h
    split at h <;> simp_all
  case h_2 => exact ⟨true, rfl⟩
  case h_3 op args hn =>
    rw [references_of_call hn] at h
    cases hall : referencesOfAll args with
    | error f =>
      rw [hall] at h
      cases h
    | ok all =>
      refine exists_anyCallsHost fun arg ha => ?_
      obtain ⟨found, hf, -⟩ := exists_of_referencesOfAll hall ha
      have := List.sizeOf_lt_of_mem ha
      have := sizeOf_lt_of_node? hn
      exact exists_callsHost_of_references arg hf
  case h_4 => exact ⟨false, rfl⟩
  termination_by sizeOf e

end Value

end ControlBreak
