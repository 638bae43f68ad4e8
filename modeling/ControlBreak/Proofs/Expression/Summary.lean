import ControlBreak.Proofs.Expression.Reads
import ControlBreak.Proofs.Host
import Mathlib

/-!
# The summary of an expression

The references of an expression, and whether it calls into the host, are found without a
record. They are a *summary* of its evaluation: an expression that does not call into the
host has one outcome for all records that agree on its references, with all registries that
agree on the functions it calls. The four signs of arithmetic and the conditional are no
functions, whatever a registry holds under their names.

* `exists_references`: the references of an expression whose names are texts can be told;
* `evaluate_eq_of_references`: the summary is sound.
-/

namespace ControlBreak

namespace Value

/-- A name that occurs in an expression: of a field, of a step to one, or of what a call
    applies. -/
inductive Mentions (name : Value) : Value → Prop
  | field {e : Value} : e.node? = .ok (some (.field name)) → Mentions name e
  | step {e last : Value} {path : List Value} :
    e.node? = .ok (some (.related path last)) → name ∈ path → Mentions name e
  | last {e : Value} {path : List Value} :
    e.node? = .ok (some (.related path name)) → Mentions name e
  | relationship {e last : Value} : e.node? = .ok (some (.explicit name last)) → Mentions name e
  | explicit {e relationship : Value} :
    e.node? = .ok (some (.explicit relationship name)) → Mentions name e
  | operator {e : Value} {args : List Value} :
    e.node? = .ok (some (.call name args)) → Mentions name e
  | argument {e op arg : Value} {args : List Value} :
    e.node? = .ok (some (.call op args)) → arg ∈ args → Mentions name arg → Mentions name e

/-- Whether a value is a text. -/
def IsText (v : Value) : Prop :=
  ∃ s, v = .str s

/-- All names in an expression are texts. -/
def HasTextNames (e : Value) : Prop :=
  ∀ name, Mentions name e → name.IsText

variable {e op : Value} {args : List Value}

theorem mentions_of_reads {name : Value} (h : Reads name e) : Mentions name e := by
  induction h with
  | field hn => exact .field hn
  | step hn => exact .step hn List.mem_cons_self
  | last hn => exact .last hn
  | explicit hn => exact .relationship hn
  | argument hn ha _ ih => exact .argument hn ha ih

theorem mentions_of_calls {op : Value} (h : Calls op e) : Mentions op e := by
  induction h with
  | here hn _ => exact .operator hn
  | argument hn ha _ ih => exact .argument hn ha ih

theorem hasTextNames_of_field {name : Value} (hn : e.node? = .ok (some (.field name)))
    (ht : name.IsText) : e.HasTextNames := by
  intro other h
  cases h <;> simp_all

theorem hasTextNames_of_related {path : List Value} {last : Value}
    (hn : e.node? = .ok (some (.related path last))) (hp : ∀ step ∈ path, step.IsText)
    (ht : last.IsText) : e.HasTextNames := by
  intro other h
  cases h <;> simp_all

theorem hasTextNames_of_literal {v : Value} (hn : e.node? = .ok (some (.literal v))) :
    e.HasTextNames := by
  intro other h
  cases h <;> simp_all

theorem hasTextNames_of_call (hn : e.node? = .ok (some (.call op args))) (ho : op.IsText)
    (ha : ∀ arg ∈ args, arg.HasTextNames) : e.HasTextNames := by
  intro other h
  cases h with
  | argument hm hmem h =>
    rw [hn] at hm
    cases hm
    exact ha _ hmem other h
  | _ => simp_all

/-! ### References that can be told -/

theorem mem_of_mem_distinct {keys : List Value} {k : Value} (h : k ∈ distinct keys) :
    k ∈ keys := by
  suffices ∀ seen, k ∈ keys.foldl
      (fun seen k => if seen.any (sameKey · k) then seen else seen ++ [k]) seen →
      k ∈ seen ∨ k ∈ keys from (this [] h).resolve_left List.not_mem_nil
  clear h
  induction keys with
  | nil => exact fun _ h => .inl h
  | cons first rest ih =>
    intro seen h
    rw [List.foldl_cons] at h
    rcases ih _ h with h | h
    · split at h
      · exact .inl h
      · rcases List.mem_append.1 h with h | h
        · exact .inl h
        · exact .inr (List.mem_cons.2 (.inl (List.mem_singleton.1 h)))
    · exact .inr (List.mem_cons_of_mem _ h)

/-- Texts may be keys, so each of them can be told from the others. -/
theorem exists_distinctKeys {keys : List Value} (h : ∀ k ∈ keys, k.IsText) :
    ∃ names, distinctKeys keys = .ok names ∧ ∀ name ∈ names, name.IsText := by
  have hkeys : keys.all isHashable = true := List.all_eq_true.2 fun k hk => by
    obtain ⟨s, rfl⟩ := h k hk
    rfl
  exact ⟨_, if_pos hkeys, fun name hn => h name (mem_of_mem_distinct hn)⟩

theorem exists_referencesOfAll {args : List Value}
    (h : ∀ arg ∈ args, ∃ names, arg.references = .ok names ∧ ∀ name ∈ names, name.IsText) :
    ∃ names, referencesOfAll args = .ok names ∧ ∀ name ∈ names, name.IsText := by
  induction args with
  | nil => exact ⟨[], by rw [referencesOfAll], by simp⟩
  | cons arg rest ih =>
    obtain ⟨⟨names, hn, ht⟩, h⟩ := List.forall_mem_cons.1 h
    obtain ⟨others, ho, hto⟩ := ih h
    refine ⟨names ++ others, ?_, List.forall_mem_append.2 ⟨ht, hto⟩⟩
    rw [referencesOfAll, hn, ho]
    rfl

/-- An expression that does not call into the host, and whose names are texts, refers to
    texts that can be told. -/
theorem exists_references (e : Value) (ht : e.HasTextNames) (hh : e.callsHost = .ok false) :
    ∃ names, e.references = .ok names ∧ ∀ name ∈ names, name.IsText := by
  rw [references]
  split
  case h_1 f hn =>
    rw [callsHost] at hh
    split at hh <;> simp_all
  case h_2 name hn => exact ⟨[name], rfl, by simpa using ht name (.field hn)⟩
  case h_3 path last hn =>
    refine exists_distinctKeys (List.forall_mem_append.2 ⟨fun k hk => ht k (.step hn hk), ?_⟩)
    simpa using ht last (.last hn)
  case h_4 relationship last hn =>
    refine exists_distinctKeys (List.forall_mem_cons.2 ⟨ht _ (.relationship hn), ?_⟩)
    simpa using ht last (.explicit hn)
  case h_5 op args hn =>
    rw [callsHost_of_call hn] at hh
    obtain ⟨names, hnames, hall⟩ := exists_referencesOfAll fun arg ha => by
      have := List.sizeOf_lt_of_mem ha
      have := sizeOf_lt_of_node? hn
      exact exists_references arg (fun name hm => ht name (.argument hn ha hm))
        (callsHost_of_anyCallsHost hh arg ha)
    rw [hnames]
    exact exists_distinctKeys hall
  case h_6 => exact ⟨[], rfl, by simp⟩
  termination_by sizeOf e

end Value

namespace Registry

open Value

variable {r r' : Registry} {c c' : Value}

/-- Only texts are names of functions, so registries that agree on them agree on operators. -/
theorem get?_congr {op : Value} (h : ∀ s, op = .str s → r.find? s = r'.find? s) :
    r.get? op = r'.get? op := by
  rw [get?, get?]
  cases hk : op.asKey with
  | error f => rfl
  | ok key =>
    obtain rfl := eq_of_asKey hk
    cases op with
    | str s => simp only [Except.map, h s rfl]
    | _ => rfl

theorem operator_of_calls {op e : Value} (h : Calls op e) : Operator.of op = .function := by
  induction h with
  | here _ ho => exact ho
  | argument _ _ _ ih => exact ih

/-- What a registry holds under the name of a built-in operator is never looked for. -/
theorem evaluate_add_of_ne_function {op : String} (h : Operator.of (.str op) ≠ .function)
    (function : HostFunction) (e c : Value) :
    (r.add op function).evaluate e c = r.evaluate e c := by
  refine evaluate_congr_of_reads e (.inr rfl) (fun _ _ => rfl) fun called hc => ?_
  refine get?_congr fun s hs => ?_
  rw [find?_add, if_neg]
  rintro rfl
  exact h (hs ▸ operator_of_calls hc)

/-- The summary of an expression is sound. An expression whose names are texts and that does
    not call into the host has references, and it has the same outcome, be it a value or an
    error, for any two records in which these are found alike, with any two registries that
    hold the same under the names of the functions it calls. Under the names of built-in
    operators, a registry may hold what it likes, for every expression. -/
theorem evaluate_eq_of_references (e : Value) (ht : e.HasTextNames)
    (hh : e.callsHost = .ok false) :
    (∃ names, e.references = .ok names ∧ ∀ (r r' : Registry) (c c' : Value),
      (∀ name ∈ names, c.lookup name = c'.lookup name) →
      (∀ op, Calls (.str op) e → r.find? op = r'.find? op) →
      r.evaluate e c = r'.evaluate e c') ∧
    ∀ op ∈ ["+", "-", "*", "/", "if"], ∀ (r : Registry) (function : HostFunction) (e c : Value),
      (r.add op function).evaluate e c = r.evaluate e c := by
  obtain ⟨names, hnames, -⟩ := exists_references e ht hh
  refine ⟨⟨names, hnames, fun r r' c c' hl hc => ?_⟩, fun op hop r function e c => ?_⟩
  · refine evaluate_congr e hh (fun name hr => ?_) fun op hop => ?_
    · obtain ⟨s, rfl⟩ := ht name (mentions_of_reads hr)
      exact hl _ (mem_references_of_reads hr hnames)
    · obtain ⟨s, rfl⟩ := ht op (mentions_of_calls hop)
      exact get?_congr fun t heq => hc t (heq ▸ hop)
  · refine evaluate_add_of_ne_function ?_ function e c
    revert op
    decide

/-- The name of a customer if the total is above 10, and else nothing: nodes with names, a
    number and tuples for arguments. -/
def largeCustomer : Value :=
  .call (.str "if") [.call (.str ">") [.str "total", .int 10],
    .call (.str "upper") [.tuple [.str "customer", .str "name"]], .int 0]

/-- Two records with one total and one customer, the second of them seen through a layer, and
    two registries, of which the second holds a conditional that is never used. -/
theorem evaluate_eq_of_references_largeCustomer :
    largeCustomer.HasTextNames ∧ largeCustomer.callsHost = .ok false ∧
      largeCustomer.references = .ok [.str "total", .str "customer", .str "name"] ∧
      Registry.builtins.evaluate largeCustomer (.dict [(.str "total", .int 12),
        (.str "customer", .dict [(.str "name", .str "ann")]), (.str "page", .int 1)]) =
      (Registry.builtins.add "if" fun _ => .value .nil).evaluate largeCustomer
        (.layered [("total", .int 12)]
          (.dict [(.str "customer", .dict [(.str "name", .str "ann")])])) := by
  have hh : largeCustomer.callsHost = .ok false := by cbv
  have hr : largeCustomer.references = .ok [.str "total", .str "customer", .str "name"] := by cbv
  have ht : largeCustomer.HasTextNames := by
    refine hasTextNames_of_call rfl ⟨_, rfl⟩ ?_
    simp only [List.forall_mem_cons]
    refine ⟨hasTextNames_of_call rfl ⟨_, rfl⟩ ?_, hasTextNames_of_call rfl ⟨_, rfl⟩ ?_,
      hasTextNames_of_literal rfl, by simp⟩
    · simp only [List.forall_mem_cons]
      exact ⟨hasTextNames_of_field rfl ⟨_, rfl⟩, hasTextNames_of_literal rfl, by simp⟩
    · simp only [List.forall_mem_cons]
      exact ⟨hasTextNames_of_related rfl (by simp [IsText]) ⟨_, rfl⟩, by simp⟩
  obtain ⟨⟨names, hnames, hsame⟩, -⟩ := evaluate_eq_of_references _ ht hh
  obtain rfl := Except.ok.inj (hr.symm.trans hnames)
  refine ⟨ht, hh, hr, hsame _ _ _ _ (fun name hn => ?_) fun op hop => ?_⟩
  · simp only [List.mem_cons, List.not_mem_nil, or_false] at hn
    rcases hn with rfl | rfl | rfl <;> cbv
  · rw [find?_add, if_neg]
    rintro rfl
    exact absurd (operator_of_calls hop) (by decide)

end Registry

end ControlBreak
