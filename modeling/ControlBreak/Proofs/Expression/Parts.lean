import ControlBreak.Proofs.Expression.WellFormed

/-!
# The parts of an expression

The *parts* of an expression are itself, the arguments of its calls, and the parts of these. An
evaluation comes to some of them only; what is told of an expression without a record is told of
all of them.

A part that reads a field names the *steps* to it. Only the first step is looked up in the record
itself, and the steps *beyond* it in related records. The references of an expression are the
steps of both kinds.

* `isWellFormed_iff`: an expression is well formed if and only if the nodes of its parts are
  sound;
* `reads_iff`, `names_iff_reads`: the names that are looked up in the record, and the others;
* `mem_references_iff`: what an expression refers to.
-/

namespace ControlBreak

namespace Value

/-- A part of an expression: the expression itself, or a part of one of its arguments. -/
inductive IsPart (part : Value) : Value → Prop
  | self : IsPart part part
  | argument {e arg : Value} {n : Node} : e.node? = .ok (some n) → arg ∈ n.arguments →
    IsPart part arg → IsPart part e

variable {e part name op : Value} {n : Node} {args names : List Value} {s : String}

theorem isPart_iff (hn : e.node? = .ok (some n)) :
    IsPart part e ↔ part = e ∨ ∃ arg ∈ n.arguments, IsPart part arg := by
  constructor
  · intro h
    rcases h with _ | ⟨hn', ha, hp⟩
    · exact .inl rfl
    · cases hn.symm.trans hn'
      exact .inr ⟨_, ha, hp⟩
  · rintro (rfl | ⟨arg, ha, hp⟩)
    exacts [.self, .argument hn ha hp]

/-- The node of a part is that of the expression itself, or that of a part of an argument. -/
theorem exists_part_iff {P : Node → Prop} (hn : e.node? = .ok (some n)) :
    (∃ part m, IsPart part e ∧ part.node? = .ok (some m) ∧ P m) ↔
      P n ∨ ∃ arg ∈ n.arguments, ∃ part m, IsPart part arg ∧ part.node? = .ok (some m) ∧ P m := by
  constructor
  · rintro ⟨part, m, hp, hm, h⟩
    rcases (isPart_iff hn).1 hp with rfl | ⟨arg, ha, hp⟩
    · cases hn.symm.trans hm
      exact .inl h
    · exact .inr ⟨arg, ha, part, m, hp, hm, h⟩
  · rintro (h | ⟨arg, ha, part, m, hp, hm, h⟩)
    exacts [⟨e, n, .self, hn, h⟩, ⟨part, m, .argument hn ha hp, hm, h⟩]

/-- An expression is well formed if and only if each of its parts has a node that is sound. -/
theorem isWellFormed_iff (e : Value) : e.IsWellFormed ↔
    ∀ part, IsPart part e → ∃ n, part.node? = .ok (some n) ∧ n.isSound = true := by
  constructor
  · intro h part hp
    induction hp with
    | self =>
      obtain ⟨hn, hs, -⟩ := h
      exact ⟨_, hn, hs⟩
    | argument hn ha _ ih => exact ih ((h.of_node? hn).2 _ ha)
  · intro h
    obtain ⟨n, hn, hs⟩ := h e .self
    refine .node hn hs fun arg ha => ?_
    have := sizeOf_lt_of_arguments hn ha
    exact (isWellFormed_iff arg).2 fun part hp => h part (.argument hn ha hp)
  termination_by sizeOf e

/-! ### The steps to fields -/

/-- A name that leads from the record to a field that a part of an expression reads. -/
def Names (name e : Value) : Prop :=
  ∃ part n, IsPart part e ∧ part.node? = .ok (some n) ∧ name ∈ n.steps

/-- A name that an evaluation looks up in a related record, if it gets there: it comes after the
    first step to a field. -/
def ReadsBeyond (name e : Value) : Prop :=
  ∃ part n first beyond, IsPart part e ∧ part.node? = .ok (some n) ∧
    n.steps = first :: beyond ∧ name ∈ beyond

theorem names_iff (hn : e.node? = .ok (some n)) :
    Names name e ↔ name ∈ n.steps ∨ ∃ arg ∈ n.arguments, Names name arg :=
  exists_part_iff hn

theorem Reads.of_steps {beyond : List Value} (hn : e.node? = .ok (some n))
    (hs : n.steps = name :: beyond) : Reads name e := by
  cases n with
  | field =>
    cases hs
    exact .field hn
  | related path last =>
    -- A path without relationships leads to a field of the record itself.
    rcases path with _ | ⟨first, path⟩ <;> cases hs
    exacts [.last hn, .step hn]
  | explicit =>
    cases hs
    exact .explicit hn
  | _ => cases hs

/-- What an evaluation may look up in the record are the first steps. -/
theorem reads_iff : Reads name e ↔ ∃ part n beyond, IsPart part e ∧ part.node? = .ok (some n) ∧
    n.steps = name :: beyond := by
  constructor
  · intro h
    induction h with
    | field hn | step hn | last hn | explicit hn => exact ⟨_, _, _, .self, hn, rfl⟩
    | argument hn ha _ ih =>
      obtain ⟨part, m, beyond, hp, hm, hs⟩ := ih
      exact ⟨part, m, beyond, .argument hn ha hp, hm, hs⟩
  · rintro ⟨part, m, beyond, hp, hm, hs⟩
    induction hp with
    | self => exact .of_steps hm hs
    | @argument e arg n hn ha _ ih =>
      cases n with
      | call op args => exact .argument hn ha ih
      | _ => cases ha

/-- Each step is the first one, or it lies beyond it. -/
theorem names_iff_reads : Names name e ↔ Reads name e ∨ ReadsBeyond name e := by
  rw [reads_iff]
  constructor
  · rintro ⟨part, n, hp, hn, hs⟩
    obtain ⟨first, beyond, hsteps⟩ := List.exists_cons_of_ne_nil (List.ne_nil_of_mem hs)
    rw [hsteps] at hs
    rcases List.mem_cons.1 hs with rfl | hs
    · exact .inl ⟨part, n, beyond, hp, hn, hsteps⟩
    · exact .inr ⟨part, n, first, beyond, hp, hn, hsteps, hs⟩
  · rintro (⟨part, n, beyond, hp, hn, hs⟩ | ⟨part, n, first, beyond, hp, hn, hs, hm⟩)
    · exact ⟨part, n, hp, hn, hs ▸ List.mem_cons_self⟩
    · exact ⟨part, n, hp, hn, hs ▸ List.mem_cons_of_mem _ hm⟩

/-! ### References -/

theorem mem_distinctKeys_iff {keys : List Value} (h : distinctKeys keys = .ok names) :
    .str s ∈ names ↔ .str s ∈ keys := by
  refine ⟨fun hs => ?_, mem_of_distinctKeys h⟩
  rw [distinctKeys] at h
  split at h <;> cases h
  exact mem_of_mem_distinct hs

/-- What is found in all arguments is found in one of them. -/
theorem mem_referencesOfAll_iff (h : referencesOfAll args = .ok names) : name ∈ names ↔
    ∃ arg ∈ args, ∃ found, arg.references = .ok found ∧ name ∈ found := by
  induction args generalizing names with
  | nil =>
    rw [referencesOfAll] at h
    cases h
    simp
  | cons arg rest ih =>
    rw [referencesOfAll] at h
    obtain ⟨found, hf, h⟩ := Host.bind_eq_ok.1 h
    obtain ⟨others, ho, h⟩ := Host.bind_eq_ok.1 h
    cases h
    simp [ih ho, hf]

/-- An expression refers to the texts among its steps. -/
theorem mem_references_iff (e : Value) {names : List Value} (h : e.references = .ok names) :
    .str s ∈ names ↔ Names (.str s) e := by
  rw [references] at h
  split at h
  case h_1 => cases h
  case h_2 name hn =>
    cases h
    simp [names_iff hn, Node.steps, Node.arguments]
  case h_3 path last hn =>
    rw [mem_distinctKeys_iff h, names_iff hn]
    simp [Node.steps, Node.arguments]
  case h_4 relationship last hn =>
    rw [mem_distinctKeys_iff h, names_iff hn]
    simp [Node.steps, Node.arguments]
  case h_5 op args hn =>
    obtain ⟨all, hall, h⟩ := Host.bind_eq_ok.1 h
    have hnone : .str s ∉ (Node.call op args).steps := List.not_mem_nil
    rw [mem_distinctKeys_iff h, mem_referencesOfAll_iff hall, names_iff hn, or_iff_right hnone]
    refine exists_congr fun arg => and_congr_right fun ha => ?_
    obtain ⟨found, hf, -⟩ := exists_of_referencesOfAll hall ha
    have := sizeOf_lt_of_arguments hn ha
    rw [← mem_references_iff arg hf]
    constructor
    · rintro ⟨found', hf', hs⟩
      cases hf.symm.trans hf'
      exact hs
    · intro hs
      exact ⟨found, hf, hs⟩
  case h_6 found hfield hrelated hexplicit hcall hn =>
    cases h
    refine iff_of_false List.not_mem_nil fun hs => ?_
    -- What is no node names nothing, and what is another one has neither steps nor arguments.
    cases found with
    | none =>
      obtain ⟨part, m, hp, hm, -⟩ := hs
      rcases hp with _ | ⟨hm', -, -⟩
      · cases hn.symm.trans hm
      · cases hn.symm.trans hm'
    | some n =>
      rw [names_iff hn] at hs
      cases n with
      | field => exact hfield _ rfl
      | related => exact hrelated _ _ rfl
      | explicit => exact hexplicit _ _ rfl
      | call => exact hcall _ _ rfl
      | _ => simp [Node.steps, Node.arguments] at hs
  termination_by sizeOf e

end Value

end ControlBreak
