import ControlBreak.Proofs.Expression.Parts
import ControlBreak.Proofs.Variables.Caution

/-!
# Circles of variables

A plan is refused if its variables depend on each other in a circle. What a variable depends on
are all names that lead to its fields, whether they are looked up on its context or in records
beyond it. Other variables are found on the context only; so a field of a related record that is
called like a variable closes a circle that no evaluation could go around.

* `refersTo_iff`: the names that a variable refers to are those that it looks up on its context,
  and those beyond;
* `edge_permissive_iff`: so these are how variables depend on each other;
* `make_circular`: a plan that is refused has a circle of such variables, and each such circle is
  refused;
* `make_circular_beyond`: a circle of names that is none of lookups.
-/

namespace ControlBreak

namespace VariableDefinition

variable {d : VariableDefinition} {s : String} {definitions : List VariableDefinition}

/-- A name that a variable may look up in a related record: its expression does, or its
    condition. -/
def ReadsBeyond (d : VariableDefinition) (name : Value) : Prop :=
  Value.ReadsBeyond name d.expression ∨ Value.ReadsBeyond name d.condition

/-- The first variable may look up the name of the second one on its context. -/
def ReadsVariable (definitions : List VariableDefinition) (first second : String) : Prop :=
  ∃ d ∈ definitions, d.name = first ∧ second ∈ definitions.map (·.name) ∧ d.Reads (.str second)

/-- The first variable may look up the name of the second one, on its context or in a related
    record. -/
def NamesVariable (definitions : List VariableDefinition) (first second : String) : Prop :=
  ∃ d ∈ definitions, d.name = first ∧ second ∈ definitions.map (·.name) ∧
    (d.Reads (.str second) ∨ d.ReadsBeyond (.str second))

/-- What is nothing names nothing. -/
theorem isConditional_of_names {name : Value} (h : Value.Names name d.condition) :
    d.isConditional = true := by
  rw [isConditional]
  split
  · rename_i hc
    rw [hc, Value.names_iff rfl] at h
    simp [Node.steps, Node.arguments] at h
  · rfl

theorem mem_references_iff {names : List Value} (h : d.references = .ok names) : .str s ∈ names ↔
    Value.Names (.str s) d.expression ∨ Value.Names (.str s) d.condition := by
  obtain ⟨found, hf, h⟩ := Host.bind_eq_ok.1 h
  rw [← Value.mem_references_iff _ hf]
  split at h
  · obtain ⟨others, ho, h⟩ := Host.bind_eq_ok.1 h
    rw [Value.mem_distinctKeys_iff h, List.mem_append, Value.mem_references_iff _ ho]
  · rename_i hc
    cases h
    exact (or_iff_left fun hn => hc (isConditional_of_names hn)).symm

/-- A variable refers to the names that it looks up, on its context and beyond. -/
theorem refersTo_iff (h : d.HasNames) :
    d.RefersTo s ↔ d.Reads (.str s) ∨ d.ReadsBeyond (.str s) := by
  obtain ⟨names, hnames, -⟩ := h
  have hmem : d.RefersTo s ↔ .str s ∈ names := by
    constructor
    · rintro ⟨_, hnames', hs⟩
      cases hnames.symm.trans hnames'
      exact hs
    · exact fun hs => ⟨names, hnames, hs⟩
  rw [hmem, mem_references_iff hnames, Value.names_iff_reads, Value.names_iff_reads, Reads,
    ReadsBeyond]
  tauto

end VariableDefinition

open VariableDefinition

/-- Variables that are not cautious depend on those that they name. -/
theorem edge_permissive_iff {definitions : List VariableDefinition} {g : Graph String}
    (hn : (definitions.map (·.name)).Nodup) (h : variableGraph definitions false = .ok g)
    {first second : String} : g.Edge first second ↔ NamesVariable definitions first second := by
  have hnames := (exists_variableGraph_iff hn).1 ⟨g, h⟩
  constructor
  · intro he
    obtain ⟨d, hd, rfl⟩ := exists_of_edge hn h he
    obtain ⟨hs, hr⟩ := (edge_variableGraph_iff hn h hd).1 he
    have hr : d.RefersTo second := hr.resolve_right fun hc => Bool.false_ne_true hc.1
    exact ⟨d, hd, rfl, hs, (refersTo_iff (hnames d hd)).1 hr⟩
  · rintro ⟨d, hd, rfl, hs, hr⟩
    exact (edge_variableGraph_iff hn h hd).2 ⟨hs, .inl ((refersTo_iff (hnames d hd)).2 hr)⟩

namespace Plan

variable {settings : Settings} {definitions : List VariableDefinition} {error : DependencyError}
  {g : Graph String} {cycle : List String}

theorem make_of_findCycle (hn : (definitions.map (·.name)).Nodup)
    (h : variableGraph definitions settings.conservativeDependencies = .ok g)
    (hc : g.findCycle = some cycle) :
    (make settings definitions none).run = .ok (.error (.circular cycle)) := by
  obtain ⟨deps, hg, hcomparable, rfl⟩ := variableGraph_eq_ok.1 h
  rw [make, duplicate?_eq_none (by simpa using hn), hg]
  refine Evaluation.bind_eq.2 (.inr ⟨deps, rfl, ?_⟩)
  dsimp only
  rw [if_neg (by simp [hcomparable]), checkKnown, Graph.order, hc]
  rfl

/-- Where no fields are known, a plan is refused only for the circle that the search finds. -/
theorem findCycle_of_make (hn : (definitions.map (·.name)).Nodup)
    (h : (make settings definitions none).run = .ok (.error error)) :
    ∃ g cycle, variableGraph definitions settings.conservativeDependencies = .ok g ∧
      g.findCycle = some cycle ∧ error = .circular cycle := by
  obtain ⟨g, hg⟩ : ∃ g, variableGraph definitions settings.conservativeDependencies = .ok g := by
    rw [make, duplicate?_eq_none (by simpa using hn)] at h
    rcases Evaluation.bind_eq.1 h with ⟨_, he, -⟩ | ⟨deps, hg, h⟩
    · exact (Evaluation.lift_ne_error he).elim
    refine ⟨_, variableGraph_eq_ok.2 ⟨deps, Evaluation.lift_eq_ok.1 hg, ?_, rfl⟩⟩
    by_contra hc
    dsimp only at h
    rw [if_pos (by simpa using hc)] at h
    cases h
  refine ⟨g, ?_⟩
  cases hc : g.findCycle with
  | some cycle =>
    cases (make_of_findCycle hn hg hc).symm.trans h
    exact ⟨cycle, hg, rfl, rfl⟩
  | none =>
    have ho : g.order = .ok g.sort := by rw [Graph.order, hc]
    obtain ⟨p, hmade⟩ := exists_make_of_order hn hg ho
    cases hmade.symm.trans h

/-- A plan that is not cautious is refused only for a circle of variables each of which may look
    up the name of the next one, on its context or in a related record, and it is refused for each
    such circle. -/
theorem make_circular (hn : (definitions.map (·.name)).Nodup)
    (hp : settings.conservativeDependencies = false) :
    (∀ error, (make settings definitions none).run = .ok (.error error) → ∃ n path,
      error = .circular (n :: (path ++ [n])) ∧
        (n :: (path ++ [n])).IsChain (NamesVariable definitions)) ∧
    ((∀ d ∈ definitions, d.HasNames) → (∃ n, Relation.TransGen (NamesVariable definitions) n n) →
      ∃ cycle, (make settings definitions none).run = .ok (.error (.circular cycle))) := by
  constructor
  · intro error h
    obtain ⟨g, cycle, hg, hc, rfl⟩ := findCycle_of_make hn h
    rw [hp] at hg
    have hcircle := g.isCircle_of_findCycle hc
    obtain ⟨n, path, rfl⟩ := hcircle.exists_eq
    refine ⟨n, path, rfl, hcircle.isChain.imp fun a b hab => ?_⟩
    exact (edge_permissive_iff hn hg).1 hab
  · rintro hnames ⟨n, hcircle⟩
    obtain ⟨g, hg⟩ : ∃ g, variableGraph definitions false = .ok g :=
      (exists_variableGraph_iff hn).2 hnames
    have hcircle : Relation.TransGen g.Edge n n :=
      Relation.TransGen.mono (fun a b hab => (edge_permissive_iff hn hg).2 hab) n n hcircle
    obtain ⟨cycle, hc⟩ := (Graph.findCycle_iff_circular g).1.2 ⟨n, hcircle⟩
    exact ⟨cycle, make_of_findCycle hn (hp ▸ hg) hc⟩

/-- Two variables, the second one of which refers to the first, and the first one to a field of a
    related record that is called like the second. -/
def linked : List VariableDefinition :=
  [⟨"a", .sum, .tuple [.str "customer", .str "b"], .report, none, .int 0, .nil⟩,
    ⟨"b", .sum, .str "a", .report, none, .int 0, .nil⟩]

theorem make_circular_linked :
    (make {} linked none).run = .ok (.error (.circular ["a", "b", "a"])) ∧
    ["a", "b", "a"].IsChain (NamesVariable linked) := by
  have hmake : (make {} linked none).run = .ok (.error (.circular ["a", "b", "a"])) := by cbv
  obtain ⟨n, path, he, hchain⟩ := (make_circular (by decide) rfl).1 _ hmake
  rw [← DependencyError.circular.inj he] at hchain
  exact ⟨hmake, hchain⟩

/-- A total of the totals of customers. -/
def customerTotal : VariableDefinition :=
  ⟨"total", .sum, .tuple [.str "customer", .str "total"], .report, none, .int 0, .nil⟩

/-- A circle need not be one of lookups: a total is refused that looks up the customer on its
    context only, and the total in the customer. -/
theorem make_circular_beyond :
    ([customerTotal].map (·.name)).Nodup ∧ customerTotal.callsHost = .ok false ∧
    (make {} [customerTotal] none).run = .ok (.error (.circular ["total", "total"])) ∧
    ¬∃ n, Relation.TransGen (ReadsVariable [customerTotal]) n n := by
  refine ⟨by decide, by cbv, by cbv, ?_⟩
  rintro ⟨n, hn⟩
  obtain ⟨next, ⟨d, hd, -, hnext, hreads⟩, -⟩ := Relation.TransGen.head'_iff.1 hn
  cases List.mem_singleton.1 hd
  cases List.mem_singleton.1 hnext
  -- Neither the path nor the condition has a part besides itself.
  rcases hreads with h | h
  · obtain ⟨part, m, beyond, hp, hm, hs⟩ := Value.reads_iff.1 h
    rcases (Value.isPart_iff rfl).1 hp with rfl | ⟨_, ha, -⟩
    · cases hm
      simp [Node.steps, customerTotal] at hs
    · cases ha
  · obtain ⟨part, m, beyond, hp, hm, hs⟩ := Value.reads_iff.1 h
    rcases (Value.isPart_iff rfl).1 hp with rfl | ⟨_, ha, -⟩
    · cases hm
      cases hs
    · cases ha

end Plan

end ControlBreak
