import ControlBreak.Proofs.Variables.Permutation

/-!
# Cautious plans

What a function of the host reads is not known, so a cautious plan takes a variable that calls
into the host to depend on all others. Two such variables would depend on each other, and so
would one and a variable that refers to it. If there is one that no other refers to, nothing
depends on it, and it closes no circle: what it could read is all there when it is evaluated.

* `ContainsHost`: expressions that call into the host, as a relation;
* `variableGraph`: how the variables of a plan depend on each other;
* `edge_variableGraph_iff`: the dependencies of a plan, told by the references of its variables
  and by their calls into the host;
* `isAcyclic_cautious_iff`: when caution closes no circle;
* `exists_make_cautious_iff`: the variables that a cautious plan can be made of.
-/

namespace ControlBreak

/-! ### Calls into the host -/

namespace Value

variable {e : Value}

/-- An expression calls into the host: it is a function of the host, or an argument of it calls
    into the host. -/
inductive ContainsHost : Value → Prop
  | host {e function : Value} : e.node? = .ok (some (.host function)) → ContainsHost e
  | arg {e op arg : Value} {args : List Value} : e.node? = .ok (some (.call op args)) →
    arg ∈ args → ContainsHost arg → ContainsHost e

theorem ContainsHost.callsHost_ne (h : e.ContainsHost) : e.callsHost ≠ .ok false := by
  induction h with
  | host hn =>
    rw [callsHost_of_host hn]
    nofun
  | arg hn ha _ ih =>
    rw [callsHost_of_call hn]
    exact fun h => ih (callsHost_of_anyCallsHost h _ ha)

theorem exists_of_anyCallsHost {args : List Value} (h : anyCallsHost args = .ok true) :
    ∃ arg ∈ args, arg.callsHost = .ok true := by
  induction args with
  | nil =>
    rw [anyCallsHost] at h
    cases h
  | cons arg args ih =>
    rw [anyCallsHost, Host.bind_eq_ok] at h
    obtain ⟨b, hb, h⟩ := h
    cases b with
    | true => exact ⟨arg, List.mem_cons_self, hb⟩
    | false =>
      obtain ⟨found, hm, hf⟩ := ih h
      exact ⟨found, List.mem_cons_of_mem _ hm, hf⟩

theorem containsHost_of_callsHost (e : Value) (h : e.callsHost = .ok true) : e.ContainsHost := by
  rw [callsHost] at h
  split at h
  case h_1 => cases h
  case h_2 hn => exact .host hn
  case h_3 op args hn =>
    obtain ⟨arg, ha, harg⟩ := exists_of_anyCallsHost h
    have := List.sizeOf_lt_of_mem ha
    have := sizeOf_lt_of_node? hn
    exact .arg hn ha (containsHost_of_callsHost arg harg)
  case h_4 => cases h
  termination_by sizeOf e

theorem containsHost_iff {b : Bool} (h : e.callsHost = .ok b) : e.ContainsHost ↔ b = true := by
  constructor
  · intro hc
    cases b with
    | true => rfl
    | false => exact (hc.callsHost_ne h).elim
  · rintro rfl
    exact containsHost_of_callsHost e h

end Value

namespace VariableDefinition

variable {d : VariableDefinition} {cautious : Bool} {names : List String} {deps : List Value}
  {s : String}

/-- A variable calls into the host: its expression does, or its condition. -/
def ContainsHost (d : VariableDefinition) : Prop :=
  d.expression.ContainsHost ∨ d.condition.ContainsHost

/-- A variable refers to a name. -/
def RefersTo (d : VariableDefinition) (name : String) : Prop :=
  ∃ names, d.references = .ok names ∧ .str name ∈ names

/-- All that a variable refers to can be told, and may be names. -/
def HasNames (d : VariableDefinition) : Prop :=
  ∃ names, d.references = .ok names ∧ ∀ name ∈ names, name.isHashable = true

theorem containsHost_iff {b : Bool} (h : d.callsHost = .ok b) : d.ContainsHost ↔ b = true := by
  obtain ⟨inExpression, he, h⟩ := Host.bind_eq_ok.1 h
  rw [ContainsHost, Value.containsHost_iff he]
  cases inExpression with
  | true =>
    cases h
    simp
  | false => simpa using Value.containsHost_iff h

/-! ### What a variable depends on -/

/-- Where the names of a variable can be told, so can all that it depends on. -/
theorem HasNames.exists_dependencies (h : d.HasNames) (cautious : Bool) (names : List String) :
    ∃ deps, d.dependencies cautious names = .ok deps ∧ ∀ dep ∈ deps, dep.isHashable = true := by
  obtain ⟨found, hf, hh⟩ := h
  obtain ⟨calls, hcalls⟩ := exists_callsHost hf
  cases calls with
  | false =>
    have hno : d.callsHost ≠ .ok true := by simp [hcalls]
    exact ⟨found, dependencies_eq_references hno names ▸ hf, hh⟩
  | true =>
    cases cautious with
    | false => exact ⟨found, Host.bind_eq_ok.2 ⟨found, hf, rfl⟩, hh⟩
    | true =>
      -- The names of all others are texts, which may be names.
      have hkeys : ∀ k ∈ found ++ (names.filter (· != d.name)).map Value.str,
          k.isHashable = true := by
        refine List.forall_mem_append.2 ⟨hh, fun k hk => ?_⟩
        obtain ⟨_, -, rfl⟩ := List.mem_map.1 hk
        rfl
      refine ⟨_, Host.bind_eq_ok.2 ⟨found, hf, Host.bind_eq_ok.2 ⟨true, hcalls,
        if_pos (List.all_eq_true.2 hkeys)⟩⟩, fun dep hdep => ?_⟩
      exact hkeys dep (Value.mem_of_mem_distinct hdep)

theorem hashable_of_distinctKeys {keys found : List Value}
    (h : Value.distinctKeys keys = .ok found) : ∀ k ∈ keys, k.isHashable = true := by
  rw [Value.distinctKeys] at h
  split at h
  · rename_i hkeys
    exact List.all_eq_true.1 hkeys
  · cases h

theorem hasNames_of_dependencies (h : d.dependencies cautious names = .ok deps)
    (hh : ∀ dep ∈ deps, dep.isHashable = true) : d.HasNames := by
  obtain ⟨found, all, hf, -, h⟩ := dependencies_eq_ok h
  refine ⟨found, hf, fun name hname => ?_⟩
  cases all with
  | true => exact hashable_of_distinctKeys h name (List.mem_append_left _ hname)
  | false =>
    cases h
    exact hh name hname

/-- A variable depends on what it refers to, and, to be cautious, on all others if it calls into
    the host. -/
theorem mem_dependencies_iff (h : d.dependencies cautious names = .ok deps) : .str s ∈ deps ↔
    d.RefersTo s ∨ cautious = true ∧ d.ContainsHost ∧ s ∈ names ∧ s ≠ d.name := by
  obtain ⟨found, all, hf, ha, h⟩ := dependencies_eq_ok h
  have hrefers : d.RefersTo s ↔ .str s ∈ found := by
    constructor
    · rintro ⟨_, hf', hs⟩
      cases hf.symm.trans hf'
      exact hs
    · exact fun hs => ⟨found, hf, hs⟩
  have hall : all = true ↔ cautious = true ∧ d.ContainsHost := by
    cases cautious with
    | true =>
      rw [if_pos rfl] at ha
      simp [containsHost_iff ha]
    | false =>
      cases ha
      simp
  rw [hrefers, ← and_assoc, ← hall]
  cases all with
  | false =>
    cases h
    simp
  | true =>
    rw [if_pos rfl] at h
    have hmem : .str s ∈ deps ↔ .str s ∈ found ++ (names.filter (· != d.name)).map Value.str := by
      refine ⟨fun hs => ?_, Value.mem_of_distinctKeys h⟩
      rw [Value.distinctKeys, if_pos (List.all_eq_true.2 (hashable_of_distinctKeys h))] at h
      cases h
      exact Value.mem_of_mem_distinct hs
    simp [hmem]

end VariableDefinition

/-! ### How variables depend on each other -/

/-- The dependencies that variables have on each other. -/
def variableGraph (definitions : List VariableDefinition) (cautious : Bool) :
    Host (Graph String) := do
  let g := Graph.ofDependencies (← VariableDefinition.graph definitions cautious)
  if g.isComparable then return g.ofVariables (definitions.map (·.name)) else .error .unsuitable

section Graphs

variable {definitions : List VariableDefinition} {cautious : Bool} {g : Graph String}

theorem variableGraph_eq_ok : variableGraph definitions cautious = .ok g ↔ ∃ entries,
    VariableDefinition.graph definitions cautious = .ok entries ∧
      (Graph.ofDependencies entries).isComparable = true ∧
      (Graph.ofDependencies entries).ofVariables (definitions.map (·.name)) = g := by
  rw [variableGraph, Host.bind_eq_ok]
  refine exists_congr fun entries => and_congr_right fun _ => ?_
  by_cases hc : (Graph.ofDependencies entries).isComparable = true
  · rw [if_pos hc, and_iff_right hc]
    simp only [pure, Except.pure, Except.ok.injEq]
  · rw [if_neg hc]
    exact iff_of_false nofun fun h => hc h.1

theorem isComparable_ofDependencies {entries : List (String × List Value)} :
    (Graph.ofDependencies entries).isComparable = true ↔
      ∀ e ∈ entries, ∀ dep ∈ e.2, dep.isHashable = true := by
  simp only [Graph.isComparable, Graph.ofDependencies, List.all_eq_true, List.forall_mem_map]

/-- There is a graph if the names of all variables can be told, whether it is cautious or not. -/
theorem exists_variableGraph_iff (hn : (definitions.map (·.name)).Nodup) :
    (∃ g, variableGraph definitions cautious = .ok g) ↔ ∀ d ∈ definitions, d.HasNames := by
  simp only [variableGraph_eq_ok, isComparable_ofDependencies,
    VariableDefinition.graph_eq_mapM hn]
  constructor
  · rintro ⟨-, entries, he, hh, -⟩ d hd
    obtain ⟨e, hm, he⟩ := Host.exists_mem_of_mapM_eq_ok he hd
    obtain ⟨deps, hdeps, rfl⟩ := VariableDefinition.entry_eq_ok.1 he
    exact VariableDefinition.hasNames_of_dependencies hdeps (hh _ hm)
  · intro h
    have hentries : ∀ d ∈ definitions,
        ∃ e, d.entry cautious (definitions.map (·.name)) = .ok e := fun d hd => by
      obtain ⟨deps, hdeps, -⟩ := (h d hd).exists_dependencies cautious (definitions.map (·.name))
      exact ⟨(d.name, deps), VariableDefinition.entry_eq_ok.2 ⟨deps, hdeps, rfl⟩⟩
    obtain ⟨entries, he⟩ := Host.exists_mapM_eq_ok hentries
    refine ⟨_, entries, he, fun e hm => ?_, rfl⟩
    obtain ⟨d, hd, hentry⟩ := Host.exists_of_mem_mapM he hm
    obtain ⟨deps, hdeps, rfl⟩ := VariableDefinition.entry_eq_ok.1 hentry
    obtain ⟨_, hdeps', hh⟩ := (h d hd).exists_dependencies cautious (definitions.map (·.name))
    cases hdeps.symm.trans hdeps'
    exact hh

/-- A variable depends on another one if it refers to it, and, to be cautious, if it calls into
    the host. -/
theorem edge_variableGraph_iff (hn : (definitions.map (·.name)).Nodup)
    (h : variableGraph definitions cautious = .ok g) {d : VariableDefinition}
    (hd : d ∈ definitions) {s : String} : g.Edge d.name s ↔ s ∈ definitions.map (·.name) ∧
      (d.RefersTo s ∨ cautious = true ∧ d.ContainsHost ∧ s ≠ d.name) := by
  obtain ⟨entries, he, -, rfl⟩ := variableGraph_eq_ok.1 h
  obtain ⟨deps, hdeps, hk⟩ := VariableDefinition.keyed?_of_graph hn he hd
  rw [Graph.edge_ofVariables hn, and_iff_right (List.mem_map_of_mem hd), hk, Option.getD_some,
    VariableDefinition.mem_dependencies_iff hdeps]
  tauto

theorem exists_of_edge (hn : (definitions.map (·.name)).Nodup)
    (h : variableGraph definitions cautious = .ok g) {n s : String} (he : g.Edge n s) :
    ∃ d ∈ definitions, d.name = n := by
  obtain ⟨entries, -, -, rfl⟩ := variableGraph_eq_ok.1 h
  exact List.mem_map.1 ((Graph.edge_ofVariables hn).1 he).1

/-! ### Circles that caution closes -/

/-- A chain from a node that something leads to goes only through such nodes. -/
theorem transGen_of_incoming {α : Type} {E C : α → α → Prop}
    (h : ∀ a b, C a b → (∃ c, C c a) → E a b) {a b : α} (hab : Relation.TransGen C a b)
    (ha : ∃ c, C c a) : Relation.TransGen E a b := by
  induction hab with
  | single hab => exact .single (h _ _ hab ha)
  | @tail b c hab hbc ih =>
    obtain ⟨last, -, hlast⟩ := Relation.TransGen.tail'_iff.1 hab
    exact .tail ih (h _ _ hbc ⟨last, hlast⟩)

/-- If the one variable that calls into the host is referred to by no other, then caution closes
    no circle, as nothing depends on this variable; in all other cases it does. -/
theorem isAcyclic_cautious_iff {permissive : Graph String}
    (hn : (definitions.map (·.name)).Nodup)
    (hp : variableGraph definitions false = .ok permissive)
    (hc : variableGraph definitions true = .ok g) : g.IsAcyclic ↔ permissive.IsAcyclic ∧
      ∀ d ∈ definitions, d.ContainsHost → ∀ other ∈ definitions, other ≠ d →
        ¬other.ContainsHost ∧ ¬other.RefersTo d.name := by
  have hpermissive : ∀ d ∈ definitions, ∀ s,
      permissive.Edge d.name s ↔ s ∈ definitions.map (·.name) ∧ d.RefersTo s := fun d hd s => by
    rw [edge_variableGraph_iff hn hp hd]
    simp
  have hcautious : ∀ d ∈ definitions, ∀ s, g.Edge d.name s ↔
      permissive.Edge d.name s ∨ d.ContainsHost ∧ s ∈ definitions.map (·.name) ∧ s ≠ d.name :=
    fun d hd s => by
      rw [edge_variableGraph_iff hn hc hd, hpermissive d hd]
      tauto
  constructor
  · intro ha
    constructor
    · intro n hcycle
      refine ha n (Relation.TransGen.mono (fun a b hab => ?_) n n hcycle)
      obtain ⟨d, hd, rfl⟩ := exists_of_edge hn hp hab
      exact (hcautious d hd b).2 (.inl hab)
    · intro d hd hh other ho hne
      have hname : other.name ≠ d.name := fun he => hne (List.inj_on_of_nodup_map hn ho hd he)
      -- Caution leads from the one to the other, so that any way back closes a circle of two.
      have hforth : g.Edge d.name other.name :=
        (hcautious d hd _).2 (.inr ⟨hh, List.mem_map_of_mem ho, hname⟩)
      have hback : ¬g.Edge other.name d.name := fun he => ha d.name (.tail (.single hforth) he)
      rw [hcautious other ho, hpermissive other ho] at hback
      have hmem := List.mem_map_of_mem (f := fun d : VariableDefinition => d.name) hd
      exact ⟨fun hoh => hback (.inr ⟨hoh, hmem, hname.symm⟩), fun hr => hback (.inl ⟨hmem, hr⟩)⟩
  · rintro ⟨hacyclic, hone⟩ n hcycle
    obtain ⟨last, -, hlast⟩ := Relation.TransGen.tail'_iff.1 hcycle
    -- No variable on the circle calls into the host, since none on it is one that others need.
    refine hacyclic n (transGen_of_incoming (fun a b hab hin => ?_) hcycle ⟨last, hlast⟩)
    obtain ⟨c, hca⟩ := hin
    obtain ⟨d, hd, rfl⟩ := exists_of_edge hn hc hab
    obtain ⟨other, ho, rfl⟩ := exists_of_edge hn hc hca
    obtain hab | ⟨hh, -⟩ := (hcautious d hd b).1 hab
    · exact hab
    exfalso
    by_cases hne : other = d
    · subst hne
      obtain he | ⟨-, -, hself⟩ := (hcautious other ho other.name).1 hca
      exacts [hacyclic _ (.single he), hself rfl]
    · obtain ⟨hnot, hrefers⟩ := hone d hd hh other ho hne
      obtain he | ⟨hoh, -⟩ := (hcautious other ho d.name).1 hca
      exacts [hrefers ((hpermissive other ho _).1 he).2, hnot hoh]

/-- A name that depends on all others comes last. -/
theorem getLast?_of_isSchedule {order : List String} {n : String} (h : g.IsSchedule order)
    (hn : n ∈ order) (hall : ∀ m ∈ order, m ≠ n → g.Edge n m) : order.getLast? = some n := by
  obtain ⟨before, later, rfl⟩ := List.append_of_mem hn
  cases later with
  | nil => exact List.getLast?_concat
  | cons m later =>
    exfalso
    obtain ⟨-, hlater, hdisjoint⟩ := List.nodup_append'.1 h.nodup
    have hm : m ∈ n :: m :: later := List.mem_cons_of_mem _ List.mem_cons_self
    have hne : m ≠ n := fun he => (List.nodup_cons.1 hlater).1 (he ▸ List.mem_cons_self)
    have hbefore := h.after before n (m :: later) rfl m (hall m (List.mem_append_right _ hm) hne)
    exact hdisjoint hbefore hm

end Graphs

/-! ### Cautious plans that can be made -/

namespace Plan

variable {settings : Settings} {definitions : List VariableDefinition} {p : Plan}
  {g : Graph String} {order : List String}

/-- Where no fields are known, a plan that was made orders the variables by their graph. -/
theorem order_of_make (h : (make settings definitions none).run = .ok (.ok p)) :
    ∃ g, variableGraph definitions settings.conservativeDependencies = .ok g ∧
      g.order = .ok p.order := by
  obtain ⟨hn, deps, order, hg, ho, rfl⟩ := make_eq_ok h
  refine ⟨_, variableGraph_eq_ok.2 ⟨deps, hg, ?_, rfl⟩, ho⟩
  rw [make, duplicate?_eq_none (by simpa using hn), hg] at h
  obtain ⟨_, hdeps, h⟩ := Evaluation.bind_eq_ok.1 h
  cases hdeps
  by_contra hc
  dsimp only at h
  rw [if_pos (by simpa using hc)] at h
  cases h

/-- An order of the graph is all that a plan takes. -/
theorem exists_make_of_order (hn : (definitions.map (·.name)).Nodup)
    (h : variableGraph definitions settings.conservativeDependencies = .ok g)
    (ho : g.order = .ok order) : ∃ p, (make settings definitions none).run = .ok (.ok p) := by
  obtain ⟨deps, hg, hc, rfl⟩ := variableGraph_eq_ok.1 h
  refine ⟨⟨definitions, deps, order, settings.missingFieldsAsNil⟩, ?_⟩
  rw [make, duplicate?_eq_none (by simpa using hn), hg]
  refine Evaluation.bind_eq_ok.2 ⟨deps, rfl, ?_⟩
  dsimp only
  rw [if_neg (by simp [hc]), checkKnown, ho]
  rfl

/-- A plan can be made if and only if the variables have no circle. -/
theorem exists_make_iff (hn : (definitions.map (·.name)).Nodup) :
    (∃ p, (make settings definitions none).run = .ok (.ok p)) ↔
      ∃ g, variableGraph definitions settings.conservativeDependencies = .ok g ∧ g.IsAcyclic := by
  constructor
  · rintro ⟨p, h⟩
    obtain ⟨g, hg, ho⟩ := order_of_make h
    exact ⟨g, hg, (Graph.order_eq_ok_iff.1 ho).1⟩
  · rintro ⟨g, hg, ha⟩
    exact exists_make_of_order hn hg (Graph.order_eq_ok_iff.2 ⟨ha, rfl⟩)

/-- What is true of a variable and all others, if it is asked of each variable that calls into the
    host, leaves one such variable or none. -/
theorem forall_containsHost_iff : (∀ d ∈ definitions, d.ContainsHost → ∀ other ∈ definitions,
      other ≠ d → ¬other.ContainsHost ∧ ¬other.RefersTo d.name) ↔
    (∀ d ∈ definitions, ¬d.ContainsHost) ∨ ∃ d ∈ definitions, d.ContainsHost ∧
      ∀ other ∈ definitions, other ≠ d → ¬other.ContainsHost ∧ ¬other.RefersTo d.name := by
  constructor
  · intro h
    by_cases hd : ∃ d ∈ definitions, d.ContainsHost
    · obtain ⟨d, hd, hh⟩ := hd
      exact .inr ⟨d, hd, hh, h d hd hh⟩
    · exact .inl fun d hm hh => hd ⟨d, hm, hh⟩
  · rintro (hnone | ⟨d, -, -, hone⟩) e he heh
    · exact (hnone e he heh).elim
    · obtain rfl : e = d := by
        by_contra hne
        exact (hone e he hne).1 heh
      exact hone

/-- A cautious plan can be made if and only if the variables have no circle, and at most one of
    them calls into the host, to which no other variable refers. This one is evaluated last. -/
theorem exists_make_cautious_iff (hn : (definitions.map (·.name)).Nodup)
    (hc : settings.conservativeDependencies = true) :
    ((∃ p, (make settings definitions none).run = .ok (.ok p)) ↔
      (∃ g, variableGraph definitions false = .ok g ∧ g.IsAcyclic) ∧
        ((∀ d ∈ definitions, ¬d.ContainsHost) ∨ ∃ d ∈ definitions, d.ContainsHost ∧
          ∀ other ∈ definitions, other ≠ d → ¬other.ContainsHost ∧ ¬other.RefersTo d.name)) ∧
      ∀ p, (make settings definitions none).run = .ok (.ok p) →
        ∀ d ∈ definitions, d.ContainsHost → p.order.getLast? = some d.name := by
  constructor
  · rw [exists_make_iff hn, hc, ← forall_containsHost_iff]
    constructor
    · rintro ⟨g, hg, ha⟩
      obtain ⟨permissive, hp⟩ := (exists_variableGraph_iff hn).2
        ((exists_variableGraph_iff hn).1 ⟨g, hg⟩)
      obtain ⟨hpa, hone⟩ := (isAcyclic_cautious_iff hn hp hg).1 ha
      exact ⟨⟨permissive, hp, hpa⟩, hone⟩
    · rintro ⟨⟨permissive, hp, hpa⟩, hone⟩
      obtain ⟨g, hg⟩ := (exists_variableGraph_iff hn).2
        ((exists_variableGraph_iff hn).1 ⟨permissive, hp⟩)
      exact ⟨g, hg, (isAcyclic_cautious_iff hn hp hg).2 ⟨hpa, hone⟩⟩
  · intro p h d hd hh
    obtain ⟨g, hg, ho⟩ := order_of_make h
    rw [hc] at hg
    have hs := Graph.isSchedule_of_order ho
    have hmem : ∀ n, n ∈ p.order ↔ n ∈ definitions.map (·.name) := fun n => by
      obtain ⟨entries, -, -, rfl⟩ := variableGraph_eq_ok.1 hg
      rw [hs.mem_iff, ← Graph.mem_nodes, Graph.mem_nodes_ofVariables hn]
    refine getLast?_of_isSchedule hs ((hmem _).2 (List.mem_map_of_mem hd)) fun m hm hne => ?_
    exact (edge_variableGraph_iff hn hg hd).2 ⟨(hmem m).1 hm, .inr ⟨rfl, hh, hne⟩⟩

/-- What a function of the host makes of a record, and a total that it could read. -/
def nativeAndTotal : List VariableDefinition :=
  [⟨"native", .custom, .hostCall (.native (.given 0) "read" .field (.ok [.str "total"])), .report,
      none, .nil, .nil⟩,
    ⟨"total", .sum, .str "amount", .report, none, .int 0, .nil⟩]

/-- The settings of a cautious plan. -/
def cautiousSettings : Settings := { conservativeDependencies := true }

/-- The function is declared first and evaluated last. -/
theorem exists_make_cautious_iff_nativeAndTotal : (nativeAndTotal.map (·.name)).Nodup ∧
    cautiousSettings.conservativeDependencies = true ∧
    ∃ p, (make cautiousSettings nativeAndTotal none).run = .ok (.ok p) ∧
      (∃ g, variableGraph nativeAndTotal false = .ok g ∧ g.IsAcyclic) ∧
      p.order.getLast? = some "native" := by
  have hn : (nativeAndTotal.map (·.name)).Nodup := by decide
  have hc : cautiousSettings.conservativeDependencies = true := rfl
  obtain ⟨p, hp⟩ : ∃ p, (make cautiousSettings nativeAndTotal none).run = .ok (.ok p) :=
    ⟨_, by cbv⟩
  obtain ⟨hiff, hlast⟩ := exists_make_cautious_iff hn hc
  exact ⟨hn, hc, p, hp, (hiff.1 ⟨p, hp⟩).1, hlast p hp _ List.mem_cons_self (.inl (.host rfl))⟩

end Plan

end ControlBreak
