import ControlBreak.Proofs.Dependency.Schedule
import ControlBreak.Proofs.Expression.Reads
import ControlBreak.Proofs.Host
import ControlBreak.Variables

/-!
# Plans

A plan that could be made orders its variables: their names are distinct, each is
evaluated once, and after all variables that it depends on.

* `isOrdered_of_make`: this is so whatever the settings and the known fields are.
-/

namespace ControlBreak

/-! ### Keyed values -/

/-- Where keys are distinct, each is that of one pair. -/
theorem keyed?_eq_some_iff {κ α : Type} [DecidableEq κ] {pairs : List (κ × α)}
    (hn : (pairs.map (·.1)).Nodup) {key : κ} {a : α} :
    keyed? pairs key = some a ↔ (key, a) ∈ pairs := by
  rw [keyed?, Option.map_eq_some_iff]
  constructor
  · rintro ⟨⟨k, b⟩, hf, rfl⟩
    obtain rfl : k = key := by simpa using List.find?_some hf
    exact List.mem_of_find?_eq_some hf
  · exact fun hm => ⟨(key, a), find?_eq_some_of_key hn hm, rfl⟩

/-! ### Names as values -/

theorem beq_str {k : Value} {s : String} : (k == Value.str s) = true ↔ k = .str s :=
  Value.sameKey_str

theorem str_beq_str (s t : String) : (Value.str s == Value.str t) = (s == t) := by
  rw [Bool.eq_iff_iff, beq_str, beq_iff_eq, Value.str.injEq]

theorem contains_map_str {names : List String} {k : Value} :
    (names.map Value.str).contains k = true ↔ ∃ s ∈ names, k = .str s := by
  rw [List.contains_eq_any_beq, List.any_map, List.any_eq_true]
  simp only [Function.comp_apply, beq_str]

theorem foldl_firsts_map_str {names seen : List String} (h : (seen ++ names).Nodup) :
    (names.map Value.str).foldl (fun seen k => if seen.contains k then seen else seen ++ [k])
      (seen.map .str) = (seen ++ names).map .str := by
  induction names generalizing seen with
  | nil => simp
  | cons n rest ih =>
    have hn : ¬(seen.map Value.str).contains (.str n) = true := by
      rw [contains_map_str]
      rintro ⟨s, hs, he⟩
      cases he
      exact List.disjoint_of_nodup_append h hs List.mem_cons_self
    rw [List.map_cons, List.foldl_cons, if_neg hn]
    have hrest : (seen ++ [n] ++ rest).Nodup := by simpa using h
    simpa using ih hrest

theorem firsts_map_str {names : List String} (h : names.Nodup) :
    firsts (names.map Value.str) = names.map .str := by
  have hn : ([] ++ names).Nodup := h
  exact foldl_firsts_map_str hn

namespace Graph

theorem deps_ofDependencies (entries : List (String × List Value)) (n : String) :
    (ofDependencies entries).deps (.str n) = (keyed? entries n).getD [] := by
  rw [deps, ofDependencies, List.find?_map, keyed?]
  simp only [Function.comp_def, str_beq_str, Option.map_map]

theorem entries_ofVariables {entries : List (String × List Value)} {names : List String}
    (h : names.Nodup) : ((ofDependencies entries).ofVariables names).entries = names.map fun n =>
      (n, (((keyed? entries n).getD []).filter (names.map Value.str).contains).map nameText) := by
  rw [ofVariables, restrict, firsts_map_str h]
  simp only [List.map_map, Function.comp_def, deps_ofDependencies, nameText]

/-- The dependencies that variables have on each other. -/
theorem edge_ofVariables {entries : List (String × List Value)} {names : List String}
    (h : names.Nodup) {n s : String} :
    ((ofDependencies entries).ofVariables names).Edge n s ↔
      n ∈ names ∧ s ∈ names ∧ .str s ∈ (keyed? entries n).getD [] := by
  rw [Edge, deps, entries_ofVariables h, List.find?_map]
  simp only [Function.comp_def]
  cases hf : names.find? fun m => m == n with
  | none =>
    have hn : n ∉ names := fun hn => by simpa using List.find?_eq_none.1 hf n hn
    simp [hn]
  | some m =>
    obtain rfl : m = n := by simpa using List.find?_some hf
    have hm := List.mem_of_find?_eq_some hf
    simp only [Option.map_some, Option.getD_some, List.mem_map, List.mem_filter, contains_map_str]
    constructor
    · rintro ⟨_, ⟨hk, t, ht, rfl⟩, rfl⟩
      exact ⟨hm, ht, hk⟩
    · rintro ⟨-, hs, hk⟩
      exact ⟨_, ⟨hk, s, hs, rfl⟩, rfl⟩

theorem mem_nodes_ofVariables {entries : List (String × List Value)} {names : List String}
    (h : names.Nodup) {n : String} :
    n ∈ ((ofDependencies entries).ofVariables names).nodes ↔ n ∈ names := by
  rw [mem_nodes, keys, entries_ofVariables h]
  constructor
  · rintro (hn | ⟨e, he, hn⟩)
    · simpa using hn
    · obtain ⟨m, -, rfl⟩ := List.mem_map.1 he
      obtain ⟨k, hk, rfl⟩ := List.mem_map.1 hn
      obtain ⟨s, hs, rfl⟩ := contains_map_str.1 (List.mem_filter.1 hk).2
      exact hs
  · intro hn
    exact .inl (by simpa using hn)

end Graph

/-! ### What variables depend on -/

namespace VariableDefinition

/-- What a variable depends on, under its name. -/
def entry (cautious : Bool) (names : List String) (d : VariableDefinition) :
    Host (String × List Value) := do
  return (d.name, ← d.dependencies cautious names)

section Entries

variable {definitions : List VariableDefinition} {d : VariableDefinition} {cautious : Bool}
  {names : List String} {entries start : List (String × List Value)}

theorem entry_eq_ok {e : String × List Value} : d.entry cautious names = .ok e ↔
    ∃ deps, d.dependencies cautious names = .ok deps ∧ e = (d.name, deps) := by
  rw [entry, Host.bind_eq_ok]
  simp only [pure, Except.pure, Except.ok.injEq, eq_comm]

theorem foldlM_entry (hn : (start.map (·.1) ++ definitions.map (·.name)).Nodup) :
    definitions.foldlM (fun entries v => do
      return setKeyed v.name (← v.dependencies cautious names) entries) start =
        (definitions.mapM (entry cautious names)).map (start ++ ·) := by
  induction definitions generalizing start with
  | nil => simp [pure, Except.pure, Except.map]
  | cons d rest ih =>
    rw [List.map_cons] at hn
    have hnew : d.name ∉ start.map (·.1) := fun hm =>
      List.disjoint_of_nodup_append hn hm List.mem_cons_self
    rw [List.foldlM_cons, List.mapM_cons, entry]
    cases d.dependencies cautious names with
    | error f => rfl
    | ok found =>
      have hrest : ((start ++ [(d.name, found)]).map (·.1) ++ rest.map (·.name)).Nodup := by
        simpa using hn
      have hrest := ih hrest
      simp only [bind, Except.bind, pure, Except.pure, setKeyed_of_notMem hnew] at hrest ⊢
      rw [hrest]
      cases rest.mapM (entry cautious names) <;> simp [Except.map]

/-- Variables whose names are distinct have an entry each. -/
theorem graph_eq_mapM (hn : (definitions.map (·.name)).Nodup) :
    graph definitions cautious = definitions.mapM (entry cautious (definitions.map (·.name))) := by
  have hstart : (([] : List (String × List Value)).map (·.1) ++
    definitions.map (·.name)).Nodup := hn
  rw [graph, foldlM_entry hstart]
  cases definitions.mapM (entry cautious (definitions.map (·.name))) <;> rfl

theorem map_fst_of_mapM {f : VariableDefinition → Host (String × List Value)}
    (hf : ∀ d e, f d = .ok e → e.1 = d.name) (h : definitions.mapM f = .ok entries) :
    entries.map (·.1) = definitions.map (·.name) := by
  rw [Host.mapM_eq_ok] at h
  induction h with
  | nil => rfl
  | cons he _ ih => rw [List.map_cons, List.map_cons, hf _ _ he, ih]

theorem map_fst_of_graph (hn : (definitions.map (·.name)).Nodup)
    (h : graph definitions cautious = .ok entries) :
    entries.map (·.1) = definitions.map (·.name) := by
  rw [graph_eq_mapM hn] at h
  refine map_fst_of_mapM (fun d e he => ?_) h
  obtain ⟨_, -, rfl⟩ := entry_eq_ok.1 he
  rfl

theorem keyed?_of_graph (hn : (definitions.map (·.name)).Nodup)
    (h : graph definitions cautious = .ok entries) (hd : d ∈ definitions) :
    ∃ deps, d.dependencies cautious (definitions.map (·.name)) = .ok deps ∧
      keyed? entries d.name = some deps := by
  have hkeys : (entries.map (·.1)).Nodup := map_fst_of_graph hn h ▸ hn
  rw [graph_eq_mapM hn] at h
  obtain ⟨e, hm, he⟩ := Host.exists_mem_of_mapM_eq_ok h hd
  obtain ⟨deps, hdeps, rfl⟩ := entry_eq_ok.1 he
  exact ⟨deps, hdeps, (keyed?_eq_some_iff hkeys).2 hm⟩

end Entries

/-- A name that a variable may look up in a record: its expression does, or its
    condition. -/
def Reads (d : VariableDefinition) (name : Value) : Prop :=
  Value.Reads name d.expression ∨ Value.Reads name d.condition

theorem isConditional_of_reads {d : VariableDefinition} {name : Value}
    (h : Value.Reads name d.condition) : d.isConditional = true := by
  rw [isConditional]
  split
  · rename_i hc
    rw [hc] at h
    cases h <;> simp_all [Value.node?]
  · rfl

theorem callsHost_eq_false {d : VariableDefinition} :
    d.callsHost = .ok false ↔
      d.expression.callsHost = .ok false ∧ d.condition.callsHost = .ok false := by
  rw [callsHost, Host.bind_eq_ok]
  constructor
  · rintro ⟨b, hb, h⟩
    cases b with
    | true => cases h
    | false => exact ⟨hb, h⟩
  · rintro ⟨he, hc⟩
    exact ⟨false, he, hc⟩

theorem mem_references_of_reads {d : VariableDefinition} {names : List Value} {s : String}
    (h : d.references = .ok names) (hr : d.Reads (.str s)) : .str s ∈ names := by
  obtain ⟨found, hf, h⟩ := Host.bind_eq_ok.1 h
  rcases hr with hr | hr
  · have hs := Value.mem_references_of_reads hr hf
    split at h
    · obtain ⟨others, -, h⟩ := Host.bind_eq_ok.1 h
      exact Value.mem_of_distinctKeys h (List.mem_append_left _ hs)
    · cases h
      exact hs
  · rw [if_pos (isConditional_of_reads hr)] at h
    obtain ⟨others, ho, h⟩ := Host.bind_eq_ok.1 h
    exact Value.mem_of_distinctKeys h
      (List.mem_append_right _ (Value.mem_references_of_reads hr ho))

variable {d : VariableDefinition} {cautious : Bool} {names : List String} {deps : List Value}

/-- What a variable depends on: its references, and perhaps all others. -/
theorem dependencies_eq_ok (h : d.dependencies cautious names = .ok deps) :
    ∃ found all, d.references = .ok found ∧
      (if cautious then d.callsHost else .ok false) = .ok all ∧
      (if all then Value.distinctKeys (found ++ (names.filter (· != d.name)).map .str)
        else .ok found) = .ok deps := by
  obtain ⟨found, hf, h⟩ := Host.bind_eq_ok.1 h
  cases cautious with
  | false => exact ⟨found, false, hf, rfl, h⟩
  | true =>
    obtain ⟨all, ha, h⟩ := Host.bind_eq_ok.1 h
    exact ⟨found, all, hf, ha, h⟩

/-- A variable depends on all texts that it reads. -/
theorem mem_dependencies_of_reads (h : d.dependencies cautious names = .ok deps) {s : String}
    (hr : d.Reads (.str s)) : .str s ∈ deps := by
  obtain ⟨found, all, hf, -, h⟩ := dependencies_eq_ok h
  have hs := mem_references_of_reads hf hr
  split at h
  · exact Value.mem_of_distinctKeys h (List.mem_append_left _ hs)
  · cases h
    exact hs

/-- To be cautious, a variable that calls into the host depends on all others. -/
theorem mem_dependencies_of_callsHost (h : d.dependencies true names = .ok deps)
    (hc : d.callsHost ≠ .ok false) {s : String} (hs : s ∈ names) (hne : s ≠ d.name) :
    .str s ∈ deps := by
  obtain ⟨found, all, -, ha, h⟩ := dependencies_eq_ok h
  rw [if_pos rfl] at ha
  cases all with
  | false => exact absurd ha hc
  | true =>
    refine Value.mem_of_distinctKeys h (List.mem_append_right _ (List.mem_map_of_mem ?_))
    exact List.mem_filter.2 ⟨hs, by simpa using hne⟩

end VariableDefinition

/-! ### Plans that could be made -/

namespace Plan

/-- The names of the variables are distinct, and each variable is evaluated once, after
    all others that it depends on. -/
structure IsOrdered (p : Plan) (cautious : Bool) : Prop where
  nodup : (p.definitions.map (·.name)).Nodup
  perm : p.ordered.Perm p.definitions
  after : ∀ before d later, p.ordered = before ++ d :: later →
    ∃ deps, d.dependencies cautious (p.definitions.map (·.name)) = .ok deps ∧
      ∀ other ∈ p.definitions, .str other.name ∈ deps → other ∈ before

theorem nodup_of_duplicate? {definitions : List VariableDefinition} {seen : List String}
    (h : duplicate? seen definitions = none) (hs : seen.Nodup) :
    (seen.reverse ++ definitions.map (·.name)).Nodup := by
  induction definitions generalizing seen with
  | nil => simpa using hs
  | cons d rest ih =>
    rw [duplicate?] at h
    split at h
    · cases h
    · rename_i hd
      have hd : d.name ∉ seen := by simpa using hd
      simpa using ih h (List.nodup_cons.2 ⟨hd, hs⟩)

/-- What a plan that was made consists of. -/
theorem make_eq_ok {settings : Settings} {definitions : List VariableDefinition}
    {known : Option (List Value)} {p : Plan}
    (h : (make settings definitions known).run = .ok (.ok p)) :
    (definitions.map (·.name)).Nodup ∧ ∃ deps order,
      VariableDefinition.graph definitions settings.conservativeDependencies = .ok deps ∧
      ((Graph.ofDependencies deps).ofVariables (definitions.map (·.name))).order = .ok order ∧
      p = ⟨definitions, deps, order, settings.missingFieldsAsNil⟩ := by
  rw [make] at h
  split at h
  · obtain ⟨_, hf, _⟩ := Evaluation.bind_eq_ok.1 h
    cases Evaluation.lift_eq_ok.1 hf
  · rename_i hd
    obtain ⟨-, -, h⟩ := Evaluation.bind_eq_ok.1 h
    obtain ⟨deps, hg, h⟩ := Evaluation.bind_eq_ok.1 h
    have hg := Evaluation.lift_eq_ok.1 hg
    refine ⟨by simpa using nodup_of_duplicate? hd List.nodup_nil, deps, ?_⟩
    simp only at h
    split at h
    · obtain ⟨_, hf, _⟩ := Evaluation.bind_eq_ok.1 h
      cases Evaluation.lift_eq_ok.1 hf
    · obtain ⟨-, -, h⟩ := Evaluation.bind_eq_ok.1 h
      obtain ⟨order, ho, h⟩ := Evaluation.bind_eq_ok.1 h
      cases h
      refine ⟨order, hg, ?_, rfl⟩
      rw [ExceptT.run_mk, Except.ok.injEq] at ho
      cases hr : ((Graph.ofDependencies deps).ofVariables (definitions.map (·.name))).order with
      | error cycle => simp [hr, Except.mapError] at ho
      | ok found => simpa [hr, Except.mapError] using ho

variable {p : Plan} {d : VariableDefinition}

theorem definition?_eq_some (hn : (p.definitions.map (·.name)).Nodup) (hd : d ∈ p.definitions) :
    p.definition? d.name = some d :=
  find?_eq_some_of_key hn hd

theorem definition?_some {name : String} (h : p.definition? name = some d) :
    d ∈ p.definitions ∧ d.name = name :=
  ⟨List.mem_of_find?_eq_some h, by simpa using List.find?_some h⟩

theorem map_name_ordered (hn : (p.definitions.map (·.name)).Nodup)
    (ho : ∀ name ∈ p.order, name ∈ p.definitions.map (·.name)) :
    p.ordered.map (·.name) = p.order := by
  rw [ordered]
  generalize p.order = order at ho
  induction order with
  | nil => rfl
  | cons name rest ih =>
    obtain ⟨hname, hrest⟩ := List.forall_mem_cons.1 ho
    obtain ⟨d, hd, rfl⟩ := List.mem_map.1 hname
    rw [List.filterMap_cons_some (definition?_eq_some hn hd), List.map_cons, ih hrest]

theorem perm_ordered (hn : (p.definitions.map (·.name)).Nodup) (hd : p.order.Nodup)
    (ho : ∀ name, name ∈ p.order ↔ name ∈ p.definitions.map (·.name)) :
    p.ordered.Perm p.definitions := by
  have hnames := map_name_ordered hn fun name hm => (ho name).1 hm
  refine (List.perm_ext_iff_of_nodup (.of_map _ (hnames ▸ hd)) (.of_map _ hn)).2 fun d => ?_
  rw [ordered, List.mem_filterMap]
  constructor
  · rintro ⟨name, -, h⟩
    exact (definition?_some h).1
  · intro h
    exact ⟨d.name, (ho _).2 (List.mem_map_of_mem h), definition?_eq_some hn h⟩

/-- A plan that was made evaluates each variable after all that it depends on. -/
theorem isOrdered_of_make {settings : Settings} {definitions : List VariableDefinition}
    {known : Option (List Value)} (h : (make settings definitions known).run = .ok (.ok p)) :
    p.definitions = definitions ∧ p.missingAsNil = settings.missingFieldsAsNil ∧
      p.IsOrdered settings.conservativeDependencies := by
  obtain ⟨hn, deps, order, hg, ho, rfl⟩ := make_eq_ok h
  obtain ⟨hnd, hmem, hafter⟩ := Graph.isSchedule_of_order ho
  set p : Plan := ⟨definitions, deps, order, settings.missingFieldsAsNil⟩
  have hmem : ∀ n, n ∈ p.order ↔ n ∈ p.definitions.map (·.name) := fun n => by
    rw [hmem, ← Graph.mem_nodes, Graph.mem_nodes_ofVariables hn]
  have hnames : p.ordered.map (·.name) = p.order := map_name_ordered hn fun n hm => (hmem n).1 hm
  have hperm : p.ordered.Perm p.definitions := perm_ordered hn hnd hmem
  refine ⟨rfl, rfl, hn, hperm, fun before d later hsplit => ?_⟩
  have hd : d ∈ p.definitions := hperm.mem_iff.1 (by simp [hsplit])
  obtain ⟨found, hf, hk⟩ := VariableDefinition.keyed?_of_graph hn hg hd
  refine ⟨found, hf, fun other hother hs => ?_⟩
  -- The schedule speaks of names, and each name is that of one variable only.
  rw [hsplit, List.map_append, List.map_cons] at hnames
  have hedge : other.name ∈ before.map (·.name) := hafter _ _ _ hnames.symm _
    ((Graph.edge_ofVariables hn).2
      ⟨List.mem_map_of_mem hd, List.mem_map_of_mem hother, by rwa [hk, Option.getD_some]⟩)
  obtain ⟨b, hb, he⟩ := List.mem_map.1 hedge
  have hbm : b ∈ p.definitions := hperm.mem_iff.1 (by simp [hsplit, hb])
  rwa [← List.inj_on_of_nodup_map hn hbm hother he]

end Plan

end ControlBreak
