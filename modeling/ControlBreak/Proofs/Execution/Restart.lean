import ControlBreak.Proofs.Execution.Refusal

/-!
# Starting over

An execution that is reset forgets all that it has consumed: the scope its keys, its last
record, its page and its count, the groups their breaks, and the variables their states, one by
one. It keeps what it was made of. So the calls that follow are answered as by an execution that
was just made, whatever came before, records that were refused halfway included.

What an execution was made of is told by its groups, which stand in the order of their levels,
by its plan, and by the names under which the states of its variables are kept. The last matter,
as a reset goes through the definitions and sets the state of each: it leaves no other state
behind only if there is none, and the order in which they are shown is that of the states.

* `IsOf.call`, `isOf_run`: no call changes what an execution was made of;
* `IsOf.reset_eq`: so a reset makes it what it was before all records;
* `answers_of_reset`: and all later calls are answered as from there.
-/

namespace ControlBreak

/-! ### Keyed values that are set in turn -/

section Keyed

variable {α κ β : Type} [DecidableEq κ] {pairs : List (κ × β)}

/-- Values that are set under all keys, in the order in which these are kept, take the places of
    those that were there. -/
theorem foldl_setKeyed_eq {name : α → κ} (value : α → β) {as : List α} (before : List (κ × β))
    (hk : pairs.map (·.1) = as.map name) (hn : (before.map (·.1) ++ as.map name).Nodup) :
    as.foldl (fun pairs a => setKeyed (name a) (value a) pairs) (before ++ pairs) =
      before ++ as.map fun a => (name a, value a) := by
  induction as generalizing before pairs with
  | nil => rw [List.map_eq_nil_iff.1 hk, List.foldl_nil, List.map_nil]
  | cons a as ih =>
    obtain ⟨⟨_, old⟩, rest, rfl, rfl, hrest⟩ := List.map_eq_cons_iff.1 hk
    have hnew : name a ∉ before.map (·.1) := fun hm =>
      List.disjoint_of_nodup_append hn hm List.mem_cons_self
    have hset : setKeyed (name a) (value a) (before ++ (name a, old) :: rest) =
        (before ++ [(name a, value a)]) ++ rest := by
      rw [setKeyed_append hnew, setKeyed, if_pos rfl, List.append_assoc,
        List.singleton_append]
    rw [List.foldl_cons, hset, ih _ hrest (by simpa using hn), List.append_assoc,
      List.singleton_append, List.map_cons]

end Keyed

namespace Groups

variable {r : Registry} {g g' : Groups} {record : Value} {step : GroupStep}

theorem groups_of_process (h : g.process r record = .ok (g', step)) :
    g'.scope.groups = g.scope.groups := by
  obtain ⟨change, -, h⟩ := Host.bind_eq_ok.1 h
  obtain ⟨scope, hs, h⟩ := Host.bind_eq_ok.1 h
  obtain ⟨keys, -, hs⟩ := Host.bind_eq_ok.1 hs
  cases hs
  cases h
  rfl

theorem groups_offered : (g.offered r record).scope.groups = g.scope.groups := by
  rw [offered]
  split
  · rename_i h
    exact groups_of_process h
  · rfl

end Groups

/-! ### The names of the states -/

namespace Plan

variable {r : Registry} {p : Plan} {d : VariableDefinition} {states states' : States}

/-- There is one state for each variable, in the order of their definitions. -/
def Keeps (p : Plan) (states : States) : Prop :=
  states.map (·.1) = p.definitions.map (·.name)

theorem keeps_initialStates (p : Plan) : p.Keeps p.initialStates := by
  rw [Keeps, initialStates, List.map_map]
  rfl

theorem Keeps.setKeyed (h : p.Keeps states) (hd : d ∈ p.definitions) (s : VariableState) :
    p.Keeps (setKeyed d.name s states) := by
  have hname : d.name ∈ states.map (·.1) := by
    rw [h]
    exact List.mem_map_of_mem hd
  rw [Keeps, map_fst_setKeyed hname, h]

/-- A record that variables take leaves one state for each. -/
theorem Keeps.stage {record : Value} {invalidated : List String} {ds : List VariableDefinition}
    {errors : List (String × EvalError)} (h : p.Keeps states) (hd : ∀ d ∈ ds, d ∈ p.definitions)
    (hs : p.stage r record invalidated ds states = .ok (states', errors)) : p.Keeps states' := by
  induction ds generalizing states errors with
  | nil =>
    cases hs
    exact h
  | cons d ds ih =>
    obtain ⟨hd, hds⟩ := List.forall_mem_cons.1 hd
    obtain ⟨outcome, errors', -, hs, -⟩ := stage_cons hs
    have hat : p.Keeps (statesAt invalidated d states) := by
      rw [statesAt]
      split
      exacts [h.setKeyed hd _, h]
    have hafter : p.Keeps (statesAfter d (statesAt invalidated d states) outcome) := by
      cases outcome with
      | ok s => exact hat.setKeyed hd s
      | error e => exact hat
    exact ih hafter hds hs

/-- So do resets of any names. -/
theorem Keeps.resetStates (h : p.Keeps states) (names : List String) :
    p.Keeps (p.resetStates names states) := by
  rw [Plan.resetStates]
  induction names generalizing states with
  | nil => exact h
  | cons name rest ih =>
    refine ih ?_
    beta_reduce
    split
    · rename_i d hd
      exact h.setKeyed (definition?_some hd).1 _
    · exact h

/-- A reset of all variables leaves the initial states. -/
theorem Keeps.foldl_setKeyed (h : p.Keeps states) (hn : (p.definitions.map (·.name)).Nodup) :
    p.definitions.foldl (fun states d => ControlBreak.setKeyed d.name d.initialState states)
      states = p.initialStates :=
  foldl_setKeyed_eq VariableDefinition.initialState [] h hn

end Plan

/-- A record leaves the plan as it is, and one state for each variable. -/
theorem Variables.keeps_of_process {r : Registry} {v v' : Variables} {record : Value}
    {changes : List Break} {errors : List (String × EvalError)} (hk : v.plan.Keeps v.states)
    (h : v.process r record changes = .ok (v', errors)) :
    v'.plan = v.plan ∧ v.plan.Keeps v'.states := by
  obtain ⟨⟨states, _⟩, hs, h⟩ := Host.bind_eq_ok.1 h
  cases h
  refine ⟨rfl, hk.stage (fun d hd => ?_) hs⟩
  obtain ⟨name, -, hd⟩ := List.mem_filterMap.1 hd
  exact (Plan.definition?_some hd).1

/-! ### What an execution was made of -/

namespace Execution

variable {r : Registry} {groups : List GroupDefinition} {p : Plan} {e : Execution}

/-- A call of an execution. -/
inductive Call
  | process (record : Value)
  | page
  | group (level : Int)
  | reset

/-- The execution after a call, with the answer to a record. -/
def call (r : Registry) (e : Execution) : Call → Execution × Option (Host ExecutionStep)
  | .process record => ((e.process r record).1, some (e.process r record).2)
  | .page => (e.breakPage, none)
  | .group level => (e.breakGroup level, none)
  | .reset => (e.reset, none)

/-- The execution after calls. -/
def run (r : Registry) (e : Execution) (calls : List Call) : Execution :=
  calls.foldl (fun e c => (e.call r c).1) e

/-- What an execution shows between calls. -/
structure Standing where
  page : Nat
  /-- The number of records. -/
  count : Nat
  groupValues : List (Nat × Value)
  breakCount : Int → Nat
  values : Host (List (String × Value))
  /-- The value of a single variable, or another one without it. -/
  value : String → Value → Host Value

/-- What an execution shows. -/
def standing (e : Execution) : Standing where
  page := e.groups.scope.page
  count := e.groups.scope.count
  groupValues := e.groups.scope.values
  breakCount := e.groups.breakCount
  values := e.totals.values
  value := e.totals.value

/-- The answers to calls in turn, each with what the execution shows then. -/
def answers (r : Registry) (e : Execution) :
    List Call → List (Option (Host ExecutionStep) × Standing)
  | [] => []
  | c :: later => ((e.call r c).2, (e.call r c).1.standing) :: answers r (e.call r c).1 later

/-- An execution of given groups and of the variables of a plan, whatever it has consumed. -/
structure IsOf (groups : List GroupDefinition) (p : Plan) (e : Execution) : Prop where
  groups : e.groups.scope.groups = (Scope.ofGroups groups).groups
  plan : e.totals.plan = p
  keeps : p.Keeps e.totals.states

theorem isOf_ofDefinitions (groups : List GroupDefinition) (p : Plan) :
    IsOf groups p (.ofDefinitions groups p) :=
  ⟨rfl, rfl, p.keeps_initialStates⟩

/-- The variables after a record, which may have been refused. -/
theorem totals_process (e : Execution) (record : Value) :
    (e.process r record).1.totals = e.totals ∨ ∃ changes errors,
      e.totals.process r record changes = .ok ((e.process r record).1.totals, errors) := by
  rw [process]
  split
  · exact .inl rfl
  · split
    · exact .inl rfl
    · rename_i h
      exact .inr ⟨_, _, h⟩

/-- A record changes neither the groups nor the plan, refused or not. -/
theorem IsOf.process (h : IsOf groups p e) (record : Value) :
    IsOf groups p (e.process r record).1 := by
  have hgroups : (e.process r record).1.groups.scope.groups = (Scope.ofGroups groups).groups := by
    rw [process_groups, Groups.groups_offered, h.groups]
  obtain ht | ⟨changes, errors, ht⟩ := totals_process (r := r) e record
  · refine ⟨hgroups, ?_, ?_⟩
    · rw [ht, h.plan]
    · rw [ht]
      exact h.keeps
  · obtain ⟨hplan, hkeeps⟩ := Variables.keeps_of_process (h.plan ▸ h.keeps) ht
    exact ⟨hgroups, hplan.trans h.plan, h.plan ▸ hkeeps⟩

/-- A break sends variables back, and nothing else. -/
theorem IsOf.handle (h : IsOf groups p e) (b : Option Break) :
    p.Keeps (e.totals.handle b).states :=
  h.plan ▸ (h.plan ▸ h.keeps).resetStates _

/-- A reset leaves the execution as it was before all records. -/
theorem IsOf.reset_eq (h : IsOf groups p e) (hn : (p.definitions.map (·.name)).Nodup) :
    e.reset = .ofDefinitions groups p := by
  obtain ⟨hgroups, rfl, hk⟩ := h
  rw [reset, Groups.reset, Scope.reset, hgroups, Variables.resetAll, hk.foldl_setKeyed hn]
  rfl

/-- No call changes what the execution was made of. -/
theorem IsOf.call (h : IsOf groups p e) (hn : (p.definitions.map (·.name)).Nodup) (c : Call) :
    IsOf groups p (e.call r c).1 := by
  cases c with
  | process record => exact h.process record
  | page => exact ⟨h.groups, h.plan, h.handle _⟩
  | group level => exact ⟨h.groups, h.plan, h.handle _⟩
  | reset =>
    rw [Execution.call, h.reset_eq hn]
    exact isOf_ofDefinitions groups p

theorem isOf_run (hn : (p.definitions.map (·.name)).Nodup) (calls : List Call)
    (h : IsOf groups p e) : IsOf groups p (run r e calls) := by
  induction calls generalizing e with
  | nil => exact h
  | cons c later ih => exact ih (h.call hn c)

/-- After a reset, an execution shows and answers what it would if it had just been made, whatever
    was called before. -/
theorem answers_of_reset {settings : Settings} {definitions : List VariableDefinition}
    {known : Option (List Value)}
    (hm : (Plan.make settings definitions known).run = .ok (.ok p)) (r : Registry)
    (groups : List GroupDefinition) (calls later : List Call) :
    (run r (.ofDefinitions groups p) calls).reset.standing =
        (ofDefinitions groups p).standing ∧
      answers r (run r (.ofDefinitions groups p) calls).reset later =
        answers r (.ofDefinitions groups p) later := by
  obtain ⟨-, -, ho⟩ := Plan.isOrdered_of_make hm
  have hrun : IsOf groups p (run r (.ofDefinitions groups p) calls) :=
    isOf_run ho.nodup calls (isOf_ofDefinitions groups p)
  have hreset := hrun.reset_eq ho.nodup
  exact ⟨congrArg standing hreset, congrArg (answers r · later) hreset⟩

/-- Sales in two regions, one of which was refused in part, and then a page, are forgotten: the
    next sale breaks no group, and is the least one. -/
theorem answers_of_reset_sums :
    (Plan.make {} sums.definitions none).run = .ok (.ok sums) ∧
    ∃ fresh e step later,
      fresh = ofDefinitions [⟨"region", 1, .str "region", .ascending⟩] sums ∧
      e = run .empty fresh [.process (sale "north" (.int 2)),
        .process (sale "south" (.dec (.nan false false 0 .fresh))), .page] ∧
      e.standing.page = 2 ∧ e.standing.count = 2 ∧ e.standing.breakCount 1 = 1 ∧
      e.reset.standing = fresh.standing ∧
      answers .empty e.reset [.process (sale "south" (.int 5))] = [(some (.ok step), later)] ∧
      step.step.changes = [] ∧ step.values = [("least", .int 5), ("total", .int 5)] ∧
      later.page = 1 ∧ later.count = 1 ∧ later.breakCount 1 = 0 := by
  have hm : (Plan.make {} sums.definitions none).run = .ok (.ok sums) := by cbv
  obtain ⟨e', step, h, hc, hv, hp, hn, hb⟩ : ∃ e' s,
      (ofDefinitions [⟨"region", 1, .str "region", .ascending⟩] sums).process .empty
        (sale "south" (.int 5)) = (e', .ok s) ∧ s.step.changes = [] ∧
      s.values = [("least", .int 5), ("total", .int 5)] ∧ e'.standing.page = 1 ∧
      e'.standing.count = 1 ∧ e'.standing.breakCount 1 = 0 :=
    ⟨_, _, by cbv, by cbv, by cbv, by cbv, by cbv, by cbv⟩
  obtain ⟨hstanding, hanswers⟩ := answers_of_reset hm .empty
    [⟨"region", 1, .str "region", .ascending⟩]
    [.process (sale "north" (.int 2)),
      .process (sale "south" (.dec (.nan false false 0 .fresh))), .page]
    [.process (sale "south" (.int 5))]
  refine ⟨hm, _, _, step, e'.standing, rfl, rfl, by cbv, by cbv, by cbv, hstanding, ?_,
    hc, hv, hp, hn, hb⟩
  rw [hanswers, answers, call, h]
  rfl

end Execution

end ControlBreak
