import ControlBreak.Execution
import ControlBreak.Proofs.Variables.Record

/-!
# Running totals over a run

A run of an execution is a sequence of records, of new pages and of breaks at levels,
in any order. A variable that looks at nothing but the record *accumulates* over it:
at any time its state is the fold of its *segment*, the records since it went back to
its initial state for the last time.

* `process_stateOf`, `handle_stateOf`: what one record, and what one break, do to the
  state of such a variable;
* `stateOf_eq_foldl`: the state after a run, by induction on the run.
-/

namespace ControlBreak

/-- What happens to an execution: a record with the changes that are reported for it, a
    new page, or a break at a level. -/
inductive Happening
  | record (record : Value) (changes : List Break)
  | page
  | group (level : Int)

/-- The record that a happening brings. -/
def Happening.record? : Happening → Option Value
  | .record v _ => some v
  | _ => none

namespace VariableDefinition

/-- Whether a break at a level is one of the variable's group, or of a group around it;
    a variable that names no group is reached by all of them. -/
def isReached (d : VariableDefinition) (level : Int) : Bool :=
  d.resetGroup.all fun (g : Nat) => decide (level ≤ g)

/-- Whether a variable goes back to its initial state for a happening, given those
    before it. All records but the first send a variable of details back. -/
def goesBack (d : VariableDefinition) (earlier : List Happening) : Happening → Bool
  | .record _ changes =>
    match d.resetOn with
    | .detail => earlier.any (·.record?.isSome)
    | .group => changes.any fun
      | .group level => d.isReached level
      | _ => false
    | .page | .report => false
  | .page =>
    match d.resetOn with
    | .detail | .group | .page => true
    | .report => false
  | .group level =>
    match d.resetOn with
    | .detail => true
    | .group => d.isReached level
    | .page | .report => false

/-- The records since a variable went back for the last time, for a history whose latest
    happening stands first. A record that sends it back belongs to the new segment. -/
def segment (d : VariableDefinition) : List Happening → List Value
  | [] => []
  | h :: earlier =>
    (if d.goesBack earlier h then [] else d.segment earlier) ++ h.record?.toList

end VariableDefinition

/-- The executions that a history leads to, its latest happening first, if all calls
    return. -/
inductive Run (r : Registry) (start : Execution) : List Happening → Execution → Prop
  | start : Run r start [] start
  | record {history : List Happening} {e e' : Execution} {record : Value} {s : ExecutionStep} :
    Run r start history e → e.process r record = (e', .ok s) →
    Run r start (.record record s.step.changes :: history) e'
  | page {history : List Happening} {e : Execution} :
    Run r start history e → Run r start (.page :: history) e.breakPage
  | group {history : List Happening} {e : Execution} (level : Int) :
    Run r start history e → Run r start (.group level :: history) (e.breakGroup level)

namespace Plan

variable {r : Registry} {p : Plan} {record context : Value} {d : VariableDefinition}
  {states : States} {s : VariableState}

/-- The state with what a context contributes: nothing if the condition does not hold
    there, or if the condition, the expression or the accumulation fails. -/
def contribute (r : Registry) (p : Plan) (d : VariableDefinition) (s : VariableState)
    (context : Value) : VariableState :=
  match (p.take r d context s).run with
  | .ok (.ok new) => new
  | _ => s

/-! ### What the record alone shows -/

theorem lookup_layered_nil (t : String) :
    (Value.layered [] record).lookup (.str t) = record.lookup (.str t) := rfl

/-- A variable that reads texts only takes the record by itself as it does seen through
    no values. -/
theorem take_layered_nil (hh : d.callsHost = .ok false)
    (ht : ∀ name, d.Reads name → ∃ t, name = .str t) :
    p.take r d (.layered [] record) s = p.take r d record s := by
  refine take_of_lookup hh fun name hr => ?_
  obtain ⟨t, rfl⟩ := ht name hr
  exact lookup_layered_nil t

/-! ### One record and one break -/

/-- A variable of its own: it does not call into the host and reads no variable. -/
structure IsOwn (p : Plan) (d : VariableDefinition) : Prop where
  mem : d ∈ p.definitions
  callsHost : d.callsHost = .ok false
  reads : ∀ other ∈ p.definitions, ¬d.Reads (.str other.name)

/-- For a record, a variable of its own goes back if it has to, and then takes what the
    record contributes. -/
theorem process_stateOf {cautious : Bool} {changes : List Break} {v v' : Variables}
    {errors : List (String × EvalError)} (hp : v.plan.IsOrdered cautious)
    (ho : v.plan.IsOwn d) (h : v.process r record changes = .ok (v', errors)) :
    v'.plan = v.plan ∧ stateOf v'.states d =
      contribute r v.plan d (baseState changes d (stateOf v.states d)) (.layered [] record) := by
  obtain ⟨⟨states', errors'⟩, hs, h⟩ := Host.bind_eq_ok.1 h
  cases h
  obtain ⟨moment, context, outcome, -, hc, ht, -, -, -, hstate, -⟩ := hp.moment ho.mem hs
  -- The context shows other variables halfway, but this one does not look at them.
  have halone : v.plan.take r d context (baseState changes d (stateOf v.states d)) =
      v.plan.take r d (.layered [] record) (baseState changes d (stateOf v.states d)) :=
    take_of_lookup ho.callsHost fun name hr =>
      lookup_context_of_forall_ne hc fun other hm heq => ho.reads other hm (heq ▸ hr)
  refine ⟨rfl, hstate.trans ?_⟩
  rw [contribute, ← halone, ht]
  cases outcome <;> rfl

theorem stateOf_resetStates_singleton {name : String}
    (hn : (p.definitions.map (·.name)).Nodup) (hd : d ∈ p.definitions) :
    stateOf (p.resetStates [name] states) d =
      if name = d.name then d.resetState (stateOf states d) else stateOf states d := by
  rw [resetStates, List.foldl_cons, List.foldl_nil]
  by_cases he : name = d.name
  · rw [if_pos he, he, definition?_eq_some hn hd]
    exact stateOf_setKeyed_self
  · rw [if_neg he]
    split
    · rename_i other ho
      exact stateOf_setKeyed_of_ne fun heq => he ((definition?_some ho).2.symm.trans heq.symm)
    · rfl

/-- Names send the variables of these names back, however often they are listed. -/
theorem stateOf_resetStates {names : List String} (hn : (p.definitions.map (·.name)).Nodup)
    (hd : d ∈ p.definitions) : stateOf (p.resetStates names states) d =
      if d.name ∈ names then d.resetState (stateOf states d) else stateOf states d := by
  induction names generalizing states with
  | nil => simp [resetStates]
  | cons name rest ih =>
    have hcons : p.resetStates (name :: rest) states =
        p.resetStates rest (p.resetStates [name] states) := rfl
    rw [hcons, ih, stateOf_resetStates_singleton hn hd]
    by_cases he : name = d.name
    · simp [he, VariableDefinition.resetState]
    · simp [he, Ne.symm he]

/-- A break sends back the variables that it is meant for. -/
theorem handle_stateOf {v : Variables} {b : Break}
    (hn : (v.plan.definitions.map (·.name)).Nodup) (hd : d ∈ v.plan.definitions) :
    stateOf (v.handle (some b)).states d = baseState [b] d (stateOf v.states d) := by
  have hm : d.name ∈ b.variablesToReset v.plan.definitions ↔ b.resets d = true := by
    rw [Break.variablesToReset, List.mem_map]
    constructor
    · rintro ⟨other, ho, he⟩
      obtain ⟨ho, hr⟩ := List.mem_filter.1 ho
      exact List.inj_on_of_nodup_map hn ho hd he ▸ hr
    · exact fun hr => ⟨d, List.mem_filter.2 ⟨hd, hr⟩, rfl⟩
  rw [Variables.handle, Variables.reset, Variables.sentBack, stateOf_resetStates hn hd, baseState]
  simp [hm]

end Plan

/-! ### The changes that are reported -/

namespace Scope

/-- What a record would break is told after the first record only. -/
theorem check_eq_ok {r : Registry} {s : Scope} {record : Value} {change : Option Break}
    (h : s.check r record = .ok change) :
    s.count = 0 ∧ change = none ∨ s.count ≠ 0 ∧
      (change = some .unchanged ∨ change = some .detail ∨
        ∃ level, change = some (.group level)) := by
  rw [check] at h
  split at h
  · rename_i hc
    cases h
    exact .inl ⟨hc, rfl⟩
  · rename_i hc
    refine .inr ⟨hc, ?_⟩
    obtain ⟨keys, -, h⟩ := Host.bind_eq_ok.1 h
    obtain ⟨difference, -, h⟩ := Host.bind_eq_ok.1 h
    cases difference with
    | some level =>
      cases h
      exact .inr (.inr ⟨level, rfl⟩)
    | none =>
      obtain ⟨same, -, h⟩ := Host.bind_eq_ok.1 h
      cases same with
      | true =>
        cases h
        exact .inl rfl
      | false =>
        cases h
        exact .inr (.inl rfl)

end Scope

namespace Groups

/-- No change is reported for the first record, and one for each other: a break of a
    group, or a new row. -/
theorem process_eq_ok {r : Registry} {g g' : Groups} {record : Value} {step : GroupStep}
    (h : g.process r record = .ok (g', step)) :
    g'.scope.count = g.scope.count + 1 ∧
      (g.scope.count = 0 ∧ step.changes = [] ∨ g.scope.count ≠ 0 ∧
        (step.changes = [.detail] ∨ ∃ level, step.changes = [.group level])) := by
  obtain ⟨change, hc, h⟩ := Host.bind_eq_ok.1 h
  obtain ⟨scope, hs, h⟩ := Host.bind_eq_ok.1 h
  obtain ⟨keys, -, hs⟩ := Host.bind_eq_ok.1 hs
  cases hs
  cases h
  refine ⟨rfl, ?_⟩
  rcases Scope.check_eq_ok hc with ⟨hz, rfl⟩ | ⟨hz, rfl | rfl | ⟨level, rfl⟩⟩
  · exact .inl ⟨hz, rfl⟩
  · exact .inr ⟨hz, .inl rfl⟩
  · exact .inr ⟨hz, .inl rfl⟩
  · exact .inr ⟨hz, .inr ⟨level, rfl⟩⟩

end Groups

namespace VariableDefinition

variable {d : VariableDefinition} {earlier : List Happening}

theorem resets_group (d : VariableDefinition) (level : Int) (earlier : List Happening) :
    (Break.group level).resets d = d.goesBack earlier (.group level) := by
  cases h : d.resetOn <;> simp [Break.resets, goesBack, isReached, h]

theorem resets_page (d : VariableDefinition) (earlier : List Happening) :
    Break.page.resets d = d.goesBack earlier .page := by
  cases h : d.resetOn <;> simp [Break.resets, goesBack, h]

/-- The changes that are reported for a record send a variable back as the history says. -/
theorem resets_changes {record : Value} {changes : List Break} {count : Nat}
    (hf : count = 0 ↔ earlier.any (·.record?.isSome) = false)
    (h : count = 0 ∧ changes = [] ∨ count ≠ 0 ∧
      (changes = [.detail] ∨ ∃ level, changes = [.group level])) :
    changes.any (·.resets d) = d.goesBack earlier (.record record changes) := by
  rw [goesBack]
  rcases h with ⟨hz, rfl⟩ | ⟨hz, hc⟩
  · cases d.resetOn <;> simp [hf.1 hz]
  · have hany : earlier.any (·.record?.isSome) = true :=
      Bool.of_not_eq_false fun hany => hz (hf.2 hany)
    rw [hany]
    rcases hc with rfl | ⟨level, rfl⟩
    · cases hr : d.resetOn <;> simp [Break.resets, hr]
    · cases hr : d.resetOn <;> simp [Break.resets, hr, isReached]

end VariableDefinition

/-! ### The state after a run -/

namespace Plan

variable {r : Registry} {p : Plan} {d : VariableDefinition} {s : VariableState}
  {contexts : List Value}

/-- The contexts are folded into the initial state of the variable, after any number of
    values taken before. -/
def IsFold (r : Registry) (p : Plan) (d : VariableDefinition) (contexts : List Value)
    (s : VariableState) : Prop :=
  ∃ taken, s = contexts.foldl (contribute r p d) { d.initialState with taken := taken }

theorem isFold_resetState : IsFold r p d [] (d.resetState s) := ⟨s.taken, rfl⟩

theorem IsFold.contribute (h : IsFold r p d contexts s) (context : Value) :
    IsFold r p d (contexts ++ [context]) (contribute r p d s context) := by
  obtain ⟨taken, rfl⟩ := h
  exact ⟨taken, by rw [List.foldl_append]; rfl⟩

theorem IsFold.baseState {changes : List Break} (h : IsFold r p d contexts s) :
    IsFold r p d (if changes.any (·.resets d) then [] else contexts) (baseState changes d s) := by
  rw [Plan.baseState]
  split
  exacts [isFold_resetState, h]

theorem stateOf_initialStates (hn : (p.definitions.map (·.name)).Nodup) (hd : d ∈ p.definitions) :
    stateOf p.initialStates d = d.initialState := by
  have hf := definition?_eq_some hn hd
  rw [definition?] at hf
  rw [stateOf, initialStates, keyed?, List.find?_map]
  simp only [Function.comp_def, hf, Option.map_some, Option.getD_some]

end Plan

namespace Execution

open Plan

variable {r : Registry} {p : Plan} {d : VariableDefinition} {groups : List GroupDefinition}
  {history : List Happening} {e : Execution}

/-- A record that is consumed is consumed by the groups, and then by the variables. -/
theorem process_eq_ok {record : Value} {e' : Execution} {s : ExecutionStep}
    (h : e.process r record = (e', .ok s)) :
    e.groups.process r record = .ok (e'.groups, s.step) ∧
      e.totals.process r record s.step.changes = .ok (e'.totals, s.errors) ∧
      e'.totals.values = .ok s.values := by
  rw [process] at h
  split at h
  · cases h
  rename_i g step hg
  split at h
  · cases h
  rename_i v errors hv
  rw [Prod.mk.injEq] at h
  obtain ⟨rfl, hs⟩ := h
  obtain ⟨values, hvalues, rfl⟩ := Host.map_eq_ok.1 hs
  exact ⟨hg, hv, hvalues⟩

/-- A break that no record makes does to the fold of a segment what the history says. -/
theorem isFold_handle {v : Variables} {b : Break} {h : Happening} {cautious : Bool}
    (hp : v.plan.IsOrdered cautious) (ho : v.plan.IsOwn d) (hn : h.record? = none)
    (hb : b.resets d = d.goesBack history h)
    (hf : IsFold r v.plan d ((d.segment history).map (.layered [])) (stateOf v.states d)) :
    IsFold r v.plan d ((d.segment (h :: history)).map (.layered []))
      (stateOf (v.handle (some b)).states d) := by
  have hfold : IsFold r v.plan d _ (baseState [b] d (stateOf v.states d)) := hf.baseState
  rw [handle_stateOf hp.nodup ho.mem, VariableDefinition.segment, hn, Option.toList_none,
    List.append_nil, ← hb, apply_ite (List.map (Value.layered []))]
  simpa using hfold

/-- After a run, the plan is as it was, the scope has counted the records, and a variable
    of its own has folded its segment. -/
theorem invariant_of_run {cautious : Bool} (hp : p.IsOrdered cautious) (ho : p.IsOwn d)
    (h : Run r (.ofDefinitions groups p) history e) :
    e.totals.plan = p ∧
      (e.groups.scope.count = 0 ↔ history.any (·.record?.isSome) = false) ∧
      IsFold r p d ((d.segment history).map (.layered [])) (stateOf e.totals.states d) := by
  -- Whether a record is the first one is told by the count of the scope.
  induction h with
  | start => exact ⟨rfl, by simp [ofDefinitions, Groups.ofDefinitions, Scope.ofGroups],
      0, stateOf_initialStates hp.nodup ho.mem⟩
  | record _ hs ih =>
    obtain ⟨rfl, hcount, hfold⟩ := ih
    obtain ⟨hg, hv, -⟩ := process_eq_ok hs
    obtain ⟨hg, hc⟩ := Groups.process_eq_ok hg
    obtain ⟨hplan, hstate⟩ := process_stateOf hp ho hv
    refine ⟨hplan, by simp [hg, Happening.record?], ?_⟩
    -- The variable goes back before it takes the record, so the record is not lost.
    rw [hstate, VariableDefinition.segment, ← VariableDefinition.resets_changes hcount hc,
      List.map_append, apply_ite (List.map (Value.layered []))]
    exact hfold.baseState.contribute _
  | page _ ih =>
    obtain ⟨rfl, hcount, hfold⟩ := ih
    exact ⟨rfl, hcount, isFold_handle hp ho rfl (VariableDefinition.resets_page d _) hfold⟩
  | group level _ ih =>
    obtain ⟨rfl, hcount, hfold⟩ := ih
    exact ⟨rfl, hcount, isFold_handle hp ho rfl (VariableDefinition.resets_group d level _) hfold⟩

/-- After a run, a variable that reads no variable and does not call into the host has
    folded what the records of its segment contribute, each seen through no values, or
    by itself if the variable reads texts only. The values taken before the segment leave
    nothing but their number, by which values that are held are told apart. -/
theorem stateOf_eq_foldl {settings : Settings} {definitions : List VariableDefinition}
    {known : Option (List Value)} (hm : (make settings definitions known).run = .ok (.ok p))
    (h : Run r (.ofDefinitions groups p) history e) (hd : d ∈ definitions)
    (hh : d.callsHost = .ok false) (hr : ∀ other ∈ definitions, ¬d.Reads (.str other.name)) :
    ∃ taken,
      stateOf e.totals.states d = ((d.segment history).map (.layered [])).foldl
        (contribute r p d) { d.initialState with taken := taken } ∧
      ((∀ name, d.Reads name → ∃ t, name = .str t) →
        stateOf e.totals.states d = (d.segment history).foldl (contribute r p d)
          { d.initialState with taken := taken }) := by
  obtain ⟨rfl, -, hp⟩ := isOrdered_of_make hm
  obtain ⟨-, -, taken, hfold⟩ := invariant_of_run hp ⟨hd, hh, hr⟩ h
  refine ⟨taken, hfold, fun ht => ?_⟩
  rw [hfold, List.foldl_map]
  congr 1
  funext s record
  rw [contribute, take_layered_nil hh ht, contribute]

/-- A record whose field `x` has a value. -/
def row (x : Int) : Value := .dict [(.str "x", .int x)]

/-- The plan of a total alone. -/
def totalAlone : Plan := ⟨[total], [("total", [.str "x"])], ["total"], true⟩

/-- A total of 3, a new page, and then 4 and 5: only these two are folded. -/
theorem stateOf_eq_foldl_total : ∃ e taken,
    Run .empty (.ofDefinitions [] totalAlone)
      [.record (row 5) [.detail], .record (row 4) [.detail], .page, .record (row 3) []] e ∧
    stateOf e.totals.states total = [row 4, row 5].foldl (contribute .empty totalAlone total)
      { total.initialState with taken := taken } := by
  have hm : (make {} [total] none).run = .ok (.ok totalAlone) := by cbv
  have hh : total.callsHost = .ok false := by cbv
  have hreads : ∀ name, total.Reads name → name = .str "x" := by
    rintro name (h | h) <;> cases h <;> simp_all [total, Value.node?]
  have hr : ∀ other ∈ [total], ¬total.Reads (.str other.name) := fun other ho hread => by
    obtain rfl := List.mem_singleton.1 ho
    simpa [total] using hreads _ hread
  obtain ⟨e₁, e₂, e₃, s₁, s₂, s₃, h₁, h₂, h₃, hc₁, hc₂, hc₃⟩ : ∃ e₁ e₂ e₃ s₁ s₂ s₃,
      (ofDefinitions [] totalAlone).process .empty (row 3) = (e₁, .ok s₁) ∧
      e₁.breakPage.process .empty (row 4) = (e₂, .ok s₂) ∧
      e₂.process .empty (row 5) = (e₃, .ok s₃) ∧
      s₁.step.changes = [] ∧ s₂.step.changes = [.detail] ∧ s₃.step.changes = [.detail] :=
    ⟨_, _, _, _, _, _, by cbv, by cbv, by cbv, by cbv, by cbv, by cbv⟩
  have hrun := Run.record (.record (.page (.record .start h₁)) h₂) h₃
  rw [hc₁, hc₂, hc₃] at hrun
  obtain ⟨taken, -, hs⟩ := stateOf_eq_foldl hm hrun List.mem_cons_self hh hr
  exact ⟨e₃, taken, hrun, hs fun name hread => ⟨"x", hreads name hread⟩⟩

end Execution

end ControlBreak
