import ControlBreak.Proofs.Execution.Restart
import ControlBreak.Proofs.Execution.Snapshot

/-!
# Operations on variables

Variables are told to take a record, all of them or a single one, and to go back to their initial
states: one by name, those of a scope, those that a break is meant for, or all. Each operation has
an answer, which may be a fault: of a record that cannot be taken, of a name that is that of no
variable, of a word that is that of no scope.

* `isOf_run`: whatever the operations are, and whether they fail or not, the plan stays and there
  is one state for each variable;
* `of_run`: what holds of a variable's initial state and is kept with every record that it takes
  holds after any operations;
* `states_eq_iff_of_fault`: an operation that fails leaves the variables as they were, but for an
  update of an average whose new value is taken and cannot be shown.
-/

namespace ControlBreak

/-- The state of a variable is found under its name. -/
theorem Plan.Keeps.keyed?_eq {p : Plan} {states : States} {d : VariableDefinition}
    (h : p.Keeps states) (hd : d ∈ p.definitions) :
    keyed? states d.name = some (stateOf states d) := by
  obtain ⟨s, hs⟩ : ∃ s, keyed? states d.name = some s := by
    rw [← Option.isSome_iff_exists, keyed?, Option.isSome_map, List.find?_isSome]
    have hm : d.name ∈ states.map (·.1) := by
      rw [h]
      exact List.mem_map_of_mem hd
    obtain ⟨e, he, hk⟩ := List.mem_map.1 hm
    exact ⟨e, he, by simpa using hk⟩
  rw [stateOf, hs, Option.getD_some]

namespace Variables

open Plan

/-- An operation on the variables. -/
inductive Operation
  /-- A record for all variables, with the breaks before it. -/
  | process (record : Value) (changes : List Break)
  /-- A record for all variables, without any reset. -/
  | updateAll (record : Value)
  /-- A record for a single variable, without any reset. -/
  | update (name : String) (record : Value)
  | resetVariable (name : String)
  | resetScope (scope : ResetScope) (level : Option Int)
  /-- A reset of the scope that a word stands for. -/
  | resetWord (word : String) (level : Option Int)
  /-- A break, or none. -/
  | handle (b : Option Break)
  | resetAll

/-- What an operation answers if it does not fail. -/
inductive Answer
  | done
  /-- The errors of the variables that did not take a record. -/
  | errors (errors : List (String × EvalError))
  /-- The value that a single variable shows after a record, or its error. -/
  | outcome (outcome : Except EvalError Value)

/-- Updates all variables for a record, in their order and without any reset. -/
def updateAll (r : Registry) (v : Variables) (record : Value) :
    Host (Variables × List (String × EvalError)) :=
  v.process r record []

/-- The variables that an operation leads to, with its answer; those of before if it has none. -/
def commit (v : Variables) : Host (Variables × Answer) → Variables × Host Answer
  | .ok (v', answer) => (v', .ok answer)
  | .error f => (v, .error f)

/-- The variables after an operation, with its answer. -/
def perform (r : Registry) (v : Variables) : Operation → Variables × Host Answer
  | .process record changes =>
    v.commit ((v.process r record changes).map fun (v', errors) => (v', .errors errors))
  | .updateAll record =>
    v.commit ((v.updateAll r record).map fun (v', errors) => (v', .errors errors))
  | .update name record =>
    ((v.update r name record).1, (v.update r name record).2.map .outcome)
  | .resetVariable name => v.commit ((v.definition name).map fun d => (v.reset [d.name], .done))
  | .resetScope scope level => (v.resetScope scope level, .ok .done)
  | .resetWord word level =>
    v.commit ((ResetScope.parse word).map fun scope => (v.resetScope scope level, .done))
  | .handle b => (v.handle b, .ok .done)
  | .resetAll => (v.resetAll, .ok .done)

/-- The variables after operations, some of which may have failed. -/
def run (r : Registry) (v : Variables) (operations : List Operation) : Variables :=
  operations.foldl (fun v op => (v.perform r op).1) v

variable {r : Registry} {p : Plan} {v v' : Variables} {record : Value} {name : String}
  {d : VariableDefinition}

/-! ### What operations leave as it is -/

theorem definition_eq_ok : v.definition name = .ok d ↔ v.plan.definition? name = some d := by
  rw [definition]
  cases v.plan.definition? name <;> simp [orFault]

theorem invalidated_nil (p : Plan) : p.invalidated [] = [] := by
  simp [invalidated, Break.variablesToResetAll]

theorem updateAll_eq_ok {errors : List (String × EvalError)} :
    v.updateAll r record = .ok (v', errors) ↔ ∃ states,
      v.plan.stage r record [] v.plan.ordered v.states = .ok (states, errors) ∧
        v' = { v with states := states } := by
  rw [updateAll, process, invalidated_nil, Host.bind_eq_ok]
  constructor
  · rintro ⟨⟨states, _⟩, hs, h⟩
    cases h
    exact ⟨states, hs, rfl⟩
  · rintro ⟨states, hs, rfl⟩
    exact ⟨_, hs, rfl⟩

/-- What is answered of the evaluation of a variable: the value that it shows then, or its
    error. -/
def shownAfter (d : VariableDefinition) :
    Except EvalError VariableState → Host (Except EvalError Value)
  | .ok new => (d.displayValue new).map .ok
  | .error e => .ok (.error e)

/-- An update of a single variable ends before it is evaluated, or it leads to what the evaluation
    does. -/
theorem update_cases (r : Registry) (v : Variables) (name : String) (record : Value) :
    (∃ f, v.update r name record = (v, .error f)) ∨
    ∃ d outcome, v.plan.definition? name = some d ∧
      (v.plan.evaluate r d v.states record).run = .ok outcome ∧
      v.update r name record =
        ({ v with states := statesAfter d v.states outcome }, shownAfter d outcome) := by
  rcases hd : v.definition name with f | d
  · -- There is no variable of that name.
    exact .inl ⟨f, by rw [update, hd]⟩
  · have hd' := definition_eq_ok.1 hd
    obtain ⟨-, rfl⟩ := definition?_some hd'
    rcases he : (v.plan.evaluate r d v.states record).run with f | e | new
    · exact .inl ⟨f, by simp only [update, hd, he]⟩
    · exact .inr ⟨d, .error e, hd', he, by simp only [update, hd, he]; rfl⟩
    · exact .inr ⟨d, .ok new, hd', he, by simp only [update, hd, he]; rfl⟩

/-- The variables of a plan: there is one state for each. -/
structure IsOf (p : Plan) (v : Variables) : Prop where
  plan : v.plan = p
  keeps : p.Keeps v.states

theorem isOf_ofPlan (p : Plan) : IsOf p (.ofPlan p) :=
  ⟨rfl, p.keeps_initialStates⟩

theorem IsOf.reset (h : IsOf p v) (names : List String) : IsOf p (v.reset names) := by
  obtain ⟨rfl, hk⟩ := h
  exact ⟨rfl, hk.resetStates names⟩

theorem IsOf.process {changes : List Break} {errors : List (String × EvalError)} (h : IsOf p v)
    (hp : v.process r record changes = .ok (v', errors)) : IsOf p v' := by
  obtain ⟨rfl, hk⟩ := h
  obtain ⟨hplan, hkeeps⟩ := keeps_of_process hk hp
  exact ⟨hplan, hkeeps⟩

theorem IsOf.update (h : IsOf p v) (r : Registry) (name : String) (record : Value) :
    IsOf p (v.update r name record).1 := by
  rcases update_cases r v name record with ⟨f, hu⟩ | ⟨d, outcome, hd, -, hu⟩
  · rwa [hu]
  · obtain ⟨rfl, hk⟩ := h
    rw [hu]
    cases outcome with
    | ok new => exact ⟨rfl, hk.setKeyed (definition?_some hd).1 new⟩
    | error e => exact ⟨rfl, hk⟩

theorem IsOf.resetAll (h : IsOf p v) (hn : (p.definitions.map (·.name)).Nodup) :
    v.resetAll = .ofPlan p := by
  obtain ⟨rfl, hk⟩ := h
  rw [Variables.resetAll, hk.foldl_setKeyed hn]
  rfl

/-- What is true of the variables before an operation and of those that it leads to is true of those
    after it. -/
theorem of_commit {P : Variables → Prop} {x : Host (Variables × Answer)} (h : P v)
    (hx : ∀ v' answer, x = .ok (v', answer) → P v') : P (v.commit x).1 := by
  cases x with
  | error f => exact h
  | ok result => exact hx _ _ rfl

/-- No operation changes what the variables are the variables of. -/
theorem IsOf.perform (h : IsOf p v) (hn : (p.definitions.map (·.name)).Nodup) (op : Operation) :
    IsOf p (v.perform r op).1 := by
  cases op with
  | process record changes | updateAll record =>
    refine of_commit h fun v' answer he => ?_
    obtain ⟨⟨_, errors⟩, hp, he⟩ := Host.map_eq_ok.1 he
    cases he
    exact h.process hp
  | update name record => exact h.update r name record
  | resetVariable name | resetWord word level =>
    refine of_commit h fun v' answer he => ?_
    obtain ⟨_, -, he⟩ := Host.map_eq_ok.1 he
    cases he
    exact h.reset _
  | resetScope scope level | handle b => exact h.reset _
  | resetAll =>
    rw [Variables.perform, h.resetAll hn]
    exact isOf_ofPlan p

/-- So all operations lead to variables of the plan. -/
theorem isOf_run (hn : (p.definitions.map (·.name)).Nodup) (operations : List Operation)
    (h : IsOf p v) : IsOf p (run r v operations) := by
  induction operations generalizing v with
  | nil => exact h
  | cons op later ih => exact ih (h.perform hn op)

/-! ### What every value keeps -/

section Kept

variable {Q : VariableState → Prop} {cautious : Bool}

theorem stateOf_setKeyed (name : String) (s : VariableState) (states : States) :
    stateOf (setKeyed name s states) d = if d.name = name then s else stateOf states d := by
  rw [stateOf, keyed?_setKeyed]
  split <;> rfl

end Kept

/-! ### Operations that fail -/

/-- An update takes a new value that it cannot show. -/
def LeavesUnshown (r : Registry) (v : Variables) : Operation → Prop
  | .update name record => ∃ d new f, v.plan.definition? name = some d ∧
    (v.plan.evaluate r d v.states record).run = .ok (.ok new) ∧ d.displayValue new = .error f
  | _ => False

theorem commit_of_fault {x : Host (Variables × Answer)} {f : Fault}
    (h : (v.commit x).2 = .error f) : (v.commit x).1 = v := by
  cases x with
  | error f => rfl
  | ok result => cases h

/-- A new value that cannot be shown is not the old one, which was shown to the expression. -/
theorem setKeyed_ne_of_displayValue {new : VariableState} {f : Fault} (hd : d ∈ v.plan.definitions)
    (he : (v.plan.evaluate r d v.states record).run = .ok (.ok new))
    (hf : d.displayValue new = .error f) : setKeyed d.name new v.states ≠ v.states := by
  intro hs
  -- The expression was seen through all variables, so that each of them could be shown.
  obtain ⟨context, hc, -⟩ := evaluate_eq_ok he
  obtain ⟨shown, hshown⟩ := exists_shownValue hc hd
  have hnew : stateOf v.states d = new := by
    rw [← hs, stateOf_setKeyed_self]
  rw [shownValue, hnew, hf] at hshown
  cases hshown

/-- Only averages have values that cannot be shown. -/
theorem kind_of_displayValue {new : VariableState} {f : Fault} (h : d.displayValue new = .error f) :
    d.kind = .average := by
  by_contra hk
  rw [VariableDefinition.displayValue_of_ne hk] at h
  cases h

theorem update_of_fault (hu : ¬ LeavesUnshown r v (.update name record)) {f : Fault}
    (h : (v.update r name record).2 = .error f) : (v.update r name record).1 = v := by
  rcases update_cases r v name record with ⟨g, he⟩ | ⟨d, outcome, hd, hnew, he⟩
  · rw [he]
  · rw [he] at h
    cases outcome with
    | ok new => exact absurd ⟨d, new, f, hd, hnew, Host.map_eq_error.1 h⟩ hu
    | error e => cases h

/-- An update that leaves a value unshown fails after it has set the state of an average. -/
theorem perform_of_leavesUnshown {op : Operation} (h : v.LeavesUnshown r op) :
    ∃ d name record new f, op = .update name record ∧ d ∈ v.plan.definitions ∧ d.name = name ∧
      d.kind = .average ∧
      v.perform r op = ({ v with states := setKeyed name new v.states }, .error f) ∧
      setKeyed name new v.states ≠ v.states := by
  cases op with
  | update name record =>
    obtain ⟨d, new, f, hd, he, hf⟩ := h
    obtain ⟨hm, rfl⟩ := definition?_some hd
    refine ⟨d, _, record, new, f, rfl, hm, rfl, kind_of_displayValue hf, ?_,
      setKeyed_ne_of_displayValue hm he hf⟩
    simp only [perform, update, definition_eq_ok.2 hd, he, hf]
    rfl
  | _ => exact h.elim

/-- Any other operation that fails leaves the variables as they were. -/
theorem perform_of_fault {op : Operation} {f : Fault} (hu : ¬ v.LeavesUnshown r op)
    (h : (v.perform r op).2 = .error f) : (v.perform r op).1 = v := by
  cases op with
  | process record changes | updateAll record | resetVariable name | resetWord word level =>
    exact commit_of_fault h
  | update name record => exact update_of_fault hu (Host.map_eq_error.1 h)
  | resetScope | handle | resetAll => cases h

theorem update_of_error {e : EvalError} (h : (v.update r name record).2 = .ok (.error e)) :
    (v.update r name record).1 = v := by
  rcases update_cases r v name record with ⟨f, hu⟩ | ⟨d, outcome, -, -, hu⟩
  · rw [hu]
  · rw [hu] at h ⊢
    cases outcome with
    | ok new =>
      obtain ⟨w, -, hw⟩ := Host.map_eq_ok.1 h
      cases hw
    | error e => rfl

/-- An operation that ends with a fault leaves the variables as they were, unless it is an update
    that takes a value which it cannot show; such an update is one of an average, and the state of
    this average is not what it was. An update that ends with an error changes nothing. -/
theorem states_eq_iff_of_fault (r : Registry) (v : Variables) (op : Operation) :
    ((∀ f, (v.perform r op).2 = .error f → (v.perform r op).1.states = v.states) ↔
      ¬ v.LeavesUnshown r op) ∧
    (v.LeavesUnshown r op → ∃ d name record new f, op = .update name record ∧
      d ∈ v.plan.definitions ∧ d.name = name ∧ d.kind = .average ∧
      v.perform r op = ({ v with states := setKeyed name new v.states }, .error f) ∧
      setKeyed name new v.states ≠ v.states) ∧
    ∀ name record e, (v.update r name record).2 = .ok (.error e) →
      (v.update r name record).1.states = v.states := by
  refine ⟨⟨fun hsame h => ?_, fun h f hf => by rw [perform_of_fault h hf]⟩,
    perform_of_leavesUnshown, fun name record e he => by rw [update_of_error he]⟩
  -- An update that leaves a value unshown is its own counterexample.
  obtain ⟨d, name, record, new, f, -, -, -, -, hp, hne⟩ := perform_of_leavesUnshown h
  rw [hp] at hsame
  exact hne (hsame f rfl)

/-- A mean that starts from nothing takes a text for its sum, although the update fails. -/
theorem update_mean_of_text : ∃ v,
    (make {} [mean .nil] none).run = .ok (.ok (meanAlone .nil)) ∧
    (ofPlan (meanAlone .nil)).update .empty "mean" (.dict [(.str "x", .str "a")]) =
      (v, .error .unsuitable) ∧
    (ofPlan (meanAlone .nil)).states = [("mean", ⟨.nil, 0, 0⟩)] ∧
    v.states = [("mean", ⟨.str "a", 1, 1⟩)] ∧ v.states ≠ (ofPlan (meanAlone .nil)).states :=
  ⟨_, by cbv, by cbv, by cbv, by cbv, fun h => by cases h⟩

end Variables

end ControlBreak
