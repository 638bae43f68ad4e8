import ControlBreak.Proofs.Variables.Operations

/-!
# Updates one by one

A record is taken by all variables at once, on a copy of their states, or by one after another, each
of which is shown its predecessors' new states and keeps its own at once. In the order of
evaluation both come to the same: what a variable is shown is told by those before it, and none
after it changes its state.

* `stage_of_updateEach`: updates in turn that return do what a record does on a copy, by induction on
  the names;
* `updateAll_of_updateEach`: each of them answers with the error that is reported for all, or with
  the value that the variable shows in the end.
-/

namespace ControlBreak

namespace Variables

open Plan

variable {r : Registry} {p : Plan} {v v' : Variables} {record : Value} {name : String}
  {names : List String} {d : VariableDefinition}

/-- The answers to updates of single variables, by name. -/
abbrev Answers := List (String × Host (Except EvalError Value))

/-- Updates the named variables one by one, and goes on after failures. -/
def updateEach (r : Registry) (v : Variables) (record : Value) : List String → Variables × Answers
  | [] => (v, [])
  | name :: rest =>
    let (next, answer) := v.update r name record
    let (last, answers) := updateEach r next record rest
    (last, (name, answer) :: answers)

/-- The errors that updates have answered with. -/
def failures (answers : Answers) : List (String × EvalError) :=
  answers.filterMap fun (name, answer) =>
    match answer with
    | .ok (.error e) => some (name, e)
    | _ => none

/-- All updates have returned, with a value or with an error. -/
def Returned (answers : Answers) : Prop :=
  ∀ a ∈ answers, ∃ outcome, a.2 = .ok outcome

theorem failures_cons {answers : Answers} {outcome : Except EvalError VariableState}
    {result : Except EvalError Value} (h : shownAfter d outcome = .ok result) :
    failures ((d.name, shownAfter d outcome) :: answers) =
      report d outcome ++ failures answers := by
  cases outcome with
  | error e => rfl
  | ok new =>
    obtain ⟨w, -, rfl⟩ := Host.map_eq_ok.1 h
    rw [h]
    rfl

/-- What the first of several updates does, if it returns. -/
theorem updateEach_cons {answers : Answers}
    (h : v.updateEach r record (name :: names) = (v', answers)) (hr : Returned answers) :
    ∃ d outcome later, v.plan.definition? name = some d ∧ d.name = name ∧
      (v.plan.evaluate r d v.states record).run = .ok outcome ∧
      updateEach r { v with states := statesAfter d v.states outcome } record names =
        (v', later) ∧ answers = (d.name, shownAfter d outcome) :: later ∧
      failures answers = report d outcome ++ failures later ∧ Returned later := by
  rw [updateEach] at h
  rcases update_cases r v name record with ⟨f, hu⟩ | ⟨d, outcome, hd, he, hu⟩
  · -- An update that is refused has not returned.
    rw [hu] at h
    cases h
    obtain ⟨_, ha⟩ := hr _ List.mem_cons_self
    cases ha
  · obtain ⟨-, rfl⟩ := definition?_some hd
    rw [hu] at h
    cases h
    obtain ⟨⟨result, hres⟩, hr⟩ := List.forall_mem_cons.1 hr
    exact ⟨d, outcome, _, hd, rfl, he, rfl, rfl, failures_cons hres, hr⟩

/-- Updates in turn that return do what a record does to the variables of these names. -/
theorem stage_of_updateEach {answers : Answers} (h : v.updateEach r record names = (v', answers))
    (hr : Returned answers) :
    v'.plan = v.plan ∧ answers.map (·.1) = names ∧
      (names.filterMap v.plan.definition?).map (·.name) = names ∧
      v.plan.stage r record [] (names.filterMap v.plan.definition?) v.states =
        .ok (v'.states, failures answers) := by
  induction names generalizing v answers with
  | nil =>
    cases h
    exact ⟨rfl, rfl, rfl, rfl⟩
  | cons name names ih =>
    obtain ⟨d, outcome, later, hd, rfl, he, hlater, rfl, hf, hr⟩ := updateEach_cons h hr
    obtain ⟨hplan, hnames, hdefs, hstage⟩ := ih hlater hr
    rw [hf, List.filterMap_cons_some hd, List.map_cons, List.map_cons]
    exact ⟨hplan, congrArg _ hnames, congrArg _ hdefs, stage_of_evaluate he hstage⟩

/-- Each update answers with the error that is reported, or with the value that is shown in the
    end: those after it leave its state alone. -/
theorem answer_of_updateEach {answers : Answers} {answer : Host (Except EvalError Value)}
    (h : v.updateEach r record names = (v', answers)) (hr : Returned answers) (hn : names.Nodup)
    (ha : (name, answer) ∈ answers) (other : Value) :
    answer = match keyed? (failures answers) name with
      | some e => .ok (.error e)
      | none => (v'.value name other).map .ok := by
  induction names generalizing v answers with
  | nil =>
    cases h
    cases ha
  | cons first names ih =>
    obtain ⟨d, outcome, later, hd, rfl, he, hlater, rfl, hf, hr⟩ := updateEach_cons h hr
    obtain ⟨hplan, hnames, hdefs, hstage⟩ := stage_of_updateEach hlater hr
    obtain ⟨hfirst, hn⟩ := List.nodup_cons.1 hn
    rw [hf, keyed?_append]
    rcases List.mem_cons.1 ha with ha | ha
    · cases ha
      -- No later update is one of this variable, so its state and its error stay.
      obtain ⟨hstate, herror⟩ := stage_frame hstage (hdefs.symm ▸ hfirst)
      cases outcome with
      | error e => simp [report, keyed?, shownAfter]
      | ok new =>
        have hnew : stateOf v'.states d = new := by
          rw [stateOf_congr hstate, statesAfter, stateOf_setKeyed_self]
        have hvalue : v'.value d.name other = d.displayValue new := by
          rw [value, hplan]
          simp only [hd, hnew]
        rw [herror, hvalue]
        rfl
    · have hname : name ∈ names := hnames ▸ List.mem_map_of_mem ha
      have hne : name ≠ d.name := fun heq => hfirst (heq ▸ hname)
      have hreport : keyed? (report d outcome) name = none := by
        cases outcome with
        | ok new => rfl
        | error e => simp [report, keyed?, Ne.symm hne]
      rw [hreport, Option.none_or]
      exact ih hlater hr hn ha

/-- If all variables are updated one by one in their order, going on after failures, and no update
    is refused, then the record is not refused when all take it together: it leads to the same
    states and reports exactly the failures of the updates, and each other update has answered with
    the value that its variable shows in the end. -/
theorem updateAll_of_updateEach {settings : Settings} {definitions : List VariableDefinition}
    {known : Option (List Value)} {states : States} {answers : Answers}
    (hm : (make settings definitions known).run = .ok (.ok p))
    (h : updateEach r ⟨p, states⟩ record p.order = (v', answers)) (hr : Returned answers) :
    updateAll r ⟨p, states⟩ record = .ok (v', failures answers) ∧
    answers.map (·.1) = p.order ∧ p.order.Perm (definitions.map (·.name)) ∧
    ∀ name answer, (name, answer) ∈ answers → ∀ other,
      answer = match keyed? (failures answers) name with
        | some e => .ok (.error e)
        | none => (v'.value name other).map .ok := by
  obtain ⟨rfl, -, ho⟩ := isOrdered_of_make hm
  obtain ⟨hplan, hnames, hdefs, hstage⟩ := stage_of_updateEach h hr
  have horder : p.order.Perm (p.definitions.map (·.name)) := hdefs ▸ ho.perm.map _
  refine ⟨updateAll_eq_ok.2 ⟨v'.states, hstage, ?_⟩, hnames, horder, fun name answer ha other =>
    answer_of_updateEach h hr (horder.nodup_iff.2 ho.nodup) ha other⟩
  rw [← hplan]

/-- The total is 5 and cannot take a text, but twice the total takes what there is. -/
theorem updateAll_of_updateEach_totals : ∃ v' answers,
    (make {} [twice, total] none).run = .ok (.ok totals) ∧
    updateEach .empty ⟨totals, [("twice", ⟨.int 8, 1, 1⟩), ("total", ⟨.int 5, 2, 2⟩)]⟩
      (.dict [(.str "x", .str "a")]) totals.order = (v', answers) ∧
    answers = [
      ("total", .ok (.error (.invalidArithmetic (.str "+") (.int 5) (.str "a")))),
      ("twice", .ok (.ok (.int 10)))] ∧ Returned answers ∧
    updateAll .empty ⟨totals, [("twice", ⟨.int 8, 1, 1⟩), ("total", ⟨.int 5, 2, 2⟩)]⟩
      (.dict [(.str "x", .str "a")]) =
        .ok (v', [("total", .invalidArithmetic (.str "+") (.int 5) (.str "a"))]) ∧
    v'.values = .ok [("twice", .int 10), ("total", .int 5)] := by
  have hm : (make {} [twice, total] none).run = .ok (.ok totals) := by cbv
  obtain ⟨v', answers, h, ha, hv⟩ : ∃ v' answers,
      updateEach .empty ⟨totals, [("twice", ⟨.int 8, 1, 1⟩), ("total", ⟨.int 5, 2, 2⟩)]⟩
        (.dict [(.str "x", .str "a")]) totals.order = (v', answers) ∧
      answers = [
        ("total", .ok (.error (.invalidArithmetic (.str "+") (.int 5) (.str "a")))),
        ("twice", .ok (.ok (.int 10)))] ∧
      v'.values = .ok [("twice", .int 10), ("total", .int 5)] :=
    ⟨_, _, rfl, by cbv, by cbv⟩
  have hr : Returned answers := by
    rw [ha]
    simp [Returned]
  have hall := (updateAll_of_updateEach hm h hr).1
  refine ⟨v', answers, hm, h, ha, hr, ?_, hv⟩
  rw [hall, ha]
  rfl

end Variables

end ControlBreak
