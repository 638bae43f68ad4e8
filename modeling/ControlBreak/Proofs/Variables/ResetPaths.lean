import ControlBreak.Proofs.Variables.Operations
import ControlBreak.Proofs.Variables.Resets

/-!
# Ways to reset

Variables go back to their initial states in two ways: at once, for a break or for a scope, and
while a record is taken, for the breaks before it. Which ones go back is told by a table of breaks,
and again by the scope and the level of each variable. It all comes down to names: a reset is told
by the names that it sends back, and several resets in turn are one of all their names.

* `reset_congr`, `foldl_reset`: the order of the names does not matter, nor how often each of them
  is listed or in how many resets;
* `handle_agrees`: a break of a group or of a page is a reset of the scopes within, and breaks in
  turn send back what a record with these breaks does;
* `PutBack.step`, `stage_of_reset`: to put a variable back when its turn comes, or all before the
  first of them, is the same for what each of them reads, by induction on the order of evaluation;
* `process_foldl_handle`: so a record with breaks is the breaks, and then the record alone.
-/

namespace ControlBreak

/-- Where keys are distinct, pairs are told by their keys and by what is found under each. -/
theorem eq_of_keyed? {κ α : Type} [DecidableEq κ] {pairs pairs' : List (κ × α)}
    (hk : pairs.map (·.1) = pairs'.map (·.1)) (hn : (pairs.map (·.1)).Nodup)
    (h : ∀ key ∈ pairs.map (·.1), keyed? pairs key = keyed? pairs' key) : pairs = pairs' := by
  refine List.ext_getElem (by simpa using congrArg List.length hk) fun i hi hi' => ?_
  have hkey : pairs[i].1 = pairs'[i].1 := by
    have hmap := List.getElem_of_eq hk (i := i) (by simpa using hi)
    simpa using hmap
  -- Each place is found by its own key, in both lists.
  have hfound : keyed? pairs pairs[i].1 = some pairs[i].2 :=
    (keyed?_eq_some_iff hn).2 (List.getElem_mem hi)
  have hfound' : keyed? pairs' pairs[i].1 = some pairs'[i].2 :=
    (keyed?_eq_some_iff (hk ▸ hn)).2 (hkey ▸ List.getElem_mem hi')
  rw [h _ (List.mem_map_of_mem (List.getElem_mem hi)), hfound'] at hfound
  exact Prod.ext hkey (Option.some.inj hfound).symm

namespace Plan

variable {p : Plan} {states states' : States}

/-- States are told by those of the variables. -/
theorem Keeps.ext (h : p.Keeps states) (h' : p.Keeps states')
    (hn : (p.definitions.map (·.name)).Nodup)
    (hs : ∀ d ∈ p.definitions, stateOf states d = stateOf states' d) : states = states' := by
  have hkeys : states.map (·.1) = states'.map (·.1) := h.trans h'.symm
  refine eq_of_keyed? hkeys (h ▸ hn) fun name hm => ?_
  rw [h] at hm
  obtain ⟨d, hd, rfl⟩ := List.mem_map.1 hm
  rw [h.keyed?_eq hd, h'.keyed?_eq hd, hs d hd]

end Plan

namespace Variables

open Plan

variable {r : Registry} {p : Plan} {v v' : Variables} {d : VariableDefinition} {record : Value}
  {names names' : List String} {scope : ResetScope} {level : Option ℤ} {cautious : Bool}

/-! ### Resets by name -/

theorem reset_reset : (v.reset names).reset names' = v.reset (names ++ names') := by
  rw [reset, reset, reset, resetStates, resetStates, resetStates, List.foldl_append]

/-- Resets in turn are one of all their names. -/
theorem foldl_reset {α : Type} (names : Plan → α → List String) (as : List α) (v : Variables) :
    as.foldl (fun v a => v.reset (names v.plan a)) v = v.reset (as.flatMap (names v.plan)) := by
  induction as generalizing v with
  | nil => rfl
  | cons a as ih => rw [List.foldl_cons, ih, List.flatMap_cons, ← reset_reset]; rfl

/-- Only the names that a reset sends back matter. -/
theorem IsOf.reset_congr (h : IsOf p v) (hn : (p.definitions.map (·.name)).Nodup)
    (hnames : ∀ d ∈ p.definitions, d.name ∈ names ↔ d.name ∈ names') :
    v.reset names = v.reset names' := by
  obtain ⟨rfl, hk⟩ := h
  refine congrArg (Variables.mk v.plan) ((hk.resetStates names).ext (hk.resetStates names') hn
    fun d hd => ?_)
  rw [stateOf_resetStates hn hd, stateOf_resetStates hn hd]
  simp only [hnames d hd]

/-! ### What goes back -/

/-- Of distinct names, those of some variables are listed if these variables are. -/
theorem name_mem_filter_iff {definitions : List VariableDefinition} {f : VariableDefinition → Bool}
    (hn : (definitions.map (·.name)).Nodup) (hd : d ∈ definitions) :
    d.name ∈ (definitions.filter f).map (·.name) ↔ f d = true := by
  rw [List.mem_map]
  constructor
  · -- A variable that is listed under this name is this one.
    rintro ⟨other, ho, he⟩
    obtain ⟨ho, hf⟩ := List.mem_filter.1 ho
    exact List.inj_on_of_nodup_map hn ho hd he ▸ hf
  · exact fun hf => ⟨d, List.mem_filter.2 ⟨hd, hf⟩, rfl⟩

theorem mem_inScope (hn : (v.plan.definitions.map (·.name)).Nodup) (hd : d ∈ v.plan.definitions) :
    d.name ∈ v.inScope scope level ↔ d.shouldReset scope level = true :=
  name_mem_filter_iff hn hd

theorem mem_sentBack {b : Break} (hn : (v.plan.definitions.map (·.name)).Nodup)
    (hd : d ∈ v.plan.definitions) : d.name ∈ v.sentBack (some b) ↔ b.resets d = true :=
  name_mem_filter_iff hn hd

/-- A break of a group sends back the details, and the variables of the group and of those
    within. -/
theorem resets_group_iff {level : ℤ} : (Break.group level).resets d = true ↔
    d.shouldReset .detail none = true ∨ d.shouldReset .group (some level) = true := by
  cases hd : d.resetOn <;> cases hg : d.resetGroup <;>
    simp [Break.resets, VariableDefinition.shouldReset, hd, hg]

/-- A new page sends back all that belongs to some scope but that of the report. -/
theorem resets_page_iff : Break.page.resets d = true ↔
    ∃ scope ∈ [ResetScope.detail, .group, .page], d.shouldReset scope none = true := by
  cases hd : d.resetOn <;> simp [Break.resets, VariableDefinition.shouldReset, hd]

theorem IsOf.handle_group (h : IsOf p v) (hn : (p.definitions.map (·.name)).Nodup) (level : ℤ) :
    v.handle (some (.group level)) =
      (v.resetScope .detail none).resetScope .group (some level) := by
  have hscopes : (v.resetScope .detail none).resetScope .group (some level) =
      v.reset (v.inScope .detail none ++ v.inScope .group (some level)) := by
    rw [← reset_reset]
    rfl
  rw [hscopes, handle]
  refine h.reset_congr hn fun d hd => ?_
  obtain ⟨rfl, -⟩ := h
  rw [mem_sentBack hn hd, resets_group_iff, List.mem_append, mem_inScope hn hd, mem_inScope hn hd]

theorem IsOf.handle_page (h : IsOf p v) (hn : (p.definitions.map (·.name)).Nodup)
    {scopes : List ResetScope} (hs : scopes.Perm [.detail, .group, .page]) :
    v.handle (some .page) = scopes.foldl (fun v scope => v.resetScope scope none) v := by
  have hscopes : scopes.foldl (fun v scope => v.resetScope scope none) v =
      v.reset (scopes.flatMap fun scope => v.inScope scope none) :=
    foldl_reset (fun p scope => (Variables.mk p []).inScope scope none) scopes v
  rw [hscopes, handle]
  refine h.reset_congr hn fun d hd => ?_
  obtain ⟨rfl, -⟩ := h
  rw [mem_sentBack hn hd, resets_page_iff, List.mem_flatMap]
  simp only [hs.mem_iff, mem_inScope hn hd]

/-- Breaks in turn send back the names that they are listed with for a record. -/
theorem IsOf.foldl_handle (h : IsOf p v) (hn : (p.definitions.map (·.name)).Nodup)
    (changes : List Break) : changes.foldl (fun v b => v.handle (some b)) v =
      v.reset (Break.variablesToResetAll p.definitions changes) := by
  have hchanges : changes.foldl (fun v b => v.handle (some b)) v =
      v.reset (changes.flatMap fun b => v.sentBack (some b)) :=
    foldl_reset (fun p b => (Variables.mk p []).sentBack (some b)) changes v
  rw [hchanges]
  refine h.reset_congr hn fun d hd => ?_
  obtain ⟨rfl, -⟩ := h
  rw [List.mem_flatMap, Break.mem_variablesToResetAll]
  rfl

/-- A variable goes back for breaks in turn as it does for a record with these breaks. -/
theorem IsOf.stateOf_foldl_handle (h : IsOf p v) (hn : (p.definitions.map (·.name)).Nodup)
    (hd : d ∈ p.definitions) (changes : List Break) :
    stateOf (changes.foldl (fun v b => v.handle (some b)) v).states d =
      baseState changes d (stateOf v.states d) := by
  have hback : (Break.variablesToResetAll p.definitions changes).contains d.name =
      changes.any (·.resets d) := contains_invalidated hn hd
  rw [h.foldl_handle hn, baseState, ← hback]
  obtain ⟨rfl, -⟩ := h
  rw [Variables.reset, stateOf_resetStates hn hd]
  simp only [List.contains_iff_mem]

/-! ### A record with breaks -/

/-- Around a variable in the order of evaluation there are all others, with other names. -/
theorem around {before later : List VariableDefinition} (hp : p.IsOrdered cautious)
    (hsplit : p.ordered = before ++ d :: later) :
    d ∈ p.definitions ∧ (∀ other ∈ before, other.name ≠ d.name) ∧
      (∀ other ∈ later, other.name ≠ d.name) ∧
      ∀ other ∈ p.definitions, other ∈ before ∨ other = d ∨ other ∈ later := by
  have hmem : ∀ other, other ∈ p.definitions ↔ other ∈ before ∨ other = d ∨ other ∈ later := by
    intro other
    rw [← hp.perm.mem_iff, hsplit, List.mem_append, List.mem_cons]
  have hn : ((before ++ d :: later).map (·.name)).Nodup :=
    hsplit ▸ (hp.perm.map _).nodup_iff.2 hp.nodup
  rw [List.map_append, List.map_cons] at hn
  refine ⟨(hmem d).2 (.inr (.inl rfl)), fun other ho heq => ?_, fun other ho heq => ?_,
    fun other => (hmem other).1⟩
  · exact List.disjoint_of_nodup_append hn (List.mem_map_of_mem ho) (heq ▸ List.mem_cons_self)
  · exact (List.nodup_cons.1 (List.nodup_append.1 hn).2.1).1 (heq ▸ List.mem_map_of_mem ho)

/-- An initial state can be shown, even if the one that it takes the place of cannot. -/
theorem exists_displayValue_resetState (d : VariableDefinition) (s : VariableState) :
    ∃ w, d.displayValue (d.resetState s) = .ok w := by
  by_cases hd : d.kind = .average
  · exact ⟨.int 0, VariableDefinition.displayValue_average hd⟩
  · exact ⟨d.initial, VariableDefinition.displayValue_of_ne hd⟩

section Reset

variable {invalidated : List String} {before later : List VariableDefinition}
  {here there end₁ : States} {errors : List (String × EvalError)} {context : Value}

/-- States in which the variables that are still to be evaluated were put back already, beside those
    in which each of them is put back when its turn comes. -/
structure PutBack (invalidated : List String) (before later : List VariableDefinition)
    (here there : States) : Prop where
  before : ∀ d ∈ before, stateOf there d = stateOf here d
  later : ∀ d ∈ later, stateOf there d = stateOf (statesAt invalidated d here) d

/-- When it is the turn of a variable, those before it and the variable itself stand alike. -/
theorem PutBack.turn (h : PutBack invalidated before (d :: later) here there)
    (hne : ∀ other ∈ before, other.name ≠ d.name) : ∀ other ∈ before ++ [d],
      stateOf there other = stateOf (statesAt invalidated d here) other := by
  refine List.forall_mem_append.2 ⟨fun other ho => ?_, List.forall_mem_singleton.2 ?_⟩
  · rw [h.before other ho, stateOf_congr (keyed?_statesAt (hne other ho))]
  · exact h.later d List.mem_cons_self

/-- What the evaluation of a variable leaves stands alike again, with the variable among those
    before. -/
theorem PutBack.step (h : PutBack invalidated before (d :: later) here there)
    (hneBefore : ∀ other ∈ before, other.name ≠ d.name)
    (hneLater : ∀ other ∈ later, other.name ≠ d.name)
    (outcome : Except EvalError VariableState) :
    PutBack invalidated (before ++ [d]) later
      (statesAfter d (statesAt invalidated d here) outcome) (statesAfter d there outcome) := by
  obtain ⟨hsame, hself⟩ := List.forall_mem_append.1 (h.turn hneBefore)
  refine ⟨List.forall_mem_append.2 ⟨fun other ho => ?_, List.forall_mem_singleton.2 ?_⟩,
    fun other ho => ?_⟩
  · rw [stateOf_congr (keyed?_statesAfter (hneBefore other ho)),
      stateOf_congr (keyed?_statesAfter (hneBefore other ho)), hsame other ho]
  · cases outcome with
    | ok s => rw [statesAfter, statesAfter, stateOf_setKeyed_self, stateOf_setKeyed_self]
    | error e => exact hself d List.mem_cons_self
  · have hne := hneLater other ho
    rw [stateOf_congr (keyed?_statesAfter hne), h.later other (List.mem_cons_of_mem _ ho),
      stateOf_statesAt, stateOf_statesAt, stateOf_congr (keyed?_statesAfter hne),
      stateOf_congr (keyed?_statesAt hne)]

/-- If a record can be seen through variables that are put back in turn, then it can be seen
    through those that were put back already. -/
theorem PutBack.exists_context (h : PutBack invalidated before (d :: later) here there)
    (hp : p.IsOrdered cautious) (hsplit : p.ordered = before ++ d :: later)
    (hc : p.context (statesAt invalidated d here) record = .ok context) :
    ∃ context, p.context there record = .ok context := by
  obtain ⟨-, hneBefore, hneLater, hall⟩ := around hp hsplit
  refine Plan.exists_context (fun other ho => ?_) record
  obtain ⟨w, hw⟩ := exists_shownValue hc ho
  have hturn : other ∈ before ++ [d] → ∃ w, shownValue there other = .ok w := fun hmem =>
    ⟨w, by rwa [shownValue, h.turn hneBefore other hmem]⟩
  rcases hall other ho with hb | rfl | hl
  · exact hturn (List.mem_append_left _ hb)
  · exact hturn (List.mem_append_right _ List.mem_cons_self)
  · -- A later variable stands at its initial state, which can be shown, or where it stood.
    rw [shownValue, h.later other (List.mem_cons_of_mem _ hl), stateOf_statesAt]
    split
    · obtain ⟨w', hw'⟩ := exists_displayValue_resetState other (stateOf here other)
      exact ⟨_, Host.map_eq_ok.2 ⟨w', hw', rfl⟩⟩
    · rw [shownValue, stateOf_congr (keyed?_statesAt (hneLater other hl))] at hw
      exact ⟨w, hw⟩

/-- Variables that are put back when they take a record, and those that were put back before, come
    to the same: those that a variable reads stand alike when it is evaluated. -/
theorem stage_of_reset (hp : p.IsOrdered cautious)
    (hh : ∀ d ∈ p.definitions, d.callsHost = .ok false ∨ cautious = true)
    (hsplit : p.ordered = before ++ later) (hput : PutBack invalidated before later here there)
    (h : p.stage r record invalidated later here = .ok (end₁, errors)) :
    ∃ end₂, p.stage r record [] later there = .ok (end₂, errors) ∧
      ∀ d ∈ p.definitions, stateOf end₁ d = stateOf end₂ d := by
  induction later generalizing before here there errors with
  | nil =>
    cases h
    rw [List.append_nil] at hsplit
    exact ⟨there, rfl, fun d hd => (hput.before d (hsplit ▸ hp.perm.mem_iff.2 hd)).symm⟩
  | cons d later ih =>
    obtain ⟨outcome, errors', he, hrest, rfl⟩ := stage_cons h
    obtain ⟨context, hc, ht⟩ := evaluate_eq_ok he
    obtain ⟨context', hc'⟩ := hput.exists_context hp hsplit hc
    obtain ⟨hd, hneBefore, hneLater, -⟩ := around hp hsplit
    obtain ⟨deps, hdeps, hafter⟩ := hp.after before d later hsplit
    have hself := hput.later d List.mem_cons_self
    -- Of what the two contexts show, the variable reads only what stands alike.
    have htake : (p.take r d context' (stateOf there d)).run = .ok outcome := by
      rw [hself, take_of_dependencies hp.nodup hd (hh d hd) hdeps hc' hc hself fun other ho hdep =>
        hput.turn hneBefore other (List.mem_append_left _ (hafter other ho hdep))]
      exact ht
    have hsplit' : p.ordered = before ++ [d] ++ later := by
      rw [hsplit, List.append_assoc, List.singleton_append]
    obtain ⟨end₂, hend, hends⟩ := ih hsplit' (hput.step hneBefore hneLater outcome) hrest
    exact ⟨end₂, stage_of_evaluate (evaluate_of_take hc' htake) hend, hends⟩

end Reset

/-- If no variable calls into the host, or if the plan is cautious, then a record with breaks does
    what the breaks do in turn and then the record without any. -/
theorem process_foldl_handle {settings : Settings} {definitions : List VariableDefinition}
    {known : Option (List Value)} {operations : List Operation} {changes : List Break}
    {errors : List (String × EvalError)}
    (hm : (make settings definitions known).run = .ok (.ok p))
    (hh : ∀ d ∈ definitions, d.callsHost = .ok false ∨ settings.conservativeDependencies = true)
    (hv : v = run r (.ofPlan p) operations) (h : v.process r record changes = .ok (v', errors)) :
    (changes.foldl (fun v b => v.handle (some b)) v).updateAll r record = .ok (v', errors) := by
  obtain ⟨rfl, -, ho⟩ := isOrdered_of_make hm
  have hv : IsOf p v := hv ▸ isOf_run ho.nodup operations (isOf_ofPlan p)
  have hv' : IsOf p v' := hv.process h
  set w := changes.foldl (fun v b => v.handle (some b)) v with hw
  have hstates : ∀ d ∈ p.ordered,
      stateOf w.states d = stateOf (statesAt (p.invalidated changes) d v.states) d := by
    intro d hd
    have hd := ho.perm.mem_iff.1 hd
    rw [hw, hv.stateOf_foldl_handle ho.nodup hd, stateOf_statesAt,
      contains_invalidated ho.nodup hd, baseState]
  have hw : IsOf p w := by
    rw [hw, hv.foldl_handle ho.nodup changes]
    exact hv.reset _
  obtain ⟨⟨end₁, _⟩, hstage, h⟩ := Host.bind_eq_ok.1 h
  cases h
  rw [hv.plan] at hstage
  obtain ⟨end₂, hstage', hends⟩ := stage_of_reset ho hh (List.nil_append _).symm
    ⟨List.forall_mem_nil _, hstates⟩ hstage
  have hprocess : w.updateAll r record = .ok ({ w with states := end₂ }, errors) :=
    updateAll_eq_ok.2 ⟨end₂, hw.plan.symm ▸ hstage', rfl⟩
  -- States that are alike for each variable are the same states.
  have hkeeps : p.Keeps end₂ := (hw.process hprocess).keeps
  obtain rfl : end₁ = end₂ := hv'.keeps.ext hkeeps ho.nodup hends
  rw [hprocess, hw.plan, hv.plan]

/-- All ways to reset variables agree, after any operations. A break of a group does what a reset
    of the details and of the groups at its level does, and a new page what a reset of the
    details, of the groups and of the pages does, in any order. Breaks in turn send back the
    variables that are listed for all of them, and no others; and in a record with these breaks
    each variable is evaluated at the state at which they leave it, and stays there if it fails. -/
theorem handle_agrees {settings : Settings} {definitions : List VariableDefinition}
    {known : Option (List Value)} (hm : (make settings definitions known).run = .ok (.ok p))
    {operations : List Operation} (hv : v = run r (.ofPlan p) operations) :
    (∀ level : ℤ, v.handle (some (.group level)) =
      (v.resetScope .detail none).resetScope .group (some level)) ∧
    (∀ scopes : List ResetScope, scopes.Perm [.detail, .group, .page] →
      v.handle (some .page) = scopes.foldl (fun v scope => v.resetScope scope none) v) ∧
    ∀ changes w, w = changes.foldl (fun v b => v.handle (some b)) v →
      (∀ d ∈ definitions, stateOf w.states d =
        if d.name ∈ Break.variablesToResetAll definitions changes
        then d.resetState (stateOf v.states d) else stateOf v.states d) ∧
      ∀ record v' errors, v.process r record changes = .ok (v', errors) → ∀ d ∈ definitions,
        ∃ moment context outcome, p.context moment record = .ok context ∧
          stateOf moment d = stateOf w.states d ∧
          (p.take r d context (stateOf w.states d)).run = .ok outcome ∧
          (stateOf v'.states d, keyed? errors d.name) = settled (stateOf w.states d) outcome := by
  obtain ⟨rfl, -, ho⟩ := isOrdered_of_make hm
  have hv : IsOf p v := hv ▸ isOf_run ho.nodup operations (isOf_ofPlan p)
  refine ⟨hv.handle_group ho.nodup, fun scopes => hv.handle_page ho.nodup, fun changes w hw => ?_⟩
  refine ⟨fun d hd => ?_, fun record v' errors h d hd => ?_⟩
  · rw [hw, hv.foldl_handle ho.nodup, reset, hv.plan, stateOf_resetStates ho.nodup hd]
  · obtain ⟨⟨states, _⟩, hstage, h⟩ := Host.bind_eq_ok.1 h
    cases h
    rw [hv.plan] at hstage
    obtain ⟨moment, context, outcome, -, hc, ht, hmoment, -, -, hs, he⟩ := ho.moment hd hstage
    have hbase : stateOf w.states d = baseState changes d (stateOf v.states d) :=
      hw ▸ hv.stateOf_foldl_handle ho.nodup hd changes
    rw [hbase]
    exact ⟨moment, context, outcome, hc, hmoment, ht, Prod.ext hs he⟩

/-- The sum of 5 in each scope after a break of groups within the first level: of a list of breaks,
    and of the scopes in another order. -/
theorem handle_agrees_allAmounts : ∃ p v w v' errors,
    (make {} Break.allAmounts none).run = .ok (.ok p) ∧
    v = run .empty (.ofPlan p) [.updateAll (.dict [(.str "amount", .int 5)])] ∧
    w = [Break.detail, .group 2].foldl (fun v b => v.handle (some b)) v ∧
    w.values = .ok [("report", .int 5), ("city", .int 0), ("line", .int 0), ("page", .int 5),
      ("any", .int 0), ("region", .int 5)] ∧
    v.process .empty (.dict [(.str "amount", .int 1)]) [.detail, .group 2] = .ok (v', errors) ∧
    v'.values = .ok [("report", .int 6), ("city", .int 1), ("line", .int 1), ("page", .int 6),
      ("any", .int 1), ("region", .int 6)] ∧
    v.handle (some (.group 2)) = (v.resetScope .detail none).resetScope .group (some 2) ∧
    v.handle (some .page) =
      ((v.resetScope .page none).resetScope .detail none).resetScope .group none ∧
    ∀ d ∈ Break.allAmounts, ∃ moment context outcome,
      p.context moment (.dict [(.str "amount", .int 1)]) = .ok context ∧
      stateOf moment d = stateOf w.states d ∧
      (p.take .empty d context (stateOf w.states d)).run = .ok outcome ∧
      (stateOf v'.states d, keyed? errors d.name) = settled (stateOf w.states d) outcome := by
  obtain ⟨p, v, w, v', errors, hm, hv, hw, hback, hp, hnew⟩ : ∃ p v w v' errors,
      (make {} Break.allAmounts none).run = .ok (.ok p) ∧
      v = run .empty (.ofPlan p) [.updateAll (.dict [(.str "amount", .int 5)])] ∧
      w = [Break.detail, .group 2].foldl (fun v b => v.handle (some b)) v ∧
      w.values = .ok [("report", .int 5), ("city", .int 0), ("line", .int 0), ("page", .int 5),
        ("any", .int 0), ("region", .int 5)] ∧
      v.process .empty (.dict [(.str "amount", .int 1)]) [.detail, .group 2] = .ok (v', errors) ∧
      v'.values = .ok [("report", .int 6), ("city", .int 1), ("line", .int 1), ("page", .int 6),
        ("any", .int 1), ("region", .int 6)] :=
    ⟨_, _, _, _, _, by cbv, rfl, rfl, by cbv, by cbv, by cbv⟩
  obtain ⟨hgroup, hpage, hchanges⟩ := handle_agrees hm hv
  exact ⟨p, v, w, v', errors, hm, hv, hw, hback, hp, hnew, hgroup 2,
    hpage [.page, .detail, .group] (by decide), (hchanges _ w hw).2 _ _ _ hp⟩

end Variables

end ControlBreak
