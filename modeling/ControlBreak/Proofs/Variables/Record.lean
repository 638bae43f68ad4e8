import ControlBreak.Proofs.Variables.Plan
import Mathlib

/-!
# What a record makes of the variables

The variables take a record in turn, and each is evaluated while only some of the
others have taken it. What comes of it can be told without the order: a variable
*settles* in the record seen through the values that all others show in the end.

* `stage_append`, `stage_frame`: variables take a record list by list, and those
  that are not listed are left alone;
* `IsOrdered.moment`: when a variable is evaluated, all that it depends on stands as it
  does in the end;
* `process_settles`: in a plan that was made, each variable settles, since those
  that it reads have taken the record before it.
-/

namespace ControlBreak

namespace Plan

variable {r : Registry} {p : Plan} {record context : Value} {invalidated : List String}
  {d : VariableDefinition} {base s : VariableState} {states states' : States}
  {errors : List (String × EvalError)}

/-- What becomes of a variable at a given state, and its error if there is one, when
    its condition and its expression are evaluated in a context. -/
inductive Settles (r : Registry) (p : Plan) (d : VariableDefinition) (context : Value)
    (base : VariableState) : VariableState → Option EvalError → Prop
  | conditionFails {e : EvalError} : (p.admits r d context).run = .ok (.error e) →
    Settles r p d context base base (some e)
  | refuses : (p.admits r d context).run = .ok (.ok false) →
    Settles r p d context base base none
  | expressionFails {e : EvalError} : (p.admits r d context).run = .ok (.ok true) →
    (p.valueOf r d.expression context).run = .ok (.error e) →
    Settles r p d context base base (some e)
  | accumulationFails {v : Value} {e : EvalError} : (p.admits r d context).run = .ok (.ok true) →
    (p.valueOf r d.expression context).run = .ok (.ok v) →
    (d.kind.accumulate base v).run = .ok (.error e) →
    Settles r p d context base base (some e)
  | takes {v : Value} {s : VariableState} : (p.admits r d context).run = .ok (.ok true) →
    (p.valueOf r d.expression context).run = .ok (.ok v) →
    (d.kind.accumulate base v).run = .ok (.ok s) →
    Settles r p d context base (d.holdValue s) none

/-! ### Contexts -/

theorem context_eq_ok : p.context states record = .ok context ↔
    ∃ layer, p.definitions.mapM (fun d => do return (d.name, ← shownValue states d)) = .ok layer ∧
      context = .layered layer record := by
  rw [Plan.context, Host.bind_eq_ok]
  simp only [pure, Except.pure, Except.ok.injEq, eq_comm]

/-- There is a context if all variables can be shown. -/
theorem exists_context (h : ∀ d ∈ p.definitions, ∃ v, shownValue states d = .ok v)
    (record : Value) : ∃ context, p.context states record = .ok context := by
  have hshow : ∀ d ∈ p.definitions, ∃ e : String × Value,
      (do return (d.name, ← shownValue states d)) = Except.ok e := fun d hd => by
    obtain ⟨v, hv⟩ := h d hd
    exact ⟨_, Host.bind_eq_ok.2 ⟨v, hv, rfl⟩⟩
  obtain ⟨layer, hl⟩ := Host.exists_mapM_eq_ok hshow
  exact ⟨_, context_eq_ok.2 ⟨layer, hl, rfl⟩⟩

theorem exists_shownValue (h : p.context states record = .ok context) (hd : d ∈ p.definitions) :
    ∃ v, shownValue states d = .ok v := by
  obtain ⟨layer, hl, -⟩ := context_eq_ok.1 h
  obtain ⟨e, he⟩ := Host.exists_of_mapM_eq_ok hl hd
  obtain ⟨v, hv, -⟩ := Host.bind_eq_ok.1 he
  exact ⟨v, hv⟩

/-- A layer shows the value of the first variable with a name. -/
theorem keyed?_layer {definitions : List VariableDefinition} {layer : List (String × Value)}
    (h : definitions.mapM (fun d => do return (d.name, ← shownValue states d)) = .ok layer)
    (name : String) : keyed? layer name =
      (definitions.find? fun d => d.name == name).bind fun d => (shownValue states d).toOption := by
  rw [Host.mapM_eq_ok] at h
  induction h with
  | nil => rfl
  | @cons d e rest layer he _ ih =>
    obtain ⟨v, hv, he⟩ := Host.bind_eq_ok.1 he
    cases he
    by_cases hn : d.name = name
    · simp [keyed?, hn, hv, Except.toOption]
    · rw [keyed?, List.find?_cons_of_neg (by simpa using hn),
        List.find?_cons_of_neg (by simpa using hn)]
      exact ih

/-- A name is found alike in contexts of plans that have the same variable of this name, and
    show it alike. -/
theorem lookup_context_of_definition? {p' : Plan} {context' name : Value}
    (h : p.context states record = .ok context) (h' : p'.context states' record = .ok context')
    (hp : ∀ t, p.definition? t = p'.definition? t)
    (hs : ∀ d ∈ p.definitions, .str d.name = name → stateOf states d = stateOf states' d) :
    context.lookup name = context'.lookup name := by
  obtain ⟨layer, hl, rfl⟩ := context_eq_ok.1 h
  obtain ⟨layer', hl', rfl⟩ := context_eq_ok.1 h'
  refine Value.lookup_layered_congr fun t ht => ?_
  rw [keyed?_layer hl, keyed?_layer hl', ← definition?, ← definition?, ← hp]
  cases hd : p.definition? t with
  | none => rfl
  | some d =>
    obtain ⟨hm, hn⟩ := definition?_some hd
    rw [Option.bind_some, Option.bind_some, shownValue, shownValue, hs d hm (by rw [ht, hn])]

/-- A name is found alike in contexts that show the variable of this name alike. -/
theorem lookup_context {context' name : Value} (h : p.context states record = .ok context)
    (h' : p.context states' record = .ok context')
    (hs : ∀ d ∈ p.definitions, .str d.name = name → stateOf states d = stateOf states' d) :
    context.lookup name = context'.lookup name :=
  lookup_context_of_definition? h h' (fun _ => rfl) hs

/-- A name of no variable is found in a context as in the record seen through no values. -/
theorem lookup_context_of_forall_ne {name : Value} (h : p.context states record = .ok context)
    (hn : ∀ d ∈ p.definitions, .str d.name ≠ name) :
    context.lookup name = (Value.layered [] record).lookup name := by
  obtain ⟨layer, hl, rfl⟩ := context_eq_ok.1 h
  refine Value.lookup_layered_congr fun t ht => ?_
  have hf : (p.definitions.find? fun d => d.name == t) = none := by
    refine List.find?_eq_none.2 fun d hd => ?_
    simpa [ht] using hn d hd
  rw [keyed?_layer hl, hf]
  rfl

/-- Contexts that show all variables alike are the same. -/
theorem context_congr (hs : ∀ d ∈ p.definitions, stateOf states d = stateOf states' d) :
    p.context states record = p.context states' record := by
  rw [Plan.context, Plan.context]
  congr 1
  refine Host.mapM_congr fun d hd => ?_
  rw [shownValue, shownValue, hs d hd]

/-! ### One variable -/

theorem valueOf_congr {context' e : Value} (h : r.evaluate e context = r.evaluate e context') :
    p.valueOf r e context = p.valueOf r e context' := by
  rw [valueOf, valueOf, h]

/-- A variable takes contexts alike that give its condition and its expression the same
    values. -/
theorem take_congr {context' : Value}
    (hc : d.isConditional = true → r.evaluate d.condition context = r.evaluate d.condition context')
    (he : r.evaluate d.expression context = r.evaluate d.expression context') :
    p.take r d context s = p.take r d context' s := by
  have hadmits : p.admits r d context = p.admits r d context' := by
    rw [admits, admits]
    split
    · rename_i h
      rw [valueOf_congr (hc h)]
    · rfl
  rw [take, take, hadmits, valueOf_congr he]

/-- A variable that does not call into the host takes contexts alike in which all names
    that it reads are found alike. -/
theorem take_of_lookup {context' : Value} (hh : d.callsHost = .ok false)
    (hl : ∀ name, d.Reads name → context.lookup name = context'.lookup name) :
    p.take r d context s = p.take r d context' s := by
  obtain ⟨he, hc⟩ := VariableDefinition.callsHost_eq_false.1 hh
  exact take_congr
    (fun _ => r.evaluate_congr _ hc (fun name hr => hl name (.inr hr)) fun _ _ => rfl)
    (r.evaluate_congr _ he (fun name hr => hl name (.inl hr)) fun _ _ => rfl)

/-- The state and the error that an evaluation leads to. -/
def settled (base : VariableState) :
    Except EvalError VariableState → VariableState × Option EvalError
  | .ok s => (s, none)
  | .error e => (base, some e)

/-- A variable that takes a context settles in it. -/
theorem settles_of_take {outcome : Except EvalError VariableState}
    (h : (p.take r d context base).run = .ok outcome) :
    Settles r p d context base (settled base outcome).1 (settled base outcome).2 := by
  rcases Evaluation.bind_eq.1 h with ⟨e, ha, rfl⟩ | ⟨admitted, ha, h⟩
  · exact .conditionFails ha
  cases admitted with
  | false =>
    cases h
    exact .refuses ha
  | true =>
    rcases Evaluation.bind_eq.1 h with ⟨e, hv, rfl⟩ | ⟨v, hv, h⟩
    · exact .expressionFails ha hv
    rcases Evaluation.bind_eq.1 h with ⟨e, hs, rfl⟩ | ⟨s, hs, h⟩
    · exact .accumulationFails ha hv hs
    cases h
    exact .takes ha hv hs

theorem evaluate_eq_ok {outcome : Except EvalError VariableState}
    (h : (p.evaluate r d states record).run = .ok outcome) :
    ∃ context, p.context states record = .ok context ∧
      (p.take r d context (stateOf states d)).run = .ok outcome := by
  rcases Evaluation.bind_eq.1 h with ⟨e, hc, -⟩ | ⟨context, hc, h⟩
  · exact absurd hc Evaluation.lift_ne_error
  · exact ⟨context, Evaluation.lift_eq_ok.1 hc, h⟩

theorem evaluate_of_take {outcome : Except EvalError VariableState}
    (hc : p.context states record = .ok context)
    (ht : (p.take r d context (stateOf states d)).run = .ok outcome) :
    (p.evaluate r d states record).run = .ok outcome :=
  Evaluation.bind_eq.2 (.inr ⟨context, Evaluation.lift_eq_ok.2 hc, ht⟩)

/-! ### All variables in turn -/

/-- The state that a variable is evaluated at: it goes back first if a break says so. -/
def baseState (changes : List Break) (d : VariableDefinition) (s : VariableState) :
    VariableState :=
  if changes.any (·.resets d) then d.resetState s else s

/-- The states that a variable is evaluated with. -/
def statesAt (invalidated : List String) (d : VariableDefinition) (states : States) : States :=
  if invalidated.contains d.name then resetState d states else states

/-- The states after the evaluation of a variable. -/
def statesAfter (d : VariableDefinition) (states : States) :
    Except EvalError VariableState → States
  | .ok s => setKeyed d.name s states
  | .error _ => states

/-- What is reported of the evaluation of a variable. -/
def report (d : VariableDefinition) : Except EvalError VariableState → List (String × EvalError)
  | .ok _ => []
  | .error e => [(d.name, e)]

theorem stage_cons {rest : List VariableDefinition}
    (h : p.stage r record invalidated (d :: rest) states = .ok (states', errors)) :
    ∃ outcome errors', (p.evaluate r d (statesAt invalidated d states) record).run = .ok outcome ∧
      p.stage r record invalidated rest
        (statesAfter d (statesAt invalidated d states) outcome) = .ok (states', errors') ∧
      errors = report d outcome ++ errors' := by
  rw [stage] at h
  obtain ⟨outcome, ho, h⟩ := Host.bind_eq_ok.1 h
  cases outcome with
  | ok s => exact ⟨_, _, ho, h, rfl⟩
  | error e =>
    obtain ⟨⟨last, errors'⟩, hr, h⟩ := Host.bind_eq_ok.1 h
    cases h
    exact ⟨_, _, ho, hr, rfl⟩

/-- The variables after one that is evaluated go on from what it leaves. -/
theorem stage_of_evaluate {rest : List VariableDefinition}
    {outcome : Except EvalError VariableState}
    (ho : (p.evaluate r d (statesAt invalidated d states) record).run = .ok outcome)
    (h : p.stage r record invalidated rest (statesAfter d (statesAt invalidated d states) outcome) =
      .ok (states', errors)) :
    p.stage r record invalidated (d :: rest) states =
      .ok (states', report d outcome ++ errors) := by
  rw [stage]
  refine Host.bind_eq_ok.2 ⟨outcome, ho, ?_⟩
  cases outcome with
  | ok s => exact h
  | error e => exact Host.bind_eq_ok.2 ⟨_, h, rfl⟩

theorem stage_append {ds ds' : List VariableDefinition}
    (h : p.stage r record invalidated (ds ++ ds') states = .ok (states', errors)) :
    ∃ mid before later, p.stage r record invalidated ds states = .ok (mid, before) ∧
      p.stage r record invalidated ds' mid = .ok (states', later) ∧ errors = before ++ later := by
  induction ds generalizing states errors with
  | nil => exact ⟨states, [], errors, rfl, h, rfl⟩
  | cons d ds ih =>
    obtain ⟨outcome, errors', ho, hrest, rfl⟩ := stage_cons h
    obtain ⟨mid, before, later, hb, hl, rfl⟩ := ih hrest
    exact ⟨mid, _, later, stage_of_evaluate ho hb, hl, (List.append_assoc ..).symm⟩

theorem stateOf_congr (h : keyed? states d.name = keyed? states' d.name) :
    stateOf states d = stateOf states' d := by
  rw [stateOf, stateOf, h]

theorem stateOf_setKeyed_self : stateOf (setKeyed d.name s states) d = s := by
  rw [stateOf, keyed?_setKeyed, if_pos rfl, Option.getD_some]

theorem stateOf_setKeyed_of_ne {other : VariableDefinition} (h : other.name ≠ d.name) :
    stateOf (setKeyed d.name s states) other = stateOf states other :=
  stateOf_congr (by rw [keyed?_setKeyed, if_neg h])

theorem stateOf_statesAt : stateOf (statesAt invalidated d states) d =
    if invalidated.contains d.name then d.resetState (stateOf states d) else stateOf states d := by
  rw [statesAt]
  split
  · exact stateOf_setKeyed_self
  · rfl

theorem keyed?_statesAt {name : String} (h : name ≠ d.name) :
    keyed? (statesAt invalidated d states) name = keyed? states name := by
  rw [statesAt]
  split
  · rw [resetState, keyed?_setKeyed, if_neg h]
  · rfl

theorem keyed?_statesAfter {name : String} {outcome : Except EvalError VariableState}
    (h : name ≠ d.name) : keyed? (statesAfter d states outcome) name = keyed? states name := by
  cases outcome with
  | ok s => rw [statesAfter, keyed?_setKeyed, if_neg h]
  | error e => rfl

/-- The variables that do not take a record are left alone, and nothing is reported of
    them. -/
theorem stage_frame {ds : List VariableDefinition} {name : String}
    (h : p.stage r record invalidated ds states = .ok (states', errors))
    (hn : name ∉ ds.map (·.name)) :
    keyed? states' name = keyed? states name ∧ keyed? errors name = none := by
  induction ds generalizing states errors with
  | nil =>
    cases h
    exact ⟨rfl, rfl⟩
  | cons d ds ih =>
    rw [List.map_cons, List.mem_cons, not_or] at hn
    obtain ⟨outcome, errors', -, hrest, rfl⟩ := stage_cons h
    obtain ⟨hs, he⟩ := ih hrest hn.2
    refine ⟨by rw [hs, keyed?_statesAfter hn.1, keyed?_statesAt hn.1], ?_⟩
    cases outcome with
    | ok s => exact he
    | error e =>
      rw [report, keyed?, List.singleton_append,
        List.find?_cons_of_neg (by simpa using Ne.symm hn.1)]
      exact he

/-- The moment at which a variable is evaluated: it stands at its base state, those before
    it stand as they do in the end, and it stays as its evaluation leaves it. -/
theorem stage_moment {before later : List VariableDefinition}
    (h : p.stage r record invalidated (before ++ d :: later) states = .ok (states', errors))
    (hn : ((before ++ d :: later).map (·.name)).Nodup)
    (hb : base = if invalidated.contains d.name then d.resetState (stateOf states d)
      else stateOf states d) :
    ∃ moment context outcome, p.context moment record = .ok context ∧
      (p.take r d context base).run = .ok outcome ∧ stateOf moment d = base ∧
      (∀ other ∈ before, stateOf moment other = stateOf states' other) ∧
      stateOf states' d = (settled base outcome).1 ∧
      keyed? errors d.name = (settled base outcome).2 := by
  obtain ⟨mid, errors₁, errors₂, h₁, h₂, rfl⟩ := stage_append h
  obtain ⟨outcome, errors₃, ho, h₃, rfl⟩ := stage_cons h₂
  rw [List.map_append, List.map_cons] at hn
  have hd₁ : d.name ∉ before.map (·.name) := fun hm =>
    List.disjoint_of_nodup_append hn hm List.mem_cons_self
  have hd₃ : d.name ∉ later.map (·.name) := (List.nodup_cons.1 (List.nodup_append.1 hn).2.1).1
  -- Neither those before the variable nor those after it touch its state and its error.
  obtain ⟨hmid, herr⟩ := stage_frame h₁ hd₁
  obtain ⟨hlast, hnone⟩ := stage_frame h₃ hd₃
  have hbase : stateOf (statesAt invalidated d mid) d = base := by
    rw [stateOf_statesAt, stateOf_congr hmid, hb]
  obtain ⟨context, hc, ht⟩ := evaluate_eq_ok ho
  rw [hbase] at ht
  refine ⟨_, context, outcome, hc, ht, hbase, fun other hother => stateOf_congr ?_, ?_, ?_⟩
  · have hm : other.name ∈ before.map (·.name) := List.mem_map_of_mem hother
    have hne : other.name ≠ d.name := fun he => hd₁ (he ▸ hm)
    have hl : other.name ∉ later.map (·.name) := fun hl =>
      List.disjoint_of_nodup_append hn hm (List.mem_cons_of_mem _ hl)
    rw [(stage_frame h₃ hl).1, keyed?_statesAfter hne]
  · cases outcome with
    | ok s => rw [stateOf_congr hlast, statesAfter, stateOf_setKeyed_self, settled]
    | error e => rw [stateOf_congr hlast, statesAfter, hbase, settled]
  · rw [keyed?_append, herr, keyed?_append, hnone, Option.none_or, Option.or_none]
    cases outcome with
    | ok s => rfl
    | error e => simp [report, keyed?, settled]

/-- A break sends a variable back if and only if it is one of the names that breaks
    send back. -/
theorem contains_invalidated {changes : List Break} (hn : (p.definitions.map (·.name)).Nodup)
    (hd : d ∈ p.definitions) :
    (p.invalidated changes).contains d.name = changes.any (·.resets d) := by
  rw [Bool.eq_iff_iff, List.contains_iff_mem, Plan.invalidated, Break.variablesToResetAll,
    List.mem_filter, List.contains_iff_mem, List.mem_flatMap, List.any_eq_true]
  constructor
  · rintro ⟨-, b, hb, hm⟩
    obtain ⟨other, ho, he⟩ := List.mem_map.1 hm
    obtain ⟨ho, hr⟩ := List.mem_filter.1 ho
    exact ⟨b, hb, List.inj_on_of_nodup_map hn ho hd he ▸ hr⟩
  · rintro ⟨b, hb, hr⟩
    exact ⟨List.mem_map_of_mem hd, b, hb, List.mem_map_of_mem (List.mem_filter.2 ⟨hd, hr⟩)⟩

/-! ### The variables of an ordered plan -/

variable {cautious : Bool} {changes : List Break}

/-- In an ordered plan, all that a variable depends on stands as it does in the end when
    the variable is evaluated. -/
theorem IsOrdered.moment (hp : p.IsOrdered cautious) (hd : d ∈ p.definitions)
    (h : p.stage r record (p.invalidated changes) p.ordered states = .ok (states', errors)) :
    ∃ moment context outcome deps, p.context moment record = .ok context ∧
      (p.take r d context (baseState changes d (stateOf states d))).run = .ok outcome ∧
      stateOf moment d = baseState changes d (stateOf states d) ∧
      d.dependencies cautious (p.definitions.map (·.name)) = .ok deps ∧
      (∀ other ∈ p.definitions, .str other.name ∈ deps →
        stateOf moment other = stateOf states' other) ∧
      stateOf states' d = (settled (baseState changes d (stateOf states d)) outcome).1 ∧
      keyed? errors d.name = (settled (baseState changes d (stateOf states d)) outcome).2 := by
  obtain ⟨before, later, hsplit⟩ := List.append_of_mem (hp.perm.mem_iff.2 hd)
  have hn : (p.ordered.map (·.name)).Nodup := (hp.perm.map _).nodup_iff.2 hp.nodup
  obtain ⟨deps, hdeps, hafter⟩ := hp.after before d later hsplit
  rw [hsplit] at h hn
  obtain ⟨moment, context, outcome, hc, ht, hm, hbefore, hs, he⟩ := stage_moment h hn rfl
  rw [contains_invalidated hp.nodup hd] at ht hm hs he
  exact ⟨moment, context, outcome, deps, hc, ht, hm, hdeps,
    fun other ho hdep => hbefore other (hafter other ho hdep), hs, he⟩

/-- A variable takes contexts alike that show it and all that it depends on alike, unless
    it calls into the host and the plan is not cautious. -/
theorem take_of_dependencies {moment : States} {here : Value} {deps : List Value}
    (hn : (p.definitions.map (·.name)).Nodup) (hd : d ∈ p.definitions)
    (hh : d.callsHost = .ok false ∨ cautious = true)
    (hdeps : d.dependencies cautious (p.definitions.map (·.name)) = .ok deps)
    (hhere : p.context moment record = .ok here) (hcontext : p.context states record = .ok context)
    (hself : stateOf moment d = stateOf states d)
    (hs : ∀ other ∈ p.definitions, .str other.name ∈ deps →
      stateOf moment other = stateOf states other) :
    p.take r d here base = p.take r d context base := by
  by_cases hc : d.callsHost = .ok false
  · exact take_of_lookup hc fun name hr => lookup_context hhere hcontext fun other hm heq =>
      hs other hm (VariableDefinition.mem_dependencies_of_reads hdeps (heq ▸ hr))
  · -- What the host looks at is not known, but the contexts are one.
    obtain rfl := hh.resolve_left hc
    have hsame : p.context moment record = p.context states record := by
      refine context_congr fun other hm => ?_
      by_cases heq : other.name = d.name
      · rwa [List.inj_on_of_nodup_map hn hm hd heq]
      · exact hs other hm (VariableDefinition.mem_dependencies_of_callsHost hdeps hc
          (List.mem_map_of_mem hm) heq)
    rw [hhere, hcontext] at hsame
    rw [Except.ok.inj hsame]

/-- In an ordered plan, a variable that does not call into the host settles in the
    context that shows all others as they are in the end. Of a cautious plan this is so
    for all variables. -/
theorem IsOrdered.settles (hp : p.IsOrdered cautious) (hd : d ∈ p.definitions)
    (hh : d.callsHost = .ok false ∨ cautious = true)
    (h : p.stage r record (p.invalidated changes) p.ordered states = .ok (states', errors))
    (hshow : ∀ d ∈ p.definitions, ∃ v, shownValue states' d = .ok v) :
    ∃ context, p.context (setKeyed d.name (baseState changes d (stateOf states d)) states')
        record = .ok context ∧
      Settles r p d context (baseState changes d (stateOf states d)) (stateOf states' d)
        (keyed? errors d.name) := by
  obtain ⟨moment, here, outcome, deps, hhere, ht, hm, hdeps, hafter, hs, he⟩ := hp.moment hd h
  rw [hs, he]
  generalize baseState changes d (stateOf states d) = base at *
  have hself : stateOf moment d = stateOf (setKeyed d.name base states') d := by
    rw [hm, stateOf_setKeyed_self]
  have hother : ∀ other ∈ p.definitions, other ≠ d →
      stateOf (setKeyed d.name base states') other = stateOf states' other :=
    fun other ho hne => stateOf_setKeyed_of_ne fun heq =>
      hne (List.inj_on_of_nodup_map hp.nodup ho hd heq)
  obtain ⟨context, hcontext⟩ : ∃ context,
      p.context (setKeyed d.name base states') record = .ok context := by
    refine exists_context (fun other ho => ?_) record
    by_cases heq : other = d
    · rw [heq, shownValue, ← hself]
      exact exists_shownValue hhere hd
    · rw [shownValue, hother other ho heq]
      exact hshow other ho
  refine ⟨context, hcontext, settles_of_take ?_⟩
  rw [← ht]
  refine congrArg ExceptT.run (take_of_dependencies hp.nodup hd hh hdeps hhere hcontext hself
    fun other ho hdep => ?_).symm
  by_cases heq : other = d
  · rw [heq, hself]
  · rw [hother other ho heq]
    exact hafter other ho hdep

/-- The variables of a plan that was made settle in a record: each that does not call
    into the host, and all of them if the plan is cautious, comes to what its condition
    and its expression give in the record seen through the values that all others show
    in the end. -/
theorem process_settles {settings : Settings} {definitions : List VariableDefinition}
    {known : Option (List Value)} {v : Variables} {shown : List (String × Value)}
    (hm : (make settings definitions known).run = .ok (.ok p))
    (h : (Variables.mk p states).process r record changes = .ok (v, errors))
    (hv : v.values = .ok shown) (hd : d ∈ definitions)
    (hh : d.callsHost = .ok false ∨ settings.conservativeDependencies = true) :
    ∃ context, p.context (setKeyed d.name (baseState changes d (stateOf states d)) v.states)
        record = .ok context ∧
      Settles r p d context (baseState changes d (stateOf states d)) (stateOf v.states d)
        (keyed? errors d.name) := by
  obtain ⟨rfl, -, hp⟩ := isOrdered_of_make hm
  obtain ⟨⟨states', errors'⟩, hs, h⟩ := Host.bind_eq_ok.1 h
  cases h
  refine hp.settles hd hh hs fun other ho => ?_
  obtain ⟨e, he⟩ := Host.exists_of_mapM_eq_ok hv ho
  obtain ⟨value, hvalue, -⟩ := Host.bind_eq_ok.1 he
  exact ⟨_, Host.map_eq_ok.2 ⟨value, hvalue, rfl⟩⟩

/-- A total of the field `x`. -/
def total : VariableDefinition :=
  ⟨"total", .sum, .str "x", .page, none, .int 0, .nil⟩

/-- Twice the total. -/
def twice : VariableDefinition :=
  ⟨"twice", .custom, .call (.str "+") [.str "total", .str "total"], .report, none, .nil, .nil⟩

/-- The plan of both: twice the total stands first and is evaluated last. -/
def totals : Plan :=
  ⟨[twice, total], [("twice", [.str "total"]), ("total", [.str "x"])], ["total", "twice"], true⟩

/-- When the total goes back for a new page and takes 3, twice the total settles at 6. -/
theorem process_settles_twice :
    (make {} [twice, total] none).run = .ok (.ok totals) ∧
      (Variables.mk totals [("total", ⟨.int 5, 1, 1⟩)]).process .empty
        (.dict [(.str "x", .int 3)]) [.page] =
          .ok (⟨totals, [("total", ⟨.int 3, 1, 2⟩), ("twice", ⟨.int 6, 1, 1⟩)]⟩, []) ∧
      twice.callsHost = .ok false ∧
      ∃ context, totals.context [("total", ⟨.int 3, 1, 2⟩), ("twice", twice.initialState)]
          (.dict [(.str "x", .int 3)]) = .ok context ∧
        Settles .empty totals twice context twice.initialState ⟨.int 6, 1, 1⟩ none := by
  have hm : (make {} [twice, total] none).run = .ok (.ok totals) := by cbv
  have h : (Variables.mk totals [("total", ⟨.int 5, 1, 1⟩)]).process .empty
      (.dict [(.str "x", .int 3)]) [.page] =
        .ok (⟨totals, [("total", ⟨.int 3, 1, 2⟩), ("twice", ⟨.int 6, 1, 1⟩)]⟩, []) := by cbv
  have hv : (Variables.mk totals [("total", ⟨.int 3, 1, 2⟩), ("twice", ⟨.int 6, 1, 1⟩)]).values =
      .ok [("twice", .int 6), ("total", .int 3)] := by cbv
  have hh : twice.callsHost = .ok false := by cbv
  have hb : baseState [.page] twice (stateOf [("total", ⟨.int 5, 1, 1⟩)] twice) =
      twice.initialState := by cbv
  have hs : stateOf [("total", ⟨.int 3, 1, 2⟩), ("twice", ⟨.int 6, 1, 1⟩)] twice =
      ⟨.int 6, 1, 1⟩ := by cbv
  have hstates : setKeyed twice.name twice.initialState
      [("total", ⟨.int 3, 1, 2⟩), ("twice", ⟨.int 6, 1, 1⟩)] =
        [("total", ⟨.int 3, 1, 2⟩), ("twice", twice.initialState)] := by cbv
  have hsettles := process_settles hm h hv List.mem_cons_self (.inl hh)
  rw [hb, hs, hstates] at hsettles
  exact ⟨hm, h, hh, hsettles⟩

end Plan

end ControlBreak
