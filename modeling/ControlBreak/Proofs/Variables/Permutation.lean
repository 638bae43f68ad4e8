import ControlBreak.Proofs.Execution.Segment
import ControlBreak.Proofs.Expression.Summary

/-!
# The order of declarations

Variables may be declared in any order. Another order changes the order of the graph, the ties
between independent variables, and with it the order of evaluation and what the variables show
in the meantime. It does not change a value, if no variable calls into the host: each is
evaluated when all that it depends on stands as it does in the end, and it looks at nothing
else.

* `make_perm`: a plan can be made for both orders or for none, and is refused for both or for
  none;
* `IsOrdered.stage_perm`: one record, by induction on the order of evaluation of one of them;
* `make_alike`: both plans, and after each record all states and all errors.
-/

namespace ControlBreak

/-! ### Keyed values in another order -/

section Keyed

variable {κ α : Type} [DecidableEq κ] {pairs pairs' : List (κ × α)}

theorem keyed?_perm (h : pairs.Perm pairs') (hn : (pairs.map (·.1)).Nodup) (key : κ) :
    keyed? pairs key = keyed? pairs' key := by
  refine Option.ext fun a => ?_
  rw [keyed?_eq_some_iff hn, keyed?_eq_some_iff ((h.map _).nodup_iff.1 hn), h.mem_iff]

end Keyed

/-! ### Operations that end alike -/

/-- Whether two operations end alike: with results that are related, with errors, or with
    faults. -/
inductive EndAlike {ε α β : Type} (R : α → β → Prop) : Host (Except ε α) → Host (Except ε β) → Prop
  | result {a : α} {b : β} : R a b → EndAlike R (.ok (.ok a)) (.ok (.ok b))
  | error (e e' : ε) : EndAlike R (.ok (.error e)) (.ok (.error e'))
  | fault (f f' : Fault) : EndAlike R (.error f) (.error f')

namespace EndAlike

variable {ε α β α' β' : Type} {R : α → β → Prop} {S : α' → β' → Prop}

/-- Sequences end alike if their first parts do, and their second parts for related results. -/
theorem bind {x : ExceptT ε Host α} {y : ExceptT ε Host β} {f : α → ExceptT ε Host α'}
    {g : β → ExceptT ε Host β'} (h : EndAlike R x.run y.run)
    (hfg : ∀ a b, R a b → EndAlike S (f a).run (g b).run) :
    EndAlike S (x >>= f).run (y >>= g).run := by
  rw [ExceptT.run_bind, ExceptT.run_bind]
  generalize x.run = p, y.run = q at h
  cases h with
  | result h => exact hfg _ _ h
  | error e e' => exact .error e e'
  | fault f f' => exact .fault f f'

theorem lift {x : Host α} {y : Host β} (h : ∀ a, x = .ok a → ∃ b, y = .ok b ∧ R a b)
    (h' : ∀ b, y = .ok b → ∃ a, x = .ok a) :
    EndAlike R (ExceptT.lift x : ExceptT ε Host α).run (ExceptT.lift y : ExceptT ε Host β).run := by
  cases x with
  | ok a =>
    obtain ⟨b, rfl, hab⟩ := h a rfl
    exact .result hab
  | error f =>
    cases y with
    | ok b => cases (h' b rfl).choose_spec
    | error f' => exact .fault f f'

/-- What ends with a result on both sides has related results, if all that it can end with
    are. -/
theorem imp {x : Host (Except ε α)} {y : Host (Except ε β)} (h : EndAlike R x y)
    {S : α → β → Prop} (hs : ∀ a b, x = .ok (.ok a) → y = .ok (.ok b) → S a b) :
    EndAlike S x y := by
  cases h with
  | result => exact .result (hs _ _ rfl rfl)
  | error e e' => exact .error e e'
  | fault f f' => exact .fault f f'

end EndAlike

theorem Host.mapM_perm {ε α β : Type} {f : α → Except ε β} {as as' : List α} {bs : List β}
    (h : as.Perm as') (hb : as.mapM f = .ok bs) : ∃ bs', as'.mapM f = .ok bs' ∧ bs.Perm bs' := by
  obtain ⟨bs', hb', hp⟩ := List.perm_comp_forall₂ h.symm (mapM_eq_ok.1 hb)
  exact ⟨bs', mapM_eq_ok.2 hb', hp.symm⟩

/-! ### The graph in another order -/

namespace Graph

/-- Only texts are left of names if and only if all names are texts. -/
theorem forall_firsts_iff {names seen : List Value} :
    (∀ n ∈ names.foldl (fun seen n => if seen.contains n then seen else seen ++ [n]) seen,
      ∃ s, n = .str s) ↔ (∀ n ∈ seen, ∃ s, n = .str s) ∧ ∀ n ∈ names, ∃ s, n = .str s := by
  induction names generalizing seen with
  | nil => simp
  | cons n names ih =>
    rw [List.foldl_cons, ih, List.forall_mem_cons]
    split
    · rename_i hc
      -- A name that is left out is one of those that were seen, so it is a text if they are.
      have hn : (∀ m ∈ seen, ∃ s, m = .str s) → ∃ s, n = .str s := fun hs => by
        rw [List.contains_eq_any_beq] at hc
        obtain ⟨m, hm, he⟩ := List.any_eq_true.1 hc
        obtain ⟨s, rfl⟩ := hs m hm
        exact ⟨s, beq_str.1 he⟩
      tauto
    · simp only [List.forall_mem_append, List.forall_mem_singleton, and_assoc]

theorem mem_foldl_firsts_of_mem {names seen : List Value} {n : Value} (h : n ∈ seen) :
    n ∈ names.foldl (fun seen n => if seen.contains n then seen else seen ++ [n]) seen := by
  induction names generalizing seen with
  | nil => exact h
  | cons m names ih =>
    rw [List.foldl_cons]
    refine ih ?_
    split
    exacts [h, List.mem_append_left _ h]

theorem firsts_eq_nil_iff {names : List Value} : firsts names = [] ↔ names = [] := by
  cases names with
  | nil => exact iff_of_true rfl rfl
  | cons n names =>
    have hn : n ∈ names.foldl (fun seen n => if seen.contains n then seen else seen ++ [n]) [n] :=
      mem_foldl_firsts_of_mem List.mem_cons_self
    exact iff_of_false (List.ne_nil_of_mem hn) (List.cons_ne_nil n names)

variable {entries entries' : List (String × List Value)} {known known' : List Value}
  {names names' : List String}

theorem isComparable_perm (h : entries.Perm entries') :
    (ofDependencies entries).isComparable = (ofDependencies entries').isComparable :=
  (h.map _).all_eq

/-- What is missing depends on the order of the graph, but not whether something is, nor
    whether all of it are texts. -/
theorem missing_perm (h : entries.Perm entries') (hk : ∀ n, known.contains n = known'.contains n) :
    ((ofDependencies entries).missing known = [] ↔
      (ofDependencies entries').missing known' = []) ∧
    ((∀ n ∈ (ofDependencies entries).missing known, ∃ s, n = .str s) ↔
      ∀ n ∈ (ofDependencies entries').missing known', ∃ s, n = .str s) := by
  have hp : ((ofDependencies entries).entries.flatMap (·.2)).Perm
      ((ofDependencies entries').entries.flatMap (·.2)) := (h.map _).flatMap_right _
  have hp := hp.filter fun n => !known.contains n
  rw [missing, missing, firsts_eq_nil_iff, firsts_eq_nil_iff, firsts, firsts, forall_firsts_iff,
    forall_firsts_iff]
  simp only [← hk, hp.mem_iff, ← List.perm_nil, hp.congr_left, and_self]

/-- The variables depend on each other as they do in another order. -/
theorem edge_perm (h : entries.Perm entries') (hn : (entries.map (·.1)).Nodup)
    (hnames : names.Perm names') (hd : names.Nodup) :
    ((ofDependencies entries).ofVariables names).Edge =
      ((ofDependencies entries').ofVariables names').Edge := by
  funext n s
  rw [edge_ofVariables hd, edge_ofVariables (hnames.nodup_iff.1 hd), keyed?_perm h hn,
    hnames.mem_iff, hnames.mem_iff]

end Graph

namespace VariableDefinition

variable {d : VariableDefinition}

/-- Where all references of a variable can be told, it can be told whether it calls into the
    host. -/
theorem exists_callsHost {found : List Value} (h : d.references = .ok found) :
    ∃ b, d.callsHost = .ok b := by
  obtain ⟨names, hn, h⟩ := Host.bind_eq_ok.1 h
  obtain ⟨b, hb⟩ := Value.exists_callsHost_of_references _ hn
  rw [callsHost, hb]
  cases b with
  | true => exact ⟨true, rfl⟩
  | false =>
    change ∃ b, d.condition.callsHost = .ok b
    split at h
    · obtain ⟨others, ho, -⟩ := Host.bind_eq_ok.1 h
      exact Value.exists_callsHost_of_references _ ho
    · rename_i hc
      rw [isConditional] at hc
      split at hc
      · rename_i hnil
        rw [hnil]
        exact ⟨false, by rw [Value.callsHost]; rfl⟩
      · exact (hc rfl).elim

/-- Where it can be told that a variable does not call into the host, it depends on its
    references, in cautious plans as well. -/
theorem dependencies_eq_references {cautious : Bool} (h : d.callsHost ≠ .ok true)
    (names : List String) : d.dependencies cautious names = d.references := by
  rw [dependencies]
  cases hr : d.references with
  | error f => rfl
  | ok found =>
    obtain ⟨b, hb⟩ := exists_callsHost hr
    obtain rfl : b = false := by simpa [hb] using h
    cases cautious <;> simp only [hb] <;> rfl

/-- All names that a variable refers to are texts, and it does not call into the host. -/
structure IsPlain (d : VariableDefinition) : Prop where
  expression : d.expression.HasTextNames
  condition : d.condition.HasTextNames
  callsHost : d.callsHost = .ok false

theorem IsPlain.exists_references (h : d.IsPlain) :
    ∃ names, d.references = .ok names ∧ ∀ name ∈ names, name.IsText := by
  obtain ⟨he, hc⟩ := callsHost_eq_false.1 h.callsHost
  obtain ⟨names, hnames, ht⟩ := Value.exists_references d.expression h.expression he
  rw [references, hnames]
  by_cases hi : d.isConditional = true
  · obtain ⟨others, hothers, ho⟩ := Value.exists_references d.condition h.condition hc
    simp only [bind, Except.bind, if_pos hi, hothers]
    exact Value.exists_distinctKeys (List.forall_mem_append.2 ⟨ht, ho⟩)
  · simp only [bind, Except.bind, if_neg hi]
    exact ⟨names, rfl, ht⟩

end VariableDefinition

namespace Plan

variable {entries entries' : List (String × List Value)} {names names' : List String}

theorem texts?_isSome_iff {values : List Value} :
    (texts? values).isSome = true ↔ ∀ v ∈ values, ∃ s, v = .str s := by
  induction values with
  | nil => simp [texts?]
  | cons v values ih =>
    cases v with
    | str s =>
      have hcons : texts? (.str s :: values) = (texts? values).map (s :: ·) := by
        rw [texts?, List.mapM_cons, ← texts?]
        cases texts? values <;> rfl
      rw [hcons, Option.isSome_map, ih]
      simp
    | _ => simp [texts?]

/-- The names that are not known are looked for in any order. -/
theorem checkKnown_perm (h : entries.Perm entries') (hnames : names.Perm names')
    (known : Option (List Value)) :
    EndAlike (fun _ _ => True) (checkKnown (.ofDependencies entries) names known).run
      (checkKnown (.ofDependencies entries') names' known).run := by
  cases known with
  | none => exact .result trivial
  | some known =>
    rw [checkKnown, checkKnown]
    refine EndAlike.bind (R := Eq) (.lift (fun a ha => ⟨a, ha, rfl⟩) fun b hb => ⟨b, hb⟩) ?_
    rintro known _ rfl
    have hk : ∀ n, (known ++ names.map Value.str).contains n =
        (known ++ names'.map Value.str).contains n := fun n => by
      rw [List.contains_eq_any_beq, List.contains_eq_any_beq, List.any_append, List.any_append,
        (hnames.map _).any_eq]
    obtain ⟨hnil, htexts⟩ := Graph.missing_perm h hk
    rw [← texts?_isSome_iff, ← texts?_isSome_iff] at htexts
    generalize (Graph.ofDependencies entries).missing _ = missing at hnil htexts ⊢
    generalize (Graph.ofDependencies entries').missing _ = missing' at hnil htexts ⊢
    by_cases hm : missing = []
    · rw [hm, hnil.1 hm]
      exact .result trivial
    · obtain ⟨n, rest, rfl⟩ := List.exists_cons_of_ne_nil hm
      obtain ⟨n', rest', rfl⟩ := List.exists_cons_of_ne_nil (mt hnil.2 hm)
      cases ht : texts? (n :: rest) <;> cases ht' : texts? (n' :: rest')
      · simp only [ht, ht']
        exact .fault _ _
      · simp [ht, ht'] at htexts
      · simp [ht, ht'] at htexts
      · simp only [ht, ht']
        exact .error _ _

/-- A graph has an order if and only if it has one when it is made in another order. -/
theorem order_perm (h : entries.Perm entries') (hn : (entries.map (·.1)).Nodup)
    (hnames : names.Perm names') (hd : names.Nodup) :
    EndAlike (fun _ _ => True)
      (.ok (((Graph.ofDependencies entries).ofVariables names).order.mapError .circular))
      (.ok (((Graph.ofDependencies entries').ofVariables names').order.mapError
        DependencyError.circular)) := by
  have hacyclic : ((Graph.ofDependencies entries).ofVariables names).IsAcyclic ↔
      ((Graph.ofDependencies entries').ofVariables names').IsAcyclic := by
    rw [Graph.IsAcyclic, Graph.IsAcyclic, Graph.edge_perm h hn hnames hd]
  rw [← Graph.findCycle_eq_none_iff, ← Graph.findCycle_eq_none_iff] at hacyclic
  rw [Graph.order, Graph.order]
  cases hc : ((Graph.ofDependencies entries).ofVariables names).findCycle <;>
    cases hc' : ((Graph.ofDependencies entries').ofVariables names').findCycle
  · exact .result trivial
  · simp [hc, hc'] at hacyclic
  · simp [hc, hc'] at hacyclic
  · exact .error _ _

variable {definitions definitions' : List VariableDefinition}

theorem duplicate?_eq_none {seen : List String}
    (h : (seen ++ definitions.map (·.name)).Nodup) : duplicate? seen definitions = none := by
  induction definitions generalizing seen with
  | nil => rfl
  | cons d rest ih =>
    rw [List.map_cons] at h
    have hd : d.name ∉ seen := fun hm => List.disjoint_of_nodup_append h hm List.mem_cons_self
    rw [duplicate?, if_neg (by simpa using hd)]
    exact ih (List.nodup_middle.1 h)

/-- What a variable depends on, under its name. -/
def entryOf (d : VariableDefinition) : Host (String × List Value) := do
  return (d.name, ← d.references)

/-- The graph of variables that do not call into the host: of each its references. -/
theorem graph_eq_mapM {cautious : Bool} (hn : (definitions.map (·.name)).Nodup)
    (hh : ∀ d ∈ definitions, d.callsHost ≠ .ok true) :
    VariableDefinition.graph definitions cautious = definitions.mapM entryOf := by
  rw [VariableDefinition.graph_eq_mapM hn]
  refine Host.mapM_congr fun d hd => ?_
  rw [VariableDefinition.entry, VariableDefinition.dependencies_eq_references (hh d hd)]
  rfl

theorem map_fst_of_mapM {entries : List (String × List Value)}
    (h : definitions.mapM entryOf = .ok entries) :
    entries.map (·.1) = definitions.map (·.name) := by
  refine VariableDefinition.map_fst_of_mapM (fun d e he => ?_) h
  obtain ⟨found, -, he⟩ := Host.bind_eq_ok.1 he
  cases he
  rfl

/-- Variables that do not call into the host can be planned in any order or in none. -/
theorem make_perm (settings : Settings) (known : Option (List Value))
    (h : definitions.Perm definitions') (hn : (definitions.map (·.name)).Nodup)
    (hh : ∀ d ∈ definitions, d.callsHost ≠ .ok true) :
    EndAlike (fun _ _ => True) (make settings definitions known).run
      (make settings definitions' known).run := by
  have hnames := h.map (·.name)
  have hn' := hnames.nodup_iff.1 hn
  rw [make, make, duplicate?_eq_none (by simpa using hn), duplicate?_eq_none (by simpa using hn'),
    graph_eq_mapM hn hh, graph_eq_mapM hn' fun d hd => hh d (h.mem_iff.2 hd)]
  -- The references of a variable are told from it alone, so the entries are merely reordered.
  refine EndAlike.bind (R := fun entries entries' =>
    entries.Perm entries' ∧ (entries.map (·.1)).Nodup) ?_ ?_
  · refine .lift (fun entries he => ?_) fun entries' he => ?_
    · obtain ⟨entries', he', hp⟩ := Host.mapM_perm h he
      exact ⟨entries', he', hp, map_fst_of_mapM he ▸ hn⟩
    · obtain ⟨entries, he, -⟩ := Host.mapM_perm h.symm he
      exact ⟨entries, he⟩
  · rintro entries entries' ⟨he, hen⟩
    -- The checks that follow ask only which entries there are, and which known fields.
    dsimp only
    rw [Graph.isComparable_perm he]
    split
    · exact .fault _ _
    · refine .bind (checkKnown_perm he hnames known) fun _ _ _ => ?_
      exact .bind (order_perm he hen hnames hn) fun _ _ _ => .result trivial

/-- If all names are texts, a name that is not known is reported. -/
theorem checkKnown_ne_fault {known : Option (List Value)} {f : Fault}
    (he : ∀ e ∈ entries, ∀ n ∈ e.2, n.IsText) (hk : ∀ fields ∈ known, ∀ k ∈ fields, k.IsText) :
    (checkKnown (.ofDependencies entries) names known).run ≠ .error f := by
  intro h
  cases known with
  | none => cases h
  | some known =>
    obtain ⟨known', hknown, -⟩ := Value.exists_distinctKeys (hk known rfl)
    rw [checkKnown, hknown] at h
    obtain h | ⟨known, -, h⟩ := Evaluation.bind_eq_fault.1 h
    · cases h
    have hmissing : ∀ n ∈ (Graph.ofDependencies entries).missing (known ++ names.map .str),
        ∃ s, n = .str s := by
      rw [Graph.missing, firsts, Graph.forall_firsts_iff]
      refine ⟨by simp, fun n hn => ?_⟩
      obtain ⟨e, hm, hn⟩ := List.mem_flatMap.1 (List.mem_filter.1 hn).1
      obtain ⟨entry, hentry, rfl⟩ := List.mem_map.1 hm
      exact he entry hentry n hn
    rw [← texts?_isSome_iff] at hmissing
    split at h
    · cases h
    · split at h
      · cases h
      · rename_i hnone
        rw [hnone] at hmissing
        cases hmissing

/-- Plain variables are planned, or refused for their dependencies, if all known fields are
    texts. -/
theorem make_ne_fault {settings : Settings} {known : Option (List Value)} {f : Fault}
    (hn : (definitions.map (·.name)).Nodup) (hd : ∀ d ∈ definitions, d.IsPlain)
    (hk : ∀ fields ∈ known, ∀ k ∈ fields, k.IsText) :
    (make settings definitions known).run ≠ .error f := by
  intro h
  have hh : ∀ d ∈ definitions, d.callsHost ≠ .ok true := fun d hm he => by
    cases he.symm.trans (hd d hm).callsHost
  have hentries : ∀ d ∈ definitions, ∃ e, entryOf d = .ok e := fun d hm => by
    obtain ⟨found, hfound, -⟩ := (hd d hm).exists_references
    exact ⟨(d.name, found), Host.bind_eq_ok.2 ⟨found, hfound, rfl⟩⟩
  obtain ⟨entries, he⟩ := Host.exists_mapM_eq_ok hentries
  have htexts : ∀ e ∈ entries, ∀ n ∈ e.2, n.IsText := fun e hm => by
    obtain ⟨d, hmd, hentry⟩ := Host.exists_of_mem_mapM he hm
    obtain ⟨found, hfound, ht⟩ := (hd d hmd).exists_references
    obtain ⟨_, hfound', hentry⟩ := Host.bind_eq_ok.1 hentry
    cases hfound.symm.trans hfound'
    cases hentry
    exact ht
  have hcomparable : (Graph.ofDependencies entries).isComparable = true := by
    refine List.all_eq_true.2 fun e hm => List.all_eq_true.2 fun n hn => ?_
    obtain ⟨entry, hentry, rfl⟩ := List.mem_map.1 hm
    obtain ⟨s, rfl⟩ := htexts entry hentry n hn
    rfl
  rw [make, duplicate?_eq_none (by simpa using hn), graph_eq_mapM hn hh, he] at h
  obtain h | ⟨_, hentries, h⟩ := Evaluation.bind_eq_fault.1 h
  · cases h
  cases hentries
  dsimp only at h
  rw [hcomparable] at h
  obtain h | ⟨_, -, h⟩ := Evaluation.bind_eq_fault.1 h
  · exact checkKnown_ne_fault htexts hk h
  · obtain h | ⟨_, -, h⟩ := Evaluation.bind_eq_fault.1 h <;> cases h

/-! ### One record in another order -/

variable {p p' : Plan} {cautious : Bool} {r : Registry} {d : VariableDefinition}
  {record context : Value} {s : VariableState}

theorem definition?_perm (h : p.definitions.Perm p'.definitions)
    (hn : (p.definitions.map (·.name)).Nodup) (name : String) :
    p.definition? name = p'.definition? name := by
  refine Option.ext fun d => ?_
  constructor
  · intro hd
    obtain ⟨hm, rfl⟩ := definition?_some hd
    exact definition?_eq_some ((h.map _).nodup_iff.1 hn) (h.mem_iff.1 hm)
  · intro hd
    obtain ⟨hm, rfl⟩ := definition?_some hd
    exact definition?_eq_some hn (h.mem_iff.2 hm)

/-- Of a plan, a variable looks only at whether missing fields count as nothing. -/
theorem take_eq_of_missingAsNil (h : p.missingAsNil = p'.missingAsNil) :
    p.take r d context s = p'.take r d context s := by
  have hv : ∀ e, p.valueOf r e context = p'.valueOf r e context := fun e => by
    rw [valueOf, valueOf, h]
  rw [take, take, admits, admits, hv, hv]

/-- Plans of the same variables in another order. -/
structure IsReordering (p p' : Plan) (cautious : Bool) : Prop where
  left : p.IsOrdered cautious
  right : p'.IsOrdered cautious
  perm : p.definitions.Perm p'.definitions
  missingAsNil : p.missingAsNil = p'.missingAsNil
  callsHost : ∀ d ∈ p.definitions, d.callsHost = .ok false

variable {states states' end₁ end₂ : States} {changes : List Break}
  {errors errors' : List (String × EvalError)}

/-- From the same states, a record leads to the same states and the same errors. -/
theorem IsReordering.stage (h : IsReordering p p' cautious)
    (hs : ∀ d ∈ p.definitions, stateOf states d = stateOf states' d)
    (h₁ : p.stage r record (p.invalidated changes) p.ordered states = .ok (end₁, errors))
    (h₂ : p'.stage r record (p'.invalidated changes) p'.ordered states' = .ok (end₂, errors')) :
    ∀ d ∈ p.definitions, stateOf end₁ d = stateOf end₂ d ∧
      keyed? errors d.name = keyed? errors' d.name := by
  suffices hbefore : ∀ before later, p.ordered = before ++ later → ∀ d ∈ before,
      stateOf end₁ d = stateOf end₂ d ∧ keyed? errors d.name = keyed? errors' d.name from
    fun d hd => hbefore p.ordered [] (by simp) d (h.left.perm.mem_iff.2 hd)
  -- Along the order of one plan, all that a variable depends on is settled before it.
  intro before
  induction before using List.reverseRecOn with
  | nil => exact fun _ _ => List.forall_mem_nil _
  | append_singleton before d ih =>
    intro later hsplit
    rw [List.append_assoc, List.singleton_append] at hsplit
    have hbefore := ih (d :: later) hsplit
    refine List.forall_mem_append.2 ⟨hbefore, List.forall_mem_singleton.2 ?_⟩
    have hd : d ∈ p.definitions := h.left.perm.mem_iff.1 (by simp [hsplit])
    obtain ⟨deps, hdeps, hafter⟩ := h.left.after before d later hsplit
    obtain ⟨moment, here, outcome, deps₁, hc, ht, -, hdeps₁, hm, hend, herr⟩ := h.left.moment hd h₁
    obtain ⟨moment', here', outcome', deps₂, hc', ht', -, hdeps₂, hm', hend', herr'⟩ :=
      h.right.moment (h.perm.mem_iff.1 hd) h₂
    cases hdeps.symm.trans hdeps₁
    -- The contexts differ in what is not settled yet, but the variable does not look there.
    have htake : p.take r d here (baseState changes d (stateOf states d)) =
        p'.take r d here' (baseState changes d (stateOf states' d)) := by
      rw [take_eq_of_missingAsNil h.missingAsNil, hs d hd]
      refine take_of_lookup (h.callsHost d hd) fun name hr => lookup_context_of_definition? hc hc'
        (definition?_perm h.perm h.left.nodup) fun other ho heq => ?_
      have hdep := VariableDefinition.mem_dependencies_of_reads hdeps (heq ▸ hr)
      have hdep' := VariableDefinition.mem_dependencies_of_reads hdeps₂ (heq ▸ hr)
      rw [hm other ho hdep, hm' other (h.perm.mem_iff.1 ho) hdep',
        (hbefore other (hafter other ho hdep)).1]
    rw [htake, ht'] at ht
    cases ht
    rw [hend, hend', herr, herr', hs d hd]
    exact ⟨rfl, rfl⟩

end Plan

/-! ### Runs in another order -/

namespace Variables

/-- A call of the variables of a report: a record, with what it breaks, or a break alone. -/
inductive Call
  | process (record : Value) (changes : List Break)
  | handle (b : Option Break)

/-- The variables after a call, and the errors that it reports. -/
def call (r : Registry) (v : Variables) : Call → Host (Variables × List (String × EvalError))
  | .process record changes => v.process r record changes
  | .handle b => .ok (v.handle b, [])

/-- The variables after each of several calls, and the errors that it reports. -/
def trace (r : Registry) (v : Variables) :
    List Call → Host (List (Variables × List (String × EvalError)))
  | [] => .ok []
  | c :: rest => do
    let after ← v.call r c
    return after :: (← trace r after.1 rest)

/-- Whether a call has left two lots of variables in the same states, with the same error for
    each name. -/
def SameAfter (definitions : List VariableDefinition)
    (after after' : Variables × List (String × EvalError)) : Prop :=
  (∀ d ∈ definitions, Plan.stateOf after.1.states d = Plan.stateOf after'.1.states d) ∧
    ∀ name, keyed? after.2 name = keyed? after'.2 name

variable {r : Registry} {v v' : Variables} {cautious : Bool}

/-- From the same states, a call leads to the same states and the same errors. -/
theorem SameAfter.of_call {c : Call} {after after' : Variables × List (String × EvalError)}
    (h : v.plan.IsReordering v'.plan cautious)
    (hs : ∀ d ∈ v.plan.definitions, Plan.stateOf v.states d = Plan.stateOf v'.states d)
    (hc : v.call r c = .ok after) (hc' : v'.call r c = .ok after') :
    after.1.plan = v.plan ∧ after'.1.plan = v'.plan ∧
      SameAfter v.plan.definitions after after' := by
  cases c with
  | process record changes =>
    obtain ⟨⟨end₁, errors⟩, h₁, hc⟩ := Host.bind_eq_ok.1 hc
    obtain ⟨⟨end₂, errors'⟩, h₂, hc'⟩ := Host.bind_eq_ok.1 hc'
    cases hc
    cases hc'
    have hsame := h.stage hs h₁ h₂
    refine ⟨rfl, rfl, fun d hd => (hsame d hd).1, fun name => ?_⟩
    by_cases hname : ∃ d ∈ v.plan.definitions, d.name = name
    · obtain ⟨d, hd, rfl⟩ := hname
      exact (hsame d hd).2
    · -- Nothing is reported of a name of no variable.
      have hleft : name ∉ v.plan.ordered.map (·.name) := by
        simpa [h.left.perm.mem_iff] using hname
      have hright : name ∉ v'.plan.ordered.map (·.name) := by
        simpa [h.right.perm.mem_iff, ← h.perm.mem_iff] using hname
      rw [(Plan.stage_frame h₁ hleft).2, (Plan.stage_frame h₂ hright).2]
  | handle b =>
    cases hc
    cases hc'
    refine ⟨rfl, rfl, fun d hd => ?_, fun _ => rfl⟩
    cases b with
    | none => exact hs d hd
    | some b =>
      rw [Plan.handle_stateOf h.left.nodup hd, Plan.handle_stateOf h.right.nodup
        (h.perm.mem_iff.1 hd), hs d hd]

theorem SameAfter.of_trace {calls : List Call}
    {afters afters' : List (Variables × List (String × EvalError))}
    (h : v.plan.IsReordering v'.plan cautious)
    (hs : ∀ d ∈ v.plan.definitions, Plan.stateOf v.states d = Plan.stateOf v'.states d)
    (ht : v.trace r calls = .ok afters) (ht' : v'.trace r calls = .ok afters') :
    List.Forall₂ (SameAfter v.plan.definitions) afters afters' := by
  induction calls generalizing v v' afters afters' with
  | nil =>
    cases ht
    cases ht'
    exact .nil
  | cons c rest ih =>
    obtain ⟨after, hc, ht⟩ := Host.bind_eq_ok.1 ht
    obtain ⟨more, hrest, ht⟩ := Host.bind_eq_ok.1 ht
    obtain ⟨after', hc', ht'⟩ := Host.bind_eq_ok.1 ht'
    obtain ⟨more', hrest', ht'⟩ := Host.bind_eq_ok.1 ht'
    cases ht
    cases ht'
    obtain ⟨hplan, hplan', hsame⟩ := SameAfter.of_call h hs hc hc'
    have hmore := ih (hplan.symm ▸ hplan'.symm ▸ h) (hplan.symm ▸ hsame.1) hrest hrest'
    exact .cons hsame (hplan ▸ hmore)

end Variables

namespace Plan

variable {definitions definitions' : List VariableDefinition} {p p' : Plan}

theorem isReordering_of_make {settings : Settings} {known : Option (List Value)}
    (h : definitions.Perm definitions') (hh : ∀ d ∈ definitions, d.callsHost ≠ .ok true)
    (hm : (make settings definitions known).run = .ok (.ok p))
    (hm' : (make settings definitions' known).run = .ok (.ok p')) :
    p.IsReordering p' settings.conservativeDependencies := by
  obtain ⟨rfl, hnil, hp⟩ := isOrdered_of_make hm
  obtain ⟨rfl, hnil', hp'⟩ := isOrdered_of_make hm'
  refine ⟨hp, hp', h, hnil.trans hnil'.symm, fun d hd => ?_⟩
  -- What a variable refers to could be told, and so whether it calls into the host.
  obtain ⟨before, later, hsplit⟩ := List.append_of_mem (hp.perm.mem_iff.2 hd)
  obtain ⟨deps, hdeps, -⟩ := hp.after before d later hsplit
  obtain ⟨found, -, hfound, -⟩ := VariableDefinition.dependencies_eq_ok hdeps
  obtain ⟨b, hb⟩ := VariableDefinition.exists_callsHost hfound
  obtain rfl : b = false := by simpa [hb] using hh d hd
  exact hb

/-- Variables that do not call into the host can be planned, are refused for their
    dependencies, or cannot be handled, whatever their order; both plans then hold the same
    states and report the same errors after each call. All variables can be handled whose
    names are texts, if the known fields are. -/
theorem make_alike (settings : Settings) (known : Option (List Value))
    (h : definitions.Perm definitions') (hn : (definitions.map (·.name)).Nodup)
    (hh : ∀ d ∈ definitions, d.callsHost ≠ .ok true) :
    EndAlike (fun p p' => ∀ r calls afters afters',
        (Variables.ofPlan p).trace r calls = .ok afters →
        (Variables.ofPlan p').trace r calls = .ok afters' →
        List.Forall₂ (Variables.SameAfter definitions) afters afters')
      (make settings definitions known).run (make settings definitions' known).run ∧
    ((∀ d ∈ definitions, d.IsPlain) → (∀ fields ∈ known, ∀ field ∈ fields, field.IsText) →
      ∀ f, (make settings definitions known).run ≠ .error f) := by
  refine ⟨(make_perm settings known h hn hh).imp fun p p' hm hm' r calls afters afters' ht ht' => ?_,
    fun hd hk f => make_ne_fault hn hd hk⟩
  have hre := isReordering_of_make h hh hm hm'
  obtain ⟨rfl, -, -⟩ := isOrdered_of_make hm
  refine Variables.SameAfter.of_trace hre (fun d hd => ?_) ht ht'
  exact (stateOf_initialStates hre.left.nodup hd).trans
    (stateOf_initialStates hre.right.nodup (hre.perm.mem_iff.1 hd)).symm

/-- The plan of the total and of twice the total, which stands last. -/
def totalsSwapped : Plan :=
  ⟨[total, twice], [("total", [.str "x"]), ("twice", [.str "total"])], ["total", "twice"], true⟩

/-- Twice the total may stand before or after the total. -/
theorem make_alike_twice :
    (make {} [twice, total] none).run = .ok (.ok totals) ∧
    (make {} [total, twice] none).run = .ok (.ok totalsSwapped) ∧
    ∀ r calls afters afters', (Variables.ofPlan totals).trace r calls = .ok afters →
      (Variables.ofPlan totalsSwapped).trace r calls = .ok afters' →
      List.Forall₂ (Variables.SameAfter [twice, total]) afters afters' := by
  have hm : (make {} [twice, total] none).run = .ok (.ok totals) := by cbv
  have hm' : (make {} [total, twice] none).run = .ok (.ok totalsSwapped) := by cbv
  have htwice : twice.callsHost = .ok false := by cbv
  have htotal : total.callsHost = .ok false := by cbv
  have hp : [twice, total].Perm [total, twice] := .swap total twice []
  obtain ⟨h, -⟩ := make_alike {} none hp (by decide) fun d hd => by
    obtain rfl | rfl : d = twice ∨ d = total := by simpa using hd
    · simp [htwice]
    · simp [htotal]
  rw [hm, hm'] at h
  cases h with
  | result h => exact ⟨hm, hm', h⟩

/-- A total of a field whose name is a list, which can be no key. -/
def listNamed : VariableDefinition :=
  ⟨"a", .sum, .fieldRef (.list [.int 1]), .report, none, .int 0, .nil⟩

/-- A total of a field whose name is no key is neither planned nor refused for its
    dependencies, in any order. -/
theorem make_listNamed :
    [listNamed, total].Perm [total, listNamed] ∧
    ([listNamed, total].map (·.name)).Nodup ∧
    listNamed.callsHost = .ok false ∧ total.callsHost = .ok false ∧
    ¬((∃ p p', (make {} [listNamed, total] none).run = .ok (.ok p) ∧
          (make {} [total, listNamed] none).run = .ok (.ok p')) ∨
        ∃ e e', (make {} [listNamed, total] none).run = .ok (.error e) ∧
          (make {} [total, listNamed] none).run = .ok (.error e')) := by
  have hm : (make {} [listNamed, total] none).run = .error .unsuitable := by cbv
  refine ⟨.swap total listNamed [], by decide, by cbv, by cbv, ?_⟩
  rw [hm]
  rintro (⟨p, p', h, -⟩ | ⟨e, e', h, -⟩) <;> cases h

end Plan

end ControlBreak
