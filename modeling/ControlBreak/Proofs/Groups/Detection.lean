import ControlBreak.Groups
import ControlBreak.Proofs.Host
import Mathlib.Data.List.Sort

/-!
# What breaks over a run

A processor of groups is asked in any order to consume a record, to say what a record would
break or which values it would have, to summarize records, to turn the page, and to forget
everything. What it knows is told by one record, the one that it consumed last since it was
made to forget: `run` keeps this record beside the processor.

The processor compares keys in the order of levels and stops at the first difference. That
this is the outermost break rests on the order of the groups, which is made once, and on the
keys, of which there has to be one for each group.

* `InLevelOrder`: the order of the groups;
* `Tracks`: what a processor keeps of the record consumed last, after every call
  (`Tracks.step`);
* `Finds`: what a record breaks, told by the keys of two records alone;
* `detects_of_run`: what is kept, found and reported after any calls.
-/

namespace ControlBreak

variable {r : Registry} {groups : List GroupDefinition}

/-! ### The order of the groups -/

/-- Groups in the order of their levels, with those of one level as they were declared. -/
structure InLevelOrder (declared groups : List GroupDefinition) : Prop where
  perm : groups.Perm declared
  sorted : groups.Pairwise fun g h => g.level ≤ h.level
  stable : ∀ level, groups.filter (·.level = level) = declared.filter (·.level = level)

theorem inLevelOrder_ofGroups (groups : List GroupDefinition) :
    InLevelOrder groups (Scope.ofGroups groups).groups := by
  have htrans : ∀ a b c : GroupDefinition, decide (a.level ≤ b.level) = true →
      decide (b.level ≤ c.level) = true → decide (a.level ≤ c.level) = true := by
    simp only [decide_eq_true_eq]
    exact fun a b c => le_trans
  have htotal : ∀ a b : GroupDefinition,
      (decide (a.level ≤ b.level) || decide (b.level ≤ a.level)) = true := by
    simp only [Bool.or_eq_true, decide_eq_true_eq]
    exact fun a b => le_total _ _
  have hperm : (Scope.ofGroups groups).groups.Perm groups := List.mergeSort_perm _ _
  have hsorted : (Scope.ofGroups groups).groups.Pairwise fun g h => decide (g.level ≤ h.level) :=
    List.pairwise_mergeSort htrans htotal groups
  refine ⟨hperm, by simpa only [decide_eq_true_eq] using hsorted, fun level => ?_⟩
  -- The groups of one level are in order as they are, and sorting keeps what is in order.
  have hordered : (groups.filter (·.level = level)).Pairwise
      fun g h => decide (g.level ≤ h.level) = true := by
    refine List.pairwise_of_forall_mem_list fun g hg h hh => ?_
    have hg := (List.mem_filter.1 hg).2
    have hh := (List.mem_filter.1 hh).2
    simp_all
  have hsub := (List.sublist_mergeSort htrans htotal hordered List.filter_sublist).filter
    (·.level = level)
  rw [List.filter_filter] at hsub
  simp only [Bool.and_self] at hsub
  exact (hsub.eq_of_length (hperm.filter _).length_eq.symm).symm

/-- The group that was declared last on a level. -/
def lastOn (groups : List GroupDefinition) (level : Nat) : Option GroupDefinition :=
  (groups.filter (·.level = level)).getLast?

theorem InLevelOrder.lastOn_eq {declared : List GroupDefinition}
    (h : InLevelOrder declared groups) (level : Nat) : lastOn groups level = lastOn declared level := by
  rw [lastOn, lastOn, h.stable]

/-! ### The keys of a record -/

/-- The key of a group for a record; nothing if it has no value. -/
def keyOf (r : Registry) (record : Value) (g : GroupDefinition) : Host Value :=
  (r.evaluate g.key record).run.map fun key => key.toOption.getD .nil

/-- The keys of groups for a record, one for each. -/
def HasKeys (r : Registry) (record : Value) (groups : List GroupDefinition)
    (keys : List Value) : Prop :=
  List.Forall₂ (fun g key => keyOf r record g = .ok key) groups keys

theorem evaluateKeys_eq_mapM (record : Value) :
    Scope.evaluateKeys r record groups = groups.mapM (keyOf r record) := by
  induction groups with
  | nil => rfl
  | cons g groups ih =>
    rw [Scope.evaluateKeys, List.mapM_cons, ih, keyOf]
    cases (r.evaluate g.key record).run <;> rfl

theorem evaluateKeys_eq_ok {record : Value} {keys : List Value} :
    Scope.evaluateKeys r record groups = .ok keys ↔ HasKeys r record groups keys := by
  rw [evaluateKeys_eq_mapM, Host.mapM_eq_ok, HasKeys]

theorem exists_evaluateKeys {record : Value} (h : ∀ g ∈ groups, ∃ key, keyOf r record g = .ok key) :
    ∃ keys, Scope.evaluateKeys r record groups = .ok keys :=
  evaluateKeys_eq_mapM record ▸ Host.exists_mapM_eq_ok h

/-- The key that is shown for a level is that of the group declared last on it. -/
theorem keyed?_levelValues {record : Value} {keys : List Value} (h : HasKeys r record groups keys)
    (level : Nat) :
    (lastOn groups level).elim (keyed? (Scope.levelValues groups keys) level = none) fun g =>
      ∃ key, keyOf r record g = .ok key ∧
        keyed? (Scope.levelValues groups keys) level = some key := by
  -- What is shown so far stays if no group of the level is left.
  suffices hshown : ∀ shown : List (Nat × Value),
      let values := (groups.zip keys).foldl (fun values e => setKeyed e.1.level e.2 values) shown
      (lastOn groups level).elim (keyed? values level = keyed? shown level) fun g =>
        ∃ key, keyOf r record g = .ok key ∧ keyed? values level = some key from hshown []
  rw [HasKeys] at h
  induction h with
  | nil => exact fun shown => rfl
  | @cons g key groups keys hk _ ih =>
    intro shown
    have ih := ih (setKeyed g.level key shown)
    rw [lastOn] at ih ⊢
    rw [List.zip_cons_cons, List.foldl_cons, List.filter_cons]
    by_cases hl : g.level = level
    · rw [if_pos (by simpa using hl), List.getLast?_cons, Option.elim_some]
      cases hlast : (groups.filter (·.level = level)).getLast? with
      | some other => rwa [hlast] at ih
      | none =>
        rw [hlast, Option.elim_none, keyed?_setKeyed, if_pos hl.symm] at ih
        exact ⟨key, hk, ih⟩
    · rw [if_neg (by simpa using hl)]
      rwa [keyed?_setKeyed, if_neg (Ne.symm hl)] at ih

/-! ### What a record breaks -/

/-- Whether the key of a group differs between two records. A key that is a member bound to the
    record differs even if this is the same record, see `Value.recurs`. -/
def Differs (r : Registry) (last next : Value) (g : GroupDefinition) : Prop :=
  ∃ old new, keyOf r last g = .ok old ∧ keyOf r next g = .ok new ∧ old.recurs new = .ok false

/-- What a record breaks after another one, or after none: the outermost level at which a
    key differs; without one it is the same record again, or a new detail row. -/
inductive Finds (r : Registry) (groups : List GroupDefinition) :
    Option Value → Value → Option Break → Prop
  | first (next : Value) : Finds r groups none next none
  | group {last next : Value} {g : GroupDefinition} : g ∈ groups → Differs r last next g →
    (∀ h ∈ groups, Differs r last next h → g.level ≤ h.level) →
    Finds r groups (some last) next (some (.group g.level))
  | unchanged {last next : Value} : (∀ g ∈ groups, ¬Differs r last next g) →
    next.equals last = .ok true → Finds r groups (some last) next (some .unchanged)
  | detail {last next : Value} : (∀ g ∈ groups, ¬Differs r last next g) →
    next.equals last = .ok false → Finds r groups (some last) next (some .detail)

/-- Whether a record can be compared with the one consumed last: their keys, and the records
    themselves. -/
def Comparable (r : Registry) (groups : List GroupDefinition) (last : Option Value)
    (next : Value) : Prop :=
  ∀ record ∈ last, (∀ g ∈ groups, ∃ old new same, keyOf r record g = .ok old ∧
    keyOf r next g = .ok new ∧ old.recurs new = .ok same) ∧ ∃ same, next.equals record = .ok same

namespace Scope

variable {s : Scope} {last next : Value} {olds news : List Value}

/-- The first difference is the outermost one, if the groups stand in the order of their
    levels and there is a key for each. -/
theorem of_firstDifference (hs : groups.Pairwise fun g h => g.level ≤ h.level)
    (ho : HasKeys r last groups olds) (hn : HasKeys r next groups news) {found : Option Nat}
    (h : firstDifference groups olds news = .ok found) :
    (found = none ∧ ∀ g ∈ groups, ¬Differs r last next g) ∨
      ∃ g ∈ groups, found = some g.level ∧ Differs r last next g ∧
        ∀ h ∈ groups, Differs r last next h → g.level ≤ h.level := by
  rw [HasKeys] at ho hn
  induction ho generalizing news with
  | nil =>
    cases hn
    cases h
    exact .inl ⟨rfl, by simp⟩
  | @cons g old groups olds ho _ ih =>
    obtain _ | ⟨hn, hnews⟩ := hn
    obtain ⟨hle, hs⟩ := List.pairwise_cons.1 hs
    obtain ⟨same, hsame, h⟩ := Host.bind_eq_ok.1 h
    cases same with
    | false =>
      cases h
      -- All groups after this one are on its level or within it.
      refine .inr ⟨g, List.mem_cons_self, rfl, ⟨old, _, ho, hn, hsame⟩, fun h hh _ => ?_⟩
      obtain rfl | hh := List.mem_cons.1 hh
      exacts [le_rfl, hle h hh]
    | true =>
      have hg : ¬Differs r last next g := by
        rintro ⟨old', new', ho', hn', hd⟩
        cases ho.symm.trans ho'
        cases hn.symm.trans hn'
        cases hsame.symm.trans hd
      obtain ⟨rfl, hnone⟩ | ⟨first, hf, rfl, hd, hmin⟩ := ih hs hnews h
      · exact .inl ⟨rfl, List.forall_mem_cons.2 ⟨hg, hnone⟩⟩
      · refine .inr ⟨first, List.mem_cons_of_mem _ hf, rfl, hd, List.forall_mem_cons.2 ⟨?_, hmin⟩⟩
        exact fun h => (hg h).elim

theorem exists_firstDifference (ho : HasKeys r last groups olds) (hn : HasKeys r next groups news)
    (h : ∀ g ∈ groups, ∃ old new same, keyOf r last g = .ok old ∧ keyOf r next g = .ok new ∧
      old.recurs new = .ok same) : ∃ found, firstDifference groups olds news = .ok found := by
  rw [HasKeys] at ho hn
  induction ho generalizing news with
  | nil => exact ⟨none, rfl⟩
  | @cons g old groups olds ho _ ih =>
    obtain _ | ⟨hn, hnews⟩ := hn
    obtain ⟨⟨old', new', same, ho', hn', hsame⟩, h⟩ := List.forall_mem_cons.1 h
    cases ho.symm.trans ho'
    cases hn.symm.trans hn'
    rw [firstDifference, hsame]
    cases same with
    | false => exact ⟨some g.level, rfl⟩
    | true => exact ih hnews h

end Scope

/-! ### What is kept -/

/-- What a scope keeps of the record consumed last, and what it is without one. -/
structure Tracks (r : Registry) (declared : List GroupDefinition) (s : Scope)
    (last : Option Value) : Prop where
  groups : s.groups = (Scope.ofGroups declared).groups
  count : s.count = 0 ↔ last = none
  previous : s.previous = last.getD .nil
  keys : last.elim (s.keys = []) fun record => HasKeys r record s.groups s.keys

namespace Tracks

variable {declared : List GroupDefinition} {s s' : Scope} {last : Option Value} {next : Value}

theorem inLevelOrder (h : Tracks r declared s last) : InLevelOrder declared s.groups :=
  h.groups ▸ inLevelOrder_ofGroups declared

theorem ofGroups (r : Registry) (declared : List GroupDefinition) :
    Tracks r declared (.ofGroups declared) none :=
  ⟨rfl, by simp [Scope.ofGroups], rfl, rfl⟩

/-- A scope that consumes a record keeps its keys, whatever was kept before. -/
theorem consume (h : Tracks r declared s last) (hc : s.consume r next = .ok s') :
    Tracks r declared s' (some next) := by
  obtain ⟨keys, hkeys, hc⟩ := Host.bind_eq_ok.1 hc
  cases hc
  exact ⟨h.groups, by simp, rfl, evaluateKeys_eq_ok.1 hkeys⟩

theorem reset (h : Tracks r declared s last) : Tracks r declared s.reset none :=
  ⟨h.groups, by simp [Scope.reset], rfl, rfl⟩

theorem breakPage (h : Tracks r declared s last) : Tracks r declared s.breakPage last :=
  ⟨h.groups, h.count, h.previous, h.keys⟩

/-- What a scope says of a record is told by the keys of the record and of the one that was
    consumed last. -/
theorem finds_of_check (h : Tracks r declared s last) {change : Option Break}
    (hc : s.check r next = .ok change) : Finds r declared last next change := by
  rw [Scope.check] at hc
  cases last with
  | none =>
    rw [if_pos (h.count.2 rfl)] at hc
    cases hc
    exact .first next
  | some record =>
    rw [if_neg (by simp [h.count]), h.previous] at hc
    obtain ⟨keys, hkeys, hc⟩ := Host.bind_eq_ok.1 hc
    obtain ⟨found, hfound, hc⟩ := Host.bind_eq_ok.1 hc
    have hmem : ∀ g, g ∈ s.groups ↔ g ∈ declared := fun g => h.inLevelOrder.perm.mem_iff
    have hfirst := Scope.of_firstDifference h.inLevelOrder.sorted h.keys
      (evaluateKeys_eq_ok.1 hkeys) hfound
    simp only [hmem] at hfirst
    obtain ⟨rfl, hnone⟩ | ⟨g, hg, rfl, hd, hmin⟩ := hfirst
    · obtain ⟨same, hsame, hc⟩ := Host.bind_eq_ok.1 hc
      cases same with
      | true =>
        cases hc
        exact .unchanged hnone hsame
      | false =>
        cases hc
        exact .detail hnone hsame
    · cases hc
      exact .group hg hd hmin

/-- Something is said of every record that can be compared. -/
theorem exists_check (h : Tracks r declared s last) (hc : Comparable r declared last next) :
    ∃ change, s.check r next = .ok change := by
  rw [Scope.check]
  cases last with
  | none => exact ⟨none, if_pos (h.count.2 rfl)⟩
  | some record =>
    rw [if_neg (by simp [h.count]), h.previous]
    obtain ⟨hcompared, same, hsame⟩ := hc record rfl
    have hcompared : ∀ g ∈ s.groups, ∃ old new same, keyOf r record g = .ok old ∧
        keyOf r next g = .ok new ∧ old.recurs new = .ok same :=
      fun g hg => hcompared g (h.inLevelOrder.perm.mem_iff.1 hg)
    obtain ⟨keys, hkeys⟩ := exists_evaluateKeys fun g hg =>
      let ⟨_, new, _, _, hn, _⟩ := hcompared g hg
      ⟨new, hn⟩
    obtain ⟨found, hfound⟩ := Scope.exists_firstDifference h.keys
      (evaluateKeys_eq_ok.1 hkeys) hcompared
    simp only [Host.bind_eq_ok]
    cases found with
    | some level => exact ⟨some (.group level), keys, hkeys, some level, hfound, rfl⟩
    | none =>
      refine ⟨some (if same then .unchanged else .detail), keys, hkeys, none, hfound,
        Host.bind_eq_ok.2 ⟨same, hsame, ?_⟩⟩
      cases same <;> rfl

end Tracks

/-! ### What is reported -/

namespace Groups

/-- A call of a processor of groups. -/
inductive Call
  | process (record : Value)
  | check (record : Value)
  | extract (record : Value)
  | summarize (records : List Value)
  | page
  | reset

/-- The processor after a call, beside the record that it consumed last since it was made to
    forget. It refuses a record whose keys it cannot evaluate or compare, and stays as it is
    then, as it does for a question. -/
def step (r : Registry) : Groups × Option Value → Call → Groups × Option Value
  | (g, last), .process record =>
    match g.process r record with
    | .ok (g', _) => (g', some record)
    | .error _ => (g, last)
  | (g, last), .check _ | (g, last), .extract _ | (g, last), .summarize _ => (g, last)
  | (g, last), .page => (g.breakPage, last)
  | (g, _), .reset => (g.reset, none)

/-- The processor after calls, beside the record that it consumed last. -/
def run (r : Registry) (declared : List GroupDefinition) (calls : List Call) :
    Groups × Option Value :=
  calls.foldl (step r) (.ofDefinitions declared, none)

/-- What a processor keeps, finds and reports, given the record that it consumed last since
    it was made to forget. -/
structure Detects (r : Registry) (declared : List GroupDefinition) (g : Groups)
    (last : Option Value) : Prop where
  ordered : InLevelOrder declared g.scope.groups
  /-- There is one key for each group, that of the record consumed last. -/
  keys : last.elim (g.scope.keys = []) fun record => HasKeys r record g.scope.groups g.scope.keys
  /-- Nothing is said if no record was consumed, and else what the record breaks. -/
  check {next : Value} {change : Option Break} :
    g.scope.check r next = .ok change → Finds r declared last next change
  exists_check {next : Value} : Comparable r declared last next →
    ∃ change, g.scope.check r next = .ok change
  /-- A record is reported with what it breaks; the same record again is a new row. -/
  process {next : Value} {g' : Groups} {step : GroupStep} :
    g.process r next = .ok (g', step) → ∃ change, Finds r declared last next change ∧
      step.changes = (match change with
        | none => []
        | some (.group level) => [.group level]
        | some _ => [.detail]) ∧
      (step.resetsVariables = true ↔ ∃ level, change = some (.group level)) ∧
      ∀ level, (lastOn declared level).elim (keyed? step.values level = none) fun d =>
        ∃ key, keyOf r next d = .ok key ∧ keyed? step.values level = some key
  exists_process {next : Value} : Comparable r declared last next →
    (∀ d ∈ declared, ∃ key, keyOf r next d = .ok key) →
    ∃ g' step, g.process r next = .ok (g', step)

variable {declared : List GroupDefinition} {g g' : Groups} {last : Option Value} {next : Value}
  {s : GroupStep}

/-- A record is looked at first, and consumed then. -/
theorem process_eq_ok_iff : g.process r next = .ok (g', s) ↔
    ∃ change scope, g.scope.check r next = .ok change ∧ g.scope.consume r next = .ok scope ∧
      g' = ⟨scope, g.countsAfter change⟩ ∧ s = ⟨reported change, scope.values⟩ := by
  simp only [process, Host.bind_eq_ok, pure, Except.pure, Except.ok.injEq, Prod.mk.injEq,
    eq_comm (a := g'), eq_comm (a := s), exists_and_left]

/-- No call makes a processor lose what it keeps of the record consumed last. -/
theorem tracks_step (h : Tracks r declared g.scope last) (call : Call) :
    Tracks r declared (step r (g, last) call).1.scope (step r (g, last) call).2 := by
  cases call with
  | process record =>
    rw [step]
    split
    · rename_i g' s hp
      obtain ⟨change, scope, -, hs, rfl, -⟩ := process_eq_ok_iff.1 hp
      exact h.consume hs
    · exact h
  | check | extract | summarize => exact h
  | page => exact h.breakPage
  | reset => exact h.reset

theorem tracks_run (r : Registry) (declared : List GroupDefinition) (calls : List Call) :
    Tracks r declared (run r declared calls).1.scope (run r declared calls).2 := by
  rw [run]
  have hstart : Tracks r declared (ofDefinitions declared).scope none := .ofGroups r declared
  -- What a call preserves is all that is known of the state before it.
  generalize ofDefinitions declared = g, none = last at hstart
  induction calls generalizing g last with
  | nil => exact hstart
  | cons call calls ih => exact ih _ _ (tracks_step hstart call)

/-- What is reported of a record is what it breaks, and the keys of the record itself. -/
theorem finds_of_process (h : Tracks r declared g.scope last)
    (hp : g.process r next = .ok (g', s)) : ∃ change keys, Finds r declared last next change ∧
      HasKeys r next g.scope.groups keys ∧
      s = ⟨reported change, Scope.levelValues g.scope.groups keys⟩ := by
  obtain ⟨change, scope, hc, hs, -, rfl⟩ := process_eq_ok_iff.1 hp
  obtain ⟨keys, hkeys, hs⟩ := Host.bind_eq_ok.1 hs
  cases hs
  exact ⟨change, keys, h.finds_of_check hc, evaluateKeys_eq_ok.1 hkeys, rfl⟩

theorem exists_process (h : Tracks r declared g.scope last) (hc : Comparable r declared last next)
    (hk : ∀ d ∈ declared, ∃ key, keyOf r next d = .ok key) :
    ∃ g' step, g.process r next = .ok (g', step) := by
  obtain ⟨change, hchange⟩ := h.exists_check hc
  obtain ⟨keys, hkeys⟩ := exists_evaluateKeys fun d hd => hk d (h.inLevelOrder.perm.mem_iff.1 hd)
  exact ⟨_, _, process_eq_ok_iff.2
    ⟨change, _, hchange, Host.bind_eq_ok.2 ⟨keys, hkeys, rfl⟩, rfl, rfl⟩⟩

/-- After any calls, a processor keeps the keys of the record consumed last, and finds and
    reports what the next record breaks. Keys that are members bound to a record which is consumed
    twice differ here (`Differs`), and not for the host. -/
theorem detects_of_run (r : Registry) (declared : List GroupDefinition) (calls : List Call) :
    Detects r declared (run r declared calls).1 (run r declared calls).2 := by
  have h := tracks_run r declared calls
  generalize run r declared calls = state at h
  obtain ⟨g, last⟩ := state
  refine ⟨h.inLevelOrder, h.keys, h.finds_of_check, h.exists_check, fun hp => ?_,
    exists_process h⟩
  obtain ⟨change, keys, hf, hkeys, rfl⟩ := finds_of_process h hp
  refine ⟨change, hf, ?_, ?_, fun level => ?_⟩
  · cases hf <;> rfl
  · cases hf <;> simp [GroupStep.resetsVariables, reported, Break.isGroup]
  · exact h.inLevelOrder.lastOn_eq level ▸ keyed?_levelValues hkeys level

end Groups

end ControlBreak
