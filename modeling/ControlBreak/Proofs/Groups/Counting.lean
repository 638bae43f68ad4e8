import ControlBreak.Proofs.Groups.Detection
import ControlBreak.Proofs.Value.Distinct
import Mathlib.Tactic.Common

/-!
# Breaks that are counted

Of the groups that a record breaks, only the outermost is reported; but its level and all levels
within it count the break. What a level has counted is told by the keys alone: it is the number
of records, among those consumed since the processor was made to forget, for which the key of a
group on the level, or around it, differs from that of the record before.

* `levelBreaks`: how many records break a level, told by their keys;
* `breakCount_of_process`: each level counts a record once if the record breaks it;
* `history`: a processor after any calls, beside all records that it consumed since it was made
  to forget, of which `run` keeps the last one (`run_eq_history`);
* `countsBreaks_of_history`: what each level has counted after any calls.
-/

namespace ControlBreak

variable {r : Registry} {declared : List GroupDefinition}

/-! ### Records that break a level -/

instance (r : Registry) (last next : Value) (g : GroupDefinition) :
    Decidable (Differs r last next g) :=
  match ho : keyOf r last g, hn : keyOf r next g with
  | .ok old, .ok new =>
    match hd : old.recurs new with
    | .ok false => .isTrue ⟨old, new, ho, hn, hd⟩
    | .ok true | .error _ => .isFalse fun ⟨_, _, ho', hn', hd'⟩ => by simp_all
  | .error _, _ | _, .error _ => .isFalse fun ⟨_, _, ho', hn', _⟩ => by simp_all

/-- A record breaks a level after another one: the key of a group on it, or around it,
    differs. -/
def BreaksLevel (r : Registry) (declared : List GroupDefinition) (level : Nat)
    (last next : Value) : Prop :=
  ∃ d ∈ declared, d.level ≤ level ∧ Differs r last next d

instance (r : Registry) (declared : List GroupDefinition) (level : Nat) (last next : Value) :
    Decidable (BreaksLevel r declared level last next) :=
  inferInstanceAs (Decidable (∃ d ∈ declared, d.level ≤ level ∧ Differs r last next d))

/-- How many of the records break a level, each after the one before it. -/
def levelBreaks (r : Registry) (declared : List GroupDefinition) (level : Nat)
    (records : List Value) : Nat :=
  (records.zip records.tail).countP fun e => BreaksLevel r declared level e.1 e.2

/-- What breaks a level breaks all levels within it. -/
theorem BreaksLevel.mono {last next : Value} {level level' : Nat} (hl : level ≤ level')
    (h : BreaksLevel r declared level last next) : BreaksLevel r declared level' last next := by
  obtain ⟨d, hd, hle, hdiffers⟩ := h
  exact ⟨d, hd, hle.trans hl, hdiffers⟩

theorem levelBreaks_mono {level level' : Nat} (hl : level ≤ level') (records : List Value) :
    levelBreaks r declared level records ≤ levelBreaks r declared level' records := by
  refine List.countP_mono_left fun e _ h => ?_
  rw [decide_eq_true_eq] at h ⊢
  exact h.mono hl

theorem levelBreaks_cons_cons (level : Nat) (first second : Value) (records : List Value) :
    levelBreaks r declared level (first :: second :: records) =
      levelBreaks r declared level (second :: records) +
        if BreaksLevel r declared level first second then 1 else 0 := by
  rw [levelBreaks, List.tail_cons, List.zip_cons_cons, List.countP_cons]
  simp only [decide_eq_true_eq]
  rfl

/-- One more record is compared with the last one. -/
theorem levelBreaks_append (level : Nat) (records : List Value) (next : Value) :
    levelBreaks r declared level (records ++ [next]) = levelBreaks r declared level records +
      if ∃ last ∈ records.getLast?, BreaksLevel r declared level last next then 1 else 0 := by
  induction records with
  | nil => rfl
  | cons first records ih =>
    cases records with
    | nil =>
      have hone : ∀ record : Value, levelBreaks r declared level [record] = 0 := fun _ => rfl
      simp [levelBreaks_cons_cons, hone]
    | cons second records =>
      rw [List.cons_append, List.cons_append, levelBreaks_cons_cons, levelBreaks_cons_cons,
        ← List.cons_append, ih, List.getLast?_cons_cons]
      omega

/-! ### One record -/

namespace Groups

variable {g g' : Groups} {last : Option Value} {next : Value} {s : GroupStep}

theorem breakCount_eq (g : Groups) (level : Nat) :
    g.breakCount level = (keyed? g.counts level).getD 0 := by
  have hlevel : ∀ e : Nat × Nat, ((e.1 : Int) == (level : Int)) = (e.1 == level) := by
    intro e
    rw [Bool.eq_iff_iff, beq_iff_eq, beq_iff_eq, Int.natCast_inj]
  simp only [breakCount, hlevel]
  rfl

/-- A break is counted once for each level that it is counted for. -/
theorem keyed?_foldl_setKeyed {levels : List Nat} (h : levels.Nodup) (level : Nat)
    (counts : List (Nat × Nat)) : keyed? (levels.foldl
        (fun counts l => setKeyed l ((keyed? counts l).getD 0 + 1) counts) counts) level =
      if level ∈ levels then some ((keyed? counts level).getD 0 + 1) else keyed? counts level := by
  induction levels generalizing counts with
  | nil => rfl
  | cons l levels ih =>
    obtain ⟨hl, h⟩ := List.nodup_cons.1 h
    rw [List.foldl_cons, ih h, keyed?_setKeyed]
    by_cases hlevel : level = l
    · subst hlevel
      simp [hl]
    · simp [hlevel]

theorem mem_levels (h : Tracks r declared g.scope last) {level : Nat} :
    level ∈ g.scope.levels ↔ ∃ d ∈ declared, d.level = level := by
  simp only [Scope.levels, List.mem_eraseDups, List.mem_map, h.inLevelOrder.perm.mem_iff]

theorem tracks_of_process (h : Tracks r declared g.scope last)
    (hp : g.process r next = .ok (g', s)) : Tracks r declared g'.scope (some next) := by
  obtain ⟨_, scope, -, hs, rfl, -⟩ := process_eq_ok_iff.1 hp
  exact h.consume hs

/-- What is found of a record is a break of a level if and only if the record breaks it. -/
theorem breaksLevel_iff_of_finds {change : Option Break} (h : Finds r declared last next change)
    (level : Nat) : (∃ record ∈ last, BreaksLevel r declared level record next) ↔
      ∃ l : Nat, change = some (.group l) ∧ l ≤ level := by
  cases h with
  | first => simp
  | unchanged hnone | detail hnone =>
    refine iff_of_false ?_ (by simp)
    rintro ⟨_, ⟨⟩, d, hd, -, hdiffers⟩
    exact hnone d hd hdiffers
  | @group _ _ d hd hdiffers hmin =>
    constructor
    · rintro ⟨_, ⟨⟩, e, he, hle, hdiffers'⟩
      exact ⟨d.level, rfl, (hmin e he hdiffers').trans hle⟩
    · rintro ⟨l, hl, hle⟩
      cases hl
      exact ⟨_, rfl, d, hd, hle, hdiffers⟩

/-- Each level of the groups counts a record once if the record breaks it. -/
theorem breakCount_of_process (h : Tracks r declared g.scope last)
    (hp : g.process r next = .ok (g', s)) (level : Nat) :
    g'.breakCount level = g.breakCount level +
      if (∃ d ∈ declared, d.level = level) ∧
        ∃ record ∈ last, BreaksLevel r declared level record next then 1 else 0 := by
  obtain ⟨change, scope, hc, -, rfl, -⟩ := process_eq_ok_iff.1 hp
  have hfinds := h.finds_of_check hc
  have hnodup : g.scope.levels.Nodup := nodup_eraseDups _
  classical
  simp only [← mem_levels h, breaksLevel_iff_of_finds hfinds]
  rw [breakCount_eq, breakCount_eq]
  cases hfinds with
  | first | unchanged | detail => simp [countsAfter]
  | @group _ _ d =>
    change (keyed? (countBreak _ _ _) _).getD 0 = _
    simp only [countBreak, keyed?_foldl_setKeyed (hnodup.filter _), List.mem_filter,
      decide_eq_true_eq, Int.ofNat_le, Option.some.injEq, Break.group.injEq, Int.natCast_inj,
      exists_eq_left']
    split <;> rfl

/-! ### After any calls -/

/-- The processor after a call, beside all records that it consumed since it was made to
    forget. -/
def stepAll (r : Registry) : Groups × List Value → Call → Groups × List Value
  | (g, seen), .process record =>
    match g.process r record with
    | .ok (g', _) => (g', seen ++ [record])
    | .error _ => (g, seen)
  | (g, seen), .check _ | (g, seen), .extract _ | (g, seen), .summarize _ => (g, seen)
  | (g, seen), .page => (g.breakPage, seen)
  | (g, _), .reset => (g.reset, [])

/-- The processor after calls, beside all records that it consumed since it was made to
    forget. -/
def history (r : Registry) (declared : List GroupDefinition) (calls : List Call) :
    Groups × List Value :=
  calls.foldl (stepAll r) (.ofDefinitions declared, [])

/-- The record that is kept by a run is the last one of its history. -/
theorem run_eq_history (r : Registry) (declared : List GroupDefinition) (calls : List Call) :
    run r declared calls =
      ((history r declared calls).1, (history r declared calls).2.getLast?) := by
  have hstep : ∀ (g : Groups) (seen : List Value) (call : Call), step r (g, seen.getLast?) call =
      ((stepAll r (g, seen) call).1, (stepAll r (g, seen) call).2.getLast?) := by
    intro g seen call
    cases call with
    | process record =>
      rw [step, stepAll]
      cases g.process r record with
      | ok => rw [List.getLast?_concat]
      | error => rfl
    | check | extract | summarize | page | reset => rfl
  rw [run, history]
  generalize ofDefinitions declared = g
  -- The records seen so far grow with each call, so they have to be arbitrary.
  suffices h : ∀ seen : List Value, calls.foldl (step r) (g, seen.getLast?) =
      ((calls.foldl (stepAll r) (g, seen)).1, (calls.foldl (stepAll r) (g, seen)).2.getLast?) from
    h []
  intro seen
  induction calls generalizing g seen with
  | nil => rfl
  | cons call calls ih => rw [List.foldl_cons, List.foldl_cons, hstep, ih]

/-- What a processor keeps and has counted, given the records that it consumed since it was made
    to forget. -/
structure Counts (r : Registry) (declared : List GroupDefinition) (g : Groups)
    (seen : List Value) : Prop where
  tracks : Tracks r declared g.scope seen.getLast?
  breakCount (level : Nat) : g.breakCount level =
    if ∃ d ∈ declared, d.level = level then levelBreaks r declared level seen else 0

variable {seen : List Value}

theorem Counts.ofDefinitions (r : Registry) (declared : List GroupDefinition) :
    Counts r declared (.ofDefinitions declared) [] :=
  ⟨.ofGroups r declared, fun _ => (ite_self 0).symm⟩

theorem Counts.process (h : Counts r declared g seen) (hp : g.process r next = .ok (g', s)) :
    Counts r declared g' (seen ++ [next]) := by
  refine ⟨List.getLast?_concat ▸ tracks_of_process h.tracks hp, fun level => ?_⟩
  rw [breakCount_of_process h.tracks hp, h.breakCount, levelBreaks_append]
  by_cases hlevel : ∃ d ∈ declared, d.level = level
  · simp only [hlevel, true_and, if_true]
  · simp only [hlevel, false_and, if_false]

/-- No call makes a level miss a break or count one that was not. -/
theorem Counts.stepAll (h : Counts r declared g seen) (call : Call) :
    Counts r declared (stepAll r (g, seen) call).1 (stepAll r (g, seen) call).2 := by
  cases call with
  | process record =>
    rw [Groups.stepAll]
    split
    · rename_i hp
      exact h.process hp
    · exact h
  | check | extract | summarize => exact h
  | page => exact ⟨h.tracks.breakPage, h.breakCount⟩
  | reset => exact ⟨h.tracks.reset, fun _ => (ite_self 0).symm⟩

theorem counts_history (r : Registry) (declared : List GroupDefinition) (calls : List Call) :
    Counts r declared (history r declared calls).1 (history r declared calls).2 := by
  rw [history]
  have hstart := Counts.ofDefinitions r declared
  -- By induction on the calls, from any processor that has counted what it has seen.
  generalize ofDefinitions declared = g, [] = seen at hstart
  induction calls generalizing g seen with
  | nil => exact hstart
  | cons call calls ih => exact ih _ _ (hstart.stepAll call)

theorem breakCount_of_neg (g : Groups) {level : Int} (h : level < 0) : g.breakCount level = 0 := by
  have hnone : g.counts.find? (fun e => (e.1 : Int) == level) = none := by
    refine List.find?_eq_none.2 fun e _ => ?_
    rw [beq_iff_eq]
    omega
  rw [breakCount, hnone]
  rfl

/-- What the levels have counted, given the records that were consumed since the processor was
    made to forget. -/
structure CountsBreaks (r : Registry) (declared : List GroupDefinition) (g : Groups)
    (seen : List Value) : Prop where
  /-- A level counts the records that break it, each of them once. -/
  configured : ∀ d ∈ declared, g.breakCount d.level = levelBreaks r declared d.level seen
  unconfigured (level : Int) : (∀ d ∈ declared, (d.level : Int) ≠ level) → g.breakCount level = 0
  mono : ∀ d ∈ declared, ∀ e ∈ declared, d.level ≤ e.level →
    g.breakCount d.level ≤ g.breakCount e.level

/-- After any calls, each level has counted the breaks of the records that were consumed since
    the processor was made to forget. A record that comes twice in a row is counted here if a key
    is a member bound to it (`Differs`), and not by the host. -/
theorem countsBreaks_of_history (r : Registry) (declared : List GroupDefinition)
    (calls : List Call) : CountsBreaks r declared (history r declared calls).1
      (history r declared calls).2 := by
  have h := counts_history r declared calls
  have hconfigured : ∀ d ∈ declared, (history r declared calls).1.breakCount d.level =
      levelBreaks r declared d.level (history r declared calls).2 := fun d hd => by
    rw [h.breakCount, if_pos ⟨d, hd, rfl⟩]
  refine ⟨hconfigured, fun level hnone => ?_, fun d hd e he hle => ?_⟩
  · obtain hneg | hlevel := lt_or_ge level 0
    · exact breakCount_of_neg _ hneg
    · obtain ⟨level, rfl⟩ := Int.eq_ofNat_of_zero_le hlevel
      refine (h.breakCount level).trans (if_neg ?_)
      rintro ⟨d, hd, rfl⟩
      exact hnone d hd rfl
  · rw [hconfigured d hd, hconfigured e he]
    exact levelBreaks_mono hle _

end Groups

end ControlBreak
