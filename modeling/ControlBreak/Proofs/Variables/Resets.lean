import ControlBreak.Proofs.Variables.Record

/-!
# The strength of breaks

A break sends back all variables that a weaker one does. The weakest is that of the same record,
which sends nothing back; then come a new record, the breaks of groups, those of outer levels being
stronger, and a new page. So of several breaks at once only the strongest one counts.

* `strength`: the place of a break in this order;
* `resets_of_strength_le`: what a break sends back, a stronger one does too;
* `process_congr`: breaks that send back the same names make a record do the same;
* `isChain_variablesToReset`: the names that breaks send back, from the weakest break to the
  strongest.
-/

namespace ControlBreak

namespace Break

variable {b c : Break} {changes : List Break} {d : VariableDefinition}
  {definitions : List VariableDefinition} {name : String}

/-! ### The order of breaks -/

/-- The rank of a break among those of other kinds. -/
def rank : Break → ℕ
  | .unchanged => 0
  | .detail | .general => 1
  | .group _ => 2
  | .page => 3

/-- The strength of a break. Of breaks of groups, that of the outer level is the stronger one. -/
def strength (b : Break) : ℕ ×ₗ ℤᵒᵈ :=
  toLex (b.rank, OrderDual.toDual (b.level?.getD 0))

/-- A break that is one of several, of which none is stronger. -/
structure IsStrongest (changes : List Break) (b : Break) : Prop where
  mem : b ∈ changes
  strength_le : ∀ c ∈ changes, c.strength ≤ b.strength

theorem strength_le_iff : b.strength ≤ c.strength ↔
    b.rank < c.rank ∨ b.rank = c.rank ∧ c.level?.getD 0 ≤ b.level?.getD 0 :=
  Prod.Lex.toLex_le_toLex

theorem rank_le (h : b.strength ≤ c.strength) : b.rank ≤ c.rank := by
  rcases strength_le_iff.1 h with h | ⟨h, -⟩
  exacts [h.le, h.le]

theorem eq_page (h : page.strength ≤ c.strength) : c = .page := by
  have hrank := rank_le h
  cases c <;> simp_all [rank]

theorem eq_page_or_group {inner : ℤ} (h : (group inner).strength ≤ c.strength) :
    c = .page ∨ ∃ outer ≤ inner, c = .group outer := by
  have hrank := rank_le h
  cases c with
  | page => exact .inl rfl
  | group outer =>
    rcases strength_le_iff.1 h with hlt | ⟨-, hle⟩
    · exact absurd hlt (lt_irrefl _)
    · exact .inr ⟨outer, hle, rfl⟩
  | unchanged | detail | general => simp [rank] at hrank

/-- From the same record over inner and outer groups to a new page, breaks grow stronger. -/
theorem isChain_strength {outer inner : ℤ} (h : outer ≤ inner) :
    [unchanged, detail, group inner, group outer, page].IsChain (·.strength ≤ ·.strength) := by
  have hgroups : (group inner).strength ≤ (group outer).strength :=
    strength_le_iff.2 (.inr ⟨rfl, h⟩)
  have hkinds : ∀ {b c : Break}, b.rank < c.rank → b.strength ≤ c.strength := fun h =>
    strength_le_iff.2 (.inl h)
  exact .cons_cons (hkinds (by decide)) (.cons_cons (hkinds (by simp [rank]))
    (.cons_cons hgroups (.cons_cons (hkinds (by simp [rank])) (.singleton _))))

/-- Of some breaks, one is the strongest. -/
theorem exists_isStrongest (h : changes ≠ []) : ∃ b, IsStrongest changes b := by
  obtain ⟨b, hb, hle⟩ := changes.toFinset.exists_max_image strength
    ((List.toFinset_nonempty_iff _).2 h)
  exact ⟨b, List.mem_toFinset.1 hb, fun c hc => hle c (List.mem_toFinset.2 hc)⟩

/-! ### What breaks send back -/

theorem resets_of_detail (hd : d.resetOn = .detail) : b.resets d = true ↔ 1 ≤ b.rank := by
  cases b <;> simp [resets, hd, rank]

theorem resets_of_group (hd : d.resetOn = .group) :
    b.resets d = true ↔ b = .page ∨ ∃ level, b = .group level ∧ ∀ g ∈ d.resetGroup, level ≤ g := by
  cases b <;> simp [resets, hd, Option.all_eq_true]

theorem resets_of_page (hd : d.resetOn = .page) : b.resets d = true ↔ b = .page := by
  cases b <;> simp [resets, hd]

/-- No break sends back a variable of the whole report. -/
theorem not_resets_of_report (hd : d.resetOn = .report) : b.resets d = false := by
  cases b <;> simp [resets, hd]

/-- What a break sends back, a stronger one does too. -/
theorem resets_of_strength_le (h : b.strength ≤ c.strength) (hb : b.resets d = true) :
    c.resets d = true := by
  cases hd : d.resetOn with
  | detail =>
    rw [resets_of_detail hd] at hb ⊢
    exact hb.trans (rank_le h)
  | group =>
    rw [resets_of_group hd] at hb ⊢
    rcases hb with rfl | ⟨inner, rfl, hinner⟩
    · exact .inl (eq_page h)
    rcases eq_page_or_group h with rfl | ⟨outer, hle, rfl⟩
    · exact .inl rfl
    · exact .inr ⟨outer, rfl, fun g hg => hle.trans (hinner g hg)⟩
  | page =>
    rw [resets_of_page hd] at hb ⊢
    subst hb
    exact eq_page h
  | report => simp [not_resets_of_report hd] at hb

theorem variablesToReset_sublist (h : b.strength ≤ c.strength) :
    (b.variablesToReset definitions).Sublist (c.variablesToReset definitions) :=
  (List.monotone_filter_right _ fun _ => resets_of_strength_le h).map _

/-- Only variables that go back at some break are sent back, in the order of their definitions. -/
theorem variablesToReset_sublist_map (b : Break) (definitions : List VariableDefinition) :
    (b.variablesToReset definitions).Sublist
      ((definitions.filter (·.resetOn ≠ .report)).map (·.name)) := by
  refine (List.monotone_filter_right _ fun d hb => ?_).map _
  rw [decide_eq_true_eq]
  intro hd
  simp [not_resets_of_report hd] at hb

theorem mem_variablesToReset : name ∈ b.variablesToReset definitions ↔
    ∃ d ∈ definitions, b.resets d = true ∧ d.name = name := by
  simp only [variablesToReset, List.mem_map, List.mem_filter, and_assoc]

/-- A name is sent back by several breaks if and only if it is by one of them. -/
theorem mem_variablesToResetAll : name ∈ variablesToResetAll definitions changes ↔
    ∃ b ∈ changes, name ∈ b.variablesToReset definitions := by
  rw [variablesToResetAll, List.mem_filter, List.contains_iff_mem, List.mem_flatMap]
  refine and_iff_right_of_imp ?_
  rintro ⟨b, -, hb⟩
  obtain ⟨d, hd, -, rfl⟩ := mem_variablesToReset.1 hb
  exact List.mem_map_of_mem hd

theorem IsStrongest.mem_variablesToResetAll_iff (h : IsStrongest changes b) :
    name ∈ variablesToResetAll definitions changes ↔ name ∈ b.variablesToReset definitions := by
  rw [mem_variablesToResetAll]
  constructor
  · rintro ⟨c, hc, hname⟩
    exact (variablesToReset_sublist (h.strength_le c hc)).subset hname
  · intro hname
    exact ⟨b, h.mem, hname⟩

theorem isStrongest_singleton (b : Break) : IsStrongest [b] b :=
  ⟨List.mem_singleton_self b, fun _ hc => (List.mem_singleton.1 hc ▸ le_rfl)⟩

end Break

namespace Plan

variable {r : Registry} {p : Plan} {record : Value} {invalidated invalidated' : List String}

/-- Variables are updated alike if the same names go back. -/
theorem stage_congr (h : ∀ name, name ∈ invalidated ↔ name ∈ invalidated')
    (definitions : List VariableDefinition) (states : States) :
    p.stage r record invalidated definitions states =
      p.stage r record invalidated' definitions states := by
  induction definitions generalizing states with
  | nil => rfl
  | cons d definitions ih =>
    have hname : invalidated.contains d.name = invalidated'.contains d.name := by
      rw [Bool.eq_iff_iff, List.contains_iff_mem, List.contains_iff_mem, h]
    rw [stage, stage, hname]
    simp only [ih]

end Plan

/-- A record is taken alike with breaks that send back the same names. -/
theorem Variables.process_congr {v : Variables} {changes changes' : List Break}
    (h : ∀ name, name ∈ v.plan.invalidated changes ↔ name ∈ v.plan.invalidated changes')
    (r : Registry) (record : Value) :
    v.process r record changes = v.process r record changes' := by
  rw [process, process, Plan.stage_congr h]

namespace Break

/-- From the same record to a new page, each break sends back what the one before it does, in the
    order of the definitions, and never a variable of the report. Of several breaks at a record
    only the strongest counts. -/
theorem isChain_variablesToReset (definitions : List VariableDefinition) {outer inner : ℤ}
    (h : outer ≤ inner) :
    ([unchanged, detail, group inner, group outer, page].IsChain fun b c =>
        b.strength ≤ c.strength ∧
        (b.variablesToReset definitions).Sublist (c.variablesToReset definitions)) ∧
      (∀ b : Break, (b.variablesToReset definitions).Sublist (definitions.map (·.name)) ∧
        (b.variablesToReset definitions).Sublist
          ((definitions.filter (·.resetOn ≠ .report)).map (·.name))) ∧
      ∀ changes, changes ≠ [] → (∃ b, IsStrongest changes b) ∧ ∀ b, IsStrongest changes b →
        ∀ v : Variables, (∀ name, name ∈ v.plan.invalidated changes ↔
            name ∈ b.variablesToReset v.plan.definitions) ∧
          ∀ r record, v.process r record changes = v.process r record [b] := by
  refine ⟨?_, fun b => ⟨List.filter_sublist.map _, variablesToReset_sublist_map b definitions⟩,
    fun changes hne => ⟨exists_isStrongest hne, fun b hb v => ?_⟩⟩
  · exact (isChain_strength h).imp fun b c hle => ⟨hle, variablesToReset_sublist hle⟩
  · refine ⟨fun name => hb.mem_variablesToResetAll_iff, fun r record => v.process_congr ?_ r record⟩
    intro name
    exact hb.mem_variablesToResetAll_iff.trans
      (isStrongest_singleton b).mem_variablesToResetAll_iff.symm

/-- A sum of amounts. -/
def amounts (name : String) (resetOn : ResetScope) (resetGroup : Option Nat) : VariableDefinition :=
  ⟨name, .sum, .str "amount", resetOn, resetGroup, .int 0, .nil⟩

/-- A sum for each scope, and for groups of two levels and of any. -/
def allAmounts : List VariableDefinition :=
  [amounts "report" .report none, amounts "city" .group (some 2), amounts "line" .detail none,
    amounts "page" .page none, amounts "any" .group none, amounts "region" .group (some 1)]

theorem isChain_variablesToReset_allAmounts : (1 : ℤ) ≤ 2 ∧
    [unchanged, detail, group 2, group 1, page].map (·.variablesToReset allAmounts) =
      [[], ["line"], ["city", "line", "any"], ["city", "line", "any", "region"],
        ["city", "line", "page", "any", "region"]] ∧
    ([unchanged, detail, group 2, group 1, page].IsChain fun b c => b.strength ≤ c.strength ∧
      (b.variablesToReset allAmounts).Sublist (c.variablesToReset allAmounts)) ∧
    IsStrongest [detail, group 2, group 1, detail] (group 1) ∧
    ∃ p, (Plan.make {} allAmounts none).run = .ok (.ok p) ∧
      (Variables.ofPlan p).process .empty (.dict [(.str "amount", .int 5)])
          [detail, group 2, group 1, detail] =
        (Variables.ofPlan p).process .empty (.dict [(.str "amount", .int 5)]) [group 1] := by
  have hlevels : (1 : ℤ) ≤ 2 := by decide
  obtain ⟨hchain, -, hstrongest⟩ := isChain_variablesToReset allAmounts hlevels
  have hgroup : IsStrongest [detail, group 2, group 1, detail] (group 1) :=
    ⟨by decide, by decide⟩
  refine ⟨hlevels, by decide, hchain, hgroup, _, by cbv, ?_⟩
  exact ((hstrongest _ (by decide)).2 _ hgroup _).2 _ _

end Break

end ControlBreak
