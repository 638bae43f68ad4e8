import ControlBreak.Proofs.Execution.Segment
import ControlBreak.Proofs.Groups.Again

/-!
# Records that are refused

A record is *refused* if the host fails while it is consumed. It is offered to the groups
first, which consume it or stay as they are; then to the variables, which do likewise; and
then the values of all variables are shown. A refusal by the groups leaves the execution as
it was, but what follows cannot undo what the groups have consumed: then a break of a group
that the record makes is lost, as the record comes again with the keys that are there.

* `process_groups`: the groups take no notice of what the variables do, and so they have
  consumed the same records after any calls (`groups_foldl_process`);
* `totals_of_process_error`: the variables stay as they were if they can be shown;
* `process_unchanged_iff`: whether a record is consumed or leaves the execution as it was;
* `changes_of_retry`: no break of a group is reported when the record comes again.
-/

namespace ControlBreak

namespace Groups

variable {r : Registry} {g : Groups} {record : Value}

/-- The groups after a record was offered to them. -/
def offered (r : Registry) (g : Groups) (record : Value) : Groups :=
  match g.process r record with
  | .ok (g', _) => g'
  | .error _ => g

/-- The groups stay as they are only if they refuse the record: they count all others. -/
theorem offered_eq_self_iff : g.offered r record = g ↔ ∃ f, g.process r record = .error f := by
  rw [offered]
  split
  · rename_i g' step h
    have hcount := (process_eq_ok h).1
    simp only [h, reduceCtorEq, exists_false, iff_false]
    -- The count of a state is not that of the state after it.
    rintro rfl
    omega
  · rename_i f h
    simp [h]

end Groups

namespace Execution

variable {r : Registry} {e e' e'' : Execution} {record : Value} {s : ExecutionStep}

/-- The groups consume a record whether the variables do or not. -/
theorem process_groups : (e.process r record).1.groups = e.groups.offered r record := by
  rw [process, Groups.offered]
  split
  · simp [*]
  · split <;> simp [*]

/-- After any calls, the groups have consumed what they would have consumed alone. -/
theorem groups_foldl_process (records : List Value) :
    (records.foldl (fun e record => (e.process r record).1) e).groups =
      records.foldl (Groups.offered r) e.groups := by
  induction records generalizing e with
  | nil => rfl
  | cons record rest ih => rw [List.foldl_cons, List.foldl_cons, ih, process_groups]

/-- After a refusal the variables are as they were, unless they have taken the record and cannot
    be shown. -/
theorem totals_of_process_error {f : Fault} (h : e.process r record = (e', .error f)) :
    e'.totals = e.totals ∨ e'.totals.values = .error f := by
  rw [process] at h
  split at h
  · cases h
    exact .inl rfl
  split at h
  · cases h
    exact .inl rfl
  · rename_i totals errors _
    obtain ⟨rfl, hv⟩ := Prod.mk.inj h
    cases hs : totals.values with
    | error g =>
      rw [hs] at hv
      cases hv
      exact .inr rfl
    | ok shown =>
      rw [hs] at hv
      cases hv

/-- An execution stays as it was only if the groups refuse the record. -/
theorem process_eq_self_iff :
    (e.process r record).1 = e ↔ ∃ f, e.groups.process r record = .error f := by
  constructor
  · intro he
    rw [← Groups.offered_eq_self_iff, ← process_groups, he]
  · rintro ⟨g, hg⟩
    rw [process, hg]

/-- Consuming a record is all or nothing if and only if the groups refuse the record or
    nothing does. -/
theorem process_unchanged_iff (r : Registry) (e : Execution) (record : Value) :
    (∀ f, (e.process r record).2 = .error f → (e.process r record).1 = e) ↔
      (∃ f, e.groups.process r record = .error f) ∨ ∃ s, (e.process r record).2 = .ok s := by
  cases hr : (e.process r record).2 with
  | ok s => simp
  | error f =>
    simp only [reduceCtorEq, exists_false, or_false, ← process_eq_self_iff]
    exact ⟨fun h => h f rfl, fun h _ _ => h⟩

/-- After a refusal that changed something, the record breaks no group when it comes again,
    unless a key of it does not come back. -/
theorem changes_of_retry {f : Fault} (h : e.process r record = (e', .error f)) (hne : e' ≠ e)
    (hk : ∀ key ∈ e'.groups.scope.keys, key.recurs key = .ok true)
    (h' : e'.process r record = (e'', .ok s)) : s.step.changes = [.detail] := by
  obtain rfl : (e.process r record).1 = e' := congrArg Prod.fst h
  cases hg : e.groups.process r record with
  | error g => exact (hne (process_eq_self_iff.2 ⟨g, hg⟩)).elim
  | ok consumed =>
    obtain ⟨groups, step⟩ := consumed
    have hgroups : (e.process r record).1.groups = groups := by
      rw [process_groups, Groups.offered, hg]
    rw [hgroups] at hk
    exact Groups.changes_of_process_again hg hk (hgroups ▸ (process_eq_ok h').1)

/-- The least sale of a report and the total of each region. -/
def sums : Plan where
  definitions := [⟨"least", .min, .str "x", .report, none, .nil, .nil⟩,
    ⟨"total", .sum, .str "x", .group, some 1, .int 0, .nil⟩]
  dependencies := [("least", [.str "x"]), ("total", [.str "x"])]
  order := ["least", "total"]
  missingAsNil := true

/-- A sale in a region. -/
def sale (region : String) (x : Number) : Value :=
  .dict [(.str "region", .str region), (.str "x", .num x)]

/-- Variables refuse a sale that has no order, but the break of its region is consumed: the
    next sale of the region is added to the total of the region before. -/
theorem process_refused_in_part :
    (Plan.make {} sums.definitions none).run = .ok (.ok sums) ∧
    ∃ e e' e₁ e₂ s₁ s₂,
      Run .empty (.ofDefinitions [⟨"region", 1, .str "region", .ascending⟩] sums)
        [.record (sale "north" (.int 2)) []] e ∧
      e.process .empty (sale "south" (.dec (.nan false false 0 .fresh))) =
        (e', .error .invalidDecimal) ∧ e' ≠ e ∧
      e.process .empty (sale "south" (.int 5)) = (e₁, .ok s₁) ∧
        s₁.step.changes = [.group 1] ∧ s₁.values = [("least", .int 2), ("total", .int 5)] ∧
      e'.process .empty (sale "south" (.int 5)) = (e₂, .ok s₂) ∧
        s₂.step.changes = [.detail] ∧ s₂.values = [("least", .int 2), ("total", .int 7)] := by
  refine ⟨by cbv, ?_⟩
  obtain ⟨e, s, e', e₁, e₂, s₁, s₂, h, hc, hf, hcount, hcount', rest⟩ : ∃ e s e' e₁ e₂ s₁ s₂,
      (ofDefinitions [⟨"region", 1, .str "region", .ascending⟩] sums).process .empty
        (sale "north" (.int 2)) = (e, .ok s) ∧ s.step.changes = [] ∧
      e.process .empty (sale "south" (.dec (.nan false false 0 .fresh))) =
        (e', .error .invalidDecimal) ∧
      e.groups.scope.count = 1 ∧ e'.groups.scope.count = 2 ∧
      e.process .empty (sale "south" (.int 5)) = (e₁, .ok s₁) ∧
        s₁.step.changes = [.group 1] ∧ s₁.values = [("least", .int 2), ("total", .int 5)] ∧
      e'.process .empty (sale "south" (.int 5)) = (e₂, .ok s₂) ∧
        s₂.step.changes = [.detail] ∧ s₂.values = [("least", .int 2), ("total", .int 7)] :=
    ⟨_, _, _, _, _, _, _, by cbv, by cbv, by cbv, by cbv, by cbv, by cbv, by cbv, by cbv, by cbv,
      by cbv, by cbv⟩
  have hrun := Run.record .start h
  rw [hc] at hrun
  refine ⟨e, e', e₁, e₂, s₁, s₂, hrun, hf, ?_, rest⟩
  rintro rfl
  omega

end Execution

end ControlBreak
