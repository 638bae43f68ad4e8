import ControlBreak.Proofs.Number.Comparison
import ControlBreak.Proofs.Variables.Accumulation

/-!
# The least and the greatest value

A variable for the least or the greatest value keeps the one that it has until another one is less,
or greater. The functions of these names do the same with their arguments, so both find the same
value among equal ones, and the same one beside values that are neither less nor greater than any.

* `better`: what is kept of two values, by the variables (`accumulate_eq_ok_iff`) and by the
  functions (`minimum_eq`, `maximum_eq`);
* `accumulateAll_value_iff`: so they agree on any values, those included that do not compare;
* `TotalOn`: a comparison that is a total order of values, as that of numbers is
  (`totalOn_of_numbers`). None of the values that were seen comes before the one that is kept, and
  one more value keeps this (`unbeaten_better`, `unbeaten_foldlM`);
* `accumulateAll_value_extreme`: a variable has the value of the function, the least or the greatest
  one in such an order, however the values are permuted.
-/

namespace ControlBreak

open Builtin (present)

/-! ### What is kept of two values -/

namespace Value

variable {c : Comparison} {best u v w : Value} {rest seen values : List Value}

/-- A value takes the place of the best one if it stands in the relation to it. -/
def better (c : Comparison) (best v : Value) : Host Value := do
  return if ← v.compares c best then v else best

theorem better_of_compares {chosen : Bool} (h : v.compares c best = .ok chosen) :
    better c best v = .ok (if chosen then v else best) := by
  rw [better, h]
  rfl

theorem better_eq_ok_iff : better c best v = .ok w ↔
    v.compares c best = .ok true ∧ w = v ∨ v.compares c best = .ok false ∧ w = best := by
  rw [better]
  rcases v.compares c best with f | _ | _ <;>
    simp [bind, Except.bind, pure, Except.pure, eq_comm]

/-- Functions that keep the better one of the best value and the next, all along. -/
theorem eq_foldlM_better {f : Value → List Value → Host Value}
    (hnil : ∀ best, f best [] = .ok best)
    (hcons : ∀ best v rest, f best (v :: rest) =
      do if ← v.compares c best then f v rest else f best rest)
    (best : Value) (rest : List Value) : f best rest = rest.foldlM (better c) best := by
  induction rest generalizing best with
  | nil => exact hnil best
  | cons v rest ih =>
    rw [hcons, List.foldlM_cons, better]
    rcases v.compares c best with f | _ | _
    exacts [rfl, ih best, ih v]

/-- One of some values is kept if each can be compared with those before it. -/
theorem exists_foldlM_eq_ok
    (h : (best :: rest).Pairwise fun v w => ∃ b, w.compares c v = .ok b) :
    ∃ w, rest.foldlM (better c) best = .ok w := by
  induction rest generalizing best with
  | nil => exact ⟨best, rfl⟩
  | cons v rest ih =>
    obtain ⟨hbest, hrest⟩ := List.pairwise_cons.1 h
    obtain ⟨chosen, hc⟩ := hbest v List.mem_cons_self
    have hnext : ((if chosen then v else best) :: rest).Pairwise
        fun v w => ∃ b, w.compares c v = .ok b := by
      cases chosen with
      | true => exact hrest
      | false => exact h.sublist ((List.sublist_cons_self v rest).cons_cons best)
    obtain ⟨w, hw⟩ := ih hnext
    exact ⟨w, Host.bind_eq_ok.2 ⟨_, better_of_compares hc, hw⟩⟩

/-! ### Total orders -/

/-- The relation is a strict total order of values, up to equality. -/
structure TotalOn (c : Comparison) (values : List Value) : Prop where
  asymm : ∀ v ∈ values, ∀ w ∈ values, v.compares c w = .ok true → w.compares c v = .ok false
  trans : ∀ u ∈ values, ∀ v ∈ values, ∀ w ∈ values, u.compares c v = .ok true →
    v.compares c w = .ok true → u.compares c w = .ok true
  equal : ∀ v ∈ values, ∀ w ∈ values, v.equals w = .ok true →
    v.compares c w = .ok false ∧ w.compares c v = .ok false
  total : ∀ v ∈ values, ∀ w ∈ values,
    v.compares c w = .ok true ∨ v.equals w = .ok true ∨ w.compares c v = .ok true

/-- One of the values that comes before all of them that it does not equal. -/
def IsExtreme (c : Comparison) (values : List Value) (v : Value) : Prop :=
  v ∈ values ∧ ∀ w ∈ values, v.compares c w = .ok true ∨ v.equals w = .ok true

theorem IsExtreme.of_perm {values' : List Value} (h : IsExtreme c values v)
    (hperm : values.Perm values') : IsExtreme c values' v :=
  ⟨hperm.mem_iff.1 h.1, fun w hw => h.2 w (hperm.mem_iff.2 hw)⟩

/-- One of the values that were seen, of which none comes before it. -/
structure Unbeaten (c : Comparison) (seen : List Value) (best : Value) : Prop where
  mem : best ∈ seen
  not_compares : ∀ u ∈ seen, u.compares c best ≠ .ok true

namespace TotalOn

/-- A relation that is that of places in an order is total. -/
theorem of_place {α : Type} [LinearOrder α] (place : Value → α)
    (hcompares : ∀ v ∈ values, ∀ w ∈ values, v.compares c w = .ok (decide (place v < place w)))
    (hequals : ∀ v ∈ values, ∀ w ∈ values, v.equals w = .ok (decide (place v = place w))) :
    TotalOn c values where
  asymm v hv w hw h := by
    rw [hcompares v hv w hw] at h
    rw [hcompares w hw v hv, decide_eq_false (lt_asymm (of_decide_eq_true (Except.ok.inj h)))]
  trans u hu v hv w hw huv hvw := by
    rw [hcompares u hu v hv] at huv
    rw [hcompares v hv w hw] at hvw
    have hlt : place u < place w :=
      (of_decide_eq_true (Except.ok.inj huv)).trans (of_decide_eq_true (Except.ok.inj hvw))
    rw [hcompares u hu w hw, decide_eq_true hlt]
  equal v hv w hw h := by
    rw [hequals v hv w hw] at h
    have heq : place v = place w := of_decide_eq_true (Except.ok.inj h)
    rw [hcompares v hv w hw, hcompares w hw v hv, heq, decide_eq_false (lt_irrefl _)]
    exact ⟨rfl, rfl⟩
  total v hv w hw := by
    rw [hcompares v hv w hw, hcompares w hw v hv, hequals v hv w hw]
    rcases lt_trichotomy (place v) (place w) with h | h | h
    exacts [.inl (by rw [decide_eq_true h]), .inr (.inl (by rw [decide_eq_true h])),
      .inr (.inr (by rw [decide_eq_true h]))]

theorem mono {values' : List Value} (h : TotalOn c values) (hsub : values' ⊆ values) :
    TotalOn c values' where
  asymm v hv w hw := h.asymm v (hsub hv) w (hsub hw)
  trans u hu v hv w hw := h.trans u (hsub hu) v (hsub hv) w (hsub hw)
  equal v hv w hw := h.equal v (hsub hv) w (hsub hw)
  total v hv w hw := h.total v (hsub hv) w (hsub hw)

/-- All values in a total order can be compared, those that are equal too. -/
theorem exists_compares (h : TotalOn c values) (hv : v ∈ values) (hw : w ∈ values) :
    ∃ b, v.compares c w = .ok b := by
  rcases h.total v hv w hw with hlt | heq | hgt
  exacts [⟨_, hlt⟩, ⟨_, (h.equal v hv w hw heq).1⟩, ⟨_, h.asymm w hw v hv hgt⟩]

theorem not_compares_self (h : TotalOn c values) (hv : v ∈ values) :
    v.compares c v ≠ .ok true := by
  intro hlt
  cases hlt.symm.trans (h.asymm v hv v hv hlt)

/-- A value that comes before the best one takes its place; what comes before it would have come
    before the best one, too. -/
theorem unbeaten_better (h : TotalOn c (seen ++ [v])) (hbest : Unbeaten c seen best)
    (hw : better c best v = .ok w) : Unbeaten c (seen ++ [v]) w := by
  have hv : v ∈ seen ++ [v] := List.mem_append_right seen List.mem_cons_self
  have hmem : best ∈ seen ++ [v] := List.mem_append_left [v] hbest.mem
  obtain ⟨hc, rfl⟩ | ⟨hc, rfl⟩ := better_eq_ok_iff.1 hw
  · refine ⟨hv, fun u hu hlt => ?_⟩
    rcases List.mem_append.1 hu with hseen | hself
    · exact hbest.not_compares u hseen (h.trans u hu w hv best hmem hlt hc)
    · rw [List.mem_singleton.1 hself] at hlt
      exact h.not_compares_self hv hlt
  · refine ⟨hmem, fun u hu hlt => ?_⟩
    rcases List.mem_append.1 hu with hseen | hself
    · exact hbest.not_compares u hseen hlt
    · rw [List.mem_singleton.1 hself] at hlt
      cases hlt.symm.trans hc

/-- Values that are taken one after the other, some of which were seen before. -/
theorem unbeaten_foldlM (h : TotalOn c (seen ++ rest)) (hbest : Unbeaten c seen best)
    (hw : rest.foldlM (better c) best = .ok w) : Unbeaten c (seen ++ rest) w := by
  induction rest generalizing best seen with
  | nil =>
    cases hw
    rwa [List.append_nil]
  | cons v rest ih =>
    rw [List.foldlM_cons, Host.bind_eq_ok] at hw
    obtain ⟨next, hnext, hw⟩ := hw
    rw [List.append_cons] at h ⊢
    have hstep := (h.mono (List.subset_append_left _ rest)).unbeaten_better hbest hnext
    exact ih h hstep hw

theorem isExtreme (h : TotalOn c values) (hw : Unbeaten c values w) : IsExtreme c values w := by
  refine ⟨hw.mem, fun u hu => ?_⟩
  rcases h.total w hw.mem u hu with hlt | heq | hgt
  exacts [.inl hlt, .inr heq, absurd hgt (hw.not_compares u hu)]

/-- Extremes of values in a total order are equal. -/
theorem equals_of_isExtreme (h : TotalOn c values) (hv : IsExtreme c values v)
    (hw : IsExtreme c values w) : v.equals w = .ok true := by
  rcases hv.2 w hw.1 with hlt | heq
  · rcases hw.2 v hv.1 with hgt | heq
    · cases hgt.symm.trans (h.asymm v hv.1 w hw.1 hlt)
    · cases hlt.symm.trans (h.equal w hw.1 v hv.1 heq).2
  · exact heq

end TotalOn

theorem equals_of_number? {a b : Number} (hv : v.number? = some a) (hw : w.number? = some b) :
    v.equals w = hostNumber (a.equals b) := by
  cases v with
  | num | bool =>
    cases hv
    simp only [equals, hw]
  | _ => cases hv

/-- Numbers that are defined are in a total order, that of their places on the line. -/
theorem totalOn_of_numbers (hc : c = .lt ∨ c = .gt)
    (h : ∀ v ∈ values, ∃ n, v.number? = some n ∧ n.extended ≠ .undefined) : TotalOn c values := by
  choose! number hnumber hdefined using h
  let place v := (number v).extended.place
  have hcompares : ∀ v ∈ values, ∀ w ∈ values,
      v.compares c w = .ok (c.holds (cmp (place v) (place w))) := by
    intro v hv w hw
    rw [compares_of_number? (hnumber v hv) (hnumber w hw),
      Number.compares_eq (hdefined v hv) (hdefined w hw)]
    rfl
  have hequals : ∀ v ∈ values, ∀ w ∈ values,
      v.equals w = .ok (decide (place v = place w)) := by
    intro v hv w hw
    rw [equals_of_number? (hnumber v hv) (hnumber w hw),
      Number.equals_eq (hdefined v hv) (hdefined w hw)]
    rfl
  rcases hc with rfl | rfl
  · exact .of_place place (fun v hv w hw => by rw [hcompares v hv w hw, Comparison.holds_lt_cmp])
      hequals
  -- What is greater comes first.
  · exact .of_place (fun v => OrderDual.toDual (place v))
      (fun v hv w hw => by rw [hcompares v hv w hw, Comparison.holds_gt_cmp]; rfl) hequals

end Value

/-! ### The function -/

namespace Builtin

/-- The function that keeps the best of its arguments that are there. -/
def extreme (c : Comparison) (args : List Value) : Host Value :=
  match present args with
  | [] => .ok .nil
  | v :: rest => rest.foldlM (Value.better c) v

variable {c : Comparison} {args : List Value} {v : Value}

theorem minimum_eq (args : List Value) : minimum args = extreme .lt args := by
  rw [minimum, extreme]
  cases present args with
  | nil => rfl
  | cons v rest => exact Value.eq_foldlM_better (fun _ => rfl) (fun _ _ _ => rfl) v rest

theorem maximum_eq (args : List Value) : maximum args = extreme .gt args := by
  rw [maximum, extreme]
  cases present args with
  | nil => rfl
  | cons v rest => exact Value.eq_foldlM_better (fun _ => rfl) (fun _ _ _ => rfl) v rest

theorem exists_extreme_eq_ok
    (h : (present args).Pairwise fun v w => ∃ b, w.compares c v = .ok b) :
    ∃ v, extreme c args = .ok v := by
  rw [extreme]
  cases hargs : present args with
  | nil => exact ⟨.nil, rfl⟩
  | cons v rest =>
    rw [hargs] at h
    exact Value.exists_foldlM_eq_ok h

theorem isExtreme_extreme (h : Value.TotalOn c (present args)) (hv : extreme c args = .ok v)
    (hne : present args ≠ []) : Value.IsExtreme c (present args) v := by
  rw [extreme] at hv
  cases hargs : present args with
  | nil => exact absurd hargs hne
  | cons w rest =>
    rw [hargs] at h hv
    have hfirst : Value.Unbeaten c [w] w :=
      ⟨List.mem_cons_self, List.forall_mem_singleton.2 (h.not_compares_self List.mem_cons_self)⟩
    have htotal : Value.TotalOn c ([w] ++ rest) := h
    exact h.isExtreme (htotal.unbeaten_foldlM hfirst hv)

/-- The function has an equal value for its arguments in another order. -/
theorem exists_extreme_of_perm {args' : List Value} (h : Value.TotalOn c (present args))
    (hperm : args'.Perm args) (hv : extreme c args = .ok v) :
    ∃ w, extreme c args' = .ok w ∧ w.equals v = .ok true := by
  have hpresent : (present args').Perm (present args) := hperm.filter _
  have hsub : present args' ⊆ present args := hpresent.subset
  have hpairs : (present args').Pairwise fun v w => ∃ b, w.compares c v = .ok b :=
    List.pairwise_of_forall_mem_list fun v hv w hw => h.exists_compares (hsub hw) (hsub hv)
  obtain ⟨w, hw⟩ := exists_extreme_eq_ok hpairs
  refine ⟨w, hw, ?_⟩
  by_cases hne : present args = []
  · have hnil : present args' = [] := List.perm_nil.1 (hne ▸ hpresent)
    rw [extreme, hne] at hv
    rw [extreme, hnil] at hw
    rw [← Except.ok.inj hv, ← Except.ok.inj hw]
    rfl
  · have hne' : present args' ≠ [] := fun hnil => hne (List.nil_perm.1 (hnil ▸ hpresent))
    have hextreme := isExtreme_extreme (h.mono hsub) hw hne'
    exact h.equals_of_isExtreme (hextreme.of_perm hpresent) (isExtreme_extreme h hv hne)

end Builtin

/-! ### The variables -/

namespace AggregateKind

/-- The relation in which a value takes the place of another: the least and the greatest value are
    kept by comparing. -/
def relation? : AggregateKind → Option Comparison
  | .min => some .lt
  | .max => some .gt
  | _ => none

variable {kind : AggregateKind} {c : Comparison} {s s' : VariableState} {v w : Value}
  {values : List Value}

/-- The function of a kind is registered under its name. -/
theorem find?_builtins_name (hk : kind.relation? = some c) :
    Registry.builtins.find? kind.name = some (Builtin.variadic (Builtin.extreme c)) := by
  cases kind with
  | min =>
    cases hk
    rw [← funext Builtin.minimum_eq]
    rfl
  | max =>
    cases hk
    rw [← funext Builtin.maximum_eq]
    rfl
  | _ => cases hk

theorem choose_eq_ok_iff {old new : Value} :
    (choose kind c old new).run = .ok (.ok v) ↔ Value.better c old new = .ok v := by
  rw [choose]
  cases hc : new.compares c old with
  | ok chosen =>
    rw [Value.better_of_compares hc]
    cases chosen <;> exact Evaluation.pure_eq_ok.trans (Except.ok.injEq _ _).to_iff.symm
  | error f =>
    rw [Value.better, hc]
    refine iff_of_false (fun h => ?_) (fun h => ?_)
    · cases f <;> cases h
    · cases h

theorem accumulate_eq_ok_iff (hk : kind.relation? = some c) (hs : s.value ≠ .nil) (hv : v ≠ .nil) :
    (kind.accumulate s v).run = .ok (.ok s') ↔
      ∃ w, Value.better c s.value v = .ok w ∧ s.withValue w = s' := by
  have hjoin : kind.join s.value v = choose kind c s.value v := by
    cases kind with
    | min | max =>
      cases hk
      rfl
    | _ => cases hk
  rw [accumulate_join hs hv, hjoin, Evaluation.bind_eq_ok]
  simp only [choose_eq_ok_iff, Evaluation.pure_eq_ok]

/-- From a value on, a variable keeps what is kept of that and the others. -/
theorem accumulateAll_value_iff_foldlM (hk : kind.relation? = some c) (hs : s.value ≠ .nil)
    (hv : ∀ v ∈ values, v ≠ .nil) :
    (∃ s', (kind.accumulateAll s values).run = .ok (.ok s') ∧ s'.value = w) ↔
      values.foldlM (Value.better c) s.value = .ok w := by
  induction values generalizing s with
  | nil =>
    constructor
    · rintro ⟨s', h, rfl⟩
      rw [Evaluation.pure_eq_ok.1 h]
      rfl
    · intro h
      exact ⟨s, rfl, Except.ok.inj h⟩
  | cons v values ih =>
    obtain ⟨hv, hrest⟩ := List.forall_mem_cons.1 hv
    have hnext : ∀ u, Value.better c s.value v = .ok u → (s.withValue u).value ≠ .nil := by
      intro u hu
      obtain ⟨-, rfl⟩ | ⟨-, rfl⟩ := Value.better_eq_ok_iff.1 hu <;> assumption
    rw [accumulateAll_cons, List.foldlM_cons, Host.bind_eq_ok]
    simp only [Evaluation.bind_eq_ok, accumulate_eq_ok_iff hk hs hv]
    constructor
    · rintro ⟨s', ⟨_, ⟨u, hu, rfl⟩, h⟩, hw⟩
      exact ⟨u, hu, (ih (hnext u hu) hrest).1 ⟨s', h, hw⟩⟩
    · rintro ⟨u, hu, h⟩
      obtain ⟨s', h, hw⟩ := (ih (hnext u hu) hrest).2 h
      exact ⟨s', ⟨_, ⟨u, hu, rfl⟩, h⟩, hw⟩

/-- A variable without a value comes to the value of the function. -/
theorem accumulateAll_value_iff (hk : kind.relation? = some c) (hs : s.value = .nil) :
    (∃ s', (kind.accumulateAll s values).run = .ok (.ok s') ∧ s'.value = w) ↔
      Builtin.extreme c values = .ok w := by
  have hcount : kind ≠ .count := by rintro rfl; cases hk
  have hcustom : kind ≠ .custom := by rintro rfl; cases hk
  rw [← accumulateAll_present hcount hcustom, Builtin.extreme]
  cases hvalues : present values with
  | nil =>
    constructor
    · rintro ⟨s', h, rfl⟩
      rw [← Evaluation.pure_eq_ok.1 h, hs]
    · intro h
      exact ⟨s, rfl, hs.trans (Except.ok.inj h)⟩
  | cons v rest =>
    have hpresent : ∀ u ∈ v :: rest, u ≠ .nil := fun u hu =>
      (Builtin.mem_present.1 (hvalues ▸ hu)).2
    obtain ⟨hv, hrest⟩ := List.forall_mem_cons.1 hpresent
    rw [accumulateAll_cons, accumulate_first hcount hs hv, pure_bind]
    exact accumulateAll_value_iff_foldlM hk hv hrest

end AggregateKind

namespace VariableDefinition

variable {d : VariableDefinition} {c : Comparison} {values : List Value}

/-- A variable for the least or the greatest value takes all values that can be compared, and has
    the value then that the function of its name has for them. In a total order that is the least
    or the greatest one, and an equal one however the values are permuted. -/
theorem accumulateAll_value_extreme (hk : d.kind.relation? = some c)
    (hi : d.initial = d.kind.defaultInitial)
    (hc : (present values).Pairwise fun v w => ∃ b, w.compares c v = .ok b) :
    ∃ s f, (d.kind.accumulateAll d.initialState values).run = .ok (.ok s) ∧
      Registry.builtins.get? (.str d.kind.name) = .ok (some f) ∧ f values = .value s.value ∧
      (present values = [] → s.value = .nil) ∧
      (Value.TotalOn c (present values) →
        (present values ≠ [] → Value.IsExtreme c (present values) s.value) ∧
        ∀ values', values'.Perm values → ∃ s',
          (d.kind.accumulateAll d.initialState values').run = .ok (.ok s') ∧
          s'.value.equals s.value = .ok true) := by
  have hs : d.initialState.value = .nil := by
    rw [initialState, hi]
    cases hkind : d.kind with
    | min | max => rfl
    | _ =>
      rw [hkind] at hk
      cases hk
  obtain ⟨v, hv⟩ := Builtin.exists_extreme_eq_ok hc
  obtain ⟨s, hrun, rfl⟩ := (AggregateKind.accumulateAll_value_iff hk hs).2 hv
  refine ⟨s, Builtin.variadic (Builtin.extreme c), hrun, ?_, ?_, ?_, fun htotal => ⟨?_, ?_⟩⟩
  · rw [Registry.get?, ← AggregateKind.find?_builtins_name hk]
    rfl
  · rw [Builtin.variadic, hv]
    rfl
  · intro hnil
    rw [Builtin.extreme, hnil] at hv
    exact (Except.ok.inj hv).symm
  · exact Builtin.isExtreme_extreme htotal hv
  · intro values' hperm
    obtain ⟨w, hw, heq⟩ := Builtin.exists_extreme_of_perm htotal hperm hv
    obtain ⟨s', hrun', rfl⟩ := (AggregateKind.accumulateAll_value_iff hk hs).2 hw
    exact ⟨s', hrun', heq⟩

/-- Equal numbers of three kinds after a greater one, with nothing before them. -/
def equalAmounts : List Value :=
  [.nil, .int 2, .int 1, .bool true, .num (.float (.finite false (2 ^ 52) (-52)))]

/-- The first of the equal numbers is kept. -/
theorem accumulateAll_value_extreme_equalAmounts :
    leastOf.kind.relation? = some .lt ∧ leastOf.initial = leastOf.kind.defaultInitial ∧
    ((present equalAmounts).Pairwise fun v w => ∃ b, w.compares .lt v = .ok b) ∧
    Value.TotalOn .lt (present equalAmounts) ∧
    ∃ s, (leastOf.kind.accumulateAll leastOf.initialState equalAmounts).run = .ok (.ok s) ∧
      s.value = .int 1 ∧ Value.IsExtreme .lt (present equalAmounts) s.value := by
  have htotal : Value.TotalOn .lt (present equalAmounts) := by
    refine Value.totalOn_of_numbers (.inl rfl) fun v hv => ?_
    obtain ⟨hv, hne⟩ := Builtin.mem_present.1 hv
    simp only [equalAmounts, List.mem_cons, List.not_mem_nil, or_false] at hv
    rcases hv with rfl | rfl | rfl | rfl | rfl
    exacts [absurd rfl hne, ⟨_, rfl, nofun⟩, ⟨_, rfl, nofun⟩, ⟨_, rfl, nofun⟩, ⟨_, rfl, nofun⟩]
  have hpairs : (present equalAmounts).Pairwise fun v w => ∃ b, w.compares .lt v = .ok b :=
    List.pairwise_of_forall_mem_list fun v hv w hw => htotal.exists_compares hw hv
  obtain ⟨s, f, hrun, -, -, -, h⟩ := accumulateAll_value_extreme (d := leastOf) rfl rfl hpairs
  refine ⟨rfl, rfl, hpairs, htotal, s, hrun, ?_, (h htotal).1 (by decide)⟩
  have hfinal : (leastOf.kind.accumulateAll leastOf.initialState equalAmounts).run =
      .ok (.ok ⟨.int 1, 4, 4⟩) := rfl
  rw [← Except.ok.inj (Except.ok.inj (hfinal.symm.trans hrun))]

end VariableDefinition

end ControlBreak
