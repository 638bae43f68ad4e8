import ControlBreak.EvalError
import Mathlib.Data.List.Forall2
import Mathlib.Tactic.Common

/-!
# Operations in sequence

What it takes for operations of the host, and for evaluations, to end with a result
when they are done one after the other.
-/

namespace ControlBreak

variable {ε α β : Type}

namespace Host

theorem bind_eq_ok {x : Except ε α} {f : α → Except ε β} {b : β} :
    x >>= f = .ok b ↔ ∃ a, x = .ok a ∧ f a = .ok b := by
  cases x <;> simp [bind, Except.bind]

theorem bind_eq_error {x : Except ε α} {f : α → Except ε β} {e : ε} :
    x >>= f = .error e ↔ x = .error e ∨ ∃ a, x = .ok a ∧ f a = .error e := by
  cases x <;> simp [bind, Except.bind]

theorem map_eq_ok {x : Except ε α} {f : α → β} {b : β} :
    x.map f = .ok b ↔ ∃ a, x = .ok a ∧ f a = b := by
  cases x <;> simp [Except.map]

theorem map_eq_error {x : Except ε α} {f : α → β} {e : ε} : x.map f = .error e ↔ x = .error e := by
  cases x <;> simp [Except.map]

theorem mapM_eq_ok {f : α → Except ε β} {as : List α} {bs : List β} :
    as.mapM f = .ok bs ↔ List.Forall₂ (fun a b => f a = .ok b) as bs := by
  induction as generalizing bs with
  | nil =>
    rw [List.mapM_nil, List.forall₂_nil_left_iff]
    simp [pure, Except.pure, eq_comm]
  | cons a as ih =>
    rw [List.mapM_cons, bind_eq_ok, List.forall₂_cons_left_iff]
    simp only [bind_eq_ok, ih, pure, Except.pure, Except.ok.injEq]
    constructor
    · rintro ⟨b, hb, rest, hr, rfl⟩
      exact ⟨b, rest, hb, hr, rfl⟩
    · rintro ⟨b, rest, hb, hr, rfl⟩
      exact ⟨b, hb, rest, hr, rfl⟩

theorem mapM_congr {f g : α → Except ε β} {as : List α} (h : ∀ a ∈ as, f a = g a) :
    as.mapM f = as.mapM g := by
  induction as with
  | nil => rfl
  | cons a as ih =>
    obtain ⟨ha, h⟩ := List.forall_mem_cons.1 h
    rw [List.mapM_cons, List.mapM_cons, ha, ih h]

theorem exists_mem_of_mapM_eq_ok {f : α → Except ε β} {as : List α} {bs : List β} {a : α}
    (h : as.mapM f = .ok bs) (ha : a ∈ as) : ∃ b ∈ bs, f a = .ok b := by
  rw [mapM_eq_ok] at h
  induction h with
  | nil => cases ha
  | @cons _ b _ _ hb _ ih =>
    rcases List.mem_cons.1 ha with rfl | ha
    · exact ⟨b, List.mem_cons_self, hb⟩
    · obtain ⟨b, hm, hb⟩ := ih ha
      exact ⟨b, List.mem_cons_of_mem _ hm, hb⟩

theorem exists_of_mem_mapM {f : α → Except ε β} {as : List α} {bs : List β} {b : β}
    (h : as.mapM f = .ok bs) (hb : b ∈ bs) : ∃ a ∈ as, f a = .ok b := by
  rw [mapM_eq_ok] at h
  induction h with
  | nil => cases hb
  | @cons a _ _ _ ha _ ih =>
    rcases List.mem_cons.1 hb with rfl | hb
    · exact ⟨a, List.mem_cons_self, ha⟩
    · obtain ⟨a, hm, ha⟩ := ih hb
      exact ⟨a, List.mem_cons_of_mem _ hm, ha⟩

theorem exists_of_mapM_eq_ok {f : α → Except ε β} {as : List α} {bs : List β} {a : α}
    (h : as.mapM f = .ok bs) (ha : a ∈ as) : ∃ b, f a = .ok b :=
  let ⟨b, _, hb⟩ := exists_mem_of_mapM_eq_ok h ha
  ⟨b, hb⟩

theorem exists_mapM_eq_ok {f : α → Except ε β} {as : List α} (h : ∀ a ∈ as, ∃ b, f a = .ok b) :
    ∃ bs, as.mapM f = .ok bs := by
  induction as with
  | nil => exact ⟨[], rfl⟩
  | cons a as ih =>
    obtain ⟨⟨b, hb⟩, h⟩ := List.forall_mem_cons.1 h
    obtain ⟨bs, hbs⟩ := ih h
    exact ⟨b :: bs, mapM_eq_ok.2 (.cons hb (mapM_eq_ok.1 hbs))⟩

theorem exists_foldlM_eq_ok {f : β → α → Except ε β} {as : List α}
    (h : ∀ a ∈ as, ∀ b, ∃ b', f b a = .ok b') (b : β) : ∃ b', as.foldlM f b = .ok b' := by
  induction as generalizing b with
  | nil => exact ⟨b, rfl⟩
  | cons a as ih =>
    obtain ⟨ha, h⟩ := List.forall_mem_cons.1 h
    obtain ⟨next, hnext⟩ := ha b
    obtain ⟨last, hlast⟩ := ih h next
    exact ⟨last, bind_eq_ok.2 ⟨next, hnext, hlast⟩⟩

end Host

namespace Evaluation

variable {x : ExceptT ε Host α} {f : α → ExceptT ε Host β}

theorem bind_eq_ok {b : β} :
    (x >>= f).run = .ok (.ok b) ↔ ∃ a, x.run = .ok (.ok a) ∧ (f a).run = .ok (.ok b) := by
  rw [ExceptT.run_bind, Host.bind_eq_ok]
  constructor
  · rintro ⟨a | a, ha, hb⟩
    · cases hb
    · exact ⟨a, ha, hb⟩
  · rintro ⟨a, ha, hb⟩
    exact ⟨.ok a, ha, hb⟩

theorem pure_eq_ok {a b : α} :
    (pure a : ExceptT ε Host α).run = .ok (.ok b) ↔ a = b := by
  rw [ExceptT.run_pure]
  simp [pure, Except.pure]

/-- A sequence ends as its first part does if that fails, and else as its second part. -/
theorem bind_eq {outcome : Except ε β} :
    (x >>= f).run = .ok outcome ↔ (∃ e, x.run = .ok (.error e) ∧ outcome = .error e) ∨
      ∃ a, x.run = .ok (.ok a) ∧ (f a).run = .ok outcome := by
  rw [ExceptT.run_bind, Host.bind_eq_ok]
  constructor
  · rintro ⟨e | a, ha, hb⟩
    · cases hb
      exact .inl ⟨e, ha, rfl⟩
    · exact .inr ⟨a, ha, hb⟩
  · rintro (⟨e, he, rfl⟩ | ⟨a, ha, hb⟩)
    exacts [⟨.error e, he, rfl⟩, ⟨.ok a, ha, hb⟩]

theorem lift_eq_ok {y : Host α} {a : α} :
    (ExceptT.lift y : ExceptT ε Host α).run = .ok (.ok a) ↔ y = .ok a := by
  cases y <;> simp [ExceptT.run_lift]

/-- A sequence fails where its first part fails, or where its second part does with a value
    of the first. -/
theorem bind_eq_fault {f' : Fault} : (x >>= f).run = .error f' ↔
    x.run = .error f' ∨ ∃ a, x.run = .ok (.ok a) ∧ (f a).run = .error f' := by
  rw [ExceptT.run_bind]
  rcases x.run with g | e | a <;> simp [bind, Except.bind, pure, Except.pure]

theorem lift_eq_fault {y : Host α} {f : Fault} :
    (ExceptT.lift y : ExceptT ε Host α).run = .error f ↔ y = .error f := by
  cases y <;> simp [ExceptT.run_lift]

theorem pure_ne_fault {a : α} {f : Fault} : (pure a : ExceptT ε Host α).run ≠ .error f := nofun

theorem throw_ne_fault {e : ε} {f : Fault} : (throw e : ExceptT ε Host α).run ≠ .error f := nofun

theorem lift_ne_error {y : Host α} {e : ε} :
    (ExceptT.lift y : ExceptT ε Host α).run ≠ .ok (.error e) := by
  cases y <;> simp [ExceptT.run_lift]

end Evaluation

end ControlBreak
