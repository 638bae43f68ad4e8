import ControlBreak.Proofs.Expression.Summary
import ControlBreak.Proofs.Variables.Record
import Mathlib

/-!
# What variables read

Groups read a record directly. Variables read it through the values that they show: a chain of
these values and a view of the record, which answers two questions, whether it has a field and
which value the field has. The chain asks the values first, and the record only for what they do
not have.

* `chainLookup_eq`: asked both questions, a chain gives what a layered record does, with a field
  that is nothing told from one that is missing, and with the faults of the record;
* `evaluate_layered`: so an expression that refers to no variable has one outcome for the record
  and in the chain, and the name of a variable gives the value that it shows.
-/

namespace ControlBreak

/-! ### Chains of values and a view -/

section Chain

variable (layer : List (String × Value)) (record : Value) (name : String)

/-- Whether a chain of named values and the view of a record has a field. -/
def chainHas : Host Bool :=
  if (keyed? layer name).isSome then .ok true else record.hasField (.str name)

/-- The field of a chain, which it must have. -/
def chainValue : Host Value :=
  match keyed? layer name with
  | some v => .ok v
  | none => record.fieldValue (.str name)

/-- The field of a chain: its value is asked for only if the chain has it. -/
def chainLookup : Host (Option Value) := do
  if ← chainHas layer record name then return some (← chainValue layer record name)
  else return none

/-- A view has the fields of its record, and a value for each of them. -/
theorem lookup_view : (do
      if ← record.hasField (.str name) then return some (← record.fieldValue (.str name))
      else return none) = record.lookup (.str name) := by
  rw [Value.hasField, Value.fieldValue]
  cases record.lookup (.str name) with
  | error f => rfl
  | ok found =>
    cases found with
    | none => rfl
    | some v => rfl

/-- A layer hides the fields of the record that it names, and no others. -/
theorem lookup_layered : (Value.layered layer record).lookup (.str name) =
    (keyed? layer name).elim (record.lookup (.str name)) fun v => .ok (some v) := by
  have hkey : (Value.str name).asKey = .ok (.str name) := rfl
  rw [Value.lookup, hkey]
  cases h : keyed? layer name with
  | none => simp only [bind, Except.bind, h, Option.elim_none]
  | some v => simp only [bind, Except.bind, h, Option.elim_some]

/-- A chain is a layered record. -/
theorem chainLookup_eq :
    chainLookup layer record name = (Value.layered layer record).lookup (.str name) := by
  rw [lookup_layered, chainLookup, chainHas, chainValue]
  cases keyed? layer name with
  | none => exact lookup_view record name
  | some v => rfl

end Chain

/-! ### Expressions in contexts -/

namespace Registry

open Value Plan

theorem evaluate_of_field {r : Registry} {e name record : Value}
    (hn : e.node? = .ok (some (.field name))) : r.evaluate e record = record.readField name := by
  rw [evaluate]
  split <;> simp_all

/-- Variables read a record as groups do. A layered record is looked up as the chain that it
    stands for. An expression whose names are texts, that does not call into the host and that
    refers to nothing in the layer has one outcome, be it a value, an error or a fault, for the
    layered record and for the record itself, of whatever shape. The name of a value in the layer
    gives this value, whatever the record holds. Contexts are such records: their layer has the
    values that the variables show. -/
theorem evaluate_layered (r : Registry) (layer : List (String × Value)) (record : Value) :
    (∀ name, (layered layer record).lookup (.str name) = chainLookup layer record name) ∧
    (∀ e : Value, e.HasTextNames → e.callsHost = .ok false →
      ∃ names, e.references = .ok names ∧ ((∀ s, .str s ∈ names → keyed? layer s = none) →
        r.evaluate e (layered layer record) = r.evaluate e record)) ∧
    (∀ (e : Value) (s : String) (v : Value), e.node? = .ok (some (.field (.str s))) →
      keyed? layer s = some v → r.evaluate e (layered layer record) = pure v) ∧
    ∀ (p : Plan) (states : States) (context : Value), p.context states record = .ok context →
      ∃ shown, context = layered shown record ∧ ∀ s, keyed? shown s =
        (p.definition? s).bind fun d => (shownValue states d).toOption := by
  refine ⟨fun name => (chainLookup_eq layer record name).symm, fun e ht hh => ?_,
    fun e s v hn hs => ?_, fun p states context hc => ?_⟩
  · obtain ⟨names, hnames, -⟩ := exists_references e ht hh
    refine ⟨names, hnames, fun hlayer => evaluate_congr e hh (fun name hr => ?_) fun _ _ => rfl⟩
    obtain ⟨s, rfl⟩ := ht name (mentions_of_reads hr)
    rw [lookup_layered, hlayer s (mem_references_of_reads hr hnames), Option.elim_none]
  · have hlookup : (layered layer record).lookup (.str s) = .ok (some v) := by
      rw [lookup_layered, hs, Option.elim_some]
    rw [evaluate_of_field hn, readField, hlookup]
    rfl
  · obtain ⟨shown, hshown, rfl⟩ := context_eq_ok.1 hc
    exact ⟨shown, rfl, keyed?_layer hshown⟩

/-- The name of the customer of an order. -/
def customerName : Value :=
  .relatedRef [.str "customer"] (.str "name")

/-- An order without a customer. -/
def order : Value :=
  .object [("customer", .nil), ("total", .int 1)]

theorem evaluate_layered_order :
    customerName.HasTextNames ∧ customerName.callsHost = .ok false ∧
      customerName.references = .ok [.str "customer", .str "name"] ∧
      Registry.builtins.evaluate customerName (layered [("total", .int 12)] order) =
        Registry.builtins.evaluate customerName order ∧
      Registry.builtins.evaluate customerName order =
        throw (.relationshipNotFound (.str "customer")) ∧
      Registry.builtins.evaluate (.str "total") (layered [("total", .int 12)] order) =
        pure (.int 12) := by
  have ht : customerName.HasTextNames :=
    hasTextNames_of_related rfl (by simp [IsText]) ⟨_, rfl⟩
  have hh : customerName.callsHost = .ok false := by cbv
  have hr : customerName.references = .ok [.str "customer", .str "name"] := by cbv
  obtain ⟨-, hsame, hshown, -⟩ := evaluate_layered Registry.builtins [("total", .int 12)] order
  obtain ⟨names, hnames, hsame⟩ := hsame customerName ht hh
  obtain rfl := Except.ok.inj (hr.symm.trans hnames)
  refine ⟨ht, hh, hr, hsame fun s hs => ?_, ?_, hshown _ "total" _ rfl rfl⟩
  · obtain rfl | rfl : s = "customer" ∨ s = "name" := by simpa using hs
    · rfl
    · rfl
  · rw [evaluate]
    rfl

end Registry

end ControlBreak
