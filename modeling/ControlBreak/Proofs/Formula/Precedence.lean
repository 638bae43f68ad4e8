import ControlBreak.Formula.Parser
import Mathlib.Tactic.Common

/-!
# Precedence

Of the trees that the grammar has for a sequence of tokens, the table of precedence
admits one at most. It speaks of the places where a rule meets an operator to its
right: the rule is *completed* before the operator if it binds tighter, or alike and
from the left, and the operator *extends* the last operand of the rule if it binds
tighter. Two comparisons do neither.

The rules that meet an operator are those that end where its left operand ends; the
operators that extend an operand are those whose left operand starts where it starts.

* `settle_spine`: the machine completes what stands on the stack as the table says;
* `settle_fits`: and nothing else.
-/

namespace ControlBreak

namespace Formula

namespace Binding

/-- Whether operators that bind alike are completed from the left. -/
def isLeft : Binding → Bool
  | .or | .and | .sum | .product => true
  | .closing | .not | .comparison | .negation => false

/-- A rule is completed before an operator that comes after it. -/
def Completes (rule next : Binding) : Prop :=
  next.level < rule.level ∨ next = rule ∧ rule.isLeft = true

/-- An operator extends the last operand of a rule that it comes after. -/
def Extends (next rule : Binding) : Prop :=
  rule.level < next.level

instance (rule next : Binding) : Decidable (rule.Completes next) :=
  inferInstanceAs (Decidable (_ ∨ _))

instance (next rule : Binding) : Decidable (next.Extends rule) :=
  inferInstanceAs (Decidable (_ < _))

theorem level_injective {b c : Binding} (h : b.level = c.level) : b = c := by
  cases b <;> cases c <;> simp [level] at h ⊢

theorem level_le_negation (b : Binding) : b.level ≤ Binding.negation.level := by
  cases b <;> decide

theorem isLeft_of_ne_comparison {op : BinaryOp} (h : op.binding ≠ .comparison) :
    op.binding.isLeft = true := by
  cases op <;> simp [BinaryOp.binding, isLeft] at h ⊢

variable {rule next : Binding}

theorem Completes.not_lt (h : rule.Completes next) : ¬rule.level < next.level := by
  rcases h with h | ⟨rfl, -⟩
  exacts [Nat.not_lt_of_gt h, Nat.lt_irrefl _]

theorem Completes.not_comparison (h : rule.Completes next) :
    ¬(rule = .comparison ∧ next = .comparison) := by
  rintro ⟨rfl, rfl⟩
  rcases h with h | ⟨-, h⟩
  · exact Nat.lt_irrefl _ h
  · cases h

theorem completes_of_not_lt (h : ¬rule.level < next.level) (hl : next = rule → rule.isLeft = true) :
    rule.Completes next := by
  rcases Nat.lt_or_eq_of_le (Nat.le_of_not_lt h) with h | h
  · exact .inl h
  · exact .inr ⟨level_injective h, hl (level_injective h)⟩

end Binding

namespace Tree

/-- The rules that end where a formula ends, from the outermost. -/
def ends : Tree → List Binding
  | .negation operand => .negation :: ends operand
  | .not _ operand => .not :: ends operand
  | .binary op _ right => op.binding :: ends right
  | _ => []
  termination_by structural t => t

/-- The operators whose left operands start where a formula starts, from the
    outermost. -/
def begins : Tree → List Binding
  | .binary op left _ => op.binding :: begins left
  | _ => []
  termination_by structural t => t

mutual

/-- The table of precedence admits a formula. -/
def Obeys : Tree → Prop
  | .constant _ => True
  | .field _ => True
  | .path .. => True
  | .call _ args => ObeysAll args
  | .group inner => Obeys inner
  | .negation operand => Obeys operand ∧ ∀ b ∈ operand.begins, b.Extends .negation
  | .not _ operand => Obeys operand ∧ ∀ b ∈ operand.begins, b.Extends .not
  | .binary op left right =>
    (Obeys left ∧ ∀ b ∈ left.ends, b.Completes op.binding) ∧
      Obeys right ∧ ∀ b ∈ right.begins, b.Extends op.binding
  termination_by structural t => t

/-- The table of precedence admits all arguments. -/
def ObeysAll : List Tree → Prop
  | [] => True
  | arg :: rest => Obeys arg ∧ ObeysAll rest
  termination_by structural args => args

end

theorem obeysAll_iff {args : List Tree} : ObeysAll args ↔ ∀ arg ∈ args, arg.Obeys := by
  induction args with
  | nil => simp [ObeysAll]
  | cons arg rest ih => simp [ObeysAll, ih]

mutual

/-- Whether the table of precedence admits a formula can be computed. -/
def decidableObeys : (t : Tree) → Decidable t.Obeys
  | .constant _ => isTrue trivial
  | .field _ => isTrue trivial
  | .path .. => isTrue trivial
  | .call _ args => decidableObeysAll args
  | .group inner => decidableObeys inner
  | .negation operand =>
    have := decidableObeys operand
    inferInstanceAs (Decidable (_ ∧ _))
  | .not _ operand =>
    have := decidableObeys operand
    inferInstanceAs (Decidable (_ ∧ _))
  | .binary _ left right =>
    have := decidableObeys left
    have := decidableObeys right
    inferInstanceAs (Decidable ((_ ∧ _) ∧ _ ∧ _))
  termination_by structural t => t

/-- Whether the table of precedence admits all arguments can be computed. -/
def decidableObeysAll : (args : List Tree) → Decidable (ObeysAll args)
  | [] => isTrue trivial
  | arg :: rest =>
    have := decidableObeys arg
    have := decidableObeysAll rest
    inferInstanceAs (Decidable (_ ∧ _))
  termination_by structural args => args

end

instance (t : Tree) : Decidable t.Obeys := decidableObeys t

/-- Two comparisons do not meet, but they may have a `not` between them. -/
example : ¬(binary .eq (.binary .eq (.field "a") (.field "b")) (.field "c")).Obeys ∧
    (binary .eq (.field "a") (.not "not" (.binary .eq (.field "b") (.field "c")))).Obeys := by
  decide

theorem level_pos_of_mem_ends : ∀ (t : Tree) {b : Binding}, b ∈ t.ends → 0 < b.level
  | .negation operand, b, hb => by
    rcases List.mem_cons.1 hb with rfl | hb
    exacts [by decide, level_pos_of_mem_ends operand hb]
  | .not _ operand, b, hb => by
    rcases List.mem_cons.1 hb with rfl | hb
    exacts [by decide, level_pos_of_mem_ends operand hb]
  | .binary op _ right, b, hb => by
    rcases List.mem_cons.1 hb with rfl | hb
    exacts [by cases op <;> simp [BinaryOp.binding, Binding.level], level_pos_of_mem_ends right hb]
  | .constant _, _, hb => by cases hb
  | .field _, _, hb => by cases hb
  | .path .., _, hb => by cases hb
  | .call .., _, hb => by cases hb
  | .group _, _, hb => by cases hb

/-! ### Trees on the stack -/

/-- What waits on the stack when all tokens of a formula were read, the top first. -/
def spine : Tree → List Frame
  | .negation operand => spine operand ++ [.negation]
  | .not spelling operand => spine operand ++ [.not spelling]
  | .binary op left right => spine right ++ [.operator op left]
  | _ => []
  termination_by structural t => t

/-- The operand that a formula ends with. -/
def last : Tree → Tree
  | .negation operand => last operand
  | .not _ operand => last operand
  | .binary _ _ right => last right
  | t => t
  termination_by structural t => t

end Tree

/-- The rule that completes what waits on the stack. -/
def Frame.binding? : Frame → Option Binding
  | .operator op _ => some op.binding
  | .not _ => some .not
  | .negation => some .negation
  | .group => none
  | .call .. => none

/-- Operators that may extend what waits on the top of a stack. -/
def Admits (stack : List Frame) (operators : List Binding) : Prop :=
  ∀ f ∈ stack.head?, ∀ rule ∈ f.binding?, ∀ b ∈ operators, b.Extends rule

variable {stack stack' : List Frame} {binding : Binding} {t t' : Tree}

theorem admits_cons {f : Frame} {operators : List Binding} : Admits (f :: stack) operators ↔
    ∀ rule ∈ f.binding?, ∀ b ∈ operators, b.Extends rule := by
  simp [Admits]

theorem admits_nil : Admits stack [] := by
  simp [Admits]

theorem Admits.cons {b : Binding} {operators : List Binding} (hb : Admits stack [b])
    (h : Admits stack operators) : Admits stack (b :: operators) := fun f hf rule hr =>
  List.forall_mem_cons.2 ⟨hb f hf rule hr b (List.mem_singleton_self b), h f hf rule hr⟩

theorem Admits.subset {operators others : List Binding} (h : Admits stack operators)
    (hs : others ⊆ operators) : Admits stack others := fun f hf rule hr b hb =>
  h f hf rule hr b (hs hb)

theorem admits_empty (operators : List Binding) : Admits [] operators := by
  simp [Admits]

theorem admits_group (operators : List Binding) : Admits (.group :: stack) operators := by
  simp [admits_cons, Frame.binding?]

theorem admits_call (name : String) (args : List Tree) (operators : List Binding) :
    Admits (.call name args :: stack) operators := by
  simp [admits_cons, Frame.binding?]

/-- The machine completes nothing that the next operator extends. -/
theorem settle_of_admits (h : Admits stack [binding]) :
    settle binding stack t = some (stack, t) := by
  cases stack with
  | nil => rfl
  | cons f rest =>
    have hf : ∀ rule ∈ f.binding?, binding.Extends rule := fun rule hr =>
      h f rfl rule hr binding (List.mem_singleton_self _)
    cases f with
    | operator op left =>
      have hlt : op.binding.level < binding.level := hf _ rfl
      rw [settle, if_pos hlt]
    | not spelling =>
      have hlt : Binding.not.level < binding.level := hf _ rfl
      rw [settle, if_pos hlt]
    | negation => exact absurd (hf _ rfl) (Nat.not_lt.2 binding.level_le_negation)
    | group => rfl
    | call name args => rfl

/-- The machine completes a formula whose rules all go before the next operator. -/
theorem settle_spine : ∀ {t : Tree} {stack : List Frame}, (∀ b ∈ t.ends, b.Completes binding) →
    settle binding (t.spine ++ stack) t.last = settle binding stack t
  | .negation operand, stack, h => by
    rw [Tree.spine, Tree.last, List.append_assoc, List.singleton_append,
      settle_spine fun b hb => h b (List.mem_cons_of_mem _ hb), settle]
  | .not spelling operand, stack, h => by
    rw [Tree.spine, Tree.last, List.append_assoc, List.singleton_append,
      settle_spine fun b hb => h b (List.mem_cons_of_mem _ hb), settle,
      if_neg (h _ List.mem_cons_self).not_lt]
  | .binary op left right, stack, h => by
    have hop : op.binding.Completes binding := h _ List.mem_cons_self
    rw [Tree.spine, Tree.last, List.append_assoc, List.singleton_append,
      settle_spine fun b hb => h b (List.mem_cons_of_mem _ hb), settle,
      if_neg hop.not_lt, if_neg hop.not_comparison]
  | .constant _, _, _ => rfl
  | .field _, _, _ => rfl
  | .path .., _, _ => rfl
  | .call .., _, _ => rfl
  | .group _, _, _ => rfl

/-! ### What the machine completes -/

/-- The tokens of what waits on a stack. -/
def Frame.tokens : Frame → List Lexeme
  | .operator op left => left.tokens ++ [op.lexeme]
  | .not spelling => [.keyword .not spelling]
  | .negation => [.sign .minus]
  | .group => [.sign .openParen]
  | .call name args =>
    .name name :: .sign .openParen :: args.flatMap fun arg => arg.tokens ++ [.sign .comma]

/-- The tokens that a stack was made from. -/
def stackTokens (stack : List Frame) : List Lexeme :=
  stack.reverse.flatMap Frame.tokens

theorem stackTokens_cons (f : Frame) (stack : List Frame) :
    stackTokens (f :: stack) = stackTokens stack ++ f.tokens := by
  rw [stackTokens, List.reverse_cons, List.flatMap_append, List.flatMap_singleton, stackTokens]

/-- The table of precedence admits all that waits on a stack. -/
def StackObeys : List Frame → Prop
  | [] => True
  | .operator op left :: stack =>
    (left.Obeys ∧ ∀ b ∈ left.ends, b.Completes op.binding) ∧
      Admits stack (op.binding :: left.begins) ∧ StackObeys stack
  | .not _ :: stack => StackObeys stack
  | .negation :: stack => StackObeys stack
  | .group :: stack => StackObeys stack
  | .call _ args :: stack => (∀ arg ∈ args, arg.Obeys) ∧ StackObeys stack

/-- The table of precedence admits a formula as what comes on a stack before the next
    operator. -/
structure Fits (binding : Binding) (stack : List Frame) (t : Tree) : Prop where
  frames : StackObeys stack
  tree : t.Obeys
  ends : ∀ b ∈ t.ends, b.Completes binding
  begins : Admits stack t.begins

theorem Fits.binary {op : BinaryOp} {left : Tree} (h : Fits binding (.operator op left :: stack) t)
    (hop : op.binding.Completes binding) : Fits binding stack (.binary op left t) := by
  obtain ⟨hleft, hbegins, hstack⟩ := h.frames
  exact ⟨hstack, ⟨hleft, h.tree, admits_cons.1 h.begins _ rfl⟩,
    List.forall_mem_cons.2 ⟨hop, h.ends⟩, hbegins⟩

theorem Fits.not {spelling : String} (h : Fits binding (.not spelling :: stack) t)
    (hop : Binding.not.Completes binding) : Fits binding stack (.not spelling t) :=
  ⟨h.frames, ⟨h.tree, admits_cons.1 h.begins _ rfl⟩, List.forall_mem_cons.2 ⟨hop, h.ends⟩,
    admits_nil⟩

theorem Fits.negation (h : Fits binding (.negation :: stack) t)
    (hop : Binding.negation.Completes binding) : Fits binding stack (.negation t) :=
  ⟨h.frames, ⟨h.tree, admits_cons.1 h.begins _ rfl⟩, List.forall_mem_cons.2 ⟨hop, h.ends⟩,
    admits_nil⟩

/-- What is completed keeps its tokens, and the table of precedence admits it. -/
theorem settle_fits (hn : binding ≠ .not) (hm : binding ≠ .negation) (h : Fits binding stack t)
    (hs : settle binding stack t = some (stack', t')) :
    Fits binding stack' t' ∧ Admits stack' [binding] ∧
      stackTokens stack' ++ t'.tokens = stackTokens stack ++ t.tokens := by
  induction stack, t using settle.induct binding with
  | case1 op left stack t hlt =>
    rw [settle, if_pos hlt] at hs
    cases hs
    exact ⟨h, by simpa [admits_cons, Frame.binding?, Binding.Extends] using hlt, rfl⟩
  | case2 op left stack t hlt hc =>
    rw [settle, if_neg hlt, if_pos hc] at hs
    cases hs
  | case3 op left stack t hlt hc ih =>
    rw [settle, if_neg hlt, if_neg hc] at hs
    -- Operators that bind alike and are no comparisons are completed from the left.
    have hop : op.binding.Completes binding := Binding.completes_of_not_lt hlt fun he =>
      Binding.isLeft_of_ne_comparison fun ho => hc ⟨ho, he.trans ho⟩
    obtain ⟨hfits, hadmits, htokens⟩ := ih (h.binary hop) hs
    refine ⟨hfits, hadmits, htokens.trans ?_⟩
    simp [stackTokens_cons, Frame.tokens, Tree.tokens]
  | case4 spelling stack t hlt =>
    rw [settle, if_pos hlt] at hs
    cases hs
    exact ⟨h, by simpa [admits_cons, Frame.binding?, Binding.Extends] using hlt, rfl⟩
  | case5 spelling stack t hlt ih =>
    rw [settle, if_neg hlt] at hs
    obtain ⟨hfits, hadmits, htokens⟩ :=
      ih (h.not (Binding.completes_of_not_lt hlt fun he => absurd he hn)) hs
    refine ⟨hfits, hadmits, htokens.trans ?_⟩
    simp [stackTokens_cons, Frame.tokens, Tree.tokens]
  | case6 stack t ih =>
    rw [settle] at hs
    have hlt : ¬Binding.negation.level < binding.level := Nat.not_lt.2 binding.level_le_negation
    obtain ⟨hfits, hadmits, htokens⟩ :=
      ih (h.negation (Binding.completes_of_not_lt hlt fun he => absurd he hm)) hs
    refine ⟨hfits, hadmits, htokens.trans ?_⟩
    simp [stackTokens_cons, Frame.tokens, Tree.tokens]
  | case7 stack t hop hnot hneg =>
    have ha : Admits stack [binding] := by
      cases stack with
      | nil => exact admits_empty _
      | cons f rest =>
        cases f with
        | operator op left => exact absurd rfl (hop op left rest)
        | not spelling => exact absurd rfl (hnot spelling rest)
        | negation => exact absurd rfl (hneg rest)
        | group => exact admits_group _
        | call name args => exact admits_call name args _
    rw [settle_of_admits ha] at hs
    cases hs
    exact ⟨h, ha, rfl⟩

end Formula

end ControlBreak
