import ControlBreak.Proofs.Expression.Places
import ControlBreak.Proofs.Formula.Names
import ControlBreak.Proofs.Formula.Printing
import ControlBreak.Proofs.Number.Representable

/-!
# Negations

The negation of a number that is written out is computed when a formula is read, and that of
anything else is its difference from zero. Both come to the same: of an integer exactly, and of a
float because floats that are written are representable, so that the difference from zero is not
rounded. The exception is a truth value. Its negation is computed as that of a number, but it
is no number for a difference.

* `Tiles.lexes`: the tokens of a formula are those of its text before other text too, so that a
  formula can be put in parentheses;
* `isRounded_of_value`: a float that a formula stands for, by induction on its tree;
* `negation_agrees_iff`: the negation of a formula and its difference from zero agree unless the
  formula stands for a truth value.
-/

namespace ControlBreak

/-- Two evaluations agree: they have one outcome, or values that compare equal. -/
def Agree (x y : Evaluation Value) : Prop :=
  x = y ∨ ∃ a b, x = pure a ∧ y = pure b ∧ a.equals b = .ok true

theorem not_agree_pure_throw (a : Value) (e : EvalError) : ¬Agree (pure a) (throw e) := by
  rintro (h | ⟨_, _, -, h, -⟩) <;> cases h

namespace Formula

variable {text rest : List Char} {tokens : List Lexeme} {ts : List Token} {v : Value}
  {position limit : Nat}

/-! ### A formula before other text -/

/-- A text has its tokens before other text too, if none of them goes on in that. -/
theorem Tiles.lexes (h : Tiles position text ts limit []) (hp : Parts rest)
    (hr : Lexes rest tokens) : Lexes (text ++ rest) (ts.map (·.lexeme) ++ tokens) := by
  -- No text is left after the last token, which is an index of `Tiles` and stays the same.
  generalize hnil : [] = last at h
  induction h with
  | done => exact hnil ▸ hr
  | blank hc _ ih => exact (ih hnil).skip hc
  | token hw _ ih =>
    rw [List.append_assoc]
    exact (ih hnil).spells (hw.append hp)

/-! ### Floats in formulas -/

theorem isRounded_of_spells {written : List Char} {x : Binary64}
    (h : Spells written (.float x) rest) : x.IsRounded := by
  cases h
  exact Binary64.isRounded_ofDecimal _ _ _

theorem negate_eq_float {x : Binary64} (h : negate v = .literal (.num (.float x))) :
    ∃ y, v = .literal (.num (.float y)) ∧ x = y.neg := by
  rw [negate.eq_def] at h
  split at h <;> cases h
  exact ⟨_, rfl, rfl⟩

/-- A float that a formula stands for is a float among its tokens, but for the sign. -/
theorem isRounded_of_value : ∀ t : Tree, (∀ x, Lexeme.float x ∈ t.tokens → x.IsRounded) →
    ∀ x, t.value = .literal (.num (.float x)) → x.IsRounded
  | .constant c, ht, x, h => by
    cases c <;> cases h
    exact ht x (List.mem_singleton_self _)
  | .group inner, ht, x, h =>
    isRounded_of_value inner (fun y hy => ht y (by simp [Tree.tokens, hy])) x h
  | .negation operand, ht, x, h => by
    obtain ⟨y, hy, rfl⟩ := negate_eq_float h
    exact (isRounded_of_value operand (fun z hz => ht z (by simp [Tree.tokens, hz])) y hy).neg
  | .field _, _, _, h | .path .., _, _, h | .call .., _, _, h | .not .., _, _, h
  | .binary .., _, _, h => by cases h

/-! ### What negations come to -/

variable {r : Registry} {record : Value}

theorem evaluate_difference (a b : Value) :
    r.evaluate (.call (.str "-") [.literal a, .literal b]) record =
      Arithmetic.sub.onValues a b := by
  have ho : Operator.of (.str "-") = .arithmetic .sub := Operator.of_symbol .sub
  rw [Registry.evaluate_of_call rfl, Registry.evaluateCall_of_arithmetic ho,
    Registry.evaluate_literal, Registry.evaluate_literal]
  rfl

/-- A difference of numbers that is defined is what the difference comes to. -/
theorem evaluate_difference_of_apply {a b n : Number} (h : a.apply .sub b = .ok n) :
    r.evaluate (.call (.str "-") [.literal (.num a), .literal (.num b)]) record =
      pure (.num n) := by
  rw [evaluate_difference]
  change Arithmetic.sub.onNumbers a b = _
  rw [Arithmetic.onNumbers, if_neg (by decide), h]
  rfl

/-- A number and a difference from zero agree if they are equal in value. -/
theorem agree_of_apply {a b n : Number} (h : (Number.int 0).apply .sub b = .ok n)
    (heq : a.equals n = .ok true) : Agree (r.evaluate (.literal (.num a)) record)
      (r.evaluate (.call (.str "-") [.literal (.int 0), .literal (.num b)]) record) := by
  refine .inr ⟨.num a, .num n, r.evaluate_literal _ _, evaluate_difference_of_apply h, ?_⟩
  rw [Value.equals, Value.number?]
  dsimp only
  rw [heq]
  rfl

/-- The negation of anything but a truth value agrees with the difference from zero. -/
theorem negate_agrees (hv : ∀ x, v = .literal (.num (.float x)) → x.IsRounded)
    (hb : ∀ b, v ≠ .literal (.bool b)) : Agree (r.evaluate (negate v) record)
      (r.evaluate (.call (.str "-") [.literal (.int 0), v]) record) := by
  rw [negate.eq_def]
  -- Of the numbers that are negated at once, floats are the ones that could be rounded.
  split
  · rename_i n
    refine agree_of_apply rfl (Number.equals_of_extended ?_ fun h => by cases h)
    rw [zero_sub]
  · rename_i x
    obtain ⟨n, hn, heq⟩ := Number.exists_apply_sub_zero (hv x rfl)
    exact agree_of_apply hn heq
  · exact absurd rfl (hb _)
  · -- All else is negated by that difference.
    exact .inl rfl

theorem evaluate_difference_of_truth (b : Bool) :
    r.evaluate (.call (.str "-") [.literal (.int 0), .literal (.bool b)]) record =
      throw (.invalidArithmetic (.str "-") (.int 0) (.bool b)) :=
  evaluate_difference _ _

/-! ### Negations of formulas -/

/-- A formula can be put in parentheses, and the floats among its tokens are representable. -/
theorem exists_group {text : String} (h : parse text = .ok v) : ∃ t : Tree, t.value = v ∧ t.Obeys ∧
    Lexes ('(' :: (text.toList ++ [')'])) (Tree.group t).tokens ∧
      ∀ x, Lexeme.float x ∈ t.tokens → x.IsRounded := by
  obtain ⟨ts, t, hts, ⟨ht, ho⟩, hv⟩ := exists_tree_of_parse h
  obtain ⟨limit, htiles⟩ := exists_tiles_of_tokenize hts
  refine ⟨t, hv, ho, ?_, fun x hx => ?_⟩
  · have hlexes := (htiles.lexes (Closed.paren []).parts lexes_nil.closeParen).openParen
    rwa [← ht] at hlexes
  · rw [ht] at hx
    obtain ⟨u, hu, hlexeme⟩ := List.mem_map.1 hx
    obtain ⟨_, _, hspells⟩ := exists_spells_of_tokenize hts hu
    exact isRounded_of_spells (hlexeme ▸ hspells)

theorem isRounded_of_parse {text : String} {x : Binary64}
    (h : parse text = .ok (.literal (.num (.float x)))) : x.IsRounded := by
  obtain ⟨t, hv, -, -, hfloats⟩ := exists_group h
  exact isRounded_of_value t hfloats x hv

theorem parse_negation {text : String} (h : parse text = .ok v) :
    parse ("-(" ++ text ++ ")") = .ok (negate v) := by
  obtain ⟨t, rfl, ho, hgroup, -⟩ := exists_group h
  have hchars : ("-(" ++ text ++ ")").toList = '-' :: '(' :: (text.toList ++ [')']) := by simp
  refine parse_of_lexes (t := .negation (.group t)) ?_ ?_ ⟨ho, List.forall_mem_nil _⟩
  · rw [allBlank, hchars]
    rfl
  · rw [hchars]
    exact hgroup.minus

theorem parse_difference {text : String} (h : parse text = .ok v) :
    parse ("0 - (" ++ text ++ ")") = .ok (.call (.str "-") [.literal (.int 0), v]) := by
  obtain ⟨t, rfl, ho, hgroup, -⟩ := exists_group h
  have hchars : ("0 - (" ++ text ++ ")").toList =
      decimalDigits 0 ++ ' ' :: '-' :: ' ' :: '(' :: (text.toList ++ [')']) := by
    rw [String.toList_append, String.toList_append]
    rfl
  refine parse_of_lexes (t := .binary .minus (.constant (.integer 0)) (.group t)) ?_ ?_ ?_
  · rw [allBlank, hchars]
    rfl
  · rw [hchars]
    exact hgroup.blank.minus.blank.integer 0 fits_zero (.blank _)
  · exact ⟨⟨trivial, List.forall_mem_nil _⟩, ho, List.forall_mem_nil _⟩

/-- The negation of a formula and its difference from zero are formulas, and they agree for all
    registries and records unless the formula stands for a truth value. Then the negation is a
    number, where the difference is an error. -/
theorem negation_agrees_iff {text : String} {v : Value} (h : parse text = .ok v) :
    ∃ m d, parse ("-(" ++ text ++ ")") = .ok m ∧ parse ("0 - (" ++ text ++ ")") = .ok d ∧
      ∀ (r : Registry) (record : Value),
        (Agree (r.evaluate m record) (r.evaluate d record) ↔ ∀ b, v ≠ .literal (.bool b)) ∧
        ∀ b, v = .literal (.bool b) → r.evaluate m record = pure (.int (if b then -1 else 0)) ∧
          r.evaluate d record = throw (.invalidArithmetic (.str "-") (.int 0) (.bool b)) := by
  refine ⟨_, _, parse_negation h, parse_difference h, fun r record => ?_⟩
  have htruth : ∀ b, v = .literal (.bool b) →
      r.evaluate (negate v) record = pure (.int (if b then -1 else 0)) ∧
        r.evaluate (.call (.str "-") [.literal (.int 0), v]) record =
          throw (.invalidArithmetic (.str "-") (.int 0) (.bool b)) := by
    rintro b rfl
    exact ⟨r.evaluate_literal _ _, evaluate_difference_of_truth b⟩
  refine ⟨⟨fun hagree b hb => ?_, negate_agrees fun x hx => isRounded_of_parse (hx ▸ h)⟩, htruth⟩
  rw [(htruth b hb).1, (htruth b hb).2] at hagree
  exact not_agree_pure_throw _ _ hagree

/-- The negation of zero is another zero than its difference from zero, and equal to it. -/
theorem negation_agrees_zero : parse "0.0" = .ok (.literal (.num (.float (.zero false)))) ∧
    ∃ m d, parse "-(0.0)" = .ok m ∧ parse "0 - (0.0)" = .ok d ∧
      ∀ (r : Registry) (record : Value), Agree (r.evaluate m record) (r.evaluate d record) := by
  have h : parse "0.0" = .ok (.literal (.num (.float (.zero false)))) := by cbv
  obtain ⟨m, d, hm, hd, hall⟩ := negation_agrees_iff h
  exact ⟨h, m, d, hm, hd, fun r record => (hall r record).1.2 fun b hb => by cases hb⟩

/-- The negation of a truth value is a number, and its difference from zero is an error. -/
theorem negation_of_true : parse "-(true)" = .ok (.literal (.int (-1))) ∧
    parse "0 - (true)" = .ok (.call (.str "-") [.literal (.int 0), .literal (.bool true)]) ∧
    ¬Agree (Registry.builtins.evaluate (.literal (.int (-1))) (.dict []))
      (Registry.builtins.evaluate
        (.call (.str "-") [.literal (.int 0), .literal (.bool true)]) (.dict [])) := by
  have h : parse "true" = .ok (.literal (.bool true)) := by cbv
  refine ⟨parse_negation h, parse_difference h, ?_⟩
  rw [evaluate_difference_of_truth, Registry.evaluate_literal]
  exact not_agree_pure_throw _ _

end Formula

end ControlBreak
