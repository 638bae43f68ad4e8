import ControlBreak.Proofs.Formula.WellFormed

/-!
# Printed formulas are read back

A printed expression has the tokens of a tree that the table of precedence admits and that
stands for the expression. The tree is made along the expression: parentheses become groups, a
number below zero becomes a negation.

* `Writes`: a text has the tokens of such a tree, whatever closed text comes after it;
* `Stands`: and the operators at both ends of the tree bind at least as tight as the one that is
  applied last, so that an operand which stands without parentheses keeps its place;
* `exists_stands`: one case for each kind of expression, by induction on the expression;
* `integersFit_of_parse`: the integers in what is read have few enough digits;
* `parse_print`: the parser gives the expression back if and only if those of the expression do.
-/

namespace ControlBreak

namespace Formula

variable {chars rest : List Char} {tokens : List Lexeme} {p p' : Printed} {v w : Value}
  {t u : Tree} {b : Binding} {q : Quote}

/-! ### Texts and trees -/

/-- A text has the tokens of a tree for a value, whatever closed text comes after it. -/
structure Writes (chars : List Char) (v : Value) (t : Tree) : Prop where
  value : t.value = v
  obeys : t.Obeys
  starts : ∃ c rest, chars = c :: rest ∧ isBlank c = false
  lexes : ∀ {rest tokens}, Closed rest → Lexes rest tokens →
    Lexes (chars ++ rest) (t.tokens ++ tokens)

/-- Operators at one end of a formula: the one that is applied last, or such that bind
    tighter. -/
def IsEdge (top : Option Binding) (operators : List Binding) : Prop :=
  ∀ e ∈ operators, ∃ rule ∈ top, e = rule ∨ rule.level < e.level

/-- A printed expression is that of a tree for a value. -/
structure Stands (p : Printed) (v : Value) (t : Tree) : Prop extends Writes p.chars v t where
  begins : IsEdge p.top t.begins
  ends : IsEdge p.top t.ends

theorem isEdge_nil (top : Option Binding) : IsEdge top [] :=
  List.forall_mem_nil _

theorem IsEdge.cons {rule : Binding} {operators : List Binding}
    (h : ∀ e ∈ operators, e = rule ∨ rule.level < e.level) :
    IsEdge (some rule) (rule :: operators) :=
  List.forall_mem_cons.2 ⟨⟨rule, rfl, .inl rfl⟩, fun e he => ⟨rule, rfl, h e he⟩⟩

/-! ### Operands in their places -/

theorem Writes.inParens (h : Writes p.chars v t) : Writes p.inParens v (.group t) where
  value := h.value
  obeys := h.obeys
  starts := ⟨'(', _, rfl, by decide⟩
  lexes {rest tokens} _ hr := by
    rw [Printed.inParens, Tree.tokens, List.cons_append, List.cons_append, List.append_assoc,
      List.append_assoc]
    exact (h.lexes (.paren rest) hr.closeParen).openParen

/-- To the left of an operator, all that ends there is completed. -/
theorem Stands.before (h : Stands p v t) (b : Binding) : ∃ t', Writes (p.before b) v t' ∧
    (∀ e ∈ t'.ends, e.Completes b) ∧ ∀ e ∈ t'.begins, e = b ∨ b.level < e.level := by
  rw [Printed.before]
  split
  · rename_i hb
    refine ⟨t, h.toWrites, fun e he => ?_, fun e he => ?_⟩
    · obtain ⟨rule, hr, rfl | hlt⟩ := h.ends e he
      · exact hb _ hr
      · exact .inl (Nat.lt_of_le_of_lt (Nat.le_of_not_lt (hb rule hr).not_lt) hlt)
    · obtain ⟨rule, hr, he⟩ := h.begins e he
      obtain hlt | ⟨rfl, -⟩ := hb rule hr
      · right
        obtain rfl | he := he
        exacts [hlt, Nat.lt_trans hlt he]
      · exact he
  · exact ⟨.group t, h.inParens, List.forall_mem_nil _, List.forall_mem_nil _⟩

/-- To the right of an operator, nothing is completed by it. -/
theorem Stands.after (h : Stands p v t) (b : Binding) : ∃ t', Writes (p.after b) v t' ∧
    (∀ e ∈ t'.begins, e.Extends b) ∧ ∀ e ∈ t'.ends, e = b ∨ b.level < e.level := by
  rw [Printed.after]
  split
  · rename_i hb
    have hedge : ∀ {operators}, IsEdge p.top operators → ∀ e ∈ operators, b.level < e.level := by
      intro operators ho e he
      obtain ⟨rule, hr, rfl | hlt⟩ := ho e he
      exacts [hb _ hr, Nat.lt_trans (hb rule hr) hlt]
    exact ⟨t, h.toWrites, hedge h.begins, fun e he => .inr (hedge h.ends e he)⟩
  · exact ⟨.group t, h.inParens, List.forall_mem_nil _, List.forall_mem_nil _⟩

/-! ### Calls -/

theorem Stands.binary {name : String} {op : BinaryOp} (ho : BinaryOp.ofName? name = some op)
    (hl : Stands p v t) (hr : Stands p' w u) : ∃ t',
      Stands ⟨p.before op.binding ++ ' ' :: (name.toList ++ ' ' :: p'.after op.binding),
        some op.binding⟩ (.call (.str name) [v, w]) t' := by
  obtain ⟨left, hleft, hends, hbegins⟩ := hl.before op.binding
  obtain ⟨right, hright, hbegins', hends'⟩ := hr.after op.binding
  have hname : op.name = name := (lexes_nil.operator ho).1
  obtain ⟨c, cs, hc, hblank⟩ := hleft.starts
  have hwrites : Writes (p.before op.binding ++ ' ' :: (name.toList ++ ' ' :: p'.after op.binding))
      (.call (.str name) [v, w]) (.binary op left right) :=
    { value := by rw [Tree.value, hleft.value, hright.value, hname]
      obeys := ⟨⟨hleft.obeys, hends⟩, hright.obeys, hbegins'⟩
      starts := ⟨c, _, by rw [hc, List.cons_append], hblank⟩
      lexes := fun hclosed hrest => by
        rw [Tree.tokens, List.append_assoc, List.append_assoc, List.cons_append,
          List.append_assoc, List.cons_append, List.cons_append]
        -- The left operand is closed by the blank before the operator.
        exact hleft.lexes (.blank _) ((hright.lexes hclosed hrest).operator ho).2 }
  exact ⟨.binary op left right, hwrites, .cons hbegins, .cons hends'⟩

theorem Stands.not (h : Stands p v t) : ∃ t',
    Stands ⟨'n' :: 'o' :: 't' :: ' ' :: p.after .not, some .not⟩ (.call (.str "not") [v]) t' := by
  obtain ⟨operand, hoperand, hbegins, hends⟩ := h.after .not
  have hwrites : Writes ('n' :: 'o' :: 't' :: ' ' :: p.after .not) (.call (.str "not") [v])
      (.not "not" operand) :=
    { value := by rw [Tree.value, hoperand.value]
      obeys := ⟨hoperand.obeys, hbegins⟩
      starts := ⟨'n', _, rfl, by decide⟩
      lexes := fun hclosed hrest => (hoperand.lexes hclosed hrest).not }
  exact ⟨.not "not" operand, hwrites, List.forall_mem_nil _, .cons hends⟩

/-- Expressions are printed as given trees, one for each. -/
def StandAll (q : Quote) (args : List Term) (ts : List Tree) : Prop :=
  List.Forall₂ (fun arg t => Stands (arg.printed q) arg.value t) args ts

theorem exists_standAll {args : List Term}
    (h : ∀ arg ∈ args, ∃ t, Stands (arg.printed q) arg.value t) : ∃ ts, StandAll q args ts := by
  induction args with
  | nil => exact ⟨[], .nil⟩
  | cons arg rest ih =>
    obtain ⟨⟨t, ht⟩, h⟩ := List.forall_mem_cons.1 h
    obtain ⟨ts, hts⟩ := ih h
    exact ⟨t :: ts, .cons ht hts⟩

variable {args : List Term} {ts : List Tree}

theorem StandAll.value (h : StandAll q args ts) : Tree.valueAll ts = Term.valueAll args := by
  rw [StandAll] at h
  induction h with
  | nil => rfl
  | cons ht _ ih => rw [Tree.valueAll, Term.valueAll, ht.value, ih]

theorem StandAll.obeys (h : StandAll q args ts) : Tree.ObeysAll ts := by
  rw [StandAll] at h
  induction h with
  | nil => trivial
  | cons ht _ ih => exact ⟨ht.obeys, ih⟩

/-- Each argument is closed by the comma after it, and the last one by the parenthesis. -/
theorem StandAll.lexes_rest (h : StandAll q args ts) (hr : Lexes rest tokens) :
    Closed (((Term.printedAll q args).flatMap fun p => ',' :: ' ' :: p.chars) ++ ')' :: rest) ∧
    Lexes (((Term.printedAll q args).flatMap fun p => ',' :: ' ' :: p.chars) ++ ')' :: rest)
      (Tree.tokensRest ts ++ .sign .closeParen :: tokens) := by
  rw [StandAll] at h
  induction h with
  | nil => exact ⟨.paren rest, hr.closeParen⟩
  | cons ht _ ih =>
    obtain ⟨hclosed, hlexes⟩ := ih
    rw [Term.printedAll, List.flatMap_cons, List.append_assoc, Tree.tokensRest]
    refine ⟨.comma _, ?_⟩
    rw [List.append_assoc]
    exact (ht.lexes hclosed hlexes).blank.comma

theorem StandAll.lexes (h : StandAll q args ts) (hr : Lexes rest tokens) :
    Lexes (Printed.arguments (Term.printedAll q args) ++ ')' :: rest)
      (Tree.tokensAll ts ++ .sign .closeParen :: tokens) := by
  cases h with
  | nil => exact hr.closeParen
  | cons ht hrest =>
    obtain ⟨hclosed, hlexes⟩ := StandAll.lexes_rest hrest hr
    rw [Term.printedAll, Printed.arguments, Tree.tokensAll, List.append_assoc, List.append_assoc]
    exact ht.lexes hclosed hlexes

theorem StandAll.plainCall (op : Name) (h : StandAll q args ts) :
    Stands (Printed.plainCall op (Term.printedAll q args)) (.call (.str op.text) (Term.valueAll args))
      (.call op.text ts) where
  value := by rw [Tree.value, h.value]
  obeys := h.obeys
  starts := ⟨backtick, _, rfl, by decide⟩
  lexes _ hrest := by
    have hlexes := (h.lexes hrest).openParen.name op
    simpa [Printed.plainCall, Tree.tokens] using hlexes
  begins := isEdge_nil _
  ends := isEdge_nil _

/-- A call is printed as an operator between or before its arguments, or with its arguments in
    parentheses. -/
theorem StandAll.call (op : Name) (h : StandAll q args ts) : ∃ t,
    Stands (Printed.call op (Term.printedAll q args)) (.call (.str op.text) (Term.valueAll args))
      t := by
  have hplain := h.plainCall op
  match args, ts, h with
  | [], _, _ => exact ⟨_, hplain⟩
  | [operand], [t], .cons ht .nil =>
    rw [Term.printedAll, Term.printedAll, Printed.call]
    split
    · rename_i hnot
      rw [hnot]
      exact ht.not
    · exact ⟨_, hplain⟩
  | [left, right], [t, u], .cons ht (.cons hu .nil) =>
    simp only [Term.printedAll, Printed.call]
    cases ho : BinaryOp.ofName? op.text with
    | some o => exact ht.binary ho hu
    | none => exact ⟨_, hplain⟩
  | _ :: _ :: _ :: _, _, _ => exact ⟨_, hplain⟩

/-! ### Operands by themselves -/

theorem writes_nil : Writes ['n', 'i', 'l'] .absent (.constant (.nil "nil")) where
  value := rfl
  obeys := trivial
  starts := ⟨'n', _, rfl, by decide⟩
  lexes hc hr := hr.nil hc

theorem writes_truth (q : Quote) (holds : Bool) :
    Writes (Term.printed q (.truth holds)).chars (.literal (.bool holds))
      (.constant (.truth holds (if holds then "true" else "false"))) where
  value := rfl
  obeys := trivial
  starts := by cases holds <;> exact ⟨_, _, rfl, by decide⟩
  lexes hc hr := hr.truth holds hc

theorem writes_text (q : Quote) (s : String) :
    Writes (q.char :: (q.escape s.toList ++ [q.char])) (.literal (.str s)) (.constant (.text s)) where
  value := rfl
  obeys := trivial
  starts := ⟨q.char, _, rfl, by cases q <;> decide⟩
  lexes _ hr := hr.text q s

theorem writes_field (name : Name) :
    Writes name.ticked (.fieldRef (.str name.text)) (.field name.text) where
  value := rfl
  obeys := trivial
  starts := ⟨backtick, _, rfl, by decide⟩
  lexes _ hr := hr.name name

theorem writes_path (first : Name) (between : List Name) (last : Name) :
    Writes (first.ticked ++ (between ++ [last]).flatMap fun name => '.' :: name.ticked)
      (Term.path first between last).value
      (.path first.text (between.map (·.text)) last.text) where
  value := by simp [Tree.value, Term.value]
  obeys := trivial
  starts := ⟨backtick, _, rfl, by decide⟩
  lexes _ hr := by
    have hlexes := (hr.pointed (between ++ [last])).name first
    simpa [Tree.tokens] using hlexes

theorem writes_integer (n : Nat) (hn : (Lexeme.integer n).Fits) :
    Writes (decimalDigits n) (.literal (.int n)) (.constant (.integer n)) where
  value := rfl
  obeys := trivial
  starts := by
    obtain ⟨d, digits, hd, hdigits⟩ := exists_decimalDigits n
    exact ⟨_, digits, hdigits, (forall_digitChar d hd).2.1⟩
  lexes hc hr := hr.integer n hn hc

/-- The sign before a number makes it a number below zero. -/
theorem writes_negation (n : Nat) (hn : (Lexeme.integer n).Fits) :
    Writes ('-' :: decimalDigits n) (.literal (.int (-n))) (.negation (.constant (.integer n))) where
  value := rfl
  obeys := ⟨trivial, List.forall_mem_nil _⟩
  starts := ⟨'-', _, rfl, by decide⟩
  lexes hc hr := (hr.integer n hn hc).minus

theorem Writes.stands (h : Writes p.chars v t) (hb : t.begins = []) (he : t.ends = []) :
    Stands p v t :=
  ⟨h, hb ▸ isEdge_nil _, he ▸ isEdge_nil _⟩

theorem exists_stands_integer (q : Quote) (n : Int) (h : (Lexeme.integer n.natAbs).Fits) :
    ∃ t, Stands (Term.printed q (.integer n)) (.literal (.int n)) t := by
  rw [Term.printed]
  split
  · rename_i hn
    have hwrites := writes_negation n.natAbs h
    rw [show -(n.natAbs : Int) = n by omega] at hwrites
    exact ⟨_, hwrites, isEdge_nil _, .cons (List.forall_mem_nil _)⟩
  · rename_i hn
    have hwrites := writes_integer n.natAbs h
    rw [show (n.natAbs : Int) = n by omega] at hwrites
    exact ⟨_, hwrites.stands rfl rfl⟩

/-! ### All expressions -/

/-- All integers in an expression have few enough digits. -/
def IntegersFit (e : Value) : Prop :=
  ∀ n : Int, Value.IsPart (.literal (.int n)) e → (Lexeme.integer n.natAbs).Fits

theorem Term.valueAll_eq_map (args : List Term) : Term.valueAll args = args.map Term.value := by
  induction args with
  | nil => rfl
  | cons arg args ih => rw [Term.valueAll, ih, List.map_cons]

theorem IntegersFit.argument {op : Value} {args : List Value} {arg : Value}
    (h : IntegersFit (.call op args)) (ha : arg ∈ args) : IntegersFit arg :=
  fun n hp => h n (.argument rfl ha hp)

theorem exists_stands (q : Quote) : ∀ e : Term, IntegersFit e.value →
    ∃ t, Stands (e.printed q) e.value t
  | .nil, _ => ⟨_, writes_nil.stands rfl rfl⟩
  | .integer n, h => exists_stands_integer q n (h n .self)
  | .truth holds, _ => ⟨_, (writes_truth q holds).stands rfl rfl⟩
  | .text s, _ => ⟨_, (writes_text q s).stands rfl rfl⟩
  | .field name, _ => ⟨_, (writes_field name).stands rfl rfl⟩
  | .path first between last, _ => ⟨_, (writes_path first between last).stands rfl rfl⟩
  | .call op args, h => by
    have hargs : ∀ arg ∈ args, ∃ t, Stands (arg.printed q) arg.value t := fun arg ha => by
      have hmem : arg.value ∈ Term.valueAll args :=
        Term.valueAll_eq_map args ▸ List.mem_map_of_mem ha
      exact exists_stands q arg (h.argument hmem)
    obtain ⟨ts, hts⟩ := exists_standAll hargs
    exact hts.call op
  termination_by e => sizeOf e

theorem parse_print_of_fits (q : Quote) (e : Term) (h : IntegersFit e.value) :
    parse (e.print q) = .ok e.value := by
  obtain ⟨t, ht⟩ := exists_stands q e h
  obtain ⟨c, rest, hc, hblank⟩ := ht.starts
  have hb : allBlank (e.print q) = false := by
    rw [allBlank, Term.print, String.toList_ofList, hc, List.all_cons, hblank, Bool.false_and]
  -- The end of the text closes it as a whole.
  have hl : Lexes (e.print q).toList t.tokens := by
    have hlexes := ht.lexes .nil lexes_nil
    rw [List.append_nil, List.append_nil] at hlexes
    rwa [Term.print, String.toList_ofList]
  rw [parse_of_lexes hb hl ht.obeys, ht.value]

/-! ### The integers in what is read -/

theorem integersFit_of_node? {n : Node} (hn : v.node? = .ok (some n))
    (hv : ∀ k : Int, v = .literal (.int k) → (Lexeme.integer k.natAbs).Fits)
    (ha : ∀ arg ∈ n.arguments, IntegersFit arg) : IntegersFit v := by
  intro k hp
  rcases (Value.isPart_iff hn).1 hp with hk | ⟨arg, harg, hp⟩
  exacts [hv k hk.symm, ha arg harg k hp]

theorem integersFit_call {op : Value} {args : List Value} (h : ∀ arg ∈ args, IntegersFit arg) :
    IntegersFit (.call op args) :=
  integersFit_of_node? rfl (by simp) h

theorem integersFit_literal {w : Value}
    (h : ∀ k : Int, w = .int k → (Lexeme.integer k.natAbs).Fits) : IntegersFit (.literal w) :=
  integersFit_of_node? rfl (fun k hk => h k (Value.literal.inj hk)) (List.forall_mem_nil _)

/-- A negation at once leaves an integer its digits. -/
theorem integersFit_negate (h : IntegersFit v) : IntegersFit (negate v) := by
  rw [negate.eq_def]
  split
  · rename_i n
    refine integersFit_literal fun k hk => ?_
    cases hk
    rw [Int.natAbs_neg]
    exact h n .self
  · exact integersFit_literal (by simp [Value.int])
  · rename_i b
    refine integersFit_literal fun k hk => fits_integer_iff.2 ?_
    have hone : 1 < 10 ^ integerDigitLimit := Nat.one_lt_pow (by decide) (by decide)
    cases b <;> cases hk
    exacts [Nat.pow_pos (by decide), hone]
  · refine integersFit_call fun arg ha => ?_
    rcases List.mem_pair.1 ha with rfl | rfl
    · refine integersFit_literal fun k hk => ?_
      cases hk
      exact fits_zero
    · exact h

/-- The integers in what a tree stands for are those among its tokens. -/
theorem integersFit_value : ∀ t : Tree, (∀ l ∈ t.tokens, l.Fits) → IntegersFit t.value
  | .constant c, h => by
    cases c with
    | integer n =>
      refine integersFit_literal fun k hk => ?_
      cases hk
      exact h (.integer n) (List.mem_singleton_self _)
    | nil => exact integersFit_of_node? rfl (fun k hk => by cases hk) (List.forall_mem_nil _)
    | _ => exact integersFit_literal fun k hk => by cases hk
  | .field name, _ => integersFit_of_node? rfl (by simp [Tree.value]) (List.forall_mem_nil _)
  | .path first between last, _ =>
    integersFit_of_node? rfl (by simp [Tree.value]) (List.forall_mem_nil _)
  | .call name args, h => by
    refine integersFit_call fun w hw => ?_
    rw [Tree.valueAll_eq_map] at hw
    obtain ⟨arg, ha, rfl⟩ := List.mem_map.1 hw
    refine integersFit_value arg fun l hl => h l ?_
    have := Tree.subset_tokensAll ha hl
    simp [Tree.tokens, this]
  | .group inner, h => integersFit_value inner fun l hl => h l (by simp [Tree.tokens, hl])
  | .negation operand, h =>
    integersFit_negate (integersFit_value operand fun l hl => h l (by simp [Tree.tokens, hl]))
  | .not _ operand, h => by
    refine integersFit_call (List.forall_mem_singleton.2 ?_)
    exact integersFit_value operand fun l hl => h l (by simp [Tree.tokens, hl])
  | .binary op left right, h => by
    refine integersFit_call fun arg ha => ?_
    rcases List.mem_pair.1 ha with rfl | rfl
    · exact integersFit_value left fun l hl => h l (by simp [Tree.tokens, hl])
    · exact integersFit_value right fun l hl => h l (by simp [Tree.tokens, hl])
  termination_by t => sizeOf t

theorem integersFit_of_parse {text : String} (h : parse text = .ok v) : IntegersFit v := by
  obtain ⟨ts, t, hts, ⟨ht, -⟩, rfl⟩ := exists_tree_of_parse h
  refine integersFit_value t fun l hl => ?_
  rw [ht] at hl
  obtain ⟨u, hu, rfl⟩ := List.mem_map.1 hl
  obtain ⟨_, _, hspells⟩ := exists_spells_of_tokenize hts hu
  exact hspells.fits

/-- A printed expression is read back as it was, unless an integer in it has too many digits. -/
theorem parse_print (q : Quote) (e : Term) :
    parse (e.print q) = .ok e.value ↔ IntegersFit e.value :=
  ⟨integersFit_of_parse, parse_print_of_fits q e⟩

/-- The smallest integer with too many digits is not read back. -/
theorem parse_print_firstOversized : parse (Term.print .double (.integer firstOversized)) ≠
    .ok (Term.value (.integer firstOversized)) := by
  intro h
  have hfits := integersFit_of_parse h firstOversized .self
  rw [Int.natAbs_natCast] at hfits
  exact not_fits_firstOversized hfits

/-- Only the right operand of a difference needs parentheses. -/
example : (let minus : Name := ⟨"-", by decide, by decide⟩
    Term.print .double (.call minus [.call minus [.integer 1, .integer (-2)],
      .call minus [.integer 3, .call minus [.integer 4]]])) =
    "1 - -2 - (3 - \x60-\x60(4))" := by
  cbv

end Formula

end ControlBreak
