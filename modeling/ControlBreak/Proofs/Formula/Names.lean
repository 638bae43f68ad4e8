import ControlBreak.Proofs.Formula.Grammar
import ControlBreak.Proofs.Value.Distinct
import Mathlib

/-!
# The names in a formula

The names in a formula are those of fields, of steps to fields, and of calls. Those of calls are
told from the others by the parenthesis after them, so what a formula refers to can be seen in
its tokens, without its tree: no rule of the grammar loses a name, or moves one to another place.

The analysis of the expression takes the names of each call without those that occurred before
in the call. In the end that is the same as taking them once from the whole formula.

* `fieldNames`: the names among tokens that are not those of calls;
* `fieldNames_tokens`: they are the names in the tree, in its order, by induction on the tree;
* `references_of_parse`: the references of a formula are these names, each at its first place.
-/

namespace ControlBreak

namespace Value

/-- What is neither a reference nor a call refers to nothing. -/
theorem references_of_literal {e v : Value} (h : e.node? = .ok (some (.literal v))) :
    e.references = .ok [] := by
  rw [references]
  split <;> simp_all

theorem references_of_absent {e : Value} (h : e.node? = .ok (some .absent)) :
    e.references = .ok [] := by
  rw [references]
  split <;> simp_all

end Value

namespace Formula

/-! ### Names among tokens -/

/-- The names among tokens that are not those of calls, which are before an open parenthesis. -/
def fieldNames : List Lexeme → List String
  | [] => []
  | .name s :: rest =>
    if rest.head? = some (.sign .openParen) then fieldNames rest else s :: fieldNames rest
  | _ :: rest => fieldNames rest

namespace Tree

mutual

/-- The names in a formula that are not those of calls. -/
def names : Tree → List String
  | .constant _ => []
  | .field name => [name]
  | .path first between last => first :: (between ++ [last])
  | .call _ args => namesAll args
  | .group inner => names inner
  | .negation operand => names operand
  | .not _ operand => names operand
  | .binary _ left right => names left ++ names right
  termination_by structural t => t

/-- The names in arguments that are not those of calls. -/
def namesAll : List Tree → List String
  | [] => []
  | arg :: rest => names arg ++ namesAll rest
  termination_by structural args => args

end

end Tree

variable {rest : List Lexeme}

theorem fieldNames_name {s : String} (h : rest.head? ≠ some (.sign .openParen)) :
    fieldNames (.name s :: rest) = s :: fieldNames rest := by
  rw [fieldNames, if_neg h]

theorem fieldNames_sign (s : Sign) : fieldNames (.sign s :: rest) = fieldNames rest := rfl

theorem fieldNames_operator (op : BinaryOp) : fieldNames (op.lexeme :: rest) = fieldNames rest := by
  cases op <;> rfl

theorem fieldNames_constant (c : Constant) : fieldNames (c.lexeme :: rest) = fieldNames rest := by
  cases c with
  | truth holds spelling => cases holds <;> rfl
  | _ => rfl

theorem fieldNames_pointed (names : List String) (h : rest.head? ≠ some (.sign .openParen)) :
    fieldNames (pointed names ++ rest) = names ++ fieldNames rest := by
  induction names with
  | nil => rfl
  | cons name names ih =>
    have hnext : (pointed names ++ rest).head? ≠ some (.sign .openParen) := by
      cases names <;> simp [pointed, h]
    rw [pointed, List.flatMap_cons, ← pointed]
    change fieldNames (.name name :: (pointed names ++ rest)) = _
    rw [fieldNames_name hnext, ih, List.cons_append]

/-- A formula shows its names, unless what comes after it makes the last one a call. -/
def Tree.ShowsNames (t : Tree) : Prop :=
  ∀ rest : List Lexeme, rest.head? ≠ some (.sign .openParen) →
    fieldNames (t.tokens ++ rest) = t.names ++ fieldNames rest

theorem Tree.fieldNames_tokensRest {args : List Tree} (hargs : ∀ arg ∈ args, arg.ShowsNames)
    (h : rest.head? ≠ some (.sign .openParen)) :
    fieldNames (tokensRest args ++ rest) = namesAll args ++ fieldNames rest := by
  induction args with
  | nil => rfl
  | cons arg args ih =>
    obtain ⟨harg, hargs⟩ := List.forall_mem_cons.1 hargs
    have hnext : (tokensRest args ++ rest).head? ≠ some (.sign .openParen) := by
      cases args <;> simp [tokensRest, h]
    rw [tokensRest, List.cons_append, List.cons_append, fieldNames_sign, List.append_assoc,
      harg _ hnext, ih hargs, namesAll, List.append_assoc]

theorem Tree.fieldNames_tokensAll {args : List Tree} (hargs : ∀ arg ∈ args, arg.ShowsNames)
    (h : rest.head? ≠ some (.sign .openParen)) :
    fieldNames (tokensAll args ++ rest) = namesAll args ++ fieldNames rest := by
  cases args with
  | nil => rfl
  | cons arg args => exact fieldNames_tokensRest hargs h

/-- The tokens of a formula have the names of its tree, in their order. -/
theorem fieldNames_tokens : ∀ t : Tree, t.ShowsNames
  | .constant c, rest, _ => fieldNames_constant c
  | .field name, rest, h => fieldNames_name h
  | .path first between last, rest, h => by
    have hnext : (pointed (between ++ [last]) ++ rest).head? ≠ some (.sign .openParen) := by
      cases between <;> simp [pointed]
    rw [Tree.tokens, List.cons_append, fieldNames_name hnext, fieldNames_pointed _ h]
    rfl
  | .call name args, rest, _ => by
    have hargs : ∀ arg ∈ args, arg.ShowsNames := fun arg _ => fieldNames_tokens arg
    rw [Tree.tokens, List.cons_append, List.cons_append, List.append_assoc, fieldNames,
      List.head?_cons, if_pos rfl, fieldNames_sign, Tree.fieldNames_tokensAll hargs (by simp)]
    rfl
  | .group inner, rest, _ => by
    rw [Tree.tokens, List.cons_append, fieldNames_sign, List.append_assoc,
      fieldNames_tokens inner _ (by simp)]
    rfl
  | .negation operand, rest, h => fieldNames_tokens operand rest h
  | .not _ operand, rest, h => fieldNames_tokens operand rest h
  | .binary op left right, rest, h => by
    have hop : (op.lexeme :: right.tokens ++ rest).head? ≠ some (.sign .openParen) := by
      cases op <;> simp [BinaryOp.lexeme]
    rw [Tree.tokens, List.append_assoc, fieldNames_tokens left _ hop, List.cons_append,
      fieldNames_operator, fieldNames_tokens right rest h, Tree.names, List.append_assoc]
  termination_by t => sizeOf t

/-! ### Names in expressions -/

/-- The names in a formula are the references of its expression. -/
def Tree.RefersTo (t : Tree) : Prop :=
  t.value.references = .ok (t.names.eraseDups.map .str)

theorem references_call (op : Value) {args : List Value} {names : List (List String)}
    (h : List.Forall₂ (fun arg names => arg.references = .ok (names.eraseDups.map Value.str))
      args names) : (Value.call op args).references = .ok (names.flatten.eraseDups.map .str) := by
  have hall : Value.referencesOfAll args = .ok ((names.flatMap List.eraseDups).map .str) := by
    induction h with
    | nil => rw [Value.referencesOfAll]; rfl
    | @cons arg found args names harg _ ih =>
      rw [Value.referencesOfAll, harg, ih, List.flatMap_cons, List.map_append]
      rfl
  rw [Value.references_of_call rfl, hall]
  change Value.distinctKeys _ = _
  rw [Value.distinctKeys_map_str, eraseDups_flatMap_eraseDups]

/-- The negation of an operand refers to what the operand does: a numeral to nothing. -/
theorem references_negate {v : Value} {names : List String}
    (h : v.references = .ok (names.eraseDups.map .str)) :
    (negate v).references = .ok (names.eraseDups.map .str) := by
  have hliteral : ∀ {n w : Value}, v = .literal n → (Value.literal w).references = v.references :=
    fun hv => hv ▸ (Value.references_of_literal rfl).trans (Value.references_of_literal rfl).symm
  rw [negate.eq_def]
  split
  · exact (hliteral rfl).trans h
  · exact (hliteral rfl).trans h
  · exact (hliteral rfl).trans h
  · have hzero : (Value.literal (.int 0)).references =
        .ok (([] : List String).eraseDups.map Value.str) := Value.references_of_literal rfl
    simpa using references_call (.str "-") (.cons hzero (.cons h .nil))

theorem references_valueAll {op : Value} {args : List Tree} (h : ∀ arg ∈ args, arg.RefersTo) :
    (Value.call op (Tree.valueAll args)).references =
      .ok ((Tree.namesAll args).eraseDups.map .str) := by
  have hnames : (args.map Tree.names).flatten = Tree.namesAll args := by
    clear h
    induction args with
    | nil => rfl
    | cons arg args ih => rw [List.map_cons, List.flatten_cons, ih, Tree.namesAll]
  rw [← hnames]
  refine references_call op ?_
  clear hnames
  induction args with
  | nil => exact .nil
  | cons arg args ih =>
    obtain ⟨harg, hargs⟩ := List.forall_mem_cons.1 h
    exact .cons harg (ih hargs)

/-- An expression refers to the names in its formula, each at its first place. -/
theorem refersTo : ∀ t : Tree, t.RefersTo
  | .constant c => by
    cases c with
    | nil => exact Value.references_of_absent rfl
    | _ => exact Value.references_of_literal rfl
  | .field name => Value.references_of_field rfl
  | .path first between last => by
    have hsteps : (first :: between).map Value.str ++ [.str last] =
        (Tree.names (.path first between last)).map .str := by
      simp [Tree.names]
    rw [Tree.RefersTo, Tree.value, Value.references_of_related rfl, hsteps,
      Value.distinctKeys_map_str]
  | .call name args => references_valueAll fun arg _ => refersTo arg
  | .group inner => refersTo inner
  | .negation operand => references_negate (refersTo operand)
  | .not _ operand => by
    simpa [Tree.RefersTo, Tree.value, Tree.names] using
      references_call (.str "not") (.cons (refersTo operand) .nil)
  | .binary op left right => by
    simpa [Tree.RefersTo, Tree.value, Tree.names] using
      references_call (.str op.name) (.cons (refersTo left) (.cons (refersTo right) .nil))
  termination_by t => sizeOf t

/-! ### Formulas -/

/-- A formula has the tokens of a tree that stands for its expression. -/
theorem exists_tree_of_parse {text : String} {v : Value} (h : parse text = .ok v) :
    ∃ ts, ∃ t : Tree, tokenize text = .ok ts ∧ t.Derives (ts.map (·.lexeme)) ∧ t.value = v := by
  cases hb : allBlank text with
  | true =>
    rw [parse, if_pos hb] at h
    cases h
  | false =>
    obtain ⟨ts, ending, ht⟩ : ∃ ts ending, tokens text = (ts, ending) := ⟨_, _, rfl⟩
    obtain ⟨r, hr, hend⟩ := Host.bind_eq_ok.1 ((parse_of_tokens hb ht).symm.trans h)
    cases he : ParseError.ofEnding? ending with
    | some e =>
      rw [he] at hend
      cases hend
    | none =>
      have hts : tokenize text = .ok ts := by simp only [tokenize, ht, he]
      rw [he] at hend
      cases hf : r.finish with
      | none =>
        rw [hf] at hend
        cases hend
      | some t =>
        rw [hf] at hend
        cases hend
        exact ⟨ts, t, hts, finish_eq_some_iff.1 ⟨r, readTokens_eq_ok.1 hr, hf⟩, rfl⟩

/-- The references of a formula are the names among its tokens that are not those of calls, in
    the order of the tokens, each at its first place. -/
theorem references_of_parse {text : String} {v : Value} (h : parse text = .ok v) :
    ∃ ts, tokenize text = .ok ts ∧
      v.references = .ok ((fieldNames (ts.map (·.lexeme))).eraseDups.map .str) := by
  obtain ⟨ts, t, hts, ⟨ht, -⟩, rfl⟩ := exists_tree_of_parse h
  refine ⟨ts, hts, ?_⟩
  have hnames : fieldNames (t.tokens ++ []) = t.names ++ fieldNames [] :=
    fieldNames_tokens t [] (by simp)
  rw [List.append_nil, fieldNames, List.append_nil] at hnames
  rw [← ht, hnames]
  exact refersTo t

/-- A formula in which one name is that of a call, of a field and of a step to a field. -/
def mixedNames : Tree :=
  .call "if" [.binary .gt (.path "if" [] "net") (.constant (.integer 0)), .negation (.field "if"),
    .call "rate" [.path "if" [] "net", .field "b"]]

theorem references_of_parse_mixedNames : ∃ ts,
    tokenize "if(if.net > 0, -`if`, rate(if.net, b))" = .ok ts ∧
    parse "if(if.net > 0, -`if`, rate(if.net, b))" = .ok mixedNames.value ∧
    fieldNames (ts.map (·.lexeme)) = ["if", "net", "if", "if", "net", "b"] ∧
    mixedNames.value.references = .ok (["if", "net", "b"].map .str) := by
  obtain ⟨ts, hl, ht⟩ : ∃ ts, tokenize "if(if.net > 0, -`if`, rate(if.net, b))" = .ok ts ∧
      mixedNames.tokens = ts.map (·.lexeme) := ⟨_, by cbv, by cbv⟩
  have hb : allBlank "if(if.net > 0, -`if`, rate(if.net, b))" = false := by cbv
  have hparse := parse_of_derives hb hl (t := mixedNames) ⟨ht, by decide⟩
  have hnames : fieldNames (ts.map (·.lexeme)) = ["if", "net", "if", "if", "net", "b"] := by
    rw [← ht]
    cbv
  obtain ⟨ts', hl', hr⟩ := references_of_parse hparse
  cases hl.symm.trans hl'
  rw [hnames] at hr
  exact ⟨ts, hl, hparse, hnames, hr⟩

end Formula

end ControlBreak
