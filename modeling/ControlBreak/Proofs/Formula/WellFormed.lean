import ControlBreak.Proofs.Expression.Parts
import ControlBreak.Proofs.Formula.Names
import ControlBreak.Proofs.Formula.Negation

/-!
# Formulas that are well formed

No name in a formula is empty: a word has a first letter, and between backticks there is a
character. So whatever is read off the tree of a formula has the names that it needs: fields and
the steps to them, and the operators of calls. The parser does not count the arguments of a call,
though, and a name in backticks may be that of an operator with a fixed number of them.

* `name_ne_empty_of_spells`: the names among tokens are not empty;
* `isNamed_value`: so no part of what a tree stands for lacks a name, by induction on the tree;
* `validate_parse_iff`: a formula is well formed if and only if each call of an operator has as
  many arguments as that takes.
-/

namespace ControlBreak

namespace Node

/-- Whether a node is sound, but for the number of arguments of a call. -/
def isNamed : Node → Bool
  | .call op _ => op.isName
  | n => n.isSound

/-- A call has as many arguments as its operator takes: a conditional three, and a sign of
    arithmetic two. -/
def IsCounted (n : Node) : Prop :=
  ∀ name args, n = .call (.str name) args →
    (name = "if" → args.length = 3) ∧ (name ∈ ["+", "-", "*", "/"] → args.length = 2)

/-- The operators with a fixed number of arguments. -/
theorem arity?_of_str (name : String) (k : Nat) :
    (Operator.of (.str name)).arity?.all (· == k) = true ↔
      (name = "if" → k = 3) ∧ (name ∈ ["+", "-", "*", "/"] → k = 2) := by
  by_cases hs : name ∈ ["+", "-", "*", "/"]
  · obtain ⟨o, rfl⟩ : ∃ o : Arithmetic, name = o.symbol := by
      simp only [List.mem_cons, List.not_mem_nil, or_false] at hs
      rcases hs with rfl | rfl | rfl | rfl
      exacts [⟨.add, rfl⟩, ⟨.sub, rfl⟩, ⟨.mul, rfl⟩, ⟨.div, rfl⟩]
    have hif : o.symbol ≠ "if" := by cases o <;> decide
    simp [Operator.of_symbol, Operator.arity?, hif, hs, @eq_comm _ k]
  · by_cases hif : name = "if"
    · simp [hif, Operator.of, Arithmetic.ofSymbol?, Operator.arity?, @eq_comm _ k]
    · simp_all [Operator.of, Arithmetic.ofSymbol?, Operator.arity?]

theorem isSound_iff (n : Node) : n.isSound = true ↔ n.isNamed = true ∧ n.IsCounted := by
  cases n with
  | call op args =>
    cases op with
    | str name =>
      rw [isSound, Bool.and_eq_true, arity?_of_str]
      exact and_congr_right fun _ => ⟨fun h _ _ he => by cases he; exact h, fun h => h _ _ rfl⟩
    | _ => exact iff_of_false Bool.false_ne_true fun h => Bool.false_ne_true h.1
  | _ => exact ⟨fun h => ⟨h, fun _ _ he => by cases he⟩, And.left⟩

end Node

/-- All parts of an expression have a node, and the names that it needs. -/
def Value.IsNamed (e : Value) : Prop :=
  ∀ part, IsPart part e → ∃ n, part.node? = .ok (some n) ∧ n.isNamed = true

theorem Value.isNamed_of_node? {e : Value} {n : Node} (hn : e.node? = .ok (some n))
    (h : n.isNamed = true) (ha : ∀ arg ∈ n.arguments, arg.IsNamed) : e.IsNamed := by
  intro part hp
  rcases (isPart_iff hn).1 hp with rfl | ⟨arg, harg, hp⟩
  exacts [⟨n, hn, h⟩, ha arg harg part hp]

namespace Formula

/-- A name that characters spell is not empty. -/
theorem name_ne_empty_of_spells {written rest : List Char} {s : String}
    (h : Spells written (.name s) rest) : s ≠ "" := by
  intro hs
  cases h with
  | ticked hne => exact hne (by simpa using hs)
  | name hw =>
    obtain ⟨c, rest, rfl, -⟩ := isWord_iff.1 hw
    simp at hs

theorem BinaryOp.name_ne_empty (op : BinaryOp) : op.name ≠ "" := by
  cases op <;> simp [name]

namespace Tree

/-- The tokens of an argument are among those of the arguments. -/
theorem subset_tokensAll {args : List Tree} {arg : Tree} (h : arg ∈ args) :
    arg.tokens ⊆ tokensAll args := by
  induction args with
  | nil => cases h
  | cons first rest ih =>
    rcases List.mem_cons.1 h with rfl | h
    · exact List.subset_append_left _ _
    · refine fun l hl => List.mem_append_right _ ?_
      cases rest with
      | nil => cases h
      | cons second rest =>
        rw [tokensRest_cons]
        exact List.mem_cons_of_mem _ (ih h hl)

theorem valueAll_eq_map (args : List Tree) : valueAll args = args.map value := by
  induction args with
  | nil => rfl
  | cons arg args ih => rw [valueAll, ih, List.map_cons]

theorem mem_pointed {name : String} {names : List String} (h : name ∈ names) :
    Lexeme.name name ∈ pointed names :=
  List.mem_flatMap.2 ⟨name, h, List.mem_cons_of_mem _ List.mem_cons_self⟩

/-- The names among the tokens of a tree are not empty. -/
def NamesNonempty (t : Tree) : Prop :=
  ∀ name, Lexeme.name name ∈ t.tokens → name ≠ ""

end Tree

theorem isName_str {s : String} : (Value.str s).isName = true ↔ s ≠ "" := bne_iff_ne

theorem isNamed_call {name : String} {args : List Value} (h : name ≠ "")
    (ha : ∀ arg ∈ args, arg.IsNamed) : (Value.call (.str name) args).IsNamed :=
  Value.isNamed_of_node? rfl (isName_str.2 h) ha

/-- What has no parts needs no name. -/
theorem isNamed_literal (v : Value) : (Value.literal v).IsNamed :=
  Value.isNamed_of_node? rfl rfl (List.forall_mem_nil _)

theorem isNamed_negate {v : Value} (h : v.IsNamed) : (negate v).IsNamed := by
  rw [negate.eq_def]
  split
  · exact isNamed_literal _
  · exact isNamed_literal _
  · exact isNamed_literal _
  · refine isNamed_call (by decide) fun arg ha => ?_
    rcases List.mem_pair.1 ha with rfl | rfl
    exacts [isNamed_literal _, h]

/-- What a tree stands for has all the names that it needs. -/
theorem isNamed_value : ∀ t : Tree, t.NamesNonempty → t.value.IsNamed
  | .constant c, _ => by
    cases c with
    | nil => exact Value.isNamed_of_node? rfl rfl (List.forall_mem_nil _)
    | _ => exact isNamed_literal _
  | .field name, h =>
    Value.isNamed_of_node? rfl (isName_str.2 (h name (List.mem_singleton_self _)))
      (List.forall_mem_nil _)
  | .path first between last, h => by
    have hpointed : ∀ name ∈ between ++ [last], (Value.str name).isName = true := fun name hn =>
      isName_str.2 (h name (List.mem_cons_of_mem _ (Tree.mem_pointed hn)))
    have hpath : ∀ name ∈ first :: between, (Value.str name).isName = true := by
      refine List.forall_mem_cons.2 ⟨isName_str.2 (h first List.mem_cons_self), fun name hn => ?_⟩
      exact hpointed name (List.mem_append_left _ hn)
    have hlast : (Value.str last).isName = true := hpointed last (by simp)
    refine Value.isNamed_of_node? rfl ?_ (List.forall_mem_nil _)
    simpa [Node.isNamed, Node.isSound, hlast] using hpath
  | .call name args, h => by
    refine isNamed_call (h name List.mem_cons_self) fun v hv => ?_
    rw [Tree.valueAll_eq_map] at hv
    obtain ⟨arg, ha, rfl⟩ := List.mem_map.1 hv
    refine isNamed_value arg fun name hn => h name ?_
    have := Tree.subset_tokensAll ha hn
    simp [Tree.tokens, this]
  | .group inner, h => isNamed_value inner fun name hn => h name (by simp [Tree.tokens, hn])
  | .negation operand, h =>
    isNamed_negate (isNamed_value operand fun name hn => h name (by simp [Tree.tokens, hn]))
  | .not _ operand, h => by
    refine isNamed_call (by decide) (List.forall_mem_singleton.2 ?_)
    exact isNamed_value operand fun name hn => h name (by simp [Tree.tokens, hn])
  | .binary op left right, h => by
    refine isNamed_call op.name_ne_empty fun arg ha => ?_
    rcases List.mem_pair.1 ha with rfl | rfl
    · exact isNamed_value left fun name hn => h name (by simp [Tree.tokens, hn])
    · exact isNamed_value right fun name hn => h name (by simp [Tree.tokens, hn])
  termination_by t => sizeOf t

/-- The names in a formula are not empty. -/
theorem isNamed_of_parse {text : String} {v : Value} (h : parse text = .ok v) : v.IsNamed := by
  obtain ⟨ts, t, hts, ⟨ht, -⟩, rfl⟩ := exists_tree_of_parse h
  refine isNamed_value t fun name hn => ?_
  rw [ht] at hn
  obtain ⟨u, hu, hlexeme⟩ := List.mem_map.1 hn
  obtain ⟨_, _, hspells⟩ := exists_spells_of_tokenize hts hu
  exact name_ne_empty_of_spells (hlexeme ▸ hspells)

/-- A formula is well formed if and only if each call of an operator in it has as many arguments
    as that takes. Nothing else can be wrong with it. -/
theorem validate_parse_iff {text : String} {v : Value} (h : parse text = .ok v) :
    (v.validate.run = .ok (.ok ()) ↔ ∀ part name args, Value.IsPart part v →
      part.node? = .ok (some (.call (.str name) args)) →
        (name = "if" → args.length = 3) ∧ (name ∈ ["+", "-", "*", "/"] → args.length = 2)) ∧
    ∀ part, Value.IsPart part v → ∃ n, part.node? = .ok (some n) ∧ n.isNamed = true := by
  have hnamed : v.IsNamed := isNamed_of_parse h
  refine ⟨?_, hnamed⟩
  rw [Value.validate_eq_ok_iff, Value.isWellFormed_iff]
  constructor
  · intro hsound part name args hp hn
    obtain ⟨m, hm, hs⟩ := hsound part hp
    cases hn.symm.trans hm
    exact ((Node.isSound_iff _).1 hs).2 name args rfl
  · intro hcounted part hp
    obtain ⟨n, hn, hnames⟩ := hnamed part hp
    refine ⟨n, hn, (Node.isSound_iff n).2 ⟨hnames, ?_⟩⟩
    rintro name args rfl
    exact hcounted part name args hp hn

/-- A sum with a conditional that has no second branch. -/
def oneBranch : Tree :=
  .binary .plus (.field "net") (.call "if" [.path "order" [] "paid", .field "rate"])

/-- The formula is read, but it is not well formed, although no name is missing in it. -/
theorem validate_parse_oneBranch :
    parse "net + if(order.paid, rate)" = .ok oneBranch.value ∧
    oneBranch.value.validate.run ≠ .ok (.ok ()) ∧ oneBranch.value.IsNamed := by
  obtain ⟨ts, hl, ht⟩ : ∃ ts, tokenize "net + if(order.paid, rate)" = .ok ts ∧
      oneBranch.tokens = ts.map (·.lexeme) := ⟨_, by cbv, by cbv⟩
  have hb : allBlank "net + if(order.paid, rate)" = false := by cbv
  have hparse := parse_of_derives hb hl (t := oneBranch) ⟨ht, by decide⟩
  obtain ⟨hvalid, hnamed⟩ := validate_parse_iff hparse
  refine ⟨hparse, fun h => ?_, hnamed⟩
  have hcounted := hvalid.1 h (.call (.str "if") [.relatedRef [.str "order"] (.str "paid"),
    .fieldRef (.str "rate")]) "if" _
    (.argument rfl (List.mem_cons_of_mem _ (List.mem_singleton_self _)) .self) rfl
  exact absurd (hcounted.1 rfl) (by decide)

end Formula

end ControlBreak
