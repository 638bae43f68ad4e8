import ControlBreak.Proofs.Formula.Tiling

/-!
# Printed formulas

Expressions of nothing, literals, fields, paths and calls can be written as formulas, if all
their names can stand in backticks. Calls of the operators of formulas with two arguments are
written between these, a call of `not` with one argument before it, and all other calls with
their arguments in parentheses, those that are spelled like operators included. An operand
stands in parentheses if its own operator does not bind tighter than its place demands; to the
left of an operator that is completed from the left, an operator that binds alike will do.

* `Term.print`: the text of an expression;
* `Lexes`: the tokens of a text, wherever it stands; a printed token is one token if what comes
  after it is *closed*, which cannot be taken as part of it.
-/

namespace ControlBreak

namespace Formula

/-! ### Expressions that can be printed -/

/-- A name that can stand in backticks. -/
structure Name where
  text : String
  nonempty : text.toList ≠ []
  plain : backtick ∉ text.toList

/-- An expression that can be printed. A path has a first name, the names between, and a last
    one. -/
inductive Term
  | nil
  | integer (n : Int)
  | truth (holds : Bool)
  | text (s : String)
  | field (name : Name)
  | path (first : Name) (between : List Name) (last : Name)
  | call (op : Name) (args : List Term)

namespace Term

mutual

/-- The expression itself. -/
def value : Term → Value
  | .nil => .absent
  | .integer n => .literal (.int n)
  | .truth holds => .literal (.bool holds)
  | .text s => .literal (.str s)
  | .field name => .fieldRef (.str name.text)
  | .path first between last =>
    .relatedRef ((first :: between).map fun name => .str name.text) (.str last.text)
  | .call op args => .call (.str op.text) (valueAll args)
  termination_by structural t => t

/-- The expressions themselves. -/
def valueAll : List Term → List Value
  | [] => []
  | arg :: rest => value arg :: valueAll rest
  termination_by structural args => args

end

end Term

/-! ### Their texts -/

/-- The quotes that a text can stand in. -/
inductive Quote
  | single
  | double
  deriving DecidableEq

/-- The character of a quote. -/
def Quote.char : Quote → Char
  | .single => '\''
  | .double => '"'

/-- A text as it stands in quotes: backslashes and quotes are escaped. -/
def Quote.escape (q : Quote) (text : List Char) : List Char :=
  text.flatMap fun c => if c = '\\' ∨ c = q.char then ['\\', c] else [c]

/-- A name in backticks. -/
def Name.ticked (name : Name) : List Char :=
  backtick :: (name.text.toList ++ [backtick])

/-- The operators that can stand between two operands. -/
def BinaryOp.all : List BinaryOp := [
  .or "or", .and "and", .eq, .ne, .lt, .le, .gt, .ge, .plus, .minus, .star, .slash]

/-- The operator between two operands of a given name. -/
def BinaryOp.ofName? (name : String) : Option BinaryOp :=
  all.find? fun op => op.name == name

/-- A printed expression. -/
structure Printed where
  chars : List Char
  /-- The operator that is applied last, if there is one outside of parentheses. -/
  top : Option Binding

namespace Printed

/-- An expression in parentheses. -/
def inParens (p : Printed) : List Char :=
  '(' :: (p.chars ++ [')'])

/-- An expression to the left of an operator. -/
def before (p : Printed) (b : Binding) : List Char :=
  if ∀ rule ∈ p.top, rule.Completes b then p.chars else p.inParens

/-- An expression to the right of an operator. -/
def after (p : Printed) (b : Binding) : List Char :=
  if ∀ rule ∈ p.top, rule.Extends b then p.chars else p.inParens

/-- Arguments with commas between them. -/
def arguments : List Printed → List Char
  | [] => []
  | p :: rest => p.chars ++ rest.flatMap fun p => ',' :: ' ' :: p.chars

/-- A call with its arguments in parentheses. -/
def plainCall (op : Name) (args : List Printed) : Printed :=
  ⟨op.ticked ++ '(' :: (arguments args ++ [')']), none⟩

/-- A call of an operator, or another one. -/
def call (op : Name) : List Printed → Printed
  | [left, right] =>
    match BinaryOp.ofName? op.text with
    | some o =>
      ⟨left.before o.binding ++ ' ' :: (op.text.toList ++ ' ' :: right.after o.binding),
        some o.binding⟩
    | none => plainCall op [left, right]
  | [operand] =>
    if op.text = "not" then ⟨'n' :: 'o' :: 't' :: ' ' :: operand.after .not, some .not⟩
    else plainCall op [operand]
  | args => plainCall op args

end Printed

namespace Term

mutual

/-- An expression as it is printed, with texts in given quotes. -/
def printed (q : Quote) : Term → Printed
  | .nil => ⟨['n', 'i', 'l'], none⟩
  | .integer n =>
    if n < 0 then ⟨'-' :: decimalDigits n.natAbs, some .negation⟩
    else ⟨decimalDigits n.natAbs, none⟩
  | .truth true => ⟨['t', 'r', 'u', 'e'], none⟩
  | .truth false => ⟨['f', 'a', 'l', 's', 'e'], none⟩
  | .text s => ⟨q.char :: (q.escape s.toList ++ [q.char]), none⟩
  | .field name => ⟨name.ticked, none⟩
  | .path first between last =>
    ⟨first.ticked ++ (between ++ [last]).flatMap fun name => '.' :: name.ticked, none⟩
  | .call op args => .call op (printedAll q args)
  termination_by structural t => t

/-- Expressions as they are printed. -/
def printedAll (q : Quote) : List Term → List Printed
  | [] => []
  | arg :: rest => printed q arg :: printedAll q rest
  termination_by structural args => args

end

/-- The text of an expression. -/
def print (q : Quote) (t : Term) : String :=
  String.ofList (t.printed q).chars

end Term

/-! ### Tokens of texts -/

/-- A text that cannot go on with the token before it: it is empty, or starts with a blank, a
    comma or a closing parenthesis. -/
inductive Closed : List Char → Prop
  | nil : Closed []
  | blank (rest : List Char) : Closed (' ' :: rest)
  | comma (rest : List Char) : Closed (',' :: rest)
  | paren (rest : List Char) : Closed (')' :: rest)

/-- A text has the given tokens, wherever it stands. -/
def Lexes (text : List Char) (tokens : List Lexeme) : Prop :=
  ∀ position, ∃ ts, tokensFrom position text = (ts, .complete) ∧ ts.map (·.lexeme) = tokens

variable {chars rest : List Char} {tokens : List Lexeme} {l : Lexeme} {q : Quote}

theorem lexes_nil : Lexes [] [] := fun _ => ⟨[], by rw [tokensFrom], rfl⟩

theorem Lexes.skip {c : Char} (hc : isSkipped c = true) (h : Lexes rest tokens) :
    Lexes (c :: rest) tokens := by
  intro position
  obtain ⟨ts, ht, hts⟩ := h (position + 1)
  exact ⟨ts, by rw [tokensFrom, if_pos hc, ht], hts⟩

theorem Lexes.blank (h : Lexes rest tokens) : Lexes (' ' :: rest) tokens :=
  h.skip rfl

/-- A text starts with a token if the token is found there and ends where the rest starts. -/
theorem Lexes.token (c : Char) (chars : List Char) (hc : isSkipped c = false)
    (hs : scan (c :: (chars ++ rest)) = .lexeme l (chars.length + 1)) (h : Lexes rest tokens) :
    Lexes (c :: (chars ++ rest)) (l :: tokens) := by
  intro position
  obtain ⟨ts, ht, rfl⟩ := h (position + (chars.length + 1))
  refine ⟨⟨l, position, chars.length + 1⟩ :: ts, ?_, rfl⟩
  rw [tokensFrom, if_neg (by simp [hc]), hs]
  simp only [Nat.add_sub_cancel, List.drop_left, ht]

theorem Lexes.spells (hs : Spells chars l rest) (h : Lexes rest tokens) :
    Lexes (chars ++ rest) (l :: tokens) := by
  obtain ⟨c, chars, rfl⟩ := List.exists_cons_of_ne_nil hs.isLexeme.ne_nil
  have hscan := scan_of_spells hs
  refine h.token c chars (Bool.eq_false_iff.2 fun hc => ?_) hscan
  cases (scan_of_isSkipped hc _).symm.trans hscan

theorem exists_tokenize_of_lexes {text : String} (h : Lexes text.toList tokens) :
    ∃ ts, tokenize text = .ok ts ∧ ts.map (·.lexeme) = tokens := by
  obtain ⟨ts, ht, hts⟩ := h 0
  refine ⟨ts, ?_, hts⟩
  rw [tokenize, Formula.tokens, ht]
  rfl

/-- A text with the tokens of a tree stands for what the tree does. -/
theorem parse_of_lexes {text : String} {t : Tree} (hb : allBlank text = false)
    (hl : Lexes text.toList t.tokens) (ho : t.Obeys) : parse text = .ok t.value := by
  obtain ⟨ts, hts, htokens⟩ := exists_tokenize_of_lexes hl
  exact parse_of_derives hb hts ⟨htokens.symm, ho⟩

/-! ### Signs and words -/

theorem Lexes.openParen (h : Lexes rest tokens) :
    Lexes ('(' :: rest) (.sign .openParen :: tokens) :=
  h.token '(' [] rfl rfl

theorem Lexes.closeParen (h : Lexes rest tokens) :
    Lexes (')' :: rest) (.sign .closeParen :: tokens) :=
  h.token ')' [] rfl rfl

theorem Lexes.comma (h : Lexes rest tokens) : Lexes (',' :: rest) (.sign .comma :: tokens) :=
  h.token ',' [] rfl rfl

theorem Lexes.dot (h : Lexes rest tokens) : Lexes ('.' :: rest) (.sign .dot :: tokens) :=
  h.token '.' [] rfl rfl

theorem Lexes.minus (h : Lexes rest tokens) : Lexes ('-' :: rest) (.sign .minus :: tokens) :=
  h.token '-' [] rfl rfl

theorem Lexes.nil (hc : Closed rest) (h : Lexes rest tokens) :
    Lexes ('n' :: 'i' :: 'l' :: rest) (.keyword .nil "nil" :: tokens) :=
  h.token 'n' ['i', 'l'] rfl (by cases hc <;> rfl)

theorem Lexes.truth (holds : Bool) (hc : Closed rest) (h : Lexes rest tokens) :
    Lexes ((Term.printed q (.truth holds)).chars ++ rest)
      ((Constant.truth holds (if holds then "true" else "false")).lexeme :: tokens) :=
  match holds with
  | true => h.token 't' ['r', 'u', 'e'] rfl (by cases hc <;> rfl)
  | false => h.token 'f' ['a', 'l', 's', 'e'] rfl (by cases hc <;> rfl)

theorem Lexes.not (h : Lexes rest tokens) :
    Lexes ('n' :: 'o' :: 't' :: ' ' :: rest) (.keyword .not "not" :: tokens) :=
  h.blank.token 'n' ['o', 't'] rfl rfl

/-- An operator stands between blanks, so that no sign is taken for a longer one. -/
theorem Lexes.operator {name : String} {op : BinaryOp} (ho : BinaryOp.ofName? name = some op)
    (h : Lexes rest tokens) :
    op.name = name ∧ Lexes (' ' :: (name.toList ++ ' ' :: rest)) (op.lexeme :: tokens) := by
  have hn : op.name = name := by simpa using List.find?_some ho
  have hm : op ∈ BinaryOp.all := List.mem_of_find?_eq_some ho
  refine ⟨hn, .blank ?_⟩
  subst hn
  have hb : Lexes (' ' :: rest) tokens := h.blank
  fin_cases hm
  · exact hb.token 'o' ['r'] rfl rfl
  · exact hb.token 'a' ['n', 'd'] rfl rfl
  · exact hb.token '=' ['='] rfl rfl
  · exact hb.token '!' ['='] rfl rfl
  · exact hb.token '<' [] rfl rfl
  · exact hb.token '<' ['='] rfl rfl
  · exact hb.token '>' [] rfl rfl
  · exact hb.token '>' ['='] rfl rfl
  · exact hb.token '+' [] rfl rfl
  · exact hb.token '-' [] rfl rfl
  · exact hb.token '*' [] rfl rfl
  · exact hb.token '/' [] rfl rfl

/-! ### Names -/

theorem spells_ticked (name : Name) (rest : List Char) :
    Spells name.ticked (.name name.text) rest := by
  have hspells : Spells name.ticked _ rest := .ticked name.nonempty name.plain
  rwa [String.ofList_toList] at hspells

theorem Lexes.name (name : Name) (h : Lexes rest tokens) :
    Lexes (name.ticked ++ rest) (.name name.text :: tokens) :=
  h.spells (spells_ticked name rest)

theorem Lexes.pointed (names : List Name) (h : Lexes rest tokens) :
    Lexes ((names.flatMap fun name => '.' :: name.ticked) ++ rest)
      (Formula.pointed (names.map (·.text)) ++ tokens) := by
  induction names with
  | nil => exact h
  | cons name names ih =>
    rw [List.flatMap_cons, List.append_assoc]
    exact (ih.name name).dot

/-! ### Numbers -/

theorem forall_digitChar : ∀ d < 10, digitValue? (Nat.digitChar d) = some d ∧
    isBlank (Nat.digitChar d) = false ∧ isSkipped (Nat.digitChar d) = false := by
  decide

/-- The last digit of a number of several digits. -/
theorem decimalDigits_append {n : Nat} (h : 10 ≤ n) :
    decimalDigits n = decimalDigits (n / 10) ++ [Nat.digitChar (n % 10)] := by
  have hlt : n % 10 < 10 := Nat.mod_lt n (by decide)
  rw [decimalDigits, decimalDigits, ← Nat.toDigits_of_lt_base hlt,
    Nat.toDigits_append_toDigits (by decide) (by omega) hlt, Nat.div_add_mod]

theorem exists_of_mem_decimalDigits {n : Nat} {c : Char} (h : c ∈ decimalDigits n) :
    ∃ d < 10, c = Nat.digitChar d := by
  induction n using Nat.strongRecOn with
  | ind n ih =>
    by_cases hn : n < 10
    · rw [decimalDigits, Nat.toDigits_of_lt_base hn, List.mem_singleton] at h
      exact ⟨n, hn, h⟩
    · rw [decimalDigits_append (by omega), List.mem_append, List.mem_singleton] at h
      rcases h with h | h
      · exact ih (n / 10) (by omega) h
      · exact ⟨n % 10, Nat.mod_lt n (by decide), h⟩

theorem digitsValue_decimalDigits (n : Nat) : digitsValue (decimalDigits n) = n := by
  induction n using Nat.strongRecOn with
  | ind n ih =>
    by_cases hn : n < 10
    · rw [decimalDigits, Nat.toDigits_of_lt_base hn, digitsValue, List.foldl_cons, List.foldl_nil,
        (forall_digitChar n hn).1, Option.getD_some, Nat.mul_zero, Nat.zero_add]
    · have hlt : n % 10 < 10 := Nat.mod_lt n (by decide)
      have hrest := ih (n / 10) (by omega)
      rw [digitsValue] at hrest
      rw [decimalDigits_append (by omega), digitsValue, List.foldl_append, hrest,
        List.foldl_cons, List.foldl_nil, (forall_digitChar _ hlt).1, Option.getD_some,
        Nat.div_add_mod]

/-- A number starts with a digit. -/
theorem exists_decimalDigits (n : Nat) : ∃ d digits, d < 10 ∧
    decimalDigits n = Nat.digitChar d :: digits := by
  obtain ⟨c, digits, hd⟩ := List.exists_cons_of_length_pos
    (Nat.length_toDigits_pos : 0 < (Nat.toDigits 10 n).length)
  rw [← decimalDigits] at hd
  obtain ⟨d, hlt, rfl⟩ := exists_of_mem_decimalDigits (hd ▸ List.mem_cons_self)
  exact ⟨d, digits, hlt, hd⟩

theorem digitValue_lt (c : Char) : (digitValue? c).getD 0 < 10 := by
  rw [digitValue?]
  cases hf : zeroDigits.find? fun z => z ≤ c.toNat && c.toNat < z + 10 with
  | none => exact Nat.succ_pos _
  | some z =>
    have hz := List.find?_some hf
    rw [Bool.and_eq_true, decide_eq_true_eq, decide_eq_true_eq] at hz
    rw [Option.map_some, Option.getD_some]
    omega

/-- A number is not longer than the digits that it is read from. -/
theorem digitsValue_lt (digits : List Char) : digitsValue digits < 10 ^ digits.length := by
  induction digits using List.reverseRecOn with
  | nil => decide
  | append_singleton digits c ih =>
    have hc := digitValue_lt c
    rw [digitsValue] at ih
    rw [digitsValue, List.foldl_append, List.foldl_cons, List.foldl_nil, List.length_append,
      List.length_singleton, Nat.pow_succ]
    omega

/-- A token that can be read as it is printed: a number without a point has few enough digits. -/
def Lexeme.Fits : Lexeme → Prop
  | .integer n => (decimalDigits n).length ≤ integerDigitLimit
  | _ => True

theorem fits_integer_iff {n : Nat} : (Lexeme.integer n).Fits ↔ n < 10 ^ integerDigitLimit :=
  Nat.length_toDigits_le_iff (by decide) (by decide)

/-- The smallest number with too many digits. -/
def firstOversized : Nat := 10 ^ integerDigitLimit

theorem not_fits_firstOversized : ¬(Lexeme.integer firstOversized).Fits := by
  rw [fits_integer_iff]
  exact Nat.lt_irrefl (10 ^ integerDigitLimit)

theorem fits_zero : (Lexeme.integer 0).Fits := by
  rw [fits_integer_iff]
  exact Nat.pow_pos (by decide)

theorem Spells.fits {written : List Char} (h : Spells written l rest) : l.Fits := by
  cases h with
  | integer hd hl =>
    exact fits_integer_iff.2
      ((digitsValue_lt _).trans_le (Nat.pow_le_pow_right (by decide) hl))
  | _ => trivial

theorem spells_integer (n : Nat) (h : (Lexeme.integer n).Fits) :
    Spells (decimalDigits n) (.integer n) [] := by
  have hdigit : ∀ c ∈ decimalDigits n, isDecimalDigit c = true := fun c hm => by
    obtain ⟨d, hd, rfl⟩ := exists_of_mem_decimalDigits hm
    rw [isDecimalDigit, (forall_digitChar d hd).1, Option.isSome_some]
  have hne : decimalDigits n ≠ [] := by
    obtain ⟨d, digits, -, hd⟩ := exists_decimalDigits n
    simp [hd]
  have hspells : Spells (decimalDigits n) (.integer (digitsValue (decimalDigits n))) [] :=
    .integer ⟨⟨hne, hdigit⟩, stops_nil _, fun _ h => absurd h.symm (List.cons_ne_nil _ _)⟩ h
  rwa [digitsValue_decimalDigits] at hspells

theorem Closed.parts (h : Closed rest) : Parts rest := by
  cases h with
  | nil => exact parts_nil
  | blank | comma | paren => exact parts_cons.2 (by decide)

theorem Lexes.integer (n : Nat) (hn : (Lexeme.integer n).Fits) (hc : Closed rest)
    (h : Lexes rest tokens) : Lexes (decimalDigits n ++ rest) (.integer n :: tokens) :=
  h.spells ((spells_integer n hn).append hc.parts)

/-! ### Texts -/

theorem Quote.char_ne (q : Quote) : q.char ≠ '\\' ∧ q.char ≠ '\n' := by
  cases q <;> decide

theorem escape_cons (c : Char) (text : List Char) :
    q.escape (c :: text) = (if c = '\\' ∨ c = q.char then ['\\', c] else [c]) ++ q.escape text :=
  List.flatMap_cons

/-- A quote that is escaped does not close a text. -/
theorem quotable_escape (q : Quote) (text : List Char) : Quotable q.char (q.escape text) := by
  induction text with
  | nil => exact .nil
  | cons c text ih =>
    rw [escape_cons]
    split
    · rename_i hc
      refine .escaped ?_ ih
      rintro rfl
      exact hc.elim (by decide) fun h => q.char_ne.2 h.symm
    · rename_i hc
      rw [not_or] at hc
      exact .plain hc.2 hc.1 ih

/-- What was escaped stands for itself again. -/
theorem unescape?_escape (text : List Char) : unescape? (q.escape text) = some text := by
  induction text with
  | nil => rw [Quote.escape, List.flatMap_nil, unescape?]
  | cons c text ih =>
    rw [escape_cons]
    split
    · rename_i hc
      have hread : readEscape? (c :: q.escape text) = some ([c], 1) := by
        obtain rfl | rfl := hc
        · rfl
        · cases q <;> rfl
      rw [List.cons_append, List.cons_append, List.nil_append, unescape?, if_pos rfl, hread]
      simp [ih]
    · rename_i hc
      rw [not_or] at hc
      rw [List.singleton_append, unescape?, if_neg hc.1, ih, Option.map_some]

theorem spells_text (q : Quote) (s : String) (rest : List Char) :
    Spells (q.char :: (q.escape s.toList ++ [q.char])) (.text s) rest := by
  have hq : q.char = '"' ∨ q.char = '\'' := by
    cases q
    · exact .inr rfl
    · exact .inl rfl
  have hspells : Spells _ _ rest := .text hq (quotable_escape q s.toList)
    (unescape?_escape s.toList)
  rwa [String.ofList_toList] at hspells

theorem Lexes.text (q : Quote) (s : String) (h : Lexes rest tokens) :
    Lexes (q.char :: (q.escape s.toList ++ [q.char]) ++ rest) (.text s :: tokens) :=
  h.spells (spells_text q s rest)

end Formula

end ControlBreak
