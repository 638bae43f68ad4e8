import ControlBreak.Proofs.Formula.Grammar
import ControlBreak.Proofs.Formula.Numerals
import Mathlib

/-!
# How formulas are rejected

A text that is no formula is rejected at the first token with which no formula goes on, or where
its tokens end too early. Most of this is an error of syntax. One end of the tokens is none: a
text in quotes whose escapes stand for nothing. It is met only if the tokens before it are the
beginning of a formula, since the parser stops at others before.

* `begins_iff`: the machine goes on exactly as long as what it has read begins a formula; what is
  open on its stack can always be closed;
* `unescape?_eq_none_iff`: the texts in quotes that stand for nothing;
* `parse_eq_unmade_iff`: the texts that come to a token that cannot be made;
* `parse_syntax_iff`: all other texts are formulas or errors of syntax.
-/

namespace ControlBreak

namespace Formula

/-! ### Beginnings of formulas -/

/-- Tokens that a formula begins with. -/
def Begins (tokens : List Lexeme) : Prop :=
  ∃ (t : Tree) (more : List Lexeme), t.Derives (tokens ++ more)

namespace Reading

variable {r : Reading} {stack : List Frame} {t : Tree}

/-- A name, a constant or a parenthesis makes an operand of what was read. -/
theorem exists_operand (r : Reading) : ∃ more r' t, r.read more = some r' ∧ r'.stack = r.stack ∧
    r'.operand? = some t := by
  obtain ⟨stack, phase⟩ := r
  cases phase with
  | operand => exact ⟨[(Constant.nil "nil").lexeme], _, _, rfl, rfl, rfl⟩
  | named name => exact ⟨[], _, _, rfl, rfl, rfl⟩
  | opened name => exact ⟨[.sign .closeParen], _, _, rfl, rfl, rfl⟩
  | dotted first between => exact ⟨[.name first], _, _, rfl, rfl, rfl⟩
  | path first between last => exact ⟨[], _, _, rfl, rfl, rfl⟩
  | value t => exact ⟨[], _, _, rfl, rfl, rfl⟩

/-- At the end of what stands in parentheses, all operators are completed. -/
theorem exists_settle_closing (stack : List Frame) (t : Tree) : ∃ stack' t',
    settle .closing stack t = some (stack', t') ∧ stack'.length ≤ stack.length ∧
      ∀ f ∈ stack'.head?, f = .group ∨ ∃ name args, f = .call name args := by
  induction stack generalizing t with
  | nil => exact ⟨[], t, rfl, le_rfl, by simp⟩
  | cons f stack ih =>
    have hrest : ∀ t', settle .closing (f :: stack) t = settle .closing stack t' → ∃ stack' t'',
        settle .closing (f :: stack) t = some (stack', t'') ∧
          stack'.length ≤ (f :: stack).length ∧
          ∀ f ∈ stack'.head?, f = .group ∨ ∃ name args, f = .call name args := by
      intro t' hs
      obtain ⟨stack', t'', hsettle, hlength, hhead⟩ := ih t'
      exact ⟨stack', t'', hs.trans hsettle, Nat.le_succ_of_le hlength, hhead⟩
    cases f with
    | operator op left =>
      have hlevel : ¬op.binding.level < Binding.closing.level := Nat.not_lt_zero _
      refine hrest (.binary op left t) ?_
      rw [settle, if_neg hlevel, if_neg (by simp)]
    | not spelling =>
      have hlevel : ¬Binding.not.level < Binding.closing.level := Nat.not_lt_zero _
      refine hrest (.not spelling t) ?_
      rw [settle, if_neg hlevel]
    | negation => exact hrest (.negation t) rfl
    | group => exact ⟨.group :: stack, t, rfl, le_rfl, by simp⟩
    | call name args => exact ⟨.call name args :: stack, t, rfl, le_rfl, by simp⟩

theorem step_closeParen (h : r.operand? = some t) :
    r.step (.sign .closeParen) = afterOperand r.stack t (.sign .closeParen) := by
  obtain ⟨stack, phase⟩ := r
  cases phase <;> cases h <;> rfl

/-- Parentheses close what is open, one after the other. -/
theorem exists_finish_of_operand {n : Nat} (hn : r.stack.length = n) (h : r.operand? = some t) :
    ∃ more r' t', r.read more = some r' ∧ r'.finish = some t' := by
  -- By induction on what is on the stack: each parenthesis takes a frame off it.
  induction n using Nat.strongRecOn generalizing r t with
  | ind n ih =>
    obtain ⟨stack', t', hsettle, hlength, hhead⟩ := exists_settle_closing r.stack t
    cases stack' with
    | nil =>
      refine ⟨[], r, t', rfl, ?_⟩
      rw [finish, h, Option.bind_some, hsettle]
    | cons f rest =>
      have hlt : rest.length < n := hn ▸ Nat.lt_of_succ_le hlength
      -- The frame on top is one that a parenthesis closes.
      have hclose : ∃ t'', r.step (.sign .closeParen) = some ⟨rest, .value t''⟩ := by
        rw [step_closeParen h, afterOperand.eq_def]
        obtain rfl | ⟨name, args, rfl⟩ := hhead f rfl
        · exact ⟨.group t', by simp only [Lexeme.binary?, hsettle]⟩
        · exact ⟨.call name (args ++ [t']), by simp only [Lexeme.binary?, hsettle]⟩
      obtain ⟨t'', hstep⟩ := hclose
      obtain ⟨more, r', t₁, hread, hfinish⟩ :=
        ih rest.length hlt (r := ⟨rest, .value t''⟩) rfl rfl
      exact ⟨.sign .closeParen :: more, r', t₁, by rw [read_cons, hstep]; exact hread, hfinish⟩

/-- Every reading can go on to the end of a formula. -/
theorem exists_finish (r : Reading) : ∃ more r' t, r.read more = some r' ∧ r'.finish = some t := by
  obtain ⟨more, r', t, hread, -, ht⟩ := exists_operand r
  obtain ⟨rest, r'', t', hrest, hfinish⟩ := exists_finish_of_operand rfl ht
  exact ⟨more ++ rest, r'', t', by rw [read_append, hread]; exact hrest, hfinish⟩

end Reading

/-- The machine reads what a formula begins with, and nothing else. -/
theorem begins_iff {tokens : List Lexeme} :
    Begins tokens ↔ ∃ r, Reading.start.read tokens = some r := by
  constructor
  · rintro ⟨t, more, ht⟩
    obtain ⟨r, hr, -⟩ := finish_eq_some_iff.2 ht
    rw [Reading.read_append] at hr
    obtain ⟨r', hr', -⟩ := Option.bind_eq_some_iff.1 hr
    exact ⟨r', hr'⟩
  · rintro ⟨r, hr⟩
    obtain ⟨more, r', t, hmore, hfinish⟩ := r.exists_finish
    refine ⟨t, more, finish_eq_some_iff.1 ⟨r', ?_, hfinish⟩⟩
    rw [Reading.read_append, hr]
    exact hmore

/-! ### Escapes that stand for nothing -/

/-- What stands after a backslash and is no escape. A letter for a number needs its digits, and
    they have to spell the number of a character, or one of those set aside for pairs; an `N`
    needs the name of a character in braces. -/
inductive IsBroken : List Char → Prop
  | nothing : IsBroken []
  | number {c : Char} {width : Nat} {text : List Char} : hexWidth? c = some width →
    (∀ digits rest values, text = digits ++ rest → digits.length = width →
      List.Forall₂ (hexValue? · = some ·) digits values → 0x110000 ≤ numberIn 16 values) →
    IsBroken (c :: text)
  | name {text : List Char} :
    (∀ name rest, text = '\x7b' :: (name ++ '\x7d' :: rest) → name ≠ [] → '\x7d' ∉ name →
      codeNamed? name = none) →
    IsBroken ('N' :: text)

/-- A written text of which some escape stands for nothing. -/
inductive HasBroken : List Char → Prop
  | here {rest : List Char} : IsBroken rest → HasBroken ('\\' :: rest)
  | plain {c : Char} {rest : List Char} : c ≠ '\\' → HasBroken rest → HasBroken (c :: rest)
  | escape {rest chars : List Char} {taken : Nat} : readEscape? rest = some (chars, taken) →
    HasBroken (rest.drop taken) → HasBroken ('\\' :: rest)

section Values

variable {α β : Type} {f : α → Option β} {l : List α} {values : List β}

theorem filterMap_of_forall₂ (h : List.Forall₂ (f · = some ·) l values) :
    l.filterMap f = values := by
  induction h with
  | nil => rfl
  | cons hx _ ih => rw [List.filterMap_cons_some hx, ih]

theorem forall₂_filterMap (h : (l.filterMap f).length = l.length) :
    List.Forall₂ (f · = some ·) l (l.filterMap f) := by
  induction l with
  | nil => exact .nil
  | cons x l ih =>
    cases hx : f x with
    | none =>
      rw [List.filterMap_cons_none hx] at h
      have hle := List.length_filterMap_le f l
      simp only [List.length_cons] at h
      omega
    | some v =>
      rw [List.filterMap_cons_some hx] at h ⊢
      exact .cons hx (ih (Nat.succ.inj h))

end Values

theorem hexEscape?_eq_none_iff {width : Nat} {text : List Char} : hexEscape? width text = none ↔
    ∀ digits rest values, text = digits ++ rest → digits.length = width →
      List.Forall₂ (hexValue? · = some ·) digits values → 0x110000 ≤ numberIn 16 values := by
  rw [hexEscape?]
  simp only [ite_eq_right_iff, reduceCtorEq, imp_false, not_and, Nat.not_lt]
  constructor
  · rintro h digits rest values rfl rfl hvalues
    rw [List.take_left, filterMap_of_forall₂ hvalues] at h
    exact h hvalues.length_eq.symm
  · intro h hlength
    -- As many values as digits were asked for: so many characters are there, all of them digits.
    have htake : (text.take width).length = width :=
      (List.length_take_le _ _).antisymm
        (hlength.symm.trans_le (List.length_filterMap_le hexValue? (text.take width)))
    exact h _ (text.drop width) _ (List.take_append_drop _ _).symm htake
      (forall₂_filterMap (hlength.trans htake.symm))

/-- In braces, a character is found by its name. -/
theorem namedEscape?_braces {name : List Char} (rest : List Char) (hne : name ≠ [])
    (hname : '\x7d' ∉ name) : namedEscape? ('\x7b' :: (name ++ '\x7d' :: rest)) =
      (codeNamed? name).map fun code => (charOf code, name.length + 2) := by
  have htake : (name ++ '\x7d' :: rest).takeWhile (· ≠ '\x7d') = name := by
    have hall : ∀ c ∈ name, decide (c ≠ '\x7d') = true := fun c hc => by
      simpa using ne_of_mem_of_not_mem hc hname
    rw [List.takeWhile_append_of_pos hall]
    simp
  rw [namedEscape?]
  simp only [htake]
  rw [if_neg (by simp [hne])]
  cases codeNamed? name <;> rfl

theorem namedEscape?_eq_none_iff {text : List Char} : namedEscape? text = none ↔
    ∀ name rest, text = '\x7b' :: (name ++ '\x7d' :: rest) → name ≠ [] → '\x7d' ∉ name →
      codeNamed? name = none := by
  constructor
  · rintro h name rest rfl hne hname
    rw [namedEscape?_braces rest hne hname] at h
    exact Option.map_eq_none_iff.1 h
  · intro h
    rw [namedEscape?.eq_def]
    split
    · rename_i text
      by_cases hmem : '\x7d' ∈ text
      · obtain ⟨name, rest, rfl, hname⟩ := List.eq_append_cons_of_mem hmem
        by_cases hne : name = []
        · subst hne
          rfl
        · have hcode := namedEscape?_braces rest hne hname
          rw [h name rest rfl hne hname] at hcode
          exact hcode
      · -- Braces that are not closed hold no name.
        have htake : text.takeWhile (· ≠ '\x7d') = text := by
          rw [List.takeWhile_eq_self_iff]
          exact fun c hc => by simpa using ne_of_mem_of_not_mem hc hmem
        simp only [htake, or_true, if_true]
    · rfl

theorem simpleEscape?_of_hexWidth? {c : Char} {width : Nat} (h : hexWidth? c = some width) :
    simpleEscape? c = none := by
  rw [hexWidth?.eq_def] at h
  split at h
  · rfl
  · rfl
  · rfl
  · cases h

theorem readEscape?_eq_none_iff {text : List Char} : readEscape? text = none ↔ IsBroken text := by
  constructor
  · intro h
    cases text with
    | nil => exact .nothing
    | cons c rest =>
      rw [readEscape?] at h
      split at h
      · cases h
      · rename_i width _ hwidth
        exact .number hwidth (hexEscape?_eq_none_iff.1 (Option.map_eq_none_iff.1 h))
      · by_cases hN : c = 'N'
        · subst hN
          exact .name (namedEscape?_eq_none_iff.1 (Option.map_eq_none_iff.1 h))
        · -- All other characters are escapes of their own or stand for themselves.
          rw [if_neg hN] at h
          split_ifs at h
  · rintro (_ | ⟨hwidth, h⟩ | h)
    · rfl
    · rw [readEscape?, simpleEscape?_of_hexWidth? hwidth, hwidth]
      exact Option.map_eq_none_iff.2 (hexEscape?_eq_none_iff.2 h)
    · exact Option.map_eq_none_iff.2 (namedEscape?_eq_none_iff.2 h)

/-- The texts in quotes that stand for nothing are those with an escape that does. -/
theorem unescape?_eq_none_iff {written : List Char} :
    unescape? written = none ↔ HasBroken written := by
  constructor
  · intro h
    induction written using unescape?.induct with
    | case1 => simp [unescape?] at h
    | case2 rest chars taken he ih =>
      rw [unescape?, if_pos rfl, he] at h
      exact .escape he (ih (Option.map_eq_none_iff.1 h))
    | case3 rest he => exact .here (readEscape?_eq_none_iff.1 he)
    | case4 c rest hc ih =>
      rw [unescape?, if_neg hc] at h
      exact .plain hc (ih (Option.map_eq_none_iff.1 h))
  · intro h
    induction h with
    | here hb => rw [unescape?, if_pos rfl, readEscape?_eq_none_iff.2 hb]
    | plain hc _ ih => rw [unescape?, if_neg hc, ih, Option.map_none]
    | escape he _ ih =>
      rw [unescape?, if_pos rfl, he]
      exact Option.map_eq_none_iff.2 ih

/-! ### Texts in quotes -/

/-- What can stand between two quotes: a quote and a backslash only after a backslash, and
    no end of line there. -/
inductive Quotable (quote : Char) : List Char → Prop
  | nil : Quotable quote []
  | plain {c : Char} {rest : List Char} : c ≠ quote → c ≠ '\\' → Quotable quote rest →
    Quotable quote (c :: rest)
  | escaped {c : Char} {rest : List Char} : c ≠ '\n' → Quotable quote rest →
    Quotable quote ('\\' :: c :: rest)

section Quoted

variable {quote c : Char} {text rest : List Char}

theorem quotedLength?_quote (hq : quote ≠ '\\') : quotedLength? quote (quote :: rest) = some 0 := by
  rw [quotedLength?.eq_3 _ _ _ fun _ _ h _ => hq h, if_pos rfl]

theorem quotedLength?_plain (hc : c ≠ quote) (hb : c ≠ '\\') :
    quotedLength? quote (c :: rest) = (quotedLength? quote rest).map (· + 1) := by
  rw [quotedLength?.eq_3 _ _ _ fun _ _ h _ => hb h, if_neg hc, if_neg hb]

/-- A text in quotes ends at the first quote that stands after no backslash. -/
theorem quotedLength?_eq_some_iff {n : Nat} (hq : quote ≠ '\\') :
    quotedLength? quote text = some n ↔ ∃ written rest, text = written ++ quote :: rest ∧
      written.length = n ∧ Quotable quote written := by
  constructor
  · intro h
    induction text using quotedLength?.induct quote generalizing n with
    | case1 => cases h
    | case2 rest => simp [quotedLength?] at h
    | case3 c rest hc ih =>
      rw [quotedLength?, if_neg hc] at h
      obtain ⟨m, hm, rfl⟩ := Option.map_eq_some_iff.1 h
      obtain ⟨written, rest, rfl, rfl, hw⟩ := ih hm
      exact ⟨'\\' :: c :: written, rest, rfl, rfl, .escaped hc hw⟩
    | case4 rest hs =>
      rw [quotedLength?_quote hq] at h
      cases h
      exact ⟨[], rest, rfl, rfl, .nil⟩
    | case5 rest hs hb =>
      rw [quotedLength?.eq_3 _ _ _ hs, if_neg hb, if_pos rfl] at h
      cases h
    | case6 c rest _ hc hb ih =>
      rw [quotedLength?_plain hc hb] at h
      obtain ⟨m, hm, rfl⟩ := Option.map_eq_some_iff.1 h
      obtain ⟨written, rest, rfl, rfl, hw⟩ := ih hm
      exact ⟨c :: written, rest, rfl, rfl, .plain hc hb hw⟩
  · rintro ⟨written, rest, rfl, rfl, hw⟩
    induction hw with
    | nil => exact quotedLength?_quote hq
    | plain hc hb _ ih =>
      rw [List.cons_append, quotedLength?_plain hc hb, ih]
      rfl
    | escaped hc _ ih =>
      rw [List.cons_append, List.cons_append, quotedLength?, if_neg hc, ih]
      rfl

theorem scanText_eq_malformed_iff (hq : quote ≠ '\\') : scanText quote text = .malformed ↔
    ∃ written rest, text = written ++ quote :: rest ∧ Quotable quote written ∧
      HasBroken written := by
  rw [scanText.eq_def]
  constructor
  · intro h
    split at h
    · cases h
    · rename_i n hn
      obtain ⟨written, rest, rfl, rfl, hw⟩ := (quotedLength?_eq_some_iff hq).1 hn
      rw [List.take_left] at h
      split at h
      · cases h
      · rename_i hnone
        exact ⟨written, rest, rfl, hw, unescape?_eq_none_iff.1 hnone⟩
  · rintro ⟨written, rest, rfl, hw, hbroken⟩
    have hn := (quotedLength?_eq_some_iff hq).2 ⟨written, rest, rfl, rfl, hw⟩
    simp only [hn, List.take_left, unescape?_eq_none_iff.2 hbroken]

/-- Of all that a text can start with, only a text in quotes can be malformed. -/
theorem scan_ne_malformed (hq : ¬(c = '"' ∨ c = '\'')) : scan (c :: rest) ≠ .malformed := by
  intro h
  rw [scan] at h
  split_ifs at h
  · rw [scanNumber] at h
    split_ifs at h
  · rw [scanTicked] at h
    split_ifs at h
  · rw [scanWord.eq_def] at h
    simp only [] at h
    split at h <;> cases h
  · rw [scanSign.eq_def] at h
    split at h <;> cases h

theorem scan_quote {quote : Char} (hq : quote = '"' ∨ quote = '\'') (text : List Char) :
    scan (quote :: text) = scanText quote text ∧ quote ≠ '\\' := by
  obtain rfl | rfl := hq
  · exact ⟨rfl, by decide⟩
  · exact ⟨rfl, by decide⟩

theorem scan_eq_malformed_iff {text : List Char} : scan text = .malformed ↔
    ∃ quote written rest, text = quote :: (written ++ quote :: rest) ∧
      (quote = '"' ∨ quote = '\'') ∧ Quotable quote written ∧ HasBroken written := by
  constructor
  · intro h
    cases text with
    | nil => cases h
    | cons quote text =>
      have hq : quote = '"' ∨ quote = '\'' := by_contra fun hq => scan_ne_malformed hq h
      obtain ⟨hs, hne⟩ := scan_quote hq text
      obtain ⟨written, rest, rfl, hw, hbroken⟩ := (scanText_eq_malformed_iff hne).1 (hs ▸ h)
      exact ⟨quote, written, rest, rfl, hq, hw, hbroken⟩
  · rintro ⟨quote, written, rest, rfl, hq, hw, hbroken⟩
    obtain ⟨hs, hne⟩ := scan_quote hq (written ++ quote :: rest)
    exact hs.trans ((scanText_eq_malformed_iff hne).2 ⟨written, rest, rfl, hw, hbroken⟩)

end Quoted

/-! ### The way to the end of the tokens -/

theorem isSkipped_iff {c : Char} : isSkipped c = true ↔ c ∈ [' ', '\t', '\r', '\n'] := by
  simp [isSkipped, or_assoc]

/-- Nothing is found at a character that is passed over. -/
theorem scan_of_isSkipped {c : Char} (hc : isSkipped c = true) (text : List Char) :
    scan (c :: text) = .illegal := by
  have hall : ∀ c ∈ [' ', '\t', '\r', '\n'], scan (c :: text) = .illegal := by
    intro c hc
    fin_cases hc <;> rfl
  exact hall c (isSkipped_iff.1 hc)

/-- What remains of a text after its first tokens. -/
inductive Leads : List Char → List Lexeme → List Char → Prop
  | here {text : List Char} : Leads text [] text
  | blank {c : Char} {text rest : List Char} {tokens : List Lexeme} : isSkipped c = true →
    Leads text tokens rest → Leads (c :: text) tokens rest
  | token {c : Char} {text rest : List Char} {l : Lexeme} {width : Nat} {tokens : List Lexeme} :
    isSkipped c = false → scan (c :: text) = .lexeme l width →
    Leads (text.drop (width - 1)) tokens rest → Leads (c :: text) (l :: tokens) rest

theorem Leads.suffix {text rest : List Char} {tokens : List Lexeme} (h : Leads text tokens rest) :
    rest <:+ text := by
  induction h with
  | here => exact List.suffix_rfl
  | blank _ _ ih => exact ih.trans (List.suffix_cons _ _)
  | token _ _ _ ih => exact (ih.trans (List.drop_suffix _ _)).trans (List.suffix_cons _ _)

/-- A token that cannot be made, how the tokens end at its place, and the error that this is. -/
inductive Unmade : Scan → (Nat → Ending) → ParseError → Prop
  | malformed : Unmade .malformed .malformed .malformedEscape
  | oversized (digits : Nat) : Unmade (.oversized digits) (.oversized digits) (.oversized digits)

section Unmade

variable {s : Scan} {ending : Nat → Ending} {e : ParseError} {text : List Char}

theorem Unmade.ofEnding?_iff (h : Unmade s ending e) {found : Ending} :
    ParseError.ofEnding? found = some e ↔ ∃ position, found = ending position := by
  constructor
  · intro hf
    cases h <;> cases found <;> cases hf <;> exact ⟨_, rfl⟩
  · rintro ⟨position, rfl⟩
    cases h <;> rfl

/-- A token that cannot be made starts with a character that is neither passed over nor blank. -/
theorem Unmade.exists_cons (h : Unmade s ending e) (hs : scan text = s) :
    ∃ c rest, text = c :: rest ∧ isSkipped c = false ∧ isBlank c = false := by
  have hskipped {c : Char} {rest : List Char} (ht : scan (c :: rest) = s) :
      isSkipped c = false := by
    refine Bool.eq_false_iff.2 fun hc => ?_
    rw [scan_of_isSkipped hc] at ht
    subst ht
    cases h
  cases h with
  | malformed =>
    obtain ⟨quote, written, rest, rfl, hq, -⟩ := scan_eq_malformed_iff.1 hs
    refine ⟨quote, _, rfl, hskipped hs, ?_⟩
    obtain rfl | rfl := hq
    · decide
    · decide
  | oversized =>
    obtain ⟨digits, rest, rfl, hd, -⟩ := scan_eq_oversized_iff.1 hs
    obtain ⟨c, more, rfl, hc⟩ := hd.run.exists_cons
    exact ⟨c, _, rfl, hskipped hs, isBlank_of_isDecimalDigit hc⟩

theorem tokensFrom_eq_unmade_iff (hu : Unmade s ending e) {position : Nat}
    {lexemes : List Lexeme} :
    (∃ ts p, tokensFrom position text = (ts, ending p) ∧ ts.map (·.lexeme) = lexemes) ↔
      ∃ rest, Leads text lexemes rest ∧ scan rest = s := by
  constructor
  · rintro ⟨ts, p, h, rfl⟩
    induction position, text using tokensFrom.induct generalizing ts with
    | case1 =>
      rw [tokensFrom] at h
      cases hu <;> cases h
    | case2 position c text hc ih =>
      rw [tokensFrom, if_pos hc] at h
      obtain ⟨rest, hleads, hscan⟩ := ih ts h
      exact ⟨rest, .blank hc hleads, hscan⟩
    | case3 position c text hc l width hl ts' ending ht ih =>
      rw [tokensFrom, if_neg hc, hl] at h
      simp only [ht] at h
      cases h
      obtain ⟨rest, hleads, hscan⟩ := ih ts' ht
      exact ⟨rest, .token (Bool.not_eq_true _ ▸ hc) hl hleads, hscan⟩
    | case4 position c text hc hm | case5 position c text hc digits hm =>
      rw [tokensFrom, if_neg hc, hm] at h
      cases hu <;> cases h
      exact ⟨_, .here, hm⟩
    | case6 position c text hc hi =>
      rw [tokensFrom, if_neg hc, hi] at h
      cases hu <;> cases h
  · rintro ⟨rest, hleads, hscan⟩
    induction hleads generalizing position with
    | @here text =>
      obtain ⟨c, rest, rfl, hc, -⟩ := hu.exists_cons hscan
      refine ⟨[], position, ?_, rfl⟩
      rw [tokensFrom, if_neg (by simp [hc]), hscan]
      cases hu <;> rfl
    | blank hc _ ih =>
      rw [tokensFrom, if_pos hc]
      exact ih hscan
    | @token c text rest l width tokens hc hl _ ih =>
      obtain ⟨ts, p, h, rfl⟩ := @ih (position + width) hscan
      rw [tokensFrom, if_neg (by simp [hc]), hl]
      simp only [h]
      exact ⟨_, p, rfl, rfl⟩

end Unmade

/-! ### How formulas are rejected -/

/-- Where tokens end with one that cannot be made, this is the error of the text if the tokens
    before it begin a formula. -/
theorem Unmade.parse_eq_iff {s : Scan} {ending : Nat → Ending} {e : ParseError}
    (hu : Unmade s ending e) {text : String} {ts : List Token} {found : Ending}
    (hb : allBlank text = false) (ht : tokens text = (ts, found)) :
    parse text = .error e ↔ (∃ p, found = ending p) ∧ Begins (ts.map (·.lexeme)) := by
  rw [parse_of_tokens hb ht, ← hu.ofEnding?_iff, begins_iff]
  constructor
  · intro h
    cases hr : readTokens .start ts with
    | error e' =>
      obtain ⟨t, rfl⟩ := readTokens_eq_error hr
      rw [hr] at h
      cases h
      cases hu
    | ok r =>
      rw [hr] at h
      change (ParseError.ofEnding? found).elim _ _ = _ at h
      refine ⟨?_, r, readTokens_eq_ok.1 hr⟩
      cases he : ParseError.ofEnding? found with
      | none =>
        -- Nothing but its end can be missing in the formula.
        rw [he] at h
        cases hf : r.finish with
        | none =>
          rw [hf] at h
          cases h
          cases hu
        | some t =>
          rw [hf] at h
          cases h
      | some e' =>
        rw [he] at h
        cases h
        rfl
  · rintro ⟨he, r, hr⟩
    rw [readTokens_eq_ok.2 hr]
    change (ParseError.ofEnding? found).elim _ _ = _
    rw [he]
    rfl

/-- A text that comes to a token which cannot be made, the tokens before it being the beginning
    of a formula. -/
theorem parse_eq_unmade_iff {s : Scan} {ending : Nat → Ending} {e : ParseError}
    (hu : Unmade s ending e) {text : String} : parse text = .error e ↔
      ∃ tokens rest, Leads text.toList tokens rest ∧ scan rest = s ∧ Begins tokens := by
  obtain ⟨ts, found, ht⟩ : ∃ ts found, tokens text = (ts, found) := ⟨_, _, rfl⟩
  constructor
  · intro h
    cases hb : allBlank text with
    | true =>
      rw [parse, if_pos hb] at h
      cases h
      cases hu
    | false =>
      obtain ⟨⟨p, rfl⟩, hbegins⟩ := (hu.parse_eq_iff hb ht).1 h
      obtain ⟨rest, hleads, hscan⟩ := (tokensFrom_eq_unmade_iff hu).1 ⟨ts, p, ht, rfl⟩
      exact ⟨_, rest, hleads, hscan, hbegins⟩
  · rintro ⟨lexemes, rest, hleads, hscan, hbegins⟩
    have hends : ∃ ts p, tokensFrom 0 text.toList = (ts, ending p) ∧
        ts.map (·.lexeme) = lexemes :=
      (tokensFrom_eq_unmade_iff hu).2 ⟨rest, hleads, hscan⟩
    obtain ⟨ts', p, ht', rfl⟩ := hends
    cases ht.symm.trans ht'
    obtain ⟨c, more, rfl, -, hblank⟩ := hu.exists_cons hscan
    have hb : allBlank text = false :=
      List.all_eq_false.2 ⟨c, hleads.suffix.subset List.mem_cons_self, by simp [hblank]⟩
    exact (hu.parse_eq_iff hb ht).2 ⟨⟨p, rfl⟩, hbegins⟩

/-- A text that comes to a text in quotes which stands for nothing, the tokens before it
    being the beginning of a formula. -/
def MeetsBroken (text : String) : Prop :=
  ∃ tokens quote written rest, Leads text.toList tokens (quote :: (written ++ quote :: rest)) ∧
    (quote = '"' ∨ quote = '\'') ∧ Quotable quote written ∧ HasBroken written ∧ Begins tokens

/-- A text that comes to digits which stand alone and are too many for a number, the tokens
    before them being the beginning of a formula. -/
def MeetsOversized (text : String) (n : Nat) : Prop :=
  ∃ tokens digits rest, Leads text.toList tokens (digits ++ rest) ∧ IsWhole digits rest ∧
    digits.length = n ∧ integerDigitLimit < n ∧ Begins tokens

theorem parse_eq_malformed_iff {text : String} :
    parse text = .error .malformedEscape ↔ MeetsBroken text := by
  rw [parse_eq_unmade_iff .malformed]
  constructor
  · rintro ⟨lexemes, rest, hleads, hscan, hbegins⟩
    obtain ⟨quote, written, rest, rfl, hq, hw, hbroken⟩ := scan_eq_malformed_iff.1 hscan
    exact ⟨lexemes, quote, written, rest, hleads, hq, hw, hbroken, hbegins⟩
  · rintro ⟨lexemes, quote, written, rest, hleads, hq, hw, hbroken, hbegins⟩
    exact ⟨lexemes, _, hleads,
      scan_eq_malformed_iff.2 ⟨quote, written, rest, rfl, hq, hw, hbroken⟩, hbegins⟩

theorem parse_eq_oversized_iff {text : String} {n : Nat} :
    parse text = .error (.oversized n) ↔ MeetsOversized text n := by
  rw [parse_eq_unmade_iff (.oversized n)]
  constructor
  · rintro ⟨lexemes, rest, hleads, hscan, hbegins⟩
    obtain ⟨digits, rest, rfl, hd, hn, hl⟩ := scan_eq_oversized_iff.1 hscan
    exact ⟨lexemes, digits, rest, hleads, hd, hn, hl, hbegins⟩
  · rintro ⟨lexemes, digits, rest, hleads, hd, hn, hl, hbegins⟩
    exact ⟨lexemes, _, hleads, scan_eq_oversized_iff.2 ⟨digits, rest, rfl, hd, hn, hl⟩, hbegins⟩

/-- A text is a formula or an error of syntax unless it comes to a text in quotes of which some
    escape stands for nothing, or to a number with too many digits. It is neither where it comes
    to one of these, which are a fault of the decoding of texts and one of the making of
    numbers. -/
theorem parse_syntax_iff (text : String) :
    (((∃ v, parse text = .ok v) ∨ ∃ e message, parse text = .error e ∧
      e.toFault = .raised "SyntaxError" [.str message]) ↔
        ¬MeetsBroken text ∧ ∀ n, ¬MeetsOversized text n) ∧
    (MeetsBroken text → ∃ e, parse text = .error e ∧ e.toFault = .undecodable) ∧
    ∀ n, MeetsOversized text n → ∃ e message, parse text = .error e ∧
      e.toFault = .badValue message := by
  simp only [← parse_eq_malformed_iff, ← parse_eq_oversized_iff]
  refine ⟨?_, fun h => ⟨_, h, rfl⟩, fun n h => ⟨_, _, h, rfl⟩⟩
  constructor
  · rintro (⟨v, hv⟩ | ⟨e, message, he, hfault⟩)
    · rw [hv]
      exact ⟨by simp, fun n => by simp⟩
    · rw [he]
      constructor
      · rintro ⟨⟩
        cases hfault
      · rintro n ⟨⟩
        exact absurd (Cause.raised.inj hfault).1 (by decide)
  · rintro ⟨hm, ho⟩
    cases hp : parse text with
    | ok v => exact .inl ⟨v, rfl⟩
    | error e =>
      refine .inr ?_
      cases e with
      | malformedEscape => exact absurd hp hm
      | oversized n => exact absurd hp (ho n)
      | empty => exact ⟨_, _, rfl, rfl⟩
      | illegal c position => exact ⟨_, _, rfl, rfl⟩
      | unexpected t => exact ⟨_, _, rfl, rfl⟩
      | unexpectedEnd => exact ⟨_, _, rfl, rfl⟩

/-- A text in quotes with a number of two digits, of which one is missing. -/
theorem parse_of_short_number : ¬((∃ v, parse "'\\x4'" = .ok v) ∨
    ∃ e message, parse "'\\x4'" = .error e ∧
      e.toFault = .raised "SyntaxError" [.str message]) := by
  have ht : tokensFrom 0 "'\\x4'".toList = ([], .malformed 0) := by cbv
  obtain ⟨rest, hleads, hscan⟩ := (tokensFrom_eq_unmade_iff .malformed).1 ⟨[], 0, ht, rfl⟩
  have hp : parse "'\\x4'" = .error .malformedEscape :=
    (parse_eq_unmade_iff .malformed).2 ⟨_, rest, hleads, hscan, begins_iff.2 ⟨.start, rfl⟩⟩
  rintro (⟨v, hv⟩ | ⟨e, message, he, hfault⟩)
  · cases hp.symm.trans hv
  · cases hp.symm.trans he
    cases hfault

end Formula

end ControlBreak
