import ControlBreak.Proofs.Formula.Tiling
import Mathlib

/-!
# Escapes in formulas

A text in quotes is made of parts: characters that stand for themselves, escapes that stand for
one character, and backslashes before characters that no escape starts with. Such a backslash
and the character after it are kept as they are written, with one exception: a character beyond
the first 256 is turned into its own escape by number, of which the backslash before it then
takes away the backslash.

* `Escape`: the escapes, told by what they are written with;
* `IsMadeOf`: a written text and its parts, in one way only (`IsMadeOf.unique`);
* `unescape?_of_isMadeOf`: what is read of a written text is what is read of its parts;
* `text_kept_iff`: so the value of a text in a formula is what it is written as, escapes apart,
  if and only if no such backslash stands before a character beyond the first 256.
-/

namespace ControlBreak

namespace Formula

/-! ### Escapes -/

/-- Characters after a backslash that are an escape, the character that they stand for, and the
    rest of the text. An escape by octal digits takes all that it can, up to three. -/
inductive Escape : List Char → Char → List Char → Prop
  | simple {c r : Char} {rest : List Char} : simpleEscape? c = some r → Escape [c] r rest
  | number {c : Char} {digits rest : List Char} : hexWidth? c = some digits.length →
    (∀ d ∈ digits, (hexValue? d).isSome = true) →
    numberIn 16 (digits.filterMap hexValue?) < 0x110000 →
    Escape (c :: digits) (charOf (numberIn 16 (digits.filterMap hexValue?))) rest
  | octal {digits rest : List Char} : IsRun isOctalDigit digits → digits.length ≤ 3 →
    digits.length = 3 ∨ Stops isOctalDigit rest →
    Escape digits (charOf (numberIn 8 (digits.filterMap hexValue?))) rest
  | name {name rest : List Char} {code : Nat} : name ≠ [] → '\x7d' ∉ name →
    codeNamed? name = some code → Escape ('N' :: '\x7b' :: (name ++ ['\x7d'])) (charOf code) rest

/-- A character that an escape starts with, or an end of line, which a backslash takes away. -/
def StartsEscape (c : Char) : Prop :=
  (simpleEscape? c).isSome = true ∨ (hexWidth? c).isSome = true ∨ isOctalDigit c = true ∨
    c = 'N' ∨ c = '\n'

instance (c : Char) : Decidable (StartsEscape c) :=
  inferInstanceAs (Decidable (_ ∨ _))

/-- What is read of a backslash before a character that no escape starts with. -/
def readOther (c : Char) : List Char :=
  if 0x100 ≤ c.toNat then numericEscape c.toNat else ['\\', c]

variable {escape escape' rest rest' text written value : List Char} {c r r' : Char}

theorem hexEscape?_eq_some_iff {width : Nat} : hexEscape? width text = some r ↔
    ∃ digits rest, text = digits ++ rest ∧ digits.length = width ∧
      (∀ d ∈ digits, (hexValue? d).isSome = true) ∧
      numberIn 16 (digits.filterMap hexValue?) < 0x110000 ∧
      r = charOf (numberIn 16 (digits.filterMap hexValue?)) := by
  rw [hexEscape?]
  simp only [Option.ite_none_right_eq_some, Option.some.injEq]
  constructor
  · rintro ⟨⟨hlength, hlt⟩, rfl⟩
    -- As many values as digits were asked for: so many characters are there, all of them digits.
    have htake : (text.take width).length = width :=
      (List.length_take_le _ _).antisymm
        (hlength.symm.trans_le (List.length_filterMap_le hexValue? (text.take width)))
    exact ⟨text.take width, text.drop width, (List.take_append_drop _ _).symm, htake,
      List.filterMap_length_eq_length.1 (hlength.trans htake.symm), hlt, rfl⟩
  · rintro ⟨digits, rest, rfl, rfl, hdigits, hlt, rfl⟩
    rw [List.take_left]
    exact ⟨⟨List.filterMap_length_eq_length.2 hdigits, hlt⟩, rfl⟩

theorem namedEscape?_eq_some_iff {taken : Nat} : namedEscape? text = some (r, taken) ↔
    ∃ name rest code, text = '\x7b' :: (name ++ '\x7d' :: rest) ∧ name ≠ [] ∧ '\x7d' ∉ name ∧
      codeNamed? name = some code ∧ r = charOf code ∧ taken = name.length + 2 := by
  constructor
  · intro h
    have htext : ∃ rest, text = '\x7b' :: rest := by
      rw [namedEscape?.eq_def] at h
      split at h
      · exact ⟨_, rfl⟩
      · cases h
    obtain ⟨rest, rfl⟩ := htext
    by_cases hmem : '\x7d' ∈ rest
    · obtain ⟨name, rest, rfl, hname⟩ := List.eq_append_cons_of_mem hmem
      by_cases hne : name = []
      · subst hne
        cases h
      · rw [namedEscape?_braces rest hne hname, Option.map_eq_some_iff] at h
        obtain ⟨code, hcode, h⟩ := h
        cases h
        exact ⟨name, rest, code, rfl, hne, hname, hcode, rfl, rfl⟩
    · -- Braces that are not closed hold no name.
      have hnone : namedEscape? ('\x7b' :: rest) = none := namedEscape?_eq_none_iff.2 <| by
        rintro name more hrest - -
        refine absurd ?_ hmem
        rw [(List.cons.inj hrest).2]
        simp
      cases hnone.symm.trans h
  · rintro ⟨name, rest, code, rfl, hne, hname, hcode, rfl, rfl⟩
    rw [namedEscape?_braces rest hne hname, hcode]
    rfl

theorem exists_octal (h : isOctalDigit c = true) (text : List Char) : ∃ digits rest,
    c :: text = digits ++ rest ∧ IsRun isOctalDigit digits ∧ digits.length ≤ 3 ∧
      (digits.length = 3 ∨ Stops isOctalDigit rest) := by
  obtain ⟨digits, more, htake, hdigits, hstop⟩ := exists_run isOctalDigit ((c :: text).take 3)
  have hne : digits ≠ [] := by
    rintro rfl
    rw [List.nil_append] at htake
    rw [← htake, List.take_succ_cons, stops_cons, h] at hstop
    cases hstop
  have hlength : digits.length + more.length = min 3 (c :: text).length := by
    rw [← List.length_append, ← htake, List.length_take]
  refine ⟨digits, more ++ (c :: text).drop 3, ?_, ⟨hne, hdigits⟩, by omega, ?_⟩
  · rw [← List.append_assoc, ← htake, List.take_append_drop]
  · by_cases h3 : digits.length = 3
    · exact .inl h3
    · right
      cases more with
      | nil =>
        -- There are no three characters.
        rw [List.length_nil] at hlength
        rw [List.drop_eq_nil_of_le (by omega)]
        exact hstop
      | cons d more => exact stops_cons.2 (stops_cons.1 hstop)

/-- Octal digits start no other escapes. -/
theorem forall_octalDigit : ∀ n < 56, isOctalDigit (Char.ofNat n) = true →
    simpleEscape? (Char.ofNat n) = none ∧ hexWidth? (Char.ofNat n) = none ∧
      Char.ofNat n ≠ '\n' ∧ Char.ofNat n ≠ 'N' := by
  decide +kernel

theorem readEscape?_octal {digits : List Char} (h : isOctalDigit c = true)
    (hd : ((c :: rest).take 3).takeWhile isOctalDigit = digits) : readEscape? (c :: rest) =
      some ([charOf (numberIn 8 (digits.filterMap hexValue?))], digits.length) := by
  have hlt : c.toNat < 56 := by
    have hle : c ≤ '7' := by
      rw [isOctalDigit, Bool.and_eq_true, decide_eq_true_eq, decide_eq_true_eq] at h
      exact h.2
    exact lt_of_le_of_lt (UInt32.le_iff_toNat_le.1 hle) (by decide)
  obtain ⟨hs, hw, hn, hN⟩ := forall_octalDigit c.toNat hlt (by rwa [Char.ofNat_toNat])
  rw [Char.ofNat_toNat] at hs hw hn hN
  rw [readEscape?, hs, hw]
  simp only [if_neg hn, if_neg hN, if_pos h, hd]

/-- An escape is read, whatever comes after it. -/
theorem readEscape?_of_escape (h : Escape escape r rest) :
    readEscape? (escape ++ rest) = some ([r], escape.length) := by
  cases h with
  | simple hs => rw [List.singleton_append, readEscape?, hs, List.length_singleton]
  | @number c digits rest hw hd hlt =>
    rw [List.cons_append, readEscape?, simpleEscape?_of_hexWidth? hw, hw]
    simp only [hexEscape?_eq_some_iff.2 ⟨digits, rest, rfl, rfl, hd, hlt, rfl⟩, Option.map_some,
      List.length_cons]
  | octal hd hlength hstop =>
    have hafter : Stops isOctalDigit (rest.take (3 - escape.length)) := by
      obtain h3 | hstop := hstop
      · rw [h3, Nat.sub_self, List.take_zero]
        exact stops_nil _
      · exact hstop.take _
    have htake : ((escape ++ rest).take 3).takeWhile isOctalDigit = escape := by
      rw [List.take_append, List.take_of_length_le hlength]
      exact takeWhile_append_of_stops hd.2 hafter
    obtain ⟨c, more, rfl, hc⟩ := hd.exists_cons
    exact readEscape?_octal hc htake
  | @name name rest code hne hn hcode =>
    have hnamed := namedEscape?_eq_some_iff.2 ⟨name, rest, code, rfl, hne, hn, hcode, rfl, rfl⟩
    rw [List.cons_append, List.cons_append, List.append_assoc, List.singleton_append]
    refine (congrArg (Option.map _) hnamed).trans ?_
    simp

theorem readEscape?_other (h : ¬StartsEscape c) (rest : List Char) :
    readEscape? (c :: rest) = some (readOther c, 1) := by
  simp only [StartsEscape, not_or, Bool.not_eq_true, Option.isSome_eq_false_iff,
    Option.isNone_iff_eq_none] at h
  obtain ⟨hs, hw, ho, hN, hn⟩ := h
  rw [readEscape?, hs, hw]
  simp only [if_neg hn, if_neg hN, ho, Bool.false_eq_true, if_false, readOther]
  split <;> rfl

/-! ### The parts of a text -/

/-- A part of a text in quotes. -/
inductive Part
  | plain (c : Char)
  /-- An escape, by the character that it stands for. -/
  | escape (r : Char)
  /-- A backslash before an end of line. -/
  | lineEnd
  /-- A backslash before a character that no escape starts with. -/
  | other (c : Char)

/-- What a part stands for: an escape for its character, and all else for itself. -/
def Part.chars : Part → List Char
  | .plain c => [c]
  | .escape r => [r]
  | .lineEnd => []
  | .other c => ['\\', c]

/-- What is read of a part. -/
def Part.read : Part → List Char
  | .other c => readOther c
  | part => part.chars

/-- A part that starts with a backslash, by what comes after the backslash, and the rest of the
    text. -/
inductive AfterBackslash : List Char → Part → List Char → Prop
  | escape {escape rest : List Char} {r : Char} : Escape escape r rest →
    AfterBackslash (escape ++ rest) (.escape r) rest
  | lineEnd {rest : List Char} : AfterBackslash ('\n' :: rest) .lineEnd rest
  | other {c : Char} {rest : List Char} : ¬StartsEscape c →
    AfterBackslash (c :: rest) (.other c) rest

/-- A written text is made of parts. -/
inductive IsMadeOf : List Char → List Part → Prop
  | nil : IsMadeOf [] []
  | plain {c : Char} {rest : List Char} {parts : List Part} : c ≠ '\\' → IsMadeOf rest parts →
    IsMadeOf (c :: rest) (.plain c :: parts)
  | backslash {text rest : List Char} {part : Part} {parts : List Part} :
    AfterBackslash text part rest → IsMadeOf rest parts →
    IsMadeOf ('\\' :: text) (part :: parts)

variable {part part' : Part} {parts parts' : List Part}

/-- What comes after a backslash is read as the part that it belongs to. -/
theorem AfterBackslash.exists_readEscape? (h : AfterBackslash text part rest) :
    ∃ taken, readEscape? text = some (part.read, taken) ∧ text.drop taken = rest := by
  cases h with
  | escape he => exact ⟨_, readEscape?_of_escape he, List.drop_left⟩
  | lineEnd => exact ⟨1, rfl, rfl⟩
  | other hc => exact ⟨1, readEscape?_other hc _, rfl⟩

theorem exists_afterBackslash {chars : List Char} {taken : Nat}
    (h : readEscape? text = some (chars, taken)) :
    ∃ part rest, AfterBackslash text part rest := by
  cases text with
  | nil => cases h
  | cons c text =>
    by_cases hstarts : StartsEscape c
    · obtain hs | hw | ho | rfl | rfl := hstarts
      · obtain ⟨r, hr⟩ := Option.isSome_iff_exists.1 hs
        exact ⟨_, text, .escape (.simple hr)⟩
      · obtain ⟨width, hw⟩ := Option.isSome_iff_exists.1 hw
        rw [readEscape?, simpleEscape?_of_hexWidth? hw, hw] at h
        obtain ⟨r, hr, -⟩ := Option.map_eq_some_iff.1 h
        obtain ⟨digits, rest, rfl, rfl, hd, hlt, -⟩ := hexEscape?_eq_some_iff.1 hr
        exact ⟨_, rest, .escape (.number hw hd hlt)⟩
      · obtain ⟨digits, rest, htext, hd, hlength, hstop⟩ := exists_octal ho text
        rw [htext]
        exact ⟨_, rest, .escape (.octal hd hlength hstop)⟩
      · obtain ⟨⟨r, taken'⟩, hr, -⟩ := Option.map_eq_some_iff.1 h
        obtain ⟨name, rest, code, rfl, hne, hn, hcode, -, -⟩ := namedEscape?_eq_some_iff.1 hr
        have hname : Escape ('N' :: '\x7b' :: (name ++ ['\x7d'])) (charOf code) rest :=
          .name hne hn hcode
        have hafter := AfterBackslash.escape hname
        rw [List.cons_append, List.cons_append, List.append_assoc, List.singleton_append] at hafter
        exact ⟨_, rest, hafter⟩
      · exact ⟨_, text, .lineEnd⟩
    · exact ⟨_, text, .other hstarts⟩

theorem unescape?_backslash {chars : List Char} {taken : Nat}
    (h : readEscape? text = some (chars, taken)) :
    unescape? ('\\' :: text) = (unescape? (text.drop taken)).map (chars ++ ·) := by
  rw [unescape?, if_pos rfl, h]

/-- What is read of a text is what is read of its parts. -/
theorem unescape?_of_isMadeOf (h : IsMadeOf written parts) :
    unescape? written = some (parts.flatMap Part.read) := by
  induction h with
  | nil => rw [unescape?, List.flatMap_nil]
  | plain hc _ ih =>
    rw [unescape?, if_neg hc, ih]
    rfl
  | backslash hb _ ih =>
    obtain ⟨taken, hread, rfl⟩ := hb.exists_readEscape?
    rw [unescape?_backslash hread, ih]
    rfl

/-- A text of which something is read is made of parts. -/
theorem exists_isMadeOf (h : unescape? written = some value) : ∃ parts, IsMadeOf written parts := by
  induction written using unescape?.induct generalizing value with
  | case1 => exact ⟨[], .nil⟩
  | case2 text chars taken hread ih =>
    rw [unescape?_backslash hread] at h
    obtain ⟨v, hv, -⟩ := Option.map_eq_some_iff.1 h
    obtain ⟨parts, hparts⟩ := ih hv
    obtain ⟨part, rest, hb⟩ := exists_afterBackslash hread
    obtain ⟨taken', hread', rfl⟩ := hb.exists_readEscape?
    cases hread'.symm.trans hread
    exact ⟨_, .backslash hb hparts⟩
  | case3 text hread =>
    rw [unescape?, if_pos rfl, hread] at h
    cases h
  | case4 c rest hc ih =>
    rw [unescape?, if_neg hc] at h
    obtain ⟨v, hv, -⟩ := Option.map_eq_some_iff.1 h
    obtain ⟨parts, hparts⟩ := ih hv
    exact ⟨_, .plain hc hparts⟩

/-! ### In one way only -/

/-- A backslash that is kept is read with what comes after it, as two characters or as an escape
    by number. -/
theorem length_readOther (c : Char) : 2 ≤ (readOther c).length ∧
    (0x100 ≤ c.toNat → 2 < (readOther c).length) := by
  have hdigits : ∀ width n, 0 < (hexDigits width n).length := fun width n => by
    rw [hexDigits, List.length_append]
    exact Nat.add_pos_right _ Nat.length_toDigits_pos
  have hnumeric : ∀ code, 2 < (numericEscape code).length := fun code => by
    rw [numericEscape]
    split_ifs
    all_goals
      rw [List.length_cons, List.length_cons]
      exact Nat.add_lt_add_right (hdigits _ _) 2
  rw [readOther]
  split
  · exact ⟨(hnumeric _).le, fun _ => hnumeric _⟩
  · rename_i hc
    exact ⟨le_rfl, fun h => absurd h hc⟩

theorem AfterBackslash.kind (h : AfterBackslash text part rest) : (∃ r, part = .escape r) ∨
    part = .lineEnd ∨ ∃ c, part = .other c ∧ text.head? = some c := by
  cases h with
  | escape => exact .inl ⟨_, rfl⟩
  | lineEnd => exact .inr (.inl rfl)
  | other => exact .inr (.inr ⟨_, rfl, rfl⟩)

/-- Parts of different kinds are read as different numbers of characters. -/
theorem AfterBackslash.unique (h : AfterBackslash text part rest)
    (h' : AfterBackslash text part' rest') : part = part' ∧ rest = rest' := by
  obtain ⟨taken, hread, hrest⟩ := h.exists_readEscape?
  obtain ⟨taken', hread', hrest'⟩ := h'.exists_readEscape?
  obtain ⟨hr, rfl⟩ := Prod.mk.inj (Option.some.inj (hread.symm.trans hread'))
  refine ⟨?_, hrest.symm.trans hrest'⟩
  have hlength := congrArg List.length hr
  obtain ⟨r, rfl⟩ | rfl | ⟨c, rfl, hc⟩ := h.kind
  · obtain ⟨r', rfl⟩ | rfl | ⟨c', rfl, -⟩ := h'.kind
    · cases hr
      rfl
    · cases hr
    · exact absurd hlength (Nat.ne_of_lt (length_readOther c').1)
  · obtain ⟨r', rfl⟩ | rfl | ⟨c', rfl, -⟩ := h'.kind
    · cases hr
    · rfl
    · exact absurd hlength (Nat.ne_of_lt (Nat.lt_of_succ_lt (length_readOther c').1))
  · obtain ⟨r', rfl⟩ | rfl | ⟨c', rfl, hc'⟩ := h'.kind
    · exact absurd hlength (Nat.ne_of_gt (length_readOther c).1)
    · exact absurd hlength (Nat.ne_of_gt (Nat.lt_of_succ_lt (length_readOther c).1))
    · rw [Option.some.inj (hc.symm.trans hc')]

/-- A written text is made of parts in one way only. -/
theorem IsMadeOf.unique (h : IsMadeOf written parts) (h' : IsMadeOf written parts') :
    parts = parts' := by
  induction h generalizing parts' with
  | nil =>
    cases h'
    rfl
  | plain hc _ ih =>
    cases h' with
    | plain _ h' => rw [ih h']
    | backslash => exact absurd rfl hc
  | backslash hb _ ih =>
    cases h' with
    | plain hc => exact absurd rfl hc
    | backslash hb' h' =>
      obtain ⟨rfl, rfl⟩ := hb.unique hb'
      rw [ih h']

/-! ### Texts in formulas -/

theorem length_read (part : Part) : part.chars.length ≤ part.read.length := by
  cases part with
  | other c => exact (length_readOther c).1
  | _ => exact le_rfl

theorem length_flatMap_read (parts : List Part) :
    (parts.flatMap Part.chars).length ≤ (parts.flatMap Part.read).length := by
  induction parts with
  | nil => exact le_rfl
  | cons part parts ih =>
    rw [List.flatMap_cons, List.flatMap_cons, List.length_append, List.length_append]
    exact Nat.add_le_add (length_read part) ih

/-- What is read of parts is what they stand for unless a backslash is kept before a character
    beyond the first 256. -/
theorem flatMap_read_eq_iff (parts : List Part) :
    parts.flatMap Part.read = parts.flatMap Part.chars ↔
      ∀ c, Part.other c ∈ parts → c.toNat < 0x100 := by
  constructor
  · intro h c hc
    by_contra hwide
    obtain ⟨before, after, rfl⟩ := List.append_of_mem hc
    have hlength := congrArg List.length h
    simp only [List.flatMap_append, List.flatMap_cons, List.length_append] at hlength
    have := length_flatMap_read before
    have := length_flatMap_read after
    have : 2 < (Part.read (.other c)).length := (length_readOther c).2 (Nat.le_of_not_lt hwide)
    have : (Part.chars (.other c)).length = 2 := rfl
    omega
  · intro h
    refine List.flatMap_congr fun part hp => ?_
    cases part with
    | other c => exact if_neg (Nat.not_le_of_lt (h c hp))
    | _ => rfl

/-- A text in quotes whose escapes are well formed is one token, whatever comes after it, and the
    token is what is read of its parts. It is what the parts stand for, each character but those of
    escapes standing for itself, if and only if no backslash that is kept stands before a character
    beyond the first 256. -/
theorem text_kept_iff {quote : Char} {written : List Char} (hq : quote = '"' ∨ quote = '\'')
    (hw : Quotable quote written) (hb : ¬HasBroken written) (rest : List Char) : ∃ parts,
      (∀ parts', IsMadeOf written parts' ↔ parts' = parts) ∧
      scan (quote :: (written ++ quote :: rest)) =
        .lexeme (.text (String.ofList (parts.flatMap Part.read))) (written.length + 2) ∧
      (∀ text : String, ∀ t ∈ (tokens text).1,
        text.toList.drop t.position = quote :: (written ++ quote :: rest) →
          t.lexeme = .text (String.ofList (parts.flatMap Part.read))) ∧
      (parts.flatMap Part.read = parts.flatMap Part.chars ↔
        ∀ c, Part.other c ∈ parts → c.toNat < 0x100) := by
  obtain ⟨value, hvalue⟩ := Option.ne_none_iff_exists'.1 (mt unescape?_eq_none_iff.1 hb)
  obtain ⟨parts, hparts⟩ := exists_isMadeOf hvalue
  have hscan : scan (quote :: (written ++ quote :: rest)) =
      .lexeme (.text (String.ofList (parts.flatMap Part.read))) (written.length + 2) := by
    obtain ⟨hquote, hne⟩ := scan_quote hq (written ++ quote :: rest)
    rw [hquote, scanText_eq hne hw, unescape?_of_isMadeOf hparts]
    rfl
  refine ⟨parts, fun parts' => ⟨fun h => h.unique hparts, fun h => h ▸ hparts⟩, hscan, ?_,
    flatMap_read_eq_iff parts⟩
  intro text t ht hplace
  -- The token that was found at its place is the one that is found there.
  have hfound := scan_of_mem_tokens ht
  rw [hplace, hscan] at hfound
  exact (Scan.lexeme.inj hfound).1.symm

/-- An accent is kept where it stands and after a backslash, beside an escape by number. -/
theorem text_kept_accent : ∃ parts,
    IsMadeOf ['é', '\\', 'x', '4', '1', '\\', 'é'] parts ∧
    scan ['"', 'é', '\\', 'x', '4', '1', '\\', 'é', '"', ' '] =
      .lexeme (.text (String.ofList (parts.flatMap Part.read))) 9 ∧
    parts.flatMap Part.chars = ['é', 'A', '\\', 'é'] ∧
    parts.flatMap Part.read = parts.flatMap Part.chars := by
  have hquotable : Quotable '"' ['é', '\\', 'x', '4', '1', '\\', 'é'] :=
    .plain (by decide) (by decide) <| .escaped (by decide) <| .plain (by decide) (by decide) <|
      .plain (by decide) (by decide) <| .escaped (by decide) .nil
  have hescape : Escape ['x', '4', '1'] 'A' ['\\', 'é'] := by
    refine .number rfl (fun d hd => ?_) (by cbv)
    fin_cases hd <;> rfl
  have hmade : IsMadeOf ['é', '\\', 'x', '4', '1', '\\', 'é']
      [.plain 'é', .escape 'A', .other 'é'] :=
    .plain (by decide) <| .backslash (.escape hescape) <| .backslash (.other (by decide)) .nil
  have hbroken : ¬HasBroken ['é', '\\', 'x', '4', '1', '\\', 'é'] := by
    rw [← unescape?_eq_none_iff, unescape?_of_isMadeOf hmade]
    exact Option.some_ne_none _
  obtain ⟨parts, hparts, hscan, -, hkept⟩ := text_kept_iff (.inl rfl) hquotable hbroken [' ']
  obtain rfl := (hparts _).1 hmade
  exact ⟨_, hmade, hscan, rfl, hkept.2 (by simp)⟩

/-- A backslash before `€` is read as the six characters of an escape by number, of which none is
    the `€` that stands there. -/
theorem text_not_kept_euro : (tokens "'\\€'").1 = [⟨.text "\\u20ac", 0, 4⟩] ∧
    IsMadeOf ['\\', '€'] [.other '€'] ∧
    "\\u20ac".toList ≠ [Part.other '€'].flatMap Part.chars :=
  ⟨by cbv, .backslash (.other (by decide)) .nil, by decide⟩

end Formula

end ControlBreak
