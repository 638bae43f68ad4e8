import ControlBreak.Proofs.Formula.Rejection
import Mathlib

/-!
# Lexemes

What a text starts with is told by patterns: digits, with or without a point and digits; a
text in quotes; a name in backticks; a word; a sign. Of what fits a pattern the longest is
taken, so that it matters what comes after it: more digits go on with a number, more letters with
a word, and `=` with some signs. Quotes and backticks close what they open, whatever comes
after them.

* `Spells`: characters are one token where they stand before others;
* `scan_eq_lexeme_iff`: these are the tokens that are found;
* `IsLexeme`, `scan_eq_illegal_iff`: and none is found only where no pattern fits.
-/

namespace ControlBreak

namespace Formula

/-! ### The tokens that a text starts with -/

/-- Whether characters are a word. -/
def isWord (chars : List Char) : Bool :=
  chars.head?.any isWordStart && chars.all isWordChar

theorem isWord_iff {chars : List Char} : isWord chars = true ↔
    ∃ c rest, chars = c :: rest ∧ isWordStart c = true ∧ ∀ c ∈ chars, isWordChar c = true := by
  cases chars with
  | nil => simp [isWord]
  | cons c rest => simp [isWord]

theorem isWordChar_of_isWordStart {c : Char} (h : isWordStart c = true) : isWordChar c = true := by
  rw [isWordStart, Bool.or_eq_true] at h
  rw [isWordChar, Char.isAlphanum, Bool.or_eq_true, Bool.or_eq_true]
  exact h.imp_left .inl

/-- Characters are one token where they stand before the rest of a text. -/
inductive Spells : List Char → Lexeme → List Char → Prop
  | float {whole places rest : List Char} : IsRun isDecimalDigit whole →
    IsRun isDecimalDigit places → Stops isDecimalDigit rest →
    Spells (whole ++ '.' :: places)
      (.float (.ofDecimal false (digitsValue (whole ++ places)) (-(places.length : Int)))) rest
  | integer {digits rest : List Char} : IsWhole digits rest → digits.length ≤ integerDigitLimit →
    Spells digits (.integer (digitsValue digits)) rest
  | text {quote : Char} {written chars rest : List Char} : quote = '"' ∨ quote = '\'' →
    Quotable quote written → unescape? written = some chars →
    Spells (quote :: (written ++ [quote])) (.text (String.ofList chars)) rest
  | ticked {name rest : List Char} : name ≠ [] → backtick ∉ name →
    Spells (backtick :: (name ++ [backtick])) (.name (String.ofList name)) rest
  | name {word rest : List Char} : isWord word = true → Keyword.ofWord? word = none →
    Stops isWordChar rest → Spells word (.name (String.ofList word)) rest
  | keyword {word rest : List Char} {k : Keyword} : isWord word = true →
    Keyword.ofWord? word = some k → Stops isWordChar rest →
    Spells word (.keyword k (String.ofList word)) rest
  | sign {s : Sign} {rest : List Char} :
    (∀ s' : Sign, s'.chars <+: s.chars ++ rest → s'.chars.length ≤ s.chars.length) →
    Spells s.chars (.sign s) rest

/-- Characters that a pattern for tokens fits. -/
inductive IsLexeme : List Char → Prop
  | float {whole places : List Char} : IsRun isDecimalDigit whole → IsRun isDecimalDigit places →
    IsLexeme (whole ++ '.' :: places)
  | integer {digits : List Char} : IsRun isDecimalDigit digits → IsLexeme digits
  | text {quote : Char} {written : List Char} : quote = '"' ∨ quote = '\'' →
    Quotable quote written → IsLexeme (quote :: (written ++ [quote]))
  | ticked {name : List Char} : name ≠ [] → backtick ∉ name →
    IsLexeme (backtick :: (name ++ [backtick]))
  | word {word : List Char} : isWord word = true → IsLexeme word
  | sign (s : Sign) : IsLexeme s.chars

/-- A text that starts with a token. -/
def IsSpelled (text : List Char) : Prop :=
  ∃ written rest l, text = written ++ rest ∧ Spells written l rest

/-- A text that starts with a token that cannot be made, though a pattern fits. -/
def IsUnmade (text : List Char) : Prop :=
  ∃ s ending e, Unmade s ending e ∧ scan text = s ∧
    ∃ written rest, text = written ++ rest ∧ IsLexeme written

variable {text written rest : List Char} {l : Lexeme} {width : Nat}

theorem Spells.isLexeme (h : Spells written l rest) : IsLexeme written := by
  cases h with
  | float hw hp _ => exact .float hw hp
  | integer hd _ => exact .integer hd.run
  | text hq hw _ => exact .text hq hw
  | ticked hne hn => exact .ticked hne hn
  | name hw _ _ => exact .word hw
  | keyword hw _ _ => exact .word hw
  | sign _ => exact .sign _

theorem IsLexeme.ne_nil (h : IsLexeme written) : written ≠ [] := by
  cases h with
  | float => simp
  | integer hd => exact hd.1
  | text => simp
  | ticked => simp
  | word hw =>
    rintro rfl
    cases hw
  | sign s => cases s <;> simp [Sign.chars]

/-! ### Numbers -/

/-- A text that starts with a digit starts with a number, which may be too long. -/
theorem scan_digit_cases {c : Char} (hc : isDecimalDigit c = true) (text : List Char) :
    IsSpelled (c :: text) ∨ IsUnmade (c :: text) := by
  obtain ⟨whole, places, rest, ht, hw, hp, hr⟩ | ⟨digits, rest, ht, hd⟩ := number_cases hc text
  · exact .inl ⟨_, rest, _, ht, .float hw hp hr⟩
  · by_cases hl : digits.length ≤ integerDigitLimit
    · exact .inl ⟨digits, rest, _, ht, .integer hd hl⟩
    · have hlong := scan_eq_oversized_iff.2 ⟨digits, rest, ht, hd, rfl, Nat.lt_of_not_le hl⟩
      exact .inr ⟨_, _, _, .oversized _, hlong, digits, rest, ht, .integer hd.run⟩

/-! ### Quotes and backticks -/

theorem scanText_eq {quote : Char} (hq : quote ≠ '\\') (hw : Quotable quote written)
    (rest : List Char) : scanText quote (written ++ quote :: rest) =
      (unescape? written).elim .malformed fun chars =>
        .lexeme (.text (String.ofList chars)) (written.length + 2) := by
  have hn := (quotedLength?_eq_some_iff hq).2 ⟨written, rest, rfl, rfl, hw⟩
  rw [scanText.eq_def, hn]
  simp only [List.take_left]
  cases unescape? written <;> rfl

theorem takeWhile_ne {c : Char} {name : List Char} (hn : c ∉ name) (rest : List Char) :
    (name ++ c :: rest).takeWhile (· != c) = name := by
  refine takeWhile_append_of_stops (fun d hd => ?_) (stops_cons.2 (by simp))
  simpa using ne_of_mem_of_not_mem hd hn

theorem scanTicked_eq {name : List Char} (hne : name ≠ []) (hn : backtick ∉ name)
    (rest : List Char) : scanTicked (name ++ backtick :: rest) =
      .lexeme (.name (String.ofList name)) (name.length + 2) := by
  rw [scanTicked, takeWhile_ne hn, if_neg (by simp [hne])]

/-- A quote starts a text in quotes, unless nothing closes it. -/
theorem scan_quote_cases {quote : Char} (hq : quote = '"' ∨ quote = '\'') (text : List Char) :
    IsSpelled (quote :: text) ∨ IsUnmade (quote :: text) ∨ scan (quote :: text) = .illegal := by
  obtain ⟨hscan, hne⟩ := scan_quote hq text
  cases hn : quotedLength? quote text with
  | none =>
    rw [hscan, scanText, hn]
    exact .inr (.inr rfl)
  | some n =>
    obtain ⟨written, rest, rfl, rfl, hw⟩ := (quotedLength?_eq_some_iff hne).1 hn
    have htext : quote :: (written ++ quote :: rest) = quote :: (written ++ [quote]) ++ rest := by
      simp
    cases hu : unescape? written with
    | none =>
      -- The pattern fits, but an escape stands for nothing.
      right
      left
      refine ⟨_, _, _, .malformed, ?_, _, rest, htext, .text hq hw⟩
      rw [hscan, scanText_eq hne hw, hu]
      rfl
    | some chars => exact .inl ⟨_, rest, _, htext, .text hq hw hu⟩

/-- A backtick starts a name, unless nothing closes it or nothing is in between. -/
theorem scan_backtick_cases (text : List Char) :
    IsSpelled (backtick :: text) ∨ scan (backtick :: text) = .illegal := by
  obtain ⟨name, rest, rfl, hname, hr⟩ := exists_run (· != backtick) text
  have hn : backtick ∉ name := fun h => by simpa using hname _ h
  cases rest with
  | nil =>
    have htake : name.takeWhile (· != backtick) = name := List.takeWhile_eq_self_iff.2 hname
    right
    change scanTicked (name ++ []) = _
    rw [List.append_nil, scanTicked, htake, if_pos (by simp)]
  | cons d rest =>
    obtain rfl : d = backtick := by simpa using stops_cons.1 hr
    by_cases hne : name = []
    · subst hne
      exact .inr rfl
    · exact .inl ⟨_, rest, _, by simp, .ticked hne hn⟩

/-! ### Words -/

theorem toNat_lt_of_isWordStart {c : Char} (h : isWordStart c = true) : c.toNat < 128 := by
  simp only [isWordStart, Char.isAlpha, Char.isUpper, Char.isLower, Bool.or_eq_true,
    Bool.and_eq_true, decide_eq_true_eq, beq_iff_eq] at h
  obtain (h | h) | rfl := h
  · exact lt_of_le_of_lt (UInt32.le_iff_toNat_le.1 h.2) (by decide)
  · exact lt_of_le_of_lt (UInt32.le_iff_toNat_le.1 h.2) (by decide)
  · decide

/-- A character that a word starts with starts nothing else. -/
theorem forall_wordStart : ∀ n < 128, isWordStart (Char.ofNat n) = true →
    isDecimalDigit (Char.ofNat n) = false ∧ ¬(Char.ofNat n = '"' ∨ Char.ofNat n = '\'') ∧
      Char.ofNat n ≠ backtick := by
  decide +kernel

theorem scan_wordStart {c : Char} (h : isWordStart c = true) (rest : List Char) :
    scan (c :: rest) = scanWord (c :: rest) := by
  have hc : Char.ofNat c.toNat = c := Char.ofNat_toNat c
  obtain ⟨hd, hq, hb⟩ := forall_wordStart c.toNat (toNat_lt_of_isWordStart h) (hc.symm ▸ h)
  rw [hc] at hd hq hb
  rw [scan, if_neg (by simp [hd]), if_neg hq, if_neg hb, if_pos h]

theorem scanWord_eq {word : List Char} (hw : isWord word = true) (hr : Stops isWordChar rest) :
    scanWord (word ++ rest) =
      .lexeme ((Keyword.ofWord? word).elim (.name (String.ofList word))
        (.keyword · (String.ofList word))) word.length := by
  obtain ⟨c, chars, rfl, -, hall⟩ := isWord_iff.1 hw
  rw [scanWord, takeWhile_append_of_stops hall hr]
  cases Keyword.ofWord? (c :: chars) <;> rfl

/-- A text that starts with a letter starts with a name or a keyword. -/
theorem isSpelled_of_wordStart {c : Char} (hc : isWordStart c = true) (text : List Char) :
    IsSpelled (c :: text) := by
  obtain ⟨more, rest, rfl, hmore, hr⟩ := exists_run isWordChar text
  have hw : isWord (c :: more) = true := isWord_iff.2
    ⟨c, more, rfl, hc, List.forall_mem_cons.2 ⟨isWordChar_of_isWordStart hc, hmore⟩⟩
  cases hk : Keyword.ofWord? (c :: more) with
  | none => exact ⟨c :: more, rest, _, rfl, .name hw hk hr⟩
  | some k => exact ⟨c :: more, rest, _, rfl, .keyword hw hk hr⟩

/-! ### Signs -/

theorem scan_sign (s : Sign) (rest : List Char) :
    scan (s.chars ++ rest) = scanSign (s.chars ++ rest) := by
  cases s <;> rfl

theorem Sign.chars_injective {s s' : Sign} (h : s.chars = s'.chars) : s = s' := by
  cases s <;> cases s' <;> first | rfl | cases h

/-- The longer signs are looked for first. -/
theorem Sign.pairwise_all : Sign.all.Pairwise fun s s' => s'.chars.length ≤ s.chars.length := by
  decide

/-- The sign that is found is the longest that a text starts with. -/
theorem find?_sign_iff {s : Sign} : (Sign.all.find? fun s => s.chars.isPrefixOf text) = some s ↔
    s.chars <+: text ∧ ∀ s' : Sign, s'.chars <+: text → s'.chars.length ≤ s.chars.length := by
  have hlongest {s : Sign} (h : (Sign.all.find? fun s => s.chars.isPrefixOf text) = some s) :
      s.chars <+: text ∧ ∀ s' : Sign, s'.chars <+: text → s'.chars.length ≤ s.chars.length := by
    obtain ⟨hs, before, after, hall, hbefore⟩ := List.find?_eq_some_iff_append.1 h
    refine ⟨List.isPrefixOf_iff_prefix.1 hs, fun s' hs' => ?_⟩
    have hmem : s' ∈ before ++ s :: after := hall ▸ s'.mem_all
    obtain hmem | rfl | hmem : s' ∈ before ∨ s' = s ∨ s' ∈ after := by simpa using hmem
    · simpa [List.isPrefixOf_iff_prefix.2 hs'] using hbefore s' hmem
    · exact le_rfl
    · have hpairwise := Sign.pairwise_all
      rw [hall, List.pairwise_append, List.pairwise_cons] at hpairwise
      exact hpairwise.2.1.1 s' hmem
  refine ⟨hlongest, fun ⟨hs, hmax⟩ => ?_⟩
  cases hf : Sign.all.find? fun s => s.chars.isPrefixOf text with
  | none =>
    have := List.find?_eq_none.1 hf s s.mem_all
    exact absurd (List.isPrefixOf_iff_prefix.2 hs) this
  | some s' =>
    -- Of two signs of one length, both before the text, one is the other.
    obtain ⟨hs', hmax'⟩ := hlongest hf
    have hlength := (hmax s' hs').antisymm (hmax' s hs)
    have hbegins := List.prefix_of_prefix_length_le hs' hs hlength.le
    rw [Sign.chars_injective (hbegins.eq_of_length hlength)]

/-! ### All tokens -/

/-- Characters that spell a token are found. -/
theorem scan_of_spells (h : Spells written l rest) :
    scan (written ++ rest) = .lexeme l written.length := by
  cases h with
  | float hw hp hr =>
    obtain ⟨c, whole, rfl, hc⟩ := hw.exists_cons
    exact (scan_digit hc _).trans (scanNumber_float hw hp hr)
  | integer hd hl =>
    obtain ⟨c, digits, rfl, hc⟩ := hd.run.exists_cons
    exact (scan_digit hc _).trans ((scanNumber_whole hd).trans (if_pos hl))
  | @text quote written chars rest hq hw hu =>
    obtain ⟨hscan, hne⟩ := scan_quote hq (written ++ quote :: rest)
    rw [List.cons_append, List.append_assoc, List.singleton_append, hscan, scanText_eq hne hw, hu]
    simp
  | @ticked name rest hne hn =>
    rw [List.cons_append, List.append_assoc, List.singleton_append]
    refine (scanTicked_eq hne hn rest).trans ?_
    simp
  | @name word rest hw hk hr =>
    obtain ⟨c, chars, rfl, hc, -⟩ := isWord_iff.1 hw
    refine (scan_wordStart hc _).trans ((scanWord_eq hw hr).trans ?_)
    rw [hk, Option.elim_none]
  | @keyword word rest k hw hk hr =>
    obtain ⟨c, chars, rfl, hc, -⟩ := isWord_iff.1 hw
    refine (scan_wordStart hc _).trans ((scanWord_eq hw hr).trans ?_)
    rw [hk, Option.elim_some]
  | @sign s rest hmax =>
    rw [scan_sign, scanSign, find?_sign_iff.2 ⟨List.prefix_append _ _, hmax⟩]

/-- What a text starts with: a token that its characters spell, a token that cannot be made, or
    nothing that a pattern fits. -/
theorem scan_cases (text : List Char) : IsSpelled text ∨ IsUnmade text ∨ scan text = .illegal := by
  cases text with
  | nil => exact .inr (.inr rfl)
  | cons c text =>
    -- The first character tells which pattern is tried.
    by_cases hd : isDecimalDigit c = true
    · exact (scan_digit_cases hd text).imp_right .inl
    by_cases hq : c = '"' ∨ c = '\''
    · exact scan_quote_cases hq text
    by_cases hb : c = backtick
    · subst hb
      exact (scan_backtick_cases text).imp_right .inr
    by_cases hs : isWordStart c = true
    · exact .inl (isSpelled_of_wordStart hs text)
    rw [scan, if_neg hd, if_neg hq, if_neg hb, if_neg hs, scanSign]
    cases hf : Sign.all.find? fun s => s.chars.isPrefixOf (c :: text) with
    | none => exact .inr (.inr rfl)
    | some s =>
      obtain ⟨⟨rest, hrest⟩, hmax⟩ := find?_sign_iff.1 hf
      exact .inl ⟨s.chars, rest, _, hrest.symm, .sign (hrest ▸ hmax)⟩

/-- A text starts with the tokens that its characters spell, and with no others. -/
theorem scan_eq_lexeme_iff : scan text = .lexeme l width ↔
    ∃ written rest, text = written ++ rest ∧ written.length = width ∧ Spells written l rest := by
  constructor
  · intro h
    obtain ⟨written, rest, l', rfl, hw⟩ | ⟨s, ending, e, hu, hs, -⟩ | hi := scan_cases text
    · cases (scan_of_spells hw).symm.trans h
      exact ⟨written, rest, rfl, rfl, hw⟩
    · cases hs.symm.trans h
      cases hu
    · cases hi.symm.trans h
  · rintro ⟨written, rest, rfl, rfl, hw⟩
    exact scan_of_spells hw

theorem scan_ne_illegal (h : IsLexeme written) (rest : List Char) :
    scan (written ++ rest) ≠ .illegal := by
  have hnumber : ∀ chars, IsRun isDecimalDigit chars → ∀ more, scan (chars ++ more) ≠ .illegal := by
    intro chars hdigits more
    obtain ⟨c, digits, rfl, hc⟩ := hdigits.exists_cons
    rw [List.cons_append]
    obtain ⟨written, rest, l, ht, hw⟩ | ⟨s, ending, e, hu, hs, -⟩ :=
      scan_digit_cases hc (digits ++ more)
    · rw [ht, scan_of_spells hw]
      simp
    · rw [hs]
      cases hu <;> simp
  cases h with
  | @float whole places hw _ =>
    rw [List.append_assoc]
    exact hnumber whole hw _
  | integer hd => exact hnumber _ hd _
  | @text quote written hq hw =>
    obtain ⟨hscan, hne⟩ := scan_quote hq (written ++ quote :: rest)
    rw [List.cons_append, List.append_assoc, List.singleton_append, hscan, scanText_eq hne hw]
    cases unescape? written <;> simp
  | ticked hne hn =>
    rw [scan_of_spells (.ticked hne hn)]
    simp
  | word hw =>
    obtain ⟨c, more, rfl, hc, -⟩ := isWord_iff.1 hw
    rw [List.cons_append, scan_wordStart hc, scanWord.eq_def]
    simp only []
    split <;> simp
  | sign s =>
    rw [scan_sign, scanSign.eq_def]
    split
    · simp
    · rename_i hf
      have hbegins : s.chars.isPrefixOf (s.chars ++ rest) = true :=
        List.isPrefixOf_iff_prefix.2 (List.prefix_append _ _)
      exact absurd hbegins (List.find?_eq_none.1 hf s s.mem_all)

/-- Where no token is found, no pattern fits. -/
theorem scan_eq_illegal_iff : scan text = .illegal ↔
    ∀ written rest, text = written ++ rest → ¬IsLexeme written := by
  constructor
  · rintro h written rest rfl hw
    exact scan_ne_illegal hw rest h
  · intro h
    obtain ⟨written, rest, l, ht, hw⟩ | ⟨_, _, _, -, -, written, rest, ht, hw⟩ | hi :=
      scan_cases text
    · exact absurd hw.isLexeme (h written rest ht)
    · exact absurd hw (h written rest ht)
    · exact hi

/-! ### What comes after a token -/

/-- A text that no token before it goes on with, whatever it is. -/
structure Parts (text : List Char) : Prop where
  digits : Stops isDecimalDigit text
  words : Stops isWordChar text
  signs : ∀ c ∈ text.head?, c ≠ '.' ∧ c ≠ '='

theorem parts_nil : Parts [] where
  digits := stops_nil _
  words := stops_nil _
  signs c hc := absurd hc (Option.not_mem_none c)

theorem parts_cons {c : Char} {rest : List Char} : Parts (c :: rest) ↔
    (isDecimalDigit c = false ∧ isWordChar c = false) ∧ c ≠ '.' ∧ c ≠ '=' := by
  constructor
  · rintro ⟨hd, hw, hs⟩
    exact ⟨⟨stops_cons.1 hd, stops_cons.1 hw⟩, hs c rfl⟩
  · rintro ⟨⟨hd, hw⟩, hs⟩
    exact ⟨stops_cons.2 hd, stops_cons.2 hw, fun _ hc => Option.mem_some.1 hc ▸ hs⟩

theorem parts_of_isSkipped {c : Char} (h : isSkipped c = true) (rest : List Char) :
    Parts (c :: rest) := by
  have hall : ∀ c ∈ [' ', '\t', '\r', '\n'],
      (isDecimalDigit c = false ∧ isWordChar c = false) ∧ c ≠ '.' ∧ c ≠ '=' := by
    intro c hc
    fin_cases hc <;> decide
  exact parts_cons.2 (hall c (isSkipped_iff.1 h))

theorem Sign.length_chars (s : Sign) : 1 ≤ s.chars.length ∧ s.chars.length ≤ 2 := by
  cases s <;> decide

theorem Sign.chars_cases (s : Sign) : (∃ c, s.chars = [c]) ∨ ∃ c, s.chars = [c, '='] := by
  cases s <;> simp [Sign.chars]

theorem IsWhole.append {digits after : List Char} (h : IsWhole digits rest) (ha : Parts after) :
    IsWhole digits (rest ++ after) where
  run := h.run
  stops := h.stops.append ha.digits
  alone more hmore := by
    -- The point of a float would have to be in what comes after.
    cases rest with
    | nil => exact absurd rfl (ha.signs '.' (by rw [← List.nil_append after, hmore]; rfl)).1
    | cons c rest =>
      obtain ⟨rfl, rfl⟩ := List.cons.inj hmore
      exact (h.alone rest rfl).append ha.digits

/-- A token stays one before more of a text that does not go on with it. -/
theorem Spells.append {after : List Char} (h : Spells written l rest) (ha : Parts after) :
    Spells written l (rest ++ after) := by
  cases h with
  | float hw hp hr => exact .float hw hp (hr.append ha.digits)
  | integer hd hl => exact .integer (hd.append ha) hl
  | text hq hw hu => exact .text hq hw hu
  | ticked hne hn => exact .ticked hne hn
  | name hw hk hr => exact .name hw hk (hr.append ha.words)
  | keyword hw hk hr => exact .keyword hw hk (hr.append ha.words)
  | @sign s _ hmax =>
    refine .sign fun s' hs' => ?_
    cases rest with
    | cons c rest =>
      have hle : s'.chars.length ≤ (s.chars ++ c :: rest).length := by
        rw [List.length_append, List.length_cons]
        have := s.length_chars
        have := s'.length_chars
        omega
      exact hmax s' (List.prefix_of_prefix_length_le hs' ⟨after, List.append_assoc _ _ _⟩ hle)
    | nil =>
      obtain ⟨e, he⟩ | ⟨e, he⟩ := s'.chars_cases
      · rw [he]
        exact s.length_chars.1
      · obtain ⟨d, hd⟩ | ⟨d, hd⟩ := s.chars_cases
        · -- A longer sign goes on with an equals sign.
          rw [hd, he] at hs'
          obtain ⟨more, hmore⟩ := hs'
          cases hmore
          exact absurd rfl (ha.signs '=' rfl).2
        · rw [hd, he]
          exact le_rfl

end Formula

end ControlBreak
