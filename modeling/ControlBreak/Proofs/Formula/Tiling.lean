import ControlBreak.Proofs.Formula.Lexemes
import Mathlib

/-!
# Tokens and their places

The tokens of a formula tile its text: each lies at its place, where its characters spell it, one
begins after the one before it has ended, and what is between them is blank. So it is up to
the end of the text, or up to the place where the tokens end early; at an illegal character no
pattern for tokens fits, and else the characters there are those of a token that cannot be made.

* `Tiles`: one token after the other, with blanks before each of them;
* `exists_tiles_tokensFrom`: the tokens that are found, by induction along the text;
* `Tiling`: what this says of the places of all tokens, kept by one more blank and by one more
  token;
* `tokenize_tiles`: so the tokens of all formulas.
-/

namespace ControlBreak

namespace Formula

variable {text written after rest before : List Char} {c : Char} {l : Lexeme} {ts : List Token}
  {ending : Ending} {position start limit : Nat}

/-! ### One token after the other -/

/-- Tokens make up a text from one place to another, with blanks before each of them; the rest
    of the text comes after them. -/
inductive Tiles : Nat → List Char → List Token → Nat → List Char → Prop
  | done {position : Nat} {rest : List Char} : Tiles position rest [] position rest
  | blank {position limit : Nat} {c : Char} {text rest : List Char} {ts : List Token} :
    isSkipped c = true → Tiles (position + 1) text ts limit rest →
    Tiles position (c :: text) ts limit rest
  | token {position limit : Nat} {written after rest : List Char} {l : Lexeme}
    {ts : List Token} : Spells written l after →
    Tiles (position + written.length) after ts limit rest →
    Tiles position (written ++ after) (⟨l, position, written.length⟩ :: ts) limit rest

/-- Why tokens end at a place: the text ends there, no token is found, or one that cannot be
    made. -/
inductive Ending.Meets : Ending → Nat → List Char → Prop
  | complete {position : Nat} : Meets .complete position []
  | illegal {c : Char} {position : Nat} {rest : List Char} : isSkipped c = false →
    scan (c :: rest) = .illegal → Meets (.illegal c position) position (c :: rest)
  | malformed {position : Nat} {rest : List Char} : scan rest = .malformed →
    Meets (.malformed position) position rest
  | oversized {digits position : Nat} {rest : List Char} : scan rest = .oversized digits →
    Meets (.oversized digits position) position rest

/-- The tokens of a text make it up to the place where they end. -/
theorem exists_tiles_tokensFrom (h : tokensFrom position text = (ts, ending)) :
    ∃ limit rest, Tiles position text ts limit rest ∧ ending.Meets limit rest := by
  induction position, text using tokensFrom.induct generalizing ts ending with
  | case1 position =>
    rw [tokensFrom] at h
    cases h
    exact ⟨position, [], .done, .complete⟩
  | case2 position c text hc ih =>
    rw [tokensFrom, if_pos hc] at h
    obtain ⟨limit, rest, htiles, hmeets⟩ := ih h
    exact ⟨limit, rest, .blank hc htiles, hmeets⟩
  | case3 position c text hc l width hl ts' ending' ht ih =>
    rw [tokensFrom, if_neg hc, hl] at h
    simp only [ht] at h
    cases h
    obtain ⟨written, after, htext, rfl, hw⟩ := scan_eq_lexeme_iff.1 hl
    obtain ⟨d, more, rfl⟩ := List.exists_cons_of_ne_nil hw.isLexeme.ne_nil
    -- What is dropped are the characters of the token, of which `c` is the first.
    rw [List.cons_append] at htext
    obtain ⟨rfl, rfl⟩ := List.cons.inj htext
    rw [List.length_cons, Nat.add_sub_cancel, List.drop_left] at ih ht
    obtain ⟨limit, rest, htiles, hmeets⟩ := ih ht
    exact ⟨limit, rest, .token hw htiles, hmeets⟩
  | case4 position c text hc hm =>
    rw [tokensFrom, if_neg hc, hm] at h
    cases h
    exact ⟨position, _, .done, .malformed hm⟩
  | case5 position c text hc digits ho =>
    rw [tokensFrom, if_neg hc, ho] at h
    cases h
    exact ⟨position, _, .done, .oversized ho⟩
  | case6 position c text hc hi =>
    rw [tokensFrom, if_neg hc, hi] at h
    cases h
    exact ⟨position, _, .done, .illegal (Bool.not_eq_true _ ▸ hc) hi⟩

theorem Tiles.exists_append (h : Tiles position text ts limit rest) :
    ∃ chars, text = chars ++ rest ∧ position + chars.length = limit := by
  induction h with
  | done => exact ⟨[], rfl, rfl⟩
  | @blank _ _ c _ _ _ _ _ ih =>
    obtain ⟨chars, rfl, rfl⟩ := ih
    exact ⟨c :: chars, rfl, by rw [List.length_cons, Nat.add_right_comm, Nat.add_assoc]⟩
  | @token _ _ written _ _ _ _ _ _ ih =>
    obtain ⟨chars, rfl, rfl⟩ := ih
    exact ⟨written ++ chars, by rw [List.append_assoc], by rw [List.length_append, Nat.add_assoc]⟩

/-! ### The places of all tokens -/

/-- A place is one of those of a token's characters. -/
def Token.Covers (t : Token) (i : Nat) : Prop :=
  t.position ≤ i ∧ i < t.position + t.width

/-- A token lies at its place in a text, where its characters spell it. -/
def Token.LiesIn (t : Token) (text : List Char) : Prop :=
  ∃ before written after, text = before ++ (written ++ after) ∧ before.length = t.position ∧
    written.length = t.width ∧ Spells written t.lexeme after

/-- Tokens tile a text between two places. -/
structure Tiling (text : List Char) (start limit : Nat) (ts : List Token) : Prop where
  start_le : start ≤ limit
  lies : ∀ t ∈ ts, t.LiesIn text
  within : ∀ t ∈ ts, start ≤ t.position ∧ t.position + t.width ≤ limit
  increasing : ts.Pairwise fun t u => t.position < u.position
  /-- A token begins where those before it have ended. -/
  apart : ts.Pairwise fun t u => t.position + t.width ≤ u.position
  /-- A character that belongs to no token is blank. -/
  blank : ∀ i c, start ≤ i → i < limit → text[i]? = some c → (∀ t ∈ ts, ¬t.Covers i) →
    c ∈ [' ', '\t', '\r', '\n']

theorem tiling_nil (text : List Char) (start : Nat) : Tiling text start start [] where
  start_le := le_rfl
  lies := List.forall_mem_nil _
  within := List.forall_mem_nil _
  increasing := .nil
  apart := .nil
  blank _ _ hs hl := absurd hs (Nat.not_le_of_lt hl)

theorem Tiling.skip (h : Tiling text (start + 1) limit ts) (hc : text[start]? = some c)
    (hb : isSkipped c = true) : Tiling text start limit ts where
  start_le := (Nat.le_succ start).trans h.start_le
  lies := h.lies
  within t ht := (h.within t ht).imp_left (Nat.le_succ start).trans
  increasing := h.increasing
  apart := h.apart
  blank i d hs hl hd hn := by
    obtain rfl | hs := hs.eq_or_lt
    · cases hc.symm.trans hd
      exact isSkipped_iff.1 hb
    · exact h.blank i d hs hl hd hn

theorem Tiling.cons {t : Token} (h : Tiling text (start + t.width) limit ts)
    (ht : t.LiesIn text) (hp : t.position = start) (hw : 0 < t.width) :
    Tiling text start limit (t :: ts) where
  start_le := (Nat.le_add_right start _).trans h.start_le
  lies := List.forall_mem_cons.2 ⟨ht, h.lies⟩
  within := List.forall_mem_cons.2 ⟨⟨hp.ge, hp ▸ h.start_le⟩, fun u hu =>
    (h.within u hu).imp_left (Nat.le_add_right start _).trans⟩
  increasing := List.pairwise_cons.2 ⟨fun u hu => by
    have := (h.within u hu).1
    omega, h.increasing⟩
  apart := List.pairwise_cons.2 ⟨fun u hu => hp ▸ (h.within u hu).1, h.apart⟩
  blank i c hs hl hc hn := by
    obtain ⟨hnt, hn⟩ := List.forall_mem_cons.1 hn
    refine h.blank i c ?_ hl hc hn
    -- The places of `t` are not free.
    by_contra hlt
    exact hnt ⟨hp ▸ hs, by omega⟩

theorem Tiles.tiling (h : Tiles position text ts limit rest) (hb : before.length = position) :
    Tiling (before ++ text) position limit ts := by
  induction h generalizing before with
  | done => exact tiling_nil _ _
  | @blank position limit c text rest ts hc _ ih =>
    have htiling := @ih (before ++ [c]) (by simp [hb])
    rw [List.append_assoc, List.singleton_append] at htiling
    exact htiling.skip (by simp [← hb]) hc
  | @token position limit written after rest l ts hw _ ih =>
    have htiling := @ih (before ++ written) (by simp [hb])
    rw [List.append_assoc] at htiling
    exact htiling.cons ⟨before, written, after, rfl, hb, rfl, hw⟩ rfl
      (List.length_pos_iff.2 hw.isLexeme.ne_nil)

/-- The tokens of a whole text tile what is before their end. -/
theorem Tiles.tiling_start (h : Tiles 0 text ts limit rest) : Tiling text 0 limit ts := by
  have htiling : Tiling ([] ++ text) 0 limit ts := h.tiling rfl
  rwa [List.nil_append] at htiling

/-! ### Formulas -/

theorem exists_tiles (text : String) : ∃ limit rest,
    Tiles 0 text.toList (tokens text).1 limit rest ∧ (tokens text).2.Meets limit rest :=
  exists_tiles_tokensFrom rfl

theorem exists_tiles_of_tokenize {text : String} (h : tokenize text = .ok ts) :
    ∃ limit, Tiles 0 text.toList ts limit [] := by
  obtain ⟨limit, rest, htiles, hmeets⟩ := exists_tiles text
  rw [tokenize] at h
  generalize tokens text = found at *
  obtain ⟨ts', ending⟩ := found
  cases hmeets with
  | complete =>
    cases h
    exact ⟨limit, htiles⟩
  | illegal | malformed | oversized => cases h

/-- The tokens of a formula are spelled by some of its characters. -/
theorem exists_spells_of_tokenize {text : String} {t : Token} (h : tokenize text = .ok ts)
    (ht : t ∈ ts) : ∃ written after, Spells written t.lexeme after := by
  obtain ⟨limit, htiles⟩ := exists_tiles_of_tokenize h
  obtain ⟨_, written, after, -, -, -, hspells⟩ := htiles.tiling_start.lies t ht
  exact ⟨written, after, hspells⟩

/-- A token is what is found at its place. -/
theorem scan_of_mem_tokens {text : String} {t : Token} (ht : t ∈ (tokens text).1) :
    scan (text.toList.drop t.position) = .lexeme t.lexeme t.width := by
  obtain ⟨limit, rest, htiles, -⟩ := exists_tiles text
  obtain ⟨before, written, after, htext, hbefore, hwidth, hspells⟩ :=
    htiles.tiling_start.lies t ht
  rw [htext, ← hbefore, List.drop_left, ← hwidth]
  exact scan_of_spells hspells

/-- The tokens of a formula tile its text: all of it, or what is before an illegal character, where
    no pattern for tokens fits, before a text in quotes with a malformed escape, or before digits
    that are too many for a number. -/
theorem tokenize_tiles (text : String) :
    (∃ ts, tokenize text = .ok ts ∧ Tiling text.toList 0 text.length ts) ∨
      (∃ c p, tokenize text = .error (.illegal c p) ∧ Tiling text.toList 0 p (tokens text).1 ∧
        text.toList[p]? = some c ∧ isSkipped c = false ∧
        ∀ written rest, text.toList.drop p = written ++ rest → ¬IsLexeme written) ∨
      (∃ p quote written rest, tokenize text = .error .malformedEscape ∧
        Tiling text.toList 0 p (tokens text).1 ∧
        text.toList.drop p = quote :: (written ++ quote :: rest) ∧
        (quote = '"' ∨ quote = '\'') ∧ Quotable quote written ∧ HasBroken written) ∨
      ∃ p digits rest, tokenize text = .error (.oversized digits.length) ∧
        Tiling text.toList 0 p (tokens text).1 ∧ text.toList.drop p = digits ++ rest ∧
        IsWhole digits rest ∧ integerDigitLimit < digits.length := by
  obtain ⟨limit, rest, htiles, hmeets⟩ := exists_tiles text
  have htiling := htiles.tiling_start
  obtain ⟨chars, htext, hlimit⟩ := htiles.exists_append
  rw [Nat.zero_add] at hlimit
  have hdrop : text.toList.drop limit = rest := by rw [htext, ← hlimit, List.drop_left]
  rw [tokenize]
  generalize tokens text = found at *
  obtain ⟨ts, ending⟩ := found
  cases hmeets with
  | complete =>
    left
    rw [List.append_nil] at htext
    have hlength : text.length = limit := by rw [← hlimit, ← htext, String.length_toList]
    exact ⟨ts, rfl, hlength ▸ htiling⟩
  | @illegal c _ rest hc hscan =>
    right
    left
    refine ⟨c, limit, rfl, htiling, by simp [htext, ← hlimit], hc, ?_⟩
    rw [hdrop]
    exact scan_eq_illegal_iff.1 hscan
  | malformed hscan =>
    right
    right
    left
    obtain ⟨quote, written, after, hrest, hq, hw, hbroken⟩ := scan_eq_malformed_iff.1 hscan
    exact ⟨limit, quote, written, after, rfl, htiling, hdrop.trans hrest, hq, hw, hbroken⟩
  | oversized hscan =>
    right
    right
    right
    obtain ⟨digits, after, hrest, hd, rfl, hlong⟩ := scan_eq_oversized_iff.1 hscan
    exact ⟨limit, digits, after, rfl, htiling, hdrop.trans hrest, hd, hlong⟩

/-- A single `=` is no sign: the tokens end there, after the name before it. -/
theorem tokenize_tiles_equals : tokenize "net = 15" = .error (.illegal '=' 4) ∧
    Tiling "net = 15".toList 0 4 [⟨.name "net", 0, 3⟩] ∧
    ∀ written rest, ['=', ' ', '1', '5'] = written ++ rest → ¬IsLexeme written := by
  have he : tokenize "net = 15" = .error (.illegal '=' 4) := by cbv
  have ht : (tokens "net = 15").1 = [⟨.name "net", 0, 3⟩] := by cbv
  obtain ⟨ts, h, -⟩ | ⟨c, p, h, htiling, -, -, hnone⟩ | ⟨_, _, _, _, h, -⟩ | ⟨_, _, _, h, -⟩ :=
    tokenize_tiles "net = 15"
  · cases he.symm.trans h
  · cases he.symm.trans h
    exact ⟨he, ht ▸ htiling, hnone⟩
  · cases he.symm.trans h
  · cases he.symm.trans h

end Formula

end ControlBreak
