import ControlBreak.Proofs.Formula.Printing
import Mathlib

/-!
# Tokens that are written

Tokens can be written out: a keyword in any case, a number by its digits, a name as a word if
that is read as a name and else in backticks, a text in quotes of either kind. With blanks
between them, what is written is read as these tokens: a blank goes on with none of them.

* `Written`: a token and how it is written;
* `Written.spells`: its characters spell it, wherever what comes after does not go on with them;
* `tokenize_render`: so all tokens are read back, by induction on them.
-/

namespace ControlBreak

namespace Formula

variable {rest : List Char} {tokens : List Lexeme}

/-! ### Keywords in any case -/

theorem isAlpha_of_toLower {c : Char} (h : c.toLower.isAlpha = true) : c.isAlpha = true := by
  rw [Char.toLower] at h
  split at h
  · rename_i hc
    rw [Char.isAlpha, Char.isUpper, Bool.or_eq_true]
    exact .inl (by simpa using hc)
  · exact h

/-- Each spelling of a keyword is a word of letters, and is that of no other one. -/
theorem forall_spellings : ∀ s ∈ Keyword.spellings,
    (Keyword.spellings.find? fun s' => s'.1 == s.1) = some s ∧ s.1 ≠ [] ∧
      s.1.all Char.isAlpha = true := by
  intro s hs
  fin_cases hs <;> exact ⟨rfl, List.cons_ne_nil _ _, rfl⟩

/-- Letters that make up a keyword in small letters are that keyword. -/
theorem isWord_of_spelling {word : List Char} {k : Keyword}
    (h : (word.map Char.toLower, k) ∈ Keyword.spellings) :
    isWord word = true ∧ Keyword.ofWord? word = some k := by
  obtain ⟨hfind, hne, hall⟩ := forall_spellings _ h
  have halpha : ∀ c ∈ word, c.isAlpha = true := fun c hc =>
    isAlpha_of_toLower (List.all_eq_true.1 hall _ (List.mem_map_of_mem hc))
  constructor
  · obtain ⟨c, more, rfl⟩ := List.exists_cons_of_ne_nil (List.map_eq_nil_iff.not.1 hne)
    have hstart : ∀ d ∈ c :: more, isWordStart d = true := fun d hd => by
      rw [isWordStart, halpha d hd, Bool.true_or]
    exact isWord_iff.2 ⟨c, more, rfl, hstart c List.mem_cons_self,
      fun d hd => isWordChar_of_isWordStart (hstart d hd)⟩
  · rw [Keyword.ofWord?, hfind, Option.map_some]

/-! ### Tokens as they are written -/

/-- Whether a name is read as a name where it is written as a word. -/
def Name.IsPlain (name : Name) : Prop :=
  isWord name.text.toList = true ∧ Keyword.ofWord? name.text.toList = none

instance (name : Name) : Decidable name.IsPlain :=
  inferInstanceAs (Decidable (_ ∧ _))

/-- A token that can be written. The letters of a keyword may be of either case. -/
inductive Written
  | keyword (k : Keyword) (spelling : String)
    (any_case : (spelling.toList.map Char.toLower, k) ∈ Keyword.spellings)
  | sign (s : Sign)
  | integer (n : Nat)
  | name (name : Name)
  | text (quote : Quote) (s : String)

namespace Written

/-- The token itself. -/
def lexeme : Written → Lexeme
  | .keyword k spelling _ => .keyword k spelling
  | .sign s => .sign s
  | .integer n => .integer n
  | .name n => .name n.text
  | .text _ s => .text s

/-- The characters that it is written with. -/
def chars : Written → List Char
  | keyword _ spelling _ => spelling.toList
  | .sign s => s.chars
  | .integer n => decimalDigits n
  | .name n => if n.IsPlain then n.text.toList else n.ticked
  | .text quote s => quote.char :: (quote.escape s.toList ++ [quote.char])

/-- The characters of a token spell it, where it ends a text, if a number has few enough digits. -/
theorem spells : ∀ w : Written, w.lexeme.Fits → Spells w.chars w.lexeme []
  | .keyword k spelling h, _ => by
    obtain ⟨hw, hk⟩ := isWord_of_spelling h
    have hspells := Spells.keyword hw hk parts_nil.words
    rwa [String.ofList_toList] at hspells
  | .sign s, _ => .sign fun s' hs' => by
    rw [List.append_nil] at hs'
    exact hs'.length_le
  | .integer n, h => spells_integer n h
  | .name n, _ => by
    rw [chars, lexeme]
    split
    · rename_i hplain
      have hspells := Spells.name hplain.1 hplain.2 parts_nil.words
      rwa [String.ofList_toList] at hspells
    · exact spells_ticked n []
  | .text quote s, _ => spells_text quote s []

end Written

/-! ### Blanks between tokens -/

/-- Blanks, tabs and ends of lines, at least one. -/
structure Gap where
  chars : List Char
  nonempty : chars ≠ []
  blank : ∀ c ∈ chars, c ∈ [' ', '\t', '\r', '\n']

/-- A single blank. -/
def Gap.single : Gap where
  chars := [' ']
  nonempty := List.cons_ne_nil _ _
  blank := by simp

/-- Written tokens with gaps between them: `gap n` is before the last `n + 1` tokens. -/
def render (gap : Nat → Gap) : List Written → List Char
  | [] => []
  | [w] => w.chars
  | w :: next :: rest => w.chars ++ ((gap rest.length).chars ++ render gap (next :: rest))

theorem Gap.parts (gap : Gap) (rest : List Char) : Parts (gap.chars ++ rest) := by
  obtain ⟨c, chars, hc⟩ := List.exists_cons_of_ne_nil gap.nonempty
  rw [hc, List.cons_append]
  exact parts_of_isSkipped (isSkipped_iff.2 (gap.blank c (hc ▸ List.mem_cons_self))) _

theorem Lexes.gap (gap : Gap) (h : Lexes rest tokens) : Lexes (gap.chars ++ rest) tokens := by
  have hskip : ∀ c ∈ gap.chars, isSkipped c = true := fun c hc => isSkipped_iff.2 (gap.blank c hc)
  generalize gap.chars = chars at hskip
  induction chars with
  | nil => exact h
  | cons c chars ih =>
    obtain ⟨hc, hskip⟩ := List.forall_mem_cons.1 hskip
    exact (ih hskip).skip hc

/-- What is written has its tokens: each is read up to the gap after it. -/
theorem lexes_render (gap : Nat → Gap) : ∀ ws : List Written, (∀ w ∈ ws, w.lexeme.Fits) →
    Lexes (render gap ws) (ws.map Written.lexeme)
  | [], _ => lexes_nil
  | [w], h => by
    have hlexes := lexes_nil.spells (w.spells (h w (List.mem_singleton_self w)))
    rwa [List.append_nil] at hlexes
  | w :: next :: rest, h => by
    obtain ⟨hw, hrest⟩ := List.forall_mem_cons.1 h
    exact ((lexes_render gap (next :: rest) hrest).gap (gap rest.length)).spells
      ((w.spells hw).append ((gap rest.length).parts _))

/-- Tokens that a text has are such that can be read. -/
theorem fits_of_tokenize {text : String} {ts : List Token} (h : tokenize text = .ok ts) :
    ∀ l ∈ ts.map (·.lexeme), l.Fits := by
  intro l hl
  obtain ⟨t, ht, rfl⟩ := List.mem_map.1 hl
  obtain ⟨_, _, hspells⟩ := exists_spells_of_tokenize h ht
  exact hspells.fits

/-- Tokens that are written with blanks between them are read back, unless a number among them
    has too many digits. -/
theorem tokenize_render (gap : Nat → Gap) (ws : List Written) :
    (∃ ts, tokenize (String.ofList (render gap ws)) = .ok ts ∧
      ts.map (·.lexeme) = ws.map Written.lexeme) ↔ ∀ w ∈ ws, w.lexeme.Fits := by
  constructor
  · rintro ⟨ts, hts, htokens⟩ w hw
    exact fits_of_tokenize hts _ (htokens ▸ List.mem_map_of_mem hw)
  · intro h
    refine exists_tokenize_of_lexes ?_
    rw [String.toList_ofList]
    exact lexes_render gap ws h

/-- The smallest number with too many digits is not read back. -/
theorem tokenize_render_firstOversized :
    ¬∃ ts, tokenize (String.ofList (render (fun _ => .single) [.integer firstOversized])) = .ok ts ∧
      ts.map (·.lexeme) = [Written.integer firstOversized].map Written.lexeme := by
  rintro ⟨ts, hts, htokens⟩
  have hmem : Lexeme.integer firstOversized ∈ ts.map (·.lexeme) := by
    rw [htokens]
    exact List.mem_singleton_self (Lexeme.integer firstOversized)
  exact not_fits_firstOversized (fits_of_tokenize hts _ hmem)

end Formula

end ControlBreak
