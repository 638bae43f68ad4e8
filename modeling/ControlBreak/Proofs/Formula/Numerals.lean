import ControlBreak.Formula.Lexer
import ControlBreak.Text.Blank
import Mathlib

/-!
# Numerals

A text that starts with a digit starts with a number: digits, a point and digits, or else digits
alone, of which no more belong to the number than there are up to the next character. Digits alone
are a number only if they are few enough.

* `IsRun`, `Stops`: characters of a class, and what ends them;
* `IsWhole`: digits that stand alone;
* `number_cases`: the two kinds of numerals that a text starts with;
* `scan_eq_oversized_iff`: the texts that start with a number that is too long.
-/

namespace ControlBreak

namespace Formula

/-! ### Runs of characters -/

/-- Some characters of a class, at least one. -/
def IsRun (p : Char → Bool) (chars : List Char) : Prop :=
  chars ≠ [] ∧ ∀ c ∈ chars, p c = true

/-- A text does not start with a character of a class. -/
def Stops (p : Char → Bool) (text : List Char) : Prop :=
  ∀ c ∈ text.head?, p c = false

section Runs

variable {p : Char → Bool} {chars rest after : List Char} {c : Char}

theorem stops_nil (p : Char → Bool) : Stops p [] :=
  fun c hc => absurd hc (Option.not_mem_none c)

theorem stops_cons : Stops p (c :: rest) ↔ p c = false := by
  simp [Stops]

theorem Stops.append (h : Stops p rest) (ha : Stops p after) : Stops p (rest ++ after) := by
  cases rest with
  | nil => exact ha
  | cons c rest => exact stops_cons.2 (stops_cons.1 h)

theorem Stops.take (h : Stops p rest) (n : Nat) : Stops p (rest.take n) := by
  cases rest with
  | nil => rwa [List.take_nil]
  | cons c rest =>
    cases n with
    | zero => exact stops_nil p
    | succ n => exact stops_cons.2 (stops_cons.1 h)

theorem stops_dropWhile (p : Char → Bool) (text : List Char) : Stops p (text.dropWhile p) := by
  intro c hc
  have hstop := List.head?_dropWhile_not p text
  rwa [hc] at hstop

theorem takeWhile_append_of_stops (h : ∀ c ∈ chars, p c = true) (hr : Stops p rest) :
    (chars ++ rest).takeWhile p = chars := by
  rw [List.takeWhile_append_of_pos h]
  cases rest with
  | nil => rw [List.takeWhile_nil, List.append_nil]
  | cons c rest => rw [List.takeWhile_cons_of_neg (by simp [stops_cons.1 hr]), List.append_nil]

theorem dropWhile_append_of_stops (h : ∀ c ∈ chars, p c = true) (hr : Stops p rest) :
    (chars ++ rest).dropWhile p = rest := by
  rw [List.dropWhile_append_of_pos h]
  cases rest with
  | nil => rfl
  | cons c rest => rw [List.dropWhile_cons_of_neg (by simp [stops_cons.1 hr])]

/-- Every text starts with a run of a class, which may be empty, and stops there. -/
theorem exists_run (p : Char → Bool) (text : List Char) : ∃ chars rest, text = chars ++ rest ∧
    (∀ c ∈ chars, p c = true) ∧ Stops p rest :=
  ⟨text.takeWhile p, text.dropWhile p, List.takeWhile_append_dropWhile.symm,
    fun _ hc => List.mem_takeWhile_imp hc, stops_dropWhile p text⟩

theorem IsRun.exists_cons (h : IsRun p chars) : ∃ c rest, chars = c :: rest ∧ p c = true := by
  obtain ⟨c, rest, rfl⟩ := List.exists_cons_of_ne_nil h.1
  exact ⟨c, rest, rfl, h.2 c List.mem_cons_self⟩

end Runs

/-! ### What numbers are read from -/

variable {digits rest : List Char} {c : Char}

/-- Digits that stand alone before the rest of a text: no digit comes after them, and no point
    with a digit. -/
structure IsWhole (digits rest : List Char) : Prop where
  run : IsRun isDecimalDigit digits
  stops : Stops isDecimalDigit rest
  alone : ∀ more, rest = '.' :: more → Stops isDecimalDigit more

theorem scan_digit (h : isDecimalDigit c = true) (rest : List Char) :
    scan (c :: rest) = scanNumber (c :: rest) := by
  rw [scan, if_pos h]

/-- The point is no digit, so that the digits before it end there. -/
theorem stops_point (rest : List Char) : Stops isDecimalDigit ('.' :: rest) :=
  stops_cons.2 (by decide)

theorem scanNumber_float {whole places : List Char} (hw : IsRun isDecimalDigit whole)
    (hp : IsRun isDecimalDigit places) (hr : Stops isDecimalDigit rest) :
    scanNumber (whole ++ '.' :: places ++ rest) =
      .lexeme (.float (.ofDecimal false (digitsValue (whole ++ places)) (-(places.length : Int))))
        (whole ++ '.' :: places).length := by
  rw [scanNumber, List.append_assoc, List.cons_append,
    takeWhile_append_of_stops hw.2 (stops_point _), dropWhile_append_of_stops hw.2 (stops_point _)]
  simp only [takeWhile_append_of_stops hp.2 hr]
  rw [if_neg (by simp [hp.1]), List.length_append, List.length_cons, Nat.add_assoc,
    Nat.add_comm 1]

/-- Digits that stand alone are a number, unless they are too many. -/
theorem scanNumber_whole (h : IsWhole digits rest) : scanNumber (digits ++ rest) =
    if digits.length ≤ integerDigitLimit then .lexeme (.integer (digitsValue digits)) digits.length
    else .oversized digits.length := by
  rw [scanNumber, takeWhile_append_of_stops h.run.2 h.stops,
    dropWhile_append_of_stops h.run.2 h.stops]
  refine if_pos ?_
  -- Digits after a point would have made a float of the number.
  split
  · rename_i more
    rw [← List.nil_append more,
      takeWhile_append_of_stops (List.forall_mem_nil _) (h.alone more rfl)]
    rfl
  · rfl

/-- A text that starts with a digit starts with a number that has a point, or with one that has
    none. -/
theorem number_cases (hc : isDecimalDigit c = true) (text : List Char) :
    (∃ whole places rest, c :: text = whole ++ '.' :: places ++ rest ∧
      IsRun isDecimalDigit whole ∧ IsRun isDecimalDigit places ∧ Stops isDecimalDigit rest) ∨
      ∃ digits rest, c :: text = digits ++ rest ∧ IsWhole digits rest := by
  obtain ⟨digits, rest, ht, hdigits, hr⟩ := exists_run isDecimalDigit (c :: text)
  have hd : IsRun isDecimalDigit digits := by
    refine ⟨?_, hdigits⟩
    rintro rfl
    rw [List.nil_append] at ht
    rw [← ht, stops_cons, hc] at hr
    cases hr
  by_cases hm : ∃ more, rest = '.' :: more ∧ ¬Stops isDecimalDigit more
  · obtain ⟨more, rfl, hm⟩ := hm
    obtain ⟨places, after, rfl, hplaces, hafter⟩ := exists_run isDecimalDigit more
    have hp : IsRun isDecimalDigit places := by
      refine ⟨?_, hplaces⟩
      rintro rfl
      exact hm hafter
    exact .inl ⟨digits, places, after, by rw [ht, List.append_assoc, List.cons_append], hd, hp,
      hafter⟩
  · exact .inr ⟨digits, rest, ht, hd, hr, fun more hmore =>
      by_contra fun hn => hm ⟨more, hmore, hn⟩⟩

/-! ### Numbers that are too long -/

/-- Of all that a text can start with, only a number can be too long. -/
theorem isDecimalDigit_of_oversized {n : Nat} (h : scan (c :: rest) = .oversized n) :
    isDecimalDigit c = true := by
  rw [scan] at h
  split_ifs at h with hd
  · exact hd
  · rw [scanText.eq_def] at h
    split at h
    · cases h
    · split at h <;> cases h
  · rw [scanTicked] at h
    split_ifs at h
  · rw [scanWord.eq_def] at h
    simp only [] at h
    split at h <;> cases h
  · rw [scanSign.eq_def] at h
    split at h <;> cases h

/-- A text starts with a number that is too long if digits stand alone there and are too many. -/
theorem scan_eq_oversized_iff {text : List Char} {n : Nat} : scan text = .oversized n ↔
    ∃ digits rest, text = digits ++ rest ∧ IsWhole digits rest ∧ digits.length = n ∧
      integerDigitLimit < n := by
  constructor
  · intro h
    cases text with
    | nil => cases h
    | cons c text =>
      have hc := isDecimalDigit_of_oversized h
      rw [scan_digit hc] at h
      obtain ⟨whole, places, rest, ht, hw, hp, hr⟩ | ⟨digits, rest, ht, hd⟩ := number_cases hc text
      · rw [ht, scanNumber_float hw hp hr] at h
        cases h
      · rw [ht, scanNumber_whole hd] at h
        split_ifs at h with hl
        cases h
        exact ⟨digits, rest, ht, hd, rfl, Nat.lt_of_not_le hl⟩
  · rintro ⟨digits, rest, rfl, hd, rfl, hl⟩
    obtain ⟨c, more, rfl, hc⟩ := hd.run.exists_cons
    exact (scan_digit hc _).trans ((scanNumber_whole hd).trans (if_neg (Nat.not_le_of_lt hl)))

/-! ### Digits and blanks -/

theorem forall_zeroDigits : ∀ z ∈ zeroDigits, ∀ d < 10,
    CharSet.memberFrom (z + d) false blank.boundaries = false := by
  decide +kernel

/-- A digit is not blank, of whatever script it is. -/
theorem isBlank_of_isDecimalDigit (h : isDecimalDigit c = true) : isBlank c = false := by
  rw [isDecimalDigit, digitValue?, Option.isSome_map, List.find?_isSome] at h
  obtain ⟨z, hz, h⟩ := h
  rw [Bool.and_eq_true, decide_eq_true_eq, decide_eq_true_eq] at h
  rw [isBlank, CharSet.contains, ← Nat.add_sub_of_le h.1]
  exact forall_zeroDigits z hz _ (by omega)

end Formula

end ControlBreak
