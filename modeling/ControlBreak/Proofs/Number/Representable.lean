import ControlBreak.Proofs.Number.Comparison
import Mathlib

/-!
# Representable floats

A float that is finite is a significand times a power of two, and there is one way only to write
it with a significand that fits: one of 53 bits, and with all of them unless the exponent is the
least one. Rounding makes such floats, infinities and nothing else, and it leaves such floats as
they are. So the difference of zero and a float that was rounded is the float with the other
sign, exactly.

* `binaryOrder_eq_log`: the order of a quotient is its binary logarithm;
* `isRounded_round`: what rounding makes;
* `round_of_fits`: what it leaves as it is;
* `zero_sub_of_isRounded`: so the difference of zero and a float, and the number equal to it
  (`Number.exists_apply_sub_zero`).
-/

namespace ControlBreak

namespace Binary64

variable {num den m : ℕ} {e : ℤ} {x : Binary64}

/-! ### Quotients and powers of two -/

theorem twoTo_pos (e : ℤ) : 0 < twoTo e :=
  Nat.pow_pos (by decide)

theorem cast_twoTo (e : ℤ) : (twoTo e : ℚ) = 2 ^ e * twoTo (-e) := by
  rw [twoTo, twoTo, Nat.pow_eq, Nat.pow_eq, Nat.cast_pow, Nat.cast_pow, Nat.cast_ofNat,
    ← zpow_natCast, ← zpow_natCast, ← zpow_add₀ (by norm_num)]
  congr 1
  omega

/-- A quotient in units of a power of two. -/
theorem div_twoTo (num den : ℕ) (e : ℤ) :
    ((num * twoTo (-e) : ℕ) : ℚ) / (den * twoTo e : ℕ) = num / den / 2 ^ e := by
  have hpos : (twoTo (-e) : ℚ) ≠ 0 := Nat.cast_ne_zero.2 (twoTo_pos _).ne'
  rw [Nat.cast_mul, Nat.cast_mul, cast_twoTo e]
  field_simp

theorem mul_zpow_le_div_iff (hd : 0 < den) :
    (m : ℚ) * 2 ^ e ≤ num / den ↔ m * (den * twoTo e) ≤ num * twoTo (-e) := by
  have hpos : 0 < den * twoTo e := Nat.mul_pos hd (twoTo_pos e)
  rw [← le_div_iff₀ (by positivity), ← div_twoTo, le_div_iff₀ (Nat.cast_pos.2 hpos),
    ← Nat.cast_mul, Nat.cast_le]

theorem div_eq_mul_zpow_iff (hd : 0 < den) :
    (num : ℚ) / den = m * 2 ^ e ↔ num * twoTo (-e) = m * (den * twoTo e) := by
  have hpos : 0 < den * twoTo e := Nat.mul_pos hd (twoTo_pos e)
  rw [← div_eq_iff (by positivity), ← div_twoTo, div_eq_iff (Nat.cast_ne_zero.2 hpos.ne'),
    ← Nat.cast_mul, Nat.cast_inj]

/-- The order of a quotient is its binary logarithm. -/
theorem binaryOrder_eq_log (hn : num ≠ 0) (hd : 0 < den) :
    binaryOrder num den = Int.log 2 ((num : ℚ) / den) := by
  have hpos : (0 : ℚ) < num / den := by positivity
  have hnum : (2 : ℚ) ^ num.log2 ≤ num ∧ (num : ℚ) < 2 ^ (num.log2 + 1) :=
    ⟨by exact_mod_cast Nat.log2_self_le hn, by exact_mod_cast Nat.lt_log2_self⟩
  have hden : (2 : ℚ) ^ den.log2 ≤ den ∧ (den : ℚ) < 2 ^ (den.log2 + 1) :=
    ⟨by exact_mod_cast Nat.log2_self_le hd.ne', by exact_mod_cast Nat.lt_log2_self⟩
  obtain ⟨k, hk⟩ : ∃ k : ℤ, (num.log2 : ℤ) - den.log2 = k := ⟨_, rfl⟩
  -- The logarithm is the difference of those of both numbers, or one less.
  have hlow : k - 1 ≤ Int.log 2 ((num : ℚ) / den) := by
    rw [← Int.zpow_le_iff_le_log (by decide) hpos, le_div_iff₀ (by positivity)]
    calc (2 : ℚ) ^ (k - 1) * den ≤ 2 ^ (k - 1) * 2 ^ (den.log2 + 1) := by gcongr; exact hden.2.le
      _ = 2 ^ num.log2 := by
        rw [← zpow_natCast, ← zpow_natCast, ← zpow_add₀ (by norm_num)]
        congr 1
        omega
      _ ≤ num := hnum.1
  have hhigh : Int.log 2 ((num : ℚ) / den) < k + 1 := by
    rw [← Int.lt_zpow_iff_log_lt (by decide) hpos, div_lt_iff₀ (by positivity)]
    calc (num : ℚ) < 2 ^ (num.log2 + 1) := hnum.2
      _ = 2 ^ (k + 1) * 2 ^ den.log2 := by
        rw [← zpow_natCast, ← zpow_natCast, ← zpow_add₀ (by norm_num)]
        congr 1
        omega
      _ ≤ 2 ^ (k + 1) * den := by gcongr; exact hden.1
  have htest : den * twoTo k ≤ num * twoTo (-k) ↔ k ≤ Int.log 2 ((num : ℚ) / den) := by
    rw [← Int.zpow_le_iff_le_log (by decide) hpos]
    simpa using (@mul_zpow_le_div_iff num den 1 k hd).symm
  rw [binaryOrder, hk]
  split_ifs with h
  · have := htest.1 h
    omega
  · have := mt htest.2 h
    omega

/-! ### What rounding makes -/

/-- A significand and an exponent are those of a representable number. -/
structure Fits (m : ℕ) (e : ℤ) : Prop where
  lt : m < 2 ^ 53
  le : minExponent ≤ e
  le_max : e ≤ maxExponent
  /-- The significand is full unless the exponent is the least one. -/
  full : 2 ^ 52 ≤ m ∨ e = minExponent

/-- A float is representable, or an infinity. -/
def IsRounded : Binary64 → Prop
  | .nan _ => False
  | .infinity _ => True
  | .finite _ m e => Fits m e

theorem isRounded_zero (s : Bool) : (zero s).IsRounded where
  lt := by decide
  le := le_rfl
  le_max := by decide
  full := .inr rfl

theorem IsRounded.neg (h : x.IsRounded) : x.neg.IsRounded := by
  cases x with
  | nan => exact h.elim
  | infinity => trivial
  | finite => exact h

/-- In units of the exponent that it is rounded at, a quotient has at most 53 bits. -/
theorem div_lt_mul_zpow (he : max (Int.log 2 ((num : ℚ) / den) - 52) minExponent = e) :
    (num : ℚ) / den < (2 ^ 53 : ℕ) * 2 ^ e := by
  refine (Int.lt_zpow_succ_log_self (b := 2) (by decide) _).trans_le ?_
  rw [Nat.cast_pow, Nat.cast_ofNat, ← zpow_natCast, ← zpow_add₀ (by norm_num)]
  exact zpow_le_zpow_right₀ (by norm_num) (by omega)

/-- It has 53 of them, unless the exponent is the least one. -/
theorem mul_zpow_le_div (hn : num ≠ 0) (hd : 0 < den)
    (he : max (Int.log 2 ((num : ℚ) / den) - 52) minExponent = e) :
    ((2 ^ 52 : ℕ) : ℚ) * 2 ^ e ≤ num / den ∨ e = minExponent := by
  have hpos : (0 : ℚ) < num / den := by positivity
  obtain hlog | hmin := max_choice (Int.log 2 ((num : ℚ) / den) - 52) minExponent
  · left
    rw [Nat.cast_pow, Nat.cast_ofNat, ← zpow_natCast, ← zpow_add₀ (by norm_num), ← he, hlog,
      Nat.cast_ofNat, add_sub_cancel]
    exact_mod_cast Int.zpow_log_le_self (by decide) hpos
  · exact .inr (he.symm.trans hmin)

/-- The exponent that a quotient is rounded at leaves it at most 53 bits, and 53 of them unless it
    is the least one. -/
theorem roundHalfEven_bounds (hn : num ≠ 0) (hd : 0 < den)
    (he : max (Int.log 2 ((num : ℚ) / den) - 52) minExponent = e) :
    roundHalfEven (num * twoTo (-e)) (den * twoTo e) ≤ 2 ^ 53 ∧
      (2 ^ 52 ≤ roundHalfEven (num * twoTo (-e)) (den * twoTo e) ∨ e = minExponent) := by
  have hunit : 0 < den * twoTo e := Nat.mul_pos hd (twoTo_pos e)
  constructor
  · refine roundHalfEven_le_of_le_mul hunit (le_of_not_ge fun hle => ?_)
    exact (div_lt_mul_zpow he).not_ge ((mul_zpow_le_div_iff hd).2 hle)
  · refine (mul_zpow_le_div hn hd he).imp_left fun hle => ?_
    refine le_trans ?_ (div_le_roundHalfEven _ _)
    rwa [Nat.le_div_iff_mul_le hunit, ← mul_zpow_le_div_iff hd]

/-- Rounding a quotient at its exponent: one bit too many is taken off, which leaves the least
    full significand. -/
theorem round_of_exponent (hn : num ≠ 0) (hd : 0 < den)
    (he : max (Int.log 2 ((num : ℚ) / den) - 52) minExponent = e) (s : Bool) :
    round s num den =
      if roundHalfEven (num * twoTo (-e)) (den * twoTo e) = 2 ^ 53 then
        if maxExponent < e + 1 then .infinity s else .finite s (2 ^ 52) (e + 1)
      else if maxExponent < e then .infinity s
      else .finite s (roundHalfEven (num * twoTo (-e)) (den * twoTo e)) e := by
  have h53 : twoTo 53 = 2 ^ 53 := rfl
  rw [round, if_neg hn, binaryOrder_eq_log hn hd, he]
  dsimp only
  rw [h53]
  split <;> rfl

/-- Rounding makes representable floats and infinities. -/
theorem isRounded_round (s : Bool) (num : ℕ) (hd : 0 < den) : (round s num den).IsRounded := by
  by_cases hn : num = 0
  · rw [round, if_pos hn]
    exact isRounded_zero s
  obtain ⟨e, he⟩ : ∃ e, max (Int.log 2 ((num : ℚ) / den) - 52) minExponent = e := ⟨_, rfl⟩
  obtain ⟨hle, hfull⟩ := roundHalfEven_bounds hn hd he
  have hmin : minExponent ≤ e := he ▸ le_max_right _ _
  rw [round_of_exponent hn hd he]
  split_ifs with h53 hmax hmax
  · trivial
  · exact ⟨by decide, by omega, le_of_not_gt hmax, .inl le_rfl⟩
  · trivial
  · exact ⟨lt_of_le_of_ne hle h53, hmin, le_of_not_gt hmax, hfull⟩

theorem isRounded_ofDecimal (s : Bool) (digits : ℕ) (e : ℤ) : (ofDecimal s digits e).IsRounded := by
  rw [ofDecimal]
  split_ifs
  · exact isRounded_zero s
  dsimp only
  split_ifs
  · trivial
  · exact isRounded_zero s
  · exact isRounded_round s _ (Nat.pow_pos (by decide))

/-! ### What rounding leaves as it is -/

/-- The exponent that a representable number is rounded at is its own. -/
theorem Fits.exponent_eq (h : Fits m e) (hm : m ≠ 0) :
    max (Int.log 2 ((m : ℚ) * 2 ^ e) - 52) minExponent = e := by
  have hpos : (0 : ℚ) < m * 2 ^ e := by positivity
  have hlt : Int.log 2 ((m : ℚ) * 2 ^ e) < e + 53 := by
    rw [← Int.lt_zpow_iff_log_lt (by decide) hpos, Nat.cast_ofNat, add_comm,
      zpow_add₀ (by norm_num)]
    gcongr
    exact_mod_cast h.lt
  obtain hfull | hmin := h.full
  · have hle : e + 52 ≤ Int.log 2 ((m : ℚ) * 2 ^ e) := by
      rw [← Int.zpow_le_iff_le_log (by decide) hpos, Nat.cast_ofNat, add_comm,
        zpow_add₀ (by norm_num)]
      gcongr
      exact_mod_cast hfull
    have := h.le
    omega
  · omega

/-- A quotient that is representable is rounded to itself. -/
theorem round_of_fits (h : Fits m e) (hm : m ≠ 0) (hd : 0 < den)
    (hq : (num : ℚ) / den = m * 2 ^ e) (s : Bool) : round s num den = .finite s m e := by
  have hn : num ≠ 0 := by
    rintro rfl
    have hpos : (0 : ℚ) < m * 2 ^ e := by positivity
    rw [Nat.cast_zero, zero_div] at hq
    exact hpos.ne hq
  have hunit : 0 < den * twoTo e := Nat.mul_pos hd (twoTo_pos e)
  rw [round_of_exponent hn hd (hq ▸ h.exponent_eq hm), (div_eq_mul_zpow_iff hd).1 hq,
    roundHalfEven_mul m hunit, if_neg h.lt.ne, if_neg (not_lt_of_ge h.le_max)]

/-! ### The difference of zero and a float -/

/-- The sum of zero and a number, in units of both exponents. -/
theorem fraction_zero_add (f : ℤ) (s : Bool) (m : ℕ) (e : ℤ) :
    (fraction false 0 f).1 * (fraction s m e).2 + (fraction s m e).1 * (fraction false 0 f).2 =
      if s then -((m * twoTo e * twoTo (-f) : ℕ) : ℤ) else (m * twoTo e * twoTo (-f) : ℕ) := by
  cases s <;> simp [fraction]

/-- Zero and a number make that number, rounded, but for the sign of another zero. -/
theorem zero_add_finite (f : ℤ) (s : Bool) (m : ℕ) (e : ℤ) :
    (finite false 0 f).add (.finite s m e) =
      if m = 0 then zero false
      else round s (m * twoTo e * twoTo (-f)) (twoTo (-f) * twoTo (-e)) := by
  have hzero : m * twoTo e * twoTo (-f) = 0 ↔ m = 0 := by
    rw [Nat.mul_eq_zero, Nat.mul_eq_zero, or_iff_left (twoTo_pos _).ne',
      or_iff_left (twoTo_pos _).ne']
  rw [add]
  dsimp only
  rw [fraction_zero_add]
  simp only [← hzero]
  generalize m * twoTo e * twoTo (-f) = n
  rcases n.eq_zero_or_pos with rfl | hn
  · cases s <;> rfl
  · have hle : ¬(n : ℤ) < 0 := by omega
    cases s with
    | false => simp [fraction, hn.ne', hle]
    | true => simp [fraction, hn.ne', hn]

/-- The difference of zero and a float that was rounded is the float with the other sign, but
    for the sign of a zero. -/
theorem zero_sub_of_isRounded (h : x.IsRounded) :
    (zero false).sub x = if x.isZero then zero false else x.neg := by
  cases x with
  | nan => exact h.elim
  | infinity => rfl
  | finite s m e =>
    have hq (f : ℤ) : ((m * twoTo e * twoTo (-f) : ℕ) : ℚ) / (twoTo (-f) * twoTo (-e) : ℕ) =
        m * 2 ^ e := by
      have hf : (twoTo (-f) : ℚ) ≠ 0 := Nat.cast_ne_zero.2 (twoTo_pos _).ne'
      have he : (twoTo (-e) : ℚ) ≠ 0 := Nat.cast_ne_zero.2 (twoTo_pos _).ne'
      rw [Nat.cast_mul, Nat.cast_mul, Nat.cast_mul, cast_twoTo e]
      field_simp
    have hunit (f : ℤ) : 0 < twoTo (-f) * twoTo (-e) := Nat.mul_pos (twoTo_pos _) (twoTo_pos _)
    rw [sub, neg, zero, zero_add_finite]
    by_cases hm : m = 0
    · rw [if_pos hm, if_pos (by simp [isZero, hm])]
      rfl
    · rw [if_neg hm, if_neg (by simp [isZero, hm]), round_of_fits h hm (hunit _) (hq _)]

end Binary64

namespace Number

variable {x : Binary64}

theorem extended_ne_undefined (h : x.IsRounded) : (float x).extended ≠ .undefined := by
  cases x with
  | nan => exact h.elim
  | infinity s => cases s <;> nofun
  | finite => nofun

theorem extended_of_isZero (h : x.isZero = true) : (float x).extended = .rational 0 := by
  cases x with
  | nan | infinity => cases h
  | finite s m e =>
    obtain rfl : m = 0 := by simpa [Binary64.isZero] using h
    have hrat : Binary64.rat s 0 e = 0 := by simp [Binary64.rat, Binary64.fraction]
    rw [extended, hrat]

theorem equals_of_extended {a b : Number} (h : a.extended = b.extended)
    (ha : a.extended ≠ .undefined) : a.equals b = .ok true := by
  rw [equals_eq ha (h ▸ ha), h, decide_eq_true rfl]

/-- The difference of zero and a float that was rounded equals the float with the other sign. -/
theorem exists_apply_sub_zero (h : x.IsRounded) :
    ∃ n, (int 0).apply .sub (.float x) = .ok n ∧ (float x.neg).equals n = .ok true := by
  have hsub : (int 0).apply .sub (.float x) = .ok (.float ((Binary64.zero false).sub x)) := rfl
  refine ⟨_, hsub, equals_of_extended ?_ (extended_ne_undefined h.neg)⟩
  rw [Binary64.zero_sub_of_isRounded h]
  split_ifs with hz
  · -- Zeros are equal, whatever their signs are.
    have hneg : x.neg.isZero = true := by
      cases x with
      | nan | infinity => cases hz
      | finite => exact hz
    rw [extended_of_isZero hneg, extended_of_isZero rfl]
  · rfl

end Number

end ControlBreak
