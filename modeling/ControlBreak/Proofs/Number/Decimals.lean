import ControlBreak.Proofs.Number.Comparison
import ControlBreak.Proofs.Number.Range
import Mathlib

/-!
# Operations on decimals

Whether an operation on finite decimals has a result is told by their exact values alone. Neither
of two shortcuts changes it: not the digit that a sum takes in place of a part far below it, and
not the one that keeps a rounded quotient from looking like a tie. The limit of the range has one
digit more than a result, a five, so that no sum and no quotient crosses it in the digits below.

* `limit_gap`, `nearby_spec`: what a sum takes in place of a part far below it;
* `add_finite_eq_error_iff`, `mul_finite_eq_error_iff`, `div_finite_eq_error_iff`: finite decimals
  have a result unless the exact one is at the limit or beyond;
* `add_eq_error_iff`, `sub_eq_error_iff`, `mul_eq_error_iff`, `div_eq_error_iff`: all decimals, with
  the causes `Lacks`.
-/

namespace ControlBreak

/-- The operation on rationals. -/
def Arithmetic.onRat : Arithmetic → ℚ → ℚ → ℚ
  | .add, p, q => p + q
  | .sub, p, q => p - q
  | .mul, p, q => p * q
  | .div, p, q => p / q

namespace Decimal

variable {c d : ℕ} {e f scale : ℤ} {s t : Bool} {fault : DecimalFault}

/-! ### Exact values -/

/-- The exact value of a finite decimal. -/
def value (s : Bool) (c : ℕ) (e : ℤ) : ℚ :=
  (if s then -(c : ℚ) else c) * 10 ^ e

theorem abs_value (s : Bool) (c : ℕ) (e : ℤ) : |value s c e| = c * 10 ^ e := by
  rw [value, abs_mul, abs_of_pos (zpow_pos ten_pos e)]
  cases s <;> simp

theorem value_zero (s : Bool) (e : ℤ) : value s 0 e = 0 := by
  cases s <;> simp [value]

theorem value_not (s : Bool) (c : ℕ) (e : ℤ) : value (!s) c e = -value s c e := by
  cases s <;> simp [value]

/-- Values of one sign have a positive product. -/
theorem value_mul_value_pos (hc : c ≠ 0) (hd : d ≠ 0) (s : Bool) (e f : ℤ) :
    0 < value s c e * value s d f := by
  have hc : (0 : ℚ) < c := Nat.cast_pos.2 (Nat.pos_of_ne_zero hc)
  have hd : (0 : ℚ) < d := Nat.cast_pos.2 (Nat.pos_of_ne_zero hd)
  have he : (0 : ℚ) < 10 ^ e := zpow_pos ten_pos e
  have hf : (0 : ℚ) < 10 ^ f := zpow_pos ten_pos f
  cases s
  · exact mul_pos (mul_pos hc he) (mul_pos hd hf)
  · exact mul_pos_of_neg_of_neg (mul_neg_of_neg_of_pos (neg_neg_of_pos hc) he)
      (mul_neg_of_neg_of_pos (neg_neg_of_pos hd) hf)

theorem scaled_mul_zpow (h : scale ≤ e) (s : Bool) (c : ℕ) :
    (scaled s c e scale : ℚ) * 10 ^ scale = value s c e := by
  have hten : (tenTo (e - scale) : ℚ) * 10 ^ scale = 10 ^ e := by
    rw [← tenTo_sub_mul_zpow_min e scale, min_eq_right h]
  rw [scaled, value, ← hten]
  by_cases hc : c = 0
  · cases s <;> simp [hc]
  · cases s <;> simp [hc, mul_assoc]

/-! ### Sums -/

/-- The digits of the limit, one more than a result keeps. -/
def limitDigits : ℕ := 10 ^ (precision + 1) - 5

theorem limit_eq : limit = limitDigits * 10 ^ (maxExponent - precision) := by
  rw [limit, add_sub_right_comm, zpow_add_one₀ ten_pos.ne']
  norm_num [limitDigits, precision]
  ring

/-- Of two numbers one is above the other by a unit of the lower exponent, unless they are
    equal. -/
theorem mul_zpow_gap (a b : ℕ) (e f : ℤ) : (a : ℚ) * 10 ^ e = b * 10 ^ f ∨
    (a : ℚ) * 10 ^ e + 10 ^ min e f ≤ b * 10 ^ f ∨
      (b : ℚ) * 10 ^ f + 10 ^ min e f ≤ a * 10 ^ e := by
  have hunit : (0 : ℚ) ≤ 10 ^ min e f := (zpow_pos ten_pos _).le
  have ha : (a : ℚ) * 10 ^ e = (a * tenTo (e - f) : ℕ) * 10 ^ min e f := by
    rw [Nat.cast_mul, mul_assoc, tenTo_sub_mul_zpow_min]
  have hb : (b : ℚ) * 10 ^ f = (b * tenTo (f - e) : ℕ) * 10 ^ min e f := by
    rw [Nat.cast_mul, mul_assoc, min_comm, tenTo_sub_mul_zpow_min]
  rw [ha, hb, ← add_one_mul, ← add_one_mul]
  rcases Nat.lt_trichotomy (a * tenTo (e - f)) (b * tenTo (f - e)) with h | h | h
  · exact .inr (.inl (mul_le_mul_of_nonneg_right (by exact_mod_cast h) hunit))
  · exact .inl (by rw [h])
  · exact .inr (.inr (mul_le_mul_of_nonneg_right (by exact_mod_cast h) hunit))

/-- What counts as far below the digits of a sum does not reach from a number to the limit. -/
theorem limit_gap (hd : d ≠ 0) {least : ℤ} (hless : least < f)
    (hlead : least + precision < leadingExponent d f) :
    (d : ℚ) * 10 ^ f = limit ∨ (d : ℚ) * 10 ^ f + 10 ^ least < limit ∨
      limit + 10 ^ least < d * 10 ^ f := by
  rcases lt_or_ge maxExponent (leadingExponent d f) with hgt | hle
  · -- Beyond the greatest leading exponent the last digit of the limit, a five, is more.
    have hunit : (0 : ℚ) < 10 ^ (leadingExponent d f - precision - 1) := zpow_pos ten_pos _
    have hpow : (10 : ℚ) ^ leadingExponent d f =
        10 ^ (precision + 1) * 10 ^ (leadingExponent d f - precision - 1) := by
      rw [← zpow_natCast, ← zpow_add₀ ten_pos.ne']
      push_cast
      congr 1
      ring
    refine .inr (.inr ?_)
    calc limit + 10 ^ least
        ≤ limitDigits * 10 ^ (leadingExponent d f - precision - 1) +
            10 ^ (leadingExponent d f - precision - 1) := by
          rw [limit_eq]
          exact add_le_add (mul_le_mul_of_nonneg_left
            (zpow_le_zpow_right₀ (by norm_num) (by omega)) (Nat.cast_nonneg _))
            (zpow_le_zpow_right₀ (by norm_num) (by omega))
      _ < 10 ^ (precision + 1) * 10 ^ (leadingExponent d f - precision - 1) := by
          rw [← add_one_mul]
          exact mul_lt_mul_of_pos_right (by norm_num [limitDigits, precision]) hunit
      _ = 10 ^ leadingExponent d f := hpow.symm
      _ ≤ d * 10 ^ f := (mul_zpow_bounds hd f).1
  · have hlt : (10 : ℚ) ^ least < 10 ^ min f (maxExponent - precision) :=
      zpow_lt_zpow_right₀ (by norm_num) (by omega)
    rw [limit_eq]
    rcases mul_zpow_gap d limitDigits f (maxExponent - precision) with h | h | h
    · exact .inl h
    · exact .inr (.inl (by linarith))
    · exact .inr (.inr (by linarith))

/-- Where two small numbers of one sign do not reach to the limit, it is all the same which of
    them is added. -/
theorem limit_le_abs_add_iff {x u v r : ℚ}
    (hgap : |x| = limit ∨ |x| + r < limit ∨ limit + r < |x|) (hr : r ≤ |x|)
    (hu : |u| ≤ r) (hv : |v| ≤ r) (huv : 0 < u * v) : limit ≤ |x + u| ↔ limit ≤ |x + v| := by
  have hreach : ∀ w : ℚ, |w| ≤ r → |x| - r ≤ |x + w| ∧ |x + w| ≤ |x| + r := by
    intro w hw
    have hlow := abs_sub_abs_le_abs_sub x (-w)
    rw [abs_neg, sub_neg_eq_add] at hlow
    exact ⟨by linarith, (abs_add_le x w).trans (by linarith)⟩
  rcases hgap with hx | hx | hx
  · -- At the limit the sign decides.
    have hne : 0 < |x| := hx ▸ limit_pos
    have hside : ∀ w : ℚ, |w| ≤ r → (limit ≤ |x + w| ↔ 0 ≤ x * w) := by
      intro w hw
      have hw := abs_le.1 (hw.trans hr)
      rcases le_total 0 x with hsign | hsign
      · rw [abs_of_nonneg hsign] at hw hx hne
        rw [← hx, abs_of_nonneg (by linarith), le_add_iff_nonneg_right,
          mul_nonneg_iff_of_pos_left hne]
      · rw [abs_of_nonpos hsign] at hw hx hne
        rw [← hx, abs_of_nonpos (by linarith), neg_add, le_add_iff_nonneg_right, ← neg_mul_neg,
          mul_nonneg_iff_of_pos_left hne]
    have hsame : 0 ≤ x * u ↔ 0 ≤ x * v := by
      rcases mul_pos_iff.1 huv with ⟨hu, hv⟩ | ⟨hu, hv⟩
      · rw [mul_nonneg_iff_of_pos_right hu, mul_nonneg_iff_of_pos_right hv]
      · rw [← neg_mul_neg, ← neg_mul_neg x v, mul_nonneg_iff_of_pos_right (neg_pos.2 hu),
          mul_nonneg_iff_of_pos_right (neg_pos.2 hv)]
    rw [hside u hu, hside v hv, hsame]
  · exact iff_of_false (by linarith [(hreach u hu).2]) (by linarith [(hreach v hv).2])
  · exact iff_of_true (by linarith [(hreach u hu).1]) (by linarith [(hreach v hv).1])

/-- A part that is brought near is still below the other one, and leaves the sum on the same side
    of the limit. -/
theorem nearby_spec (h : f < e) (s t : Bool) : (nearby c e d f).2 < e ∧
    (limit ≤ |value s c e + value t (nearby c e d f).1 (nearby c e d f).2| ↔
      limit ≤ |value s c e + value t d f|) := by
  rw [nearby]
  split_ifs with hc hd hfar
  · exact ⟨h, Iff.rfl⟩
  · refine ⟨by simp only [precision]; omega, ?_⟩
    rw [hd, value_zero, value_zero]
  · have hdigits := digitCount_pos c
    have hlead : leadingExponent c e = e + digitCount c - 1 := rfl
    have hless : e + min (-1) ((digitCount c : ℤ) - precision - 2) < e := by omega
    refine ⟨hless, ?_⟩
    generalize hleast : e + min (-1) ((digitCount c : ℤ) - precision - 2) = least at *
    refine limit_le_abs_add_iff (r := 10 ^ least) ?_ ?_ ?_ ?_ (value_mul_value_pos one_ne_zero hd ..)
    · rw [abs_value]
      exact limit_gap hc hless (by omega)
    · rw [abs_value]
      exact (zpow_le_zpow_right₀ (by norm_num) (by omega)).trans (mul_zpow_bounds hc e).1
    · rw [abs_value, Nat.cast_one, one_mul]
    · rw [abs_value]
      exact (mul_zpow_bounds hd f).2.le.trans (zpow_le_zpow_right₀ (by norm_num) hfar)
  · exact ⟨h, Iff.rfl⟩

theorem fit_sum_eq_error_iff (negative : Bool) (he : scale ≤ e) (hf : scale ≤ f) :
    fit negative (scaled s c e scale + scaled t d f scale).natAbs scale = .error fault ↔
      fault = .tooLarge ∧ limit ≤ |value s c e + value t d f| := by
  have hsum : ((scaled s c e scale + scaled t d f scale).natAbs : ℚ) * 10 ^ scale =
      |value s c e + value t d f| := by
    rw [← scaled_mul_zpow he, ← scaled_mul_zpow hf, ← add_mul, abs_mul,
      abs_of_pos (zpow_pos ten_pos scale), Nat.cast_natAbs, Int.cast_abs, Int.cast_add]
  rw [fit_eq_error_iff, hsum]

/-- The sum of finite decimals is too large exactly if the exact sum is. -/
theorem add_finite_eq_error_iff : add (.finite s c e) (.finite t d f) = .error fault ↔
    fault = .tooLarge ∧ limit ≤ |value s c e + value t d f| := by
  rw [add]
  simp only [undefined?]
  rcases lt_trichotomy e f with h | rfl | h
  · obtain ⟨hless, hside⟩ := nearby_spec (c := d) (d := c) h t s
    rw [if_pos h, if_neg hless.not_gt, fit_sum_eq_error_iff _ (min_le_left _ _) (min_le_right _ _),
      add_comm (value s _ _), hside, add_comm (value t _ _)]
  · rw [if_neg (lt_irrefl _), if_neg (lt_irrefl _),
      fit_sum_eq_error_iff _ (min_le_left _ _) (min_le_right _ _)]
  · obtain ⟨hless, hside⟩ := nearby_spec (c := c) (d := d) h s t
    rw [if_neg h.not_gt]
    simp only [if_pos h]
    rw [fit_sum_eq_error_iff _ (min_le_left _ _) (min_le_right _ _), hside]

/-! ### Products and quotients -/

/-- The product of finite decimals is too large exactly if the exact product is. -/
theorem mul_finite_eq_error_iff : mul (.finite s c e) (.finite t d f) = .error fault ↔
    fault = .tooLarge ∧ limit ≤ |value s c e * value t d f| := by
  rw [mul]
  simp only [undefined?]
  rw [fit_eq_error_iff, abs_mul, abs_value, abs_value, mul_mul_mul_comm,
    ← zpow_add₀ ten_pos.ne', Nat.cast_mul]

/-- Zeros that are taken off the end do not change the value. -/
theorem trimTo_mul_zpow (ideal : ℤ) (c : ℕ) (e : ℤ) (left : ℕ) :
    ((trimTo ideal c e left).1 : ℚ) * 10 ^ (trimTo ideal c e left).2 = c * 10 ^ e := by
  induction left generalizing c e with
  | zero => rfl
  | succ left ih =>
    rw [trimTo]
    split_ifs with h
    · have hc : c = c / 10 * 10 := (Nat.div_mul_cancel (Nat.dvd_of_mod_eq_zero h.2)).symm
      rw [ih, hc, Nat.mul_div_cancel _ (by decide), zpow_add_one₀ ten_pos.ne']
      push_cast
      ring
    · rfl

theorem div_tenTo (c d : ℕ) (k : ℤ) :
    ((c * tenTo k : ℕ) : ℚ) / (d * tenTo (-k) : ℕ) = c / d * 10 ^ k := by
  have hpos : (0 : ℚ) < tenTo (-k) := Nat.cast_pos.2 (Nat.pow_pos (by decide))
  have hten : (tenTo k : ℚ) = 10 ^ k * tenTo (-k) := by
    have hk := tenTo_sub_mul_zpow_min k 0
    have hneg := tenTo_sub_mul_zpow_min 0 k
    rw [sub_zero] at hk
    rw [zero_sub, zpow_zero, min_comm] at hneg
    rw [← hk, mul_assoc, mul_comm _ (tenTo (-k) : ℚ), hneg, mul_one]
  rw [Nat.cast_mul, Nat.cast_mul, hten, ← mul_assoc, mul_div_mul_right _ _ hpos.ne',
    mul_div_right_comm]

/-- The digit that is put below a quotient does not bring it to the limit, which is a multiple of
    five as far as a quotient has digits near it. -/
theorem limit_le_quotient_iff {num den : ℕ} (hd : 0 < den) (hq : 10 ^ precision ≤ num / den)
    (e : ℤ) : limit ≤ ((if num / den % 5 = 0 then num / den + 1 else num / den : ℕ) : ℚ) * 10 ^ e ↔
      limit ≤ (num : ℚ) / den * 10 ^ e := by
  have hunit : (0 : ℚ) < 10 ^ e := zpow_pos ten_pos e
  rcases le_or_gt e (maxExponent - precision) with hle | hgt
  · obtain ⟨k, hk⟩ := Int.le.dest hle
    have hlimit : limit = (limitDigits * 10 ^ k : ℕ) * 10 ^ e := by
      rw [limit_eq, ← hk, zpow_add₀ ten_pos.ne', zpow_natCast]
      push_cast
      ring
    have hfive : limitDigits * 10 ^ k % 5 = 0 := by
      rw [Nat.mul_mod, show limitDigits % 5 = 0 by decide, Nat.zero_mul, Nat.zero_mod]
    rw [hlimit, mul_le_mul_iff_left₀ hunit, mul_le_mul_iff_left₀ hunit, Nat.cast_le,
      le_div_iff₀ (Nat.cast_pos.2 hd), ← Nat.cast_mul, Nat.cast_le, ← Nat.le_div_iff_mul_le hd]
    generalize limitDigits * 10 ^ k = l at *
    split_ifs <;> omega
  · have hbig : ∀ q : ℚ, 10 ^ precision ≤ q → limit ≤ q * 10 ^ e := by
      intro q hq
      calc limit ≤ 10 ^ (maxExponent + 1) := limit_bounds.2.le
        _ = 10 ^ precision * 10 ^ (maxExponent - precision + 1) := by
          rw [← zpow_natCast, ← zpow_add₀ ten_pos.ne', ← add_assoc, add_sub_cancel]
        _ ≤ 10 ^ precision * 10 ^ e :=
          mul_le_mul_of_nonneg_left (zpow_le_zpow_right₀ (by norm_num) hgt)
            (pow_pos ten_pos _).le
        _ ≤ q * 10 ^ e := mul_le_mul_of_nonneg_right hq hunit.le
    refine iff_of_true (hbig _ ?_) (hbig _ ?_)
    · refine le_trans (b := ((num / den : ℕ) : ℚ)) (by exact_mod_cast hq) (Nat.cast_le.2 ?_)
      split_ifs <;> omega
    · exact (by exact_mod_cast hq : (10 : ℚ) ^ precision ≤ (num / den : ℕ)).trans Nat.cast_div_le

/-- The quotient of finite decimals is too large exactly if the exact quotient is. -/
theorem div_finite_eq_error_iff (hd : d ≠ 0) : div (.finite s c e) (.finite t d f) = .error fault ↔
    fault = .tooLarge ∧ limit ≤ |value s c e / value t d f| := by
  have habs : |value s c e / value t d f| = c / d * 10 ^ (e - f) := by
    rw [abs_div, abs_value, abs_value, mul_div_mul_comm, ← zpow_sub₀ ten_pos.ne']
  rw [habs, div]
  simp only [undefined?, if_neg hd]
  by_cases hc : c = 0
  · rw [if_pos hc, fit_eq_error_iff, hc, Nat.cast_zero, zero_mul, zero_div, zero_mul]
  rw [if_neg hc]
  generalize hshift : (digitCount d : ℤ) - digitCount c + precision + 1 = shift
  have hden : 0 < d * tenTo (-shift) :=
    Nat.mul_pos (Nat.pos_of_ne_zero hd) (Nat.pow_pos (by decide))
  have hquot := div_tenTo c d shift
  have hexact : (c : ℚ) / d * 10 ^ (e - f) =
      ((c * tenTo shift : ℕ) : ℚ) / (d * tenTo (-shift) : ℕ) * 10 ^ (e - f - shift) := by
    rw [hquot, mul_assoc, ← zpow_add₀ ten_pos.ne', add_sub_cancel]
  rw [hexact]
  by_cases hrest : c * tenTo shift % (d * tenTo (-shift)) = 0
  · rw [if_pos hrest, fit_eq_error_iff, trimTo_mul_zpow, Nat.cast_div (Nat.dvd_of_mod_eq_zero hrest)
      (Nat.cast_ne_zero.2 hden.ne')]
  · -- The dividend was given so many digits that the quotient has one more than it keeps.
    have hfull : 10 ^ precision ≤ c * tenTo shift / (d * tenTo (-shift)) := by
      have hlt : (d : ℚ) * 10 ^ (precision : ℤ) < c * 10 ^ shift :=
        mul_zpow_lt_of_digitCount hc (by omega)
      rw [Nat.le_div_iff_mul_le hden, ← Nat.cast_le (α := ℚ), Nat.cast_mul,
        ← le_div_iff₀ (Nat.cast_pos.2 hden), hquot, div_mul_eq_mul_div,
        le_div_iff₀ (Nat.cast_pos.2 (Nat.pos_of_ne_zero hd)), mul_comm]
      rw [zpow_natCast] at hlt
      exact_mod_cast hlt.le
    rw [if_neg hrest, fit_eq_error_iff, limit_le_quotient_iff hden hfull]

/-! ### All decimals -/

/-- Why an operation on two decimals has no result. -/
inductive Lacks : Arithmetic → Decimal → Decimal → DecimalFault → Prop
  | signaling_left {o : Arithmetic} {s : Bool} {p : ℕ} {m : Mark} {y : Decimal} :
    Lacks o (.nan s true p m) y .invalid
  | signaling_right {o : Arithmetic} {x : Decimal} {s : Bool} {p : ℕ} {m : Mark} :
    Lacks o x (.nan s true p m) .invalid
  | opposite_infinities {s t : Bool} (h : s ≠ t) : Lacks .add (.infinity s) (.infinity t) .invalid
  | same_infinities {s t : Bool} (h : s = t) : Lacks .sub (.infinity s) (.infinity t) .invalid
  | infinity_mul_zero {s t : Bool} {e : ℤ} : Lacks .mul (.infinity s) (.finite t 0 e) .invalid
  | zero_mul_infinity {s t : Bool} {e : ℤ} : Lacks .mul (.finite s 0 e) (.infinity t) .invalid
  | two_infinities {s t : Bool} : Lacks .div (.infinity s) (.infinity t) .invalid
  /-- The exact result is beyond the range. -/
  | tooLarge {o : Arithmetic} {s t : Bool} {c d : ℕ} {e f : ℤ}
    (h : limit ≤ |o.onRat (value s c e) (value t d f)|) :
    Lacks o (.finite s c e) (.finite t d f) .tooLarge

variable {o : Arithmetic} {x y : Decimal}

/-- Of finite decimals only the exact result counts. -/
theorem lacks_finite_iff : Lacks o (.finite s c e) (.finite t d f) fault ↔
    fault = .tooLarge ∧ limit ≤ |o.onRat (value s c e) (value t d f)| := by
  constructor
  · intro h
    cases h with
    | tooLarge h => exact ⟨rfl, h⟩
  · rintro ⟨rfl, h⟩
    exact .tooLarge h

/-- Of a decimal that is not a number only its signaling counts. -/
theorem lacks_iff_of_undefined? {r : Except DecimalFault Decimal} (h : undefined? x y = some r) :
    r = .error fault ↔ Lacks o x y fault := by
  rw [undefined?.eq_def] at h
  split at h
  · cases h
    refine ⟨fun h => ?_, fun h => ?_⟩
    · cases h
      exact .signaling_left
    · cases h <;> rfl
  · cases h
    refine ⟨fun h => ?_, fun h => ?_⟩
    · cases h
      exact .signaling_right
    · cases h <;> rfl
  · cases h
    refine iff_of_false (by simp) fun h => ?_
    cases h
    simp_all
  · cases h
    refine iff_of_false (by simp) fun h => ?_
    cases h
    simp_all
  · cases h

/-- Two decimals are numbers or have an outcome that is not. -/
theorem numbers_of_undefined? (h : undefined? x y = none) :
    ((∃ s c e, x = .finite s c e) ∨ ∃ s, x = .infinity s) ∧
      ((∃ s c e, y = .finite s c e) ∨ ∃ s, y = .infinity s) := by
  obtain ⟨hx, hy⟩ := isNaN_of_undefined? h
  constructor
  · cases x with
    | nan => cases hx
    | finite s c e => exact .inl ⟨s, c, e, rfl⟩
    | infinity s => exact .inr ⟨s, rfl⟩
  · cases y with
    | nan => cases hy
    | finite s c e => exact .inl ⟨s, c, e, rfl⟩
    | infinity s => exact .inr ⟨s, rfl⟩

theorem add_eq_error_iff : add x y = .error fault ↔ Lacks .add x y fault := by
  cases hu : undefined? x y with
  | some r => rw [add.eq_def, hu, lacks_iff_of_undefined? hu]
  | none =>
    obtain ⟨⟨s, c, e, rfl⟩ | ⟨s, rfl⟩, ⟨t, d, f, rfl⟩ | ⟨t, rfl⟩⟩ := numbers_of_undefined? hu
    · rw [add_finite_eq_error_iff, lacks_finite_iff, Arithmetic.onRat]
    · constructor <;> intro h <;> cases h
    · constructor <;> intro h <;> cases h
    · rw [add.eq_def, hu]
      dsimp only
      split_ifs with h
      · refine iff_of_false (by simp) fun hl => ?_
        cases hl with
        | opposite_infinities hne => exact hne h
      · refine ⟨fun he => ?_, fun hl => ?_⟩
        · cases he
          exact .opposite_infinities h
        · cases hl
          rfl

theorem sub_eq_error_iff : sub x y = .error fault ↔ Lacks .sub x y fault := by
  cases hu : undefined? x y with
  | some r => rw [sub, hu, lacks_iff_of_undefined? hu]
  | none =>
    rw [sub, hu]
    dsimp only
    obtain ⟨⟨s, c, e, rfl⟩ | ⟨s, rfl⟩, ⟨t, d, f, rfl⟩ | ⟨t, rfl⟩⟩ := numbers_of_undefined? hu
    · rw [neg, add_finite_eq_error_iff, lacks_finite_iff, Arithmetic.onRat, value_not,
        ← sub_eq_add_neg]
    · constructor <;> intro h <;> cases h
    · constructor <;> intro h <;> cases h
    · rw [neg, add_eq_error_iff]
      refine ⟨fun hl => ?_, fun hl => ?_⟩
      · cases hl with
        | opposite_infinities hne => exact .same_infinities (by simpa using hne)
      · cases hl with
        | same_infinities heq => exact .opposite_infinities (by simp [heq])

theorem mul_eq_error_iff : mul x y = .error fault ↔ Lacks .mul x y fault := by
  cases hu : undefined? x y with
  | some r => rw [mul.eq_def, hu, lacks_iff_of_undefined? hu]
  | none =>
    obtain ⟨⟨s, c, e, rfl⟩ | ⟨s, rfl⟩, ⟨t, d, f, rfl⟩ | ⟨t, rfl⟩⟩ := numbers_of_undefined? hu
    · rw [mul_finite_eq_error_iff, lacks_finite_iff, Arithmetic.onRat]
    · rw [mul.eq_def, hu]
      dsimp only
      split_ifs with h
      · subst h
        refine ⟨fun he => ?_, fun hl => ?_⟩
        · cases he
          exact .zero_mul_infinity
        · cases hl
          rfl
      · refine iff_of_false (by simp) fun hl => ?_
        cases hl
        exact h rfl
    · rw [mul.eq_def, hu]
      dsimp only
      split_ifs with h
      · subst h
        refine ⟨fun he => ?_, fun hl => ?_⟩
        · cases he
          exact .infinity_mul_zero
        · cases hl
          rfl
      · refine iff_of_false (by simp) fun hl => ?_
        cases hl
        exact h rfl
    · constructor <;> intro h <;> cases h

theorem div_eq_error_iff (hy : y.isZero = false) :
    div x y = .error fault ↔ Lacks .div x y fault := by
  cases hu : undefined? x y with
  | some r => rw [div.eq_def, hu, lacks_iff_of_undefined? hu]
  | none =>
    obtain ⟨⟨s, c, e, rfl⟩ | ⟨s, rfl⟩, ⟨t, d, f, rfl⟩ | ⟨t, rfl⟩⟩ := numbers_of_undefined? hu
    · have hd : d ≠ 0 := by simpa [isZero] using hy
      rw [div_finite_eq_error_iff hd, lacks_finite_iff, Arithmetic.onRat]
    · constructor <;> intro h <;> cases h
    · constructor <;> intro h <;> cases h
    · refine ⟨fun he => ?_, fun hl => ?_⟩
      · cases he
        exact .two_infinities
      · cases hl
        rfl

end Decimal

end ControlBreak
