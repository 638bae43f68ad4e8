import ControlBreak.Proofs.Number.Representable
import Mathlib

/-!
# The range of results

What is too large for a float, or for a decimal, is told by the exact value alone, before it is
rounded. The bound is half a unit of the last place above the greatest number of the kind. The
greatest significand is odd, so at the bound itself the tie already goes to what is too large.
At the other end a quotient is rounded to zero up to half of the least float, a tie included,
since zero is even.

* `lt_roundHalfEven_iff`, `roundHalfEven_eq_zero_iff`: where rounding passes an odd number, and
  where it leaves nothing;
* `Binary64.round_eq_infinity_iff`, `Binary64.isZero_round_iff`: the ends of the floats;
* `Decimal.fit_eq_error_iff`: the end of the decimals. Only at the greatest leading exponent does
  it depend on the digits that are rounded.
-/

namespace ControlBreak

/-! ### Ties -/

/-- Rounding goes beyond an odd number from half a unit above it on. -/
theorem lt_roundHalfEven_iff {num den q : ℕ} (hd : 0 < den) (hq : q % 2 = 1) :
    q < roundHalfEven num den ↔ (2 * q + 1) * den ≤ 2 * num := by
  have hlow := div_le_roundHalfEven num den
  have hhigh := roundHalfEven_le num den
  have hnum := Nat.div_add_mod num den
  have hmod := Nat.mod_lt num hd
  rcases Nat.lt_trichotomy (num / den) q with h | h | h
  · have hle : den * (num / den + 1) ≤ den * q := Nat.mul_le_mul_left den h
    refine iff_of_false (by omega) ?_
    rw [Nat.add_mul, Nat.mul_assoc, Nat.mul_comm q]
    rw [Nat.mul_add] at hle
    omega
  · subst h
    have hunit : (2 * (num / den) + 1) * den = 2 * (den * (num / den)) + den := by ring
    rw [hunit]
    simp only [roundHalfEven]
    split_ifs <;> omega
  · have hle : den * (q + 1) ≤ den * (num / den) := Nat.mul_le_mul_left den h
    refine iff_of_true (by omega) ?_
    rw [Nat.add_mul, Nat.mul_assoc, Nat.mul_comm q]
    rw [Nat.mul_add] at hle
    omega

/-- Rounding leaves nothing of up to half a unit. -/
theorem roundHalfEven_eq_zero_iff {num den : ℕ} (hd : 0 < den) :
    roundHalfEven num den = 0 ↔ 2 * num ≤ den := by
  have hlow := div_le_roundHalfEven num den
  rcases (num / den).eq_zero_or_pos with h | h
  · have hnum : num % den = num := Nat.mod_eq_of_lt (Nat.lt_of_div_eq_zero hd h)
    simp only [roundHalfEven, h, hnum]
    split_ifs with hlt hgt
    · exact iff_of_true rfl hlt.le
    · exact iff_of_false id (not_le_of_gt hgt)
    · exact iff_of_true rfl (not_lt.1 hgt)
  · have hle : den ≤ num := (Nat.div_pos_iff.1 h).2
    exact iff_of_false (h.trans_le hlow).ne' (by omega)

namespace Binary64

variable {num den : ℕ} {e : ℤ}

/-! ### Floats -/

theorem abs_intCast_div_natCast (n : ℤ) (den : ℕ) : |(n : ℚ) / den| = n.natAbs / den := by
  rw [abs_div, Nat.abs_cast, Nat.cast_natAbs, Int.cast_abs]

/-- The least magnitude that is too large for a float. -/
def limit : ℚ := (2 ^ 53 - 1 / 2) * 2 ^ maxExponent

theorem limit_pos : 0 < limit :=
  mul_pos (by norm_num) (zpow_pos two_pos _)

/-- Below the greatest exponent nothing is too large, and above it everything is. -/
theorem limit_bounds : 2 ^ 52 * 2 ^ maxExponent < limit ∧ limit < 2 ^ 53 * 2 ^ maxExponent :=
  ⟨mul_lt_mul_of_pos_right (by norm_num) (zpow_pos two_pos _),
    mul_lt_mul_of_pos_right (by norm_num) (zpow_pos two_pos _)⟩

/-- What vanishes is not too large. -/
theorem zpow_lt_limit : (2 : ℚ) ^ (minExponent - 1) < limit := by
  refine lt_of_le_of_lt ?_ limit_bounds.1
  calc (2 : ℚ) ^ (minExponent - 1) ≤ 2 ^ maxExponent :=
        zpow_le_zpow_right₀ one_le_two (by decide)
    _ ≤ 2 ^ 52 * 2 ^ maxExponent := le_mul_of_one_le_left (zpow_pos two_pos _).le (by norm_num)

theorem div_lt_limit (he : max (Int.log 2 ((num : ℚ) / den) - 52) minExponent = e)
    (hlt : e < maxExponent) : (num : ℚ) / den < limit :=
  calc (num : ℚ) / den < (2 ^ 53 : ℕ) * 2 ^ e := div_lt_mul_zpow he
    _ ≤ (2 ^ 53 : ℕ) * 2 ^ (maxExponent - 1) :=
      mul_le_mul_of_nonneg_left (zpow_le_zpow_right₀ one_le_two (by omega)) (by positivity)
    _ = 2 ^ 52 * 2 ^ maxExponent := by
      rw [zpow_sub_one₀ two_ne_zero]
      push_cast
      ring
    _ ≤ limit := limit_bounds.1.le

theorem limit_le_div (hn : num ≠ 0) (hd : 0 < den)
    (he : max (Int.log 2 ((num : ℚ) / den) - 52) minExponent = e) (hgt : maxExponent < e) :
    limit ≤ (num : ℚ) / den := by
  have hmin : e ≠ minExponent := (lt_trans (by decide) hgt).ne'
  calc limit ≤ 2 ^ 53 * 2 ^ maxExponent := limit_bounds.2.le
    _ = (2 ^ 52 : ℕ) * 2 ^ (maxExponent + 1) := by
      rw [zpow_add_one₀ two_ne_zero]
      push_cast
      ring
    _ ≤ (2 ^ 52 : ℕ) * 2 ^ e :=
      mul_le_mul_of_nonneg_left (zpow_le_zpow_right₀ one_le_two hgt) (by positivity)
    _ ≤ num / den := (mul_zpow_le_div hn hd he).resolve_right hmin

/-- At the greatest exponent one bit too many is too large. -/
theorem roundHalfEven_eq_iff_limit_le (hd : 0 < den)
    (hbound : roundHalfEven (num * twoTo (-maxExponent)) (den * twoTo maxExponent) ≤ 2 ^ 53) :
    roundHalfEven (num * twoTo (-maxExponent)) (den * twoTo maxExponent) = 2 ^ 53 ↔
      limit ≤ (num : ℚ) / den := by
  have hunit : 0 < den * twoTo maxExponent := Nat.mul_pos hd (twoTo_pos _)
  have hodd : (2 ^ 53 - 1) % 2 = 1 := by decide
  have hlimit : limit ≤ (num : ℚ) / den ↔
      ((2 ^ 54 - 1 : ℕ) : ℚ) * 2 ^ maxExponent ≤ (2 * num : ℕ) / den := by
    rw [limit, ← mul_le_mul_iff_right₀ (two_pos (α := ℚ))]
    push_cast
    rw [← mul_assoc, mul_div_assoc]
    norm_num
  have hunits : 2 ^ 54 - 1 = 2 * (2 ^ 53 - 1) + 1 := by decide
  rw [hlimit, mul_zpow_le_div_iff hd, Nat.mul_assoc 2, hunits, ← lt_roundHalfEven_iff hunit hodd]
  omega

/-- What is too large is rounded to an infinity. -/
theorem round_eq_infinity_iff (hd : 0 < den) (s : Bool) :
    (∃ t, round s num den = .infinity t) ↔ limit ≤ (num : ℚ) / den := by
  by_cases hn : num = 0
  · subst hn
    rw [round, if_pos rfl, Nat.cast_zero, zero_div]
    exact iff_of_false (by simp [zero]) limit_pos.not_ge
  obtain ⟨e, he⟩ : ∃ e, max (Int.log 2 ((num : ℚ) / den) - 52) minExponent = e := ⟨_, rfl⟩
  have hbound := (roundHalfEven_bounds hn hd he).1
  have hround : (∃ t, round s num den = .infinity t) ↔ maxExponent <
      if roundHalfEven (num * twoTo (-e)) (den * twoTo e) = 2 ^ 53 then e + 1 else e := by
    rw [round_of_exponent hn hd he]
    split_ifs <;> simp_all
  rw [hround]
  rcases lt_trichotomy e maxExponent with hlt | rfl | hgt
  · refine iff_of_false ?_ (div_lt_limit he hlt).not_ge
    split_ifs <;> omega
  · rw [← roundHalfEven_eq_iff_limit_le hd hbound]
    split_ifs with h
    · exact iff_of_true (Int.lt_succ _) h
    · exact iff_of_false (lt_irrefl _) h
  · refine iff_of_true ?_ (limit_le_div hn hd he hgt)
    split_ifs <;> omega

/-- What is half of the least float or less is rounded to zero. -/
theorem isZero_round_iff (hd : 0 < den) (s : Bool) :
    (round s num den).isZero = true ↔ (num : ℚ) / den ≤ 2 ^ (minExponent - 1) := by
  by_cases hn : num = 0
  · subst hn
    rw [round, if_pos rfl, Nat.cast_zero, zero_div]
    exact iff_of_true rfl (zpow_pos two_pos _).le
  obtain ⟨e, he⟩ : ∃ e, max (Int.log 2 ((num : ℚ) / den) - 52) minExponent = e := ⟨_, rfl⟩
  have hunit : 0 < den * twoTo e := Nat.mul_pos hd (twoTo_pos e)
  have hround : (round s num den).isZero = true ↔
      roundHalfEven (num * twoTo (-e)) (den * twoTo e) = 0 ∧ e ≤ maxExponent := by
    rw [round_of_exponent hn hd he]
    split_ifs <;> simp_all [isZero]
  have hhalf : 2 * (num * twoTo (-e)) ≤ den * twoTo e ↔ (num : ℚ) / den ≤ 2 ^ (e - 1) := by
    have hpos : (0 : ℚ) < (den * twoTo e : ℕ) := Nat.cast_pos.2 hunit
    have hunits : (num : ℚ) / den ≤ 2 ^ (e - 1) ↔ (num : ℚ) / den / 2 ^ e ≤ 1 / 2 := by
      rw [div_le_iff₀ (zpow_pos two_pos e), zpow_sub_one₀ two_ne_zero, mul_comm, one_div]
    rw [hunits, ← div_twoTo, div_le_div_iff₀ hpos two_pos, one_mul, mul_comm]
    exact_mod_cast Iff.rfl
  rw [hround, roundHalfEven_eq_zero_iff hunit, hhalf]
  rcases mul_zpow_le_div hn hd he with hfull | rfl
  · have hmin : minExponent ≤ e := he ▸ le_max_right _ _
    have hlt : (2 : ℚ) ^ (e - 1) < num / den := by
      refine lt_of_lt_of_le ?_ hfull
      rw [zpow_sub_one₀ two_ne_zero, mul_comm]
      exact mul_lt_mul_of_pos_right (by norm_num) (zpow_pos two_pos e)
    have hle : (2 : ℚ) ^ (minExponent - 1) ≤ 2 ^ (e - 1) :=
      zpow_le_zpow_right₀ one_le_two (by omega)
    exact iff_of_false (fun h => hlt.not_ge h.1) (hle.trans_lt hlt).not_ge
  · exact and_iff_left (by decide)

theorem ofQuotient?_eq_none_iff (n : ℤ) (hd : 0 < den) :
    ofQuotient? n den = none ↔ limit ≤ |(n : ℚ) / den| := by
  rw [abs_intCast_div_natCast, ← round_eq_infinity_iff hd (n < 0), ofQuotient?]
  split <;> simp_all

theorem isZero_of_ofQuotient? {n : ℤ} {x : Binary64} (hd : 0 < den)
    (h : ofQuotient? n den = some x) :
    x.isZero = true ↔ |(n : ℚ) / den| ≤ 2 ^ (minExponent - 1) := by
  rw [abs_intCast_div_natCast, ← isZero_round_iff hd (n < 0)]
  rw [ofQuotient?] at h
  split at h <;> cases h
  rfl

/-- An integer is too large for a float exactly from the limit on. -/
theorem ofInt?_eq_none_iff (n : ℤ) : ofInt? n = none ↔ limit ≤ |(n : ℚ)| := by
  rw [ofInt?, ofQuotient?_eq_none_iff n Nat.one_pos, Nat.cast_one, div_one]

/-- So is a fraction. -/
theorem ofRat?_eq_none_iff (q : ℚ) : ofRat? q = none ↔ limit ≤ |q| := by
  rw [ofRat?, ofQuotient?_eq_none_iff q.num q.den_pos, Rat.num_div_den]

/-- A fraction vanishes among the floats if it is half of the least one or less. -/
theorem isZero_of_ofRat? {q : ℚ} {x : Binary64} (h : ofRat? q = some x) :
    x.isZero = true ↔ |q| ≤ 2 ^ (minExponent - 1) := by
  rw [isZero_of_ofQuotient? q.den_pos h, Rat.num_div_den]

end Binary64

namespace Decimal

/-! ### Decimals -/

/-- The least magnitude that is too large for a decimal. -/
def limit : ℚ := (10 ^ precision - 1 / 2) * 10 ^ (maxExponent + 1 - precision)

theorem ten_pos : (0 : ℚ) < 10 := by norm_num

theorem limit_pos : 0 < limit :=
  mul_pos (by norm_num [precision]) (zpow_pos ten_pos _)

/-- The limit is at the end of the numbers with the greatest leading exponent. -/
theorem limit_bounds : 10 ^ maxExponent < limit ∧ limit < 10 ^ (maxExponent + 1) := by
  have hpow : (10 : ℚ) ^ (maxExponent + 1) =
      10 ^ precision * 10 ^ (maxExponent + 1 - precision) := by
    rw [← zpow_natCast, ← zpow_add₀ ten_pos.ne', add_sub_cancel]
  have hlow : (10 : ℚ) ^ maxExponent = 10 ^ (maxExponent + 1) / 10 := by
    rw [zpow_add_one₀ ten_pos.ne', mul_div_cancel_right₀ _ ten_pos.ne']
  have hpos : (0 : ℚ) < 10 ^ (maxExponent + 1 - precision) := zpow_pos ten_pos _
  rw [hlow, hpow, limit, mul_div_right_comm]
  exact ⟨mul_lt_mul_of_pos_right (by norm_num [precision]) hpos,
    mul_lt_mul_of_pos_right (by norm_num) hpos⟩

variable {c : ℕ} {e : ℤ}

/-- A number lies between the powers of ten of its leading digit. -/
theorem mul_zpow_bounds (hc : c ≠ 0) (e : ℤ) :
    10 ^ leadingExponent c e ≤ (c : ℚ) * 10 ^ e ∧
      (c : ℚ) * 10 ^ e < 10 ^ (leadingExponent c e + 1) := by
  have hdigits := digitCount_pos c
  have hlow : (10 : ℚ) ^ (digitCount c - 1) ≤ c := by exact_mod_cast pow_digitCount_sub_one_le hc
  have hhigh : (c : ℚ) < 10 ^ digitCount c := by exact_mod_cast lt_pow_digitCount c
  constructor
  · calc (10 : ℚ) ^ leadingExponent c e = 10 ^ (digitCount c - 1) * 10 ^ e := by
          rw [← zpow_natCast, ← zpow_add₀ ten_pos.ne', leadingExponent]
          congr 1
          omega
      _ ≤ c * 10 ^ e := mul_le_mul_of_nonneg_right hlow (zpow_pos ten_pos e).le
  · calc (c : ℚ) * 10 ^ e < 10 ^ digitCount c * 10 ^ e :=
          mul_lt_mul_of_pos_right hhigh (zpow_pos ten_pos e)
      _ = 10 ^ (leadingExponent c e + 1) := by
        rw [← zpow_natCast, ← zpow_add₀ ten_pos.ne', leadingExponent]
        congr 1
        omega

/-! #### Below the greatest leading exponent -/

theorem leadingExponent_rounded_le (c : ℕ) (e : ℤ) :
    leadingExponent (rounded c e).1 (rounded c e).2 ≤
      max (leadingExponent c e + 1) minExponent := by
  refine (carried_spec _ _).2.1.trans ?_
  have hc : c ≤ 10 ^ (digitCount c - surplus c e) * 10 ^ surplus c e := by
    rw [← Nat.pow_add]
    exact (lt_pow_digitCount c).le.trans (Nat.pow_le_pow_right (by decide) (by omega))
  have hdigits : digitCount (dropDigits c (surplus c e)) ≤ digitCount c - surplus c e + 1 :=
    (digitCount_le_iff (Nat.succ_pos _)).2
      ((dropDigits_le hc).trans_lt (Nat.pow_lt_pow_succ (by decide)))
  have hs : surplus c e = max (digitCount c - precision) (minExponent - e).toNat := rfl
  rw [leadingExponent, leadingExponent]
  omega

/-! #### At the greatest leading exponent -/

/-- Where a number is not near the least exponent, it loses the digits beyond the precision. -/
theorem surplus_eq (h : maxExponent ≤ leadingExponent c e) :
    surplus c e = digitCount c - precision := by
  simp only [leadingExponent, maxExponent] at h
  simp only [surplus, minExponent, precision]
  omega

/-- A number of few digits is not rounded. -/
theorem rounded_eq_self (h : maxExponent ≤ leadingExponent c e)
    (hp : digitCount c ≤ precision) : rounded c e = (c, e) := by
  have hs : surplus c e = 0 := by
    rw [surplus_eq h]
    omega
  have hdrop : dropDigits c 0 = c := by
    have hone : roundHalfEven (c * 1) 1 = c := roundHalfEven_mul c Nat.one_pos
    rw [dropDigits, if_neg (Nat.not_lt_zero _)]
    rwa [Nat.mul_one] at hone
  rw [rounded, hs, hdrop, carried, if_neg (not_lt_of_ge hp)]
  simp

theorem digitCount_pow (k : ℕ) : digitCount (10 ^ k) = k + 1 := by
  refine le_antisymm ((digitCount_le_iff (Nat.succ_pos k)).2 (Nat.pow_lt_pow_succ (by decide))) ?_
  rcases k.eq_zero_or_pos with rfl | hk
  · exact digitCount_pos _
  · exact not_le.1 fun h => lt_irrefl _ ((digitCount_le_iff hk).1 h)

/-- Of more digits those beyond the precision are rounded. The leading digit moves up if the rest
    is rounded to a power of ten. -/
theorem leadingExponent_rounded (h : maxExponent ≤ leadingExponent c e)
    (hp : precision < digitCount c) :
    leadingExponent (rounded c e).1 (rounded c e).2 =
      if 10 ^ precision - 1 < roundHalfEven c (10 ^ (digitCount c - precision)) then
        leadingExponent c e + 1
      else leadingExponent c e := by
  obtain ⟨k, hk⟩ : ∃ k, digitCount c = precision + k := Nat.exists_eq_add_of_le hp.le
  have hsub : digitCount c - precision = k := by omega
  have hdrop : dropDigits c k = roundHalfEven c (10 ^ k) := if_neg (by omega)
  have hc : c ≠ 0 := by
    rintro rfl
    exact absurd hp (by decide)
  have hhigh : roundHalfEven c (10 ^ k) ≤ 10 ^ precision := by
    refine roundHalfEven_le_of_le_mul (Nat.pow_pos (by decide)) ?_
    rw [← Nat.pow_add, ← hk]
    exact (lt_pow_digitCount c).le
  have hlow : 10 ^ (precision - 1) ≤ roundHalfEven c (10 ^ k) := by
    refine le_trans ?_ (div_le_roundHalfEven _ _)
    rw [Nat.le_div_iff_mul_le (Nat.pow_pos (by decide)), ← Nat.pow_add]
    have hpow : precision - 1 + k = digitCount c - 1 := by
      rw [hk, precision]
      omega
    exact hpow ▸ pow_digitCount_sub_one_le hc
  rw [rounded, surplus_eq h, hsub, hdrop]
  generalize roundHalfEven c (10 ^ k) = d at *
  split_ifs with hd
  · obtain rfl : d = 10 ^ precision := by omega
    have hdiv : 10 ^ precision / 10 = 10 ^ (precision - 1) := by decide
    have hlt : precision < precision + 1 := Nat.lt_succ_self _
    rw [carried, digitCount_pow, if_pos hlt, hdiv, leadingExponent, digitCount_pow,
      leadingExponent, hk]
    simp only [precision]
    omega
  · have hpos : 0 < 10 ^ precision := by decide
    have hdigits : digitCount d = precision := by
      refine le_antisymm ((digitCount_le_iff (by decide)).2 (by omega)) ?_
      exact Nat.succ_le_of_lt (not_le.1 fun hle => hlow.not_gt ((digitCount_le_iff (by decide)).1 hle))
    rw [carried, hdigits, if_neg (lt_irrefl _), leadingExponent, hdigits, leadingExponent, hk]
    omega

/-- What has few digits and the greatest leading exponent is below the limit. -/
theorem mul_zpow_lt_limit (h : leadingExponent c e = maxExponent)
    (hp : digitCount c ≤ precision) : (c : ℚ) * 10 ^ e < limit := by
  obtain ⟨k, hk⟩ := Nat.exists_eq_add_of_le hp
  have hexp : maxExponent + 1 - precision = e - k := by
    rw [← h, leadingExponent, hk]
    push_cast
    ring
  have hc : c * 10 ^ k + 1 ≤ 10 ^ precision := by
    have hmul : (c + 1) * 10 ^ k ≤ 10 ^ digitCount c * 10 ^ k :=
      Nat.mul_le_mul_right _ (lt_pow_digitCount c)
    have hpos : 0 < 10 ^ k := Nat.pow_pos (by decide)
    rw [← Nat.pow_add, ← hk, Nat.add_mul] at hmul
    omega
  have hc : (c : ℚ) * 10 ^ k + 1 ≤ 10 ^ precision := by exact_mod_cast hc
  calc (c : ℚ) * 10 ^ e = c * 10 ^ k * 10 ^ (e - k) := by
        rw [mul_assoc, ← zpow_natCast, ← zpow_add₀ ten_pos.ne', add_sub_cancel]
    _ < (10 ^ precision - 1 / 2) * 10 ^ (e - k) :=
        mul_lt_mul_of_pos_right (by linarith) (zpow_pos ten_pos _)
    _ = limit := by rw [limit, hexp]

/-- What has more digits is too large if it is rounded to a power of ten. -/
theorem limit_le_mul_zpow_iff (h : leadingExponent c e = maxExponent)
    (hp : precision < digitCount c) : limit ≤ (c : ℚ) * 10 ^ e ↔
      10 ^ precision - 1 < roundHalfEven c (10 ^ (digitCount c - precision)) := by
  obtain ⟨k, hk⟩ : ∃ k, digitCount c = precision + k := Nat.exists_eq_add_of_le hp.le
  have hsub : digitCount c - precision = k := by omega
  have hexp : maxExponent + 1 - precision = k + e := by
    rw [← h, leadingExponent, hk]
    push_cast
    ring
  have hodd : (10 ^ precision - 1) % 2 = 1 := by decide
  have hlimit : limit = (10 ^ precision - 1 / 2) * 10 ^ k * 10 ^ e := by
    rw [limit, hexp, zpow_add₀ ten_pos.ne', zpow_natCast, mul_assoc]
  have hunits : ((2 * (10 ^ precision - 1) + 1 : ℕ) : ℚ) = 2 * (10 ^ precision - 1 / 2) := by
    norm_num [precision]
  rw [hsub, lt_roundHalfEven_iff (Nat.pow_pos (by decide)) hodd, hlimit,
    mul_le_mul_iff_left₀ (zpow_pos ten_pos e), ← Nat.cast_le (α := ℚ), Nat.cast_mul, hunits]
  push_cast
  rw [mul_assoc 2, mul_le_mul_iff_right₀ two_pos]

/-- A result is too large exactly from the limit on. -/
theorem fit_eq_error_iff {f : DecimalFault} (s : Bool) (c : ℕ) (e : ℤ) :
    fit s c e = .error f ↔ f = .tooLarge ∧ limit ≤ (c : ℚ) * 10 ^ e := by
  by_cases hc : c = 0
  · subst hc
    rw [fit, if_pos rfl, Nat.cast_zero, zero_mul]
    exact iff_of_false (by simp) fun h => limit_pos.not_ge h.2
  have hlarge : maxExponent < leadingExponent (rounded c e).1 (rounded c e).2 ↔
      limit ≤ (c : ℚ) * 10 ^ e := by
    obtain ⟨hlow, hhigh⟩ := mul_zpow_bounds hc e
    rcases lt_trichotomy (leadingExponent c e) maxExponent with hlt | heq | hgt
    · have hle := leadingExponent_rounded_le c e
      have hmin : minExponent ≤ maxExponent := by decide
      refine iff_of_false (by omega) (not_le_of_gt (hhigh.trans_le ?_))
      exact (zpow_le_zpow_right₀ (by norm_num) (by omega)).trans limit_bounds.1.le
    · rcases Nat.lt_or_ge precision (digitCount c) with hp | hp
      · rw [leadingExponent_rounded heq.ge hp, limit_le_mul_zpow_iff heq hp, heq]
        split_ifs with hd
        · exact iff_of_true (Int.lt_succ _) hd
        · exact iff_of_false (lt_irrefl _) hd
      · rw [rounded_eq_self heq.ge hp]
        exact iff_of_false heq.not_gt (mul_zpow_lt_limit heq hp).not_ge
    · refine iff_of_true ?_ (limit_bounds.2.le.trans
        ((zpow_le_zpow_right₀ (by norm_num) (by omega)).trans hlow))
      rcases Nat.lt_or_ge precision (digitCount c) with hp | hp
      · rw [leadingExponent_rounded hgt.le hp]
        split_ifs <;> omega
      · rwa [rounded_eq_self hgt.le hp]
  rw [fit_of_ne_zero hc, ← hlarge]
  split_ifs with h
  · simp [h, eq_comm]
  · simp [h]

end Decimal

end ControlBreak
