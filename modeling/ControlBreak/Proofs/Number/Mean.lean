import ControlBreak.Number.Basic
import ControlBreak.Proofs.Host
import Mathlib.Tactic.Common
import Mathlib.Data.Nat.Digits.Defs

/-!
# Means of sums

A sum is the result of an addition. It can be divided by a number of values unless a float
that is needed for it is too large; in particular, a sum of decimals can be: it was brought to
the precision and the range of decimals, and the quotient is no greater.

* `Decimal.fits_of_fit`: what was brought to the precision and the range fits them;
* `Decimal.exists_fit`: whatever is at most a decimal that fits can be brought there;
* `Number.IsSum.apply_div`: so the mean of a sum is defined, or too large for a float.
-/

namespace ControlBreak

/-! ### Digits -/

theorem digitCount_le_iff {n k : Nat} (hk : 0 < k) : digitCount n ≤ k ↔ n < 10 ^ k :=
  Nat.length_toDigits_le_iff (by decide) hk

theorem digitCount_pos (n : Nat) : 0 < digitCount n :=
  Nat.length_toDigits_pos

theorem lt_pow_digitCount (n : Nat) : n < 10 ^ digitCount n :=
  (digitCount_le_iff (digitCount_pos n)).1 (Nat.le_refl _)

/-- A number has no more digits than one above it and the zeros after that. -/
theorem digitCount_le_of_le_mul {n m k : Nat} (h : n ≤ m * 10 ^ k) :
    digitCount n ≤ digitCount m + k := by
  rw [digitCount_le_iff (Nat.add_pos_left (digitCount_pos m) k), Nat.pow_add]
  exact h.trans_lt (Nat.mul_lt_mul_of_pos_right (lt_pow_digitCount m) (Nat.pow_pos (by decide)))

theorem tenTo_natCast (k : Nat) : tenTo k = 10 ^ k := rfl

/-- Rounding does not go past a neighbour. -/
theorem roundHalfEven_le_of_le_mul {num den q : Nat} (hd : 0 < den) (h : num ≤ q * den) :
    roundHalfEven num den ≤ q := by
  rcases h.eq_or_lt with rfl | h
  · exact (roundHalfEven_mul q hd).le
  · exact (roundHalfEven_le num den).trans (Nat.div_lt_of_lt_mul (by rwa [Nat.mul_comm]))

namespace Decimal

theorem dropDigits_le {c q k : Nat} (h : c ≤ q * 10 ^ k) : dropDigits c k ≤ q := by
  rw [dropDigits]
  split
  · exact Nat.zero_le _
  · exact roundHalfEven_le_of_le_mul (Nat.pow_pos (by decide)) h

/-! ### The precision and the range -/

/-- A finite decimal is within the precision and the range of results. -/
structure Fits (coefficient : Nat) (exponent : Int) : Prop where
  digits : digitCount coefficient ≤ precision
  least : minExponent ≤ exponent
  leading : leadingExponent coefficient exponent ≤ maxExponent

/-- How many digits a result has to lose. -/
def surplus (coefficient : Nat) (exponent : Int) : Nat :=
  max (digitCount coefficient - precision) (minExponent - exponent).toNat

/-- A coefficient and its exponent, without the last digit if that is one too many. -/
def carried (coefficient : Nat) (exponent : Int) : Nat × Int :=
  if precision < digitCount coefficient then (coefficient / 10, exponent + 1)
  else (coefficient, exponent)

/-- What a result that is not zero is brought to. -/
def rounded (coefficient : Nat) (exponent : Int) : Nat × Int :=
  carried (dropDigits coefficient (surplus coefficient exponent))
    (exponent + surplus coefficient exponent)

theorem fit_of_ne_zero {c : Nat} (hc : c ≠ 0) (negative : Bool) (e : Int) :
    fit negative c e =
      if maxExponent < leadingExponent (rounded c e).1 (rounded c e).2 then .error .tooLarge
      else .ok (.finite negative (rounded c e).1 (rounded c e).2) := by
  rw [fit, if_neg hc]
  rfl

/-- Without a last digit that is too many, the leading digit keeps its place. -/
theorem carried_spec (c : Nat) (e : Int) : e ≤ (carried c e).2 ∧
    leadingExponent (carried c e).1 (carried c e).2 ≤ leadingExponent c e ∧
      (digitCount c ≤ precision + 1 → digitCount (carried c e).1 ≤ precision) := by
  rw [carried]
  split
  · rename_i hp
    obtain ⟨k, hk⟩ : ∃ k, digitCount c = k + 1 := Nat.exists_eq_add_one.2 (digitCount_pos c)
    have hc : c / 10 < 10 ^ k := by
      refine Nat.div_lt_of_lt_mul ?_
      have hlt := lt_pow_digitCount c
      rwa [hk, Nat.pow_succ'] at hlt
    have := (digitCount_le_iff (by simp only [precision] at hp; omega)).2 hc
    simp only [leadingExponent]
    omega
  · rename_i hp
    exact ⟨Int.le_refl e, Int.le_refl _, fun _ => Nat.le_of_not_lt hp⟩

/-- What was brought to the precision and the range fits them. -/
theorem fits_of_fit {negative : Bool} {c : Nat} {e : Int} {d : Decimal}
    (h : fit negative c e = .ok d) : ∃ c' e', d = .finite negative c' e' ∧ Fits c' e' := by
  by_cases hz : c = 0
  · rw [fit, if_pos hz] at h
    cases h
    refine ⟨_, _, rfl, by decide, le_min (le_max_right _ _) (by decide), ?_⟩
    rw [leadingExponent, show digitCount 0 = 1 by decide]
    omega
  · rw [fit_of_ne_zero hz] at h
    split at h
    · cases h
    · rename_i hlead
      cases h
      -- Rounding leaves at most a one with zeros, so one digit too many at most.
      obtain ⟨he, -, hdigits⟩ :=
        carried_spec (dropDigits c (surplus c e)) (e + surplus c e)
      have hc : c ≤ 10 ^ precision * 10 ^ surplus c e := by
        rw [← Nat.pow_add]
        refine (lt_pow_digitCount c).le.trans (Nat.pow_le_pow_right (by decide) ?_)
        rw [surplus]
        omega
      have hc := (dropDigits_le hc).trans_lt (Nat.pow_lt_pow_succ (by decide))
      refine ⟨_, _, rfl, hdigits ((digitCount_le_iff (by decide)).2 hc), ?_, by omega⟩
      refine le_trans ?_ he
      rw [surplus]
      omega

/-- What is at most a decimal that fits can be brought to the precision and the range. -/
theorem exists_fit {c₀ : Nat} {e₀ : Int} (h₀ : Fits c₀ e₀) {c k : Nat} (hc : c ≤ c₀ * 10 ^ k)
    (negative : Bool) : ∃ d, fit negative c (e₀ - k) = .ok d := by
  by_cases hz : c = 0
  · exact ⟨_, by rw [fit, if_pos hz]⟩
  -- No more digits are lost than `k`, so that `c₀` bounds what is left of `c`.
  have hs : surplus c (e₀ - k) ≤ k := by
    have := digitCount_le_of_le_mul hc
    have := h₀.digits
    have := h₀.least
    rw [surplus]
    omega
  obtain ⟨j, hj⟩ := Nat.exists_eq_add_of_le hs
  have hdrop : dropDigits c (surplus c (e₀ - k)) ≤ c₀ * 10 ^ j := by
    refine dropDigits_le ?_
    rwa [Nat.mul_assoc, ← Nat.pow_add, Nat.add_comm j, ← hj]
  have hlead : leadingExponent (rounded c (e₀ - k)).1 (rounded c (e₀ - k)).2 ≤ maxExponent := by
    refine (carried_spec _ _).2.1.trans (le_trans ?_ h₀.leading)
    have := digitCount_le_of_le_mul hdrop
    rw [leadingExponent, leadingExponent]
    omega
  exact ⟨_, by rw [fit_of_ne_zero hz, if_neg (Int.not_lt.2 hlead)]⟩

/-! ### Quotients -/

/-- What zeros are taken off stays below what bounds it at the ideal exponent. -/
theorem trimTo_le {c c₀ k : Nat} (hc : c ≤ c₀ * 10 ^ k) (e : Int) (left : Nat) :
    ∃ i : Nat, (trimTo e c (e - k) left).2 = e - i ∧ (trimTo e c (e - k) left).1 ≤ c₀ * 10 ^ i := by
  induction left generalizing c k with
  | zero => exact ⟨k, rfl, hc⟩
  | succ left ih =>
    rw [trimTo]
    split
    · rename_i h
      obtain ⟨j, rfl⟩ : ∃ j, k = j + 1 := Nat.exists_eq_add_one.2 (by omega)
      have hexp : e - ((j + 1 : Nat) : Int) + 1 = e - j := by omega
      rw [hexp]
      refine ih (Nat.div_le_of_le_mul ?_)
      rwa [Nat.mul_left_comm, ← Nat.pow_succ']
    · exact ⟨k, rfl, hc⟩

/-- A decimal that fits can be divided by a whole number that is not zero. -/
theorem exists_div {c : Nat} {e : Int} (h : Fits c e) {d : Nat} (hd : d ≠ 0) (s t : Bool) :
    ∃ q, div (.finite s c e) (.finite t d 0) = .ok q := by
  rw [div]
  simp only [undefined?, if_neg hd, sub_zero]
  split
  · exact ⟨_, by rw [fit, if_pos rfl]⟩
  rename_i hc
  -- The quotient has digits below those of `c`, and is at most `c` with zeros in their place.
  obtain ⟨k, hk⟩ : ∃ k : Nat, (digitCount d : Int) - digitCount c + precision + 1 = k := by
    have := h.digits
    exact Int.eq_ofNat_of_zero_le (by omega)
  have hone : tenTo (-(k : Int)) = 1 := by simp [tenTo]
  rw [hk, tenTo_natCast, hone, Nat.mul_one]
  have hq : c * 10 ^ k / d ≤ c * 10 ^ k := Nat.div_le_self _ _
  split
  · obtain ⟨i, hi, hle⟩ := trimTo_le hq e (digitCount (c * 10 ^ k / d))
    rw [hi]
    exact exists_fit h hle _
  · rename_i hmod
    -- The digit that keeps a rest from looking like a tie does not pass the dividend.
    have hd1 : d ≠ 1 := fun h1 => hmod (h1 ▸ Nat.mod_one _)
    have hlt : c * 10 ^ k / d < c * 10 ^ k :=
      Nat.div_lt_self (Nat.mul_pos (Nat.pos_of_ne_zero hc) (Nat.pow_pos (by decide))) (by omega)
    refine exists_fit h ?_ _
    split <;> omega

/-! ### Sums -/

/-- A decimal is the result of an operation: it does not signal, and fits the precision and the
    range if it is finite. -/
def IsResult : Decimal → Prop
  | .nan _ signaling _ _ => signaling = false
  | .infinity _ => True
  | .finite _ c e => Fits c e

theorem isResult_of_fit {negative : Bool} {c : Nat} {e : Int} {d : Decimal}
    (h : fit negative c e = .ok d) : d.IsResult := by
  obtain ⟨c', e', rfl, hfits⟩ := fits_of_fit h
  exact hfits

theorem isResult_of_undefined? {a b d : Decimal} (h : undefined? a b = some (.ok d)) :
    d.IsResult := by
  rw [undefined?.eq_def] at h
  split at h <;> cases h <;> rfl

theorem isNaN_of_undefined? {a b : Decimal} (h : undefined? a b = none) :
    a.isNaN = false ∧ b.isNaN = false := by
  rw [undefined?.eq_def] at h
  split at h <;> cases h
  rename_i hs ht hq hr
  constructor
  · cases a with
    | nan s g p m => cases g <;> simp_all
    | _ => rfl
  · cases b with
    | nan s g p m => cases g <;> simp_all
    | _ => rfl

theorem isResult_of_add {a b d : Decimal} (h : add a b = .ok d) : d.IsResult := by
  rw [add.eq_def] at h
  cases hu : undefined? a b with
  | some result =>
    rw [hu] at h
    obtain rfl : result = .ok d := h
    exact isResult_of_undefined? hu
  | none =>
    rw [hu] at h
    obtain ⟨ha, hb⟩ := isNaN_of_undefined? hu
    cases a with
    | nan => cases ha
    | infinity s =>
      cases b with
      | nan => cases hb
      | infinity t =>
        dsimp only at h
        split at h <;> cases h
        trivial
      | finite =>
        cases h
        trivial
    | finite s c e =>
      cases b with
      | nan => cases hb
      | infinity t =>
        cases h
        trivial
      | finite t c' e' => exact isResult_of_fit h

/-- The result of an operation can be divided by a whole number that is not zero. -/
theorem IsResult.exists_div_ofInt {d : Decimal} (h : d.IsResult) {n : Int} (hn : n ≠ 0) :
    ∃ q, div d (ofInt n) = .ok q := by
  cases d with
  | nan s g p m =>
    obtain rfl : g = false := h
    exact ⟨_, rfl⟩
  | infinity s => exact ⟨_, rfl⟩
  | finite s c e => exact exists_div h (Int.natAbs_ne_zero.2 hn) _ _

end Decimal

namespace Binary64

theorem twoTo_mono {e f : Int} (h : e ≤ f) : twoTo e ≤ twoTo f :=
  Nat.pow_le_pow_right (by decide) (Int.toNat_le_toNat h)

/-- A whole number is at least the power of two of its order. -/
theorem twoTo_binaryOrder_le {n : Nat} (hn : n ≠ 0) : twoTo (binaryOrder n 1) ≤ n := by
  have horder : binaryOrder n 1 ≤ n.log2 := by
    have hone : Nat.log2 1 = 0 := by decide
    rw [binaryOrder, hone]
    split <;> omega
  exact (twoTo_mono horder).trans (Nat.log2_self_le hn)

/-- Only zero is rounded to a float that is zero, among whole numbers. -/
theorem isZero_round {n : Nat} (hn : n ≠ 0) (negative : Bool) :
    (round negative n 1).isZero = false := by
  rw [round, if_neg hn]
  generalize he : max (binaryOrder n 1 - 52) minExponent = e
  dsimp only
  have hle : twoTo e ≤ n * twoTo (-e) := by
    refine le_trans ?_ (Nat.le_mul_of_pos_right n (Nat.pow_pos (by decide)))
    rcases max_choice (binaryOrder n 1 - 52) minExponent with h | h
    · exact (twoTo_mono (by omega)).trans (twoTo_binaryOrder_le hn)
    · rw [← he, h]
      exact Nat.one_le_iff_ne_zero.2 hn
  have hpos : 0 < roundHalfEven (n * twoTo (-e)) (1 * twoTo e) := by
    refine lt_of_lt_of_le (Nat.div_pos ?_ ?_) (div_le_roundHalfEven _ _)
    · rwa [Nat.one_mul]
    · exact Nat.mul_pos (by decide) (Nat.pow_pos (by decide))
  have hfinite : ∀ (m : Nat) (f : Int), m ≠ 0 →
      (if maxExponent < f then infinity negative else finite negative m f).isZero = false := by
    intro m f hm
    split
    · rfl
    · simpa [isZero] using hm
  split
  · exact hfinite (twoTo 52) _ (by decide)
  · exact hfinite _ _ hpos.ne'

/-- A float that is nearest to a whole number is zero for zero only. -/
theorem isZero_of_ofInt? {n : Int} {x : Binary64} (h : ofInt? n = some x) (hn : n ≠ 0) :
    x.isZero = false := by
  have hz := isZero_round (Int.natAbs_ne_zero.2 hn) (n < 0)
  rw [ofInt?, ofQuotient?] at h
  split at h
  · cases h
  · cases h
    exact hz

end Binary64

namespace Number

/-- A number is the result of an addition, as far as a decimal can be told from one. -/
def IsSum : Number → Prop
  | .dec d => d.IsResult
  | _ => True

theorem isSum_of_applyDecimal {a b : Decimal} {n : Number}
    (h : applyDecimal .add a b = .ok n) : n.IsSum := by
  cases hd : a.add b with
  | error f => simp [applyDecimal, hd] at h
  | ok d =>
    obtain rfl : .dec d = n := by simpa [applyDecimal, hd] using h
    exact Decimal.isResult_of_add hd

theorem isSum_of_apply {a b n : Number} (h : a.apply .add b = .ok n) : n.IsSum := by
  rw [apply.eq_def] at h
  split at h
  case h_1 | h_2 | h_3 | h_4 =>
    cases h
    trivial
  case h_5 =>
    split at h
    · obtain ⟨x, -, h⟩ := Host.bind_eq_ok.1 h
      obtain ⟨y, -, h⟩ := Host.bind_eq_ok.1 h
      exact isSum_of_applyDecimal h
    · obtain ⟨x, -, h⟩ := Host.bind_eq_ok.1 h
      obtain ⟨y, -, h⟩ := Host.bind_eq_ok.1 h
      cases h
      trivial

/-- A sum can be divided by a number of values, unless a float for it is too large. -/
theorem IsSum.apply_div {n : Number} (h : n.IsSum) {count : Int} (hc : count ≠ 0) :
    (∃ q, n.apply .div (.int count) = .ok q) ∨
      n.apply .div (.int count) = .error .tooLarge := by
  cases n with
  | int m =>
    rw [apply, applyInt, if_neg hc]
    split
    · exact .inr rfl
    · exact .inl ⟨_, rfl⟩
  | frac q =>
    rw [apply, applyFrac, if_neg (by exact_mod_cast hc)]
    exact .inl ⟨_, rfl⟩
  | dec d =>
    obtain ⟨q, hq⟩ := Decimal.IsResult.exists_div_ofInt h hc
    refine .inl ⟨.dec q, ?_⟩
    rw [apply.eq_def]
    simp [isDecimal, toDecimal?, bind, Except.bind, applyDecimal, hq]
  | float x =>
    rw [apply.eq_def]
    cases hy : Binary64.ofInt? count with
    | none =>
      right
      simp [isDecimal, toFloat?, bind, Except.bind, hy]
    | some y =>
      left
      have hz := Binary64.isZero_of_ofInt? hy hc
      simp [isDecimal, toFloat?, bind, Except.bind, hy, applyFloat, hz]

end Number

end ControlBreak
