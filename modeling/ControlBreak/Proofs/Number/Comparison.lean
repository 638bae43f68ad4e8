import ControlBreak.Proofs.Number.Mean
import Mathlib

/-!
# Numbers on the line

Numbers of all kinds are compared by the exact values that they stand for. Powers of ten are
expanded only where two values have their leading digits at one place; otherwise the place decides.
So the comparison is that of a total order, the line of the rationals with both infinities.

* `place`: where a number lies on this line;
* `compareScaled_compares`: the places of the leading digits decide, or else the digits do;
* `compare?_eq_cmp`: numbers that are defined compare by their places (`Number.compares_eq`,
  `Number.equals_eq`).
-/

namespace ControlBreak

/-! ### Leading digits -/

theorem pow_digitCount_sub_one_le {n : ℕ} (hn : n ≠ 0) : 10 ^ (digitCount n - 1) ≤ n := by
  rcases (digitCount n - 1).eq_zero_or_pos with h | h
  · rw [h]
    exact Nat.pos_of_ne_zero hn
  · have hlt : ¬digitCount n ≤ digitCount n - 1 := by omega
    exact not_lt.1 fun hlt' => hlt ((digitCount_le_iff h).2 hlt')

/-- A number with its leading digit at a lower place is less. -/
theorem mul_zpow_lt_of_digitCount {x y : ℕ} {e f : ℤ} (hy : y ≠ 0)
    (h : e + digitCount x < f + digitCount y) : (x : ℚ) * 10 ^ e < y * 10 ^ f := by
  have hx : (x : ℚ) < 10 ^ digitCount x := by exact_mod_cast lt_pow_digitCount x
  have hle : (10 : ℚ) ^ (digitCount y - 1) ≤ y := by exact_mod_cast pow_digitCount_sub_one_le hy
  have hpos := digitCount_pos y
  calc (x : ℚ) * 10 ^ e < 10 ^ digitCount x * 10 ^ e := by gcongr
    _ = 10 ^ (e + digitCount x) := by rw [zpow_add₀ (by norm_num), zpow_natCast, mul_comm]
    _ ≤ 10 ^ (f + ↑(digitCount y - 1)) := zpow_le_zpow_right₀ (by norm_num) (by omega)
    _ = 10 ^ (digitCount y - 1) * 10 ^ f := by
      rw [zpow_add₀ (by norm_num), zpow_natCast, mul_comm]
    _ ≤ y * 10 ^ f := by gcongr

/-- Two numbers are brought to the lower one of their exponents. -/
theorem tenTo_sub_mul_zpow_min (e f : ℤ) : (tenTo (e - f) : ℚ) * 10 ^ min e f = 10 ^ e := by
  rw [tenTo, Nat.pow_eq, Nat.cast_pow, Nat.cast_ofNat, ← zpow_natCast, ← zpow_add₀ (by norm_num)]
  congr 1
  omega

theorem compare_compares_of_eq_zero {x y : ℕ} (h : x = 0 ∨ y = 0) (e f : ℤ) :
    (compare x y).Compares ((x : ℚ) * 10 ^ e) (y * 10 ^ f) := by
  cases hcmp : compare x y with
  | eq =>
    obtain rfl := compare_eq_iff_eq.1 hcmp
    have hx : x = 0 := or_self_iff.1 h
    simp [hx, Ordering.Compares]
  | lt =>
    have hlt := compare_lt_iff_lt.1 hcmp
    have hx : x = 0 := h.resolve_right hlt.ne_bot
    have hy : (0 : ℚ) < y := Nat.cast_pos.2 hlt.pos
    show (x : ℚ) * 10 ^ e < y * 10 ^ f
    rw [hx, Nat.cast_zero, zero_mul]
    positivity
  | gt =>
    have hlt := compare_gt_iff_gt.1 hcmp
    have hy : y = 0 := h.resolve_left hlt.ne_bot
    have hx : (0 : ℚ) < x := Nat.cast_pos.2 hlt.pos
    show (y : ℚ) * 10 ^ f < x * 10 ^ e
    rw [hy, Nat.cast_zero, zero_mul]
    positivity

theorem compare_tenTo_compares (x y : ℕ) (e f : ℤ) :
    (compare (x * tenTo (e - f)) (y * tenTo (f - e))).Compares
      ((x : ℚ) * 10 ^ e) (y * 10 ^ f) := by
  have hmono : StrictMono fun q : ℚ => q * 10 ^ min e f :=
    fun p q hpq => mul_lt_mul_of_pos_right hpq (by positivity)
  have hcast : StrictMono ((↑) : ℕ → ℚ) := Nat.strictMono_cast
  have hx : (x : ℚ) * 10 ^ e = ↑(x * tenTo (e - f)) * 10 ^ min e f := by
    rw [Nat.cast_mul, mul_assoc, tenTo_sub_mul_zpow_min]
  have hy : (y : ℚ) * 10 ^ f = ↑(y * tenTo (f - e)) * 10 ^ min e f := by
    rw [Nat.cast_mul, mul_assoc, min_comm, tenTo_sub_mul_zpow_min]
  rw [hx, hy]
  exact hmono.compares.2 (hcast.compares.2 ((compare_iff _ _).1 rfl))

/-! ### Places -/

namespace Extended

theorem compareScaled_compares (x : ℕ) (e : ℤ) (y : ℕ) (f : ℤ) :
    (compareScaled x e y f).Compares ((x : ℚ) * 10 ^ e) (y * 10 ^ f) := by
  rw [compareScaled]
  split
  -- Zero has no leading digit that could tell where it lies.
  next h => exact compare_compares_of_eq_zero h e f
  next h =>
    rw [not_or] at h
    split
    next => exact compare_tenTo_compares x y e f
    next o hne =>
      cases hcmp : compare (e + digitCount x) (f + digitCount y) with
      | eq => exact absurd hcmp hne
      | lt => exact mul_zpow_lt_of_digitCount h.2 (compare_lt_iff_lt.1 hcmp)
      | gt => exact mul_zpow_lt_of_digitCount h.1 (compare_gt_iff_gt.1 hcmp)

/-- A number is defined, and its denominator is positive if it has one. -/
def IsOnLine : Extended → Prop
  | .undefined => False
  | .finite _ den _ => 0 < den
  | .negInfinity | .posInfinity => True

/-- Where a number lies on the line. One that is undefined has no place; it is put at the end. -/
def place : Extended → WithBot (WithTop ℚ)
  | .undefined | .negInfinity => ⊥
  | .finite num den exponent => ((num / den * 10 ^ exponent : ℚ) : WithTop ℚ)
  | .posInfinity => (⊤ : WithTop ℚ)

/-- How two quotients lie, told by the products across. -/
theorem compares_of_products {a c e f : ℤ} {b d : ℕ} (hb : 0 < b) (hd : 0 < d) {o : Ordering}
    (h : o.Compares (((a * d : ℤ) : ℚ) * 10 ^ e) ((c * b : ℤ) * 10 ^ f)) :
    o.Compares ((a : ℚ) / b * 10 ^ e) (c / d * 10 ^ f) := by
  have hpos : (0 : ℚ) < b * d := by positivity
  have hmono : StrictMono fun q : ℚ => q * (b * d) :=
    fun p q hpq => mul_lt_mul_of_pos_right hpq hpos
  have hx : ((a * d : ℤ) : ℚ) * 10 ^ e = (a : ℚ) / b * 10 ^ e * (b * d) := by
    push_cast
    field_simp
  have hy : ((c * b : ℤ) : ℚ) * 10 ^ f = (c : ℚ) / d * 10 ^ f * (b * d) := by
    push_cast
    field_simp
  rw [hx, hy] at h
  exact hmono.compares.1 h

theorem natCast_natAbs_of_neg {x : ℤ} (hx : x < 0) : (x.natAbs : ℚ) = -x := by
  rw [Nat.cast_natAbs, abs_of_neg hx, Int.cast_neg]

/-- Below zero the order of magnitudes is the other way round, and across zero only signs count. -/
theorem compares_of_signs (x e y f : ℤ) :
    (if 0 ≤ x ∧ 0 ≤ y then compareScaled x.natAbs e y.natAbs f
      else if x < 0 ∧ y < 0 then compareScaled y.natAbs f x.natAbs e
      else compare x y).Compares ((x : ℚ) * 10 ^ e) (y * 10 ^ f) := by
  split_ifs with hpos hneg
  · have h := compareScaled_compares x.natAbs e y.natAbs f
    rwa [Nat.cast_natAbs, Nat.cast_natAbs, abs_of_nonneg hpos.1, abs_of_nonneg hpos.2] at h
  · have h := compareScaled_compares y.natAbs f x.natAbs e
    rw [natCast_natAbs_of_neg hneg.1, natCast_natAbs_of_neg hneg.2, neg_mul, neg_mul] at h
    have hanti : StrictAnti fun q : ℚ => -q := fun p q hpq => neg_lt_neg hpq
    exact hanti.compares.1 h
  · cases hcmp : compare x y with
    | eq =>
      obtain rfl := compare_eq_iff_eq.1 hcmp
      omega
    | lt =>
      have hlt := compare_lt_iff_lt.1 hcmp
      have hx : (x : ℚ) < 0 := Int.cast_lt_zero.2 (by omega)
      have hy : (0 : ℚ) ≤ y := Int.cast_nonneg (by omega)
      show (x : ℚ) * 10 ^ e < y * 10 ^ f
      calc (x : ℚ) * 10 ^ e < 0 := mul_neg_of_neg_of_pos hx (by positivity)
        _ ≤ y * 10 ^ f := by positivity
    | gt =>
      have hlt := compare_gt_iff_gt.1 hcmp
      have hx : (0 : ℚ) ≤ x := Int.cast_nonneg (by omega)
      have hy : (y : ℚ) < 0 := Int.cast_lt_zero.2 (by omega)
      show (y : ℚ) * 10 ^ f < x * 10 ^ e
      calc (y : ℚ) * 10 ^ f < 0 := mul_neg_of_neg_of_pos hy (by positivity)
        _ ≤ x * 10 ^ e := by positivity

theorem compare?_eq_cmp {x y : Extended} (hx : x.IsOnLine) (hy : y.IsOnLine) :
    x.compare? y = some (cmp x.place y.place) := by
  have hbot : ∀ q : ℚ, (⊥ : WithBot (WithTop ℚ)) < (q : WithTop ℚ) := fun q => WithBot.bot_lt_coe _
  have htop : ∀ q : ℚ, ((q : WithTop ℚ) : WithBot (WithTop ℚ)) < (⊤ : WithTop ℚ) := fun q =>
    WithBot.coe_lt_coe.2 (WithTop.coe_lt_top q)
  have hends : (⊥ : WithBot (WithTop ℚ)) < (⊤ : WithTop ℚ) := WithBot.bot_lt_coe _
  cases x with
  | undefined => exact hx.elim
  | finite a b e =>
    cases y with
    | undefined => exact hy.elim
    | finite c d f =>
      have h := compares_of_products hx hy (compares_of_signs (a * d) e (c * b) f)
      have hcoe : StrictMono fun q : ℚ => ((q : WithTop ℚ) : WithBot (WithTop ℚ)) :=
        WithBot.coe_strictMono.comp WithTop.coe_strictMono
      rw [compare?, ← (hcoe.compares.2 h).cmp_eq]
      rfl
    | negInfinity => exact congrArg some (cmp_eq_gt_iff _ _ |>.2 (hbot _)).symm
    | posInfinity => exact congrArg some (cmp_eq_lt_iff _ _ |>.2 (htop _)).symm
  | negInfinity =>
    cases y with
    | undefined => exact hy.elim
    | finite => exact congrArg some (cmp_eq_lt_iff _ _ |>.2 (hbot _)).symm
    | negInfinity => exact congrArg some (cmp_self_eq_eq _).symm
    | posInfinity => exact congrArg some (cmp_eq_lt_iff _ _ |>.2 hends).symm
  | posInfinity =>
    cases y with
    | undefined => exact hy.elim
    | finite => exact congrArg some (cmp_eq_gt_iff _ _ |>.2 (htop _)).symm
    | negInfinity => exact congrArg some (cmp_eq_gt_iff _ _ |>.2 hends).symm
    | posInfinity => exact congrArg some (cmp_self_eq_eq _).symm

end Extended

namespace Comparison

variable {α : Type} [LinearOrder α] (p q : α)

theorem holds_lt_cmp : lt.holds (cmp p q) = decide (p < q) := by
  rw [decide_eq_decide.2 (cmp_eq_lt_iff p q).symm]
  rfl

theorem holds_gt_cmp : gt.holds (cmp p q) = decide (q < p) := by
  rw [decide_eq_decide.2 (cmp_eq_gt_iff p q).symm]
  rfl

end Comparison

namespace Number

variable {c : Comparison} {a b n : Number}

theorem isOnLine_of_ne (h : n.extended ≠ .undefined) : n.extended.IsOnLine := by
  cases n with
  | int n => exact Nat.one_pos
  | frac q => exact q.den_pos
  | float x =>
    cases x with
    | nan => exact absurd rfl h
    | infinity s => cases s <;> trivial
    | finite s m e => exact (Binary64.rat s m e).den_pos
  | dec d =>
    cases d with
    | nan => exact absurd rfl h
    | infinity s => cases s <;> trivial
    | finite => exact Nat.one_pos

/-- Numbers that are defined compare by their places on the line. -/
theorem compares_eq (ha : a.extended ≠ .undefined) (hb : b.extended ≠ .undefined) :
    a.compares c b = .ok (c.holds (cmp a.extended.place b.extended.place)) := by
  rw [compares, Extended.compare?_eq_cmp (isOnLine_of_ne ha) (isOnLine_of_ne hb)]

theorem isSignaling_of_ne (h : n.extended ≠ .undefined) : n.isSignaling = false := by
  cases n with
  | dec d =>
    cases d with
    | nan => exact absurd rfl h
    | infinity | finite => rfl
  | _ => rfl

theorem equals_eq (ha : a.extended ≠ .undefined) (hb : b.extended ≠ .undefined) :
    a.equals b = .ok (decide (a.extended.place = b.extended.place)) := by
  rw [equals, isSignaling_of_ne ha, isSignaling_of_ne hb,
    Extended.compare?_eq_cmp (isOnLine_of_ne ha) (isOnLine_of_ne hb),
    decide_eq_decide.2 (cmp_eq_eq_iff _ _).symm]
  rfl

end Number

end ControlBreak
