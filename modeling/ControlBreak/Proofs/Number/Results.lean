import ControlBreak.Proofs.Number.Decimals
import Mathlib

/-!
# Operations without a result

An operation on two numbers lacks a result if their kinds do not go together, if it is undefined
among the decimals, or if something is too large: the exact result, of decimals or as the quotient
of two integers, or an operand that has to become a float. At the other end a fraction can be so
small that as a float it is no divisor. Everything else has a result, and integers and fractions
have the exact one.

* `Lacks`: the causes, in terms of kinds and exact values;
* `apply_eq_error_iff`: an operation without a zero divisor fails for these causes only;
* `exists_apply_of_rat?`: integers and fractions;
* `equals_zero`: what equals zero, unless it refuses to be asked.
-/

namespace ControlBreak

namespace Number

variable {o : Arithmetic} {a b : Number} {fault : NumberFault} {p q : ℚ}

/-- Whether a number goes together with decimals. -/
def goesWithDecimals : Number → Bool
  | .int _ | .dec _ => true
  | .float _ | .frac _ => false

/-- Why an operation on two numbers has no result. -/
inductive Lacks : Arithmetic → Number → Number → NumberFault → Prop
  | mixedKinds {o : Arithmetic} {a b : Number} (hd : a.isDecimal = true ∨ b.isDecimal = true)
    (h : a.goesWithDecimals = false ∨ b.goesWithDecimals = false) : Lacks o a b .mixedKinds
  /-- The operation has no result among the decimals. -/
  | decimals {o : Arithmetic} {a b : Number} {x y : Decimal} {f : DecimalFault}
    (hd : a.isDecimal = true ∨ b.isDecimal = true)
    (ha : a.toDecimal? = .ok x) (hb : b.toDecimal? = .ok y) (h : Decimal.Lacks o x y f) :
    Lacks o a b f.toNumberFault
  /-- The operand has to become a float and is too large. -/
  | tooLarge_left {o : Arithmetic} {a : Number} {p : ℚ} {y : Binary64}
    (ha : a.rat? = some p) (h : Binary64.limit ≤ |p|) : Lacks o a (.float y) .tooLarge
  | tooLarge_right {o : Arithmetic} {x : Binary64} {b : Number} {q : ℚ}
    (hb : b.rat? = some q) (h : Binary64.limit ≤ |q|) : Lacks o (.float x) b .tooLarge
  /-- The exact quotient is too large for a float. -/
  | quotient {m n : ℤ} (h : Binary64.limit ≤ |(m : ℚ) / n|) :
    Lacks .div (.int m) (.int n) .tooLarge
  /-- The divisor is not zero, but as a float it is. -/
  | vanishing {x : Binary64} {q : ℚ} (h : |q| ≤ 2 ^ (Binary64.minExponent - 1)) :
    Lacks .div (.float x) (.frac q) .zeroDivisor

/-! ### Decimals -/

theorem applyDecimal_eq_error_iff {x y : Decimal} (hz : o = .div → y.isZero = false) :
    applyDecimal o x y = .error fault ↔ ∃ f, Decimal.Lacks o x y f ∧ f.toNumberFault = fault := by
  rw [applyDecimal.eq_def]
  cases o with
  | add =>
    simp only [← Decimal.add_eq_error_iff]
    cases x.add y <;> simp
  | sub =>
    simp only [← Decimal.sub_eq_error_iff]
    cases x.sub y <;> simp
  | mul =>
    simp only [← Decimal.mul_eq_error_iff]
    cases x.mul y <;> simp
  | div =>
    simp only [← Decimal.div_eq_error_iff (hz rfl)]
    cases x.div y <;> simp

theorem isZero_of_toDecimal? {y : Decimal} (h : b.toDecimal? = .ok y) : y.isZero = b.isZero := by
  cases b with
  | int n =>
    cases h
    simp [Decimal.ofInt, Decimal.isZero, isZero]
  | dec d =>
    cases h
    rfl
  | float | frac => cases h

theorem toDecimal?_eq_error_iff :
    a.toDecimal? = .error fault ↔ fault = .mixedKinds ∧ a.goesWithDecimals = false := by
  cases a <;> simp [toDecimal?, goesWithDecimals, eq_comm]

/-- With a decimal the operation is one on decimals. -/
theorem apply_of_isDecimal (hd : a.isDecimal = true ∨ b.isDecimal = true) :
    a.apply o b = a.toDecimal? >>= fun x => b.toDecimal? >>= fun y => applyDecimal o x y := by
  rw [← Bool.or_eq_true] at hd
  cases a <;> cases b <;> first | rfl | cases hd

theorem isDecimal_of_rat? (h : a.rat? = some p) : a.isDecimal = false := by
  cases a with
  | dec => cases h
  | _ => rfl

theorem isDecimal_float {x : Binary64} : (float x).isDecimal = false :=
  rfl

/-- With a decimal only the causes among the decimals are left. -/
theorem apply_eq_error_iff_of_isDecimal (hd : a.isDecimal = true ∨ b.isDecimal = true)
    (hz : o = .div → b.isZero = false) : a.apply o b = .error fault ↔ Lacks o a b fault := by
  have happly : ∀ {x y : Decimal}, b.toDecimal? = .ok y → (applyDecimal o x y = .error fault ↔
      ∃ f, Decimal.Lacks o x y f ∧ f.toNumberFault = fault) := fun hy =>
    applyDecimal_eq_error_iff fun ho => (isZero_of_toDecimal? hy).trans (hz ho)
  rw [apply_of_isDecimal hd, Host.bind_eq_error]
  constructor
  · rintro (ha | ⟨x, hx, h⟩)
    · obtain ⟨rfl, hgoes⟩ := toDecimal?_eq_error_iff.1 ha
      exact .mixedKinds hd (.inl hgoes)
    · rcases Host.bind_eq_error.1 h with hb | ⟨y, hy, h⟩
      · obtain ⟨rfl, hgoes⟩ := toDecimal?_eq_error_iff.1 hb
        exact .mixedKinds hd (.inr hgoes)
      · obtain ⟨f, hlacks, rfl⟩ := (happly hy).1 h
        exact .decimals hd hx hy hlacks
  · intro h
    cases h with
    | mixedKinds _ h =>
      cases ha : a.toDecimal? with
      | error f => exact .inl (by rw [(toDecimal?_eq_error_iff.1 ha).1])
      | ok x =>
        have hgoes : a.goesWithDecimals ≠ false := by
          intro h
          cases ha.symm.trans (toDecimal?_eq_error_iff.2 ⟨rfl, h⟩)
        have hb := toDecimal?_eq_error_iff.2 ⟨rfl, h.resolve_left hgoes⟩
        exact .inr ⟨x, rfl, Host.bind_eq_error.2 (.inl hb)⟩
    | decimals _ ha hb h =>
      exact .inr ⟨_, ha, Host.bind_eq_error.2 (.inr ⟨_, hb, (happly hb).2 ⟨_, h, rfl⟩⟩)⟩
    | tooLarge_left ha =>
      simp [isDecimal_of_rat? ha, isDecimal_float] at hd
    | tooLarge_right hb =>
      simp [isDecimal_of_rat? hb, isDecimal_float] at hd
    | quotient | vanishing => simp [isDecimal] at hd

/-! ### Integers and fractions -/

/-- A quotient of integers is too large for a float exactly if the exact one is. -/
theorem applyInt_div_eq_error_iff (m : ℤ) {n : ℤ} (hn : n ≠ 0) :
    applyInt .div m n = .error fault ↔
      fault = .tooLarge ∧ Binary64.limit ≤ |(m : ℚ) / n| := by
  have habs : |(m : ℚ) / n| = m.natAbs / n.natAbs := by
    rw [abs_div, Nat.cast_natAbs, Nat.cast_natAbs, Int.cast_abs, Int.cast_abs]
  rw [habs, ← Binary64.round_eq_infinity_iff (Int.natAbs_pos.2 hn) ((m < 0) != (n < 0)), applyInt,
    if_neg hn]
  split
  · rename_i t ht
    simp [ht, eq_comm]
  · rename_i hfin
    refine iff_of_false (by simp) fun h => ?_
    obtain ⟨-, t, ht⟩ := h
    exact hfin t ht

theorem int_or_frac_of_rat? (ha : a.rat? = some p) : (∃ m, a = .int m) ∨ ∃ r, a = .frac r := by
  cases a with
  | float | dec => cases ha
  | int m => exact .inl ⟨m, rfl⟩
  | frac r => exact .inr ⟨r, rfl⟩

theorem isZero_iff_of_rat? (hb : b.rat? = some q) : b.isZero = true ↔ q = 0 := by
  cases b with
  | float | dec => cases hb
  | int n =>
    cases hb
    simp [isZero]
  | frac q =>
    cases hb
    simp [isZero]

theorem applyFrac_of_ne_zero (p : ℚ) (hq : o = .div → q ≠ 0) :
    applyFrac o p q = .ok (.frac (o.onRat p q)) := by
  cases o with
  | div => exact if_neg (hq rfl)
  | _ => rfl

/-- Integers and fractions have the exact result; only a quotient of two integers is a float. -/
theorem exists_apply_of_rat? (ha : a.rat? = some p) (hb : b.rat? = some q)
    (hdiv : o = .div → b.isZero = false ∧ ((∃ r, a = .frac r) ∨ ∃ r, b = .frac r)) :
    ∃ n, a.apply o b = .ok n ∧ n.rat? = some (o.onRat p q) := by
  have hq : o = .div → q ≠ 0 := fun ho h =>
    absurd ((isZero_iff_of_rat? hb).2 h) (ne_true_of_eq_false (hdiv ho).1)
  obtain ⟨m, rfl⟩ | ⟨r, rfl⟩ := int_or_frac_of_rat? ha <;>
    obtain ⟨n, rfl⟩ | ⟨r', rfl⟩ := int_or_frac_of_rat? hb <;> cases ha <;> cases hb
  · cases o with
    | div => simpa using (hdiv rfl).2
    | _ => exact ⟨_, rfl, by simp [rat?, Arithmetic.onRat]⟩
  all_goals exact ⟨_, applyFrac_of_ne_zero _ hq, rfl⟩

/-! ### Floats -/

theorem toFloat?_eq_error_iff (ha : a.rat? = some p) :
    a.toFloat? = .error fault ↔ fault = .tooLarge ∧ Binary64.limit ≤ |p| := by
  cases a with
  | float | dec => cases ha
  | int n =>
    cases ha
    rw [← Binary64.ofInt?_eq_none_iff, toFloat?]
    cases Binary64.ofInt? n <;> simp [eq_comm]
  | frac q =>
    cases ha
    rw [← Binary64.ofRat?_eq_none_iff, toFloat?]
    cases Binary64.ofRat? p <;> simp [eq_comm]

theorem applyFloat_eq_error_iff {x y : Binary64} :
    applyFloat o x y = .error fault ↔ o = .div ∧ y.isZero = true ∧ fault = .zeroDivisor := by
  cases o with
  | div =>
    rw [applyFloat]
    cases y.isZero <;> simp [eq_comm]
  | _ => simp [applyFloat]

/-- Among the integers and fractions only a fraction can vanish as a float. -/
theorem isZero_of_toFloat? (hb : b.rat? = some q) (hz : b.isZero = false) {y : Binary64}
    (hy : b.toFloat? = .ok y) :
    y.isZero = true ↔ b = .frac q ∧ |q| ≤ 2 ^ (Binary64.minExponent - 1) := by
  cases b with
  | float | dec => cases hb
  | int n =>
    have hn : n ≠ 0 := by simpa [isZero] using hz
    rw [toFloat?] at hy
    cases hf : Binary64.ofInt? n with
    | none => simp [hf] at hy
    | some z =>
      obtain rfl : z = y := by simpa [hf] using hy
      simp [Binary64.isZero_of_ofInt? hf hn]
  | frac r =>
    cases hb
    rw [toFloat?] at hy
    cases hf : Binary64.ofRat? q with
    | none => simp [hf] at hy
    | some z =>
      obtain rfl : z = y := by simpa [hf] using hy
      rw [Binary64.isZero_of_ofRat? hf]
      exact (and_iff_right rfl).symm

theorem apply_float_eq_error_iff (x : Binary64) (hb : b.rat? = some q)
    (hz : o = .div → b.isZero = false) :
    (float x).apply o b = .error fault ↔ Lacks o (.float x) b fault := by
  have happly : (float x).apply o b = b.toFloat? >>= fun y => applyFloat o x y := by
    cases b with
    | float | dec => cases hb
    | int | frac => rfl
  rw [happly, Host.bind_eq_error, toFloat?_eq_error_iff hb]
  constructor
  · rintro (⟨rfl, h⟩ | ⟨y, hy, h⟩)
    · exact .tooLarge_right hb h
    · obtain ⟨rfl, hzero, rfl⟩ := applyFloat_eq_error_iff.1 h
      obtain ⟨rfl, hsmall⟩ := (isZero_of_toFloat? hb (hz rfl) hy).1 hzero
      exact .vanishing hsmall
  · intro h
    cases h with
    | mixedKinds hd | decimals hd =>
      simp [isDecimal_of_rat? hb, isDecimal_float] at hd
    | tooLarge_left ha => cases ha
    | tooLarge_right hb' h =>
      cases hb.symm.trans hb'
      exact .inl ⟨rfl, h⟩
    | vanishing hsmall =>
      cases hb
      right
      cases hy : toFloat? (.frac q) with
      | error f =>
        have hlarge := ((toFloat?_eq_error_iff rfl).1 hy).2
        exact absurd (hlarge.trans hsmall) Binary64.zpow_lt_limit.not_ge
      | ok y =>
        exact ⟨y, rfl, applyFloat_eq_error_iff.2
          ⟨rfl, (isZero_of_toFloat? rfl (hz rfl) hy).2 ⟨rfl, hsmall⟩, rfl⟩⟩

theorem apply_eq_error_iff_of_float_right (ha : a.rat? = some p) {y : Binary64}
    (hz : o = .div → y.isZero = false) :
    a.apply o (.float y) = .error fault ↔ Lacks o a (.float y) fault := by
  have happly : a.apply o (.float y) = a.toFloat? >>= fun x => applyFloat o x y := by
    cases a with
    | float | dec => cases ha
    | int | frac => rfl
  rw [happly, Host.bind_eq_error, toFloat?_eq_error_iff ha]
  constructor
  · rintro (⟨rfl, h⟩ | ⟨x, -, h⟩)
    · exact .tooLarge_left ha h
    · obtain ⟨rfl, hzero, -⟩ := applyFloat_eq_error_iff.1 h
      exact absurd hzero (ne_true_of_eq_false (hz rfl))
  · intro h
    cases h with
    | mixedKinds hd | decimals hd =>
      simp [isDecimal_of_rat? ha, isDecimal_float] at hd
    | tooLarge_left ha' h =>
      cases ha.symm.trans ha'
      exact .inl ⟨rfl, h⟩
    | tooLarge_right hb => cases hb

/-! ### All kinds -/

/-- A quotient of two integers is the only operation on integers and fractions that can lack a
    result. -/
theorem Lacks.exists_of_rat? (h : Lacks o a b fault) (ha : a.rat? = some p)
    (hb : b.rat? = some q) : o = .div ∧ fault = .tooLarge ∧
      ∃ m n : ℤ, a = .int m ∧ b = .int n ∧ Binary64.limit ≤ |(m : ℚ) / n| := by
  cases h with
  | mixedKinds hd | decimals hd =>
    simp [isDecimal_of_rat? ha, isDecimal_of_rat? hb] at hd
  | tooLarge_left => cases hb
  | tooLarge_right | vanishing => cases ha
  | quotient h => exact ⟨rfl, rfl, _, _, rfl, rfl, h⟩

theorem apply_eq_error_iff_of_rat? (ha : a.rat? = some p) (hb : b.rat? = some q)
    (hz : o = .div → b.isZero = false) : a.apply o b = .error fault ↔ Lacks o a b fault := by
  by_cases hints : o = .div ∧ (∃ m, a = .int m) ∧ ∃ n, b = .int n
  · obtain ⟨rfl, ⟨m, rfl⟩, n, rfl⟩ := hints
    have hn : n ≠ 0 := by simpa [isZero] using hz
    refine (applyInt_div_eq_error_iff m hn).trans ⟨?_, fun h => ?_⟩
    · rintro ⟨rfl, h⟩
      exact .quotient h
    · obtain ⟨-, rfl, _, _, hm, hn, h⟩ := h.exists_of_rat? ha hb
      cases hm
      cases hn
      exact ⟨rfl, h⟩
  · have hfrac : o = .div → (∃ r, a = .frac r) ∨ ∃ r, b = .frac r := by
      intro ho
      rcases int_or_frac_of_rat? ha with hm | hr
      · exact .inr ((int_or_frac_of_rat? hb).resolve_left fun hn => hints ⟨ho, hm, hn⟩)
      · exact .inl hr
    obtain ⟨n, hn, -⟩ := exists_apply_of_rat? ha hb fun ho => ⟨hz ho, hfrac ho⟩
    rw [hn]
    refine iff_of_false (by simp) fun h => ?_
    obtain ⟨ho, -, m, n, hm, hn, -⟩ := h.exists_of_rat? ha hb
    exact hints ⟨ho, ⟨m, hm⟩, n, hn⟩

/-- An operation without a zero divisor lacks a result for these causes only. -/
theorem apply_eq_error_iff (hz : o = .div → b.isZero = false) :
    a.apply o b = .error fault ↔ Lacks o a b fault := by
  by_cases hd : a.isDecimal = true ∨ b.isDecimal = true
  · exact apply_eq_error_iff_of_isDecimal hd hz
  cases a with
  | dec => exact absurd (.inl rfl) hd
  | int | frac =>
    cases b with
    | dec => exact absurd (.inr rfl) hd
    | int | frac => exact apply_eq_error_iff_of_rat? rfl rfl hz
    | float y => exact apply_eq_error_iff_of_float_right rfl hz
  | float x =>
    cases b with
    | dec => exact absurd (.inr rfl) hd
    | int | frac => exact apply_float_eq_error_iff x rfl hz
    | float y =>
      refine iff_of_false (fun h => ?_) fun h => ?_
      · obtain ⟨rfl, hzero, -⟩ := applyFloat_eq_error_iff.1 h
        exact absurd hzero (ne_true_of_eq_false (hz rfl))
      · cases h with
        | mixedKinds h | decimals h => exact hd h
        | tooLarge_left ha => cases ha
        | tooLarge_right hb => cases hb

/-! ### Zero -/

theorem place_rational (q : ℚ) :
    (Extended.rational q).place = ((q : WithTop ℚ) : WithBot (WithTop ℚ)) := by
  rw [Extended.rational, Extended.place, Rat.num_div_den, zpow_zero, mul_one]

theorem rat_eq_zero_iff (s : Bool) (m : ℕ) (e : ℤ) : Binary64.rat s m e = 0 ↔ m = 0 := by
  have hpos : ∀ k : ℤ, twoTo k ≠ 0 := fun k => (Nat.pow_pos (by decide)).ne'
  rw [Binary64.rat, Binary64.fraction, Rat.mkRat_eq_zero (hpos _)]
  cases s <;> simp [hpos]

/-- A number lies at zero if it is zero. -/
theorem place_eq_zero_iff (h : b.extended ≠ .undefined) :
    b.extended.place = ((0 : ℚ) : WithTop ℚ) ↔ b.isZero = true := by
  have hne : ∀ s, (Extended.infinity s).place ≠ ((0 : ℚ) : WithTop ℚ) := by
    rintro (_ | _) h
    · exact WithTop.top_ne_coe (WithBot.coe_injective h)
    · exact WithBot.bot_ne_coe h
  cases b with
  | int n =>
    rw [extended, place_rational]
    simp [isZero]
  | frac q =>
    rw [extended, place_rational]
    simp [isZero]
  | float x =>
    cases x with
    | nan => exact absurd rfl h
    | infinity s => exact iff_of_false (hne s) Bool.false_ne_true
    | finite s m e =>
      rw [extended, place_rational]
      simp [isZero, Binary64.isZero, rat_eq_zero_iff]
  | dec d =>
    cases d with
    | nan => exact absurd rfl h
    | infinity s => exact iff_of_false (hne s) Bool.false_ne_true
    | finite s c e =>
      have hten : (10 : ℚ) ^ e ≠ 0 := (zpow_pos Decimal.ten_pos e).ne'
      cases s <;>
        simp [extended, Decimal.extended, Extended.place, isZero, Decimal.isZero, hten]

/-- What equals zero is told by the number alone, unless it refuses to be asked. -/
theorem equals_zero (h : b.isSignaling = false) : b.equals (.int 0) = .ok b.isZero := by
  by_cases hb : b.extended = .undefined
  · have hzero : b.isZero = false := by
      cases b with
      | int | frac => cases hb
      | float x =>
        cases x with
        | finite => cases hb
        | nan | infinity => rfl
      | dec d =>
        cases d with
        | finite => cases hb
        | nan | infinity => rfl
    rw [equals, h, hb, hzero]
    rfl
  · have hplace : (int 0).extended.place = ((0 : ℚ) : WithTop ℚ) := place_rational 0
    have hdefined : (int 0).extended ≠ .undefined := by simp [extended, Extended.rational]
    rw [equals_eq hb hdefined, hplace]
    congr 1
    rw [Bool.eq_iff_iff, decide_eq_true_iff]
    exact place_eq_zero_iff hb

end Number

end ControlBreak
