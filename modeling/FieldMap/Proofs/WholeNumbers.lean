import FieldMap.Proofs.Rounding

/-!
# Whole numbers

A number is whole exactly if nothing is left of it behind the point (`Binary64.fract_eq_zero_iff`),
which for infinities is no number. What is left is a difference of two numbers of the format, and
such a difference is not rounded to zero unless they are equal (`Binary64.isZero_sub`): the numbers
of the format are multiples of the least one. A whole number within the range of the 64-bit integers
is equal to the integer it is turned into (`Binary64.toInt64_eq`).
-/

namespace FieldMap.Binary64

variable {x y : Binary64} {q : ℚ} {num den : ℕ}

/-! ## Comparing -/

theorem beq_iff (hx : x.isFinite = true) (hy : y.isFinite = true) :
    (x == y) = true ↔ x.toRat = y.toRat := by
  cases x with
  | finite s m e hc =>
    cases y with
    | finite s' m' e' hc' =>
      show decide _ = true ↔ _
      rw [decide_eq_true_iff, toRat, toRat, ← unitsAt_mul s m (min_le_left e e'),
        ← unitsAt_mul s' m' (min_le_right e e'), mul_left_inj' (two_zpow_pos _).ne', Int.cast_inj]
    | _ => cases hy
  | _ => cases hx

theorem le_iff (hx : x.isFinite = true) (hy : y.isFinite = true) :
    x.le y = true ↔ x.toRat ≤ y.toRat := by
  rw [le, Bool.or_eq_true, lt_iff hx hy, beq_iff hx hy, le_iff_lt_or_eq]

theorem isZero_iff (hx : x.isFinite = true) : x.isZero = true ↔ x.toRat = 0 := by
  cases x with
  | finite s m e hc =>
    rw [isZero, decide_eq_true_iff, toRat, ← abs_eq_zero, abs_signed, abs_eq_zero,
      mul_eq_zero_iff_right (two_zpow_pos e).ne', Nat.cast_eq_zero]
  | _ => cases hx

theorem exists_toRat_eq_abs (hx : x.isFinite = true) :
    ∃ y : Binary64, y.isFinite = true ∧ y.toRat = |x.toRat| := by
  rcases abs_choice x.toRat with h | h
  · exact ⟨x, hx, h.symm⟩
  · exact ⟨x.neg, (isFinite_neg x).trans hx, (toRat_neg x).trans h.symm⟩

/-! ## Rounding what needs none -/

theorem isNearest_self (hx : x.isFinite = true) : x.IsNearest x.toRat := by
  refine ⟨hx, fun y _ => ?_, fun y _ he hne => ?_⟩
  · rw [sub_self, abs_zero]
    exact abs_nonneg _
  · rw [sub_self, abs_zero] at he
    exact absurd (sub_eq_zero.mp (abs_eq_zero.mp he.symm)).symm hne

theorem abs_toRat_lt (hx : x.isFinite = true) : |x.toRat| < overflow := by
  cases x with
  | finite s m e hc =>
    have hm := hc.mantissa_le
    rw [toRat, abs_signed, abs_of_nonneg (by positivity), overflow]
    have hpow : (2 : ℚ) ^ e ≤ 2 ^ (971 : ℤ) := zpow_le_zpow_right₀ one_le_two hc.2.2.1
    have hpos := two_zpow_pos 971
    generalize (2 : ℚ) ^ (971 : ℤ) = unit at hpow hpos ⊢
    calc (m : ℚ) * 2 ^ e ≤ m * unit := mul_le_mul_of_nonneg_left hpow (Nat.cast_nonneg m)
      _ ≤ (2 ^ 53 - 1) * unit := mul_le_mul_of_nonneg_right hm hpos.le
      _ < (2 ^ 53 - 1 / 2) * unit := mul_lt_mul_of_pos_right (by norm_num) hpos
  | _ => cases hx

/-- A quotient that is a number of the format is rounded to it. -/
theorem toRat_ofRatio (hx : x.isFinite = true) (hd : 0 < den) (h : x.toRat = num / den)
    (negative : Bool) :
    (ofRatio negative num den).isFinite = true ∧
      (ofRatio negative num den).toRat = signed negative x.toRat := by
  have hpositive : (ofRatio false num den).isFinite = true ∧
      (ofRatio false num den).toRat = x.toRat := by
    rcases num.eq_zero_or_pos with rfl | hn
    · rw [ofRatio, if_pos (.inl rfl), h, Nat.cast_zero, zero_div]
      exact ⟨rfl, toRat_ofInt_zero⟩
    · have hlarge : (num / den : ℚ) < overflow := h ▸ (le_abs_self _).trans_lt (abs_toRat_lt hx)
      obtain ⟨hnearest, hunique⟩ := ofRatio_isNearest hn hd hlarge
      exact ⟨hnearest.finite, (hunique x (h ▸ isNearest_self hx)).symm⟩
  cases negative with
  | false => exact hpositive
  | true =>
    rw [ofRatio_true, isFinite_neg, toRat_neg, hpositive.2]
    exact ⟨hpositive.1, rfl⟩

/-- What is not below the least positive number is not rounded to zero. -/
theorem isZero_ofRatio (hn : 0 < num) (hd : 0 < den) (h : (2 : ℚ) ^ (-1074 : ℤ) ≤ num / den)
    (negative : Bool) : (ofRatio negative num den).isZero = false := by
  have hgrid := roundsOnGrid hn hd
  rw [ofRatio, if_neg (by omega)]
  simp only
  generalize roundQuotient _ _ = m at hgrid ⊢
  generalize exponentOf num den = e at hgrid ⊢
  have hm : m ≠ 0 := by
    rintro rfl
    have he : e = -1074 := hgrid.le_mantissa.resolve_right (by decide)
    have hk := hgrid.nearest 1
    have hpos := two_zpow_pos (-1074)
    rw [he, Nat.cast_zero, zero_mul, sub_zero, Int.cast_one, one_mul,
      abs_of_nonneg (hpos.le.trans h), abs_of_nonneg (sub_nonneg.mpr h)] at hk
    linarith
  have hparts {m' : ℕ} (hm' : m' ≠ 0) (e' : ℤ) : (ofParts negative m' e').isZero = false := by
    rw [ofParts]
    split
    · exact decide_eq_false hm'
    · rfl
  split
  · exact hparts (by decide) _
  · exact hparts hm _

/-! ## Differences -/

/-- Units of a power of two as a quotient of natural numbers. -/
theorem units_div (k : ℕ) (unit : ℤ) :
    ((k * Nat.pow 2 unit.toNat : ℕ) : ℚ) / (Nat.pow 2 (-unit).toNat : ℕ) = k * 2 ^ unit :=
  mul_natPow_div two_pos k unit

theorem isZero_ofRatio_units {k : ℕ} (hk : 0 < k) {unit : ℤ} (hunit : -1074 ≤ unit)
    (negative : Bool) :
    (ofRatio negative (k * Nat.pow 2 unit.toNat) (Nat.pow 2 (-unit).toNat)).isZero = false := by
  have hleast : (2 : ℚ) ^ (-1074 : ℤ) ≤ k * 2 ^ unit :=
    calc (2 : ℚ) ^ (-1074 : ℤ) ≤ 2 ^ unit := zpow_le_zpow_right₀ one_le_two hunit
      _ ≤ k * 2 ^ unit := le_mul_of_one_le_left (two_zpow_pos unit).le (by exact_mod_cast hk)
  exact isZero_ofRatio (Nat.mul_pos hk (Nat.pow_pos two_pos)) (Nat.pow_pos two_pos)
    (hleast.trans_eq (units_div k unit).symm) negative

/-- The difference of two numbers is zero only if they are equal. -/
theorem isZero_sub (hx : x.isFinite = true) (hy : y.isFinite = true) :
    (x.sub y).isZero = true ↔ x.toRat = y.toRat := by
  cases x with
  | finite s m e hc =>
    cases y with
    | finite s' m' e' hc' =>
      have hunit : -1074 ≤ min e e' := le_min hc.2.1 hc'.2.1
      rw [toRat, toRat, ← unitsAt_mul s m (min_le_left e e'),
        ← unitsAt_mul s' m' (min_le_right e e'), mul_left_inj' (two_zpow_pos _).ne', Int.cast_inj,
        ← Int.sub_eq_zero, sub]
      generalize min e e' = unit at hunit ⊢
      generalize unitsAt s m e unit - unitsAt s' m' e' unit = units
      split
      · rename_i h
        exact iff_of_true rfl h
      · rename_i h
        rw [isZero_ofRatio_units (Int.natAbs_pos.mpr h) hunit]
        exact iff_of_false Bool.false_ne_true h
    | _ => cases hy
  | _ => cases hx

/-! ## Whole parts -/

theorem magnitude_pos (x : Binary64) : 0 < x.magnitude.2 := by
  cases x with
  | finite s m e hc => exact Nat.pow_pos two_pos
  | _ => exact one_pos

theorem toRat_eq_signed (hx : x.isFinite = true) :
    x.toRat = signed x.isNegative (x.magnitude.1 / x.magnitude.2) := by
  cases x with
  | finite s m e hc => rw [toRat, isNegative, magnitude, units_div]
  | _ => cases hx

/-- The whole part of a number is a number of the format, be it large or small. -/
theorem exists_toRat_eq_wholePart (hx : x.isFinite = true) :
    ∃ y : Binary64, y.isFinite = true ∧ y.toRat = x.wholePart := by
  cases x with
  | finite s m e hc =>
    rcases le_or_gt 0 e with he | he
    · have hden : Nat.pow 2 (-e).toNat = 1 := by
        rw [Int.toNat_of_nonpos (by omega), Nat.pow_eq, pow_zero]
      refine ⟨.finite false m e hc, rfl, ?_⟩
      rw [wholePart, magnitude, hden, Nat.div_one]
      show (m : ℚ) * 2 ^ e = _
      rw [← units_div, hden, Nat.cast_one, div_one]
    · have hnum : Nat.pow 2 e.toNat = 1 := by
        rw [Int.toNat_of_nonpos he.le, Nat.pow_eq, pow_zero]
      refine exists_toRat_eq_natCast ((Nat.div_le_self _ _).trans ?_)
      rw [magnitude, hnum, mul_one]
      exact hc.1.le
  | _ => cases hx

theorem toRat_trunc (hx : x.isFinite = true) :
    x.trunc.isFinite = true ∧ x.trunc.toRat = signed x.isNegative x.wholePart := by
  obtain ⟨y, hy, hvalue⟩ := exists_toRat_eq_wholePart hx
  rw [← hvalue]
  cases x with
  | finite s m e hc =>
    exact toRat_ofRatio hy one_pos (by rw [hvalue, Nat.cast_one, div_one]) s
  | _ => cases hx

theorem signed_natCast (negative : Bool) (k : ℕ) :
    signed negative k = ((if negative then -(k : ℤ) else k : ℤ) : ℚ) := by
  cases negative with
  | false => exact (Int.cast_natCast k).symm
  | true => exact ((Int.cast_neg _).trans (congrArg Neg.neg (Int.cast_natCast k))).symm

/-- Nothing is cut off a whole number. -/
theorem wholePart_eq (hx : x.isFinite = true) {n : ℤ} (h : x.toRat = n) :
    x.wholePart = n.natAbs ∧ (if x.isNegative then -(x.wholePart : ℤ) else x.wholePart) = n := by
  have hpos : (0 : ℚ) < x.magnitude.2 := Nat.cast_pos.mpr x.magnitude_pos
  have habs : (x.magnitude.1 / x.magnitude.2 : ℚ) = n.natAbs := by
    rw [Nat.cast_natAbs, Int.cast_abs, ← h, toRat_eq_signed hx, abs_signed, abs_of_nonneg]
    exact div_nonneg (Nat.cast_nonneg _) hpos.le
  have hnum : x.magnitude.1 = n.natAbs * x.magnitude.2 := by
    exact_mod_cast (div_eq_iff hpos.ne').mp habs
  have hwhole : x.wholePart = n.natAbs := by
    rw [wholePart, hnum, Nat.mul_div_cancel _ x.magnitude_pos]
  have hvalue := signed_natCast x.isNegative x.wholePart
  rw [hwhole, ← habs, ← toRat_eq_signed hx, h, ← hwhole] at hvalue
  exact ⟨hwhole, (Int.cast_injective hvalue).symm⟩

/-! ## What is behind the point -/

theorem beq_zero_iff (x : Binary64) : (x == zero false) = true ↔ x.isZero = true := by
  cases x with
  | finite s m e hc =>
    rw [beq_iff rfl rfl, isZero_iff rfl]
    exact Eq.congr_right toRat_ofInt_zero
  | infinite negative => exact Iff.rfl
  | nan => exact Iff.rfl

/-- Nothing is left behind the point of the whole numbers and only of them. -/
theorem fract_eq_zero_iff (x : Binary64) :
    (x.fract == zero false) = true ↔ x.isFinite = true ∧ ∃ n : ℤ, x.toRat = n := by
  cases hx : x.isFinite with
  | false =>
    refine iff_of_false ?_ (fun h => Bool.false_ne_true h.1)
    cases x with
    | finite s m e hc => cases hx
    | infinite negative => cases negative <;> exact Bool.false_ne_true
    | nan => exact Bool.false_ne_true
  | true =>
    obtain ⟨hfinite, hvalue⟩ := toRat_trunc hx
    rw [beq_zero_iff, fract, isZero_sub hx hfinite, hvalue, and_iff_right rfl, signed_natCast]
    constructor
    · exact fun h => ⟨_, h⟩
    · rintro ⟨n, hn⟩
      rw [(wholePart_eq hx hn).2, hn]

/-- A whole number that fits 64 bits with a sign is equal to the integer that it is turned into. -/
theorem toInt64_eq (hx : x.isFinite = true) {n : ℤ} (h : x.toRat = n) (hlow : -2 ^ 63 ≤ n)
    (hhigh : n < 2 ^ 63) : x.toInt64 = n := by
  cases x with
  | finite s m e hc =>
    have hn := (wholePart_eq hx h).2
    rw [isNegative] at hn
    rw [toInt64, hn]
    show max (-2 ^ 63) (min (2 ^ 63 - 1) n) = n
    omega
  | _ => cases hx

end FieldMap.Binary64
