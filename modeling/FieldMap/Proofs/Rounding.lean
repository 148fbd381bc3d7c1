import FieldMap.Number.Binary64
import Mathlib.Algebra.Order.Field.Power
import Mathlib.Algebra.Order.Ring.Rat
import Mathlib.Data.Rat.Cast.Order
import Mathlib.Tactic.FieldSimp
import Mathlib.Tactic.Linarith
import Mathlib.Tactic.Positivity
import Mathlib.Tactic.Ring

/-!
# Rounding to binary floating-point numbers

A finite number has an exact rational value (`toRat`), and comparisons are those of these values
(`lt_iff`). What rounding gives is described twice. On the grid of the multiples of one power of
two, the multiple taken is the nearest, and an even one if there are two (`RoundsOnGrid`); the power
is the one at which the quotient has 53 bits, or the least one (`roundsOnGrid`). Among all finite
numbers, the one taken is the nearest, and one with an even mantissa if there are two (`IsNearest`).
The first gives the second since a number is on the grid or below all of it that matters
(`exists_units_or_le`, `RoundsOnGrid.nearest_finite`). All quotients below `overflow` are rounded to
finite numbers.

An integer is rounded to the nearest number (`ofInt_isNearest`), and to itself if it has up to 53
bits (`IsNearest.toRat_eq`). Rounding takes a number to no other side of a number of the format
(`IsNearest.toRat_le_iff`).
-/

namespace FieldMap.Binary64

variable {x y : Binary64} {q : ℚ} {num den : ℕ} {e : ℤ}

/-! ## Exact values -/

/-- A number with a sign. -/
def signed (negative : Bool) (q : ℚ) : ℚ :=
  if negative then -q else q

/-- The exact value of a finite number; all others count as zero. -/
def toRat : Binary64 → ℚ
  | .finite negative mantissa exponent _ => signed negative (mantissa * 2 ^ exponent)
  | _ => 0

theorem two_zpow_pos (e : ℤ) : (0 : ℚ) < 2 ^ e :=
  zpow_pos two_pos e

/-- Powers of two whose exponents are natural numbers. -/
theorem two_zpow_toNat (h : 0 ≤ e) : (2 : ℚ) ^ e.toNat = 2 ^ e := by
  rw [← zpow_natCast, Int.toNat_of_nonneg h]

theorem two_zpow_sub_mul (e u : ℤ) : (2 : ℚ) ^ (e - u) * 2 ^ u = 2 ^ e := by
  rw [← zpow_add₀ two_ne_zero, sub_add_cancel]

theorem two_zpow_eq_mul (k : ℕ) {u : ℤ} (h : e = k + u) : (2 : ℚ) ^ e = 2 ^ k * 2 ^ u := by
  rw [h, zpow_add₀ two_ne_zero, zpow_natCast]

/-- A power with an exponent of any sign as a quotient of natural numbers. -/
theorem natPow_toNat {base : ℕ} (hb : 0 < base) (e : ℤ) :
    ((Nat.pow base e.toNat : ℕ) : ℚ) = base ^ e * (Nat.pow base (-e).toNat : ℕ) := by
  have hb' : (base : ℚ) ≠ 0 := Nat.cast_ne_zero.mpr hb.ne'
  rw [Nat.pow_eq, Nat.pow_eq, Nat.cast_pow, Nat.cast_pow, ← zpow_natCast, ← zpow_natCast,
    ← zpow_add₀ hb']
  congr 1
  omega

/-- A multiple of a power as a quotient of natural numbers. -/
theorem mul_natPow_div {base : ℕ} (hb : 0 < base) (k : ℕ) (e : ℤ) :
    ((k * Nat.pow base e.toNat : ℕ) : ℚ) / (Nat.pow base (-e).toNat : ℕ) = k * base ^ e := by
  have hpos : ((Nat.pow base (-e).toNat : ℕ) : ℚ) ≠ 0 :=
    Nat.cast_ne_zero.mpr (Nat.pow_pos hb).ne'
  rw [Nat.cast_mul, natPow_toNat hb, ← mul_assoc, mul_div_cancel_right₀ _ hpos]

/-- Units are worth what the number is worth. -/
theorem unitsAt_mul (negative : Bool) (mantissa : ℕ) {unit : ℤ} (h : unit ≤ e) :
    (unitsAt negative mantissa e unit : ℚ) * 2 ^ unit = signed negative (mantissa * 2 ^ e) := by
  have hpow : ((mantissa * Nat.pow 2 (e - unit).toNat : ℤ) : ℚ) * 2 ^ unit = mantissa * 2 ^ e := by
    rw [Nat.pow_eq]
    push_cast
    rw [two_zpow_toNat (by omega), mul_assoc, two_zpow_sub_mul]
  cases negative with
  | false => exact hpow
  | true =>
    show ((-(mantissa * Nat.pow 2 (e - unit).toNat : ℤ) : ℤ) : ℚ) * 2 ^ unit = -_
    rw [Int.cast_neg, neg_mul, hpow]

/-- Finite numbers are compared by their exact values. -/
theorem lt_iff (hx : x.isFinite = true) (hy : y.isFinite = true) :
    x.lt y = true ↔ x.toRat < y.toRat := by
  cases x with
  | finite s m e hc =>
    cases y with
    | finite s' m' e' hc' =>
      rw [lt, decide_eq_true_iff, toRat, toRat, ← unitsAt_mul s m (min_le_left e e'),
        ← unitsAt_mul s' m' (min_le_right e e'), mul_lt_mul_iff_left₀ (two_zpow_pos _),
        Int.cast_lt]
    | _ => cases hy
  | _ => cases hx

/-! ## Rounding quotients -/

/-- How far a number is from the multiples of another one: the two next to it are at the distance of
the rest and of what the rest lacks, and all others are farther away. -/
theorem distance_cases (num : ℕ) (hd : 0 < den) (k : ℤ) :
    (k < (num / den : ℕ) → (num % den : ℕ) + den ≤ |(num : ℤ) - k * den|) ∧
    (k = (num / den : ℕ) → |(num : ℤ) - k * den| = (num % den : ℕ)) ∧
    (k = (num / den : ℕ) + 1 → |(num : ℤ) - k * den| = den - (num % den : ℕ)) ∧
    ((num / den : ℕ) + 1 < k → 2 * den - (num % den : ℕ) ≤ |(num : ℤ) - k * den|) := by
  have hrest := Nat.mod_lt num hd
  have hsplit : (num : ℤ) - k * den = (num % den : ℕ) - (k - (num / den : ℕ)) * den := by
    have hnum : (num : ℤ) = den * (num / den : ℕ) + (num % den : ℕ) := by
      exact_mod_cast (Nat.div_add_mod num den).symm
    rw [hnum]
    ring
  rw [hsplit]
  generalize num / den = quotient
  generalize num % den = rest at hrest
  refine ⟨fun h => ?_, fun h => ?_, fun h => ?_, fun h => ?_⟩
  · refine le_trans ?_ (le_abs_self _)
    nlinarith
  · rw [h, sub_self, zero_mul, sub_zero, Nat.abs_cast]
  · rw [h, add_sub_cancel_left, one_mul, abs_of_nonpos (by omega), neg_sub]
  · refine le_trans ?_ (neg_le_abs _)
    nlinarith

/-- No integer is nearer to a quotient than the one that it is rounded to. If another one is as
near, the quotient is rounded to an even one, and the other is odd. -/
theorem roundQuotient_nearest (hd : 0 < den) (k : ℤ) :
    |(num : ℤ) - roundQuotient num den * den| ≤ |(num : ℤ) - k * den| ∧
    (|(num : ℤ) - roundQuotient num den * den| = |(num : ℤ) - k * den| →
      k ≠ roundQuotient num den → Even (roundQuotient num den) ∧ Odd k) := by
  have hrest := Nat.mod_lt num hd
  have hk := distance_cases num hd k
  have hround := distance_cases num hd (roundQuotient num den)
  rw [Nat.even_iff, Int.odd_iff]
  generalize |(num : ℤ) - k * den| = distance at hk ⊢
  generalize |(num : ℤ) - roundQuotient num den * den| = least at hround ⊢
  rw [roundQuotient] at hround ⊢
  generalize num / den = quotient at hk hround ⊢
  generalize num % den = rest at hk hround hrest ⊢
  split_ifs at hround ⊢ <;> omega

/-! ## Rounding to a grid -/

theorem scaleRatio_pos (num : ℕ) (hd : 0 < den) (e : ℤ) : 0 < (scaleRatio num den e).2 :=
  Nat.mul_pos hd (Nat.pow_pos two_pos)

/-- A ratio in units of a power of two. -/
theorem scaleRatio_div (num den : ℕ) (e : ℤ) :
    ((scaleRatio num den e).1 : ℚ) / (scaleRatio num den e).2 = num / den / 2 ^ e := by
  have hpos : ((Nat.pow 2 (-e).toNat : ℕ) : ℚ) ≠ 0 :=
    Nat.cast_ne_zero.mpr (Nat.pow_pos two_pos).ne'
  rw [scaleRatio, Nat.cast_mul, Nat.cast_mul, natPow_toNat two_pos e, Nat.cast_ofNat, div_div,
    ← mul_assoc, mul_div_mul_right _ _ hpos]

/-- The binary logarithm as bounds. -/
theorem two_zpow_log2_le (hn : 0 < num) : (2 : ℚ) ^ (num.log2 : ℤ) ≤ num := by
  rw [zpow_natCast]
  exact_mod_cast Nat.log2_self_le hn.ne'

theorem lt_two_zpow_log2 (num : ℕ) : (num : ℚ) < 2 ^ (num.log2 + 1 : ℤ) := by
  exact_mod_cast Nat.lt_log2_self (n := num)

/-- A ratio lies within a factor of two of the ratio of the leading bits. -/
theorem ratio_bounds (hn : 0 < num) (hd : 0 < den) :
    (2 : ℚ) ^ ((num.log2 : ℤ) - den.log2 - 1) ≤ num / den ∧
      (num / den : ℚ) < 2 ^ ((num.log2 : ℤ) - den.log2 + 1) := by
  have hden : (0 : ℚ) < den := Nat.cast_pos.mpr hd
  have hle := two_zpow_log2_le hn
  have hlt := lt_two_zpow_log2 num
  have hle' := two_zpow_log2_le hd
  have hlt' := lt_two_zpow_log2 den
  constructor
  · rw [le_div_iff₀ hden]
    calc (2 : ℚ) ^ ((num.log2 : ℤ) - den.log2 - 1) * den
        ≤ 2 ^ ((num.log2 : ℤ) - den.log2 - 1) * 2 ^ (den.log2 + 1 : ℤ) :=
          mul_le_mul_of_nonneg_left hlt'.le (two_zpow_pos _).le
      _ = 2 ^ (num.log2 : ℤ) := by
          rw [← zpow_add₀ two_ne_zero]
          congr 1
          ring
      _ ≤ num := hle
  · rw [div_lt_iff₀ hden]
    calc (num : ℚ) < 2 ^ (num.log2 + 1 : ℤ) := hlt
      _ = 2 ^ ((num.log2 : ℤ) - den.log2 + 1) * 2 ^ (den.log2 : ℤ) := by
          rw [← zpow_add₀ two_ne_zero]
          congr 1
          ring
      _ ≤ 2 ^ ((num.log2 : ℤ) - den.log2 + 1) * den :=
          mul_le_mul_of_nonneg_left hle' (two_zpow_pos _).le

/-- Whether a ratio has at most 53 bits before the point, counted in units of a power of two. -/
theorem scaleRatio_lt_iff (num : ℕ) (hd : 0 < den) (e : ℤ) :
    (scaleRatio num den e).1 / (scaleRatio num den e).2 < Nat.pow 2 53 ↔
      (num / den : ℚ) < 2 ^ 53 * 2 ^ e := by
  have hpos := scaleRatio_pos num hd e
  have hpos' : (0 : ℚ) < (scaleRatio num den e).2 := Nat.cast_pos.mpr hpos
  rw [Nat.pow_eq, Nat.div_lt_iff_lt_mul hpos, ← div_lt_iff₀ (two_zpow_pos e), ← scaleRatio_div,
    div_lt_iff₀ hpos']
  exact_mod_cast Iff.rfl

/-- An exponent is raised to the least one of the format. -/
theorem max_exponent_bounds (hle : 2 ^ 52 * 2 ^ e ≤ q) (hlt : q < 2 ^ 53 * 2 ^ e) :
    q < 2 ^ 53 * 2 ^ max (-1074) e ∧
      (max (-1074) e = -1074 ∨ 2 ^ 52 * 2 ^ max (-1074) e ≤ q) := by
  rcases max_cases (-1074) e with ⟨hm, hge⟩ | ⟨hm, -⟩
  · rw [hm]
    have hpow : (2 : ℚ) ^ e ≤ 2 ^ (-1074 : ℤ) := zpow_le_zpow_right₀ one_le_two hge
    exact ⟨hlt.trans_le (mul_le_mul_of_nonneg_left hpow (by norm_num)), .inl rfl⟩
  · rw [hm]
    exact ⟨hlt, .inr hle⟩

/-- At the exponent chosen, a ratio has 53 bits before the point, or fewer at the least exponent. -/
theorem exponentOf_bounds (hn : 0 < num) (hd : 0 < den) :
    -1074 ≤ exponentOf num den ∧
    (num / den : ℚ) < 2 ^ 53 * 2 ^ exponentOf num den ∧
    (exponentOf num den = -1074 ∨ 2 ^ 52 * 2 ^ exponentOf num den ≤ (num / den : ℚ)) := by
  obtain ⟨hle, hlt⟩ := ratio_bounds hn hd
  have hiff := scaleRatio_lt_iff num hd ((num.log2 : ℤ) - den.log2 - 53)
  have hlow : (2 : ℚ) ^ ((num.log2 : ℤ) - den.log2 - 1) =
      2 ^ 52 * 2 ^ ((num.log2 : ℤ) - den.log2 - 53) := two_zpow_eq_mul 52 (by omega)
  have hhigh : (2 : ℚ) ^ ((num.log2 : ℤ) - den.log2 + 1) =
      2 ^ 54 * 2 ^ ((num.log2 : ℤ) - den.log2 - 53) := two_zpow_eq_mul 54 (by omega)
  rw [hlow] at hle
  rw [hhigh] at hlt
  simp only [exponentOf]
  generalize (num.log2 : ℤ) - den.log2 - 53 = low at hiff hle hlt ⊢
  have hdouble : (2 : ℚ) ^ (low + 1) = 2 * 2 ^ low := by
    rw [zpow_add_one₀ two_ne_zero, mul_comm]
  split
  · rename_i hc
    exact ⟨le_max_left _ _, max_exponent_bounds hle (hiff.mp hc)⟩
  · rename_i hc
    have hge : 2 ^ 53 * 2 ^ low ≤ (num / den : ℚ) := not_lt.mp (mt hiff.mpr hc)
    refine ⟨le_max_left _ _, max_exponent_bounds ?_ ?_⟩
    · rw [hdouble]
      linarith
    · rw [hdouble]
      linarith

/-- The mantissa to which a positive number is rounded at an exponent, without a bound on either. -/
structure RoundsOnGrid (q : ℚ) (mantissa : ℕ) (exponent : ℤ) : Prop where
  least_le : -1074 ≤ exponent
  upper : q < 2 ^ 53 * 2 ^ exponent
  lower : exponent = -1074 ∨ 2 ^ 52 * 2 ^ exponent ≤ q
  nearest : ∀ k : ℤ, |q - mantissa * 2 ^ exponent| ≤ |q - k * 2 ^ exponent|
  even : ∀ k : ℤ, |q - mantissa * 2 ^ exponent| = |q - k * 2 ^ exponent| → k ≠ mantissa →
    Even mantissa ∧ Odd k

/-- Distances in units of a power of two. -/
theorem distance_scaleRatio (hd : 0 < den) (e k : ℤ) :
    |(num / den : ℚ) - k * 2 ^ e| =
      (|((scaleRatio num den e).1 : ℤ) - k * (scaleRatio num den e).2| : ℤ) *
        (2 ^ e / (scaleRatio num den e).2) := by
  have hpos := scaleRatio_pos num hd e
  have hpos' : (0 : ℚ) < (scaleRatio num den e).2 := Nat.cast_pos.mpr hpos
  have hunit : (0 : ℚ) < 2 ^ e / (scaleRatio num den e).2 := div_pos (two_zpow_pos e) hpos'
  have hratio : (num / den : ℚ) = (scaleRatio num den e).1 / (scaleRatio num den e).2 * 2 ^ e := by
    rw [scaleRatio_div, div_mul_cancel₀ _ (two_zpow_pos e).ne']
  rw [hratio, Int.cast_abs, ← abs_of_pos hunit, ← abs_mul]
  congr 1
  push_cast
  field_simp

/-- A quotient is rounded to the grid at the exponent chosen for it. -/
theorem roundsOnGrid (hn : 0 < num) (hd : 0 < den) :
    RoundsOnGrid (num / den)
      (roundQuotient (scaleRatio num den (exponentOf num den)).1
        (scaleRatio num den (exponentOf num den)).2)
      (exponentOf num den) := by
  obtain ⟨hleast, hupper, hlower⟩ := exponentOf_bounds hn hd
  generalize exponentOf num den = e at hleast hupper hlower ⊢
  have hpos := scaleRatio_pos num hd e
  have hunit : (0 : ℚ) < 2 ^ e / (scaleRatio num den e).2 :=
    div_pos (two_zpow_pos e) (Nat.cast_pos.mpr hpos)
  refine ⟨hleast, hupper, hlower, fun k => ?_, fun k he hk => ?_⟩
  · rw [← Int.cast_natCast (roundQuotient _ _), distance_scaleRatio hd, distance_scaleRatio hd]
    exact mul_le_mul_of_nonneg_right (Int.cast_le.mpr (roundQuotient_nearest hpos k).1) hunit.le
  · rw [← Int.cast_natCast (roundQuotient _ _), distance_scaleRatio hd,
      distance_scaleRatio hd] at he
    have he' := Int.cast_injective (mul_right_cancel₀ hunit.ne' he)
    exact (roundQuotient_nearest hpos k).2 he' hk

namespace RoundsOnGrid

variable {mantissa : ℕ}

theorem mantissa_le (h : RoundsOnGrid q mantissa e) : mantissa ≤ 2 ^ 53 := by
  by_contra hlt
  have hm : (2 : ℚ) ^ 53 + 1 ≤ mantissa := by exact_mod_cast not_le.mp hlt
  have hunit := two_zpow_pos e
  have hk := h.nearest (2 ^ 53)
  push_cast at hk
  have hright : 2 ^ 53 * 2 ^ e < mantissa * (2 : ℚ) ^ e :=
    mul_lt_mul_of_pos_right (by linarith) hunit
  have hupper := h.upper
  rw [abs_of_nonpos (by linarith), abs_of_nonpos (by linarith)] at hk
  linarith

theorem le_mantissa (h : RoundsOnGrid q mantissa e) : e = -1074 ∨ 2 ^ 52 ≤ mantissa := by
  refine h.lower.imp_right fun hlower => ?_
  by_contra hlt
  have hm : (mantissa : ℚ) < 2 ^ 52 := by exact_mod_cast not_le.mp hlt
  have hunit := two_zpow_pos e
  have hk := h.nearest (2 ^ 52)
  push_cast at hk
  have hleft : mantissa * (2 : ℚ) ^ e < 2 ^ 52 * 2 ^ e := mul_lt_mul_of_pos_right hm hunit
  rw [abs_of_nonneg (by linarith), abs_of_nonneg (by linarith)] at hk
  linarith

end RoundsOnGrid

/-! ## The nearest number -/

/-- Whether the mantissa of a finite number is even. -/
def hasEvenMantissa : Binary64 → Bool
  | .finite _ mantissa _ _ => mantissa % 2 = 0
  | _ => false

/-- A finite number is the one to which `q` is rounded: none is nearer to `q`, and if another one is
as near, the mantissa is even. -/
structure IsNearest (x : Binary64) (q : ℚ) : Prop where
  finite : x.isFinite = true
  nearest : ∀ y : Binary64, y.isFinite = true → |q - x.toRat| ≤ |q - y.toRat|
  even : ∀ y : Binary64, y.isFinite = true → |q - x.toRat| = |q - y.toRat| → y.toRat ≠ x.toRat →
    x.hasEvenMantissa = true

theorem abs_signed (negative : Bool) (q : ℚ) : |signed negative q| = |q| := by
  cases negative with
  | false => rfl
  | true => exact abs_neg q

theorem even_unitsAt {mantissa : ℕ} (h : mantissa % 2 = 0) (negative : Bool) (e unit : ℤ) :
    Even (unitsAt negative mantissa e unit) := by
  have hm : Even (mantissa : ℤ) := (Int.even_coe_nat mantissa).mpr (Nat.even_iff.mpr h)
  have hunits : Even ((mantissa : ℤ) * Nat.pow 2 (e - unit).toNat) := hm.mul_right _
  cases negative with
  | false => exact hunits
  | true => exact hunits.neg

theorem Canonical.mantissa_le {mantissa : ℕ} (h : Canonical mantissa e) :
    (mantissa : ℚ) ≤ 2 ^ 53 - 1 := by
  have hlt : mantissa + 1 ≤ 2 ^ 53 := h.1
  rw [le_sub_iff_add_le]
  exact_mod_cast hlt

/-- A finite number is a whole number of units, an even one if its mantissa is even, unless its
magnitude is below that of all numbers with 53 bits in these units, and so at most that of the
number before them. -/
theorem exists_units_or_le (hy : y.isFinite = true) (e : ℤ) :
    (∃ k : ℤ, y.toRat = k * 2 ^ e ∧ (Odd k → y.hasEvenMantissa = false)) ∨
      e ≠ -1074 ∧ |y.toRat| ≤ (2 ^ 52 - 1 / 2) * 2 ^ e := by
  cases y with
  | finite s m e' hc =>
    have hleast := hc.2.1
    rcases le_or_gt e e' with he | he
    · refine .inl ⟨unitsAt s m e' e, (unitsAt_mul s m he).symm, fun hodd => ?_⟩
      rw [hasEvenMantissa, decide_eq_false_iff_not]
      exact fun heven => Int.not_even_iff_odd.mpr hodd (even_unitsAt heven s e' e)
    · refine .inr ⟨by omega, ?_⟩
      have hpos := two_zpow_pos e'
      have hm := hc.mantissa_le
      have hpow : (2 : ℚ) * 2 ^ e' ≤ 2 ^ e := by
        rw [mul_comm, ← zpow_add_one₀ two_ne_zero]
        exact zpow_le_zpow_right₀ one_le_two (by omega)
      rw [toRat, abs_signed, abs_of_nonneg (by positivity)]
      calc (m : ℚ) * 2 ^ e' ≤ (2 ^ 53 - 1) * 2 ^ e' := mul_le_mul_of_nonneg_right hm hpos.le
        _ = (2 ^ 52 - 1 / 2) * (2 * 2 ^ e') := by ring
        _ ≤ (2 ^ 52 - 1 / 2) * 2 ^ e := mul_le_mul_of_nonneg_left hpow (by norm_num)
  | _ => cases hy

/-- What is rounded at the right exponent is nearest among all finite numbers. -/
theorem RoundsOnGrid.nearest_finite {mantissa : ℕ} (h : RoundsOnGrid q mantissa e)
    (hy : y.isFinite = true) :
    |q - mantissa * 2 ^ e| ≤ |q - y.toRat| ∧
    (|q - mantissa * 2 ^ e| = |q - y.toRat| → y.toRat ≠ mantissa * 2 ^ e →
      Even mantissa ∧ y.hasEvenMantissa = false) := by
  rcases exists_units_or_le hy e with ⟨k, hk, hodd⟩ | ⟨hne, hle⟩
  · rw [hk]
    refine ⟨h.nearest k, fun he hkm => ?_⟩
    have hkm' : k ≠ mantissa := by
      rintro rfl
      exact hkm (by rw [Int.cast_natCast])
    obtain ⟨heven, hk'⟩ := h.even k he hkm'
    exact ⟨heven, hodd hk'⟩
  · have hlower := h.lower.resolve_left hne
    have hk := h.nearest (2 ^ 52)
    have hfloor : 0 ≤ q - 2 ^ 52 * 2 ^ e := sub_nonneg.mpr hlower
    rw [Int.cast_pow, Int.cast_ofNat, abs_of_nonneg hfloor] at hk
    have hpos := two_zpow_pos e
    have hy' : q - |y.toRat| ≤ |q - y.toRat| :=
      (sub_le_sub_left (le_abs_self _) q).trans (le_abs_self _)
    exact ⟨by linarith, fun he => absurd he (by linarith)⟩

/-! ## The other sign -/

theorem isFinite_neg (x : Binary64) : x.neg.isFinite = x.isFinite := by
  cases x <;> rfl

theorem hasEvenMantissa_neg (x : Binary64) : x.neg.hasEvenMantissa = x.hasEvenMantissa := by
  cases x <;> rfl

theorem neg_neg_self (x : Binary64) : x.neg.neg = x := by
  cases x <;> simp only [neg, Bool.not_not]

theorem toRat_neg (x : Binary64) : x.neg.toRat = -x.toRat := by
  cases x with
  | finite negative m e hc =>
    cases negative with
    | false => rfl
    | true => exact (neg_neg _).symm
  | _ => exact neg_zero.symm

theorem IsNearest.neg (h : x.IsNearest q) : x.neg.IsNearest (-q) := by
  have hdistance (y : Binary64) : |-q - y.toRat| = |q - y.neg.toRat| := by
    rw [toRat_neg, ← abs_neg]
    ring_nf
  refine ⟨(isFinite_neg x).trans h.finite, fun y hy => ?_, fun y hy he hne => ?_⟩
  · rw [hdistance, hdistance, neg_neg_self]
    exact h.nearest _ ((isFinite_neg y).trans hy)
  · rw [hdistance, hdistance, neg_neg_self] at he
    rw [hasEvenMantissa_neg]
    refine h.even _ ((isFinite_neg y).trans hy) he fun hxy => hne ?_
    rw [toRat_neg, ← hxy, toRat_neg, neg_neg]

theorem ofRatio_true (num den : ℕ) : ofRatio true num den = (ofRatio false num den).neg := by
  have hparts (m : ℕ) (e : ℤ) : ofParts true m e = (ofParts false m e).neg := by
    rw [ofParts, ofParts]
    split <;> rfl
  simp only [ofRatio, hparts, apply_ite Binary64.neg]
  rfl

/-! ## Quotients and integers -/

theorem ofParts_of_canonical {mantissa : ℕ} (h : Canonical mantissa e) (negative : Bool) :
    ofParts negative mantissa e = .finite negative mantissa e h :=
  dif_pos h

/-- The numbers from here on are rounded to no finite number: the mean of the greatest one and of
the number that would come after it. -/
def overflow : ℚ :=
  (2 ^ 53 - 1 / 2) * 2 ^ (971 : ℤ)

theorem lt_overflow (h : q < 2 ^ (1023 : ℤ)) : q < overflow :=
  calc q < 2 ^ (1023 : ℤ) := h
    _ = 2 ^ 52 * 2 ^ (971 : ℤ) := two_zpow_eq_mul 52 (by norm_num)
    _ ≤ overflow := mul_le_mul_of_nonneg_right (by norm_num) (two_zpow_pos _).le

namespace RoundsOnGrid

variable {mantissa : ℕ}

theorem exponent_le (h : RoundsOnGrid q mantissa e) (hlarge : q < overflow) : e ≤ 971 := by
  rcases h.lower with he | hlower
  · omega
  · have hpow : (2 : ℚ) ^ (52 + e) < 2 ^ (1024 : ℤ) :=
      calc (2 : ℚ) ^ (52 + e) = 2 ^ 52 * 2 ^ e := two_zpow_eq_mul 52 (by norm_num)
        _ ≤ q := hlower
        _ < overflow := hlarge
        _ ≤ 2 ^ 53 * 2 ^ (971 : ℤ) :=
          mul_le_mul_of_nonneg_right (by norm_num) (two_zpow_pos _).le
        _ = 2 ^ (1024 : ℤ) := (two_zpow_eq_mul 53 (by norm_num)).symm
    have hlt := (zpow_lt_zpow_iff_right₀ one_lt_two).mp hpow
    omega

/-- At the greatest exponent nothing is rounded up to 54 bits. -/
theorem exponent_lt (h : RoundsOnGrid q (2 ^ 53) e) (hlarge : q < overflow) : e ≤ 970 := by
  by_contra hlt
  have he : e = 971 := le_antisymm (h.exponent_le hlarge) (by omega)
  subst he
  have hk := h.nearest (2 ^ 53 - 1)
  have hpos := two_zpow_pos 971
  rw [overflow] at hlarge
  generalize (2 : ℚ) ^ (971 : ℤ) = unit at hlarge hk hpos
  have hup : 2 ^ 53 * unit - q ≤ |q - 2 ^ 53 * unit| := by
    rw [abs_sub_comm]
    exact le_abs_self _
  have hdown : |q - (2 ^ 53 - 1) * unit| < 2 ^ 53 * unit - q :=
    abs_lt.mpr ⟨by linarith, by linarith⟩
  rw [Nat.cast_pow, Nat.cast_ofNat, Int.cast_sub, Int.cast_pow, Int.cast_ofNat, Int.cast_one] at hk
  linarith

end RoundsOnGrid

/-- A quotient that is not too large is rounded to a finite number. -/
theorem ofRatio_roundsOnGrid (hn : 0 < num) (hd : 0 < den) (hlarge : (num / den : ℚ) < overflow) :
    ∃ (m : ℕ) (e : ℤ), RoundsOnGrid (num / den) m e ∧
      (ofRatio false num den).isFinite = true ∧ (ofRatio false num den).toRat = m * 2 ^ e ∧
      (Even m → (ofRatio false num den).hasEvenMantissa = true) := by
  have hgrid := roundsOnGrid hn hd
  refine ⟨_, _, hgrid, ?_⟩
  rw [ofRatio, if_neg (by omega)]
  simp only
  generalize roundQuotient _ _ = m at hgrid ⊢
  generalize exponentOf num den = e at hgrid ⊢
  have hleast := hgrid.least_le
  split
  · rename_i hm
    subst hm
    have hexp := hgrid.exponent_lt hlarge
    have hc : Canonical (Nat.pow 2 52) (e + 1) := ⟨by decide, by omega, by omega, .inl le_rfl⟩
    rw [ofParts_of_canonical hc]
    refine ⟨rfl, ?_, fun _ => rfl⟩
    show ((2 ^ 52 : ℕ) : ℚ) * 2 ^ (e + 1) = _
    rw [zpow_add_one₀ two_ne_zero, Nat.pow_eq]
    push_cast
    ring
  · rename_i hm
    have hc : Canonical m e :=
      ⟨lt_of_le_of_ne hgrid.mantissa_le hm, hleast, hgrid.exponent_le hlarge,
        hgrid.le_mantissa.symm⟩
    rw [ofParts_of_canonical hc]
    exact ⟨rfl, rfl, fun heven => decide_eq_true (Nat.even_iff.mp heven)⟩

/-- Rounding goes to the nearest number, and to no number of another value. -/
theorem ofRatio_isNearest (hn : 0 < num) (hd : 0 < den) (hlarge : (num / den : ℚ) < overflow) :
    (ofRatio false num den).IsNearest (num / den) ∧
      ∀ y : Binary64, y.IsNearest (num / den) → y.toRat = (ofRatio false num den).toRat := by
  obtain ⟨m, e, hgrid, hfinite, hvalue, hparity⟩ := ofRatio_roundsOnGrid hn hd hlarge
  have hnearest : (ofRatio false num den).IsNearest (num / den) := by
    refine ⟨hfinite, fun y hy => ?_, fun y hy he hne => ?_⟩
    · rw [hvalue]
      exact (hgrid.nearest_finite hy).1
    · rw [hvalue] at he hne
      exact hparity ((hgrid.nearest_finite hy).2 he hne).1
  refine ⟨hnearest, fun y hy => ?_⟩
  -- Two numbers as near would both have even mantissas, but the other one's is odd.
  by_contra hne
  have he := le_antisymm (hnearest.nearest y hy.finite) (hy.nearest _ hfinite)
  have heven := hy.even _ hfinite he.symm (Ne.symm hne)
  rw [hvalue] at he hne
  exact absurd heven (Bool.eq_false_iff.mp ((hgrid.nearest_finite hy.finite).2 he hne).2)

theorem ofInt_neg {n : ℤ} (hn : 0 < n) : ofInt (-n) = (ofInt n).neg := by
  rw [ofInt, ofInt, Int.natAbs_neg, decide_eq_true (by omega), decide_eq_false (by omega),
    ofRatio_true]

theorem toRat_ofInt_zero : (ofInt 0).toRat = 0 :=
  show ((0 : ℕ) : ℚ) * 2 ^ (-1074 : ℤ) = 0 by rw [Nat.cast_zero, zero_mul]

/-- An integer within the range of the format goes to the nearest number, and to no number of
another value. -/
theorem ofInt_isNearest {n : ℤ} (hlarge : |(n : ℚ)| < overflow) :
    (ofInt n).IsNearest n ∧ ∀ y : Binary64, y.IsNearest n → y.toRat = (ofInt n).toRat := by
  have hpositive {m : ℤ} (hm : 0 < m) (h : (m : ℚ) < overflow) :
      (ofInt m).IsNearest m ∧ ∀ y : Binary64, y.IsNearest m → y.toRat = (ofInt m).toRat := by
    lift m to ℕ using hm.le
    have hm' : 0 < m := Int.natCast_pos.mp hm
    have hround := ofRatio_isNearest hm' one_pos (by rwa [Nat.cast_one, div_one])
    rwa [Nat.cast_one, div_one] at hround
  rcases lt_trichotomy n 0 with hn | rfl | hn
  · rw [abs_of_neg (Int.cast_lt_zero.mpr hn), ← Int.cast_neg] at hlarge
    obtain ⟨hnearest, hunique⟩ := hpositive (neg_pos.mpr hn) hlarge
    have hneg := ofInt_neg (neg_pos.mpr hn)
    rw [neg_neg] at hneg
    rw [hneg]
    refine ⟨?_, fun y hy => ?_⟩
    · simpa only [Int.cast_neg, neg_neg] using hnearest.neg
    · have hy' := hunique y.neg (by rw [Int.cast_neg]; exact hy.neg)
      rw [toRat_neg] at hy' ⊢
      rw [← hy', neg_neg]
  · rw [Int.cast_zero]
    refine ⟨⟨rfl, fun y _ => ?_, fun _ _ _ _ => rfl⟩, fun y hy => ?_⟩
    · rw [toRat_ofInt_zero, sub_self, abs_zero]
      exact abs_nonneg _
    · have hle := hy.nearest (ofInt 0) rfl
      rw [toRat_ofInt_zero, sub_self, abs_zero, zero_sub, abs_neg] at hle
      rw [toRat_ofInt_zero]
      exact abs_nonpos_iff.mp hle
  · exact hpositive hn ((le_abs_self _).trans_lt hlarge)

/-! ## Equal values -/

theorem even_of_even_unitsAt (negative : Bool) {mantissa : ℕ}
    (h : Even (unitsAt negative mantissa e e)) : mantissa % 2 = 0 := by
  have hunits : (mantissa : ℤ) * Nat.pow 2 (e - e).toNat = mantissa := by
    rw [sub_self]
    exact mul_one _
  rw [unitsAt, hunits] at h
  cases negative with
  | false => exact Nat.even_iff.mp ((Int.even_coe_nat _).mp h)
  | true => exact Nat.even_iff.mp ((Int.even_coe_nat _).mp (even_neg.mp h))

/-- A value is held with one mantissa only, so that its parity depends on nothing else. -/
theorem hasEvenMantissa_of_toRat_eq (hx : x.isFinite = true) (hy : y.isFinite = true)
    (h : y.toRat = x.toRat) (heven : x.hasEvenMantissa = true) : y.hasEvenMantissa = true := by
  cases y with
  | finite s m e hc =>
    have hpos := two_zpow_pos e
    rcases exists_units_or_le hx e with ⟨k, hk, hodd⟩ | ⟨hne, hle⟩
    · rw [← h, toRat, ← unitsAt_mul s m le_rfl] at hk
      have hk' := Int.cast_injective (mul_right_cancel₀ hpos.ne' hk)
      have heven' : Even k := Int.not_odd_iff_even.mp fun h => by
        rw [hodd h] at heven
        cases heven
      exact decide_eq_true (even_of_even_unitsAt s (hk' ▸ heven'))
    · have hm : (2 : ℚ) ^ 52 ≤ m := by exact_mod_cast hc.2.2.2.resolve_right hne
      rw [← h, toRat, abs_signed, abs_of_nonneg (by positivity), mul_le_mul_iff_left₀ hpos] at hle
      linarith
  | _ => cases hy

theorem IsNearest.congr (hx : x.IsNearest q) (hy : y.isFinite = true) (h : y.toRat = x.toRat) :
    y.IsNearest q := by
  refine ⟨hy, fun z hz => ?_, fun z hz he hne => ?_⟩
  · rw [h]
    exact hx.nearest z hz
  · rw [h] at he hne
    exact hasEvenMantissa_of_toRat_eq hx.finite hy h (hx.even z hz he hne)

/-- Between a number and the one that it is rounded to, there is no other. -/
theorem IsNearest.toRat_le_iff (hx : x.IsNearest q) (hy : y.isFinite = true) :
    x.toRat ≤ y.toRat ↔ q ≤ y.toRat ∨ y.toRat = x.toRat := by
  have hle := hx.nearest y hy
  constructor
  · intro h
    rcases le_or_gt q y.toRat with hq | hq
    · exact .inl hq
    · rw [abs_of_pos (by linarith), abs_of_pos (by linarith)] at hle
      exact .inr (by linarith)
  · rintro (hq | h)
    · by_contra hlt
      rw [abs_of_nonpos (by linarith), abs_of_nonpos (by linarith)] at hle
      linarith
    · exact h.ge

theorem IsNearest.le_toRat_iff (hx : x.IsNearest q) (hy : y.isFinite = true) :
    y.toRat ≤ x.toRat ↔ y.toRat ≤ q ∨ y.toRat = x.toRat := by
  have h := hx.neg.toRat_le_iff (y := y.neg) ((isFinite_neg y).trans hy)
  simpa only [toRat_neg, neg_le_neg_iff, neg_inj] using h

/-! ## Integers of 53 bits -/

/-- What is a whole number of units is not changed by rounding. -/
theorem RoundsOnGrid.eq_of_eq_units {mantissa : ℕ} (h : RoundsOnGrid q mantissa e) (k : ℤ)
    (hq : q = k * 2 ^ e) : mantissa * 2 ^ e = q := by
  have hle := h.nearest k
  rw [← hq, sub_self, abs_zero] at hle
  exact (sub_eq_zero.mp (abs_nonpos_iff.mp hle)).symm

/-- The units in which such an integer is rounded are parts of one, or two for the last of them. -/
theorem RoundsOnGrid.exists_units {mantissa : ℕ} (h : RoundsOnGrid num mantissa e)
    (hnum : num ≤ 2 ^ 53) : ∃ k : ℤ, (num : ℚ) = k * 2 ^ e := by
  rcases le_or_gt e 0 with he | he
  · refine ⟨num * 2 ^ (-e).toNat, ?_⟩
    push_cast
    rw [two_zpow_toNat (by omega), mul_assoc, ← zpow_add₀ two_ne_zero, neg_add_cancel, zpow_zero,
      mul_one]
  · have hlower := h.lower.resolve_left (by omega)
    have hnum' : (num : ℚ) ≤ 2 ^ 52 * 2 ^ (1 : ℤ) := by
      norm_num
      exact_mod_cast hnum
    have hpow := le_of_mul_le_mul_left (hlower.trans hnum') (by norm_num)
    have he' : e = 1 := le_antisymm ((zpow_le_zpow_iff_right₀ one_lt_two).mp hpow) (by omega)
    subst he'
    refine ⟨2 ^ 52, ?_⟩
    push_cast
    exact le_antisymm hnum' hlower

theorem exists_toRat_eq_natCast (h : num ≤ 2 ^ 53) :
    ∃ y : Binary64, y.isFinite = true ∧ y.toRat = num := by
  rcases num.eq_zero_or_pos with rfl | hn
  · exact ⟨ofInt 0, rfl, by rw [toRat_ofInt_zero, Nat.cast_zero]⟩
  · have hlarge : (num / (1 : ℕ) : ℚ) < overflow := by
      have h' : (num : ℚ) ≤ 2 ^ (53 : ℤ) := by exact_mod_cast h
      rw [Nat.cast_one, div_one]
      exact lt_overflow (h'.trans_lt (zpow_lt_zpow_right₀ one_lt_two (by norm_num)))
    obtain ⟨m, e, hgrid, hfinite, hvalue, -⟩ := ofRatio_roundsOnGrid hn one_pos hlarge
    rw [Nat.cast_one, div_one] at hgrid
    obtain ⟨k, hk⟩ := hgrid.exists_units h
    exact ⟨_, hfinite, hvalue.trans (hgrid.eq_of_eq_units k hk)⟩

/-- Integers of up to 53 bits are numbers of the format. -/
theorem exists_toRat_eq {n : ℤ} (h : |n| ≤ 2 ^ 53) :
    ∃ y : Binary64, y.isFinite = true ∧ y.toRat = n := by
  obtain ⟨m, rfl | rfl⟩ := n.eq_nat_or_neg
  · rw [Nat.abs_cast] at h
    exact exists_toRat_eq_natCast (by exact_mod_cast h)
  · rw [abs_neg, Nat.abs_cast] at h
    have hm : m ≤ 2 ^ 53 := by exact_mod_cast h
    obtain ⟨y, hy, hvalue⟩ := exists_toRat_eq_natCast hm
    refine ⟨y.neg, (isFinite_neg y).trans hy, ?_⟩
    rw [toRat_neg, hvalue, Int.cast_neg, Int.cast_natCast]

/-- An integer of up to 53 bits is rounded to itself. -/
theorem IsNearest.toRat_eq {n : ℤ} (hx : x.IsNearest n) (h : |n| ≤ 2 ^ 53) : x.toRat = n := by
  obtain ⟨y, hy, hvalue⟩ := exists_toRat_eq h
  have hle := hx.nearest y hy
  rw [hvalue, sub_self, abs_zero] at hle
  exact (sub_eq_zero.mp (abs_nonpos_iff.mp hle)).symm

end FieldMap.Binary64
