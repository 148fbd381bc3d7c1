import FieldMap.Proofs.Acceptance
import FieldMap.Proofs.Rounding

/-!
# Bounds on values

A bound on values is a 64-bit binary number, and an integer is rounded to one before it is compared
with the bound. Rounding moves no integer across a number of the format, but it may move one onto
it: an integer is on the right side of a bound after rounding exactly if it is there before, or if
the bound is what it is rounded to (`Validator.accepts_int_iff`). Integers of up to 53 bits are
rounded to themselves; beyond them an integer next to a bound may pass it on the wrong side
(`Validator.accepts_int_past_bound`).
-/

namespace FieldMap.Validator

variable {b : Binary64} {n : ℤ}

theorem accepts_maxValue_int (hb : b.isFinite = true) (hn : (Binary64.ofInt n).isFinite = true) :
    (maxValue b).accepts (.int n) = true ↔ (Binary64.ofInt n).toRat ≤ b.toRat := by
  rw [← not_lt, ← Binary64.lt_iff hb hn, Bool.not_eq_true, ← Bool.not_eq_true']
  exact Eq.congr_left (toBool_demand _ _ _)

theorem accepts_minValue_int (hb : b.isFinite = true) (hn : (Binary64.ofInt n).isFinite = true) :
    (minValue b).accepts (.int n) = true ↔ b.toRat ≤ (Binary64.ofInt n).toRat := by
  rw [← not_lt, ← Binary64.lt_iff hn hb, Bool.not_eq_true, ← Bool.not_eq_true']
  exact Eq.congr_left (toBool_demand _ _ _)

/-- The integers of 64 bits are far within the range of the format. -/
theorem abs_lt_of_int64 (hlow : -2 ^ 63 ≤ n) (hhigh : n < 2 ^ 63) :
    |(n : ℚ)| < Binary64.overflow := by
  have habs : |n| ≤ 2 ^ 63 := abs_le.mpr ⟨hlow, hhigh.le⟩
  refine Binary64.lt_overflow ?_
  calc |(n : ℚ)| ≤ 2 ^ (63 : ℤ) := by exact_mod_cast habs
    _ < 2 ^ (1023 : ℤ) := zpow_lt_zpow_right₀ one_lt_two (by norm_num)

/-- Which 64-bit integers a finite bound lets through: those on its side, and those that are rounded
to it. Among integers of up to 53 bits the latter is the bound itself only. -/
theorem accepts_int_iff (hlow : -2 ^ 63 ≤ n) (hhigh : n < 2 ^ 63) (hb : b.isFinite = true) :
    ((maxValue b).accepts (.int n) = true ↔ n ≤ b.toRat ∨ b.IsNearest n) ∧
    ((minValue b).accepts (.int n) = true ↔ b.toRat ≤ n ∨ b.IsNearest n) ∧
    (|n| ≤ 2 ^ 53 → b.IsNearest n → b.toRat = n) := by
  obtain ⟨hnearest, hunique⟩ := Binary64.ofInt_isNearest (abs_lt_of_int64 hlow hhigh)
  have hrounded : b.IsNearest n ↔ b.toRat = (Binary64.ofInt n).toRat :=
    ⟨hunique b, hnearest.congr hb⟩
  rw [accepts_maxValue_int hb hnearest.finite, accepts_minValue_int hb hnearest.finite, hrounded]
  refine ⟨hnearest.toRat_le_iff hb, hnearest.le_toRat_iff hb, fun hn h => ?_⟩
  exact (hrounded.mpr h).toRat_eq hn

/-- Of the two numbers next to the integer after `2 ^ 53`, it is rounded to the even one, which as a
bound lets it through. -/
theorem isNearest_ofInt_twoPow :
    (2 ^ 53 + 1 : ℤ) < 2 ^ 63 ∧ (Binary64.ofInt (2 ^ 53)).isFinite = true ∧
      (Binary64.ofInt (2 ^ 53)).IsNearest ((2 ^ 53 + 1 : ℤ) : ℚ) := by
  have hhigh : (2 ^ 53 + 1 : ℤ) < 2 ^ 63 := by decide
  have hb : (Binary64.ofInt (2 ^ 53)).isFinite = true := by decide +kernel
  have haccepts : (maxValue (Binary64.ofInt (2 ^ 53))).accepts (.int (2 ^ 53 + 1)) = true := by
    decide +kernel
  have habove : ¬ ((2 ^ 53 + 1 : ℤ) : ℚ) ≤ (Binary64.ofInt (2 ^ 53)).toRat := by
    decide +kernel
  obtain ⟨hmax, -, -⟩ := accepts_int_iff (by decide) hhigh hb
  exact ⟨hhigh, hb, (hmax.mp haccepts).resolve_left habove⟩

/-- Integers may be let through on the wrong side of a bound, above it and below it. -/
theorem accepts_int_past_bound :
    ((Binary64.ofInt (2 ^ 53)).isFinite = true ∧
      (maxValue (Binary64.ofInt (2 ^ 53))).accepts (.int (2 ^ 53 + 1)) = true ∧
      ¬ ((2 ^ 53 + 1 : ℤ) : ℚ) ≤ (Binary64.ofInt (2 ^ 53)).toRat) ∧
    (Binary64.ofInt (-2 ^ 53)).isFinite = true ∧
      (minValue (Binary64.ofInt (-2 ^ 53))).accepts (.int (-2 ^ 53 - 1)) = true ∧
      ¬ (Binary64.ofInt (-2 ^ 53)).toRat ≤ ((-2 ^ 53 - 1 : ℤ) : ℚ) := by
  decide +kernel

end FieldMap.Validator
