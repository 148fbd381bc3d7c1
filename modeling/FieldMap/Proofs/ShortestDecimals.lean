import FieldMap.Number.Shortest
import FieldMap.Proofs.WholeNumbers

/-!
# Shortest decimals

The decimal that is found for a number lies in the interval of the reals that round to it
(`contains_shortest`), and so it reads back as the number (`Interval.Contains.isNearest`,
`Binary64.toRat_ofDecimal`).

A decimal is always found: on a grid no coarser than the units of the interval, the neighbour below
the number lies inside (`Interval.isSome_pointOnGrid?`), and the last grid of the search is fine
enough (`ten_zpow_coarsestGrid_le`).
-/

namespace FieldMap

open Binary64

variable {m : ℕ} {e : ℤ} {q : ℚ}

/-- The value of a decimal. -/
def Decimal.toRat (d : Decimal) : ℚ :=
  d.coefficient * 10 ^ d.exponent

/-! ## Intervals -/

namespace Interval

variable {i : Interval} {tie : Tie} {grid : ℤ}

/-- A real lies in an interval: between the ends, or at one of them if the interval is closed. -/
structure Contains (i : Interval) (q : ℚ) : Prop where
  low_le : i.low * 2 ^ i.exponent ≤ q
  le_high : q ≤ i.high * 2 ^ i.exponent
  isInside : i.closed = true ∨ i.low * 2 ^ i.exponent < q ∧ q < i.high * 2 ^ i.exponent

/-- A unit of an interval, as many times as the step of a grid is counted. -/
def unitOn (i : Interval) (grid : ℤ) : ℕ :=
  Nat.pow 2 i.exponent.toNat * Nat.pow 10 (-grid).toNat

/-- The step of a grid, as many times as a unit of the interval is counted. -/
def stepOf (i : Interval) (grid : ℤ) : ℕ :=
  Nat.pow 2 (-i.exponent).toNat * Nat.pow 10 grid.toNat

theorem stepOf_pos (i : Interval) (grid : ℤ) : 0 < i.stepOf grid :=
  Nat.mul_pos (Nat.pow_pos two_pos) (Nat.pow_pos (by decide))

theorem unitOn_pos (i : Interval) (grid : ℤ) : 0 < i.unitOn grid :=
  Nat.mul_pos (Nat.pow_pos two_pos) (Nat.pow_pos (by decide))

/-- Unit and step are counted in the same. -/
theorem unitOn_stepOf (i : Interval) (grid : ℤ) :
    ∃ scale : ℚ, 0 < scale ∧ i.unitOn grid = 2 ^ i.exponent * scale ∧
      i.stepOf grid = 10 ^ grid * scale := by
  have htwo := natPow_toNat two_pos i.exponent
  have hten := natPow_toNat (by decide : 0 < 10) grid
  have hpos : (0 : ℚ) < (Nat.pow 2 (-i.exponent).toNat * Nat.pow 10 (-grid).toNat : ℕ) :=
    Nat.cast_pos.mpr (Nat.mul_pos (Nat.pow_pos two_pos) (Nat.pow_pos (by decide)))
  refine ⟨_, hpos, ?_, ?_⟩
  · rw [unitOn, Nat.cast_mul, htwo, Nat.cast_mul, mul_assoc, Nat.cast_ofNat]
  · rw [stepOf, Nat.cast_mul, hten, Nat.cast_mul, Nat.cast_ofNat]
    ring

theorem unit_le_step_iff (i : Interval) (grid : ℤ) (a b : ℕ) :
    a * i.unitOn grid ≤ b * i.stepOf grid ↔ (a : ℚ) * 2 ^ i.exponent ≤ b * 10 ^ grid := by
  obtain ⟨scale, hpos, hunit, hstep⟩ := i.unitOn_stepOf grid
  rw [← Nat.cast_le (α := ℚ), Nat.cast_mul, Nat.cast_mul, hunit, hstep, ← mul_assoc, ← mul_assoc,
    mul_le_mul_iff_left₀ hpos]

theorem step_le_unit_iff (i : Interval) (grid : ℤ) (a b : ℕ) :
    b * i.stepOf grid ≤ a * i.unitOn grid ↔ (b : ℚ) * 10 ^ grid ≤ a * 2 ^ i.exponent := by
  obtain ⟨scale, hpos, hunit, hstep⟩ := i.unitOn_stepOf grid
  rw [← Nat.cast_le (α := ℚ), Nat.cast_mul, Nat.cast_mul, hunit, hstep, ← mul_assoc, ← mul_assoc,
    mul_le_mul_iff_left₀ hpos]

/-- A point of a grid that is found lies in the interval: it is a neighbour of the middle that lies
inside, or if both do the nearer one. -/
theorem contains_of_pointOnGrid? {d : Decimal} (h : i.pointOnGrid? tie grid = some d) :
    i.Contains d.toRat := by
  unfold pointOnGrid? at h
  extract_lets unit step below inside rest nearer at h
  have hinside {point : ℕ} (hp : inside point = true) : i.Contains (point * 10 ^ grid) := by
    simp only [inside] at hp
    split at hp <;> rw [Bool.and_eq_true, decide_eq_true_iff, decide_eq_true_iff] at hp
    · rename_i hclosed
      exact ⟨(i.unit_le_step_iff grid _ _).mp hp.1, (i.step_le_unit_iff grid _ _).mp hp.2,
        .inl hclosed⟩
    · have hlow := lt_of_not_ge (mt (i.step_le_unit_iff grid _ _).mpr hp.1.not_ge)
      have hhigh := lt_of_not_ge (mt (i.unit_le_step_iff grid _ _).mpr hp.2.not_ge)
      exact ⟨hlow.le, hhigh.le, .inr ⟨hlow, hhigh⟩⟩
  have hnearer : nearer = below ∨ nearer = below + 1 := by
    simp only [nearer]
    cases tie <;> split_ifs <;> simp
  split at h
  · rename_i hbelow habove
    cases h
    rcases hnearer with he | he
    · rw [← he] at hbelow
      exact hinside hbelow
    · rw [← he] at habove
      exact hinside habove
  · rename_i hbelow _
    cases h
    exact hinside hbelow
  · rename_i _ habove
    cases h
    exact hinside habove
  · cases h

/-- On a grid that is fine enough, the neighbour below the middle lies inside. -/
theorem isSome_pointOnGrid? (hlow : i.low + 1 ≤ i.middle) (hhigh : i.middle < i.high)
    (hgrid : (10 : ℚ) ^ grid ≤ 2 ^ i.exponent) : (i.pointOnGrid? tie grid).isSome = true := by
  have hstep : i.stepOf grid ≤ i.unitOn grid := by
    have h := (i.step_le_unit_iff grid 1 1).mpr
    simpa using h (by simpa using hgrid)
  have hinside : i.low * i.unitOn grid < i.middle * i.unitOn grid / i.stepOf grid * i.stepOf grid ∧
      i.middle * i.unitOn grid / i.stepOf grid * i.stepOf grid < i.high * i.unitOn grid := by
    have hrest := Nat.lt_div_mul_add (a := i.middle * i.unitOn grid) (i.stepOf_pos grid)
    have hle := Nat.div_mul_le_self (i.middle * i.unitOn grid) (i.stepOf grid)
    have hlow' := Nat.mul_le_mul_right (i.unitOn grid) hlow
    have hhigh' := Nat.mul_lt_mul_of_pos_right hhigh (i.unitOn_pos grid)
    rw [Nat.add_mul, Nat.one_mul] at hlow'
    omega
  unfold pointOnGrid?
  extract_lets unit step below inside rest nearer
  have hbelow : inside below = true := by
    simp only [inside]
    split <;> rw [Bool.and_eq_true, decide_eq_true_iff, decide_eq_true_iff]
    · exact ⟨hinside.1.le, hinside.2.le⟩
    · exact hinside
  rw [hbelow]
  cases inside (below + 1) <;> rfl

end Interval

/-! ## The search -/

/-- As `10 ^ 3` is below `2 ^ 10`. -/
theorem ten_zpow_le_two_zpow {g t : ℤ} (hg : 0 ≤ g) (h : 10 * g ≤ 3 * t) :
    (10 : ℚ) ^ g ≤ 2 ^ t := by
  refine le_of_pow_le_pow_left₀ three_ne_zero (two_zpow_pos t).le ?_
  calc ((10 : ℚ) ^ g) ^ 3 = (10 ^ 3) ^ g := by rw [← zpow_natCast, zpow_comm, zpow_natCast]
    _ ≤ (2 ^ 10) ^ g := zpow_le_zpow_left₀ hg (by norm_num) (by norm_num)
    _ = 2 ^ (10 * g) := by rw [zpow_mul, zpow_ofNat]
    _ ≤ 2 ^ (3 * t) := zpow_le_zpow_right₀ one_le_two h
    _ = (2 ^ t) ^ 3 := by rw [mul_comm, zpow_mul, zpow_ofNat]

/-- As `2 ^ 93` is below `10 ^ 28`. -/
theorem two_zpow_le_ten_zpow {g t : ℤ} (hg : 0 ≤ g) (h : 28 * t ≤ 93 * g) :
    (2 : ℚ) ^ t ≤ 10 ^ g := by
  have hten : (0 : ℚ) ≤ 10 ^ g := (zpow_pos (by norm_num) g).le
  refine le_of_pow_le_pow_left₀ (by decide : 28 ≠ 0) hten ?_
  calc ((2 : ℚ) ^ t) ^ 28 = 2 ^ (28 * t) := by rw [mul_comm, zpow_mul, zpow_ofNat]
    _ ≤ 2 ^ (93 * g) := zpow_le_zpow_right₀ one_le_two h
    _ = (2 ^ 93) ^ g := by rw [zpow_mul, zpow_ofNat]
    _ ≤ (10 ^ 28) ^ g := zpow_le_zpow_left₀ hg (by norm_num) (by norm_num)
    _ = (10 ^ g) ^ 28 := by rw [← zpow_natCast, zpow_comm, zpow_natCast]

theorem ten_zpow_le_two_zpow_of_nonpos {g t : ℤ} (hg : g ≤ 0) (h : 93 * g ≤ 28 * t) :
    (10 : ℚ) ^ g ≤ 2 ^ t := by
  have hinv : (2 : ℚ) ^ (-t) ≤ 10 ^ (-g) := two_zpow_le_ten_zpow (neg_nonneg.mpr hg) (by omega)
  rw [zpow_neg, zpow_neg] at hinv
  exact (inv_le_inv₀ (two_zpow_pos t) (zpow_pos (by norm_num) g)).mp hinv

/-- The last grid that is tried is fine enough. -/
theorem ten_zpow_coarsestGrid_le (hc : Canonical m e) (hm : m ≠ 0) :
    (10 : ℚ) ^ (coarsestGrid m e - 39) ≤ 2 ^ (e - 2) := by
  have hlog : m.log2 < 53 := (Nat.log2_lt hm).mpr hc.1
  have hleast := hc.2.1
  have hgreatest := hc.2.2.1
  rcases le_total 0 (coarsestGrid m e - 39) with hg | hg
  · refine ten_zpow_le_two_zpow hg ?_
    simp only [coarsestGrid] at hg ⊢
    split at hg <;> omega
  · refine ten_zpow_le_two_zpow_of_nonpos hg ?_
    simp only [coarsestGrid] at hg ⊢
    split at hg <;> omega

theorem low_add_one_le_middle (hm : m ≠ 0) (e : ℤ) :
    (Interval.around m e).low + 1 ≤ (Interval.around m e).middle := by
  simp only [Interval.around]
  split <;> omega

/-- A decimal is found for every positive number, and it lies in the number's interval. -/
theorem contains_shortest (tie : Tie) (hc : Canonical m e) (hm : m ≠ 0) :
    (Interval.around m e).Contains (shortest tie m e).toRat := by
  rw [shortest]
  split
  · rename_i d hd
    obtain ⟨k, -, hk⟩ := List.exists_of_findSome?_eq_some hd
    exact Interval.contains_of_pointOnGrid? hk
  · rename_i hnone
    have hlast := List.findSome?_eq_none_iff.mp hnone 39 (List.mem_range.mpr (by decide))
    have hfound : ((Interval.around m e).pointOnGrid? tie (coarsestGrid m e - 39)).isSome = true :=
      Interval.isSome_pointOnGrid? (low_add_one_le_middle hm e)
        (Nat.lt_add_of_pos_right two_pos) (ten_zpow_coarsestGrid_le hc hm)
    rw [Nat.cast_ofNat] at hlast
    rw [hlast] at hfound
    cases hfound

/-! ## Reading back -/

/-- Of two numbers, the upper one is the nearer to what is not below their mean. -/
theorem abs_sub_le_of_mean_le {x y : ℚ} (hlt : y < x) (h : (y + x) / 2 ≤ q) :
    |q - x| ≤ |q - y| ∧ (|q - x| = |q - y| → q = (y + x) / 2) := by
  have hy : |q - y| = q - y := abs_of_pos (by linarith)
  rw [hy]
  refine ⟨abs_le.mpr ⟨by linarith, by linarith⟩, fun he => ?_⟩
  rcases abs_cases (q - x) with ⟨hx, -⟩ | ⟨hx, -⟩ <;> rw [hx] at he <;> linarith

theorem abs_sub_le_of_le_mean {x y : ℚ} (hlt : x < y) (h : q ≤ (x + y) / 2) :
    |q - x| ≤ |q - y| ∧ (|q - x| = |q - y| → q = (x + y) / 2) := by
  have hneg := abs_sub_le_of_mean_le (q := -q) (neg_lt_neg hlt) (by linarith)
  rw [← neg_sub', ← neg_sub', abs_neg, abs_neg] at hneg
  exact hneg.imp_right fun h' he => by linarith [h' he]

namespace Interval

theorem low_around (m : ℕ) (e : ℤ) (hm : m ≠ 0) :
    ((around m e).low : ℚ) * 2 ^ (around m e).exponent =
      (m - if m = Nat.pow 2 52 ∧ e ≠ -1074 then 1 / 4 else 1 / 2) * 2 ^ e := by
  have hunit : (2 : ℚ) ^ e = 2 ^ 2 * 2 ^ (e - 2) := two_zpow_eq_mul 2 (by ring)
  rw [hunit]
  simp only [around]
  split
  · rw [Nat.cast_sub (by omega)]
    push_cast
    ring
  · rw [Nat.cast_sub (by omega)]
    push_cast
    ring

theorem high_around (m : ℕ) (e : ℤ) :
    ((around m e).high : ℚ) * 2 ^ (around m e).exponent = (m + 1 / 2) * 2 ^ e := by
  have hunit : (2 : ℚ) ^ e = 2 ^ 2 * 2 ^ (e - 2) := two_zpow_eq_mul 2 (by ring)
  rw [hunit]
  simp only [around]
  push_cast
  ring

variable {y : Binary64}

/-- The lower end is not below the mean of the number and of any smaller one. -/
theorem mean_le_low (hc : Canonical m e) (hm : m ≠ 0) (hy : y.isFinite = true)
    (hlt : y.toRat < m * 2 ^ e) :
    (y.toRat + m * 2 ^ e) / 2 ≤ (around m e).low * 2 ^ (around m e).exponent := by
  have hpos := two_zpow_pos e
  rw [low_around m e hm]
  rcases exists_units_or_le hy e with ⟨k, hk, -⟩ | ⟨hne, hle⟩
  · rw [hk] at hlt ⊢
    have hkm : (k : ℚ) + 1 ≤ m := by
      have h : (k : ℚ) < (m : ℤ) := by exact_mod_cast (mul_lt_mul_iff_left₀ hpos).mp hlt
      exact_mod_cast Int.add_one_le_of_lt (Int.cast_lt.mp h)
    have hstep : (k + 1) * (2 : ℚ) ^ e ≤ m * 2 ^ e := mul_le_mul_of_nonneg_right hkm hpos.le
    split <;> linarith
  · have hle' : y.toRat ≤ (2 ^ 52 - 1 / 2) * 2 ^ e := (le_abs_self _).trans hle
    have hm' : Nat.pow 2 52 ≤ m := hc.2.2.2.resolve_right hne
    split
    · rename_i h
      rw [h.1, Nat.pow_eq, Nat.cast_pow, Nat.cast_ofNat]
      linarith
    · rename_i h
      have hm'' : (2 : ℚ) ^ 52 + 1 ≤ m := by
        exact_mod_cast lt_of_le_of_ne hm' fun h' => h ⟨h'.symm, hne⟩
      have hstep : (2 ^ 52 + 1) * (2 : ℚ) ^ e ≤ m * 2 ^ e := mul_le_mul_of_nonneg_right hm'' hpos.le
      linarith

/-- The upper end is not above the mean of the number and of any greater one. -/
theorem high_le_mean (hc : Canonical m e) (hy : y.isFinite = true) (hlt : m * 2 ^ e < y.toRat) :
    (around m e).high * 2 ^ (around m e).exponent ≤ (m * 2 ^ e + y.toRat) / 2 := by
  have hpos := two_zpow_pos e
  rw [high_around m e]
  rcases exists_units_or_le hy e with ⟨k, hk, -⟩ | ⟨hne, hle⟩
  · rw [hk] at hlt ⊢
    have hkm : (m : ℚ) + 1 ≤ k := by
      have h : ((m : ℤ) : ℚ) < k := by exact_mod_cast (mul_lt_mul_iff_left₀ hpos).mp hlt
      exact_mod_cast Int.add_one_le_of_lt (Int.cast_lt.mp h)
    have hstep : (m + 1) * (2 : ℚ) ^ e ≤ k * 2 ^ e := mul_le_mul_of_nonneg_right hkm hpos.le
    linarith
  · have hm : (2 : ℚ) ^ 52 ≤ m := by exact_mod_cast hc.2.2.2.resolve_right hne
    have hstep : 2 ^ 52 * (2 : ℚ) ^ e ≤ m * 2 ^ e := mul_le_mul_of_nonneg_right hm hpos.le
    have hle' : y.toRat ≤ (2 ^ 52 - 1 / 2) * 2 ^ e := (le_abs_self _).trans hle
    linarith

/-- What lies in the interval of a number is rounded to the number. -/
theorem Contains.isNearest (h : (around m e).Contains q) (hc : Canonical m e) (hm : m ≠ 0) :
    (Binary64.finite false m e hc).IsNearest q := by
  have hvalue : (Binary64.finite false m e hc).toRat = m * 2 ^ e := rfl
  have hmean {y : Binary64} (hy : y.isFinite = true) (hne : y.toRat ≠ m * 2 ^ e) :
      |q - m * 2 ^ e| ≤ |q - y.toRat| ∧
        (|q - m * 2 ^ e| = |q - y.toRat| → (around m e).closed = true) := by
    rcases lt_or_gt_of_ne hne with hlt | hlt
    · have hlow := mean_le_low hc hm hy hlt
      refine (abs_sub_le_of_mean_le hlt (hlow.trans h.low_le)).imp_right fun hmid he => ?_
      exact h.isInside.resolve_right fun hin => (hmid he ▸ hin.1).not_ge hlow
    · have hhigh := high_le_mean hc hy hlt
      refine (abs_sub_le_of_le_mean hlt (h.le_high.trans hhigh)).imp_right fun hmid he => ?_
      exact h.isInside.resolve_right fun hin => (hmid he ▸ hin.2).not_ge hhigh
  refine ⟨rfl, fun y hy => ?_, fun y hy he hne => ?_⟩
  · rw [hvalue]
    rcases eq_or_ne y.toRat (m * 2 ^ e) with heq | hne
    · rw [heq]
    · exact (hmean hy hne).1
  · rw [hvalue] at he hne
    exact decide_eq_true (beq_iff_eq.mp ((hmean hy hne).2 he))

/-- The intervals of the numbers end where numbers are too large to be rounded. -/
theorem Contains.lt_overflow (h : (around m e).Contains q) (hc : Canonical m e) : q < overflow := by
  have hpow : (2 : ℚ) ^ e ≤ 2 ^ (971 : ℤ) := zpow_le_zpow_right₀ one_le_two hc.2.2.1
  have hpos := two_zpow_pos 971
  have hm := hc.mantissa_le
  have hle := h.le_high
  have hin := h.isInside.imp_right And.right
  rw [high_around] at hle hin
  rw [overflow]
  generalize (2 : ℚ) ^ (971 : ℤ) = unit at hpow hpos ⊢
  have hend : (m + 1 / 2) * (2 : ℚ) ^ e ≤ (m + 1 / 2) * unit :=
    mul_le_mul_of_nonneg_left hpow (by positivity)
  rcases hin with hclosed | hlt
  · have heven : m % 2 = 0 := beq_iff_eq.mp hclosed
    have hm' : (m : ℚ) + 1 ≤ 2 ^ 53 - 1 := by
      have hlt : m < 2 ^ 53 := hc.1
      rw [le_sub_iff_add_le]
      exact_mod_cast (by omega : m + 1 + 1 ≤ 2 ^ 53)
    have hlast : (m + 1 / 2) * unit < (2 ^ 53 - 1 / 2) * unit :=
      mul_lt_mul_of_pos_right (by linarith) hpos
    linarith
  · have hlast : (m + 1 / 2) * unit ≤ (2 ^ 53 - 1 / 2) * unit :=
      mul_le_mul_of_nonneg_right (by linarith) hpos.le
    linarith

end Interval

/-! ## Reading decimals -/

namespace Binary64

variable {x y : Binary64} {digits : ℕ} {exponent : ℤ}

/-- Zero is nearer than all other numbers to what is below half of the least positive one. -/
theorem lt_abs_sub (hq : |q| < 2 ^ (-1075 : ℤ)) (hy : y.isFinite = true) (hne : y.toRat ≠ 0) :
    |q| < |q - y.toRat| := by
  have hunit : (2 : ℚ) ^ (-1074 : ℤ) = 2 ^ 1 * 2 ^ (-1075 : ℤ) := two_zpow_eq_mul 1 (by norm_num)
  obtain ⟨k, hk, -⟩ := (exists_units_or_le hy (-1074)).resolve_right fun h => h.1 rfl
  have hk' : (1 : ℚ) ≤ |(k : ℚ)| := by
    have hk0 : k ≠ 0 := by
      rintro rfl
      exact hne (by rw [hk, Int.cast_zero, zero_mul])
    exact_mod_cast Int.one_le_abs hk0
  have hvalue : (2 : ℚ) ^ (-1074 : ℤ) ≤ |y.toRat| := by
    rw [hk, abs_mul, abs_of_pos (two_zpow_pos (-1074))]
    exact le_mul_of_one_le_left (two_zpow_pos _).le hk'
  have htriangle := abs_sub_abs_le_abs_sub y.toRat q
  rw [abs_sub_comm] at htriangle
  linarith

theorem isNearest_zero_iff (hq : |q| < 2 ^ (-1075 : ℤ)) :
    x.IsNearest q ↔ x.isFinite = true ∧ x.toRat = 0 := by
  refine ⟨fun hx => ⟨hx.finite, ?_⟩, fun hx => ⟨hx.1, fun y hy => ?_, fun y hy he hne => ?_⟩⟩
  · by_contra hne
    have hle := hx.nearest (zero false) rfl
    have hzero : (zero false).toRat = 0 := toRat_ofInt_zero
    rw [hzero, sub_zero] at hle
    exact hle.not_gt (lt_abs_sub hq hx.finite hne)
  · rw [hx.2, sub_zero]
    rcases eq_or_ne y.toRat 0 with hy0 | hy0
    · rw [hy0, sub_zero]
    · exact (lt_abs_sub hq hy hy0).le
  · rw [hx.2] at he hne
    rw [sub_zero] at he
    exact absurd he (lt_abs_sub hq hy hne).ne

/-- The power of ten of the first digit bounds a decimal. -/
theorem decimal_bounds (hd : digits ≠ 0) (exponent : ℤ) :
    (10 : ℚ) ^ ((Nat.toDigits 10 digits).length + exponent - 1) ≤ digits * 10 ^ exponent ∧
      digits * (10 : ℚ) ^ exponent < 10 ^ ((Nat.toDigits 10 digits).length + exponent) := by
  have hten : (0 : ℚ) < 10 ^ exponent := zpow_pos (by norm_num) _
  have hlength : 0 < (Nat.toDigits 10 digits).length := Nat.length_toDigits_pos
  have hbounds (k : ℕ) := Nat.length_toDigits_le_iff (b := 10) (n := digits) (k := k) (by decide)
  generalize (Nat.toDigits 10 digits).length = length at hlength hbounds
  have hpower (k : ℤ) : (10 : ℚ) ^ (k + exponent) = 10 ^ k * 10 ^ exponent :=
    zpow_add₀ (by norm_num) _ _
  constructor
  · have hle : 10 ^ (length - 1) ≤ digits := by
      rcases Nat.eq_zero_or_pos (length - 1) with h | h
      · rw [h, pow_zero]
        omega
      · exact not_lt.mp fun hlt => absurd ((hbounds _ h).mpr hlt) (by omega)
    have hcast : ((length : ℤ) - 1) = ((length - 1 : ℕ) : ℤ) := by omega
    rw [add_sub_right_comm, hpower, hcast, zpow_natCast]
    exact mul_le_mul_of_nonneg_right (by exact_mod_cast hle) hten.le
  · have hlt := (hbounds _ hlength).mp le_rfl
    rw [hpower, zpow_natCast]
    exact mul_lt_mul_of_pos_right (by exact_mod_cast hlt) hten

theorem overflow_le : overflow ≤ 10 ^ (310 : ℤ) :=
  calc overflow ≤ 2 ^ 53 * 2 ^ (971 : ℤ) :=
      mul_le_mul_of_nonneg_right (by norm_num) (two_zpow_pos _).le
    _ = 2 ^ (1024 : ℤ) := (two_zpow_eq_mul 53 (by norm_num)).symm
    _ ≤ 10 ^ (310 : ℤ) := two_zpow_le_ten_zpow (by norm_num) (by norm_num)

/-- A decimal that is not too large goes to the nearest number, and to no number of another
value. -/
theorem ofDecimal_isNearest (h : digits * (10 : ℚ) ^ exponent < overflow) :
    (ofDecimal false digits exponent).IsNearest (digits * 10 ^ exponent) ∧
      ∀ y : Binary64, y.IsNearest (digits * 10 ^ exponent) →
        y.toRat = (ofDecimal false digits exponent).toRat := by
  have hzero (hq : |digits * (10 : ℚ) ^ exponent| < 2 ^ (-1075 : ℤ)) :
      (zero false).IsNearest (digits * 10 ^ exponent) ∧
        ∀ y : Binary64, y.IsNearest (digits * 10 ^ exponent) → y.toRat = (zero false).toRat :=
    ⟨(isNearest_zero_iff hq).mpr ⟨rfl, toRat_ofInt_zero⟩, fun y hy =>
      ((isNearest_zero_iff hq).mp hy).2.trans toRat_ofInt_zero.symm⟩
  rw [ofDecimal]
  split
  · rename_i hd
    refine hzero ?_
    rw [hd, Nat.cast_zero, zero_mul, abs_zero]
    exact two_zpow_pos _
  rename_i hd
  obtain ⟨hlow, hhigh⟩ := decimal_bounds hd exponent
  simp only
  split
  · rename_i hlarge
    have hten : (10 : ℚ) ^ (310 : ℤ) ≤ 10 ^ ((Nat.toDigits 10 digits).length + exponent - 1) :=
      zpow_le_zpow_right₀ (by norm_num) (by omega)
    exact absurd (h.trans_le overflow_le) (hten.trans hlow).not_gt
  split
  · rename_i hsmall
    refine hzero ?_
    rw [abs_of_nonneg (by positivity)]
    calc digits * (10 : ℚ) ^ exponent
        < 10 ^ ((Nat.toDigits 10 digits).length + exponent) := hhigh
      _ ≤ 10 ^ (-331 : ℤ) := zpow_le_zpow_right₀ (by norm_num) (by omega)
      _ ≤ 2 ^ (-1075 : ℤ) := ten_zpow_le_two_zpow_of_nonpos (by norm_num) (by norm_num)
  · have hratio := mul_natPow_div (by decide : 0 < 10) digits exponent
    rw [Nat.cast_ofNat] at hratio
    rw [← hratio] at h ⊢
    exact ofRatio_isNearest (Nat.mul_pos (Nat.pos_of_ne_zero hd) (Nat.pow_pos (by decide)))
      (Nat.pow_pos (by decide)) h

theorem ofDecimal_true (digits : ℕ) (exponent : ℤ) :
    ofDecimal true digits exponent = (ofDecimal false digits exponent).neg := by
  simp only [ofDecimal, ofRatio_true, apply_ite Binary64.neg]
  rfl

/-- A decimal that is rounded to a number is read as this number. -/
theorem toRat_ofDecimal (hx : x.IsNearest (digits * 10 ^ exponent))
    (h : digits * (10 : ℚ) ^ exponent < overflow) (negative : Bool) :
    (ofDecimal negative digits exponent).isFinite = true ∧
      (ofDecimal negative digits exponent).toRat = signed negative x.toRat := by
  obtain ⟨hnearest, hunique⟩ := ofDecimal_isNearest h
  rw [hunique x hx]
  cases negative with
  | false => exact ⟨hnearest.finite, rfl⟩
  | true =>
    rw [ofDecimal_true, isFinite_neg, toRat_neg]
    exact ⟨hnearest.finite, rfl⟩

end Binary64

end FieldMap
