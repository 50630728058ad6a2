/-
Module: QueryDesk.Proofs.Number.Ceiling
Purpose: The value that a quotient is rounded to, and when rounding crosses no whole number. A quotient is
  beyond all finite numbers from the middle between the greatest one and the next power of two on. Up to
  a numerator of 2 ^ 53 the rounded quotient has the ceiling of the exact one, unless it is so small that
  it is rounded to zero.
Imports: QueryDesk.Proofs.Number.ReadBack
Main exports: unitExponent, nearestMantissa, Overflows, overflows_iff, toRat?_ofRatio, ceil?_eq_some_iff,
  isSome_ceil?_ofRatio_iff, ceil?_ofRatio_iff
-/
import QueryDesk.Proofs.Number.ReadBack

namespace QueryDesk.Number

variable {num den : Nat} {exponent : Int}

/-- A half goes to the even neighbour. -/
theorem divHalfEven_of_half {low : Nat} (den_pos : 0 < den) (half : (num : ℚ) / den = low + 1 / 2) :
    divHalfEven num den = low + low % 2 := by
  have den_pos' : (den : ℚ) ≠ 0 := by exact_mod_cast den_pos.ne'
  have twice : num * 2 = (2 * low + 1) * den := by
    rw [div_eq_iff den_pos'] at half
    have : (num : ℚ) * 2 = (2 * low + 1) * den := by rw [half]; ring
    exact_mod_cast this
  rw [divHalfEven_congr den_pos (by decide : 0 < 2) twice, divHalfEven]
  have quotient : (2 * low + 1) / 2 = low := by omega
  have rest : (2 * low + 1) % 2 = 1 := by omega
  rw [quotient, rest]
  rcases Nat.mod_two_eq_zero_or_one low with even | odd
  · simp [even]
  · simp [odd]

namespace Binary64

/-- The exponent of the unit in which the mantissa of a quotient counts. -/
def unitExponent (num den : Nat) : Int :=
  max (floorLog2 num den - 52) (-1074)

/-- The mantissa that a quotient is rounded to. -/
def nearestMantissa (num den : Nat) : Nat :=
  mantissaFor num den (unitExponent num den)

theorem zpow_two_pos (exponent : Int) : (0 : ℚ) < 2 ^ exponent :=
  zpow_pos (by norm_num) exponent

/-- A rounded mantissa is at most half a unit away from the quotient. -/
theorem abs_sub_mantissaFor_le (num : Nat) (den_pos : 0 < den) (exponent : Int) :
    |(num : ℚ) / den / 2 ^ exponent - mantissaFor num den exponent| ≤ 1 / 2 := by
  have scaled := @quotient_div_zpow 2 (by decide) num den exponent
  rw [Nat.cast_ofNat] at scaled
  rw [scaled, mantissaFor]
  split_ifs
  · exact abs_sub_divHalfEven_le num (Nat.mul_pos den_pos (Nat.pow_pos (by decide)))
  · exact abs_sub_divHalfEven_le (num * twoTo (-exponent).toNat) den_pos

theorem mantissaFor_of_half {low : Nat} (den_pos : 0 < den)
    (half : (num : ℚ) / den / 2 ^ exponent = low + 1 / 2) :
    mantissaFor num den exponent = low + low % 2 := by
  have scaled := @quotient_div_zpow 2 (by decide) num den exponent
  rw [Nat.cast_ofNat] at scaled
  rw [scaled] at half
  rw [mantissaFor]
  split_ifs at half ⊢
  · exact divHalfEven_of_half (Nat.mul_pos den_pos (Nat.pow_pos (by decide))) half
  · exact divHalfEven_of_half den_pos half

/-- A quotient of at most so many units has at most this mantissa. -/
theorem mantissaFor_le {most : Nat} (den_pos : 0 < den)
    (upper : (num : ℚ) / den / 2 ^ exponent ≤ most) : mantissaFor num den exponent ≤ most := by
  have near := (abs_le.1 (abs_sub_mantissaFor_le num den_pos exponent)).1
  have : (mantissaFor num den exponent : ℚ) < most + 1 := by linarith
  exact Nat.lt_succ_iff.1 (by exact_mod_cast this)

/-- More than half a unit above a whole number, the mantissa is above it. -/
theorem lt_mantissaFor {low : Nat} (den_pos : 0 < den)
    (lower : (low : ℚ) + 1 / 2 < (num : ℚ) / den / 2 ^ exponent) :
    low < mantissaFor num den exponent := by
  have near := (abs_le.1 (abs_sub_mantissaFor_le num den_pos exponent)).2
  have : (low : ℚ) < mantissaFor num den exponent := by linarith
  exact_mod_cast this

/-- At most half a unit above an even number, the mantissa is not above it. -/
theorem mantissaFor_le_of_even {low : Nat} (den_pos : 0 < den) (even : low % 2 = 0)
    (upper : (num : ℚ) / den / 2 ^ exponent ≤ low + 1 / 2) : mantissaFor num den exponent ≤ low := by
  rcases upper.eq_or_lt with half | below
  · rw [mantissaFor_of_half den_pos half, even]
    exact le_rfl
  · have near := (abs_le.1 (abs_sub_mantissaFor_le num den_pos exponent)).1
    have : (mantissaFor num den exponent : ℚ) < low + 1 := by linarith
    exact Nat.lt_succ_iff.1 (by exact_mod_cast this)

/-- The quotient in units of its mantissa: below 2 ^ 53, and from 2 ^ 52 on unless the unit is the least. -/
theorem units_bounds (num_pos : 0 < num) (den_pos : 0 < den) :
    (num : ℚ) / den / 2 ^ unitExponent num den < 2 ^ 53 ∧
      (-1074 < unitExponent num den → 2 ^ 52 ≤ (num : ℚ) / den / 2 ^ unitExponent num den) := by
  have positive : (0 : ℚ) < (num : ℚ) / den := by positivity
  have log := floorLog2_eq num_pos den_pos
  rw [div_lt_iff₀ (zpow_two_pos _), le_div_iff₀ (zpow_two_pos _), ← zpow_natCast, ← zpow_natCast,
    ← zpow_add₀ (by norm_num), ← zpow_add₀ (by norm_num)]
  constructor
  · refine (Int.lt_zpow_iff_log_lt (by decide : 1 < 2) positive).2 ?_
    rw [← log, unitExponent]
    omega
  · intro above
    refine (Int.zpow_le_iff_le_log (by decide : 1 < 2) positive).2 ?_
    rw [unitExponent] at above
    rw [← log, unitExponent]
    omega

theorem toRat?_finite (mantissa : Nat) (exponent : Int) :
    (Binary64.finite false mantissa exponent).toRat? = some ((mantissa : ℚ) * 2 ^ exponent) := by
  change some (mkRat (magnitude mantissa exponent).1 (magnitude mantissa exponent).2) = _
  rw [Rat.mkRat_eq_div, Int.cast_natCast, magnitude_eq]

/-- A mantissa is carried over into the exponent when it is full, and its number is finite up to the
greatest exponent. -/
theorem toRat?_assemble (mantissa : Nat) (exponent : Int) :
    (assemble false mantissa exponent).toRat? =
      if 971 < exponent ∨ mantissa = 2 ^ 53 ∧ exponent = 971 then none
      else some ((mantissa : ℚ) * 2 ^ exponent) := by
  by_cases full : mantissa = 2 ^ 53
  · subst full
    have carried : assemble false (2 ^ 53) exponent =
        if 971 < exponent + 1 then .infinite false else .finite false (2 ^ 52) (exponent + 1) := rfl
    rw [carried]
    split_ifs with beyond infinite infinite
    · rfl
    · omega
    · omega
    · rw [toRat?_finite, zpow_add_one₀ (by norm_num)]
      push_cast
      congr 1
      ring
  · have kept : assemble false mantissa exponent =
        if 971 < exponent then .infinite false else .finite false mantissa exponent := by
      rw [assemble, if_neg (by simpa [twoTo] using full)]
    simp only [kept, full, false_and, or_false]
    split_ifs
    · rfl
    · exact toRat?_finite mantissa exponent

/-- Whether a quotient is beyond all finite numbers. -/
def Overflows (num den : Nat) : Prop :=
  971 < unitExponent num den ∨ nearestMantissa num den = 2 ^ 53 ∧ unitExponent num den = 971

/-- A quotient that is not beyond all numbers is rounded to its mantissa in its unit. -/
theorem toRat?_ofRatio (num_pos : 0 < num) [Decidable (Overflows num den)] :
    (ofRatio false num den).toRat? =
      if Overflows num den then none
      else some ((nearestMantissa num den : ℚ) * 2 ^ unitExponent num den) := by
  rw [ofRatio_eq_assemble false num_pos.ne']
  change (assemble false (nearestMantissa num den) (unitExponent num den)).toRat? = _
  rw [toRat?_assemble]
  congr

/-- The quotients beyond all finite numbers begin in the middle between the greatest of these and the
next power of two, which is the even one of the two. -/
theorem overflows_iff (num_pos : 0 < num) (den_pos : 0 < den) :
    Overflows num den ↔ ((2 : ℚ) ^ 53 - 1 / 2) * 2 ^ (971 : Int) ≤ (num : ℚ) / den := by
  obtain ⟨below, above⟩ := units_bounds num_pos den_pos
  obtain ⟨unit, unit_eq⟩ : ∃ unit, unit = unitExponent num den := ⟨_, rfl⟩
  have near := abs_le.1 (abs_sub_mantissaFor_le num den_pos unit)
  rw [Overflows, nearestMantissa]
  rw [← unit_eq] at below above ⊢
  constructor
  · rintro (large | ⟨full, rfl⟩)
    · have double : (2 : ℚ) ^ (971 : Int) * 2 ≤ 2 ^ unit := by
        rw [← zpow_add_one₀ (by norm_num)]
        exact zpow_le_zpow_right₀ (by norm_num) (by omega)
      have least := (le_div_iff₀ (zpow_two_pos unit)).1 (above (by omega))
      have positive := zpow_two_pos 971
      generalize (2 : ℚ) ^ (971 : Int) = last at *
      generalize (2 : ℚ) ^ unit = size at *
      linarith
    · rw [← le_div_iff₀ (zpow_two_pos _)]
      rw [full, Nat.cast_pow, Nat.cast_ofNat] at near
      linarith
  · intro beyond
    by_contra finite
    rw [not_or, not_lt] at finite
    have last : unit = 971 := by
      by_contra other
      have half : (2 : ℚ) ^ unit * 2 ≤ 2 ^ (971 : Int) := by
        rw [← zpow_add_one₀ (by norm_num)]
        exact zpow_le_zpow_right₀ (by norm_num) (by omega)
      have most := (div_lt_iff₀ (zpow_two_pos unit)).1 below
      have positive := zpow_two_pos unit
      generalize (2 : ℚ) ^ (971 : Int) = last at *
      generalize (2 : ℚ) ^ unit = size at *
      linarith
    subst last
    rw [← le_div_iff₀ (zpow_two_pos _)] at beyond
    have odd : ((2 ^ 53 - 1 : Nat) : ℚ) = 2 ^ 53 - 1 := by norm_num
    have least : ((2 ^ 53 - 1 : Nat) : ℚ) + 1 / 2 ≤ (num : ℚ) / den / 2 ^ (971 : Int) := by
      rw [odd]
      linarith only [beyond]
    have most : mantissaFor num den 971 ≤ 2 ^ 53 := by
      refine mantissaFor_le den_pos ?_
      rw [Nat.cast_pow, Nat.cast_ofNat]
      exact below.le
    refine finite.2 ⟨?_, rfl⟩
    rcases least.eq_or_lt with half | more
    · exact mantissaFor_of_half den_pos half.symm
    · exact le_antisymm most (lt_mantissaFor den_pos more)

/-! ### Rounding and whole numbers

A quotient with a rest keeps its ceiling if rounding does not bring it down to the whole part. The rest is
at least one part in the denominator; up to a numerator of 2 ^ 53 this is more than half a unit of the
mantissa, unless the unit is the least one there is and the quotient vanishes beside it. -/

theorem ceil?_eq_some_iff {x : Binary64} {whole : Int} :
    x.ceil? = some whole ↔ ∃ value, x.toRat? = some value ∧ ⌈value⌉ = whole := by
  have ceiling (value : ℚ) : -(-value).floor = ⌈value⌉ := by
    change -⌊-value⌋ = ⌈value⌉
    rw [Int.floor_neg, neg_neg]
  simp only [ceil?, Option.map_eq_some_iff, ceiling]

theorem ceil?_ofRatio_zero (den : Nat) : (ofRatio false 0 den).ceil? = some 0 := by
  refine ceil?_eq_some_iff.2 ⟨_, toRat?_finite 0 (-1074), ?_⟩
  rw [Nat.cast_zero, zero_mul, Int.ceil_zero]

/-- A quotient has a rounded ceiling when it is not beyond all finite numbers. -/
theorem isSome_ceil?_ofRatio_iff (den_pos : 0 < den) :
    (ofRatio false num den).ceil?.isSome = true ↔ num < (2 ^ 54 - 1) * 2 ^ 970 * den := by
  classical
  have den_pos' : (0 : ℚ) < den := by exact_mod_cast den_pos
  rcases Nat.eq_zero_or_pos num with rfl | num_pos
  · rw [ceil?_ofRatio_zero]
    exact iff_of_true rfl (Nat.mul_pos (Nat.mul_pos (by decide) (pow_pos Nat.two_pos 970)) den_pos)
  · have middle : ((2 : ℚ) ^ 53 - 1 / 2) * 2 ^ (971 : Int) = ((2 ^ 54 - 1 : Nat) : ℚ) * 2 ^ 970 := by
      have double : (2 : ℚ) ^ (971 : Int) = 2 * 2 ^ 970 := by
        rw [← pow_succ', ← zpow_natCast]
        rfl
      rw [double]
      generalize (2 : ℚ) ^ 970 = unit
      norm_num
      ring
    have beyond := overflows_iff num_pos den_pos
    rw [middle, le_div_iff₀ den_pos'] at beyond
    have beyond : Overflows num den ↔ (2 ^ 54 - 1) * 2 ^ 970 * den ≤ num := by
      rw [beyond]
      exact_mod_cast Iff.rfl
    rw [ceil?, Option.isSome_map, toRat?_ofRatio num_pos, ← not_le, ← beyond]
    split_ifs with overflows
    · exact iff_of_false nofun fun finite => finite overflows
    · exact iff_of_true rfl overflows

/-- The ceiling of a quotient with a rest is the number after the whole part. -/
theorem ceil_quotient {whole rest : Nat} (split : num = whole * den + rest) (rest_pos : 0 < rest)
    (rest_le : rest ≤ den) : ⌈(num : ℚ) / den⌉ = whole + 1 := by
  have den_pos : (0 : ℚ) < den := by exact_mod_cast rest_pos.trans_le rest_le
  have rest_pos : (0 : ℚ) < rest := by exact_mod_cast rest_pos
  have rest_le : (rest : ℚ) ≤ den := by exact_mod_cast rest_le
  rw [Int.ceil_eq_iff, lt_div_iff₀ den_pos, div_le_iff₀ den_pos, split]
  push_cast
  constructor <;> linarith

/-- A quotient keeps its ceiling when it is so many units that its mantissa is still above the number
before, and at most the ceiling itself. -/
theorem ceil?_ofRatio_of_units (low high : Nat) {pages : Int} (num_pos : 0 < num)
    (den_pos : 0 < den) (finite : ¬ Overflows num den)
    (lower : (pages : ℚ) - 1 < (low + 1) * 2 ^ unitExponent num den)
    (upper : (high : ℚ) * 2 ^ unitExponent num den ≤ pages)
    (above : (low : ℚ) + 1 / 2 < (num : ℚ) / den / 2 ^ unitExponent num den)
    (below : (num : ℚ) / den / 2 ^ unitExponent num den ≤ high) :
    (ofRatio false num den).ceil? = some pages := by
  classical
  refine ceil?_eq_some_iff.2 ⟨_, (toRat?_ofRatio num_pos).trans (if_neg finite), ?_⟩
  have positive := zpow_two_pos (unitExponent num den)
  have least : (low : ℚ) + 1 ≤ nearestMantissa num den := by
    exact_mod_cast lt_mantissaFor den_pos above
  have most : (nearestMantissa num den : ℚ) ≤ high := by
    exact_mod_cast mantissaFor_le den_pos below
  rw [Int.ceil_eq_iff]
  constructor
  · exact lower.trans_le (mul_le_mul_of_nonneg_right least positive.le)
  · exact (mul_le_mul_of_nonneg_right most positive.le).trans upper

theorem not_overflows (num_pos : 0 < num) (den_pos : 0 < den) (exact : num ≤ 2 ^ 53) :
    ¬ Overflows num den := by
  rw [overflows_iff num_pos den_pos, not_le]
  have den_ge : (1 : ℚ) ≤ den := by exact_mod_cast den_pos
  calc (num : ℚ) / den ≤ num := div_le_self (by positivity) den_ge
    _ ≤ 2 ^ 53 := by exact_mod_cast exact
    _ < (2 ^ 53 - 1 / 2) * 2 ^ (1 : Int) := by norm_num
    _ ≤ (2 ^ 53 - 1 / 2) * 2 ^ (971 : Int) :=
        mul_le_mul_of_nonneg_left (zpow_le_zpow_right₀ (by norm_num) (by norm_num)) (by norm_num)

/-- Up to a numerator of 2 ^ 53 the rest of a quotient is more than half a unit. -/
theorem unit_lt_rest {whole rest places : Nat} (exact : num ≤ 2 ^ 53)
    (split : num = whole * den + rest) (rest_pos : 0 < rest)
    (units : den * 2 ^ 52 ≤ num * 2 ^ places) : den < rest * 2 ^ (places + 1) := by
  by_contra short
  have power : 0 < 2 ^ places := Nat.pow_pos (by decide)
  have small : rest * 2 ^ 53 ≤ num := by
    refine Nat.le_of_mul_le_mul_right ?_ power
    calc rest * 2 ^ 53 * 2 ^ places = rest * 2 ^ (places + 1) * 2 ^ 52 := by ring
      _ ≤ den * 2 ^ 52 := Nat.mul_le_mul_right _ (not_lt.1 short)
      _ ≤ num * 2 ^ places := units
  obtain rfl : rest = 1 := by omega
  obtain rfl : num = 2 ^ 53 := by omega
  -- Then the denominator is a power of two, which has no multiple next to 2 ^ 53.
  have even : den = 2 * 2 ^ places := by
    have most : 2 * 2 ^ places ≤ den := by
      rw [Nat.pow_succ, one_mul, Nat.mul_comm] at short
      exact not_lt.1 short
    omega
  rw [even, Nat.mul_left_comm] at split
  omega

section

variable {whole rest places : Nat}

/-- A quotient in units that are not above one. -/
theorem units_eq (unit : unitExponent num den = -(places : Int)) :
    (num : ℚ) / den / 2 ^ unitExponent num den = ((num * 2 ^ places : Nat) : ℚ) / den := by
  rw [unit, zpow_neg, zpow_natCast, div_inv_eq_mul]
  push_cast
  exact (mul_div_right_comm _ _ _).symm

/-- When the rest is more than half a unit, the quotient is rounded to something above the whole part. -/
theorem ceil?_ofRatio_of_rest (num_pos : 0 < num) (finite : ¬ Overflows num den)
    (split : num = whole * den + rest) (rest_pos : 0 < rest) (rest_le : rest ≤ den)
    (unit : unitExponent num den = -(places : Int)) (more : den < rest * 2 ^ (places + 1)) :
    (ofRatio false num den).ceil? = some (whole + 1 : Int) := by
  have den_pos : 0 < den := rest_pos.trans_le rest_le
  have den_pos' : (0 : ℚ) < den := by exact_mod_cast den_pos
  have power : (0 : ℚ) < 2 ^ places := by positivity
  have most : (num : ℚ) ≤ (whole + 1) * den := by
    rw [split]
    push_cast
    have : (rest : ℚ) ≤ den := by exact_mod_cast rest_le
    linarith
  have whole_units (n : Nat) : ((n * 2 ^ places : Nat) : ℚ) * 2 ^ unitExponent num den = n := by
    rw [unit, zpow_neg, zpow_natCast]
    push_cast
    exact mul_inv_cancel_right₀ power.ne' _
  refine ceil?_ofRatio_of_units (whole * 2 ^ places) ((whole + 1) * 2 ^ places) num_pos den_pos
    finite ?_ ?_ ?_ ?_
  · have := zpow_two_pos (unitExponent num den)
    rw [add_mul, whole_units]
    push_cast
    linarith
  · rw [whole_units]
    push_cast
    exact le_rfl
  · rw [units_eq unit, lt_div_iff₀ den_pos', split]
    have : (den : ℚ) < rest * 2 ^ (places + 1) := by exact_mod_cast more
    rw [pow_succ] at this
    push_cast
    linarith
  · rw [units_eq unit, div_le_iff₀ den_pos']
    push_cast
    nlinarith

/-- A mantissa that fits into small units has no whole part. -/
theorem lt_of_least_unit (below : num * 2 ^ places < 2 ^ 53 * den) (small : 53 ≤ places) : num < den := by
  refine Nat.lt_of_mul_lt_mul_left (a := 2 ^ 53) ?_
  calc 2 ^ 53 * num = num * 2 ^ 53 := Nat.mul_comm _ _
    _ ≤ num * 2 ^ places := Nat.mul_le_mul_left num (Nat.pow_le_pow_right (by decide) small)
    _ < 2 ^ 53 * den := below

/-- A quotient of at most half the least number becomes zero. -/
theorem ceil?_ofRatio_of_tiny (num_pos : 0 < num) (den_pos : 0 < den) (finite : ¬ Overflows num den)
    (unit : unitExponent num den = -(places : Int)) (tiny : 2 ^ (places + 1) * num ≤ den) :
    (ofRatio false num den).ceil? = some 0 := by
  classical
  have den_pos' : (0 : ℚ) < den := by exact_mod_cast den_pos
  have zero : nearestMantissa num den = 0 := by
    refine Nat.le_zero.1 (mantissaFor_le_of_even den_pos (Nat.zero_mod 2) ?_)
    rw [units_eq unit, div_le_iff₀ den_pos']
    have : (2 : ℚ) ^ (places + 1) * num ≤ den := by exact_mod_cast tiny
    rw [pow_succ] at this
    push_cast
    linarith
  refine ceil?_eq_some_iff.2 ⟨_, (toRat?_ofRatio num_pos).trans (if_neg finite), ?_⟩
  rw [zero, Nat.cast_zero, zero_mul, Int.ceil_zero]

/-- Up to a numerator of 2 ^ 53 only this number itself has units that are above one. -/
theorem eq_of_unitExponent_pos (num_pos : 0 < num) (den_pos : 0 < den) (exact : num ≤ 2 ^ 53)
    (large : 0 < unitExponent num den) : den = 1 ∧ num = 2 ^ 53 := by
  have den_pos' : (0 : ℚ) < den := by exact_mod_cast den_pos
  have double : (2 : ℚ) ≤ 2 ^ unitExponent num den := by
    rw [← zpow_one (2 : ℚ), ← zpow_mul, one_mul]
    exact zpow_le_zpow_right₀ (by norm_num) large
  have units := (units_bounds num_pos den_pos).2 (by omega)
  rw [le_div_iff₀ (zpow_two_pos _), le_div_iff₀ den_pos'] at units
  have size : 2 ^ 53 * den ≤ num := by
    have : (2 : ℚ) ^ 53 * den ≤ num := by nlinarith
    exact_mod_cast this
  omega

/-- Up to a numerator of 2 ^ 53 a quotient keeps its ceiling when it is rounded, unless it is at most half
of the least number and becomes zero. -/
theorem ceil?_ofRatio_iff (num_pos : 0 < num) (den_pos : 0 < den) (exact : num ≤ 2 ^ 53) :
    (ofRatio false num den).ceil? = some ⌈(num : ℚ) / den⌉ ↔ den < 2 ^ 1075 * num := by
  have finite := not_overflows num_pos den_pos exact
  obtain ⟨below, above⟩ := units_bounds num_pos den_pos
  have least : -1074 ≤ unitExponent num den := le_max_right _ _
  have den_pos' : (0 : ℚ) < den := by exact_mod_cast den_pos
  -- The whole part, and a rest that is never empty.
  obtain ⟨whole, rest, split, rest_pos, rest_le⟩ :
      ∃ whole rest, num = whole * den + rest ∧ 0 < rest ∧ rest ≤ den :=
    ⟨(num - 1) / den, (num - 1) % den + 1, by
      have := Nat.div_add_mod' (num - 1) den
      omega, Nat.succ_pos _, Nat.mod_lt _ den_pos⟩
  rw [ceil_quotient split rest_pos rest_le]
  rcases lt_or_ge 0 (unitExponent num den) with large | small
  · obtain ⟨rfl, rfl⟩ := eq_of_unitExponent_pos num_pos den_pos exact large
    obtain ⟨rfl, rfl⟩ : rest = 1 ∧ whole = 2 ^ 53 - 1 := by omega
    exact iff_of_true (by decide +kernel) (by decide +kernel)
  · obtain ⟨places, unit⟩ := Int.eq_ofNat_of_zero_le (by omega : 0 ≤ -unitExponent num den)
    obtain unit : unitExponent num den = -(places : Int) := by omega
    rw [units_eq unit, div_lt_iff₀ den_pos'] at below
    rw [units_eq unit, le_div_iff₀ den_pos'] at above
    have rest_le_num : rest ≤ num := split ▸ Nat.le_add_left _ _
    rcases least.eq_or_lt with bottom | normal
    · -- In the least unit there is no whole part.
      have short : num < den := lt_of_least_unit (by exact_mod_cast below) (by omega)
      have last : 1075 = places + 1 := by omega
      rw [last]
      obtain rfl : whole = 0 := by
        by_contra some_whole
        have : den ≤ whole * den := Nat.le_mul_of_pos_left den (Nat.pos_of_ne_zero some_whole)
        omega
      obtain rfl : num = rest := by omega
      constructor
      · intro kept
        by_contra tiny
        rw [ceil?_ofRatio_of_tiny num_pos den_pos finite unit (not_lt.1 tiny)] at kept
        exact absurd (Option.some.inj kept) (by decide)
      · intro more
        rw [Nat.mul_comm] at more
        exact ceil?_ofRatio_of_rest num_pos finite split rest_pos rest_le unit more
    · have more : den < rest * 2 ^ (places + 1) := by
        refine unit_lt_rest exact split rest_pos ?_
        rw [Nat.mul_comm]
        exact_mod_cast above normal
      refine iff_of_true (ceil?_ofRatio_of_rest num_pos finite split rest_pos rest_le unit more) ?_
      have places_le : places + 1 ≤ 1075 := by omega
      calc den < rest * 2 ^ (places + 1) := more
        _ ≤ num * 2 ^ 1075 :=
            Nat.mul_le_mul rest_le_num (pow_le_pow_right₀ one_le_two places_le)
        _ = 2 ^ 1075 * num := Nat.mul_comm _ _

end

end Binary64

end QueryDesk.Number
