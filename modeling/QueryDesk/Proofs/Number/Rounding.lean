/-
Module: QueryDesk.Proofs.Number.Rounding
Purpose: When a quotient is rounded to a given binary64 number. What is nearer to the number than half the
  distance to its neighbours is rounded to it; below a power of two the neighbour is half as far away.
Imports: QueryDesk.Number.Binary64
Main exports: divHalfEven_eq_of_close, Binary64.floorLog2_eq, Binary64.Mantissa, Binary64.Near,
  Binary64.ofRatio_eq_of_near, Binary64.ofRatio_congr
-/
import QueryDesk.Number.Binary64
import Mathlib.Algebra.Order.Archimedean.Basic
import Mathlib.Data.Int.Log
import Mathlib.Data.Rat.Floor
import Mathlib.Tactic.Linarith
import Mathlib.Tactic.NormNum
import Mathlib.Tactic.Positivity

namespace QueryDesk.Number

variable {num den num' den' : Nat} {exponent : Int}

/-- A rounded quotient is at most a half away. -/
theorem abs_sub_divHalfEven_le (num : Nat) (positive : 0 < den) :
    |(num : ℚ) / den - divHalfEven num den| ≤ 1 / 2 := by
  have den_pos : (0 : ℚ) < den := by exact_mod_cast positive
  have split : (num : ℚ) / den = (num / den : Nat) + ((num % den : Nat) : ℚ) / den := by
    rw [eq_comm, add_div' _ _ _ den_pos.ne', div_left_inj' den_pos.ne']
    exact_mod_cast Nat.div_add_mod' num den
  have part_nonneg : (0 : ℚ) ≤ ((num % den : Nat) : ℚ) / den := by positivity
  have part_small : ((num % den : Nat) : ℚ) / den < 1 := by
    rw [div_lt_one den_pos]
    exact_mod_cast Nat.mod_lt num positive
  rw [split, divHalfEven]
  split_ifs with below above even
  · have half : ((num % den : Nat) : ℚ) / den ≤ 1 / 2 := by
      rw [div_le_iff₀ den_pos]
      have : (2 : ℚ) * (num % den : Nat) < den := by exact_mod_cast below
      linarith
    rw [abs_le]
    constructor <;> linarith
  · have half : 1 / 2 ≤ ((num % den : Nat) : ℚ) / den := by
      rw [le_div_iff₀ den_pos]
      have : (den : ℚ) < 2 * (num % den : Nat) := by exact_mod_cast above
      linarith
    push_cast
    rw [abs_le]
    constructor <;> linarith
  all_goals
    have half : ((num % den : Nat) : ℚ) / den = 1 / 2 := by
      rw [div_eq_iff den_pos.ne']
      have : (2 : ℚ) * (num % den : Nat) = den := by
        exact_mod_cast Nat.le_antisymm (not_lt.1 above) (not_lt.1 below)
      linarith
    push_cast
    rw [abs_le]
    constructor <;> linarith

/-- What is nearer than a half to a whole number is rounded to it. -/
theorem divHalfEven_eq_of_close {target : Nat} (positive : 0 < den)
    (close : |(num : ℚ) / den - target| < 1 / 2) : divHalfEven num den = target := by
  have near := abs_sub_divHalfEven_le num positive
  rw [abs_lt] at close
  rw [abs_le] at near
  have upper : (divHalfEven num den : ℚ) < target + 1 := by linarith
  have lower : (target : ℚ) < divHalfEven num den + 1 := by linarith
  have upper' : divHalfEven num den < target + 1 := by exact_mod_cast upper
  have lower' : target < divHalfEven num den + 1 := by exact_mod_cast lower
  omega

/-- A common factor does not matter to a rounded quotient. -/
theorem divHalfEven_mul_right (num den : Nat) {factor : Nat} (positive : 0 < factor) :
    divHalfEven (num * factor) (den * factor) = divHalfEven num den := by
  have twice : 2 * (num % den * factor) = 2 * (num % den) * factor := (Nat.mul_assoc _ _ _).symm
  rw [divHalfEven, divHalfEven, Nat.mul_div_mul_right _ _ positive, Nat.mul_mod_mul_right, twice]
  simp only [Nat.mul_lt_mul_right positive]

/-- Quotients of one value are rounded alike. -/
theorem divHalfEven_congr (positive : 0 < den) (positive' : 0 < den') (same : num * den' = num' * den) :
    divHalfEven num den = divHalfEven num' den' := by
  rw [← divHalfEven_mul_right num den positive', same, Nat.mul_comm den, divHalfEven_mul_right _ _ positive]

/-- A quotient divided by a power, as the quotient of natural numbers into which the power is put. -/
theorem quotient_div_zpow {base : Nat} (positive : 0 < base) (num den : Nat) (exponent : Int) :
    (num : ℚ) / den / (base : ℚ) ^ exponent =
      if 0 ≤ exponent then (num : ℚ) / (den * base ^ exponent.toNat : Nat)
      else ((num * base ^ (-exponent).toNat : Nat) : ℚ) / den := by
  have base_pos : (0 : ℚ) < base := by exact_mod_cast positive
  split_ifs with nonneg
  · obtain ⟨n, rfl⟩ := Int.eq_ofNat_of_zero_le nonneg
    rw [zpow_natCast, Int.toNat_natCast, Nat.cast_mul, Nat.cast_pow, div_div]
  · obtain ⟨n, same⟩ := Int.eq_ofNat_of_zero_le (by omega : 0 ≤ -exponent)
    obtain rfl : exponent = -n := by omega
    rw [zpow_neg, zpow_natCast, neg_neg, Int.toNat_natCast, Nat.cast_mul, Nat.cast_pow, div_inv_eq_mul,
      mul_div_right_comm]

theorem zpow_le_quotient_iff {base : Nat} (positive : 0 < base) (positive' : 0 < den) :
    (base : ℚ) ^ exponent ≤ (num : ℚ) / den ↔
      if 0 ≤ exponent then den * base ^ exponent.toNat ≤ num
      else den ≤ num * base ^ (-exponent).toNat := by
  have base_pos : (0 : ℚ) < (base : ℚ) ^ exponent := zpow_pos (by exact_mod_cast positive) _
  have den_pos : (0 : ℚ) < den := by exact_mod_cast positive'
  rw [← one_le_div base_pos, quotient_div_zpow positive]
  split_ifs
  · have scaled : (0 : ℚ) < (den * base ^ exponent.toNat : Nat) := by
      exact_mod_cast Nat.mul_pos positive' (Nat.pow_pos positive)
    rw [one_le_div scaled]
    exact Nat.cast_le
  · rw [one_le_div den_pos]
    exact Nat.cast_le

/-- A logarithm is the exponent of the power that a number lies between and the next one. -/
theorem log_eq_of_between {base : Nat} (large : 1 < base) {value : ℚ} (positive : 0 < value)
    (lower : (base : ℚ) ^ exponent ≤ value) (upper : value < (base : ℚ) ^ (exponent + 1)) :
    Int.log base value = exponent := by
  have le := (Int.zpow_le_iff_le_log large positive).1 lower
  have lt := (Int.lt_zpow_iff_log_lt large positive).1 upper
  omega

/-- A quotient of numbers between powers. -/
theorem quotient_bounds {base low low' : Nat} (positive : 0 < base) (lower : base ^ low ≤ num)
    (upper : num < base ^ (low + 1)) (lower' : base ^ low' ≤ den) (upper' : den < base ^ (low' + 1)) :
    (base : ℚ) ^ ((low : Int) - low' - 1) < (num : ℚ) / den ∧
      (num : ℚ) / den < (base : ℚ) ^ ((low : Int) - low' + 1) := by
  have base_pos : (0 : ℚ) < base := by exact_mod_cast positive
  have low_pos : (0 : ℚ) < (base : ℚ) ^ low' := pow_pos base_pos _
  have den_pos : (0 : ℚ) < den := low_pos.trans_le (by exact_mod_cast lower')
  have first : (base : ℚ) ^ ((low : Int) - low' - 1) = (base : ℚ) ^ low / (base : ℚ) ^ (low' + 1) := by
    rw [sub_sub, ← Nat.cast_succ, zpow_sub₀ base_pos.ne', zpow_natCast, zpow_natCast]
  have second : (base : ℚ) ^ ((low : Int) - low' + 1) = (base : ℚ) ^ (low + 1) / (base : ℚ) ^ low' := by
    rw [sub_add_eq_add_sub, ← Nat.cast_succ, zpow_sub₀ base_pos.ne', zpow_natCast, zpow_natCast]
  rw [first, second]
  constructor
  · rw [div_lt_div_iff₀ (pow_pos base_pos _) den_pos]
    have lower : (base : ℚ) ^ low ≤ num := by exact_mod_cast lower
    have upper' : (den : ℚ) < (base : ℚ) ^ (low' + 1) := by exact_mod_cast upper'
    exact mul_lt_mul' lower upper' den_pos.le ((pow_pos base_pos _).trans_le lower)
  · rw [div_lt_div_iff₀ den_pos low_pos]
    have upper : (num : ℚ) < (base : ℚ) ^ (low + 1) := by exact_mod_cast upper
    have lower' : (base : ℚ) ^ low' ≤ den := by exact_mod_cast lower'
    exact mul_lt_mul upper lower' low_pos (pow_pos base_pos _).le

namespace Binary64

/-- The exponent is the binary logarithm of the quotient. -/
theorem floorLog2_eq (num_pos : 0 < num) (den_pos : 0 < den) :
    floorLog2 num den = Int.log 2 ((num : ℚ) / den) := by
  have positive : (0 : ℚ) < (num : ℚ) / den := by positivity
  obtain ⟨lower, upper⟩ := @quotient_bounds num den 2 num.log2 den.log2 (by decide)
    (Nat.log2_self_le num_pos.ne') Nat.lt_log2_self (Nat.log2_self_le den_pos.ne') Nat.lt_log2_self
  have guess : ((2 : Nat) : ℚ) ^ ((num.log2 : Int) - den.log2) ≤ (num : ℚ) / den ↔
      if 0 ≤ (num.log2 : Int) - den.log2 then den * twoTo ((num.log2 : Int) - den.log2).toNat ≤ num
      else den ≤ num * twoTo (-((num.log2 : Int) - den.log2)).toNat :=
    zpow_le_quotient_iff (by decide) den_pos
  by_cases reaches : ((2 : Nat) : ℚ) ^ ((num.log2 : Int) - den.log2) ≤ (num : ℚ) / den
  · have fits : floorLog2 num den = (num.log2 : Int) - den.log2 := if_pos (guess.1 reaches)
    rw [fits]
    exact (log_eq_of_between (by decide) positive reaches upper).symm
  · have above : floorLog2 num den = (num.log2 : Int) - den.log2 - 1 :=
      if_neg fun fits => reaches (guess.2 fits)
    rw [above]
    refine (log_eq_of_between (by decide) positive lower.le ?_).symm
    rw [sub_add_cancel]
    exact not_le.1 reaches

theorem zpow_le_of_floorLog2 (num_pos : 0 < num) (den_pos : 0 < den) :
    (2 : ℚ) ^ floorLog2 num den ≤ (num : ℚ) / den := by
  rw [floorLog2_eq num_pos den_pos]
  exact Int.zpow_log_le_self (by decide) (by positivity)

/-! ### Rounding to a number

Rounding first chooses the exponent from the size of the quotient, and then the nearest mantissa. A quotient
just below a power of two gets the smaller exponent, so that being near to that power is measured in the
smaller unit there. -/

/-- A mantissa with the exponent that belongs to it: the least one, from -1074 on, that the mantissa fits. -/
structure Mantissa (mantissa : Nat) (exponent : Int) : Prop where
  below : mantissa < 2 ^ 53
  least : -1074 ≤ exponent
  greatest : exponent ≤ 971
  full : -1074 < exponent → 2 ^ 52 ≤ mantissa

/-- A value that is nearer to a mantissa than to its neighbours, measured in units of the mantissa. The
neighbour below a power of two is only half a unit away. -/
structure Near (mantissa : Nat) (exponent : Int) (value : ℚ) : Prop where
  close : |value / 2 ^ exponent - mantissa| < 1 / 2
  closer : mantissa = 2 ^ 52 → -1074 < exponent → (mantissa : ℚ) - 1 / 4 < value / 2 ^ exponent

/-- The mantissa that a quotient is rounded to for an exponent. -/
def mantissaFor (num den : Nat) (exponent : Int) : Nat :=
  if 0 ≤ exponent then divHalfEven num (den * twoTo exponent.toNat)
  else divHalfEven (num * twoTo (-exponent).toNat) den

theorem mantissaFor_eq_of_close {target : Nat} (den_pos : 0 < den)
    (close : |(num : ℚ) / den / 2 ^ exponent - target| < 1 / 2) : mantissaFor num den exponent = target := by
  have scaled := @quotient_div_zpow 2 (by decide) num den exponent
  rw [Nat.cast_ofNat] at scaled
  rw [scaled] at close
  rw [mantissaFor]
  split_ifs at close ⊢
  · exact divHalfEven_eq_of_close (Nat.mul_pos den_pos (Nat.pow_pos (by decide))) close
  · exact divHalfEven_eq_of_close den_pos close

theorem mantissaFor_congr (den_pos : 0 < den) (den_pos' : 0 < den') (same : num * den' = num' * den) :
    mantissaFor num den exponent = mantissaFor num' den' exponent := by
  have power : 0 < twoTo exponent.toNat := Nat.pow_pos (by decide)
  rw [mantissaFor, mantissaFor]
  split_ifs
  · refine divHalfEven_congr (Nat.mul_pos den_pos power) (Nat.mul_pos den_pos' power) ?_
    rw [← Nat.mul_assoc, ← Nat.mul_assoc, same]
  · refine divHalfEven_congr den_pos den_pos' ?_
    rw [Nat.mul_right_comm, same, Nat.mul_right_comm]

/-- What becomes of a mantissa when it is too large for its exponent, or the exponent for a number. -/
def assemble (negative : Bool) (mantissa : Nat) (exponent : Int) : Binary64 :=
  let (mantissa, exponent) :=
    if mantissa == twoTo 53 then (twoTo 52, exponent + 1) else (mantissa, exponent)
  if 971 < exponent then .infinite negative else .finite negative mantissa exponent

theorem ofRatio_eq_assemble (negative : Bool) (nonzero : num ≠ 0) :
    ofRatio negative num den =
      assemble negative (mantissaFor num den (max (floorLog2 num den - 52) (-1074)))
        (max (floorLog2 num den - 52) (-1074)) := by
  rw [ofRatio, if_neg (by simpa using nonzero)]
  rfl

theorem assemble_of_mantissa {mantissa : Nat} (negative : Bool) (fits : Mantissa mantissa exponent) :
    assemble negative mantissa exponent = .finite negative mantissa exponent := by
  have small : (mantissa == twoTo 53) = false := beq_false_of_ne fits.below.ne
  rw [assemble, small]
  exact if_neg (not_lt.2 fits.greatest)

/-- A quotient that is near to a number is rounded to it. -/
theorem ofRatio_eq_of_near {mantissa : Nat} (negative : Bool) (num_pos : 0 < num) (den_pos : 0 < den)
    (fits : Mantissa mantissa exponent) (near : Near mantissa exponent ((num : ℚ) / den)) :
    ofRatio negative num den = .finite negative mantissa exponent := by
  have power : (0 : ℚ) < 2 ^ exponent := zpow_pos (by norm_num) _
  have positive : (0 : ℚ) < (num : ℚ) / den := by positivity
  obtain ⟨lower, upper⟩ := abs_lt.1 near.close
  have below : (mantissa : ℚ) + 1 ≤ 2 ^ 53 := by exact_mod_cast fits.below
  have value_lt : (num : ℚ) / den < 2 ^ (exponent + 53) := by
    rw [zpow_add₀ (by norm_num), ← div_lt_iff₀' power]
    norm_num at below ⊢
    linarith
  have log_le : floorLog2 num den < exponent + 53 := by
    have le := zpow_le_of_floorLog2 num_pos den_pos
    exact (zpow_lt_zpow_iff_right₀ (by norm_num)).1 (le.trans_lt value_lt)
  rw [ofRatio_eq_assemble negative num_pos.ne']
  by_cases reaches : (2 : ℚ) ^ (exponent + 52) ≤ (num : ℚ) / den ∨ exponent = -1074
  · -- The exponent is the one of the number.
    have same : max (floorLog2 num den - 52) (-1074) = exponent := by
      rcases reaches with reaches | least
      · have log : floorLog2 num den = exponent + 52 := by
          rw [floorLog2_eq num_pos den_pos]
          refine log_eq_of_between (by decide) positive reaches ?_
          rwa [add_assoc]
        have least := fits.least
        omega
      · omega
    rw [same, mantissaFor_eq_of_close den_pos near.close, assemble_of_mantissa negative fits]
  · -- Below a power of two the exponent is one less, and the mantissa is carried over.
    obtain ⟨short, not_least⟩ := not_or.1 reaches
    have least := fits.least
    have full := fits.full (by omega)
    have units : (num : ℚ) / den / 2 ^ exponent < 2 ^ 52 := by
      rw [div_lt_iff₀' power, ← zpow_natCast (2 : ℚ) 52, ← zpow_add₀ (by norm_num)]
      exact not_le.1 short
    obtain rfl : mantissa = 2 ^ 52 := by
      have : (mantissa : ℚ) < 2 ^ 52 + 1 := by linarith
      have : mantissa < 2 ^ 52 + 1 := by exact_mod_cast this
      omega
    have closer := near.closer rfl (by omega)
    push_cast at closer
    have log : floorLog2 num den = exponent + 51 := by
      rw [floorLog2_eq num_pos den_pos]
      refine log_eq_of_between (by decide) positive ?_ ?_
      · rw [Nat.cast_ofNat, zpow_add₀ (by norm_num), ← le_div_iff₀' power]
        norm_num at closer ⊢
        linarith
      · rw [Nat.cast_ofNat, add_assoc]
        exact not_le.1 short
    have carried : mantissaFor num den (exponent - 1) = 2 ^ 53 := by
      refine mantissaFor_eq_of_close den_pos ?_
      rw [zpow_sub_one₀ (by norm_num), div_mul_eq_div_div, div_inv_eq_mul, abs_lt]
      push_cast
      constructor <;> linarith
    have same : max (floorLog2 num den - 52) (-1074) = exponent - 1 := by omega
    rw [same, carried, assemble]
    simp only [twoTo, Nat.pow_eq, beq_self_eq_true, if_true, sub_add_cancel]
    exact if_neg (not_lt.2 fits.greatest)

/-- Quotients of one value are rounded to one number. -/
theorem ofRatio_congr (negative : Bool) (den_pos : 0 < den) (den_pos' : 0 < den')
    (same : num * den' = num' * den) : ofRatio negative num den = ofRatio negative num' den' := by
  rcases Nat.eq_zero_or_pos num with rfl | num_pos
  · obtain rfl : num' = 0 := by
      rw [Nat.zero_mul] at same
      exact (Nat.mul_eq_zero.1 same.symm).resolve_right den_pos.ne'
    rfl
  · have num_pos' : 0 < num' := by
      have : 0 < num' * den := same ▸ Nat.mul_pos num_pos den_pos'
      exact Nat.pos_of_mul_pos_right this
    have quotients : (num : ℚ) / den = num' / den' := by
      rw [div_eq_div_iff (by exact_mod_cast den_pos.ne') (by exact_mod_cast den_pos'.ne')]
      exact_mod_cast same
    have logs : floorLog2 num den = floorLog2 num' den' := by
      rw [floorLog2_eq num_pos den_pos, floorLog2_eq num_pos' den_pos', quotients]
    rw [ofRatio_eq_assemble negative num_pos.ne', ofRatio_eq_assemble negative num_pos'.ne', logs,
      mantissaFor_congr den_pos den_pos' same]

/-- The sign of a rounded quotient is the one that it is given. -/
theorem ofRatio_of_sign {mantissa : Nat} (negative : Bool)
    (rounded : ofRatio false num den = .finite false mantissa exponent) :
    ofRatio negative num den = .finite negative mantissa exponent := by
  by_cases zero : num = 0
  · subst zero
    injection rounded with _ same same'
    rw [← same, ← same']
    rfl
  · rw [ofRatio_eq_assemble _ zero, assemble] at rounded ⊢
    dsimp only at rounded ⊢
    split_ifs at rounded ⊢
    all_goals
      injection rounded with _ same same'
      rw [same, same']

end Binary64

end QueryDesk.Number
