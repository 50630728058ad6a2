/-
Module: QueryDesk.Proofs.Number.ReadBack
Purpose: The fewest digits of a binary64 number read back as the number. Fewer than seventeen digits are
  only taken if they do; seventeen always do, since the decimal grid is then finer than the binary one.
Imports: QueryDesk.Number.Shortest, QueryDesk.Proofs.Number.Rounding
Main exports: pointPosition_eq, scaled_quotient_eq, DecimalDigits.value, DecimalDigits.quotient,
  DecimalDigits.toBinary64_of_near, near_of_grid, ReadsBack, readsBack_seventeen, readsBack_shortestDigits
-/
import QueryDesk.Number.Shortest
import QueryDesk.Proofs.Number.Rounding

namespace QueryDesk.Number

open Binary64

variable {num den mantissa : Nat} {exponent : Int}

/-- So many steps bring a quotient to one or above, and no fewer. -/
theorem stepsToOne_spec {fuel : Nat} (reaches : den ≤ num * 10 ^ fuel) :
    den ≤ num * 10 ^ stepsToOne den fuel num ∧
      ∀ fewer < stepsToOne den fuel num, num * 10 ^ fewer < den := by
  induction fuel generalizing num with
  | zero => exact ⟨reaches, nofun⟩
  | succ fuel ih =>
      rw [stepsToOne]
      split_ifs with above
      · exact ⟨by simpa using above, nofun⟩
      · rw [Nat.pow_succ', ← Nat.mul_assoc] at reaches
        obtain ⟨enough, least⟩ := ih reaches
        refine ⟨by rwa [Nat.pow_succ', ← Nat.mul_assoc], fun fewer less => ?_⟩
        cases fewer with
        | zero => simpa using above
        | succ fewer =>
            rw [Nat.pow_succ', ← Nat.mul_assoc]
            exact least fewer (by omega)

/-- A numeral has as many digits as its number needs. -/
theorem length_toString_bounds {value : Nat} (positive : 0 < value) :
    10 ^ ((toString value).length - 1) ≤ value ∧ value < 10 ^ (toString value).length := by
  have some_digits : 0 < (toString value).length := Nat.length_repr_pos
  refine ⟨?_, (Nat.length_repr_le_iff some_digits).1 le_rfl⟩
  rcases Nat.eq_zero_or_pos ((toString value).length - 1) with single | more
  · rw [single]
    exact positive
  · refine not_lt.1 fun less => ?_
    have fits : (toString value).length ≤ (toString value).length - 1 := (Nat.length_repr_le_iff more).2 less
    omega

theorem le_mul_pow_of_zpow_le {steps : Nat} (den_pos : 0 < den)
    (least : ((10 : Nat) : ℚ) ^ (-(steps : Int)) ≤ (num : ℚ) / den) : den ≤ num * 10 ^ steps := by
  rw [zpow_neg, zpow_natCast, inv_eq_one_div, div_le_div_iff₀ (by positivity) (by exact_mod_cast den_pos),
    one_mul] at least
  exact_mod_cast least

/-- The point stands behind the leading digit and so many digits more as the decimal logarithm says. -/
theorem pointPosition_eq (num_pos : 0 < num) (den_pos : 0 < den) (reaches : den ≤ num * 10 ^ 400) :
    pointPosition num den = Int.log 10 ((num : ℚ) / den) + 1 := by
  have positive : (0 : ℚ) < (num : ℚ) / den := by positivity
  have den_pos' : (0 : ℚ) < den := by exact_mod_cast den_pos
  suffices bounds : ((10 : Nat) : ℚ) ^ (pointPosition num den - 1) ≤ (num : ℚ) / den ∧
      (num : ℚ) / den < ((10 : Nat) : ℚ) ^ (pointPosition num den - 1 + 1) by
    have log := log_eq_of_between (by decide) positive bounds.1 bounds.2
    omega
  rw [pointPosition]
  split_ifs with above
  · have some_whole : 0 < num / den := Nat.div_pos above den_pos
    obtain ⟨lower, upper⟩ := length_toString_bounds some_whole
    have some_digits : 0 < (toString (num / den)).length := Nat.length_repr_pos
    have place : ((toString (num / den)).length : Int) - 1 = ((toString (num / den)).length - 1 : Nat) := by
      omega
    have below : (num : ℚ) < (num / den + 1 : Nat) * den := by
      exact_mod_cast Nat.lt_mul_of_div_lt (Nat.lt_succ_self _) den_pos
    rw [sub_add_cancel, place, zpow_natCast, zpow_natCast, le_div_iff₀ den_pos', div_lt_iff₀ den_pos']
    constructor
    · exact_mod_cast (Nat.mul_le_mul_right den lower).trans (Nat.div_mul_le_self num den)
    · refine below.trans_le ?_
      exact_mod_cast Nat.mul_le_mul_right den upper
  · obtain ⟨enough, least⟩ := stepsToOne_spec reaches
    have some_steps : stepsToOne den 400 num ≠ 0 := by
      intro none
      rw [none, Nat.pow_zero, Nat.mul_one] at enough
      exact above enough
    obtain ⟨steps, same⟩ := Nat.exists_eq_succ_of_ne_zero some_steps
    have short := least steps (by omega)
    rw [same] at enough ⊢
    have lower : (1 : Int) - (steps + 1 : Nat) - 1 = -(steps + 1 : Nat) := by omega
    have upper : -((steps + 1 : Nat) : Int) + 1 = -(steps : Nat) := by omega
    rw [lower, upper, zpow_neg, zpow_neg, zpow_natCast, zpow_natCast, inv_eq_one_div, inv_eq_one_div,
      div_le_div_iff₀ (by positivity) den_pos', div_lt_div_iff₀ den_pos' (by positivity), one_mul]
    constructor
    · exact_mod_cast enough
    · exact_mod_cast short

/-- A number multiplied by a power of a base, as a quotient of natural numbers. -/
theorem scaled_quotient_eq (base number : Nat) (exponent : Int) :
    (((if 0 ≤ exponent then (number * base ^ exponent.toNat, 1)
        else (number, base ^ (-exponent).toNat) : Nat × Nat).1 : ℚ) /
      (if 0 ≤ exponent then (number * base ^ exponent.toNat, 1)
        else (number, base ^ (-exponent).toNat) : Nat × Nat).2) = number * (base : ℚ) ^ exponent := by
  split_ifs with nonneg
  · obtain ⟨power, rfl⟩ := Int.eq_ofNat_of_zero_le nonneg
    rw [zpow_natCast, Int.toNat_natCast]
    push_cast
    exact div_one _
  · obtain ⟨power, same⟩ := Int.eq_ofNat_of_zero_le (by omega : 0 ≤ -exponent)
    obtain rfl : exponent = -(power : Int) := by omega
    rw [same, Int.toNat_natCast, zpow_neg, zpow_natCast]
    push_cast
    rfl

/-- The magnitude of a number is its mantissa in units of its exponent. -/
theorem magnitude_eq (mantissa : Nat) (exponent : Int) :
    ((magnitude mantissa exponent).1 : ℚ) / (magnitude mantissa exponent).2 = mantissa * 2 ^ exponent :=
  scaled_quotient_eq 2 mantissa exponent

theorem magnitude_den_pos (mantissa : Nat) (exponent : Int) : 0 < (magnitude mantissa exponent).2 := by
  rw [magnitude]
  split_ifs
  · exact Nat.one_pos
  · exact Nat.pow_pos (by decide)

namespace DecimalDigits

/-- The exact value of decimal digits. -/
def value (digits : DecimalDigits) : ℚ :=
  digits.coefficient * 10 ^ digits.exponent

/-- Decimal digits as a quotient. -/
def quotient (digits : DecimalDigits) : Nat × Nat :=
  if 0 ≤ digits.exponent then (digits.coefficient * tenTo digits.exponent.toNat, 1)
  else (digits.coefficient, tenTo (-digits.exponent).toNat)

variable {digits : DecimalDigits}

theorem quotient_eq (digits : DecimalDigits) : (digits.quotient.1 : ℚ) / digits.quotient.2 = digits.value :=
  scaled_quotient_eq 10 digits.coefficient digits.exponent

theorem quotient_den_pos (digits : DecimalDigits) : 0 < digits.quotient.2 := by
  rw [quotient]
  split_ifs
  · exact Nat.one_pos
  · exact Nat.pow_pos (by decide)

theorem value_pos (positive : 0 < digits.coefficient) : 0 < digits.value :=
  mul_pos (by exact_mod_cast positive) (zpow_pos (by norm_num) _)

theorem quotient_num_pos (positive : 0 < digits.coefficient) : 0 < digits.quotient.1 := by
  have den_pos : (0 : ℚ) < digits.quotient.2 := by exact_mod_cast digits.quotient_den_pos
  have value_pos := value_pos positive
  rw [← quotient_eq, div_pos_iff_of_pos_right den_pos] at value_pos
  exact_mod_cast value_pos

theorem toBinary64_eq (digits : DecimalDigits) :
    digits.toBinary64 = ofRatio false digits.quotient.1 digits.quotient.2 := by
  rw [toBinary64, quotient]
  split_ifs <;> rfl

/-- Decimal digits that are near to a number read back as it. -/
theorem toBinary64_of_near (positive : 0 < digits.coefficient) (fits : Mantissa mantissa exponent)
    (near : Near mantissa exponent digits.value) : digits.toBinary64 = .finite false mantissa exponent := by
  rw [toBinary64_eq]
  rw [← quotient_eq] at near
  exact ofRatio_eq_of_near false (quotient_num_pos positive) digits.quotient_den_pos fits near

end DecimalDigits

/-- A quotient divided by a power of ten. -/
theorem scaleDown_eq (num den : Nat) (power : Int) :
    (((scaleDown num den power).1 : ℚ) / (scaleDown num den power).2) = (num : ℚ) / den / 10 ^ power := by
  have scaled := @quotient_div_zpow 10 (by decide) num den power
  rw [Nat.cast_ofNat] at scaled
  rw [scaled, scaleDown]
  split_ifs <;> rfl

theorem scaleDown_den_pos (num : Nat) (den_pos : 0 < den) (power : Int) : 0 < (scaleDown num den power).2 := by
  rw [scaleDown]
  split_ifs
  · exact Nat.mul_pos den_pos (Nat.pow_pos (by decide))
  · exact den_pos

/-! ### Seventeen digits

Between two powers of two the binary numbers are a unit apart, and decimal numbers of seventeen digits are
closer than that. So the nearest seventeen digits are less than half a unit away from a number, and less
than a quarter of one if it is a power of two, whose neighbour below is only half a unit away. -/

/-- What is at most a half unit of the seventeenth digit away from a number is near to it. -/
theorem near_of_grid {unit steps : ℚ} {rounded : Nat} (fits : Mantissa mantissa exponent) (unit_pos : 0 < unit)
    (value : steps * unit = mantissa * 2 ^ exponent) (large : 10 ^ 16 ≤ steps)
    (close : |steps - rounded| ≤ 1 / 2) : Near mantissa exponent (rounded * unit) := by
  have power : (0 : ℚ) < 2 ^ exponent := zpow_pos (by norm_num) _
  -- All is measured in units of the mantissa.
  obtain ⟨fine, fine_eq⟩ : ∃ fine, fine = unit / 2 ^ exponent := ⟨_, rfl⟩
  have fine_pos : 0 < fine := fine_eq ▸ div_pos unit_pos power
  have whole : steps * fine = mantissa := by
    rw [fine_eq, ← mul_div_assoc, value, mul_div_assoc, div_self power.ne', mul_one]
  have measured : (rounded : ℚ) * unit / 2 ^ exponent = rounded * fine := by
    rw [fine_eq, mul_div_assoc]
  have size : 10 ^ 16 * fine ≤ mantissa := by
    rw [← whole]
    exact mul_le_mul_of_nonneg_right large fine_pos.le
  obtain ⟨lower, upper⟩ := abs_le.1 close
  have above : (rounded : ℚ) * fine ≤ mantissa + fine / 2 := by
    rw [← whole]
    nlinarith
  have below : (mantissa : ℚ) - fine / 2 ≤ rounded * fine := by
    rw [← whole]
    nlinarith
  have bound : (mantissa : ℚ) < 9007199254740992 := by exact_mod_cast fits.below
  have fine_small : 10000000000000000 * fine ≤ mantissa := by norm_num at size ⊢; exact size
  refine ⟨?_, fun full _ => ?_⟩
  · rw [measured, abs_lt]
    constructor <;> linarith
  · have least : (mantissa : ℚ) = 4503599627370496 := by rw [full]; norm_num
    rw [measured]
    linarith

/-- What is known of digits found for a number below a position of the point. -/
structure ReadsBack (mantissa : Nat) (exponent point : Int) (digits : DecimalDigits) : Prop where
  back : digits.toBinary64 = .finite false mantissa exponent
  few : ∃ count : Nat, count ≤ 17 ∧ digits.exponent = point - count ∧ digits.coefficient ≤ 10 ^ count

/-- A rounded quotient is the whole quotient or the number after it. -/
theorem divHalfEven_le (num den : Nat) : divHalfEven num den ≤ num / den + 1 := by
  rw [divHalfEven]
  split_ifs <;> omega

/-- A number below the position of the point has so many digits on a grid as the grid is finer. -/
theorem scaleDown_lt {point : Int} (count : Nat) (den_pos : 0 < den) (below : (num : ℚ) / den < 10 ^ point) :
    (scaleDown num den (point - count)).1 / (scaleDown num den (point - count)).2 < 10 ^ count := by
  have scaled_pos := scaleDown_den_pos num den_pos (point - count)
  have scaled_pos' : (0 : ℚ) < (scaleDown num den (point - count)).2 := by exact_mod_cast scaled_pos
  have less : ((scaleDown num den (point - count)).1 : ℚ) / (scaleDown num den (point - count)).2 <
      (10 ^ count : Nat) := by
    rw [scaleDown_eq, div_lt_iff₀ (zpow_pos (by norm_num) _), Nat.cast_pow, Nat.cast_ofNat, ← zpow_natCast,
      ← zpow_add₀ (by norm_num), add_sub_cancel]
    exact below
  rw [div_lt_iff₀ scaled_pos', ← Nat.cast_mul, Nat.cast_lt, Nat.mul_comm] at less
  exact Nat.div_lt_of_lt_mul less

/-- A neighbour that is taken reads back, for that is what it is taken for. -/
theorem readsBack_of_neighbour? {point : Int} {count : Nat} {digits : DecimalDigits} (den_pos : 0 < den)
    (below : (num : ℚ) / den < 10 ^ point) (few : count ≤ 17)
    (found : neighbour? (.finite false mantissa exponent) num den (point - count) = some digits) :
    ReadsBack mantissa exponent point digits := by
  have size := scaleDown_lt count den_pos below
  have nearest := divHalfEven_le (scaleDown num den (point - count)).1 (scaleDown num den (point - count)).2
  rw [neighbour?] at found
  dsimp only at found
  split_ifs at found with first second third
  all_goals
    obtain rfl := Option.some.inj found
    exact ⟨beq_iff_eq.1 ‹_›, count, few, rfl, by simp only []; omega⟩

/-- Seventeen digits read back. -/
theorem readsBack_seventeen {point place : Int} (seventeenth : place = point - (17 : Nat)) (den_pos : 0 < den)
    (fits : Mantissa mantissa exponent) (value : (num : ℚ) / den = mantissa * 2 ^ exponent)
    (below : (num : ℚ) / den < 10 ^ point) (least : 10 ^ (point - 1) ≤ (num : ℚ) / den) :
    ReadsBack mantissa exponent point
      ⟨divHalfEven (scaleDown num den place).1 (scaleDown num den place).2, place⟩ := by
  have unit_pos : (0 : ℚ) < 10 ^ place := zpow_pos (by norm_num) _
  have size := scaleDown_lt 17 den_pos below
  rw [← seventeenth] at size
  have nearest := divHalfEven_le (scaleDown num den place).1 (scaleDown num den place).2
  have close := abs_sub_divHalfEven_le (scaleDown num den place).1 (scaleDown_den_pos num den_pos place)
  rw [scaleDown_eq] at close
  have large : (10 : ℚ) ^ 16 ≤ (num : ℚ) / den / 10 ^ place := by
    have first : (16 : Nat) + place = point - 1 := by omega
    rw [le_div_iff₀ unit_pos, ← zpow_natCast, ← zpow_add₀ (by norm_num), first]
    exact least
  have positive : (0 : ℚ) < divHalfEven (scaleDown num den place).1 (scaleDown num den place).2 := by
    have := (abs_le.1 close).2
    linarith
  refine ⟨DecimalDigits.toBinary64_of_near (by exact_mod_cast positive) fits ?_, 17, le_rfl, seventeenth,
    by simp only []; omega⟩
  exact near_of_grid fits unit_pos (by rw [div_mul_cancel₀ _ unit_pos.ne', value]) large close

theorem readsBack_shortestFrom {point : Int} {fuel count : Nat} (den_pos : 0 < den)
    (fits : Mantissa mantissa exponent) (value : (num : ℚ) / den = mantissa * 2 ^ exponent)
    (below : (num : ℚ) / den < 10 ^ point) (least : 10 ^ (point - 1) ≤ (num : ℚ) / den)
    (total : fuel + count = 17) :
    ReadsBack mantissa exponent point
      (shortestFrom (.finite false mantissa exponent) num den point fuel count) := by
  induction fuel generalizing count with
  | zero =>
      obtain rfl : count = 17 := by omega
      exact readsBack_seventeen rfl den_pos fits value below least
  | succ fuel ih =>
      rw [shortestFrom]
      split
      next digits found => exact readsBack_of_neighbour? den_pos below (by omega) found
      next => exact ih (by omega)

/-- The decimal logarithms of the positive numbers. Three binary places are less than one decimal place. -/
theorem log_bounds (fits : Mantissa mantissa exponent) (positive : 0 < mantissa) :
    -358 ≤ Int.log 10 ((mantissa : ℚ) * 2 ^ exponent) ∧ Int.log 10 ((mantissa : ℚ) * 2 ^ exponent) < 342 := by
  have power : (0 : ℚ) < 2 ^ exponent := zpow_pos (by norm_num) _
  have least : (1 : ℚ) ≤ mantissa := by exact_mod_cast positive
  have below : (mantissa : ℚ) < 2 ^ (53 : Int) := by exact_mod_cast fits.below
  have value_pos : (0 : ℚ) < (mantissa : ℚ) * 2 ^ exponent := mul_pos (zero_lt_one.trans_le least) power
  have places : (2 : ℚ) ^ (3 : Int) ≤ (10 : Nat) := by norm_num
  constructor
  · refine (Int.zpow_le_iff_le_log (by decide) value_pos).1 ?_
    calc (((10 : Nat) : ℚ)) ^ (-358 : Int) ≤ (2 ^ (3 : Int)) ^ (-358 : Int) := by
          rw [zpow_neg, zpow_neg]
          exact inv_anti₀ (zpow_pos (by norm_num) _) (zpow_le_zpow_left₀ (by norm_num) (by norm_num) places)
      _ = 2 ^ (-1074 : Int) := by rw [← zpow_mul]; rfl
      _ ≤ 2 ^ exponent := zpow_le_zpow_right₀ (by norm_num) fits.least
      _ ≤ mantissa * 2 ^ exponent := le_mul_of_one_le_left power.le least
  · refine (Int.lt_zpow_iff_log_lt (by decide) value_pos).1 ?_
    calc (mantissa : ℚ) * 2 ^ exponent < 2 ^ (53 : Int) * 2 ^ exponent := mul_lt_mul_of_pos_right below power
      _ ≤ 2 ^ (53 : Int) * 2 ^ (973 : Int) :=
          mul_le_mul_of_nonneg_left (zpow_le_zpow_right₀ (by norm_num) (by have := fits.greatest; omega))
            (by positivity)
      _ = (2 ^ (3 : Int)) ^ (342 : Int) := by rw [← zpow_add₀ (by norm_num), ← zpow_mul]; rfl
      _ ≤ ((10 : Nat) : ℚ) ^ (342 : Int) := zpow_le_zpow_left₀ (by norm_num) (by norm_num) places

/-- The fewest digits of a positive number read back as it, and their point is not far away. -/
theorem readsBack_shortestDigits (fits : Mantissa mantissa exponent) (positive : 0 < mantissa) :
    ∃ point : Int, -358 < point ∧ point ≤ 342 ∧
      ReadsBack mantissa exponent point (shortestDigits mantissa exponent) := by
  have value := magnitude_eq mantissa exponent
  have den_pos := magnitude_den_pos mantissa exponent
  have den_pos' : (0 : ℚ) < (magnitude mantissa exponent).2 := by exact_mod_cast den_pos
  have value_pos : (0 : ℚ) < (magnitude mantissa exponent).1 / (magnitude mantissa exponent).2 := by
    rw [value]
    exact mul_pos (by exact_mod_cast positive) (zpow_pos (by norm_num) _)
  have num_pos : 0 < (magnitude mantissa exponent).1 := by
    have := (div_pos_iff_of_pos_right den_pos').1 value_pos
    exact_mod_cast this
  obtain ⟨lowest, highest⟩ := log_bounds fits positive
  rw [← value] at lowest highest
  have reaches : (magnitude mantissa exponent).2 ≤ (magnitude mantissa exponent).1 * 10 ^ 400 := by
    refine le_mul_pow_of_zpow_le den_pos ((Int.zpow_le_iff_le_log (by decide) value_pos).2 ?_)
    omega
  have point := pointPosition_eq num_pos den_pos reaches
  refine ⟨pointPosition (magnitude mantissa exponent).1 (magnitude mantissa exponent).2, by omega, by omega,
    readsBack_shortestFrom den_pos fits value ?_ ?_ rfl⟩
  · rw [point]
    exact Int.lt_zpow_succ_log_self (by decide) _
  · rw [point, add_sub_cancel_right]
    exact Int.zpow_log_le_self (by decide) value_pos

end QueryDesk.Number
