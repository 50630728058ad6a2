/-
Module: QueryDesk.Proofs.Number.NumberText
Purpose: The numbers of JSON: the parts that they are written with, how they are read, and what they stand
  for. The texts of integers and of finite binary64 numbers are such numbers, and they stand for what they
  are the texts of.
Imports: QueryDesk.Value.Json, QueryDesk.Proofs.Number.ReadBack, QueryDesk.Proofs.Page.Count
Main exports: NumberParts, NumberParts.WellFormed, readNumberParts, readNumberParts_text, ofDecimal_congr,
  ofDecimal_shortestDigits, layoutParts, layout_cases, exists_parts_int, exists_parts_float
-/
import QueryDesk.Value.Json
import QueryDesk.Proofs.Number.ReadBack
import QueryDesk.Proofs.Page.Count

namespace QueryDesk.Number

open QueryDesk.Text Binary64

/-- The parts of a number: the digits before the point and behind it, and the power of ten. -/
structure NumberParts where
  negative : Bool
  whole : List Char
  places : List Char := []
  power : Option Int := none
deriving Repr, DecidableEq

namespace NumberParts

/-- The places behind their point. A number without places has no point. -/
def placesText (places : List Char) : List Char :=
  if places.isEmpty then [] else '.' :: places

/-- The power of ten behind its mark. -/
def powerText : Option Int → List Char
  | none => []
  | some power => 'e' :: exponentText power

/-- The parts one after the other. -/
def text (parts : NumberParts) : List Char :=
  (if parts.negative then ['-'] else []) ++
    (parts.whole ++ (placesText parts.places ++ powerText parts.power))

/-- All digits of a number as one whole number. -/
def coefficient (parts : NumberParts) : Nat :=
  Nat.ofDigitChars 10 (parts.whole ++ parts.places) 0

/-- The power of ten by which all digits are multiplied. -/
def exponent (parts : NumberParts) : Int :=
  parts.power.getD 0 - parts.places.length

/-- What a number stands for: an integer if it has digits only. -/
def value (parts : NumberParts) : Value :=
  if parts.places.isEmpty && parts.power.isNone then
    .int (if parts.negative then -(parts.coefficient : Int) else parts.coefficient)
  else .float (ofDecimal parts.negative parts.coefficient parts.exponent)

/-- The digits of a number are digits, there are some before the point, and they begin with a zero only if
that is the only one. -/
structure WellFormed (parts : NumberParts) : Prop where
  whole_digits : ∀ c ∈ parts.whole, isAsciiDigit c = true
  places_digits : ∀ c ∈ parts.places, isAsciiDigit c = true
  some_whole : parts.whole ≠ []
  lone_zero : parts.whole.head? = some '0' → parts.whole = ['0']

end NumberParts

/-- A minus at the head of a text, and the rest. -/
def readMinus : List Char → Bool × List Char
  | '-' :: rest => (true, rest)
  | text => (false, text)

/-- The digits behind a point at the head of a text, and the rest. A point without digits is refused. -/
def readPlaces : List Char → Option (List Char × List Char)
  | '.' :: rest =>
    let digits := rest.takeWhile isAsciiDigit
    if digits.isEmpty then none else some (digits, rest.dropWhile isAsciiDigit)
  | text => some ([], text)

/-- The power of ten behind its mark at the head of a text, and the rest. A mark without digits is refused. -/
def readPower (text : List Char) : Option (Option Int × List Char) :=
  match text with
  | c :: rest =>
    if c == 'e' || c == 'E' then
      let (negative, body) := readSign rest
      let digits := body.takeWhile isAsciiDigit
      let size : Int := Nat.ofDigitChars 10 digits 0
      if digits.isEmpty then none
      else some (some (if negative then -size else size), body.dropWhile isAsciiDigit)
    else some (none, text)
  | [] => some (none, [])

/-- The number at the head of a text, and the rest. -/
def readNumberParts (text : List Char) : Option (NumberParts × List Char) :=
  let (negative, body) := readMinus text
  let whole := body.takeWhile isAsciiDigit
  if whole.isEmpty || (whole.head? == some '0' && whole != ['0']) then none
  else
    match readPlaces (body.dropWhile isAsciiDigit) with
    | none => none
    | some (places, afterPlaces) =>
      (readPower afterPlaces).map fun (power, rest) => (⟨negative, whole, places, power⟩, rest)

/-- What may stand behind a number: nothing, or a character that ends an item. -/
def Delimited (text : List Char) : Prop :=
  ∀ c ∈ text.head?, c = ',' ∨ c = ']' ∨ c = '\x7d'

open NumberParts

variable {rest digits : List Char} {parts : NumberParts}

theorem Delimited.no_digit (delimited : Delimited rest) : ∀ c ∈ rest.head?, isAsciiDigit c = false := by
  intro c head
  rcases delimited c head with rfl | rfl | rfl <;> rfl

/-- Digits are read up to what is no digit. -/
theorem takeWhile_digits (all : ∀ c ∈ digits, isAsciiDigit c = true)
    (stops : ∀ c ∈ rest.head?, isAsciiDigit c = false) :
    (digits ++ rest).takeWhile isAsciiDigit = digits ∧ (digits ++ rest).dropWhile isAsciiDigit = rest := by
  rw [List.takeWhile_append_of_pos all, List.dropWhile_append_of_pos all]
  cases rest with
  | nil => exact ⟨List.append_nil _, rfl⟩
  | cons c rest =>
      have stop : isAsciiDigit c = false := stops c rfl
      rw [List.takeWhile_cons, List.dropWhile_cons, stop]
      exact ⟨List.append_nil _, rfl⟩

/-- The digits of a whole number are ASCII digits. -/
theorem isAsciiDigit_of_mem_toDigits {number : Nat} {c : Char} (member : c ∈ Nat.toDigits 10 number) :
    isAsciiDigit c = true := by
  rw [← Sql.numeral_natCast] at member
  exact Sql.isAsciiDigit_of_mem_numeral (Int.natCast_nonneg number) member

theorem toList_toString (number : Nat) : (toString number).toList = Nat.toDigits 10 number :=
  Nat.toList_repr

/-- An exponent is written with some digits behind its sign. -/
theorem exists_exponentText (power : Int) : ∃ digits : List Char,
    exponentText power = (if power < 0 then '-' else '+') :: digits ∧ digits ≠ [] ∧
      (∀ c ∈ digits, isAsciiDigit c = true) ∧ Nat.ofDigitChars 10 digits 0 = power.natAbs := by
  refine ⟨_, rfl, ?_⟩
  rw [toList_toString]
  split_ifs
  · refine ⟨List.cons_ne_nil _ _, ?_, ?_⟩
    · rintro c (_ | ⟨_, later⟩)
      · rfl
      · exact isAsciiDigit_of_mem_toDigits later
    · rw [Nat.ofDigitChars_cons]
      exact Nat.ofDigitChars_ten_toDigits
  · exact ⟨Nat.toDigits_ne_nil, fun c => isAsciiDigit_of_mem_toDigits, Nat.ofDigitChars_ten_toDigits⟩

theorem readPower_powerText {power : Option Int} (delimited : Delimited rest) :
    readPower (powerText power ++ rest) = some (power, rest) := by
  cases power with
  | none =>
      rw [powerText, List.nil_append]
      cases rest with
      | nil => rfl
      | cons c rest => rcases delimited c rfl with rfl | rfl | rfl <;> rfl
  | some power =>
      obtain ⟨digits, written, some_digits, all, size⟩ := exists_exponentText power
      obtain ⟨taken, left⟩ := takeWhile_digits all delimited.no_digit
      have nonempty : digits.isEmpty = false := List.isEmpty_eq_false_iff.2 some_digits
      rw [powerText, written]
      by_cases negative : power < 0
      · have signed : -((power.natAbs : Nat) : Int) = power := by omega
        rw [if_pos negative]
        simp only [readPower, List.cons_append, readSign, taken, left, size, nonempty, signed]
        rfl
      · have signed : ((power.natAbs : Nat) : Int) = power := by omega
        rw [if_neg negative]
        simp only [readPower, List.cons_append, readSign, taken, left, size, nonempty, signed]
        rfl

theorem powerText_stops {power : Option Int} (delimited : Delimited rest) :
    ∀ c ∈ (powerText power ++ rest).head?, isAsciiDigit c = false ∧ c ≠ '.' := by
  intro c head
  cases power with
  | none => rcases delimited c head with rfl | rfl | rfl <;> exact ⟨rfl, by decide⟩
  | some power =>
      obtain rfl : 'e' = c := by simpa [powerText] using head
      exact ⟨rfl, by decide⟩

theorem readPlaces_placesText {places : List Char} (all : ∀ c ∈ places, isAsciiDigit c = true)
    (stops : ∀ c ∈ rest.head?, isAsciiDigit c = false ∧ c ≠ '.') :
    readPlaces (placesText places ++ rest) = some (places, rest) := by
  cases places with
  | nil =>
      change readPlaces rest = some ([], rest)
      unfold readPlaces
      split
      next => exact absurd rfl (stops '.' rfl).2
      next => rfl
  | cons place places =>
      obtain ⟨taken, left⟩ := takeWhile_digits all fun c head => (stops c head).1
      change readPlaces ('.' :: (place :: places ++ rest)) = _
      rw [readPlaces, taken, left]
      rfl

theorem placesText_stops (places : List Char) (stops : ∀ c ∈ rest.head?, isAsciiDigit c = false ∧ c ≠ '.') :
    ∀ c ∈ (placesText places ++ rest).head?, isAsciiDigit c = false := by
  intro c head
  cases places with
  | nil => exact (stops c head).1
  | cons place places =>
      obtain rfl : '.' = c := by simpa [placesText] using head
      rfl

/-- The minus of a number is read, for its digits do not begin with one. -/
theorem readMinus_sign {negative : Bool} (some_digits : digits ≠ [])
    (all : ∀ c ∈ digits, isAsciiDigit c = true) :
    readMinus ((if negative then ['-'] else []) ++ (digits ++ rest)) = (negative, digits ++ rest) := by
  cases negative with
  | true => rfl
  | false =>
      obtain ⟨first, more, rfl⟩ := List.exists_cons_of_ne_nil some_digits
      change readMinus (first :: (more ++ rest)) = (false, first :: (more ++ rest))
      unfold readMinus
      split
      next same =>
        obtain ⟨rfl, -⟩ := List.cons.inj same
        exact absurd (all '-' List.mem_cons_self) (by decide)
      next => rfl

/-- A well-formed number is read back from its text. -/
theorem readNumberParts_text (good : parts.WellFormed) (delimited : Delimited rest) :
    readNumberParts (parts.text ++ rest) = some (parts, rest) := by
  have stops := @powerText_stops rest parts.power delimited
  obtain ⟨taken, left⟩ := takeWhile_digits good.whole_digits (placesText_stops parts.places stops)
  have accepted : (parts.whole.isEmpty || (parts.whole.head? == some '0' && parts.whole != ['0'])) = false := by
    rw [List.isEmpty_eq_false_iff.2 good.some_whole, Bool.false_or, Bool.and_eq_false_iff]
    by_cases zero : parts.whole.head? = some '0'
    · exact .inr (by rw [good.lone_zero zero]; rfl)
    · exact .inl (beq_false_of_ne zero)
  rw [NumberParts.text, List.append_assoc, List.append_assoc, List.append_assoc, readNumberParts,
    readMinus_sign good.some_whole good.whole_digits]
  dsimp only
  rw [taken, left, accepted, readPlaces_placesText good.places_digits stops]
  dsimp only
  rw [readPower_powerText delimited]
  rfl

variable {mantissa coefficient coefficient' : Nat} {exponent exponent' : Int}

/-- The value of a decimal number tells the place of its first digit. -/
theorem length_add_exponent (positive : 0 < coefficient) (exponent : Int) :
    ((toString coefficient).length : Int) + exponent =
      Int.log 10 ((coefficient : ℚ) * 10 ^ exponent) + 1 := by
  have power : (0 : ℚ) < 10 ^ exponent := zpow_pos (by norm_num) _
  have some_digits : 0 < (toString coefficient).length := Nat.length_repr_pos
  obtain ⟨lower, upper⟩ := length_toString_bounds positive
  have lower' : (10 : ℚ) ^ ((toString coefficient).length - 1) ≤ coefficient := by exact_mod_cast lower
  have upper' : (coefficient : ℚ) < 10 ^ (toString coefficient).length := by exact_mod_cast upper
  have log : Int.log 10 ((coefficient : ℚ) * 10 ^ exponent) =
      ((toString coefficient).length - 1 : Nat) + exponent := by
    refine log_eq_of_between (by decide) (mul_pos (by exact_mod_cast positive) power) ?_ ?_
    · rw [Nat.cast_ofNat, zpow_add₀ (by norm_num), zpow_natCast]
      exact mul_le_mul_of_nonneg_right lower' power.le
    · have place : (((toString coefficient).length - 1 : Nat) : Int) + exponent + 1 =
          (toString coefficient).length + exponent := by omega
      rw [place, Nat.cast_ofNat, zpow_add₀ (by norm_num), zpow_natCast]
      exact mul_lt_mul_of_pos_right upper' power
  omega

/-- A decimal number is read as the rounded quotient that it is, unless its value is far out. -/
theorem ofDecimal_eq (negative : Bool) {digits : DecimalDigits} (positive : 0 < digits.coefficient) :
    ofDecimal negative digits.coefficient digits.exponent =
      if Int.log 10 digits.value + 1 < -400 then .finite negative 0 (-1074)
      else if 400 < Int.log 10 digits.value + 1 then .infinite negative
      else ofRatio negative digits.quotient.1 digits.quotient.2 := by
  have nonzero : (digits.coefficient == 0) = false := beq_false_of_ne positive.ne'
  have size := length_add_exponent positive digits.exponent
  rw [ofDecimal, nonzero, Bool.false_or, size, DecimalDigits.value, DecimalDigits.quotient]
  simp only [decide_eq_true_eq]
  split_ifs <;> rfl

/-- Decimal numbers of one value are read alike. -/
theorem ofDecimal_congr (negative : Bool) {digits digits' : DecimalDigits} (positive : 0 < digits.coefficient)
    (same : digits.value = digits'.value) :
    ofDecimal negative digits.coefficient digits.exponent =
      ofDecimal negative digits'.coefficient digits'.exponent := by
  have positive' : 0 < digits'.coefficient := by
    have value_pos := DecimalDigits.value_pos positive
    rw [same, DecimalDigits.value, mul_pos_iff_of_pos_right (zpow_pos (by norm_num) _)] at value_pos
    exact_mod_cast value_pos
  have quotients : ofRatio negative digits.quotient.1 digits.quotient.2 =
      ofRatio negative digits'.quotient.1 digits'.quotient.2 := by
    have den_pos := digits.quotient_den_pos
    have den_pos' := digits'.quotient_den_pos
    refine ofRatio_congr negative den_pos den_pos' ?_
    have crossed := digits.quotient_eq.trans (same.trans digits'.quotient_eq.symm)
    rw [div_eq_div_iff (by exact_mod_cast den_pos.ne') (by exact_mod_cast den_pos'.ne')] at crossed
    exact_mod_cast crossed
  rw [ofDecimal_eq negative positive, ofDecimal_eq negative positive', same, quotients]

/-- The fewest digits of a positive number are read as the number, under either sign. -/
theorem ofDecimal_shortestDigits (negative : Bool) (fits : Mantissa mantissa exponent) (positive : 0 < mantissa) :
    0 < (shortestDigits mantissa exponent).coefficient ∧
      ofDecimal negative (shortestDigits mantissa exponent).coefficient
        (shortestDigits mantissa exponent).exponent = .finite negative mantissa exponent := by
  obtain ⟨point, lowest, highest, back, count, few, place, small⟩ := readsBack_shortestDigits fits positive
  generalize shortestDigits mantissa exponent = digits at back place small
  rw [DecimalDigits.toBinary64_eq] at back
  have some_coefficient : 0 < digits.coefficient := by
    refine Nat.pos_of_ne_zero fun none => ?_
    have nothing : digits.quotient.1 = 0 := by
      rw [DecimalDigits.quotient, none]
      split_ifs
      · exact Nat.zero_mul _
      · rfl
    rw [nothing] at back
    injection back with _ same
    omega
  refine ⟨some_coefficient, ?_⟩
  have size := length_add_exponent some_coefficient digits.exponent
  have length_pos : 0 < (toString digits.coefficient).length := Nat.length_repr_pos
  have length_le : (toString digits.coefficient).length ≤ count + 1 :=
    (Nat.length_repr_le_iff count.succ_pos).2 (small.trans_lt (Nat.pow_lt_pow_right (by decide) count.lt_succ_self))
  rw [ofDecimal_eq negative some_coefficient, DecimalDigits.value, if_neg (by omega), if_neg (by omega)]
  exact ofRatio_of_sign negative back

/-! ### Digits laid out

A number is written in one of four layouts, by the place of its point. They differ in where the digits are
cut and where zeros are put, and in nothing else: the digits times their power of ten stay the same, and
this is what is read. -/

variable {number zeros : Nat} {point : Int} {negative : Bool}

/-- The digits of a positive number do not begin with a zero. -/
theorem head?_toDigits (positive : 0 < number) : (Nat.toDigits 10 number).head? ≠ some '0' := by
  induction number using Nat.strong_induction_on with
  | _ number ih =>
      rcases Nat.lt_or_ge number 10 with single | more
      · have digit : ∀ number < 10, 0 < number → [Nat.digitChar number].head? ≠ some '0' := by decide
        rw [Nat.toDigits_of_lt_base single]
        exact digit number single positive
      · rw [Nat.toDigits_of_base_le (by decide) more, List.head?_append_of_ne_nil _ Nat.toDigits_ne_nil]
        exact ih (number / 10) (by omega) (by omega)

/-- Only zeros are taken away from the end of digits. -/
theorem exists_trimZeros (some_digits : digits ≠ []) (leading : digits.head? ≠ some '0') :
    ∃ zeros, digits = trimZeros digits ++ List.replicate zeros '0' ∧ trimZeros digits ≠ [] := by
  have split : (digits.reverse.dropWhile (· == '0')).reverse ++
      (digits.reverse.takeWhile (· == '0')).reverse = digits := by
    rw [← List.reverse_append, List.takeWhile_append_dropWhile, List.reverse_reverse]
  have zeros : (digits.reverse.takeWhile (· == '0')).reverse =
      List.replicate (digits.reverse.takeWhile (· == '0')).length '0' := by
    rw [List.eq_replicate_iff]
    refine ⟨List.length_reverse, fun c member => ?_⟩
    have zero := List.mem_takeWhile_imp (List.mem_reverse.1 member)
    simpa using zero
  rw [zeros] at split
  refine ⟨(digits.reverse.takeWhile (· == '0')).length, ?_⟩
  generalize (digits.reverse.takeWhile (· == '0')).length = count at split
  rw [trimZeros]
  cases kept : (digits.reverse.dropWhile (· == '0')).reverse with
  | cons first more =>
      rw [kept] at split
      exact ⟨split.symm, List.cons_ne_nil _ _⟩
  | nil =>
      rw [kept, List.nil_append] at split
      subst split
      cases count with
      | zero => exact absurd rfl some_digits
      | succ count => exact absurd rfl leading

/-- The parts of a number whose digits are laid out as values are. -/
def layoutParts (negative : Bool) (digits : List Char) (point : Int) : NumberParts :=
  if -4 ≤ point - 1 && point - 1 < 16 then
    if point ≤ 0 then
      { negative, whole := ['0'], places := List.replicate (-point).toNat '0' ++ digits }
    else if digits.length ≤ point.toNat then
      { negative, whole := digits ++ List.replicate (point.toNat - digits.length) '0', places := ['0'] }
    else { negative, whole := digits.take point.toNat, places := digits.drop point.toNat }
  else { negative, whole := digits.take 1, places := digits.drop 1, power := some (point - 1) }

/-- The four layouts: behind zeros, before zeros, with the point among the digits, and with an exponent. -/
theorem layout_cases (negative : Bool) (digits : List Char) (point : Int) :
    (point ≤ 0 ∧
      layoutParts negative digits point =
        { negative, whole := ['0'], places := List.replicate (-point).toNat '0' ++ digits } ∧
      layOut valueStyle digits point = '0' :: '.' :: (List.replicate (-point).toNat '0' ++ digits)) ∨
    (0 < point ∧ digits.length ≤ point.toNat ∧
      layoutParts negative digits point =
        { negative, whole := digits ++ List.replicate (point.toNat - digits.length) '0', places := ['0'] } ∧
      layOut valueStyle digits point =
        digits ++ List.replicate (point.toNat - digits.length) '0' ++ ['.', '0']) ∨
    (0 < point ∧ point.toNat < digits.length ∧
      layoutParts negative digits point =
        { negative, whole := digits.take point.toNat, places := digits.drop point.toNat } ∧
      layOut valueStyle digits point = digits.take point.toNat ++ '.' :: digits.drop point.toNat) ∨
    (layoutParts negative digits point =
        { negative, whole := digits.take 1, places := digits.drop 1, power := some (point - 1) } ∧
      layOut valueStyle digits point =
        digits.take 1 ++ placesText (digits.drop 1) ++ 'e' :: exponentText (point - 1)) := by
  by_cases positional : (decide (-4 ≤ point - 1) && decide (point - 1 < 16)) = true
  · have parts : layoutParts negative digits point = _ := if_pos positional
    have laid : layOut valueStyle digits point = _ := if_pos positional
    rw [parts, laid]
    by_cases before : point ≤ 0
    · exact .inl ⟨before, if_pos before, if_pos before⟩
    · rw [if_neg before, if_neg before]
      by_cases whole : digits.length ≤ point.toNat
      · exact .inr (.inl ⟨not_le.1 before, whole, if_pos whole, if_pos whole⟩)
      · exact .inr (.inr (.inl ⟨not_le.1 before, not_le.1 whole, if_neg whole, if_neg whole⟩))
  · exact .inr (.inr (.inr ⟨if_neg positional, if_neg positional⟩))

theorem layoutParts_text (some_digits : digits ≠ []) :
    (layoutParts negative digits point).text =
      (if negative then ['-'] else []) ++ layOut valueStyle digits point := by
  rcases layout_cases negative digits point with ⟨-, parts, laid⟩ | ⟨-, -, parts, laid⟩ |
    ⟨-, inside, parts, laid⟩ | ⟨parts, laid⟩
  all_goals
    rw [parts, laid, NumberParts.text]
    congr 1
  · simp [placesText, powerText, some_digits]
  · have more : digits.drop point.toNat ≠ [] := by
      rw [Ne, List.drop_eq_nil_iff]
      omega
    simp [placesText, powerText, more]
  · simp [powerText]

theorem layoutParts_wellFormed (some_digits : digits ≠ []) (all : ∀ c ∈ digits, isAsciiDigit c = true)
    (leading : digits.head? ≠ some '0') : (layoutParts negative digits point).WellFormed := by
  have zeros : ∀ count, ∀ c ∈ List.replicate count '0', isAsciiDigit c = true := by
    intro count c member
    rw [List.eq_of_mem_replicate member]
    rfl
  -- No number of leading digits begins with a zero.
  have kept : ∀ count, 0 < count → (digits.take count).head? = some '0' → digits.take count = ['0'] := by
    intro count positive zero
    rw [List.head?_take, if_neg positive.ne'] at zero
    exact absurd zero leading
  rcases layout_cases negative digits point with ⟨-, parts, -⟩ | ⟨-, -, parts, -⟩ |
    ⟨positive, -, parts, -⟩ | ⟨parts, -⟩
  all_goals rw [parts]
  · exact ⟨zeros 1, fun c member => (List.mem_append.1 member).elim (zeros _ c) (all c),
      List.cons_ne_nil _ _, fun _ => rfl⟩
  · refine ⟨fun c member => (List.mem_append.1 member).elim (all c) (zeros _ c), zeros 1,
      List.append_ne_nil_of_left_ne_nil some_digits _, fun zero => ?_⟩
    rw [List.head?_append_of_ne_nil _ some_digits] at zero
    exact absurd zero leading
  · refine ⟨fun c member => all c (List.mem_of_mem_take member),
      fun c member => all c (List.mem_of_mem_drop member), ?_, kept _ (by omega)⟩
    rw [Ne, List.take_eq_nil_iff]
    simp [some_digits]
    omega
  · refine ⟨fun c member => all c (List.mem_of_mem_take member),
      fun c member => all c (List.mem_of_mem_drop member), ?_, kept 1 Nat.one_pos⟩
    rw [Ne, List.take_eq_nil_iff]
    simp [some_digits]

/-- A power of ten may stand in the digits or in the exponent. -/
theorem value_shift (coefficient count : Nat) (exponent : Int) :
    DecimalDigits.value ⟨10 ^ count * coefficient, exponent⟩ =
      DecimalDigits.value ⟨coefficient, exponent + count⟩ := by
  rw [DecimalDigits.value, DecimalDigits.value, zpow_add₀ (by norm_num), zpow_natCast]
  push_cast
  ring

/-- Wherever the point stands, the digits keep their value. -/
theorem layoutParts_value (negative : Bool) (some_digits : digits ≠ []) (point : Int) :
    DecimalDigits.value ⟨(layoutParts negative digits point).coefficient,
        (layoutParts negative digits point).exponent⟩ =
      DecimalDigits.value ⟨Nat.ofDigitChars 10 digits 0, point - digits.length⟩ := by
  have length_pos := List.length_pos_iff.2 some_digits
  rcases layout_cases negative digits point with ⟨nonpos, parts, -⟩ | ⟨positive, short, parts, -⟩ |
    ⟨positive, long, parts, -⟩ | ⟨parts, -⟩
  all_goals rw [parts, NumberParts.coefficient, NumberParts.exponent]
  · have zeros : Nat.ofDigitChars 10 (['0'] ++ (List.replicate (-point).toNat '0' ++ digits)) 0 =
        Nat.ofDigitChars 10 digits 0 := by
      rw [Nat.ofDigitChars_append, Nat.ofDigitChars_append, Nat.ofDigitChars_replicate_zero]
      exact congrArg (Nat.ofDigitChars 10 digits) (Nat.mul_zero _)
    rw [zeros]
    congr 2
    simp only [Option.getD_none, List.length_append, List.length_replicate]
    omega
  · have zeros : Nat.ofDigitChars 10 (digits ++ List.replicate (point.toNat - digits.length) '0' ++ ['0']) 0 =
        10 ^ (point.toNat - digits.length + 1) * Nat.ofDigitChars 10 digits 0 := by
      rw [List.append_assoc, ← List.replicate_succ', Nat.ofDigitChars_append, Nat.ofDigitChars_replicate_zero]
    rw [zeros, value_shift]
    congr 2
    simp only [Option.getD_none, List.length_singleton]
    omega
  · simp only [List.take_append_drop, Option.getD_none, List.length_drop]
    congr 2
    omega
  · simp only [List.take_append_drop, Option.getD_some, List.length_drop]
    congr 2
    omega

theorem layoutParts_negative (negative : Bool) (digits : List Char) (point : Int) :
    (layoutParts negative digits point).negative = negative := by
  rcases layout_cases negative digits point with ⟨-, parts, -⟩ | ⟨-, -, parts, -⟩ | ⟨-, -, parts, -⟩ |
    ⟨parts, -⟩
  all_goals rw [parts]

theorem layoutParts_is_float (negative : Bool) (some_digits : digits ≠ []) (point : Int) :
    ((layoutParts negative digits point).places.isEmpty && (layoutParts negative digits point).power.isNone) =
      false := by
  rcases layout_cases negative digits point with ⟨-, parts, -⟩ | ⟨-, -, parts, -⟩ | ⟨-, long, parts, -⟩ |
    ⟨parts, -⟩
  all_goals rw [parts]
  · simp [some_digits]
  · rfl
  · simp [long]
  · simp

/-- The text of an integer is a number that stands for it. -/
theorem exists_parts_int (value : Int) : ∃ parts : NumberParts,
    (toString value).toList = parts.text ∧ parts.WellFormed ∧ parts.value = .int value := by
  refine ⟨{ negative := value < 0, whole := Nat.toDigits 10 value.natAbs }, ?_, ⟨?_, by simp, ?_, ?_⟩, ?_⟩
  · cases value with
    | ofNat number =>
        change (toString number).toList = _
        rw [toList_toString, NumberParts.text]
        simp [placesText, powerText]
    | negSucc number =>
        change ("-" ++ toString (number + 1)).toList = _
        rw [String.toList_append, toList_toString, NumberParts.text]
        simp [placesText, powerText]
  · exact fun c => isAsciiDigit_of_mem_toDigits
  · exact Nat.toDigits_ne_nil
  · intro zero
    rcases Nat.eq_zero_or_pos value.natAbs with none | positive
    · exact congrArg (Nat.toDigits 10) none
    · exact absurd zero (head?_toDigits positive)
  · have digits : NumberParts.coefficient
        { negative := value < 0, whole := Nat.toDigits 10 value.natAbs } = value.natAbs := by
      rw [NumberParts.coefficient, List.append_nil, Nat.ofDigitChars_ten_toDigits]
    refine (if_pos rfl).trans ?_
    rw [digits]
    simp only [decide_eq_true_eq]
    split_ifs <;> congr 1 <;> omega

/-- Digits without the zeros at their end are digits still, and do not begin with a zero. -/
theorem trimZeros_toDigits (positive : 0 < number) :
    trimZeros (Nat.toDigits 10 number) ≠ [] ∧
      (∀ c ∈ trimZeros (Nat.toDigits 10 number), isAsciiDigit c = true) ∧
      (trimZeros (Nat.toDigits 10 number)).head? ≠ some '0' := by
  have leading := head?_toDigits positive
  obtain ⟨zeros, trimmed, some_kept⟩ := exists_trimZeros Nat.toDigits_ne_nil leading
  refine ⟨some_kept, fun c member => ?_, ?_⟩
  · have among : c ∈ Nat.toDigits 10 number := trimmed ▸ List.mem_append_left _ member
    exact isAsciiDigit_of_mem_toDigits among
  · rwa [trimmed, List.head?_append_of_ne_nil _ some_kept] at leading

/-- The zeros at the end of digits move the point, and do not change the value. -/
theorem value_trimZeros {decimal : DecimalDigits} (positive : 0 < decimal.coefficient) :
    DecimalDigits.value ⟨Nat.ofDigitChars 10 (trimZeros (Nat.toDigits 10 decimal.coefficient)) 0,
        decimal.exponent + (Nat.toDigits 10 decimal.coefficient).length -
          (trimZeros (Nat.toDigits 10 decimal.coefficient)).length⟩ = decimal.value := by
  obtain ⟨zeros, trimmed, -⟩ := exists_trimZeros Nat.toDigits_ne_nil (head?_toDigits positive)
  generalize trimZeros (Nat.toDigits 10 decimal.coefficient) = kept at trimmed
  have coefficient : 10 ^ zeros * Nat.ofDigitChars 10 kept 0 = decimal.coefficient := by
    rw [← Nat.ofDigitChars_replicate_zero, ← Nat.ofDigitChars_append, ← trimmed, Nat.ofDigitChars_ten_toDigits]
  have place : decimal.exponent + (Nat.toDigits 10 decimal.coefficient).length - kept.length =
      decimal.exponent + zeros := by
    rw [trimmed, List.length_append, List.length_replicate]
    omega
  rw [place, ← value_shift, coefficient]

/-- The sign of a text stands before the rest of it. -/
theorem toList_signed (negative : Bool) (body : List Char) :
    ((if negative then "-" else "") ++ String.ofList body).toList = (if negative then ['-'] else []) ++ body := by
  cases negative <;> simp

/-- The text of a finite number is a number that stands for it. -/
theorem exists_parts_float (negative : Bool) (fits : Mantissa mantissa exponent) : ∃ parts : NumberParts,
    (Binary64.text (.finite negative mantissa exponent)).toList = parts.text ∧ parts.WellFormed ∧
      parts.value = .float (.finite negative mantissa exponent) := by
  rcases Nat.eq_zero_or_pos mantissa with rfl | positive
  · have least : exponent = -1074 := by
      have full := fits.full
      have := fits.least
      omega
    have digits : ∀ c ∈ ['0'], isAsciiDigit c = true := List.forall_mem_singleton.2 rfl
    refine ⟨{ negative, whole := ['0'], places := ['0'] }, ?_,
      ⟨digits, digits, List.cons_ne_nil _ _, fun _ => rfl⟩, ?_⟩
    · rw [Binary64.text, render]
      exact toList_signed negative _
    · rw [least]
      rfl
  · obtain ⟨some_coefficient, read⟩ := ofDecimal_shortestDigits negative fits positive
    obtain ⟨some_kept, all, leading⟩ := trimZeros_toDigits some_coefficient
    refine ⟨layoutParts negative (trimZeros (Nat.toDigits 10 (shortestDigits mantissa exponent).coefficient))
      ((shortestDigits mantissa exponent).exponent +
        (Nat.toDigits 10 (shortestDigits mantissa exponent).coefficient).length), ?_,
      layoutParts_wellFormed some_kept all leading, ?_⟩
    · have nonzero : (mantissa == 0) = false := beq_false_of_ne positive.ne'
      rw [layoutParts_text some_kept, Binary64.text, render, nonzero, ← toList_toString]
      exact toList_signed negative _
    · have same := (value_trimZeros some_coefficient).symm.trans (layoutParts_value negative some_kept _).symm
      rw [NumberParts.value, layoutParts_is_float negative some_kept, layoutParts_negative,
        if_neg Bool.false_ne_true, ← ofDecimal_congr negative some_coefficient same, read]

end QueryDesk.Number
