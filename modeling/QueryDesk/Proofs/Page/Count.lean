/-
Module: QueryDesk.Proofs.Page.Count
Purpose: Row counts as runs of decimal digits. A run of digits always has a value, the numeral of a
  number has that number as its value, and digits behind a numeral make it larger. Clamping yields a
  run of digits whose value is at most the limit, and two clamps are one clamp to the lesser limit.
Imports: QueryDesk.Page.Paging, QueryDesk.Proofs.Text.CharClass
Main exports: digitsValue?_isSome_iff, digitsValue?_numeral, le_digitsValue?_append,
  isCount_clampCount, clampCount_clampCount
-/
import QueryDesk.Page.Paging
import QueryDesk.Proofs.Text.CharClass

namespace QueryDesk.Number

open QueryDesk.Text

/-- Reading a run of digits in two parts. -/
theorem digitsValueFrom_append (seen : Nat) (left right : List Char) :
    digitsValueFrom seen (left ++ right) =
      (digitsValueFrom seen left).bind fun value => digitsValueFrom value right := by
  induction left generalizing seen with
  | nil => rfl
  | cons c rest ih =>
      simp only [List.cons_append, digitsValueFrom]
      cases digitValue? c with
      | none => rfl
      | some value => exact ih _

/-- A text of digits has a value, and it is not below what was read before it. -/
theorem exists_digitsValueFrom {digits : List Char} (all : ∀ c ∈ digits, isDigit c = true)
    (seen : Nat) : ∃ value, digitsValueFrom seen digits = some value ∧ seen ≤ value := by
  induction digits generalizing seen with
  | nil => exact ⟨seen, rfl, Nat.le_refl _⟩
  | cons c rest ih =>
      obtain ⟨digit, hdigit⟩ := Option.isSome_iff_exists.1 (all c (by simp))
      obtain ⟨value, hvalue, le⟩ := ih (fun x hx => all x (by simp [hx])) (10 * seen + digit)
      exact ⟨value, by simpa [digitsValueFrom, hdigit] using hvalue, by omega⟩

/-- Only a text of digits has a value. -/
theorem isDigit_of_digitsValueFrom {text : List Char} {seen value : Nat}
    (read : digitsValueFrom seen text = some value) : ∀ c ∈ text, isDigit c = true := by
  induction text generalizing seen with
  | nil => simp
  | cons c rest ih =>
      cases digit : digitValue? c with
      | none => simp [digitsValueFrom, digit] at read
      | some d =>
          rw [digitsValueFrom, digit] at read
          intro x member
          rcases List.mem_cons.1 member with rfl | later
          · simp [isDigit, digit]
          · exact ih read x later

/-- A text has a value exactly if it is a nonempty run of digits. -/
theorem digitsValue?_isSome_iff {text : List Char} :
    (digitsValue? text).isSome = true ↔ text ≠ [] ∧ ∀ c ∈ text, isDigit c = true := by
  cases text with
  | nil => simp [digitsValue?]
  | cons c rest =>
      constructor
      · intro some
        obtain ⟨value, read⟩ := Option.isSome_iff_exists.1 some
        exact ⟨by simp, isDigit_of_digitsValueFrom read⟩
      · rintro ⟨_, all⟩
        obtain ⟨value, read, _⟩ := exists_digitsValueFrom all 0
        exact Option.isSome_iff_exists.2 ⟨value, read⟩

/-- Digits behind a run of digits multiply its value by ten at least. -/
theorem le_digitsValue?_append {left right : List Char} {value : Nat}
    (read : digitsValue? left = some value) (some_right : right ≠ [])
    (all : ∀ c ∈ right, isDigit c = true) :
    ∃ whole, digitsValue? (left ++ right) = some whole ∧ 10 * value ≤ whole := by
  cases left with
  | nil => simp [digitsValue?] at read
  | cons c rest =>
      cases right with
      | nil => exact absurd rfl some_right
      | cons d more =>
          obtain ⟨digit, hdigit⟩ := Option.isSome_iff_exists.1 (all d (by simp))
          have later : ∀ x ∈ more, isDigit x = true := fun x hx => all x (by simp [hx])
          obtain ⟨whole, hwhole, le⟩ := exists_digitsValueFrom later (10 * value + digit)
          have read' : digitsValueFrom 0 (c :: rest) = some value := read
          refine ⟨whole, ?_, by omega⟩
          change digitsValueFrom 0 ((c :: rest) ++ d :: more) = some whole
          rw [digitsValueFrom_append, read']
          simpa [digitsValueFrom, hdigit] using hwhole

/-- ASCII digits are read like the standard digits. -/
theorem digitsValueFrom_eq_ofDigitChars {text : List Char}
    (all : ∀ c ∈ text, isAsciiDigit c = true) (seen : Nat) :
    digitsValueFrom seen text = some (Nat.ofDigitChars 10 text seen) := by
  induction text generalizing seen with
  | nil => rfl
  | cons c rest ih =>
      have head : isAsciiDigit c = true := all c (by simp)
      simp only [digitsValueFrom, digitValue?, head, if_true, Nat.ofDigitChars_cons]
      exact ih (fun x hx => all x (by simp [hx])) _

end QueryDesk.Number

namespace QueryDesk.Sql

open QueryDesk.Text QueryDesk.Number

/-- The numeral of a natural number is its decimal digits. -/
theorem numeral_natCast (n : Nat) : numeral (n : Int) = Nat.toDigits 10 n := by
  change (Nat.repr n).toList = _
  exact Nat.toList_repr

/-- A numeral has ASCII digits only. -/
theorem isAsciiDigit_of_mem_numeral {value : Int} (nonneg : 0 ≤ value) {c : Char}
    (member : c ∈ numeral value) : isAsciiDigit c = true := by
  obtain ⟨n, rfl⟩ := Int.eq_ofNat_of_zero_le nonneg
  rw [numeral_natCast] at member
  have digit := Nat.isDigit_of_mem_toDigits (by omega) (by omega) member
  simpa [Char.isDigit, isAsciiDigit, Char.le_def, UInt32.le_iff_toNat_le] using digit

/-- A numeral has digits only. -/
theorem isDigit_of_mem_numeral {value : Int} (nonneg : 0 ≤ value) {c : Char}
    (member : c ∈ numeral value) : isDigit c = true := by
  simp [isDigit, digitValue?, isAsciiDigit_of_mem_numeral nonneg member]

/-- A numeral is not empty. -/
theorem numeral_ne_nil {value : Int} (nonneg : 0 ≤ value) : numeral value ≠ [] := by
  obtain ⟨n, rfl⟩ := Int.eq_ofNat_of_zero_le nonneg
  rw [numeral_natCast]
  exact Nat.toDigits_ne_nil

/-- The value of the numeral of a number is that number. -/
theorem digitsValue?_numeral {value : Int} (nonneg : 0 ≤ value) :
    digitsValue? (numeral value) = some value.toNat := by
  obtain ⟨n, rfl⟩ := Int.eq_ofNat_of_zero_le nonneg
  have ascii : ∀ c ∈ numeral (n : Int), isAsciiDigit c = true :=
    fun c member => isAsciiDigit_of_mem_numeral (by omega) member
  have read := digitsValueFrom_eq_ofDigitChars ascii 0
  rw [numeral_natCast, Nat.ofDigitChars_ten_toDigits] at read
  rw [numeral_natCast]
  cases digits : Nat.toDigits 10 n with
  | nil => exact absurd digits Nat.toDigits_ne_nil
  | cons c rest =>
      rw [digits] at read
      simpa [digitsValue?] using read

/-! ### Clamping

Whatever stood in the place of a count, the clamped count is a run of digits again, with a value that is at
most the limit. A second clamp finds such a run, so that only the lesser one of two limits counts. -/

/-- A count is a nonempty run of digits. -/
def IsCount (count : List Char) : Prop :=
  count ≠ [] ∧ ∀ c ∈ count, isDigit c = true

/-- The numeral of a number is a count. -/
theorem isCount_numeral {value : Int} (nonneg : 0 ≤ value) : IsCount (numeral value) :=
  ⟨numeral_ne_nil nonneg, fun _ member => isDigit_of_mem_numeral nonneg member⟩

/-- What has a value is a count. -/
theorem IsCount.of_value {count : List Char} {value : Nat} (read : countValue? count = some value) :
    IsCount count :=
  digitsValue?_isSome_iff.1 (Option.isSome_iff_exists.2 ⟨value, read⟩)

/-- A count within the limit stays. -/
theorem clampCount_of_le {limit : Int} {count : List Char} {value : Nat}
    (read : countValue? count = some value) (fits : (value : Int) ≤ limit) :
    clampCount limit count = count := by
  simp [clampCount, read, fits]

/-- A count above the limit becomes the limit. -/
theorem clampCount_of_lt {limit : Int} {count : List Char} {value : Nat}
    (read : countValue? count = some value) (above : limit < value) :
    clampCount limit count = numeral limit := by
  simp [clampCount, read, show ¬ (value : Int) ≤ limit by omega]

/-- What is no count becomes the limit. -/
theorem clampCount_of_none {limit : Int} {count : List Char} (read : countValue? count = none) :
    clampCount limit count = numeral limit := by
  simp [clampCount, read]

/-- A clamped count is a count whose value is at most the limit. -/
theorem clampCount_spec {limit : Int} (nonneg : 0 ≤ limit) (count : List Char) :
    ∃ value, countValue? (clampCount limit count) = some value ∧ (value : Int) ≤ limit := by
  have numeral_fits : ∃ value, countValue? (numeral limit) = some value ∧ (value : Int) ≤ limit :=
    ⟨limit.toNat, digitsValue?_numeral nonneg, by omega⟩
  cases read : countValue? count with
  | none => rwa [clampCount_of_none read]
  | some value =>
      by_cases fits : (value : Int) ≤ limit
      · exact ⟨value, by rwa [clampCount_of_le read fits], fits⟩
      · rwa [clampCount_of_lt read (by omega)]

/-- A clamped count is a count. -/
theorem isCount_clampCount {limit : Int} (nonneg : 0 ≤ limit) (count : List Char) :
    IsCount (clampCount limit count) := by
  obtain ⟨value, read, _⟩ := clampCount_spec nonneg count
  exact .of_value read

/-- Two clamps are one clamp to the lesser limit. -/
theorem clampCount_clampCount {first second : Int} (first_nonneg : 0 ≤ first)
    (count : List Char) :
    clampCount second (clampCount first count) = clampCount (min first second) count := by
  have of_numeral : clampCount second (numeral first) = numeral (min first second) := by
    have read := digitsValue?_numeral first_nonneg
    by_cases le : first ≤ second
    · have lesser : min first second = first := by omega
      rw [clampCount_of_le read (by omega), lesser]
    · have lesser : min first second = second := by omega
      rw [clampCount_of_lt read (by omega), lesser]
  cases read : countValue? count with
  | none => rw [clampCount_of_none read, clampCount_of_none read, of_numeral]
  | some value =>
      by_cases fits : (value : Int) ≤ first
      · rw [clampCount_of_le read fits]
        by_cases fits' : (value : Int) ≤ second
        · have both : (value : Int) ≤ min first second := by omega
          rw [clampCount_of_le read fits', clampCount_of_le read both]
        · have lesser : min first second = second := by omega
          rw [lesser]
      · have above : min first second < (value : Int) := by omega
        rw [clampCount_of_lt read (by omega), of_numeral, clampCount_of_lt read above]

/-- Clamping again to the same limit changes nothing. -/
theorem clampCount_idem {limit : Int} (nonneg : 0 ≤ limit) (count : List Char) :
    clampCount limit (clampCount limit count) = clampCount limit count := by
  have same : min limit limit = limit := by omega
  rw [clampCount_clampCount nonneg, same]

/-- A limit with further digits behind it is above the limit. -/
theorem clampCount_numeral_append {limit : Int} (positive : 1 ≤ limit) {digits : List Char}
    (run : IsCount digits) : clampCount limit (numeral limit ++ digits) = numeral limit := by
  have nonneg : 0 ≤ limit := by omega
  obtain ⟨whole, read, le⟩ := le_digitsValue?_append (digitsValue?_numeral nonneg) run.1 run.2
  exact clampCount_of_lt read (by omega)

end QueryDesk.Sql
