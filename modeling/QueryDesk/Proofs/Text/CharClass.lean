/-
Module: QueryDesk.Proofs.Text.CharClass
Purpose: How the character classes of SQL text lie to each other. Blanks are no word characters,
  decimal digits and keyword letters are word characters, and no keyword letter is a digit. The two
  tables of Unicode ranges are compared once, range by range; later proofs only use the inclusions.
Imports: QueryDesk.Text.Case, Mathlib.Data.List.DropRight
Main exports: isWord_of_isDigit, isWord_of_isNameChar, isWord_eq_false_of_isBlank, isKeywordLetter,
  isWord_of_foldKeyword, isDigit_eq_false_of_foldKeyword, trimEnd_eq_rdropWhile
-/
import QueryDesk.Text.Case
import Mathlib.Data.List.DropRight

namespace QueryDesk.Text

/-! ### Tables of ranges

The tables are sorted and long. One pass through two of them, which takes the ranges of the one off the head
of the other, decides whether every range of the one lies within a range of the other. -/

/-- A code point lies in a table exactly if one of its ranges covers it. -/
theorem inRanges_iff {table : List (Nat × Nat)} {code : Nat} :
    inRanges table code = true ↔ ∃ range ∈ table, range.1 ≤ code ∧ code ≤ range.2 := by
  simp [inRanges]

/-- A range lies within another one. -/
def rangeWithin (outer inner : Nat × Nat) : Bool :=
  outer.1.ble inner.1 && inner.2.ble outer.2

/-- If the ranges of one table, each in turn, take the ranges within them off the head of another table until
none is left, then each of those lies within a range of the first table. For sorted tables this is one pass
through both. -/
theorem exists_range_of_taken {table inner : List (Nat × Nat)}
    (taken : table.foldl (fun rest range => rest.dropWhile (rangeWithin range)) inner = []) :
    ∀ taken ∈ inner, ∃ range ∈ table, range.1 ≤ taken.1 ∧ taken.2 ≤ range.2 := by
  induction table generalizing inner with
  | nil =>
    rw [List.foldl_nil] at taken
    simp [taken]
  | cons range table ih =>
    intro here member
    rw [← List.takeWhile_append_dropWhile (p := rangeWithin range) (l := inner), List.mem_append] at member
    rcases member with first | rest
    · have within := List.mem_takeWhile_imp first
      rw [rangeWithin, Bool.and_eq_true, Nat.ble_eq, Nat.ble_eq] at within
      exact ⟨range, List.mem_cons_self, within⟩
    · obtain ⟨other, listed, within⟩ := ih taken here rest
      exact ⟨other, List.mem_cons_of_mem range listed, within⟩

/-- Every range of decimal digits lies inside a range of word characters. -/
theorem digitRanges_covered :
    ∀ digits ∈ digitRanges, ∃ word ∈ wordRanges, word.1 ≤ digits.1 ∧ digits.2 ≤ word.2 :=
  exists_range_of_taken (List.isEmpty_iff.1 (by decide +kernel))

/-- The code points of blanks above ASCII. -/
def farBlanks : List Nat :=
  [0x85, 0xa0, 0x1680, 0x2000, 0x2001, 0x2002, 0x2003, 0x2004, 0x2005, 0x2006, 0x2007, 0x2008,
    0x2009, 0x200a, 0x2028, 0x2029, 0x202f, 0x205f, 0x3000]

/-- The ranges between one blank and the next. -/
def blankGaps : List (Nat × Nat) :=
  ((0 :: farBlanks).zip (farBlanks ++ [0x110000])).map fun ends => (ends.1 + 1, ends.2 - 1)

theorem blankGaps_clear :
    (blankGaps.all fun gap => farBlanks.all fun code => !rangeWithin gap (code, code)) = true := by
  decide

/-- Every range of word characters lies between two blanks. -/
theorem wordRanges_covered : ∀ word ∈ wordRanges, ∃ gap ∈ blankGaps, gap.1 ≤ word.1 ∧ word.2 ≤ gap.2 :=
  exists_range_of_taken (List.isEmpty_iff.1 (by decide))

/-- No blank above ASCII is a word character. -/
theorem farBlanks_apart {code : Nat} (blank : code ∈ farBlanks) : inRanges wordRanges code = false := by
  rw [Bool.eq_false_iff]
  intro inside
  obtain ⟨word, listed, low, high⟩ := inRanges_iff.1 inside
  obtain ⟨gap, is_gap, before, behind⟩ := wordRanges_covered word listed
  have clear := List.all_eq_true.1 (List.all_eq_true.1 blankGaps_clear gap is_gap) code blank
  have within : rangeWithin gap (code, code) = true := by
    rw [rangeWithin, Bool.and_eq_true, Nat.ble_eq, Nat.ble_eq]
    exact ⟨before.trans low, high.trans behind⟩
  rw [within] at clear
  cases clear

/-- The code points of blanks: a few below 128, and the ones listed above it. -/
theorem toNat_of_isBlank {c : Char} (blank : isBlank c = true) :
    c.toNat ≤ 0x20 ∨ c.toNat ∈ farBlanks := by
  simp only [isBlank, Bool.or_eq_true, Bool.and_eq_true, beq_iff_eq, decide_eq_true_eq] at blank
  simp only [farBlanks, List.mem_cons, List.not_mem_nil, or_false]
  omega

/-- A character below U+0021 is no word character. -/
theorem isWord_eq_false_of_toNat_le {c : Char} (low : c.toNat ≤ 0x20) : isWord c = false := by
  have ascii : c.toNat < 128 := by omega
  have letter : isAsciiLetter c = false := by
    simp only [isAsciiLetter, Char.le_def, UInt32.le_iff_toNat_le, Bool.or_eq_false_iff,
      Bool.and_eq_false_iff, decide_eq_false_iff_not]
    change (¬ 97 ≤ c.toNat ∨ ¬ c.toNat ≤ 122) ∧ (¬ 65 ≤ c.toNat ∨ ¬ c.toNat ≤ 90)
    omega
  have digit : isAsciiDigit c = false := by
    simp only [isAsciiDigit, Char.le_def, UInt32.le_iff_toNat_le, Bool.and_eq_false_iff,
      decide_eq_false_iff_not]
    change ¬ 48 ≤ c.toNat ∨ ¬ c.toNat ≤ 57
    omega
  have underscore : (c == '_') = false := by
    rw [beq_eq_false_iff_ne]
    rintro rfl
    simp at low
  simp [isWord, ascii, letter, digit, underscore]

/-- A blank is no word character. -/
theorem isWord_eq_false_of_isBlank {c : Char} (blank : isBlank c = true) : isWord c = false := by
  rcases toNat_of_isBlank blank with low | far
  · exact isWord_eq_false_of_toNat_le low
  · have apart := farBlanks_apart far
    have high : ¬ c.toNat < 128 := by
      simp only [farBlanks, List.mem_cons, List.not_mem_nil, or_false] at far
      omega
    simpa [isWord, high] using apart

/-- A word character is no blank. -/
theorem isBlank_eq_false_of_isWord {c : Char} (word : isWord c = true) : isBlank c = false := by
  cases blank : isBlank c with
  | false => rfl
  | true => simp [isWord_eq_false_of_isBlank blank] at word

/-- A decimal digit is a word character. -/
theorem isWord_of_isDigit {c : Char} (digit : isDigit c = true) : isWord c = true := by
  unfold isDigit digitValue? at digit
  split at digit
  · rename_i ascii
    have low : c.toNat < 128 := by
      simp only [isAsciiDigit, Char.le_def, UInt32.le_iff_toNat_le, Bool.and_eq_true,
        decide_eq_true_eq] at ascii
      have : c.toNat ≤ 57 := ascii.2
      omega
    simp [isWord, low, ascii]
  · split at digit
    · simp at digit
    · rename_i high
      split at digit
      · rename_i range found
        have covers := List.find?_some found
        simp only [Bool.and_eq_true, decide_eq_true_eq] at covers
        obtain ⟨word, member, inside⟩ := digitRanges_covered _ (List.mem_of_find?_eq_some found)
        simp only [isWord, if_neg high]
        exact inRanges_iff.2 ⟨word, member, by omega, by omega⟩
      · simp at digit

/-- A decimal digit is no blank. -/
theorem isBlank_eq_false_of_isDigit {c : Char} (digit : isDigit c = true) : isBlank c = false :=
  isBlank_eq_false_of_isWord (isWord_of_isDigit digit)

/-- A character that continues a name is a word character. -/
theorem isWord_of_isNameChar {c : Char} (name : isNameChar c = true) : isWord c = true := by
  simp only [isNameChar, isNameStart, isAsciiLetter, isAsciiDigit, Char.le_def,
    UInt32.le_iff_toNat_le, Bool.or_eq_true, Bool.and_eq_true, decide_eq_true_eq, beq_iff_eq] at name
  have ascii : c.toNat < 128 := by
    rcases name with ((⟨_, high⟩ | ⟨_, high⟩) | rfl) | ⟨_, high⟩
    · exact Nat.lt_of_le_of_lt high (by decide)
    · exact Nat.lt_of_le_of_lt high (by decide)
    · decide
    · exact Nat.lt_of_le_of_lt high (by decide)
  simp only [isWord, if_pos ascii, isAsciiLetter, isAsciiDigit, Char.le_def,
    UInt32.le_iff_toNat_le, Bool.or_eq_true, Bool.and_eq_true, decide_eq_true_eq, beq_iff_eq]
  tauto

/-- A lower-case ASCII letter, as keywords are written with. -/
def isKeywordLetter (k : Char) : Bool :=
  'a' ≤ k && k ≤ 'z'

/-- What folds to a keyword letter is an ASCII letter or one of the four letters outside ASCII. -/
theorem cases_of_foldKeyword {c : Char} (letter : isKeywordLetter (foldKeyword c) = true) :
    isAsciiLetter c = true ∨ c.toNat ∈ [0x17f, 0x212a, 0x130, 0x131] := by
  unfold foldKeyword at letter
  split at letter
  · simp [*]
  · simp [*]
  · simp [*]
  · simp [*]
  · left
    simp only [isKeywordLetter, Bool.and_eq_true, decide_eq_true_eq, Char.le_def,
      UInt32.le_iff_toNat_le] at letter
    simp only [isAsciiLetter, Char.le_def, UInt32.le_iff_toNat_le, Bool.or_eq_true,
      Bool.and_eq_true, decide_eq_true_eq]
    unfold Char.toLower at letter
    split at letter
    · rename_i upper
      right
      exact ⟨upper.1, upper.2⟩
    · exact .inl letter

/-- The four letters outside ASCII are word characters and no digits. -/
theorem farLetters_in_word :
    ([0x17f, 0x212a, 0x130, 0x131].all fun code =>
      inRanges wordRanges code && !isDigit (Char.ofNat code)) = true := by
  decide +kernel

/-- What folds to a keyword letter is a word character. -/
theorem isWord_of_foldKeyword {c : Char} (letter : isKeywordLetter (foldKeyword c) = true) :
    isWord c = true := by
  rcases cases_of_foldKeyword letter with ascii | far
  · refine isWord_of_isNameChar ?_
    simp [isNameChar, isNameStart, ascii]
  · have high : ¬ c.toNat < 128 := by
      simp only [List.mem_cons, List.not_mem_nil, or_false] at far
      omega
    have here := List.all_eq_true.1 farLetters_in_word _ far
    rw [Bool.and_eq_true] at here
    rw [isWord, if_neg high, here.1]

/-- What folds to a keyword letter is no decimal digit. -/
theorem isDigit_eq_false_of_foldKeyword {c : Char}
    (letter : isKeywordLetter (foldKeyword c) = true) : isDigit c = false := by
  rcases cases_of_foldKeyword letter with ascii | far
  · simp only [isAsciiLetter, Char.le_def, UInt32.le_iff_toNat_le, Bool.or_eq_true,
      Bool.and_eq_true, decide_eq_true_eq] at ascii
    change (97 ≤ c.toNat ∧ c.toNat ≤ 122) ∨ (65 ≤ c.toNat ∧ c.toNat ≤ 90) at ascii
    have digit : isAsciiDigit c = false := by
      simp only [isAsciiDigit, Char.le_def, UInt32.le_iff_toNat_le, Bool.and_eq_false_iff,
        decide_eq_false_iff_not]
      change ¬ 48 ≤ c.toNat ∨ ¬ c.toNat ≤ 57
      omega
    have low : c.toNat < 128 := by omega
    simp [isDigit, digitValue?, digit, low]
  · have here := List.all_eq_true.1 farLetters_in_word _ far
    rw [Bool.and_eq_true, Char.ofNat_toNat, Bool.not_eq_true'] at here
    exact here.2

/-- Dropping a tail of a nonempty text: the head only goes if all that follows it goes. -/
theorem rdropWhile_cons {α : Type} (p : α → Bool) (c : α) (rest : List α) :
    (c :: rest).rdropWhile p =
      if rest.rdropWhile p = [] then (if p c then [] else [c]) else c :: rest.rdropWhile p := by
  simp only [List.rdropWhile, List.reverse_cons, List.dropWhile_append, List.isEmpty_iff,
    List.reverse_eq_nil_iff]
  by_cases gone : rest.reverse.dropWhile p = []
  · by_cases head : p c = true <;> simp [gone, head]
  · simp [gone]

/-- Trimming the end drops the longest blank tail. -/
theorem trimEnd_eq_rdropWhile (text : List Char) : trimEnd text = text.rdropWhile isBlank := by
  induction text with
  | nil => rfl
  | cons c rest ih =>
      rw [trimEnd, ih, rdropWhile_cons]
      cases kept : rest.rdropWhile isBlank with
      | nil => simp
      | cons d more => simp

end QueryDesk.Text
