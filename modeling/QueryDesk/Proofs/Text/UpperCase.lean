/-
Module: QueryDesk.Proofs.Text.UpperCase
Purpose: What stands behind a word in the upper case of a text. A capital letter of ASCII comes of word
  characters only, so that a word at the head of the upper case is that of word characters at the head
  of the text itself.
Imports: QueryDesk.Proofs.Text.CharClass
Main exports: isCapital, exists_upperChar, exists_key_of_upper, upperChar_of_foldKeyword
-/
import QueryDesk.Proofs.Text.CharClass

namespace QueryDesk.Text

/-- A capital letter of ASCII. -/
def isCapital (c : Char) : Bool :=
  'A' ≤ c && c ≤ 'Z'

theorem toNat_of_isCapital {c : Char} (capital : isCapital c = true) : 65 ≤ c.toNat ∧ c.toNat ≤ 90 := by
  simp only [isCapital, Bool.and_eq_true, decide_eq_true_eq, Char.le_def, UInt32.le_iff_toNat_le]
    at capital
  exact capital

/-- A run has an image below 128 for one code point at most, which is a word character. -/
theorem upperRuns_low :
    (upperRuns.all fun run => decide (128 ≤ (run.first : Int) + run.shift) ||
      (run.first == run.last && inRanges wordRanges run.first)) = true := by
  decide

/-- An expansion is not empty, and begins below 128 for word characters only. -/
theorem upperExpansions_low :
    (upperExpansions.all fun entry =>
      match entry.2 with
      | [] => false
      | first :: _ => decide (128 ≤ (Char.ofNat first).toNat) || inRanges wordRanges entry.1) = true := by
  decide +kernel

theorem isWord_of_inRanges {c : Char} (far : ¬ c.toNat < 128) (word : inRanges wordRanges c.toNat = true) :
    isWord c = true := by
  rw [isWord, if_neg far, word]

theorem toNat_ofNat_of_pos {code : Nat} (positive : 0 < (Char.ofNat code).toNat) :
    (Char.ofNat code).toNat = code := by
  by_cases valid : code.isValidChar
  · rw [Char.ofNat, dif_pos valid]
    rfl
  · rw [Char.ofNat, dif_neg valid] at positive
    exact absurd positive (by decide)

theorem mem_of_lookup {code : Nat} {table : List (Nat × List Nat)} {image : List Nat}
    (found : table.lookup code = some image) : (code, image) ∈ table := by
  induction table with
  | nil => cases found
  | cons entry rest ih =>
      obtain ⟨key, value⟩ := entry
      rw [List.lookup_cons] at found
      by_cases same : code = key
      · subst same
        simp only [beq_self_eq_true, Option.some.injEq] at found
        simp [found]
      · rw [beq_false_of_ne same] at found
        exact List.mem_cons_of_mem _ (ih found)

/-- The upper case of a character is not empty. Where it begins with a capital letter, the character is a
word character. -/
theorem exists_upperChar (c : Char) :
    ∃ first more, upperChar c = first :: more ∧ (isCapital first = true → isWord c = true) := by
  unfold upperChar
  split_ifs with ascii
  · refine ⟨_, _, rfl, fun capital => isWord_of_isNameChar ?_⟩
    have low := toNat_of_isCapital capital
    simp only [isNameChar, isNameStart, isAsciiLetter, Char.le_def, UInt32.le_iff_toNat_le,
      Bool.or_eq_true, Bool.and_eq_true, decide_eq_true_eq]
    unfold Char.toUpper at low
    split at low
    · rename_i lower
      exact .inl (.inl (.inl ⟨lower.1, lower.2⟩))
    · exact .inl (.inl (.inr low))
  · cases found : upperExpansions.lookup c.toNat with
    | some image =>
        have entry := List.all_eq_true.1 upperExpansions_low _ (mem_of_lookup found)
        cases image with
        | nil => cases entry
        | cons first more =>
            refine ⟨_, _, rfl, fun capital => isWord_of_inRanges ascii ?_⟩
            have low := toNat_of_isCapital capital
            simp only [Bool.or_eq_true, decide_eq_true_eq] at entry
            exact entry.resolve_left (by omega)
    | none =>
        refine ⟨_, _, rfl, fun capital => isWord_of_inRanges ascii ?_⟩
        have low := toNat_of_isCapital capital
        rw [toNat_ofNat_of_pos (by omega), mapByRuns] at low
        cases mapped : upperRuns.findSome? fun run => run.image? c.toNat with
        | none =>
            rw [mapped, Option.getD_none] at low
            omega
        | some image =>
            rw [mapped, Option.getD_some] at low
            obtain ⟨run, member, at_run⟩ := List.exists_of_findSome?_eq_some mapped
            have entry := List.all_eq_true.1 upperRuns_low _ member
            unfold CaseRun.image? at at_run
            split_ifs at at_run with covers
            simp only [Bool.and_eq_true, decide_eq_true_eq] at covers
            simp only [Bool.or_eq_true, Bool.and_eq_true, decide_eq_true_eq, beq_iff_eq] at entry
            have shifted := Option.some.inj at_run
            rcases entry with far | ⟨single, word⟩
            · omega
            · rwa [show c.toNat = run.first by omega]

/-- A word of capital letters at the head of the upper case of a text is that of word characters at the
head of the text, of which there are no more than the word has. -/
theorem exists_key_of_upper {word text : List Char} (nonempty : word ≠ [])
    (capitals : ∀ c ∈ word, isCapital c = true) (begins : word <+: upper text) :
    ∃ key rest, text = key ++ rest ∧ key ≠ [] ∧ key.length ≤ word.length ∧
      (∀ c ∈ key, isWord c = true) ∧ word <+: upper key := by
  induction text generalizing word with
  | nil => exact absurd (List.prefix_nil.1 begins) nonempty
  | cons c rest ih =>
      obtain ⟨first, more, image, is_word⟩ := exists_upperChar c
      have whole : upper (c :: rest) = upperChar c ++ upper rest := rfl
      have single : upper [c] = upperChar c := List.append_nil _
      obtain ⟨after, split⟩ := begins
      rw [whole] at split
      -- The word ends in the image of the first character, or goes on behind it.
      rcases List.append_eq_append_iff.1 split with ⟨left, within, -⟩ | ⟨left, beyond, behind⟩
      · have head : isCapital first = true := by
          cases word with
          | nil => exact absurd rfl nonempty
          | cons w tail =>
              rw [image, List.cons_append, List.cons.injEq] at within
              exact within.1 ▸ capitals w (by simp)
        refine ⟨[c], rest, rfl, by simp, List.length_pos_iff.2 nonempty, ?_, ?_⟩
        · exact fun d member => List.mem_singleton.1 member ▸ is_word head
        · exact ⟨left, by rw [single, within]⟩
      · have head : isCapital first = true := capitals first (by rw [beyond, image]; simp)
        by_cases done : left = []
        · subst done
          refine ⟨[c], rest, rfl, by simp, List.length_pos_iff.2 nonempty, ?_, ?_⟩
          · exact fun d member => List.mem_singleton.1 member ▸ is_word head
          · have same : word = upper [c] := by rw [beyond, single, List.append_nil]
            exact same ▸ List.prefix_rfl
        · obtain ⟨key, after', rfl, some_key, short, words, starts⟩ :=
            ih done (fun d member => capitals d (by rw [beyond]; simp [member])) ⟨after, behind.symm⟩
          refine ⟨c :: key, after', rfl, by simp, ?_, ?_, ?_⟩
          · have size := congrArg List.length beyond
            rw [image] at size
            simp only [List.length_append, List.length_cons] at size ⊢
            omega
          · intro d member
            rcases List.mem_cons.1 member with rfl | later
            · exact is_word head
            · exact words d later
          · rw [beyond]
            exact (List.prefix_append_right_inj _).2 starts

/-- The letters that clauses begin with. -/
def clauseLetters : List Char :=
  ['l', 'o', 't', 'f', 's']

/-- What folds to the first letter of a clause has that letter for its upper case. -/
theorem upperChar_of_foldKeyword {c : Char} (letter : foldKeyword c ∈ clauseLetters) :
    upperChar c = [(foldKeyword c).toUpper] := by
  have each : ∀ n ∈ List.range 128 ++ [0x17f, 0x212a, 0x130, 0x131], foldKeyword (Char.ofNat n) ∈ clauseLetters →
      upperChar (Char.ofNat n) = [(foldKeyword (Char.ofNat n)).toUpper] := by
    decide +kernel
  have is_letter : isKeywordLetter (foldKeyword c) = true := by
    have all : clauseLetters.all isKeywordLetter = true := by decide
    exact List.all_eq_true.1 all _ letter
  have self : Char.ofNat c.toNat = c := Char.ofNat_toNat c
  rcases cases_of_foldKeyword is_letter with low | high
  · have below : c.toNat < 128 := by
      simp only [isAsciiLetter, Char.le_def, UInt32.le_iff_toNat_le, Bool.or_eq_true,
        Bool.and_eq_true, decide_eq_true_eq] at low
      change (97 ≤ c.toNat ∧ c.toNat ≤ 122) ∨ (65 ≤ c.toNat ∧ c.toNat ≤ 90) at low
      omega
    have here := each c.toNat (List.mem_append_left _ (List.mem_range.2 below))
    rw [self] at here
    exact here letter
  · have here := each c.toNat (List.mem_append_right _ high)
    rw [self] at here
    exact here letter

end QueryDesk.Text
