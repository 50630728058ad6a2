/-
Module: QueryDesk.Proofs.Sql.Reading
Purpose: What the readers of a clause consume. A keyword is a text that folds to it, and blanks,
  digits and word characters are read in maximal runs. From the pieces the readers of counts are
  inverted: what they read splits the text at the count.
Imports: QueryDesk.Proofs.Sql.LastMatch
Main exports: run1?, Stops, IsRun, keyword?_eq_some_iff, run1?_eq_some_iff, CountAt, rowCount?_eq_some_iff,
  secondCount?_eq_some_iff
-/
import QueryDesk.Proofs.Sql.LastMatch

namespace QueryDesk.Sql

open QueryDesk.Text

theorem keyword?_eq_some_iff {word text rest : List Char} :
    keyword? word text = some rest ↔ ∃ key, key.map foldKeyword = word ∧ text = key ++ rest := by
  induction word generalizing text with
  | nil => simp [keyword?, eq_comm]
  | cons k word ih =>
      cases text with
      | nil => simp [keyword?]
      | cons c tail =>
          rw [keyword?]
          by_cases fold : foldKeyword c = k
          · subst fold
            simp only [beq_self_eq_true, if_true, ih]
            constructor
            · rintro ⟨key, rfl, rfl⟩
              exact ⟨c :: key, rfl, rfl⟩
            · rintro ⟨_ | ⟨d, key⟩, spelled, split⟩
              · cases spelled
              · cases split
                exact ⟨key, (List.cons.inj spelled).2, rfl⟩
          · simp only [beq_iff_eq, fold, if_false, reduceCtorEq, false_iff]
            rintro ⟨_ | ⟨d, key⟩, spelled, split⟩
            · cases spelled
            · cases split
              exact fold (List.cons.inj spelled).1

theorem keyword?_append {key : List Char} (rest : List Char) :
    keyword? (key.map foldKeyword) (key ++ rest) = some rest :=
  keyword?_eq_some_iff.2 ⟨key, rfl, rfl⟩

theorem wholeWord?_eq_some_iff {word text rest : List Char} :
    wholeWord? word text = some rest ↔ keyword? word text = some rest ∧ wordEnds rest = true := by
  rw [wholeWord?]
  cases keyword? word text with
  | none => simp
  | some after =>
      by_cases ends : wordEnds after = true <;> simp only [ends, if_true] <;> aesop

/-- Characters that fold to the letters of a keyword are word characters. -/
theorem isWord_of_mem_key {key word : List Char} (spelled : key.map foldKeyword = word)
    (letters : word.all isKeywordLetter = true) {c : Char} (member : c ∈ key) : isWord c = true := by
  refine isWord_of_foldKeyword (List.all_eq_true.1 letters _ ?_)
  rw [← spelled]
  exact List.mem_map_of_mem member

/-- The text after its leading characters of a kind, of which there is at least one. -/
def run1? (kind : Char → Bool) : List Char → Option (List Char)
  | c :: rest => if kind c then some (rest.dropWhile kind) else none
  | [] => none

theorem blanks1?_eq_run1? : blanks1? = run1? isBlank := by
  funext text
  cases text <;> rfl

theorem digits1?_eq_run1? : digits1? = run1? isDigit := by
  funext text
  cases text <;> rfl

theorem word1?_eq_run1? : word1? = run1? isWord := by
  funext text
  cases text <;> rfl

/-- A text does not begin with a character of a kind. -/
def Stops (kind : Char → Bool) : List Char → Prop
  | [] => True
  | c :: _ => kind c = false

/-- A text that stops at a kind does not begin with a character of it. -/
theorem Stops.false_of_head {kind : Char → Bool} {c : Char} {rest : List Char} (stops : Stops kind (c :: rest))
    (is_kind : kind c = true) : False := by
  rw [show kind c = false from stops] at is_kind
  cases is_kind

/-- A run is a text of characters of one kind, at least one. -/
def IsRun (kind : Char → Bool) (text : List Char) : Prop :=
  text ≠ [] ∧ ∀ c ∈ text, kind c = true

theorem isRun_space : IsRun isBlank [' '] :=
  ⟨List.cons_ne_nil _ _, List.all_eq_true.1 (by decide)⟩

variable {kind : Char → Bool}

theorem stops_dropWhile (text : List Char) : Stops kind (text.dropWhile kind) := by
  induction text with
  | nil => trivial
  | cons c rest ih =>
      rw [List.dropWhile_cons]
      split_ifs with holds
      · exact ih
      · exact Bool.eq_false_iff.2 holds

theorem dropWhile_of_stops {text : List Char} (stops : Stops kind text) :
    text.dropWhile kind = text := by
  cases text with
  | nil => rfl
  | cons c rest => rw [List.dropWhile_cons, if_neg (Bool.eq_false_iff.1 stops)]

theorem run1?_append {run : List Char} (isRun : IsRun kind run) (rest : List Char) :
    run1? kind (run ++ rest) = some (rest.dropWhile kind) := by
  obtain ⟨nonempty, all⟩ := isRun
  cases run with
  | nil => exact absurd rfl nonempty
  | cons c more =>
      simp only [List.mem_cons, forall_eq_or_imp] at all
      rw [List.cons_append, run1?, if_pos all.1, List.dropWhile_append_of_pos all.2]

theorem run1?_eq_some_iff {text rest : List Char} :
    run1? kind text = some rest ↔ ∃ run, IsRun kind run ∧ text = run ++ rest ∧ Stops kind rest := by
  constructor
  · intro read
    cases text with
    | nil => cases read
    | cons c tail =>
        rw [run1?] at read
        split_ifs at read with holds
        obtain rfl := Option.some.inj read
        refine ⟨c :: tail.takeWhile kind, ⟨by simp, ?_⟩, ?_, stops_dropWhile tail⟩
        · intro d member
          rcases List.mem_cons.1 member with rfl | later
          · exact holds
          · exact List.mem_takeWhile_imp later
        · rw [List.cons_append, List.takeWhile_append_dropWhile]
  · rintro ⟨run, isRun, rfl, stops⟩
    rw [run1?_append isRun, dropWhile_of_stops stops]

theorem run1?_eq_none_iff {text : List Char} : run1? kind text = none ↔ Stops kind text := by
  cases text with
  | nil => simp [run1?, Stops]
  | cons c rest => simp [run1?, Stops]

theorem digits1?_eq_some_iff {text rest : List Char} :
    digits1? text = some rest ↔ ∃ run, IsRun isDigit run ∧ text = run ++ rest ∧ Stops isDigit rest := by
  rw [digits1?_eq_run1?]
  exact run1?_eq_some_iff

theorem digits1?_eq_none_iff {text : List Char} : digits1? text = none ↔ Stops isDigit text := by
  rw [digits1?_eq_run1?]
  exact run1?_eq_none_iff

theorem blanks1?_eq_some_iff {text rest : List Char} :
    blanks1? text = some rest ↔ ∃ run, IsRun isBlank run ∧ text = run ++ rest ∧ Stops isBlank rest := by
  rw [blanks1?_eq_run1?]
  exact run1?_eq_some_iff

theorem word1?_eq_some_iff {text rest : List Char} :
    word1? text = some rest ↔ ∃ run, IsRun isWord run ∧ text = run ++ rest ∧ Stops isWord rest := by
  rw [word1?_eq_run1?]
  exact run1?_eq_some_iff

theorem Stops.append {run : List Char} (isRun : IsRun kind run) {other : Char → Bool}
    (apart : ∀ c, kind c = true → other c = false) (rest : List Char) : Stops other (run ++ rest) := by
  obtain ⟨nonempty, all⟩ := isRun
  cases run with
  | nil => exact absurd rfl nonempty
  | cons c more => exact apart c (all c (by simp))

theorem exists_blanks (text : List Char) :
    ∃ gap, (∀ c ∈ gap, isBlank c = true) ∧ text = gap ++ blanks text ∧
      Stops isBlank (blanks text) :=
  ⟨text.takeWhile isBlank, fun _ member => List.mem_takeWhile_imp member,
    List.takeWhile_append_dropWhile.symm, stops_dropWhile text⟩

theorem blanks_append {gap rest : List Char} (all : ∀ c ∈ gap, isBlank c = true)
    (stops : Stops isBlank rest) : blanks (gap ++ rest) = rest := by
  rw [blanks, List.dropWhile_append_of_pos all, dropWhile_of_stops stops]

/-! ### Counts

A reader gives the text behind what it has read. Each is inverted here, so that what was read stands in
front of that text and has a shape of its own, which says nothing of readers any more. -/

/-- A placeholder read without a look at its characters. -/
theorem placeholder?_eq_chars (text : List Char) :
    placeholder? text =
      match char? '?' text with
      | some rest => some rest
      | none =>
        match char? '$' text with
        | some rest => digits1? rest
        | none => (char? ':' text).bind word1? := by
  cases text with
  | nil => rfl
  | cons c rest =>
      by_cases mark : c = '?'
      · subst mark
        rfl
      · by_cases dollar : c = '$'
        · subst dollar
          rfl
        · by_cases colon : c = ':'
          · subst colon
            rfl
          · simp [placeholder?, char?, mark, dollar, colon]

/-- A row count read without a look at its characters. -/
theorem rowCount?_eq_chars (text : List Char) :
    rowCount? text =
      match char? '-' text with
      | some rest => digits1? rest
      | none =>
        match digits1? text with
        | some rest => some rest
        | none =>
          match wholeWord? "all".toList text with
          | some rest => some rest
          | none => placeholder? text := by
  cases text with
  | nil => rfl
  | cons c rest =>
      by_cases minus : c = '-'
      · subst minus
        rfl
      · have other : char? '-' (c :: rest) = none := by simp [char?, minus]
        simp only [other]
        unfold rowCount?
        split
        · rename_i same
          exact absurd (List.cons.inj same).1 minus
        · rfl

/-- The characters of a count. -/
def isCountChar (c : Char) : Bool :=
  isWord c || c == '-' || c == '?' || c == '$' || c == ':'

theorem isCountChar_of_isDigit {c : Char} (digit : isDigit c = true) : isCountChar c = true := by
  simp [isCountChar, isWord_of_isDigit digit]

theorem isBlank_eq_false_of_isCountChar {c : Char} (counts : isCountChar c = true) :
    isBlank c = false := by
  simp only [isCountChar, Bool.or_eq_true, beq_iff_eq] at counts
  rcases counts with (((word | rfl) | rfl) | rfl) | rfl
  · exact isBlank_eq_false_of_isWord word
  all_goals decide

/-- A count at the head of a text: only a question mark can have a digit behind it. -/
structure CountAt (count rest : List Char) : Prop where
  isRun : IsRun isCountChar count
  ends : count = ['?'] ∨ Stops isDigit rest

theorem CountAt.of_digits {count rest : List Char} (isRun : IsRun isDigit count)
    (stops : Stops isDigit rest) : CountAt count rest :=
  ⟨⟨isRun.1, fun c member => isCountChar_of_isDigit (isRun.2 c member)⟩, .inr stops⟩

theorem stops_isDigit_of_isWord {text : List Char} (stops : Stops isWord text) :
    Stops isDigit text := by
  cases text with
  | nil => trivial
  | cons c rest =>
      cases digit : isDigit c with
      | false => exact digit
      | true =>
          have word : isWord c = false := stops
          simp [isWord_of_isDigit digit] at word

theorem stops_isWord_iff {text : List Char} : Stops isWord text ↔ wordEnds text = true := by
  cases text with
  | nil => simp [Stops, wordEnds]
  | cons c rest => simp [Stops, wordEnds]

theorem countAt_cons {first : Char} {run rest : List Char} (counts : isCountChar first = true)
    (words : ∀ c ∈ run, isWord c = true) (stops : Stops isDigit rest) : CountAt (first :: run) rest := by
  refine ⟨⟨by simp, ?_⟩, .inr stops⟩
  intro c member
  rcases List.mem_cons.1 member with rfl | later
  · exact counts
  · simp [isCountChar, words c later]

theorem char?_eq_some_iff {expected : Char} {text rest : List Char} :
    char? expected text = some rest ↔ text = expected :: rest := by
  cases text with
  | nil => simp [char?]
  | cons c tail =>
      rw [char?]
      split_ifs with same
      · rw [beq_iff_eq.1 same]
        simp
      · simp only [beq_iff_eq] at same
        simp [same]

/-- A placeholder at the head of a text: a question mark, a dollar sign with a number, or a colon with
a name. -/
def PlaceholderAt (count rest : List Char) : Prop :=
  count = ['?'] ∨ (∃ run, count = '$' :: run ∧ IsRun isDigit run ∧ Stops isDigit rest) ∨
    ∃ run, count = ':' :: run ∧ IsRun isWord run ∧ Stops isWord rest

theorem placeholder?_eq_some_iff {text rest : List Char} :
    placeholder? text = some rest ↔ ∃ count, text = count ++ rest ∧ PlaceholderAt count rest := by
  constructor
  · intro read
    unfold placeholder? at read
    split at read
    · cases read
      exact ⟨['?'], rfl, .inl rfl⟩
    · obtain ⟨run, isRun, rfl, stops⟩ := digits1?_eq_some_iff.1 read
      exact ⟨'$' :: run, rfl, .inr (.inl ⟨run, rfl, isRun, stops⟩)⟩
    · obtain ⟨run, isRun, rfl, stops⟩ := word1?_eq_some_iff.1 read
      exact ⟨':' :: run, rfl, .inr (.inr ⟨run, rfl, isRun, stops⟩)⟩
    · cases read
  · rintro ⟨count, rfl, rfl | ⟨run, rfl, isRun, stops⟩ | ⟨run, rfl, isRun, stops⟩⟩
    · rfl
    · exact digits1?_eq_some_iff.2 ⟨run, isRun, rfl, stops⟩
    · exact word1?_eq_some_iff.2 ⟨run, isRun, rfl, stops⟩

/-- A placeholder begins with a sign. -/
theorem PlaceholderAt.exists_sign {count rest : List Char} (placeholder : PlaceholderAt count rest) :
    ∃ c more, count = c :: more ∧ isWord c = false ∧ c ≠ '-' := by
  rcases placeholder with rfl | ⟨run, rfl, -⟩ | ⟨run, rfl, -⟩
  · exact ⟨'?', [], rfl, by decide, by decide⟩
  · exact ⟨'$', run, rfl, by decide, by decide⟩
  · exact ⟨':', run, rfl, by decide, by decide⟩

theorem PlaceholderAt.digits1? {count rest : List Char} (placeholder : PlaceholderAt count rest) :
    digits1? (count ++ rest) = none := by
  obtain ⟨c, more, rfl, no_word, -⟩ := placeholder.exists_sign
  have stops : Stops isWord (c :: more ++ rest) := no_word
  exact digits1?_eq_none_iff.2 (stops_isDigit_of_isWord stops)

theorem PlaceholderAt.countAt {count rest : List Char} (placeholder : PlaceholderAt count rest) :
    CountAt count rest := by
  rcases placeholder with rfl | ⟨run, rfl, isRun, stops⟩ | ⟨run, rfl, isRun, stops⟩
  · refine ⟨⟨by simp, ?_⟩, .inl rfl⟩
    intro c member
    rw [List.mem_singleton.1 member]
    decide
  · exact countAt_cons (by decide) (fun c member => isWord_of_isDigit (isRun.2 c member)) stops
  · exact countAt_cons (by decide) isRun.2 (stops_isDigit_of_isWord stops)

/-- A row count at the head of a text: digits, which may follow a minus, the word ALL, or a
placeholder. -/
def RowCountAt (count rest : List Char) : Prop :=
  (∃ run, count = '-' :: run ∧ IsRun isDigit run ∧ Stops isDigit rest) ∨
    (IsRun isDigit count ∧ Stops isDigit rest) ∨
    (count.map foldKeyword = "all".toList ∧ wordEnds rest = true) ∨ PlaceholderAt count rest

/-- Where a character does not stand at the head, it is not read. -/
theorem char?_of_ne {expected c : Char} (other : c ≠ expected) (rest : List Char) :
    char? expected (c :: rest) = none :=
  if_neg fun same => other (beq_iff_eq.1 same)

/-- At a sign no keyword is read. -/
theorem wholeWord?_of_sign {word : List Char} (letters : word.all isKeywordLetter = true)
    (some_letter : word ≠ []) {c : Char} (no_word : isWord c = false) (rest : List Char) :
    wholeWord? word (c :: rest) = none := by
  cases read : wholeWord? word (c :: rest) with
  | none => rfl
  | some behind =>
      obtain ⟨key, fold, split⟩ := keyword?_eq_some_iff.1 (wholeWord?_eq_some_iff.1 read).1
      cases key with
      | nil => exact absurd fold.symm some_letter
      | cons d key' =>
          obtain rfl : c = d := (List.cons.inj split).1
          have is_word := isWord_of_mem_key fold letters (List.mem_cons_self ..)
          rw [is_word] at no_word
          cases no_word

/-- What is read as a row count is one. -/
theorem exists_rowCountAt {text rest : List Char} (read : rowCount? text = some rest) :
    ∃ count, text = count ++ rest ∧ RowCountAt count rest := by
  rw [rowCount?_eq_chars] at read
  cases minus : char? '-' text with
  | some behind =>
      rw [minus] at read
      obtain rfl := char?_eq_some_iff.1 minus
      obtain ⟨run, isRun, rfl, stops⟩ := digits1?_eq_some_iff.1 read
      exact ⟨'-' :: run, rfl, .inl ⟨run, rfl, isRun, stops⟩⟩
  | none =>
      rw [minus] at read
      cases digits : digits1? text with
      | some behind =>
          rw [digits] at read
          cases read
          obtain ⟨run, isRun, rfl, stops⟩ := digits1?_eq_some_iff.1 digits
          exact ⟨run, rfl, .inr (.inl ⟨isRun, stops⟩)⟩
      | none =>
          rw [digits] at read
          cases word : wholeWord? "all".toList text with
          | some behind =>
              rw [word] at read
              cases read
              obtain ⟨spelled, ends⟩ := wholeWord?_eq_some_iff.1 word
              obtain ⟨key, fold, rfl⟩ := keyword?_eq_some_iff.1 spelled
              exact ⟨key, rfl, .inr (.inr (.inl ⟨fold, ends⟩))⟩
          | none =>
              rw [word] at read
              obtain ⟨count, split, placeholder⟩ := placeholder?_eq_some_iff.1 read
              exact ⟨count, split, .inr (.inr (.inr placeholder))⟩

/-- A row count is read. -/
theorem RowCountAt.read {count rest : List Char} (shape : RowCountAt count rest) :
    rowCount? (count ++ rest) = some rest := by
  rw [rowCount?_eq_chars]
  rcases shape with ⟨run, rfl, isRun, stops⟩ | ⟨isRun, stops⟩ | ⟨fold, ends⟩ | placeholder
  · exact digits1?_eq_some_iff.2 ⟨run, isRun, rfl, stops⟩
  · have digits : digits1? (count ++ rest) = some rest := digits1?_eq_some_iff.2 ⟨count, isRun, rfl, stops⟩
    cases count with
    | nil => exact absurd rfl isRun.1
    | cons c more =>
        have other : c ≠ '-' := by
          rintro rfl
          exact absurd (isRun.2 '-' (by simp)) (by decide)
        rw [List.cons_append, char?_of_ne other, ← List.cons_append, digits]
  · have word : wholeWord? "all".toList (count ++ rest) = some rest :=
      wholeWord?_eq_some_iff.2 ⟨keyword?_eq_some_iff.2 ⟨count, fold, rfl⟩, ends⟩
    cases count with
    | nil => cases fold
    | cons c more =>
        have letter : isKeywordLetter (foldKeyword c) = true := by
          rw [(List.cons.inj fold).1]
          decide
        have no_digit : digits1? (c :: more ++ rest) = none :=
          digits1?_eq_none_iff.2 (isDigit_eq_false_of_foldKeyword letter)
        have other : c ≠ '-' := by
          rintro rfl
          revert letter
          decide
        rw [no_digit, word, List.cons_append, char?_of_ne other]
  · have read := placeholder?_eq_some_iff.2 ⟨count, rfl, placeholder⟩
    have no_digit := placeholder.digits1?
    obtain ⟨c, more, rfl, no_word, other⟩ := placeholder.exists_sign
    have no_all : wholeWord? "all".toList (c :: more ++ rest) = none :=
      wholeWord?_of_sign (by decide) (by decide) no_word _
    rw [no_digit, no_all, read, List.cons_append, char?_of_ne other]

theorem rowCount?_eq_some_iff {text rest : List Char} :
    rowCount? text = some rest ↔ ∃ count, text = count ++ rest ∧ RowCountAt count rest := by
  constructor
  · exact exists_rowCountAt
  · rintro ⟨count, rfl, shape⟩
    exact shape.read

theorem RowCountAt.countAt {count rest : List Char} (shape : RowCountAt count rest) :
    CountAt count rest := by
  rcases shape with ⟨run, rfl, isRun, stops⟩ | ⟨isRun, stops⟩ | ⟨fold, ends⟩ | placeholder
  · exact countAt_cons (by decide) (fun c member => isWord_of_isDigit (isRun.2 c member)) stops
  · exact .of_digits isRun stops
  · refine ⟨⟨?_, ?_⟩, .inr (stops_isDigit_of_isWord (stops_isWord_iff.2 ends))⟩
    · rintro rfl
      cases fold
    · intro c member
      simp [isCountChar, isWord_of_mem_key fold (by decide) member]
  · exact placeholder.countAt

/-- A row count stays one if something else follows it that is no word. -/
theorem RowCountAt.congr {count rest rest' : List Char} (shape : RowCountAt count rest)
    (stops : Stops isWord rest') : RowCountAt count rest' := by
  have no_digit := stops_isDigit_of_isWord stops
  rcases shape with ⟨run, split, isRun, -⟩ | ⟨isRun, -⟩ | ⟨fold, -⟩ |
    mark | ⟨run, split, isRun, -⟩ | ⟨run, split, isRun, -⟩
  · exact .inl ⟨run, split, isRun, no_digit⟩
  · exact .inr (.inl ⟨isRun, no_digit⟩)
  · exact .inr (.inr (.inl ⟨fold, stops_isWord_iff.1 stops⟩))
  · exact .inr (.inr (.inr (.inl mark)))
  · exact .inr (.inr (.inr (.inr (.inl ⟨run, split, isRun, no_digit⟩))))
  · exact .inr (.inr (.inr (.inr (.inr ⟨run, split, isRun, stops⟩))))

theorem rowCount?_eq_some {text rest : List Char} (read : rowCount? text = some rest) :
    ∃ count, text = count ++ rest ∧ CountAt count rest := by
  obtain ⟨count, split, shape⟩ := rowCount?_eq_some_iff.1 read
  exact ⟨count, split, shape.countAt⟩

/-- A second row count at the head of a text: digits or a placeholder. -/
def SecondCountAt (count rest : List Char) : Prop :=
  (IsRun isDigit count ∧ Stops isDigit rest) ∨ PlaceholderAt count rest

theorem SecondCountAt.countAt {count rest : List Char} (shape : SecondCountAt count rest) :
    CountAt count rest := by
  rcases shape with ⟨isRun, stops⟩ | placeholder
  · exact .of_digits isRun stops
  · exact placeholder.countAt

theorem secondCount?_eq_some_iff {text second after : List Char} :
    secondCount? text = some (second, after) ↔
      ∃ gap gap' count, text = (gap ++ ',' :: gap') ++ (count ++ after) ∧ second = count ++ after ∧
        (∀ c ∈ gap, isBlank c = true) ∧ (∀ c ∈ gap', isBlank c = true) ∧
        SecondCountAt count after := by
  constructor
  · intro read
    unfold secondCount? at read
    split at read
    next afterComma comma =>
      obtain ⟨gap, blank, split, -⟩ := exists_blanks text
      obtain ⟨gap', blank', split', -⟩ := exists_blanks afterComma
      rw [char?_eq_some_iff] at comma
      have whole : text = (gap ++ ',' :: gap') ++ blanks afterComma := by
        rw [split, comma]
        nth_rewrite 1 [split']
        simp
      dsimp only at read
      split at read
      next rest digits =>
        cases read
        obtain ⟨run, isRun, same, stops⟩ := digits1?_eq_some_iff.1 digits
        exact ⟨gap, gap', run, by rw [← same]; exact whole, same, blank, blank', .inl ⟨isRun, stops⟩⟩
      next =>
        cases marked : placeholder? (blanks afterComma) with
        | none =>
            rw [marked] at read
            cases read
        | some rest =>
            rw [marked] at read
            cases read
            obtain ⟨count, same, placeholder⟩ := placeholder?_eq_some_iff.1 marked
            exact ⟨gap, gap', count, by rw [← same]; exact whole, same, blank, blank',
              .inr placeholder⟩
    next => cases read
  · rintro ⟨gap, gap', count, rfl, rfl, blank, blank', shape⟩
    have comma : blanks ((gap ++ ',' :: gap') ++ (count ++ after)) =
        ',' :: (gap' ++ (count ++ after)) := by
      rw [List.append_assoc]
      exact blanks_append blank (by decide : isBlank ',' = false)
    have start : blanks (gap' ++ (count ++ after)) = count ++ after :=
      blanks_append blank' (Stops.append shape.countAt.isRun
        (fun _ => isBlank_eq_false_of_isCountChar) after)
    rw [secondCount?, comma]
    simp only [char?, beq_self_eq_true, if_true, start]
    rcases shape with ⟨isRun, stops⟩ | placeholder
    · rw [digits1?_eq_some_iff.2 ⟨count, isRun, rfl, stops⟩]
    · rw [placeholder.digits1?, placeholder?_eq_some_iff.2 ⟨count, rfl, placeholder⟩]
      rfl

theorem secondCount?_eq_some {text second after : List Char}
    (read : secondCount? text = some (second, after)) :
    ∃ gap count, text = gap ++ (count ++ after) ∧ second = count ++ after ∧ CountAt count after ∧
      ∀ c ∈ gap, c = ',' ∨ isBlank c = true := by
  obtain ⟨gap, gap', count, split, same, blank, blank', shape⟩ := secondCount?_eq_some_iff.1 read
  refine ⟨gap ++ ',' :: gap', count, split, same, shape.countAt, fun c member => ?_⟩
  rcases List.mem_append.1 member with left | right
  · exact .inr (blank c left)
  · rcases List.mem_cons.1 right with rfl | later
    · exact .inl rfl
    · exact .inr (blank' c later)

end QueryDesk.Sql
