/-
Module: QueryDesk.Proofs.Sql.Pieces
Purpose: The statements that are stacked in one text: the pieces of its mask between the semicolons outside
  of all parentheses, and the first word of each. A text whose pieces all begin with the keyword of a read
  keeps that when a stretch in one piece is exchanged behind that keyword.
Imports: QueryDesk.Sql.Surface, QueryDesk.Proofs.Sql.Exchange, QueryDesk.Proofs.Sql.Cut
Main exports: piecesFrom, firstWord, ReadsEach, exists_pieces, ReadsEach.exchange,
  readsEach_append_terminators
-/
import QueryDesk.Sql.Surface
import QueryDesk.Proofs.Sql.Exchange
import QueryDesk.Proofs.Sql.Cut

namespace QueryDesk.Sql

open QueryDesk.Text

/-- The pieces of a masked text that begins at a depth, between its semicolons outside of all
parentheses. -/
def piecesFrom (depth : Nat) : List Char → List (List Char)
  | [] => [[]]
  | c :: rest =>
    if c == ';' && depth == 0 then [] :: piecesFrom 0 rest
    else (piecesFrom (depthStep depth c) rest).modifyHead (c :: ·)

/-- A text without semicolons is one piece. -/
theorem piecesFrom_of_not_mem {text : List Char} (whole : ';' ∉ text) (depth : Nat) :
    piecesFrom depth text = [text] := by
  induction text generalizing depth with
  | nil => rfl
  | cons c rest ih =>
      simp only [List.mem_cons, not_or] at whole
      rw [piecesFrom, if_neg, ih whole.2]
      · rfl
      · simp [Ne.symm whole.1]

/-- The last piece of a text goes on in the first piece of what stands behind the text. It is all of the
text, or it begins directly behind a semicolon. -/
theorem exists_pieces (depth : Nat) (front : List Char) :
    ∃ early last, (early = [] ∧ front = last ∨ early ≠ [] ∧ ∃ before, front = before ++ ';' :: last) ∧
      ∀ back first late, piecesFrom (depthAfter depth front) back = first :: late →
        piecesFrom depth (front ++ back) = early ++ (last ++ first) :: late := by
  induction front generalizing depth with
  | nil => exact ⟨[], [], .inl ⟨rfl, rfl⟩, fun back first late split => split⟩
  | cons c rest ih =>
      obtain ⟨early, last, shape, split⟩ := ih (depthStep depth c)
      by_cases cut : (c == ';' && depth == 0) = true
      · have cut' := cut
        simp only [Bool.and_eq_true, beq_iff_eq] at cut'
        obtain ⟨rfl, rfl⟩ := cut'
        refine ⟨[] :: early, last, .inr ⟨by simp, ?_⟩, fun back first late behind => ?_⟩
        · rcases shape with ⟨-, rfl⟩ | ⟨-, before, rfl⟩
          · exact ⟨[], rfl⟩
          · exact ⟨';' :: before, rfl⟩
        · rw [List.cons_append, piecesFrom, if_pos cut]
          exact congrArg ([] :: ·) (split back first late behind)
      · have step : ∀ back, piecesFrom depth (c :: rest ++ back) =
            (piecesFrom (depthStep depth c) (rest ++ back)).modifyHead (c :: ·) := fun back => by
          rw [List.cons_append, piecesFrom, if_neg cut]
        rcases shape with ⟨rfl, rfl⟩ | ⟨some_early, before, rfl⟩
        · refine ⟨[], c :: rest, .inl ⟨rfl, rfl⟩, fun back first late behind => ?_⟩
          rw [step, split back first late behind]
          rfl
        · obtain ⟨piece, more, rfl⟩ := List.exists_cons_of_ne_nil some_early
          refine ⟨(c :: piece) :: more, last, .inr ⟨by simp, c :: before, rfl⟩,
            fun back first late behind => ?_⟩
          rw [step, split back first late behind]
          rfl

theorem piecesFrom_ne_nil (depth : Nat) (text : List Char) : piecesFrom depth text ≠ [] := by
  cases text with
  | nil => exact List.cons_ne_nil _ _
  | cons c rest =>
      rw [piecesFrom]
      split_ifs
      · exact List.cons_ne_nil _ _
      · rw [ne_eq, List.modifyHead_eq_nil_iff]
        exact piecesFrom_ne_nil _ rest

/-- The first word of a piece: its first word characters, as many as there are side by side. -/
def firstWord (piece : List Char) : List Char :=
  (piece.dropWhile fun c => !isWord c).takeWhile isWord

/-- A word ends before what is no word, and a word that has ended does not go on. -/
theorem firstWord_append {piece : List Char} (worded : ∃ c ∈ piece, isWord c = true) {tail : List Char}
    (ends : wordBegins (lastBefore none piece) = true ∨ Stops isWord tail) :
    firstWord (piece ++ tail) = firstWord piece := by
  have found : piece.dropWhile (fun c => !isWord c) ≠ [] := by
    obtain ⟨c, member, word⟩ := worded
    intro none
    have all := List.dropWhile_eq_nil_iff.1 none c member
    rw [word] at all
    cases all
  have dropped : (piece ++ tail).dropWhile (fun c => !isWord c) =
      piece.dropWhile (fun c => !isWord c) ++ tail := by
    rw [List.dropWhile_append, if_neg (by simpa [List.isEmpty_iff] using found)]
  rw [firstWord, firstWord, dropped, List.takeWhile_append]
  split_ifs with whole
  · -- The word reaches to the end of the piece, so it has not ended there.
    have same := (List.takeWhile_prefix isWord (l := piece.dropWhile fun c => !isWord c)).eq_of_length whole
    have running : wordBegins (lastBefore none piece) = false := by
      rw [← List.takeWhile_append_dropWhile (p := fun c => !isWord c) (l := piece), lastBefore_append]
      refine wordBegins_of_isWord found (fun c member => ?_) _
      rw [← same] at member
      exact List.mem_takeWhile_imp member
    have stops : Stops isWord tail := by
      rcases ends with ended | stops
      · rw [running] at ended
        cases ended
      · exact stops
    rw [same]
    cases tail with
    | nil => simp
    | cons c more => simp [(show isWord c = false from stops)]
  · rfl

/-- Before the first word a piece may have anything that is none. -/
theorem firstWord_append_of_none {piece : List Char} (wordless : ∀ c ∈ piece, isWord c = false)
    (tail : List Char) : firstWord (piece ++ tail) = firstWord tail := by
  rw [firstWord, List.dropWhile_append_of_pos fun c member => by simp [wordless c member]]
  rfl

/-- A piece that begins with the keyword of a read, in whatever letter case. -/
def Reads (piece : List Char) : Prop :=
  upper (firstWord piece) ∈ readKeywords

/-- Every piece of a masked text that is not blank begins with the keyword of a read. -/
def ReadsEach (masked : List Char) : Prop :=
  ∀ piece ∈ piecesFrom 0 masked, isBlankText piece = false → Reads piece

instance (masked : List Char) : Decidable (ReadsEach masked) :=
  inferInstanceAs (Decidable (∀ piece ∈ _, _ → _ ∈ _))

/-- A piece that reads has a word. -/
theorem Reads.worded {piece : List Char} (reads : Reads piece) : ∃ c ∈ piece, isWord c = true := by
  have some_word : firstWord piece ≠ [] := by
    intro none
    rw [Reads, none] at reads
    revert reads
    decide
  have member := List.head_mem some_word
  exact ⟨_, (List.dropWhile_sublist _).subset ((List.takeWhile_sublist _).subset member),
    List.mem_takeWhile_imp member⟩

/-! ### Exchanges in a piece

A stretch without semicolons lies in one piece. If it is exchanged for another one that leads to the same
depth, the pieces before and behind it are the same as before, and of its own one it matters what word it
begins with. -/

/-- Exchanging a stretch that is no piece of its own keeps that every piece reads, if the piece that it
stands in still does. -/
theorem ReadsEach.exchange {front old new back : List Char} (whole : ';' ∉ old) (whole' : ';' ∉ new)
    (depth : depthAfter (depthAfter 0 front) old = depthAfter (depthAfter 0 front) new)
    (keeps : ∀ before first, (front = before ∨ ∃ early, front = early ++ ';' :: before) →
      (isBlankText (before ++ (old ++ first)) = false → Reads (before ++ (old ++ first))) →
        Reads (before ++ (new ++ first)))
    (reads : ReadsEach (front ++ (old ++ back))) : ReadsEach (front ++ (new ++ back)) := by
  obtain ⟨early, last, shape, split⟩ := exists_pieces 0 front
  obtain ⟨first, late, behind⟩ := List.exists_cons_of_ne_nil
    (piecesFrom_ne_nil (depthAfter (depthAfter 0 front) old) back)
  have inner : ∀ text, ';' ∉ text →
      piecesFrom (depthAfter (depthAfter 0 front) text) back = first :: late →
      piecesFrom 0 (front ++ (text ++ back)) = early ++ (last ++ (text ++ first)) :: late := by
    intro text whole behind
    refine split _ _ _ ?_
    obtain ⟨early', last', shape', split'⟩ := exists_pieces (depthAfter 0 front) text
    rcases shape' with ⟨rfl, rfl⟩ | ⟨-, before, rfl⟩
    · exact split' _ _ _ behind
    · exact absurd (by simp) whole
  have pieces := inner old whole behind
  have pieces' := inner new whole' (depth ▸ behind)
  rw [ReadsEach, pieces] at reads
  rw [ReadsEach, pieces']
  intro piece member filled
  rcases List.mem_append.1 member with earlier | later
  · exact reads piece (by simp [earlier]) filled
  · rcases List.mem_cons.1 later with rfl | later
    · refine keeps last first ?_ (reads _ (by simp))
      rcases shape with ⟨-, same⟩ | ⟨-, same⟩
      · exact .inl same
      · exact .inr same
    · exact reads piece (by simp [later]) filled

theorem isBlankText_append (left right : List Char) :
    isBlankText (left ++ right) = (isBlankText left && isBlankText right) :=
  List.all_append

/-- Blanks and semicolons outside of all parentheses make blank pieces. -/
theorem isBlankText_of_terminators {text : List Char} (all : ∀ c ∈ text, isTerminator c = true) :
    ∀ piece ∈ piecesFrom 0 text, isBlankText piece = true := by
  induction text with
  | nil => simp [piecesFrom, isBlankText]
  | cons c rest ih =>
      have later := ih fun d member => all d (by simp [member])
      rw [piecesFrom]
      split_ifs with cut
      · intro piece member
        rcases List.mem_cons.1 member with rfl | member
        · rfl
        · exact later piece member
      · have blank : isBlank c = true := by
          have terminator := all c (by simp)
          simp only [isTerminator, Bool.or_eq_true] at terminator
          exact terminator.resolve_left fun semicolon => cut (by simp [semicolon])
        have flat : depthStep 0 c = 0 := @depthAfter_of_isBlank [c] (by simpa using blank) 0
        obtain ⟨first, late, behind⟩ := List.exists_cons_of_ne_nil (piecesFrom_ne_nil 0 rest)
        rw [behind] at later
        rw [flat, behind]
        intro piece member
        rcases List.mem_cons.1 member with rfl | member
        · have first_blank := later first (by simp)
          rw [isBlankText, List.all_cons, blank]
          exact first_blank
        · exact later piece (by simp [member])

theorem stops_isWord_of_blank {text : List Char} (blank : isBlankText text = true) : Stops isWord text := by
  cases text with
  | nil => trivial
  | cons c rest =>
      rw [isBlankText, List.all_cons, Bool.and_eq_true] at blank
      exact isWord_eq_false_of_isBlank blank.1

/-- A piece reads as well with blanks behind it. -/
theorem reads_append_blank (piece : List Char) {tail : List Char} (blank : isBlankText tail = true) :
    Reads (piece ++ tail) ↔ Reads piece := by
  by_cases worded : ∃ c ∈ piece, isWord c = true
  · rw [Reads, Reads, firstWord_append worded (.inr (stops_isWord_of_blank blank))]
  · have wordless : ∀ c ∈ piece ++ tail, ¬ isWord c = true := by
      intro c member word
      rcases List.mem_append.1 member with early | late
      · exact worded ⟨c, early, word⟩
      · rw [isBlankText, List.all_eq_true] at blank
        rw [isWord_eq_false_of_isBlank (blank c late)] at word
        cases word
    exact ⟨fun reads => absurd reads.worded fun ⟨c, member, word⟩ => wordless c member word,
      fun reads => absurd reads.worded worded⟩

/-- What stands behind a text changes nothing if it makes blank pieces only. -/
theorem readsEach_append {masked after : List Char}
    (blank : ∀ piece ∈ piecesFrom (depthAfter 0 masked) after, isBlankText piece = true) :
    ReadsEach (masked ++ after) ↔ ReadsEach masked := by
  obtain ⟨early, last, -, split⟩ := exists_pieces 0 masked
  obtain ⟨first, late, behind⟩ := List.exists_cons_of_ne_nil
    (piecesFrom_ne_nil (depthAfter 0 masked) after)
  have alone := split [] [] [] rfl
  rw [List.append_nil, List.append_nil] at alone
  rw [behind] at blank
  rw [ReadsEach, ReadsEach, split after first late behind, alone]
  have first_blank := blank first (by simp)
  have same : isBlankText (last ++ first) = isBlankText last := by
    rw [isBlankText_append, first_blank, Bool.and_true]
  constructor
  · intro reads piece member filled
    rcases List.mem_append.1 member with earlier | here
    · exact reads piece (by simp [earlier]) filled
    · rw [List.mem_singleton.1 here] at filled ⊢
      exact (reads_append_blank last first_blank).1 (reads _ (by simp) (same.trans filled))
  · intro reads piece member filled
    rcases List.mem_append.1 member with earlier | later
    · exact reads piece (by simp [earlier]) filled
    · rcases List.mem_cons.1 later with rfl | later
      · exact (reads_append_blank last first_blank).2 (reads last (by simp) (same.symm.trans filled))
      · rw [blank piece (by simp [later])] at filled
        cases filled

/-- What closes the last statement of a text is no statement. -/
theorem readsEach_append_terminators {masked after : List Char} (depth : depthAfter 0 masked = 0)
    (all : ∀ c ∈ after, isTerminator c = true) : ReadsEach (masked ++ after) ↔ ReadsEach masked := by
  refine readsEach_append ?_
  rw [depth]
  exact isBlankText_of_terminators all

theorem readsEach_append_blank (masked : List Char) {after : List Char}
    (blank : ∀ c ∈ after, isBlank c = true) : ReadsEach (masked ++ after) ↔ ReadsEach masked := by
  have whole : ';' ∉ after := fun member => by
    have here := blank _ member
    revert here
    decide
  refine readsEach_append ?_
  rw [piecesFrom_of_not_mem whole]
  simpa [isBlankText] using blank

end QueryDesk.Sql
