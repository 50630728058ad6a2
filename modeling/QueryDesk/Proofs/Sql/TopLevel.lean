/-
Module: QueryDesk.Proofs.Sql.TopLevel
Purpose: The matches of a clause pattern outside of all parentheses, found by splitting the text. Matches
  are collected from left to right and do not overlap, and they are kept or dropped by a depth that is
  counted from the start of the text; here both are read off a split of the text into a front, a match
  and a back. A back is clear if the pattern matches nowhere in it outside of all parentheses.
Imports: QueryDesk.Sql.Clause, QueryDesk.Proofs.Text.CharClass
Main exports: depthAfter, lastBefore, Keyed, Clear, ClearThrough, topFrom,
  topLevelHits_eq_topFrom, topFrom_eq_nil_of_clear, clear_of_topFrom_eq_nil
-/
import QueryDesk.Sql.Clause
import QueryDesk.Proofs.Text.CharClass

namespace QueryDesk.Sql

open QueryDesk.Text

/-- The depth behind a character. -/
def depthStep (depth : Nat) (c : Char) : Nat :=
  if c == '(' then depth + 1 else if c == ')' then depth - 1 else depth

/-- The depth behind a text. -/
def depthAfter (depth : Nat) : List Char → Nat
  | [] => depth
  | c :: rest => depthAfter (depthStep depth c) rest

/-- The depth of a character itself: a closing parenthesis has the depth outside of it. -/
def ownDepth (depth : Nat) (c : Char) : Nat :=
  if c == ')' then depth - 1 else depth

/-- The last character of a text, or the one before it if it is empty. -/
def lastBefore (before : Option Char) : List Char → Option Char
  | [] => before
  | c :: rest => lastBefore (some c) rest

@[simp]
theorem depthAfter_append (depth : Nat) (front back : List Char) :
    depthAfter depth (front ++ back) = depthAfter (depthAfter depth front) back := by
  induction front generalizing depth with
  | nil => rfl
  | cons c rest ih => exact ih _

@[simp]
theorem lastBefore_append (before : Option Char) (front back : List Char) :
    lastBefore before (front ++ back) = lastBefore (lastBefore before front) back := by
  induction front generalizing before with
  | nil => rfl
  | cons c rest ih => exact ih _

theorem lastBefore_eq_getLast {text : List Char} (before : Option Char) (nonempty : text ≠ []) :
    lastBefore before text = some (text.getLast nonempty) := by
  induction text generalizing before with
  | nil => exact absurd rfl nonempty
  | cons c rest ih =>
      cases rest with
      | nil => rfl
      | cons d more =>
          rw [lastBefore, ih (some c) (by simp)]
          rfl

theorem depthsFrom_cons (depth : Nat) (c : Char) (rest : List Char) :
    depthsFrom depth (c :: rest) = ownDepth depth c :: depthsFrom (depthStep depth c) rest := by
  unfold ownDepth depthStep
  rw [depthsFrom]
  by_cases opening : c = '('
  · subst opening
    rfl
  · by_cases closing : c = ')'
    · subst closing
      rfl
    · simp [opening, closing]

theorem getElem?_depthsFrom (depth : Nat) (front : List Char) (c : Char) (back : List Char) :
    (depthsFrom depth (front ++ c :: back))[front.length]? =
      some (ownDepth (depthAfter depth front) c) := by
  induction front generalizing depth with
  | nil => simp [depthsFrom_cons, depthAfter]
  | cons d rest ih =>
      rw [List.cons_append, depthsFrom_cons]
      exact ih (depthStep depth d)

/-- A text without parentheses keeps the depth. -/
theorem depthAfter_of_flat {text : List Char} (depth : Nat)
    (flat : ∀ c ∈ text, c ≠ '(' ∧ c ≠ ')') : depthAfter depth text = depth := by
  induction text generalizing depth with
  | nil => rfl
  | cons c rest ih =>
      have head := flat c (by simp)
      have same : depthStep depth c = depth := by simp [depthStep, head.1, head.2]
      rw [depthAfter, same]
      exact ih depth fun x member => flat x (by simp [member])

/-- Without a closing parenthesis the depth does not fall. -/
theorem le_depthAfter (text : List Char) (depth : Nat) (opens : ')' ∉ text) :
    depth ≤ depthAfter depth text := by
  induction text generalizing depth with
  | nil => exact Nat.le_refl _
  | cons c rest ih =>
      simp only [List.mem_cons, not_or] at opens
      have head : depth ≤ depthStep depth c := by
        unfold depthStep
        split_ifs with opening closing
        · omega
        · exact absurd (beq_iff_eq.1 closing).symm opens.1
        · exact Nat.le_refl _
      exact Nat.le_trans head (ih _ opens.2)

/-- The matches outside of all parentheses in a text that begins at a depth and a position, after so
many characters that belong to the last match. -/
def topFrom (pattern : Pattern) (depth position skip : Nat) (before : Option Char) :
    List Char → List Hit
  | [] => []
  | c :: rest =>
    match skip with
    | left + 1 => topFrom pattern (depthStep depth c) (position + 1) left (some c) rest
    | 0 =>
      match pattern before (c :: rest) with
      | some found =>
        (if ownDepth depth c = 0 then [found.at position] else []) ++
          topFrom pattern (depthStep depth c) (position + 1) (found.length - 1) (some c) rest
      | none => topFrom pattern (depthStep depth c) (position + 1) 0 (some c) rest

private theorem filter_hitsFrom (pattern : Pattern) (front text : List Char) (skip : Nat)
    (before : Option Char) :
    ((hitsFrom pattern front.length skip before text).filter fun hit =>
        isTopLevel (front ++ text) hit.start) =
      topFrom pattern (depthAfter 0 front) front.length skip before text := by
  induction text generalizing front skip before with
  | nil => rfl
  | cons c rest ih =>
      have later := ih (front ++ [c])
      simp only [List.append_assoc, List.cons_append, List.nil_append, List.length_append,
        List.length_cons, List.length_nil, depthAfter_append, depthAfter] at later
      have top : isTopLevel (front ++ c :: rest) front.length =
          decide (ownDepth (depthAfter 0 front) c = 0) := by
        rw [isTopLevel, depths, getElem?_depthsFrom, Bool.eq_iff_iff]
        simp
      cases skip with
      | succ left => exact later left (some c)
      | zero =>
          rw [hitsFrom, topFrom]
          cases pattern before (c :: rest) with
          | none => exact later 0 (some c)
          | some found =>
              simp only [List.filter_cons, Match.at, top, decide_eq_true_eq, later]
              split_ifs <;> rfl

/-- The matches outside of all parentheses, read along the text. -/
theorem topLevelHits_eq_topFrom (pattern : Pattern) (masked : List Char) :
    topLevelHits pattern masked = topFrom pattern 0 0 0 none masked :=
  filter_hitsFrom pattern [] masked 0 none

/-- What the clause patterns have in common: they match at the beginning of a word, by its first
letter, look at nothing else before it, and hold at most one closing parenthesis, at their end. -/
structure Keyed (pattern : Pattern) (letter : Char) : Prop where
  isLetter : isKeywordLetter letter = true
  begins : ∀ {before text found}, pattern before text = some found →
    wordBegins before = true ∧ ∃ c rest, text = c :: rest ∧ foldKeyword c = letter
  extent : ∀ {before text found}, pattern before text = some found →
    0 < found.length ∧ found.length ≤ text.length
  context : ∀ {before before' text}, wordBegins before = wordBegins before' →
    pattern before text = pattern before' text
  opens : ∀ {before text found}, pattern before text = some found →
    ')' ∉ text.take (found.length - 1)

variable {pattern : Pattern} {letter : Char}

theorem Keyed.nil (keyed : Keyed pattern letter) (before : Option Char) :
    pattern before [] = none := by
  cases found : pattern before [] with
  | none => rfl
  | some found' =>
      have bounds := keyed.extent found
      simp only [List.length_nil] at bounds
      omega

/-- Clause patterns match at word characters only. -/
theorem Keyed.isWord_head (keyed : Keyed pattern letter) {before : Option Char} {c : Char}
    {rest : List Char} {found : Match} (matched : pattern before (c :: rest) = some found) :
    isWord c = true := by
  obtain ⟨-, d, more, same, fold⟩ := keyed.begins matched
  cases same
  exact isWord_of_foldKeyword (by rw [fold]; exact keyed.isLetter)

/-- Where a clause pattern matches, the depth is that of the text before. -/
theorem Keyed.ownDepth_eq (keyed : Keyed pattern letter) {before : Option Char} {c : Char}
    {rest : List Char} {found : Match} (matched : pattern before (c :: rest) = some found)
    (depth : Nat) : ownDepth depth c = depth := by
  have word := keyed.isWord_head matched
  have other : c ≠ ')' := by
    rintro rfl
    revert word
    decide
  simp [ownDepth, other]

/-! ### Clear texts

A text is clear if the pattern matches at none of its places at the depth zero, also at those that the
reading passes over. The two agree with the list of matches because of the parentheses: what is passed over
belongs to a match that began in parentheses, and such a match does not leave them before its last
character. -/

/-- A pattern matches nowhere outside of all parentheses in a part of a text, with the text after it
in view. -/
def ClearThrough (pattern : Pattern) : Nat → Option Char → List Char → List Char → Prop
  | _, _, [], _ => True
  | depth, before, c :: rest, after =>
    (depth = 0 → pattern before (c :: (rest ++ after)) = none) ∧
      ClearThrough pattern (depthStep depth c) (some c) rest after

/-- A pattern matches nowhere outside of all parentheses. -/
def Clear (pattern : Pattern) (depth : Nat) (before : Option Char) (text : List Char) : Prop :=
  ClearThrough pattern depth before text []

theorem clearThrough_append (depth : Nat) (before : Option Char) (front middle back : List Char) :
    ClearThrough pattern depth before (front ++ middle) back ↔
      ClearThrough pattern depth before front (middle ++ back) ∧
        ClearThrough pattern (depthAfter depth front) (lastBefore before front) middle back := by
  induction front generalizing depth before with
  | nil => simp [ClearThrough, depthAfter, lastBefore]
  | cons c rest ih =>
      simp only [List.cons_append, ClearThrough, ih, depthAfter, lastBefore, List.append_assoc,
        and_assoc]

theorem clear_append (depth : Nat) (before : Option Char) (front back : List Char) :
    Clear pattern depth before (front ++ back) ↔
      ClearThrough pattern depth before front back ∧
        Clear pattern (depthAfter depth front) (lastBefore before front) back := by
  have split := @clearThrough_append pattern depth before front back []
  rwa [List.append_nil] at split

theorem clear_cons (depth : Nat) (before : Option Char) (c : Char) (rest : List Char) :
    Clear pattern depth before (c :: rest) ↔
      (depth = 0 → pattern before (c :: rest) = none) ∧
        Clear pattern (depthStep depth c) (some c) rest := by
  simp [Clear, ClearThrough]

/-- In a clear text there is no match outside of all parentheses, wherever reading begins. -/
theorem topFrom_eq_nil_of_clear (keyed : Keyed pattern letter) {depth : Nat} {before : Option Char}
    {text : List Char} (position skip : Nat) (clear : Clear pattern depth before text) :
    topFrom pattern depth position skip before text = [] := by
  induction text generalizing depth position skip before with
  | nil => rfl
  | cons c rest ih =>
      obtain ⟨head, later⟩ := (clear_cons _ _ _ _).1 clear
      cases skip with
      | succ left => exact ih _ _ later
      | zero =>
          rw [topFrom]
          cases matched : pattern before (c :: rest) with
          | none => exact ih _ _ later
          | some found =>
              have inside : ownDepth depth c ≠ 0 := by
                rw [keyed.ownDepth_eq matched]
                intro zero
                simp [head zero] at matched
              simp [inside, ih _ _ later]

/-- So many characters ahead belong to a match that is in parentheses, or none do. -/
def Inside (depth skip : Nat) (text : List Char) : Prop :=
  skip = 0 ∨ (1 ≤ depth ∧ ')' ∉ text.take (skip - 1))

/-- What is left of such a match behind a character is in parentheses as well. -/
theorem inside_step {depth skip : Nat} {c : Char} {rest : List Char} (deep : 1 ≤ depth)
    (opens : ')' ∉ (c :: rest).take skip) : Inside (depthStep depth c) skip rest := by
  cases skip with
  | zero => exact .inl rfl
  | succ less =>
      simp only [List.take_succ_cons, List.mem_cons, not_or] at opens
      have rises : depth ≤ depthStep depth c := le_depthAfter [c] depth (by simpa using opens.1)
      exact .inr ⟨by omega, opens.2⟩

/-- A text without a match outside of all parentheses is clear: what the reading passes over lies
inside of a match that is in parentheses itself. -/
theorem clear_of_topFrom_eq_nil (keyed : Keyed pattern letter) {depth position skip : Nat}
    {before : Option Char} {text : List Char}
    (empty : topFrom pattern depth position skip before text = [])
    (inside : Inside depth skip text) : Clear pattern depth before text := by
  induction text generalizing depth position skip before with
  | nil => trivial
  | cons c rest ih =>
      rw [clear_cons]
      cases skip with
      | succ left =>
          obtain ⟨deep, opens⟩ := inside.resolve_left (by omega)
          exact ⟨fun zero => by omega, ih empty (inside_step deep opens)⟩
      | zero =>
          simp only [topFrom] at empty
          cases matched : pattern before (c :: rest) with
          | none =>
              simp only [matched] at empty
              exact ⟨fun _ => rfl, ih empty (.inl rfl)⟩
          | some found =>
              simp only [matched, keyed.ownDepth_eq matched] at empty
              have deep : depth ≠ 0 := by
                rintro rfl
                simp at empty
              rw [if_neg deep, List.nil_append] at empty
              exact ⟨fun zero => absurd zero deep,
                ih empty (inside_step (by omega) (keyed.opens matched))⟩

end QueryDesk.Sql
