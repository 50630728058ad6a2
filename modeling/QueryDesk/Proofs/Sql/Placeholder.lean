/-
Module: QueryDesk.Proofs.Sql.Placeholder
Purpose: Placeholders in the style of a driver. A question mark is live if the mask of the text shows
  it, and the live ones have numbers from the left (`replaceMarked`). A text in the style of a driver
  that interpolates is read as a format text (`readFormat`): two percent signs are one character, and
  each live question mark is a place for an argument. Interpolation fills the arguments in, and fails
  unless there are as many of them as there are live question marks.
Imports: QueryDesk.Sql.Parameter, QueryDesk.Proofs.Sql.Lexing
Main exports: ParamStyle.placeholder, ParamStyle.character, replaceMarked, Lexis.liveCount,
  Lexis.replaceLive, replaceMarked_eq_iff, spellPlaceholders_eq, FormatPart, readFormat, interpolate,
  spellPlaceholders_interpolates
-/
import QueryDesk.Sql.Parameter
import QueryDesk.Proofs.Sql.Lexing

namespace QueryDesk.Sql

/-- The placeholder of a style that has so many before it. -/
def ParamStyle.placeholder : ParamStyle → Nat → List Char
  | .questionMark, _ => ['?']
  | .format, _ => ['%', 's']
  | .numbered _, before => '$' :: (toString (before + 1)).toList

/-- A character that is no placeholder, as a style writes it. -/
def ParamStyle.character : ParamStyle → Char → List Char
  | .format, '%' => ['%', '%']
  | _, c => [c]

/-- The text with something in the place of each character for which the mask has a question mark,
written for the number of question marks before it, and with the other characters written one by
one. -/
def replaceMarked (masked : List Char) (place : Nat → List Char) (other : Char → List Char)
    (text : List Char) : List Char :=
  text.zipIdx.flatMap fun (c, position) =>
    if masked[position]? = some '?' then place ((masked.take position).count '?') else other c

/-- How many live question marks a text has: those that its mask shows. -/
def Lexis.liveCount (lexis : Lexis) (text : List Char) : Nat :=
  (lexis.mask text).count '?'

/-- The text with its live question marks replaced. -/
def Lexis.replaceLive (lexis : Lexis) (place : Nat → List Char) (other : Char → List Char)
    (text : List Char) : List Char :=
  replaceMarked (lexis.mask text) place other text

/-- A mask of a text: it has the same length, and question marks only where the text has them. -/
def MarksIn (masked text : List Char) : Prop :=
  List.Forall₂ (fun m c => m = '?' → c = '?') masked text

/-- Hiding brings no question mark in. -/
theorem Lexis.marksIn_hideFrom (lexis : Lexis) (hidden : Mark → Bool) (mode : Mode)
    (text : List Char) : MarksIn (lexis.hideFrom hidden mode text) text := by
  induction text generalizing mode with
  | nil => exact .nil
  | cons c rest ih =>
      refine .cons (fun shown => ?_) (ih _)
      split at shown
      · unfold blank at shown
        split at shown <;> cases shown
      · exact shown

theorem Lexis.marksIn_mask (lexis : Lexis) (text : List Char) : MarksIn (lexis.mask text) text :=
  lexis.marksIn_hideFrom _ .plain text

variable {masked text : List Char} {place : Nat → List Char} {other : Char → List Char}

/-- The first character, and the rest with the numbers moved on behind a question mark. -/
theorem replaceMarked_cons (m c : Char) (masked text : List Char) :
    replaceMarked (m :: masked) place other (c :: text) =
      if m = '?' then place 0 ++ replaceMarked masked (fun before => place (before + 1)) other text
      else other c ++ replaceMarked masked place other text := by
  rw [replaceMarked, List.zipIdx_cons, List.flatMap_cons, Nat.zero_add, List.zipIdx_succ,
    List.flatMap_map]
  by_cases mark : m = '?' <;> simp [mark, replaceMarked]

/-- Question marks written as question marks leave the text as it is. -/
theorem replaceMarked_questionMark (marks : MarksIn masked text)
    (same : ∀ before < masked.count '?', place before = ['?']) :
    replaceMarked masked place (fun c => [c]) text = text := by
  induction marks generalizing place with
  | nil => rfl
  | @cons m c masked text here _ ih =>
      rw [replaceMarked_cons]
      by_cases mark : m = '?'
      · subst mark
        rw [List.count_cons_self] at same
        rw [if_pos rfl, same 0 (Nat.zero_lt_succ _),
          ih fun before bound => same _ (Nat.succ_lt_succ bound), here rfl]
        rfl
      · rw [List.count_cons_of_ne mark] at same
        rw [if_neg mark, ih same]
        rfl

/-- What is put in the place of question marks tells the masks apart if none of it begins with a
question mark: two masks give the same text only if they show the same question marks. -/
theorem replaceMarked_eq_iff {shown : List Char} (marks : MarksIn masked text)
    (shows : MarksIn shown text) (kept : other '?' = ['?'])
    (apart : ∀ before, (place before).headD '?' ≠ '?') :
    replaceMarked masked place other text = replaceMarked shown place other text ↔
      ∀ position : Nat, masked[position]? = some '?' ↔ shown[position]? = some '?' := by
  induction marks generalizing shown place with
  | nil =>
      cases shows
      simp
  | @cons m c masked text here _ ih =>
      cases shows with
      | @cons s _ shown _ there behind =>
          have differ : ∀ rest more, place 0 ++ rest ≠ other '?' ++ more := by
            intro rest more same
            have first := apart 0
            cases written : place 0 with
            | nil => simp [written] at first
            | cons d tail =>
                rw [written, kept, List.cons_append] at same
                rw [written] at first
                exact first (List.cons.inj same).1
          -- Behind a question mark of both the numbers move on in both, so `place` is general.
          rw [replaceMarked_cons, replaceMarked_cons]
          by_cases mark : m = '?' <;> by_cases sign : s = '?'
          · have onward := ih behind fun before => apart (before + 1)
            rw [if_pos mark, if_pos sign, List.append_cancel_left_eq, onward]
            exact ⟨fun same position => by cases position <;> simp [same, mark, sign],
              fun same position => same (position + 1)⟩
          · rw [if_pos mark, if_neg sign, here mark]
            exact iff_of_false (differ _ _) fun same => by simpa [mark, sign] using same 0
          · rw [if_neg mark, if_pos sign, there sign]
            exact iff_of_false (fun same => differ _ _ same.symm)
              fun same => by simpa [mark, sign] using same 0
          · rw [if_neg mark, if_neg sign, List.append_cancel_left_eq, ih behind apart]
            exact ⟨fun same position => by cases position <;> simp [same, mark, sign],
              fun same position => same (position + 1)⟩

/-- Walking along a text and its mask replaces what the mask shows. -/
theorem spellFrom_eq {style : ParamStyle} (respelled : style ≠ .questionMark) (count : Nat)
    (marks : MarksIn masked text) :
    spellFrom style count text masked =
      replaceMarked masked (fun before => style.placeholder (count + before)) style.character
        text := by
  induction marks generalizing count with
  | nil => rfl
  | @cons m c masked text here _ ih =>
      rw [replaceMarked_cons, spellFrom]
      by_cases mark : m = '?'
      · obtain rfl := here mark
        subst mark
        have onward := ih (count + 1)
        simp only [Nat.add_assoc, Nat.add_comm 1] at onward
        cases style with
        | questionMark => exact absurd rfl respelled
        | format => simp [onward, ParamStyle.placeholder]
        | numbered name => simp [onward, ParamStyle.placeholder]
      · cases style with
        | questionMark => exact absurd rfl respelled
        | format =>
            by_cases percent : c = '%'
            · simp [percent, mark, ih, ParamStyle.character]
            · simp [percent, mark, ih, ParamStyle.character]
        | numbered name => simp [mark, ih, ParamStyle.character]

/-- A text in a style is the text with its live question marks replaced by the placeholders of the
style, those live by the rules that all dialects share. -/
theorem spellPlaceholders_eq (style : ParamStyle) (text : List Char) :
    spellPlaceholders style text =
      ({} : Lexis).replaceLive style.placeholder style.character text := by
  have marks := Lexis.marksIn_mask {} text
  by_cases kept : style = .questionMark
  · subst kept
    exact (replaceMarked_questionMark marks fun _ _ => rfl).symm
  · rw [spellPlaceholders, if_neg kept, spellFrom_eq kept 0 marks]
    simp only [Nat.zero_add]
    rfl

example : spellPlaceholders .format "a = ? AND b LIKE '?%'".toList =
    "a = %s AND b LIKE '?%%'".toList := by decide

/-! ### Format texts

A format text is read back in parts before anything is filled in. The parts of a text that was written in
this style are the same characters as in the text, with a place for each live question mark, and so the
count of the places says whether arguments fit. -/

/-- A part of a format text: a character, or a place for an argument. -/
inductive FormatPart where
  | character (c : Char)
  | argument
deriving Repr, DecidableEq

/-- The parts of a format text. A percent sign begins a conversion, which is another percent sign or
the letter s; there is no reading of a text with any other conversion. -/
def readFormat : List Char → Option (List FormatPart)
  | [] => some []
  | '%' :: '%' :: rest => (readFormat rest).map (.character '%' :: ·)
  | '%' :: 's' :: rest => (readFormat rest).map (.argument :: ·)
  | '%' :: _ => none
  | c :: rest => (readFormat rest).map (.character c :: ·)

/-- The text of parts with arguments in their places. It fails if an argument is missing, and if one
is left over. -/
def fillParts : List FormatPart → List (List Char) → Option (List Char)
  | [], [] => some []
  | [], _ :: _ => none
  | .character c :: parts, arguments => (fillParts parts arguments).map (c :: ·)
  | .argument :: _, [] => none
  | .argument :: parts, argument :: arguments => (fillParts parts arguments).map (argument ++ ·)

/-- A format text with arguments in the places of its conversions. -/
def interpolate (format : List Char) (arguments : List (List Char)) : Option (List Char) :=
  (readFormat format).bind fun parts => fillParts parts arguments

/-- The parts that a mask makes of a text: a place for an argument for each of its question marks. -/
def partsMarked (masked text : List Char) : List FormatPart :=
  List.zipWith (fun m c => if m = '?' then .argument else .character c) masked text

@[simp]
theorem partsMarked_cons (m c : Char) (masked text : List Char) :
    partsMarked (m :: masked) (c :: text) =
      (if m = '?' then .argument else .character c) :: partsMarked masked text := rfl

theorem readFormat_cons_of_ne {c : Char} (other : c ≠ '%') (rest : List Char) :
    readFormat (c :: rest) = (readFormat rest).map (.character c :: ·) := by
  rw [readFormat]
  all_goals simp [other]

/-- What is written in the style that interpolates is read back in its parts. -/
theorem readFormat_spelled (marks : MarksIn masked text) :
    readFormat (replaceMarked masked ParamStyle.format.placeholder ParamStyle.format.character text) =
      some (partsMarked masked text) := by
  induction marks with
  | nil => rfl
  | @cons m c masked text here _ ih =>
      rw [replaceMarked_cons, partsMarked_cons]
      by_cases mark : m = '?'
      · have first : ParamStyle.format.placeholder 0 = ['%', 's'] := rfl
        have next : (fun before => ParamStyle.format.placeholder (before + 1)) =
            ParamStyle.format.placeholder := rfl
        rw [if_pos mark, if_pos mark, first, next, List.cons_append, List.cons_append,
          List.nil_append, readFormat, ih]
        rfl
      · rw [if_neg mark, if_neg mark]
        by_cases percent : c = '%'
        · subst percent
          simp only [ParamStyle.character, List.cons_append, List.nil_append, readFormat, ih]
          rfl
        · have single : ParamStyle.format.character c = [c] := by simp [ParamStyle.character, percent]
          rw [single, List.singleton_append, readFormat_cons_of_ne percent, ih]
          rfl

/-- There is a place for an argument for each question mark of the mask. -/
theorem count_partsMarked (marks : MarksIn masked text) :
    (partsMarked masked text).count .argument = masked.count '?' := by
  induction marks with
  | nil => rfl
  | @cons m c masked text _ _ ih => by_cases mark : m = '?' <;> simp [mark, ih]

/-- Arguments are filled in for the question marks of the mask if there are as many of them. -/
theorem fillParts_partsMarked (marks : MarksIn masked text) (arguments : List (List Char)) :
    fillParts (partsMarked masked text) arguments =
      if arguments.length = masked.count '?' then
        some (replaceMarked masked (arguments.getD · []) (fun c => [c]) text)
      else none := by
  induction marks generalizing arguments with
  | nil => cases arguments <;> simp [partsMarked, fillParts, replaceMarked]
  | @cons m c masked text _ _ ih =>
      rw [partsMarked_cons, replaceMarked_cons]
      by_cases mark : m = '?'
      · subst mark
        rw [if_pos rfl, if_pos rfl, List.count_cons_self]
        cases arguments with
        | nil => simp [fillParts]
        | cons argument more =>
            rw [fillParts, ih more]
            simp [apply_ite]
      · rw [if_neg mark, if_neg mark, List.count_cons_of_ne mark, fillParts, ih arguments]
        simp [apply_ite]

/-- A text in the style that interpolates has one conversion for each live question mark. It is
interpolated with arguments exactly if there are as many of them as live question marks, and this
gives the text with the arguments in their places and every other character as it was; with question
marks it gives the text back. In a numbered style each live question mark becomes a dollar sign with
its number, and nothing else changes. -/
theorem spellPlaceholders_interpolates (text : List Char) :
    (readFormat (spellPlaceholders .format text)).map (List.count .argument) =
        some (({} : Lexis).liveCount text) ∧
      (∀ arguments, interpolate (spellPlaceholders .format text) arguments =
        if arguments.length = ({} : Lexis).liveCount text then
          some (({} : Lexis).replaceLive (arguments.getD · []) (fun c => [c]) text)
        else none) ∧
      interpolate (spellPlaceholders .format text)
        (List.replicate (({} : Lexis).liveCount text) ['?']) = some text ∧
      ∀ name, spellPlaceholders (.numbered name) text =
        ({} : Lexis).replaceLive (fun before => '$' :: (toString (before + 1)).toList)
          (fun c => [c]) text := by
  have marks := Lexis.marksIn_mask {} text
  have parts : readFormat (spellPlaceholders .format text) =
      some (partsMarked (({} : Lexis).mask text) text) := by
    rw [spellPlaceholders_eq]
    exact readFormat_spelled marks
  have filled : ∀ arguments, interpolate (spellPlaceholders .format text) arguments =
      if arguments.length = ({} : Lexis).liveCount text then
        some (({} : Lexis).replaceLive (arguments.getD · []) (fun c => [c]) text)
      else none := by
    intro arguments
    rw [interpolate, parts]
    exact fillParts_partsMarked marks arguments
  refine ⟨?_, filled, ?_, fun name => spellPlaceholders_eq (.numbered name) text⟩
  · rw [parts, Option.map_some, count_partsMarked marks]
    rfl
  · rw [filled, if_pos List.length_replicate, Lexis.replaceLive]
    refine congrArg some (replaceMarked_questionMark marks
      fun before (bound : before < ({} : Lexis).liveCount text) => ?_)
    rw [List.getD_eq_getElem?_getD, List.getElem?_replicate, if_pos bound, Option.getD_some]

end QueryDesk.Sql
