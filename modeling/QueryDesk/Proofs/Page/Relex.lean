/-
Module: QueryDesk.Proofs.Page.Relex
Purpose: How an edited statement is read. The edits of a plan stand next to characters that the mask
  shows, and what they write is calm, so that the mask of the edited text is the mask with the same
  edits; only a dollar tag could be completed by what is written.
Imports: QueryDesk.Proofs.Page.Statement, QueryDesk.Proofs.Page.Count
Main exports: Spliceable, Edit.applyCells, Spliceable.cells_applyFrom, Spliceable.hideFrom_applyFrom,
  LiveAt, Edit.Live, CompletesTag, spliceable_of_live
-/
import QueryDesk.Proofs.Page.Statement
import QueryDesk.Proofs.Page.Count

namespace QueryDesk.Sql

open QueryDesk.Text

variable {lexis : Lexis}

/-! ### Edits that can be spliced in

Two texts can be read one by one where the machine stands outside of all tokens between them and nothing
that it looks at reaches over the seam. `Spliceable` asks for this at both ends of every edit, and the rest
is an induction on the edits. -/

/-- Edits at places where the machine stands outside of all tokens, whose texts are calm and do not join
what stands before them. -/
def Spliceable (lexis : Lexis) : Nat → List Char → List Edit → Prop
  | _, _, [] => True
  | position, text, edit :: rest =>
    lexis.modeThrough .plain (text.take (edit.span.start - position))
        (text.drop (edit.span.start - position)) = .plain ∧
      lexis.modeThrough .plain (text.take (edit.span.stop - position))
        (text.drop (edit.span.stop - position)) = .plain ∧
      (∀ c ∈ edit.text, isCalm c = true) ∧
      lexis.joins .plain (text.take (edit.span.start - position))
        (text.drop (edit.span.start - position))
        (edit.text ++ Edit.applyFrom edit.span.stop (text.drop (edit.span.stop - position)) rest) =
          false ∧
      Spliceable lexis edit.span.stop (text.drop (edit.span.stop - position)) rest

/-- The cells of a text after edits that write plain text. -/
def Edit.applyCells (position : Nat) (cells : List Cell) : List Edit → List Cell
  | [] => cells
  | edit :: rest =>
    cells.take (edit.span.start - position) ++ plainCells edit.text ++
      Edit.applyCells edit.span.stop (cells.drop (edit.span.stop - position)) rest

/-- What is written by edits of cells shows in every mask. -/
theorem Edit.map_applyCells {hidden : Mark → Bool} (shown : hidden .plain = false) (edits : List Edit)
    (position : Nat) (cells : List Cell) :
    (Edit.applyCells position cells edits).map (Cell.hiddenBy hidden) =
      Edit.applyFrom position (cells.map (Cell.hiddenBy hidden)) edits := by
  induction edits generalizing position cells with
  | nil => rfl
  | cons edit rest ih =>
      simp only [applyCells, applyFrom, List.map_append, List.map_take, List.map_drop,
        map_hiddenBy_plainCells shown, ih]

theorem Spliceable.cells_applyFrom {edits : List Edit} {position : Nat} {text : List Char}
    (spliceable : Spliceable lexis position text edits) :
    lexis.cells (Edit.applyFrom position text edits) =
      Edit.applyCells position (lexis.cells text) edits := by
  induction edits generalizing position text with
  | nil => rfl
  | cons edit rest ih =>
      obtain ⟨outside, outside', calm, apart, later⟩ := spliceable
      have seam := (Lexis.through_congr (Mode.sound_plain _) outside apart).2
      rw [Edit.applyFrom, Edit.applyCells, (Lexis.cells_take_drop_of_seam outside).1,
        (Lexis.cells_take_drop_of_seam outside').2, List.append_assoc, List.append_assoc,
        Lexis.cells_append_of_seam seam, Lexis.cells_calm_append calm, ih later]

/-- What is hidden in the edited text is hidden in the text with the same edits. -/
theorem Spliceable.hideFrom_applyFrom {hidden : Mark → Bool} (shown : hidden .plain = false)
    {edits : List Edit} {position : Nat} {text : List Char}
    (spliceable : Spliceable lexis position text edits) :
    lexis.hideFrom hidden .plain (Edit.applyFrom position text edits) =
      Edit.applyFrom position (lexis.hideFrom hidden .plain text) edits := by
  rw [Lexis.hideFrom_eq_map, Lexis.hideFrom_eq_map, spliceable.cells_applyFrom,
    Edit.map_applyCells shown]

/-- The edited text is closed if the text is. -/
theorem Spliceable.closed {edits : List Edit} {position : Nat} {text : List Char}
    (spliceable : Spliceable lexis position text edits) (closed : lexis.Closed text) :
    lexis.Closed (Edit.applyFrom position text edits) := by
  induction edits generalizing position text with
  | nil => exact closed
  | cons edit rest ih =>
      obtain ⟨outside, outside', calm, apart, later⟩ := spliceable
      have seam := (Lexis.through_congr (Mode.sound_plain _) outside apart).2
      have behind : lexis.Closed (text.drop (edit.span.stop - position)) := by
        rw [Lexis.Closed, ← List.take_append_drop (edit.span.stop - position) text,
          Lexis.modeAfter_append, outside'] at closed
        exact closed
      rw [Edit.applyFrom, List.append_assoc, Lexis.Closed, Lexis.modeAfter_append, seam,
        Lexis.modeAfter_calm_append calm]
      exact ih later behind

/-- A place of a mask at which the text can be cut: one of its ends, or one next to a character that is
no blank. -/
def LiveAt (masked : List Char) (position : Nat) : Prop :=
  position = 0 ∨ position = masked.length ∨ (∃ c, masked[position]? = some c ∧ isBlank c = false) ∨
    ∃ last c, position = last + 1 ∧ masked[last]? = some c ∧ isBlank c = false

theorem exists_split_of_getElem? {text : List Char} {i : Nat} {c : Char} (here : text[i]? = some c) :
    text = text.take i ++ c :: text.drop (i + 1) ∧ (text.take i).length = i := by
  obtain ⟨inside, rfl⟩ := List.getElem?_eq_some_iff.1 here
  refine ⟨?_, List.length_take_of_le (Nat.le_of_lt inside)⟩
  rw [← List.drop_eq_getElem_cons inside, List.take_append_drop]

/-- At a live place the machine stands outside of all tokens. -/
theorem LiveAt.outside {text : List Char} (closed : lexis.Closed text) {position : Nat}
    (live : LiveAt (lexis.mask text) position) :
    lexis.modeThrough .plain (text.take position) (text.drop position) = .plain := by
  have shows : ∀ i c, (lexis.mask text)[i]? = some c → isBlank c = false →
      lexis.modeThrough .plain (text.take i) (c :: text.drop (i + 1)) = .plain ∧
        text.drop i = c :: text.drop (i + 1) ∧
        lexis.step .plain c (text.drop (i + 1)) = (.plain, .plain) := by
    intro i c here shown
    have inside : i < text.length := by
      have bound := (List.getElem?_eq_some_iff.1 here).1
      rwa [lexis.length_mask] at bound
    obtain ⟨split, size⟩ := exists_split_of_getElem? (List.getElem?_eq_getElem inside)
    have live : (lexis.mask (text.take i ++ text[i] :: text.drop (i + 1)))[(text.take i).length]? =
        some c := by
      rw [← split, size, here]
    obtain ⟨rfl, outside, step⟩ := Lexis.outside_of_live live shown
    exact ⟨outside, List.drop_eq_getElem_cons inside, step⟩
  rcases live with rfl | rfl | ⟨c, here, shown⟩ | ⟨last, c, rfl, here, shown⟩
  · rfl
  · rw [lexis.length_mask, List.take_length, List.drop_length, Lexis.modeThrough_nil]
    exact closed
  · obtain ⟨outside, split, -⟩ := shows position c here shown
    rw [split]
    exact outside
  · obtain ⟨outside, split, step⟩ := shows last c here shown
    have inside := (List.getElem?_eq_some_iff.1 here).1
    have taken : text.take (last + 1) = text.take last ++ [c] := by
      rw [List.take_add, split]
      rfl
    rw [taken, Lexis.modeThrough_append, List.singleton_append, outside, Lexis.modeThrough,
      List.nil_append, step]
    rfl

/-! ### Dollar tags

All other tokens open with one or two characters, so that calm characters open none. A dollar tag may run
over an edit: it opens before it and takes what is written for part of its name. This is the one case that
has to be excluded. -/

/-- A dollar sign that is read outside of all tokens, with the end of the text not inside of one, is
shown by every mask, and so is the name behind it. -/
theorem hideFrom_of_dollar {hidden : Mark → Bool} (shown : hidden .plain = false)
    {before name seen : List Char} (all : name.all isNameChar = true)
    (outside : lexis.modeThrough .plain before ('$' :: (name ++ seen)) = .plain)
    (outside' : lexis.modeThrough .plain (before ++ '$' :: name) seen = .plain) :
    lexis.hideFrom hidden .plain (before ++ '$' :: (name ++ seen)) =
      lexis.hideFrom hidden .plain before ++ '$' :: (name ++ lexis.hideFrom hidden .plain seen) := by
  have words : ∀ c ∈ name, isCalm c = true := fun c member =>
    isCalm_of_isWord (isWord_of_isNameChar (List.all_eq_true.1 all c member))
  have tag : (if lexis.dollarQuotes then dollarTag? ('$' :: (name ++ seen)) else none) = none := by
    split_ifs with quotes
    · cases found : dollarTag? ('$' :: (name ++ seen)) with
      | none => rfl
      | some tag =>
          -- The tag runs over the name, so the machine would be inside of it there.
          have long := length_lt_of_dollarTag? all found
          have inside : lexis.step .plain '$' (name ++ seen) =
              (.quoteStart, .tagOpening (tag.length - 2) tag) := by
            simp [Lexis.step, Lexis.stepPlain, quotes, found]
          rw [Lexis.modeThrough_append, List.cons_append, outside, Lexis.modeThrough, inside,
            (Lexis.countsDown_tagOpening _ _).modeThrough _ _ (by omega)] at outside'
          cases outside'
    · rfl
  have step : lexis.stepPlain '$' (name ++ seen) = (.plain, .plain) :=
    Lexis.stepPlain_of_plain (Lexis.stepPlain_eq_plain_iff.2
      ⟨by simp, by simp, tag, by simp [Lexis.closing?]⟩)
  rw [Lexis.hideFrom_append_of_seam outside, Lexis.hideFrom,
    show lexis.step .plain '$' (name ++ seen) = _ from step, shown,
    Lexis.hideFrom_calm_append shown words]
  rfl

/-- What is written has a character that no name has, and so it ends every name before it. -/
def Breaks (text : List Char) : Prop :=
  ∃ c ∈ text, isNameChar c = false

/-- A calm text that ends every name completes no dollar tag. -/
theorem dollarTag?_of_breaks {name text : List Char} (all : name.all isNameChar = true)
    (calm : ∀ c ∈ text, isCalm c = true) (breaks : Breaks text) (after : List Char) :
    dollarTag? ('$' :: (name ++ (text ++ after))) = none := by
  have rest : ∃ d more, text.dropWhile isNameChar = d :: more := by
    cases dropped : text.dropWhile isNameChar with
    | cons d more => exact ⟨d, more, rfl⟩
    | nil =>
        obtain ⟨c, member, other⟩ := breaks
        rw [List.dropWhile_eq_nil_iff.1 dropped c member] at other
        cases other
  obtain ⟨d, more, dropped⟩ := rest
  have split : text = text.takeWhile isNameChar ++ d :: more := by
    rw [← dropped, List.takeWhile_append_dropWhile]
  have other : isNameChar d = false := by
    have stop := List.head?_dropWhile_not isNameChar text
    rw [dropped] at stop
    simpa using stop
  have not_dollar : d ≠ '$' := by
    rintro rfl
    have calm_dollar := calm '$' (by rw [split]; simp)
    exact absurd calm_dollar (by decide)
  rw [split, show name ++ (text.takeWhile isNameChar ++ d :: more ++ after) =
    (name ++ text.takeWhile isNameChar) ++ d :: (more ++ after) by simp]
  refine dollarTag?_eq_none_of_stop ?_ ?_
  · rw [List.all_append, all, List.all_takeWhile]
    rfl
  · rintro e behind ⟨⟩
    exact ⟨other, not_dollar⟩

/-- A dollar sign that the mask shows, the characters of a name between it and an edit, what the edit
writes and what stands behind it are a dollar tag together. -/
def CompletesTag (lexis : Lexis) (masked text : List Char) (edit : Edit) : Prop :=
  lexis.dollarQuotes = true ∧ ∃ i < edit.span.start, masked[i]? = some '$' ∧
    ((masked.take edit.span.start).drop (i + 1)).all isNameChar = true ∧
    (dollarTag? ((masked.take edit.span.start).drop i ++
      (edit.text ++ text.drop edit.span.stop))).isSome = true

instance (lexis : Lexis) (masked text : List Char) (edit : Edit) :
    Decidable (CompletesTag lexis masked text edit) :=
  inferInstanceAs (Decidable (_ ∧ ∃ i < _, _))

/-- An edit between live places that writes calm characters. It does not leave a blank at the end of the
statement. -/
structure Edit.Live (masked : List Char) (edit : Edit) : Prop where
  start : LiveAt masked edit.span.start
  stop : LiveAt masked edit.span.stop
  nonempty : edit.text ≠ []
  calm : ∀ c ∈ edit.text, isCalm c = true ∧ c ≠ '*'
  ends : edit.span.stop < masked.length ∨ ∃ c, edit.text.getLast? = some c ∧ isWord c = true

/-- A dollar sign and a name that end a text at a place are shown there by the mask. -/
theorem mask_of_dollar {text before name seen : List Char} {position : Nat}
    (here : lexis.modeThrough .plain (text.take position) (text.drop position) = .plain)
    (split : text.drop position = before ++ '$' :: (name ++ seen)) (all : name.all isNameChar = true)
    (outside : lexis.modeThrough .plain before ('$' :: (name ++ seen)) = .plain)
    (outside' : lexis.modeThrough .plain (before ++ '$' :: name) seen = .plain) :
    ∃ front back, lexis.mask text = front ++ '$' :: (name ++ back) ∧
      front.length = (text.take position).length + before.length := by
  refine ⟨lexis.mask (text.take position) ++ lexis.mask before, lexis.mask seen, ?_, by simp⟩
  have halves := Lexis.hideFrom_append_of_seam here fun mark => !mark.isPlain
  rw [List.take_append_drop] at halves
  rw [Lexis.mask, halves, split, hideFrom_of_dollar rfl all outside outside', List.append_assoc]
  rfl

/-- A live place in what stands behind another one. -/
theorem LiveAt.outside_drop {text : List Char} (closed : lexis.Closed text) {position place : Nat}
    (here : LiveAt (lexis.mask text) position) (there : LiveAt (lexis.mask text) place)
    (late : position ≤ place) :
    lexis.modeThrough .plain ((text.drop position).take (place - position))
      ((text.drop position).drop (place - position)) = .plain := by
  have outside := there.outside closed
  have split : text.take place = text.take position ++ (text.drop position).take (place - position) := by
    rw [← List.take_add, Nat.add_sub_cancel' late]
  have behind : text.drop place = (text.drop position).drop (place - position) := by
    rw [List.drop_drop, Nat.add_sub_cancel' late]
  rw [split, behind, Lexis.modeThrough_append, List.take_append_drop, here.outside closed] at outside
  exact outside

/-- A dollar tag that an edit is part of is completed by it. -/
theorem completesTag_of_dollarTag? {text before name tag : List Char} {position : Nat} {edit : Edit}
    (quotes : lexis.dollarQuotes = true)
    (here : lexis.modeThrough .plain (text.take position) (text.drop position) = .plain)
    (first : lexis.modeThrough .plain ((text.drop position).take (edit.span.start - position))
      ((text.drop position).drop (edit.span.start - position)) = .plain)
    (after : position ≤ edit.span.start) (inside : edit.span.start ≤ text.length)
    (same : (text.drop position).take (edit.span.start - position) = before ++ '$' :: name)
    (outside : lexis.modeThrough .plain before
      ('$' :: (name ++ (text.drop position).drop (edit.span.start - position))) = .plain)
    (all : name.all isNameChar = true)
    (found : dollarTag? ('$' :: (name ++ (edit.text ++ text.drop edit.span.stop))) = some tag) :
    CompletesTag lexis (lexis.mask text) text edit := by
  have split : text.drop position =
      before ++ '$' :: (name ++ (text.drop position).drop (edit.span.start - position)) := by
    conv_lhs => rw [← List.take_append_drop (edit.span.start - position) (text.drop position), same]
    simp
  rw [same] at first
  obtain ⟨front, back, shown, size⟩ := mask_of_dollar here split all outside first
  have sizes := congrArg List.length same
  simp only [List.length_take, List.length_drop, List.length_append, List.length_cons] at sizes size
  have place : edit.span.start = (front ++ '$' :: name).length := by
    simp only [List.length_append, List.length_cons]
    omega
  have taken : (lexis.mask text).take edit.span.start = front ++ '$' :: name := by
    rw [shown, place, show front ++ '$' :: (name ++ back) = (front ++ '$' :: name) ++ back by simp,
      List.take_left]
  refine ⟨quotes, front.length, ?_, ?_, ?_, ?_⟩
  · rw [place]
    simp
  · rw [shown]
    simp
  · rw [taken]
    simpa using all
  · rw [taken, List.drop_left, List.cons_append, found]
    rfl

/-- Live edits in order can be spliced in if only the last one can be part of a name, and if none
completes a dollar tag. -/
theorem spliceable_of_live {text : List Char} (closed : lexis.Closed text) {edits : List Edit}
    (live : ∀ edit ∈ edits, edit.Live (lexis.mask text))
    (breaks : ∀ edit ∈ edits.dropLast, Breaks edit.text)
    (tagless : ∀ edit ∈ edits, ¬ CompletesTag lexis (lexis.mask text) text edit)
    {position : Nat} (ordered : Edit.InOrder position text.length edits)
    (here : LiveAt (lexis.mask text) position) :
    Spliceable lexis position (text.drop position) edits := by
  induction edits generalizing position with
  | nil => trivial
  | cons edit rest ih =>
      obtain ⟨start, stop, nonempty, calm, -⟩ := live edit (by simp)
      obtain ⟨after, forwards, later⟩ := ordered
      have first := here.outside_drop closed start after
      have second := here.outside_drop closed stop (Nat.le_trans after forwards)
      have dropped : (text.drop position).drop (edit.span.stop - position) =
          text.drop edit.span.stop := by
        rw [List.drop_drop, Nat.add_sub_cancel' (Nat.le_trans after forwards)]
      refine ⟨first, second, fun c member => (calm c member).1, ?_, ?_⟩
      · refine Lexis.joins_eq_false ?_ fun quotes before name same outside all => ?_
        · intro c _ d head
          have member : d ∈ edit.text := by
            rw [List.head?_append_of_ne_nil _ nonempty] at head
            exact List.mem_of_head? head
          exact meets_eq_false_of_calm c (calm d member).1 (calm d member).2
        · by_cases stops_name : Breaks edit.text
          · exact dollarTag?_of_breaks all (fun c member => (calm c member).1) stops_name _
          · -- Only the last edit can be part of a name.
            have last : rest = [] := by
              cases rest with
              | nil => rfl
              | cons d more => exact absurd (breaks edit (by simp)) stops_name
            subst last
            rw [dropped, Edit.applyFrom]
            cases found : dollarTag? ('$' :: (name ++ (edit.text ++ text.drop edit.span.stop))) with
            | none => rfl
            | some tag =>
                exact absurd (completesTag_of_dollarTag? quotes (here.outside closed) first after
                  (Nat.le_trans forwards later) same outside all found) (tagless edit (by simp))
      · rw [dropped]
        exact ih (fun e member => live e (by simp [member]))
          (fun e member => breaks e (by
            cases rest with
            | nil => cases member
            | cons d more => simp [member]))
          (fun e member => tagless e (by simp [member])) later stop

end QueryDesk.Sql
