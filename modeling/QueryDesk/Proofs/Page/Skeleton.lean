/-
Module: QueryDesk.Proofs.Page.Skeleton
Purpose: What stands inside of literals, quoted names and comments does not influence the rewriting of a
  query. Two texts of one skeleton have the same marks and the same plain characters; their masks
  differ in blanks only, their statements end at the same place, and they are bounded by the same
  edits.
Imports: QueryDesk.Proofs.Page.Statement, QueryDesk.Proofs.Sql.Spacing
Main exports: SameTokens, SameSkeleton, boundEdits_congr, boundFailure?_congr,
  paginate_congr_of_sameSkeleton
-/
import QueryDesk.Proofs.Page.Statement
import QueryDesk.Proofs.Sql.Spacing

namespace QueryDesk.Sql

open QueryDesk.Text

variable {lexis : Lexis}

/-- Two texts that have the same token boundaries and the same plain characters. They differ inside of
quoted tokens and comments at most. -/
structure SameTokens (lexis : Lexis) (text text' : List Char) : Prop where
  marks : lexis.marks text = lexis.marks text'
  plain : ∀ i < text.length, (lexis.marks text)[i]? = some .plain → text[i]? = text'[i]?

theorem SameTokens.length_eq {text text' : List Char} (same : SameTokens lexis text text') :
    text.length = text'.length := by
  have lengths := congrArg List.length same.marks
  rwa [Lexis.marks, Lexis.marks, Lexis.length_marksFrom, Lexis.length_marksFrom] at lengths

/-- Two texts with closed quotes that have the same token boundaries and the same plain characters, so
that they differ inside of quoted tokens and comments at most. -/
structure SameSkeleton (lexis : Lexis) (text text' : List Char) : Prop where
  closes : lexis.closes text = true
  closes' : lexis.closes text' = true
  marks : lexis.marks text = lexis.marks text'
  plain : ∀ i < text.length, (lexis.marks text)[i]? = some .plain → text[i]? = text'[i]?

theorem SameSkeleton.sameTokens {text text' : List Char} (same : SameSkeleton lexis text text') :
    SameTokens lexis text text' :=
  ⟨same.marks, same.plain⟩

theorem SameSkeleton.length_eq {text text' : List Char} (same : SameSkeleton lexis text text') :
    text.length = text'.length :=
  same.sameTokens.length_eq

theorem SameSkeleton.symm {text text' : List Char} (same : SameSkeleton lexis text text') :
    SameSkeleton lexis text' text where
  closes := same.closes'
  closes' := same.closes
  marks := same.marks.symm
  plain := fun i inside plain =>
    (same.plain i (by rwa [same.length_eq]) (by rw [same.marks]; exact plain)).symm

theorem lt_of_marks {text : List Char} {i : Nat} {mark : Mark}
    (found : (lexis.marks text)[i]? = some mark) : i < text.length := by
  have bound := (List.getElem?_eq_some_iff.1 found).1
  rwa [Lexis.marks, Lexis.length_marksFrom] at bound

theorem getElem?_hideFrom (hidden : Mark → Bool) (text : List Char) (i : Nat) :
    (lexis.hideFrom hidden .plain text)[i]? =
      match (lexis.marks text)[i]?, text[i]? with
      | some mark, some c => some (if hidden mark then blank c else c)
      | _, _ => none := by
  rw [Lexis.hideFrom_eq_hide]
  exact getElem?_hide hidden (lexis.marks text) text i

theorem space_of_isBlank {c : Char} (is_blank : isBlank c = true) : space c = ' ' := by
  simp [space, is_blank]

/-- The masks differ in blanks only. -/
theorem SameTokens.spaced_mask {text text' : List Char} (same : SameTokens lexis text text') :
    spaced (lexis.mask text) = spaced (lexis.mask text') := by
  apply List.ext_getElem?
  intro i
  simp only [spaced, List.getElem?_map, Lexis.mask, getElem?_hideFrom, ← same.marks]
  cases mark : (lexis.marks text)[i]? with
  | none => rfl
  | some m =>
      have inside := lt_of_marks mark
      have inside' : i < text'.length := by rwa [← same.length_eq]
      rw [List.getElem?_eq_getElem inside, List.getElem?_eq_getElem inside']
      by_cases is_plain : m = .plain
      · subst is_plain
        have here := same.plain i inside mark
        rw [List.getElem?_eq_getElem inside, List.getElem?_eq_getElem inside'] at here
        rw [Option.some.inj here]
      · have hidden : (!m.isPlain) = true := by
          cases m with
          | plain => exact absurd rfl is_plain
          | quoteStart | quote | commentStart | comment => rfl
        simp only [hidden, if_true, Option.map_some, space_of_isBlank (isBlank_blank _)]

theorem SameSkeleton.spaced_mask {text text' : List Char} (same : SameSkeleton lexis text text') :
    spaced (lexis.mask text) = spaced (lexis.mask text') :=
  same.sameTokens.spaced_mask

/-! ### Extents

Behind the content of a closed text no character is quoted, so that there the marks and the plain characters
say all that the comment mask shows. A text of the same skeleton therefore keeps no more than the first one
does, and by symmetry both keep the same. -/

/-- Behind the content of a text no character is quoted. -/
theorem not_isQuoted_behind {idle : Char → Bool} (kind : Idle idle) {text : List Char}
    (closes : lexis.closes text = true) :
    ∀ mark ∈ (lexis.marks text).drop ((lexis.commentMask text).rdropWhile idle).length,
      mark.isQuoted = false := by
  have outside := Lexis.outside_of_rdropWhile kind closes
  have hidden : ∀ c ∈ (lexis.commentMask text).drop
      ((lexis.commentMask text).rdropWhile idle).length, idle c = true :=
    fun c => idle_of_mem_drop _
  generalize ((lexis.commentMask text).rdropWhile idle).length = n at *
  rcases Nat.lt_or_ge text.length n with short | inside
  · rw [List.drop_eq_nil_of_le]
    · simp
    · rw [Lexis.marks, Lexis.length_marksFrom]
      omega
  · have front : (lexis.marksThrough .plain (text.take n) (text.drop n)).length = n := by
      simp [inside]
    have behind : (lexis.marks text).drop n = lexis.marksFrom .plain (text.drop n) := by
      conv_lhs => rw [← List.take_append_drop n text]
      rw [Lexis.marks, Lexis.marksFrom_append, outside, List.drop_left' front]
    have shown : (lexis.commentMask text).drop n =
        lexis.hideFrom Mark.isComment .plain (text.drop n) := by
      conv_lhs => rw [← List.take_append_drop n text]
      rw [Lexis.commentMask, Lexis.hideFrom_append_of_seam outside]
      exact List.drop_left' (by simp [inside])
    rw [shown] at hidden
    rw [behind]
    exact Lexis.not_isQuoted_of_idle kind rfl hidden

/-- A text whose characters from a position on are of a kind keeps no more than that position. -/
theorem length_rdropWhile_le {kind : Char → Bool} {text : List Char} {n : Nat}
    (all : ∀ c ∈ text.drop n, kind c = true) : (text.rdropWhile kind).length ≤ n := by
  have gone : (text.drop n).rdropWhile kind = [] := List.rdropWhile_eq_nil_iff.2 all
  have split : text.rdropWhile kind = ((text.take n).rdropWhile kind) := by
    conv_lhs => rw [← List.take_append_drop n text]
    rw [List.rdropWhile, List.reverse_append, List.dropWhile_append_of_pos]
    · rfl
    · intro c member
      exact all c (List.mem_reverse.1 member)
  rw [split]
  exact Nat.le_trans (List.rdropWhile_prefix kind _).length_le (List.length_take_le n text)

theorem SameSkeleton.length_rdropWhile_le {idle : Char → Bool} (kind : Idle idle)
    {text text' : List Char} (same : SameSkeleton lexis text text') :
    ((lexis.commentMask text').rdropWhile idle).length ≤
      ((lexis.commentMask text).rdropWhile idle).length := by
  apply QueryDesk.Sql.length_rdropWhile_le
  intro c member
  obtain ⟨i, found⟩ := List.mem_iff_getElem?.1 member
  rw [List.getElem?_drop] at found
  generalize place : ((lexis.commentMask text).rdropWhile idle).length + i = j at found
  rw [Lexis.commentMask, getElem?_hideFrom, ← same.marks] at found
  cases mark : (lexis.marks text)[j]? with
  | none =>
      rw [mark] at found
      cases found
  | some m =>
      cases here : text'[j]? with
      | none =>
          rw [mark, here] at found
          cases found
      | some d =>
          rw [mark, here] at found
          have free : m.isQuoted = false := by
            refine not_isQuoted_behind kind same.closes m (List.mem_iff_getElem?.2 ⟨i, ?_⟩)
            rw [List.getElem?_drop, place, mark]
          cases comment : m.isComment with
          | true =>
              simp only [comment, if_true, Option.some.injEq] at found
              rw [← found]
              exact kind.blank d
          | false =>
              have is_plain : m = .plain := by
                cases m with
                | plain => rfl
                | quoteStart | quote => cases free
                | commentStart | comment => cases comment
              subst is_plain
              simp only [Mark.isComment, Bool.false_eq_true, if_false, Option.some.injEq] at found
              subst found
              have shown : (lexis.commentMask text)[j]? = some d := by
                rw [Lexis.commentMask, getElem?_hideFrom, mark, same.plain j (lt_of_marks mark) mark, here]
                rfl
              refine idle_of_mem_drop (lexis.commentMask text) (List.mem_iff_getElem?.2 ⟨i, ?_⟩)
              rw [List.getElem?_drop, place, shown]

/-- The statements of two texts of one skeleton end at the same places. -/
theorem SameSkeleton.extent_eq {text text' : List Char} (same : SameSkeleton lexis text text') :
    Extent.ofMask (lexis.commentMask text) = Extent.ofMask (lexis.commentMask text') := by
  have lengths : ∀ {idle : Char → Bool}, Idle idle →
      ((lexis.commentMask text).rdropWhile idle).length =
        ((lexis.commentMask text').rdropWhile idle).length := fun kind =>
    Nat.le_antisymm (same.symm.length_rdropWhile_le kind) (same.length_rdropWhile_le kind)
  rw [Extent.ofMask_eq, Extent.ofMask_eq, lengths idle_terminator, lengths idle_isBlank]

theorem marksFrom_of_calm {text : List Char} (calm : ∀ c ∈ text, isCalm c = true) :
    ∀ mark ∈ lexis.marksFrom .plain text, mark = .plain := by
  induction text with
  | nil => simp [Lexis.marksFrom]
  | cons c rest ih =>
      have head := lexis.stepPlain_of_calm (calm c (by simp)) rest
      intro mark member
      simp only [Lexis.marksFrom, Lexis.step, head, List.mem_cons] at member
      rcases member with rfl | later
      · rfl
      · exact ih (fun d inside => calm d (by simp [inside])) mark later

/-- If what follows the content of a text is blank, then the same stands behind the other one. -/
theorem SameSkeleton.drop_eq_of_blank {text text' : List Char} (same : SameSkeleton lexis text text')
    (all : isBlankText (text.drop (Extent.ofMask (lexis.commentMask text)).trailer) = true) :
    text.drop (Extent.ofMask (lexis.commentMask text)).trailer =
      text'.drop (Extent.ofMask (lexis.commentMask text)).trailer := by
  have outside := Lexis.outside_of_rdropWhile idle_isBlank same.closes
  have inside := Extent.trailer_le (lexis.commentMask text)
  rw [lexis.length_commentMask] at inside
  rw [Extent.ofMask_eq] at all inside ⊢
  dsimp only at all inside ⊢
  generalize ((lexis.commentMask text).rdropWhile isBlank).length = n at *
  have front : (lexis.marksThrough .plain (text.take n) (text.drop n)).length = n := by
    simp [inside]
  have behind : (lexis.marks text).drop n = lexis.marksFrom .plain (text.drop n) := by
    conv_lhs => rw [← List.take_append_drop n text]
    rw [Lexis.marks, Lexis.marksFrom_append, outside, List.drop_left' front]
  have plain : ∀ mark ∈ (lexis.marks text).drop n, mark = .plain := by
    rw [behind]
    exact marksFrom_of_calm fun c member => isCalm_of_isBlank (List.all_eq_true.1 all c member)
  apply List.ext_getElem?
  intro i
  rw [List.getElem?_drop, List.getElem?_drop]
  rcases Nat.lt_or_ge (n + i) text.length with short | long
  · apply same.plain _ short
    have place : n + i < (lexis.marks text).length := by
      rwa [Lexis.marks, Lexis.length_marksFrom]
    have here : (lexis.marks text)[n + i]? = some (lexis.marks text)[n + i] :=
      List.getElem?_eq_getElem place
    rw [here, plain (lexis.marks text)[n + i]
      (List.mem_iff_getElem?.2 ⟨i, by rw [List.getElem?_drop, here]⟩)]
  · rw [List.getElem?_eq_none long, List.getElem?_eq_none (by rwa [← same.length_eq])]

theorem SameSkeleton.removalEnd_eq {text text' : List Char} (same : SameSkeleton lexis text text') :
    removalEnd lexis text = removalEnd lexis text' := by
  have blank_iff : isBlankText (text.drop (Extent.ofMask (lexis.commentMask text)).trailer) =
      isBlankText (text'.drop (Extent.ofMask (lexis.commentMask text')).trailer) := by
    rw [Bool.eq_iff_iff]
    constructor
    · intro all
      rwa [← same.extent_eq, ← same.drop_eq_of_blank all]
    · intro all
      have back := same.symm.drop_eq_of_blank all
      rwa [same.extent_eq, ← back]
  rw [removalEnd, removalEnd, blank_iff, same.extent_eq, same.length_eq]

theorem isBlankText_iff (text : List Char) :
    isBlankText text = true ↔ (text.rdropWhile isBlank).length = 0 := by
  rw [List.length_eq_zero_iff, List.rdropWhile_eq_nil_iff, isBlankText, List.all_eq_true]

theorem SameSkeleton.isUntouched_eq {text text' : List Char} (same : SameSkeleton lexis text text') :
    isUntouched (lexis.mask text) (lexis.commentMask text) =
      isUntouched (lexis.mask text') (lexis.commentMask text') := by
  have blank : isBlankText (lexis.commentMask text) = isBlankText (lexis.commentMask text') := by
    have extents := congrArg Extent.trailer same.extent_eq
    simp only [Extent.ofMask_eq] at extents
    rw [Bool.eq_iff_iff, isBlankText_iff, isBlankText_iff, extents]
  rw [isUntouched, isUntouched, blank, ← passthrough_spaced (lexis.mask text), same.spaced_mask,
    passthrough_spaced]

theorem SameSkeleton.spaced_statementMask {text text' : List Char} (same : SameSkeleton lexis text text') :
    spaced (statementMask lexis text) = spaced (statementMask lexis text') := by
  have masks := same.spaced_mask
  rw [spaced, spaced] at masks
  rw [statementMask, statementMask, spaced, spaced, List.map_take, List.map_take, masks,
    same.extent_eq]

/-- Texts of one skeleton are bounded by the same edits. -/
theorem boundEdits_congr {dialect : Dialect} (limit offset : Int) {text text' : List Char}
    (same : SameSkeleton (Lexis.ofDialect dialect) text text') :
    boundEdits dialect limit offset text = boundEdits dialect limit offset text' := by
  simp only [boundEdits, same.isUntouched_eq, same.removalEnd_eq, same.extent_eq,
    ← plan_spaced dialect limit offset (statementMask (Lexis.ofDialect dialect) text),
    same.spaced_statementMask]
  rw [plan_spaced]

/-- Texts of one skeleton fail to be bounded for the same number, or for none. -/
theorem boundFailure?_congr {dialect : Dialect} (limit offset : Int) {text text' : List Char}
    (same : SameSkeleton (Lexis.ofDialect dialect) text text') :
    boundFailure? dialect limit offset text = boundFailure? dialect limit offset text' := by
  have converts : conversions dialect limit offset (statementMask (Lexis.ofDialect dialect) text) =
      conversions dialect limit offset (statementMask (Lexis.ofDialect dialect) text') := by
    rw [← conversions_spaced, same.spaced_statementMask, conversions_spaced]
  rw [statementMask, statementMask] at converts
  simp only [boundFailure?, same.isUntouched_eq, converts]

/-- What stands inside of literals, quoted names and comments never influences the rewriting: two
queries of one skeleton are rewritten by the same edits, which stand in order and do not overlap, and
get the same directive; and where a number is too long for the one, it is too long for the other. -/
theorem paginate_congr_of_sameSkeleton (dialect : Dialect) (policy : PagePolicy)
    (limit offset : Option Int) {sql sql' : String}
    (same : SameSkeleton (Lexis.ofDialect dialect) sql.toList sql'.toList) :
    (∃ edits : List Edit, Edit.InOrder 0 sql.toList.length edits ∧
      paginate dialect policy limit offset sql =
        ⟨String.ofList (Edit.applyAll edits sql.toList), directiveOf policy limit offset⟩ ∧
      paginate dialect policy limit offset sql' =
        ⟨String.ofList (Edit.applyAll edits sql'.toList), directiveOf policy limit offset⟩) ∧
    ∀ failure, boundQuery dialect policy limit offset sql = .error failure ↔
      boundQuery dialect policy limit offset sql' = .error failure := by
  refine ⟨⟨boundEdits dialect (directiveOf policy limit offset).limit
    (directiveOf policy limit offset).offset sql.toList, boundEdits_inOrder _ _ _ _, ?_, ?_⟩,
    fun failure => ?_⟩
  · rw [paginate, boundText_eq_applyAll]
  · rw [boundEdits_congr _ _ same, paginate, boundText_eq_applyAll]
  · rw [boundQuery, boundQuery, boundFailure?_congr _ _ same]
    cases boundFailure? dialect _ _ sql'.toList with
    | none => exact iff_of_false nofun nofun
    | some found => rfl

/-- A literal and a comment that hold words of SQL, and others of the same length in their place. -/
theorem paginate_congr_of_literal :
    SameSkeleton (Lexis.ofDialect .postgres) "SELECT 'LIMIT 9' FROM t -- a ;".toList
        "SELECT 'abcdefg' FROM t -- LIM".toList ∧
      ∃ edits : List Edit, Edit.InOrder 0 30 edits ∧
        paginate .postgres .standard (some 5) none "SELECT 'LIMIT 9' FROM t -- a ;" =
          ⟨String.ofList (Edit.applyAll edits "SELECT 'LIMIT 9' FROM t -- a ;".toList), ⟨5, 0, true⟩⟩ ∧
        paginate .postgres .standard (some 5) none "SELECT 'abcdefg' FROM t -- LIM" =
          ⟨String.ofList (Edit.applyAll edits "SELECT 'abcdefg' FROM t -- LIM".toList), ⟨5, 0, true⟩⟩ := by
  have same : SameSkeleton (Lexis.ofDialect .postgres) "SELECT 'LIMIT 9' FROM t -- a ;".toList
      "SELECT 'abcdefg' FROM t -- LIM".toList := by
    refine ⟨by decide +kernel, by decide +kernel, by decide +kernel, by decide +kernel⟩
  exact ⟨same, (paginate_congr_of_sameSkeleton .postgres .standard (some 5) none same).1⟩

end QueryDesk.Sql
