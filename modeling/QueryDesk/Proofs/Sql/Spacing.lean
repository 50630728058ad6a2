/-
Module: QueryDesk.Proofs.Sql.Spacing
Purpose: Clause patterns do not tell one blank from another. Two masks of one statement may differ in
  line feeds and spaces where quoted tokens and comments were; with every blank made a space they are
  the same text, and no pattern, no depth and no count is changed by that.
Imports: QueryDesk.Page.Paging, QueryDesk.Proofs.Sql.Reading, QueryDesk.Proofs.Page.Count
Main exports: spaced, SpaceBlind, topLevelHits_spaced, Clauses.ofMask_spaced, plan_spaced,
  conversions_spaced
-/
import QueryDesk.Page.Paging
import QueryDesk.Proofs.Sql.Reading
import QueryDesk.Proofs.Page.Count

namespace QueryDesk.Sql

open QueryDesk.Text

/-- A blank made a space. -/
def space (c : Char) : Char :=
  if isBlank c then ' ' else c

/-- A text with every blank made a space. -/
def spaced (text : List Char) : List Char :=
  text.map space

theorem space_of_not_blank {c : Char} (other : isBlank c = false) : space c = c := by
  simp [space, other]

@[simp]
theorem isBlank_space (c : Char) : isBlank (space c) = isBlank c := by
  cases blank : isBlank c with
  | true => simp only [space, blank, if_true]; decide
  | false => rw [space_of_not_blank blank, blank]

/-- What holds of no blank does not tell a space from another blank. -/
theorem kind_space {kind : Char → Bool} (apart : ∀ c, isBlank c = true → kind c = false) (c : Char) :
    kind (space c) = kind c := by
  cases blank : isBlank c with
  | true =>
      have as_space : kind (space c) = false := apart _ (by rw [isBlank_space, blank])
      rw [as_space, apart c blank]
  | false => rw [space_of_not_blank blank]

@[simp]
theorem isWord_space (c : Char) : isWord (space c) = isWord c :=
  kind_space (fun _ => isWord_eq_false_of_isBlank) c

theorem isDigit_eq_false_of_isBlank (c : Char) (blank : isBlank c = true) : isDigit c = false := by
  cases digit : isDigit c with
  | false => rfl
  | true =>
      rw [isBlank_eq_false_of_isDigit digit] at blank
      cases blank

@[simp]
theorem isDigit_space (c : Char) : isDigit (space c) = isDigit c :=
  kind_space isDigit_eq_false_of_isBlank c

theorem beq_space {expected : Char} (other : isBlank expected = false) (c : Char) :
    (space c == expected) = (c == expected) := by
  refine @kind_space (fun c => c == expected) (fun c blank => ?_) c
  rw [beq_eq_false_iff_ne]
  rintro rfl
  rw [blank] at other
  cases other

theorem fold_space {k : Char} (letter : isKeywordLetter k = true) (c : Char) :
    (foldKeyword (space c) == k) = (foldKeyword c == k) := by
  refine @kind_space (fun c => foldKeyword c == k) (fun c blank => ?_) c
  rw [beq_eq_false_iff_ne]
  rintro rfl
  rw [isBlank_eq_false_of_isWord (isWord_of_foldKeyword letter)] at blank
  cases blank

@[simp]
theorem wordBegins_space (before : Option Char) : wordBegins (before.map space) = wordBegins before := by
  cases before with
  | none => rfl
  | some c => simp [wordBegins]

/-! ### Readers

A reader that does not tell one blank from another commutes with `spaced`: it may be run first, or the
blanks may be made spaces first. The readers and patterns are put together from such ones. -/

@[simp]
theorem length_spaced (text : List Char) : (spaced text).length = text.length :=
  List.length_map _

theorem keyword?_spaced {word : List Char} (letters : word.all isKeywordLetter = true)
    (text : List Char) : keyword? word (spaced text) = (keyword? word text).map spaced := by
  induction word generalizing text with
  | nil => rfl
  | cons k word ih =>
      simp only [List.all_cons, Bool.and_eq_true] at letters
      cases text with
      | nil => rfl
      | cons c rest =>
          have later := ih letters.2 rest
          simp only [spaced, List.map_cons, keyword?, fold_space letters.1] at later ⊢
          split_ifs
          · exact later
          · rfl

@[simp]
theorem wordEnds_spaced (text : List Char) : wordEnds (spaced text) = wordEnds text := by
  cases text with
  | nil => rfl
  | cons c rest => simp [spaced, wordEnds]

theorem wholeWord?_spaced {word : List Char} (letters : word.all isKeywordLetter = true)
    (text : List Char) : wholeWord? word (spaced text) = (wholeWord? word text).map spaced := by
  rw [wholeWord?, wholeWord?, keyword?_spaced letters]
  cases keyword? word text with
  | none => rfl
  | some rest =>
      simp only [Option.map_some, wordEnds_spaced]
      split_ifs <;> rfl

theorem dropWhile_spaced {kind : Char → Bool} (same : ∀ c, kind (space c) = kind c)
    (text : List Char) : (spaced text).dropWhile kind = spaced (text.dropWhile kind) := by
  rw [spaced, List.dropWhile_map]
  congr 2
  funext c
  exact same c

theorem run1?_spaced {kind : Char → Bool} (same : ∀ c, kind (space c) = kind c) (text : List Char) :
    run1? kind (spaced text) = (run1? kind text).map spaced := by
  cases text with
  | nil => rfl
  | cons c rest =>
      have later := dropWhile_spaced same rest
      simp only [spaced, List.map_cons, run1?, same] at later ⊢
      split_ifs
      · rw [later]
        rfl
      · rfl

@[simp]
theorem blanks_spaced (text : List Char) : blanks (spaced text) = spaced (blanks text) :=
  dropWhile_spaced isBlank_space text

@[simp]
theorem blanks1?_spaced (text : List Char) : blanks1? (spaced text) = (blanks1? text).map spaced := by
  rw [blanks1?_eq_run1?, run1?_spaced isBlank_space]

@[simp]
theorem digits1?_spaced (text : List Char) : digits1? (spaced text) = (digits1? text).map spaced := by
  rw [digits1?_eq_run1?, run1?_spaced isDigit_space]

@[simp]
theorem word1?_spaced (text : List Char) : word1? (spaced text) = (word1? text).map spaced := by
  rw [word1?_eq_run1?, run1?_spaced isWord_space]

theorem char?_spaced {expected : Char} (other : isBlank expected = false) (text : List Char) :
    char? expected (spaced text) = (char? expected text).map spaced := by
  cases text with
  | nil => rfl
  | cons c rest =>
      simp only [spaced, List.map_cons, char?, beq_space other]
      split_ifs <;> rfl

@[simp]
theorem placeholder?_spaced (text : List Char) :
    placeholder? (spaced text) = (placeholder? text).map spaced := by
  rw [placeholder?_eq_chars, placeholder?_eq_chars text, char?_spaced (by decide),
    char?_spaced (by decide), char?_spaced (by decide)]
  cases char? '?' text with
  | some rest => rfl
  | none =>
      cases char? '$' text with
      | some rest => exact digits1?_spaced rest
      | none =>
          cases char? ':' text with
          | some rest => exact word1?_spaced rest
          | none => rfl

@[simp]
theorem rowCount?_spaced (text : List Char) :
    rowCount? (spaced text) = (rowCount? text).map spaced := by
  rw [rowCount?_eq_chars, rowCount?_eq_chars text, char?_spaced (by decide), digits1?_spaced,
    wholeWord?_spaced (by decide), placeholder?_spaced]
  cases char? '-' text with
  | some rest => exact digits1?_spaced rest
  | none =>
      cases digits1? text with
      | some rest => rfl
      | none =>
          cases wholeWord? "all".toList text with
          | some rest => rfl
          | none => rfl

@[simp]
theorem secondCount?_spaced (text : List Char) :
    secondCount? (spaced text) =
      (secondCount? text).map fun (second, after) => (spaced second, spaced after) := by
  rw [secondCount?, secondCount?, blanks_spaced, char?_spaced (by decide)]
  cases char? ',' (blanks text) with
  | none => rfl
  | some afterComma =>
      simp only [Option.map_some, blanks_spaced, digits1?_spaced, placeholder?_spaced]
      cases digits1? (blanks afterComma) with
      | some rest => rfl
      | none =>
          cases placeholder? (blanks afterComma) with
          | some rest => rfl
          | none => rfl

@[simp]
theorem upTo_spaced (text rest : List Char) (groups : List (Option Span)) :
    upTo (spaced text) (spaced rest) groups = upTo text rest groups := by
  simp [upTo]

@[simp]
theorem between_spaced (text longer shorter : List Char) :
    between (spaced text) (spaced longer) (spaced shorter) = between text longer shorter := by
  simp [between]

/-- A pattern does not tell one blank from another. -/
def SpaceBlind (pattern : Pattern) : Prop :=
  ∀ before text, pattern (before.map space) (spaced text) = pattern before text

theorem spaceBlind_limitClause : SpaceBlind limitClause := by
  intro before text
  rw [limitClause, limitClause, wordBegins_space, keyword?_spaced (by decide)]
  cases keyword? "limit".toList text with
  | none => rfl
  | some behind =>
      simp only [Option.map_some, Option.bind_some, blanks1?_spaced]
      cases blanks1? behind with
      | none => rfl
      | some start =>
          simp only [Option.map_some, rowCount?_spaced]
          cases rowCount? start with
          | none => rfl
          | some rest =>
              simp only [Option.map_some, secondCount?_spaced]
              cases secondCount? rest with
              | none => simp
              | some pair => simp

theorem spaceBlind_offsetKeyword : SpaceBlind offsetKeyword := by
  intro before text
  rw [offsetKeyword, offsetKeyword, wordBegins_space, wholeWord?_spaced (by decide)]
  cases wholeWord? "offset".toList text with
  | none => rfl
  | some rest => simp

theorem spaceBlind_topClause : SpaceBlind topClause := by
  intro before text
  rw [topClause, topClause, wordBegins_space, keyword?_spaced (by decide)]
  cases keyword? "top".toList text with
  | none => rfl
  | some behind =>
      simp only [Option.map_some, blanks_spaced, char?_spaced (show isBlank '(' = false by decide)]
      cases char? '(' (blanks behind) with
      | some opened =>
          simp only [Option.map_some, blanks_spaced, digits1?_spaced]
          cases digits1? (blanks opened) with
          | none => rfl
          | some rest =>
              simp only [Option.map_some, blanks_spaced,
                char?_spaced (show isBlank ')' = false by decide)]
              cases char? ')' (blanks rest) with
              | none => rfl
              | some after => simp
      | none =>
          simp only [Option.map_none, digits1?_spaced]
          cases digits1? (blanks behind) with
          | none => rfl
          | some rest => simp

theorem rowsWord?_spaced (text : List Char) :
    rowsWord? (spaced text) = (rowsWord? text).map spaced := by
  rw [rowsWord?, rowsWord?, wholeWord?_spaced (by decide), wholeWord?_spaced (by decide)]
  cases wholeWord? "rows".toList text with
  | some rest => rfl
  | none => rfl

theorem nextOrFirst?_spaced (text : List Char) :
    nextOrFirst? (spaced text) = (nextOrFirst? text).map spaced := by
  rw [nextOrFirst?, nextOrFirst?, keyword?_spaced (by decide), keyword?_spaced (by decide)]
  cases keyword? "next".toList text with
  | some rest => rfl
  | none => rfl

/-- Readers that do not tell one blank from another can be run one after the other. -/
theorem bind_spaced {read : List Char → Option (List Char)}
    (blind : ∀ text, read (spaced text) = (read text).map spaced) (start : Option (List Char)) :
    (start.map spaced).bind read = (start.bind read).map spaced := by
  cases start with
  | none => rfl
  | some text => exact blind text

theorem spaceBlind_fetchClause : SpaceBlind fetchClause := by
  intro before text
  rw [fetchClause, fetchClause, wordBegins_space, keyword?_spaced (by decide),
    bind_spaced blanks1?_spaced, bind_spaced nextOrFirst?_spaced, bind_spaced blanks1?_spaced]
  cases (((keyword? "fetch".toList text).bind blanks1?).bind nextOrFirst?).bind blanks1? with
  | none => rfl
  | some start =>
      simp only [Option.map_some, digits1?_spaced]
      cases digits1? start with
      | some rest =>
          simp only [Option.map_some, blanks1?_spaced, bind_spaced rowsWord?_spaced]
          cases (blanks1? rest).bind rowsWord? with
          | none => rfl
          | some after => simp
      | none =>
          simp only [Option.map_none, rowsWord?_spaced]
          cases rowsWord? start with
          | none => rfl
          | some after => simp

theorem spaceBlind_orderByClause : SpaceBlind orderByClause := by
  intro before text
  rw [orderByClause, orderByClause, wordBegins_space, keyword?_spaced (by decide),
    bind_spaced blanks1?_spaced, bind_spaced (wholeWord?_spaced (by decide))]
  cases ((keyword? "order".toList text).bind blanks1?).bind (wholeWord? "by".toList) with
  | none => rfl
  | some rest => simp

theorem distinctOrAll?_spaced (text : List Char) :
    distinctOrAll? (spaced text) = (distinctOrAll? text).map spaced := by
  rw [distinctOrAll?, distinctOrAll?, wholeWord?_spaced (by decide), wholeWord?_spaced (by decide)]
  cases wholeWord? "distinct".toList text with
  | some rest => rfl
  | none => rfl

theorem spaceBlind_selectHead : SpaceBlind selectHead := by
  intro before text
  rw [selectHead, selectHead, wordBegins_space, keyword?_spaced (by decide)]
  cases keyword? "select".toList text with
  | none => rfl
  | some rest =>
      simp only [Option.map_some, blanks1?_spaced, bind_spaced distinctOrAll?_spaced]
      cases (blanks1? rest).bind distinctOrAll? with
      | none => simp
      | some after => simp

theorem passthrough_spaced (text : List Char) :
    passthrough none (spaced text) = passthrough none text := by
  have words : (passthroughWords.findSome? fun word => wholeWord? word (spaced (blanks text))) =
      (passthroughWords.findSome? fun word => wholeWord? word (blanks text)).map spaced := by
    simp only [passthroughWords, List.findSome?_cons, List.findSome?_nil,
      wholeWord?_spaced (show "show".toList.all isKeywordLetter = true by decide),
      wholeWord?_spaced (show "describe".toList.all isKeywordLetter = true by decide),
      wholeWord?_spaced (show "desc".toList.all isKeywordLetter = true by decide),
      wholeWord?_spaced (show "explain".toList.all isKeywordLetter = true by decide)]
    cases wholeWord? "show".toList (blanks text) with
    | some rest => rfl
    | none =>
        cases wholeWord? "describe".toList (blanks text) with
        | some rest => rfl
        | none =>
            cases wholeWord? "desc".toList (blanks text) with
            | some rest => rfl
            | none =>
                cases wholeWord? "explain".toList (blanks text) with
                | some rest => rfl
                | none => rfl
  simp only [passthrough, blanks_spaced, words]
  cases passthroughWords.findSome? fun word => wholeWord? word (blanks text) with
  | none => rfl
  | some rest => simp

theorem paren_space (c : Char) :
    (space c == '(') = (c == '(') ∧ (space c == ')') = (c == ')') :=
  ⟨beq_space (by decide) c, beq_space (by decide) c⟩

theorem depthsFrom_spaced (depth : Nat) (text : List Char) :
    depthsFrom depth (spaced text) = depthsFrom depth text := by
  induction text generalizing depth with
  | nil => rfl
  | cons c rest ih =>
      have later := fun depth => ih depth
      simp only [spaced, List.map_cons, depthsFrom, (paren_space c).1, (paren_space c).2] at later ⊢
      simp only [later]

theorem hitsFrom_spaced {pattern : Pattern} (blind : SpaceBlind pattern) (position skip : Nat)
    (before : Option Char) (text : List Char) :
    hitsFrom pattern position skip (before.map space) (spaced text) =
      hitsFrom pattern position skip before text := by
  induction text generalizing position skip before with
  | nil => rfl
  | cons c rest ih =>
      have here : pattern (before.map space) (space c :: spaced rest) = pattern before (c :: rest) :=
        blind before (c :: rest)
      have later := fun position skip => ih position skip (some c)
      rw [Option.map_some] at later
      have split : spaced (c :: rest) = space c :: spaced rest := rfl
      cases skip with
      | succ left =>
          rw [split, hitsFrom, hitsFrom]
          exact later (position + 1) left
      | zero =>
          rw [split, hitsFrom, hitsFrom, here]
          cases pattern before (c :: rest) with
          | none => exact later (position + 1) 0
          | some found => simp only [later]

theorem topLevelHits_spaced {pattern : Pattern} (blind : SpaceBlind pattern) (masked : List Char) :
    topLevelHits pattern (spaced masked) = topLevelHits pattern masked := by
  have found : hits pattern (spaced masked) = hits pattern masked := hitsFrom_spaced blind 0 0 none masked
  simp only [topLevelHits, found, isTopLevel, depths, depthsFrom_spaced]

/-- The clauses of a statement do not depend on which blanks it has. -/
theorem Clauses.ofMask_spaced (masked : List Char) :
    Clauses.ofMask (spaced masked) = Clauses.ofMask masked := by
  simp only [Clauses.ofMask, lastTopLevel?, firstTopLevel?, topLevelHits_spaced spaceBlind_limitClause,
    topLevelHits_spaced spaceBlind_topClause, topLevelHits_spaced spaceBlind_offsetKeyword,
    topLevelHits_spaced spaceBlind_fetchClause, topLevelHits_spaced spaceBlind_orderByClause,
    topLevelHits_spaced spaceBlind_selectHead]

theorem slice_spaced (span : Span) (masked : List Char) :
    span.slice (spaced masked) = spaced (span.slice masked) := by
  simp [Span.slice, spaced, List.map_take, List.map_drop]

theorem spaced_eq_of_digits {count : List Char} (digits : ∀ c ∈ count, isDigit c = true) :
    spaced count = count := by
  have kept : ∀ c ∈ count, space c = c := fun c member =>
    space_of_not_blank (isBlank_eq_false_of_isDigit (digits c member))
  rw [spaced, List.map_congr_left kept, List.map_id']

/-- A count with a blank in it has no value, so the value does not depend on which blank it is. -/
theorem countValue?_spaced (count : List Char) : countValue? (spaced count) = countValue? count := by
  cases read : countValue? count with
  | some value => rw [spaced_eq_of_digits (IsCount.of_value read).2, read]
  | none =>
      refine Option.eq_none_iff_forall_ne_some.2 fun value read' => ?_
      have digits : ∀ c ∈ count, isDigit c = true := fun c member => by
        rw [← isDigit_space]
        exact (IsCount.of_value read').2 _ (List.mem_map_of_mem member)
      rw [spaced_eq_of_digits digits, read] at read'
      cases read'

theorem clampCount_spaced (limit : Int) (count : List Char) :
    clampCount limit (spaced count) = clampCount limit count := by
  cases read : countValue? count with
  | some value => rw [spaced_eq_of_digits (IsCount.of_value read).2]
  | none => rw [clampCount_of_none read, clampCount_of_none ((countValue?_spaced count).trans read)]

theorem clampEdit_spaced (limit : Int) (masked : List Char) (span : Span) :
    clampEdit limit (spaced masked) span = clampEdit limit masked span := by
  rw [clampEdit, clampEdit, slice_spaced, clampCount_spaced]

/-- The edits of a statement do not depend on which blanks it has. -/
theorem plan_spaced (dialect : Dialect) (limit offset : Int) (masked : List Char) :
    plan dialect limit offset (spaced masked) = plan dialect limit offset masked := by
  have limits : planLimit limit offset (spaced masked) = planLimit limit offset masked := by
    simp only [planLimit, planExistingLimit, planTop, planFetch, Clauses.ofMask_spaced,
      clampEdit_spaced, length_spaced]
  have server : planSqlServer limit offset (spaced masked) = planSqlServer limit offset masked := by
    simp only [planSqlServer, planTop, planFetch, Clauses.ofMask_spaced, clampEdit_spaced,
      length_spaced]
  cases dialect with
  | sqlserver => exact server
  | postgres | mysql | sqlite | generic => exact limits

theorem clampConversions_spaced (limit : Int) (count : List Char) :
    clampConversions limit (spaced count) = clampConversions limit count := by
  rw [clampConversions, clampConversions, countValue?_spaced, length_spaced]

theorem groupConversions_spaced (limit : Int) (masked : List Char) (group : Option Span) :
    groupConversions limit (spaced masked) group = groupConversions limit masked group := by
  cases group with
  | none => rfl
  | some count => rw [groupConversions, groupConversions, slice_spaced, clampConversions_spaced]

/-- Nor do the numbers that bounding it reads and writes. -/
theorem conversions_spaced (dialect : Dialect) (limit offset : Int) (masked : List Char) :
    conversions dialect limit offset (spaced masked) = conversions dialect limit offset masked := by
  have limits : limitConversions limit offset (spaced masked) = limitConversions limit offset masked := by
    simp only [limitConversions, Clauses.ofMask_spaced, groupConversions_spaced, slice_spaced,
      clampConversions_spaced]
  have server : serverConversions limit offset (spaced masked) = serverConversions limit offset masked := by
    simp only [serverConversions, Clauses.ofMask_spaced, groupConversions_spaced]
  cases dialect with
  | sqlserver => exact server
  | postgres | mysql | sqlite | generic => exact limits

end QueryDesk.Sql
