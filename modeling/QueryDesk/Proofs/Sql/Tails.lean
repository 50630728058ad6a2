/-
Module: QueryDesk.Proofs.Sql.Tails
Purpose: What a clause pattern reads of a text does not depend on how the text ends, as long as it ends
  with something that no clause goes on with. Two such ends may be put in each other's place: before
  them a pattern matches the same, and a match that reads on into one of them (a named placeholder
  can) reads on into the other one as well.
Imports: QueryDesk.Proofs.Sql.ClauseShape
Main exports: Inert, Interchangeable, Edge, Within, Alike, alike_limitClause, within_topClause,
  within_fetchClause, within_wholeWord, clearThrough_exchange, clearThrough_congr, skipThrough_congr
-/
import QueryDesk.Proofs.Sql.ClauseShape

namespace QueryDesk.Sql

open QueryDesk.Text

/-! ### Ends that no clause goes on with

A text with two ends is read by one reader after the other. As long as the readers stay in the text they
leave the same part of it before both ends (`Agree`); once one comes to the end of the text, both ends are
inert, and no reader of a clause goes on there (`Along`). -/

/-- The words with which a clause, or a statement that is passed through, can go on. -/
def followers : List (List Char) :=
  ["all".toList, "rows".toList, "row".toList, "next".toList, "first".toList, "distinct".toList] ++
    passthroughWords

/-- A text that nothing behind the keyword of a clause can be read from. -/
structure Inert (text : List Char) : Prop where
  digit : Stops isDigit text
  count : rowCount? text = none
  mark : placeholder? text = none
  comma : char? ',' text = none
  opening : char? '(' text = none
  closing : char? ')' text = none
  word : ∀ word ∈ followers, keyword? word text = none

/-- Two ends of a text of which the one can stand in place of the other. -/
structure Interchangeable (x y : List Char) : Prop where
  inert : Inert x
  inert' : Inert y
  behind : Inert (blanks x)
  behind' : Inert (blanks y)
  stops : Stops isWord x ↔ Stops isWord y

/-- No word goes on from a text into an end of it. -/
def Edge (text x : List Char) : Prop :=
  ∀ c, text.getLast? = some c → isWord c = true → Stops isWord x

theorem Edge.of_suffix {text text' x : List Char} (edge : Edge text x) (isSuffix : text' <:+ text) :
    Edge text' x := by
  obtain ⟨front, rfl⟩ := isSuffix
  intro c last
  refine edge c ?_
  rw [List.getLast?_append, last]
  rfl

theorem Edge.stops {text x : List Char} (edge : Edge text x) {init : List Char} {c : Char}
    (split : text = init ++ [c]) (word : isWord c = true) : Stops isWord x :=
  edge c (by rw [split]; simp) word

/-- Two readers' results on a text with two ends: both fail, or both leave the same part of it. -/
def Agree (text x y : List Char) (left right : Option (List Char)) : Prop :=
  (left = none ∧ right = none) ∨
    ∃ v, v <:+ text ∧ left = some (v ++ x) ∧ right = some (v ++ y)

/-- Two states of reading a text with two ends: the same part of it is left, or nothing more can be
read. -/
def Along (text x y s t : List Char) : Prop :=
  (∃ v, v <:+ text ∧ s = v ++ x ∧ t = v ++ y) ∨ (Inert s ∧ Inert t)

theorem Stops.keyword?_eq_none {k : Char} {word text : List Char} (letter : isKeywordLetter k = true)
    (stops : Stops isWord text) : keyword? (k :: word) text = none := by
  cases text with
  | nil => rfl
  | cons c rest =>
      rw [keyword?, if_neg]
      intro same
      have is_word : isWord c = true := isWord_of_foldKeyword (by rw [beq_iff_eq.1 same]; exact letter)
      have not_word : isWord c = false := stops
      rw [is_word] at not_word
      cases not_word

variable {x y : List Char}

theorem agree_keyword? (word : List Char) (letters : word.all isKeywordLetter = true)
    {text : List Char} (nonempty : text ≠ []) (edge : Edge text x) (edge' : Edge text y) :
    Agree text x y (keyword? word (text ++ x)) (keyword? word (text ++ y)) := by
  induction word generalizing text with
  | nil => exact .inr ⟨text, List.suffix_refl _, rfl, rfl⟩
  | cons k word ih =>
      simp only [List.all_cons, Bool.and_eq_true] at letters
      cases text with
      | nil => exact absurd rfl nonempty
      | cons c rest =>
          simp only [List.cons_append, keyword?]
          by_cases fold : foldKeyword c = k
          · simp only [fold, beq_self_eq_true, if_true]
            have is_word : isWord c = true := isWord_of_foldKeyword (by rw [fold]; exact letters.1)
            cases rest with
            | nil =>
                have ends : Stops isWord x := edge.stops (by rfl : [c] = [] ++ [c]) is_word
                have ends' : Stops isWord y := edge'.stops (by rfl : [c] = [] ++ [c]) is_word
                cases word with
                | nil => exact .inr ⟨[], List.nil_suffix, rfl, rfl⟩
                | cons k' more =>
                    have letter : isKeywordLetter k' = true := by
                      simp only [List.all_cons, Bool.and_eq_true] at letters
                      exact letters.2.1
                    exact .inl ⟨ends.keyword?_eq_none letter, ends'.keyword?_eq_none letter⟩
            | cons d more =>
                have isSuffix : d :: more <:+ c :: d :: more := List.suffix_cons c _
                rcases ih letters.2 (by simp) (edge.of_suffix isSuffix) (edge'.of_suffix isSuffix) with
                  ⟨left, right⟩ | ⟨v, tail, left, right⟩
                · exact .inl ⟨left, right⟩
                · exact .inr ⟨v, tail.trans isSuffix, left, right⟩
          · simp only [beq_iff_eq, fold, if_false]
            exact .inl ⟨rfl, rfl⟩

theorem agree_wholeWord? (word : List Char) (letters : word.all isKeywordLetter = true)
    {text : List Char} (nonempty : text ≠ []) (edge : Edge text x)
    (edge' : Edge text y) :
    Agree text x y (wholeWord? word (text ++ x)) (wholeWord? word (text ++ y)) := by
  rcases agree_keyword? word letters nonempty edge edge' with ⟨left, right⟩ | ⟨v, isSuffix, left, right⟩
  · exact .inl ⟨by rw [wholeWord?, left], by rw [wholeWord?, right]⟩
  · have same : wordEnds (v ++ x) = wordEnds (v ++ y) := by
      cases v with
      | cons c rest => rfl
      | nil =>
          obtain ⟨key, spelled, split⟩ := keyword?_eq_some_iff.1 left
          rw [List.nil_append] at split
          obtain rfl := List.append_cancel_right split
          rcases List.eq_nil_or_concat text with rfl | ⟨init, c, rfl⟩
          · exact absurd rfl nonempty
          · have is_word := isWord_of_mem_key spelled letters (c := c) (by simp)
            rw [List.concat_eq_append] at edge edge'
            rw [List.nil_append, List.nil_append,
              stops_isWord_iff.1 (edge.stops rfl is_word), stops_isWord_iff.1 (edge'.stops rfl is_word)]
    rw [wholeWord?, wholeWord?, left, right]
    simp only [same]
    split_ifs
    · exact .inr ⟨v, isSuffix, rfl, rfl⟩
    · exact .inl ⟨rfl, rfl⟩

/-- A run of word characters of one kind ends before the end of the text. -/
theorem agree_run1? {kind : Char → Bool} (words : ∀ c, kind c = true → isWord c = true)
    {text : List Char} (nonempty : text ≠ []) (edge : Edge text x) (edge' : Edge text y) :
    Agree text x y (run1? kind (text ++ x)) (run1? kind (text ++ y)) := by
  have stops_of : ∀ {z : List Char}, Stops isWord z → Stops kind z := by
    intro z ends
    cases z with
    | nil => trivial
    | cons c rest =>
        refine Bool.eq_false_iff.2 fun holds => ?_
        have not_word : isWord c = false := ends
        rw [words c holds] at not_word
        cases not_word
  cases text with
  | nil => exact absurd rfl nonempty
  | cons c rest =>
      simp only [List.cons_append, run1?]
      by_cases holds : kind c = true
      · simp only [holds, if_true]
        right
        by_cases all : ∀ d ∈ rest, kind d = true
        · have last_word : ∀ d, (c :: rest).getLast? = some d → isWord d = true := by
            intro d last
            rcases List.mem_cons.1 (List.mem_of_getLast? last) with rfl | later
            · exact words _ holds
            · exact words _ (all d later)
          have ends : ∀ {z : List Char}, Edge (c :: rest) z → Stops isWord z := by
            intro z here
            obtain ⟨d, last⟩ : ∃ d, (c :: rest).getLast? = some d :=
              ⟨_, List.getLast?_eq_some_getLast (by simp)⟩
            exact here d last (last_word d last)
          refine ⟨[], List.nil_suffix, ?_, ?_⟩
          · rw [List.dropWhile_append_of_pos all, dropWhile_of_stops (stops_of (ends edge))]
            rfl
          · rw [List.dropWhile_append_of_pos all, dropWhile_of_stops (stops_of (ends edge'))]
            rfl
        · have stays : ∀ z : List Char, (rest ++ z).dropWhile kind = rest.dropWhile kind ++ z := by
            intro z
            rw [List.dropWhile_append, if_neg]
            rw [List.isEmpty_iff, List.dropWhile_eq_nil_iff]
            exact all
          exact ⟨rest.dropWhile kind, (List.dropWhile_suffix kind).trans (List.suffix_cons c rest),
            by rw [stays], by rw [stays]⟩
      · simp only [holds, Bool.false_eq_true, if_false]
        exact .inl ⟨rfl, rfl⟩

theorem agree_char? (expected : Char) {text : List Char} (nonempty : text ≠ []) :
    Agree text x y (char? expected (text ++ x)) (char? expected (text ++ y)) := by
  cases text with
  | nil => exact absurd rfl nonempty
  | cons c rest =>
      simp only [List.cons_append, char?]
      split_ifs
      · exact .inr ⟨rest, List.suffix_cons c rest, rfl, rfl⟩
      · exact .inl ⟨rfl, rfl⟩

theorem along_blanks (ends : Interchangeable x y) (text : List Char) :
    Along text x y (blanks (text ++ x)) (blanks (text ++ y)) := by
  by_cases all : ∀ c ∈ text, isBlank c = true
  · right
    rw [blanks, blanks, List.dropWhile_append_of_pos all, List.dropWhile_append_of_pos all]
    exact ⟨ends.behind, ends.behind'⟩
  · left
    have stays : ∀ z : List Char, blanks (text ++ z) = blanks text ++ z := by
      intro z
      rw [blanks, List.dropWhile_append, if_neg]
      · rfl
      · rw [List.isEmpty_iff, List.dropWhile_eq_nil_iff]
        exact all
    exact ⟨blanks text, List.dropWhile_suffix _, stays x, stays y⟩

theorem Agree.of_suffix {text text' : List Char} {left right : Option (List Char)}
    (agree : Agree text' x y left right) (isSuffix : text' <:+ text) : Agree text x y left right := by
  rcases agree with none | ⟨v, tail, left, right⟩
  · exact .inl none
  · exact .inr ⟨v, tail.trans isSuffix, left, right⟩

/-- A reader that fails on inert texts agrees behind the keyword as it does at it. -/
theorem Along.read {text s t : List Char} {read : List Char → Option (List Char)}
    (along : Along text x y s t) (ends : Interchangeable x y)
    (fails : ∀ z, Inert z → read z = none)
    (agree : ∀ v, v ≠ [] → v <:+ text → Agree v x y (read (v ++ x)) (read (v ++ y))) :
    Agree text x y (read s) (read t) := by
  rcases along with ⟨v, isSuffix, rfl, rfl⟩ | ⟨inert, inert'⟩
  · by_cases empty : v = []
    · subst empty
      exact .inl ⟨fails _ ends.inert, fails _ ends.inert'⟩
    · exact (agree v empty isSuffix).of_suffix isSuffix
  · exact .inl ⟨fails _ inert, fails _ inert'⟩

theorem Inert.digits1? {z : List Char} (inert : Inert z) : digits1? z = none :=
  digits1?_eq_none_iff.2 inert.digit

theorem Inert.wholeWord? {z word : List Char} (inert : Inert z) (member : word ∈ followers) :
    wholeWord? word z = none := by
  rw [QueryDesk.Sql.wholeWord?, inert.word word member]

theorem Along.digits1? {text s t : List Char} (along : Along text x y s t)
    (ends : Interchangeable x y) (edge : Edge text x) (edge' : Edge text y) :
    Agree text x y (digits1? s) (digits1? t) := by
  refine along.read ends (fun z inert => inert.digits1?) fun v nonempty isSuffix => ?_
  rw [digits1?_eq_run1?]
  exact agree_run1? (fun _ => isWord_of_isDigit) nonempty (edge.of_suffix isSuffix)
    (edge'.of_suffix isSuffix)

theorem Along.wholeWord? {text s t word : List Char} (along : Along text x y s t)
    (ends : Interchangeable x y) (edge : Edge text x) (edge' : Edge text y)
    (member : word ∈ followers) (letters : word.all isKeywordLetter = true) :
    Agree text x y (wholeWord? word s) (wholeWord? word t) :=
  along.read ends (fun _ inert => inert.wholeWord? member) fun _ nonempty isSuffix =>
    agree_wholeWord? word letters nonempty (edge.of_suffix isSuffix) (edge'.of_suffix isSuffix)

theorem Along.keyword? {text s t word : List Char} (along : Along text x y s t)
    (ends : Interchangeable x y) (edge : Edge text x) (edge' : Edge text y)
    (member : word ∈ followers) (letters : word.all isKeywordLetter = true) :
    Agree text x y (keyword? word s) (keyword? word t) :=
  along.read ends (fun _ inert => inert.word word member) fun _ nonempty isSuffix =>
    agree_keyword? word letters nonempty (edge.of_suffix isSuffix) (edge'.of_suffix isSuffix)

/-- The first of two readers that succeeds agrees if both do. -/
theorem Agree.or {text : List Char} {left right left' right' : Option (List Char)}
    (agree : Agree text x y left right) (agree' : Agree text x y left' right') :
    Agree text x y (left.or left') (right.or right') := by
  rcases agree with ⟨rfl, rfl⟩ | ⟨v, isSuffix, rfl, rfl⟩
  · simpa using agree'
  · exact .inr ⟨v, isSuffix, rfl, rfl⟩

theorem rowsWord?_eq_or (z : List Char) :
    rowsWord? z = (wholeWord? "rows".toList z).or (wholeWord? "row".toList z) := by
  rw [rowsWord?]
  cases wholeWord? "rows".toList z <;> rfl

theorem nextOrFirst?_eq_or (z : List Char) :
    nextOrFirst? z = (keyword? "next".toList z).or (keyword? "first".toList z) := by
  rw [nextOrFirst?]
  cases keyword? "next".toList z <;> rfl

theorem Along.rowsWord? {text s t : List Char} (along : Along text x y s t)
    (ends : Interchangeable x y) (edge : Edge text x) (edge' : Edge text y) :
    Agree text x y (rowsWord? s) (rowsWord? t) := by
  rw [rowsWord?_eq_or, rowsWord?_eq_or]
  exact (along.wholeWord? ends edge edge' (by decide) (by decide)).or
    (along.wholeWord? ends edge edge' (by decide) (by decide))

theorem Along.nextOrFirst? {text s t : List Char} (along : Along text x y s t)
    (ends : Interchangeable x y) (edge : Edge text x) (edge' : Edge text y) :
    Agree text x y (nextOrFirst? s) (nextOrFirst? t) := by
  rw [nextOrFirst?_eq_or, nextOrFirst?_eq_or]
  exact (along.keyword? ends edge edge' (by decide) (by decide)).or
    (along.keyword? ends edge edge' (by decide) (by decide))

/-- Two readers' results that can only be read on where they agree. -/
def AlongSome (text x y : List Char) (left right : Option (List Char)) : Prop :=
  (∃ s t, left = some s ∧ right = some t ∧ Along text x y s t) ∨
    ((∀ s, left = some s → Inert s) ∧ ∀ t, right = some t → Inert t)

theorem AlongSome.bind {text : List Char} {left right : Option (List Char)}
    (along : AlongSome text x y left right) (read : List Char → Option (List Char))
    (fails : ∀ z, Inert z → read z = none)
    (agree : ∀ s t, Along text x y s t → Agree text x y (read s) (read t)) :
    Agree text x y (left.bind read) (right.bind read) := by
  have stuck : ∀ o : Option (List Char), (∀ s, o = some s → Inert s) → o.bind read = none := by
    intro o inert
    cases o with
    | none => rfl
    | some s => exact fails s (inert s rfl)
  rcases along with ⟨s, t, rfl, rfl, along⟩ | ⟨left_inert, right_inert⟩
  · exact agree s t along
  · exact .inl ⟨stuck left left_inert, stuck right right_inert⟩

theorem alongSome_none {text : List Char} : AlongSome text x y none none := by
  right
  constructor
  · intro s read
    cases read
  · intro s read
    cases read

theorem alongSome_blanks1? (ends : Interchangeable x y) (text : List Char) :
    AlongSome text x y (blanks1? (text ++ x)) (blanks1? (text ++ y)) := by
  cases text with
  | nil =>
      right
      have stuck : ∀ z, Inert (blanks z) → ∀ s, blanks1? z = some s → Inert s := by
        intro z inert s read
        cases z with
        | nil => cases read
        | cons c rest =>
            rw [blanks1?] at read
            split_ifs at read with blank
            have whole : blanks (c :: rest) = blanks rest := by
              rw [blanks, List.dropWhile_cons, if_pos blank]
              rfl
            rw [← Option.some.inj read, ← whole]
            exact inert
      exact ⟨stuck x ends.behind, stuck y ends.behind'⟩
  | cons c rest =>
      simp only [List.cons_append, blanks1?]
      by_cases blank : isBlank c = true
      · simp only [blank, if_true]
        left
        refine ⟨_, _, rfl, rfl, ?_⟩
        rcases along_blanks ends rest with ⟨v, isSuffix, left, right⟩ | inert
        · exact .inl ⟨v, isSuffix.trans (List.suffix_cons c rest), left, right⟩
        · exact .inr inert
      · simp only [blank, Bool.false_eq_true, if_false]
        exact alongSome_none

theorem Agree.blanks1? {text : List Char} {left right : Option (List Char)}
    (agree : Agree text x y left right) (ends : Interchangeable x y) :
    AlongSome text x y (left.bind blanks1?) (right.bind blanks1?) := by
  rcases agree with ⟨rfl, rfl⟩ | ⟨v, isSuffix, rfl, rfl⟩
  · exact alongSome_none
  · rcases alongSome_blanks1? ends v with ⟨s, t, left, right, along⟩ | stuck
    · refine .inl ⟨s, t, left, right, ?_⟩
      rcases along with ⟨w, tail, left, right⟩ | inert
      · exact .inl ⟨w, tail.trans isSuffix, left, right⟩
      · exact .inr inert
    · exact .inr stuck

/-- Two matches on a text with two ends that are the same and lie within the text. -/
def Within (text : List Char) (left right : Option Match) : Prop :=
  left = right ∧ ∀ found, left = some found → found.length ≤ text.length

/-- What two matches of a pattern on a text with two ends have to do with each other: they are the
same and lie within the text, or both of them read on into its end. -/
def Alike (text : List Char) (left right : Option Match) : Prop :=
  Within text left right ∨
    ∃ found found', left = some found ∧ right = some found' ∧ text.length < found.length ∧
      text.length < found'.length

theorem within_none (text : List Char) : Within text none none :=
  ⟨rfl, nofun⟩

theorem upTo_suffix {text v : List Char} (isSuffix : v <:+ text) (z : List Char)
    (groups : List (Option Span)) :
    upTo (text ++ z) (v ++ z) groups = ⟨text.length - v.length, groups⟩ := by
  have := isSuffix.length_le
  simp only [upTo, List.length_append, Match.mk.injEq, and_true]
  omega

theorem between_suffix {text v w : List Char} (isSuffix : v <:+ text) (isSuffix' : w <:+ text)
    (z : List Char) :
    between (text ++ z) (v ++ z) (w ++ z) = ⟨text.length - v.length, text.length - w.length⟩ := by
  have := isSuffix.length_le
  have := isSuffix'.length_le
  simp only [between, List.length_append, Span.mk.injEq]
  omega

theorem within_upTo {text v : List Char} (isSuffix : v <:+ text) (groups : List (Option Span)) :
    Within text (some (upTo (text ++ x) (v ++ x) groups)) (some (upTo (text ++ y) (v ++ y) groups)) := by
  rw [upTo_suffix isSuffix, upTo_suffix isSuffix]
  refine ⟨rfl, ?_⟩
  rintro _ ⟨⟩
  exact Nat.sub_le _ _

variable {text : List Char}

theorem within_wholeWord {word : String} (letters : word.toList.all isKeywordLetter = true)
    (before : Option Char) (nonempty : text ≠ []) (edge : Edge text x) (edge' : Edge text y) :
    Within text (wholeWord word before (text ++ x)) (wholeWord word before (text ++ y)) := by
  rw [wholeWord, wordPattern, wordPattern, plainPattern, plainPattern]
  split_ifs
  · rcases agree_wholeWord? word.toList letters nonempty edge edge' with
      ⟨left, right⟩ | ⟨v, isSuffix, left, right⟩
    · rw [left, right]
      exact within_none text
    · rw [left, right]
      exact within_upTo isSuffix []
  · exact within_none text

theorem Inert.rowsWord? {z : List Char} (inert : Inert z) : rowsWord? z = none := by
  rw [rowsWord?_eq_or, inert.wholeWord? (by decide), inert.wholeWord? (by decide)]
  rfl

theorem Inert.nextOrFirst? {z : List Char} (inert : Inert z) : nextOrFirst? z = none := by
  rw [nextOrFirst?_eq_or, inert.word _ (by decide), inert.word _ (by decide)]
  rfl

theorem fetchClause_of_inert {before : Option Char} {z : List Char}
    (stuck : ∀ s, (((keyword? "fetch".toList z).bind blanks1?).bind nextOrFirst?).bind blanks1? =
      some s → Inert s) : fetchClause before z = none := by
  unfold fetchClause
  split_ifs
  · cases start : (((keyword? "fetch".toList z).bind blanks1?).bind nextOrFirst?).bind blanks1? with
    | none => rfl
    | some s =>
        have inert := stuck s start
        simp only [inert.digits1?, inert.rowsWord?]
  · rfl

theorem within_fetchClause (before : Option Char) (nonempty : text ≠ []) (ends : Interchangeable x y)
    (edge : Edge text x) (edge' : Edge text y) :
    Within text (fetchClause before (text ++ x)) (fetchClause before (text ++ y)) := by
  have key := agree_keyword? "fetch".toList (by decide) nonempty edge edge'
  have word := (key.blanks1? ends).bind nextOrFirst? (fun z inert => inert.nextOrFirst?)
    fun s t along => along.nextOrFirst? ends edge edge'
  rcases word.blanks1? ends with ⟨s, t, left, right, along⟩ | ⟨stuck, stuck'⟩
  · rw [fetchClause, fetchClause, left, right]
    split_ifs
    · have digits := along.digits1? ends edge edge'
      rcases along with ⟨u, isSuffix, rfl, rfl⟩ | ⟨inert, inert'⟩
      · have start : Along text x y (u ++ x) (u ++ y) := .inl ⟨u, isSuffix, rfl, rfl⟩
        rcases digits with ⟨left, right⟩ | ⟨v, isSuffix', left, right⟩
        · simp only [left, right]
          rcases start.rowsWord? ends edge edge' with ⟨left, right⟩ | ⟨w, isSuffix', left, right⟩
          · rw [left, right]
            exact within_none text
          · rw [left, right]
            exact within_upTo isSuffix' _
        · simp only [left, right]
          have rows : Agree text x y ((blanks1? (v ++ x)).bind rowsWord?)
              ((blanks1? (v ++ y)).bind rowsWord?) :=
            ((alongSome_blanks1? ends v).bind rowsWord? (fun z inert => inert.rowsWord?)
              fun s t along => along.rowsWord? ends (edge.of_suffix isSuffix')
                (edge'.of_suffix isSuffix')).of_suffix isSuffix'
          rcases rows with ⟨left, right⟩ | ⟨w, isSuffix'', left, right⟩
          · rw [left, right]
            exact within_none text
          · rw [left, right]
            simp only [between_suffix isSuffix isSuffix']
            exact within_upTo isSuffix'' _
      · simp only [inert.digits1?, inert'.digits1?, inert.rowsWord?, inert'.rowsWord?]
        exact within_none text
    · exact within_none text
  · rw [fetchClause_of_inert stuck, fetchClause_of_inert stuck']
    exact within_none text

theorem within_topClause (before : Option Char) (nonempty : text ≠ []) (ends : Interchangeable x y)
    (edge : Edge text x) (edge' : Edge text y) :
    Within text (topClause before (text ++ x)) (topClause before (text ++ y)) := by
  unfold topClause
  split_ifs
  · rcases agree_keyword? "top".toList (by decide) nonempty edge edge' with
      ⟨left, right⟩ | ⟨v, isSuffix, left, right⟩
    · rw [left, right]
      exact within_none text
    · rw [left, right, Option.map_some, Option.map_some]
      dsimp only
      rcases along_blanks ends v with ⟨u, tail, left, right⟩ | ⟨inert, inert'⟩
      · rw [left, right]
        have isSuffix' : u <:+ text := tail.trans isSuffix
        have start : Along text x y (u ++ x) (u ++ y) := .inl ⟨u, isSuffix', rfl, rfl⟩
        rcases start.read ends (fun z inert => inert.opening) (fun v nonempty _ =>
          agree_char? '(' nonempty) with ⟨left, right⟩ | ⟨w, isSuffix'', left, right⟩
        · simp only [left, right]
          rcases start.digits1? ends edge edge' with ⟨left, right⟩ | ⟨w, isSuffix'', left, right⟩
          · simp only [left, right]
            exact within_none text
          · simp only [left, right, between_suffix isSuffix' isSuffix'']
            exact within_upTo isSuffix'' _
        · simp only [left, right]
          rcases along_blanks ends w with ⟨w', tail', left, right⟩ | ⟨inert, inert'⟩
          · rw [left, right]
            have inner_suffix : w' <:+ text := tail'.trans isSuffix''
            have inner : Along text x y (w' ++ x) (w' ++ y) := .inl ⟨w', inner_suffix, rfl, rfl⟩
            rcases inner.digits1? ends edge edge' with ⟨left, right⟩ | ⟨r, rest_suffix, left, right⟩
            · simp only [left, right]
              exact within_none text
            · simp only [left, right]
              have closed : Agree text x y (char? ')' (blanks (r ++ x))) (char? ')' (blanks (r ++ y))) := by
                have along : Along text x y (blanks (r ++ x)) (blanks (r ++ y)) := by
                  rcases along_blanks ends r with ⟨v', tail'', left, right⟩ | inert
                  · exact .inl ⟨v', tail''.trans rest_suffix, left, right⟩
                  · exact .inr inert
                exact along.read ends (fun z inert => inert.closing) fun v nonempty _ =>
                  agree_char? ')' nonempty
              rcases closed with ⟨left, right⟩ | ⟨after, after_suffix, left, right⟩
              · simp only [left, right]
                exact within_none text
              · simp only [left, right, between_suffix isSuffix' inner_suffix,
                  between_suffix inner_suffix rest_suffix]
                exact within_upTo after_suffix _
          · simp only [inert.digits1?, inert'.digits1?]
            exact within_none text
      · simp only [inert.opening, inert'.opening, inert.digits1?, inert'.digits1?]
        exact within_none text
  · exact within_none text

/-! ### LIMIT, whose placeholders can read on into the end

The name of a placeholder takes in any word characters, also those of an end. So a LIMIT may match before
both ends with different lengths. Then both matches go beyond the text, and reading the text ends with them. -/

/-- Both readers read on into the end of the text. -/
def Cross (x y : List Char) (left right : Option (List Char)) : Prop :=
  ∃ s t, left = some s ∧ right = some t ∧ s.length < x.length ∧ t.length < y.length

theorem cross_or_agree_word1? (ends : Interchangeable x y) (edge : Edge text x)
    (edge' : Edge text y) :
    Agree text x y (word1? (text ++ x)) (word1? (text ++ y)) ∨
      Cross x y (word1? (text ++ x)) (word1? (text ++ y)) := by
  rw [word1?_eq_run1?]
  by_cases empty : text = []
  · subst empty
    rw [List.nil_append, List.nil_append]
    have shorter : ∀ {z : List Char}, ¬ Stops isWord z →
        ∃ s, run1? isWord z = some s ∧ s.length < z.length := by
      intro z goes_on
      cases read : run1? isWord z with
      | none => exact absurd (run1?_eq_none_iff.1 read) goes_on
      | some s =>
          obtain ⟨run, isRun, rfl, -⟩ := run1?_eq_some_iff.1 read
          have := List.length_pos_of_ne_nil isRun.1
          exact ⟨s, rfl, by simp only [List.length_append]; omega⟩
    by_cases stops : Stops isWord x
    · exact .inl (.inl ⟨run1?_eq_none_iff.2 stops, run1?_eq_none_iff.2 (ends.stops.1 stops)⟩)
    · obtain ⟨s, left, short⟩ := shorter stops
      obtain ⟨t, right, short'⟩ := shorter fun stops' => stops (ends.stops.2 stops')
      exact .inr ⟨s, t, left, right, short, short'⟩
  · exact .inl (agree_run1? (fun _ => id) empty edge edge')

theorem cross_or_agree_placeholder? {s t : List Char} (along : Along text x y s t)
    (ends : Interchangeable x y) (edge : Edge text x) (edge' : Edge text y) :
    Agree text x y (placeholder? s) (placeholder? t) ∨
      Cross x y (placeholder? s) (placeholder? t) := by
  rcases along with ⟨v, isSuffix, rfl, rfl⟩ | ⟨inert, inert'⟩
  · by_cases empty : v = []
    · subst empty
      exact .inl (.inl ⟨ends.inert.mark, ends.inert'.mark⟩)
    · rw [placeholder?_eq_chars, placeholder?_eq_chars (v ++ y)]
      rcases agree_char? '?' empty with ⟨left, right⟩ | ⟨w, tail, left, right⟩
      · rw [left, right]
        rcases agree_char? '$' empty with ⟨left, right⟩ | ⟨w, tail, left, right⟩
        · rw [left, right]
          rcases agree_char? ':' empty with ⟨left, right⟩ | ⟨w, tail, left, right⟩
          · rw [left, right]
            exact .inl (.inl ⟨rfl, rfl⟩)
          · rw [left, right]
            have isSuffix' := tail.trans isSuffix
            rcases cross_or_agree_word1? ends (edge.of_suffix isSuffix') (edge'.of_suffix isSuffix')
              with agree | cross
            · exact .inl (agree.of_suffix isSuffix')
            · exact .inr cross
        · rw [left, right]
          exact .inl (Along.digits1? (.inl ⟨w, tail.trans isSuffix, rfl, rfl⟩) ends edge edge')
      · rw [left, right]
        exact .inl (.inr ⟨w, tail.trans isSuffix, rfl, rfl⟩)
  · exact .inl (.inl ⟨inert.mark, inert'.mark⟩)

theorem cross_or_agree_rowCount? {s t : List Char} (along : Along text x y s t)
    (ends : Interchangeable x y) (edge : Edge text x) (edge' : Edge text y) :
    Agree text x y (rowCount? s) (rowCount? t) ∨ Cross x y (rowCount? s) (rowCount? t) := by
  have whole := along
  rcases along with ⟨v, isSuffix, rfl, rfl⟩ | ⟨inert, inert'⟩
  · by_cases empty : v = []
    · subst empty
      exact .inl (.inl ⟨ends.inert.count, ends.inert'.count⟩)
    · rw [rowCount?_eq_chars, rowCount?_eq_chars (v ++ y)]
      rcases agree_char? '-' empty with ⟨left, right⟩ | ⟨w, tail, left, right⟩
      · rw [left, right]
        rcases whole.digits1? ends edge edge' with ⟨left, right⟩ | ⟨w, tail, left, right⟩
        · rw [left, right]
          rcases whole.wholeWord? ends edge edge' (show "all".toList ∈ followers by decide)
            (by decide) with ⟨left, right⟩ | ⟨w, tail, left, right⟩
          · rw [left, right]
            exact cross_or_agree_placeholder? whole ends edge edge'
          · rw [left, right]
            exact .inl (.inr ⟨w, tail, rfl, rfl⟩)
        · rw [left, right]
          exact .inl (.inr ⟨w, tail, rfl, rfl⟩)
      · rw [left, right]
        exact .inl (Along.digits1? (.inl ⟨w, tail.trans isSuffix, rfl, rfl⟩) ends edge edge')
  · exact .inl (.inl ⟨inert.count, inert'.count⟩)

/-- Second counts behind the same part of a text: none, or the same one, or one that reads on into the
end. -/
theorem secondCount?_cases {v : List Char} (isSuffix : v <:+ text) (ends : Interchangeable x y)
    (edge : Edge text x) (edge' : Edge text y) :
    (secondCount? (v ++ x) = none ∧ secondCount? (v ++ y) = none) ∨
      (∃ u w, u <:+ text ∧ w <:+ text ∧ secondCount? (v ++ x) = some (u ++ x, w ++ x) ∧
        secondCount? (v ++ y) = some (u ++ y, w ++ y)) ∨
      ∃ s s' t t', secondCount? (v ++ x) = some (s, s') ∧ secondCount? (v ++ y) = some (t, t') ∧
        s'.length < x.length ∧ t'.length < y.length := by
  have comma : Agree v x y (char? ',' (blanks (v ++ x))) (char? ',' (blanks (v ++ y))) :=
    (along_blanks ends v).read ends (fun z inert => inert.comma) fun u nonempty _ =>
      agree_char? ',' nonempty
  rw [secondCount?, secondCount?]
  rcases comma with ⟨left, right⟩ | ⟨w, tail, left, right⟩
  · rw [left, right]
    exact .inl ⟨rfl, rfl⟩
  · rw [left, right]
    dsimp only
    rcases along_blanks ends w with ⟨u, tail', left, right⟩ | ⟨inert, inert'⟩
    · have isSuffix' : u <:+ text := tail'.trans (tail.trans isSuffix)
      have along : Along text x y (u ++ x) (u ++ y) := .inl ⟨u, isSuffix', rfl, rfl⟩
      rw [left, right]
      rcases along.digits1? ends edge edge' with ⟨left, right⟩ | ⟨r, rest_suffix, left, right⟩
      · rw [left, right]
        rcases cross_or_agree_placeholder? along ends edge edge' with
          (⟨left, right⟩ | ⟨r, rest_suffix, left, right⟩) | ⟨s, t, left, right, short, short'⟩
        · rw [left, right]
          exact .inl ⟨rfl, rfl⟩
        · rw [left, right]
          exact .inr (.inl ⟨u, r, isSuffix', rest_suffix, rfl, rfl⟩)
        · rw [left, right]
          exact .inr (.inr ⟨_, s, _, t, rfl, rfl, short, short'⟩)
      · rw [left, right]
        exact .inr (.inl ⟨u, r, isSuffix', rest_suffix, rfl, rfl⟩)
    · rw [inert.digits1?, inert'.digits1?, inert.mark, inert'.mark]
      exact .inl ⟨rfl, rfl⟩

theorem alike_upTo_of_short {s t : List Char} (short : s.length < x.length) (short' : t.length < y.length)
    (groups groups' : List (Option Span)) :
    Alike text (some (upTo (text ++ x) s groups)) (some (upTo (text ++ y) t groups')) := by
  refine .inr ⟨_, _, rfl, rfl, ?_, ?_⟩
  · simp only [upTo, List.length_append]
    omega
  · simp only [upTo, List.length_append]
    omega

theorem limitClause_of_inert {before : Option Char} {z : List Char}
    (stuck : ∀ s, (keyword? "limit".toList z).bind blanks1? = some s → Inert s) :
    limitClause before z = none := by
  unfold limitClause
  split_ifs
  · cases start : (keyword? "limit".toList z).bind blanks1? with
    | none => rfl
    | some s => simp only [(stuck s start).count]
  · rfl

/-- What is left behind a second count is no longer than what it was read from. -/
theorem secondCount?_length_le {rest second after : List Char}
    (read : secondCount? rest = some (second, after)) : after.length ≤ rest.length := by
  obtain ⟨gap, count, rfl, -⟩ := secondCount?_eq_some read
  simp only [List.length_append]
  omega

theorem alike_limitClause (before : Option Char) (nonempty : text ≠ []) (ends : Interchangeable x y)
    (edge : Edge text x) (edge' : Edge text y) :
    Alike text (limitClause before (text ++ x)) (limitClause before (text ++ y)) := by
  have key := agree_keyword? "limit".toList (by decide) nonempty edge edge'
  rcases key.blanks1? ends with ⟨s, t, left, right, along⟩ | ⟨stuck, stuck'⟩
  · rw [limitClause, limitClause, left, right]
    split_ifs
    · have counts := cross_or_agree_rowCount? along ends edge edge'
      rcases along with ⟨u, start_suffix, rfl, rfl⟩ | ⟨inert, inert'⟩
      · rcases counts with (⟨left, right⟩ | ⟨v, isSuffix, left, right⟩) |
          ⟨s, t, left, right, short, short'⟩
        · simp only [left, right]
          exact .inl (within_none text)
        · simp only [left, right, between_suffix start_suffix isSuffix]
          rcases secondCount?_cases isSuffix ends edge edge' with ⟨left, right⟩ |
            ⟨u', w, second_suffix, after_suffix, left, right⟩ |
            ⟨s, s', t, t', left, right, short, short'⟩
          · rw [left, right]
            exact .inl (within_upTo isSuffix _)
          · simp only [left, right, between_suffix second_suffix after_suffix]
            exact .inl (within_upTo after_suffix _)
          · rw [left, right]
            exact alike_upTo_of_short short short' _ _
        · simp only [left, right]
          cases second : secondCount? s with
          | none =>
              cases second' : secondCount? t with
              | none => exact alike_upTo_of_short short short' _ _
              | some pair =>
                  have := secondCount?_length_le second'
                  exact alike_upTo_of_short short (by omega) _ _
          | some pair =>
              have := secondCount?_length_le second
              cases second' : secondCount? t with
              | none => exact alike_upTo_of_short (by omega) short' _ _
              | some pair' =>
                  have := secondCount?_length_le second'
                  exact alike_upTo_of_short (by omega) (by omega) _ _
      · simp only [inert.count, inert'.count]
        exact .inl (within_none text)
    · exact .inl (within_none text)
  · rw [limitClause_of_inert stuck, limitClause_of_inert stuck']
    exact .inl (within_none text)

/-- A pattern reads every part of a text alike before two ends of it. -/
def ReadsAlike (pattern : Pattern) (text x y : List Char) : Prop :=
  ∀ part, part <:+ text → part ≠ [] → ∀ before,
    Alike part (pattern before (part ++ x)) (pattern before (part ++ y))

/-- A pattern reads every text alike before two ends that may be put in each other's place. -/
def Local (pattern : Pattern) : Prop :=
  ∀ {text x y : List Char}, Interchangeable x y → Edge text x → Edge text y →
    ReadsAlike pattern text x y

theorem local_limitClause : Local limitClause := fun ends edge edge' _ isSuffix nonempty before =>
  alike_limitClause before nonempty ends (edge.of_suffix isSuffix) (edge'.of_suffix isSuffix)

theorem local_topClause : Local topClause := fun ends edge edge' _ isSuffix nonempty before =>
  .inl (within_topClause before nonempty ends (edge.of_suffix isSuffix) (edge'.of_suffix isSuffix))

theorem local_fetchClause : Local fetchClause := fun ends edge edge' _ isSuffix nonempty before =>
  .inl (within_fetchClause before nonempty ends (edge.of_suffix isSuffix) (edge'.of_suffix isSuffix))

theorem local_wholeWord {word : String} (letters : word.toList.all isKeywordLetter = true) :
    Local (wholeWord word) := fun _ edge edge' _ isSuffix nonempty before =>
  .inl (within_wholeWord letters before nonempty (edge.of_suffix isSuffix) (edge'.of_suffix isSuffix))

theorem local_offsetKeyword : Local offsetKeyword := by
  rw [offsetKeyword_eq_wholeWord]
  exact local_wholeWord (by decide)

theorem Alike.eq_none_iff {left right : Option Match} (alike : Alike text left right) :
    left = none ↔ right = none := by
  rcases alike with ⟨rfl, -⟩ | ⟨found, found', rfl, rfl, -⟩
  · rfl
  · simp

theorem ReadsAlike.tail {pattern : Pattern} {c : Char} {rest : List Char}
    (alike : ReadsAlike pattern (c :: rest) x y) : ReadsAlike pattern rest x y :=
  fun part isSuffix => alike part (isSuffix.trans (List.suffix_cons c rest))

/-- A part of a text is clear of two patterns alike before two ends, if they match at the same places
of it. -/
theorem clearThrough_exchange {pattern pattern' : Pattern}
    (alike : ∀ part, part <:+ text → part ≠ [] → ∀ before,
      pattern before (part ++ x) = none ↔ pattern' before (part ++ y) = none)
    (depth : Nat) (before : Option Char) :
    ClearThrough pattern depth before text x ↔ ClearThrough pattern' depth before text y := by
  induction text generalizing depth before with
  | nil => rfl
  | cons c rest ih =>
      have here := alike (c :: rest) (List.suffix_refl _) (by simp) before
      rw [ClearThrough, ClearThrough, ih fun part isSuffix => alike part
        (isSuffix.trans (List.suffix_cons c rest))]
      simp only [List.cons_append] at here
      rw [here]

theorem clearThrough_congr {pattern : Pattern} (alike : ReadsAlike pattern text x y) (depth : Nat)
    (before : Option Char) :
    ClearThrough pattern depth before text x ↔ ClearThrough pattern depth before text y :=
  clearThrough_exchange (fun part isSuffix nonempty before =>
    (alike part isSuffix nonempty before).eq_none_iff) depth before

theorem skipThrough_of_le {pattern : Pattern} {skip : Nat} (long : text.length ≤ skip)
    (before : Option Char) (z : List Char) :
    skipThrough pattern skip before text z = skip - text.length := by
  induction text generalizing skip before with
  | nil => rfl
  | cons c rest ih =>
      obtain ⟨left, rfl⟩ : ∃ left, skip = left + 1 := ⟨skip - 1, by
        simp only [List.length_cons] at long
        omega⟩
      simp only [List.length_cons] at long ⊢
      rw [skipThrough, ih (by omega)]
      omega

/-- Before two ends a text is read up to its end, or past it. -/
theorem skipThrough_congr {pattern : Pattern} (alike : ReadsAlike pattern text x y) (skip : Nat)
    (before : Option Char) :
    skipThrough pattern skip before text x = 0 ↔ skipThrough pattern skip before text y = 0 := by
  induction text generalizing skip before with
  | nil => rfl
  | cons c rest ih =>
      cases skip with
      | succ left => exact ih alike.tail left (some c)
      | zero =>
          have here := alike (c :: rest) (List.suffix_refl _) (by simp) before
          simp only [List.cons_append] at here
          rw [skipThrough, skipThrough]
          rcases here with ⟨same, -⟩ | ⟨found, found', left, right, long, long'⟩
          · rw [same]
            cases pattern before (c :: (rest ++ y)) with
            | none => exact ih alike.tail 0 (some c)
            | some found => exact ih alike.tail _ (some c)
          · simp only [List.length_cons] at long long'
            rw [left, right]
            simp only
            rw [skipThrough_of_le (by omega), skipThrough_of_le (by omega)]
            omega

/-- A text whose first word passes a statement through does so before each of two ends. -/
theorem passthrough_congr (ends : Interchangeable x y) (edge : Edge text x) (edge' : Edge text y) :
    (passthrough none (text ++ x)).isSome = (passthrough none (text ++ y)).isSome := by
  have word : ∀ w ∈ passthroughWords,
      Agree text x y (wholeWord? w (blanks (text ++ x))) (wholeWord? w (blanks (text ++ y))) := by
    intro w member
    refine (along_blanks ends text).wholeWord? ends edge edge' ?_ ?_
    · exact List.mem_append_right _ member
    · revert w
      decide
  have same : ∀ words : List (List Char), (∀ w ∈ words, w ∈ passthroughWords) →
      (words.findSome? fun w => wholeWord? w (blanks (text ++ x))).isSome =
        (words.findSome? fun w => wholeWord? w (blanks (text ++ y))).isSome := by
    intro words
    induction words with
    | nil => exact fun _ => rfl
    | cons w more ih =>
        intro known
        rw [List.findSome?_cons, List.findSome?_cons]
        rcases word w (known w (by simp)) with ⟨left, right⟩ | ⟨v, -, left, right⟩
        · rw [left, right]
          exact ih fun w member => known w (by simp [member])
        · rw [left, right]
          rfl
  have isSome_eq : ∀ z : List Char, (passthrough none z).isSome =
      (passthroughWords.findSome? fun w => wholeWord? w (blanks z)).isSome := by
    intro z
    simp only [passthrough]
    cases passthroughWords.findSome? fun w => wholeWord? w (blanks z) <;> rfl
  rw [isSome_eq, isSome_eq, same passthroughWords fun _ member => member]

theorem inert_of_head {c : Char} {rest : List Char} (digit : isDigit c = false)
    (mark : c ≠ '-' ∧ c ≠ '?' ∧ c ≠ '$' ∧ c ≠ ':' ∧ c ≠ ',' ∧ c ≠ '(' ∧ c ≠ ')')
    (word : ∀ word ∈ followers, keyword? word (c :: rest) = none) : Inert (c :: rest) := by
  obtain ⟨minus, question, dollar, colon, comma, opening, closing⟩ := mark
  have char_none : ∀ e : Char, c ≠ e → char? e (c :: rest) = none := fun _ other => char?_of_ne other rest
  have digits : digits1? (c :: rest) = none := digits1?_eq_none_iff.2 digit
  have placeholder : placeholder? (c :: rest) = none := by
    rw [placeholder?_eq_chars, char_none _ question, char_none _ dollar, char_none _ colon]
    rfl
  refine ⟨digit, ?_, placeholder, char_none _ comma, char_none _ opening, char_none _ closing, word⟩
  have all : wholeWord? "all".toList (c :: rest) = none := by
    rw [wholeWord?, word _ (by decide)]
  rw [rowCount?_eq_chars, char_none _ minus, digits, all, placeholder]

theorem inert_nil : Inert [] :=
  ⟨trivial, rfl, rfl, rfl, rfl, rfl, by decide⟩

theorem followers_letters : ∀ word ∈ followers, ∃ k more, word = k :: more ∧
    isKeywordLetter k = true := by
  intro word member
  cases word with
  | nil => exact absurd member (by decide)
  | cons k more =>
      refine ⟨k, more, rfl, ?_⟩
      have all : followers.all (fun word => word.all isKeywordLetter) = true := by decide
      have letters := List.all_eq_true.1 (List.all_eq_true.1 all _ member)
      exact letters k (by simp)

/-- A text that begins with a character of no word is inert, unless that character has a meaning. -/
theorem inert_of_stops {c : Char} {rest : List Char} (stops : isWord c = false)
    (mark : c ≠ '-' ∧ c ≠ '?' ∧ c ≠ '$' ∧ c ≠ ':' ∧ c ≠ ',' ∧ c ≠ '(' ∧ c ≠ ')') :
    Inert (c :: rest) := by
  refine inert_of_head ?_ mark fun word member => ?_
  · cases digit : isDigit c with
    | false => rfl
    | true =>
        rw [isWord_of_isDigit digit] at stops
        cases stops
  · obtain ⟨k, more, rfl, letter⟩ := followers_letters word member
    exact Stops.keyword?_eq_none letter stops

theorem inert_of_isBlank {c : Char} {rest : List Char} (blank : isBlank c = true) :
    Inert (c :: rest) := by
  refine inert_of_stops (isWord_eq_false_of_isBlank blank) ?_
  refine ⟨?_, ?_, ?_, ?_, ?_, ?_, ?_⟩ <;> (rintro rfl; revert blank; decide)

theorem inert_dash : Inert ['-'] :=
  ⟨(by decide : isDigit '-' = false), by decide, by decide, by decide, by decide, by decide,
    by decide⟩

/-- A word that goes on with no follower, and with which no follower goes on. -/
def isHeadword (word : List Char) : Bool :=
  word.all isKeywordLetter && followers.all fun w => !(w.isPrefixOf word || word.isPrefixOf w)

/-- A text that begins with a keyword of its own is inert. -/
theorem inert_of_key {key word : List Char} (spelled : key.map foldKeyword = word)
    (headword : isHeadword word = true) (rest : List Char) : Inert (key ++ rest) := by
  simp only [isHeadword, Bool.and_eq_true, List.all_eq_true, Bool.not_eq_true',
    Bool.or_eq_false_iff] at headword
  obtain ⟨letters, apart⟩ := headword
  have mismatch : ∀ w ∈ followers, keyword? w (key ++ rest) = none := by
    intro w member
    cases read : keyword? w (key ++ rest) with
    | none => rfl
    | some after =>
        obtain ⟨key', spelled', split⟩ := keyword?_eq_some_iff.1 read
        obtain ⟨apart_left, apart_right⟩ := apart w member
        rcases List.append_eq_append_iff.1 split with ⟨more, rfl, -⟩ | ⟨more, rfl, -⟩
        · have isPrefix : word <+: w := by
            rw [← spelled, ← spelled', List.map_append]
            exact List.prefix_append _ _
          rw [List.isPrefixOf_iff_prefix.2 isPrefix] at apart_right
          cases apart_right
        · have isPrefix : w <+: word := by
            rw [← spelled, ← spelled', List.map_append]
            exact List.prefix_append _ _
          rw [List.isPrefixOf_iff_prefix.2 isPrefix] at apart_left
          cases apart_left
  cases key with
  | nil =>
      have apart_left := (apart "all".toList (by decide)).2
      rw [← spelled] at apart_left
      exact absurd apart_left (by decide)
  | cons c more =>
      have letter : isKeywordLetter (foldKeyword c) = true :=
        letters _ (by rw [← spelled]; simp)
      have is_word := isWord_of_foldKeyword letter
      refine inert_of_head (isDigit_eq_false_of_foldKeyword letter) ?_ mismatch
      refine ⟨?_, ?_, ?_, ?_, ?_, ?_, ?_⟩ <;> (rintro rfl; revert is_word; decide)

theorem isWord_of_key {key word : List Char} {k : Char} (spelled : key.map foldKeyword = k :: word)
    (letter : isKeywordLetter k = true) :
    ∃ c rest, key = c :: rest ∧ isWord c = true := by
  obtain ⟨c, rest, rfl, fold, -⟩ := exists_cons_of_map spelled
  exact ⟨c, rest, rfl, isWord_of_foldKeyword (by rw [fold]; exact letter)⟩

end QueryDesk.Sql
