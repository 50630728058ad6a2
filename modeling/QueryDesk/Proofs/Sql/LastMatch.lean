/-
Module: QueryDesk.Proofs.Sql.LastMatch
Purpose: The last match of a clause pattern outside of all parentheses as a split of the text: a front
  whose reading ends between two matches, a back at whose head the pattern matches, and nothing but
  clear text behind that match. A pattern is solo if no match of it begins inside of another one; the
  matches of a solo pattern are all the places where it matches.
Imports: QueryDesk.Proofs.Sql.TopLevel
Main exports: Quiet, skipThrough, LastAt, Solo, lastTopLevel?_eq_none_iff, lastTopLevel?_eq_some_iff,
  mem_topLevelHits_iff
-/
import QueryDesk.Proofs.Sql.TopLevel

namespace QueryDesk.Sql

open QueryDesk.Text

variable {pattern : Pattern} {letter : Char}

/-- A pattern matches nowhere in a part of a text, at no depth. -/
def Quiet (pattern : Pattern) : Option Char → List Char → List Char → Prop
  | _, [], _ => True
  | before, c :: rest, after =>
    pattern before (c :: (rest ++ after)) = none ∧ Quiet pattern (some c) rest after

theorem quiet_append (before : Option Char) (front middle back : List Char) :
    Quiet pattern before (front ++ middle) back ↔
      Quiet pattern before front (middle ++ back) ∧
        Quiet pattern (lastBefore before front) middle back := by
  induction front generalizing before with
  | nil => simp [Quiet, lastBefore]
  | cons c rest ih =>
      simp only [List.cons_append, Quiet, ih, lastBefore, List.append_assoc, and_assoc]

theorem Quiet.clearThrough {before : Option Char} {front back : List Char}
    (quiet : Quiet pattern before front back) (depth : Nat) :
    ClearThrough pattern depth before front back := by
  induction front generalizing depth before with
  | nil => trivial
  | cons c rest ih => exact ⟨fun _ => quiet.1, ih quiet.2 _⟩

/-- A clause begins at no word character that follows another one. -/
theorem Keyed.quiet_of_isWord (keyed : Keyed pattern letter) {before : Option Char}
    {text : List Char} (inside : wordBegins before = false)
    (words : ∀ c ∈ text, isWord c = true) (after : List Char) :
    Quiet pattern before text after := by
  induction text generalizing before with
  | nil => trivial
  | cons c rest ih =>
      refine ⟨?_, ih ?_ fun d member => words d (by simp [member])⟩
      · cases matched : pattern before (c :: (rest ++ after)) with
        | none => rfl
        | some found =>
            rw [(keyed.begins matched).1] at inside
            cases inside
      · simp [wordBegins, words c (by simp)]

/-- A clause begins at no character but its first letter. -/
theorem Keyed.quiet_of_other (keyed : Keyed pattern letter) {text : List Char}
    (others : ∀ c ∈ text, foldKeyword c ≠ letter) (before : Option Char) (after : List Char) :
    Quiet pattern before text after := by
  induction text generalizing before with
  | nil => trivial
  | cons c rest ih =>
      refine ⟨?_, ih (fun d member => others d (by simp [member])) _⟩
      cases matched : pattern before (c :: (rest ++ after)) with
      | none => rfl
      | some found =>
          obtain ⟨-, d, more, same, fold⟩ := keyed.begins matched
          cases same
          exact absurd fold (others c (by simp))

/-- A clause begins nowhere in another keyword. -/
theorem Keyed.quiet_key (keyed : Keyed pattern letter) {key word : List Char} {first : Char}
    (spelled : key.map foldKeyword = first :: word)
    (letters : (first :: word).all isKeywordLetter = true) (other : first ≠ letter)
    (before : Option Char) (after : List Char) : Quiet pattern before key after := by
  cases key with
  | nil => cases spelled
  | cons c rest =>
      have words : ∀ d ∈ c :: rest, isWord d = true := by
        intro d member
        refine isWord_of_foldKeyword (List.all_eq_true.1 letters _ ?_)
        rw [← spelled]
        exact List.mem_map_of_mem member
      have head : Quiet pattern before [c] (rest ++ after) :=
        keyed.quiet_of_other (by simpa [← (List.cons.inj spelled).1] using other) before _
      refine ⟨head.1, keyed.quiet_of_isWord ?_ (fun d member => words d (by simp [member])) after⟩
      simp [wordBegins, words c (by simp)]

theorem Keyed.fold_ne_of_isBlank (keyed : Keyed pattern letter) {c : Char}
    (blank : isBlank c = true) : foldKeyword c ≠ letter := by
  intro fold
  have word : isWord c = true := isWord_of_foldKeyword (by rw [fold]; exact keyed.isLetter)
  rw [isWord_eq_false_of_isBlank blank] at word
  cases word

theorem Keyed.fold_ne_of_isDigit (keyed : Keyed pattern letter) {c : Char}
    (digit : isDigit c = true) : foldKeyword c ≠ letter := by
  intro fold
  rw [isDigit_eq_false_of_foldKeyword (by rw [fold]; exact keyed.isLetter)] at digit
  cases digit

/-- A clause begins at no blank. -/
theorem Keyed.quiet_of_isBlank (keyed : Keyed pattern letter) {gap : List Char}
    (blank : ∀ c ∈ gap, isBlank c = true) (before : Option Char) (after : List Char) :
    Quiet pattern before gap after :=
  keyed.quiet_of_other (fun c member => keyed.fold_ne_of_isBlank (blank c member)) before after

/-- A clause begins at no digit. -/
theorem Keyed.quiet_of_isDigit (keyed : Keyed pattern letter) {digits : List Char}
    (all : ∀ c ∈ digits, isDigit c = true) (before : Option Char) (after : List Char) :
    Quiet pattern before digits after :=
  keyed.quiet_of_other (fun c member => keyed.fold_ne_of_isDigit (all c member)) before after

/-- Whether no word of a text begins with a letter. -/
def startsNowhere (letter : Char) : Option Char → List Char → Bool
  | _, [] => true
  | before, c :: rest =>
    !(wordBegins before && foldKeyword c == letter) && startsNowhere letter (some c) rest

/-- A clause does not begin in a text of which no word begins with its letter. -/
theorem Keyed.quiet_of_startsNowhere (keyed : Keyed pattern letter) {text : List Char}
    (nowhere : startsNowhere letter none text = true) (before : Option Char) (after : List Char) :
    Quiet pattern before text after := by
  have general : ∀ (text : List Char) (before' : Option Char),
      startsNowhere letter before' text = true →
      (wordBegins before = true → wordBegins before' = true) → Quiet pattern before text after := by
    intro text
    induction text generalizing before with
    | nil => exact fun _ _ _ => trivial
    | cons c rest ih =>
        intro before' nowhere fewer
        simp only [startsNowhere, Bool.and_eq_true, Bool.not_eq_true', Bool.and_eq_false_iff] at nowhere
        refine ⟨?_, ih (some c) (some c) nowhere.2 fun starts => starts⟩
        cases matched : pattern before (c :: (rest ++ after)) with
        | none => rfl
        | some found =>
            obtain ⟨begins, d, more, same, fold⟩ := keyed.begins matched
            cases same
            rcases nowhere.1 with none | other
            · rw [fewer begins] at none
              cases none
            · rw [fold, beq_self_eq_true] at other
              cases other
  exact general text none nowhere fun _ => rfl

/-- How many characters behind a front belong to the last match that begins in it. -/
def skipThrough (pattern : Pattern) : Nat → Option Char → List Char → List Char → Nat
  | skip, _, [], _ => skip
  | left + 1, _, c :: rest, back => skipThrough pattern left (some c) rest back
  | 0, before, c :: rest, back =>
    match pattern before (c :: (rest ++ back)) with
    | some found => skipThrough pattern (found.length - 1) (some c) rest back
    | none => skipThrough pattern 0 (some c) rest back

/-- The matches in a text are those that begin in a front, and those behind it. -/
theorem exists_topFrom_append (depth position skip : Nat)
    (before : Option Char) (front back : List Char) :
    ∃ earlier, topFrom pattern depth position skip before (front ++ back) =
      earlier ++ topFrom pattern (depthAfter depth front) (position + front.length)
        (skipThrough pattern skip before front back) (lastBefore before front) back := by
  induction front generalizing depth position skip before with
  | nil => exact ⟨[], rfl⟩
  | cons c rest ih =>
      have place : position + (c :: rest).length = position + 1 + rest.length := by
        simp only [List.length_cons]
        omega
      rw [List.cons_append, place]
      cases skip with
      | succ left => exact ih (depthStep depth c) (position + 1) left (some c)
      | zero =>
          rw [topFrom, skipThrough]
          cases pattern before (c :: (rest ++ back)) with
          | none => exact ih (depthStep depth c) (position + 1) 0 (some c)
          | some found =>
              obtain ⟨earlier, later⟩ :=
                ih (depthStep depth c) (position + 1) (found.length - 1) (some c)
              refine ⟨(if ownDepth depth c = 0 then [found.at position] else []) ++ earlier, ?_⟩
              simp only [later, depthAfter, lastBefore, List.append_assoc]

/-- Characters of the last match are passed over. -/
theorem topFrom_skip (depth position skip : Nat) (before : Option Char) (text : List Char) :
    topFrom pattern depth position skip before text =
      topFrom pattern (depthAfter depth (text.take skip)) (position + skip) 0
        (lastBefore before (text.take skip)) (text.drop skip) := by
  induction skip generalizing depth position before text with
  | zero => rfl
  | succ left ih =>
      cases text with
      | nil => rfl
      | cons c rest =>
          have later := ih (depthStep depth c) (position + 1) (some c) rest
          rw [show position + (left + 1) = position + 1 + left by omega]
          exact later

/-- A match outside of all parentheses splits the text at its place. -/
theorem exists_split_of_mem (keyed : Keyed pattern letter) {depth position skip : Nat}
    {before : Option Char} {text : List Char} {hit : Hit}
    (member : hit ∈ topFrom pattern depth position skip before text) :
    ∃ front back found, text = front ++ back ∧ depthAfter depth front = 0 ∧
      pattern (lastBefore before front) back = some found ∧
      hit = found.at (position + front.length) := by
  induction text generalizing depth position skip before with
  | nil => cases member
  | cons c rest ih =>
      have extend : ∀ {skip' : Nat},
          hit ∈ topFrom pattern (depthStep depth c) (position + 1) skip' (some c) rest →
          ∃ front back found, c :: rest = front ++ back ∧ depthAfter depth front = 0 ∧
            pattern (lastBefore before front) back = some found ∧
            hit = found.at (position + front.length) := by
        intro skip' later
        obtain ⟨front, back, found, split, flat, matched, place⟩ := ih later
        refine ⟨c :: front, back, found, by rw [split]; rfl, flat, matched, ?_⟩
        rw [place]
        simp only [List.length_cons]
        congr 1
        omega
      cases skip with
      | succ left => exact extend member
      | zero =>
          cases matched : pattern before (c :: rest) with
          | none =>
              simp only [topFrom, matched] at member
              exact extend member
          | some found =>
              simp only [topFrom, matched, keyed.ownDepth_eq matched, List.mem_append] at member
              rcases member with here | later
              · split_ifs at here with top
                · subst top
                  exact ⟨[], c :: rest, found, rfl, rfl, matched, List.mem_singleton.1 here⟩
                · cases here
              · exact extend later

/-! ### The last match

The matches are a list that is collected along the text. Its last element is a match behind which no other
one is collected, and so a split of the text at it, with clear text behind. Both directions are shown by
following the text along. -/

/-- A split of a text at the last match of a pattern outside of all parentheses. -/
structure LastAt (pattern : Pattern) (front back : List Char) (found : Match) : Prop where
  depth : depthAfter 0 front = 0
  reached : skipThrough pattern 0 none front back = 0
  matched : pattern (lastBefore none front) back = some found
  clear : Clear pattern (depthAfter 0 (back.take found.length))
    (lastBefore (lastBefore none front) (back.take found.length)) (back.drop found.length)

/-- A match that is the last one of a text that is read on from a place, as a split of the text. -/
private def SplitAt (pattern : Pattern) (depth position skip : Nat) (before : Option Char)
    (text : List Char) (hit : Hit) : Prop :=
  ∃ front back found, text = front ++ back ∧ depthAfter depth front = 0 ∧
    skipThrough pattern skip before front back = 0 ∧
    pattern (lastBefore before front) back = some found ∧
    Clear pattern (depthAfter 0 (back.take found.length))
      (lastBefore (lastBefore before front) (back.take found.length)) (back.drop found.length) ∧
    hit = found.at (position + front.length)

private theorem SplitAt.cons {depth position skip skip' : Nat} {before : Option Char} {c : Char}
    {rest : List Char} {hit : Hit}
    (later : SplitAt pattern (depthStep depth c) (position + 1) skip' (some c) rest hit)
    (step : ∀ front back, rest = front ++ back →
      skipThrough pattern skip before (c :: front) back = skipThrough pattern skip' (some c) front back) :
    SplitAt pattern depth position skip before (c :: rest) hit := by
  obtain ⟨front, back, found, split, flat, reached, matched, clear, place⟩ := later
  refine ⟨c :: front, back, found, by rw [split]; rfl, flat, ?_, matched, clear, ?_⟩
  · rw [step front back split, reached]
  · rw [place]
    simp only [List.length_cons]
    congr 1
    omega

private theorem exists_split_of_getLast? (keyed : Keyed pattern letter) {depth position skip : Nat}
    {before : Option Char} {text : List Char} {hit : Hit}
    (last : (topFrom pattern depth position skip before text).getLast? = some hit) :
    SplitAt pattern depth position skip before text hit := by
  induction text generalizing depth position skip before with
  | nil => cases last
  | cons c rest ih =>
      cases skip with
      | succ left => exact (ih last).cons fun _ _ _ => rfl
      | zero =>
          cases matched : pattern before (c :: rest) with
          | none =>
              simp only [topFrom, matched] at last
              refine (ih last).cons fun front back split => ?_
              simp only [skipThrough, ← split, matched]
          | some found =>
              simp only [topFrom, matched, keyed.ownDepth_eq matched] at last
              rw [List.getLast?_append] at last
              cases later : (topFrom pattern (depthStep depth c) (position + 1)
                  (found.length - 1) (some c) rest).getLast? with
              | some final =>
                  rw [later] at last
                  cases last
                  refine (ih later).cons fun front back split => ?_
                  simp only [skipThrough, ← split, matched]
              | none =>
                  rw [later] at last
                  have top : depth = 0 := by
                    by_contra deep
                    simp [deep] at last
                  subst top
                  obtain ⟨less, length⟩ : ∃ less, found.length = less + 1 :=
                    ⟨found.length - 1, by have := (keyed.extent matched).1; omega⟩
                  refine ⟨[], c :: rest, found, rfl, rfl, rfl, matched, ?_, ?_⟩
                  · rw [List.getLast?_eq_none_iff, topFrom_skip] at later
                    rw [length] at later ⊢
                    exact clear_of_topFrom_eq_nil keyed later (.inl rfl)
                  · simpa [eq_comm] using last

/-- There is no match outside of all parentheses in a clear text, and only there. -/
theorem lastTopLevel?_eq_none_iff (keyed : Keyed pattern letter) {masked : List Char} :
    lastTopLevel? pattern masked = none ↔ Clear pattern 0 none masked := by
  rw [lastTopLevel?, topLevelHits_eq_topFrom, List.getLast?_eq_none_iff]
  exact ⟨fun empty => clear_of_topFrom_eq_nil keyed empty (.inl rfl),
    fun clear => topFrom_eq_nil_of_clear keyed 0 0 clear⟩

/-- The last match outside of all parentheses, as a split of the text. -/
theorem lastTopLevel?_eq_some_iff (keyed : Keyed pattern letter) {masked : List Char} {hit : Hit} :
    lastTopLevel? pattern masked = some hit ↔
      ∃ front back found, masked = front ++ back ∧ LastAt pattern front back found ∧
        hit = found.at front.length := by
  rw [lastTopLevel?, topLevelHits_eq_topFrom]
  constructor
  · intro last
    obtain ⟨front, back, found, split, flat, reached, matched, clear, place⟩ :=
      exists_split_of_getLast? keyed last
    exact ⟨front, back, found, split, ⟨flat, reached, matched, clear⟩, by simpa using place⟩
  · rintro ⟨front, back, found, rfl, last, rfl⟩
    obtain ⟨earlier, later⟩ := @exists_topFrom_append pattern 0 0 0 none front back
    rw [later, last.reached, last.depth]
    cases back with
    | nil =>
        have none_here := keyed.nil (lastBefore none front)
        rw [last.matched] at none_here
        cases none_here
    | cons c rest =>
        obtain ⟨less, length⟩ : ∃ less, found.length = less + 1 :=
          ⟨found.length - 1, by have := (keyed.extent last.matched).1; omega⟩
        have clear := last.clear
        rw [length, List.take_succ_cons, List.drop_succ_cons] at clear
        have behind : topFrom pattern (depthStep 0 c) (front.length + 1) (found.length - 1)
            (some c) rest = [] := by
          rw [topFrom_skip, length]
          exact topFrom_eq_nil_of_clear keyed _ _ clear
        rw [topFrom, last.matched]
        simp only [keyed.ownDepth_eq last.matched, if_true, Nat.zero_add, behind, List.append_nil]
        rw [List.getLast?_append]
        rfl

/-- The first match outside of all parentheses splits the text at its place. -/
theorem exists_split_of_firstTopLevel? {masked : List Char} {hit : Hit}
    (first : firstTopLevel? pattern masked = some hit) (keyed : Keyed pattern letter) :
    ∃ front back found, masked = front ++ back ∧ depthAfter 0 front = 0 ∧
      pattern (lastBefore none front) back = some found ∧ hit = found.at front.length := by
  rw [firstTopLevel?, topLevelHits_eq_topFrom] at first
  obtain ⟨front, back, found, split, flat, matched, place⟩ :=
    exists_split_of_mem keyed (List.mem_of_head? first)
  exact ⟨front, back, found, split, flat, matched, by simpa using place⟩

/-- A match begins with the letter of its pattern. -/
theorem Keyed.fold_of_mem (keyed : Keyed pattern letter) {masked : List Char} {hit : Hit}
    (member : hit ∈ topLevelHits pattern masked) :
    ∃ c, masked[hit.start]? = some c ∧ foldKeyword c = letter := by
  rw [topLevelHits_eq_topFrom] at member
  obtain ⟨front, back, found, rfl, -, matched, rfl⟩ := exists_split_of_mem keyed member
  obtain ⟨-, c, rest, rfl, fold⟩ := keyed.begins matched
  exact ⟨c, by simp [Match.at], fold⟩

/-- No match of the pattern begins inside of another one. -/
def Solo (pattern : Pattern) : Prop :=
  ∀ {before c rest found}, pattern before (c :: rest) = some found →
    Quiet pattern (some c) (rest.take (found.length - 1)) (rest.drop (found.length - 1))

/-- Every match of a solo pattern outside of all parentheses is collected. -/
theorem Solo.mem_topFrom (solo : Solo pattern) (keyed : Keyed pattern letter)
    (depth position skip : Nat) {before : Option Char} {front back : List Char} {found : Match}
    (quiet : Quiet pattern before ((front ++ back).take skip) ((front ++ back).drop skip))
    (flat : depthAfter depth front = 0)
    (matched : pattern (lastBefore before front) back = some found) :
    found.at (position + front.length) ∈ topFrom pattern depth position skip before (front ++ back) := by
  induction front generalizing depth position skip before with
  | nil =>
      cases back with
      | nil => simp [lastBefore, keyed.nil] at matched
      | cons c rest =>
          cases skip with
          | succ left =>
              have silent := quiet.1
              rw [List.nil_append, List.drop_succ_cons, List.take_append_drop] at silent
              rw [lastBefore, silent] at matched
              cases matched
          | zero =>
              rw [lastBefore] at matched
              rw [depthAfter] at flat
              simp [topFrom, matched, keyed.ownDepth_eq matched, flat]
  | cons c rest ih =>
      have place : position + (c :: rest).length = position + 1 + rest.length := by
        simp only [List.length_cons]
        omega
      rw [place, List.cons_append]
      cases skip with
      | succ left => exact ih _ _ left quiet.2 flat matched
      | zero =>
          rw [topFrom]
          cases here : pattern before (c :: (rest ++ back)) with
          | none => exact ih _ _ 0 trivial flat matched
          | some found' => exact List.mem_append_right _ (ih _ _ _ (solo here) flat matched)

/-- The matches of a solo pattern outside of all parentheses are the places at which it matches. -/
theorem Solo.mem_topLevelHits_iff (solo : Solo pattern) (keyed : Keyed pattern letter)
    {masked : List Char} {hit : Hit} :
    hit ∈ topLevelHits pattern masked ↔
      ∃ front back found, masked = front ++ back ∧ depthAfter 0 front = 0 ∧
        pattern (lastBefore none front) back = some found ∧ hit = found.at front.length := by
  rw [topLevelHits_eq_topFrom]
  constructor
  · intro member
    obtain ⟨front, back, found, split, flat, matched, place⟩ := exists_split_of_mem keyed member
    exact ⟨front, back, found, split, flat, matched, by simpa using place⟩
  · rintro ⟨front, back, found, rfl, flat, matched, rfl⟩
    simpa using solo.mem_topFrom keyed 0 0 0 (by trivial) flat matched

theorem clearThrough_iff {depth : Nat} {before : Option Char} {front back : List Char} :
    ClearThrough pattern depth before front back ↔
      ∀ init c rest, front = init ++ c :: rest → depthAfter depth init = 0 →
        pattern (lastBefore before init) (c :: (rest ++ back)) = none := by
  induction front generalizing depth before with
  | nil => simp [ClearThrough]
  | cons d more ih =>
      rw [ClearThrough, ih]
      constructor
      · rintro ⟨head, later⟩ init c rest split flat
        cases init with
        | nil =>
            cases split
            exact head flat
        | cons e init =>
            cases split
            exact later init c rest rfl flat
      · intro all
        exact ⟨all [] d more rfl, fun init c rest split => all (d :: init) c rest (by rw [split]; rfl)⟩

/-- A front is clear if no match of a solo pattern begins in it. -/
theorem Solo.clearThrough_iff (solo : Solo pattern) (keyed : Keyed pattern letter)
    {front back : List Char} :
    ClearThrough pattern 0 none front back ↔
      ∀ hit ∈ topLevelHits pattern (front ++ back), front.length ≤ hit.start := by
  rw [QueryDesk.Sql.clearThrough_iff]
  constructor
  · intro clear hit member
    obtain ⟨front', back', found, split, flat, matched, rfl⟩ :=
      (solo.mem_topLevelHits_iff keyed).1 member
    rcases List.append_eq_append_iff.1 split with ⟨more, rfl, -⟩ | ⟨more, rfl, rfl⟩
    · simp [Match.at]
    · cases more with
      | nil => simp [Match.at]
      | cons c rest =>
          rw [List.cons_append, clear front' c rest rfl flat] at matched
          cases matched
  · intro behind init c rest split flat
    cases matched : pattern (lastBefore none init) (c :: (rest ++ back)) with
    | none => rfl
    | some found =>
        have late := behind _ ((solo.mem_topLevelHits_iff keyed).2
          ⟨init, c :: (rest ++ back), found, by rw [split]; simp, flat, matched, rfl⟩)
        rw [split] at late
        simp only [Match.at, List.length_append, List.length_cons] at late
        omega

/-- A back is clear if no match of a solo pattern begins in it. -/
theorem Solo.clear_iff (solo : Solo pattern) (keyed : Keyed pattern letter) {front back : List Char} :
    Clear pattern (depthAfter 0 front) (lastBefore none front) back ↔
      ∀ hit ∈ topLevelHits pattern (front ++ back), hit.start < front.length := by
  rw [Clear, QueryDesk.Sql.clearThrough_iff]
  constructor
  · intro clear hit member
    obtain ⟨front', back', found, split, flat, matched, rfl⟩ :=
      (solo.mem_topLevelHits_iff keyed).1 member
    rcases Nat.lt_or_ge front'.length front.length with early | late
    · exact early
    · obtain ⟨more, rfl⟩ := List.prefix_of_prefix_length_le (List.prefix_append front back)
        (split ▸ List.prefix_append front' back') late
      rw [List.append_assoc, List.append_cancel_left_eq] at split
      cases back' with
      | nil => simp [keyed.nil] at matched
      | cons c rest =>
          rw [depthAfter_append] at flat
          have silent := clear more c rest split flat
          rw [List.append_nil, ← lastBefore_append, matched] at silent
          cases silent
  · intro before init c rest split flat
    rw [List.append_nil]
    cases matched : pattern (lastBefore (lastBefore none front) init) (c :: rest) with
    | none => rfl
    | some found =>
        have early := before _ ((solo.mem_topLevelHits_iff keyed).2
          ⟨front ++ init, c :: rest, found, by rw [split]; simp,
            by rw [depthAfter_append, flat], by rw [lastBefore_append, matched], rfl⟩)
        simp only [Match.at, List.length_append] at early
        omega

/-- Where no word can begin, the first character does not matter to a clear text. -/
theorem clear_cons_of_not_begins (keyed : Keyed pattern letter) {depth : Nat} {before : Option Char}
    (inside : wordBegins before = false) (c : Char) (rest : List Char) :
    Clear pattern depth before (c :: rest) ↔ Clear pattern (depthStep depth c) (some c) rest := by
  rw [clear_cons]
  refine ⟨fun clear => clear.2, fun clear => ⟨fun _ => ?_, clear⟩⟩
  cases matched : pattern before (c :: rest) with
  | none => rfl
  | some found =>
      rw [(keyed.begins matched).1] at inside
      cases inside

/-- A front is read up to its end if a solo pattern matches there. -/
theorem Solo.skipThrough_eq_zero (solo : Solo pattern) (keyed : Keyed pattern letter) {skip : Nat}
    {before : Option Char} {front back : List Char} {found : Match}
    (quiet : Quiet pattern before ((front ++ back).take skip) ((front ++ back).drop skip))
    (matched : pattern (lastBefore before front) back = some found) :
    skipThrough pattern skip before front back = 0 := by
  induction front generalizing skip before with
  | nil =>
      cases skip with
      | zero => rfl
      | succ left =>
          cases back with
          | nil => simp [lastBefore, keyed.nil] at matched
          | cons c rest =>
              have silent := quiet.1
              rw [List.nil_append, List.drop_succ_cons, List.take_append_drop] at silent
              rw [lastBefore, silent] at matched
              cases matched
  | cons c rest ih =>
      cases skip with
      | succ left => exact ih quiet.2 matched
      | zero =>
          rw [skipThrough]
          cases here : pattern before (c :: (rest ++ back)) with
          | none => exact @ih 0 (some c) trivial matched
          | some found' => exact ih (solo here) matched

/-- The last match of a solo pattern is the last one behind another front, too. -/
theorem LastAt.move (solo : Solo pattern) (keyed : Keyed pattern letter) {front front' back : List Char}
    {found : Match} (last : LastAt pattern front back found) (depth : depthAfter 0 front' = 0)
    (begins : wordBegins (lastBefore none front') = true) : LastAt pattern front' back found := by
  have same := begins.trans (keyed.begins last.matched).1.symm
  have matched : pattern (lastBefore none front') back = some found := by
    rw [keyed.context same, last.matched]
  refine ⟨depth, @Solo.skipThrough_eq_zero _ _ solo keyed 0 none front' back found trivial matched,
    matched, ?_⟩
  have clear := last.clear
  have size := keyed.extent matched
  cases taken : back.take found.length with
  | nil =>
      have none_taken := congrArg List.length taken
      simp only [List.length_take, List.length_nil] at none_taken
      omega
  | cons c rest =>
      rw [taken] at clear
      exact clear

end QueryDesk.Sql
