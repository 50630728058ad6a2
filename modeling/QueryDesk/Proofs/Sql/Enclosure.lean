/-
Module: QueryDesk.Proofs.Sql.Enclosure
Purpose: Depth zero means outside of every pair of parentheses. Reading one character on closes at most the
  last parenthesis that is open and opens at most one, so the depth of a character is the number of the
  opening parentheses before it that no closing one up to it has matched, whatever the text. If every
  parenthesis has its partner, this is the number of the pairs around the character, and what is kept of the
  matches of a pattern are those that begin in no pair.
Imports: QueryDesk.Proofs.Sql.Parenthesis
Main exports: stillOpen, depthAfter_take, getElem?_depths, enclosing, Paired.card_enclosing, Scans,
  scans_iff, depths_count_pairs
-/
import Mathlib.Data.Finset.Card
import Mathlib.Data.Finset.Prod
import QueryDesk.Proofs.Sql.Parenthesis

namespace QueryDesk.Sql

variable {pattern : Pattern} {text masked : List Char} {place : Nat} {c : Char}

/-- The opening parentheses before a place that no closing one before a reach has matched. -/
def stillOpen (text : List Char) (place reach : Nat) : Finset Nat :=
  (Finset.range place).filter fun opening =>
    text[opening]? = some '(' ∧ ∀ closing < reach, ¬ Matched text opening closing

theorem mem_stillOpen {opening reach : Nat} :
    opening ∈ stillOpen text place reach ↔
      opening < place ∧ text[opening]? = some '(' ∧ ∀ closing < reach, ¬ Matched text opening closing := by
  rw [stillOpen, Finset.mem_filter, Finset.mem_range]

/-- A closing parenthesis closes the opening one that it matches, and only that one. -/
theorem stillOpen_of_matched {opening : Nat} (pair : Matched text opening place) :
    stillOpen text place (place + 1) = (stillOpen text place place).erase opening := by
  ext other
  simp only [Finset.mem_erase, mem_stillOpen, Nat.forall_lt_succ_right]
  constructor
  · rintro ⟨before, opens, free, last⟩
    exact ⟨fun same => last (same ▸ pair), before, opens, free⟩
  · rintro ⟨apart, before, opens, free⟩
    exact ⟨before, opens, free, fun pair' => apart (pair'.opening_unique pair)⟩

/-- A character that closes no pair closes nothing. -/
theorem stillOpen_of_unmatched (free : ∀ opening, ¬ Matched text opening place) :
    stillOpen text place (place + 1) = stillOpen text place place := by
  ext opening
  simp only [mem_stillOpen, Nat.forall_lt_succ_right]
  exact and_congr_right fun _ => and_congr_right fun _ => and_iff_left (free opening)

/-- An opening parenthesis is open from the next place on. -/
theorem stillOpen_succ_of_opening (here : text[place]? = some '(') :
    stillOpen text (place + 1) (place + 1) = insert place (stillOpen text place (place + 1)) := by
  ext opening
  simp only [Finset.mem_insert, mem_stillOpen, Nat.lt_succ_iff_lt_or_eq]
  constructor
  · rintro ⟨before | rfl, opens, free⟩
    · exact .inr ⟨before, opens, free⟩
    · exact .inl rfl
  · rintro (rfl | ⟨before, opens, free⟩)
    · refine ⟨.inr rfl, here, ?_⟩
      rintro closing (before | rfl) pair
      · exact Nat.lt_asymm before pair.ordered
      · exact Nat.lt_irrefl _ pair.ordered
    · exact ⟨.inl before, opens, free⟩

/-- Any other character opens nothing. -/
theorem stillOpen_succ_of_ne (other : text[place]? ≠ some '(') :
    stillOpen text (place + 1) (place + 1) = stillOpen text place (place + 1) := by
  ext opening
  simp only [mem_stillOpen]
  refine ⟨fun ⟨before, opens, free⟩ => ⟨?_, opens, free⟩, fun ⟨before, opens, free⟩ => ⟨?_, opens, free⟩⟩
  · exact Nat.lt_of_le_of_ne (Nat.le_of_lt_succ before) fun same => other (same ▸ opens)
  · exact Nat.lt_succ_of_lt before

/-! ### The depth counts them

The depth is a number that is read along the text, and the open parentheses are a set of places. Their count
takes the same step at every character: a closing parenthesis takes away the last one that is open, if any
is, and an opening one adds itself. -/

/-- What is closed at a place: the character has the depth that is left. -/
theorem card_stillOpen_of_here (here : text[place]? = some c)
    (counts : depthAfter 0 (text.take place) = (stillOpen text place place).card) :
    (stillOpen text place (place + 1)).card = ownDepth (depthAfter 0 (text.take place)) c := by
  by_cases closed : ∃ opening, Matched text opening place
  · obtain ⟨opening, pair⟩ := closed
    obtain rfl : c = ')' := Option.some.inj (here.symm.trans pair.closes)
    have open_before : opening ∈ stillOpen text place place := by
      rw [mem_stillOpen]
      exact ⟨pair.ordered, pair.opens, fun closing before pair' =>
        Nat.ne_of_lt before (pair'.closing_unique pair)⟩
    rw [stillOpen_of_matched pair, Finset.card_erase_of_mem open_before, ← counts]
    rfl
  · rw [not_exists] at closed
    rw [stillOpen_of_unmatched closed, ← counts]
    by_cases closing : c = ')'
    · -- A closing parenthesis without a partner stands at the depth zero, and is not counted.
      subst closing
      cases level : depthAfter 0 (text.take place) with
      | zero => rfl
      | succ depth =>
        obtain ⟨opening, pair⟩ := exists_matched here level
        exact absurd pair (closed opening)
    · rw [ownDepth, if_neg (by simpa using closing)]

/-- The depth behind a character is its own one, or one more behind an opening parenthesis. -/
theorem depthStep_eq (depth : Nat) (c : Char) :
    depthStep depth c = ownDepth depth c + if c = '(' then 1 else 0 := by
  by_cases opening : c = '('
  · subst opening
    rfl
  · simp [depthStep, ownDepth, opening]

/-- One step of the reading keeps the count. -/
theorem card_stillOpen_succ (here : text[place]? = some c)
    (counts : depthAfter 0 (text.take place) = (stillOpen text place place).card) :
    depthStep (depthAfter 0 (text.take place)) c = (stillOpen text (place + 1) (place + 1)).card := by
  rw [depthStep_eq, ← card_stillOpen_of_here here counts]
  by_cases opening : c = '('
  · subst opening
    have fresh : place ∉ stillOpen text place (place + 1) := fun member =>
      Nat.lt_irrefl place (mem_stillOpen.1 member).1
    rw [stillOpen_succ_of_opening here, Finset.card_insert_of_notMem fresh, if_pos rfl]
  · have other : text[place]? ≠ some '(' := by rwa [here, Ne, Option.some_inj]
    rw [stillOpen_succ_of_ne other, if_neg opening, Nat.add_zero]

/-- The depth behind a part of a text is the number of the parentheses that are open there. -/
theorem depthAfter_take (inside : place ≤ text.length) :
    depthAfter 0 (text.take place) = (stillOpen text place place).card := by
  induction place with
  | zero => rfl
  | succ place ih =>
    have here := List.getElem?_eq_getElem inside
    rw [List.take_succ_eq_append_getElem inside, depthAfter_append]
    exact card_stillOpen_succ here (ih (Nat.le_of_succ_le inside))

theorem length_depthsFrom (depth : Nat) (text : List Char) :
    (depthsFrom depth text).length = text.length := by
  induction text generalizing depth with
  | nil => rfl
  | cons c rest ih => rw [depthsFrom_cons, List.length_cons, ih, List.length_cons]

/-- The depth of a character is the number of the opening parentheses before it that no closing one up to it
has matched. -/
theorem getElem?_depths (inside : place < text.length) :
    (depths text)[place]? = some (stillOpen text place (place + 1)).card := by
  have here := List.getElem?_eq_getElem inside
  have entry := getElem?_depthsFrom 0 (text.take place) text[place] (text.drop (place + 1))
  rw [← List.drop_eq_getElem_cons inside, List.take_append_drop, List.length_take_of_le inside.le] at entry
  rw [card_stillOpen_of_here here (depthAfter_take inside.le)]
  exact entry

example : depths ")(()".toList = [0, 0, 1, 1] := by decide

/-- The matched pairs around a place. -/
def enclosing (text : List Char) (place : Nat) : Finset (Nat × Nat) :=
  (Finset.range text.length ×ˢ Finset.range text.length).filter fun pair =>
    Matched text pair.1 pair.2 ∧ pair.1 < place ∧ place < pair.2

theorem mem_enclosing {pair : Nat × Nat} :
    pair ∈ enclosing text place ↔ Matched text pair.1 pair.2 ∧ pair.1 < place ∧ place < pair.2 := by
  rw [enclosing, Finset.mem_filter, Finset.mem_product, Finset.mem_range, Finset.mem_range,
    and_iff_right_iff_imp]
  rintro ⟨matched, -⟩
  have inside := (List.getElem?_eq_some_iff.1 matched.closes).1
  exact ⟨matched.ordered.trans inside, inside⟩

/-- If every opening parenthesis has its partner, those that are open at a place are those of the pairs
around it. -/
theorem Paired.image_enclosing (paired : Paired text) :
    (enclosing text place).image Prod.fst = stillOpen text place (place + 1) := by
  ext opening
  simp only [Finset.mem_image, mem_enclosing, mem_stillOpen]
  constructor
  · rintro ⟨⟨opening, closing⟩, ⟨matched, before, behind⟩, rfl⟩
    refine ⟨before, matched.opens, fun closing' reached matched' => ?_⟩
    have same := matched'.closing_unique matched
    omega
  · rintro ⟨before, opens, free⟩
    obtain ⟨closing, matched⟩ := paired.opened opening opens
    have behind : place < closing := Nat.lt_of_not_le fun reached =>
      free closing (Nat.lt_succ_of_le reached) matched
    exact ⟨⟨opening, closing⟩, ⟨matched, before, behind⟩, rfl⟩

theorem Paired.card_enclosing (paired : Paired text) :
    (enclosing text place).card = (stillOpen text place (place + 1)).card := by
  rw [← paired.image_enclosing, Finset.card_image_of_injOn]
  intro pair member pair' member' same
  have matched := (mem_enclosing.1 member).1
  have matched' := (mem_enclosing.1 member').1
  exact Prod.ext same (matched.closing_unique (same ▸ matched'))

/-- A place has depth zero if it is in no pair. -/
theorem Paired.isTopLevel_eq (paired : Paired masked) (inside : place < masked.length) :
    isTopLevel masked place = decide (enclosing masked place = ∅) := by
  rw [isTopLevel, getElem?_depths inside, ← paired.card_enclosing, Bool.eq_iff_iff, beq_iff_eq,
    Option.some_inj, Finset.card_eq_zero, decide_eq_true_eq]

/-- The match of a pattern at a place of a text. -/
def matchAt? (pattern : Pattern) (text : List Char) (place : Nat) : Option Match :=
  pattern (text.take place).getLast? (text.drop place)

/-- A pattern is scanned from a start on: the next match is the one at the first place at which there is any,
and the scan goes on behind it, or one character further on if the match is empty. -/
inductive Scans (pattern : Pattern) (text : List Char) : Nat → List Hit → Prop where
  | done {start : Nat}
      (silent : ∀ place, start ≤ place → place < text.length → matchAt? pattern text place = none) :
      Scans pattern text start []
  | next {start place : Nat} {found : Match} {later : List Hit} (reached : start ≤ place)
      (inside : place < text.length)
      (silent : ∀ earlier, start ≤ earlier → earlier < place → matchAt? pattern text earlier = none)
      (matched : matchAt? pattern text place = some found)
      (behind : Scans pattern text (place + max 1 found.length) later) :
      Scans pattern text start (found.at place :: later)

/-- A place without a match makes no difference to the scan. -/
theorem Scans.of_succ {start : Nat} {found : List Hit} (none_here : matchAt? pattern text start = none)
    (scan : Scans pattern text (start + 1) found) : Scans pattern text start found := by
  have silent_from {place : Nat} (reached : start ≤ place)
      (silent : start + 1 ≤ place → matchAt? pattern text place = none) :
      matchAt? pattern text place = none := by
    rcases Nat.eq_or_lt_of_le reached with rfl | behind
    · exact none_here
    · exact silent behind
  cases scan with
  | done silent =>
    exact .done fun place reached inside => silent_from reached fun behind => silent place behind inside
  | next reached inside silent matched behind =>
    exact .next (Nat.le_of_succ_le reached) inside
      (fun earlier reached before => silent_from reached fun behind => silent earlier behind before)
      matched behind

theorem scans_hitsFrom (pattern : Pattern) (front back : List Char) (skip : Nat) :
    Scans pattern (front ++ back) (front.length + skip)
      (hitsFrom pattern front.length skip front.getLast? back) := by
  induction back generalizing front skip with
  | nil =>
    refine .done fun place reached inside => ?_
    rw [List.append_nil] at inside
    omega
  | cons c rest ih =>
    have later := fun skip => ih (front ++ [c]) skip
    simp only [List.append_assoc, List.singleton_append, List.length_append, List.length_singleton,
      List.getLast?_concat] at later
    cases skip with
    | succ left =>
      have goes_on : front.length + (left + 1) = front.length + 1 + left := by omega
      rw [goes_on]
      exact later left
    | zero =>
      have here : matchAt? pattern (front ++ c :: rest) front.length = pattern front.getLast? (c :: rest) := by
        rw [matchAt?, List.take_left, List.drop_left]
      rw [hitsFrom]
      cases matched : pattern front.getLast? (c :: rest) with
      | none => exact .of_succ (here.trans matched) (later 0)
      | some found =>
        refine .next (Nat.le_refl _) (by simp) (fun earlier reached before => by omega) (here.trans matched) ?_
        have goes_on : front.length + max 1 found.length = front.length + 1 + (found.length - 1) := by omega
        rw [goes_on]
        exact later (found.length - 1)

/-- There is one scan. -/
theorem Scans.unique {start : Nat} {found found' : List Hit} (scan : Scans pattern text start found)
    (scan' : Scans pattern text start found') : found = found' := by
  induction scan generalizing found' with
  | done silent =>
    cases scan' with
    | done => rfl
    | next reached inside _ matched => cases (silent _ reached inside).symm.trans matched
  | @next start place found later reached inside silent matched _ ih =>
    cases scan' with
    | done silent' => cases (silent' _ reached inside).symm.trans matched
    | @next _ place' found' later' reached' inside' silent' matched' behind' =>
      rcases Nat.lt_trichotomy place place' with before | rfl | after
      · cases (silent' place reached before).symm.trans matched
      · obtain rfl : found = found' := Option.some.inj (matched.symm.trans matched')
        rw [ih behind']
      · cases (silent place' reached' after).symm.trans matched'

/-- The matches of a pattern are what a scan of the text finds. -/
theorem scans_iff (pattern : Pattern) (text : List Char) (found : List Hit) :
    Scans pattern text 0 found ↔ found = hits pattern text := by
  have scan : Scans pattern text 0 (hits pattern text) := scans_hitsFrom pattern [] text 0
  constructor
  · exact fun other => other.unique scan
  · rintro rfl
    exact scan

/-- What a scan finds begins in the text. -/
theorem Scans.start_lt {start : Nat} {found : List Hit} (scan : Scans pattern text start found) :
    ∀ hit ∈ found, hit.start < text.length := by
  induction scan with
  | done => exact fun _ member => absurd member List.not_mem_nil
  | next _ inside _ _ _ ih => exact List.forall_mem_cons.2 ⟨inside, ih⟩

/-! ### Depth zero

The depth is tied to the open parentheses, these to the pairs around a place, and the matches of a pattern
to the one scan of the text. Together they say which matches are kept. -/

/-- Depth zero means outside of every pair of parentheses. Each character of a text has a depth, which is
never negative: in every text it counts the opening parentheses before the character that no closing one up
to it has matched. In a text in which every parenthesis has its partner it counts the pairs around the
character; and of what the scan of a pattern finds, those matches are kept, in their order, that begin in no
pair. -/
theorem depths_count_pairs (masked : List Char) :
    (depths masked).length = masked.length ∧
    (∀ depth ∈ depths masked, (0 : Int) ≤ depth) ∧
    (∀ place < masked.length, (depths masked)[place]? = some (stillOpen masked place (place + 1)).card) ∧
    (∀ pattern found, Scans pattern masked 0 found ↔ found = hits pattern masked) ∧
    (Paired masked →
      (∀ place < masked.length, (depths masked)[place]? = some (enclosing masked place).card) ∧
      ∀ pattern, topLevelHits pattern masked =
        (hits pattern masked).filter fun hit => enclosing masked hit.start = ∅) := by
  refine ⟨length_depthsFrom 0 masked, fun depth _ => Int.natCast_nonneg depth, fun place => getElem?_depths,
    fun pattern => scans_iff pattern masked, fun paired => ⟨fun place inside => ?_, fun pattern => ?_⟩⟩
  · rw [getElem?_depths inside, paired.card_enclosing]
  · have scan : Scans pattern masked 0 (hits pattern masked) := (scans_iff pattern masked _).2 rfl
    exact List.filter_congr fun hit member => paired.isTopLevel_eq (scan.start_lt hit member)

/-- The limit of a subquery is in a pair, and the one behind it is not. -/
theorem depths_count_pairs_of_subquery :
    Paired "from (select f(x) limit 1) limit 2".toList ∧
    enclosing "from (select f(x) limit 1) limit 2".toList 15 = {(5, 25), (14, 16)} ∧
    (depths "from (select f(x) limit 1) limit 2".toList)[15]? = some 2 ∧
    (hits limitClause "from (select f(x) limit 1) limit 2".toList).map Hit.start = [18, 27] ∧
    (topLevelHits limitClause "from (select f(x) limit 1) limit 2".toList).map Hit.start = [27] := by
  have paired : Paired "from (select f(x) limit 1) limit 2".toList := by decide +kernel
  have around : enclosing "from (select f(x) limit 1) limit 2".toList 15 = {(5, 25), (14, 16)} := by
    decide +kernel
  obtain ⟨-, -, -, -, with_partners⟩ := depths_count_pairs "from (select f(x) limit 1) limit 2".toList
  obtain ⟨counts, kept⟩ := with_partners paired
  refine ⟨paired, around, ?_, by decide +kernel, ?_⟩
  · rw [counts 15 (by decide), around]
    rfl
  · rw [kept limitClause]
    decide +kernel

end QueryDesk.Sql
