/-
Module: QueryDesk.Proofs.Sql.Parenthesis
Purpose: Which parentheses of a text belong together. A text is balanced if it is built from other
  characters and from pairs around balanced texts; an opening and a closing parenthesis are a matched pair
  if the text between them is balanced. This is said without any counting; here it is tied to the depth: a
  balanced text leaves the depth as it is and no part from its front on lowers it, so a parenthesis has at
  most one partner, and where the depth is not zero there is an opening parenthesis with a balanced text
  behind it.
Imports: QueryDesk.Proofs.Sql.TopLevel
Main exports: Balanced, Balanced.depthAfter_eq, Balanced.le_depthAfter, exists_last_opening, balanced_iff,
  Matched, exists_matched, Matched.closing_unique, Matched.opening_unique, Paired
-/
import Mathlib.Data.List.Infix
import QueryDesk.Proofs.Sql.TopLevel

namespace QueryDesk.Sql

variable {text front back : List Char}

/-- A text in which the parentheses pair up: other characters, and pairs around balanced texts. -/
inductive Balanced : List Char → Prop where
  | nil : Balanced []
  | other {c : Char} {rest : List Char} (flat : c ≠ '(' ∧ c ≠ ')') (behind : Balanced rest) :
      Balanced (c :: rest)
  | pair {inner rest : List Char} (between : Balanced inner) (behind : Balanced rest) :
      Balanced ('(' :: (inner ++ ')' :: rest))

theorem Balanced.append (balanced : Balanced front) (behind : Balanced back) :
    Balanced (front ++ back) := by
  induction balanced with
  | nil => exact behind
  | other flat _ ih => exact .other flat ih
  | pair between _ _ ih =>
    rw [List.cons_append, List.append_assoc, List.cons_append]
    exact .pair between ih

/-- A balanced text leaves the depth as it is. -/
theorem Balanced.depthAfter_eq (balanced : Balanced text) (depth : Nat) :
    depthAfter depth text = depth := by
  induction balanced generalizing depth with
  | nil => rfl
  | @other c rest flat _ ih =>
    have same : depthStep depth c = depth := by simp [depthStep, flat]
    rw [depthAfter, same, ih]
  | pair _ _ inside behind =>
    rw [depthAfter, depthAfter_append, inside, depthAfter, behind]
    rfl

/-- From the front of a balanced text on the depth does not fall below what it was. -/
theorem Balanced.le_depthAfter (balanced : Balanced text) (inside : front <+: text) (depth : Nat) :
    depth ≤ depthAfter depth front := by
  induction balanced generalizing front depth with
  | nil => rw [List.prefix_nil.1 inside, depthAfter]
  | @other c rest flat _ ih =>
    obtain rfl | ⟨part, rfl, within⟩ := List.prefix_cons_iff.1 inside
    · exact Nat.le_refl depth
    · have same : depthStep depth c = depth := by simp [depthStep, flat]
      rw [depthAfter, same]
      exact ih within depth
  | @pair inner rest between _ in_pair in_rest =>
    obtain rfl | ⟨part, rfl, within⟩ := List.prefix_cons_iff.1 inside
    · exact Nat.le_refl depth
    have opened : depthStep depth '(' = depth + 1 := rfl
    rw [depthAfter, opened]
    rcases List.prefix_or_prefix_of_prefix within (List.prefix_append inner (')' :: rest)) with short | long
    · exact Nat.le_of_succ_le (in_pair short (depth + 1))
    · obtain ⟨tail, rfl⟩ := long
      have beyond := (List.prefix_append_right_inj inner).1 within
      rw [depthAfter_append, between.depthAfter_eq]
      obtain rfl | ⟨part, rfl, behind⟩ := List.prefix_cons_iff.1 beyond
      · exact Nat.le_succ depth
      · exact in_rest behind depth

/-- In front of a place at some depth there is an opening parenthesis one level below it, with a balanced
text behind it. -/
theorem exists_last_opening {depth : Nat} (deep : depthAfter 0 text = depth + 1) :
    ∃ front inner, text = front ++ '(' :: inner ∧ Balanced inner ∧ depthAfter 0 front = depth := by
  -- A closing parenthesis takes two earlier openings: its own one and the one below.
  induction size : text.length using Nat.strong_induction_on generalizing text depth with
  | _ size ih =>
    rcases List.eq_nil_or_concat text with rfl | ⟨init, c, rfl⟩
    · cases deep
    rw [List.concat_eq_append, List.length_append, List.length_singleton] at size
    rw [List.concat_eq_append, depthAfter_append] at deep
    have earlier {part : List Char} {depth : Nat} (short : part.length ≤ init.length)
        (deep : depthAfter 0 part = depth + 1) := ih part.length (by omega) deep rfl
    rw [List.concat_eq_append]
    by_cases opening : c = '('
    · subst opening
      exact ⟨init, [], rfl, .nil, Nat.succ.inj deep⟩
    by_cases closing : c = ')'
    · subst closing
      have above : depthAfter 0 init = depth + 1 + 1 := by
        have fallen : depthAfter 0 init - 1 = depth + 1 := deep
        omega
      obtain ⟨front, inner, rfl, between, level⟩ := earlier (Nat.le_refl _) above
      obtain ⟨front', inner', rfl, between', level'⟩ := earlier (by simp) level
      refine ⟨front', inner' ++ '(' :: (inner ++ [')']), by simp, ?_, level'⟩
      exact between'.append (.pair between .nil)
    · have same : depthAfter 0 init = depth + 1 := by
        rwa [depthAfter_of_flat _ fun d member => List.mem_singleton.1 member ▸ ⟨opening, closing⟩]
          at deep
      obtain ⟨front, inner, rfl, between, level⟩ := earlier (Nat.le_refl _) same
      exact ⟨front, inner ++ [c], by simp, between.append (.other ⟨opening, closing⟩ .nil), level⟩

/-- A text is balanced if it leaves the depth as it is and no part from its front on lowers it. -/
theorem balanced_iff (text : List Char) :
    Balanced text ↔ depthAfter 1 text = 1 ∧ ∀ front, front <+: text → 1 ≤ depthAfter 1 front := by
  constructor
  · intro balanced
    exact ⟨balanced.depthAfter_eq 1, fun front inside => balanced.le_depthAfter inside 1⟩
  · rintro ⟨level, above⟩
    have opened : depthAfter 0 ('(' :: text) = 0 + 1 := level
    obtain ⟨front, inner, split, balanced, flat⟩ := exists_last_opening opened
    obtain - | ⟨c, part⟩ := front
    · obtain rfl : text = inner := List.tail_eq_of_cons_eq split
      exact balanced
    · obtain ⟨rfl, rfl⟩ := List.cons_eq_cons.1 split
      have positive := above part (List.prefix_append _ _)
      have zero : depthAfter 1 part = 0 := flat
      omega

instance (text : List Char) : Decidable (Balanced text) :=
  decidable_of_iff (depthAfter 1 text = 1 ∧ ∀ front ∈ text.inits, 1 ≤ depthAfter 1 front)
    (by simp only [balanced_iff, List.mem_inits])

/-! ### Matched pairs

A closing parenthesis finds its partner by the depth: where it is not zero, an opening one stands in front
with a balanced text behind it. There is no second partner, since a balanced text neither falls below its
own depth nor ends above it. -/

/-- The parentheses at two places are a matched pair: an opening one, a closing one behind it, and a
balanced text between them. -/
structure Matched (text : List Char) (opening closing : Nat) : Prop where
  opens : text[opening]? = some '('
  closes : text[closing]? = some ')'
  ordered : opening < closing
  between : Balanced (Span.slice ⟨opening + 1, closing⟩ text)

instance (text : List Char) (opening closing : Nat) : Decidable (Matched text opening closing) :=
  decidable_of_iff (text[opening]? = some '(' ∧ text[closing]? = some ')' ∧ opening < closing ∧
      Balanced (Span.slice ⟨opening + 1, closing⟩ text))
    ⟨fun ⟨opens, closes, ordered, between⟩ => ⟨opens, closes, ordered, between⟩,
      fun pair => ⟨pair.opens, pair.closes, pair.ordered, pair.between⟩⟩

/-- Where the depth is not zero, a closing parenthesis has a partner. -/
theorem exists_matched {place depth : Nat} (here : text[place]? = some ')')
    (deep : depthAfter 0 (text.take place) = depth + 1) : ∃ opening, Matched text opening place := by
  obtain ⟨front, inner, split, between, -⟩ := exists_last_opening deep
  have before : front.length < place := by
    have sizes := congrArg List.length split
    rw [List.length_take, List.length_append, List.length_cons] at sizes
    omega
  refine ⟨front.length, ?_, here, before, ?_⟩
  · rw [← List.getElem?_take_of_lt before, split]
    simp
  · rw [Span.slice, split, List.append_cons, List.drop_left' (by simp)]
    exact between

/-- A stretch of a text that goes on behind a place. -/
theorem slice_eq_append {start place stop : Nat} {c : Char} (reached : start ≤ place) (inside : place < stop)
    (here : text[place]? = some c) :
    Span.slice ⟨start, stop⟩ text =
      Span.slice ⟨start, place⟩ text ++ c :: Span.slice ⟨place + 1, stop⟩ text := by
  obtain ⟨bound, rfl⟩ := List.getElem?_eq_some_iff.1 here
  have split : text.take stop = text.take place ++ text[place] :: (text.take stop).drop (place + 1) := by
    conv_lhs => rw [← List.take_append_drop place (text.take stop)]
    rw [List.take_take, Nat.min_eq_left (Nat.le_of_lt inside),
      List.drop_eq_getElem_cons (by rw [List.length_take]; omega), List.getElem_take]
  unfold Span.slice
  conv_lhs => rw [split]
  refine List.drop_append_of_le_length ?_
  rw [List.length_take_of_le bound.le]
  exact reached

/-- An opening parenthesis is matched by one closing one at most: the text up to a second one would fall
below its own depth at the first. -/
theorem Matched.closing_unique {opening closing closing' : Nat} (pair : Matched text opening closing)
    (pair' : Matched text opening closing') : closing = closing' := by
  have not_lt {near far : Nat} (nearer : Matched text opening near) (farther : Matched text opening far) :
      ¬ near < far := by
    intro behind
    have kept := farther.between
    rw [slice_eq_append nearer.ordered behind nearer.closes, List.append_cons] at kept
    have fallen := kept.le_depthAfter (List.prefix_append ..) 1
    rw [depthAfter_append, nearer.between.depthAfter_eq] at fallen
    exact absurd fallen (by decide)
  exact Nat.le_antisymm (Nat.le_of_not_lt (not_lt pair' pair)) (Nat.le_of_not_lt (not_lt pair pair'))

/-- A closing parenthesis matches one opening one at most: the text behind an earlier one would end above
its own depth. -/
theorem Matched.opening_unique {opening opening' closing : Nat} (pair : Matched text opening closing)
    (pair' : Matched text opening' closing) : opening = opening' := by
  have not_lt {outer inner : Nat} (around : Matched text outer closing) (within : Matched text inner closing) :
      ¬ outer < inner := by
    intro behind
    have level := around.between.depthAfter_eq 0
    rw [slice_eq_append behind within.ordered within.opens, depthAfter_append, depthAfter,
      within.between.depthAfter_eq] at level
    exact absurd level (Nat.succ_ne_zero _)
  exact Nat.le_antisymm (Nat.le_of_not_lt (not_lt pair' pair)) (Nat.le_of_not_lt (not_lt pair pair'))

/-- Every parenthesis of a text has its partner. -/
structure Paired (text : List Char) : Prop where
  opened : ∀ opening, text[opening]? = some '(' → ∃ closing, Matched text opening closing
  closed : ∀ closing, text[closing]? = some ')' → ∃ opening, Matched text opening closing

theorem paired_iff (text : List Char) :
    Paired text ↔
      (∀ opening < text.length, text[opening]? = some '(' →
        ∃ closing < text.length, Matched text opening closing) ∧
      ∀ closing < text.length, text[closing]? = some ')' →
        ∃ opening < text.length, Matched text opening closing := by
  have inside {place : Nat} {c : Char} (here : text[place]? = some c) : place < text.length :=
    (List.getElem?_eq_some_iff.1 here).1
  constructor
  · rintro ⟨opened, closed⟩
    refine ⟨fun opening _ opens => ?_, fun closing _ closes => ?_⟩
    · obtain ⟨closing, pair⟩ := opened opening opens
      exact ⟨closing, inside pair.closes, pair⟩
    · obtain ⟨opening, pair⟩ := closed closing closes
      exact ⟨opening, inside pair.opens, pair⟩
  · rintro ⟨opened, closed⟩
    refine ⟨fun opening opens => ?_, fun closing closes => ?_⟩
    · obtain ⟨closing, -, pair⟩ := opened opening (inside opens) opens
      exact ⟨closing, pair⟩
    · obtain ⟨opening, -, pair⟩ := closed closing (inside closes) closes
      exact ⟨opening, pair⟩

instance (text : List Char) : Decidable (Paired text) :=
  decidable_of_iff _ (paired_iff text).symm

end QueryDesk.Sql
