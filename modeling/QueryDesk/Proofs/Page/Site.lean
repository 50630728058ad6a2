/-
Module: QueryDesk.Proofs.Page.Site
Purpose: The plan of a statement by the clauses that it has, and the one place at which it writes the
  limit. The edits of a plan are those of its site: some text before and behind a clamped count, in
  the place of a stretch of the statement. If the plan of the edited statement clamps that count
  again, then two rewritings are one with the lesser limit.
Imports: Mathlib.Data.List.Forall2, QueryDesk.Proofs.Page.Statement, QueryDesk.Proofs.Sql.Relast,
  QueryDesk.Proofs.Page.Count
Main exports: Site, Site.edits, Site.applyAll_edits, Site.applyAll_again, countSite, Settles, Settles.applyAll,
  offsetTail, planLimit_of_first, planLimit_of_second, planTop_of_last, planFetch_of_last
-/
import Mathlib.Data.List.Forall2
import QueryDesk.Proofs.Page.Statement
import QueryDesk.Proofs.Sql.Relast
import QueryDesk.Proofs.Page.Count

namespace QueryDesk.Sql

open QueryDesk.Text

/-- Where a plan writes its limit: edits that stand before it, and a stretch in whose place comes a
clamped count between two texts. -/
structure Site where
  front : List Edit
  span : Span
  left : List Char
  count : List Char
  right : List Char

/-- The edits of a site. -/
def Site.edits (site : Site) (limit : Int) : List Edit :=
  site.front ++ [⟨site.span, site.left ++ (clampCount limit site.count ++ site.right)⟩]

/-- What stands before the limit after the edits. -/
def Site.before (site : Site) (text : List Char) : List Char :=
  Edit.applyAll site.front (text.take site.span.start) ++ site.left

/-- What stands behind the limit after the edits. -/
def Site.after (site : Site) (text : List Char) : List Char :=
  site.right ++ text.drop site.span.stop

/-- A site whose stretches stand in order in a text of a size. -/
structure Site.Fits (site : Site) (size : Nat) : Prop where
  ordered : Edit.InOrder 0 site.span.start site.front
  forwards : site.span.start ≤ site.span.stop
  inside : site.span.stop ≤ size

theorem Site.applyAll_edits {site : Site} {size : Nat} (fits : site.Fits size) (limit : Int)
    (text : List Char) :
    Edit.applyAll (site.edits limit) text =
      site.before text ++ (clampCount limit site.count ++ site.after text) := by
  rw [Site.edits, Edit.applyAll_concat fits.ordered fits.forwards, Site.before, Site.after]
  simp only [List.append_assoc]

theorem Edit.length_applyFrom_congr {edits : List Edit} {text text' : List Char} (position : Nat)
    (same : text.length = text'.length) :
    (Edit.applyFrom position text edits).length = (Edit.applyFrom position text' edits).length := by
  induction edits generalizing position text text' with
  | nil => exact same
  | cons edit rest ih =>
      have later := @ih (text.drop (edit.span.stop - position)) (text'.drop (edit.span.stop - position))
        edit.span.stop (by simp only [List.length_drop, same])
      simp only [Edit.applyFrom, List.length_append, List.length_take, same, later]

theorem Site.length_before_congr (site : Site) {text text' : List Char}
    (same : text.length = text'.length) : (site.before text).length = (site.before text').length := by
  have front : (Edit.applyAll site.front (text.take site.span.start)).length =
      (Edit.applyAll site.front (text'.take site.span.start)).length :=
    Edit.length_applyFrom_congr 0 (by simp only [List.length_take, same])
  simp only [Site.before, List.length_append, front]

/-- The edit that clamps the count which a site has written. -/
def Site.again (site : Site) (first second : Int) (masked : List Char) : List Edit :=
  [⟨⟨(site.before masked).length,
      (site.before masked).length + (clampCount first site.count).length⟩,
    clampCount second (clampCount first site.count)⟩]

theorem Edit.applyAll_single (left old right text : List Char) :
    Edit.applyAll [⟨⟨left.length, left.length + old.length⟩, text⟩] (left ++ (old ++ right)) =
      left ++ (text ++ right) := by
  simp [Edit.applyAll, Edit.applyFrom]

theorem Edit.applyAll_insertAt (front text back : List Char) :
    Edit.applyAll [Edit.insertAt front.length text] (front ++ back) = front ++ (text ++ back) := by
  simp [Edit.applyAll, Edit.applyFrom, Edit.insertAt]

/-- Clamping the count that a site has written is writing the lesser limit there. -/
theorem Site.applyAll_again {site : Site} {size : Nat} (fits : site.Fits size) {first second : Int}
    (nonneg : 0 ≤ first) {masked text : List Char}
    (same : text.length = masked.length) :
    Edit.applyAll (site.again first second masked) (Edit.applyAll (site.edits first) text) =
      Edit.applyAll (site.edits (min first second)) text := by
  rw [Site.applyAll_edits fits, Site.applyAll_edits fits, Site.again,
    ← site.length_before_congr same, Edit.applyAll_single,
    clampCount_clampCount nonneg]

/-- The site of a count that is clamped where it stands, with some text put behind it. -/
def countSite (left count right : List Char) : Site :=
  ⟨[], ⟨left.length, left.length + count.length⟩, [], count, right⟩

theorem countSite_fits (left count right rest : List Char) :
    (countSite left count right).Fits (left ++ (count ++ rest)).length := by
  refine ⟨Nat.zero_le _, Nat.le_add_right _ _, ?_⟩
  simp only [countSite, List.length_append]
  omega

theorem countSite_before (left count right rest : List Char) :
    (countSite left count right).before (left ++ (count ++ rest)) = left := by
  simp only [Site.before, countSite, List.take_left, List.append_nil]
  rfl

theorem countSite_after (left count right rest : List Char) :
    (countSite left count right).after (left ++ (count ++ rest)) = right ++ rest := by
  rw [← List.append_assoc]
  simp only [Site.after, countSite]
  rw [List.drop_left' (by simp only [List.length_append])]

/-! ### Settled statements

A plan is asked twice, and the second time about the statement that it has edited itself. Two rewritings are
one if the site of the second plan is the count that the first one has written, for then a clamped count is
clamped. If there is no such count, the first plan has to leave nothing to do. -/

/-- How a plan can settle a statement: it writes the limit at a site, and the plan of the statement so
bounded clamps the count that stands there; or it does not depend on the limit, and nothing is left to
do in the statement so bounded. -/
inductive Settles (planOf : Int → List Char → List Edit) (first : Int) (masked : List Char) : Prop where
  | clamps (site : Site) (fits : site.Fits masked.length)
      (plan : ∀ limit, planOf limit masked = site.edits limit)
      (again : ∀ second, planOf second (site.before masked ++
        (clampCount first site.count ++ site.after masked)) = site.again first second masked)
  | stays (plan : ∀ limit, planOf limit masked = planOf first masked)
      (again : ∀ second, planOf second (Edit.applyAll (planOf first masked) masked) = [])

/-- A settled statement that is bounded again is bounded by the lesser limit. -/
theorem Settles.applyAll {planOf : Int → List Char → List Edit} {first : Int} {masked : List Char}
    (settles : Settles planOf first masked) (nonneg : 0 ≤ first) (second : Int) {text : List Char}
    (same : text.length = masked.length) :
    Edit.applyAll (planOf second (Edit.applyAll (planOf first masked) masked))
        (Edit.applyAll (planOf first masked) text) =
      Edit.applyAll (planOf (min first second) masked) text := by
  cases settles with
  | clamps site fits plan again =>
      rw [plan, plan, Site.applyAll_edits fits first masked, again,
        Site.applyAll_again fits nonneg same]
  | stays plan again =>
      rw [again, plan (min first second)]
      rfl

/-- A mask shows a text: what is not blank in it stands in the text. -/
def Shows (masked text : List Char) : Prop :=
  List.Forall₂ (fun c shown => isBlank shown = false → c = shown) text masked

theorem Shows.length_eq {masked text : List Char} (shows : Shows masked text) :
    masked.length = text.length :=
  (List.Forall₂.length_eq shows).symm

theorem Shows.append_split {left right text : List Char} (shows : Shows (left ++ right) text) :
    ∃ left' right', text = left' ++ right' ∧ Shows left left' ∧ Shows right right' :=
  ⟨text.take left.length, text.drop left.length, (List.take_append_drop _ _).symm,
    List.forall₂_take_append text left right shows, List.forall₂_drop_append text left right shows⟩

theorem Shows.eq_of_solid {shown text : List Char} (shows : Shows shown text)
    (solid : ∀ c ∈ shown, isBlank c = false) : text = shown := by
  induction shows with
  | nil => rfl
  | cons here _ ih =>
      rw [here (solid _ (by simp)), ih fun c member => solid c (by simp [member])]

/-- An edit in the place of characters that a mask shows changes nothing if it writes the same. -/
theorem Shows.applyAll_single_iff {left old right new text : List Char}
    (shows : Shows (left ++ (old ++ right)) text) (solid : ∀ c ∈ old, isBlank c = false) :
    Edit.applyAll [⟨⟨left.length, left.length + old.length⟩, new⟩] text = text ↔ new = old := by
  obtain ⟨left', behind, rfl, shows_left, shows_behind⟩ := shows.append_split
  obtain ⟨old', right', rfl, shows_old, -⟩ := shows_behind.append_split
  obtain rfl := shows_old.eq_of_solid solid
  rw [shows_left.length_eq, Edit.applyAll_single, List.append_cancel_left_eq,
    List.append_cancel_right_eq]

theorem slice_append (front middle back : List Char) :
    Span.slice ⟨front.length, front.length + middle.length⟩ (front ++ (middle ++ back)) = middle := by
  rw [Span.slice, ← List.append_assoc, List.take_left' (by simp), List.drop_left]

theorem clampEdit_append (limit : Int) (front count back : List Char) :
    clampEdit limit (front ++ (count ++ back)) ⟨front.length, front.length + count.length⟩ =
      ⟨⟨front.length, front.length + count.length⟩, clampCount limit count⟩ := by
  rw [clampEdit, slice_append]

/-- The offset that is put behind a count, if there is one to put there. -/
def offsetTail (offset : Int) (masked : List Char) : List Char :=
  if 0 < offset && (lastTopLevel? offsetKeyword masked).isNone then
    " OFFSET ".toList ++ numeral offset
  else []

variable (limit offset : Int) {masked : List Char}

theorem planLimit_of_first {front head count rest : List Char}
    (last : LastAt limitClause front (head ++ (count ++ rest))
      ⟨head.length + count.length, [some ⟨head.length, head.length + count.length⟩, none]⟩)
    (split : masked = front ++ (head ++ (count ++ rest))) :
    planLimit limit offset masked =
      [⟨⟨(front ++ head).length, (front ++ head).length + count.length⟩,
        clampCount limit count ++ offsetTail offset masked⟩] := by
  have found := (lastTopLevel?_eq_some_iff keyed_limitClause).2 ⟨front, _, _, split, last, rfl⟩
  have place : (⟨head.length, head.length + count.length⟩ : Span).shift front.length =
      ⟨(front ++ head).length, (front ++ head).length + count.length⟩ := by
    simp only [Span.shift, List.length_append, Span.mk.injEq]
    omega
  simp only [planLimit, Clauses.ofMask, found, planExistingLimit, Match.group?_at]
  have edit : clampEdit limit masked ⟨(front ++ head).length, (front ++ head).length + count.length⟩ =
      ⟨⟨(front ++ head).length, (front ++ head).length + count.length⟩, clampCount limit count⟩ := by
    rw [split, ← List.append_assoc front, clampEdit_append]
  simp only [List.getElem?_cons_succ, List.getElem?_cons_zero, Option.join_some, Option.map_none,
    Option.map_some, place, edit, offsetTail]
  split_ifs <;> simp

theorem planLimit_of_second {front left count rest : List Char} {group : Option Span} {size : Nat}
    (last : LastAt limitClause front (left ++ (count ++ rest))
      ⟨size, [group, some ⟨left.length, left.length + count.length⟩]⟩)
    (split : masked = front ++ (left ++ (count ++ rest))) :
    planLimit limit offset masked =
      [⟨⟨(front ++ left).length, (front ++ left).length + count.length⟩, clampCount limit count⟩] := by
  have found := (lastTopLevel?_eq_some_iff keyed_limitClause).2 ⟨front, _, _, split, last, rfl⟩
  have place : (⟨left.length, left.length + count.length⟩ : Span).shift front.length =
      ⟨(front ++ left).length, (front ++ left).length + count.length⟩ := by
    simp only [Span.shift, List.length_append, Span.mk.injEq]
    omega
  simp only [planLimit, Clauses.ofMask, found, planExistingLimit, Match.group?_at]
  simp only [List.getElem?_cons_succ, List.getElem?_cons_zero, Option.join_some, Option.map_some, place]
  rw [split, ← List.append_assoc front, clampEdit_append]

theorem planTop_of_last {front head count rest : List Char} {group : Option Span} {size : Nat}
    (last : LastAt topClause front (head ++ (count ++ rest))
      ⟨size, [group, some ⟨head.length, head.length + count.length⟩]⟩)
    (split : masked = front ++ (head ++ (count ++ rest))) :
    ∃ hit, lastTopLevel? topClause masked = some hit ∧ planTop limit masked hit =
      [⟨⟨(front ++ head).length, (front ++ head).length + count.length⟩, clampCount limit count⟩] := by
  refine ⟨_, (lastTopLevel?_eq_some_iff keyed_topClause).2 ⟨front, _, _, split, last, rfl⟩, ?_⟩
  have place : (⟨head.length, head.length + count.length⟩ : Span).shift front.length =
      ⟨(front ++ head).length, (front ++ head).length + count.length⟩ := by
    simp only [Span.shift, List.length_append, Span.mk.injEq]
    omega
  simp only [planTop, Match.group?_at, List.getElem?_cons_succ, List.getElem?_cons_zero,
    Option.join_some, Option.map_some, place]
  rw [split, ← List.append_assoc front, clampEdit_append]

theorem planFetch_of_last {front head count rest : List Char} {size : Nat}
    (last : LastAt fetchClause front (head ++ (count ++ rest))
      ⟨size, [some ⟨head.length, head.length + count.length⟩]⟩)
    (split : masked = front ++ (head ++ (count ++ rest))) :
    ∃ hit, lastTopLevel? fetchClause masked = some hit ∧ hit.start = front.length ∧
      planFetch limit masked hit =
        [⟨⟨(front ++ head).length, (front ++ head).length + count.length⟩,
          clampCount limit count⟩] := by
  refine ⟨_, (lastTopLevel?_eq_some_iff keyed_fetchClause).2 ⟨front, _, _, split, last, rfl⟩, rfl, ?_⟩
  have place : (⟨head.length, head.length + count.length⟩ : Span).shift front.length =
      ⟨(front ++ head).length, (front ++ head).length + count.length⟩ := by
    simp only [Span.shift, List.length_append, Span.mk.injEq]
    omega
  simp only [planFetch, Match.group?_at, List.getElem?_cons_zero, Option.join_some, Option.map_some,
    place]
  rw [split, ← List.append_assoc front, clampEdit_append]

end QueryDesk.Sql
