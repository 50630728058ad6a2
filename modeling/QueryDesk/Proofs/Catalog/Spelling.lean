/-
Module: QueryDesk.Proofs.Catalog.Spelling
Purpose: The letter case of column names in catalog answers. A row whose names are of ASCII and differ in
  more than case gives, for each column, the cell that its lower-case form has under the lower-case name;
  so two rows that are spelled differently give the same cells. An answer may be respelled in any shape
  that holds rows.
Imports: QueryDesk.Proofs.Connection.Forms, QueryDesk.Proofs.Text.AsciiCase
Main exports: Row.lowered, Row.Respelled, Row.cell?_eq_lowered, Row.Alike, Row.Respelled.alike,
  Value.RespelledRow, Value.Respelled, Value.Respelled.rows
-/
import Mathlib.Data.List.Forall2
import Mathlib.Data.List.Nodup
import QueryDesk.Proofs.Connection.Forms
import QueryDesk.Proofs.Text.AsciiCase

namespace QueryDesk

open QueryDesk.Text

/-! ### Rows in lower case

A cell is looked up under its name as given, in upper case, in lower case, and then by a scan that ignores
the case.
All of these agree with one lookup in the row in lower case, and respelled rows have the same row in lower
case. -/

/-- A key in lower case. -/
def Key.lowered : Key → Key
  | .name text => .name (lowerString text)
  | .number value => .number value

namespace Row

/-- A row with its column names in lower case. -/
def lowered (row : Row) : Row :=
  row.map fun entry => (entry.1.lowered, entry.2)

/-- Whether a row has nothing but names of ASCII for its columns. -/
def AsciiNames (row : Row) : Prop :=
  ∀ entry ∈ row, ∃ name, entry.1 = .name name ∧ IsAscii name

/-- Rows with the same cells under names that differ in case only. No two columns of one row have such
names. -/
structure Respelled (row other : Row) : Prop where
  named : row.AsciiNames
  named_other : other.AsciiNames
  apart : (row.lowered.map Prod.fst).Nodup
  same : row.lowered = other.lowered

theorem Respelled.symm {row other : Row} (respelled : row.Respelled other) : other.Respelled row where
  named := respelled.named_other
  named_other := respelled.named
  apart := respelled.same ▸ respelled.apart
  same := respelled.same.symm

/-- A row with its column names in upper case. -/
def raised (row : Row) : Row :=
  row.map fun entry => (match entry.1 with
    | .name text => .name (upperString text)
    | .number value => .number value, entry.2)

/-- A row may be respelled in upper case. -/
theorem respelled_raised {row : Row} (named : row.AsciiNames)
    (apart : (row.lowered.map Prod.fst).Nodup) : row.Respelled row.raised where
  named := named
  named_other := by
    intro entry member
    obtain ⟨original, inside, rfl⟩ := List.mem_map.1 member
    obtain ⟨name, here, ascii⟩ := named original inside
    exact ⟨upperString name, by rw [here], isAscii_upperString ascii⟩
  apart := apart
  same := by
    rw [raised, lowered, lowered, List.map_map]
    refine List.map_congr_left fun entry member => ?_
    obtain ⟨name, here, ascii⟩ := named entry member
    rw [Function.comp_apply, here, Key.lowered, Key.lowered, lowerString_upperString ascii]

section

variable {row : Row} {column : String}

/-- The scan of a row finds what the row in lower case has under the name. -/
theorem cellIgnoringCase?_eq_lowered (named : row.AsciiNames) (name : String) :
    cellIgnoringCase? name row = .ok (row.lowered.field? name) := by
  induction row with
  | nil => rfl
  | cons entry rest ih =>
    obtain ⟨key, cell⟩ := entry
    obtain ⟨text, here, -⟩ := named _ List.mem_cons_self
    have others := ih fun other member => named other (List.mem_cons_of_mem _ member)
    simp only at here
    subst here
    change (if lowerString text = name then .ok (some cell) else cellIgnoringCase? name rest) =
      .ok (((Key.name (lowerString text), cell) :: lowered rest).lookup (.name name))
    rw [others, List.lookup_cons]
    by_cases same : lowerString text = name
    · subst same
      simp
    · have apart : (Key.name name == Key.name (lowerString text)) = false :=
        beq_false_of_ne fun equal => same (Key.name.inj equal).symm
      rw [if_neg same, apart]
      rfl

/-- What stands under a name stands under its lower case in the row in lower case. -/
theorem lowered_field?_of_field? (apart : (row.lowered.map Prod.fst).Nodup) {name : String}
    {cell : Value} (here : row.field? name = some cell) :
    row.lowered.field? (lowerString name) = some cell := by
  obtain ⟨front, back, rfl, -⟩ := List.lookup_eq_some_iff.1 here
  refine List.lookup_eq_some_iff.2 ⟨lowered front, lowered back, List.map_append, fun entry member => ?_⟩
  rw [lowered, List.map_append, List.map_append, List.nodup_append] at apart
  rw [bne_iff_ne]
  exact (apart.2.2 _ (List.mem_map_of_mem member) _ List.mem_cons_self).symm

/-- Whatever the case in which a column is asked for and its name is written, the row in lower case has
the cell. -/
theorem cell?_eq_lowered (named : row.AsciiNames) (apart : (row.lowered.map Prod.fst).Nodup)
    (ascii : IsAscii column) : row.cell? column = .ok (row.lowered.field? (lowerString column)) := by
  unfold cell?
  split
  next cell here => rw [lowered_field?_of_field? apart here]
  next =>
    split
    next cell here => rw [← lowerString_upperString ascii, lowered_field?_of_field? apart here]
    next =>
      split
      next cell here => rw [← lowerString_lowerString ascii, lowered_field?_of_field? apart here]
      next => exact cellIgnoringCase?_eq_lowered named _

end

/-- Rows that give the same cell for every column. -/
def Alike (row other : Row) : Prop :=
  ∀ column, IsAscii column → row.cell? column = other.cell? column

theorem Respelled.alike {row other : Row} (respelled : row.Respelled other) : row.Alike other := by
  intro column ascii
  rw [cell?_eq_lowered respelled.named respelled.apart ascii,
    cell?_eq_lowered respelled.named_other respelled.symm.apart ascii, respelled.same]

theorem Alike.cell {row other : Row} (alike : row.Alike other) {column : String}
    (ascii : IsAscii column) : row.cell column = other.cell column := by
  rw [Row.cell, Row.cell, alike column ascii]

end Row

theorem Row.Respelled.ofPairs_eq {row other : Row} (respelled : row.Respelled other) :
    Mapping.ofPairs row = row := by
  refine Mapping.ofPairs_of_nodup (List.Nodup.of_map Key.lowered ?_)
  have apart := respelled.apart
  rw [Row.lowered, List.map_map] at apart
  rw [List.map_map]
  exact apart

namespace Value

/-- Values that stand for one row, up to the case of its column names. -/
inductive RespelledRow : Value → Value → Prop
  | same (row : Value) : RespelledRow row row
  | mapping {row other : Row} : row.Respelled other → RespelledRow (.mapping row) (.mapping other)
  | record {row other : Row} : row.Respelled other → RespelledRow (.record row) (.record other)

theorem RespelledRow.alike {row other : Value} (respelled : RespelledRow row other)
    (fields : List String) : (rowOfValue fields row).Alike (rowOfValue fields other) := by
  cases respelled with
  | same => exact fun _ _ => rfl
  | mapping respelled => exact respelled.alike
  | record respelled =>
    rw [rowOfValue, rowOfValue, respelled.ofPairs_eq, respelled.symm.ofPairs_eq]
    exact respelled.alike

/-- Rows side by side, up to the case of column names. -/
abbrev RespelledRows : List Value → List Value → Prop :=
  List.Forall₂ RespelledRow

/-- Sequences that hold rows, or a list of rows and what describes their fields. -/
inductive RespelledItems : List Value → List Value → Prop
  | rows {rows others : List Value} : (∀ inner rest, rows ≠ .list inner :: rest) →
      RespelledRows rows others → RespelledItems rows others
  | pair {rows others : List Value} (rest : List Value) : RespelledRows rows others →
      RespelledItems (.list rows :: rest) (.list others :: rest)

/-- Answers with the same rows, up to the case of their column names, in any shape that holds rows. -/
inductive Respelled : Value → Value → Prop
  | same (answer : Value) : Respelled answer answer
  | shaped (shape : Shape) (fields : List String) {rows others : List Value} :
      RespelledRows rows others → Respelled (.rows shape rows fields) (.rows shape others fields)
  | list {items others : List Value} : RespelledItems items others →
      Respelled (.list items) (.list others)
  | tuple {items others : List Value} : RespelledItems items others →
      Respelled (.tuple items) (.tuple others)
  | envelope {front : Mapping} (back : Mapping) {rows others : List Value} :
      front.field? "rows" = none → RespelledRows rows others →
      Respelled (.mapping (front ++ (.name "rows", .list rows) :: back))
        (.mapping (front ++ (.name "rows", .list others) :: back))
  | entries {entries others : Mapping} : (∀ rows, entries.field? "rows" ≠ some (.list rows)) →
      List.Forall₂ (fun entry other => entry.1 = other.1 ∧ RespelledRow entry.2 other.2)
        entries others →
      Respelled (.mapping entries) (.mapping others)

end Value

/-- Outcomes that agree: related values, or the same failure. -/
inductive Agree {α β : Type} (related : α → β → Prop) : Except Failure α → Except Failure β → Prop
  | ok {value : α} {other : β} : related value other → Agree related (.ok value) (.ok other)
  | error (failure : Failure) : Agree related (.error failure) (.error failure)

section

variable {α α' β β' : Type} {related : α → α' → Prop} {onward : β → β' → Prop}
  {first : Except Failure α} {second : Except Failure α'}

theorem Agree.bind (agree : Agree related first second) {next : α → Except Failure β}
    {next' : α' → Except Failure β'}
    (others : ∀ value value', related value value' → Agree onward (next value) (next' value')) :
    Agree onward (first.bind next) (second.bind next') := by
  cases agree with
  | ok both => exact others _ _ both
  | error failure => exact .error failure

theorem Agree.map (agree : Agree related first second) {image : α → β} {image' : α' → β'}
    (others : ∀ value value', related value value' → onward (image value) (image' value')) :
    Agree onward (first.map image) (second.map image') := by
  cases agree with
  | ok both => exact .ok (others _ _ both)
  | error failure => exact .error failure

end

/-- Results with the same shape and fields, and the same rows up to the case of their column names. -/
structure RawResult.Respelled (raw other : RawResult) : Prop where
  shape : raw.shape = other.shape
  fields : raw.fields = other.fields
  rows : Value.RespelledRows raw.rows other.rows

namespace Value

theorem RespelledRows.refl (rows : List Value) : RespelledRows rows rows :=
  List.forall₂_same.2 fun row _ => .same row

theorem RespelledRow.eq_list {row : Value} {items : List Value}
    (respelled : RespelledRow row (.list items)) : row = .list items := by
  cases respelled
  rfl

theorem ofItems_of_no_pair {items : List Value} (no_pair : ∀ inner rest, items ≠ .list inner :: rest) :
    RawResult.ofItems items = .ok { shape := .rowList, rows := items } := by
  unfold RawResult.ofItems
  split
  next inner rest => exact absurd rfl (no_pair inner rest)
  next => rfl

theorem RespelledItems.agree {items others : List Value} (respelled : RespelledItems items others) :
    Agree RawResult.Respelled (RawResult.ofItems items) (RawResult.ofItems others) := by
  cases respelled with
  | rows no_pair rows =>
    have no_other : ∀ inner rest, others ≠ .list inner :: rest := by
      rintro inner rest rfl
      cases rows with
      | cons first others =>
        rw [first.eq_list] at no_pair
        exact no_pair inner _ rfl
    rw [ofItems_of_no_pair no_pair, ofItems_of_no_pair no_other]
    exact .ok ⟨rfl, rfl, rows⟩
  | pair rest rows =>
    unfold RawResult.ofItems
    dsimp only
    cases fieldNames (rest.headD .null) with
    | ok fields => exact .ok ⟨rfl, rfl, rows⟩
    | error failure => exact .error failure

theorem field?_envelope {front : Mapping} (absent : front.field? "rows" = none) (rows : List Value)
    (back : Mapping) :
    Mapping.field? (front ++ (.name "rows", .list rows) :: back) "rows" = some (.list rows) := by
  rw [Mapping.field?, Mapping.get?] at absent ⊢
  rw [List.lookup_append, absent]
  simp

theorem field?_envelope_fields (front back : Mapping) (rows : List Value) :
    Mapping.field? (front ++ (.name "rows", .list rows) :: back) "fields" =
      (front.field? "fields").or (back.field? "fields") := by
  rw [Mapping.field?, Mapping.get?, List.lookup_append]
  rfl

/-- Respelled values in place keep what stands under a name, up to the spelling. -/
theorem field?_respelled {entries others : Mapping} {name : String} {cell : Value}
    (side_by_side : List.Forall₂ (fun entry other => entry.1 = other.1 ∧ RespelledRow entry.2 other.2)
      entries others) (here : others.field? name = some cell) :
    ∃ before, entries.field? name = some before ∧ RespelledRow before cell := by
  induction side_by_side with
  | nil => cases here
  | @cons entry other entries others first rest ih =>
    obtain ⟨key, before⟩ := entry
    obtain ⟨key', after⟩ := other
    obtain ⟨rfl, respelled⟩ := first
    simp only [Mapping.field?, Mapping.get?, List.lookup_cons] at here ih ⊢
    split at here
    next found =>
      cases here
      exact ⟨before, rfl, respelled⟩
    next => exact ih here

theorem ofMapping_of_no_rows {entries : Mapping}
    (no_rows : ∀ rows, entries.field? "rows" ≠ some (.list rows)) :
    RawResult.ofMapping entries =
      .ok { shape := .rowList, rows := entries.map fun entry => entry.2 } := by
  unfold RawResult.ofMapping
  split
  next rows here => exact absurd here (no_rows rows)
  next => rfl

/-- Respelled answers hold respelled rows, in one shape and with the same fields. -/
theorem Respelled.agree {answer other : Value} (respelled : Respelled answer other) :
    Agree RawResult.Respelled (RawResult.ofValue answer) (RawResult.ofValue other) := by
  cases respelled with
  | same =>
    cases RawResult.ofValue answer with
    | ok raw => exact .ok ⟨rfl, rfl, .refl raw.rows⟩
    | error failure => exact .error failure
  | shaped shape fields rows => exact .ok ⟨rfl, rfl, rows⟩
  | list items => exact items.agree
  | tuple items => exact items.agree
  | @envelope front back rows others absent respelled =>
    change Agree _ (RawResult.ofMapping _) (RawResult.ofMapping _)
    simp only [RawResult.ofMapping, field?_envelope absent, field?_envelope_fields]
    cases fieldNames (((front.field? "fields").or (back.field? "fields")).getD .null) with
    | ok fields => exact .ok ⟨rfl, rfl, respelled⟩
    | error failure => exact .error failure
  | @entries entries others no_rows side_by_side =>
    have no_other : ∀ rows, others.field? "rows" ≠ some (.list rows) := by
      intro rows here
      obtain ⟨before, found, respelled⟩ := field?_respelled side_by_side here
      exact no_rows rows (respelled.eq_list ▸ found)
    change Agree _ (RawResult.ofMapping _) (RawResult.ofMapping _)
    rw [ofMapping_of_no_rows no_rows, ofMapping_of_no_rows no_other]
    refine .ok ⟨rfl, rfl, ?_⟩
    exact List.forall₂_map_left_iff.2 (List.forall₂_map_right_iff.2
      (side_by_side.imp fun _ _ entry => entry.2))

end Value

/-- The rows of respelled results are alike. -/
theorem RawResult.Respelled.rowMappings {raw other : RawResult} (respelled : raw.Respelled other) :
    List.Forall₂ Row.Alike raw.rowMappings other.rowMappings := by
  rw [RawResult.rowMappings, RawResult.rowMappings, respelled.fields]
  exact List.forall₂_map_left_iff.2 (List.forall₂_map_right_iff.2
    (respelled.rows.imp fun _ _ row => row.alike other.fields))

/-- Respelled answers hold rows that are alike. -/
theorem Value.Respelled.rows {answer other : Value} (respelled : answer.Respelled other) :
    Agree (List.Forall₂ Row.Alike) (rowsOfValue answer) (rowsOfValue other) :=
  respelled.agree.map fun _ _ results => results.rowMappings

end QueryDesk
