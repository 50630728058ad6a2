/-
Module: QueryDesk.Proofs.Document.Renditions
Purpose: The documents that stand for one value: its fields go by their external names, or by their names, or
  by their external names with further values put under names, at any level. No two fields of a record may
  have a name in common; then each field is found in each of these documents, and a record is read back from
  all of them if its fields are.
Imports: QueryDesk.Document.Reading, QueryDesk.Proofs.Connection.Columns, Mathlib.Data.List.Pairwise
Main exports: NamesAdded, Rendition, ReadsBack, FieldName.Apart, Rendition.value?_rows,
  ReadsBack.list, ReadsBack.record, Checked.seq_eq_valid_iff
-/
import QueryDesk.Document.Reading
import QueryDesk.Proofs.Connection.Columns
import Mathlib.Data.List.Pairwise

namespace QueryDesk

variable {α β : Type}

/-- A list whose items are written in each spelling. -/
def writeItems (items : List (Spelling → Value)) (spelling : Spelling) : Value :=
  .list (items.map fun item => item spelling)

/-- A record whose fields are written in each spelling. -/
def writeRows (rows : List (FieldName × (Spelling → Value))) (spelling : Spelling) : Value :=
  writeRecord spelling (rows.map fun row => (row.1, row.2 spelling))

/-- The mapping with values put under names, one after the other. -/
def Mapping.putNames (entries : Mapping) (extras : List (String × Value)) : Mapping :=
  extras.foldl (fun entries extra => entries.insert (.name extra.1) extra.2) entries

/-- A field of a record to which names are added: how it is written, and what stands for it. -/
structure AddedField where
  field : FieldName
  write : Spelling → Value
  value : Value

/-- From what a value is written as by external names, a document arises by adding names: in each record, at
any level, any values may be put under names of fields that have an external name other than their name. The
entries of a mapping may stand in any order. -/
inductive NamesAdded : (Spelling → Value) → Value → Prop where
  | same (value : Value) : NamesAdded (fun _ => value) value
  | list (items : List ((Spelling → Value) × Value))
      (each : ∀ item ∈ items, NamesAdded item.1 item.2) :
      NamesAdded (writeItems (items.map Prod.fst)) (.list (items.map Prod.snd))
  | record (fields : List AddedField) (extras : List (String × Value)) (entries : Mapping)
      (each : ∀ row ∈ fields, NamesAdded row.write row.value)
      (names : ∀ extra ∈ extras, ∃ row ∈ fields,
        row.field.name = extra.1 ∧ row.field.external ≠ row.field.name)
      (agrees : ∀ key, entries.get? key =
        ((Mapping.putNames (fields.map fun row => (.name row.field.external, row.value))
          extras).get? key)) :
      NamesAdded (writeRows (fields.map fun row => (row.field, row.write))) (.mapping entries)

/-- The documents of a value: what it is written as in either spelling, and what arises by adding names. -/
inductive Rendition (write : Spelling → Value) : Value → Prop where
  | spelled (spelling : Spelling) : Rendition write (write spelling)
  | added {document : Value} (arises : NamesAdded write document) : Rendition write document

/-- A value is read from each of its documents. -/
def ReadsBack (write : Spelling → Value) (read : Reader α) (value : α) : Prop :=
  ∀ document, Rendition write document → read document = .valid value

/-- Lists are equal if their images agree in every spelling, and equal images in every spelling come from
equal items. -/
theorem eq_of_spelled_eq {image : Spelling → α → β} {items items' : List α}
    (separate : ∀ a b, (∀ spelling, image spelling a = image spelling b) → a = b)
    (same : ∀ spelling, items.map (image spelling) = items'.map (image spelling)) : items = items' := by
  refine List.ext_getElem (by simpa using congrArg List.length (same .external)) fun i inside inside' => ?_
  refine separate _ _ fun spelling => ?_
  simpa [inside, inside'] using congrArg (·[i]?) (same spelling)

theorem writeItems_injective : Function.Injective writeItems := fun _ _ same =>
  eq_of_spelled_eq (fun _ _ => funext) fun spelling => Value.list.inj (congrFun same spelling)

/-- A field name is determined by its spellings. -/
theorem FieldName.eq_of_spell {field field' : FieldName}
    (same : ∀ spelling, field.spell spelling = field'.spell spelling) : field = field' := by
  obtain ⟨name, external⟩ := field
  obtain ⟨name', external'⟩ := field'
  exact congr (congrArg FieldName.mk (same .name)) (same .external)

theorem writeRows_eq (rows : List (FieldName × (Spelling → Value))) (spelling : Spelling) :
    writeRows rows spelling =
      .mapping (rows.map fun row => (.name (row.1.spell spelling), row.2 spelling)) := by
  rw [writeRows, writeRecord, List.map_map]
  rfl

theorem writeRows_injective : Function.Injective writeRows := by
  intro rows rows' same
  have spelled (spelling : Spelling) : rows.map (fun row => (Key.name (row.1.spell spelling), row.2 spelling)) =
      rows'.map fun row => (Key.name (row.1.spell spelling), row.2 spelling) := by
    simpa only [writeRows_eq, Value.mapping.injEq] using congrFun same spelling
  refine eq_of_spelled_eq (fun row row' equal => ?_) spelled
  refine Prod.ext (FieldName.eq_of_spell fun spelling => ?_) (funext fun spelling => ?_)
  · exact Key.name.inj (congrArg Prod.fst (equal spelling))
  · exact congrArg Prod.snd (equal spelling)

/-- Two fields have no name in common. -/
def FieldName.Apart (field other : FieldName) : Prop :=
  ∀ text ∈ [field.external, field.name], text ∉ [other.external, other.name]

instance : DecidableRel FieldName.Apart := fun _ _ => inferInstanceAs (Decidable (∀ _ ∈ _, _))

namespace FieldName

variable {field other : FieldName}

theorem spell_mem (field : FieldName) (spelling : Spelling) :
    field.spell spelling ∈ [field.external, field.name] := by
  cases spelling <;> simp [spell]

theorem Apart.spell_ne (apart : field.Apart other) (spelling spelling' : Spelling) :
    field.spell spelling ≠ other.spell spelling' := fun same =>
  apart _ (field.spell_mem spelling) (same ▸ other.spell_mem spelling')

theorem Apart.symm (apart : field.Apart other) : other.Apart field := fun text other_s field_s =>
  apart text field_s other_s

instance : Std.Symm Apart := ⟨fun _ _ => Apart.symm⟩

/-- Of fields that are apart, two have no spelling in common. -/
theorem spell_ne_of_ne {fields : List FieldName} (apart : fields.Pairwise Apart) (member : field ∈ fields)
    (listed : other ∈ fields) (distinct : field ≠ other) (spelling spelling' : Spelling) :
    field.spell spelling ≠ other.spell spelling' :=
  (apart.forall member listed distinct).spell_ne spelling spelling'

end FieldName

variable {rows : List (FieldName × (Spelling → Value))} {row : FieldName × (Spelling → Value)}
  {document : Value}

/-! ### A field among added names

A field is looked up by its external name first. An added name is never the external name of a field of the
same record, as no two fields have a name in common, so that the lookup meets the field as it was written. -/

namespace Mapping

variable {entries : Mapping} {key : Key} {value : Value}

theorem get?_eq_none (absent : key ∉ entries.map Prod.fst) : entries.get? key = none := by
  simpa [get?] using get?_append_of_not_mem absent []

/-- An entry under a key that does not repeat is found. -/
theorem get?_of_mem (nodup : (entries.map Prod.fst).Nodup) (member : (key, value) ∈ entries) :
    entries.get? key = some value := by
  obtain ⟨front, back, rfl⟩ := List.append_of_mem member
  rw [List.map_append, List.map_cons, List.nodup_middle, List.nodup_cons, List.mem_append, not_or] at nodup
  rw [get?_append_of_not_mem nodup.1.1, get?_cons, if_pos rfl]

/-- Values put under other names do not change what stands under a name. -/
theorem field?_putNames {name : String} {extras : List (String × Value)}
    (other : ∀ extra ∈ extras, extra.1 ≠ name) (entries : Mapping) :
    (entries.putNames extras).field? name = entries.field? name := by
  induction extras generalizing entries with
  | nil => rfl
  | cons extra rest ih =>
    rw [putNames, List.foldl_cons, ← putNames, ih (fun extra member => other extra (.tail _ member)), field?,
      get?_insert, if_neg fun same => other extra (.head _) (Key.name.inj same).symm, field?]

end Mapping

/-- In a record in one spelling each field is found under its spelling. -/
theorem field?_spelled (apart : (rows.map Prod.fst).Pairwise FieldName.Apart) (member : row ∈ rows)
    (spelling : Spelling) :
    Mapping.field? (rows.map fun row => (.name (row.1.spell spelling), row.2 spelling))
      (row.1.spell spelling) = some (row.2 spelling) := by
  refine Mapping.get?_of_mem ?_ (List.mem_map_of_mem member)
  rw [List.map_map, List.Nodup, List.pairwise_map]
  exact (List.pairwise_map.1 apart).imp fun apart same =>
    apart.spell_ne spelling spelling (Key.name.inj same)

/-- In a record in one spelling the value of each field is the one that is written. -/
theorem value?_spelled (apart : (rows.map Prod.fst).Pairwise FieldName.Apart) (member : row ∈ rows)
    (spelling : Spelling) :
    row.1.value? (rows.map fun row => (.name (row.1.spell spelling), row.2 spelling)) =
      some (row.2 spelling) := by
  rw [FieldName.value?]
  cases spelling with
  | external => rw [show row.1.external = row.1.spell .external from rfl, field?_spelled apart member]
  | name =>
    by_cases same : row.1.external = row.1.name
    · rw [same, show row.1.name = row.1.spell .name from rfl, field?_spelled apart member]
    · rw [Mapping.field?, Mapping.get?_eq_none, show row.1.name = row.1.spell .name from rfl,
        field?_spelled apart member]
      -- No field has the external name for its name: not this one, and the others are apart.
      simp only [List.map_map, List.mem_map, Function.comp_apply, Key.name.injEq, not_exists, not_and]
      intro other listed equal
      by_cases distinct : row.1 = other.1
      · exact same (equal.symm.trans (congrArg FieldName.name distinct.symm))
      · exact FieldName.spell_ne_of_ne apart (List.mem_map_of_mem member) (List.mem_map_of_mem listed) distinct
          .external .name equal.symm

/-- In a record in external names to which names are added, each field has its own value: no added name is the
external name of a field. -/
theorem value?_added {fields : List AddedField} {extras : List (String × Value)} {entries : Mapping}
    (apart : (fields.map AddedField.field).Pairwise FieldName.Apart)
    (names : ∀ extra ∈ extras, ∃ row ∈ fields,
      row.field.name = extra.1 ∧ row.field.external ≠ row.field.name)
    (agrees : ∀ key, entries.get? key =
      ((Mapping.putNames (fields.map fun row => (.name row.field.external, row.value)) extras).get? key))
    {added : AddedField} (inside : added ∈ fields) : added.field.value? entries = some added.value := by
  have kept : ∀ extra ∈ extras, extra.1 ≠ added.field.external := by
    intro extra extra_mem same
    obtain ⟨other, listed, name, differs⟩ := names extra extra_mem
    by_cases distinct : other.field = added.field
    · exact differs ((congrArg FieldName.external distinct).trans (same.symm.trans name.symm))
    · exact FieldName.spell_ne_of_ne apart (List.mem_map_of_mem listed) (List.mem_map_of_mem inside) distinct
        .name .external (name.trans same)
  have found : Mapping.field? (fields.map fun row => (.name row.field.external, row.value))
      added.field.external = some added.value := by
    have apart' : ((fields.map fun row => (row.field, fun _ : Spelling => row.value)).map
        Prod.fst).Pairwise FieldName.Apart := by
      rwa [List.map_map]
    simpa [Function.comp_def, FieldName.spell] using
      field?_spelled apart' (List.mem_map_of_mem inside) .external
  rw [FieldName.value?, Mapping.field?, agrees, ← Mapping.field?, Mapping.field?_putNames kept, found]

/-- Each rendition of a record is a mapping in which the value of each field is a rendition of it. -/
theorem Rendition.value?_rows (apart : (rows.map Prod.fst).Pairwise FieldName.Apart)
    (rendition : Rendition (writeRows rows) document) :
    ∃ entries, document = .mapping entries ∧
      ∀ row ∈ rows, ∃ value, Rendition row.2 value ∧ row.1.value? entries = some value := by
  have written (spelling : Spelling) : ∃ entries, writeRows rows spelling = .mapping entries ∧
      ∀ row ∈ rows, ∃ value, Rendition row.2 value ∧ row.1.value? entries = some value :=
    ⟨_, writeRows_eq rows spelling, fun row member =>
      ⟨row.2 spelling, .spelled spelling, value?_spelled apart member spelling⟩⟩
  cases rendition with
  | spelled spelling => exact written spelling
  | added arises =>
    generalize wrote : writeRows rows = write at arises
    cases arises with
    | same value => exact congrFun wrote .external ▸ written .external
    | list items each => exact absurd (congrFun wrote .external) (by simp [writeRows, writeRecord, writeItems])
    | record fields extras entries each names agrees =>
      obtain rfl := writeRows_injective wrote
      refine ⟨entries, rfl, fun row member => ?_⟩
      obtain ⟨added, inside, rfl⟩ := List.mem_map.1 member
      rw [List.map_map] at apart
      exact ⟨added.value, .added (each added inside), value?_added apart names agrees inside⟩

/-- Each rendition of a list is a list of renditions of its items. -/
theorem Rendition.forall₂_items {items : List (Spelling → Value)}
    (rendition : Rendition (writeItems items) document) :
    ∃ documents, document = .list documents ∧ List.Forall₂ Rendition items documents := by
  have written (spelling : Spelling) : ∃ documents, writeItems items spelling = .list documents ∧
      List.Forall₂ Rendition items documents :=
    ⟨_, rfl, List.forall₂_map_right_iff.2 (List.forall₂_same.2 fun _ _ => .spelled spelling)⟩
  cases rendition with
  | spelled spelling => exact written spelling
  | added arises =>
    generalize wrote : writeItems items = write at arises
    cases arises with
    | same value => exact congrFun wrote .external ▸ written .external
    | list parts each =>
      obtain rfl := writeItems_injective wrote
      exact ⟨_, rfl, List.forall₂_map_left_iff.2 (List.forall₂_map_right_iff.2
        (List.forall₂_same.2 fun part member => .added (each part member)))⟩
    | record fields extras entries each names agrees =>
      exact absurd (congrFun wrote .external) (by simp [writeRows, writeRecord, writeItems])

/-- A value that has no parts has no rendition but itself. -/
theorem Rendition.eq_of_bare {value : Value} (notList : ∀ items, value ≠ .list items)
    (notMapping : ∀ entries, value ≠ .mapping entries)
    (rendition : Rendition (fun _ => value) document) : document = value := by
  cases rendition with
  | spelled => rfl
  | added arises =>
    generalize wrote : (fun _ : Spelling => value) = write at arises
    cases arises with
    | same other => exact (congrFun wrote .external).symm
    | list parts each => exact absurd (congrFun wrote .external) (notList _)
    | record fields extras entries each names agrees =>
      exact absurd (congrFun wrote .external) (notMapping _)

namespace Checked

theorem map_eq_valid_iff {f : α → β} {checked : Checked α} {value : β} :
    f <$> checked = .valid value ↔ ∃ part, checked = .valid part ∧ f part = value := by
  cases checked <;> simp [Functor.map, Checked.map]

theorem seq_eq_valid_iff {f : Checked (α → β)} {checked : Checked α} {value : β} :
    f <*> checked = .valid value ↔
      ∃ build part, f = .valid build ∧ checked = .valid part ∧ build part = value := by
  cases f <;> cases checked <;> simp [Seq.seq, Checked.apply]

theorem map_valid {f : α → β} {checked : Checked α} {part : α} (valid : checked = .valid part) :
    f <$> checked = .valid (f part) :=
  map_eq_valid_iff.2 ⟨part, valid, rfl⟩

theorem seq_valid {f : Checked (α → β)} {checked : Checked α} {build : α → β} {part : α}
    (valid : f = .valid build) (valid' : checked = .valid part) : f <*> checked = .valid (build part) :=
  seq_eq_valid_iff.2 ⟨build, part, valid, valid', rfl⟩

theorem andThen_eq_valid_iff {checked : Checked α} {next : α → Checked β} {value : β} :
    checked.andThen next = .valid value ↔ ∃ part, checked = .valid part ∧ next part = .valid value := by
  cases checked <;> simp [andThen]

theorem under_eq_valid_iff {checked : Checked α} {step : PathStep} {value : α} :
    checked.under step = .valid value ↔ checked = .valid value := by
  cases checked <;> simp [under]

end Checked

/-- A list is read if each of its items is. -/
theorem readItemsFrom_eq_valid_iff {read : Reader α} {items : List Value} {values : List α} {position : Nat} :
    readItemsFrom read position items = .valid values ↔
      List.Forall₂ (fun item value => read item = .valid value) items values := by
  induction items generalizing values position with
  | nil => cases values <;> simp [readItemsFrom]
  | cons item rest ih =>
    rw [readItemsFrom, List.forall₂_cons_left_iff]
    change (List.cons <$> (read item).under _) <*> readItemsFrom read (position + 1) rest = _ ↔ _
    rw [Checked.seq_eq_valid_iff]
    constructor
    · rintro ⟨_, values, build, rest, rfl⟩
      obtain ⟨value, first, rfl⟩ := Checked.map_eq_valid_iff.1 build
      exact ⟨value, values, Checked.under_eq_valid_iff.1 first, ih.1 rest, rfl⟩
    · rintro ⟨value, values, first, rest, rfl⟩
      exact ⟨_, values, Checked.map_valid (Checked.under_eq_valid_iff.2 first), ih.2 rest, rfl⟩

namespace ReadsBack

variable {write : Spelling → Value} {read : Reader α} {value : α}

/-- A value that has no parts is read back if it is read. -/
theorem bare {written : Value} (notList : ∀ items, written ≠ .list items)
    (notMapping : ∀ entries, written ≠ .mapping entries) (valid : read written = .valid value) :
    ReadsBack (fun _ => written) read value := fun _ rendition =>
  rendition.eq_of_bare notList notMapping ▸ valid

theorem text (value : String) : ReadsBack (fun _ => .text value) readText value :=
  bare nofun nofun rfl

theorem truth (value : Bool) : ReadsBack (fun _ => .bool value) readTruth value :=
  bare nofun nofun rfl

theorem int (value : Int) : ReadsBack (fun _ => .int value) readInt value :=
  bare nofun nofun rfl

theorem text? (value : Option String) : ReadsBack (fun _ => .ofText? value) (readNullable readText) value := by
  cases value <;> exact bare nofun nofun rfl

theorem int? (value : Option Int) : ReadsBack (fun _ => .ofInt? value) (readNullable readInt) value := by
  cases value <;> exact bare nofun nofun rfl

theorem intFrom {minimum value : Int} (within : minimum ≤ value) :
    ReadsBack (fun _ => .int value) (readIntFrom minimum) value :=
  bare nofun nofun (if_neg (Int.not_lt.2 within))

/-- A list is read back if its items are. -/
theorem list {write : Spelling → α → Value} {values : List α}
    (each : ∀ value ∈ values, ReadsBack (write · value) read value) :
    ReadsBack (fun spelling => .list (values.map (write spelling))) (readListOf read) values := by
  intro document rendition
  have wrote : (fun spelling => Value.list (values.map (write spelling))) =
      writeItems (values.map fun value spelling => write spelling value) := by
    funext spelling
    rw [writeItems, List.map_map]
    rfl
  obtain ⟨documents, rfl, renditions⟩ := (wrote ▸ rendition).forall₂_items
  rw [readListOf, readItemsFrom_eq_valid_iff]
  have parts := (List.forall₂_and_left _ _).2 ⟨each, List.forall₂_map_left_iff.1 renditions⟩
  exact (parts.imp fun _ item part => part.1 item part.2).flip

theorem texts (values : List String) : ReadsBack (fun _ => .ofTexts values) (readListOf readText) values :=
  list fun value _ => text value

end ReadsBack

/-- The fields of a record, as they are written in each spelling, stand in a document. -/
def Holds (layout : Spelling → List (FieldName × Value)) (document : Mapping) : Prop :=
  ∀ (i : Nat) (field : FieldName) (write : Spelling → Value),
    (∀ spelling, (layout spelling)[i]? = some (field, write spelling)) →
      ∃ value, Rendition write value ∧ field.value? document = some value

section Records

variable {layout : Spelling → List (FieldName × Value)} {write : Spelling → Value} {field : FieldName}
  {document : Mapping} {read : Reader α} {value : α}

theorem Holds.required (holds : Holds layout document) (i : Nat) (reads : ReadsBack write read value)
    (here : ∀ spelling, (layout spelling)[i]? = some (field, write spelling)) :
    field.required read document = .valid value := by
  obtain ⟨part, rendition, found⟩ := holds i field write here
  rw [FieldName.required, found]
  exact Checked.under_eq_valid_iff.2 (reads part rendition)

theorem Holds.optional (holds : Holds layout document) (i : Nat) {default : α}
    (reads : ReadsBack write read value)
    (here : ∀ spelling, (layout spelling)[i]? = some (field, write spelling)) :
    field.optional default read document = .valid value := by
  obtain ⟨part, rendition, found⟩ := holds i field write here
  rw [FieldName.optional, found]
  exact Checked.under_eq_valid_iff.2 (reads part rendition)

/-- Two lists of values under the same fields are one list of fields, each with a value in either spelling. -/
theorem exists_rows {external name : List (FieldName × Value)}
    (names : name.map Prod.fst = external.map Prod.fst) :
    ∃ rows : List (FieldName × (Spelling → Value)),
      external = rows.map (fun row => (row.1, row.2 .external)) ∧
        name = rows.map (fun row => (row.1, row.2 .name)) := by
  induction external generalizing name with
  | nil => exact ⟨[], rfl, List.map_eq_nil_iff.1 names⟩
  | cons entry rest ih =>
    obtain ⟨entry', rest', rfl, first, names⟩ := List.map_eq_cons_iff.1 names
    obtain ⟨rows, rfl, rfl⟩ := ih names
    refine ⟨(entry.1, fun spelling => spelling.casesOn entry.2 entry'.2) :: rows, rfl, ?_⟩
    rw [List.map_cons, ← first]

/-- A record is read back if no two of its fields have a name in common and the reader reads it from each
document in which its fields stand. -/
theorem ReadsBack.record {read : Mapping → Checked α}
    (written : ∀ spelling, write spelling = writeRecord spelling (layout spelling))
    (names : (layout .name).map Prod.fst = (layout .external).map Prod.fst)
    (apart : ((layout .external).map Prod.fst).Pairwise FieldName.Apart)
    (reads : ∀ document, Holds layout document → read document = .valid value) :
    ReadsBack write (readRecord read) value := by
  intro document rendition
  obtain ⟨rows, external, name⟩ := exists_rows names
  have layout_eq (spelling : Spelling) : layout spelling = rows.map fun row => (row.1, row.2 spelling) := by
    cases spelling with
    | external => exact external
    | name => exact name
  have wrote : write = writeRows rows := funext fun spelling => by rw [written, layout_eq, writeRows]
  have apart : (rows.map Prod.fst).Pairwise FieldName.Apart := by
    simpa [layout_eq, Function.comp_def] using apart
  obtain ⟨entries, rfl, found⟩ := (wrote ▸ rendition).value?_rows apart
  refine reads entries fun i field write here => ?_
  have row_of (spelling : Spelling) : ∃ row, rows[i]? = some row ∧
      (row.1, row.2 spelling) = (field, write spelling) := by
    simpa [layout_eq, Option.map_eq_some_iff] using here spelling
  obtain ⟨row, at_i, first⟩ := row_of .external
  have writes (spelling : Spelling) : row.2 spelling = write spelling := by
    obtain ⟨row', at_i', same⟩ := row_of spelling
    obtain rfl := Option.some.inj (at_i.symm.trans at_i')
    exact (Prod.mk.inj same).2
  obtain rfl : row = (field, write) := Prod.ext (Prod.mk.inj first).1 (funext writes)
  exact found _ (List.mem_of_getElem? at_i)

end Records

end QueryDesk
