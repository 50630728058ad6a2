/-
Module: QueryDesk.Proofs.Catalog.Lookup
Purpose: Looking relations up in the schema of an introspection. The relations are in strict order of their
  keys, and a relation without a schema comes before all others of its name, so that the first one that
  fits a relation's own name and schema is the relation itself.
Imports: QueryDesk.Proofs.Catalog.Course
Main exports: fitsLookup_iff, relationKey_le_of_fits, find?_fitsLookup_of_mem, Schema.Ordered,
  introspectFrom_ordered, introspect_finds
-/
import QueryDesk.Proofs.Catalog.Course

namespace QueryDesk.Catalog

open QueryDesk.Number

/-! ### Looking up in strict order

A lookup takes the first relation that fits. Without a schema it fits all of its name, but a relation
without a schema has the least key of them, so that it comes first. -/

/-- A relation fits a lookup by its name, and by its schema if one is given. -/
theorem fitsLookup_iff {name foundName : String} {schema foundSchema : Option String} :
    fitsLookup name schema foundName foundSchema = true ↔
      foundName = name ∧ (schema = none ∨ foundSchema = schema) := by
  rw [fitsLookup, Bool.and_eq_true, Bool.or_eq_true, beq_iff_eq, beq_iff_eq, Option.isNone_iff_eq_none]

/-- What fits a relation's own name and schema does not come before it. -/
theorem relationKey_le_of_fits {name foundName : String} {schema foundSchema : Option String}
    (fits : fitsLookup name schema foundName foundSchema = true) :
    toLex (relationKey schema name) ≤ toLex (relationKey foundSchema foundName) := by
  obtain ⟨rfl, rfl | rfl⟩ := fitsLookup_iff.1 fits
  · -- An absent schema has the key of the empty one, which is the least text.
    have least : "" ≤ foundSchema.getD "" :=
      not_lt.1 fun less => List.not_lt_nil _ (String.lt_iff_toList_lt.1 less)
    exact Prod.Lex.toLex_mono ⟨least, le_rfl⟩
  · exact le_rfl

section

variable {α : Type} {name : α → String} {schema : α → Option String} {items : List α}

/-- In strict order of keys, a lookup of a relation's own name and schema finds the relation. -/
theorem find?_fitsLookup_of_mem
    (sorted : items.Pairwise fun a b =>
      toLex (relationKey (schema a) (name a)) < toLex (relationKey (schema b) (name b)))
    {item : α} (member : item ∈ items) :
    items.find? (fun found => fitsLookup (name item) (schema item) (name found) (schema found)) =
      some item := by
  obtain ⟨before, after, rfl⟩ := List.append_of_mem member
  refine List.find?_eq_some_iff_append.2 ⟨fitsLookup_iff.2 ⟨rfl, .inr rfl⟩, before, after, rfl, ?_⟩
  intro earlier inside
  have less := (List.pairwise_append.1 sorted).2.2 earlier inside item List.mem_cons_self
  rw [Bool.not_eq_true']
  exact Bool.eq_false_iff.2 fun fits => absurd less (relationKey_le_of_fits fits).not_gt

/-- A lookup finds nothing when nothing fits. -/
theorem find?_fitsLookup_eq_none_iff {wanted : String} {inSchema : Option String} :
    items.find? (fun found => fitsLookup wanted inSchema (name found) (schema found)) = none ↔
      ¬ ∃ item ∈ items, name item = wanted ∧ (inSchema = none ∨ schema item = inSchema) := by
  simp only [List.find?_eq_none, fitsLookup_iff, not_exists, not_and]

end

/-- The relations of a schema are in strict order of their keys. -/
structure Schema.Ordered (schema : Schema) : Prop where
  tables : schema.tables.Pairwise fun a b => toLex a.key < toLex b.key
  views : schema.views.Pairwise fun a b => toLex a.key < toLex b.key

theorem Schema.ordered_empty : Schema.Ordered {} where
  tables := .nil
  views := .nil

theorem ordered_ofPool (budget : Binary64) (deadline : Option Rat) (progress : Progress) (now : Rat)
    (pool : Pool (Option Relation)) :
    (Introspection.ofPool budget deadline progress now pool).schema.Ordered where
  tables := pairwise_sortedByKey Table.key _
  views := pairwise_sortedByKey View.key _

/-- Whatever an introspection ends with has its relations in strict order. -/
theorem introspectFrom_ordered {start : Rat} {engine : Engine} {connection : Connection}
    {budget : Binary64} {concurrency : Int} {found : Introspection}
    (course : introspectFrom start engine connection budget concurrency = .ok found) :
    found.schema.Ordered := by
  simp only [introspectFrom] at course
  split at course
  next => cases course
  next =>
    cases course
    exact Schema.ordered_empty
  next =>
    simp only [listAndDescribe] at course
    split at course
    next =>
      split at course
      next => cases course
      next =>
        cases course
        exact ordered_ofPool ..
    next =>
      cases course
      exact Schema.ordered_empty

/-- Every relation of an introspected schema is found under its own name and schema, also when it has no
schema and others of its name do; and a lookup finds nothing exactly when no relation has the name, in
the schema if one is given. -/
theorem introspect_finds {start : Rat} {engine : Engine} {connection : Connection} {budget : Binary64}
    {concurrency : Int} {found : Introspection}
    (course : introspectFrom start engine connection budget concurrency = .ok found) :
    (∀ table ∈ found.schema.tables, found.schema.table? table.name table.schema = some table) ∧
    (∀ view ∈ found.schema.views, found.schema.view? view.name view.schema = some view) ∧
    ∀ (name : String) (inSchema : Option String),
      (found.schema.table? name inSchema = none ↔ ¬ ∃ table ∈ found.schema.tables,
        table.name = name ∧ (inSchema = none ∨ table.schema = inSchema)) ∧
      (found.schema.view? name inSchema = none ↔ ¬ ∃ view ∈ found.schema.views,
        view.name = name ∧ (inSchema = none ∨ view.schema = inSchema)) := by
  have ordered := introspectFrom_ordered course
  exact ⟨fun table member => find?_fitsLookup_of_mem ordered.tables member,
    fun view member => find?_fitsLookup_of_mem ordered.views member,
    fun name inSchema => ⟨find?_fitsLookup_eq_none_iff, find?_fitsLookup_eq_none_iff⟩⟩

/-- A catalog that lists a table t in the schema s, and then another one whose schema is null. -/
def namesakes : Connection := fun _ call =>
  { answer := .ok (.list (if call.sql = Postgres.tablesQuery then
      [Value.text "s", .null].map fun schema =>
        .mapping [(.name "table_name", .text "t"), (.name "table_schema", schema)]
      else [])) }

theorem listsBoth_namesakes :
    ListsBoth 0 (.ofDialect .postgres) namesakes (.infinite false)
      [{ name := "t", schema := some "s" }, { name := "t" }] [] where
  works := rfl
  tables := ⟨rfl, by decide +kernel⟩
  views := ⟨rfl, by decide +kernel⟩

/-- The table without a schema comes first, although it is listed last. -/
theorem tables_namesakes :
    ∃ found, introspectFrom 0 (.ofDialect .postgres) namesakes (.infinite false) 1 = .ok found ∧
      found.schema.tables = [{ name := "t" }, { name := "t", schema := some "s" }] := by
  refine ⟨_, @ListsBoth.introspectFrom_eq _ _ _ _ 1 _ _ listsBoth_namesakes le_rfl, ?_⟩
  rw [describeAll_eq]
  refine sortedByKey_eq_of_perm ?_ (by decide +kernel)
  have described : tablesOf (((describingPool (.ofDialect .postgres) namesakes 1
      [{ name := "t", schema := some "s" }, { name := "t" }] []).runUntil none
        (viewsListedFrom 0 (.ofDialect .postgres) namesakes (.infinite false)).2.now).2.results.filterMap
      id) = [{ name := "t", schema := some "s" }, { name := "t" }] := by
    decide +kernel
  exact described ▸ .swap _ _ []

theorem introspect_finds_namesakes :
    ∃ found, introspectFrom 0 (.ofDialect .postgres) namesakes (.infinite false) 1 = .ok found ∧
      found.schema.table? "t" none = some { name := "t" } ∧
      found.schema.table? "t" (some "s") = some { name := "t", schema := some "s" } ∧
      found.schema.table? "t" (some "") = none := by
  obtain ⟨found, course, tables⟩ := tables_namesakes
  obtain ⟨own, -, missing⟩ := introspect_finds course
  refine ⟨found, course, own { name := "t" } ?_, own { name := "t", schema := some "s" } ?_,
    (missing "t" (some "")).1.2 ?_⟩ <;> simp [tables]

end QueryDesk.Catalog
