/-
Module: QueryDesk.Proofs.Catalog.Omissions
Purpose: What a failure costs an introspection. It always has a result. A test of the connection that
  raises empties the schema, a listing that raises costs the relations of its kind, and a description
  that raises costs its own relation and no other.
Imports: QueryDesk.Proofs.Catalog.Partial
Main exports: Raises, Procedure.Straight.raises_iff, OmitsOnly, omitsOnly_describedExcept,
  Introspection.Describes, ListsBoth.describes, introspect_omits
-/
import QueryDesk.Proofs.Catalog.Partial

namespace QueryDesk.Catalog

open QueryDesk.Number QueryDesk.Sql

variable {α : Type} {start now : Rat} {dialect : Dialect} {engine : Engine} {connection : Connection}
  {budget : Binary64} {concurrency : Int} {phase : Phase} {tables views refs : List RelationRef}

/-- A procedure raises on a connection when one of its calls does, or when an answer cannot be
interpreted, so that it ends with a failure itself. -/
def Raises (connection : Connection) (phase : Phase) (procedure : Procedure α) : Prop :=
  (∃ failure, .error failure ∈ procedure.heard (connection.during phase) 0) ∨
    ∃ failure, (connection.traceOf phase procedure).outcome = .error failure

/-- A procedure without handlers raises when it ends with a failure, and only then. -/
theorem Procedure.Straight.raises_iff {procedure : Procedure α} (straight : procedure.Straight) :
    Raises connection phase procedure ↔
      ∃ failure, (connection.traceOf phase procedure).outcome = .error failure := by
  constructor
  · rintro (⟨failure, raised⟩ | ended)
    · exact straight.fails raised []
    · exact ended
  · exact Or.inr

theorem Procedure.Straight.not_raises_iff {procedure : Procedure α} (straight : procedure.Straight) :
    ¬ Raises connection phase procedure ↔
      ∃ found, (connection.traceOf phase procedure).outcome = .ok found := by
  rw [straight.raises_iff]
  cases (connection.traceOf phase procedure).outcome <;> simp

/-- Without handlers, it can be computed whether a procedure raises. -/
theorem Procedure.Straight.raises_iff_isSome {procedure : Procedure α}
    (straight : procedure.Straight) :
    Raises connection phase procedure ↔
      (connection.traceOf phase procedure).outcome.toOption.isSome = false := by
  rw [straight.raises_iff]
  cases (connection.traceOf phase procedure).outcome <;> simp [Except.toOption]

/-- A listing that raises comes to nothing. -/
theorem Lists.eq_nil_of_raises {listing : Procedure (List RelationRef)} (straight : listing.Straight)
    (raises : Raises connection phase listing)
    (lists : Lists (connection.traceOf phase listing).outcome refs) : refs = [] := by
  obtain ⟨failure, failed⟩ := straight.raises_iff.1 raises
  rcases lists.cases with ok | ⟨-, -, -, empty⟩
  · rw [failed] at ok
    cases ok
  · exact empty

/-! ### Omitted relations

What is found is compared with what is described, relation by relation. No two relations of a listing have
one key, so that the key of a found relation tells whose description it is, and a failure of another one
cannot have cost it. -/

/-- Listed relations with different keys are found as they are described, except for those whose tasks
are left and those whose description raises. The tasks are counted from a number on. -/
structure OmitsOnly (left : Finset Nat) (connection : Connection)
    (describe : RelationRef → Procedure α) (key : α → RelationKey) (first : Nat)
    (refs : List RelationRef) (found : List α) : Prop where
  present_iff : ∀ index ref, refs[index]? = some ref →
    ((∃ item ∈ found, key item = ref.key) ↔
      first + index ∉ left ∧ ¬ Raises connection (.relation (first + index)) (describe ref))
  described : ∀ item ∈ found, ∃ index ref, refs[index]? = some ref ∧ key item = ref.key ∧
    (connection.traceOf (.relation (first + index)) (describe ref)).outcome = .ok item

/-- A failed description costs its own relation and no other. -/
theorem omitsOnly_describedExcept {describe : RelationRef → Procedure α} {key : α → RelationKey}
    (straight : ∀ ref, (describe ref).Straight)
    (keeps : ∀ ref ∈ refs, ∀ found, (describe ref).MayEnd (.ok found) → key found = ref.key)
    (left : Finset Nat) (connection : Connection) (first : Nat) :
    OmitsOnly left connection describe key first (firstOfEachKey RelationRef.key refs)
      (sortedByKey key (describedExcept left connection describe first
        (firstOfEachKey RelationRef.key refs))) := by
  have all := sortedByKey_perm (distinct_describedExcept keeps left connection first)
  have key_of : ∀ {index : Nat} {ref : RelationRef} {found : α},
      (firstOfEachKey RelationRef.key refs)[index]? = some ref →
      (connection.traceOf (.relation (first + index)) (describe ref)).outcome = .ok found →
      key found = ref.key := by
    intro index ref found here described
    have listed := (firstOfEachKey_spec RelationRef.key refs).2 (List.mem_of_getElem? here)
    refine keeps ref listed found ?_
    rw [← described]
    exact (describe ref).mayEnd_trace (connection.during (.relation (first + index))) 0 []
  constructor
  · intro index ref here
    rw [(straight ref).not_raises_iff]
    constructor
    · rintro ⟨item, member, same⟩
      obtain ⟨other, listed, there, ended, described⟩ := mem_describedExcept.1 (all.mem_iff.1 member)
      -- Two places with one key are one place: the list has each key once.
      obtain rfl : other = index :=
        index_of_firstOfEachKey there here ((key_of there described).symm.trans same)
      rw [here] at there
      cases there
      exact ⟨ended, item, described⟩
    · rintro ⟨ended, item, described⟩
      exact ⟨item, all.mem_iff.2 (mem_describedExcept.2 ⟨index, ref, here, ended, described⟩),
        key_of here described⟩
  · intro item member
    obtain ⟨index, ref, here, -, described⟩ := mem_describedExcept.1 (all.mem_iff.1 member)
    exact ⟨index, ref, here, key_of here described, described⟩

/-- What an introspection found of listed tables and views: all of them, but for those that raise and
those whose tasks are left. A task is left only in an introspection that is not complete, and that reaches
its deadline. -/
structure Introspection.Describes (found : Introspection) (engine : Engine) (connection : Connection)
    (deadline : Option Rat) (left : Finset Nat) (tables views : List RelationRef) : Prop where
  complete_iff : found.complete = true ↔ left = ∅
  late : left.Nonempty → ∃ limit ∈ deadline, limit ≤ found.progress.now
  ofTables : OmitsOnly left connection engine.describeTable Table.key 0
    (firstOfEachKey RelationRef.key tables) found.schema.tables
  ofViews : OmitsOnly left connection engine.describeView View.key
    (firstOfEachKey RelationRef.key tables).length (firstOfEachKey RelationRef.key views)
    found.schema.views

/-- When both listings are over in time, the schema omits what raises and what there was no time for. -/
theorem ListsBoth.describes
    (listed : ListsBoth start (.ofDialect dialect) connection budget tables views)
    (enough : 1 ≤ concurrency) {found : Introspection}
    (course : introspectFrom start (.ofDialect dialect) connection budget concurrency = .ok found) :
    ∃ left, found.Describes (.ofDialect dialect) connection (deadlineAfter start budget) left
      tables views := by
  have straight := Engine.straight_ofDialect dialect
  have keeps := Engine.keepsListedKeys_ofDialect dialect
  obtain ⟨schedule, now, pool, continues, followed, late, same⟩ := listed.exists_schedule enough
  obtain rfl := Except.ok.inj (same.symm.trans course)
  have schema := schema_of_follow continues followed budget (deadlineAfter start budget)
    (viewsListedFrom start (.ofDialect dialect) connection budget).2 now
  refine ⟨pool.left, ?_, ?_, ?_, ?_⟩
  · change (pool.pending == 0) = true ↔ pool.left = ∅
    rw [beq_iff_eq, ← Pool.card_left, Finset.card_eq_zero]
  · intro some_left
    rw [← Finset.card_pos, Pool.card_left] at some_left
    exact late some_left.ne'
  · rw [schema]
    exact omitsOnly_describedExcept straight.describeTable
      (listed.tables.lists.keeps_key keeps.table) pool.left connection 0
  · rw [schema]
    exact omitsOnly_describedExcept straight.describeView
      (listed.views.lists.keeps_key keeps.view) pool.left connection _

/-- A listing that comes to nothing leaves nothing to be found. -/
theorem OmitsOnly.eq_nil {left : Finset Nat} {describe : RelationRef → Procedure α}
    {key : α → RelationKey} {first : Nat} {found : List α}
    (omits : OmitsOnly left connection describe key first [] found) : found = [] := by
  refine List.eq_nil_iff_forall_not_mem.2 fun item member => ?_
  obtain ⟨index, ref, here, -⟩ := omits.described item member
  cases here

/-- A connection that works has passed its test without a failure. -/
theorem ListsBoth.not_raises_probe
    (listed : ListsBoth start (.ofDialect dialect) connection budget tables views) :
    ¬ Raises connection .probe (Engine.ofDialect dialect).probe := by
  have works := listed.works
  rintro (raised | ⟨failure, failed⟩)
  · obtain ⟨found, ended, silent⟩ := Engine.probe_ofDialect dialect (connection.during .probe) 0 []
    rw [Connection.traceOf, ended, silent raised] at works
    cases works
  · rw [failed] at works
    cases works

/-- An introspection never fails. A test of the connection that raises leaves the schema empty, and a
listing that raises leaves it without relations of that kind. When both listings are over in time, a
description that raises costs its own relation and no other. -/
theorem introspect_omits (start : Rat) (dialect : Dialect) (connection : Connection)
    (budget : Binary64) (enough : 1 ≤ concurrency) :
    let engine := Engine.ofDialect dialect
    ∃ found, introspectFrom start engine connection budget concurrency = .ok found ∧
      (Raises connection .probe engine.probe → found.schema = {}) ∧
      (Raises connection .tables engine.tables → found.schema.tables = []) ∧
      (Raises connection .views engine.views → found.schema.views = []) ∧
      ∀ tables views, ListsBoth start engine connection budget tables views →
        ∃ left, found.Describes engine connection (deadlineAfter start budget) left tables views := by
  intro engine
  have straight := Engine.straight_ofDialect dialect
  rcases introspectFrom_cases start dialect connection budget enough with
    ⟨-, course⟩ | ⟨-, course⟩ | ⟨tables, views, listed⟩
  · exact ⟨_, course, fun _ => rfl, fun _ => rfl, fun _ => rfl,
      fun _ _ listed => listed.describes enough course⟩
  · exact ⟨_, course, fun _ => rfl, fun _ => rfl, fun _ => rfl,
      fun _ _ listed => listed.describes enough course⟩
  · have course := listed.introspectFrom_eq enough
    obtain ⟨left, described⟩ := listed.describes enough course
    refine ⟨_, course, fun raises => ?_, fun raises => ?_, fun raises => ?_,
      fun _ _ listed => listed.describes enough course⟩
    · exact absurd raises listed.not_raises_probe
    · have none_listed := listed.tables.lists.eq_nil_of_raises straight.tables raises
      subst none_listed
      exact described.ofTables.eq_nil
    · have none_listed := listed.views.lists.eq_nil_of_raises straight.views raises
      subst none_listed
      exact described.ofViews.eq_nil

theorem listsBoth_sample :
    ListsBoth 0 (.ofDialect .mysql) sampleConnection (.ofInt 60) sampleTables [] where
  works := rfl
  tables := ⟨by decide +kernel, by decide +kernel⟩
  views := ⟨by decide +kernel, by decide +kernel⟩

/-- In the catalog with the tables b and a, the one that cannot be described is omitted. -/
theorem introspect_omits_sample :
    (1 : Int) ≤ 2 ∧
    Raises sampleConnection (.relation 1) (Engine.mysql.describeTable { name := "a" }) ∧
    ∃ found, introspectFrom 0 (.ofDialect .mysql) sampleConnection (.ofInt 60) 2 = .ok found ∧
      (∃ item ∈ found.schema.tables, item.key = RelationRef.key { name := "b" }) ∧
      ¬ ∃ item ∈ found.schema.tables, item.key = RelationRef.key { name := "a" } := by
  have straight := Engine.straight_mysql.describeTable
  have fails : Raises sampleConnection (.relation 1)
      (Engine.mysql.describeTable { name := "a" }) := by
    rw [(straight _).raises_iff_isSome]
    decide +kernel
  have works : ¬ Raises sampleConnection (.relation 0)
      (Engine.mysql.describeTable { name := "b" }) := by
    rw [(straight _).raises_iff_isSome]
    decide +kernel
  have whole : (introspectFrom 0 (.ofDialect .mysql) sampleConnection (.ofInt 60) 2).toOption.map
      (fun found => found.complete) = some true := by decide +kernel
  obtain ⟨found, course, -, -, -, describes⟩ :=
    @introspect_omits 2 0 .mysql sampleConnection (.ofInt 60) (by decide)
  obtain ⟨left, complete, -, tables, -⟩ := describes sampleTables [] listsBoth_sample
  rw [course] at whole
  obtain rfl : left = ∅ := complete.1 (Option.some.inj whole)
  refine ⟨by decide, fails, found, course, ?_, ?_⟩
  · exact (tables.present_iff 0 { name := "b" } (by decide)).2 ⟨Finset.notMem_empty _, works⟩
  · intro present
    exact ((tables.present_iff 1 { name := "a" } (by decide)).1 present).2 fails

end QueryDesk.Catalog
