/-
Module: QueryDesk.Proofs.Validation.ReadOnly
Purpose: What read-only mode lets through. A warning about a WITH query that changes rows and a refusal in
  read-only mode come from two walks over the statements. They agree: what is warned about is refused, and
  a refusal that is due to no type of statement is warned about. A verdict is missing only where read-only
  mode comes to a command that cannot be written.
Imports: QueryDesk.Proofs.Validation.WellFormed
Main exports: Tree.Occurs, Tree.mem_breadthFirst_iff, ChangesRowsInBody, Passes,
  forbiddenStatement?_eq_none_iff, forbidden?_eq_none_iff, mem_warnings_iff, Stalls, CommandsWritten,
  Verdict, validate_refuses_changes
-/
import QueryDesk.Proofs.Validation.WellFormed

namespace QueryDesk

open QueryDesk.Text QueryDesk.Grammar QueryDesk.Sql

namespace Grammar.Tree

/-- A node occurs in a tree as its top node, or somewhere in a tree below it. -/
inductive Occurs (node : Tree) : Tree → Prop where
  | top : Occurs node node
  | under {info : NodeInfo} {children : List Tree} {child : Tree} (member : child ∈ children)
      (occurs : Occurs node child) : Occurs node (.node info children)

theorem occurs_node_iff {node : Tree} {info : NodeInfo} {children : List Tree} :
    Occurs node (.node info children) ↔
      node = .node info children ∨ ∃ child ∈ children, Occurs node child := by
  constructor
  · intro occurs
    cases occurs with
    | top => exact .inl rfl
    | under member occurs => exact .inr ⟨_, member, occurs⟩
  · rintro (rfl | ⟨child, member, occurs⟩)
    · exact .top
    · exact .under member occurs

/-- Levels side by side have the nodes of both. -/
theorem mem_flatten_besideLevels (node : Tree) (left right : List (List Tree)) :
    node ∈ (besideLevels left right).flatten ↔ node ∈ left.flatten ∨ node ∈ right.flatten := by
  induction left, right using besideLevels.induct with
  | case1 right => simp [besideLevels]
  | case2 left _ => cases left <;> simp [besideLevels]
  | case3 first left second right ih =>
    simp only [besideLevels, List.flatten_cons, List.mem_append, ih]
    exact or_or_or_comm

mutual

theorem mem_flatten_levels (node : Tree) : ∀ tree : Tree,
    node ∈ tree.levels.flatten ↔ Occurs node tree
  | .node info children => by
    rw [levels, List.flatten_cons, List.mem_append, List.mem_singleton,
      mem_flatten_levelsOfAll node children, occurs_node_iff]

theorem mem_flatten_levelsOfAll (node : Tree) : ∀ trees : List Tree,
    node ∈ (levelsOfAll trees).flatten ↔ ∃ tree ∈ trees, Occurs node tree
  | [] => by simp [levelsOfAll]
  | tree :: rest => by
    rw [levelsOfAll, mem_flatten_besideLevels, mem_flatten_levels node tree,
      mem_flatten_levelsOfAll node rest, List.exists_mem_cons_iff]

end

/-- The walk level by level comes to every node, at any depth, and to nothing else. -/
theorem mem_breadthFirst_iff {node tree : Tree} : node ∈ tree.breadthFirst ↔ Occurs node tree :=
  mem_flatten_levels node tree

theorem mem_ofKind_iff {node tree : Tree} {kind : NodeKind} :
    node ∈ tree.ofKind kind ↔ Occurs node tree ∧ node.kind = kind := by
  rw [ofKind, List.mem_filter, mem_breadthFirst_iff, beq_iff_eq]

end Grammar.Tree

namespace Validation

/-- A statement with a WITH query, at any depth, whose body changes rows. -/
def ChangesRowsInBody (statement : Tree) : Prop :=
  ∃ cte body, Tree.Occurs cte statement ∧ cte.kind = .cte ∧ cte.children.head? = some body ∧
    body.kind.changesRows = true

/-- What passes in read-only mode: a statement of no forbidden type, whose written form passes the gate if
it is a command, and without a WITH query that changes rows. -/
structure Passes (statement : Tree) : Prop where
  allowed : statement.kind.changesAnything = false
  reads : statement.kind = .command →
    ∃ text, statement.info.written = some text ∧ isRead text.toList = true
  bodies : ¬ ChangesRowsInBody statement

theorem exists_withBody_iff {statement : Tree} :
    (∃ body ∈ withBodies statement, body.kind.changesRows = true) ↔
      ChangesRowsInBody statement := by
  unfold withBodies ChangesRowsInBody
  simp only [List.mem_filterMap, Tree.mem_ofKind_iff]
  constructor
  · rintro ⟨body, ⟨cte, ⟨occurs, kind⟩, first⟩, changes⟩
    exact ⟨cte, body, occurs, kind, first, changes⟩
  · rintro ⟨cte, body, occurs, kind, first, changes⟩
    exact ⟨body, ⟨cte, ⟨occurs, kind⟩, first⟩, changes⟩

theorem forbiddenBody?_eq_none_iff {statement : Tree} :
    forbiddenBody? statement = none ↔ ¬ ChangesRowsInBody statement := by
  rw [forbiddenBody?, Option.map_eq_none_iff, List.find?_eq_none, ← exists_withBody_iff]
  simp only [not_exists, not_and]

/-- The check of one statement finds nothing exactly where the statement passes. -/
theorem forbiddenStatement?_eq_none_iff {statement : Tree} :
    forbiddenStatement? statement = .ok none ↔ Passes statement := by
  unfold forbiddenStatement?
  split
  next changes =>
    refine iff_of_false nofun fun passes => ?_
    rw [passes.allowed] at changes
    cases changes
  next allowed =>
    have allowed := Bool.eq_false_iff.2 allowed
    split
    next command =>
      have is_command : statement.kind = .command := beq_iff_eq.1 command
      split
      next unwritten =>
        refine iff_of_false nofun fun passes => ?_
        obtain ⟨text, written, -⟩ := passes.reads is_command
        rw [unwritten] at written
        cases written
      next text written =>
        split
        next reads =>
          rw [Except.ok.injEq, forbiddenBody?_eq_none_iff]
          exact ⟨fun bodies => ⟨allowed, fun _ => ⟨text, written, reads⟩, bodies⟩, Passes.bodies⟩
        next closed =>
          refine iff_of_false nofun fun passes => closed ?_
          obtain ⟨other, same, reads⟩ := passes.reads is_command
          rw [written] at same
          cases same
          exact reads
    next no_command =>
      rw [Except.ok.injEq, forbiddenBody?_eq_none_iff]
      exact ⟨fun bodies => ⟨allowed, fun command => absurd (beq_iff_eq.2 command) no_command, bodies⟩,
        Passes.bodies⟩

/-- The check of all statements finds nothing exactly where every statement passes. -/
theorem forbidden?_eq_none_iff {statements : List Tree} :
    forbidden? statements = .ok none ↔ ∀ statement ∈ statements, Passes statement := by
  induction statements with
  | nil => exact iff_of_true rfl nofun
  | cons statement rest ih =>
    rw [List.forall_mem_cons, ← ih, ← forbiddenStatement?_eq_none_iff, forbidden?]
    cases forbiddenStatement? statement with
    | error failure => exact iff_of_false (by rintro ⟨⟩) (by rintro ⟨⟨⟩, -⟩)
    | ok reason =>
      cases reason with
      | some words => exact iff_of_false (by rintro ⟨⟩) (by rintro ⟨⟨⟩, -⟩)
      | none => exact (and_iff_right rfl).symm

/-- Statements that stall read-only mode: those before some command pass, and the command cannot be
written, so that it cannot be judged. -/
def Stalls (statements : List Tree) : Prop :=
  ∃ front command rest, statements = front ++ command :: rest ∧
    (∀ earlier ∈ front, Passes earlier) ∧ command.kind = .command ∧ command.info.written = none

theorem unjudged_iff_stalls {statements : List Tree} : Unjudged statements ↔ Stalls statements := by
  simp only [Unjudged, Stalls, forbiddenStatement?_eq_none_iff]

/-- A statement is warned about when it changes rows under WITH, or in the body of a WITH query. -/
theorem changesRowsInWith_iff {statement : Tree} :
    changesRowsInWith statement = true ↔
      (statement.kind.changesRows = true ∧ statement.info.opensWith = true) ∨
        ChangesRowsInBody statement := by
  rw [changesRowsInWith, Bool.or_eq_true, Bool.and_eq_true, List.any_eq_true, exists_withBody_iff]

/-- The rules on the text of a statement have other words for what they find. -/
theorem writableWithWarning_notMem_scan {rules : List Rule} {text : List Char}
    (known : rules ⊆ securityRules ++ performanceRules) : writableWithWarning ∉ scan rules text := by
  have other : ∀ rule ∈ securityRules ++ performanceRules,
      rule.message ≠ writableWithWarning.message := by decide
  intro found
  obtain ⟨rule, fires, same⟩ := List.mem_map.1 found
  exact other rule (known (List.mem_filter.1 fires).1) (congrArg SqlWarning.message same)

theorem mem_warnings_iff {statements : List Tree} {text : List Char} :
    writableWithWarning ∈ scanSecurity text ++
        (if statements.any changesRowsInWith then [writableWithWarning] else []) ++
        scanPerformance text ↔
      ∃ statement ∈ statements, changesRowsInWith statement = true := by
  have security : writableWithWarning ∉ scanSecurity text :=
    writableWithWarning_notMem_scan (List.subset_append_left _ _)
  have performance : writableWithWarning ∉ scanPerformance text :=
    writableWithWarning_notMem_scan (List.subset_append_right _ _)
  rw [List.mem_append, List.mem_append, or_iff_left performance, or_iff_right security,
    ← List.any_eq_true]
  split
  next warned => exact iff_of_true (List.mem_singleton_self _) warned
  next silent => exact iff_of_false List.not_mem_nil silent

/-! ### Reports

One walk over the statements makes the warnings and another one the verdict. Both look for a WITH query that
changes rows, so that what is warned about does not pass. The verdict looks for more: statements of a
forbidden type, and commands. -/

/-- The report in read-only mode, next to the one without: it has the same warnings. What is warned about
is refused; where neither a type nor a command can be the reason of a refusal, the warning is there. The
text is valid when every statement passes. -/
structure Verdict (statements : List Tree) (advice verdict : ValidationReport) : Prop where
  warnings_eq : verdict.warnings = advice.warnings
  refused : writableWithWarning ∈ advice.warnings → verdict.isValid = false
  warned : verdict.isValid = false →
    (∀ statement ∈ statements, statement.kind.changesAnything = false ∧ statement.kind ≠ .command) →
      writableWithWarning ∈ advice.warnings
  valid_iff : verdict.isValid = true ↔ ∀ statement ∈ statements, Passes statement

/-- A statement that is warned about does not pass. -/
theorem not_passes_of_changesRowsInWith {statement : Tree}
    (warned : changesRowsInWith statement = true) : ¬ Passes statement := by
  intro passes
  rcases changesRowsInWith_iff.1 warned with ⟨changes, -⟩ | inBody
  · have allowed := passes.allowed
    cases kind : statement.kind <;> rw [kind] at changes allowed <;> cases changes <;> cases allowed
  · exact passes.bodies inBody

/-- A statement that neither its type nor its being a command keeps from passing is warned about when it
does not pass. -/
theorem changesRowsInWith_of_not_passes {statement : Tree} (refused : ¬ Passes statement)
    (allowed : statement.kind.changesAnything = false) (no_command : statement.kind ≠ .command) :
    changesRowsInWith statement = true := by
  refine changesRowsInWith_iff.2 (.inr ?_)
  by_contra quiet
  exact refused ⟨allowed, fun command => absurd command no_command, quiet⟩

variable {dialect : Dialect} {sql : String} {parsed : List (Option Tree)}

theorem validate_of_statements (readOnly : Bool) (seen : isBlankText sql.toList = false)
    (some_found : parsed.filterMap id ≠ []) :
    validate dialect readOnly sql (.ok parsed) =
      reportOn dialect readOnly sql (parsed.filterMap id) := by
  have present : statementsOf (.ok parsed) = .ok (parsed.filterMap id) := rfl
  rw [validate, if_neg (by simp [seen]), present]
  split
  next none_found => exact absurd (Except.ok.inj none_found) some_found
  next found => rw [Except.ok.inj found]
  next found => cases found
  next found => cases found

/-- Both reports come from one list of statements: the warnings from one walk over it, the verdict from
another. -/
theorem verdict_of_reportOn {statements : List Tree} {advice verdict : ValidationReport}
    (advised : reportOn dialect false sql statements = .ok advice)
    (judged : reportOn dialect true sql statements = .ok verdict) :
    Verdict statements advice verdict := by
  rw [reportOn, if_pos rfl] at judged
  cases found : forbidden? statements with
  | error failure =>
    rw [found] at judged
    cases judged
  | ok reason =>
    rw [found] at judged
    cases advised
    cases judged
    have valid : reason.isNone = true ↔ ∀ statement ∈ statements, Passes statement := by
      rw [← forbidden?_eq_none_iff, found, Option.isNone_iff_eq_none, Except.ok.injEq]
    refine ⟨rfl, fun warned => ?_, fun refused others => ?_, valid⟩
    · obtain ⟨statement, member, changes⟩ := mem_warnings_iff.1 warned
      exact Bool.eq_false_iff.2 fun passed =>
        not_passes_of_changesRowsInWith changes (valid.1 passed statement member)
    · have stopped : ¬ ∀ statement ∈ statements, Passes statement :=
        fun all => Bool.eq_false_iff.1 refused (valid.2 all)
      simp only [not_forall, exists_prop] at stopped
      obtain ⟨statement, member, stopped⟩ := stopped
      obtain ⟨allowed, no_command⟩ := others statement member
      exact mem_warnings_iff.2
        ⟨statement, member, changesRowsInWith_of_not_passes stopped allowed no_command⟩

/-- Read-only mode has a verdict on statements unless it stalls at a command that cannot be written. -/
theorem exists_verdict_iff {statements : List Tree} :
    (∃ verdict, reportOn dialect true sql statements = .ok verdict) ↔ ¬ Stalls statements := by
  rw [← unjudged_iff_stalls]
  rcases reportOn_cases dialect true sql statements with
    ⟨⟨-, unjudged⟩, failure, failed⟩ | ⟨judged, verdict, found, -⟩
  · rw [failed]
    exact iff_of_false (fun ⟨_, found⟩ => nomatch found) (not_not_intro unjudged)
  · exact iff_of_true ⟨verdict, found⟩ fun unjudged => judged ⟨rfl, unjudged⟩

/-- Every command among statements can be written. A parser keeps the text of what it does not parse, so that
this holds of what it finds. -/
def CommandsWritten (statements : List Tree) : Prop :=
  ∀ statement ∈ statements, statement.kind = .command → ∃ text, statement.info.written = some text

theorem CommandsWritten.not_stalls {statements : List Tree} (written : CommandsWritten statements) :
    ¬ Stalls statements := by
  rintro ⟨front, command, rest, rfl, -, kind, unwritten⟩
  obtain ⟨text, found⟩ := written command (by simp) kind
  rw [unwritten] at found
  cases found

/-- The verdict of read-only mode on the statements that a parser found, whose commands can be written. With
and without that mode there is a report. Without it there is a warning exactly where a statement changes rows
under WITH or in the body of a WITH query, at any depth; what is warned about is refused in read-only mode,
and what is refused there for neither its type nor a command is warned about. -/
theorem validate_refuses_changes (dialect : Dialect) (seen : isBlankText sql.toList = false)
    (some_found : parsed.filterMap id ≠ []) (written : CommandsWritten (parsed.filterMap id)) :
    let statements := parsed.filterMap id
    ∃ advice verdict, validate dialect false sql (.ok parsed) = .ok advice ∧
      validate dialect true sql (.ok parsed) = .ok verdict ∧ advice.isValid = true ∧
      (writableWithWarning ∈ advice.warnings ↔ ∃ statement ∈ statements,
        (statement.kind.changesRows = true ∧ statement.info.opensWith = true) ∨
          ChangesRowsInBody statement) ∧
      Verdict statements advice verdict := by
  intro statements
  rw [validate_of_statements false seen some_found, validate_of_statements true seen some_found]
  obtain ⟨verdict, judged⟩ := (@exists_verdict_iff dialect sql statements).2 written.not_stalls
  refine ⟨_, verdict, rfl, judged, rfl, ?_, verdict_of_reportOn rfl judged⟩
  simp only [← changesRowsInWith_iff]
  exact mem_warnings_iff

/-- A query over a WITH query whose body inserts rows. -/
def insertingSelect : Tree :=
  .node { kind := .other "select" }
    [.node { kind := .cte, aliasName := "x" } [.node { kind := .insert } []]]

theorem changesRowsInBody_insertingSelect : ChangesRowsInBody insertingSelect :=
  ⟨_, _, .under (List.mem_singleton_self _) .top, rfl, rfl, rfl⟩

/-- A command that shows something, written as it was read. -/
def showCommand : Tree :=
  .node { kind := .command, name := "SHOW", written := some "SHOW tables" } []

/-- Behind a command that passes, the query is warned about, and refused in read-only mode. -/
theorem validate_refuses_insertingSelect :
    isBlankText "SHOW tables; WITH x AS (INSERT INTO t VALUES (1)) SELECT 1".toList = false ∧
    [some showCommand, some insertingSelect].filterMap id ≠ [] ∧
    CommandsWritten ([some showCommand, some insertingSelect].filterMap id) ∧
    ∃ advice verdict,
      validate .postgres false "SHOW tables; WITH x AS (INSERT INTO t VALUES (1)) SELECT 1"
        (.ok [some showCommand, some insertingSelect]) = .ok advice ∧
      validate .postgres true "SHOW tables; WITH x AS (INSERT INTO t VALUES (1)) SELECT 1"
        (.ok [some showCommand, some insertingSelect]) = .ok verdict ∧
      writableWithWarning ∈ advice.warnings ∧ verdict.isValid = false := by
  have seen : isBlankText "SHOW tables; WITH x AS (INSERT INTO t VALUES (1)) SELECT 1".toList = false := by
    decide
  have some_found : [some showCommand, some insertingSelect].filterMap id ≠ [] := List.cons_ne_nil _ _
  have written : CommandsWritten ([some showCommand, some insertingSelect].filterMap id) := by
    intro statement member kind
    rcases List.mem_cons.1 member with rfl | member
    · exact ⟨_, rfl⟩
    · obtain rfl := List.mem_singleton.1 member
      cases kind
  obtain ⟨advice, verdict, advised, judged, -, warned, agrees⟩ :=
    validate_refuses_changes .postgres seen some_found written
  have warning := warned.2 ⟨insertingSelect, List.mem_cons_of_mem _ (List.mem_singleton_self _),
    .inr changesRowsInBody_insertingSelect⟩
  exact ⟨seen, some_found, written, advice, verdict, advised, judged, warning, agrees.refused warning⟩

end Validation

end QueryDesk
