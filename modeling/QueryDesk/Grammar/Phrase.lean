/-
Module: QueryDesk.Grammar.Phrase
Purpose: Phrases of SQL: what is built from tokens. A phrase is a label over its parts, in the order
  in which they are walked; a WITH clause comes last there, though it is written first.
Imports: QueryDesk.Grammar.Tree
Main exports: Name, Operator, Label, Phrase, Phrase.attach, Phrase.rebuild, Phrase.outline
-/
import QueryDesk.Grammar.Tree

namespace QueryDesk.Grammar

/-- A name, which may be quoted. -/
structure Name where
  text : String
  quoted : Bool
deriving Repr, Inhabited, DecidableEq

/-- An operator between two operands. -/
inductive Operator where
  | or
  | and
  | equal
  | unequal
  | less
  | lessEqual
  | greater
  | greaterEqual
  | like
  | is
  | plus
  | minus
  | times
  | over
deriving Repr, Inhabited, DecidableEq

namespace Operator

/-- How an operator is written. -/
def text : Operator → String
  | .or => "OR"
  | .and => "AND"
  | .equal => "="
  | .unequal => "<>"
  | .less => "<"
  | .lessEqual => "<="
  | .greater => ">"
  | .greaterEqual => ">="
  | .like => "LIKE"
  | .is => "IS"
  | .plus => "+"
  | .minus => "-"
  | .times => "*"
  | .over => "/"

/-- How tightly an operator binds. -/
def level : Operator → Nat
  | .or => 1
  | .and => 2
  | .equal => 3
  | .unequal => 3
  | .less => 4
  | .lessEqual => 4
  | .greater => 4
  | .greaterEqual => 4
  | .is => 3
  | .like => 5
  | .plus => 6
  | .minus => 6
  | .times => 7
  | .over => 7

/-- Whether an operator compares two values. -/
def compares (operator : Operator) : Bool :=
  operator != .is && (operator.level == equal.level || operator.level == less.level)

/-- All operators. -/
def all : List Operator :=
  [.or, .and, .equal, .unequal, .less, .lessEqual, .greater, .greaterEqual, .like, .is, .plus,
    .minus, .times, .over]

end Operator

/-- What a phrase is, its parts apart. -/
inductive Label where
  | integer (digits : String)
  | text (content : String)
  | null
  | truth (value : Bool)
  | parameter (name : String)
  | star
  | starOf (table : Name)
  | column (table : Option Name) (name : Name)
  | call (function : String)
  | enclosed
  | negation
  | negative
  | operation (operator : Operator)
  | among
  | within
  | between
  | renamed (aliasName : Name)
  | subquery (aliasName : Option Name)
  | table (schema : Option Name) (name : Name) (aliasName : Option Name)
  | tableColumns (names : List Name)
  | values
  | row
  | select (distinct : Bool) (top : Option String)
  | union (all : Bool)
  | insert
  | update
  | delete
  | drop (relation : String) (ifExists : Bool)
  | describe
  | commit
  | command (name : String)
  | source
  | join (side : Option String)
  | condition
  | grouping
  | having
  | ordering
  | ordered (direction : Option String)
  | limit
  | offset
  | fetch
  | returning
  | definitions
  | definition (name : Name)
deriving Repr, Inhabited, DecidableEq

/-- A label over the parts of a phrase. -/
inductive Phrase where
  | node (label : Label) (parts : List Phrase)
deriving Repr, Inhabited

namespace Label

/-- What a check sees of a label. -/
def info : Label → NodeInfo
  | .insert => { kind := .insert }
  | .update => { kind := .update }
  | .delete => { kind := .delete }
  | .drop _ _ => { kind := .drop }
  | .command name => { kind := .command, name := name }
  | .definition name => { kind := .cte, aliasName := name.text }
  | .table _ name _ => { kind := .table, name := name.text }
  | .column _ name => { kind := .column, name := name.text }
  | .starOf _ => { kind := .column, name := "*" }
  | .select _ _ => { kind := .other "select" }
  | .union _ => { kind := .other "union" }
  | .describe => { kind := .other "describe" }
  | .commit => { kind := .other "commit" }
  | _ => { kind := .other "phrase" }

/-- The place of a clause below the items of a query, which is one for each kind of clause. What is no
clause has none. -/
def clausePlace : Label → Option Nat
  | .source => some 0
  | .join _ => some 1
  | .condition => some 2
  | .grouping => some 3
  | .having => some 4
  | .returning => some 5
  | .ordering => some 6
  | .limit => some 7
  | .offset => some 8
  | .fetch => some 9
  | _ => none

/-- Whether a part of a query stands on lines of its own below the items. -/
def isClause (label : Label) : Bool := label.clausePlace.isSome

end Label

namespace Phrase

/-- A phrase without parts. -/
def leaf (label : Label) : Phrase := .node label []

/-- A phrase with more parts after its own. -/
def attach (more : List Phrase) : Phrase → Phrase
  | .node label parts => .node label (parts ++ more)

/-- What a phrase is, its parts apart. -/
def label : Phrase → Label
  | .node label _ => label

/-- The parts of a phrase. -/
def parts : Phrase → List Phrase
  | .node _ parts => parts

mutual

/-- A phrase put together anew from its parts upwards, with a step at each label. -/
def rebuild (step : Label → List Phrase → Phrase) : Phrase → Phrase
  | .node label parts => step label (rebuildAll step parts)

/-- Phrases put together anew. -/
def rebuildAll (step : Label → List Phrase → Phrase) : List Phrase → List Phrase
  | [] => []
  | part :: rest => rebuild step part :: rebuildAll step rest

end

mutual

/-- A phrase as a tree, whose nodes have no written form of their own. -/
def outline : Phrase → Tree
  | .node label parts => .node label.info (outlines parts)

/-- Phrases as trees. -/
def outlines : List Phrase → List Tree
  | [] => []
  | part :: rest => outline part :: outlines rest

end

/-- A statement as a tree with its written form. -/
def tree (written : String) (phrase : Phrase) : Tree :=
  match phrase.outline with
  | .node info children => .node { info with written := some written } children

end Phrase

end QueryDesk.Grammar
