/-
Module: QueryDesk.Grammar.Tree
Purpose: Statements as trees: each node has a kind, and may have a name, an alias and a written form.
  A tree is walked level by level, a node before its children and a level from left to right.
Imports: none
Main exports: NodeKind, NodeInfo, Tree, Tree.levels, Tree.breadthFirst, Tree.ofKind
-/

namespace QueryDesk.Grammar

/-- What a node stands for, as far as it matters to checks. -/
inductive NodeKind where
  | insert
  | update
  | delete
  | merge
  | drop
  | create
  | alter
  | truncate
  | grant
  | revoke
  | set
  | command
  | cte
  | table
  | column
  | other (name : String)
deriving Repr, Inhabited, DecidableEq

namespace NodeKind

/-- The kinds with a meaning of their own. -/
def known : List NodeKind :=
  [.insert, .update, .delete, .merge, .drop, .create, .alter, .truncate, .grant, .revoke, .set,
    .command, .cte, .table, .column]

/-- The name of a kind. -/
def name : NodeKind → String
  | .insert => "insert"
  | .update => "update"
  | .delete => "delete"
  | .merge => "merge"
  | .drop => "drop"
  | .create => "create"
  | .alter => "alter"
  | .truncate => "truncatetable"
  | .grant => "grant"
  | .revoke => "revoke"
  | .set => "set"
  | .command => "command"
  | .cte => "cte"
  | .table => "table"
  | .column => "column"
  | .other name => name

/-- The kind with a name. -/
def ofName (text : String) : NodeKind :=
  (known.find? fun kind => kind.name == text).getD (.other text)

/-- Whether a statement of a kind changes rows. -/
def changesRows : NodeKind → Bool
  | .insert => true
  | .update => true
  | .delete => true
  | .merge => true
  | _ => false

/-- Whether a statement of a kind changes anything: rows, relations, privileges or the session. -/
def changesAnything : NodeKind → Bool
  | .drop => true
  | .create => true
  | .alter => true
  | .truncate => true
  | .grant => true
  | .revoke => true
  | .set => true
  | kind => kind.changesRows

end NodeKind

/-- What a node says about itself. A node without a written form cannot be written. -/
structure NodeInfo where
  kind : NodeKind
  name : String := ""
  aliasName : String := ""
  opensWith : Bool := false
  written : Option String := some ""
deriving Repr, Inhabited, DecidableEq

/-- A node over its children. -/
inductive Tree where
  | node (info : NodeInfo) (children : List Tree)
deriving Repr, Inhabited, BEq

namespace Tree

/-- What the top node says about itself. -/
def info : Tree → NodeInfo
  | .node info _ => info

/-- The trees below the top node. -/
def children : Tree → List Tree
  | .node _ children => children

/-- The kind of the top node. -/
def kind (tree : Tree) : NodeKind := tree.info.kind

/-- Levels side by side: each level of the first before the same level of the second. -/
def besideLevels : List (List Tree) → List (List Tree) → List (List Tree)
  | [], right => right
  | left, [] => left
  | first :: left, second :: right => (first ++ second) :: besideLevels left right

mutual

/-- The nodes of a tree by level. -/
def levels : Tree → List (List Tree)
  | .node info children => [.node info children] :: levelsOfAll children

/-- The nodes of several trees by level. -/
def levelsOfAll : List Tree → List (List Tree)
  | [] => []
  | tree :: rest => besideLevels (levels tree) (levelsOfAll rest)

end

/-- The nodes of a tree, level by level. -/
def breadthFirst (tree : Tree) : List Tree :=
  tree.levels.flatten

/-- The nodes of one kind, level by level. -/
def ofKind (kind : NodeKind) (tree : Tree) : List Tree :=
  tree.breadthFirst.filter fun node => node.kind == kind

end Tree

end QueryDesk.Grammar
