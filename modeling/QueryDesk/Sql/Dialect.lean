/-
Module: QueryDesk.Sql.Dialect
Purpose: The SQL dialects, the client types that data sources are registered under, and the
  resolution of the one from the other.
Imports: QueryDesk.Error, QueryDesk.Text.Case
Main exports: Dialect, Dialect.name, Dialect.grammar, Dialect.ofClientType?, Dialect.resolve,
  Dialect.resolveStrict, supportedClientTypes
-/
import QueryDesk.Error
import QueryDesk.Text.Case

namespace QueryDesk

open QueryDesk.Text

/-- The variant of SQL, and of the catalog, that a data source speaks. -/
inductive Dialect where
  | postgres
  | mysql
  | sqlserver
  | sqlite
  | generic
deriving Repr, Inhabited, DecidableEq

/-- The client types under which data sources are registered, in alphabetical order. Oracle has no
grammar of its own and is approximated. -/
def clientTypes : List (String × Dialect) :=
  [("better-sqlite3", .sqlite), ("mssql", .sqlserver), ("mysql", .mysql), ("mysql2", .mysql),
    ("oracledb", .generic), ("pg", .postgres), ("postgres", .postgres),
    ("postgresql", .postgres), ("sqlite", .sqlite), ("sqlite3", .sqlite)]

/-- The names of the client types, in alphabetical order. -/
def supportedClientTypes : List String :=
  clientTypes.map Prod.fst

/-- The client type of a data source that names none. -/
def defaultClientType : String := "pg"

namespace Dialect

/-- The name of a dialect. -/
def name : Dialect → String
  | .postgres => "postgres"
  | .mysql => "mysql"
  | .sqlserver => "sqlserver"
  | .sqlite => "sqlite"
  | .generic => "generic"

/-- All dialects. -/
def all : List Dialect :=
  [.postgres, .mysql, .sqlserver, .sqlite, .generic]

/-- The dialect with a name. -/
def ofName? (text : String) : Option Dialect :=
  all.find? fun dialect => dialect.name == text

/-- The name of the grammar that parses a dialect; the base grammar has the empty name. -/
def grammar : Dialect → String
  | .postgres => "postgres"
  | .mysql => "mysql"
  | .sqlserver => "tsql"
  | .sqlite => "sqlite"
  | .generic => ""

/-- The client type that is meant: a missing or blank one is the default. -/
def effectiveClientType (clientType : Option String) : String :=
  match clientType with
  | none => defaultClientType
  | some text => if isBlankText text.toList then defaultClientType else text

/-- The dialect of a client type, or of a dialect's own name, whatever its letter case and the
blanks around it. -/
def ofClientType? (clientType : String) : Option Dialect :=
  let key := lowerString (trimString clientType)
  match clientTypes.lookup key with
  | some dialect => some dialect
  | none => ofName? key

/-- The dialect of a client type. An unknown one is generic. -/
def resolve (clientType : Option String) : Dialect :=
  (ofClientType? (effectiveClientType clientType)).getD .generic

/-- The dialect of a client type. An unknown one is refused. -/
def resolveStrict (clientType : Option String) : Except DeskError Dialect :=
  let effective := effectiveClientType clientType
  match ofClientType? effective with
  | some dialect => .ok dialect
  | none => .error (.unsupportedDialect effective supportedClientTypes)

end Dialect

end QueryDesk
