/-
Module: QueryDesk.Service.Settings
Purpose: The settings of the service: page sizes, limits of time, the bounds of introspections, logs
  and audits. They are read from named values, or from variables of the environment and of a file,
  where the environment wins.
Imports: QueryDesk.Page.Policy, QueryDesk.Text.Case, QueryDesk.Value.Text,
  QueryDesk.Service.EnvFile
Main exports: IntrospectionBounds, Settings, Settings.read, Settings.ofVariables, Settings.policy,
  Settings.bounds, Settings.write
-/
import QueryDesk.Page.Policy
import QueryDesk.Text.Case
import QueryDesk.Value.Text
import QueryDesk.Service.EnvFile

namespace QueryDesk

open QueryDesk.Number QueryDesk.Text

/-- The bounds of one introspection: seconds for all of it, and how many relations are described at
the same time. -/
structure IntrospectionBounds where
  budget : Binary64
  concurrency : Int
deriving Repr, Inhabited, DecidableEq

/-- The seconds that an introspection may take unless something else is set. -/
def standardBudget : Binary64 := .ofInt 60

/-- The count of workers unless something else is set. -/
def standardConcurrency : Int := 4

/-- The greatest count of workers. -/
def maxConcurrency : Int := 32

namespace IntrospectionBounds

/-- Bounds read from a document. -/
def read (document : Mapping) : Checked IntrospectionBounds :=
  IntrospectionBounds.mk
    <$> (FieldName.plain "budget_seconds").optional standardBudget readPositiveNumber document
    <*> (FieldName.plain "concurrency").optional standardConcurrency
      (readIntBetween 1 maxConcurrency) document

/-- Bounds as a document. -/
def write (bounds : IntrospectionBounds) : Value :=
  .ofFields [("budget_seconds", .float bounds.budget), ("concurrency", .int bounds.concurrency)]

end IntrospectionBounds

/-- The settings of the service. -/
structure Settings where
  defaultPageSize : PageSize
  maxPageSize : PageSize
  queryTimeout : Binary64
  slowQuery : Binary64
  introspectionBudget : Binary64
  introspectionConcurrency : Int
  logLevel : String
  logFormat : String
  auditStorage : String
  auditFilePath : Option String
deriving Repr, DecidableEq

/-- The names of log levels, in alphabetical order. -/
def logLevelNames : List String :=
  ["CRITICAL", "DEBUG", "ERROR", "INFO", "WARNING"]

/-- The name of a log level, in upper case. -/
def readLogLevel (value : Value) : Checked String :=
  (readText value).andThen fun text =>
    let name := upperString text
    if logLevelNames.contains name then .valid name
    else
      .issue (.refused ("log_level must be one of " ++
        String.ofList (Value.ofTexts logLevelNames).literal))

/-- A text in lower case. -/
def readLowered (value : Value) : Checked String :=
  (readText value).map lowerString

namespace Settings

/-- The settings of named values. -/
def read (document : Mapping) : Checked Settings :=
  Settings.mk
    <$> (FieldName.plain "default_page_size").optional .standard readPageSize document
    <*> (FieldName.plain "max_page_size").optional .standardMax readPageSize document
    <*> (FieldName.plain "query_timeout_seconds").optional (.ofInt 30) readPositiveNumber document
    <*> (FieldName.plain "slow_query_seconds").optional (.ofInt 5) readPositiveNumber document
    <*> (FieldName.plain "introspection_budget_seconds").optional standardBudget
      readPositiveNumber document
    <*> (FieldName.plain "introspection_concurrency").optional standardConcurrency
      (readIntBetween 1 maxConcurrency) document
    <*> (FieldName.plain "log_level").optional "INFO" readLogLevel document
    <*> (FieldName.plain "log_format").optional "text" readLowered document
    <*> (FieldName.plain "audit_storage").optional "stdout" readLowered document
    <*> (FieldName.plain "audit_file_path").optional none (readNullable readText) document

/-- What the names of variables begin with, in lower case. -/
def variablePrefix : String := "sqlscope_"

/-- The names of the fields. -/
def fieldNames : List String :=
  ["default_page_size", "max_page_size", "query_timeout_seconds", "slow_query_seconds",
    "introspection_budget_seconds", "introspection_concurrency", "log_level", "log_format",
    "audit_storage", "audit_file_path"]

/-- The names of the variables, in upper case. -/
def variableNames : List String :=
  fieldNames.map fun name => upperString (variablePrefix ++ name)

/-- The named value of a variable, if its name begins as it should, whatever its letter case. -/
def ofVariable? (name : String) (value : Option String) : Option (Key × Value) :=
  let lowered := (lowerString name).toList
  if variablePrefix.toList.isPrefixOf lowered then
    some (.name (String.ofList (lowered.drop variablePrefix.length)), .ofText? value)
  else none

/-- The named values of variables. Of two variables with one name the later one counts, and it does
not count if it has no value. -/
def ofBindings (bindings : List (String × Option String)) : Mapping :=
  (Mapping.ofPairs (bindings.filterMap fun (name, value) => ofVariable? name value)).filter
    fun entry => entry.2 != .null

/-- The settings of an environment and of a file of variables. -/
def ofVariables (environment : List (String × String)) (file : Option String) :
    Checked Settings :=
  let fromFile := ofBindings ((file.map (readEnvFile environment)).getD [])
  let fromEnvironment := ofBindings (environment.map fun (name, value) => (name, some value))
  read (Mapping.ofPairs (fromFile ++ fromEnvironment))

/-- The policy of page sizes. -/
def policy (settings : Settings) : PagePolicy :=
  .ofLesser settings.defaultPageSize settings.maxPageSize

/-- The bounds of introspections. -/
def bounds (settings : Settings) : IntrospectionBounds :=
  ⟨settings.introspectionBudget, settings.introspectionConcurrency⟩

/-- The settings as a document. -/
def write (settings : Settings) : Value :=
  .ofFields
    [("default_page_size", .int settings.defaultPageSize.value),
      ("max_page_size", .int settings.maxPageSize.value),
      ("query_timeout_seconds", .float settings.queryTimeout),
      ("slow_query_seconds", .float settings.slowQuery),
      ("introspection_budget_seconds", .float settings.introspectionBudget),
      ("introspection_concurrency", .int settings.introspectionConcurrency),
      ("log_level", .text settings.logLevel), ("log_format", .text settings.logFormat),
      ("audit_storage", .text settings.auditStorage),
      ("audit_file_path", .ofText? settings.auditFilePath)]

/-- The settings with the policy and the bounds that follow from them, as a document. -/
def writeAll (settings : Settings) : Value :=
  match settings.write with
  | .mapping fields =>
    .mapping (fields ++
      [(.name "pagination_policy",
          .ofFields [("default_page_size", .int settings.policy.defaultSize),
            ("max_page_size", .int settings.policy.maxSize)]),
        (.name "introspection", settings.bounds.write)])
  | other => other

end Settings

end QueryDesk
