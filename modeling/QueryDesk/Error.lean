/-
Module: QueryDesk.Error
Purpose: The errors that callers see, each with the cause it stands for, and the code, the message
  and the details that it is reported with.
Imports: QueryDesk.Value.Text
Main exports: ErrorCode, DeskError, DeskError.code, DeskError.message, DeskError.details,
  ErrorResponse, DeskError.response
-/
import QueryDesk.Value.Text

namespace QueryDesk

/-- The code under which an error is reported. -/
inductive ErrorCode where
  | badSyntax
  | forbidden
  | invalidInput
  | introspection
  | executionTimeout
  | execution
  | unsupportedDialect
deriving Repr, Inhabited, DecidableEq

namespace ErrorCode

/-- The text of a code. -/
def text : ErrorCode → String
  | .badSyntax => "SYNTAX_ERROR"
  | .forbidden => "FORBIDDEN"
  | .invalidInput => "INVALID_INPUT"
  | .introspection => "INTROSPECTION_ERROR"
  | .executionTimeout => "EXECUTION_TIMEOUT"
  | .execution => "EXECUTION_ERROR"
  | .unsupportedDialect => "UNSUPPORTED_DIALECT"

/-- All codes. -/
def all : List ErrorCode :=
  [.badSyntax, .forbidden, .invalidInput, .introspection, .executionTimeout, .execution,
    .unsupportedDialect]

/-- The code with a text. -/
def ofText? (code : String) : Option ErrorCode :=
  all.find? fun known => known.text == code

end ErrorCode

/-- Why a request failed. -/
inductive DeskError where
  | parse (sql message : String) (line column : Option Int)
  | forbidden (reason : String)
  | invalidInput (reason : String)
  | introspection (relation cause : String)
  | timedOut (seconds : Number.Measure)
  | execution (cause : String)
  | unsupportedDialect (clientType : String) (available : List String)
  | reported (code : ErrorCode) (reason : String) (details : Option Mapping)
deriving Repr, Inhabited, BEq

namespace DeskError

/-- The statement was refused because it does not read. -/
def readsOnly : DeskError :=
  .forbidden "Only SELECT queries are allowed in the SQL editor"

/-- The code of an error. -/
def code : DeskError → ErrorCode
  | .parse _ _ _ _ => .badSyntax
  | .forbidden _ => .forbidden
  | .invalidInput _ => .invalidInput
  | .introspection _ _ => .introspection
  | .timedOut _ => .executionTimeout
  | .execution _ => .execution
  | .unsupportedDialect _ _ => .unsupportedDialect
  | .reported code _ _ => code

/-- The message of an error. A driver's own words are passed through. -/
def message : DeskError → String
  | .parse _ message _ _ => message
  | .forbidden reason => reason
  | .invalidInput reason => reason
  | .introspection relation cause => s!"Failed to introspect '{relation}': {cause}"
  | .timedOut seconds =>
    s!"Query execution timed out after {seconds.text} seconds. " ++
      "Try narrowing the filters or lowering the page size."
  | .execution cause => cause
  | .unsupportedDialect clientType available =>
    s!"Client type '{clientType}' is not supported. Available: " ++ ", ".intercalate available
  | .reported _ reason _ => reason

/-- The details of an error, absent where the message says everything. -/
def details : DeskError → Option Mapping
  | .parse sql _ line column =>
    some [(.name "sql", .text sql), (.name "line", .ofInt? line), (.name "column", .ofInt? column)]
  | .introspection relation _ => some [(.name "relation", .text relation)]
  | .timedOut seconds => some [(.name "timeout_seconds", .ofMeasure seconds)]
  | .unsupportedDialect _ available =>
    some [(.name "available_client_types", .ofTexts available)]
  | .reported _ _ details => details
  | _ => none

end DeskError

/-- The body that an error is answered with. -/
structure ErrorResponse where
  success : Bool
  code : ErrorCode
  message : String
  details : Option Mapping
deriving Repr, Inhabited, BEq

/-- The response to an error. -/
def DeskError.response (error : DeskError) : ErrorResponse :=
  ⟨false, error.code, error.message, error.details⟩

end QueryDesk
