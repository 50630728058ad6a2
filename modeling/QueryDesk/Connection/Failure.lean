/-
Module: QueryDesk.Connection.Failure
Purpose: Failures that reach the library from a database driver or arise while an answer is read,
  with their texts, and the ones that mean that a statement ran out of time.
Imports: QueryDesk.Number.Numeral, QueryDesk.Value.Text
Main exports: FailureKind, Failure, Failure.text, Failure.isTimeout, Failure.longNumeral,
  Failure.longInteger
-/
import QueryDesk.Number.Numeral
import QueryDesk.Value.Text

namespace QueryDesk

open QueryDesk.Number QueryDesk.Text

/-- What kind of thing went wrong. The canceled query and the Postgres error come from the Postgres
driver, the operational and the programming error from the MySQL driver, and the file error from
the SQLite driver. The four after it arise while an answer is read, and the last one while a
statement is written. -/
inductive FailureKind where
  | runtime
  | badValue
  | missingKey
  | timeout
  | general
  | queryCanceled
  | postgresError
  | mysqlOperational
  | mysqlProgramming
  | sqliteOperational
  | outOfRange
  | missingMember
  | overflow
  | wrongType
  | unsupported
deriving Repr, Inhabited, DecidableEq

/-- A failure with its arguments. Each of them is taken to have a text: none holds an integer that is
too long to be written. -/
structure Failure where
  kind : FailureKind
  arguments : List Value
deriving Repr, Inhabited, BEq

/-- The name that a failure goes by when it has no text. -/
def FailureKind.label : FailureKind → String
  | .runtime => "RuntimeError"
  | .badValue => "ValueError"
  | .missingKey => "KeyError"
  | .timeout => "TimeoutError"
  | .general => "Exception"
  | .queryCanceled => "QueryCanceledError"
  | .postgresError => "PostgresSyntaxError"
  | .mysqlOperational => "OperationalError"
  | .mysqlProgramming => "ProgrammingError"
  | .sqliteOperational => "OperationalError"
  | .outOfRange => "IndexError"
  | .missingMember => "AttributeError"
  | .overflow => "OverflowError"
  | .wrongType => "TypeError"
  | .unsupported => "UnsupportedError"

namespace Failure

/-- The text of a failure: nothing without arguments, the text of a single argument (its literal
form for a missing key), and the tuple of several ones. -/
def text (failure : Failure) : String :=
  match failure.arguments with
  | [] => ""
  | [only] =>
    match failure.kind with
    | .missingKey => String.ofList only.literal
    | _ => only.display
  | several => String.ofList (tupleForm (Value.literals several))

/-- Codes of interrupted statements in MySQL: the execution time was exceeded, or the query was
interrupted. -/
def mysqlTimeoutCodes : List Int := [3024, 1317]

/-- Whether a first argument is the code of an interrupted statement. -/
def isTimeoutCode : Value → Bool
  | .int code => mysqlTimeoutCodes.contains code
  | .float code => mysqlTimeoutCodes.any fun known => code == .ofInt known
  | .decimal code => mysqlTimeoutCodes.any fun known => code.equalsInt known
  | _ => false

/-- Whether a failure means that the statement ran out of time. -/
def isTimeout (failure : Failure) : Bool :=
  match failure.kind with
  | .timeout => true
  | .queryCanceled => true
  | .mysqlOperational =>
    match failure.arguments with
    | code :: _ => isTimeoutCode code
    | [] => false
  | _ => false

/-- The failure of a clock that ran out. -/
def elapsed : Failure := ⟨.timeout, []⟩

/-- A text names no member of an enumeration. -/
def notAMember (text enumeration : String) : Failure :=
  ⟨.badValue,
    [.text (String.ofList (literalForm text.toList) ++ " is not a valid " ++ enumeration)]⟩

/-- A failure with one message. -/
def ofMessage (kind : FailureKind) (message : String) : Failure :=
  ⟨kind, [.text message]⟩

/-- A whole numeral has more digits than are read. -/
def longNumeral (digits : Nat) : Failure :=
  ofMessage .badValue (s!"Exceeds the limit ({numeralLimit} digits) for integer string conversion: " ++
    s!"value has {digits} digits; use sys.set_int_max_str_digits() to increase the limit")

/-- An integer has more digits than are written. -/
def longInteger : Failure :=
  ofMessage .badValue (s!"Exceeds the limit ({numeralLimit} digits) for integer string conversion; " ++
    "use sys.set_int_max_str_digits() to increase the limit")

end Failure

end QueryDesk
