/-
Module: QueryDesk.Page.Paging
Purpose: Bounding a query by editing its text. The edits are planned on masks of the text, in which
  literals, quoted names and comments are blank, and only clauses outside of all parentheses count;
  then they are applied to the text itself, so that all that they do not touch stays as it was. A
  number of too many digits to be read or written fails the whole.
Imports: QueryDesk.Connection.Failure, QueryDesk.Page.Directive, QueryDesk.Sql.Clause
Main exports: Edit, Edit.applyAll, Extent, Extent.ofMask, clampCount, planLimit, planTop, paginate,
  Conversion, conversions, boundFailure?, boundQuery
-/
import QueryDesk.Connection.Failure
import QueryDesk.Page.Directive
import QueryDesk.Sql.Clause

namespace QueryDesk.Sql

open QueryDesk.Text QueryDesk.Number

/-- An edit: a stretch of the text and what comes in its place. -/
structure Edit where
  span : Span
  text : List Char
deriving Repr, Inhabited, DecidableEq

/-- An edit that only adds. -/
def Edit.insertAt (position : Nat) (text : List Char) : Edit :=
  ⟨⟨position, position⟩, text⟩

/-- The text after edits that stand in order and do not overlap, given the position at which the
text begins. -/
def Edit.applyFrom (position : Nat) (text : List Char) : List Edit → List Char
  | [] => text
  | edit :: rest =>
    text.take (edit.span.start - position) ++ edit.text ++
      Edit.applyFrom edit.span.stop (text.drop (edit.span.stop - position)) rest

/-- The text after edits that stand in order and do not overlap. -/
def Edit.applyAll (edits : List Edit) (text : List Char) : List Char :=
  Edit.applyFrom 0 text edits

/-- Where a statement ends: behind its last character that is neither blank, nor a comment, nor one
of the semicolons that close it; and where what follows the semicolons begins. -/
structure Extent where
  body : Nat
  trailer : Nat
deriving Repr, Inhabited, DecidableEq

/-- A reversed text without its leading blanks and semicolons. -/
def dropTerminators (reversed : List Char) : List Char :=
  reversed.dropWhile fun c => c == ';' || isBlank c

/-- The extent of the statement in a text whose comments are blank. -/
def Extent.ofMask (commentMasked : List Char) : Extent :=
  ⟨(dropTerminators commentMasked.reverse).length, contentEnd commentMasked⟩

/-- Decimal digits of a number. -/
def numeral (value : Int) : List Char :=
  (toString value).toList

/-- The value of a count, if it is nothing but digits. -/
def countValue? (count : List Char) : Option Nat :=
  digitsValue? count

/-- A count that is at most the limit stays as it is; any other count becomes the limit. -/
def clampCount (limit : Int) (count : List Char) : List Char :=
  match countValue? count with
  | some value => if (value : Int) ≤ limit then count else numeral limit
  | none => numeral limit

/-- The edit that clamps a count. -/
def clampEdit (limit : Int) (masked : List Char) (span : Span) : Edit :=
  ⟨span, clampCount limit (span.slice masked)⟩

/-- The clauses that a plan looks at, the last one of each outside of all parentheses. -/
structure Clauses where
  limit : Option Hit
  top : Option Hit
  offset : Option Hit
  fetch : Option Hit
  orderBy : Option Hit
  selectHead : Option Hit
deriving Repr, Inhabited, DecidableEq

/-- The clauses of a masked statement. Of its SELECT heads the first one counts. -/
def Clauses.ofMask (masked : List Char) : Clauses :=
  { limit := lastTopLevel? limitClause masked
    top := lastTopLevel? topClause masked
    offset := lastTopLevel? offsetKeyword masked
    fetch := lastTopLevel? fetchClause masked
    orderBy := lastTopLevel? orderByClause masked
    selectHead := firstTopLevel? Sql.selectHead masked }

/-- The edits that clamp a TOP. -/
def planTop (limit : Int) (masked : List Char) (top : Hit) : List Edit :=
  match top.group? 1 with
  | some count => [clampEdit limit masked count]
  | none => []

/-- The edits that clamp a FETCH. One without a count fetches a single row. -/
def planFetch (limit : Int) (masked : List Char) (fetch : Hit) : List Edit :=
  match fetch.group? 0 with
  | some count => [clampEdit limit masked count]
  | none => []

/-- The edits that clamp a LIMIT. Of two counts the second one is the row count; one count gets the
offset after it, unless the statement has an offset of its own. -/
def planExistingLimit (limit offset : Int) (masked : List Char) (clauses : Clauses)
    (found : Hit) : List Edit :=
  match found.group? 1 with
  | some count => [clampEdit limit masked count]
  | none =>
    match found.group? 0 with
    | some count =>
      let clamped := clampEdit limit masked count
      if 0 < offset && clauses.offset.isNone then
        [⟨clamped.span, clamped.text ++ " OFFSET ".toList ++ numeral offset⟩]
      else [clamped]
    | none => []

/-- The edits that bound a statement in the dialects that have LIMIT: an existing clause is
clamped, an OFFSET without LIMIT gets one before it, and else both are put at the end. An offset
has to stand before FETCH. -/
def planLimit (limit offset : Int) (masked : List Char) : List Edit :=
  let clauses := Clauses.ofMask masked
  match clauses.limit, clauses.top, clauses.fetch, clauses.offset with
  | some found, _, _, _ => planExistingLimit limit offset masked clauses found
  | none, some top, _, _ => planTop limit masked top
  | none, none, some fetch, existing =>
    let offsetEdits :=
      if 0 < offset && existing.isNone then
        [Edit.insertAt fetch.start ("OFFSET ".toList ++ numeral offset ++ " ROWS ".toList)]
      else []
    offsetEdits ++ planFetch limit masked fetch
  | none, none, none, some existing =>
    [Edit.insertAt existing.start ("LIMIT ".toList ++ numeral limit ++ [' '])]
  | none, none, none, none =>
    [Edit.insertAt masked.length
      (" LIMIT ".toList ++ numeral limit ++ " OFFSET ".toList ++ numeral offset)]

/-- What SQL Server gets at the end of a statement: an order if there is none, an offset if there
is none, and the row count. -/
def fetchTail (limit offset : Int) (clauses : Clauses) : List Char :=
  (if clauses.orderBy.isNone then " ORDER BY (SELECT NULL)".toList else []) ++
    (if clauses.offset.isNone then " OFFSET ".toList ++ numeral offset ++ " ROWS".toList else []) ++
      " FETCH NEXT ".toList ++ numeral limit ++ " ROWS ONLY".toList

/-- The edits that bound a statement in SQL Server: an existing TOP or FETCH is clamped, a first
page gets TOP after its SELECT, and a later page OFFSET and FETCH at the end. -/
def planSqlServer (limit offset : Int) (masked : List Char) : List Edit :=
  let clauses := Clauses.ofMask masked
  match clauses.top, clauses.fetch with
  | some top, _ => planTop limit masked top
  | none, some fetch => planFetch limit masked fetch
  | none, none =>
    if offset == 0 && clauses.offset.isNone then
      match clauses.selectHead with
      | some head => [Edit.insertAt head.stop (" TOP ".toList ++ numeral limit)]
      | none => []
    else [Edit.insertAt masked.length (fetchTail limit offset clauses)]

/-- The edits that bound a masked statement. -/
def plan (dialect : Dialect) (limit offset : Int) (masked : List Char) : List Edit :=
  match dialect with
  | .sqlserver => planSqlServer limit offset masked
  | _ => planLimit limit offset masked

/-- Whether a text is left as it is: it shows or describes something, or says nothing. -/
def isUntouched (masked commentMasked : List Char) : Bool :=
  (passthrough none masked).isSome || isBlankText commentMasked

/-- The text with its statement bounded. What follows the statement comes after the edits, unless
it is blank; semicolons are dropped. -/
def boundText (dialect : Dialect) (limit offset : Int) (text : List Char) : List Char :=
  let lexis := Lexis.ofDialect dialect
  let masked := lexis.mask text
  let commentMasked := lexis.commentMask text
  if isUntouched masked commentMasked then text
  else
    let extent := Extent.ofMask commentMasked
    let bounded :=
      Edit.applyAll (plan dialect limit offset (masked.take extent.body)) (text.take extent.body)
    let trailer := text.drop extent.trailer
    if isBlankText trailer then bounded else bounded ++ trailer

/-- The directive of a request: the clamped limit, and the offset, which is never negative. -/
def directiveOf (policy : PagePolicy) (limit offset : Option Int) : PageDirective :=
  { limit := policy.clamp limit, offset := max (offset.getD 0) 0 }

/-- A query bounded to a page, with the directive that it encodes. -/
def paginate (dialect : Dialect) (policy : PagePolicy) (limit offset : Option Int) (sql : String) :
    PagedQuery :=
  let directive := directiveOf policy limit offset
  ⟨String.ofList (boundText dialect directive.limit directive.offset sql.toList), directive⟩

/-- A number that bounding a statement reads from a run of so many digits, or writes. -/
inductive Conversion where
  | read (digits : Nat)
  | write (value : Int)
deriving Repr, Inhabited, DecidableEq

/-- The failure of a conversion, if the number has too many digits. -/
def Conversion.failure? : Conversion → Option Failure
  | .read digits => if numeralLimit < digits then some (.longNumeral digits) else none
  | .write value => if Writable value then none else some .longInteger

/-- What clamping a count converts. The limit is written only in its place. -/
def clampConversions (limit : Int) (count : List Char) : List Conversion :=
  match countValue? count with
  | some value => .read count.length :: if (value : Int) ≤ limit then [] else [.write limit]
  | none => [.write limit]

/-- What clamping the count of a clause converts, if the clause has it. -/
def groupConversions (limit : Int) (masked : List Char) : Option Span → List Conversion
  | some count => clampConversions limit (count.slice masked)
  | none => []

/-- What adding an offset to an existing clause converts. -/
def offsetConversions (offset : Int) (clauses : Clauses) : List Conversion :=
  if 0 < offset && clauses.offset.isNone then [.write offset] else []

/-- What bounding a statement converts in the dialects that have LIMIT, in this order. -/
def limitConversions (limit offset : Int) (masked : List Char) : List Conversion :=
  let clauses := Clauses.ofMask masked
  match clauses.limit, clauses.top, clauses.fetch, clauses.offset with
  | some found, _, _, _ =>
    match found.group? 1 with
    | some count => clampConversions limit (count.slice masked)
    | none => offsetConversions offset clauses ++ groupConversions limit masked (found.group? 0)
  | none, some top, _, _ => groupConversions limit masked (top.group? 1)
  | none, none, some fetch, _ =>
    groupConversions limit masked (fetch.group? 0) ++ offsetConversions offset clauses
  | none, none, none, some _ => [.write limit]
  | none, none, none, none => [.write limit, .write offset]

/-- What bounding a statement converts in SQL Server, in this order. -/
def serverConversions (limit offset : Int) (masked : List Char) : List Conversion :=
  let clauses := Clauses.ofMask masked
  match clauses.top, clauses.fetch with
  | some top, _ => groupConversions limit masked (top.group? 1)
  | none, some fetch => groupConversions limit masked (fetch.group? 0)
  | none, none =>
    if offset == 0 && clauses.offset.isNone then
      if clauses.selectHead.isSome then [.write limit] else []
    else (if clauses.offset.isNone then [.write offset] else []) ++ [.write limit]

/-- What bounding a masked statement converts, in this order. -/
def conversions (dialect : Dialect) (limit offset : Int) (masked : List Char) : List Conversion :=
  match dialect with
  | .sqlserver => serverConversions limit offset masked
  | _ => limitConversions limit offset masked

/-- The failure of bounding a text: that of the first conversion that fails. -/
def boundFailure? (dialect : Dialect) (limit offset : Int) (text : List Char) : Option Failure :=
  let lexis := Lexis.ofDialect dialect
  let masked := lexis.mask text
  let commentMasked := lexis.commentMask text
  if isUntouched masked commentMasked then none
  else
    let statement := masked.take (Extent.ofMask commentMasked).body
    (conversions dialect limit offset statement).findSome? Conversion.failure?

/-- A query bounded to a page, unless one of its numbers cannot be read or written. -/
def boundQuery (dialect : Dialect) (policy : PagePolicy) (limit offset : Option Int)
    (sql : String) : Except Failure PagedQuery :=
  let directive := directiveOf policy limit offset
  match boundFailure? dialect directive.limit directive.offset sql.toList with
  | some failure => .error failure
  | none => .ok (paginate dialect policy limit offset sql)

end QueryDesk.Sql
