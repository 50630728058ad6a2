/-
Module: QueryDesk.Page.Directive
Purpose: The page that a query is bounded to, the query that encodes it, and the page numbers of a
  result whose total size is known.
Imports: QueryDesk.Page.Policy
Main exports: PageDirective, PagedQuery, PageMeta, rowOffset, PageDirective.ofPage, PageMeta.ofTotal?
-/
import QueryDesk.Page.Policy

namespace QueryDesk

open QueryDesk.Number

/-- How many rows to return, and from which row on. -/
structure PageDirective where
  limit : Int
  offset : Int := 0
  serverSide : Bool := true
deriving Repr, Inhabited, DecidableEq

/-- A query and the page that it encodes. -/
structure PagedQuery where
  sql : String
  directive : PageDirective
deriving Repr, Inhabited, DecidableEq

/-- The page numbers of a result. -/
structure PageMeta where
  page : Int
  pageSize : Int
  totalRows : Int
  totalPages : Int
  hasNext : Bool
  hasPrevious : Bool
deriving Repr, Inhabited, DecidableEq

/-- The offset of the first row of a page, counted from page one. -/
def rowOffset (page pageSize : Int) : Int :=
  (page - 1) * pageSize

/-- The directive of a page number and a page size. A missing number and one below one mean the
first page, a missing size and zero the default size. -/
def PageDirective.ofPage (policy : PagePolicy) (page pageSize : Option Int) : PageDirective :=
  let size := policy.clamp (pageSize.filter (· ≠ 0))
  let current := max 1 ((page.filter (· ≠ 0)).getD 1)
  { limit := size, offset := rowOffset current size }

/-- The binary64 quotient of an integer by a positive one. -/
def quotient (total size : Int) : Binary64 :=
  .ofRatio (total < 0) total.natAbs size.natAbs

/-- The number of pages that a total fills: the quotient, rounded up. Without a page size there are
no pages, and a quotient beyond all finite numbers has no number of pages. -/
def pageCount? (totalRows pageSize : Int) : Option Int :=
  if pageSize ≤ 0 then some 0 else (quotient totalRows pageSize).ceil?

/-- The page numbers of a result of known size. -/
def PageMeta.ofTotal? (page pageSize totalRows : Int) : Option PageMeta :=
  (pageCount? totalRows pageSize).map fun totalPages =>
    { page := page
      pageSize := pageSize
      totalRows := totalRows
      totalPages := totalPages
      hasNext := page < totalPages
      hasPrevious := 1 < page }

end QueryDesk
