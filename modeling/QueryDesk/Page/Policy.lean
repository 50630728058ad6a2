/-
Module: QueryDesk.Page.Policy
Purpose: The bounds on page sizes. A policy holds a default size and a greatest size, both at least
  one and the default not above the greatest, so that every clamped size lies between one and the
  greatest.
Imports: QueryDesk.Document.Reading
Main exports: PageSize, PagePolicy, PagePolicy.standard, PagePolicy.clamp, PagePolicy.read
-/
import QueryDesk.Document.Reading

namespace QueryDesk

/-- The number of rows on a page, at least one. -/
structure PageSize where
  value : Int
  one_le : 1 ≤ value
deriving Repr, DecidableEq

/-- A page size. -/
def readPageSize (value : Value) : Checked PageSize :=
  (readInt value).andThen fun n => if low : 1 ≤ n then .valid ⟨n, low⟩ else .issue .belowMinimum

namespace PageSize

/-- The size of a page when nothing is asked for. -/
def standard : PageSize := ⟨50, by decide⟩

/-- The greatest size of a page unless something else is set. -/
def standardMax : PageSize := ⟨1000, by decide⟩

end PageSize

/-- Bounds on page sizes. -/
structure PagePolicy where
  defaultSize : Int
  maxSize : Int
  one_le_default : 1 ≤ defaultSize
  default_le_max : defaultSize ≤ maxSize
deriving Repr, DecidableEq

namespace PagePolicy

/-- Fifty rows when nothing is asked for, and never more than a thousand. -/
def standard : PagePolicy :=
  ⟨PageSize.standard.value, PageSize.standardMax.value, PageSize.standard.one_le, by decide⟩

instance : Inhabited PagePolicy := ⟨standard⟩

/-- The size that a request gets: the default when none is asked for, and else the size asked for,
brought between one and the greatest. -/
def clamp (policy : PagePolicy) (requested : Option Int) : Int :=
  max 1 (min (requested.getD policy.defaultSize) policy.maxSize)

/-- The policy with two sizes; refused if the default is above the greatest. -/
def ofSizes (defaultSize maxSize : PageSize) : Checked PagePolicy :=
  if high : defaultSize.value ≤ maxSize.value then
    .valid ⟨defaultSize.value, maxSize.value, defaultSize.one_le, high⟩
  else
    .issue (.refused (s!"default_page_size ({defaultSize.value}) must not exceed " ++
      s!"max_page_size ({maxSize.value})"))

/-- A policy read from a document. -/
def read (document : Mapping) : Checked PagePolicy :=
  let sizes : Checked (PageSize × PageSize) :=
    Prod.mk
      <$> (FieldName.plain "default_page_size").optional .standard readPageSize document
      <*> (FieldName.plain "max_page_size").optional .standardMax readPageSize document
  sizes.andThen fun (defaultSize, maxSize) => ofSizes defaultSize maxSize

/-- The policy whose default is the lesser one of two sizes. -/
def ofLesser (defaultSize maxSize : PageSize) : PagePolicy :=
  ⟨min defaultSize.value maxSize.value, maxSize.value,
    by have := defaultSize.one_le; have := maxSize.one_le; omega, by omega⟩

end PagePolicy

end QueryDesk
