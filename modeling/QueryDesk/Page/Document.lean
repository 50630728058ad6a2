/-
Module: QueryDesk.Page.Document
Purpose: Pages as documents: how directives, paged queries and page numbers are written and read.
Imports: QueryDesk.Page.Directive
Main exports: PageDirective.write, PageDirective.read, PagedQuery.write, PagedQuery.read,
  PageMeta.write, PageMeta.read
-/
import QueryDesk.Page.Directive

namespace QueryDesk

/-- A directive as a document. -/
def PageDirective.write (spelling : Spelling) (directive : PageDirective) : Value :=
  writeRecord spelling
    [(.camel "limit", .int directive.limit), (.camel "offset", .int directive.offset),
      (.camel "server_side", .bool directive.serverSide)]

/-- A directive in a document. It asks for at least one row, from an offset that is not
negative. -/
def PageDirective.read (document : Mapping) : Checked PageDirective :=
  PageDirective.mk
    <$> (FieldName.camel "limit").required (readIntFrom 1) document
    <*> (FieldName.camel "offset").optional 0 (readIntFrom 0) document
    <*> (FieldName.camel "server_side").optional true readTruth document

/-- A paged query as a document. -/
def PagedQuery.write (spelling : Spelling) (paged : PagedQuery) : Value :=
  writeRecord spelling
    [(.camel "sql", .text paged.sql), (.camel "directive", paged.directive.write spelling)]

/-- A paged query in a document. -/
def PagedQuery.read (document : Mapping) : Checked PagedQuery :=
  PagedQuery.mk
    <$> (FieldName.camel "sql").required readText document
    <*> (FieldName.camel "directive").required (readRecord PageDirective.read) document

/-- Page numbers as a document. -/
def PageMeta.write (spelling : Spelling) (found : PageMeta) : Value :=
  writeRecord spelling
    [(.camel "page", .int found.page), (.camel "page_size", .int found.pageSize),
      (.camel "total_rows", .int found.totalRows), (.camel "total_pages", .int found.totalPages),
      (.camel "has_next", .bool found.hasNext), (.camel "has_previous", .bool found.hasPrevious)]

/-- Page numbers in a document. -/
def PageMeta.read (document : Mapping) : Checked PageMeta :=
  PageMeta.mk
    <$> (FieldName.camel "page").required readInt document
    <*> (FieldName.camel "page_size").required readInt document
    <*> (FieldName.camel "total_rows").required readInt document
    <*> (FieldName.camel "total_pages").required readInt document
    <*> (FieldName.camel "has_next").required readTruth document
    <*> (FieldName.camel "has_previous").required readTruth document

end QueryDesk
