import SqlRender.Json.Fields
import SqlRender.Paging

/-!
# Pages

A result is shown in pages of equal size, numbered from one.  A request asks for a page
and may tell the number of rows of the whole result; a page has its records and the
totals of the result it was cut from.
-/

namespace SqlRender

/-- The number of pages of the given size that hold so many rows; there are none of size
zero. -/
def pageCount (rows size : UInt64) : UInt64 :=
  if size = 0 then 0 else UInt64.ofNat ((rows.toNat + size.toNat - 1) / size.toNat)

/-- A page of records. -/
structure Page (α : Type) where
  number : UInt64
  size : UInt64
  totalPages : UInt64
  totalRows : UInt64
  records : List α

namespace Page

variable {α β : Type}

/-- A page cut from a result of so many rows. -/
def of (records : List α) (number size totalRows : UInt64) : Page α :=
  { number, size, totalPages := pageCount totalRows size, totalRows, records }

/-- A page without records. -/
def empty (number size totalRows : UInt64) : Page α :=
  of [] number size totalRows

/-- Whether there is a page behind this one. -/
def hasNext (p : Page α) : Bool :=
  p.number < p.totalPages

/-- Whether there is a page before this one. -/
def hasPrevious (p : Page α) : Bool :=
  1 < p.number

/-- The page with its records replaced by their results under `f`. -/
def map (f : α → β) (p : Page α) : Page β :=
  { p with records := p.records.map f }

/-- The document of a page, from the documents of its records. -/
def toJson (p : Page Json) : Json :=
  .object
    [("page_number", .int p.number.toNat), ("page_size", .int p.size.toNat),
     ("total_page", .int p.totalPages.toNat), ("total_row", .int p.totalRows.toNat),
     ("records", .array p.records)]

end Page

/-- A request for a page. -/
structure PageRequest where
  number : UInt64
  size : UInt64
  /-- The number of rows of the whole result; a negative number stands for an unknown
  one. -/
  totalRows : Int64
  /-- Whether the query that counts the rows may be simplified. -/
  simplifyCount : Bool
  deriving DecidableEq

namespace PageRequest

/-- A request without a known number of rows. -/
def of (number size : UInt64) : PageRequest :=
  { number, size, totalRows := -1, simplifyCount := true }

/-- The request with a known number of rows, or the greatest number there is room for. -/
def withTotal (total : UInt64) (r : PageRequest) : PageRequest :=
  { r with totalRows := Int64.ofInt (min total.toNat Int64.maxValue.toInt) }

/-- The request with a decision on the query that counts the rows. -/
def withSimplifiedCount (b : Bool) (r : PageRequest) : PageRequest :=
  { r with simplifyCount := b }

/-- The number of rows of the whole result, if it is known. -/
def knownTotal? (r : PageRequest) : Option UInt64 :=
  Numeral.uint64? r.totalRows.toInt

/-- The number of rows before the page. -/
def offset (r : PageRequest) : UInt64 :=
  saturatingMul (UInt64.ofNat (r.number.toNat - 1)) r.size

/-- The document of a request. -/
def toJson (r : PageRequest) : Json :=
  .object
    [("page_number", .int r.number.toNat), ("page_size", .int r.size.toNat),
     ("total_row", .int r.totalRows.toInt), ("optimize_count_query", .bool r.simplifyCount)]

/-- The request that a document stands for. -/
def ofJson? (j : Json) : Option PageRequest :=
  match j.toLayer.fields? ["page_number", "page_size", "total_row", "optimize_count_query"] true with
  | some [number, size, total, simplify] => do
    let number ← number.bind Json.uint64?
    let size ← size.bind Json.uint64?
    let totalRows ←
      match total with
      | none => some (-1)
      | some (.int n) => Numeral.int64? n
      | some _ => none
    let simplifyCount ←
      match simplify with
      | none => some true
      | some j => j.bool?
    pure { number, size, totalRows, simplifyCount }
  | _ => none

end PageRequest

end SqlRender
