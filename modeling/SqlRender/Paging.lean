import SqlRender.Query.Basic

/-!
# Paging

A query with a limited number of rows asks for a window of its result.  Each family of
databases has its own way of asking.  Most of them need a text right behind SELECT (the
head) or a text behind the ordering (the tail).  Others put the whole select inside a
further one that filters by row numbers.  `PagingStrategy.layout` says which text goes
where; the numbers of the window are written into the statement as they are.
-/

namespace SqlRender

/-- The sum of two numbers, or the greatest number of 64 bits if the sum is greater. -/
def saturatingAdd (a b : UInt64) : UInt64 :=
  UInt64.ofNat (min (a.toNat + b.toNat) (UInt64.size - 1))

/-- The product of two numbers, or the greatest number of 64 bits if the product is
greater. -/
def saturatingMul (a b : UInt64) : UInt64 :=
  UInt64.ofNat (min (a.toNat * b.toNat) (UInt64.size - 1))

/-- A window on the rows of a result. -/
structure Window where
  /-- The number of rows before the window. -/
  offset : Option UInt64
  /-- The greatest number of rows in the window. -/
  rows : UInt64
  deriving DecidableEq

namespace Window

/-- The window that a query asks for.  An offset alone asks for none. -/
def of? (rows offset : Option UInt64) : Option Window :=
  rows.map fun rows => ⟨offset, rows⟩

/-- The number of the first row of the window, counted from one. -/
def firstRow (w : Window) : UInt64 :=
  saturatingAdd (w.offset.getD 0) 1

/-- The number of the last row of the window, counted from one. -/
def lastRow (w : Window) : UInt64 :=
  saturatingAdd (w.offset.getD 0) w.rows

end Window

/-- The digits of a number of rows. -/
def rowText (n : UInt64) : String :=
  toString n.toNat

/-- A text right behind SELECT. -/
structure SelectHead where
  text : String
  /-- Whether the text goes behind a leading DISTINCT. -/
  afterDistinct : Bool
  deriving DecidableEq

/-- How the text of a select is arranged. -/
inductive PageLayout where
  /-- The select with a head and a tail, where there are such. -/
  | inline (head : Option SelectHead) (tail : Option String)
  /-- The select between two texts. -/
  | wrapped (before after : String)
  /-- The select with numbered rows as a common table expression, from which the rows from
  `first` to `last` are selected. -/
  | numbered (first last : UInt64)
  deriving DecidableEq

/-- A way of asking for a window. -/
inductive PagingStrategy where
  /-- `LIMIT o, r` -/
  | limitPair
  /-- `LIMIT r OFFSET o` -/
  | limitOffset
  /-- `TOP r`, or `OFFSET o ROWS FETCH NEXT r ROWS ONLY` -/
  | topOrFetch
  /-- A filter on `ROW_NUMBER()` -/
  | rowNumber
  /-- A filter on `ROWNUM` -/
  | rowNum
  /-- `OFFSET o ROWS FETCH NEXT r ROWS ONLY`, or `FETCH FIRST r ROWS ONLY` -/
  | offsetFetch
  /-- A filter on `ROWNUMBER()` -/
  | rowNumberOver
  /-- `SKIP o FIRST r` -/
  | skipFirst
  /-- `SKIP o LIMIT r` -/
  | skipLimit
  /-- `TOP r START AT f` -/
  | topStartAt
  /-- The caller cuts the window out of the result. -/
  | unpaged
  deriving DecidableEq

namespace PagingStrategy

/-- All strategies. -/
def all : List PagingStrategy :=
  [limitPair, limitOffset, topOrFetch, rowNumber, rowNum, offsetFetch, rowNumberOver, skipFirst,
   skipLimit, topStartAt, unpaged]

/-- The name of a strategy. -/
def name : PagingStrategy → String
  | limitPair => "mysql"
  | limitOffset => "postgresql"
  | topOrFetch => "sqlserver"
  | rowNumber => "sqlserver_2005"
  | rowNum => "oracle"
  | offsetFetch => "derby"
  | rowNumberOver => "db2_1005"
  | skipFirst => "informix"
  | skipLimit => "sinodb"
  | topStartAt => "sybase"
  | unpaged => "none"

/-- A layout with a tail. -/
def tail (text : String) : PageLayout :=
  .inline none (some text)

/-- A layout with a head. -/
def head (text : String) (afterDistinct : Bool) : PageLayout :=
  .inline (some ⟨text, afterDistinct⟩) none

/-- The rows to skip and the rows to take, as clauses of their own. -/
def fetchText (offset rows : UInt64) : String :=
  "OFFSET " ++ rowText offset ++ " ROWS FETCH NEXT " ++ rowText rows ++ " ROWS ONLY"

/-- How a strategy arranges a select with the window `w`. -/
def layout (s : PagingStrategy) (w : Window) : PageLayout :=
  let rows := rowText w.rows
  match s, w.offset with
  | limitPair, some o => tail ("LIMIT " ++ rowText o ++ ", " ++ rows)
  | limitPair, none => tail ("LIMIT " ++ rows)
  | limitOffset, some o => tail ("LIMIT " ++ rows ++ " OFFSET " ++ rowText o)
  | limitOffset, none => tail ("LIMIT " ++ rows)
  | topOrFetch, some o => tail (fetchText o w.rows)
  | topOrFetch, none => head ("TOP " ++ rows) true
  | rowNumber, _ => .numbered w.firstRow w.lastRow
  | rowNum, o =>
    .wrapped "SELECT * FROM (SELECT TEMP_DATAS.*, ROWNUM RN FROM ("
      (") TEMP_DATAS WHERE ROWNUM <= " ++ rowText w.lastRow ++ ") WHERE RN > " ++ rowText (o.getD 0))
  | offsetFetch, some o => tail (fetchText o w.rows)
  | offsetFetch, none => tail ("FETCH FIRST " ++ rows ++ " ROWS ONLY")
  | rowNumberOver, _ =>
    .wrapped "SELECT * FROM (SELECT TEMP_DATAS.*, ROWNUMBER() OVER() AS RN FROM ("
      (") AS TEMP_DATAS) WHERE RN BETWEEN " ++ rowText w.firstRow ++ " AND " ++ rowText w.lastRow)
  | skipFirst, some o => head ("SKIP " ++ rowText o ++ " FIRST " ++ rows) false
  | skipFirst, none => head ("FIRST " ++ rows) false
  | skipLimit, some o => head ("SKIP " ++ rowText o ++ " LIMIT " ++ rows) false
  | skipLimit, none => head ("LIMIT " ++ rows) false
  | topStartAt, some _ => head ("TOP " ++ rows ++ " START AT " ++ rowText w.firstRow) true
  | topStartAt, none => head ("TOP " ++ rows) true
  | unpaged, _ => .inline none none

/-- How a strategy arranges a select that may have a window. -/
def layoutOf (s : PagingStrategy) (rows offset : Option UInt64) : PageLayout :=
  match Window.of? rows offset with
  | some w => s.layout w
  | none => .inline none none

/-- Whether the ordering of a select with these limits is written before its columns. -/
def ordersFirst (s : PagingStrategy) (rows : Option UInt64) : Bool :=
  s == rowNumber && rows.isSome

end PagingStrategy

end SqlRender
