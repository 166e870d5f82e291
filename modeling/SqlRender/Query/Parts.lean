import SqlRender.Query.Basic
import SqlRender.Text.AsciiCase
import SqlRender.Text.Cut

/-!
# The parts of a query

What can be said about a column, a table, a condition or a query from its own fields:
names and aliases, the tables that a query reads, and the part of a condition that has an
effect.
-/

namespace SqlRender

namespace Column

/-- The name of a column of a table. -/
def name? (c : Column) : Option String :=
  match c.expr with
  | .named _ name => some name
  | _ => none

/-- The table of a column of a table. -/
def table? (c : Column) : Option String :=
  match c.expr with
  | .named table _ => table
  | _ => none

/-- The name by which the column of a result is known. -/
def aliasOrName? (c : Column) : Option String :=
  c.aliasName.or c.name?

/-- Whether the column stands for all columns. -/
def isWildcard (c : Column) : Bool :=
  c.name? == some "*"

/-- Whether the column is a list of distinct columns. -/
def isDistinct (c : Column) : Bool :=
  match c.expr with
  | .distinct _ => true
  | _ => false

/-- Whether the column is an operation on numbers. -/
def isArithmetic (c : Column) : Bool :=
  match c.expr with
  | .arithmetic .. => true
  | _ => false

/-- Whether the column is a call of a function, with letter case ignored. -/
def isCallOf (function : String) (c : Column) : Bool :=
  match c.expr with
  | .call name _ => Text.sameIgnoringCase name function
  | _ => false

end Column

namespace Table

/-- The name of a named table. -/
def name? (t : Table) : Option String :=
  match t.source with
  | .named _ name => some name
  | .derived _ => none

/-- The schema of a named table. -/
def schema? (t : Table) : Option String :=
  match t.source with
  | .named schema _ => schema
  | .derived _ => none

/-- The query of a derived table. -/
def derivedQuery? (t : Table) : Option Query :=
  match t.source with
  | .named .. => none
  | .derived q => some q

/-- The text by which columns point to the table. -/
def qualifier? (t : Table) : Option String :=
  t.aliasName.or t.name?

/-- Whether a table with this name and alias is meant by `reference`. -/
def isMeantBy (name aliasName : Option String) (reference : String) : Bool :=
  aliasName.any (Text.sameIgnoringCase · reference) || name.any (Text.sameIgnoringCase · reference)

/-- Whether `reference` is the alias or the name of the table. -/
def isReferencedBy (t : Table) (reference : String) : Bool :=
  isMeantBy t.name? t.aliasName reference

/-- Whether two tables are one named table, whatever their aliases. -/
def isSameAs (t u : Table) : Bool :=
  match t.source, u.source with
  | .named schema name, .named schema' name' => schema == schema' && name == name'
  | _, _ => false

/-- Whether two tables cannot be told apart in one statement. -/
def clashes (t u : Table) : Bool :=
  t.isSameAs u && t.aliasName == u.aliasName

end Table

namespace Condition

/-- The part of the condition that has an effect: it looks through connectives with one
empty side.  There is none if the condition is empty everywhere. -/
def effective? : Condition → Option Condition
  | empty => none
  | not c => c.effective?.map fun _ => not c
  | group c => c.effective?.map fun _ => group c
  | connect left op right =>
    match left.effective?, right.effective? with
    | none, none => none
    | some only, none => some only
    | none, some only => some only
    | some _, some _ => some (connect left op right)
  | c => some c

/-- Whether the condition has no effect. -/
def isEmpty : Condition → Bool
  | empty => true
  | not c => c.isEmpty
  | group c => c.isEmpty
  | connect left _ right => left.isEmpty && right.isEmpty
  | _ => false

/-- The connective at the top of the part that has an effect. -/
def topConnective? (c : Condition) : Option Connective :=
  match c.effective? with
  | some (connect _ op _) => some op
  | _ => none

/-- Whether the condition needs parentheses as a side of the connective `parent`: text of
the caller does, and so does a condition under the other connective. -/
def needsParentheses (parent : Connective) (c : Condition) : Bool :=
  match c.effective? with
  | some (raw ..) => true
  | some (connect _ op _) => op != parent
  | _ => false

theorem isEmpty_iff (c : Condition) :
  c.isEmpty = true ↔ c.effective? = none
  := by
  fun_induction effective? c with
  | case1 => simp [isEmpty]
  | case2 c ih => simp [isEmpty, ih]
  | case3 c ih => simp [isEmpty, ih]
  | case4 => simp_all [isEmpty]
  | case5 => simp_all [isEmpty]
  | case6 => simp_all [isEmpty]
  | case7 => simp_all [isEmpty]
  | case8 c h1 h2 h3 h4 => cases c <;> simp_all [isEmpty]

end Condition

namespace Query

/-- The joins that have an effect. -/
def includedJoins (q : Query) : List Join :=
  q.joins.filter Join.included

/-- The tables that the query reads itself: its sources and the tables of its included
joins. -/
def tables (q : Query) : List Table :=
  q.sources ++ q.includedJoins.map Join.table

/-- Whether a list of distinct columns is among the columns. -/
def hasDistinct (q : Query) : Bool :=
  q.columns.any Column.isDistinct

/-- Whether the number of rows is limited or rows are skipped. -/
def isLimited (q : Query) : Bool :=
  q.rows.isSome || q.offset.isSome

end Query

/-- The first table of the list that clashes with a later one. -/
def Table.firstClash? : List Table → Option Table
  | [] => none
  | t :: rest => if rest.any t.clashes then some t else firstClash? rest

namespace UpdateRow

/-- The columns that are set, in order. -/
def columnNames (row : UpdateRow) : List String :=
  row.entries.map Prod.fst

end UpdateRow

end SqlRender
