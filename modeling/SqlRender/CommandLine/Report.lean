import SqlRender.Dialect
import SqlRender.Json.Printer
import SqlRender.Paginator
import SqlRender.Value.Json

/-!
# Reports

What the program writes about statements, pages and dialects, as JSON documents.
-/

namespace SqlRender.CommandLine

/-- The report on a statement in a dialect. -/
def statementReport (dialect : String) (s : Statement) : Json :=
  .object
    [("dialect", .string dialect), ("sql", .string s.sql),
     ("params", .array (Value.toJsonItems s.params)), ("debug_sql", .string s.debugText)]

/-- The statement of a call of an executor, with the kind of the call. -/
def executorCall? : Event → Option (String × Statement)
  | .count s => some ("count", s)
  | .fetch s => some ("page", s)
  | _ => none

/-- The report on a page and on the statements of the run that fetched it. -/
def pageReport (dialect : String) (page : Page Row) (events : List Event) : Json :=
  let calls := events.filterMap executorCall?
  .object
    [("page_number", .int page.number.toNat), ("page_size", .int page.size.toNat),
     ("total_page", .int page.totalPages.toNat), ("total_row", .int page.totalRows.toNat),
     ("statements", .array (calls.map fun call =>
        .array [.string call.1, statementReport dialect call.2]))]

/-- The report on the dialect of a database product. -/
def dialectReport (db : Database) : Json :=
  let d := Dialect.builtIn db
  .object
    [("db_type", .string db.name), ("dialect", .string d.name),
     ("limit_strategy", .string d.paging.name)]

end SqlRender.CommandLine
