import SqlRender.Count
import SqlRender.Dialect
import SqlRender.Page
import SqlRender.Row

/-!
# Fetching a page

A page is fetched in at most two calls of an executor: one that counts the rows of the
result, unless the request tells their number, and one that fetches the rows of the page,
unless there are none.  A run is described by its outcome and by its events in order: the
steps from stage to stage, the calls of the executor, and the statements shown in the
log.
-/

namespace SqlRender

/-- Why an executor has no result. -/
inductive ExecutorError where
  | query (text : String)
  | decode (text : String)
  deriving DecidableEq

/-- The text of an error of an executor. -/
def ExecutorError.message : ExecutorError → String
  | query text => "Query failed: " ++ text
  | decode text => "Failed to decode result: " ++ text

/-- What runs statements. -/
structure Executor where
  count : Statement → Except ExecutorError UInt64
  fetch : Statement → Except ExecutorError (List Row)

/-- Why there is no page. -/
inductive PaginateError where
  | query (e : QueryError)
  | execution (e : ExecutorError)
  deriving DecidableEq

/-- The text of an error instead of a page. -/
def PaginateError.message : PaginateError → String
  | query e => "Query error: " ++ e.message
  | execution e => "Execution error: " ++ e.message

/-- A stage of a run. -/
inductive Stage where
  | start
  | totalKnown
  | totalNeeded
  | totalCounted
  | nothingToFetch
  | fetching
  | finished
  deriving DecidableEq

/-- The name of a stage. -/
def Stage.name : Stage → String
  | start => "init"
  | totalKnown => "has_known_total"
  | totalNeeded => "needs_count"
  | totalCounted => "counted"
  | nothingToFetch => "empty_terminal"
  | fetching => "fetch_page"
  | finished => "done"

/-- What happens in a run. -/
inductive Event where
  /-- A step to another stage, with the number of rows of the result known then. -/
  | step (source target : Stage) (request : PageRequest) (total : UInt64)
  /-- A statement in the log. -/
  | shown (dialect kind : String) (s : Statement)
  /-- A call of the executor for a number of rows. -/
  | count (s : Statement)
  /-- A call of the executor for rows. -/
  | fetch (s : Statement)

/-- The line that an event leaves in the log. -/
def Event.logLine? : Event → Option String
  | step source target r total =>
    some ("DEBUG Pagination state " ++ source.name ++ " -> " ++ target.name ++ " (page "
      ++ rowText r.number ++ ", size " ++ rowText r.size ++ ", total " ++ rowText total ++ ")")
  | shown dialect kind s => some ("INFO [" ++ dialect ++ "] " ++ kind ++ " SQL: " ++ s.debugText)
  | count _ | fetch _ => none

/-- A run: its outcome and its events. -/
structure PageRun where
  outcome : Except PaginateError (Page Row)
  events : List Event

/-- What fetches pages in a dialect. -/
structure Paginator where
  dialect : Dialect
  /-- Whether the statements are shown in the log. -/
  showsStatements : Bool

namespace Paginator

/-- The statement that counts the rows of a query. -/
def countStatement (p : Paginator) (r : PageRequest) (q : Query) : Except QueryError Statement :=
  p.dialect.select (q.countQuery r.simplifyCount)

/-- The statement that fetches a page of the rows of a query. -/
def pageStatement (p : Paginator) (r : PageRequest) (q : Query) : Except QueryError Statement :=
  p.dialect.select ((q.skip (some r.offset)).limit (some r.size))

/-- The event of a statement in the log, if statements are shown. -/
def shown (p : Paginator) (kind : String) (s : Statement) : List Event :=
  if p.showsStatements then [.shown p.dialect.name kind s] else []

/-- The rest of a run from the stage in which the number of rows of the result is known. -/
def withTotal (p : Paginator) (x : Executor) (r : PageRequest) (q : Query) (stage : Stage)
    (total : UInt64) : PageRun :=
  if total = 0 ∨ pageCount total r.size < r.number then
    ⟨.ok (.empty r.number r.size total), [.step stage .nothingToFetch r total]⟩
  else
    let begun := [.step stage .fetching r total]
    match p.pageStatement r q with
    | .error e => ⟨.error (.query e), begun⟩
    | .ok s =>
      let asked := begun ++ p.shown "page" s ++ [.fetch s]
      match x.fetch s with
      | .error e => ⟨.error (.execution e), asked⟩
      | .ok records =>
        ⟨.ok (.of records r.number r.size total), asked ++ [.step .fetching .finished r total]⟩

/-- The run with further events before its own. -/
def after (events : List Event) (run : PageRun) : PageRun :=
  { run with events := events ++ run.events }

/-- The run that answers a request. -/
def paginate (p : Paginator) (x : Executor) (r : PageRequest) (q : Query) : PageRun :=
  if r.number = 0 then ⟨.error (.query (.invalidPage "page numbers start at 1")), []⟩
  else
    match r.knownTotal? with
    | some total =>
      after [.step .start .totalKnown r total] (p.withTotal x r q .totalKnown total)
    | none =>
      let begun := [.step .start .totalNeeded r 0]
      match p.countStatement r q with
      | .error e => ⟨.error (.query e), begun⟩
      | .ok s =>
        let asked := begun ++ p.shown "count" s ++ [.count s]
        match x.count s with
        | .error e => ⟨.error (.execution e), asked⟩
        | .ok total =>
          after (asked ++ [.step .totalNeeded .totalCounted r total])
            (p.withTotal x r q .totalCounted total)

end Paginator

end SqlRender
