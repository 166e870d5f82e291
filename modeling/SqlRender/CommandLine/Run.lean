import SqlRender.CommandLine.Invocation
import SqlRender.CommandLine.Report
import SqlRender.Query.Guards
import SqlRender.Query.Json
import SqlRender.Settings

/-!
# Running a command

A command reads its settings, then its query, and writes one text.  A page is fetched by a
rehearsal: an executor that tells a number of rows fixed beforehand and fetches none.
-/

namespace SqlRender.CommandLine

/-- Why a command fails. -/
inductive CommandError where
  | file (path : String)
  | queryText
  | settings (e : SettingsError)
  | unknownDatabase (e : UnknownDatabase)
  | query (e : QueryError)
  | paginate (e : PaginateError)
  deriving DecidableEq

/-- The text of the error. -/
def CommandError.message : CommandError → String
  | file path => "Failed to read or write a file: " ++ path
  | queryText => "Failed to deserialize the query file as JSON"
  | settings e => "Failed to load settings: " ++ e.message
  | unknownDatabase e => e.message
  | query e => "Failed to render the query: " ++ e.message
  | paginate e => "Pagination failed: " ++ e.message

/-- A text to write, to a file if there is a path, and else as a line of the standard
output. -/
structure Output where
  text : String
  path : Option String
  deriving DecidableEq

/-- The files and the environment that a command reads. -/
structure Surroundings where
  files : Files
  environment : Environment

/-- The settings that an invocation asks for.  A settings file wins against the
environment, and a file of assignments extends the environment. -/
def Invocation.settings (i : Invocation) (s : Surroundings) : Except SettingsError Settings :=
  match i.settingsFile, i.environmentFile with
  | some path, _ => Settings.ofFile s.files path
  | none, none => Settings.ofEnvironment s.environment
  | none, some path =>
    match s.files.text? path with
    | none => .error (.unreadable path)
    | some text =>
      match s.environment.load text with
      | (_, some e) => .error (.assignments e)
      | (env, none) => Settings.ofEnvironment env

/-- The query of a command, and the product to write it for. -/
def QueryOptions.query (o : QueryOptions) (files : Files) (settings : Settings) :
    Except CommandError (Database × Query) := do
  let text ←
    match files.text? o.queryFile with
    | some text => .ok text
    | none => .error (.file o.queryFile)
  let q ←
    match Query.ofText? text with
    | some q => .ok q
    | none => .error .queryText
  (q.validate).mapError .query
  let db ←
    match o.database with
    | some name => (Database.find name).mapError .unknownDatabase
    | none => .ok settings.defaultDatabase
  pure (db, q)

/-- The executor that tells a number of rows and fetches none. -/
def rehearsal (total : UInt64) : Executor :=
  { count := fun _ => .ok total
    fetch := fun _ => .ok [] }

/-- What a command writes under the given settings. -/
def Command.output (settings : Settings) (files : Files) : Command → Except CommandError Output
  | .render o filledIn => do
    let (db, q) ← o.query files settings
    let d := (settings.registry.dialectFor db).1.dialect
    let s ← (d.select q).mapError .query
    pure ⟨if filledIn then s.debugText else (statementReport d.name s).pretty, o.outputFile⟩
  | .count o keepJoins => do
    let (db, q) ← o.query files settings
    let request :=
      (settings.pageRequest 1 1).withSimplifiedCount (settings.simplifyCount && !keepJoins)
    let p := (settings.paginator settings.registry (some db)).1
    let s ← (p.countStatement request q).mapError .query
    pure ⟨(statementReport p.dialect.name s).pretty, o.outputFile⟩
  | .page o number size total totalKnown => do
    let (db, q) ← o.query files settings
    let request := settings.pageRequest number size
    let request := if totalKnown then request.withTotal total else request
    let p := (settings.paginator settings.registry (some db)).1
    let run := p.paginate (rehearsal total) request q
    let page ← run.outcome.mapError .paginate
    pure ⟨(pageReport p.dialect.name page run.events).pretty, o.outputFile⟩
  | .dialects => pure ⟨(Json.array (Database.all.map dialectReport)).pretty, none⟩

/-- What an invocation writes. -/
def Invocation.output (i : Invocation) (s : Surroundings) : Except CommandError Output := do
  let settings ← (i.settings s).mapError .settings
  i.command.output settings s.files

/-- The files that an invocation reads. -/
def Invocation.readFiles (i : Invocation) : List String :=
  let queryFile :=
    match i.command with
    | .render o _ | .count o _ | .page o .. => [o.queryFile]
    | .dialects => []
  i.settingsFile.toList ++ i.environmentFile.toList ++ queryFile

/-- The name and the version of the program. -/
def versionText : String :=
  "sqlflex 0.0.1"

end SqlRender.CommandLine
