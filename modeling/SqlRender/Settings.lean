import SqlRender.Dialect.Registry
import SqlRender.Environment
import SqlRender.Json.Parser
import SqlRender.Paginator

/-!
# Settings

The settings say which database product is meant when none is named, whether queries that
count rows may be simplified, and whether statements are shown in the log.  They are
chosen in code, in an environment or in a JSON text; what is not chosen has its default.
-/

namespace SqlRender

/-- The settings. -/
structure Settings where
  defaultDatabase : Database
  simplifyCount : Bool
  showsStatements : Bool
  deriving DecidableEq

/-- A choice of some of the settings. -/
structure SettingsChoice where
  defaultDatabase : Option Database
  simplifyCount : Option Bool
  showsStatements : Option Bool
  deriving DecidableEq

/-- Why there are no settings. -/
inductive SettingsError where
  | assignments (e : AssignmentError)
  | switch (e : BadSwitch)
  | unknownDatabase (e : UnknownDatabase)
  | unreadable (path : String)
  | notSettings
  deriving DecidableEq

/-- The text of the error. -/
def SettingsError.message : SettingsError → String
  | assignments e => e.message
  | switch e => e.message
  | unknownDatabase e => e.message
  | unreadable path => "Failed to read " ++ path
  | notSettings => "Malformed settings file"

/-- The names of the settings in JSON. -/
def settingsFields : List String :=
  ["default_db_type", "optimize_count_query", "log_sql"]

/-- The database product that a name in JSON stands for. -/
def Database.ofJson? (j : Json) : Option Database :=
  j.string?.bind Database.ofName?

namespace SettingsChoice

/-- The choice of nothing. -/
def none : SettingsChoice :=
  ⟨.none, .none, .none⟩

/-- The settings that a choice leads to. -/
def settings (c : SettingsChoice) : Settings :=
  { defaultDatabase := c.defaultDatabase.getD .mysql
    simplifyCount := c.simplifyCount.getD true
    showsStatements := c.showsStatements.getD false }

/-- The choice that a field may leave open: a missing field and `null` choose nothing. -/
def part? {α : Type} (read : Json → Option α) : Option (Option Json) → Option (Option α)
  | .none => some .none
  | some (some .null) => some .none
  | some j => (j.bind read).map some

/-- The choice that a text stands for.  Members with other names than those of the
settings need not stand for a value. -/
def ofText? (text : String) : Option SettingsChoice :=
  match (Json.parseLayer? text).bind fun layer => layer.fields? settingsFields true with
  | some [database, simplify, shows] => do
    let defaultDatabase ← part? Database.ofJson? database
    let simplifyCount ← part? Json.bool? simplify
    let showsStatements ← part? Json.bool? shows
    pure { defaultDatabase, simplifyCount, showsStatements }
  | _ => .none

end SettingsChoice

namespace Settings

/-- The settings when nothing is chosen. -/
def default : Settings :=
  SettingsChoice.none.settings

/-- The settings that an environment chooses. -/
def ofEnvironment (env : Environment) : Except SettingsError Settings := do
  let defaultDatabase ←
    match env.setting? "SQLFLEX_DB_TYPE" with
    | none => .ok none
    | some name => ((Database.find name).mapError .unknownDatabase).map some
  let simplifyCount ← (env.switch "SQLFLEX_OPTIMIZE_COUNT").mapError .switch
  let showsStatements ← (env.switch "SQLFLEX_LOG_SQL").mapError .switch
  pure ({ defaultDatabase, simplifyCount, showsStatements } : SettingsChoice).settings

/-- The settings that a JSON text chooses. -/
def ofText (text : String) : Except SettingsError Settings :=
  match SettingsChoice.ofText? text with
  | some c => .ok c.settings
  | none => .error .notSettings

/-- The settings that a file chooses. -/
def ofFile (files : Files) (path : String) : Except SettingsError Settings :=
  match files.text? path with
  | some text => ofText text
  | none => .error (.unreadable path)

/-- The document of the settings. -/
def toJson (s : Settings) : Json :=
  .object
    [("default_db_type", .string s.defaultDatabase.name),
     ("optimize_count_query", .bool s.simplifyCount), ("log_sql", .bool s.showsStatements)]

/-- The settings that a document with all of them stands for. -/
def ofJson? (j : Json) : Option Settings :=
  match j.toLayer.allFields? settingsFields with
  | some [database, simplify, shows] => do
    let defaultDatabase ← Database.ofJson? database
    let simplifyCount ← simplify.bool?
    let showsStatements ← shows.bool?
    pure { defaultDatabase, simplifyCount, showsStatements }
  | _ => none

/-- A registry with the default product of the settings. -/
def registry (s : Settings) : Registry :=
  .of s.defaultDatabase

/-- The paginator for a product, or for the default product if there is none, and the
registry that keeps its dialect from now on. -/
def paginator (s : Settings) (r : Registry) (db : Option Database) : Paginator × Registry :=
  let (kept, r) := r.dialectFor (db.getD s.defaultDatabase)
  ({ dialect := kept.dialect, showsStatements := s.showsStatements }, r)

/-- The request for a page. -/
def pageRequest (s : Settings) (number size : UInt64) : PageRequest :=
  (PageRequest.of number size).withSimplifiedCount s.simplifyCount

end Settings

end SqlRender
