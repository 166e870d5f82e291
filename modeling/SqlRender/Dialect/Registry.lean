import SqlRender.Dialect

/-!
# A registry of dialects

A registry keeps one dialect for each database product: the one that was registered last,
or the built-in one from the first time it was asked for.  Each kept dialect has a number
of its own, by which it can be told from an equal one.  A lookup without a product uses
the default product of the registry.
-/

namespace SqlRender

/-- A dialect that a registry keeps. -/
structure KeptDialect where
  number : Nat
  dialect : Dialect

/-- The dialects that are kept, and the default product. -/
structure Registry where
  defaultDatabase : Database
  /-- The number of the next dialect to be kept. -/
  next : Nat
  kept : List (Database × KeptDialect)

namespace Registry

/-- The registry that keeps no dialect yet. -/
def of (db : Database) : Registry :=
  ⟨db, 0, []⟩

/-- The registry with a dialect kept for a product. -/
def keep (db : Database) (d : Dialect) (r : Registry) : Registry :=
  { r with
    next := r.next + 1
    kept := (db, ⟨r.next, d⟩) :: r.kept.filter fun entry => entry.1 ≠ db }

/-- The dialect kept for a product. -/
def kept? (db : Database) (r : Registry) : Option KeptDialect :=
  (r.kept.find? fun entry => entry.1 == db).map Prod.snd

/-- The registry with a dialect registered for a product. -/
def register (db : Database) (d : Dialect) (r : Registry) : Registry :=
  r.keep db d

/-- The registry with another default product. -/
def setDefault (db : Database) (r : Registry) : Registry :=
  { r with defaultDatabase := db }

/-- The dialect of a product, and the registry that keeps it from now on. -/
def dialectFor (db : Database) (r : Registry) : KeptDialect × Registry :=
  match r.kept? db with
  | some k => (k, r)
  | none => (⟨r.next, Dialect.builtIn db⟩, r.keep db (Dialect.builtIn db))

/-- The dialect of a product, or of the default product if there is none. -/
def dialect (db : Option Database) (r : Registry) : KeptDialect × Registry :=
  r.dialectFor (db.getD r.defaultDatabase)

/-- The lines in the log when a built-in dialect is made. -/
def builtInLog (db : Database) : List String :=
  if db = .other then
    ["WARN No dedicated dialect for database type '" ++ db.name ++ "', using the MySQL flavor"]
  else []

/-- The lines that looking up a product leaves in the log. -/
def lookupLog (db : Database) (r : Registry) : List String :=
  match r.kept? db with
  | some _ => []
  | none => ("DEBUG Creating dialect for " ++ db.name) :: builtInLog db

/-- The line that registering a dialect leaves in the log. -/
def registerLog (db : Database) (d : Dialect) : List String :=
  ["INFO Registering dialect '" ++ d.name ++ "' for " ++ db.name]

/-- The description of a registry. -/
def description (r : Registry) : String :=
  "DialectRegistry \x7b default_db_type: " ++ r.defaultDatabase.label ++ ", .. \x7d"

end Registry

end SqlRender
