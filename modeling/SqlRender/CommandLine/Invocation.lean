import SqlRender.CommandLine.Options
import SqlRender.Number.Numeral

/-!
# Invocations

The arguments of the program name a command, with options of its own and with options that
any command may have, before or behind its name.
-/

namespace SqlRender.CommandLine

/-- The files to work with, and the database product to write for. -/
structure QueryOptions where
  queryFile : String
  database : Option String
  outputFile : Option String
  deriving DecidableEq

/-- What the program is told to do. -/
inductive Command where
  /-- Write a query as a statement, with the parameters filled in or in a report. -/
  | render (options : QueryOptions) (filledIn : Bool)
  /-- Write the query that counts the rows of a query. -/
  | count (options : QueryOptions) (keepJoins : Bool)
  /-- Write the statements that fetch a page, for a result of so many rows. -/
  | page (options : QueryOptions) (number size total : UInt64) (totalKnown : Bool)
  /-- List the database products. -/
  | dialects
  deriving DecidableEq

/-- A command and where the settings come from. -/
structure Invocation where
  environmentFile : Option String
  settingsFile : Option String
  command : Command
  deriving DecidableEq

/-- What the arguments ask for. -/
inductive Request where
  | version
  | invoke (i : Invocation)
  deriving DecidableEq

/-- The options that any command may have. -/
def commonOptions : List OptionSpec :=
  [⟨"env-file", .value, none⟩, ⟨"settings", .value, none⟩]

/-- The options in front of the command. -/
def leadingOptions : List OptionSpec :=
  ⟨"version", .final, some 'V'⟩ :: commonOptions

/-- The options of a command on a query. -/
def queryOptions : List OptionSpec :=
  [⟨"query", .value, none⟩, ⟨"db", .value, none⟩, ⟨"output", .value, none⟩]

/-- The unsigned number that an option has, or its default. -/
def Given.number (name : String) (default : UInt64) (given : Given) : Except UsageError UInt64 :=
  match given.value? name with
  | none => .ok default
  | some text =>
    match Numeral.unsigned? text with
    | some n => .ok n
    | none => .error (.badNumber name text)

/-- The files and the product of a command on a query. -/
def Given.queryOptions (given : Given) : Except UsageError QueryOptions :=
  match given.value? "query" with
  | none => .error (.missingOption "query")
  | some queryFile =>
    .ok { queryFile, database := given.value? "db", outputFile := given.value? "output" }

/-- The options of the command with the given name, and how it is made of them. -/
def commandForm? : String → Option (List OptionSpec × (Given → Except UsageError Command))
  | "render" =>
    some (⟨"debug", .flag, none⟩ :: queryOptions, fun given => do
      pure (.render (← given.queryOptions) (given.has "debug")))
  | "count" =>
    some (⟨"no-optimize", .flag, none⟩ :: queryOptions, fun given => do
      pure (.count (← given.queryOptions) (given.has "no-optimize")))
  | "page" =>
    let numbers := [⟨"page", .value, none⟩, ⟨"size", .value, none⟩, ⟨"total", .value, none⟩]
    some (⟨"known-total", .flag, none⟩ :: numbers ++ queryOptions, fun given => do
      let number ← given.number "page" 1
      let size ← given.number "size" 10
      let total ← given.number "total" 100
      pure (.page (← given.queryOptions) number size total (given.has "known-total")))
  | "dialects" => some ([], fun _ => .ok .dialects)
  | _ => none

/-- The invocation that the arguments behind the name of a command complete.  An option
behind the name wins against the same option before it. -/
def readCommand (leading : Given) (name : String) (arguments : List String) :
    Except UsageError Invocation :=
  match commandForm? name with
  | none => .error (.unexpected name)
  | some (specs, make) => do
    let (given, rest) ← readOptions (specs ++ commonOptions) [] .between arguments
    match rest with
    | word :: _ => .error (.unexpected word)
    | [] =>
      let all := given ++ leading
      pure
        { environmentFile := Given.value? "env-file" all
          settingsFile := Given.value? "settings" all
          command := ← make given }

/-- What the arguments ask for. -/
def Request.ofArguments (arguments : List String) : Except UsageError Request := do
  let (leading, rest) ← readOptions leadingOptions [] .between arguments
  if leading.has "version" then pure .version
  else
    match rest with
    | [] => .error .missingCommand
    | name :: more => pure (.invoke (← readCommand leading name more))

end SqlRender.CommandLine
