import SqlRender.CommandLine.Run

/-!
# The program

The files that an invocation names are read before it runs, and what it writes is written
after it has run.  The exit code is 0 for a success, 1 for a failure and 2 for arguments
that are refused.
-/

namespace SqlRender

/-- The content of a file, if it can be read. -/
def readFile? (path : String) : IO (Option ByteArray) := do
  try
    pure (some (← IO.FS.readBinFile path))
  catch _ =>
    pure none

/-- The variables of the process that settings are chosen by. -/
def processEnvironment : IO Environment := do
  let names := ["SQLFLEX_DB_TYPE", "SQLFLEX_OPTIMIZE_COUNT", "SQLFLEX_LOG_SQL"]
  let pairs ← names.filterMapM fun name => do
    pure ((← IO.getEnv name).map fun value => (name, value))
  pure (.ofPairs pairs)

/-- Write the output of a command. -/
def CommandLine.Output.write (o : CommandLine.Output) : IO UInt32 :=
  match o.path with
  | none => do
    IO.println o.text
    pure 0
  | some path => do
    try
      IO.FS.writeFile path o.text
      pure 0
    catch _ =>
      IO.eprintln (CommandLine.CommandError.file path).message
      pure 1

/-- Run an invocation. -/
def CommandLine.Invocation.run (i : CommandLine.Invocation) : IO UInt32 := do
  let contents ← i.readFiles.mapM fun path => do
    pure (path, ← readFile? path)
  let files : Files := fun path => (contents.lookup path).bind id
  match i.output { files, environment := ← processEnvironment } with
  | .ok o => o.write
  | .error e =>
    IO.eprintln e.message
    pure 1

end SqlRender

/-- The program. -/
def main (arguments : List String) : IO UInt32 :=
  match SqlRender.CommandLine.Request.ofArguments arguments with
  | .ok .version => do
    IO.println SqlRender.CommandLine.versionText
    pure 0
  | .ok (.invoke i) => i.run
  | .error e => do
    IO.eprintln e.message
    pure 2
