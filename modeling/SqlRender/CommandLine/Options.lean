import SqlRender.Text.Cut

/-!
# Options

Options are read off the front of the arguments of a command.  A long option is written
`--name`, its value as `--name value` or `--name=value`; an option may also have a letter,
written `-l`.  Each option is given once at most.  Reading stops at the first argument
that is no option, and at an option that ends it.
-/

namespace SqlRender.CommandLine

/-- What stands behind an option. -/
inductive OptionKind where
  | flag
  | value
  /-- A flag behind which nothing is read. -/
  | final
  deriving DecidableEq

/-- An option that a command has. -/
structure OptionSpec where
  name : String
  kind : OptionKind
  letter : Option Char := none

/-- Why arguments are refused. -/
inductive UsageError where
  | unexpected (argument : String)
  | missingValue (option : String)
  | needlessValue (option : String)
  | repeated (option : String)
  | badNumber (option text : String)
  | missingOption (option : String)
  | missingCommand
  deriving DecidableEq

/-- The text of the error. -/
def UsageError.message : UsageError → String
  | unexpected argument => "unexpected argument '" ++ argument ++ "'"
  | missingValue option => "a value is required for '--" ++ option ++ "'"
  | needlessValue option => "'--" ++ option ++ "' takes no value"
  | repeated option => "'--" ++ option ++ "' cannot be given twice"
  | badNumber option text => "invalid value '" ++ text ++ "' for '--" ++ option ++ "'"
  | missingOption option => "'--" ++ option ++ "' is required"
  | missingCommand => "a command is required"

/-- The options that are given, each with its value; flags have the empty value. -/
abbrev Given := List (String × String)

namespace Given

/-- Whether an option is given. -/
def has (name : String) (given : Given) : Bool :=
  given.any fun option => option.1 == name

/-- The value of an option. -/
def value? (name : String) (given : Given) : Option String :=
  (given.find? fun option => option.1 == name).map Prod.snd

/-- The given options and one more, which must not be among them. -/
def add (name value : String) (given : Given) : Except UsageError Given :=
  if given.has name then .error (.repeated name) else .ok (given ++ [(name, value)])

end Given

/-- The form of an argument. -/
inductive ArgumentForm where
  /-- An option by its name, with the text behind `=`. -/
  | long (name : String) (attached : Option String)
  /-- An option by its letter, with what follows the letter. -/
  | short (letter : Char) (more : List Char)
  /-- The mark behind which no options stand. -/
  | separator
  | word
  deriving DecidableEq

/-- The form of an argument; a hyphen alone is a word. -/
def ArgumentForm.of (argument : String) : ArgumentForm :=
  match argument.toList with
  | ['-', '-'] => .separator
  | '-' :: '-' :: cs =>
    match Text.cutFirst? '=' cs with
    | some (name, value) => .long (String.ofList name) (some (String.ofList value))
    | none => .long (String.ofList cs) none
  | '-' :: letter :: more => .short letter more
  | _ => .word

/-- Where the reading of options stands. -/
inductive ReadState where
  | between
  /-- Behind the name of an option that takes a value. -/
  | awaiting (option : String)
  deriving DecidableEq

/-- What one argument leads to. -/
inductive ReadStep where
  | goOn (given : Given) (state : ReadState)
  /-- The end of the options at an option that ends them. -/
  | finish (given : Given)
  /-- The end of the options in front of a word. -/
  | stop
  /-- The end of the options at the mark behind which none stand. -/
  | separate

/-- The step for an option that a command has. -/
def OptionSpec.step (spec : OptionSpec) (given : Given) (attached : Option String) :
    Except UsageError ReadStep :=
  match spec.kind, attached with
  | .value, some value => return .goOn (← given.add spec.name value) .between
  | .value, none => return .goOn given (.awaiting spec.name)
  | .flag, none => return .goOn (← given.add spec.name "") .between
  | .final, none => return .finish (← given.add spec.name "")
  | _, some _ => .error (.needlessValue spec.name)

/-- The step at an argument. -/
def readStep (specs : List OptionSpec) (given : Given) (state : ReadState) (argument : String) :
    Except UsageError ReadStep :=
  match state, ArgumentForm.of argument with
  | .awaiting option, .word => return .goOn (← given.add option argument) .between
  | .awaiting option, _ => .error (.missingValue option)
  | .between, .long name attached =>
    match specs.find? fun spec => spec.name == name with
    | some spec => spec.step given attached
    | none => .error (.unexpected argument)
  | .between, .short letter _ =>
    match specs.find? fun spec => spec.letter == some letter with
    | some spec => spec.step given none
    | none => .error (.unexpected argument)
  | .between, .separator => .ok .separate
  | .between, .word => .ok .stop

/-- The options at the front of the arguments, and the arguments behind them. -/
def readOptions (specs : List OptionSpec) :
    Given → ReadState → List String → Except UsageError (Given × List String)
  | given, .between, [] => .ok (given, [])
  | _, .awaiting option, [] => .error (.missingValue option)
  | given, state, argument :: rest => do
    match ← readStep specs given state argument with
    | .goOn given state => readOptions specs given state rest
    | .finish given => .ok (given, [])
    | .stop => .ok (given, argument :: rest)
    | .separate =>
      match rest with
      | [] => .ok (given, [])
      | word :: _ => .error (.unexpected word)

end SqlRender.CommandLine
