import SqlRender.Json.Printer
import SqlRender.Value.Basic

/-!
# Values as literals

`Value.literal` writes a value in the way it is shown inside a statement for a log.
Numbers, truth values and null stand bare, an array is a list in square brackets, and
everything else is put in single quotes.  Only the quotes inside a string are doubled.
-/

namespace SqlRender.Value

/-- A text in single quotes. -/
def quote (s : String) : String :=
  "'" ++ s ++ "'"

/-- The text with every single quote written twice. -/
def doubleQuotes (s : String) : String :=
  String.ofList (s.toList.flatMap fun c => if c = '\'' then [c, c] else [c])

mutual

/-- The literal that shows a value. -/
def literal : Value → String
  | null => "null"
  | int n => toString n.toInt
  | uint n => toString n.toNat
  | float x => Shortest.positional x
  | decimal x => x.toText
  | boolean b => if b then "true" else "false"
  | array items => "[" ++ Text.joinWith "," (itemTexts items) ++ "]"
  | date d => quote d.toText
  | dateTime m => quote m.toPlainText
  | timestamp m => quote m.toPlainText
  | bytes bs => quote (String.ofList (Hex.encode bs))
  | json (.string s) => quote s
  | json j => quote j.compact
  | string s => quote (doubleQuotes s)
  | uuid u => quote u.toText

/-- The texts of the items of an array: without quotes where an item is a text. -/
def itemTexts : List Value → List String
  | [] => []
  | v :: rest => v.toText?.getD (literal v) :: itemTexts rest

end

end SqlRender.Value
