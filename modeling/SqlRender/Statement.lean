import SqlRender.Guard
import SqlRender.Quoting
import SqlRender.Value.Literal

/-!
# Statements

A statement is a text with placeholders and the values bound to them.  It is put together
from tokens.  A token knows the guards it has to pass, its text under a way of quoting,
and the values it binds; so these three never depend on one another.
-/

namespace SqlRender

/-- A text with placeholders and the values bound to them, in order. -/
structure Statement where
  sql : String
  params : List Value

namespace Statement

/-- The number of question marks in the text. -/
def placeholders (s : Statement) : Nat :=
  s.sql.toList.count '?'

/-- A text in which the question marks are replaced by literals, in order, as long as
there are any. -/
def fillIn : List Char → List Value → List Char
  | [], _ => []
  | c :: cs, [] => c :: fillIn cs []
  | c :: cs, v :: vs => if c = '?' then v.literal.toList ++ fillIn cs vs else c :: fillIn cs (v :: vs)

/-- The text with its values written in place of the question marks, for a log. -/
def debugText (s : Statement) : String :=
  String.ofList (fillIn s.sql.toList s.params)

end Statement

/-- A piece of a statement. -/
inductive Token where
  /-- Words and punctuation of the language. -/
  | text (s : String)
  /-- A name, to be quoted. -/
  | name (n : String)
  /-- The name of a table, with its schema, to be quoted. -/
  | table (schema : Option String) (n : String)
  /-- A name that is not quoted. -/
  | function (n : String)
  /-- An ordering that is given as text. -/
  | order (s : String)
  /-- A placeholder with its value. -/
  | bind (v : Value)
  /-- Text of the caller with its values. -/
  | raw (sql : String) (params : List Value)
  /-- An error in place of a statement. -/
  | refuse (e : QueryError)

namespace Token

/-- The guards that a token has to pass. -/
def guards : Token → List Guard
  | name n => [.identifier n]
  | table schema n => .tableName n :: (schema.toList ++ [n]).map Guard.identifier
  | function n => [.identifier n]
  | order s => [.orderText s]
  | refuse e => [.refuse e]
  | text _ | bind _ | raw .. => []

/-- The text of a token. -/
def toText (q : Quoting) : Token → String
  | text s => s
  | name n => q.wrapName n
  | table schema n => (schema.elim "" fun s => q.wrapName s ++ ".") ++ q.wrapName n
  | function n => n
  | order s => s
  | bind _ => "?"
  | raw sql _ => sql
  | refuse _ => ""

/-- The values that a token binds. -/
def params : Token → List Value
  | bind v => [v]
  | raw _ params => params
  | _ => []

/-- The parts one after the other with `separator` between them. -/
def separated (separator : String) : List (List Token) → List Token
  | [] => []
  | [part] => part
  | part :: rest => part ++ text separator :: separated separator rest

/-- The part with a parenthesis on each side. -/
def parenthesized (part : List Token) : List Token :=
  text "(" :: part ++ [text ")"]

end Token

/-- The statement made of the given tokens, or the error of the first guard that one of
them does not pass. -/
def Statement.ofTokens (q : Quoting) (tokens : List Token) : Except QueryError Statement :=
  match Guard.verifyAll (tokens.flatMap Token.guards) with
  | .error e => .error e
  | .ok () => .ok ⟨String.join (tokens.map (Token.toText q)), tokens.flatMap Token.params⟩

end SqlRender
