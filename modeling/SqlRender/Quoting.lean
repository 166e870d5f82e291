import SqlRender.Text.AsciiCase
import SqlRender.Text.Cut

/-!
# Quoting names

A dialect either leaves all names bare, or puts every name into its quotes, or quotes
only the reserved words and writes these in upper case.  A dotted name is quoted part by
part.  The name `*` and empty parts are never quoted.
-/

namespace SqlRender

/-- A way of quoting names. -/
inductive Quoting where
  /-- No name is quoted. -/
  | bare
  | backQuotes
  | doubleQuotes
  | squareBrackets
  /-- The reserved words of Oracle are quoted. -/
  | oracleKeywords
  /-- The reserved words of Oracle and of DM are quoted. -/
  | dmKeywords
  deriving DecidableEq

namespace Quoting

/-- The reserved words of Oracle. -/
def oracleWords : List String :=
  ["ACCESS", "ADD", "ALL", "ALTER", "AND", "ANY", "AS", "ASC", "AUDIT", "BETWEEN", "BY",
   "CHAR", "CHECK", "CLUSTER", "COLUMN", "COMMENT", "COMPRESS", "CONNECT", "CREATE",
   "CURRENT", "DATE", "DECIMAL", "DEFAULT", "DELETE", "DESC", "DISTINCT", "DROP",
   "ELSE", "EXCLUSIVE", "EXISTS", "FILE", "FLOAT", "FOR", "FROM", "GRANT", "GROUP",
   "HAVING", "IDENTIFIED", "IMMEDIATE", "IN", "INCREMENT", "INDEX", "INITIAL", "INSERT",
   "INTEGER", "INTERSECT", "INTO", "IS", "LEVEL", "LIKE", "LOCK", "LONG", "MAXEXTENTS",
   "MINUS", "MLSLABEL", "MODE", "MODIFY", "NOAUDIT", "NOCOMPRESS", "NOT", "NOWAIT",
   "NULL", "NUMBER", "OF", "OFFLINE", "ON", "ONLINE", "OPTION", "OR", "ORDER",
   "PCTFREE", "PRIOR", "PUBLIC", "RAW", "RENAME", "RESOURCE", "REVOKE", "ROW", "ROWID",
   "ROWNUM", "ROWS", "SELECT", "SESSION", "SET", "SHARE", "SIZE", "SMALLINT", "START",
   "SUCCESSFUL", "SYNONYM", "SYSDATE", "TABLE", "THEN", "TO", "TRIGGER", "UID", "UNION",
   "UNIQUE", "UPDATE", "USER", "VALIDATE", "VALUES", "VARCHAR", "VARCHAR2", "VIEW",
   "WHENEVER", "WHERE", "WITH"]

/-- The words that DM reserves besides those of Oracle. -/
def dmWords : List String :=
  ["CONTEXT", "DOMAIN", "LIMIT", "OFFSET", "REFERENCE", "TOP", "TYPE", "VERIFY",
   "SECTION", "INTERVAL", "CATALOG"]

/-- A word between two quotes. -/
def between (left right : String) (word : String) : String :=
  left ++ word ++ right

/-- A word in double quotes and in upper case if it is among the reserved words. -/
def keyword (reserved : List String) (word : String) : String :=
  if reserved.contains (Text.upper word) then between "\"" "\"" (Text.upper word) else word

/-- A single part of a name as it stands in a statement. -/
def wrap (q : Quoting) (part : String) : String :=
  if part = "" ∨ part = "*" then part
  else
    match q with
    | bare => part
    | backQuotes => between "`" "`" part
    | doubleQuotes => between "\"" "\"" part
    | squareBrackets => between "[" "]" part
    | oracleKeywords => keyword oracleWords part
    | dmKeywords => keyword (oracleWords ++ dmWords) part

/-- A dotted name as it stands in a statement. -/
def wrapName (q : Quoting) (name : String) : String :=
  Text.joinWith "." ((Text.dottedParts name).map q.wrap)

end Quoting

end SqlRender
