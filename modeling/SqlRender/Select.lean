import SqlRender.Paging
import SqlRender.Query.Parts
import SqlRender.Statement

/-!
# The tokens of a select

Every part of a query is written as a list of tokens.  What is written depends on two
things besides the query: on the style of the dialect, which is its way of paging and the
text before the alias of a table, and on the scope, which is what is known of the tables
of the innermost query around.

`Query.parts` writes the parts of a select, and `SelectParts.tokens` arranges them as the
paging of the dialect demands.  In the numbered layout the rows of a select with distinct
columns are numbered from outside, so its ordering is then written in the scope around
the query and without the tables of its columns.
-/

namespace SqlRender

/-- What a dialect decides about the tokens of a statement. -/
structure SelectStyle where
  paging : PagingStrategy
  /-- The text between a table and its alias. -/
  aliasSeparator : String
  deriving DecidableEq

/-- What columns may refer to a table by. -/
structure Visible where
  name : Option String
  aliasName : Option String
  deriving DecidableEq

/-- What a column sees of a table. -/
def Table.visible (t : Table) : Visible :=
  ⟨t.name?, t.aliasName⟩

/-- The tables of a query. -/
abbrev Scope :=
  List Visible

namespace Scope

/-- The scope of a query with these sources and joins. -/
def of (sources : List Table) (joins : List Join) : Scope :=
  (sources ++ (joins.filter Join.included).map Join.table).map Table.visible

/-- The text before the name of a column of the table `reference`, if the column has to be
qualified.  A column of the only table of the query stands bare, and a column of a table
outside of the query keeps its reference. -/
def qualifier? (scope : Option Scope) (reference : String) : Option String :=
  match scope with
  | none => some reference
  | some tables =>
    match tables.find? fun t => Table.isMeantBy t.name t.aliasName reference with
    | none => some reference
    | some t => if tables.length = 1 then none else some ((t.aliasName.or t.name).getD reference)

end Scope

/-- The scope of a query. -/
def Query.scope (q : Query) : Scope :=
  Scope.of q.sources q.joins

/-! ### Arranging the parts -/

/-- The written parts of a select. -/
structure SelectParts where
  layout : PageLayout
  /-- The common table expressions, with the word before them. -/
  ctes : List Token
  /-- The error of two tables that cannot be told apart. -/
  clash : List Token
  hint : List Token
  columns : List Column
  /-- The columns without their aliases. -/
  exprs : List (List Token)
  /-- The clauses from FROM to HAVING. -/
  clauses : List Token
  /-- Whether there is an ordering. -/
  isOrdered : Bool
  /-- The ordering, as it is written around the query or inside of it. -/
  order : Bool → List Token
  /-- What follows the select. -/
  after : List Token

/-- The alias of a column, with the word before it. -/
def Column.aliasTokens (c : Column) : List Token :=
  match c.aliasName with
  | some a => [.text " AS ", .name a]
  | none => []

/-- A column with its alias, from its expression. -/
def Column.itemTokens (c : Column) (expr : List Token) : List Token :=
  expr ++ c.aliasTokens

/-- The names of the columns as they are known around the select, or a star if one of them
has no name. -/
def outerNames (columns : List Column) : String :=
  let names := columns.map fun c => c.aliasOrName?.filter (· ≠ "*")
  if columns.isEmpty || names.contains none then "*"
  else Text.joinWith ", " (names.map fun n => n.getD "")

namespace SelectParts

/-- The select list behind the head.  A head that belongs behind a leading DISTINCT goes
there, and the alias of these distinct columns is left out. -/
def list (p : SelectParts) (head : Option SelectHead) : List Token :=
  let items := List.zipWith Column.itemTokens p.columns p.exprs
  let plain := if p.columns.isEmpty then [.text "*"] else Token.separated ", " items
  match head, p.columns, p.exprs with
  | none, _, _ => plain
  | some h, c :: _, expr :: _ =>
    if h.afterDistinct && c.isDistinct then
      Token.separated ", "
        ((expr.take 1 ++ [.text h.text, .text " "] ++ expr.drop 1) :: items.drop 1)
    else .text h.text :: .text " " :: plain
  | some h, _, _ => .text h.text :: .text " " :: plain

/-- The number of a row in the given ordering, with its alias. -/
def rowNumber (p : SelectParts) (around : Bool) : List Token :=
  .text "ROW_NUMBER() OVER (" ::
    (if p.isOrdered then .text "ORDER BY " :: p.order around else [.text "ORDER BY CURRENT_TIMESTAMP"])
    ++ [.text ") AS ", .text "__rn"]

/-- The select from its first word to HAVING, with something before its columns. -/
def body (p : SelectParts) (first : List Token) (head : Option SelectHead) : List Token :=
  .text "SELECT " :: p.hint ++ first ++ p.list head ++ p.clauses

/-- The select without common table expressions. -/
def core (p : SelectParts) (head : Option SelectHead) : List Token :=
  p.clash ++ p.body [] head ++
    if p.isOrdered then .text " " :: .text "ORDER BY " :: p.order false else []

/-- The select with numbered rows. -/
def numberedCore (p : SelectParts) (aliasSeparator : String) (head : Option SelectHead) :
    List Token :=
  p.clash ++
    if p.columns.any Column.isDistinct then
      .text "SELECT " :: p.rowNumber true ++ [.text ", * FROM ("] ++ p.body [] none
        ++ [.text ")", .text aliasSeparator, .text "temp_distinct"]
    else p.body (p.rowNumber false ++ [.text ", "]) head

/-- The common table expressions with a text behind them, if there are any. -/
def preamble (p : SelectParts) (separator : String) : List Token :=
  if p.ctes.isEmpty then [] else p.ctes ++ [.text separator]

/-- The select with its common table expressions in front. -/
def standard (p : SelectParts) (head : Option SelectHead) : List Token :=
  p.preamble " " ++ p.core head

/-- The select with its window. -/
def paged (p : SelectParts) (aliasSeparator : String) : List Token :=
  match p.layout with
  | .inline head tail =>
    p.standard head ++ (tail.elim [] fun t => [.text " ", .text t])
  | .wrapped before after => .text before :: p.standard none ++ [.text after]
  | .numbered first last =>
    (if p.ctes.isEmpty then [.text "WITH "] else p.preamble ", ")
      ++ .text "temp_datas AS (" :: p.numberedCore aliasSeparator none
      ++ [.text ") SELECT ", .text (outerNames p.columns),
          .text (" FROM temp_datas WHERE __rn BETWEEN " ++ rowText first ++ " AND "
            ++ rowText last ++ " ORDER BY __rn")]

/-- All tokens of the query. -/
def tokens (p : SelectParts) (aliasSeparator : String) : List Token :=
  p.paged aliasSeparator ++ p.after

end SelectParts

/-! ### Writing the parts -/

/-- A name behind the qualifier that its scope demands. -/
def namedTokens (scope : Option Scope) (table : Option String) (name : String) : List Token :=
  match table.bind (Scope.qualifier? scope) with
  | some q => [.name q, .text ".", .name name]
  | none => [.name name]

/-- A part in parentheses if `needed`. -/
def parenthesizedIf (needed : Bool) (part : List Token) : List Token :=
  if needed then Token.parenthesized part else part

/-- The name of a common table expression and the names of its columns. -/
def cteHead (name : String) (columns : List String) : List Token :=
  .name name ::
    (if columns.isEmpty then []
     else Token.parenthesized (Token.separated ", " (columns.map fun c => [.name c])))
    ++ [.text " AS "]

/-- The alias of a table, with the text before it. -/
def tableAliasTokens (style : SelectStyle) (aliasName : Option String) : List Token :=
  match aliasName with
  | some a => [.text style.aliasSeparator, .name a]
  | none => []

/-- The words of a direction and of a place of the rows without a value. -/
def orderWords (direction : Option Direction) (nulls : Option NullOrder) : List Token :=
  (direction.elim [] fun d => [.text " ", .text d.word])
    ++ nulls.elim [] fun n => [.text " ", .text n.words]

/-- A list of placeholders. -/
def bindTokens (vs : List Value) : List Token :=
  Token.separated ", " (vs.map fun v => [.bind v])

/-- The error of the first table that clashes with a later one. -/
def clashTokens (sources : List Table) (joins : List Join) : List Token :=
  match Table.firstClash? (sources ++ (joins.filter Join.included).map Join.table) with
  | some t => [.refuse (.duplicateTable (t.name?.getD ""))]
  | none => []

mutual

/-- The written parts of a select. -/
def Query.parts (style : SelectStyle) (scope : Option Scope) : Query → SelectParts
  | ⟨recursive, ctes, hint, columns, sources, joins, filter, groups, having, order, rows, offset,
      partners, endings⟩ =>
    let own := some (Scope.of sources joins)
    { layout := style.paging.layoutOf rows offset
      ctes :=
        if ctes.isEmpty then []
        else .text (if recursive then "WITH RECURSIVE " else "WITH ") ::
          Token.separated ", " (Cte.tokensEach style scope ctes)
      clash := clashTokens sources joins
      hint := hint.elim [] fun h => [.text "/*+ ", .raw h [], .text " */ "]
      columns
      exprs := Column.tokensEach style own columns
      clauses :=
        (if sources.isEmpty then []
         else .text " FROM " :: Token.separated ", " (Table.tokensEach style own sources))
          ++ Join.includedTokens style own joins
          ++ (if filter.isEmpty then [] else .text " WHERE " :: Condition.tokens style own filter)
          ++ (if groups.isEmpty then []
              else .text " GROUP BY " :: Token.separated ", " (Column.tokensEach style own groups))
          ++ (if having.isEmpty then [] else .text " HAVING " :: Condition.tokens style own having)
      isOrdered := !order.isEmpty
      order := fun around =>
        Token.separated ", "
          (OrderItem.tokensEach style (if around then scope else own) around order)
      after :=
        (endings.flatMap fun e => [.text " ", .raw e []]) ++ Partner.tokensEach style scope partners }

/-- The common table expressions of a list. -/
def Cte.tokensEach (style : SelectStyle) (scope : Option Scope) : List Cte → List (List Token)
  | [] => []
  | ⟨name, columns, q⟩ :: rest =>
    (cteHead name columns
      ++ Token.parenthesized ((Query.parts style scope q).tokens style.aliasSeparator))
      :: Cte.tokensEach style scope rest

/-- The partners of a union, each with the words before it.  A partner with an ordering or
a limit stands in parentheses. -/
def Partner.tokensEach (style : SelectStyle) (scope : Option Scope) : List Partner → List Token
  | [] => []
  | ⟨kind, q⟩ :: rest =>
    [.text " ", .text kind.words, .text " "]
      ++ parenthesizedIf (!q.order.isEmpty || q.isLimited)
          ((Query.parts style scope q).tokens style.aliasSeparator)
      ++ Partner.tokensEach style scope rest

/-- A column without its alias. -/
def Column.tokens (style : SelectStyle) (scope : Option Scope) : Column → List Token
  | ⟨expr, _⟩ => Expr.tokens style scope expr

/-- The columns of a list, without their aliases. -/
def Column.tokensEach (style : SelectStyle) (scope : Option Scope) :
    List Column → List (List Token)
  | [] => []
  | c :: rest => Column.tokens style scope c :: Column.tokensEach style scope rest

/-- An expression. -/
def Expr.tokens (style : SelectStyle) (scope : Option Scope) : Expr → List Token
  | .named table name => namedTokens scope table name
  | .call function args =>
    .function function ::
      Token.parenthesized (Token.separated ", " (Column.tokensEach style scope args))
  | .distinct columns =>
    .text "DISTINCT " :: Token.separated ", " (Column.tokensEach style scope columns)
  | .raw sql params => [.raw sql params]
  | .param v => [.bind v]
  | .arithmetic left op right =>
    parenthesizedIf left.isArithmetic (Column.tokens style scope left)
      ++ [.text " ", .text op.word, .text " "]
      ++ parenthesizedIf right.isArithmetic (Column.tokens style scope right)
  | .subquery q => Token.parenthesized ((Query.parts style scope q).tokens style.aliasSeparator)

/-- A table with its alias. -/
def Table.tokens (style : SelectStyle) (scope : Option Scope) : Table → List Token
  | ⟨source, aliasName⟩ => Source.tokens style scope source ++ tableAliasTokens style aliasName

/-- The tables of a list. -/
def Table.tokensEach (style : SelectStyle) (scope : Option Scope) : List Table → List (List Token)
  | [] => []
  | t :: rest => Table.tokens style scope t :: Table.tokensEach style scope rest

/-- A table without its alias. -/
def Source.tokens (style : SelectStyle) (scope : Option Scope) : Source → List Token
  | .named schema name => [.table schema name]
  | .derived q => Token.parenthesized ((Query.parts style scope q).tokens style.aliasSeparator)

/-- A join, whether it is included or not. -/
def Join.tokens (style : SelectStyle) (scope : Option Scope) : Join → List Token
  | ⟨kind, table, on, _⟩ =>
    [.text kind.words, .text " "] ++ Table.tokens style scope table
      ++ match on with
        | some c => if c.isEmpty then [] else .text " ON " :: Condition.tokens style scope c
        | none => []

/-- The included joins of a list, each behind a space. -/
def Join.includedTokens (style : SelectStyle) (scope : Option Scope) : List Join → List Token
  | [] => []
  | j :: rest =>
    (if j.included then .text " " :: Join.tokens style scope j else [])
      ++ Join.includedTokens style scope rest

/-- A condition; an empty condition has no tokens. -/
def Condition.tokens (style : SelectStyle) (scope : Option Scope) : Condition → List Token
  | .empty => []
  | .predicate column op operand =>
    Column.tokens style scope column ++ [.text " ", .text op.words]
      ++ Operand.tokens style scope operand
  | .raw sql params => [.raw sql params]
  | .existence negated q =>
    .text (if negated then "NOT EXISTS " else "EXISTS ") ::
      Token.parenthesized ((Query.parts style scope q).tokens style.aliasSeparator)
  | .not c =>
    if c.isEmpty then []
    else .text "NOT " :: Token.parenthesized (Condition.tokens style scope c)
  | .group c =>
    if c.isEmpty then [] else Token.parenthesized (Condition.tokens style scope c)
  | .connect left op right =>
    if left.isEmpty then Condition.tokens style scope right
    else if right.isEmpty then Condition.tokens style scope left
    else
      parenthesizedIf (left.needsParentheses op) (Condition.tokens style scope left)
        ++ [.text " ", .text op.word, .text " "]
        ++ parenthesizedIf (right.needsParentheses op) (Condition.tokens style scope right)

/-- The right side of a predicate, behind a space. -/
def Operand.tokens (style : SelectStyle) (scope : Option Scope) : Operand → List Token
  | .absent => []
  | .value v => [.text " ", .bind v]
  | .list vs => .text " " :: Token.parenthesized (bindTokens vs)
  | .range first last => [.text " ", .bind first, .text " AND ", .bind last]
  | .column c => .text " " :: Column.tokens style scope c
  | .query q =>
    .text " " :: Token.parenthesized ((Query.parts style scope q).tokens style.aliasSeparator)

/-- An entry of an ordering.  Around the query a column of a table is written without the
table. -/
def OrderItem.tokens (style : SelectStyle) (scope : Option Scope) (around : Bool) :
    OrderItem → List Token
  | .column c direction nulls =>
    (match around, c.name? with
      | true, some name => [.name name]
      | _, _ => Column.tokens style scope c)
      ++ orderWords direction nulls
  | .raw text => [.order text]

/-- The entries of an ordering. -/
def OrderItem.tokensEach (style : SelectStyle) (scope : Option Scope) (around : Bool) :
    List OrderItem → List (List Token)
  | [] => []
  | item :: rest =>
    OrderItem.tokens style scope around item :: OrderItem.tokensEach style scope around rest

end

/-- The tokens of a query inside the given scope. -/
def Query.tokens (style : SelectStyle) (scope : Option Scope) (q : Query) : List Token :=
  (q.parts style scope).tokens style.aliasSeparator

end SqlRender
