import SqlRender.Proofs.WindowTexts

/-!
# The ordering of numbered distinct rows

Distinct rows are numbered from outside: the window of `ROW_NUMBER` stands around the derived
table `temp_distinct`, and the tables of the query are not visible there.  A column that is an
entry of the ordering by itself is written without its table.  A column inside of an entry, in
an operation or in the arguments of a function, is written in the scope around the query, and
keeps its table unless it is the only one there.  The main statement is
`Dialect.windowOrdering_of_statement`.
-/

namespace SqlRender

/-! ### Bare columns -/

mutual

/-- The expression with the tables of its columns left out, outside of sub-selects. -/
def Expr.bare : Expr → Expr
  | .named _ name => .named none name
  | .call function args => .call function (Column.bareEach args)
  | .distinct columns => .distinct (Column.bareEach columns)
  | .raw sql params => .raw sql params
  | .param v => .param v
  | .arithmetic left op right => .arithmetic (Column.bare left) op (Column.bare right)
  | .subquery q => .subquery q

/-- The column with the tables left out. -/
def Column.bare : Column → Column
  | ⟨expr, aliasName⟩ => ⟨Expr.bare expr, aliasName⟩

/-- The columns of a list with the tables left out. -/
def Column.bareEach : List Column → List Column
  | [] => []
  | c :: rest => Column.bare c :: Column.bareEach rest

end

mutual

/-- The tables of the columns in an expression, outside of sub-selects. -/
def Expr.tables : Expr → List String
  | .named table _ => table.toList
  | .call _ args => Column.tablesEach args
  | .distinct columns => Column.tablesEach columns
  | .raw .. => []
  | .param _ => []
  | .arithmetic left _ right => Column.tables left ++ Column.tables right
  | .subquery _ => []

/-- The tables of the columns in a column. -/
def Column.tables : Column → List String
  | ⟨expr, _⟩ => Expr.tables expr

/-- The tables of the columns in a list. -/
def Column.tablesEach : List Column → List String
  | [] => []
  | c :: rest => Column.tables c ++ Column.tablesEach rest

end

namespace OrderItem

/-- The entry of an ordering with the tables left out. -/
def bare : OrderItem → OrderItem
  | column c direction nulls => column c.bare direction nulls
  | raw text => raw text

/-- The tables of the columns inside of an entry of an ordering: not the one of a column that is
the entry by itself. -/
def innerTables : OrderItem → List String
  | column c _ _ => if c.name?.isSome then [] else c.tables
  | raw _ => []

/-- The text of an entry of the ordering in a window around the rows. -/
def windowText (d : Dialect) (scope : Option Scope) (item : OrderItem) : String :=
  Token.written d.quoting (item.tokens d.style scope true)

end OrderItem

/-- The text of the ordering in a window around the rows. -/
def Query.windowOrdering (d : Dialect) (scope : Option Scope) (q : Query) : String :=
  "ORDER BY " ++ if q.order.isEmpty then "CURRENT_TIMESTAMP"
    else Text.joinWith ", " (q.order.map (OrderItem.windowText d scope))

/-! ### Longer texts -/

/-- The text of the second tokens is that of the first ones with so many characters added. -/
structure Token.Extends (quoting : Quoting) (n : Nat) (us ts : List Token) : Prop where
  sublist : (Token.written quoting us).toList.Sublist (Token.written quoting ts).toList
  length : (Token.written quoting ts).toList.length = (Token.written quoting us).toList.length + n

namespace Token.Extends

variable {quoting : Quoting} {m n : Nat} {us ts us' ts' : List Token}

theorem refl (ts : List Token) :
  Extends quoting 0 ts ts
  := ⟨List.Sublist.refl _, rfl⟩

theorem append (h : Extends quoting m us ts) (h' : Extends quoting n us' ts') :
  Extends quoting (m + n) (us ++ us') (ts ++ ts')
  := by
  constructor
  · simpa [written_append] using h.sublist.append h'.sublist
  · have hlength := h.length
    have hlength' := h'.length
    simp only [written_append, String.toList_append, List.length_append]
    omega

theorem append_right (h : Extends quoting n us ts) (vs : List Token) :
  Extends quoting n (us ++ vs) (ts ++ vs)
  := h.append (refl vs)

theorem append_left (vs : List Token) (h : Extends quoting n us ts) :
  Extends quoting n (vs ++ us) (vs ++ ts)
  := by
  simpa using (refl vs).append h

theorem parenthesized (h : Extends quoting n us ts) :
  Extends quoting n (Token.parenthesized us) (Token.parenthesized ts)
  := (h.append_left [.text "("]).append_right [.text ")"]

theorem parenthesizedIf (needed : Bool) (h : Extends quoting n us ts) :
  Extends quoting n (SqlRender.parenthesizedIf needed us) (SqlRender.parenthesizedIf needed ts)
  := by
  cases needed
  · exact h
  · exact h.parenthesized

/-- The texts are one if nothing is added. -/
theorem written_eq_iff (h : Extends quoting n us ts) :
  Token.written quoting ts = Token.written quoting us ↔ n = 0
  := by
  have hlength := h.length
  rw [← String.toList_inj]
  constructor
  · intro heq
    rw [heq] at hlength
    omega
  · rintro rfl
    exact (h.sublist.eq_of_length hlength.symm).symm

end Token.Extends

/-! ### The tables that are written -/

/-- The tokens before a column of the table. -/
def Scope.qualifierTokens (scope : Option Scope) (table : String) : List Token :=
  (qualifier? scope table).elim [] fun n => [.name n, .text "."]

/-- The number of characters that are written for the tables of columns. -/
def Scope.qualifiersLength (quoting : Quoting) (scope : Option Scope) (tables : List String) :
    Nat :=
  (tables.flatMap fun n => (Token.written quoting (qualifierTokens scope n)).toList).length

theorem Scope.qualifiersLength_append (quoting : Quoting) (scope : Option Scope)
    (tables more : List String) :
  qualifiersLength quoting scope (tables ++ more)
    = qualifiersLength quoting scope tables + qualifiersLength quoting scope more
  := by
  simp [qualifiersLength]

theorem Scope.qualifiersLength_eq_zero_iff {quoting : Quoting} {scope : Option Scope}
    {tables : List String} :
  qualifiersLength quoting scope tables = 0 ↔ ∀ n ∈ tables, qualifier? scope n = none
  := by
  rw [qualifiersLength, List.length_eq_zero_iff, List.flatMap_eq_nil_iff]
  apply forall₂_congr
  intro n _
  rw [qualifierTokens]
  cases qualifier? scope n with
  | none => simp [Token.written]
  | some m => simp [Token.written_cons, Token.toText]

section

variable (quoting : Quoting) (style : SelectStyle) (scope : Option Scope)

/-- A column has the tokens of its table before it. -/
theorem namedTokens_some (table name : String) :
  namedTokens scope (some table) name
    = Scope.qualifierTokens scope table ++ namedTokens scope none name
  := by
  unfold namedTokens Scope.qualifierTokens
  rw [Option.bind_some]
  cases Scope.qualifier? scope table <;> rfl

theorem extends_namedTokens (table : Option String) (name : String) :
  Token.Extends quoting (Scope.qualifiersLength quoting scope table.toList)
    (namedTokens scope none name) (namedTokens scope table name)
  := by
  cases table with
  | none => exact .refl _
  | some n =>
    rw [namedTokens_some]
    constructor
    · rw [Token.written_append, String.toList_append]
      apply List.sublist_append_right
    · rw [Token.written_append, String.toList_append, List.length_append, Nat.add_comm]
      simp [Scope.qualifiersLength]

theorem Column.isArithmetic_bare (c : Column) :
  c.bare.isArithmetic = c.isArithmetic
  := by
  obtain ⟨expr, aliasName⟩ := c
  cases expr <;> rfl

theorem Column.name?_bare (c : Column) :
  c.bare.name? = c.name?
  := by
  obtain ⟨expr, aliasName⟩ := c
  cases expr <;> rfl

mutual

/-- The tables before its columns are all that an expression has besides a bare one. -/
theorem Expr.extends_bare : ∀ e : Expr,
  Token.Extends quoting (Scope.qualifiersLength quoting scope e.tables)
    (e.bare.tokens style scope) (e.tokens style scope)
  | .named table name => extends_namedTokens quoting scope table name
  | .call function args =>
    (Column.extends_bareEach args).parenthesized.append_left [.function function]
  | .distinct columns => (Column.extends_bareEach columns).append_left [.text "DISTINCT "]
  | .raw sql params => .refl _
  | .param v => .refl _
  | .arithmetic left op right => by
    rw [Expr.bare, Expr.tokens, Expr.tokens, Expr.tables, Scope.qualifiersLength_append,
      Column.isArithmetic_bare, Column.isArithmetic_bare]
    have hleft := (Column.extends_bare left).parenthesizedIf left.isArithmetic
    have hright := (Column.extends_bare right).parenthesizedIf right.isArithmetic
    exact (hleft.append_right [.text " ", .text op.word, .text " "]).append hright
  | .subquery q => .refl _

theorem Column.extends_bare : ∀ c : Column,
  Token.Extends quoting (Scope.qualifiersLength quoting scope c.tables)
    (c.bare.tokens style scope) (c.tokens style scope)
  | ⟨expr, _⟩ => Expr.extends_bare expr

theorem Column.extends_bareEach : ∀ columns : List Column,
  Token.Extends quoting (Scope.qualifiersLength quoting scope (Column.tablesEach columns))
    (Token.separated ", " (Column.tokensEach style scope (Column.bareEach columns)))
    (Token.separated ", " (Column.tokensEach style scope columns))
  | [] => .refl _
  | [c] => by
    rw [Column.tablesEach, Column.tablesEach, List.append_nil]
    exact Column.extends_bare c
  | c :: next :: rest => by
    rw [Column.tablesEach, Scope.qualifiersLength_append]
    exact ((Column.extends_bare c).append
      ((Column.extends_bareEach (next :: rest)).append_left [.text ", "]))

end

/-- The tables inside of an entry are all that it has besides a bare one. -/
theorem OrderItem.extends_bare (item : OrderItem) :
  Token.Extends quoting (Scope.qualifiersLength quoting scope item.innerTables)
    (item.bare.tokens style scope true) (item.tokens style scope true)
  := by
  cases item with
  | raw text => exact .refl _
  | column c direction nulls =>
    cases hname : c.name? with
    | some name =>
      have hnothing : Scope.qualifiersLength quoting scope [] = 0 := rfl
      simpa [bare, tokens, Column.name?_bare, hname, innerTables, hnothing]
        using Token.Extends.refl _
    | none =>
      have hcolumn := (Column.extends_bare quoting style scope c).append_right
        (orderWords direction nulls)
      simpa [bare, tokens, Column.name?_bare, hname, innerTables] using hcolumn

end

/-! ### The window -/

/-- Separated tokens are written with the separator between their texts. -/
theorem Token.written_separated (quoting : Quoting) (separator : String)
    (parts : List (List Token)) :
  Token.written quoting (separated separator parts)
    = Text.joinWith separator (parts.map (Token.written quoting))
  := by
  fun_induction separated separator parts with
  | case1 => rfl
  | case2 part => rfl
  | case3 part rest hrest ih =>
    cases rest with
    | nil => exact absurd rfl hrest
    | cons next rest =>
      rw [written_append, written_cons, ih]
      simp [Text.joinWith, Token.toText, String.append_assoc]

theorem OrderItem.tokensEach_eq_map (style : SelectStyle) (scope : Option Scope) (around : Bool)
    (items : List OrderItem) :
  OrderItem.tokensEach style scope around items = items.map (OrderItem.tokens style scope around)
  := by
  induction items with
  | nil => rfl
  | cons item items ih => rw [OrderItem.tokensEach, ih, List.map_cons]

/-- The number of a row in the ordering of a query. -/
theorem Query.written_rowNumber (d : Dialect) (scope : Option Scope) (q : Query) :
  Token.written d.quoting ((q.parts d.style scope).rowNumber true)
    = "ROW_NUMBER() OVER (" ++ q.windowOrdering d scope ++ ") AS __rn"
  := by
  obtain ⟨recursive, ctes, hint, columns, sources, joins, filter, groups, having, order⟩ := q
  have hend : Token.written d.quoting [.text ") AS ", .text "__rn"] = ") AS __rn" := rfl
  cases order with
  | nil => rfl
  | cons item order =>
    have horder : Token.written d.quoting (Token.separated ", "
        (OrderItem.tokensEach d.style scope true (item :: order)))
        = Text.joinWith ", " ((item :: order).map (OrderItem.windowText d scope)) := by
      rw [Token.written_separated, OrderItem.tokensEach_eq_map, List.map_map]
      rfl
    simp [SelectParts.rowNumber, Query.parts, Token.written_cons, Token.written_append, horder,
      hend, Query.windowOrdering, Token.toText, String.append_assoc]

/-- A query with a window has its rows numbered under the paging by row numbers. -/
theorem Query.layout_numbered (style : SelectStyle) (hpaging : style.paging = .rowNumber)
    (scope : Option Scope) {q : Query} {rows : UInt64} (hrows : q.rows = some rows) :
  (q.parts style scope).layout
    = .numbered (Window.firstRow ⟨q.offset, rows⟩) (Window.lastRow ⟨q.offset, rows⟩)
  := by
  rw [layout_parts, hpaging, hrows]
  rfl

namespace SelectParts

variable {p : SelectParts}

/-- Numbered rows are a common table expression, from which a window of them is selected. -/
theorem tokens_numbered {first last : UInt64} (hlayout : p.layout = .numbered first last)
    (aliasSeparator : String) :
  p.tokens aliasSeparator
    = (if p.ctes.isEmpty then [.text "WITH "] else p.preamble ", ")
      ++ .text "temp_datas AS (" :: p.numberedCore aliasSeparator none
      ++ [.text ") SELECT ", .text (outerNames p.columns),
        .text (" FROM temp_datas WHERE __rn BETWEEN " ++ rowText first ++ " AND " ++ rowText last
          ++ " ORDER BY __rn")]
      ++ p.after
  := by
  rw [tokens, paged, hlayout]

/-- The rows of a select with distinct columns are numbered around it. -/
theorem numberedCore_distinct (hdistinct : p.columns.any Column.isDistinct = true)
    (aliasSeparator : String) (head : Option SelectHead) :
  p.numberedCore aliasSeparator head
    = p.clash ++ .text "SELECT " :: p.rowNumber true ++ .text ", * FROM (" :: p.body [] none
      ++ [.text ")", .text aliasSeparator, .text "temp_distinct"]
  := by
  simp [numberedCore, hdistinct]

end SelectParts

/-- The ordering of numbered distinct rows stands right behind the opening of the window. -/
theorem Query.exists_written_windowOrdering {d : Dialect} (hpaging : d.paging = .rowNumber)
    (scope : Option Scope) {q : Query} {rows : UInt64} (hrows : q.rows = some rows)
    (hdistinct : q.hasDistinct = true) :
  ∃ ctes behind, Token.written d.quoting (q.tokens d.style scope)
    = ctes ++ "temp_datas AS (SELECT ROW_NUMBER() OVER (" ++ q.windowOrdering d scope
      ++ ") AS __rn, * FROM (SELECT " ++ behind
  := by
  have hcolumns : (q.parts d.style scope).columns.any Column.isDistinct = true := by
    rwa [columns_parts]
  have htokens := SelectParts.tokens_numbered (layout_numbered d.style hpaging scope hrows)
    d.style.aliasSeparator
  have hopening : "temp_datas AS (SELECT ROW_NUMBER() OVER ("
      = "temp_datas AS (" ++ ("SELECT " ++ "ROW_NUMBER() OVER (") := rfl
  have hclosing : ") AS __rn, * FROM (SELECT " = ") AS __rn" ++ (", * FROM (" ++ "SELECT ") := rfl
  rw [tokens, htokens, SelectParts.numberedCore_distinct hcolumns, SelectParts.body]
  simp only [hopening, hclosing, Token.written_append, Token.written_cons, written_clash,
    written_rowNumber, Token.toText, String.append_assoc, String.empty_append]
  exact ⟨_, _, rfl⟩

/-- The rows of a select with distinct columns are numbered around it in an ordering by its
entries.  An entry is written as one without tables exactly if its inner columns stand bare in
the scope around the query; the tables of columns that are entries by themselves are left out. -/
theorem Dialect.windowOrdering_of_statement {d : Dialect} (hpaging : d.paging = .rowNumber)
    {q : Query} {rows : UInt64} (hrows : q.rows = some rows) (hdistinct : q.hasDistinct = true)
    (scope : Option Scope) :
  (∀ s, d.statement (q.tokens d.style scope) = .ok s →
    ∃ ctes behind, s.sql = ctes ++ "temp_datas AS (SELECT ROW_NUMBER() OVER ("
      ++ q.windowOrdering d scope ++ ") AS __rn, * FROM (SELECT " ++ behind)
    ∧ ∀ item ∈ q.order, item.windowText d scope = item.bare.windowText d scope
      ↔ ∀ n ∈ item.innerTables, Scope.qualifier? scope n = none
  := by
  constructor
  · intro s hs
    obtain ⟨-, rfl⟩ := Statement.ofTokens_eq_ok_iff.mp hs
    exact Query.exists_written_windowOrdering hpaging scope hrows hdistinct
  · intro item _
    have hextends := item.extends_bare d.quoting d.style scope
    exact hextends.written_eq_iff.trans Scope.qualifiersLength_eq_zero_iff

/-- An ordering of accounts by their greatest age. -/
def byGreatestAge : OrderItem :=
  .column ⟨.call "MAX" [⟨.named (some "tb_account") "age", none⟩], none⟩ (some .descending) none

/-- The first ten sexes of accounts, ordered by a column and by a function. -/
def orderedSexes : Query :=
  { Query.empty with
    columns := [⟨.distinct [⟨.named (some "tb_account") "sex", none⟩], none⟩]
    sources := [⟨.named none "tb_account", none⟩]
    order := [.column ⟨.named (some "tb_account") "sex", none⟩ none none, byGreatestAge]
    rows := some 10 }

/-- The column that is an entry is bare, and the one in the function has its table before it. -/
theorem Dialect.windowOrdering_of_statement_orderedSexes :
  (builtIn .sqlServer2005).paging = .rowNumber
    ∧ orderedSexes.rows = some 10
    ∧ orderedSexes.hasDistinct = true
    ∧ (∃ s, (builtIn .sqlServer2005).select orderedSexes = .ok s
      ∧ s.sql = "WITH temp_datas AS (SELECT ROW_NUMBER() OVER (ORDER BY [sex], "
        ++ "MAX([tb_account].[age]) DESC) AS __rn, * FROM (SELECT DISTINCT [sex] "
        ++ "FROM [tb_account]) AS temp_distinct) "
        ++ "SELECT * FROM temp_datas WHERE __rn BETWEEN 1 AND 10 ORDER BY __rn")
    ∧ byGreatestAge.windowText (builtIn .sqlServer2005) none
      ≠ byGreatestAge.bare.windowText (builtIn .sqlServer2005) none
  := by
  obtain ⟨s, hs⟩ : ∃ s, (builtIn .sqlServer2005).select orderedSexes = .ok s := ⟨_, rfl⟩
  obtain ⟨-, hentries⟩ :=
    windowOrdering_of_statement (d := builtIn .sqlServer2005) (q := orderedSexes) rfl rfl rfl none
  refine ⟨rfl, rfl, rfl, ⟨s, hs, ?_⟩, ?_⟩
  · obtain rfl := Except.ok.inj hs
    decide +kernel
  · intro hbare
    have hentry : byGreatestAge ∈ orderedSexes.order := .tail _ (.head _)
    cases (hentries byGreatestAge hentry).mp hbare "tb_account" (.head _)

end SqlRender
