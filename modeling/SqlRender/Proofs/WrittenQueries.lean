import SqlRender.Proofs.Arrangement

/-!
# The queries in a statement

The statement of a query holds the statements of all queries inside of it, those in joins
that are not included apart: `Query.written` lists them.  A select is refused for tables
that cannot be told apart, and for nothing else.  By `Query.mem_refusals_parts` the errors
among the tokens of a query are those of the queries that are written.
-/

namespace SqlRender

mutual

/-- The queries that are written with a query: the query itself, and those in its common
table expressions, its columns, its tables, its included joins, its conditions, its ordering
and its partners. -/
def Query.written : Query → List Query
  | q@⟨_, ctes, _, columns, sources, joins, filter, groups, having, order, _, _, partners, _⟩ =>
    q :: (Cte.writtenEach ctes ++ Column.writtenEach columns ++ Table.writtenEach sources
      ++ Join.writtenEach joins ++ Condition.written filter ++ Column.writtenEach groups
      ++ Condition.written having ++ OrderItem.writtenEach order ++ Partner.writtenEach partners)

/-- The queries that are written with common table expressions. -/
def Cte.writtenEach : List Cte → List Query
  | [] => []
  | ⟨_, _, q⟩ :: rest => Query.written q ++ Cte.writtenEach rest

/-- The queries that are written with the partners of a union. -/
def Partner.writtenEach : List Partner → List Query
  | [] => []
  | ⟨_, q⟩ :: rest => Query.written q ++ Partner.writtenEach rest

/-- The queries that are written with a column. -/
def Column.written : Column → List Query
  | ⟨expr, _⟩ => Expr.written expr

/-- The queries that are written with the columns of a list. -/
def Column.writtenEach : List Column → List Query
  | [] => []
  | c :: rest => Column.written c ++ Column.writtenEach rest

/-- The queries that are written with an expression. -/
def Expr.written : Expr → List Query
  | .named .. => []
  | .call _ args => Column.writtenEach args
  | .distinct columns => Column.writtenEach columns
  | .raw .. => []
  | .param _ => []
  | .arithmetic left _ right => Column.written left ++ Column.written right
  | .subquery q => Query.written q

/-- The queries that are written with a table. -/
def Table.written : Table → List Query
  | ⟨source, _⟩ => Source.written source

/-- The queries that are written with the tables of a list. -/
def Table.writtenEach : List Table → List Query
  | [] => []
  | t :: rest => Table.written t ++ Table.writtenEach rest

/-- The queries that are written with what a table is read from. -/
def Source.written : Source → List Query
  | .named .. => []
  | .derived q => Query.written q

/-- The queries that are written with the joins of a list; joins that are not included have
none. -/
def Join.writtenEach : List Join → List Query
  | [] => []
  | ⟨_, table, on, included⟩ :: rest =>
    (if included then
      Table.written table ++ (match on with | some c => Condition.written c | none => [])
     else [])
      ++ Join.writtenEach rest

/-- The queries that are written with a condition. -/
def Condition.written : Condition → List Query
  | .empty => []
  | .predicate column _ operand => Column.written column ++ Operand.written operand
  | .raw .. => []
  | .existence _ q => Query.written q
  | .not c => Condition.written c
  | .group c => Condition.written c
  | .connect left _ right => Condition.written left ++ Condition.written right

/-- The queries that are written with the right side of a predicate. -/
def Operand.written : Operand → List Query
  | .column c => Column.written c
  | .query q => Query.written q
  | _ => []

/-- The queries that are written with an ordering. -/
def OrderItem.writtenEach : List OrderItem → List Query
  | [] => []
  | .column c _ _ :: rest => Column.written c ++ OrderItem.writtenEach rest
  | .raw _ :: rest => OrderItem.writtenEach rest

end

/-- The error of tables of a query that cannot be told apart. -/
def Query.clash? (q : Query) : Option QueryError :=
  (Table.firstClash? q.tables).map fun t => .duplicateTable (t.name?.getD "")

/-- The errors of the tables of queries. -/
def Query.clashes (qs : List Query) : List QueryError :=
  qs.filterMap Query.clash?

/-- The errors that stand in the place of a token. -/
def Token.refusals : Token → List QueryError
  | refuse e => [e]
  | _ => []

/-! ### Refusals -/

/-- There are no errors in words and names. -/
theorem Token.skipsWords_refusals :
  SkipsWords refusals
  := ⟨fun _ => rfl, fun _ => rfl, fun _ => rfl⟩

/-- A condition without effect has no queries. -/
theorem Condition.written_eq_nil_of_isEmpty :
    ∀ c : Condition, c.isEmpty = true →
  c.written = []
  | .empty, _ => rfl
  | .not c, h => written_eq_nil_of_isEmpty c h
  | .group c, h => written_eq_nil_of_isEmpty c h
  | .connect left _ right, h => by
    simp only [isEmpty, Bool.and_eq_true] at h
    rw [written, written_eq_nil_of_isEmpty left h.1, written_eq_nil_of_isEmpty right h.2,
      List.append_nil]

theorem refusals_clashTokens (q : Query) :
  (clashTokens q.sources q.joins).flatMap Token.refusals = q.clash?.toList
  := by
  unfold clashTokens Query.clash? Query.tables Query.includedJoins
  cases Table.firstClash? (q.sources ++ (q.joins.filter Join.included).map Join.table) <;> rfl

theorem refusals_bindTokens (vs : List Value) :
  (bindTokens vs).flatMap Token.refusals = []
  := by
  rw [bindTokens, Token.flatMap_separated Token.skipsWords_refusals.text, List.flatMap_map]
  apply List.flatMap_eq_nil_iff.mpr
  exact fun _ _ => rfl

theorem refusals_separated (separator : String) (parts : List (List Token)) :
  (Token.separated separator parts).flatMap Token.refusals
    = parts.flatMap fun part => part.flatMap Token.refusals
  := Token.flatMap_separated Token.skipsWords_refusals.text separator parts

theorem refusals_parenthesized (part : List Token) :
  (Token.parenthesized part).flatMap Token.refusals = part.flatMap Token.refusals
  := Token.flatMap_parenthesized Token.skipsWords_refusals.text part

theorem refusals_words (s : String) (ts : List Token) :
  (.text s :: ts).flatMap Token.refusals = ts.flatMap Token.refusals
  := rfl

theorem Query.clashes_append (qs ps : List Query) :
  clashes (qs ++ ps) = clashes qs ++ clashes ps
  := List.filterMap_append

theorem Query.clashes_cons (q : Query) (qs : List Query) :
  clashes (q :: qs) = q.clash?.toList ++ clashes qs
  := by
  unfold clashes
  cases h : q.clash? <;> simp [h]

section

variable {e : QueryError}

/-- A clause that is left out when it is empty has the errors of its body. -/
theorem mem_refusals_clause (word : String) {isEmpty : Bool} {body : List Token} {qs : List Query}
    (hbody : e ∈ body.flatMap Token.refusals ↔ e ∈ Query.clashes qs)
    (hempty : isEmpty = true → qs = []) :
  e ∈ (if isEmpty then [] else .text word :: body).flatMap Token.refusals ↔ e ∈ Query.clashes qs
  := by
  split
  · next h => simp [hempty h, Query.clashes]
  · rw [refusals_words, hbody]

/-- A clause over a list that is left out when the list is empty has the errors of the
parts. -/
theorem mem_refusals_listClause {α : Type} (items : List α) (word : String)
    {parts : List (List Token)} {qs : List Query}
    (hparts : (e ∈ parts.flatMap fun part => part.flatMap Token.refusals) ↔ e ∈ Query.clashes qs)
    (hempty : items = [] → qs = []) :
  e ∈ (if items.isEmpty then [] else .text word :: Token.separated ", " parts).flatMap
      Token.refusals
    ↔ e ∈ Query.clashes qs
  := by
  apply mem_refusals_clause
  · rw [refusals_separated, hparts]
  · simpa using hempty

variable (e) (style : SelectStyle)

mutual

/-- The errors among the tokens of a query are those of the queries that are written. -/
theorem Query.mem_refusals_parts (scope : Option Scope) :
    ∀ q : Query,
  e ∈ ((q.parts style scope).tokens style.aliasSeparator).flatMap Token.refusals
    ↔ e ∈ Query.clashes q.written
  | ⟨recursive, ctes, hint, columns, sources, joins, filter, groups, having, order, rows,
      offset, partners, endings⟩ => by
    have hwords := Token.skipsWords_refusals
    have hctes := mem_refusals_listClause ctes
      (if recursive then "WITH RECURSIVE " else "WITH ")
      (Cte.mem_refusals_tokensEach scope ctes) (by rintro rfl; rfl)
    have hclash := refusals_clashTokens ⟨recursive, ctes, hint, columns, sources, joins, filter,
      groups, having, order, rows, offset, partners, endings⟩
    have hcolumns := fun own => Column.mem_refusals_tokensEach own columns
    have hsources := fun own => mem_refusals_listClause sources " FROM "
      (Table.mem_refusals_tokensEach own sources) (by rintro rfl; rfl)
    have hjoins := fun own => Join.mem_refusals_includedTokens own joins
    have hfilter := fun own => mem_refusals_clause " WHERE "
      (Condition.mem_refusals_tokens own filter) filter.written_eq_nil_of_isEmpty
    have hgroups := fun own => mem_refusals_listClause groups " GROUP BY "
      (Column.mem_refusals_tokensEach own groups) (by rintro rfl; rfl)
    have hhaving := fun own => mem_refusals_clause " HAVING "
      (Condition.mem_refusals_tokens own having) having.written_eq_nil_of_isEmpty
    have horder := fun scope around => OrderItem.mem_refusals_tokensEach scope around order
    have hpartners := Partner.mem_refusals_tokensEach scope partners
    rw [SelectParts.flatMap_tokens hwords (Query.showsByClause_parts hwords style scope _)]
    generalize SelectParts.isNumbered _ = numbered
    simp only [Query.parts, Query.written, Query.clashes_cons, Query.clashes_append,
      List.flatMap_append, refusals_separated, flatMap_endings hwords, hclash, List.nil_append,
      List.mem_append, hctes, hcolumns, hsources, hjoins, hfilter, hgroups, hhaving, hpartners]
    -- the ordering stands in one of two places
    cases numbered
    · simp only [Bool.false_eq_true, if_false, horder, List.not_mem_nil, or_false, or_assoc,
        or_left_comm]
    · simp only [if_true, horder, List.not_mem_nil, or_false, or_assoc, or_left_comm]

theorem Cte.mem_refusals_tokensEach (scope : Option Scope) :
    ∀ ctes : List Cte,
  (e ∈ (Cte.tokensEach style scope ctes).flatMap fun part => part.flatMap Token.refusals)
    ↔ e ∈ Query.clashes (Cte.writtenEach ctes)
  | [] => Iff.rfl
  | ⟨name, columns, q⟩ :: rest => by
    rw [Cte.tokensEach, Cte.writtenEach, List.flatMap_cons, List.flatMap_append,
      flatMap_cteHead Token.skipsWords_refusals, List.nil_append, refusals_parenthesized,
      Query.clashes_append, List.mem_append, List.mem_append, Query.mem_refusals_parts scope q,
      Cte.mem_refusals_tokensEach scope rest]

theorem Partner.mem_refusals_tokensEach (scope : Option Scope) :
    ∀ partners : List Partner,
  e ∈ (Partner.tokensEach style scope partners).flatMap Token.refusals
    ↔ e ∈ Query.clashes (Partner.writtenEach partners)
  | [] => Iff.rfl
  | ⟨kind, q⟩ :: rest => by
    rw [Partner.tokensEach, Partner.writtenEach, List.flatMap_append, List.flatMap_append,
      flatMap_parenthesizedIf Token.skipsWords_refusals, Query.clashes_append, List.mem_append,
      List.mem_append, List.mem_append, Query.mem_refusals_parts scope q,
      Partner.mem_refusals_tokensEach scope rest]
    simp [Token.refusals]

theorem Column.mem_refusals_tokens (scope : Option Scope) :
    ∀ c : Column,
  e ∈ (Column.tokens style scope c).flatMap Token.refusals ↔ e ∈ Query.clashes c.written
  | ⟨expr, _⟩ => Expr.mem_refusals_tokens scope expr

theorem Column.mem_refusals_tokensEach (scope : Option Scope) :
    ∀ columns : List Column,
  (e ∈ (Column.tokensEach style scope columns).flatMap fun part => part.flatMap Token.refusals)
    ↔ e ∈ Query.clashes (Column.writtenEach columns)
  | [] => Iff.rfl
  | c :: rest => by
    rw [Column.tokensEach, Column.writtenEach, List.flatMap_cons, Query.clashes_append,
      List.mem_append, List.mem_append, Column.mem_refusals_tokens scope c,
      Column.mem_refusals_tokensEach scope rest]

theorem Expr.mem_refusals_tokens (scope : Option Scope) :
    ∀ x : Expr,
  e ∈ (Expr.tokens style scope x).flatMap Token.refusals ↔ e ∈ Query.clashes x.written
  | .named table name => by
    rw [Expr.tokens, flatMap_namedTokens Token.skipsWords_refusals]
    rfl
  | .call function args => by
    rw [Expr.tokens, List.flatMap_cons, refusals_parenthesized, refusals_separated,
      List.mem_append, Column.mem_refusals_tokensEach scope args, Expr.written]
    simp [Token.refusals]
  | .distinct columns => by
    rw [Expr.tokens, refusals_words, refusals_separated,
      Column.mem_refusals_tokensEach scope columns, Expr.written]
  | .raw sql params => Iff.rfl
  | .param v => Iff.rfl
  | .arithmetic left op right => by
    rw [Expr.tokens, Expr.written, List.flatMap_append, List.flatMap_append,
      flatMap_parenthesizedIf Token.skipsWords_refusals,
      flatMap_parenthesizedIf Token.skipsWords_refusals, Query.clashes_append, List.mem_append,
      List.mem_append, List.mem_append, Column.mem_refusals_tokens scope left,
      Column.mem_refusals_tokens scope right]
    simp [Token.refusals]
  | .subquery q => by
    rw [Expr.tokens, Expr.written, refusals_parenthesized, Query.mem_refusals_parts scope q]

theorem Table.mem_refusals_tokens (scope : Option Scope) :
    ∀ t : Table,
  e ∈ (Table.tokens style scope t).flatMap Token.refusals ↔ e ∈ Query.clashes t.written
  | ⟨source, aliasName⟩ => by
    rw [Table.tokens, Table.written, List.flatMap_append,
      flatMap_tableAliasTokens Token.skipsWords_refusals, List.append_nil,
      Source.mem_refusals_tokens scope source]

theorem Table.mem_refusals_tokensEach (scope : Option Scope) :
    ∀ tables : List Table,
  (e ∈ (Table.tokensEach style scope tables).flatMap fun part => part.flatMap Token.refusals)
    ↔ e ∈ Query.clashes (Table.writtenEach tables)
  | [] => Iff.rfl
  | t :: rest => by
    rw [Table.tokensEach, Table.writtenEach, List.flatMap_cons, Query.clashes_append,
      List.mem_append, List.mem_append, Table.mem_refusals_tokens scope t,
      Table.mem_refusals_tokensEach scope rest]

theorem Source.mem_refusals_tokens (scope : Option Scope) :
    ∀ source : Source,
  e ∈ (Source.tokens style scope source).flatMap Token.refusals
    ↔ e ∈ Query.clashes source.written
  | .named schema name => Iff.rfl
  | .derived q => by
    rw [Source.tokens, Source.written, refusals_parenthesized, Query.mem_refusals_parts scope q]

theorem Join.mem_refusals_includedTokens (scope : Option Scope) :
    ∀ joins : List Join,
  e ∈ (Join.includedTokens style scope joins).flatMap Token.refusals
    ↔ e ∈ Query.clashes (Join.writtenEach joins)
  | [] => Iff.rfl
  | ⟨_, _, _, false⟩ :: rest => Join.mem_refusals_includedTokens scope rest
  | ⟨kind, table, none, true⟩ :: rest => by
    have htable := Table.mem_refusals_tokens scope table
    have hrest := Join.mem_refusals_includedTokens scope rest
    simp [Join.includedTokens, Join.tokens, Join.writtenEach, Query.clashes_append,
      Token.refusals, htable, hrest, -List.mem_flatMap]
  | ⟨kind, table, some c, true⟩ :: rest => by
    have htable := Table.mem_refusals_tokens scope table
    have hc := mem_refusals_clause " ON " (Condition.mem_refusals_tokens scope c)
      c.written_eq_nil_of_isEmpty
    have hrest := Join.mem_refusals_includedTokens scope rest
    simp [Join.includedTokens, Join.tokens, Join.writtenEach, Query.clashes_append,
      Token.refusals, htable, hc, hrest, -List.mem_flatMap]

theorem Condition.mem_refusals_tokens (scope : Option Scope) :
    ∀ c : Condition,
  e ∈ (Condition.tokens style scope c).flatMap Token.refusals ↔ e ∈ Query.clashes c.written
  | .empty => Iff.rfl
  | .predicate column op operand => by
    rw [Condition.tokens, Condition.written, List.flatMap_append, List.flatMap_append,
      Query.clashes_append, List.mem_append, List.mem_append, List.mem_append,
      Column.mem_refusals_tokens scope column, Operand.mem_refusals_tokens scope operand]
    simp [Token.refusals]
  | .raw sql params => Iff.rfl
  | .existence negated q => by
    rw [Condition.tokens, Condition.written, refusals_words, refusals_parenthesized,
      Query.mem_refusals_parts scope q]
  | .not c => by
    rw [Condition.tokens, Condition.written]
    apply mem_refusals_clause "NOT " _ c.written_eq_nil_of_isEmpty
    rw [refusals_parenthesized, Condition.mem_refusals_tokens scope c]
  | .group c => by
    rw [Condition.tokens, Condition.written]
    split
    · next h => simp [c.written_eq_nil_of_isEmpty h, Query.clashes]
    · rw [refusals_parenthesized, Condition.mem_refusals_tokens scope c]
  | .connect left op right => by
    have hleft := Condition.mem_refusals_tokens scope left
    have hright := Condition.mem_refusals_tokens scope right
    rw [Condition.tokens, Condition.written, Query.clashes_append, List.mem_append]
    split
    · next h => simp [left.written_eq_nil_of_isEmpty h, Query.clashes, hright]
    · split
      · next h => simp [right.written_eq_nil_of_isEmpty h, Query.clashes, hleft]
      · rw [List.flatMap_append, List.flatMap_append,
          flatMap_parenthesizedIf Token.skipsWords_refusals,
          flatMap_parenthesizedIf Token.skipsWords_refusals, List.mem_append, List.mem_append,
          hleft, hright]
        simp [Token.refusals]

theorem Operand.mem_refusals_tokens (scope : Option Scope) :
    ∀ operand : Operand,
  e ∈ (Operand.tokens style scope operand).flatMap Token.refusals
    ↔ e ∈ Query.clashes operand.written
  | .absent => Iff.rfl
  | .value v => Iff.rfl
  | .list vs => by
    rw [Operand.tokens, refusals_words, refusals_parenthesized, refusals_bindTokens]
    rfl
  | .range first last => Iff.rfl
  | .column c => Column.mem_refusals_tokens scope c
  | .query q => by
    rw [Operand.tokens, Operand.written, refusals_words, refusals_parenthesized,
      Query.mem_refusals_parts scope q]

theorem OrderItem.mem_refusals_tokensEach (scope : Option Scope) (around : Bool) :
    ∀ order : List OrderItem,
  (e ∈ (OrderItem.tokensEach style scope around order).flatMap
      fun part => part.flatMap Token.refusals)
    ↔ e ∈ Query.clashes (OrderItem.writtenEach order)
  | [] => Iff.rfl
  | .column c direction nulls :: rest => by
    rw [OrderItem.tokensEach, OrderItem.writtenEach, List.flatMap_cons,
      flatMap_ordered Token.skipsWords_refusals, Query.clashes_append, List.mem_append,
      List.mem_append, Column.mem_refusals_tokens scope c,
      OrderItem.mem_refusals_tokensEach scope around rest]
  | .raw text :: rest => OrderItem.mem_refusals_tokensEach scope around rest

end

end

end SqlRender
