import SqlRender.Proofs.WindowOrdering

/-!
# The columns around numbered rows

The numbered layout selects from `temp_datas` by the names of the columns in this table, or by a
star if one of them has no name.  The names are those of the entries of the select list, and an
entry is one column of the result, unless it is a list of distinct columns.  Such a list has a
name if it has an alias, which is then the alias of the last of its columns only; so the other
columns of the list are lost.  The main statement is `Dialect.outerNames_of_statement`.
-/

namespace SqlRender

/-! ### The columns of a result -/

mutual

/-- The names of the columns of a result that an expression stands for, as far as they have
names.  A list of distinct columns stands for all of its columns. -/
def Expr.outputs : Expr → List (Option String)
  | .named _ name => [some name]
  | .call .. => [none]
  | .distinct columns => if columns.isEmpty then [none] else Column.outputsEach columns
  | .raw .. => [none]
  | .param _ => [none]
  | .arithmetic .. => [none]
  | .subquery _ => [none]

/-- The columns of a result for the columns of a list, whose aliases are not written. -/
def Column.outputsEach : List Column → List (Option String)
  | [] => []
  | ⟨expr, _⟩ :: rest => Expr.outputs expr ++ Column.outputsEach rest

end

/-- The columns of a result for an entry of a select list.  An alias stands behind the last of
them. -/
def Column.results (c : Column) : List (Option String) :=
  match c.aliasName with
  | none => c.expr.outputs
  | some a => c.expr.outputs.dropLast ++ [some a]

/-- The columns of the result of a query. -/
def Query.results (q : Query) : List (Option String) :=
  if q.columns.isEmpty then [some "*"] else q.columns.flatMap Column.results

/-! ### Texts of columns -/

namespace Quoting

/-- A text that shows a column of a result under a name ends with this name. -/
def ShowsAs (q : Quoting) (result : Option String) (text : String) : Prop :=
  ∀ n ∈ result, ∃ before, text = before ++ q.wrapName n

/-- A text that lists columns of a result: one text for each of them, with commas between. -/
inductive Lists (q : Quoting) : List (Option String) → String → Prop where
  | single {result : Option String} {text : String} (h : q.ShowsAs result text) :
      Lists q [result] text
  | cons {result : Option String} {text : String} {results : List (Option String)}
      {rest : String} (h : q.ShowsAs result text) (hrest : Lists q results rest) :
      Lists q (result :: results) (text ++ ", " ++ rest)

variable {q : Quoting} {result : Option String} {results results' : List (Option String)}
  {text text' : String}

theorem ShowsAs.after (h : q.ShowsAs result text) (before : String) :
  q.ShowsAs result (before ++ text)
  := by
  intro n hn
  obtain ⟨between, rfl⟩ := h n hn
  exact ⟨before ++ between, (String.append_assoc ..).symm⟩

namespace Lists

theorem append (h : q.Lists results text) (h' : q.Lists results' text') :
  q.Lists (results ++ results') (text ++ ", " ++ text')
  := by
  induction h with
  | single h => exact .cons h h'
  | cons h _ ih => simpa [String.append_assoc] using Lists.cons h ih

theorem after (h : q.Lists results text) (before : String) :
  q.Lists results (before ++ text)
  := by
  cases h with
  | single h => exact .single (h.after before)
  | cons h hrest => simpa [String.append_assoc] using Lists.cons (h.after before) hrest

/-- An alias behind a list is one of its last column. -/
theorem under (h : q.Lists results text) (a : String) :
  q.Lists (results.dropLast ++ [some a]) (text ++ " AS " ++ q.wrapName a)
  := by
  induction h with
  | single _ =>
    apply Lists.single
    rintro n ⟨⟩
    exact ⟨_, rfl⟩
  | @cons _ _ results _ h hrest ih =>
    have hne : results ≠ [] := by
      cases hrest <;> simp
    simpa [List.dropLast_cons_of_ne_nil hne, String.append_assoc] using Lists.cons h ih

/-- Separated parts list what each of them lists. -/
theorem separated {α : Type} {results : α → List (Option String)} {tokens : α → List Token}
    {items : List α} (hne : items ≠ [])
    (h : ∀ x ∈ items, q.Lists (results x) (Token.written q (tokens x))) :
  q.Lists (items.flatMap results) (Token.written q (Token.separated ", " (items.map tokens)))
  := by
  induction items with
  | nil => exact absurd rfl hne
  | cons x items ih =>
    obtain ⟨hx, hitems⟩ := List.forall_mem_cons.mp h
    cases items with
    | nil => simpa [Token.separated] using hx
    | cons y items =>
      have hrest := ih (List.cons_ne_nil y items) hitems
      have htokens : Token.separated ", " ((x :: y :: items).map tokens)
          = tokens x ++ [.text ", "] ++ Token.separated ", " ((y :: items).map tokens) := by
        simp [Token.separated]
      rw [htokens, Token.written_append, Token.written_append, List.flatMap_cons]
      exact hx.append hrest

end Lists

end Quoting

theorem Column.outputsEach_eq_flatMap (columns : List Column) :
  Column.outputsEach columns = columns.flatMap fun c => c.expr.outputs
  := by
  induction columns with
  | nil => rfl
  | cons c columns ih =>
    obtain ⟨expr, aliasName⟩ := c
    rw [Column.outputsEach, ih, List.flatMap_cons]

/-- The last token of a column of a table is its name. -/
theorem exists_namedTokens (scope : Option Scope) (table : Option String) (name : String) :
  ∃ before, namedTokens scope table name = before ++ [.name name]
  := by
  cases table with
  | none => exact ⟨[], rfl⟩
  | some t => exact ⟨_, namedTokens_some scope t name⟩

/-- A text shows a column without a name. -/
theorem Quoting.Lists.unnamed (q : Quoting) (text : String) :
  q.Lists [none] text
  := .single (fun _ hn => nomatch hn)

section

variable (d : Dialect) (scope : Option Scope)

mutual

/-- An expression is written as the columns that it stands for. -/
theorem Expr.lists_outputs : ∀ e : Expr,
  d.quoting.Lists e.outputs (Token.written d.quoting (e.tokens d.style scope))
  | .named table name => by
    apply Quoting.Lists.single
    rintro n ⟨⟩
    obtain ⟨before, hbefore⟩ := exists_namedTokens scope table name
    use Token.written d.quoting before
    rw [Expr.tokens, hbefore, Token.written_append]
    simp [Token.written, Token.toText]
  | .distinct [] => .unnamed _ _
  | .distinct (c :: rest) => by
    have hcolumns := Quoting.Lists.separated (List.cons_ne_nil c rest)
      (Column.lists_outputs (c :: rest))
    rw [← Column.tokensEach_eq_map, ← Column.outputsEach_eq_flatMap] at hcolumns
    rw [Expr.tokens, Token.written_cons]
    exact hcolumns.after _
  | .call .. => .unnamed _ _
  | .raw .. => .unnamed _ _
  | .param _ => .unnamed _ _
  | .arithmetic .. => .unnamed _ _
  | .subquery _ => .unnamed _ _

/-- The columns of a list are written so. -/
theorem Column.lists_outputs : ∀ columns : List Column, ∀ c ∈ columns,
  d.quoting.Lists c.expr.outputs (Token.written d.quoting (c.tokens d.style scope))
  | [] => by simp
  | ⟨expr, _⟩ :: rest =>
    List.forall_mem_cons.mpr ⟨Expr.lists_outputs expr, Column.lists_outputs rest⟩

end

/-- An entry of a select list is written as its columns of the result. -/
theorem Column.lists_results (c : Column) :
  d.quoting.Lists c.results
    (Token.written d.quoting (c.itemTokens (c.tokens d.style scope)))
  := by
  obtain ⟨expr, aliasName⟩ := c
  have hexpr := Expr.lists_outputs d scope expr
  cases aliasName with
  | none => simpa [results, itemTokens, aliasTokens, tokens] using hexpr
  | some a =>
    have halias : Token.written d.quoting [.text " AS ", .name a]
        = " AS " ++ d.quoting.wrapName a := rfl
    rw [itemTokens, aliasTokens, Token.written_append, halias, ← String.append_assoc]
    exact hexpr.under a

/-- The select list of a query is written as the columns of its result. -/
theorem Query.lists_results (q : Query) :
  d.quoting.Lists q.results (Token.written d.quoting ((q.parts d.style scope).list none))
  := by
  unfold results
  split
  · next hempty =>
    have hlist : (q.parts d.style scope).list none = [.text "*"] := by
      simp [SelectParts.list, hempty]
    have hstar : d.quoting.wrapName "*" = "*" := by cases d.quoting <;> rfl
    apply Quoting.Lists.single
    rintro n ⟨⟩
    rw [hlist, hstar]
    exact ⟨"", rfl⟩
  · next hcolumns =>
    rw [list_parts d.style scope (by simpa using hcolumns)]
    exact Quoting.Lists.separated (by simpa using hcolumns)
      fun c _ => Column.lists_results d q.scope c

end

/-! ### Names around the rows -/

/-- The names around a select are those of its entries, if all of them have names. -/
theorem outerNames_cases (columns : List Column) :
  outerNames columns = "*"
    ∨ ∃ names, columns.map Column.aliasOrName? = names.map some
      ∧ outerNames columns = Text.joinWith ", " names
  := by
  simp only [outerNames]
  split
  · left; rfl
  · next hnamed =>
    right
    refine ⟨_, ?_, rfl⟩
    rw [List.map_map, List.map_map]
    apply List.map_congr_left
    intro c hc
    have hname : c.aliasOrName?.filter (· ≠ "*") ≠ none := by
      intro hnone
      have hmem : none ∈ columns.map fun c => c.aliasOrName?.filter (· ≠ "*") :=
        List.mem_map.mpr ⟨c, hc, hnone⟩
      simp only [Bool.or_eq_true, List.contains_iff_mem, not_or] at hnamed
      exact hnamed.2 hmem
    obtain ⟨n, hn⟩ := Option.ne_none_iff_exists'.mp hname
    rw [Function.comp_apply, Function.comp_apply, hn]
    exact (Option.filter_eq_some_iff.mp hn).1

/-- The name of an entry is that of its last column. -/
theorem Column.exists_results {c : Column} {n : String} (h : c.aliasOrName? = some n) :
  ∃ others, c.results = others ++ [some n]
  := by
  obtain ⟨expr, aliasName⟩ := c
  cases aliasName with
  | some a =>
    obtain rfl : a = n := by simpa [aliasOrName?] using h
    exact ⟨_, rfl⟩
  | none =>
    cases expr with
    | named table name =>
      obtain rfl : name = n := by simpa [aliasOrName?, name?] using h
      exact ⟨[], rfl⟩
    | _ => simp [aliasOrName?, name?] at h

/-- The names of entries are those of some of the columns of the result, in order, and of all of
them exactly if every entry is one column. -/
theorem names_sublist_results {columns : List Column} {names : List String}
    (h : columns.map Column.aliasOrName? = names.map some) :
  (names.map some).Sublist (columns.flatMap Column.results)
    ∧ (names.length = (columns.flatMap Column.results).length
      ↔ ∀ c ∈ columns, c.results.length = 1)
  := by
  induction columns generalizing names with
  | nil =>
    obtain rfl : names = [] := by simpa using h.symm
    simp
  | cons c columns ih =>
    obtain ⟨n, names, rfl⟩ : ∃ n rest, names = n :: rest := by
      cases names with
      | nil => simp at h
      | cons n rest => exact ⟨n, rest, rfl⟩
    obtain ⟨hn, hnames⟩ := List.cons.inj h
    -- the other columns of the first entry are those that its name leaves out
    obtain ⟨others, hothers⟩ := Column.exists_results hn
    obtain ⟨hsublist, hlength⟩ := ih hnames
    rw [List.flatMap_cons, hothers]
    constructor
    · exact (List.sublist_append_right others [some n]).append hsublist
    · have hle := hsublist.length_le
      rw [List.length_map] at hle
      rw [List.forall_mem_cons, ← hlength, hothers]
      simp only [List.length_cons, List.length_append, List.length_nil]
      omega

/-- What the names around a query are among the columns of its result. -/
theorem Query.outerNames_results (q : Query) :
  outerNames q.columns = "*"
    ∨ ∃ names, outerNames q.columns = Text.joinWith ", " names
      ∧ (names.map some).Sublist q.results
      ∧ (names.map some = q.results ↔ ∀ c ∈ q.columns, c.results.length = 1)
      ∧ (names.length < q.results.length ↔ ∃ c ∈ q.columns, c.results.length ≠ 1)
  := by
  by_cases hempty : q.columns = []
  · left
    rw [hempty]
    rfl
  · have hresults : q.results = q.columns.flatMap Column.results := by simp [results, hempty]
    obtain hstar | ⟨names, hnames, hjoined⟩ := outerNames_cases q.columns
    · left
      exact hstar
    · right
      obtain ⟨hsublist, hlength⟩ := names_sublist_results hnames
      rw [← hresults] at hsublist hlength
      have hle := hsublist.length_le
      rw [List.length_map] at hle
      refine ⟨names, hjoined, hsublist, ?_, ?_⟩
      · rw [← hlength]
        constructor
        · intro heq
          rw [← heq, List.length_map]
        · intro heq
          apply hsublist.eq_of_length
          rw [List.length_map, heq]
      · have hlt : names.length < q.results.length ↔ ¬ names.length = q.results.length := by omega
        rw [hlt, hlength]
        simp

/-! ### The names and the select list -/

/-- The select list stands among the numbered rows. -/
theorem SelectParts.exists_numberedCore (p : SelectParts) (aliasSeparator : String) :
  ∃ before behind, p.numberedCore aliasSeparator none = before ++ p.list none ++ behind
  := by
  unfold numberedCore
  split
  · use p.clash ++ .text "SELECT " :: p.rowNumber true ++ [.text ", * FROM (", .text "SELECT "]
      ++ p.hint,
      p.clauses ++ [.text ")", .text aliasSeparator, .text "temp_distinct"]
    simp [body]
  · use p.clash ++ .text "SELECT " :: p.hint ++ p.rowNumber false ++ [.text ", "], p.clauses
    simp [body]

/-- The text of the select list of a query without its window. -/
def Query.selectList (d : Dialect) (scope : Option Scope) (q : Query) : String :=
  Token.written d.quoting ((q.unlimited.parts d.style scope).list none)

/-- A window does not change the select list of a query. -/
theorem Query.written_list (d : Dialect) (scope : Option Scope) (q : Query) :
  Token.written d.quoting ((q.parts d.style scope).list none) = q.selectList d scope
  := by
  rw [selectList, parts_unlimited]
  rfl

/-- The select list among the numbered rows, and the names around them. -/
theorem Query.exists_written_numbered {d : Dialect} (hpaging : d.paging = .rowNumber)
    (scope : Option Scope) {q : Query} {rows : UInt64} (hrows : q.rows = some rows) :
  ∃ before between behind, Token.written d.quoting (q.tokens d.style scope)
    = before ++ q.selectList d scope ++ between ++ ") SELECT " ++ outerNames q.columns
      ++ " FROM temp_datas WHERE __rn BETWEEN " ++ behind
  := by
  have htokens := SelectParts.tokens_numbered (layout_numbered d.style hpaging scope hrows)
    d.style.aliasSeparator
  obtain ⟨before, between, hcore⟩ :=
    (q.parts d.style scope).exists_numberedCore d.style.aliasSeparator
  rw [tokens, htokens, hcore, columns_parts, ← written_list]
  use Token.written d.quoting ((if (q.parts d.style scope).ctes.isEmpty then [.text "WITH "]
    else (q.parts d.style scope).preamble ", ") ++ .text "temp_datas AS (" :: before),
    Token.written d.quoting between
  simp only [Token.written_append, Token.written_cons, Token.toText, String.append_assoc]
  exact ⟨_, rfl⟩

/-- The select list of a query stands among the numbered rows as it does without the window.
What is selected around the rows is a star or the names of columns of this list, in the same
order.  A name is missing exactly if an entry of the list is several columns: if distinct columns
have an alias, then all but the last of them are missing. -/
theorem Dialect.outerNames_of_statement {d : Dialect} (hpaging : d.paging = .rowNumber)
    {q : Query} {rows : UInt64} (hrows : q.rows = some rows) (scope : Option Scope) :
  (∀ s, d.statement (q.tokens d.style scope) = .ok s →
    ∃ before between behind, s.sql = before ++ q.selectList d scope ++ between ++ ") SELECT "
      ++ outerNames q.columns ++ " FROM temp_datas WHERE __rn BETWEEN " ++ behind)
    ∧ d.quoting.Lists q.results (q.selectList d scope)
    ∧ (outerNames q.columns = "*"
      ∨ ∃ names, outerNames q.columns = Text.joinWith ", " names
        ∧ (names.map some).Sublist q.results
        ∧ (names.map some = q.results ↔ ∀ c ∈ q.columns, c.results.length = 1)
        ∧ (names.length < q.results.length ↔ ∃ c ∈ q.columns, c.results.length ≠ 1))
  := by
  constructor
  · intro s hs
    obtain ⟨-, rfl⟩ := Statement.ofTokens_eq_ok_iff.mp hs
    exact Query.exists_written_numbered hpaging scope hrows
  · constructor
    · rw [← Query.written_list]
      exact Query.lists_results d scope q
    · exact Query.outerNames_results q

/-- The first ten of the ages and sexes of accounts, under one alias. -/
def aliasedAges : Query :=
  { Query.empty with
    columns := [⟨.distinct [⟨.named none "age", none⟩, ⟨.named none "sex", none⟩], some "x"⟩]
    sources := [⟨.named none "tb_account", none⟩]
    rows := some 10 }

/-- The alias is the one of the sexes, and the ages are lost. -/
theorem Dialect.outerNames_of_statement_aliasedAges :
  (builtIn .sqlServer2005).paging = .rowNumber
    ∧ aliasedAges.rows = some 10
    ∧ (∃ s, (builtIn .sqlServer2005).select aliasedAges = .ok s
      ∧ s.sql = "WITH temp_datas AS (SELECT ROW_NUMBER() OVER (ORDER BY CURRENT_TIMESTAMP) "
        ++ "AS __rn, * FROM (SELECT DISTINCT [age], [sex] AS [x] FROM [tb_account]) "
        ++ "AS temp_distinct) "
        ++ "SELECT x FROM temp_datas WHERE __rn BETWEEN 1 AND 10 ORDER BY __rn")
    ∧ aliasedAges.results = [some "age", some "x"]
    ∧ Quoting.squareBrackets.Lists aliasedAges.results
      (aliasedAges.selectList (builtIn .sqlServer2005) none)
    ∧ outerNames aliasedAges.columns = "x"
  := by
  obtain ⟨s, hs⟩ : ∃ s, (builtIn .sqlServer2005).select aliasedAges = .ok s := ⟨_, rfl⟩
  obtain ⟨-, hlists, -⟩ :=
    outerNames_of_statement (d := builtIn .sqlServer2005) (q := aliasedAges) rfl rfl none
  refine ⟨rfl, rfl, ⟨s, hs, ?_⟩, rfl, hlists, rfl⟩
  obtain rfl := Except.ok.inj hs
  decide +kernel

end SqlRender
