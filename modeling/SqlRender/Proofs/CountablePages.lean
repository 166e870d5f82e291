import SqlRender.Paginator
import SqlRender.Proofs.References
import SqlRender.Proofs.Rescoping

/-!
# Pages whose rows can be counted

The count of a query is written from another tree than its pages: without the ordering, without
joins that do not matter, or around the query as a derived table, so that some of its tokens
stand in another scope.  No error comes in that way: every token of the count passes its guards
if those of a page do.  The one exception is an alias that no page writes.  A head behind a
leading DISTINCT stands in place of the alias of the distinct columns, so this alias is not
examined in a page, and the derived table of the count has it:
`Paginator.exists_countStatement_iff`.
-/

namespace SqlRender

open Token (AllPass)

/-! ### The select list -/

/-- An alias passes if it is a name. -/
theorem Column.allPass_itemTokens_iff {c : Column} {expr : List Token} :
  AllPass (c.itemTokens expr)
    ↔ AllPass expr ∧ ∀ a ∈ c.aliasName, (Guard.identifier a).verify = .ok ()
  := by
  unfold itemTokens aliasTokens
  cases c.aliasName with
  | none => simp
  | some a => simp [Token.passes_name]

/-- The alias that is left out behind a head: the one of leading distinct columns. -/
def SelectHead.unwrittenAlias? (h : SelectHead) (columns : List Column) : Option String :=
  if h.afterDistinct then (columns.head?.filter Column.isDistinct).bind Column.aliasName else none

/-- A head changes the select list by the alias that it leaves out. -/
theorem SelectParts.allPass_list_none_iff {p : SelectParts}
    (hlength : p.exprs.length = p.columns.length) (head : Option SelectHead) :
  AllPass (p.list none)
    ↔ AllPass (p.list head)
      ∧ ∀ a ∈ head.bind (SelectHead.unwrittenAlias? · p.columns),
        (Guard.identifier a).verify = .ok ()
  := by
  cases head with
  | none => simp
  | some h =>
    cases hcolumns : p.columns with
    | nil => simp [list, hcolumns, SelectHead.unwrittenAlias?]
    | cons c columns =>
      obtain ⟨expr, exprs, hexprs⟩ : ∃ expr exprs, p.exprs = expr :: exprs := by
        apply List.exists_cons_of_length_eq_add_one (n := columns.length)
        rw [hlength, hcolumns, List.length_cons]
      by_cases hd : h.afterDistinct ∧ c.isDistinct = true
      · obtain ⟨hafter, hdistinct⟩ := hd
        -- the head stands inside of the first expression
        have hexpr : AllPass (expr.take 1) ∧ AllPass (expr.drop 1) ↔ AllPass expr := by
          rw [← Token.allPass_append, List.take_append_drop]
        simp [list, hcolumns, hexprs, hafter, hdistinct, SelectHead.unwrittenAlias?,
          Column.allPass_itemTokens_iff, ← hexpr, Option.filter_some, and_assoc,
          and_comm, and_left_comm]
      · have hnone : h.unwrittenAlias? (c :: columns) = none := by
          unfold SelectHead.unwrittenAlias?
          split
          · next hafter =>
            have hplain : c.isDistinct = false := by simpa [hafter] using hd
            simp [hplain]
          · rfl
        simp [list, hcolumns, hexprs, hd, hnone]

/-- Every column of a query has an expression. -/
theorem Query.length_exprs_parts (style : SelectStyle) (scope : Option Scope) (q : Query) :
  (q.parts style scope).exprs.length = (q.parts style scope).columns.length
  := by
  obtain ⟨recursive, ctes, hint, columns⟩ := q
  simp [parts, Column.tokensEach_eq_map]

/-! ### The clauses of a query -/

section

variable (style : SelectStyle)

/-- The tokens of the clauses from FROM to HAVING pass. -/
structure Query.ClausesPass (scope : Option Scope) (q : Query) : Prop where
  sources : ∀ part ∈ Table.tokensEach style scope q.sources, AllPass part
  joins : AllPass (Join.includedTokens style scope q.joins)
  filter : q.filter.isEmpty = false → AllPass (q.filter.tokens style scope)
  groups : ∀ part ∈ Column.tokensEach style scope q.groups, AllPass part
  having : q.having.isEmpty = false → AllPass (q.having.tokens style scope)

/-- A list clause that is left out when it is empty passes if its parts do. -/
theorem Token.allPass_listClause {α : Type} {items : List α} {word : String}
    {parts : List (List Token)} (hparts : items = [] → parts = []) :
  AllPass (if items.isEmpty then [] else .text word :: separated ", " parts)
    ↔ ∀ part ∈ parts, AllPass part
  := by
  cases items with
  | nil => simp [hparts]
  | cons x items => simp

theorem Query.allPass_clauses_iff {scope : Option Scope} {q : Query} :
  AllPass (q.parts style scope).clauses ↔ q.ClausesPass style q.scope
  := by
  obtain ⟨recursive, ctes, hint, columns, sources, joins, filter, groups, having, order⟩ := q
  have hsources : ∀ own, sources = [] → Table.tokensEach style own sources = [] := by
    rintro own rfl
    rfl
  have hgroups : ∀ own, groups = [] → Column.tokensEach style own groups = [] := by
    rintro own rfl
    rfl
  simp only [parts, Token.allPass_append, Token.allPass_listClause (hsources _),
    Token.allPass_listClause (hgroups _), Token.allPass_clause]
  constructor
  · rintro ⟨⟨⟨⟨hsources, hjoins⟩, hfilter⟩, hgroups⟩, hhaving⟩
    exact ⟨hsources, hjoins, hfilter, hgroups, hhaving⟩
  · rintro ⟨hsources, hjoins, hfilter, hgroups, hhaving⟩
    exact ⟨⟨⟨⟨hsources, hjoins⟩, hfilter⟩, hgroups⟩, hhaving⟩

/-- Tables that can be told apart still can if the joins are left out. -/
theorem allPass_clashTokens_nil {sources : List Table} {joins : List Join}
    (h : AllPass (clashTokens sources joins)) :
  AllPass (clashTokens sources [])
  := by
  have hnone : ∀ joins, AllPass (clashTokens sources joins)
      ↔ Table.firstClash? (sources ++ (joins.filter Join.included).map Join.table) = none := by
    intro joins
    unfold clashTokens
    cases Table.firstClash? (sources ++ (joins.filter Join.included).map Join.table) with
    | none => simp
    | some t => simp [Token.Passes, Token.guards, Guard.verify]
  rw [hnone, Table.firstClash?_eq_none_iff] at h ⊢
  apply List.Pairwise.sublist _ h
  simp

/-- The clauses of a query pass without the joins if they pass with them. -/
theorem Query.ClausesPass.dropJoins {q : Query} (h : q.ClausesPass style q.scope) :
  { q with joins := [] }.ClausesPass style (some (Scope.of q.sources []))
  := by
  have hown := Scope.namesPass_of style h.sources h.joins
  have hfewer : Scope.NamesPass (some (Scope.of q.sources [])) := by
    apply Scope.namesPass_of style h.sources
    simp [Join.includedTokens]
  constructor
  · exact (Table.allPassEach_congr style hown hfewer q.sources).mp h.sources
  · simp [Join.includedTokens]
  · exact fun hne => (Condition.allPass_congr style hown hfewer q.filter).mp (h.filter hne)
  · exact (Column.allPassEach_congr style hown hfewer q.groups).mp h.groups
  · exact fun hne => (Condition.allPass_congr style hown hfewer q.having).mp (h.having hne)

/-- `COUNT(*)` passes. -/
theorem Query.allPass_list_countAll (scope : Option Scope) {q : Query}
    (h : q.columns = [Column.countAll]) :
  AllPass ((q.parts style scope).list none)
  := by
  have hcount : (Token.function "COUNT").Passes := List.forall_mem_singleton.mpr rfl
  have hstar : (Token.name "*").Passes := Token.passes_name.mpr rfl
  have htokens : ∀ own, Column.tokens style own Column.countAll
      = .function "COUNT" :: Token.parenthesized [.name "*"] := fun _ => rfl
  obtain ⟨recursive, ctes, hint, columns, sources, joins⟩ := q
  obtain rfl : columns = [Column.countAll] := h
  simp [SelectParts.list, parts, Column.tokensEach, htokens, Column.allPass_itemTokens_iff,
    hcount, hstar]
  intro a ha
  cases ha

/-- A derived table with the alias of a count passes if its query does. -/
theorem Table.allPass_counted_iff {scope : Option Scope} {inner : Query} :
  (∀ part ∈ Table.tokensEach style scope [(Table.derived inner).named "t"], AllPass part)
    ↔ AllPass ((inner.parts style scope).tokens style.aliasSeparator)
  := by
  have hname : (Token.name "t").Passes := Token.passes_name.mpr rfl
  simp [Table.tokensEach, Table.tokens, Table.named, Table.derived, Source.tokens,
    tableAliasTokens, hname]

/-! ### A page and its count -/

/-- The query for a window of the rows. -/
def Query.window (q : Query) (rows offset : UInt64) : Query :=
  (q.skip (some offset)).limit (some rows)

/-- The alias that a page of a query leaves out: the one of leading distinct columns, if the
head of the page stands behind the word DISTINCT. -/
def Query.unwrittenAlias? (s : PagingStrategy) (q : Query) : Option String :=
  if s = .topStartAt then (q.columns.head?.filter Column.isDistinct).bind Column.aliasName else none

theorem Query.bind_head?_window (rows offset : UInt64) (q : Query) :
  ((q.window rows offset).parts style none).head?.bind (SelectHead.unwrittenAlias? · q.columns)
    = q.unwrittenAlias? style.paging
  := by
  obtain ⟨paging, aliasSeparator⟩ := style
  obtain ⟨recursive, ctes, hint, columns, sources, joins, filter, groups, having, order⟩ := q
  cases paging <;> rfl

variable {style} {q : Query} {rows offset : UInt64}
  (hpage : ((q.window rows offset).parts style none).Passes)

include hpage

/-- The columns of a query pass with their aliases if a page passes and the alias that the page
leaves out is a name. -/
theorem Query.allPass_columns_iff :
  AllPass ((q.unordered.parts style none).list none)
    ↔ ∀ a ∈ q.unwrittenAlias? style.paging, (Guard.identifier a).verify = .ok ()
  := by
  have hsame : (q.unordered.parts style none).list none
      = ((q.window rows offset).parts style none).list none := by
    obtain ⟨recursive, ctes, hint, columns, sources, joins, filter, groups, having, order⟩ := q
    rfl
  have hcolumns : ((q.window rows offset).parts style none).columns = q.columns := by
    obtain ⟨recursive, ctes, hint, columns, sources, joins, filter, groups, having, order⟩ := q
    rfl
  have hhead := q.bind_head?_window style rows offset
  have hlength := (q.window rows offset).length_exprs_parts style none
  rw [hsame, SelectParts.allPass_list_none_iff hlength
    ((q.window rows offset).parts style none).head?, hcolumns, hhead]
  exact and_iff_right hpage.list

/-- The count by the columns of the query itself. -/
theorem Query.passes_unordered_iff :
  (q.unordered.parts style none).Passes
    ↔ ∀ a ∈ q.unwrittenAlias? style.paging, (Guard.identifier a).verify = .ok ()
  := by
  rw [← Query.allPass_columns_iff hpage]
  obtain ⟨hctes, hclash, hhint, -, hclauses, -, hafter⟩ := hpage
  constructor
  · intro h
    exact h.list
  · intro hlist
    obtain ⟨recursive, ctes, hint, columns, sources, joins, filter, groups, having, order⟩ := q
    exact ⟨hctes, hclash, hhint, hlist, hclauses, (absurd · Bool.false_ne_true), hafter⟩

/-- The count by a derived table. -/
theorem Query.passes_countDerived_iff :
  (q.unordered.countDerived.parts style none).Passes
    ↔ ∀ a ∈ q.unwrittenAlias? style.paging, (Guard.identifier a).verify = .ok ()
  := by
  have hnone : Scope.NamesPass none := by simp [Scope.NamesPass, Scope.names]
  have haround : Scope.NamesPass (some [⟨none, some "t"⟩]) := by
    simp [Scope.NamesPass, Scope.names, Visible.names]
    rfl
  rw [← Query.allPass_columns_iff hpage]
  obtain ⟨hctes, hclash, hhint, -, hclauses, -, hafter⟩ := hpage
  obtain ⟨recursive, ctes, hint, columns, sources, joins, filter, groups, having, order, _, _,
    partners, endings⟩ := q
  have hpartners := (Token.allPass_append.mp hafter).2
  -- the query of the derived table stands in the scope of this table alone
  have hinner := Query.allPass_congr style hnone haround
    ⟨false, [], hint, columns, sources, joins, filter, groups, having, [], none, none, partners, []⟩
  rw [SelectParts.allPass_tokens_iff] at hinner
  constructor
  · intro h
    have htable := ((Query.allPass_clauses_iff style).mp h.clauses).sources
    exact (hinner.mpr ((Table.allPass_counted_iff style).mp htable)).list
  · intro hlist
    have htable := (Table.allPass_counted_iff style).mpr
      (hinner.mp ⟨Token.allPass_nil, hclash, hhint, hlist, hclauses,
        (absurd · Bool.false_ne_true), hpartners⟩)
    constructor
    · exact hctes
    · exact Token.allPass_nil
    · exact Token.allPass_nil
    · exact Query.allPass_list_countAll style none rfl
    · apply (Query.allPass_clauses_iff style).mpr
      constructor
      · exact htable
      · exact Token.allPass_nil
      · exact (absurd ·.symm Bool.false_ne_true)
      · exact List.forall_mem_nil _
      · exact (absurd ·.symm Bool.false_ne_true)
    · exact (absurd · Bool.false_ne_true)
    · exact Token.allPass_nil

/-- The count in place of the columns, with the joins or without. -/
theorem Query.passes_countAll {joins : List Join} (hjoins : joins = q.joins ∨ joins = []) :
  ({ q.unordered with columns := [Column.countAll], endings := [], joins }.parts style none).Passes
  := by
  obtain ⟨hctes, hclash, hhint, -, hclauses, -, hafter⟩ := hpage
  obtain ⟨recursive, ctes, hint, columns, sources, joins', filter, groups, having, order, _, _,
    partners, endings⟩ := q
  constructor
  · exact hctes
  · obtain rfl | rfl := hjoins
    · exact hclash
    · exact allPass_clashTokens_nil hclash
  · exact hhint
  · exact Query.allPass_list_countAll style none rfl
  · obtain rfl | rfl := hjoins
    · exact hclauses
    · apply (Query.allPass_clauses_iff style).mpr
      have hwhole := (Query.allPass_clauses_iff style).mp hclauses
      obtain ⟨hsources, hnone, hfilter, hgroups, hhaving⟩ := hwhole.dropJoins
      exact ⟨hsources, hnone, hfilter, hgroups, hhaving⟩
  · exact (absurd · Bool.false_ne_true)
  · exact (Token.allPass_append.mp hafter).2

end

theorem Query.unwrittenAlias?_eq_none {q : Query} (h : q.hasDistinct = false)
    (s : PagingStrategy) :
  q.unwrittenAlias? s = none
  := by
  unfold unwrittenAlias? hasDistinct at *
  cases hcolumns : q.columns with
  | nil => simp
  | cons c columns =>
    rw [hcolumns, List.any_cons, Bool.or_eq_false_iff] at h
    simp [h.1, Option.filter_some]

namespace Paginator

/-- If there is a statement for a page of a query, then there is one that counts its rows,
unless the page leaves out the alias of leading distinct columns and this alias is no name. -/
theorem exists_countStatement_iff {p : Paginator} {r : PageRequest} {q : Query}
    {s : Statement} (h : p.pageStatement r q = .ok s) :
  (∃ t, p.countStatement r q = .ok t)
    ↔ ∀ a ∈ q.unwrittenAlias? p.dialect.paging, (Guard.identifier a).verify = .ok ()
  := by
  have hpage := SelectParts.allPass_tokens_iff.mp (Token.exists_ofTokens_iff.mp ⟨s, h⟩)
  rw [countStatement, Dialect.select, Dialect.statement, Token.exists_ofTokens_iff, Query.tokens,
    SelectParts.allPass_tokens_iff]
  by_cases hderived : r.simplifyCount = false ∨ q.needsDerivedCount = true
  · rw [Query.countQuery_eq_countDerived hderived]
    exact Query.passes_countDerived_iff hpage
  · obtain ⟨hsimplify, hderived⟩ : r.simplifyCount = true ∧ q.needsDerivedCount = false := by
      simpa using hderived
    rw [hsimplify]
    cases hcount : q.columns.head?.any (Column.isCallOf "COUNT") with
    | true =>
      rw [Query.countQuery_eq_unordered hderived hcount]
      exact Query.passes_unordered_iff hpage
    | false =>
      have hdistinct : q.hasDistinct = false := by
        rw [Query.needsDerivedCount, Bool.or_eq_false_iff, Bool.or_eq_false_iff] at hderived
        exact hderived.1.1
      rw [Query.countQuery_eq_countAll hderived hcount, Query.unwrittenAlias?_eq_none hdistinct]
      constructor
      · intro _ a ha
        cases ha
      · intro
        apply Query.passes_countAll hpage
        cases q.hasIdleJoins
        · exact .inl rfl
        · exact .inr rfl

/-- The sexes of accounts, under an alias. -/
def sexesAs (aliasName : String) : Query :=
  { Query.empty with
    columns := [⟨.distinct [⟨.named none "sex", none⟩], some aliasName⟩]
    sources := [⟨.named none "tb_account", none⟩] }

/-- A page of the sexes leaves their alias out, so there is one under an alias that is no name;
the sexes can be counted under a name only. -/
theorem exists_countStatement_iff_sexesAs :
  (∃ s, (Paginator.mk (.builtIn .sybase) false).pageStatement (.of 1 10) (sexesAs "a b") = .ok s)
    ∧ (¬ ∃ t, (Paginator.mk (.builtIn .sybase) false).countStatement (.of 1 10) (sexesAs "a b")
      = .ok t)
    ∧ ∃ t, (Paginator.mk (.builtIn .sybase) false).countStatement (.of 1 10) (sexesAs "a") = .ok t
  := by
  have hpage : ∀ aliasName, ∃ s,
      (Paginator.mk (.builtIn .sybase) false).pageStatement (.of 1 10) (sexesAs aliasName)
        = .ok s :=
    fun aliasName => ⟨_, rfl⟩
  obtain ⟨s, hs⟩ := hpage "a b"
  obtain ⟨s', hs'⟩ := hpage "a"
  refine ⟨hpage "a b", ?_, ?_⟩
  · intro hcount
    cases (exists_countStatement_iff hs).mp hcount "a b" rfl
  · apply (exists_countStatement_iff hs').mpr
    rintro a ⟨⟩
    rfl

end Paginator

end SqlRender
