import SqlRender.Dialect
import SqlRender.Proofs.BoundValues

/-!
# Queries without a limit

Strategies of paging differ in how they ask for a window.  A query of which no part has a
limit asks for none: its parts are the same under any two strategies, so that the selects
are the same as well, and the values keep the order of the clauses.  An offset without a
limit makes no difference.
-/

namespace SqlRender

/-- No query that is written with the query has a limit.  Each of them may have an offset. -/
def Query.Unlimited (q : Query) : Prop :=
  ∀ p ∈ q.written, p.rows = none

/-- A query without a limit has no window, whatever its offset. -/
theorem PagingStrategy.layoutOf_none (s : PagingStrategy) (offset : Option UInt64) :
  s.layoutOf none offset = .inline none none
  := rfl

/-- No strategy writes the ordering of a query without a limit first. -/
theorem PagingStrategy.ordersFirst_none (s : PagingStrategy) :
  s.ordersFirst none = false
  := by simp [ordersFirst]

/-! ### The parts under two strategies -/

section

variable (s s' : PagingStrategy) (separator : String)

mutual

/-- The parts of a query without limits are the same under two strategies. -/
theorem Query.parts_of_unlimited (scope : Option Scope) :
    ∀ q : Query, (∀ p ∈ q.written, p.rows = none) →
  Query.parts ⟨s, separator⟩ scope q = Query.parts ⟨s', separator⟩ scope q
  | ⟨_, ctes, _, columns, sources, joins, filter, groups, having, order, rows, _, partners, _⟩,
      h => by
    simp only [Query.written, List.forall_mem_cons, List.forall_mem_append] at h
    obtain ⟨hrows, ⟨⟨⟨⟨⟨⟨⟨hctes, hcolumns⟩, hsources⟩, hjoins⟩, hfilter⟩, hgroups⟩, hhaving⟩,
      horder⟩, hpartners⟩ := h
    subst hrows
    simp only [Query.parts, PagingStrategy.layoutOf_none,
      Cte.tokensEach_of_unlimited scope ctes hctes,
      Column.tokensEach_of_unlimited _ columns hcolumns,
      Table.tokensEach_of_unlimited _ sources hsources,
      Join.includedTokens_of_unlimited _ joins hjoins,
      Condition.tokens_of_unlimited _ filter hfilter,
      Column.tokensEach_of_unlimited _ groups hgroups,
      Condition.tokens_of_unlimited _ having hhaving,
      OrderItem.tokensEach_of_unlimited _ _ order horder,
      Partner.tokensEach_of_unlimited scope partners hpartners]

theorem Cte.tokensEach_of_unlimited (scope : Option Scope) :
    ∀ ctes : List Cte, (∀ p ∈ Cte.writtenEach ctes, p.rows = none) →
  Cte.tokensEach ⟨s, separator⟩ scope ctes = Cte.tokensEach ⟨s', separator⟩ scope ctes
  | [], _ => rfl
  | ⟨_, _, q⟩ :: rest, h => by
    obtain ⟨hq, hrest⟩ := List.forall_mem_append.mp h
    rw [Cte.tokensEach, Cte.tokensEach, Query.parts_of_unlimited scope q hq,
      Cte.tokensEach_of_unlimited scope rest hrest]

theorem Partner.tokensEach_of_unlimited (scope : Option Scope) :
    ∀ partners : List Partner, (∀ p ∈ Partner.writtenEach partners, p.rows = none) →
  Partner.tokensEach ⟨s, separator⟩ scope partners
    = Partner.tokensEach ⟨s', separator⟩ scope partners
  | [], _ => rfl
  | ⟨_, q⟩ :: rest, h => by
    obtain ⟨hq, hrest⟩ := List.forall_mem_append.mp h
    rw [Partner.tokensEach, Partner.tokensEach, Query.parts_of_unlimited scope q hq,
      Partner.tokensEach_of_unlimited scope rest hrest]

theorem Column.tokens_of_unlimited (scope : Option Scope) :
    ∀ c : Column, (∀ p ∈ c.written, p.rows = none) →
  Column.tokens ⟨s, separator⟩ scope c = Column.tokens ⟨s', separator⟩ scope c
  | ⟨expr, _⟩, h => Expr.tokens_of_unlimited scope expr h

theorem Column.tokensEach_of_unlimited (scope : Option Scope) :
    ∀ columns : List Column, (∀ p ∈ Column.writtenEach columns, p.rows = none) →
  Column.tokensEach ⟨s, separator⟩ scope columns = Column.tokensEach ⟨s', separator⟩ scope columns
  | [], _ => rfl
  | c :: rest, h => by
    obtain ⟨hc, hrest⟩ := List.forall_mem_append.mp h
    rw [Column.tokensEach, Column.tokensEach, Column.tokens_of_unlimited scope c hc,
      Column.tokensEach_of_unlimited scope rest hrest]

theorem Expr.tokens_of_unlimited (scope : Option Scope) :
    ∀ e : Expr, (∀ p ∈ e.written, p.rows = none) →
  Expr.tokens ⟨s, separator⟩ scope e = Expr.tokens ⟨s', separator⟩ scope e
  | .named .., _ | .raw .., _ | .param _, _ => rfl
  | .call _ args, h => by
    rw [Expr.tokens, Expr.tokens, Column.tokensEach_of_unlimited scope args h]
  | .distinct columns, h => by
    rw [Expr.tokens, Expr.tokens, Column.tokensEach_of_unlimited scope columns h]
  | .arithmetic left _ right, h => by
    obtain ⟨hleft, hright⟩ := List.forall_mem_append.mp h
    rw [Expr.tokens, Expr.tokens, Column.tokens_of_unlimited scope left hleft,
      Column.tokens_of_unlimited scope right hright]
  | .subquery q, h => by
    rw [Expr.tokens, Expr.tokens, Query.parts_of_unlimited scope q h]

theorem Table.tokens_of_unlimited (scope : Option Scope) :
    ∀ t : Table, (∀ p ∈ t.written, p.rows = none) →
  Table.tokens ⟨s, separator⟩ scope t = Table.tokens ⟨s', separator⟩ scope t
  | ⟨source, _⟩, h => by
    rw [Table.tokens, Table.tokens, Source.tokens_of_unlimited scope source h]
    rfl

theorem Table.tokensEach_of_unlimited (scope : Option Scope) :
    ∀ tables : List Table, (∀ p ∈ Table.writtenEach tables, p.rows = none) →
  Table.tokensEach ⟨s, separator⟩ scope tables = Table.tokensEach ⟨s', separator⟩ scope tables
  | [], _ => rfl
  | t :: rest, h => by
    obtain ⟨ht, hrest⟩ := List.forall_mem_append.mp h
    rw [Table.tokensEach, Table.tokensEach, Table.tokens_of_unlimited scope t ht,
      Table.tokensEach_of_unlimited scope rest hrest]

theorem Source.tokens_of_unlimited (scope : Option Scope) :
    ∀ source : Source, (∀ p ∈ source.written, p.rows = none) →
  Source.tokens ⟨s, separator⟩ scope source = Source.tokens ⟨s', separator⟩ scope source
  | .named .., _ => rfl
  | .derived q, h => by
    rw [Source.tokens, Source.tokens, Query.parts_of_unlimited scope q h]

theorem Join.includedTokens_of_unlimited (scope : Option Scope) :
    ∀ joins : List Join, (∀ p ∈ Join.writtenEach joins, p.rows = none) →
  Join.includedTokens ⟨s, separator⟩ scope joins = Join.includedTokens ⟨s', separator⟩ scope joins
  | [], _ => rfl
  | ⟨_, _, _, false⟩ :: rest, h => by
    obtain ⟨-, hrest⟩ := List.forall_mem_append.mp h
    apply Join.includedTokens_of_unlimited scope rest hrest
  | ⟨_, table, none, true⟩ :: rest, h => by
    obtain ⟨hjoin, hrest⟩ := List.forall_mem_append.mp h
    obtain ⟨htable, -⟩ := List.forall_mem_append.mp hjoin
    simp only [Join.includedTokens, Join.tokens, Table.tokens_of_unlimited scope table htable,
      Join.includedTokens_of_unlimited scope rest hrest]
  | ⟨_, table, some c, true⟩ :: rest, h => by
    obtain ⟨hjoin, hrest⟩ := List.forall_mem_append.mp h
    obtain ⟨htable, hc⟩ := List.forall_mem_append.mp hjoin
    simp only [Join.includedTokens, Join.tokens, Table.tokens_of_unlimited scope table htable,
      Condition.tokens_of_unlimited scope c hc, Join.includedTokens_of_unlimited scope rest hrest]

theorem Condition.tokens_of_unlimited (scope : Option Scope) :
    ∀ c : Condition, (∀ p ∈ c.written, p.rows = none) →
  Condition.tokens ⟨s, separator⟩ scope c = Condition.tokens ⟨s', separator⟩ scope c
  | .empty, _ | .raw .., _ => rfl
  | .predicate column _ operand, h => by
    obtain ⟨hcolumn, hoperand⟩ := List.forall_mem_append.mp h
    rw [Condition.tokens, Condition.tokens, Column.tokens_of_unlimited scope column hcolumn,
      Operand.tokens_of_unlimited scope operand hoperand]
  | .existence _ q, h => by
    rw [Condition.tokens, Condition.tokens, Query.parts_of_unlimited scope q h]
  | .not c, h | .group c, h => by
    rw [Condition.tokens, Condition.tokens, Condition.tokens_of_unlimited scope c h]
  | .connect left _ right, h => by
    obtain ⟨hleft, hright⟩ := List.forall_mem_append.mp h
    rw [Condition.tokens, Condition.tokens, Condition.tokens_of_unlimited scope left hleft,
      Condition.tokens_of_unlimited scope right hright]

theorem Operand.tokens_of_unlimited (scope : Option Scope) :
    ∀ operand : Operand, (∀ p ∈ operand.written, p.rows = none) →
  Operand.tokens ⟨s, separator⟩ scope operand = Operand.tokens ⟨s', separator⟩ scope operand
  | .absent, _ | .value _, _ | .list _, _ | .range .., _ => rfl
  | .column c, h => by
    rw [Operand.tokens, Operand.tokens, Column.tokens_of_unlimited scope c h]
  | .query q, h => by
    rw [Operand.tokens, Operand.tokens, Query.parts_of_unlimited scope q h]

theorem OrderItem.tokensEach_of_unlimited (scope : Option Scope) (around : Bool) :
    ∀ order : List OrderItem, (∀ p ∈ OrderItem.writtenEach order, p.rows = none) →
  OrderItem.tokensEach ⟨s, separator⟩ scope around order
    = OrderItem.tokensEach ⟨s', separator⟩ scope around order
  | [], _ => rfl
  | .column c _ _ :: rest, h => by
    obtain ⟨hc, hrest⟩ := List.forall_mem_append.mp h
    simp only [OrderItem.tokensEach, OrderItem.tokens, Column.tokens_of_unlimited scope c hc,
      OrderItem.tokensEach_of_unlimited scope around rest hrest]
  | .raw _ :: rest, h => by
    rw [OrderItem.tokensEach, OrderItem.tokensEach,
      OrderItem.tokensEach_of_unlimited scope around rest h]
    rfl

end

end

/-! ### Selects and values -/

namespace Query

/-- A query without limits has the same tokens under two strategies. -/
theorem tokens_of_unlimited (s s' : PagingStrategy) (separator : String) (scope : Option Scope)
    {q : Query} (h : q.Unlimited) :
  q.tokens ⟨s, separator⟩ scope = q.tokens ⟨s', separator⟩ scope
  := by rw [tokens, tokens, parts_of_unlimited s s' separator scope q h]

/-- The values of a query without limits have the order of the clauses. -/
theorem values_of_unlimited (s : PagingStrategy) {q : Query} (h : q.Unlimited) :
  q.values (some s) = q.values none
  := by
  apply Query.values_related .eq
  intro p hp hfirst
  rw [h p hp, ordersFirst, Option.any_some, s.ordersFirst_none] at hfirst
  cases hfirst

/-- Two strategies of paging coincide on a query of which no part has a limit: under one
quoting and one separator the selects are equal, or they fail with one error, and no query
that is written has its ordering first, so that the values are those in the order of the
clauses. -/
theorem pagings_coincide_of_unlimited (d : Dialect) (s s' : PagingStrategy) {q : Query}
    (h : q.Unlimited) :
  Dialect.select { d with paging := s } q = Dialect.select { d with paging := s' } q
    ∧ (∀ p ∈ q.written, s.ordersFirst p.rows = false)
    ∧ q.values (some s) = q.values none
  := by
  refine ⟨?_, ?_, values_of_unlimited s h⟩
  · apply congrArg (Statement.ofTokens d.quoting)
    apply tokens_of_unlimited s s' d.aliasSeparator none h
  · intro p hp
    rw [h p hp, s.ordersFirst_none]

/-- Grown accounts without the first ones, if others of age seven are left behind the first
twenty in an ordering of the caller. -/
def skippedAccounts : Query :=
  { empty with
    ctes := [⟨"grown", [], { empty with
      sources := [⟨.named none "tb_account", none⟩]
      offset := some 3 }⟩]
    sources := [⟨.named none "grown", none⟩]
    filter := .existence false { empty with
      sources := [⟨.named none "tb_account", none⟩]
      filter := .predicate ⟨.named none "age", none⟩ .eq (.value (.int 7))
      order := [.column ⟨.raw "ABS(id - ?)" [.int 99], none⟩ none none]
      offset := some 20 }
    offset := some 10 }

/-- The accounts are skipped in no dialect, and the number of the ordering is bound behind the
age also where limited queries are numbered. -/
theorem pagings_coincide_skippedAccounts :
  skippedAccounts.Unlimited
    ∧ Dialect.select { Dialect.builtIn .sqlServer2005 with paging := .rowNumber } skippedAccounts
      = Dialect.select { Dialect.builtIn .sqlServer2005 with paging := .topOrFetch } skippedAccounts
    ∧ (∀ p ∈ skippedAccounts.written, PagingStrategy.rowNumber.ordersFirst p.rows = false)
    ∧ skippedAccounts.values (some .rowNumber) = skippedAccounts.values none
    ∧ skippedAccounts.values none = [.int 7, .int 99]
  := by
  have h : skippedAccounts.Unlimited := by
    unfold Unlimited
    decide
  obtain ⟨hselect, horder, hvalues⟩ :=
    pagings_coincide_of_unlimited (.builtIn .sqlServer2005) .rowNumber .topOrFetch h
  exact ⟨h, hselect, horder, hvalues, rfl⟩

end Query

end SqlRender
