import SqlRender.Proofs.Changes
import SqlRender.Proofs.Rescoping
import SqlRender.Proofs.Validation

/-!
# Tables that are read twice

A select is refused if two of its tables cannot be told apart.  A DELETE or an UPDATE is not:
it is written as soon as each of its tables, joins, assignments and conditions can be written
on its own.
-/

namespace SqlRender

open Token (AllPass)

/-- A select of tables that cannot be told apart is refused. -/
theorem Dialect.select_of_readsTwice (d : Dialect) {q : Query} {schema : Option String}
    {name : String} {aliasName : Option String} (h : q.ReadsTwice schema name aliasName) :
  ∃ e, d.select q = .error e
  := by
  obtain ⟨e, he⟩ := q.clash?_isSome_iff.mpr ⟨schema, name, aliasName, h⟩
  have hwritten : q ∈ q.written := by
    cases q
    apply List.mem_cons_self
  apply Token.exists_error_of_mem_refusals
  apply (q.mem_refusals_parts e d.style none).mpr
  exact Query.mem_clashes.mpr ⟨q, hwritten, he⟩

/-- A table as it is listed in a change; an ALTER TABLE has its name alone. -/
def Table.listedTokens (style : SelectStyle) (scope : Option Scope) (t : Table) :
    MutationLayout → List Token
  | .standard => t.tokens style scope
  | .alterTable => Mutation.tableName t

/-- The pieces of a change: its tables, its joins, its assignments and its condition. -/
def Change.pieces (style : SelectStyle) (scope : Option Scope) (c : Change)
    (layout : MutationLayout) : List (List Token) :=
  c.tables.map (·.listedTokens style scope layout) ++ c.joins.map (Join.tokens style scope)
    ++ c.row.toList.map (Mutation.assignments style scope) ++ [c.filter.tokens style scope]

/-- A change of which all joins are included passes piece by piece. -/
theorem Change.allPass_tokens_iff {c : Change} (hjoins : ∀ j ∈ c.joins, j.included = true)
    (style : SelectStyle) (scope : Option Scope) (layout : MutationLayout) :
  AllPass (c.tokens style scope layout) ↔ ∀ part ∈ c.pieces style scope layout, AllPass part
  := by
  have hincluded : AllPass (Join.includedTokens style scope c.joins)
      ↔ ∀ j ∈ c.joins, AllPass (j.tokens style scope) := by
    rw [Join.allPass_includedTokens_iff]
    exact ⟨fun h j hj => h j hj (hjoins j hj), fun h j hj _ => h j hj⟩
  have htables : (∀ part ∈ Table.tokensEach style scope c.tables, AllPass part)
      ↔ ∀ t ∈ c.tables, AllPass (t.tokens style scope) :=
    Table.allPassEach_iff style c.tables
  simp only [pieces, List.forall_mem_append, List.forall_mem_map, List.forall_mem_singleton]
  cases layout <;> cases hrow : c.row <;>
    simp [tokens, Table.listedTokens, htables, hincluded, hrow, and_assoc]

/-- A change of which some table is read twice is written all the same: there is a statement
if the query has a table and a condition, if an UPDATE sets a column, and if each piece of the
change makes a statement on its own.  A select of these tables is refused. -/
theorem Request.statement_change_of_readsTwice {q : Query} {schema : Option String}
    {name : String} {aliasName : Option String} (h : q.ReadsTwice schema name aliasName)
    (d : Dialect) (row : Option UpdateRow) :
  (∃ e, d.select q = .error e)
    ∧ ((∃ s, (Request.change row q).statement d = .ok s)
      ↔ (q.sources ≠ [] ∧ q.filter.isEmpty = false ∧ ∀ r ∈ row, r.entries ≠ [])
        ∧ ∀ part ∈ (q.listed row d.mutations).pieces d.style (some q.scope) d.mutations,
          ∃ s, d.statement part = .ok s)
  := by
  constructor
  · exact d.select_of_readsTwice h
  · have hpass : AllPass ((q.listed row d.mutations).tokens d.style (some q.scope) d.mutations)
        ↔ ∀ part ∈ (q.listed row d.mutations).pieces d.style (some q.scope) d.mutations,
          ∃ s, d.statement part = .ok s := by
      rw [Change.allPass_tokens_iff fun j => Query.included_of_mem_listed]
      simp only [Dialect.statement, Token.exists_ofTokens_iff]
    rw [← hpass, ← Request.exists_tokens_change_iff (d := d)]
    constructor
    · rintro ⟨s, hs⟩
      obtain ⟨ts, hts, hs⟩ := Request.exists_tokens hs
      constructor
      · exact ⟨ts, hts⟩
      · rw [← Request.tokens_change_listed hts]
        exact Token.exists_ofTokens_iff.mp ⟨s, hs⟩
    · rintro ⟨⟨ts, hts⟩, hall⟩
      rw [← Request.tokens_change_listed hts] at hall
      rw [Request.statement_eq, hts]
      exact Token.exists_ofTokens_iff.mpr hall

/-- Accounts with the accounts of their parents under the same name. -/
def doubledAccounts : Query :=
  { Query.empty with
    sources := [⟨.named none "tb_account", none⟩]
    joins := [⟨.left, ⟨.named none "tb_account", none⟩,
      some (.predicate ⟨.named (some "tb_account") "id", none⟩ .eq
        (.column ⟨.named (some "tb_account") "parent_id", none⟩)), true⟩]
    filter := .predicate ⟨.named none "id", none⟩ .isNotNull .absent }

/-- The accounts cannot be selected, and they are deleted, each piece being in order. -/
theorem Request.statement_change_doubledAccounts :
  doubledAccounts.ReadsTwice none "tb_account" none
    ∧ (∃ e, (Dialect.builtIn .mysql).select doubledAccounts = .error e)
    ∧ (Request.change none doubledAccounts).statement (Dialect.builtIn .mysql)
      = .ok ⟨"DELETE FROM `tb_account` LEFT JOIN `tb_account` ON `tb_account`.`id` "
          ++ "= `tb_account`.`parent_id` WHERE `id` IS NOT NULL", []⟩
    ∧ ∀ part ∈ (doubledAccounts.listed none .standard).pieces (Dialect.builtIn .mysql).style
        (some doubledAccounts.scope) .standard,
      ∃ s, (Dialect.builtIn .mysql).statement part = .ok s
  := by
  have htwice : doubledAccounts.ReadsTwice none "tb_account" none := List.Sublist.refl _
  obtain ⟨hselect, hchange⟩ :=
    Request.statement_change_of_readsTwice htwice (Dialect.builtIn .mysql) none
  exact ⟨htwice, hselect, rfl, (hchange.mp ⟨_, rfl⟩).2⟩

end SqlRender
