import SqlRender.Proofs.Request

/-!
# Changes of the rows of a query

A DELETE or an UPDATE by a query lists tables and joins and has a condition.  A change is written
from the tables and the joins that its layout has room for, and from the condition and the texts
at the end of its query: `Request.tokens_change_listed`.  There is a change as soon as there is a
table, a condition and, for an UPDATE, a column to set: `Request.exists_tokens_change_iff`.
-/

namespace SqlRender

/-- A statement that changes rows, as its text has it. -/
structure Change where
  tables : List Table
  joins : List Join
  /-- The assignments of an UPDATE; a DELETE has none. -/
  row : Option UpdateRow
  filter : Condition
  endings : List String

namespace Change

/-- The tokens of a change. -/
def tokens (style : SelectStyle) (scope : Option Scope) (c : Change) : MutationLayout → List Token
  | .standard =>
    .text (if c.row.isSome then "UPDATE " else "DELETE FROM ")
      :: Token.separated ", " (Table.tokensEach style scope c.tables)
      ++ Join.includedTokens style scope c.joins
      ++ c.row.elim [] (fun row => .text " SET " :: Mutation.assignments style scope row)
      ++ .text " WHERE " :: c.filter.tokens style scope
      ++ c.endings.flatMap fun e => [.text " ", .raw e []]
  | .alterTable =>
    .text "ALTER TABLE " :: Token.separated ", " (c.tables.map Mutation.tableName)
      ++ Join.includedTokens style scope c.joins
      ++ c.row.elim [.text " DELETE"] (fun row =>
        .text " UPDATE " :: Mutation.assignments style scope row)
      ++ .text " WHERE " :: c.filter.tokens style scope

end Change

/-- The change that a query asks for: an UPDATE by a row, or a DELETE. -/
def Query.change (row : Option UpdateRow) (q : Query) : Change :=
  { tables := q.sources, joins := q.includedJoins, row, filter := q.filter, endings := q.endings }

/-- The request for the change that a query asks for. -/
def Request.change (row : Option UpdateRow) (q : Query) : Request :=
  row.elim (.delete q) (.update · q)

/-- The change that a layout has room for: a DELETE lists all tables and joins of a query, an
UPDATE its first table and all joins, and an ALTER TABLE the first table alone. -/
def Query.listed (row : Option UpdateRow) (q : Query) : MutationLayout → Change
  | .standard => { q.change row with tables := if row.isSome then q.sources.take 1 else q.sources }
  | .alterTable => { q.change row with tables := q.sources.take 1, joins := [] }

/-! ### What is listed -/

/-- Joins that are not included leave no trace. -/
theorem Join.includedTokens_filter (style : SelectStyle) (scope : Option Scope)
    (joins : List Join) :
  Join.includedTokens style scope (joins.filter Join.included)
    = Join.includedTokens style scope joins
  := by
  induction joins with
  | nil => rfl
  | cons j joins ih =>
    rw [List.filter_cons]
    split
    · next h => rw [includedTokens, includedTokens, ih]
    · next h => rw [includedTokens, if_neg h, List.nil_append, ih]

/-- All joins that a change lists are included. -/
theorem Query.included_of_mem_listed {row : Option UpdateRow} {q : Query} {layout : MutationLayout}
    {j : Join} (hj : j ∈ (q.listed row layout).joins) :
  j.included = true
  := by
  cases layout with
  | standard => exact (List.mem_filter.mp hj).2
  | alterTable => cases hj

/-- There is a change if there is a table, a condition and, for an UPDATE, a column to set. -/
theorem Request.exists_tokens_change_iff {d : Dialect} {row : Option UpdateRow} {q : Query} :
  (∃ ts, (Request.change row q).tokens d = .ok ts)
    ↔ q.sources ≠ [] ∧ q.filter.isEmpty = false ∧ ∀ r ∈ row, r.entries ≠ []
  := by
  constructor
  · rintro ⟨ts, h⟩
    cases row with
    | none =>
      obtain ⟨t, ht, -⟩ := Mutation.delete_eq_ok h
      obtain ⟨⟨rest, hsources⟩, hfilter⟩ := Mutation.target_eq_ok_iff.mp ht
      simp [hsources, hfilter]
    | some row =>
      obtain ⟨t, ht, hrow, -⟩ := Mutation.update_eq_ok h
      obtain ⟨⟨rest, hsources⟩, hfilter⟩ := Mutation.target_eq_ok_iff.mp ht
      have hentries := (Mutation.checkRow_eq_ok_iff row "update").mp hrow
      simp [hsources, hfilter, hentries]
  · rintro ⟨hsources, hfilter, hrow⟩
    obtain ⟨t, rest, hsources⟩ := List.exists_cons_of_ne_nil hsources
    have htarget (action : String) : Mutation.target q action = .ok t :=
      Mutation.target_eq_ok_iff.mpr ⟨⟨rest, hsources⟩, hfilter⟩
    cases row with
    | none =>
      change ∃ ts, Mutation.delete d.style d.mutations q = .ok ts
      rw [Mutation.delete, htarget]
      cases d.mutations <;> exact ⟨_, rfl⟩
    | some row =>
      change ∃ ts, Mutation.update d.style d.mutations row q = .ok ts
      rw [Mutation.update, htarget, (Mutation.checkRow_eq_ok_iff row "update").mpr (hrow row rfl)]
      cases d.mutations <;> exact ⟨_, rfl⟩

/-- A change is written from what its layout has room for. -/
theorem Request.tokens_change_listed {d : Dialect} {row : Option UpdateRow} {q : Query}
    {ts : List Token} (h : (Request.change row q).tokens d = .ok ts) :
  ts = (q.listed row d.mutations).tokens d.style (some q.scope) d.mutations
  := by
  have hjoins := Join.includedTokens_filter d.style (some q.scope) q.joins
  cases row with
  | none =>
    obtain ⟨t, ht, rfl⟩ := Mutation.delete_eq_ok h
    obtain ⟨⟨rest, hsources⟩, -⟩ := Mutation.target_eq_ok_iff.mp ht
    cases d.mutations <;>
      simp [Query.listed, Query.change, Query.includedJoins, Change.tokens, hsources, hjoins,
        Mutation.whereTokens, Mutation.endingTokens, Join.includedTokens, Token.separated]
  | some row =>
    obtain ⟨t, ht, -, rfl⟩ := Mutation.update_eq_ok h
    obtain ⟨⟨rest, hsources⟩, -⟩ := Mutation.target_eq_ok_iff.mp ht
    cases d.mutations <;>
      simp [Query.listed, Query.change, Query.includedJoins, Change.tokens, hsources, hjoins,
        Mutation.whereTokens, Mutation.endingTokens, Join.includedTokens, Table.tokensEach,
        Token.separated]

/-- A change has a condition. -/
theorem Request.filter_of_change {d : Dialect} {row : Option UpdateRow} {q : Query}
    {ts : List Token} (h : (Request.change row q).tokens d = .ok ts) :
  q.filter.isEmpty = false
  := (Request.exists_tokens_change_iff.mp ⟨ts, h⟩).2.1

/-- A change is made of the tables, the joins and the condition of its query as they are written,
and of the texts at its end. -/
theorem Request.tokens_change_of_parts {p q : Query} (hsources : p.sources = q.sources)
    (hscope : p.scope = q.scope)
    (hjoins : ∀ style,
      Join.includedTokens style q.scope p.joins = Join.includedTokens style q.scope q.joins)
    (hempty : p.filter.isEmpty = q.filter.isEmpty)
    (hfilter : ∀ style, p.filter.tokens style q.scope = q.filter.tokens style q.scope)
    (hendings : p.endings = q.endings) (d : Dialect) (row : Option UpdateRow) :
  (Request.change row p).tokens d = (Request.change row q).tokens d
  := by
  have htarget : ∀ action, Mutation.target p action = Mutation.target q action := by
    intro action
    rw [Mutation.target, Mutation.target, hsources, hempty]
  have hwhere : ∀ style, Mutation.whereTokens style p = Mutation.whereTokens style q := by
    intro style
    rw [Mutation.whereTokens, Mutation.whereTokens, hscope, hfilter]
  have hends : Mutation.endingTokens p = Mutation.endingTokens q := by
    rw [Mutation.endingTokens, Mutation.endingTokens, hendings]
  cases row with
  | none =>
    change Mutation.delete d.style d.mutations p = Mutation.delete d.style d.mutations q
    simp only [Mutation.delete, htarget, hscope, hsources, hjoins, hwhere, hends]
  | some row =>
    change Mutation.update d.style d.mutations row p = Mutation.update d.style d.mutations row q
    simp only [Mutation.update, htarget, hscope, hjoins, hwhere, hends]

end SqlRender
