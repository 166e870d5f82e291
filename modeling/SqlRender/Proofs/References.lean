import Mathlib.Tactic.Use
import SqlRender.Count

/-!
# References to tables

A column refers to a table by its qualifier, wherever in a query it stands.
`Query.references` collects the references of a query in all its clauses and in all queries
inside of it.  A simplified count leaves out joins if the condition does not mention their
tables, and this examination does not go everywhere: of the queries in the condition it sees
the columns, the conditions and the joins only.  By
`Query.not_isReferencedBy_of_dropsJoins` no reference in the clauses that it sees is one to a
table that is left out.
-/

namespace SqlRender

/-! ### References -/

/-- A clause of a query. -/
inductive Clause where
  | ctes
  | columns
  | sources
  | on
  | filter
  | groups
  | having
  | order
  | partners
  deriving DecidableEq

/-- A column of a table somewhere in a part of a query. -/
structure Reference where
  /-- The clauses that lead to the column, from the outermost. -/
  trail : List Clause
  table : Option String
  name : String
  /-- Whether the qualifier is the name of a table of a query around the column, inside of the
  part. -/
  isBound : Bool
  deriving DecidableEq

namespace Table

/-- The name of a named table with its schema. -/
def fullName? (t : Table) : Option String :=
  match t.source with
  | .named (some schema) name => some (schema ++ "." ++ name)
  | _ => none

/-- Whether a qualifier is the alias of the table, its name, or its name with its schema. -/
def isNamedBy (t : Table) (qualifier : String) : Bool :=
  t.isReferencedBy qualifier || t.fullName?.any (Text.sameIgnoringCase · qualifier)

end Table

namespace Reference

/-- References in a clause. -/
def within (c : Clause) (rs : List Reference) : List Reference :=
  rs.map fun r => { r with trail := c :: r.trail }

/-- References in a query with these tables. -/
def among (tables : List Table) (rs : List Reference) : List Reference :=
  rs.map fun r =>
    { r with isBound := r.isBound || r.table.any fun n => tables.any fun t => t.isNamedBy n }

end Reference

mutual

/-- The references of a query. -/
def Query.references : Query → List Reference
  | ⟨_, ctes, _, columns, sources, joins, filter, groups, having, order, _, _, partners, _⟩ =>
    Reference.within .ctes (Cte.referencesEach ctes)
      ++ Reference.among (sources ++ (joins.filter Join.included).map Join.table)
          (Reference.within .columns (Column.referencesEach columns)
            ++ Reference.within .sources (Table.referencesEach sources)
            ++ Join.referencesEach joins
            ++ Reference.within .filter (Condition.references filter)
            ++ Reference.within .groups (Column.referencesEach groups)
            ++ Reference.within .having (Condition.references having)
            ++ Reference.within .order (OrderItem.referencesEach order))
      ++ Reference.within .partners (Partner.referencesEach partners)

/-- The references of common table expressions. -/
def Cte.referencesEach : List Cte → List Reference
  | [] => []
  | ⟨_, _, q⟩ :: rest => Query.references q ++ Cte.referencesEach rest

/-- The references of the partners of a union. -/
def Partner.referencesEach : List Partner → List Reference
  | [] => []
  | ⟨_, q⟩ :: rest => Query.references q ++ Partner.referencesEach rest

/-- The references of a column. -/
def Column.references : Column → List Reference
  | ⟨expr, _⟩ => Expr.references expr

/-- The references of the columns of a list. -/
def Column.referencesEach : List Column → List Reference
  | [] => []
  | c :: rest => Column.references c ++ Column.referencesEach rest

/-- The references of an expression. -/
def Expr.references : Expr → List Reference
  | .named table name => [⟨[], table, name, false⟩]
  | .call _ args => Column.referencesEach args
  | .distinct columns => Column.referencesEach columns
  | .raw .. => []
  | .param _ => []
  | .arithmetic left _ right => Column.references left ++ Column.references right
  | .subquery q => Query.references q

/-- The references of a table. -/
def Table.references : Table → List Reference
  | ⟨source, _⟩ => Source.references source

/-- The references of the tables of a list. -/
def Table.referencesEach : List Table → List Reference
  | [] => []
  | t :: rest => Table.references t ++ Table.referencesEach rest

/-- The references of what a table is read from. -/
def Source.references : Source → List Reference
  | .named .. => []
  | .derived q => Query.references q

/-- The references of the included joins of a list. -/
def Join.referencesEach : List Join → List Reference
  | [] => []
  | ⟨_, table, on, included⟩ :: rest =>
    (if included then
      Reference.within .sources (Table.references table)
        ++ Reference.within .on (match on with | some c => Condition.references c | none => [])
     else [])
      ++ Join.referencesEach rest

/-- The references of a condition. -/
def Condition.references : Condition → List Reference
  | .empty => []
  | .predicate column _ operand => Column.references column ++ Operand.references operand
  | .raw .. => []
  | .existence _ q => Query.references q
  | .not c => Condition.references c
  | .group c => Condition.references c
  | .connect left _ right => Condition.references left ++ Condition.references right

/-- The references of the right side of a predicate. -/
def Operand.references : Operand → List Reference
  | .column c => Column.references c
  | .query q => Query.references q
  | _ => []

/-- The references of an ordering. -/
def OrderItem.referencesEach : List OrderItem → List Reference
  | [] => []
  | .column c _ _ :: rest => Column.references c ++ OrderItem.referencesEach rest
  | .raw _ :: rest => OrderItem.referencesEach rest

end

/-! ### What a condition mentions -/

/-- Whether the clause is examined in a query that may mention a table. -/
def Clause.isExamined : Clause → Bool
  | columns | on | filter | having => true
  | ctes | sources | groups | order | partners => false

namespace Reference

/-- Whether the reference is one to the table by its name or its alias, in clauses that are
examined. -/
def isSeen (t : Table) (r : Reference) : Bool :=
  r.trail.all Clause.isExamined && r.table.any t.isReferencedBy

/-- No reference is a visible one to the table. -/
def NoneSeen (t : Table) (rs : List Reference) : Prop :=
  ∀ r ∈ rs, r.isSeen t = false

variable {t : Table} {rs us : List Reference}

theorem noneSeen_append_iff :
  NoneSeen t (rs ++ us) ↔ NoneSeen t rs ∧ NoneSeen t us
  := List.forall_mem_append

theorem noneSeen_within {c : Clause} (h : c.isExamined = true → NoneSeen t rs) :
  NoneSeen t (within c rs)
  := by
  intro r hr
  obtain ⟨s, hs, rfl⟩ := List.mem_map.mp hr
  cases hc : c.isExamined with
  | false => simp [isSeen, hc]
  | true => simpa [isSeen, hc] using h hc s hs

theorem noneSeen_among {tables : List Table} (h : NoneSeen t rs) :
  NoneSeen t (among tables rs)
  := by
  intro r hr
  obtain ⟨s, hs, rfl⟩ := List.mem_map.mp hr
  exact h s hs

end Reference

section

open Reference

variable (t : Table)

mutual

/-- What does not mention a table has no visible reference to it. -/
theorem Query.noneSeen_references :
    ∀ q : Query, Query.mentions t q = false →
  NoneSeen t (Query.references q)
  | ⟨_, ctes, _, columns, sources, joins, filter, groups, having, order, _, _, partners, _⟩, h => by
    simp only [Query.mentions, Bool.or_eq_false_iff] at h
    obtain ⟨⟨⟨hcolumns, hfilter⟩, hhaving⟩, hjoins⟩ := h
    have hown : NoneSeen t
        (Reference.within .columns (Column.referencesEach columns)
          ++ Reference.within .sources (Table.referencesEach sources)
          ++ Join.referencesEach joins
          ++ Reference.within .filter (Condition.references filter)
          ++ Reference.within .groups (Column.referencesEach groups)
          ++ Reference.within .having (Condition.references having)
          ++ Reference.within .order (OrderItem.referencesEach order)) := by
      simp only [noneSeen_append_iff]
      and_intros
      · exact noneSeen_within fun _ => Column.noneSeen_referencesEach columns hcolumns
      · exact noneSeen_within nofun
      · exact Join.noneSeen_referencesEach joins hjoins
      · exact noneSeen_within fun _ => Condition.noneSeen_references filter hfilter
      · exact noneSeen_within nofun
      · exact noneSeen_within fun _ => Condition.noneSeen_references having hhaving
      · exact noneSeen_within nofun
    simp only [Query.references, noneSeen_append_iff]
    exact ⟨⟨noneSeen_within nofun, noneSeen_among hown⟩, noneSeen_within nofun⟩

theorem Column.noneSeen_references :
    ∀ c : Column, Column.mentions t c = false →
  NoneSeen t (Column.references c)
  | ⟨expr, _⟩, h => Expr.noneSeen_references expr h

theorem Column.noneSeen_referencesEach :
    ∀ columns : List Column, Column.anyMentions t columns = false →
  NoneSeen t (Column.referencesEach columns)
  | [], _ => nofun
  | c :: rest, h => by
    simp only [Column.anyMentions, Bool.or_eq_false_iff] at h
    rw [Column.referencesEach, noneSeen_append_iff]
    exact ⟨Column.noneSeen_references c h.1, Column.noneSeen_referencesEach rest h.2⟩

theorem Expr.noneSeen_references :
    ∀ e : Expr, Expr.mentions t e = false →
  NoneSeen t (Expr.references e)
  | .named table name, h => by
    intro r hr
    obtain rfl := List.mem_singleton.mp hr
    exact h
  | .call _ args, h => Column.noneSeen_referencesEach args h
  | .distinct columns, h => Column.noneSeen_referencesEach columns h
  | .raw .., _ => nofun
  | .param _, _ => nofun
  | .arithmetic left _ right, h => by
    simp only [Expr.mentions, Bool.or_eq_false_iff] at h
    rw [Expr.references, noneSeen_append_iff]
    exact ⟨Column.noneSeen_references left h.1, Column.noneSeen_references right h.2⟩
  | .subquery q, h => Query.noneSeen_references q h

theorem Join.noneSeen_referencesEach :
    ∀ joins : List Join, Join.anyMentions t joins = false →
  NoneSeen t (Join.referencesEach joins)
  | [], _ => nofun
  | ⟨_, _, on, included⟩ :: rest, h => by
    rw [Join.anyMentions.eq_def, Bool.or_eq_false_iff] at h
    obtain ⟨hon, hrest⟩ := h
    rw [Join.referencesEach.eq_def, noneSeen_append_iff]
    refine ⟨?_, Join.noneSeen_referencesEach rest hrest⟩
    cases included with
    | false => exact nofun
    | true =>
      rw [if_pos rfl, noneSeen_append_iff]
      refine ⟨noneSeen_within nofun, noneSeen_within fun _ => ?_⟩
      cases on with
      | none => exact nofun
      | some c => exact Condition.noneSeen_references c hon

theorem Condition.noneSeen_references :
    ∀ c : Condition, Condition.mentions t c = false →
  NoneSeen t (Condition.references c)
  | .empty, _ => nofun
  | .predicate column _ operand, h => by
    simp only [Condition.mentions, Bool.or_eq_false_iff] at h
    rw [Condition.references, noneSeen_append_iff]
    exact ⟨Column.noneSeen_references column h.1, Operand.noneSeen_references operand h.2⟩
  | .raw .., _ => nofun
  | .existence _ q, h => Query.noneSeen_references q h
  | .not c, h => Condition.noneSeen_references c h
  | .group c, h => Condition.noneSeen_references c h
  | .connect left _ right, h => by
    simp only [Condition.mentions, Bool.or_eq_false_iff] at h
    rw [Condition.references, noneSeen_append_iff]
    exact ⟨Condition.noneSeen_references left h.1, Condition.noneSeen_references right h.2⟩

theorem Operand.noneSeen_references :
    ∀ o : Operand, Operand.mentions t o = false →
  NoneSeen t (Operand.references o)
  | .absent, _ => nofun
  | .value _, _ => nofun
  | .list _, _ => nofun
  | .range _ _, _ => nofun
  | .column c, h => Column.noneSeen_references c h
  | .query q, h => Query.noneSeen_references q h

end

end

/-! ### The references of a condition -/

namespace Reference

variable {c : Clause} {rest : List Clause} {rs : List Reference} {r : Reference}

theorem trail_head?_of_mem_within (h : r ∈ within c rs) :
  r.trail.head? = some c
  := by
  obtain ⟨s, -, rfl⟩ := List.mem_map.mp h
  rfl

theorem exists_of_mem_within (h : r ∈ within c rs) (htrail : r.trail = c :: rest) :
  ∃ s ∈ rs, s.trail = rest ∧ s.table = r.table ∧ s.name = r.name
  := by
  obtain ⟨s, hs, rfl⟩ := List.mem_map.mp h
  use s, hs, (List.cons.inj htrail).2

theorem exists_of_mem_among {tables : List Table} (h : r ∈ among tables rs) :
  ∃ s ∈ rs, s.trail = r.trail ∧ s.table = r.table ∧ s.name = r.name
  := by
  obtain ⟨s, hs, rfl⟩ := List.mem_map.mp h
  use s, hs

end Reference

/-- The clause of a reference in a join is that of its table or of its condition. -/
theorem Join.trail_head?_of_mem_referencesEach {r : Reference} :
    ∀ {joins : List Join}, r ∈ Join.referencesEach joins →
  r.trail.head? = some .sources ∨ r.trail.head? = some .on
  | ⟨_, _, _, included⟩ :: rest, h => by
    rw [Join.referencesEach.eq_def, List.mem_append] at h
    obtain h | h := h
    · cases included with
      | false => cases h
      | true =>
        rw [if_pos rfl, List.mem_append] at h
        exact h.imp Reference.trail_head?_of_mem_within Reference.trail_head?_of_mem_within
    · exact trail_head?_of_mem_referencesEach h

/-- A reference in the WHERE clause of a query is one of its condition. -/
theorem Query.exists_mem_filter_references {q : Query} {r : Reference} (hr : r ∈ q.references)
    {rest : List Clause} (htrail : r.trail = .filter :: rest) :
  ∃ s ∈ q.filter.references, s.trail = rest ∧ s.table = r.table ∧ s.name = r.name
  := by
  have helsewhere : ∀ {s c rs}, s.trail = .filter :: rest → c ≠ .filter →
      s ∉ Reference.within c rs := by
    intro s c rs hs hc hmem
    have hhead := Reference.trail_head?_of_mem_within hmem
    rw [hs] at hhead
    exact hc (Option.some.inj hhead).symm
  obtain ⟨_, _, _, columns, sources, joins, filter, groups, having, order, _, _, _, _⟩ := q
  rw [references, List.mem_append, List.mem_append] at hr
  obtain (hr | hr) | hr := hr
  · exact absurd hr (helsewhere htrail nofun)
  · obtain ⟨s, hs, heq, htable, hname⟩ := Reference.exists_of_mem_among hr
    rw [← heq] at htrail
    rw [← htable, ← hname]
    simp only [List.mem_append] at hs
    obtain (((((hs | hs) | hs) | hs) | hs) | hs) | hs := hs
    · exact absurd hs (helsewhere htrail nofun)
    · exact absurd hs (helsewhere htrail nofun)
    · have hhead := Join.trail_head?_of_mem_referencesEach hs
      rw [htrail] at hhead
      simp at hhead
    · exact Reference.exists_of_mem_within hs htrail
    · exact absurd hs (helsewhere htrail nofun)
    · exact absurd hs (helsewhere htrail nofun)
    · exact absurd hs (helsewhere htrail nofun)
  · exact absurd hr (helsewhere htrail nofun)

/-! ### What a simplified count leaves out -/

namespace Query

/-- Whether the simplified count of a query has none of the joins of the query. -/
def dropsJoins (q : Query) : Bool :=
  !q.includedJoins.isEmpty && (q.countQuery true).includedJoins.isEmpty

/-- The count of the rows of a query as a derived table. -/
theorem countQuery_eq_countDerived {q : Query} {simplify : Bool}
    (h : simplify = false ∨ q.needsDerivedCount = true) :
  q.countQuery simplify = q.unordered.countDerived
  := by
  rw [countQuery, if_pos]
  simpa using h

/-- The count by the columns of the query itself. -/
theorem countQuery_eq_unordered {q : Query} (hderived : q.needsDerivedCount = false)
    (hcount : q.columns.head?.any (Column.isCallOf "COUNT") = true) :
  q.countQuery true = q.unordered
  := by
  simp [countQuery, hderived, hcount]

/-- The count in place of the columns of the query. -/
theorem countQuery_eq_countAll {q : Query} (hderived : q.needsDerivedCount = false)
    (hcount : q.columns.head?.any (Column.isCallOf "COUNT") = false) :
  q.countQuery true
    = { q.unordered with
        columns := [Column.countAll]
        endings := []
        joins := if q.hasIdleJoins then [] else q.joins }
  := by
  simp [countQuery, hderived, hcount]

/-- A query loses its joins to a derived table, or because they are idle. -/
theorem dropsJoins_iff (q : Query) :
  q.dropsJoins = true
    ↔ q.includedJoins.isEmpty = false
      ∧ (q.needsDerivedCount = true
        ∨ q.columns.head?.any (Column.isCallOf "COUNT") = false ∧ q.hasIdleJoins = true)
  := by
  rw [dropsJoins, Bool.and_eq_true, Bool.not_eq_true']
  apply and_congr_right
  intro hjoins
  cases hderived : q.needsDerivedCount with
  | true =>
    rw [countQuery_eq_countDerived (.inr hderived)]
    simp [countDerived, includedJoins, empty]
  | false =>
    cases hcount : q.columns.head?.any (Column.isCallOf "COUNT") with
    | true =>
      rw [countQuery_eq_unordered hderived hcount]
      simpa [unordered, includedJoins] using hjoins
    | false =>
      rw [countQuery_eq_countAll hderived hcount]
      cases hidle : q.hasIdleJoins with
      | true => simp [includedJoins]
      | false => simpa [includedJoins] using hjoins

/-- Idle joins are left joins to tables that the condition has no visible reference to. -/
theorem noneSeen_of_hasIdleJoins {q : Query} (h : q.hasIdleJoins = true) :
  ∀ j ∈ q.includedJoins, j.kind = .left ∧ Reference.NoneSeen j.table q.filter.references
  := by
  intro j hj
  obtain ⟨-, hall⟩ := Bool.and_eq_true_iff.mp h
  obtain ⟨hkind, hmentions⟩ := Bool.and_eq_true_iff.mp (List.all_eq_true.mp hall j hj)
  constructor
  · exact eq_of_beq hkind
  · apply Condition.noneSeen_references
    simpa using hmentions

/-- No reference in the condition of a simplified count that has lost the joins of the query
is one to a table of these joins, as far as the clauses are examined. -/
theorem not_isReferencedBy_of_dropsJoins {q : Query} (h : q.dropsJoins = true) {r : Reference}
    (hr : r ∈ (q.countQuery true).references) {rest : List Clause}
    (htrail : r.trail = .filter :: rest) (hrest : rest.all Clause.isExamined = true) :
  ∀ j ∈ q.includedJoins, ∀ n, r.table = some n → j.table.isReferencedBy n = false
  := by
  intro j hj n hn
  obtain ⟨s, hs, hstrail, hstable, -⟩ := exists_mem_filter_references hr htrail
  obtain ⟨-, hlost⟩ := q.dropsJoins_iff.mp h
  cases hderived : q.needsDerivedCount with
  | true =>
    -- The query around the derived table has no condition.
    rw [countQuery_eq_countDerived (.inr hderived)] at hs
    simp [countDerived, empty, Condition.references] at hs
  | false =>
    rw [hderived] at hlost
    obtain ⟨hcount, hidle⟩ := hlost.resolve_left nofun
    rw [countQuery_eq_countAll hderived hcount] at hs
    obtain ⟨-, hnone⟩ := noneSeen_of_hasIdleJoins hidle j hj
    have hseen := hnone s hs
    rw [Reference.isSeen, hstrail, hrest, hstable, hn] at hseen
    exact hseen

/-- Accounts with their articles. -/
def accountsWithArticles : Query :=
  { empty with
    columns := [Column.inTable "accounts" "id"]
    sources := [⟨.named none "accounts", none⟩]
    joins := [⟨.left, ⟨.named (some "blog") "articles", some "a"⟩,
      some ((Column.inTable "a" "account").compareColumn .eq (Column.inTable "accounts" "id")),
      true⟩] }

/-- The accounts of those that have written a note. -/
def notedAccounts : Query :=
  accountsWithArticles.and <| (Column.inTable "accounts" "id").compareQuery .isIn
    { empty with
      columns := [Column.inTable "notes" "account"]
      sources := [⟨.named none "notes", none⟩] }

/-- The articles are left out of the count, and the column of the notes is not theirs. -/
theorem not_isReferencedBy_of_dropsJoins_notedAccounts :
  notedAccounts.dropsJoins = true
    ∧ (Table.mk (.named (some "blog") "articles") (some "a")).isReferencedBy "notes" = false
  := by
  have h : notedAccounts.dropsJoins = true := by decide
  constructor
  · apply h
  · have hr : ⟨[.filter, .columns], some "notes", "account", true⟩
        ∈ (notedAccounts.countQuery true).references := by decide
    apply not_isReferencedBy_of_dropsJoins h hr rfl rfl _ List.mem_cons_self "notes" rfl

/-- The clauses that lead to a column of a table that the simplified count of a query leaves
out, and of no table around the column. -/
def strayTrails (q : Query) : List (List Clause) :=
  ((q.countQuery true).references.filter fun r =>
    !r.isBound && q.includedJoins.any fun j => r.table.any j.table.isNamedBy).map
      Reference.trail

/-- A query on notes with a column of the articles. -/
def notesByArticle : Query :=
  { empty with
    columns := [Column.inTable "A" "note"]
    sources := [⟨.named none "notes", none⟩] }

/-- Accounts with their articles and with a column of the articles in a further clause: in
HAVING, in a common table expression, in a derived table, in WHERE with the schema, and in
queries in WHERE in GROUP BY, in ORDER BY, in a derived table and in a partner. -/
def strayingAccounts : List Query :=
  let article := Column.inTable "a" "note"
  let notes : Query := { notesByArticle with columns := [Column.inTable "notes" "id"] }
  [ accountsWithArticles.andHaving article.isNull,
    { accountsWithArticles with ctes := [⟨"c", [], notesByArticle⟩] },
    accountsWithArticles.fromQuery notesByArticle,
    accountsWithArticles.and (Column.inTable "BLOG.articles" "note").isNull,
    accountsWithArticles.and (.existence false (notes.groupBy [article])),
    accountsWithArticles.and (.existence false (notes.orderBy article none none)),
    accountsWithArticles.and (.existence false (notes.fromQuery notesByArticle)),
    accountsWithArticles.and (.existence false (notes.union .all notesByArticle)) ]

/-- The articles are left out of the counts, and the columns of the articles stay. -/
theorem strayTrails_strayingAccounts :
  (∀ q ∈ strayingAccounts, q.dropsJoins = true)
    ∧ strayingAccounts.map strayTrails
      = [ [[.having]], [[.ctes, .columns]], [[.sources, .columns]], [[.filter]],
          [[.filter, .groups]], [[.filter, .order]], [[.filter, .sources, .columns]],
          [[.filter, .partners, .columns]] ]
  := by
  decide

end Query

end SqlRender
