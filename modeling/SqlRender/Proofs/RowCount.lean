import SqlRender.Proofs.JoinedRows

/-!
# The number of rows of a query

`Query.rows?` are the rows of a query for the contents of a store, and `Query.counted?` is the
number that a query for `COUNT(*)` results in.  By `Query.counted?_countQuery` the count of a
query as a derived table is the number of its rows, and so is the simplified count as long as
it keeps the joins.  Without the joins it is the number of rows of the sources on which the
condition is true.  This is the number of rows of the query exactly if the joins find at most
one match for each of them.
-/

namespace SqlRender

/-! ### The rows of a query -/

/-- The tables and the joins of a query with their contents. -/
structure Inputs where
  tables : List (Table × Relation)
  joins : List (Join × Relation)

/-- The row of null values of all tables. -/
def Inputs.blank (i : Inputs) : JoinedRow :=
  i.tables.map (fun part => (part.1, part.2.blank))
    ++ i.joins.map fun part => (part.1.table, part.2.blank)

/-- What a column of a table adds to the result for a row. -/
def Column.output (row : JoinedRow) (c : Column) : Record :=
  match c.expr with
  | .named table "*" =>
    (row.filter fun part => table.all part.1.isVisibleAs).flatMap Prod.snd
  | .named table name =>
    [(c.aliasName.getD name, (row.read ⟨[], table, name, false⟩).getD .null)]
  | _ => []

namespace Query

/-- The result for a row.  A query without columns results in all columns. -/
def output (q : Query) (row : JoinedRow) : Record :=
  (if q.columns.isEmpty then [Column.all] else q.columns).flatMap (Column.output row)

/-- Whether the query selects rows of joined tables only. -/
def isSelection (q : Query) : Bool :=
  q.ctes.isEmpty && q.groups.isEmpty && q.having.isEmpty && q.partners.isEmpty
    && q.rows.isNone && q.offset.isNone

/-- The rows of a query on these inputs. -/
def rowsOf? (s : Store) (q : Query) (i : Inputs) : Option (List JoinedRow) :=
  if q.isSelection then some (s.selected i.tables i.joins q.filter) else none

/-- The result of a query on these inputs, if its columns are columns of tables. -/
def resultOf? (s : Store) (q : Query) (i : Inputs) : Option Relation :=
  if q.columns.all fun c => c.name?.isSome then
    (q.rowsOf? s i).map fun rows =>
      ⟨(q.output i.blank).map Prod.fst, rows.map fun row => (q.output row).map Prod.snd⟩
  else none

end Query

mutual

/-- The tables and the joins of a query with their contents in a store. -/
def Query.inputs? (s : Store) : Query → Option Inputs
  | ⟨_, _, _, _, sources, joins, _, _, _, _, _, _, _, _⟩ =>
    (Table.relations? s sources).bind fun tables =>
      (Join.relations? s joins).map fun joins => ⟨tables, joins⟩

/-- The tables of a list with their contents. -/
def Table.relations? (s : Store) : List Table → Option (List (Table × Relation))
  | [] => some []
  | t :: rest =>
    (Table.relation? s t).bind fun R => (Table.relations? s rest).map fun parts => (t, R) :: parts

/-- The contents of a table. -/
def Table.relation? (s : Store) : Table → Option Relation
  | ⟨source, _⟩ => Source.relation? s source

/-- The rows that a table is read from. -/
def Source.relation? (s : Store) : Source → Option Relation
  | .named schema name => some (s.contents schema name)
  | .derived q => (Query.inputs? s q).bind fun i => q.resultOf? s i

/-- The included joins of a list with the contents of their tables. -/
def Join.relations? (s : Store) : List Join → Option (List (Join × Relation))
  | [] => some []
  | ⟨kind, table, on, included⟩ :: rest =>
    if included then
      if kind = .left ∨ kind = .inner then
        (Table.relation? s table).bind fun R =>
          (Join.relations? s rest).map fun parts => (⟨kind, table, on, included⟩, R) :: parts
      else none
    else Join.relations? s rest

end

namespace Query

/-- The rows of a query before its columns are taken. -/
def rows? (s : Store) (q : Query) : Option (List JoinedRow) :=
  (q.inputs? s).bind (q.rowsOf? s)

/-- The number that a query for `COUNT(*)` results in. -/
def counted? (s : Store) (q : Query) : Option Nat :=
  match q.columns with
  | [⟨.call "COUNT" [⟨.named none "*", none⟩], _⟩] => (q.rows? s).map List.length
  | _ => none

end Query

/-! ### The contents of named tables -/

section

variable (s : Store)

theorem Table.exists_relation? {t : Table} (h : t.name?.isSome = true) :
  ∃ R, t.relation? s = some R
  := by
  obtain ⟨source, aliasName⟩ := t
  cases source with
  | named schema name => exact ⟨s.contents schema name, rfl⟩
  | derived q => cases h

theorem Table.exists_relations? {tables : List Table} (h : ∀ t ∈ tables, t.name?.isSome = true) :
  ∃ parts, Table.relations? s tables = some parts
  := by
  induction tables with
  | nil => exact ⟨[], rfl⟩
  | cons t tables ih =>
    obtain ⟨R, hR⟩ := exists_relation? s (h t List.mem_cons_self)
    obtain ⟨parts, hparts⟩ := ih fun u hu => h u (List.mem_cons_of_mem t hu)
    use (t, R) :: parts
    rw [relations?, hR, Option.bind_some, hparts, Option.map_some]

theorem Join.exists_relations? {joins : List Join}
    (h : ∀ j ∈ joins.filter Join.included,
      (j.kind = .left ∨ j.kind = .inner) ∧ j.table.name?.isSome = true) :
  ∃ parts, Join.relations? s joins = some parts
    ∧ ∀ part ∈ parts, part.1 ∈ joins.filter Join.included ∧ part.1.table.relation? s = some part.2
  := by
  induction joins with
  | nil => exact ⟨[], rfl, nofun⟩
  | cons j joins ih =>
    obtain ⟨kind, table, on, included⟩ := j
    cases included with
    | false =>
      rw [List.filter_cons_of_neg Bool.false_ne_true] at h ⊢
      obtain ⟨parts, hparts, hmem⟩ := ih h
      use parts
      rw [relations?.eq_def]
      exact ⟨hparts, hmem⟩
    | true =>
      rw [List.filter_cons_of_pos rfl] at h ⊢
      obtain ⟨⟨hkind, hnamed⟩, hrest⟩ := List.forall_mem_cons.mp h
      obtain ⟨R, hR⟩ := Table.exists_relation? s hnamed
      obtain ⟨parts, hparts, hmem⟩ := ih hrest
      use (⟨kind, table, on, true⟩, R) :: parts
      constructor
      · rw [relations?.eq_def]
        simp only [if_true]
        rw [if_pos hkind, hR, Option.bind_some, hparts, Option.map_some]
      · intro part hpart
        rcases List.mem_cons.mp hpart with rfl | hpart
        · exact ⟨List.mem_cons_self, hR⟩
        · exact ⟨List.mem_cons_of_mem _ (hmem part hpart).1, (hmem part hpart).2⟩

end

/-! ### Counting -/

namespace Query

variable {s : Store}

/-- A query for `COUNT(*)` counts its rows. -/
theorem counted?_of_columns {q : Query} (h : q.columns = [Column.countAll]) :
  q.counted? s = (q.rows? s).map List.length
  := by
  rw [counted?, h]
  rfl

/-- The result of a query with columns of tables has as many rows as the query. -/
theorem length_resultOf? {q : Query} (hcolumns : q.columns.all (fun c => c.name?.isSome) = true)
    (i : Inputs) :
  (q.resultOf? s i).map (fun R => R.rows.length) = (q.rowsOf? s i).map List.length
  := by
  rw [resultOf?, if_pos hcolumns, Option.map_map]
  congr 1
  funext rows
  apply List.length_map

/-- The query that counts a derived table has the rows of the table. -/
theorem rows?_countDerived {q : Query} (hctes : q.ctes = []) :
  ∃ t, q.countDerived.rows? s
    = ((q.inputs? s).bind (q.resultOf? s)).map fun R => R.records.map fun r => [(t, r)]
  := by
  let t := (Table.derived { q with recursive := false, ctes := [], endings := [] }).named "t"
  have hrelation : Table.relation? s t = (q.inputs? s).bind (q.resultOf? s) := by
    obtain ⟨⟩ := q
    subst hctes
    rfl
  have hselection : q.countDerived.isSelection = true := by
    rw [isSelection, countDerived, hctes]
    rfl
  have hrows : ∀ R, q.countDerived.rowsOf? s ⟨[(t, R)], []⟩
      = some (R.records.map fun r => [(t, r)]) := by
    intro R
    rw [rowsOf?, if_pos hselection, ← s.selected_single]
    rfl
  have hinputs : q.countDerived.inputs? s = (Table.relation? s t).map fun R => ⟨[(t, R)], []⟩ := by
    rw [countDerived, inputs?, Table.relations?, Table.relations?]
    cases Table.relation? s t <;> rfl
  use t
  rw [rows?, hinputs, ← hrelation]
  cases Table.relation? s t with
  | none => rfl
  | some R => apply hrows

/-- The count of a query as a derived table is the number of its rows. -/
theorem counted?_countDerived {q : Query} (hctes : q.ctes = [])
    (hcolumns : q.columns.all (fun c => c.name?.isSome) = true) :
  q.countDerived.counted? s = (q.rows? s).map List.length
  := by
  obtain ⟨t, ht⟩ := rows?_countDerived (s := s) hctes
  rw [counted?_of_columns rfl, ht, Option.map_map, rows?]
  cases q.inputs? s with
  | none => rfl
  | some i =>
    rw [Option.bind_some, Option.bind_some, ← length_resultOf? hcolumns]
    congr 1
    funext R
    simp [Relation.records]

/-! ### The simplified count -/

/-- A query for columns of named tables with inner and left joins.  Its condition has no text
of the caller. -/
structure IsPlain (q : Query) : Prop where
  ctes : q.ctes = []
  columns : ∀ c ∈ q.columns, c.name?.isSome = true
  sources : ∀ t ∈ q.sources, t.name?.isSome = true
  joins : ∀ j ∈ q.includedJoins, (j.kind = .left ∨ j.kind = .inner) ∧ j.table.name?.isSome = true
  filter : q.filter.hasText = false
  groups : q.groups = []
  having : q.having.isEmpty = true
  partners : q.partners = []

/-- The query without its joins. -/
def unjoined (q : Query) : Query :=
  { q with joins := [] }

namespace IsPlain

variable {q : Query} (hq : q.IsPlain)

include hq

theorem needsDerivedCount :
  q.needsDerivedCount = false
  := by
  have hdistinct : q.hasDistinct = false := by
    rw [hasDistinct, List.any_eq_false]
    intro c hc hdistinct
    obtain ⟨expr, _⟩ := c
    cases expr <;> first | exact Bool.false_ne_true hdistinct | cases hq.columns _ hc
  rw [Query.needsDerivedCount, hdistinct, hq.groups, hq.partners]
  rfl

theorem not_isCallOf (function : String) :
  q.columns.head?.any (Column.isCallOf function) = false
  := by
  cases hcolumns : q.columns with
  | nil => rfl
  | cons c columns =>
    have hc := hq.columns c (hcolumns ▸ List.mem_cons_self)
    obtain ⟨expr, _⟩ := c
    cases expr <;> first | rfl | cases hc

theorem dropsJoins_eq :
  q.dropsJoins = q.hasIdleJoins
  := by
  rw [Bool.eq_iff_iff, dropsJoins_iff, hq.needsDerivedCount, hq.not_isCallOf]
  simp +contextual [hasIdleJoins]

/-- The simplified count of the query has the rows of the query, or those without the joins. -/
theorem counted?_countQuery_true (s : Store) :
  (q.countQuery true).counted? s
    = ((if q.dropsJoins then q.unordered.unjoined else q.unordered).rows? s).map List.length
  := by
  rw [countQuery_eq_countAll hq.needsDerivedCount (hq.not_isCallOf _),
    counted?_of_columns rfl, hq.dropsJoins_eq]
  cases q.hasIdleJoins <;> rfl

/-- The rows of the query are selected from its tables and its joins. -/
theorem rows?_eq {s : Store} {tables : List (Table × Relation)} {joins : List (Join × Relation)}
    (htables : Table.relations? s q.sources = some tables)
    (hjoins : Join.relations? s q.joins = some joins) :
  q.unordered.rows? s = some (s.selected tables joins q.filter)
    ∧ q.unordered.unjoined.rows? s = some (s.selected tables [] q.filter)
  := by
  have hselection : q.unordered.isSelection = true := by
    rw [isSelection, unordered, hq.ctes, hq.groups, hq.partners, hq.having]
    rfl
  constructor
  · rw [rows?, unordered, inputs?, htables, hjoins]
    exact if_pos hselection
  · rw [rows?, unjoined, unordered, inputs?, htables]
    exact if_pos hselection

end IsPlain

/-- What the condition may read of the joined tables, it reads by names that a simplified count
sees. -/
def ReadsByName (s : Store) (q : Query) : Prop :=
  ∀ r ∈ q.filter.references, ∀ j ∈ q.includedJoins,
    (j.table.relation? s).any (Reference.mayRead j.table · r) = true → r.isSeen j.table = true

/-- The count of a query as a derived table is the number of its rows, and so is the simplified
count if it keeps the joins.  If it does not, it is the number of rows of the sources on which
the condition is true.  This is not more than the number of rows of the query, as far as the
condition reads the joined tables by name, and it is the same exactly if the joins find at most
one match for each of these rows. -/
theorem counted?_countQuery (s : Store) {q : Query} (hq : q.IsPlain) :
  ∃ rows, q.unordered.rows? s = some rows
    ∧ (q.countQuery false).counted? s = some rows.length
    ∧ (q.dropsJoins = false → (q.countQuery true).counted? s = some rows.length)
    ∧ (q.dropsJoins = true → ∃ kept joins,
      q.unordered.unjoined.rows? s = some kept
        ∧ Join.relations? s q.joins = some joins
        ∧ (q.countQuery true).counted? s = some kept.length
        ∧ (q.ReadsByName s → kept.length ≤ rows.length
          ∧ (rows.length = kept.length ↔ ∀ row ∈ kept, s.MatchesOnce joins row)))
  := by
  obtain ⟨tables, htables⟩ := Table.exists_relations? s hq.sources
  obtain ⟨joins, hjoins, hmem⟩ := Join.exists_relations? s hq.joins
  obtain ⟨hrows, hkept⟩ := hq.rows?_eq htables hjoins
  use s.selected tables joins q.filter, hrows
  constructor
  · have hcolumns := List.all_eq_true.mpr hq.columns
    have hcounted := counted?_countDerived (s := s) (q := q.unordered) hq.ctes hcolumns
    rw [countQuery_eq_countDerived (.inl rfl), hcounted, hrows, Option.map_some]
  · constructor
    · intro hdrops
      rw [hq.counted?_countQuery_true, hdrops, if_neg Bool.false_ne_true, hrows, Option.map_some]
    · intro hdrops
      use s.selected tables [] q.filter, joins, hkept, hjoins
      constructor
      · rw [hq.counted?_countQuery_true, hdrops, if_pos rfl, hkept, Option.map_some]
      · intro hread
        have hidle := (hq.dropsJoins_eq ▸ hdrops : q.hasIdleJoins = true)
        apply s.length_selected_of_left hq.filter
        · intro j hj
          exact (noneSeen_of_hasIdleJoins hidle _ (hmem j hj).1).1
        · intro r hr j hj
          obtain ⟨hjoin, hrelation⟩ := hmem j hj
          have hseen := (noneSeen_of_hasIdleJoins hidle _ hjoin).2 r hr
          have hany := mt (hread r hr _ hjoin) (Bool.eq_false_iff.mp hseen)
          rw [hrelation] at hany
          exact Bool.eq_false_iff.mpr hany

/-- The numbers of accounts, and articles with their accounts and their statuses. -/
def blog (articles : List (List Value)) : Store where
  contents _ name :=
    if name = "accounts" then ⟨["id"], [[.int 1], [.int 2]]⟩ else ⟨["account", "status"], articles⟩
  judge c values _ :=
    match c, values with
    | .predicate _ .eq (.column _), [some (.int m), some (.int n)] => if m = n then .true else .false
    | .predicate _ .eq (.value (.int n)), [some (.int m)] => if m = n then .true else .false
    | .predicate _ .isNotNull .absent, [some v] => if v.isNull then .false else .true
    | _, _ => .unknown

/-- The accounts that have a number, with their articles. -/
def numberedAccounts : Query :=
  accountsWithArticles.and (Column.inTable "accounts" "id").isNotNull

/-- The accounts with their articles of a status, which is not said to be one of articles. -/
def accountsByStatus : Query :=
  accountsWithArticles.and ((Column.ofText "status").compare .eq (.int 5))

theorem isPlain_numberedAccounts :
  numberedAccounts.IsPlain
  := by
  constructor <;> first | rfl | decide

/-- The articles are left out of the count of the accounts, which is right as no account has
two of them. -/
theorem counted?_countQuery_numberedAccounts :
  numberedAccounts.dropsJoins = true
    ∧ (numberedAccounts.countQuery true).counted? (blog [[.int 1, .int 5]])
      = (numberedAccounts.countQuery false).counted? (blog [[.int 1, .int 5]])
  := by
  have hdrops : numberedAccounts.dropsJoins = true := by decide
  have hread : numberedAccounts.ReadsByName (blog [[.int 1, .int 5]]) := by
    unfold ReadsByName
    decide
  obtain ⟨rows, hrows, hplain, -, hdropped⟩ :=
    counted?_countQuery (blog [[.int 1, .int 5]]) isPlain_numberedAccounts
  obtain ⟨kept, joins, hkept, hjoins, hcounted, hnumber⟩ := hdropped hdrops
  obtain rfl := Option.some.inj hkept
  obtain rfl := Option.some.inj hjoins
  constructor
  · apply hdrops
  · rw [hplain, hcounted, (hnumber hread).2.mpr]
    decide

/-- Without the articles an account with two of them counts once, and the status of an article
is not found. -/
theorem not_counted?_countQuery_eq :
  (numberedAccounts.IsPlain
      ∧ (numberedAccounts.countQuery false).counted? (blog [[.int 1, .int 5], [.int 1, .int 6]])
        = some 3
      ∧ (numberedAccounts.countQuery true).counted? (blog [[.int 1, .int 5], [.int 1, .int 6]])
        = some 2)
    ∧ accountsByStatus.IsPlain
      ∧ (accountsByStatus.countQuery false).counted? (blog [[.int 1, .int 5]]) = some 1
      ∧ (accountsByStatus.countQuery true).counted? (blog [[.int 1, .int 5]]) = some 0
  := by
  have hstatus : accountsByStatus.IsPlain := by
    constructor <;> first | rfl | decide
  exact ⟨⟨isPlain_numberedAccounts, by decide, by decide⟩, hstatus, by decide, by decide⟩

end Query

end SqlRender
