import SqlRender.Proofs.Tokens

/-!
# What the caller supplies

The tokens of a statement are words of the language and what the caller supplied: names,
values and texts of all parts of the query.  `Query.supplied` collects the latter, in the
order of the parts and with everything in parts that have no effect.
-/

namespace SqlRender

/-- An optional name as a token. -/
def Token.ofName? (name : Option String) : List Token :=
  name.toList.map Token.name

/-- A text without values as a token. -/
def Token.ofFragment (text : String) : Token :=
  .raw text []

mutual

/-- The tokens that a query supplies. -/
def Query.supplied : Query → List Token
  | ⟨_, ctes, hint, columns, sources, joins, filter, groups, having, order, _, _, partners,
      endings⟩ =>
    Cte.suppliedEach ctes ++ hint.toList.map Token.ofFragment ++ Column.suppliedEach columns
      ++ Table.suppliedEach sources ++ Join.suppliedEach joins ++ Condition.supplied filter
      ++ Column.suppliedEach groups ++ Condition.supplied having ++ OrderItem.suppliedEach order
      ++ Partner.suppliedEach partners ++ endings.map Token.ofFragment

/-- The tokens that common table expressions supply. -/
def Cte.suppliedEach : List Cte → List Token
  | [] => []
  | ⟨name, columns, q⟩ :: rest =>
    .name name :: columns.map Token.name ++ Query.supplied q ++ Cte.suppliedEach rest

/-- The tokens that the partners of a union supply. -/
def Partner.suppliedEach : List Partner → List Token
  | [] => []
  | ⟨_, q⟩ :: rest => Query.supplied q ++ Partner.suppliedEach rest

/-- The tokens that a column supplies. -/
def Column.supplied : Column → List Token
  | ⟨expr, aliasName⟩ => Expr.supplied expr ++ Token.ofName? aliasName

/-- The tokens that the columns of a list supply. -/
def Column.suppliedEach : List Column → List Token
  | [] => []
  | c :: rest => Column.supplied c ++ Column.suppliedEach rest

/-- The tokens that an expression supplies. -/
def Expr.supplied : Expr → List Token
  | .named table name => Token.ofName? table ++ [.name name]
  | .call function args => .function function :: Column.suppliedEach args
  | .distinct columns => Column.suppliedEach columns
  | .raw sql params => [.raw sql params]
  | .param v => [.bind v]
  | .arithmetic left _ right => Column.supplied left ++ Column.supplied right
  | .subquery q => Query.supplied q

/-- The tokens that a table supplies. -/
def Table.supplied : Table → List Token
  | ⟨source, aliasName⟩ => Source.supplied source ++ Token.ofName? aliasName

/-- The tokens that the tables of a list supply. -/
def Table.suppliedEach : List Table → List Token
  | [] => []
  | t :: rest => Table.supplied t ++ Table.suppliedEach rest

/-- The tokens that the source of a table supplies.  The name of a table is also a name
by which columns refer to it. -/
def Source.supplied : Source → List Token
  | .named schema name => [.table schema name, .name name]
  | .derived q => Query.supplied q

/-- The tokens that the joins of a list supply, whether they are included or not. -/
def Join.suppliedEach : List Join → List Token
  | [] => []
  | ⟨_, table, on, _⟩ :: rest =>
    Table.supplied table ++ (match on with | some c => Condition.supplied c | none => [])
      ++ Join.suppliedEach rest

/-- The tokens that a condition supplies. -/
def Condition.supplied : Condition → List Token
  | .empty => []
  | .predicate column _ operand => Column.supplied column ++ Operand.supplied operand
  | .raw sql params => [.raw sql params]
  | .existence _ q => Query.supplied q
  | .not c => Condition.supplied c
  | .group c => Condition.supplied c
  | .connect left _ right => Condition.supplied left ++ Condition.supplied right

/-- The tokens that the right side of a predicate supplies. -/
def Operand.supplied : Operand → List Token
  | .absent => []
  | .value v => [.bind v]
  | .list vs => vs.map Token.bind
  | .range first last => [.bind first, .bind last]
  | .column c => Column.supplied c
  | .query q => Query.supplied q

/-- The tokens that an ordering supplies. -/
def OrderItem.suppliedEach : List OrderItem → List Token
  | [] => []
  | .column c _ _ :: rest => Column.supplied c ++ OrderItem.suppliedEach rest
  | .raw text :: rest => .order text :: OrderItem.suppliedEach rest

end

/-- The tokens that the value of a column supplies. -/
def Assigned.supplied : Assigned → List Token
  | .value v => [.bind v]
  | .raw sql params => [.raw sql params]
  | .query q => q.supplied

/-- The tokens that a row supplies. -/
def UpdateRow.supplied (row : UpdateRow) : List Token :=
  row.entries.flatMap fun entry => .name entry.1 :: entry.2.supplied

/-- A property of the tokens that the clauses of a query supply. -/
structure Query.Supplies (P : Token → Prop) (q : Query) : Prop where
  ctes : ∀ t ∈ Cte.suppliedEach q.ctes, P t
  hint : ∀ t ∈ q.hint.toList.map Token.ofFragment, P t
  columns : ∀ t ∈ Column.suppliedEach q.columns, P t
  sources : ∀ t ∈ Table.suppliedEach q.sources, P t
  joins : ∀ t ∈ Join.suppliedEach q.joins, P t
  filter : ∀ t ∈ q.filter.supplied, P t
  groups : ∀ t ∈ Column.suppliedEach q.groups, P t
  having : ∀ t ∈ q.having.supplied, P t
  order : ∀ t ∈ OrderItem.suppliedEach q.order, P t
  partners : ∀ t ∈ Partner.suppliedEach q.partners, P t
  endings : ∀ t ∈ q.endings.map Token.ofFragment, P t

theorem Query.supplies_iff {P : Token → Prop} {q : Query} :
  q.Supplies P ↔ ∀ t ∈ q.supplied, P t
  := by
  obtain ⟨recursive, ctes, hint, columns, sources, joins, filter, groups, having, order, rows,
    offset, partners, endings⟩ := q
  simp only [supplied, List.forall_mem_append]
  constructor
  · intro h
    exact ⟨⟨⟨⟨⟨⟨⟨⟨⟨⟨h.ctes, h.hint⟩, h.columns⟩, h.sources⟩, h.joins⟩, h.filter⟩, h.groups⟩,
      h.having⟩, h.order⟩, h.partners⟩, h.endings⟩
  · rintro ⟨⟨⟨⟨⟨⟨⟨⟨⟨⟨hctes, hhint⟩, hcolumns⟩, hsources⟩, hjoins⟩, hfilter⟩, hgroups⟩, hhaving⟩,
      horder⟩, hpartners⟩, hendings⟩
    constructor <;> assumption

/-! ### Names in a scope -/

/-- The names by which a table may be referred to. -/
def Visible.names (t : Visible) : List String :=
  t.name.toList ++ t.aliasName.toList

/-- The names by which the tables of a scope may be referred to. -/
def Scope.names (scope : Option Scope) : List String :=
  (scope.getD []).flatMap Visible.names

/-- The name before the name of a column is the reference or a name of the scope. -/
theorem Scope.qualifier?_mem {scope : Option Scope} {reference name : String}
    (h : Scope.qualifier? scope reference = some name) :
  name = reference ∨ name ∈ Scope.names scope
  := by
  unfold qualifier? at h
  split at h
  · left
    apply (Option.some.inj h).symm
  · next tables =>
    split at h
    · left
      apply (Option.some.inj h).symm
    · next t ht =>
      split at h
      · cases h
      · obtain ⟨tableName, aliasName⟩ := t
        have hmem := List.mem_of_find?_eq_some ht
        have hnames : ∀ n ∈ Visible.names ⟨tableName, aliasName⟩, n ∈ Scope.names (some tables) :=
          fun n hn => List.mem_flatMap.mpr ⟨_, hmem, hn⟩
        obtain rfl := Option.some.inj h
        cases aliasName with
        | some a =>
          right
          apply hnames
          simp [Visible.names]
        | none =>
          cases tableName with
          | some n =>
            right
            apply hnames
            simp [Visible.names]
          | none => left; rfl

/-- The names of a table in a scope are supplied by it. -/
theorem Table.name_mem_supplied {t : Table} {n : String} (h : n ∈ t.visible.names) :
  .name n ∈ t.supplied
  := by
  obtain ⟨source, aliasName⟩ := t
  cases source with
  | named schema name =>
    simpa [Visible.names, visible, name?, supplied, Source.supplied, Token.ofName?, eq_comm] using h
  | derived q =>
    simp only [Visible.names, visible, name?, Option.toList_none, List.nil_append,
      Option.mem_toList] at h
    simp [supplied, Token.ofName?, h]

theorem Table.mem_suppliedEach {tables : List Table} {t : Table} (h : t ∈ tables) :
  t.supplied ⊆ Table.suppliedEach tables
  := by
  induction tables with
  | nil => cases h
  | cons u tables ih =>
    rw [suppliedEach]
    obtain rfl | h := List.mem_cons.mp h
    · apply List.subset_append_left
    · apply List.subset_append_of_subset_right _ (ih h)

theorem Join.mem_suppliedEach {joins : List Join} {j : Join} (h : j ∈ joins) :
  j.table.supplied ⊆ Join.suppliedEach joins
  := by
  induction joins with
  | nil => cases h
  | cons k joins ih =>
    obtain ⟨kind, table, on, included⟩ := k
    rw [suppliedEach.eq_def]
    simp only [List.append_assoc]
    obtain rfl | h := List.mem_cons.mp h
    · apply List.subset_append_left
    · apply List.subset_append_of_subset_right
      apply List.subset_append_of_subset_right _ (ih h)

/-- The names in the scope of a query are supplied by its tables. -/
theorem Scope.name_mem_supplied {sources : List Table} {joins : List Join} {n : String}
    (h : n ∈ Scope.names (some (Scope.of sources joins))) :
  .name n ∈ Table.suppliedEach sources ++ Join.suppliedEach joins
  := by
  simp only [names, Scope.of, Option.getD_some, List.map_append, List.flatMap_append,
    List.mem_append, List.mem_flatMap, List.mem_map, List.mem_filter] at h
  obtain ⟨_, ⟨t, ht, rfl⟩, hn⟩ | ⟨_, ⟨_, ⟨j, ⟨hj, -⟩, rfl⟩, rfl⟩, hn⟩ := h
  · apply List.mem_append_left
    apply Table.mem_suppliedEach ht (Table.name_mem_supplied hn)
  · apply List.mem_append_right
    apply Join.mem_suppliedEach hj (Table.name_mem_supplied hn)

/-- The name of a column is supplied by it. -/
theorem Column.name?_mem {c : Column} {n : String} (h : c.name? = some n) :
  .name n ∈ c.supplied
  := by
  obtain ⟨expr, aliasName⟩ := c
  cases expr <;> simp [name?] at h
  simp [supplied, Expr.supplied, h]

/-- The names of the columns around a select are supplied by the columns. -/
theorem Column.aliasOrName?_mem {columns : List Column} {c : Column} (hc : c ∈ columns)
    {n : String} (hn : c.aliasOrName? = some n) :
  .name n ∈ Column.suppliedEach columns
  := by
  induction columns with
  | nil => cases hc
  | cons d columns ih =>
    rw [suppliedEach]
    obtain rfl | hc := List.mem_cons.mp hc
    · apply List.mem_append_left
      obtain ⟨expr, aliasName⟩ := c
      cases aliasName with
      | some a =>
        obtain rfl : a = n := Option.some.inj hn
        simp [supplied, Token.ofName?]
      | none => exact name?_mem hn
    · apply List.mem_append_right _ (ih hc)

end SqlRender
