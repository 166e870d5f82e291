import SqlRender.Query.Guards
import SqlRender.Dialect
import SqlRender.Proofs.HoldsByPart
import SqlRender.Proofs.WrittenQueries

/-!
# Examined queries

`Query.validate` runs the guards of a query, and a statement runs the guards of its tokens.
The two are collected by different recursions: a token may be a name of the scope in place of
the name that the caller gave, and a query has guards for joins that are not included.  A
query that passes its own guards is written as a statement unless one of the queries in the
statement has a table twice: `Query.select_of_validate`.
-/

namespace SqlRender

/-! ### Tokens that pass their guards -/

/-- A token whose guards all pass. -/
def Token.Passes (t : Token) : Prop :=
  ∀ g ∈ t.guards, g.verify = .ok ()

theorem Token.passes_name {n : String} :
  (name n).Passes ↔ (Guard.identifier n).verify = .ok ()
  := by simp [Passes, guards]

/-- The name of a table is a name. -/
theorem Guard.verify_identifier_of_tableName {n : String} (h : (tableName n).verify = .ok ()) :
  (identifier n).verify = .ok ()
  := by
  simp only [verify, checkTableName] at h
  split at h
  · cases h
  · exact h

theorem Token.passes_table {schema : Option String} {n : String}
    (hschema : ∀ g ∈ Guard.ofName? schema, g.verify = .ok ())
    (hn : (Guard.tableName n).verify = .ok ()) :
  (table schema n).Passes
  := by
  rw [Passes, guards, List.forall_mem_cons, List.map_append, List.forall_mem_append]
  refine ⟨hn, hschema, ?_⟩
  rw [List.map_singleton, List.forall_mem_singleton]
  apply Guard.verify_identifier_of_tableName hn

theorem Token.passes_ofName? {name : Option String}
    (h : ∀ g ∈ Guard.ofName? name, g.verify = .ok ()) :
  ∀ t ∈ Token.ofName? name, t.Passes
  := by
  cases name with
  | none => simp [ofName?]
  | some n => simpa [ofName?, passes_name, Guard.ofName?] using h

@[simp]
theorem Token.passes_text (s : String) :
  (text s).Passes
  := by simp [Passes, guards]

@[simp]
theorem Token.passes_bind (v : Value) :
  (bind v).Passes
  := by simp [Passes, guards]

@[simp]
theorem Token.passes_raw (sql : String) (params : List Value) :
  (raw sql params).Passes
  := by simp [Passes, guards]

theorem Token.passes_ofFragments (fragments : List String) :
  ∀ t ∈ fragments.map Token.ofFragment, t.Passes
  := by simp [ofFragment]

mutual

/-- If the guards of a query pass, then so do those of the tokens that it supplies. -/
theorem Query.passes_supplied :
    ∀ q : Query, (∀ g ∈ q.guards, g.verify = .ok ()) →
  ∀ t ∈ q.supplied, t.Passes
  | ⟨_, ctes, hint, columns, sources, joins, filter, groups, having, order, _, _, partners,
      endings⟩, h => by
    simp only [Query.guards, List.forall_mem_append] at h
    obtain ⟨⟨⟨⟨⟨⟨⟨⟨hctes, hcolumns⟩, hgroups⟩, hsources⟩, hjoins⟩, hfilter⟩, hhaving⟩, horder⟩,
      hpartners⟩ := h
    apply (Query.supplies_iff (P := Token.Passes)).mp
    constructor
    · apply Cte.passes_suppliedEach ctes hctes
    · apply Token.passes_ofFragments
    · apply Column.passes_suppliedEach columns hcolumns
    · apply Table.passes_suppliedEach sources hsources
    · apply Join.passes_suppliedEach joins hjoins
    · apply Condition.passes_supplied filter hfilter
    · apply Column.passes_suppliedEach groups hgroups
    · apply Condition.passes_supplied having hhaving
    · apply OrderItem.passes_suppliedEach order horder
    · apply Partner.passes_suppliedEach partners hpartners
    · apply Token.passes_ofFragments

theorem Cte.passes_suppliedEach :
    ∀ ctes : List Cte, (∀ g ∈ Cte.guardsEach ctes, g.verify = .ok ()) →
  ∀ t ∈ Cte.suppliedEach ctes, t.Passes
  | [], _ => by simp [Cte.suppliedEach]
  | ⟨name, columns, q⟩ :: rest, h => by
    simp only [Cte.guardsEach, List.cons_append, List.forall_mem_cons, List.forall_mem_append] at h
    obtain ⟨hname, ⟨hcolumns, hq⟩, hrest⟩ := h
    simp only [Cte.suppliedEach, List.cons_append, List.forall_mem_cons, List.forall_mem_append]
    refine ⟨Token.passes_name.mpr hname, ⟨?_, Query.passes_supplied q hq⟩,
      Cte.passes_suppliedEach rest hrest⟩
    simpa [Token.passes_name] using hcolumns

theorem Partner.passes_suppliedEach :
    ∀ partners : List Partner, (∀ g ∈ Partner.guardsEach partners, g.verify = .ok ()) →
  ∀ t ∈ Partner.suppliedEach partners, t.Passes
  | [], _ => by simp [Partner.suppliedEach]
  | ⟨_, q⟩ :: rest, h => by
    rw [Partner.guardsEach, List.forall_mem_append] at h
    rw [Partner.suppliedEach, List.forall_mem_append]
    exact ⟨Query.passes_supplied q h.1, Partner.passes_suppliedEach rest h.2⟩

theorem Column.passes_supplied :
    ∀ c : Column, (∀ g ∈ c.guards, g.verify = .ok ()) →
  ∀ t ∈ c.supplied, t.Passes
  | ⟨expr, _⟩, h => by
    rw [Column.guards, List.forall_mem_append] at h
    rw [Column.supplied, List.forall_mem_append]
    exact ⟨Expr.passes_supplied expr h.2, Token.passes_ofName? h.1⟩

theorem Column.passes_suppliedEach :
    ∀ columns : List Column, (∀ g ∈ Column.guardsEach columns, g.verify = .ok ()) →
  ∀ t ∈ Column.suppliedEach columns, t.Passes
  | [], _ => by simp [Column.suppliedEach]
  | c :: rest, h => by
    rw [Column.guardsEach, List.forall_mem_append] at h
    rw [Column.suppliedEach, List.forall_mem_append]
    exact ⟨Column.passes_supplied c h.1, Column.passes_suppliedEach rest h.2⟩

theorem Expr.passes_supplied :
    ∀ e : Expr, (∀ g ∈ e.guards, g.verify = .ok ()) →
  ∀ t ∈ e.supplied, t.Passes
  | .named table name, h => by
    rw [Expr.guards, List.forall_mem_append, List.forall_mem_singleton] at h
    rw [Expr.supplied, List.forall_mem_append, List.forall_mem_singleton]
    exact ⟨Token.passes_ofName? h.1, Token.passes_name.mpr h.2⟩
  | .call function args, h => by
    rw [Expr.guards, List.forall_mem_cons] at h
    rw [Expr.supplied, List.forall_mem_cons]
    exact ⟨Token.passes_name.mpr h.1, Column.passes_suppliedEach args h.2⟩
  | .distinct columns, h => Column.passes_suppliedEach columns h
  | .raw sql params, _ => List.forall_mem_singleton.mpr (Token.passes_raw sql params)
  | .param v, _ => List.forall_mem_singleton.mpr (Token.passes_bind v)
  | .arithmetic left _ right, h => by
    rw [Expr.guards, List.forall_mem_append] at h
    rw [Expr.supplied, List.forall_mem_append]
    exact ⟨Column.passes_supplied left h.1, Column.passes_supplied right h.2⟩
  | .subquery q, h => Query.passes_supplied q h

theorem Table.passes_supplied :
    ∀ t : Table, (∀ g ∈ t.guards, g.verify = .ok ()) →
  ∀ u ∈ t.supplied, u.Passes
  | ⟨source, _⟩, h => by
    rw [Table.guards, List.forall_mem_append] at h
    rw [Table.supplied, List.forall_mem_append]
    exact ⟨Source.passes_supplied source h.1, Token.passes_ofName? h.2⟩

theorem Table.passes_suppliedEach :
    ∀ tables : List Table, (∀ g ∈ Table.guardsEach tables, g.verify = .ok ()) →
  ∀ t ∈ Table.suppliedEach tables, t.Passes
  | [], _ => by simp [Table.suppliedEach]
  | t :: rest, h => by
    rw [Table.guardsEach, List.forall_mem_append] at h
    rw [Table.suppliedEach, List.forall_mem_append]
    exact ⟨Table.passes_supplied t h.1, Table.passes_suppliedEach rest h.2⟩

theorem Source.passes_supplied :
    ∀ source : Source, (∀ g ∈ source.guards, g.verify = .ok ()) →
  ∀ t ∈ source.supplied, t.Passes
  | .named schema name, h => by
    rw [Source.guards, List.forall_mem_cons] at h
    rw [Source.supplied, List.forall_mem_cons, List.forall_mem_singleton]
    exact ⟨Token.passes_table h.2 h.1,
      Token.passes_name.mpr (Guard.verify_identifier_of_tableName h.1)⟩
  | .derived q, h => Query.passes_supplied q h

theorem Join.passes_suppliedEach :
    ∀ joins : List Join, (∀ g ∈ Join.guardsEach joins, g.verify = .ok ()) →
  ∀ t ∈ Join.suppliedEach joins, t.Passes
  | [], _ => by simp [Join.suppliedEach]
  | ⟨_, table, none, _⟩ :: rest, h => by
    simp only [Join.guardsEach, List.append_nil, List.forall_mem_append] at h
    simp only [Join.suppliedEach, List.append_nil, List.forall_mem_append]
    exact ⟨Table.passes_supplied table h.1, Join.passes_suppliedEach rest h.2⟩
  | ⟨_, table, some c, _⟩ :: rest, h => by
    simp only [Join.guardsEach, List.forall_mem_append] at h
    simp only [Join.suppliedEach, List.forall_mem_append]
    exact ⟨⟨Table.passes_supplied table h.1.1, Condition.passes_supplied c h.1.2⟩,
      Join.passes_suppliedEach rest h.2⟩

theorem Condition.passes_supplied :
    ∀ c : Condition, (∀ g ∈ c.guards, g.verify = .ok ()) →
  ∀ t ∈ c.supplied, t.Passes
  | .empty, _ => by simp [Condition.supplied]
  | .predicate column _ operand, h => by
    rw [Condition.guards, List.forall_mem_append] at h
    rw [Condition.supplied, List.forall_mem_append]
    exact ⟨Column.passes_supplied column h.1, Operand.passes_supplied operand h.2⟩
  | .raw sql params, _ => List.forall_mem_singleton.mpr (Token.passes_raw sql params)
  | .existence _ q, h => Query.passes_supplied q h
  | .not c, h => Condition.passes_supplied c h
  | .group c, h => Condition.passes_supplied c h
  | .connect left _ right, h => by
    rw [Condition.guards, List.forall_mem_append] at h
    rw [Condition.supplied, List.forall_mem_append]
    exact ⟨Condition.passes_supplied left h.1, Condition.passes_supplied right h.2⟩

theorem Operand.passes_supplied :
    ∀ operand : Operand, (∀ g ∈ operand.guards, g.verify = .ok ()) →
  ∀ t ∈ operand.supplied, t.Passes
  | .absent, _ => by simp [Operand.supplied]
  | .value v, _ => List.forall_mem_singleton.mpr (Token.passes_bind v)
  | .list vs, _ => by simp [Operand.supplied]
  | .range first last, _ => by simp [Operand.supplied]
  | .column c, h => Column.passes_supplied c h
  | .query q, h => Query.passes_supplied q h

theorem OrderItem.passes_suppliedEach :
    ∀ order : List OrderItem, (∀ g ∈ OrderItem.guardsEach order, g.verify = .ok ()) →
  ∀ t ∈ OrderItem.suppliedEach order, t.Passes
  | [], _ => by simp [OrderItem.suppliedEach]
  | .column c _ _ :: rest, h => by
    rw [OrderItem.guardsEach, List.forall_mem_append] at h
    rw [OrderItem.suppliedEach, List.forall_mem_append]
    exact ⟨Column.passes_supplied c h.1, OrderItem.passes_suppliedEach rest h.2⟩
  | .raw text :: rest, h => by
    rw [OrderItem.guardsEach, List.forall_mem_cons] at h
    rw [OrderItem.suppliedEach, List.forall_mem_cons]
    exact ⟨List.forall_mem_singleton.mpr h.1, OrderItem.passes_suppliedEach rest h.2⟩

end

/-! ### Statements of examined queries -/

/-- A property of every single token is established part by part. -/
theorem holdsByPart_passes_or_refuse (style : SelectStyle) :
  HoldsByPart style fun ts => ∀ t ∈ ts, t.Passes ∨ ∃ e, t = .refuse e
  where
    nil := by simp
    append := fun hts hus => List.forall_mem_append.mpr ⟨hts, hus⟩
    word := by simp
    separator := by simp
    operation := by simp
    names := by simp
    refusal := by simp

/-- The tokens of an examined query pass their guards, errors in place of tokens apart. -/
theorem Query.passes_or_refuse {q : Query} (h : q.validate = .ok ()) (style : SelectStyle) :
  ∀ t ∈ q.tokens style none, t.Passes ∨ ∃ e, t = .refuse e
  := by
  have hsupplied := q.passes_supplied ((Guard.verifyAll_eq_ok_iff _).mp h)
  apply Query.holds_tokens (holdsByPart_passes_or_refuse style)
  · simp [Scope.names]
  · exact fun t ht => List.forall_mem_singleton.mpr (.inl (hsupplied t ht))

/-- The first failure is the failure of a guard. -/
theorem Guard.exists_of_verifyAll_eq_error {gs : List Guard} {e : QueryError}
    (h : verifyAll gs = .error e) :
  ∃ g ∈ gs, g.verify = .error e
  := by
  induction gs with
  | nil => simp [verifyAll] at h
  | cons g gs ih =>
    rw [verifyAll] at h
    split at h
    · obtain ⟨g', hmem, hg'⟩ := ih h
      exact ⟨g', List.mem_cons_of_mem g hmem, hg'⟩
    · next e' hg =>
      obtain rfl := Except.error.inj h
      exact ⟨g, List.mem_cons_self, hg⟩

theorem Statement.ofTokens_eq_error_iff {quoting : Quoting} {ts : List Token} {e : QueryError} :
  Statement.ofTokens quoting ts = .error e ↔ Guard.verifyAll (ts.flatMap Token.guards) = .error e
  := by
  unfold Statement.ofTokens
  cases Guard.verifyAll (ts.flatMap Token.guards) <;> simp

/-- There is no statement of tokens with an error among them. -/
theorem Token.exists_error_of_mem_refusals {quoting : Quoting} {ts : List Token} {e : QueryError}
    (he : e ∈ ts.flatMap Token.refusals) :
  ∃ e, Statement.ofTokens quoting ts = .error e
  := by
  obtain ⟨t, ht, het⟩ := List.mem_flatMap.mp he
  cases t <;> simp only [refusals, List.not_mem_nil, List.mem_singleton] at het
  subst het
  -- the error is a guard that does not pass
  cases hall : Guard.verifyAll (ts.flatMap Token.guards) with
  | error e' => exact ⟨e', Statement.ofTokens_eq_error_iff.mpr hall⟩
  | ok _ =>
    have hmem : Guard.refuse e ∈ ts.flatMap Token.guards :=
      List.mem_flatMap.mpr ⟨_, ht, List.mem_singleton_self _⟩
    cases (Guard.verifyAll_eq_ok_iff _).mp hall _ hmem

section

variable {quoting : Quoting} {ts : List Token} (h : ∀ t ∈ ts, t.Passes ∨ ∃ e, t = .refuse e)

include h

/-- Tokens that pass their guards are refused with one of the errors among them. -/
theorem Token.mem_refusals_of_ofTokens {e : QueryError}
    (he : Statement.ofTokens quoting ts = .error e) :
  e ∈ ts.flatMap Token.refusals
  := by
  obtain ⟨g, hg, hverify⟩ :=
    Guard.exists_of_verifyAll_eq_error (Statement.ofTokens_eq_error_iff.mp he)
  obtain ⟨t, ht, hgt⟩ := List.mem_flatMap.mp hg
  obtain hpasses | ⟨e', rfl⟩ := h t ht
  · rw [hpasses g hgt] at hverify
    cases hverify
  · obtain rfl := List.mem_singleton.mp hgt
    obtain rfl : e' = e := Except.error.inj hverify
    exact List.mem_flatMap.mpr ⟨_, ht, List.mem_singleton_self e'⟩

/-- Tokens that pass their guards make a statement unless there is an error among them. -/
theorem Token.ofTokens_eq_error_iff_refusals :
  (∃ e, Statement.ofTokens quoting ts = .error e) ↔ ∃ e, e ∈ ts.flatMap Token.refusals
  := by
  constructor
  · rintro ⟨e, he⟩
    exact ⟨e, Token.mem_refusals_of_ofTokens h he⟩
  · rintro ⟨e, he⟩
    exact Token.exists_error_of_mem_refusals he

end

/-! ### Tables that cannot be told apart -/

/-- A table is among the tables of a query twice: by the same name, in the same schema and
with the same alias. -/
def Query.ReadsTwice (q : Query) (schema : Option String) (name : String)
    (aliasName : Option String) : Prop :=
  [Table.mk (.named schema name) aliasName, ⟨.named schema name, aliasName⟩].Sublist q.tables

/-- Tables that cannot be told apart are one table. -/
theorem Table.clashes_iff {t u : Table} :
  t.clashes u = true ↔ ∃ schema name aliasName, t = ⟨.named schema name, aliasName⟩ ∧ u = t
  := by
  constructor
  · intro h
    obtain ⟨source, aliasName⟩ := t
    obtain ⟨source', aliasName'⟩ := u
    cases source <;> cases source' <;> simp [clashes, isSameAs] at h
    obtain ⟨⟨rfl, rfl⟩, rfl⟩ := h
    exact ⟨_, _, _, rfl, rfl⟩
  · rintro ⟨schema, name, aliasName, rfl, rfl⟩
    simp [clashes, isSameAs]

theorem Table.firstClash?_eq_none_iff {tables : List Table} :
  firstClash? tables = none ↔ tables.Pairwise fun t u => t.clashes u = false
  := by
  induction tables with
  | nil => simp [firstClash?]
  | cons t tables ih =>
    rw [firstClash?, List.pairwise_cons]
    split
    · next h =>
      obtain ⟨u, hu, hclash⟩ := List.any_eq_true.mp h
      constructor
      · intro hsome
        cases hsome
      · rintro ⟨hapart, -⟩
        rw [hapart u hu] at hclash
        cases hclash
    · next h =>
      have hapart : ∀ u ∈ tables, t.clashes u = false := by simpa using h
      rw [ih, and_iff_right hapart]

/-- The table that is reported stands before one that cannot be told apart from it. -/
theorem Table.sublist_of_firstClash? {tables : List Table} {t : Table}
    (h : firstClash? tables = some t) :
  ∃ u, [t, u].Sublist tables ∧ t.clashes u = true
  := by
  induction tables with
  | nil => cases h
  | cons t' tables ih =>
    rw [firstClash?] at h
    split at h
    · next hany =>
      obtain rfl := Option.some.inj h
      obtain ⟨u, hu, hclash⟩ := List.any_eq_true.mp hany
      exact ⟨u, (List.singleton_sublist.mpr hu).cons_cons t', hclash⟩
    · obtain ⟨u, hu, hclash⟩ := ih h
      exact ⟨u, hu.cons t', hclash⟩

/-- The tables of a query cannot be told apart if and only if one is read twice. -/
theorem Query.clash?_isSome_iff (q : Query) :
  (∃ e, q.clash? = some e) ↔ ∃ schema name aliasName, q.ReadsTwice schema name aliasName
  := by
  unfold clash? ReadsTwice
  constructor
  · rintro ⟨e, he⟩
    obtain ⟨t, ht, -⟩ := Option.map_eq_some_iff.mp he
    obtain ⟨u, hsub, hclash⟩ := Table.sublist_of_firstClash? ht
    obtain ⟨schema, name, aliasName, rfl, rfl⟩ := Table.clashes_iff.mp hclash
    exact ⟨schema, name, aliasName, hsub⟩
  · rintro ⟨schema, name, aliasName, hsub⟩
    cases hfirst : Table.firstClash? q.tables with
    | some t => exact ⟨_, rfl⟩
    | none =>
      have hapart := List.pairwise_iff_forall_sublist.mp
        (Table.firstClash?_eq_none_iff.mp hfirst) hsub
      have hclash := Table.clashes_iff.mpr ⟨schema, name, aliasName, rfl, rfl⟩
      rw [hclash] at hapart
      cases hapart

theorem Query.mem_clashes {qs : List Query} {e : QueryError} :
  e ∈ clashes qs ↔ ∃ p ∈ qs, p.clash? = some e
  := List.mem_filterMap

/-- The error of tables that cannot be told apart names a table. -/
theorem Query.clash?_eq_some {q : Query} {e : QueryError} (h : q.clash? = some e) :
  ∃ name, e = .duplicateTable name
  := by
  obtain ⟨t, -, rfl⟩ := Option.map_eq_some_iff.mp h
  exact ⟨_, rfl⟩

/-- A query that passes its guards is written as a statement or refused for a table that is
read twice; it is refused if and only if such a table is in one of the queries of the
statement. -/
theorem Query.select_of_validate {q : Query} (h : q.validate = .ok ()) (d : Dialect) :
  ((∃ s, d.select q = .ok s) ∨ ∃ name, d.select q = .error (.duplicateTable name))
    ∧ ((∃ e, d.select q = .error e)
      ↔ ∃ p ∈ q.written, ∃ schema name aliasName, p.ReadsTwice schema name aliasName)
  := by
  have hpasses := q.passes_or_refuse h d.style
  have hrefusals := fun e => q.mem_refusals_parts e d.style none
  constructor
  · cases hselect : d.select q with
    | ok s => exact .inl ⟨s, rfl⟩
    | error e =>
      have hmem := (hrefusals e).mp (Token.mem_refusals_of_ofTokens hpasses hselect)
      obtain ⟨p, -, hp⟩ := Query.mem_clashes.mp hmem
      obtain ⟨name, rfl⟩ := Query.clash?_eq_some hp
      exact .inr ⟨name, rfl⟩
  · calc (∃ e, d.select q = .error e)
        ↔ ∃ e, e ∈ (q.tokens d.style none).flatMap Token.refusals :=
          Token.ofTokens_eq_error_iff_refusals hpasses
      _ ↔ ∃ e, ∃ p ∈ q.written, p.clash? = some e := by
          apply exists_congr
          intro e
          rw [← Query.mem_clashes]
          exact hrefusals e
      _ ↔ ∃ p ∈ q.written, ∃ e, p.clash? = some e := by
          constructor
          · rintro ⟨e, p, hp, he⟩
            exact ⟨p, hp, e, he⟩
          · rintro ⟨p, hp, e, he⟩
            exact ⟨e, p, hp, he⟩
      _ ↔ _ := by simp only [Query.clash?_isSome_iff]

/-- Articles of two tables, one of them with an alias. -/
def articlesAnd (aliasName : Option String) : Query :=
  { Query.empty with
    columns := [⟨.named none "id", none⟩]
    sources := [⟨.named none "tb_article", none⟩, ⟨.named none "tb_article", aliasName⟩] }

/-- Accounts if there are such articles, with a join of the accounts that is not included. -/
def accountsIfArticlesAnd (aliasName : Option String) : Query :=
  { Query.empty with
    columns := [⟨.named none "id", none⟩]
    sources := [⟨.named none "tb_account", none⟩]
    joins := [⟨.left, ⟨.named none "tb_account", none⟩, none, false⟩]
    filter := .existence false (articlesAnd aliasName) }

/-- The accounts are refused for articles that are read twice, and not for the join that is not
included. -/
theorem select_of_validate_accountsIfArticlesAnd :
  ((accountsIfArticlesAnd none).validate = .ok ()
      ∧ ∃ name, (Dialect.builtIn .mysql).select (accountsIfArticlesAnd none)
        = .error (.duplicateTable name))
    ∧ (accountsIfArticlesAnd (some "other")).validate = .ok ()
      ∧ ∃ s, (Dialect.builtIn .mysql).select (accountsIfArticlesAnd (some "other")) = .ok s
  := by
  have htwice : (accountsIfArticlesAnd none).validate = .ok () := rfl
  have hother : (accountsIfArticlesAnd (some "other")).validate = .ok () := rfl
  have hwritten : articlesAnd none ∈ (accountsIfArticlesAnd none).written := by
    simp [accountsIfArticlesAnd, Query.written, Condition.written, articlesAnd, Query.empty]
  obtain ⟨hstatement | hname, hiff⟩ := Query.select_of_validate htwice (.builtIn .mysql)
  · obtain ⟨s, hs⟩ := hstatement
    obtain ⟨e, he⟩ := hiff.mpr ⟨_, hwritten, none, "tb_article", none, List.Sublist.refl _⟩
    rw [hs] at he
    cases he
  · exact ⟨⟨htwice, hname⟩, hother, _, rfl⟩

end SqlRender
