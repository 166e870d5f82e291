import SqlRender.Proofs.AddressedRows
import SqlRender.Proofs.Changes
import SqlRender.Proofs.Rescoping

/-!
# Tables that changes leave out

A change is written for all tables and joins of its query, and lists only those that its layout
has room for: an UPDATE has it for one table and all joins, and an ALTER TABLE for the name of
one table.  No layout has room for common table expressions.  Nothing is refused for being left
out.

`Request.listed_of_statement` says what follows for a statement that is returned: exactly when it
is all of the change that the query asks for; which qualifiers stand in it, for tables that it
need not show; and which rows it addresses.  A row for which the tables and joins that are left
out have no match is not selected by the query, and is changed nevertheless.
-/

namespace SqlRender

namespace Query

/-- The tables of a query that a change leaves out. -/
def omittedTables (row : Option UpdateRow) (q : Query) : MutationLayout → List Table
  | .standard => if row.isSome then q.sources.tail else []
  | .alterTable => q.sources.tail

/-- The included joins of a query that a change leaves out. -/
def omittedJoins (q : Query) : MutationLayout → List Join
  | .standard => []
  | .alterTable => q.includedJoins

/-- The tokens of the statement for the change that a query asks for. -/
def listedTokens (d : Dialect) (row : Option UpdateRow) (q : Query) : List Token :=
  (q.listed row d.mutations).tokens d.style (some q.scope) d.mutations

/-- The tokens of a statement that leaves nothing out: with the common table expressions in front
of all tables and all included joins. -/
def completeTokens (d : Dialect) (row : Option UpdateRow) (q : Query) : List Token :=
  (q.parts d.style none).preamble " "
    ++ (q.change row).tokens d.style (some q.scope) d.mutations

end Query

namespace Change

/-- The tables that a change lists, under the names that it shows: an ALTER TABLE writes no
aliases. -/
def shownTables (c : Change) : MutationLayout → List Table
  | .standard => c.tables
  | .alterTable => c.tables.map fun t => { t with aliasName := none }

/-- What the tables of a change may be referred to by. -/
def shown (c : Change) (layout : MutationLayout) : Scope :=
  (c.shownTables layout ++ c.joins.map Join.table).map Table.visible

end Change

/-- The columns of what a column is set to. -/
def Assigned.places (scopes : List Scope) : Assigned → List ColumnPlace
  | .query q => q.places scopes
  | .value _ | .raw .. => []

/-- The columns of a change that is written for a scope, other than those that are set. -/
def Change.places (scope : Scope) (c : Change) : List ColumnPlace :=
  Table.placesEach [scope] c.tables ++ Join.placesEach [scope] c.joins
    ++ c.row.elim [] (fun row => row.entries.flatMap fun e => e.2.places [scope])
    ++ c.filter.places [scope]

/-! ### What is left out -/

section

variable (style : SelectStyle) (scope : Option Scope) (quoting : Quoting)

/-- Parts that are separated are longer than the first of them, if there are others. -/
theorem Token.length_written_separated (parts : List (List Token)) :
  (written quoting (separated ", " (parts.take 1))).length + parts.tail.length
    ≤ (written quoting (separated ", " parts)).length
  := by
  cases parts with
  | nil => exact Nat.le_refl _
  | cons part rest =>
    rw [List.take_succ_cons, List.take_zero, List.tail_cons]
    induction rest generalizing part with
    | nil => exact Nat.le_refl _
    | cons next rest ih =>
      have hrest := ih next
      have hcomma : (", " : String).length = 2 := rfl
      rw [separated, separated, written_append, written_cons, String.length_append,
        String.length_append, Token.toText, hcomma, List.length_cons]
      · omega
      · exact List.cons_ne_nil next rest

/-- Every included join is written. -/
theorem Join.length_written_includedTokens (joins : List Join) :
  (joins.filter Join.included).length
    ≤ (Token.written quoting (Join.includedTokens style scope joins)).length
  := by
  induction joins with
  | nil => exact Nat.zero_le _
  | cons j joins ih =>
    have hspace : (" " : String).length = 1 := rfl
    rw [List.filter_cons, includedTokens, Token.written_append, String.length_append]
    split
    · rw [Token.written_cons, String.length_append, Token.toText, hspace, List.length_cons]
      omega
    · omega

end

namespace Query

variable {row : Option UpdateRow} {q : Query}

/-- What is listed of the tables and the joins comes before what is left out. -/
theorem listed_append_omitted (row : Option UpdateRow) (q : Query) (layout : MutationLayout) :
  (q.listed row layout).tables ++ q.omittedTables row layout = q.sources
    ∧ (q.listed row layout).joins ++ q.omittedJoins layout = q.includedJoins
  := by
  have hfirst : q.sources.take 1 ++ q.sources.tail = q.sources := by
    cases q.sources <;> rfl
  cases layout with
  | standard => cases row <;> simp [listed, change, omittedTables, omittedJoins, hfirst]
  | alterTable => simp [listed, change, omittedTables, omittedJoins, hfirst]

theorem tables_listed_eq_nil_iff (row : Option UpdateRow) (q : Query) (layout : MutationLayout) :
  (q.listed row layout).tables = [] ↔ q.sources = []
  := by
  cases layout with
  | standard => cases row <;> simp [listed, change]
  | alterTable => simp [listed]

theorem filter_listed (row : Option UpdateRow) (q : Query) (layout : MutationLayout) :
  (q.listed row layout).filter = q.filter
  := by cases layout <;> rfl

/-- A change that leaves no table and no join out lists all there is. -/
theorem listed_eq_change {layout : MutationLayout} (htables : q.omittedTables row layout = [])
    (hjoins : q.omittedJoins layout = []) :
  q.listed row layout = q.change row
  := by
  obtain ⟨hsources, hincluded⟩ := q.listed_append_omitted row layout
  rw [htables, List.append_nil] at hsources
  rw [hjoins, List.append_nil] at hincluded
  rw [change, ← hsources, ← hincluded]
  cases layout <;> rfl

/-- All tables and joins make a text that is longer by what is left out of the listed ones. -/
theorem length_written_change (row : Option UpdateRow) (q : Query) (style : SelectStyle)
    (scope : Option Scope) (quoting : Quoting) (layout : MutationLayout) :
  (Token.written quoting ((q.listed row layout).tokens style scope layout)).length
      + (q.omittedTables row layout).length + (q.omittedJoins layout).length
    ≤ (Token.written quoting ((q.change row).tokens style scope layout)).length
  := by
  cases layout with
  | standard =>
    cases row with
    | none => simp [listed, change, omittedTables, omittedJoins]
    | some row =>
      have htables := Token.length_written_separated quoting
        (q.sources.map (Table.tokens style scope))
      simp only [List.length_tail, List.length_map] at htables
      simp only [listed, change, omittedTables, omittedJoins, Change.tokens, Token.written_cons,
        Token.written_append, String.length_append, Table.tokensEach_eq_map, List.map_take,
        Option.isSome_some, if_true, List.length_tail, List.length_nil]
      omega
  | alterTable =>
    have htables := Token.length_written_separated quoting (q.sources.map Mutation.tableName)
    have hincluded : q.includedJoins.filter Join.included = q.includedJoins :=
      List.filter_eq_self.mpr fun j hj => (List.mem_filter.mp hj).2
    have hjoins := Join.length_written_includedTokens style scope quoting q.includedJoins
    rw [hincluded] at hjoins
    simp only [List.length_tail, List.length_map] at htables
    simp only [listed, change, omittedTables, omittedJoins, Change.tokens, Token.written_cons,
      Token.written_append, String.length_append, List.map_take, Join.includedTokens,
      List.length_tail, List.append_nil]
    omega

/-- Common table expressions have a text. -/
theorem length_written_preamble (style : SelectStyle) (scope : Option Scope) (quoting : Quoting)
    (hctes : q.ctes ≠ []) :
  0 < (Token.written quoting ((q.parts style scope).preamble " ")).length
  := by
  obtain ⟨recursive, ctes, hint, columns, sources, joins⟩ := q
  have hne : ctes.isEmpty = false := by simpa using hctes
  have hspace : (" " : String).length = 1 := rfl
  simp only [SelectParts.preamble, parts, hne, Bool.false_eq_true, if_false, List.isEmpty_cons,
    Token.written_append, Token.written_cons, String.length_append, Token.toText, hspace]
  omega

/-- A statement leaves nothing out exactly if there are no common table expressions and no table
and no join is omitted. -/
theorem statement_completeTokens_iff {d : Dialect} {s : Statement}
    (h : d.statement (q.listedTokens d row) = .ok s) :
  d.statement (q.completeTokens d row) = .ok s
    ↔ q.ctes = [] ∧ q.omittedTables row d.mutations = [] ∧ q.omittedJoins d.mutations = []
  := by
  constructor
  · intro hcomplete
    obtain ⟨-, rfl⟩ := Statement.ofTokens_eq_ok_iff.mp h
    obtain ⟨-, hsame⟩ := Statement.ofTokens_eq_ok_iff.mp hcomplete
    have htext : (Token.written d.quoting (q.completeTokens d row)).length
        = (Token.written d.quoting (q.listedTokens d row)).length :=
      congrArg (fun s => s.sql.length) hsame
    rw [completeTokens, Token.written_append, String.length_append] at htext
    have hlonger := q.length_written_change row d.style (some q.scope) d.quoting
      d.mutations
    rw [listedTokens] at htext
    constructor
    · by_contra hctes
      have hpreamble := q.length_written_preamble d.style none d.quoting hctes
      omega
    · rw [← List.length_eq_zero_iff, ← List.length_eq_zero_iff]
      omega
  · rintro ⟨hctes, htables, hjoins⟩
    have hpreamble : (q.parts d.style none).preamble " " = [] := by
      obtain ⟨⟩ := q
      subst hctes
      rfl
    rw [completeTokens, hpreamble, List.nil_append, ← listed_eq_change htables hjoins, ← h,
      listedTokens]

end Query

/-! ### What is shown -/

/-- Tables without aliases are shown as they are. -/
theorem Change.shownTables_eq_tables {c : Change} {layout : MutationLayout}
    (h : layout = .alterTable → ∀ t ∈ c.tables, t.aliasName = none) :
  c.shownTables layout = c.tables
  := by
  cases layout with
  | standard => rfl
  | alterTable =>
    have hplain : ∀ t ∈ c.tables, { t with aliasName := none } = id t := by
      rintro ⟨source, aliasName⟩ ht
      obtain rfl : aliasName = none := h rfl _ ht
      rfl
    rw [shownTables, List.map_congr_left hplain, List.map_id]

/-- A change shows the tables that its columns are written for exactly if it leaves none out, and
an ALTER TABLE only if its table has no alias. -/
theorem Query.shown_listed_eq_scope_iff {row : Option UpdateRow} {q : Query}
    (layout : MutationLayout) :
  (q.listed row layout).shown layout = q.scope
    ↔ q.omittedTables row layout = [] ∧ q.omittedJoins layout = []
      ∧ (layout = .alterTable → ∀ t ∈ q.sources, t.aliasName = none)
  := by
  have hscope : q.scope = (q.sources ++ q.includedJoins.map Join.table).map Table.visible := rfl
  obtain ⟨hsources, hincluded⟩ := q.listed_append_omitted row layout
  constructor
  · intro hshown
    have hnone : q.omittedTables row layout = [] ∧ q.omittedJoins layout = [] := by
      have htables : ((q.listed row layout).shownTables layout).length
          = (q.listed row layout).tables.length := by
        cases layout <;> simp [Change.shownTables]
      have hlength := congrArg List.length hshown
      rw [hscope, ← hsources, ← hincluded] at hlength
      simp only [Change.shown, List.length_map, List.length_append, htables] at hlength
      rw [← List.length_eq_zero_iff, ← List.length_eq_zero_iff]
      omega
    refine ⟨hnone.1, hnone.2, ?_⟩
    rintro rfl
    rw [listed_eq_change hnone.1 hnone.2, hscope, Change.shown, List.map_append, List.map_append]
      at hshown
    have htables := (List.append_inj' hshown rfl).1
    simp only [Change.shownTables, change, List.map_map, List.map_inj_left] at htables
    exact fun t ht => (congrArg Visible.aliasName (htables t ht)).symm
  · rintro ⟨htables, hjoins, hnone⟩
    rw [listed_eq_change htables hjoins, hscope, Change.shown, Change.shownTables_eq_tables hnone]
    rfl

theorem spells_assignedTokens {P : String → String → Prop} (style : SelectStyle) {scope : Scope}
    {x : Assigned} (h : ∀ p ∈ x.places [scope], p.IsAllowed P) :
  Token.Spells P (Mutation.assignedTokens style (some scope) x)
  := by
  cases x with
  | value v => exact .cons (by simp) .nil
  | raw sql params => exact .cons (by simp) .nil
  | query q => exact .parenthesized (Query.spells_parts style [scope] q h)

theorem spells_tableName {P : String → String → Prop} (t : Table) :
  Token.Spells P (Mutation.tableName t)
  := by
  unfold Mutation.tableName
  split <;> exact .cons (by simp) .nil

/-- The qualifiers in the tokens of a change are those of its columns. -/
theorem Change.spells_tokens {P : String → String → Prop} (style : SelectStyle) {scope : Scope}
    {c : Change} (h : ∀ p ∈ c.places scope, p.IsAllowed P) (layout : MutationLayout) :
  Token.Spells P (c.tokens style (some scope) layout)
  := by
  obtain ⟨tables, joins, row, filter, endings⟩ := c
  simp only [places, List.forall_mem_append] at h
  obtain ⟨⟨⟨htables, hjoins⟩, hrow⟩, hfilter⟩ := h
  have hjoins := Join.spells_includedTokens style [scope] joins hjoins
  have hfilter : Token.Spells P (.text " WHERE " :: filter.tokens style (some scope)) :=
    .word (by decide) (Condition.spells_tokens style [scope] filter hfilter)
  have hassigned : ∀ r ∈ row, Token.Spells P (Mutation.assignments style (some scope) r) := by
    rintro r ⟨⟩
    rw [Option.elim_some, List.forall_mem_flatMap] at hrow
    apply Token.Spells.separated (by decide)
    rw [List.forall_mem_map]
    intro e he
    exact .cons (by simp) (.word (by decide) (spells_assignedTokens style (hrow e he)))
  cases layout with
  | standard =>
    apply Token.Spells.append (Token.Spells.append (Token.Spells.append (Token.Spells.append _
      hjoins) _) hfilter) (spells_endings endings)
    · apply Token.Spells.word (by cases row <;> simp)
      exact .separated (by decide) (Table.spells_tokensEach style [scope] tables htables)
    · cases row with
      | none => exact .nil
      | some r => exact .word (by decide) (hassigned r rfl)
  | alterTable =>
    apply Token.Spells.append (Token.Spells.append (Token.Spells.append _ hjoins) _) hfilter
    · apply Token.Spells.word (by decide) (.separated (by decide) _)
      rw [List.forall_mem_map]
      exact fun t _ => spells_tableName t
    · cases row with
      | none => exact .word (by decide) .nil
      | some r => exact .word (by decide) (hassigned r rfl)

/-- The name of a column that is set stands in the tokens of a change as it was given. -/
theorem Change.infix_assigned (style : SelectStyle) (scope : Option Scope) {c : Change}
    {r : UpdateRow} (hr : c.row = some r) {e : String × Assigned} (he : e ∈ r.entries)
    (layout : MutationLayout) :
  [.name e.1, .text " = "] <:+: c.tokens style scope layout
  := by
  have hentry : [.name e.1, .text " = "] <:+: Mutation.assignments style scope r :=
    (List.prefix_append ..).isInfix.trans
      (Token.infix_separated (List.mem_map.mpr ⟨e, he, rfl⟩))
  cases layout with
  | standard =>
    rw [tokens, hr, Option.elim_some]
    have hset := List.infix_cons (a := .text " SET ") hentry
    exact hset.trans ((List.infix_append ..).trans (List.prefix_append ..).isInfix)
  | alterTable =>
    rw [tokens, hr, Option.elim_some]
    have hset := List.infix_cons (a := .text " UPDATE ") hentry
    exact hset.trans (List.infix_append ..)

/-- There is an error in place of the name of a derived table. -/
theorem Mutation.isSome_name?_of_allPass {t : Table} (h : Token.AllPass (tableName t)) :
  t.name?.isSome = true
  := by
  obtain ⟨source, aliasName⟩ := t
  cases source with
  | named schema name => rfl
  | derived q => cases h _ List.mem_cons_self _ List.mem_cons_self

/-! ### Changes -/

/-- The conditions that the statement of a change lists read nothing of what it leaves out. -/
structure Server.IgnoresOmitted (S : Server) (d : Dialect) (row : Option UpdateRow) (q : Query) :
    Prop where
  joins : ∀ j ∈ (q.listed row d.mutations).joins, ∀ c ∈ j.on,
    ∀ t ∈ q.omittedTables row d.mutations, S.Ignores d.style q.scope t c
  filter : ∀ t ∈ q.omittedTables row d.mutations ++ (q.omittedJoins d.mutations).map Join.table,
    S.Ignores d.style q.scope t q.filter

/-- What the statement of a change has of its query. -/
structure Change.Listed (d : Dialect) (row : Option UpdateRow) (q : Query) (s : Statement) :
    Prop where
  /-- The statement is written from what is listed. -/
  written : d.statement (q.listedTokens d row) = .ok s
  /-- It leaves nothing out exactly if there are no common table expressions and no table and no
  join is omitted. -/
  complete_iff : d.statement (q.completeTokens d row) = .ok s
    ↔ q.ctes = [] ∧ q.omittedTables row d.mutations = [] ∧ q.omittedJoins d.mutations = []
  /-- What is left out is not refused, and makes no difference but for the names of the tables. -/
  others : ∀ p : Query, p.listed row d.mutations = q.listed row d.mutations →
    p.scope = q.scope → (Request.change row p).statement d = .ok s
  /-- There is a condition. -/
  filter : q.filter.isEmpty = false
  /-- The table of an ALTER TABLE has a name. -/
  target : d.mutations = .alterTable → ∀ t ∈ q.sources.head?, t.name?.isSome = true
  /-- The statement shows the tables that its columns are written for exactly if no table and no
  join is omitted and, for an ALTER TABLE, there is no alias. -/
  shown_iff : (q.listed row d.mutations).shown d.mutations = q.scope
    ↔ q.omittedTables row d.mutations = [] ∧ q.omittedJoins d.mutations = []
      ∧ (d.mutations = .alterTable → ∀ t ∈ q.sources, t.aliasName = none)
  /-- A qualifier in the statement, inside of further queries too, is the name under which a table
  of the innermost query around its column is visible, or the reference as it was given if it
  means no table of this query. -/
  qualified : ∀ r ∈ Token.columns (q.listedTokens d row), ∀ m ∈ r.table,
    ∃ p ∈ (q.listed row d.mutations).places q.scope, p.name = r.name ∧ p.qualifier? = some m
      ∧ ((∃ scope ∈ p.scopes.head?, ∃ t ∈ scope, t.isShownAs m = true)
        ∨ p.table = some m ∧ ∀ scope ∈ p.scopes.head?, scope.meant? m = none)
  /-- The columns that are set are written as they were given. -/
  assigned : ∀ r ∈ row, ∀ e ∈ r.entries, [.name e.1, .text " = "] <:+: q.listedTokens d row
  /-- If the conditions read nothing of what is left out, the rows that the query selects are
  those that the tables and joins that are left out make of the rows that the statement
  changes.  A right or a full join would add rows of its table to the rows of the query. -/
  rows : ∀ S : Server, S.IgnoresOmitted d row q →
    (∀ j ∈ q.includedJoins, j.kind.continuesRows = true) →
    (d.mutations = .alterTable → ∀ t ∈ q.sources, t.aliasName = none) →
    ∀ selected, selected ∈ S.addressed d.style q.scope q.sources q.includedJoins q.filter
      ↔ ∃ changed ∈ S.addressed d.style q.scope
          ((q.listed row d.mutations).shownTables d.mutations) (q.listed row d.mutations).joins
          q.filter,
        selected ∈ S.continued d.style q.scope (q.listed row d.mutations).tables.length
          (q.omittedTables row d.mutations) (q.omittedJoins d.mutations) changed

/-- A statement for the change that a query asks for is written from what its layout lists. -/
theorem Request.listed_of_statement {d : Dialect} {row : Option UpdateRow} {q : Query}
    {s : Statement} (h : (Request.change row q).statement d = .ok s) :
  Change.Listed d row q s
  := by
  obtain ⟨ts, hts, hs⟩ := Request.exists_tokens h
  obtain ⟨hsources, hfilter, hrow⟩ := Request.exists_tokens_change_iff.mp ⟨ts, hts⟩
  obtain rfl := Request.tokens_change_listed hts
  obtain ⟨htables, hjoins⟩ := q.listed_append_omitted row d.mutations
  constructor
  case written => exact hs
  case complete_iff => exact Query.statement_completeTokens_iff hs
  case others =>
    intro p hlisted hscope
    have hp : ∃ ts, (Request.change row p).tokens d = .ok ts := by
      apply Request.exists_tokens_change_iff.mpr
      refine ⟨?_, ?_, hrow⟩
      · rw [Ne, ← p.tables_listed_eq_nil_iff row d.mutations, hlisted,
          Query.tables_listed_eq_nil_iff]
        exact hsources
      · rw [← p.filter_listed row d.mutations, hlisted, Query.filter_listed, hfilter]
    obtain ⟨us, hus⟩ := hp
    rw [Request.statement_eq, hus, Request.tokens_change_listed hus, hlisted, hscope]
    exact hs
  case filter => exact hfilter
  case target =>
    intro hlayout t ht
    have hpass : Token.AllPass (q.listedTokens d row) := Token.exists_ofTokens_iff.mp ⟨s, hs⟩
    apply Mutation.isSome_name?_of_allPass
    obtain ⟨rest, hrest⟩ := List.head?_eq_some_iff.mp ht
    simp only [Query.listedTokens, Query.listed, hlayout, hrest, Change.tokens, List.take_succ_cons,
      List.take_zero, List.map_cons, List.map_nil, Token.separated, Token.allPass_append,
      Token.allPass_cons] at hpass
    exact hpass.1.1.1.2
  case shown_iff => exact Query.shown_listed_eq_scope_iff d.mutations
  case qualified =>
    intro r hr m hm
    let P (m name : String) : Prop :=
      ∃ p ∈ (q.listed row d.mutations).places q.scope, p.name = name ∧ p.qualifier? = some m
    have hspells : Token.Spells P (q.listedTokens d row) :=
      Change.spells_tokens d.style (fun p hp m hm => ⟨p, hp, rfl, hm⟩) d.mutations
    obtain ⟨p, hp, hname, hqualifier⟩ := hspells.of_mem_columns r hr m hm
    exact ⟨p, hp, hname, hqualifier, ColumnPlace.isShownAs_qualifier? hqualifier⟩
  case assigned =>
    intro r hr e he
    exact Change.infix_assigned d.style (some q.scope) (by cases d.mutations <;> exact hr) he _
  case rows =>
    intro S hignores _ hnone selected
    have hplain : ∀ t ∈ (q.listed row d.mutations).tables, t ∈ q.sources := by
      intro t ht
      rw [← htables]
      exact List.mem_append_left _ ht
    rw [Change.shownTables_eq_tables fun hlayout t ht => hnone hlayout t (hplain t ht)]
    conv_lhs => rw [← htables, ← hjoins]
    exact Server.mem_addressed_append hignores.joins hignores.filter

/-- The orders with a note, as far as they have an account. -/
def accountOrders : Query :=
  { Query.empty with
    sources := [⟨.named none "orders", none⟩]
    joins := [⟨.inner, ⟨.named none "accounts", none⟩,
      some (.predicate ⟨.named (some "orders") "account", none⟩ .eq
        (.column ⟨.named (some "accounts") "id", none⟩)), true⟩]
    filter := .predicate ⟨.named (some "orders") "note", none⟩ .isNotNull .absent }

/-- A database with an order, but without accounts. -/
def orphanedOrder : Server where
  contents
    | .named none "orders" => ⟨["account", "note"], [[.int 1, .string "late"]]⟩
    | _ => ⟨["id"], []⟩
  judge _ values _ :=
    match values with
    | [some v] => if v.isNull then .false else .true
    | _ => .unknown

/-- The statement that deletes them by an ALTER TABLE. -/
def deletedOrders : Statement :=
  ⟨"ALTER TABLE orders DELETE WHERE orders.note IS NOT NULL", []⟩

/-- The accounts are left out without an error, and an order is deleted that the query does not
select. -/
theorem Request.listed_of_statement_accountOrders :
  (Request.change none accountOrders).statement .clickHouse = .ok deletedOrders
    ∧ Change.Listed .clickHouse none accountOrders deletedOrders
    ∧ Dialect.clickHouse.statement (accountOrders.completeTokens .clickHouse none)
      ≠ .ok deletedOrders
    ∧ orphanedOrder.IgnoresOmitted .clickHouse none accountOrders
    ∧ orphanedOrder.addressed Dialect.clickHouse.style accountOrders.scope accountOrders.sources
      accountOrders.includedJoins accountOrders.filter = []
    ∧ orphanedOrder.addressed Dialect.clickHouse.style accountOrders.scope accountOrders.sources
      [] accountOrders.filter ≠ []
  := by
  have hstatement : (Request.change none accountOrders).statement .clickHouse
      = .ok deletedOrders := rfl
  have hlisted := Request.listed_of_statement hstatement
  refine ⟨hstatement, hlisted, ?_, ?_, rfl, nofun⟩
  · rw [Ne, hlisted.complete_iff]
    rintro ⟨-, -, hjoins⟩
    cases hjoins
  · constructor
    · nofun
    · intro t ht
      obtain rfl := List.mem_singleton.mp ht
      unfold Server.Ignores
      decide

end SqlRender
