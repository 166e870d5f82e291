import SqlRender.Proofs.BoundValues
import SqlRender.Proofs.ExcludedJoins
import SqlRender.Proofs.Request

/-!
# Joins that are not included

A join that is not included has no effect, wherever it stands in a query.  The tokens of a
query without such joins are those of the query, part by part, and so are its values.  So every
request has the same statement, or fails with the same error, without them:
`Query.inert_excluded`.
-/

namespace SqlRender

/-! ### The arrangement of the parts -/

/-- A change of columns that keeps what the arrangement of a select looks at. -/
structure Column.KeepsOutline (f : Column → Column) : Prop where
  aliasName : ∀ c, (f c).aliasName = c.aliasName
  name? : ∀ c, (f c).name? = c.name?
  isDistinct : ∀ c, (f c).isDistinct = c.isDistinct

theorem Column.keepsOutline_dropExcluded :
  KeepsOutline dropExcluded
  := ⟨aliasName_dropExcluded, name?_dropExcluded, isDistinct_dropExcluded⟩

namespace SelectParts

/-- The parts of a select with other columns; the tokens of their expressions stay. -/
def mapColumns (f : Column → Column) (p : SelectParts) : SelectParts :=
  { p with columns := p.columns.map f }

variable {f : Column → Column} (hf : Column.KeepsOutline f) (p : SelectParts)

include hf

theorem list_mapColumns (head : Option SelectHead) :
  (p.mapColumns f).list head = p.list head
  := by
  have hitems : ∀ columns exprs, List.zipWith Column.itemTokens (columns.map f) exprs
      = List.zipWith Column.itemTokens columns exprs := by
    intro columns exprs
    rw [List.zipWith_map_left]
    congr 1
    funext c expr
    rw [Column.itemTokens, Column.itemTokens, Column.aliasTokens, Column.aliasTokens,
      hf.aliasName]
  obtain ⟨layout, ctes, clash, hint, columns, exprs, clauses, isOrdered, order, after⟩ := p
  unfold list mapColumns
  simp only [hitems, List.isEmpty_map]
  cases head with
  | none => rfl
  | some h =>
    cases columns with
    | nil => rfl
    | cons c columns =>
      cases exprs with
      | nil => rfl
      | cons expr exprs => simp only [List.map_cons, hf.isDistinct]

theorem body_mapColumns (first : List Token) (head : Option SelectHead) :
  (p.mapColumns f).body first head = p.body first head
  := by
  rw [body, list_mapColumns hf]
  rfl

theorem numberedCore_mapColumns (aliasSeparator : String) (head : Option SelectHead) :
  (p.mapColumns f).numberedCore aliasSeparator head = p.numberedCore aliasSeparator head
  := by
  have hdistinct : (p.mapColumns f).columns.any Column.isDistinct
      = p.columns.any Column.isDistinct := by
    simp only [mapColumns, List.any_map, Function.comp_def, hf.isDistinct]
  rw [numberedCore, hdistinct, body_mapColumns hf, body_mapColumns hf]
  rfl

theorem outerNames_mapColumns :
  outerNames (p.mapColumns f).columns = outerNames p.columns
  := by
  simp only [outerNames, mapColumns, List.map_map, Function.comp_def, Column.aliasOrName?,
    hf.aliasName, hf.name?, List.isEmpty_map]

/-- A select is arranged by the aliases, the names and the kinds of its columns. -/
theorem tokens_mapColumns (aliasSeparator : String) :
  (p.mapColumns f).tokens aliasSeparator = p.tokens aliasSeparator
  := by
  have hcore : ∀ head, (p.mapColumns f).core head = p.core head := by
    intro head
    rw [core, body_mapColumns hf]
    rfl
  have hstandard : ∀ head, (p.mapColumns f).standard head = p.standard head := by
    intro head
    rw [standard, hcore]
    rfl
  have hpaged : (p.mapColumns f).paged aliasSeparator = p.paged aliasSeparator := by
    unfold paged
    simp only [hstandard, numberedCore_mapColumns hf, outerNames_mapColumns hf]
    rfl
  rw [tokens, hpaged]
  rfl

end SelectParts

/-! ### The parts of a query -/

theorem Scope.of_dropExcluded (sources : List Table) (joins : List Join) :
  Scope.of (Table.dropExcludedEach sources) (Join.dropExcludedEach joins) = Scope.of sources joins
  := by
  have hvisible : Table.visible ∘ Table.dropExcluded = Table.visible := by
    funext t
    simp [Table.visible]
  unfold Scope.of
  rw [Join.tables_dropExcludedEach, List.map_map, hvisible]

theorem clashTokens_dropExcluded (sources : List Table) (joins : List Join) :
  clashTokens (Table.dropExcludedEach sources) (Join.dropExcludedEach joins)
    = clashTokens sources joins
  := by
  unfold clashTokens
  rw [Join.tables_dropExcludedEach, Table.firstClash?_map_dropExcluded]
  cases Table.firstClash? (sources ++ (joins.filter Join.included).map Join.table) <;> simp

section

variable (style : SelectStyle)

mutual

/-- The parts of a query are written without the joins that are not included. -/
theorem Query.parts_dropExcluded (scope : Option Scope) :
    ∀ q : Query,
  q.dropExcluded.parts style scope = (q.parts style scope).mapColumns Column.dropExcluded
  | ⟨_, ctes, _, columns, sources, joins, filter, groups, having, order, _, _, partners, _⟩ => by
    have hcolumns := fun scope => Column.tokensEach_dropExcluded scope columns
    have hsources := fun scope => Table.tokensEach_dropExcluded scope sources
    have hjoins := fun scope => Join.includedTokens_dropExcluded scope joins
    have hfilter := fun scope => Condition.tokens_dropExcluded scope filter
    have hgroups := fun scope => Column.tokensEach_dropExcluded scope groups
    have hhaving := fun scope => Condition.tokens_dropExcluded scope having
    have horder := fun scope around => OrderItem.tokensEach_dropExcluded scope around order
    simp only [Query.dropExcluded, Query.parts, SelectParts.mapColumns, Scope.of_dropExcluded,
      clashTokens_dropExcluded, Cte.isEmpty_dropExcludedEach, Column.isEmpty_dropExcludedEach,
      Table.isEmpty_dropExcludedEach, OrderItem.isEmpty_dropExcludedEach,
      Condition.isEmpty_dropExcluded, Cte.tokensEach_dropExcluded scope ctes, hcolumns, hsources,
      hjoins, hfilter, hgroups, hhaving, horder, Partner.tokensEach_dropExcluded scope partners,
      ← Column.dropExcludedEach_eq_map]

theorem Cte.tokensEach_dropExcluded (scope : Option Scope) :
    ∀ ctes : List Cte,
  Cte.tokensEach style scope (Cte.dropExcludedEach ctes) = Cte.tokensEach style scope ctes
  | [] => rfl
  | ⟨_, _, q⟩ :: rest => by
    rw [Cte.dropExcludedEach, Cte.tokensEach, Cte.tokensEach, Query.parts_dropExcluded scope q,
      SelectParts.tokens_mapColumns Column.keepsOutline_dropExcluded,
      Cte.tokensEach_dropExcluded scope rest]

theorem Partner.tokensEach_dropExcluded (scope : Option Scope) :
    ∀ partners : List Partner,
  Partner.tokensEach style scope (Partner.dropExcludedEach partners)
    = Partner.tokensEach style scope partners
  | [] => rfl
  | ⟨_, q⟩ :: rest => by
    have hlimited : q.dropExcluded.isLimited = q.isLimited := by
      cases q
      rfl
    have hordered : q.dropExcluded.order.isEmpty = q.order.isEmpty := by
      cases q
      apply OrderItem.isEmpty_dropExcludedEach
    rw [Partner.dropExcludedEach, Partner.tokensEach, Partner.tokensEach, hlimited, hordered,
      Query.parts_dropExcluded scope q,
      SelectParts.tokens_mapColumns Column.keepsOutline_dropExcluded,
      Partner.tokensEach_dropExcluded scope rest]

theorem Column.tokens_dropExcluded (scope : Option Scope) :
    ∀ c : Column,
  c.dropExcluded.tokens style scope = c.tokens style scope
  | ⟨expr, _⟩ => Expr.tokens_dropExcluded scope expr

theorem Column.tokensEach_dropExcluded (scope : Option Scope) :
    ∀ columns : List Column,
  Column.tokensEach style scope (Column.dropExcludedEach columns)
    = Column.tokensEach style scope columns
  | [] => rfl
  | c :: rest => by
    rw [Column.dropExcludedEach, Column.tokensEach, Column.tokensEach,
      Column.tokens_dropExcluded scope c, Column.tokensEach_dropExcluded scope rest]

theorem Expr.tokens_dropExcluded (scope : Option Scope) :
    ∀ e : Expr,
  e.dropExcluded.tokens style scope = e.tokens style scope
  | .named .. | .raw .. | .param _ => rfl
  | .call _ args => by
    rw [Expr.dropExcluded, Expr.tokens, Expr.tokens, Column.tokensEach_dropExcluded scope args]
  | .distinct columns => by
    rw [Expr.dropExcluded, Expr.tokens, Expr.tokens, Column.tokensEach_dropExcluded scope columns]
  | .arithmetic left _ right => by
    rw [Expr.dropExcluded, Expr.tokens, Expr.tokens, Column.isArithmetic_dropExcluded,
      Column.isArithmetic_dropExcluded, Column.tokens_dropExcluded scope left,
      Column.tokens_dropExcluded scope right]
  | .subquery q => by
    rw [Expr.dropExcluded, Expr.tokens, Expr.tokens, Query.parts_dropExcluded scope q,
      SelectParts.tokens_mapColumns Column.keepsOutline_dropExcluded]

theorem Table.tokens_dropExcluded (scope : Option Scope) :
    ∀ t : Table,
  t.dropExcluded.tokens style scope = t.tokens style scope
  | ⟨source, _⟩ => by
    rw [Table.dropExcluded, Table.tokens, Table.tokens, Source.tokens_dropExcluded scope source]

theorem Table.tokensEach_dropExcluded (scope : Option Scope) :
    ∀ tables : List Table,
  Table.tokensEach style scope (Table.dropExcludedEach tables) = Table.tokensEach style scope tables
  | [] => rfl
  | t :: rest => by
    rw [Table.dropExcludedEach, Table.tokensEach, Table.tokensEach,
      Table.tokens_dropExcluded scope t, Table.tokensEach_dropExcluded scope rest]

theorem Source.tokens_dropExcluded (scope : Option Scope) :
    ∀ source : Source,
  source.dropExcluded.tokens style scope = source.tokens style scope
  | .named .. => rfl
  | .derived q => by
    rw [Source.dropExcluded, Source.tokens, Source.tokens, Query.parts_dropExcluded scope q,
      SelectParts.tokens_mapColumns Column.keepsOutline_dropExcluded]

theorem Join.includedTokens_dropExcluded (scope : Option Scope) :
    ∀ joins : List Join,
  Join.includedTokens style scope (Join.dropExcludedEach joins)
    = Join.includedTokens style scope joins
  | [] => rfl
  | ⟨_, _, _, false⟩ :: rest => Join.includedTokens_dropExcluded scope rest
  | ⟨_, table, none, true⟩ :: rest => by
    simp only [Join.dropExcludedEach, Join.includedTokens, Join.tokens,
      Table.tokens_dropExcluded scope table, Join.includedTokens_dropExcluded scope rest]
  | ⟨_, table, some c, true⟩ :: rest => by
    simp only [Join.dropExcludedEach, Join.includedTokens, Join.tokens,
      Condition.isEmpty_dropExcluded, Table.tokens_dropExcluded scope table,
      Condition.tokens_dropExcluded scope c, Join.includedTokens_dropExcluded scope rest]

theorem Condition.tokens_dropExcluded (scope : Option Scope) :
    ∀ c : Condition,
  c.dropExcluded.tokens style scope = c.tokens style scope
  | .raw .. | .empty => rfl
  | .predicate column _ operand => by
    rw [Condition.dropExcluded, Condition.tokens, Condition.tokens,
      Column.tokens_dropExcluded scope column, Operand.tokens_dropExcluded scope operand]
  | .existence _ q => by
    rw [Condition.dropExcluded, Condition.tokens, Condition.tokens,
      Query.parts_dropExcluded scope q,
      SelectParts.tokens_mapColumns Column.keepsOutline_dropExcluded]
  | .not c => by
    rw [Condition.dropExcluded, Condition.tokens, Condition.tokens,
      Condition.isEmpty_dropExcluded, Condition.tokens_dropExcluded scope c]
  | .group c => by
    rw [Condition.dropExcluded, Condition.tokens, Condition.tokens,
      Condition.isEmpty_dropExcluded, Condition.tokens_dropExcluded scope c]
  | .connect left _ right => by
    simp only [Condition.dropExcluded, Condition.tokens, Condition.isEmpty_dropExcluded,
      Condition.needsParentheses_dropExcluded, Condition.tokens_dropExcluded scope left,
      Condition.tokens_dropExcluded scope right]

theorem Operand.tokens_dropExcluded (scope : Option Scope) :
    ∀ operand : Operand,
  operand.dropExcluded.tokens style scope = operand.tokens style scope
  | .absent | .value _ | .list _ | .range .. => rfl
  | .column c => by
    rw [Operand.dropExcluded, Operand.tokens, Operand.tokens, Column.tokens_dropExcluded scope c]
  | .query q => by
    rw [Operand.dropExcluded, Operand.tokens, Operand.tokens, Query.parts_dropExcluded scope q,
      SelectParts.tokens_mapColumns Column.keepsOutline_dropExcluded]

theorem OrderItem.tokensEach_dropExcluded (scope : Option Scope) (around : Bool) :
    ∀ order : List OrderItem,
  OrderItem.tokensEach style scope around (OrderItem.dropExcludedEach order)
    = OrderItem.tokensEach style scope around order
  | [] => rfl
  | .column c _ _ :: rest => by
    simp only [OrderItem.dropExcludedEach, OrderItem.tokensEach, OrderItem.tokens,
      Column.name?_dropExcluded, Column.tokens_dropExcluded scope c,
      OrderItem.tokensEach_dropExcluded scope around rest]
  | .raw _ :: rest => by
    rw [OrderItem.dropExcludedEach, OrderItem.tokensEach, OrderItem.tokensEach,
      OrderItem.tokensEach_dropExcluded scope around rest]

end

theorem Query.tokens_dropExcluded (scope : Option Scope) (q : Query) :
  q.dropExcluded.tokens style scope = q.tokens style scope
  := by
  rw [tokens, tokens, parts_dropExcluded,
    SelectParts.tokens_mapColumns Column.keepsOutline_dropExcluded]

end

/-- The values of a query are those of its parts that are written. -/
theorem Query.values_dropExcluded (paging : Option PagingStrategy) (q : Query) :
  q.dropExcluded.values paging = q.values paging
  := Query.values_congr (fun style => q.tokens_dropExcluded style none) paging

/-! ### Statements that change rows -/

namespace Mutation

variable (style : SelectStyle)

theorem target_dropExcluded (q : Query) (action : String) :
  target q.dropExcluded action = (target q action).map Table.dropExcluded
  := by
  unfold target
  rw [Query.sources_dropExcluded, Query.filter_dropExcluded, Condition.isEmpty_dropExcluded]
  cases q.sources with
  | nil => rfl
  | cons t sources => cases q.filter.isEmpty <;> rfl

theorem tableName_dropExcluded (t : Table) :
  tableName t.dropExcluded = tableName t
  := by
  obtain ⟨source, aliasName⟩ := t
  cases source <;> rfl

theorem assignedTokens_dropExcluded (scope : Option Scope) (x : Assigned) :
  assignedTokens style scope x.dropExcluded = assignedTokens style scope x
  := by
  cases x with
  | value v => rfl
  | raw sql params => rfl
  | query q => rw [Assigned.dropExcluded, assignedTokens, assignedTokens, Query.tokens_dropExcluded]

theorem checkRow_dropExcluded (row : UpdateRow) (action : String) :
  checkRow row.dropExcluded action = checkRow row action
  := by simp [checkRow, UpdateRow.dropExcluded]

theorem assignments_dropExcluded (scope : Option Scope) (row : UpdateRow) :
  assignments style scope row.dropExcluded = assignments style scope row
  := by
  simp [assignments, UpdateRow.dropExcluded, Function.comp_def, assignedTokens_dropExcluded]

theorem valueTuple_dropExcluded (row : UpdateRow) :
  valueTuple style row.dropExcluded = valueTuple style row
  := by
  simp [valueTuple, UpdateRow.dropExcluded, Function.comp_def, assignedTokens_dropExcluded]

theorem insertTarget_dropExcluded (t : Table) (row : UpdateRow) :
  insertTarget t.dropExcluded row.dropExcluded = insertTarget t row
  := by
  simp [insertTarget, columnList, UpdateRow.dropExcluded, Function.comp_def,
    tableName_dropExcluded]

theorem scope_dropExcluded (q : Query) :
  q.dropExcluded.scope = q.scope
  := by
  cases q
  apply Scope.of_dropExcluded

theorem whereTokens_dropExcluded (q : Query) :
  whereTokens style q.dropExcluded = whereTokens style q
  := by
  rw [whereTokens, whereTokens, scope_dropExcluded, Query.filter_dropExcluded,
    Condition.tokens_dropExcluded]

theorem endingTokens_dropExcluded (q : Query) :
  endingTokens q.dropExcluded = endingTokens q
  := by
  cases q
  rfl

theorem includedTokens_dropExcluded (q : Query) :
  Join.includedTokens style (some q.dropExcluded.scope) q.dropExcluded.joins
    = Join.includedTokens style (some q.scope) q.joins
  := by
  rw [scope_dropExcluded, Query.joins_dropExcluded, Join.includedTokens_dropExcluded]

theorem delete_dropExcluded (layout : MutationLayout) (q : Query) :
  delete style layout q.dropExcluded = delete style layout q
  := by
  have hsources : Table.tokensEach style q.dropExcluded.scope q.dropExcluded.sources
      = Table.tokensEach style q.scope q.sources := by
    rw [scope_dropExcluded, Query.sources_dropExcluded, Table.tokensEach_dropExcluded]
  unfold delete
  rw [target_dropExcluded, hsources, includedTokens_dropExcluded, whereTokens_dropExcluded,
    endingTokens_dropExcluded]
  cases target q "delete" with
  | error e => rfl
  | ok t =>
    cases layout with
    | standard => rfl
    | alterTable =>
      apply congrArg Except.ok
      rw [tableName_dropExcluded]

theorem update_dropExcluded (layout : MutationLayout) (row : UpdateRow) (q : Query) :
  update style layout row q.dropExcluded = update style layout row q
  := by
  unfold update
  rw [target_dropExcluded, includedTokens_dropExcluded, whereTokens_dropExcluded,
    endingTokens_dropExcluded, scope_dropExcluded]
  cases target q "update" with
  | error e => rfl
  | ok t =>
    cases checkRow row "update" with
    | error e => rfl
    | ok _ =>
      cases layout with
      | standard =>
        apply congrArg Except.ok
        rw [Table.tokens_dropExcluded]
      | alterTable =>
        apply congrArg Except.ok
        rw [tableName_dropExcluded]

theorem update_dropExcluded_row (layout : MutationLayout) (row : UpdateRow) (q : Query) :
  update style layout row.dropExcluded q = update style layout row q
  := by
  rw [update, checkRow_dropExcluded, assignments_dropExcluded]
  rfl

theorem insert_dropExcluded (t : Table) (row : UpdateRow) :
  insert style t.dropExcluded row.dropExcluded = insert style t row
  := by
  rw [insert, checkRow_dropExcluded, insertTarget_dropExcluded, valueTuple_dropExcluded]
  rfl

theorem columnNames_dropExcluded (row : UpdateRow) :
  row.dropExcluded.columnNames = row.columnNames
  := by simp [UpdateRow.columnNames, UpdateRow.dropExcluded, Function.comp_def]

theorem checkBatch_dropExcluded (rows : List UpdateRow) :
  checkBatch (rows.map UpdateRow.dropExcluded) = (checkBatch rows).map UpdateRow.dropExcluded
  := by
  cases rows with
  | nil => rfl
  | cons first rest =>
    rw [List.map_cons, checkBatch, checkBatch, checkRow_dropExcluded, List.zipIdx_map,
      List.find?_map]
    simp only [Function.comp_def, Prod.map, columnNames_dropExcluded]
    cases checkRow first "insert" with
    | error e => rfl
    | ok _ =>
      generalize List.find? _ (rest.zipIdx 1) = found
      cases found with
      | none => rfl
      | some other =>
        simp only [Option.map_some, Prod.map, columnNote, columnNames_dropExcluded]
        rfl

theorem insertBatch_dropExcluded (layout : BatchLayout) (t : Table) (rows : List UpdateRow) :
  insertBatch style layout t.dropExcluded (rows.map UpdateRow.dropExcluded)
    = insertBatch style layout t rows
  := by
  unfold insertBatch
  rw [checkBatch_dropExcluded]
  cases checkBatch rows with
  | error e => rfl
  | ok first =>
    cases layout with
    | tuples =>
      apply congrArg Except.ok
      simp [insertTarget_dropExcluded, valueTuple_dropExcluded, Function.comp_def]
    | insertAll =>
      apply congrArg Except.ok
      simp [insertTarget_dropExcluded, valueTuple_dropExcluded, List.flatMap_map]

end Mutation

/-! ### Requests -/

namespace Request

/-- The request without the joins that are not included in its queries, tables and rows. -/
def dropExcluded : Request → Request
  | select q => select q.dropExcluded
  | delete q => delete q.dropExcluded
  | update row q => update row.dropExcluded q.dropExcluded
  | insert t row => insert t.dropExcluded row.dropExcluded
  | insertBatch t rows => insertBatch t.dropExcluded (rows.map UpdateRow.dropExcluded)
  | count simplify q => count simplify q.dropExcluded
  | page r q => page r q.dropExcluded

theorem tokens_dropExcluded (d : Dialect) (r : Request) :
  r.dropExcluded.tokens d = r.tokens d
  := by
  cases r with
  | select q => exact congrArg Except.ok (Query.tokens_dropExcluded d.style none q)
  | delete q => exact Mutation.delete_dropExcluded d.style d.mutations q
  | update row q =>
    rw [dropExcluded, tokens, Mutation.update_dropExcluded, Mutation.update_dropExcluded_row]
    rfl
  | insert t row => exact Mutation.insert_dropExcluded d.style t row
  | insertBatch t rows => exact Mutation.insertBatch_dropExcluded d.style d.batches t rows
  | count simplify q =>
    apply congrArg Except.ok
    rw [Query.countQuery_dropExcluded, Query.tokens_dropExcluded]
  | page r q =>
    have hpage : (q.dropExcluded.skip (some r.offset)).limit (some r.size)
        = ((q.skip (some r.offset)).limit (some r.size)).dropExcluded := by
      cases q
      rfl
    apply congrArg Except.ok
    rw [hpage, Query.tokens_dropExcluded]

/-- A request has the same statement or the same error without the joins that are not
included. -/
theorem statement_dropExcluded (d : Dialect) (r : Request) :
  r.dropExcluded.statement d = r.statement d
  := by
  rw [statement_eq, statement_eq, tokens_dropExcluded]

end Request

/-- A run of a paginator is the same without the joins that are not included. -/
theorem Paginator.paginate_dropExcluded (p : Paginator) (x : Executor) (r : PageRequest)
    (q : Query) :
  p.paginate x r q.dropExcluded = p.paginate x r q
  := by
  have hcount : p.countStatement r q.dropExcluded = p.countStatement r q :=
    Request.statement_dropExcluded p.dialect (.count r.simplifyCount q)
  have hpage : p.pageStatement r q.dropExcluded = p.pageStatement r q :=
    Request.statement_dropExcluded p.dialect (.page r q)
  simp only [paginate, withTotal, hcount, hpage]

/-- Of the joins of a query the included ones are left, and without the others, at every depth,
nothing changes: every dialect writes the same selects, deletes, updates, counts and pages, or
fails with the same error, a paginator runs as before, and the values are the same under every
paging.  In particular the other joins do not make columns qualified, are not in the way of
other tables, and do not keep a count from leaving out joins. -/
theorem Query.inert_excluded (q : Query) :
  q.dropExcluded.joins = q.includedJoins.map Join.dropExcluded
    ∧ (∀ d : Dialect,
      d.select q.dropExcluded = d.select q
      ∧ d.delete q.dropExcluded = d.delete q
      ∧ (∀ row, d.update row q.dropExcluded = d.update row q
        ∧ d.update row.dropExcluded q.dropExcluded = d.update row q)
      ∧ (∀ simplify, d.select (q.dropExcluded.countQuery simplify)
        = d.select (q.countQuery simplify))
      ∧ ∀ shows r, Paginator.pageStatement ⟨d, shows⟩ r q.dropExcluded
        = Paginator.pageStatement ⟨d, shows⟩ r q)
    ∧ (∀ (p : Paginator) (x : Executor) (r : PageRequest),
      p.paginate x r q.dropExcluded = p.paginate x r q)
    ∧ (∀ paging, q.dropExcluded.values paging = q.values paging)
    ∧ q.dropExcluded.scope = q.scope
    ∧ clashTokens q.dropExcluded.sources q.dropExcluded.joins = clashTokens q.sources q.joins
    ∧ q.dropExcluded.hasIdleJoins = q.hasIdleJoins
  := by
  refine ⟨?_, fun d => ⟨?_, ?_, fun row => ⟨?_, ?_⟩, ?_, ?_⟩, ?_, ?_, ?_, ?_, ?_⟩
  · rw [joins_dropExcluded, Join.dropExcludedEach_eq_map, includedJoins]
  · exact Request.statement_dropExcluded d (.select q)
  · exact Request.statement_dropExcluded d (.delete q)
  · rw [Dialect.update, Mutation.update_dropExcluded, Dialect.update]
  · exact Request.statement_dropExcluded d (.update row q)
  · exact fun simplify => Request.statement_dropExcluded d (.count simplify q)
  · exact fun shows r => Request.statement_dropExcluded d (.page r q)
  · exact fun p x r => p.paginate_dropExcluded x r q
  · exact fun paging => q.values_dropExcluded paging
  · apply Mutation.scope_dropExcluded
  · rw [sources_dropExcluded, joins_dropExcluded, clashTokens_dropExcluded]
  · apply hasIdleJoins_dropExcluded

end SqlRender
