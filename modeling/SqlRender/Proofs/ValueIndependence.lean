import SqlRender.Proofs.MappedTokens
import SqlRender.Proofs.Request

/-!
# Statements do not depend on values

Other values change nothing about a statement but its values.  The statements that change
rows are made of the tokens of queries, tables and rows, and they fail for what is missing in
these, whatever the values are.  So a request with other values meets the same error as
before, or its statement has the same text and binds the new values in the places of the old
ones: `Request.statement_mapValues`.
-/

namespace SqlRender

variable (f : Value → Value)

/-- The statement with its values replaced. -/
def Statement.mapValues (s : Statement) : Statement :=
  { s with params := s.params.map f }

/-- Tokens with other values make the same text, with other values, or fail with the same
error. -/
theorem Statement.ofTokens_mapValues (quoting : Quoting) (ts : List Token) :
  ofTokens quoting (ts.map (Token.mapValues f)) = (ofTokens quoting ts).map (mapValues f)
  := by
  have hguards : (ts.map (Token.mapValues f)).flatMap Token.guards = ts.flatMap Token.guards := by
    rw [List.flatMap_map]
    congr 1
    funext t
    apply Token.guards_mapValues
  have htext : Token.toText quoting ∘ Token.mapValues f = Token.toText quoting :=
    funext (Token.toText_mapValues f quoting)
  have hparams : (ts.map (Token.mapValues f)).flatMap Token.params
      = (ts.flatMap Token.params).map f := by
    rw [List.flatMap_map, List.map_flatMap]
    congr 1
    funext t
    apply Token.params_mapValues
  unfold ofTokens
  rw [hguards, List.map_map, htext, hparams]
  cases Guard.verifyAll (ts.flatMap Token.guards) <;> rfl

/-! ### Statements that change rows -/

namespace Mutation

variable (style : SelectStyle)

theorem target_mapValues (q : Query) (action : String) :
  target (q.mapValues f) action = (target q action).map (Table.mapValues f)
  := by
  obtain ⟨recursive, ctes, hint, columns, sources, joins, filter⟩ := q
  cases sources with
  | nil => rfl
  | cons t sources =>
    simp only [target, Query.mapValues, Table.mapValuesEach, Condition.isEmpty_mapValues]
    cases filter.isEmpty <;> rfl

theorem checkRow_mapValues (row : UpdateRow) (action : String) :
  checkRow (row.mapValues f) action = checkRow row action
  := by
  simp [checkRow, UpdateRow.mapValues]

theorem tableName_mapValues (t : Table) :
  tableName (t.mapValues f) = (tableName t).map (Token.mapValues f)
  := by
  obtain ⟨source, aliasName⟩ := t
  cases source <;> rfl

theorem assignedTokens_mapValues (scope : Option Scope) (x : Assigned) :
  assignedTokens style scope (x.mapValues f)
    = (assignedTokens style scope x).map (Token.mapValues f)
  := by
  cases x with
  | value v => rfl
  | raw sql params => rfl
  | query q =>
    rw [Assigned.mapValues, assignedTokens, assignedTokens, Query.tokens_mapValues,
      Token.map_parenthesized]

theorem assignments_mapValues (scope : Option Scope) (row : UpdateRow) :
  assignments style scope (row.mapValues f)
    = (assignments style scope row).map (Token.mapValues f)
  := by
  simp [assignments, UpdateRow.mapValues, Token.map_separated, Function.comp_def,
    assignedTokens_mapValues]

theorem columnList_mapValues (row : UpdateRow) :
  columnList (row.mapValues f) = (columnList row).map (Token.mapValues f)
  := by
  simp [columnList, UpdateRow.mapValues, Token.map_parenthesized, Token.map_separated,
    Function.comp_def]

theorem valueTuple_mapValues (row : UpdateRow) :
  valueTuple style (row.mapValues f) = (valueTuple style row).map (Token.mapValues f)
  := by
  simp [valueTuple, UpdateRow.mapValues, Token.map_parenthesized, Token.map_separated,
    Function.comp_def, assignedTokens_mapValues]

theorem insertTarget_mapValues (t : Table) (row : UpdateRow) :
  insertTarget (t.mapValues f) (row.mapValues f) = (insertTarget t row).map (Token.mapValues f)
  := by
  simp [insertTarget, tableName_mapValues, columnList_mapValues]

theorem scope_mapValues (q : Query) :
  (q.mapValues f).scope = q.scope
  := by
  cases q
  apply Scope.of_mapValues

theorem whereTokens_mapValues (q : Query) :
  whereTokens style (q.mapValues f) = (whereTokens style q).map (Token.mapValues f)
  := by
  have hfilter : (q.mapValues f).filter = q.filter.mapValues f := by
    cases q
    rfl
  rw [whereTokens, whereTokens, scope_mapValues, hfilter, Condition.tokens_mapValues,
    List.map_cons, Token.mapValues_text]

theorem endingTokens_mapValues (q : Query) :
  endingTokens (q.mapValues f) = (endingTokens q).map (Token.mapValues f)
  := by
  cases q
  simp [endingTokens, Query.mapValues, List.map_flatMap]

theorem includedTokens_mapValues (q : Query) :
  Join.includedTokens style (some (q.mapValues f).scope) (q.mapValues f).joins
    = (Join.includedTokens style (some q.scope) q.joins).map (Token.mapValues f)
  := by
  rw [scope_mapValues, ← Join.includedTokens_mapValues]
  cases q
  rfl

theorem delete_mapValues (layout : MutationLayout) (q : Query) :
  delete style layout (q.mapValues f)
    = (delete style layout q).map (List.map (Token.mapValues f))
  := by
  have hsources : Table.tokensEach style (q.mapValues f).scope (q.mapValues f).sources
      = (Table.tokensEach style q.scope q.sources).map (List.map (Token.mapValues f)) := by
    rw [scope_mapValues, ← Table.tokensEach_mapValues]
    cases q
    rfl
  unfold delete
  rw [target_mapValues]
  cases target q "delete" with
  | error e => rfl
  | ok t =>
    cases layout with
    | standard =>
      apply congrArg Except.ok
      simp [hsources, Token.map_separated, includedTokens_mapValues, whereTokens_mapValues,
        endingTokens_mapValues]
    | alterTable =>
      apply congrArg Except.ok
      simp [tableName_mapValues, whereTokens_mapValues]

theorem update_mapValues (layout : MutationLayout) (row : UpdateRow) (q : Query) :
  update style layout (row.mapValues f) (q.mapValues f)
    = (update style layout row q).map (List.map (Token.mapValues f))
  := by
  unfold update
  rw [target_mapValues, checkRow_mapValues]
  cases target q "update" with
  | error e => rfl
  | ok t =>
    cases checkRow row "update" with
    | error e => rfl
    | ok _ =>
      cases layout with
      | standard =>
        apply congrArg Except.ok
        rw [includedTokens_mapValues, scope_mapValues, Table.tokens_mapValues,
          assignments_mapValues, whereTokens_mapValues, endingTokens_mapValues]
        simp
      | alterTable =>
        apply congrArg Except.ok
        rw [tableName_mapValues, scope_mapValues, assignments_mapValues, whereTokens_mapValues]
        simp

theorem insert_mapValues (t : Table) (row : UpdateRow) :
  insert style (t.mapValues f) (row.mapValues f)
    = (insert style t row).map (List.map (Token.mapValues f))
  := by
  unfold insert
  rw [checkRow_mapValues]
  cases checkRow row "insert" with
  | error e => rfl
  | ok _ =>
    apply congrArg Except.ok
    simp [insertTarget_mapValues, valueTuple_mapValues]

theorem columnNames_mapValues (row : UpdateRow) :
  (row.mapValues f).columnNames = row.columnNames
  := by
  simp [UpdateRow.columnNames, UpdateRow.mapValues, Function.comp_def]

/-- Whether rows set the same columns does not depend on values. -/
theorem checkBatch_mapValues (rows : List UpdateRow) :
  checkBatch (rows.map (UpdateRow.mapValues f)) = (checkBatch rows).map (UpdateRow.mapValues f)
  := by
  cases rows with
  | nil => rfl
  | cons first rest =>
    rw [List.map_cons, checkBatch, checkBatch, checkRow_mapValues, List.zipIdx_map,
      List.find?_map]
    simp only [Function.comp_def, Prod.map, columnNames_mapValues]
    cases checkRow first "insert" with
    | error e => rfl
    | ok _ =>
      generalize List.find? _ (rest.zipIdx 1) = found
      cases found with
      | none => rfl
      | some other =>
        simp only [Option.map_some, Prod.map, columnNote, columnNames_mapValues]
        rfl

theorem insertBatch_mapValues (layout : BatchLayout) (t : Table) (rows : List UpdateRow) :
  insertBatch style layout (t.mapValues f) (rows.map (UpdateRow.mapValues f))
    = (insertBatch style layout t rows).map (List.map (Token.mapValues f))
  := by
  unfold insertBatch
  rw [checkBatch_mapValues]
  cases checkBatch rows with
  | error e => rfl
  | ok first =>
    cases layout with
    | tuples =>
      apply congrArg Except.ok
      simp [insertTarget_mapValues, valueTuple_mapValues, Token.map_separated, Function.comp_def]
    | insertAll =>
      apply congrArg Except.ok
      simp [insertTarget_mapValues, valueTuple_mapValues, List.map_flatMap, List.flatMap_map]

end Mutation

/-! ### Requests -/

namespace Request

/-- The request with all values of its queries and rows replaced. -/
def mapValues : Request → Request
  | select q => select (q.mapValues f)
  | delete q => delete (q.mapValues f)
  | update row q => update (row.mapValues f) (q.mapValues f)
  | insert t row => insert (t.mapValues f) (row.mapValues f)
  | insertBatch t rows => insertBatch (t.mapValues f) (rows.map (UpdateRow.mapValues f))
  | count simplify q => count simplify (q.mapValues f)
  | page r q => page r (q.mapValues f)

theorem tokens_mapValues (d : Dialect) (r : Request) :
  (r.mapValues f).tokens d = (r.tokens d).map (List.map (Token.mapValues f))
  := by
  cases r with
  | select q => exact congrArg Except.ok (Query.tokens_mapValues f d.style none q)
  | delete q => exact Mutation.delete_mapValues f d.style d.mutations q
  | update row q => exact Mutation.update_mapValues f d.style d.mutations row q
  | insert t row => exact Mutation.insert_mapValues f d.style t row
  | insertBatch t rows => exact Mutation.insertBatch_mapValues f d.style d.batches t rows
  | count simplify q =>
    apply congrArg Except.ok
    rw [Query.countQuery_mapValues, Query.tokens_mapValues]
  | page r q =>
    have hpage : ((q.mapValues f).skip (some r.offset)).limit (some r.size)
        = ((q.skip (some r.offset)).limit (some r.size)).mapValues f := by
      cases q
      rfl
    apply congrArg Except.ok
    rw [hpage, Query.tokens_mapValues]

end Request

/-- A request with other values has the same statement with other values, in the same
places of the same text; or it fails with the same error. -/
theorem Request.statement_mapValues (d : Dialect) (r : Request) :
  (r.mapValues f).statement d = (r.statement d).map (Statement.mapValues f)
  := by
  rw [statement_eq, statement_eq, tokens_mapValues]
  cases r.tokens d with
  | error e => rfl
  | ok ts => exact Statement.ofTokens_mapValues f d.quoting ts

end SqlRender
