import SqlRender.Proofs.MapValues
import SqlRender.Proofs.Tokens

/-!
# Tokens with other values

The tokens of a query with other values are its tokens with other values, part by part and in
every arrangement of the parts: `Query.tokens_mapValues`.  Guards and texts of tokens do not
look at values.
-/

namespace SqlRender

variable (f : Value → Value)

/-! ### Tokens -/

namespace Token

/-- The token with its values replaced. -/
def mapValues : Token → Token
  | bind v => bind (f v)
  | raw sql params => raw sql (params.map f)
  | t => t

theorem guards_mapValues (t : Token) :
  (t.mapValues f).guards = t.guards
  := by
  cases t <;> rfl

theorem toText_mapValues (quoting : Quoting) (t : Token) :
  (t.mapValues f).toText quoting = t.toText quoting
  := by
  cases t <;> rfl

theorem params_mapValues (t : Token) :
  (t.mapValues f).params = t.params.map f
  := by
  cases t <;> rfl

@[simp]
theorem mapValues_text (s : String) :
  mapValues f (.text s) = .text s
  := rfl

@[simp]
theorem mapValues_name (n : String) :
  mapValues f (.name n) = .name n
  := rfl

@[simp]
theorem mapValues_table (schema : Option String) (n : String) :
  mapValues f (.table schema n) = .table schema n
  := rfl

@[simp]
theorem mapValues_function (n : String) :
  mapValues f (.function n) = .function n
  := rfl

@[simp]
theorem mapValues_order (s : String) :
  mapValues f (.order s) = .order s
  := rfl

@[simp]
theorem mapValues_bind (v : Value) :
  mapValues f (.bind v) = .bind (f v)
  := rfl

@[simp]
theorem mapValues_raw (sql : String) (vs : List Value) :
  mapValues f (.raw sql vs) = .raw sql (vs.map f)
  := rfl

@[simp]
theorem mapValues_refuse (e : QueryError) :
  mapValues f (.refuse e) = .refuse e
  := rfl

theorem map_separated (separator : String) (parts : List (List Token)) :
  (separated separator parts).map (mapValues f)
    = separated separator (parts.map (List.map (mapValues f)))
  := by
  fun_induction separated separator parts with
  | case1 => rfl
  | case2 part => rfl
  | case3 part rest hrest ih =>
    obtain ⟨next, rest, rfl⟩ := List.exists_cons_of_ne_nil hrest
    simp only [List.map_append, List.map_cons, mapValues_text, ih, separated]

theorem map_parenthesized (part : List Token) :
  (parenthesized part).map (mapValues f) = parenthesized (part.map (mapValues f))
  := by
  simp [parenthesized]

theorem map_parenthesizedIf (needed : Bool) (part : List Token) :
  (parenthesizedIf needed part).map (mapValues f) = parenthesizedIf needed (part.map (mapValues f))
  := by
  cases needed
  · rfl
  · apply map_parenthesized

end Token

/-! ### The arrangement of the parts -/

namespace SelectParts

/-- The parts of a select with their values replaced. -/
def mapValues (p : SelectParts) : SelectParts :=
  { p with
    ctes := p.ctes.map (Token.mapValues f)
    clash := p.clash.map (Token.mapValues f)
    hint := p.hint.map (Token.mapValues f)
    columns := p.columns.map (Column.mapValues f)
    exprs := p.exprs.map (List.map (Token.mapValues f))
    clauses := p.clauses.map (Token.mapValues f)
    order := fun around => (p.order around).map (Token.mapValues f)
    after := p.after.map (Token.mapValues f) }

variable (p : SelectParts)

theorem itemTokens_mapValues (c : Column) (expr : List Token) :
  (c.mapValues f).itemTokens (expr.map (Token.mapValues f))
    = (c.itemTokens expr).map (Token.mapValues f)
  := by
  unfold Column.itemTokens Column.aliasTokens
  rw [Column.aliasName_mapValues]
  cases c.aliasName <;> simp

theorem list_mapValues (head : Option SelectHead) :
  (p.mapValues f).list head = (p.list head).map (Token.mapValues f)
  := by
  have hitems : ∀ columns exprs,
      List.zipWith Column.itemTokens (columns.map (Column.mapValues f))
          (exprs.map (List.map (Token.mapValues f)))
        = (List.zipWith Column.itemTokens columns exprs).map (List.map (Token.mapValues f)) := by
    intro columns exprs
    rw [List.zipWith_map, List.map_zipWith]
    congr 1
    funext c expr
    apply itemTokens_mapValues
  obtain ⟨layout, ctes, clash, hint, columns, exprs, clauses, isOrdered, order, after⟩ := p
  have hplain : (if (columns.map (Column.mapValues f)).isEmpty then [.text "*"]
        else Token.separated ", " (List.zipWith Column.itemTokens
          (columns.map (Column.mapValues f)) (exprs.map (List.map (Token.mapValues f)))))
      = (if columns.isEmpty then [.text "*"]
        else Token.separated ", " (List.zipWith Column.itemTokens columns exprs)).map
          (Token.mapValues f) := by
    rw [hitems, ← Token.map_separated]
    cases columns <;> rfl
  cases head with
  | none => exact hplain
  | some h =>
    cases columns with
    | nil => exact congrArg (fun ts => .text h.text :: .text " " :: ts) hplain
    | cons c columns =>
      cases exprs with
      | nil => exact congrArg (fun ts => .text h.text :: .text " " :: ts) hplain
      | cons expr exprs =>
        simp only [list, mapValues, List.map_cons, Column.isDistinct_mapValues]
        split
        · simp [Token.map_separated, hitems, List.map_take]
        · exact congrArg (fun ts => .text h.text :: .text " " :: ts) hplain

theorem body_mapValues (first : List Token) (head : Option SelectHead) :
  (p.mapValues f).body (first.map (Token.mapValues f)) head
    = (p.body first head).map (Token.mapValues f)
  := by
  unfold body
  rw [list_mapValues]
  simp [mapValues]

theorem rowNumber_mapValues (around : Bool) :
  (p.mapValues f).rowNumber around = (p.rowNumber around).map (Token.mapValues f)
  := by
  unfold rowNumber mapValues
  cases p.isOrdered <;> simp

theorem core_mapValues (head : Option SelectHead) :
  (p.mapValues f).core head = (p.core head).map (Token.mapValues f)
  := by
  have hbody := body_mapValues f p [] head
  unfold core
  rw [← List.map_nil, hbody, List.map_append, List.map_append]
  congr 1
  cases h : p.isOrdered <;> simp [mapValues, h]

theorem numberedCore_mapValues (aliasSeparator : String) (head : Option SelectHead) :
  (p.mapValues f).numberedCore aliasSeparator head
    = (p.numberedCore aliasSeparator head).map (Token.mapValues f)
  := by
  have hdistinct : (p.mapValues f).columns.any Column.isDistinct
      = p.columns.any Column.isDistinct := by
    simp [mapValues, List.any_map, Function.comp_def]
  have hinner := body_mapValues f p [] none
  have hnumbered := body_mapValues f p (p.rowNumber false ++ [.text ", "]) head
  rw [List.map_nil] at hinner
  rw [List.map_append, List.map_singleton, Token.mapValues_text] at hnumbered
  unfold numberedCore
  rw [hdistinct, rowNumber_mapValues, rowNumber_mapValues, List.map_append]
  congr 1
  split
  · simp [hinner]
  · exact hnumbered

theorem preamble_mapValues (separator : String) :
  (p.mapValues f).preamble separator = (p.preamble separator).map (Token.mapValues f)
  := by
  unfold preamble mapValues
  cases p.ctes <;> simp

theorem outerNames_mapValues (columns : List Column) :
  outerNames (columns.map (Column.mapValues f)) = outerNames columns
  := by
  simp [outerNames, Function.comp_def]

/-- The parts of a select with other values are arranged as before. -/
theorem tokens_mapValues (aliasSeparator : String) :
  (p.mapValues f).tokens aliasSeparator = (p.tokens aliasSeparator).map (Token.mapValues f)
  := by
  have houter : outerNames (p.mapValues f).columns = outerNames p.columns :=
    outerNames_mapValues f p.columns
  have hctes : (p.mapValues f).ctes.isEmpty = p.ctes.isEmpty := List.isEmpty_map
  have hlayout : (p.mapValues f).layout = p.layout := rfl
  have hafter : (p.mapValues f).after = p.after.map (Token.mapValues f) := rfl
  unfold tokens paged standard
  rw [hlayout, hafter, hctes, houter, List.map_append]
  congr 1
  cases p.layout with
  | inline head tail =>
    cases tail <;> simp [preamble_mapValues, core_mapValues]
  | wrapped before after => simp [preamble_mapValues, core_mapValues]
  | numbered first last =>
    cases p.ctes.isEmpty <;> simp [preamble_mapValues, numberedCore_mapValues]

end SelectParts

/-! ### The parts of a query -/

theorem map_namedTokens (scope : Option Scope) (table : Option String) (name : String) :
  (namedTokens scope table name).map (Token.mapValues f) = namedTokens scope table name
  := by
  unfold namedTokens
  split <;> rfl

theorem map_cteHead (name : String) (columns : List String) :
  (cteHead name columns).map (Token.mapValues f) = cteHead name columns
  := by
  have hcolumns : List.map (Token.mapValues f) ∘ (fun c => [Token.name c])
      = fun c => [.name c] := rfl
  unfold cteHead
  split
  · rfl
  · simp [Token.map_parenthesized, Token.map_separated, hcolumns]

theorem map_tableAliasTokens (style : SelectStyle) (aliasName : Option String) :
  (tableAliasTokens style aliasName).map (Token.mapValues f) = tableAliasTokens style aliasName
  := by
  cases aliasName <;> rfl

theorem map_orderWords (direction : Option Direction) (nulls : Option NullOrder) :
  (orderWords direction nulls).map (Token.mapValues f) = orderWords direction nulls
  := by
  cases direction <;> cases nulls <;> rfl

theorem bindTokens_map (vs : List Value) :
  bindTokens (vs.map f) = (bindTokens vs).map (Token.mapValues f)
  := by
  simp [bindTokens, Token.map_separated, Function.comp_def]

theorem Scope.of_mapValues (sources : List Table) (joins : List Join) :
  Scope.of (Table.mapValuesEach f sources) (Join.mapValuesEach f joins) = Scope.of sources joins
  := by
  have hvisible : Table.visible ∘ Table.mapValues f = Table.visible := by
    funext t
    simp [Table.visible]
  unfold Scope.of
  rw [Join.tables_mapValuesEach, List.map_map, hvisible]

theorem clashTokens_mapValues (sources : List Table) (joins : List Join) :
  clashTokens (Table.mapValuesEach f sources) (Join.mapValuesEach f joins)
    = (clashTokens sources joins).map (Token.mapValues f)
  := by
  unfold clashTokens
  rw [Join.tables_mapValuesEach, Table.firstClash?_map_mapValues]
  cases Table.firstClash? (sources ++ (joins.filter Join.included).map Join.table) <;> simp

/-- A clause that is left out when it is empty. -/
theorem clause_mapValues (isEmpty : Bool) (word : String) {body body' : List Token}
    (hbody : body' = body.map (Token.mapValues f)) :
  (if isEmpty then [] else .text word :: body')
    = (if isEmpty then [] else .text word :: body).map (Token.mapValues f)
  := by
  cases isEmpty <;> simp [hbody]

theorem OrderItem.tokens_mapValues {style : SelectStyle} {scope : Option Scope} {c : Column}
    (h : Column.tokens style scope (c.mapValues f)
      = (Column.tokens style scope c).map (Token.mapValues f))
    (around : Bool) (direction : Option Direction) (nulls : Option NullOrder) :
  OrderItem.tokens style scope around (.column (c.mapValues f) direction nulls)
    = (OrderItem.tokens style scope around (.column c direction nulls)).map (Token.mapValues f)
  := by
  unfold tokens
  rw [List.map_append, map_orderWords, Column.name?_mapValues, h]
  congr 1
  cases around <;> cases c.name? <;> rfl

theorem Join.tokens_mapValues {style : SelectStyle} {scope : Option Scope} {j : Join}
    (htable : Table.tokens style scope (j.table.mapValues f)
      = (Table.tokens style scope j.table).map (Token.mapValues f))
    (hon : ∀ c, j.on = some c → Condition.tokens style scope (c.mapValues f)
      = (Condition.tokens style scope c).map (Token.mapValues f)) :
  Join.tokens style scope (j.mapValues f) = (Join.tokens style scope j).map (Token.mapValues f)
  := by
  obtain ⟨kind, table, on, included⟩ := j
  cases on with
  | none => simp [Join.tokens, Join.mapValues, htable]
  | some c =>
    have hc := clause_mapValues f c.isEmpty " ON " (hon c rfl)
    simp [Join.tokens, Join.mapValues, htable, hc]

/-- A list behind a word that is left out when the list is empty. -/
theorem listClause_mapValues (isEmpty : Bool) (word : String) {parts parts' : List (List Token)}
    (hparts : parts' = parts.map (List.map (Token.mapValues f))) :
  (if isEmpty then [] else .text word :: Token.separated ", " parts')
    = (if isEmpty then [] else .text word :: Token.separated ", " parts).map (Token.mapValues f)
  := by
  apply clause_mapValues
  rw [hparts, Token.map_separated]

section

variable (style : SelectStyle)

mutual

/-- The parts of a query with other values are its parts with other values. -/
theorem Query.parts_mapValues (scope : Option Scope) :
    ∀ q : Query,
  (q.mapValues f).parts style scope = (q.parts style scope).mapValues f
  | ⟨recursive, ctes, hint, columns, sources, joins, filter, groups, having, order, rows,
      offset, partners, endings⟩ => by
    let own := some (Scope.of sources joins)
    have horder := fun scope around => OrderItem.tokensEach_mapValues scope around order
    have hfrom := listClause_mapValues f sources.isEmpty " FROM "
      (Table.tokensEach_mapValues own sources)
    have hwhere := clause_mapValues f filter.isEmpty " WHERE "
      (Condition.tokens_mapValues own filter)
    have hgroups := listClause_mapValues f groups.isEmpty " GROUP BY "
      (Column.tokensEach_mapValues own groups)
    have hhaving := clause_mapValues f having.isEmpty " HAVING "
      (Condition.tokens_mapValues own having)
    unfold Query.mapValues Query.parts SelectParts.mapValues
    simp only [SelectParts.mk.injEq, true_and, Scope.of_mapValues, Cte.isEmpty_mapValuesEach,
      Column.isEmpty_mapValuesEach, Table.isEmpty_mapValuesEach, Condition.isEmpty_mapValues,
      OrderItem.isEmpty_mapValuesEach]
    and_intros
    · apply listClause_mapValues f _ _ (Cte.tokensEach_mapValues scope ctes)
    · apply clashTokens_mapValues
    · cases hint <;> rfl
    · apply Column.mapValuesEach_eq_map
    · apply Column.tokensEach_mapValues own columns
    · rw [hfrom, Join.includedTokens_mapValues own joins, hwhere, hgroups, hhaving,
        List.map_append, List.map_append, List.map_append, List.map_append]
    · funext around
      rw [Token.map_separated, horder]
    · rw [List.map_append, Partner.tokensEach_mapValues scope partners, List.map_flatMap]
      rfl

theorem Cte.tokensEach_mapValues (scope : Option Scope) :
    ∀ ctes : List Cte,
  Cte.tokensEach style scope (Cte.mapValuesEach f ctes)
    = (Cte.tokensEach style scope ctes).map (List.map (Token.mapValues f))
  | [] => rfl
  | ⟨name, columns, q⟩ :: rest => by
    rw [Cte.mapValuesEach, Cte.tokensEach, Cte.tokensEach, List.map_cons, List.map_append,
      map_cteHead, Token.map_parenthesized, ← SelectParts.tokens_mapValues,
      Query.parts_mapValues scope q, Cte.tokensEach_mapValues scope rest]

theorem Partner.tokensEach_mapValues (scope : Option Scope) :
    ∀ partners : List Partner,
  Partner.tokensEach style scope (Partner.mapValuesEach f partners)
    = (Partner.tokensEach style scope partners).map (Token.mapValues f)
  | [] => rfl
  | ⟨kind, q⟩ :: rest => by
    have hlimited : (q.mapValues f).isLimited = q.isLimited := by
      cases q
      rfl
    have hordered : (q.mapValues f).order.isEmpty = q.order.isEmpty := by
      cases q
      apply OrderItem.isEmpty_mapValuesEach
    rw [Partner.mapValuesEach, Partner.tokensEach, Partner.tokensEach, List.map_append,
      List.map_append, Token.map_parenthesizedIf, ← SelectParts.tokens_mapValues, hlimited,
      hordered, Query.parts_mapValues scope q, Partner.tokensEach_mapValues scope rest]
    rfl

theorem Column.tokens_mapValues (scope : Option Scope) :
    ∀ c : Column,
  Column.tokens style scope (c.mapValues f)
    = (Column.tokens style scope c).map (Token.mapValues f)
  | ⟨expr, _⟩ => Expr.tokens_mapValues scope expr

theorem Column.tokensEach_mapValues (scope : Option Scope) :
    ∀ columns : List Column,
  Column.tokensEach style scope (Column.mapValuesEach f columns)
    = (Column.tokensEach style scope columns).map (List.map (Token.mapValues f))
  | [] => rfl
  | c :: rest => by
    rw [Column.mapValuesEach, Column.tokensEach, Column.tokensEach, List.map_cons,
      Column.tokens_mapValues scope c, Column.tokensEach_mapValues scope rest]

theorem Expr.tokens_mapValues (scope : Option Scope) :
    ∀ e : Expr,
  Expr.tokens style scope (e.mapValues f) = (Expr.tokens style scope e).map (Token.mapValues f)
  | .named table name => (map_namedTokens f scope table name).symm
  | .call function args => by
    rw [Expr.mapValues, Expr.tokens, Expr.tokens, Column.tokensEach_mapValues scope args,
      List.map_cons, Token.map_parenthesized, Token.map_separated]
    rfl
  | .distinct columns => by
    rw [Expr.mapValues, Expr.tokens, Expr.tokens, Column.tokensEach_mapValues scope columns,
      List.map_cons, Token.map_separated]
    rfl
  | .raw sql params => rfl
  | .param v => rfl
  | .arithmetic left op right => by
    rw [Expr.mapValues, Expr.tokens, Expr.tokens, Column.tokens_mapValues scope left,
      Column.tokens_mapValues scope right, Column.isArithmetic_mapValues,
      Column.isArithmetic_mapValues, List.map_append, List.map_append, Token.map_parenthesizedIf,
      Token.map_parenthesizedIf]
    rfl
  | .subquery q => by
    rw [Expr.mapValues, Expr.tokens, Expr.tokens, Query.parts_mapValues scope q,
      SelectParts.tokens_mapValues, Token.map_parenthesized]

theorem Table.tokens_mapValues (scope : Option Scope) :
    ∀ t : Table,
  Table.tokens style scope (t.mapValues f) = (Table.tokens style scope t).map (Token.mapValues f)
  | ⟨source, aliasName⟩ => by
    rw [Table.mapValues, Table.tokens, Table.tokens, Source.tokens_mapValues scope source,
      List.map_append, map_tableAliasTokens]

theorem Table.tokensEach_mapValues (scope : Option Scope) :
    ∀ tables : List Table,
  Table.tokensEach style scope (Table.mapValuesEach f tables)
    = (Table.tokensEach style scope tables).map (List.map (Token.mapValues f))
  | [] => rfl
  | t :: rest => by
    rw [Table.mapValuesEach, Table.tokensEach, Table.tokensEach, List.map_cons,
      Table.tokens_mapValues scope t, Table.tokensEach_mapValues scope rest]

theorem Source.tokens_mapValues (scope : Option Scope) :
    ∀ source : Source,
  Source.tokens style scope (source.mapValues f)
    = (Source.tokens style scope source).map (Token.mapValues f)
  | .named schema name => rfl
  | .derived q => by
    rw [Source.mapValues, Source.tokens, Source.tokens, Query.parts_mapValues scope q,
      SelectParts.tokens_mapValues, Token.map_parenthesized]

theorem Join.includedTokens_mapValues (scope : Option Scope) :
    ∀ joins : List Join,
  Join.includedTokens style scope (Join.mapValuesEach f joins)
    = (Join.includedTokens style scope joins).map (Token.mapValues f)
  | [] => rfl
  | ⟨kind, table, none, included⟩ :: rest => by
    have hjoin := Join.tokens_mapValues f (j := ⟨kind, table, none, included⟩)
      (Table.tokens_mapValues scope table) nofun
    rw [Join.mapValues, Option.map_none] at hjoin
    rw [Join.mapValuesEach, Join.includedTokens, Join.includedTokens, hjoin,
      Join.includedTokens_mapValues scope rest]
    cases included <;> simp
  | ⟨kind, table, some c, included⟩ :: rest => by
    have hc := Condition.tokens_mapValues scope c
    have hjoin := Join.tokens_mapValues f (j := ⟨kind, table, some c, included⟩)
      (Table.tokens_mapValues scope table) (by rintro _ ⟨⟩; exact hc)
    rw [Join.mapValues, Option.map_some] at hjoin
    rw [Join.mapValuesEach, Join.includedTokens, Join.includedTokens, hjoin,
      Join.includedTokens_mapValues scope rest]
    cases included <;> simp

theorem Condition.tokens_mapValues (scope : Option Scope) :
    ∀ c : Condition,
  Condition.tokens style scope (c.mapValues f)
    = (Condition.tokens style scope c).map (Token.mapValues f)
  | .empty => rfl
  | .predicate column op operand => by
    rw [Condition.mapValues, Condition.tokens, Condition.tokens,
      Column.tokens_mapValues scope column, Operand.tokens_mapValues scope operand,
      List.map_append, List.map_append]
    rfl
  | .raw sql params => rfl
  | .existence negated q => by
    rw [Condition.mapValues, Condition.tokens, Condition.tokens, Query.parts_mapValues scope q,
      SelectParts.tokens_mapValues, List.map_cons, Token.map_parenthesized]
    rfl
  | .not c => by
    rw [Condition.mapValues, Condition.tokens, Condition.tokens, Condition.isEmpty_mapValues]
    apply clause_mapValues
    rw [Condition.tokens_mapValues scope c, Token.map_parenthesized]
  | .group c => by
    rw [Condition.mapValues, Condition.tokens, Condition.tokens, Condition.isEmpty_mapValues,
      Condition.tokens_mapValues scope c, ← Token.map_parenthesized]
    cases c.isEmpty <;> rfl
  | .connect left op right => by
    have hleft := Condition.tokens_mapValues scope left
    have hright := Condition.tokens_mapValues scope right
    rw [Condition.mapValues, Condition.tokens, Condition.tokens, Condition.isEmpty_mapValues,
      Condition.isEmpty_mapValues, Condition.needsParentheses_mapValues,
      Condition.needsParentheses_mapValues, hleft, hright, ← Token.map_parenthesizedIf,
      ← Token.map_parenthesizedIf]
    cases left.isEmpty
    · cases right.isEmpty <;> simp
    · rfl

theorem Operand.tokens_mapValues (scope : Option Scope) :
    ∀ operand : Operand,
  Operand.tokens style scope (operand.mapValues f)
    = (Operand.tokens style scope operand).map (Token.mapValues f)
  | .absent => rfl
  | .value v => rfl
  | .list vs => by
    rw [Operand.mapValues, Operand.tokens, Operand.tokens, bindTokens_map, List.map_cons,
      Token.map_parenthesized]
    rfl
  | .range first last => rfl
  | .column c => by
    rw [Operand.mapValues, Operand.tokens, Operand.tokens, Column.tokens_mapValues scope c]
    rfl
  | .query q => by
    rw [Operand.mapValues, Operand.tokens, Operand.tokens, Query.parts_mapValues scope q,
      SelectParts.tokens_mapValues, List.map_cons, Token.map_parenthesized]
    rfl

theorem OrderItem.tokensEach_mapValues (scope : Option Scope) (around : Bool) :
    ∀ order : List OrderItem,
  OrderItem.tokensEach style scope around (OrderItem.mapValuesEach f order)
    = (OrderItem.tokensEach style scope around order).map (List.map (Token.mapValues f))
  | [] => rfl
  | .column c direction nulls :: rest => by
    rw [OrderItem.mapValuesEach, OrderItem.tokensEach, OrderItem.tokensEach, List.map_cons,
      OrderItem.tokens_mapValues f (Column.tokens_mapValues scope c),
      OrderItem.tokensEach_mapValues scope around rest]
  | .raw text :: rest => by
    rw [OrderItem.mapValuesEach, OrderItem.tokensEach, OrderItem.tokensEach, List.map_cons,
      OrderItem.tokensEach_mapValues scope around rest]
    rfl

end

end

theorem Query.tokens_mapValues (style : SelectStyle) (scope : Option Scope) (q : Query) :
  (q.mapValues f).tokens style scope = (q.tokens style scope).map (Token.mapValues f)
  := by
  rw [tokens, tokens, parts_mapValues, SelectParts.tokens_mapValues]

end SqlRender
