import SqlRender.Proofs.BoundValues
import SqlRender.Proofs.WrittenTokens

/-!
# Queries inside of queries

A writer writes every query as the tokens of the query in the innermost scope.  These
depend on the scope only where the ordering of numbered rows is written around the query,
which is so under the paging by row numbers alone.  Under every other paging a sub-query, a
common table expression, a derived table and a partner of a union is written as the same
statement wherever it stands: `Dialect.select_in_place`.
-/

namespace SqlRender

open Writing

/-! ### Writing the parts -/

theorem Writing.writes_item {quoting : Quoting} {scope : Option Scope} {c : Column} {m : Writing}
    {ts : List Token} (hm : m.Writes quoting scope ts) :
  Writes quoting scope (do m; aliased quoting " AS " c.aliasName) (c.itemTokens ts)
  := by
  obtain ⟨expr, aliasName⟩ := c
  have halias := hm.seq (writes_aliased " AS " aliasName)
  cases aliasName <;> exact halias

theorem SelectSteps.WritesParts.query {d : Dialect} {scope : Option Scope} {p : SelectSteps}
    {t : SelectParts} (h : p.WritesParts d.quoting scope t) :
  (p.write d.aliasSeparator).Writes d.quoting scope (t.tokens d.style.aliasSeparator)
  := h.write d.aliasSeparator

section

variable (d : Dialect)

mutual

/-- The parts of a query are written in the scope around it or in its own. -/
theorem Query.writes_parts (scope : Option Scope) :
    ∀ q : Query, (q.steps d).WritesParts d.quoting scope (q.parts d.style scope)
  | ⟨recursive, ctes, hint, columns, sources, joins, filter, groups, having, order, rows, offset,
      partners, endings⟩ => by
    let own := some (Scope.of sources joins)
    have hfrom := ((writes_push " FROM ").seq
      (writes_separated ", " (Table.writes_each own sources))).clause sources.isEmpty
    have hjoins := Join.writes_included own joins
    have hfilter :=
      ((writes_push " WHERE ").seq (Condition.writes own filter)).clause filter.isEmpty
    have hgroups := ((writes_push " GROUP BY ").seq
      (writes_separated ", " (Column.writes_each own groups))).clause groups.isEmpty
    have hhaving :=
      ((writes_push " HAVING ").seq (Condition.writes own having)).clause having.isEmpty
    have hhint : Writes d.quoting own
        (optional (fun h => do push "/*+ "; raw h []; push " */ ") hint)
        (hint.elim [] fun h => [.text "/*+ ", .raw h [], .text " */ "]) :=
      writes_optional
        (fun h => (writes_push "/*+ ").seq ((writes_raw h []).seq (writes_push " */ "))) hint
    exact
      { layout := rfl
        columns := rfl
        isOrdered := rfl
        hasCtes := by cases ctes <;> rfl
        ctes := by
          intro hctes
          cases ctes with
          | nil => cases hctes
          | cons cte rest =>
            exact (writes_push _).seq (writes_separated ", " (Cte.writes_each scope (cte :: rest)))
        clash := writes_clash sources joins
        hint := hhint
        items := Column.writes_itemEach _ columns
        distinct := Column.writes_leading _ columns
        clauses := by
          have hclauses := hfrom.seq (hjoins.seq (hfilter.seq (hgroups.seq hhaving)))
          -- the clauses of the tokens associate to the left, the steps to the right
          simp only [← List.append_assoc] at hclauses
          exact hclauses
        order_inside := writes_separated ", " (OrderItem.writes_each _ false order)
        order_around := writes_separated ", " (OrderItem.writes_each _ true order)
        after := (writes_endings endings).seq (Partner.writes_all scope partners) }

theorem Cte.writes_each (scope : Option Scope) :
    ∀ ctes : List Cte,
  List.Forall₂ (Writes d.quoting scope) (Cte.writeEach d ctes) (Cte.tokensEach d.style scope ctes)
  | [] => .nil
  | ⟨n, columns, q⟩ :: rest =>
    have hq := (Query.writes_parts scope q).query
    .cons ((writes_cteHead n columns).seq hq.parenthesized) (Cte.writes_each scope rest)

theorem Partner.writes_all (scope : Option Scope) :
    ∀ partners : List Partner,
  (Partner.writeAll d partners).Writes d.quoting scope (Partner.tokensEach d.style scope partners)
  | [] => writes_pure
  | ⟨kind, q⟩ :: rest => by
    have hq := (Query.writes_parts scope q).query
    have hpartner := hq.parenthesizedIf (!q.order.isEmpty || q.isLimited)
    simpa [Partner.writeAll, Partner.tokensEach] using (writes_push " ").seq
      ((writes_push kind.words).seq ((writes_push " ").seq
        (hpartner.seq (Partner.writes_all scope rest))))

theorem Column.writes (scope : Option Scope) :
    ∀ c : Column, (c.write d).Writes d.quoting scope (c.tokens d.style scope)
  | ⟨expr, _⟩ => Expr.writes scope expr

theorem Column.writes_each (scope : Option Scope) :
    ∀ columns : List Column,
  List.Forall₂ (Writes d.quoting scope) (Column.writeEach d columns)
    (Column.tokensEach d.style scope columns)
  | [] => .nil
  | c :: rest => .cons (Column.writes scope c) (Column.writes_each scope rest)

theorem Column.writes_leading (scope : Option Scope) :
    ∀ (columns : List Column) (c : Column) (rest : List Column), columns = c :: rest →
      c.isDistinct = true →
  ∃ tss exprs,
    Column.tokensEach d.style scope columns
        = (.text "DISTINCT " :: Token.separated ", " tss) :: exprs
      ∧ List.Forall₂ (Writes d.quoting scope) (Column.writeLeading d columns) tss
  | ⟨.distinct inner, _⟩ :: _, _, _, rfl, _ => ⟨_, _, rfl, Column.writes_each scope inner⟩
  | ⟨.named .., _⟩ :: _, _, _, rfl, h | ⟨.call .., _⟩ :: _, _, _, rfl, h
  | ⟨.raw .., _⟩ :: _, _, _, rfl, h | ⟨.param _, _⟩ :: _, _, _, rfl, h
  | ⟨.arithmetic .., _⟩ :: _, _, _, rfl, h | ⟨.subquery _, _⟩ :: _, _, _, rfl, h => nomatch h

theorem Column.writes_itemEach (scope : Option Scope) :
    ∀ columns : List Column,
  List.Forall₂ (Writes d.quoting scope) (Column.itemEach d columns)
    (List.zipWith Column.itemTokens columns (Column.tokensEach d.style scope columns))
  | [] => .nil
  | c :: rest => .cons (writes_item (Column.writes scope c)) (Column.writes_itemEach scope rest)

theorem Expr.writes (scope : Option Scope) :
    ∀ e : Expr, (e.write d).Writes d.quoting scope (e.tokens d.style scope)
  | .named table n => writes_column table n
  | .call f args =>
    (writes_function f).seq (writes_separated ", " (Column.writes_each scope args)).parenthesized
  | .distinct columns =>
    (writes_push "DISTINCT ").seq (writes_separated ", " (Column.writes_each scope columns))
  | .raw sql params => writes_raw sql params
  | .param v => writes_bind v
  | .arithmetic left op right => by
    have hleft := (Column.writes scope left).parenthesizedIf left.isArithmetic
    have hright := (Column.writes scope right).parenthesizedIf right.isArithmetic
    simpa [Expr.write, Expr.tokens] using hleft.seq ((writes_push " ").seq
      ((writes_push op.word).seq ((writes_push " ").seq hright)))
  | .subquery q => ((Query.writes_parts scope q).query).parenthesized

theorem Table.writes (scope : Option Scope) :
    ∀ t : Table, (t.write d).Writes d.quoting scope (t.tokens d.style scope)
  | ⟨source, aliasName⟩ => by
    have halias := (Source.writes scope source).seq (writes_aliased d.aliasSeparator aliasName)
    cases aliasName <;> exact halias

theorem Table.writes_each (scope : Option Scope) :
    ∀ tables : List Table,
  List.Forall₂ (Writes d.quoting scope) (Table.writeEach d tables)
    (Table.tokensEach d.style scope tables)
  | [] => .nil
  | t :: rest => .cons (Table.writes scope t) (Table.writes_each scope rest)

theorem Source.writes (scope : Option Scope) :
    ∀ s : Source, (s.write d).Writes d.quoting scope (s.tokens d.style scope)
  | .named schema n => writes_table schema n
  | .derived q => ((Query.writes_parts scope q).query).parenthesized

theorem Join.writes (scope : Option Scope) :
    ∀ j : Join, (j.write d).Writes d.quoting scope (j.tokens d.style scope)
  | ⟨kind, table, on, included⟩ => by
    have htable := Table.writes scope table
    cases on with
    | none =>
      simpa [Join.write, Join.tokens] using
        (writes_push kind.words).seq ((writes_push " ").seq (htable.seq writes_pure))
    | some c =>
      have hon := ((writes_push " ON ").seq (Condition.writes scope c)).clause c.isEmpty
      simpa [Join.write, Join.tokens] using
        (writes_push kind.words).seq ((writes_push " ").seq (htable.seq hon))

theorem Join.writes_included (scope : Option Scope) :
    ∀ joins : List Join,
  (Join.writeIncluded d joins).Writes d.quoting scope (Join.includedTokens d.style scope joins)
  | [] => writes_pure
  | j :: rest => by
    have hj := ((writes_push " ").seq (Join.writes scope j)).clause !j.included
    rw [Join.writeIncluded, Join.includedTokens]
    cases hincluded : j.included <;>
      simpa [hincluded] using hj.seq (Join.writes_included scope rest)

theorem Condition.writes (scope : Option Scope) :
    ∀ c : Condition, (c.write d).Writes d.quoting scope (c.tokens d.style scope)
  | .empty => writes_pure
  | .predicate c op operand => by
    simpa [Condition.write, Condition.tokens] using (Column.writes scope c).seq
      ((writes_push " ").seq ((writes_push op.words).seq (Operand.writes scope operand)))
  | .raw sql params => writes_raw sql params
  | .existence negated q => (writes_push _).seq (Query.writes_parts scope q).query.parenthesized
  | .not c =>
    ((writes_push "NOT ").seq (Condition.writes scope c).parenthesized).clause c.isEmpty
  | .group c => (Condition.writes scope c).parenthesized.clause c.isEmpty
  | .connect left op right => by
    have hleft := Condition.writes scope left
    have hright := Condition.writes scope right
    rw [Condition.write, Condition.tokens]
    split
    · exact hright
    · split
      · exact hleft
      · have hleft := hleft.parenthesizedIf (left.needsParentheses op)
        have hright := hright.parenthesizedIf (right.needsParentheses op)
        simpa using hleft.seq ((writes_push " ").seq
          ((writes_push op.word).seq ((writes_push " ").seq hright)))

theorem Operand.writes (scope : Option Scope) :
    ∀ o : Operand, (o.write d).Writes d.quoting scope (o.tokens d.style scope)
  | .absent => writes_pure
  | .value v => (writes_push " ").seq (writes_bind v)
  | .list vs =>
    (writes_push " ").seq (writes_separated ", " (forall₂_writes_map writes_bind vs)).parenthesized
  | .range first last => (writes_push " ").seq ((writes_bind first).seq
    ((writes_push " AND ").seq (writes_bind last)))
  | .column c => (writes_push " ").seq (Column.writes scope c)
  | .query q =>
    (writes_push " ").seq ((Query.writes_parts scope q).query).parenthesized

theorem OrderItem.writes (scope : Option Scope) (around : Bool) :
    ∀ item : OrderItem,
  (item.write d around).Writes d.quoting scope (item.tokens d.style scope around)
  | .column c direction nulls => by
    have hc := Column.writes scope c
    refine Writes.seq ?_ (writes_orderWords direction nulls)
    cases around with
    | false => exact hc
    | true =>
      cases c.name? with
      | none => exact hc
      | some n => exact writes_name n
  | .raw text => writes_verified (t := .order text) rfl rfl

theorem OrderItem.writes_each (scope : Option Scope) (around : Bool) :
    ∀ items : List OrderItem,
  List.Forall₂ (Writes d.quoting scope) (OrderItem.writeEach d around items)
    (OrderItem.tokensEach d.style scope around items)
  | [] => .nil
  | item :: rest =>
    .cons (OrderItem.writes scope around item) (OrderItem.writes_each scope around rest)

end

end

/-! ### The scope around a query -/

/-- Without numbered rows the ordering around a query makes no difference. -/
theorem SelectParts.tokens_eq_of_order {p p' : SelectParts} (hp : p.isNumbered = false)
    (hparts : { p with order := p'.order } = p') (horder : p'.order false = p.order false)
    (aliasSeparator : String) :
  p.tokens aliasSeparator = p'.tokens aliasSeparator
  := by
  rw [← congrArg (tokens · aliasSeparator) hparts]
  unfold isNumbered at hp
  unfold tokens paged
  cases hlayout : p.layout with
  | inline head tail => simp only [standard, core, preamble, body, list, horder]
  | wrapped before after => simp only [standard, core, preamble, body, list, horder]
  | numbered first last => simp [hlayout] at hp

variable {style : SelectStyle}

mutual

/-- A query has the same tokens in every scope. -/
theorem Query.tokens_parts_scope (hpaging : style.paging ≠ .rowNumber) (scope : Option Scope) :
    ∀ q : Query,
  (q.parts style scope).tokens style.aliasSeparator
    = (q.parts style none).tokens style.aliasSeparator
  | ⟨recursive, ctes, hint, columns, sources, joins, filter, groups, having, order, rows, offset,
      partners, endings⟩ => by
    rw [Query.parts, Query.parts, Cte.tokensEach_scope hpaging scope ctes,
      Partner.tokensEach_scope hpaging scope partners]
    apply SelectParts.tokens_eq_of_order
    · rw [SelectParts.isNumbered_of_layout rfl, ordersFirst_eq_false hpaging]
    · rfl
    · rfl

theorem Cte.tokensEach_scope (hpaging : style.paging ≠ .rowNumber) (scope : Option Scope) :
    ∀ ctes : List Cte,
  Cte.tokensEach style scope ctes = Cte.tokensEach style none ctes
  | [] => rfl
  | ⟨n, columns, q⟩ :: rest => by
    rw [Cte.tokensEach, Cte.tokensEach, Query.tokens_parts_scope hpaging scope q,
      Cte.tokensEach_scope hpaging scope rest]

theorem Partner.tokensEach_scope (hpaging : style.paging ≠ .rowNumber) (scope : Option Scope) :
    ∀ partners : List Partner,
  Partner.tokensEach style scope partners = Partner.tokensEach style none partners
  | [] => rfl
  | ⟨kind, q⟩ :: rest => by
    rw [Partner.tokensEach, Partner.tokensEach, Query.tokens_parts_scope hpaging scope q,
      Partner.tokensEach_scope hpaging scope rest]

end

/-! ### Writing a query in place -/

/-- Wherever a writer is, it appends to what is written exactly the statement of a query, or
fails with the error of that statement; and it leaves the scopes as they were. -/
theorem Dialect.select_in_place {d : Dialect} (hd : d.paging ≠ .rowNumber) (q : Query)
    (w : Writer) :
  (∃ s, d.select q = .ok s
      ∧ q.write d w = .ok () { w with sql := w.sql ++ s.sql, params := w.params ++ s.params })
    ∨ ∃ e w', d.select q = .error e ∧ q.write d w = .error e w' ∧ w'.scopes = w.scopes
  := by
  have hwrites := (Query.writes_parts d w.scopes.head? q).query
  rw [Query.tokens_parts_scope hd] at hwrites
  have hw := hwrites w rfl
  rw [Dialect.select, Dialect.statement, Statement.ofTokens, Query.tokens]
  cases hguards : Guard.verifyAll _ with
  | ok =>
    simp only [hguards] at hw
    exact .inl ⟨_, rfl, hw⟩
  | error e =>
    simp only [hguards] at hw
    obtain ⟨w', hwrite, hscopes⟩ := hw
    exact .inr ⟨e, w', rfl, hwrite, hscopes⟩

/-- The articles of an account of the query around that were read often. -/
def readArticles : Query :=
  { Query.empty with
    columns := [⟨.named none "id", none⟩]
    sources := [⟨.named none "articles", none⟩]
    filter := .connect
      (.predicate ⟨.named (some "articles") "owner", none⟩ .eq
        (.column ⟨.named (some "accounts") "id", none⟩)) .and
      (.predicate ⟨.named none "hits", none⟩ .gt (.value (.int 9)))
    rows := some 3 }

/-- A writer inside of EXISTS. -/
def insideExists : Writer :=
  ⟨"SELECT `name` FROM `accounts` WHERE `age` > ? AND EXISTS (", [.int 7],
    [[⟨some "accounts", none⟩]]⟩

/-- The articles are written behind EXISTS as they are written alone. -/
theorem select_in_place_readArticles :
  (Dialect.builtIn .mysql).paging ≠ .rowNumber
    ∧ readArticles.write (Dialect.builtIn .mysql) insideExists
      = .ok ()
        ⟨"SELECT `name` FROM `accounts` WHERE `age` > ? AND EXISTS ("
          ++ "SELECT `id` FROM `articles` WHERE `owner` = `accounts`.`id` AND `hits` > ? LIMIT 3",
          [.int 7, .int 9], [[⟨some "accounts", none⟩]]⟩
  := by
  have hpaging : (Dialect.builtIn .mysql).paging ≠ .rowNumber := by decide
  constructor
  · exact hpaging
  · obtain ⟨s, hs, hwrite⟩ | ⟨e, -, he, -⟩ :=
      Dialect.select_in_place hpaging readArticles insideExists
    · obtain rfl := Except.ok.inj hs
      rw [hwrite]
      rfl
    · cases he

end SqlRender
