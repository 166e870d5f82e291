import SqlRender.Proofs.Batches
import SqlRender.Proofs.Changes
import SqlRender.Proofs.Placement
import SqlRender.Proofs.PrunedConditions

/-!
# Clauses with a condition

ON, WHERE and HAVING stand before a condition, and are left out with it.  As long as no text
of the caller is blank, such a clause is the word before the text of its condition, or nothing
where that text is blank.  A select consists of these clauses, and a change has them too, with
a condition that is not empty.  Conditions of a query that are alike can replace each other:
`Dialect.writesContent`.
-/

namespace SqlRender

/-! ### Texts that are blank -/

theorem Text.isAllBlank_append (s t : String) :
  isAllBlank (s ++ t) = (isAllBlank s && isAllBlank t)
  := by simp [isAllBlank]

/-- A text with a part that is not blank is not blank. -/
theorem Token.isAllBlank_written_of_mem {quoting : Quoting} {t : Token} {ts : List Token}
    (ht : t ∈ ts) (hblank : Text.isAllBlank (t.toText quoting) = false) :
  Text.isAllBlank (written quoting ts) = false
  := by
  obtain ⟨before, after, rfl⟩ := List.append_of_mem ht
  rw [written_append, written_cons, Text.isAllBlank_append, Text.isAllBlank_append, hblank,
    Bool.false_and, Bool.and_false]

/-- A text with a word in it is not blank. -/
theorem Token.isAllBlank_written_of_text {quoting : Quoting} {word : String} {ts : List Token}
    (hword : .text word ∈ ts) (hblank : Text.isAllBlank word = false) :
  Text.isAllBlank (written quoting ts) = false
  := isAllBlank_written_of_mem hword hblank

namespace Condition

/-- The texts of the caller that stand in the place of conditions. -/
def rawTexts : Condition → List String
  | .raw sql _ => [sql]
  | .not c => c.rawTexts
  | .group c => c.rawTexts
  | .connect left _ right => left.rawTexts ++ right.rawTexts
  | _ => []

/-- If no text of the caller is blank, then the text of a condition is not blank either, unless
the condition is empty. -/
theorem isAllBlank_written_tokens (quoting : Quoting) (style : SelectStyle)
    (scope : Option Scope) :
    ∀ c : Condition, (∀ sql ∈ c.rawTexts, Text.isAllBlank sql = false) → c.isEmpty = false →
  Text.isAllBlank (Token.written quoting (c.tokens style scope)) = false
  | .predicate _ op _, _, _ => by
    have hword : Text.isAllBlank op.words = false := by cases op <;> decide
    apply Token.isAllBlank_written_of_text _ hword
    simp [tokens]
  | .raw sql params, hraw, _ =>
    Token.isAllBlank_written_of_mem (t := .raw sql params) List.mem_cons_self
      (hraw sql List.mem_cons_self)
  | .existence negated _, _, _ => by
    have hword : Text.isAllBlank (if negated then "NOT EXISTS " else "EXISTS ") = false := by
      cases negated <;> decide
    apply Token.isAllBlank_written_of_text _ hword
    simp [tokens]
  | .not c, _, hc => by
    rw [isEmpty] at hc
    have hword : Text.isAllBlank "NOT " = false := by decide
    apply Token.isAllBlank_written_of_text _ hword
    simp [tokens, hc]
  | .group c, _, hc => by
    rw [isEmpty] at hc
    have hword : Text.isAllBlank "(" = false := by decide
    apply Token.isAllBlank_written_of_text _ hword
    simp [tokens, hc, Token.parenthesized]
  | .connect left op right, hraw, hc => by
    obtain ⟨hleft, hright⟩ := List.forall_mem_append.mp hraw
    rw [tokens]
    split
    · next h =>
      rw [isEmpty, h, Bool.true_and] at hc
      exact isAllBlank_written_tokens quoting style scope right hright hc
    · next hl =>
      split
      · exact isAllBlank_written_tokens quoting style scope left hleft (Bool.eq_false_iff.mpr hl)
      · have hword : Text.isAllBlank op.word = false := by cases op <;> decide
        apply Token.isAllBlank_written_of_text _ hword
        simp

/-- If no text of the caller is blank, then a condition is empty exactly if a writer writes it
without a trace. -/
theorem isEmpty_iff_write_eq (d : Dialect) {c : Condition}
    (hraw : ∀ sql ∈ c.rawTexts, Text.isAllBlank sql = false) (w : Writer) :
  c.isEmpty = true ↔ c.write d w = .ok () w
  := by
  have hwrites := Condition.writes d w.scopes.head? c w rfl
  constructor
  · intro h
    rw [tokens_eq_nil_of_isEmpty d.style _ c h] at hwrites
    simpa [Guard.verifyAll, Writer.followedBy] using hwrites
  · intro hw
    by_contra hc
    have htext := isAllBlank_written_tokens d.quoting d.style w.scopes.head? c hraw
      (Bool.eq_false_iff.mpr hc)
    rw [hw] at hwrites
    split at hwrites
    · injection hwrites with _ hfollowed
      have hsql := congrArg (fun w => w.sql.toList) hfollowed
      rw [Writer.followedBy, String.toList_append, List.self_eq_append_right] at hsql
      rw [Text.isAllBlank, Token.written, hsql] at htext
      cases htext
    · obtain ⟨_, ⟨⟩, -⟩ := hwrites

/-- A word before a condition; both are left out if the condition is empty. -/
def clause (word : String) (style : SelectStyle) (scope : Option Scope) (c : Condition) :
    List Token :=
  if c.isEmpty then [] else .text word :: c.tokens style scope

theorem clause_congr {c c' : Condition} (h : c.Alike c') (word : String) (style : SelectStyle)
    (scope : Option Scope) :
  c.clause word style scope = c'.clause word style scope
  := by rw [clause, clause, h.isEmpty, h.tokens]

theorem clause_of_isEmpty_eq_false {c : Condition} (h : c.isEmpty = false) (word : String)
    (style : SelectStyle) (scope : Option Scope) :
  c.clause word style scope = .text word :: c.tokens style scope
  := by simp [clause, h]

end Condition

/-- The statement behind a word, or without it if its text is blank. -/
def Statement.behind (word : String) (s : Statement) : Statement :=
  { s with sql := if Text.isAllBlank s.sql then "" else word ++ s.sql }

/-- A word in front of tokens is written in front of their text. -/
theorem Statement.ofTokens_text_cons (quoting : Quoting) (word : String) (ts : List Token) :
  ofTokens quoting (.text word :: ts)
    = (ofTokens quoting ts).map fun s => { s with sql := word ++ s.sql }
  := by
  have hguards : (Token.text word :: ts).flatMap Token.guards = ts.flatMap Token.guards := rfl
  unfold ofTokens
  rw [hguards]
  cases Guard.verifyAll (ts.flatMap Token.guards) with
  | error e => rfl
  | ok _ => simp [Except.map, Token.toText]

/-- If no text of the caller is blank, then the word of a clause is written exactly before a
text that is not blank, and errors are those of the condition. -/
theorem Dialect.statement_clause (d : Dialect) (word : String) (scope : Option Scope)
    {c : Condition} (hraw : ∀ sql ∈ c.rawTexts, Text.isAllBlank sql = false) :
  d.statement (c.clause word d.style scope)
    = (d.statement (c.tokens d.style scope)).map (Statement.behind word)
  := by
  cases hc : c.isEmpty with
  | true =>
    rw [Condition.clause, if_pos hc, Condition.tokens_eq_nil_of_isEmpty d.style scope c hc]
    rfl
  | false =>
    have htext := Condition.isAllBlank_written_tokens d.quoting d.style scope c hraw hc
    rw [Condition.clause_of_isEmpty_eq_false hc, statement, statement,
      Statement.ofTokens_text_cons]
    cases hs : Statement.ofTokens d.quoting (c.tokens d.style scope) with
    | error e => rfl
    | ok s =>
      obtain ⟨-, rfl⟩ := Token.ofTokens_eq_ok_iff_allPass.mp hs
      simp [Except.map, Statement.behind, htext]

/-! ### The clauses of a statement -/

/-- The condition of a join; without one it is empty. -/
def Join.condition (j : Join) : Condition :=
  j.on.getD .empty

/-- A join behind a space, with its clause. -/
def Join.clauseTokens (style : SelectStyle) (scope : Option Scope) (j : Join) : List Token :=
  [.text " ", .text j.kind.words, .text " "] ++ j.table.tokens style scope
    ++ j.condition.clause " ON " style scope

/-- The clauses of a query from FROM to HAVING. -/
def Query.clauseTokens (style : SelectStyle) (q : Query) : List Token :=
  (if q.sources.isEmpty then []
   else .text " FROM " :: Token.separated ", " (Table.tokensEach style q.scope q.sources))
    ++ q.includedJoins.flatMap (Join.clauseTokens style q.scope)
    ++ q.filter.clause " WHERE " style q.scope
    ++ (if q.groups.isEmpty then []
        else .text " GROUP BY " :: Token.separated ", " (Column.tokensEach style q.scope q.groups))
    ++ q.having.clause " HAVING " style q.scope

/-- The clauses of a change. -/
def Change.clauseTokens (style : SelectStyle) (scope : Option Scope) (c : Change) :
    MutationLayout → List Token
  | .standard =>
    .text (if c.row.isSome then "UPDATE " else "DELETE FROM ")
      :: Token.separated ", " (Table.tokensEach style scope c.tables)
      ++ c.joins.flatMap (Join.clauseTokens style scope)
      ++ c.row.elim [] (fun row => .text " SET " :: Mutation.assignments style scope row)
      ++ c.filter.clause " WHERE " style scope
      ++ c.endings.flatMap fun e => [.text " ", .raw e []]
  | .alterTable =>
    .text "ALTER TABLE " :: Token.separated ", " (c.tables.map Mutation.tableName)
      ++ c.joins.flatMap (Join.clauseTokens style scope)
      ++ c.row.elim [.text " DELETE"] (fun row =>
        .text " UPDATE " :: Mutation.assignments style scope row)
      ++ c.filter.clause " WHERE " style scope

theorem Join.includedTokens_eq_flatMap (style : SelectStyle) (scope : Option Scope)
    (joins : List Join) :
  Join.includedTokens style scope joins
    = (joins.filter Join.included).flatMap (Join.clauseTokens style scope)
  := by
  have htokens : ∀ j : Join, .text " " :: j.tokens style scope = j.clauseTokens style scope := by
    rintro ⟨kind, table, on, included⟩
    cases on <;> rfl
  induction joins with
  | nil => rfl
  | cons j joins ih =>
    rw [includedTokens, ih, List.filter_cons]
    split
    · rw [List.flatMap_cons, htokens]
    · rfl

/-- The clauses of a select. -/
theorem Query.clauses_parts (style : SelectStyle) (scope : Option Scope) (q : Query) :
  (q.parts style scope).clauses = q.clauseTokens style
  := by
  obtain ⟨recursive, ctes, hint, columns, sources, joins, filter⟩ := q
  simp only [parts, clauseTokens, Join.includedTokens_eq_flatMap, includedJoins, Query.scope,
    Condition.clause]

namespace SelectParts

variable (p : SelectParts)

theorem clauses_infix_body (first : List Token) (head : Option SelectHead) :
  p.clauses <:+: p.body first head
  := (List.suffix_append _ p.clauses).isInfix

theorem clauses_infix_standard (head : Option SelectHead) :
  p.clauses <:+: p.standard head
  := by
  have hcore : p.clauses <:+: p.core head :=
    (p.clauses_infix_body [] head).trans (List.infix_append p.clash _ _)
  exact hcore.trans (List.suffix_append _ _).isInfix

theorem clauses_infix_numberedCore (aliasSeparator : String) (head : Option SelectHead) :
  p.clauses <:+: p.numberedCore aliasSeparator head
  := by
  apply List.IsInfix.trans _ (List.suffix_append p.clash _).isInfix
  split
  · exact (p.clauses_infix_body [] none).trans (List.infix_append _ _ _)
  · apply clauses_infix_body

/-- The clauses stand in a select as a whole, however it is paged. -/
theorem clauses_infix_tokens (aliasSeparator : String) :
  p.clauses <:+: p.tokens aliasSeparator
  := by
  apply List.IsInfix.trans _ (List.prefix_append _ p.after).isInfix
  unfold paged
  cases p.layout with
  | inline head tail => exact (p.clauses_infix_standard head).trans (List.prefix_append _ _).isInfix
  | wrapped before after =>
    exact (p.clauses_infix_standard none).trans (List.infix_append [Token.text before] _ _)
  | numbered first last =>
    have hcore := (p.clauses_infix_numberedCore aliasSeparator none).trans
      (List.suffix_cons (Token.text "temp_datas AS (") _).isInfix
    exact hcore.trans (List.infix_append _ _ _)

end SelectParts

/-- A change of which all joins are included, with a condition, consists of its clauses. -/
theorem Change.tokens_eq_clauseTokens {c : Change} (hjoins : ∀ j ∈ c.joins, j.included = true)
    (hfilter : c.filter.isEmpty = false) (style : SelectStyle) (scope : Option Scope)
    (layout : MutationLayout) :
  c.tokens style scope layout = c.clauseTokens style scope layout
  := by
  have hclause := Condition.clause_of_isEmpty_eq_false hfilter " WHERE " style scope
  have hincluded : Join.includedTokens style scope c.joins
      = c.joins.flatMap (Join.clauseTokens style scope) := by
    rw [Join.includedTokens_eq_flatMap, List.filter_eq_self.mpr hjoins]
  cases layout <;> simp [tokens, clauseTokens, hclause, hincluded]

/-! ### Queries with alike conditions -/

/-- Two joins differ in their conditions alone, and these are alike. -/
structure Join.Alike (j k : Join) : Prop where
  condition : j.condition.Alike k.condition
  others : { j with on := k.on } = k

/-- Two queries differ in their conditions alone, and these are alike. -/
structure Query.Alike (p q : Query) : Prop where
  filter : p.filter.Alike q.filter
  having : p.having.Alike q.having
  joins : List.Forall₂ Join.Alike p.joins q.joins
  others : { p with filter := q.filter, having := q.having, joins := q.joins } = q

namespace Join

theorem Alike.clauseTokens {j k : Join} (h : j.Alike k) (style : SelectStyle)
    (scope : Option Scope) :
  j.clauseTokens style scope = k.clauseTokens style scope
  := by
  obtain ⟨hcondition, hothers⟩ := h
  rw [← hothers] at hcondition ⊢
  rw [Join.clauseTokens, Condition.clause_congr hcondition]
  rfl

theorem Alike.table {j k : Join} (h : j.Alike k) :
  j.table = k.table
  := by rw [← h.others]

theorem Alike.included {j k : Join} (h : j.Alike k) :
  j.included = k.included
  := by rw [← h.others]

/-- What is the same for alike joins is the same for the included ones among them. -/
theorem map_included_of_alike {β : Type} {f : Join → β} (hf : ∀ {j k : Join}, j.Alike k → f j = f k)
    {js ks : List Join} (h : List.Forall₂ Alike js ks) :
  (js.filter Join.included).map f = (ks.filter Join.included).map f
  := by
  induction h with
  | nil => rfl
  | cons h hrest ih =>
    rw [List.filter_cons, List.filter_cons, h.included]
    split
    · rw [List.map_cons, List.map_cons, hf h, ih]
    · exact ih

end Join

namespace Query.Alike

variable {p q : Query} (h : p.Alike q)

include h

theorem sources :
  p.sources = q.sources
  := by rw [← h.others]

theorem endings :
  p.endings = q.endings
  := by rw [← h.others]

theorem tables :
  p.includedJoins.map Join.table = q.includedJoins.map Join.table
  := Join.map_included_of_alike Join.Alike.table h.joins

theorem scope :
  p.scope = q.scope
  := by
  rw [Query.scope, Query.scope, Scope.of, Scope.of, h.sources]
  exact congrArg (fun tables => (q.sources ++ tables).map Table.visible) h.tables

theorem includedTokens (style : SelectStyle) :
  Join.includedTokens style q.scope p.joins = Join.includedTokens style q.scope q.joins
  := by
  rw [Join.includedTokens_eq_flatMap, Join.includedTokens_eq_flatMap, List.flatMap_def,
    List.flatMap_def, Join.map_included_of_alike (fun h => h.clauseTokens style q.scope) h.joins]

theorem clash :
  clashTokens p.sources p.joins = clashTokens q.sources q.joins
  := by
  have htables := h.tables
  unfold Query.includedJoins at htables
  rw [clashTokens, clashTokens, h.sources, htables]

/-- A select is the same with alike conditions. -/
theorem parts (style : SelectStyle) (scope : Option Scope) :
  p.parts style scope = q.parts style scope
  := by
  have hscope := h.scope
  have hjoins := h.includedTokens style
  have hclash := h.clash
  have hfilter := h.filter
  have hhaving := h.having
  have hothers := h.others
  obtain ⟨recursive, ctes, hint, columns, sources, joins, filter, groups, having⟩ := p
  obtain ⟨recursive', ctes', hint', columns', sources', joins', filter', groups', having'⟩ := q
  injection hothers
  subst_vars
  have hown : Scope.of sources joins = Scope.of sources joins' := hscope
  have hjoins : Join.includedTokens style (some (Scope.of sources joins')) joins
    = Join.includedTokens style (some (Scope.of sources joins')) joins' := hjoins
  have hclash : clashTokens sources joins = clashTokens sources joins' := hclash
  have hfilter : filter.Alike filter' := hfilter
  have hhaving : having.Alike having' := hhaving
  simp only [Query.parts, hown, hjoins, hclash, hfilter.isEmpty, hfilter.tokens, hhaving.isEmpty,
    hhaving.tokens]

/-- A change is the same with alike conditions. -/
theorem tokens_change (d : Dialect) (row : Option UpdateRow) :
  (Request.change row p).tokens d = (Request.change row q).tokens d
  := Request.tokens_change_of_parts h.sources h.scope h.includedTokens h.filter.isEmpty
    (fun style => h.filter.tokens style q.scope) h.endings d row

/-- Alike conditions make no difference to a select, to a change and to the values. -/
theorem statements (d : Dialect) :
  d.select p = d.select q
    ∧ (∀ row, (Request.change row p).statement d = (Request.change row q).statement d)
    ∧ ∀ paging, p.values paging = q.values paging
  := by
  refine ⟨?_, ?_, ?_⟩
  · rw [Dialect.select, Dialect.select, Query.tokens, Query.tokens, h.parts]
  · intro row
    rw [Request.statement_eq, Request.statement_eq, h.tokens_change]
  · apply Query.values_congr
    intro style
    rw [Query.tokens, Query.tokens, h.parts]

end Query.Alike

/-! ### What is written of conditions -/

/-- The join with the pruned form of its condition. -/
def Join.pruned (j : Join) : Join :=
  { j with on := j.on.map Condition.pruned }

/-- The query with the pruned forms of its conditions. -/
def Query.pruned (q : Query) : Query :=
  { q with
    filter := q.filter.pruned, having := q.having.pruned, joins := q.joins.map Join.pruned }

theorem Join.alike_pruned (j : Join) :
  j.pruned.Alike j
  := by
  constructor
  case condition =>
    have hpruned : j.pruned.condition = j.condition.pruned := by
      obtain ⟨kind, table, on, included⟩ := j
      cases on <;> rfl
    rw [hpruned]
    apply Condition.alike_pruned
  case others =>
    cases j
    rfl

/-- A query is alike to the query with the pruned forms of its conditions. -/
theorem Query.alike_pruned (q : Query) :
  q.pruned.Alike q
  := by
  constructor
  case filter => apply Condition.alike_pruned
  case having => apply Condition.alike_pruned
  case joins =>
    rw [pruned, List.forall₂_map_left_iff, List.forall₂_same]
    exact fun j _ => j.alike_pruned
  case others =>
    cases q
    rfl

/-- A dialect writes what conditions hold, and no trace of their empty parts. -/
structure Dialect.WritesContent (d : Dialect) : Prop where
  /-- A condition is alike to its pruned form, which has no empty part unless it is empty. -/
  pruned : ∀ c : Condition, c.pruned.Alike c ∧ (c.pruned = .empty ∨ c.pruned.Solid)
  /-- It does not matter how three conditions are connected. -/
  assoc : ∀ op a b c, (Condition.connected op (Condition.connected op a b) c).Alike
    (Condition.connected op a (Condition.connected op b c))
  /-- Connecting with the empty condition changes nothing. -/
  unit : ∀ op c,
    (Condition.connected op .empty c).Alike c ∧ (Condition.connected op c .empty).Alike c
  /-- Only for an empty condition nothing is written. -/
  nothing : ∀ c : Condition, (∀ sql ∈ c.rawTexts, Text.isAllBlank sql = false) →
    ∀ w, c.isEmpty = true ↔ c.write d w = .ok () w
  /-- The word of a clause is written exactly before the text of its condition, if there is
  such a text. -/
  clause : ∀ c : Condition, (∀ sql ∈ c.rawTexts, Text.isAllBlank sql = false) →
    ∀ word scope, d.statement (c.clause word d.style scope)
      = (d.statement (c.tokens d.style scope)).map (Statement.behind word)
  /-- The conditions of a select stand in such clauses. -/
  select : ∀ (q : Query) (scope : Option Scope),
    (q.parts d.style scope).clauses = q.clauseTokens d.style
      ∧ q.clauseTokens d.style <:+: q.tokens d.style scope
  /-- The conditions of a change stand in such clauses, and its own condition is not empty. -/
  change : ∀ row (q : Query) ts, (Request.change row q).tokens d = .ok ts →
    q.filter.isEmpty = false
      ∧ ts = (q.listed row d.mutations).clauseTokens d.style (some q.scope) d.mutations
  /-- Alike conditions of a query can replace each other. -/
  alike : ∀ p q : Query, p.Alike q → d.select p = d.select q
    ∧ (∀ row, (Request.change row p).statement d = (Request.change row q).statement d)
    ∧ ∀ paging, p.values paging = q.values paging
  /-- In particular they can be pruned. -/
  alike_pruned : ∀ q : Query, q.pruned.Alike q

/-- What is written depends on the content of conditions alone.  A condition can be replaced by
its pruned form, connecting is associative with the empty condition as its unit, and ON, WHERE
and HAVING are written with a condition only and never left out before one, in selects and in
changes. -/
theorem Dialect.writesContent (d : Dialect) :
  d.WritesContent
  := by
  constructor
  case pruned => exact fun c => ⟨c.alike_pruned, c.pruned_eq_empty_or_solid⟩
  case assoc => exact Condition.alike_connected_assoc
  case unit => exact fun op c => ⟨.refl c, c.alike_connected_empty_right op⟩
  case nothing => exact fun c hraw w => Condition.isEmpty_iff_write_eq d hraw w
  case clause => exact fun c hraw word scope => d.statement_clause word scope hraw
  case select =>
    intro q scope
    have hclauses := q.clauses_parts d.style scope
    constructor
    · exact hclauses
    · rw [← hclauses]
      apply SelectParts.clauses_infix_tokens
  case change =>
    intro row q ts hts
    have hfilter := Request.filter_of_change hts
    have hlisted : (q.listed row d.mutations).filter = q.filter := by cases d.mutations <;> rfl
    constructor
    · exact hfilter
    · rw [Request.tokens_change_listed hts]
      apply Change.tokens_eq_clauseTokens
      · exact fun j => Query.included_of_mem_listed
      · rw [hlisted, hfilter]
  case alike => exact fun p q h => h.statements d
  case alike_pruned => exact Query.alike_pruned

/-- A condition on the age, with empty parts around it. -/
def hollowCondition : Condition :=
  .not (.connect (.group .empty) .or
    (.connect (.predicate ⟨.named none "age", none⟩ .gt (.value (.int 18))) .and (.not .empty)))

/-- The age is all that is written, behind the word of the clause. -/
theorem Dialect.writesContent_hollowCondition :
  (∀ sql ∈ hollowCondition.rawTexts, Text.isAllBlank sql = false)
    ∧ hollowCondition.pruned = .not (.predicate ⟨.named none "age", none⟩ .gt (.value (.int 18)))
    ∧ (builtIn .mysql).statement (hollowCondition.clause " WHERE " (builtIn .mysql).style none)
      = .ok ⟨" WHERE NOT (`age` > ?)", [.int 18]⟩
  := by
  have hraw : ∀ sql ∈ hollowCondition.rawTexts, Text.isAllBlank sql = false := by
    intro sql hsql
    cases hsql
  refine ⟨hraw, rfl, ?_⟩
  rw [((builtIn .mysql).writesContent).clause hollowCondition hraw]
  rfl

end SqlRender
