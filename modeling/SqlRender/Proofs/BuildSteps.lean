import Mathlib.Data.List.ReduceOption
import SqlRender.Proofs.Request

/-!
# Building a query step by step

A query is built from the empty query in steps, which are the functions that take a query and
hand it on with something more.  Each step belongs to a clause.  It reads and changes this
clause alone: `BuildStep.apply_eq`.  So the steps of a clause build this clause also without
the steps of the others, and together they build the query: `Query.build_eq_ok_iff`.
-/

namespace SqlRender

/-! ### Clauses -/

/-- A clause of a query, as far as steps are concerned: the limit and the offset belong
together, and so do the common table expressions and whether they may be recursive. -/
inductive QueryClause where
  | ctes
  | hint
  | columns
  | sources
  | joins
  | filter
  | groups
  | having
  | order
  | window
  | partners
  | endings
  deriving DecidableEq

namespace Query

/-- The query with one clause taken from `p`. -/
def taking (q : Query) (k : QueryClause) (p : Query) : Query :=
  match k with
  | .ctes => { q with recursive := p.recursive, ctes := p.ctes }
  | .hint => { q with hint := p.hint }
  | .columns => { q with columns := p.columns }
  | .sources => { q with sources := p.sources }
  | .joins => { q with joins := p.joins }
  | .filter => { q with filter := p.filter }
  | .groups => { q with groups := p.groups }
  | .having => { q with having := p.having }
  | .order => { q with order := p.order }
  | .window => { q with rows := p.rows, offset := p.offset }
  | .partners => { q with partners := p.partners }
  | .endings => { q with endings := p.endings }

/-- The query with one of its clauses only. -/
def only (q : Query) (k : QueryClause) : Query :=
  empty.taking k q

theorem only_empty (k : QueryClause) :
  empty.only k = empty
  := by cases k <;> rfl

theorem only_taking (q p : Query) (k : QueryClause) :
  (q.taking k p).only k = p.only k
  := by cases k <;> rfl

theorem only_only (q : Query) (k : QueryClause) :
  (q.only k).only k = q.only k
  := empty.only_taking q k

theorem taking_of_only (q p : Query) (k : QueryClause) :
  (q.only k).taking k p = p.only k
  := by cases k <;> rfl

theorem only_taking_of_ne (q p : Query) {k k' : QueryClause} (h : k' ≠ k) :
  (q.taking k p).only k' = q.only k'
  := by cases k <;> cases k' <;> first | rfl | exact absurd rfl h

/-- A query is determined by its clauses. -/
theorem eq_of_only {p q : Query} (h : ∀ k, p.only k = q.only k) :
  p = q
  := by
  have hctes := congrArg ctes (h .ctes)
  have hrecursive := congrArg recursive (h .ctes)
  have hhint := congrArg hint (h .hint)
  have hcolumns := congrArg columns (h .columns)
  have hsources := congrArg sources (h .sources)
  have hjoins := congrArg joins (h .joins)
  have hfilter := congrArg filter (h .filter)
  have hgroups := congrArg groups (h .groups)
  have hhaving := congrArg having (h .having)
  have horder := congrArg order (h .order)
  have hrows := congrArg rows (h .window)
  have hoffset := congrArg offset (h .window)
  have hpartners := congrArg partners (h .partners)
  have hendings := congrArg endings (h .endings)
  cases p
  cases q
  simp only [only, taking] at *
  subst_vars
  rfl

end Query

/-! ### Steps -/

/-- What a join is started with. -/
inductive JoinTarget where
  /-- The table that a text names. -/
  | named (name : String) (included : Bool)
  | table (t : Table) (included : Bool)
  | derived (q : Query)

/-- What a join is completed with. -/
inductive JoinEnding where
  | nothing
  | condition (c : Condition)
  | columns (left right : Column)

/-- A join from its start to its completion, with the aliases its table is given in between. -/
structure JoinSteps where
  kind : JoinKind
  target : JoinTarget
  aliases : List String
  ending : JoinEnding

/-- The join without its aliases and its condition. -/
def JoinTarget.start (kind : JoinKind) : JoinTarget → Except QueryError Join
  | named name included => do
    let t ← Table.parse name
    pure (Join.start kind t included)
  | table t included => pure (Join.start kind t included)
  | derived q => pure (Join.start kind (Table.derived q) true)

/-- The completed join. -/
def JoinEnding.complete (j : Join) : JoinEnding → Join
  | nothing => j
  | condition c => j.onCondition c
  | columns left right => j.onColumns left right

/-- The join that its steps make. -/
def JoinSteps.join (s : JoinSteps) : Except QueryError Join := do
  let start ← s.target.start s.kind
  let j ← s.aliases.foldlM (fun j a => j.named a) start
  pure (s.ending.complete j)

/-- A step in the building of a query. -/
inductive BuildStep where
  /-- Columns, where those that are not there are skipped. -/
  | select (columns : List (Option Column))
  | fromName (name : String)
  | fromTable (t : Table)
  | fromQuery (inner : Query)
  | named (aliasName : String)
  | filtered (c : Condition)
  | and (c : Condition)
  | or (c : Condition)
  | andRaw (sql : String) (params : List Value)
  | andEqual (filters : List (String × Value))
  | join (steps : JoinSteps)
  | groupBy (columns : List Column)
  | groupByNames (names : List String)
  | andHaving (c : Condition)
  | orderBy (c : Column) (direction : Option Direction) (nulls : Option NullOrder)
  | orderByText (text : String)
  | limit (rows : Option UInt64)
  | skip (offset : Option UInt64)
  | limitSkip (offset rows : Option UInt64)
  | union (kind : UnionKind) (partner : Query)
  | withQuery (name : String) (columns : List String) (inner : Query)
  | withRecursive (name : String) (columns : List String) (inner : Query)
  | hinted (hint : String)
  | forUpdate
  | forUpdateNoWait

namespace BuildStep

/-- The query after a step. -/
def apply (q : Query) : BuildStep → Except QueryError Query
  | select columns => pure (q.select columns.reduceOption)
  | fromName name => q.fromName name
  | fromTable t => pure (q.fromTable t)
  | fromQuery inner => pure (q.fromQuery inner)
  | named a => q.named a
  | filtered c => pure (q.filtered c)
  | and c => pure (q.and c)
  | or c => pure (q.or c)
  | andRaw sql params => pure (q.andRaw sql params)
  | andEqual filters => q.andEqual filters
  | join steps => do
    let j ← steps.join
    pure (q.join j)
  | groupBy columns => pure (q.groupBy columns)
  | groupByNames names => q.groupByNames names
  | andHaving c => pure (q.andHaving c)
  | orderBy c direction nulls => pure (q.orderBy c direction nulls)
  | orderByText text => q.orderByText text
  | limit rows => pure (q.limit rows)
  | skip offset => pure (q.skip offset)
  | limitSkip offset rows => pure ((q.skip offset).limit rows)
  | union kind partner => pure (q.union kind partner)
  | withQuery name columns inner => q.withQuery name columns inner
  | withRecursive name columns inner => q.withRecursive name columns inner
  | hinted hint => pure (q.hinted hint)
  | forUpdate => pure q.forUpdate
  | forUpdateNoWait => pure q.forUpdateNoWait

/-- The clause that a step belongs to. -/
def clause : BuildStep → QueryClause
  | withQuery .. | withRecursive .. => .ctes
  | hinted _ => .hint
  | select _ => .columns
  | fromName _ | fromTable _ | fromQuery _ | named _ => .sources
  | join _ => .joins
  | filtered _ | and _ | or _ | andRaw .. | andEqual _ => .filter
  | groupBy _ | groupByNames _ => .groups
  | andHaving _ => .having
  | orderBy .. | orderByText _ => .order
  | limit _ | skip _ | limitSkip .. => .window
  | union .. => .partners
  | forUpdate | forUpdateNoWait => .endings

end BuildStep

/-- The query that steps build. -/
def Query.build (steps : List BuildStep) : Except QueryError Query :=
  steps.foldlM BuildStep.apply empty

/-! ### Steps and clauses -/

/-- The condition with an equality for each of the named values. -/
def Condition.andEqual (c : Condition) (filters : List (String × Value)) :
    Except QueryError Condition :=
  if filters.isEmpty then .error .emptyFilterMap
  else
    (Text.sortByName filters).foldlM (fun c (name, v) => do
      let column := Column.ofText name
      Guard.verifyAll (Query.filterGuards column)
      pure (c.and (column.compare .eq v))) c

theorem Query.andEqual_eq (q : Query) (filters : List (String × Value)) :
  q.andEqual filters = (q.filter.andEqual filters).map q.filtered
  := by
  unfold andEqual Condition.andEqual
  split
  · rfl
  · generalize Text.sortByName filters = entries
    induction entries generalizing q with
    | nil => cases q; rfl
    | cons entry rest ih =>
      obtain ⟨name, v⟩ := entry
      rw [List.foldlM_cons, List.foldlM_cons]
      cases h : Guard.verifyAll (filterGuards (Column.ofText name)) with
      | error e => simp only [h]; rfl
      | ok _ => simp only [h]; exact ih (q.and ((Column.ofText name).compare .eq v))

/-- Whether a table is read already depends on the sources alone. -/
theorem Query.fromTable_eq (q : Query) (t : Table) :
  q.fromTable t = q.taking .sources ((q.only .sources).fromTable t)
  := by
  have hread : (q.only .sources).sources = q.sources := rfl
  unfold fromTable
  rw [hread]
  split
  · cases q; rfl
  · rfl

namespace BuildStep

/-- A step reads and changes its own clause only. -/
theorem apply_eq (q : Query) (s : BuildStep) :
  apply q s = (apply (q.only s.clause) s).map (q.taking s.clause)
  := by
  cases s with
  | fromName name =>
    simp only [apply, Query.fromName]
    cases Table.parse name with
    | error e => rfl
    | ok t => exact congrArg Except.ok (q.fromTable_eq t)
  | fromTable t => exact congrArg Except.ok (q.fromTable_eq t)
  | fromQuery inner => exact congrArg Except.ok (q.fromTable_eq (Table.derived inner))
  | named a =>
    have hread : (q.only .sources).sources = q.sources := rfl
    simp only [apply, Query.named, clause, hread]
    cases Guard.checkIdentifier a with
    | error e => rfl
    | ok _ =>
      match q.sources with
      | [] => rfl
      | [_] => rfl
      | _ :: _ :: _ => rfl
  | andEqual filters =>
    have hread : (q.only .filter).filter = q.filter := rfl
    simp only [apply, Query.andEqual_eq, clause, hread]
    cases q.filter.andEqual filters <;> rfl
  | join steps =>
    simp only [apply]
    cases steps.join <;> rfl
  | groupByNames names =>
    simp only [apply, Query.groupByNames]
    cases Guard.verifyAll (names.map Guard.identifier) <;> rfl
  | orderByText text =>
    simp only [apply, Query.orderByText]
    cases Guard.checkOrderText text <;> rfl
  | withQuery name columns inner =>
    simp only [apply, Query.withQuery]
    cases Guard.verifyAll ((name :: columns).map Guard.identifier) <;> rfl
  | withRecursive name columns inner =>
    simp only [apply, Query.withRecursive, Query.withQuery]
    cases Guard.verifyAll ((name :: columns).map Guard.identifier) <;> rfl
  | _ => rfl

/-- A step does on its own clause what it does on the whole query. -/
theorem apply_only (q : Query) (s : BuildStep) :
  apply (q.only s.clause) s = (apply q s).map (·.only s.clause)
  := by
  have hclause := apply_eq (q.only s.clause) s
  rw [Query.only_only] at hclause
  rw [apply_eq q s]
  cases hp : apply (q.only s.clause) s with
  | error e => rfl
  | ok p =>
    rw [hp] at hclause
    have hp : p = p.only s.clause :=
      (Except.ok.inj hclause).trans (q.taking_of_only p s.clause)
    exact congrArg Except.ok (hp.trans (q.only_taking p s.clause).symm)

/-- A step leaves the clauses it does not belong to as they are. -/
theorem only_of_apply {q r : Query} {s : BuildStep} (h : apply q s = .ok r) {k : QueryClause}
    (hk : k ≠ s.clause) :
  r.only k = q.only k
  := by
  rw [apply_eq] at h
  cases hp : apply (q.only s.clause) s with
  | error e => rw [hp] at h; cases h
  | ok p =>
    rw [hp] at h
    cases h
    exact q.only_taking_of_ne p hk

end BuildStep

namespace Query

/-- Steps make a query out of another one exactly if, clause by clause, the steps of the clause
make the clause of the one out of the clause of the other. -/
theorem foldlM_apply_eq_ok_iff {q r : Query} (steps : List BuildStep) :
  steps.foldlM BuildStep.apply q = .ok r ↔
    ∀ k, (steps.filter (·.clause = k)).foldlM BuildStep.apply (q.only k) = .ok (r.only k)
  := by
  induction steps generalizing q with
  | nil =>
    show Except.ok q = .ok r ↔ ∀ k, Except.ok (q.only k) = .ok (r.only k)
    simp only [Except.ok.injEq]
    exact ⟨fun h k => h ▸ rfl, eq_of_only⟩
  | cons s rest ih =>
    -- the step is the first one of its clause, and the other clauses do not have it
    have hfirst : ∀ k, k = s.clause →
        (s :: rest).filter (·.clause = k) = s :: rest.filter (·.clause = k) := by
      rintro k rfl
      exact List.filter_cons_of_pos (decide_eq_true rfl)
    have hother : ∀ k, k ≠ s.clause →
        (s :: rest).filter (·.clause = k) = rest.filter (·.clause = k) :=
      fun k hk => List.filter_cons_of_neg (by simpa using hk.symm)
    constructor
    · intro h k
      obtain ⟨p, hp, h⟩ := Except.bind_eq_ok h
      by_cases hk : k = s.clause
      · rw [hfirst k hk, List.foldlM_cons, hk, BuildStep.apply_only, hp]
        exact ih.mp h s.clause
      · rw [hother k hk, ← BuildStep.only_of_apply hp hk]
        exact ih.mp h k
    · intro h
      have hs := h s.clause
      rw [hfirst s.clause rfl, List.foldlM_cons, BuildStep.apply_only] at hs
      cases hp : BuildStep.apply q s with
      | error e => rw [hp] at hs; cases hs
      | ok p =>
        rw [hp] at hs
        rw [List.foldlM_cons, hp]
        refine ih.mpr fun k => ?_
        by_cases hk : k = s.clause
        · exact hk ▸ hs
        · rw [BuildStep.only_of_apply hp hk, ← hother k hk]
          exact h k

/-- What steps build, clause by clause. -/
theorem build_eq_ok_iff {q : Query} (steps : List BuildStep) :
  build steps = .ok q ↔ ∀ k, build (steps.filter (·.clause = k)) = .ok (q.only k)
  := by
  have h := foldlM_apply_eq_ok_iff (q := empty) (r := q) steps
  simp only [only_empty] at h
  exact h

end Query

end SqlRender
