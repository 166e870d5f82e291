import SqlRender.Paginator
import SqlRender.Proofs.HoldsByPart

/-!
# Requests for statements

A `Request` is one of the kinds of statements that a dialect writes, with what it is
written from.  Its statement is made of its tokens, unless there is a reason to refuse it
before anything is written.  `Dialect.IsProvided` says which dialects there are.

The main statement is `Request.holds_tokens`: what holds by part, and of the tokens that a
request supplies, holds of its tokens.
-/

namespace SqlRender

/-- The dialects that can be made: with any quoting and paging, of the Oracle family with
any paging, and the one of ClickHouse. -/
inductive Dialect.IsProvided : Dialect → Prop where
  | common (name : String) (quoting : Quoting) (paging : PagingStrategy) :
      IsProvided (.common name quoting paging)
  | oracle (name : String) (paging : PagingStrategy) : IsProvided (.oracle name paging)
  | clickHouse : IsProvided .clickHouse

/-- The built-in dialects are provided. -/
theorem Dialect.isProvided_builtIn (db : Database) :
  (builtIn db).IsProvided
  := by
  cases db <;> constructor

/-- A kind of statement with what it is written from. -/
inductive Request where
  | select (q : Query)
  | delete (q : Query)
  | update (row : UpdateRow) (q : Query)
  | insert (t : Table) (row : UpdateRow)
  | insertBatch (t : Table) (rows : List UpdateRow)
  /-- The number of the rows of a query. -/
  | count (simplify : Bool) (q : Query)
  /-- A page of the rows of a query. -/
  | page (r : PageRequest) (q : Query)

namespace Request

/-- The statement that a dialect writes for a request. -/
def statement (d : Dialect) : Request → Except QueryError Statement
  | select q => d.select q
  | delete q => d.delete q
  | update row q => d.update row q
  | insert t row => d.insert t row
  | insertBatch t rows => d.insertBatch t rows
  | count simplify q => d.select (q.countQuery simplify)
  | page r q => Paginator.pageStatement ⟨d, false⟩ r q

/-- The tokens of the statement. -/
def tokens (d : Dialect) : Request → Except QueryError (List Token)
  | select q => .ok (q.tokens d.style none)
  | delete q => Mutation.delete d.style d.mutations q
  | update row q => Mutation.update d.style d.mutations row q
  | insert t row => Mutation.insert d.style t row
  | insertBatch t rows => Mutation.insertBatch d.style d.batches t rows
  | count simplify q => .ok ((q.countQuery simplify).tokens d.style none)
  | page r q => .ok (((q.skip (some r.offset)).limit (some r.size)).tokens d.style none)

/-- The tokens that a request supplies. -/
def supplied : Request → List Token
  | select q => q.supplied
  | delete q => q.supplied
  | update row q => row.supplied ++ q.supplied
  | insert t row => t.supplied ++ row.supplied
  | insertBatch t rows => t.supplied ++ rows.flatMap UpdateRow.supplied
  | count _ q => q.supplied
  | page _ q => q.supplied

theorem statement_eq (d : Dialect) (r : Request) :
  r.statement d = (r.tokens d).bind d.statement
  := by
  cases r <;> rfl

/-- A statement is made of the tokens of its request. -/
theorem exists_tokens {d : Dialect} {r : Request} {s : Statement} (h : r.statement d = .ok s) :
  ∃ ts, r.tokens d = .ok ts ∧ d.statement ts = .ok s
  := by
  rw [statement_eq] at h
  cases hts : r.tokens d with
  | error e =>
    rw [hts] at h
    cases h
  | ok ts =>
    rw [hts] at h
    exact ⟨ts, rfl, h⟩

end Request

/-! ### Queries for counts and pages -/

/-- The tokens that a count adds to those of its query. -/
def Query.countTokens : List Token :=
  [.function "COUNT", .name "*", .name "t"]

theorem Query.supplies_unordered {P : Token → Prop} {q : Query} (h : q.Supplies P) :
  q.unordered.Supplies P
  := { h with order := List.forall_mem_nil _ }

theorem Column.suppliedEach_countAll :
  Column.suppliedEach [Column.countAll] = [.function "COUNT", .name "*"]
  := rfl

/-- A count of derived rows supplies what its query supplies, and the tokens of the count. -/
theorem Query.supplies_countDerived {P : Token → Prop} {q : Query} (hq : q.Supplies P)
    (hown : ∀ t ∈ countTokens, P t) :
  q.countDerived.Supplies P
  := by
  simp only [countTokens, List.forall_mem_cons] at hown
  obtain ⟨hcount, hall, ht, -⟩ := hown
  have hinner : ({ q with recursive := false, ctes := [], endings := [] } : Query).Supplies P :=
    { hq with ctes := List.forall_mem_nil _, endings := List.forall_mem_nil _ }
  constructor
  case ctes => exact hq.ctes
  case columns =>
    intro t h
    rw [countDerived, Column.suppliedEach_countAll] at h
    simp only [List.mem_cons, List.not_mem_nil, or_false] at h
    obtain rfl | rfl := h
    · apply hcount
    · apply hall
  case sources =>
    intro t h
    obtain h | rfl : t ∈ Query.supplied _ ∨ t = .name "t" := by
      simpa [countDerived, Table.suppliedEach, Table.supplied, Table.named, Table.derived,
        Source.supplied, Token.ofName?] using h
    · apply supplies_iff.mp hinner t h
    · apply ht
  all_goals exact List.forall_mem_nil _

/-- A count supplies what its query supplies, and a few tokens of its own. -/
theorem Query.supplies_countQuery {P : Token → Prop} {q : Query} (hq : q.Supplies P)
    (hown : ∀ t ∈ countTokens, P t) (simplify : Bool) :
  (q.countQuery simplify).Supplies P
  := by
  have hunordered := supplies_unordered hq
  unfold countQuery
  split
  · apply supplies_countDerived hunordered hown
  · split
    · exact hunordered
    · simp only [countTokens, List.forall_mem_cons] at hown
      obtain ⟨hcount, hall, -⟩ := hown
      have hcolumns : ∀ t ∈ Column.suppliedEach [Column.countAll], P t := by
        rw [Column.suppliedEach_countAll]
        simpa using ⟨hcount, hall⟩
      have hjoins : ∀ t ∈ Join.suppliedEach (if q.hasIdleJoins then [] else q.joins), P t := by
        split
        · exact List.forall_mem_nil _
        · exact hq.joins
      exact { hunordered with
        columns := hcolumns, endings := List.forall_mem_nil _, joins := hjoins }

/-- A page supplies what its query supplies. -/
theorem Query.supplies_limit_skip {P : Token → Prop} {q : Query} (hq : q.Supplies P)
    (rows offset : Option UInt64) :
  ((q.skip offset).limit rows).Supplies P
  := { hq with }

/-! ### Statements that change rows -/

theorem Except.bind_eq_ok {ε α β : Type} {x : Except ε α} {f : α → Except ε β} {y : β}
    (h : (x >>= f) = .ok y) :
  ∃ a, x = .ok a ∧ f a = .ok y
  := by
  cases x with
  | error e => cases h
  | ok a => exact ⟨a, rfl, h⟩

namespace Mutation

variable {style : SelectStyle}

/-- A change by a query has a target exactly if the query has a table and a condition. -/
theorem target_eq_ok_iff {q : Query} {action : String} {t : Table} :
  target q action = .ok t ↔ (∃ rest, q.sources = t :: rest) ∧ q.filter.isEmpty = false
  := by
  unfold target
  split
  · next h => simp [h]
  · next u rest h =>
    cases hfilter : q.filter.isEmpty <;> simp [h]

theorem checkRow_eq_ok_iff (row : UpdateRow) (action : String) :
  checkRow row action = .ok () ↔ row.entries ≠ []
  := by
  unfold checkRow
  cases row.entries <;> simp

/-- What a DELETE is made of. -/
theorem delete_eq_ok {layout : MutationLayout} {q : Query} {ts : List Token} :
  delete style layout q = .ok ts →
    ∃ t, target q "delete" = .ok t ∧ ts = match layout with
    | .standard =>
      .text "DELETE FROM " :: Token.separated ", " (Table.tokensEach style q.scope q.sources)
        ++ Join.includedTokens style q.scope q.joins ++ whereTokens style q ++ endingTokens q
    | .alterTable => .text "ALTER TABLE " :: tableName t ++ .text " DELETE" :: whereTokens style q
  := by
  intro h
  obtain ⟨t, ht, h⟩ := Except.bind_eq_ok h
  use t, ht
  cases layout <;> exact (Except.ok.inj h).symm

/-- What an UPDATE is made of. -/
theorem update_eq_ok {layout : MutationLayout} {row : UpdateRow} {q : Query} {ts : List Token} :
  update style layout row q = .ok ts →
    ∃ t, target q "update" = .ok t ∧ checkRow row "update" = .ok () ∧ ts = match layout with
    | .standard =>
      .text "UPDATE " :: t.tokens style q.scope ++ Join.includedTokens style q.scope q.joins
        ++ .text " SET " :: assignments style q.scope row ++ whereTokens style q ++ endingTokens q
    | .alterTable =>
      .text "ALTER TABLE " :: tableName t ++ .text " UPDATE " :: assignments style q.scope row
        ++ whereTokens style q
  := by
  intro h
  obtain ⟨t, ht, h⟩ := Except.bind_eq_ok h
  obtain ⟨_, hrow, h⟩ := Except.bind_eq_ok h
  use t, ht, hrow
  cases layout <;> exact (Except.ok.inj h).symm

/-- What an INSERT of one row is made of. -/
theorem insert_eq_ok {t : Table} {row : UpdateRow} {ts : List Token}
    (h : insert style t row = .ok ts) :
  checkRow row "insert" = .ok ()
    ∧ ts = .text "INSERT" :: insertTarget t row ++ .text " VALUES " :: valueTuple style row
  := by
  obtain ⟨_, hrow, h⟩ := Except.bind_eq_ok h
  exact ⟨hrow, (Except.ok.inj h).symm⟩

/-- What an INSERT of several rows is made of. -/
theorem insertBatch_eq_ok {layout : BatchLayout} {t : Table} {rows : List UpdateRow}
    {ts : List Token} :
  insertBatch style layout t rows = .ok ts →
    ∃ first, checkBatch rows = .ok first ∧ ts = match layout with
    | .tuples =>
      .text "INSERT" :: insertTarget t first ++ .text " VALUES "
        :: Token.separated ", " (rows.map (valueTuple style))
    | .insertAll =>
      .text "INSERT ALL" ::
        (rows.flatMap fun row => insertTarget t row ++ .text " VALUES " :: valueTuple style row)
        ++ [.text " SELECT 1 FROM DUAL"]
  := by
  intro h
  obtain ⟨first, hfirst, h⟩ := Except.bind_eq_ok h
  use first, hfirst
  cases layout <;> exact (Except.ok.inj h).symm

/-- A batch begins with the row that stands for its columns. -/
theorem head_of_checkBatch {rows : List UpdateRow} {first : UpdateRow}
    (h : checkBatch rows = .ok first) :
  ∃ rest, rows = first :: rest
  := by
  cases rows with
  | nil => cases h
  | cons row rest =>
    obtain ⟨_, -, h⟩ := Except.bind_eq_ok h
    split at h
    · cases h
    · cases h
      exact ⟨rest, rfl⟩

/-! ### Properties of all tokens of a change -/

variable {L : List Token → Prop}

theorem holds_tableName (hL : HoldsAsWritten style L) {t : Table} (ht : ∀ u ∈ t.supplied, L [u]) :
  L (tableName t)
  := by
  obtain ⟨source, aliasName⟩ := t
  cases source with
  | named schema name =>
    apply ht
    simp [Table.supplied, Source.supplied]
  | derived q => exact hL.refusal _

theorem holds_assignedTokens (hL : HoldsAsWritten style L) {scope : Option Scope}
    (hscope : ∀ n ∈ Scope.names scope, L [.name n]) {x : Assigned}
    (hx : ∀ t ∈ x.supplied, L [t]) :
  L (assignedTokens style scope x)
  := by
  cases x with
  | value v => exact hx _ List.mem_cons_self
  | raw sql params => exact hx _ List.mem_cons_self
  | query q => exact hL.parenthesized (Query.holds_written hL hscope hx)

theorem holds_of_rowSupplied {row : UpdateRow} (hrow : ∀ t ∈ row.supplied, L [t]) :
  ∀ entry ∈ row.entries, L [.name entry.1] ∧ ∀ t ∈ entry.2.supplied, L [t]
  := by
  intro entry hentry
  have hmem : ∀ t ∈ Token.name entry.1 :: entry.2.supplied, t ∈ row.supplied :=
    fun t ht => List.mem_flatMap.mpr ⟨entry, hentry, ht⟩
  constructor
  · apply hrow _ (hmem _ List.mem_cons_self)
  · exact fun t ht => hrow t (hmem t (List.mem_cons_of_mem _ ht))

theorem holds_assignments (hL : HoldsAsWritten style L) {scope : Option Scope}
    (hscope : ∀ n ∈ Scope.names scope, L [.name n]) {row : UpdateRow}
    (hrow : ∀ t ∈ row.supplied, L [t]) :
  L (assignments style scope row)
  := by
  apply hL.separated ", " rfl
  rw [List.forall_mem_map]
  rintro ⟨column, x⟩ hentry
  obtain ⟨hcolumn, hx⟩ := holds_of_rowSupplied hrow _ hentry
  apply hL.append _ (holds_assignedTokens hL hscope hx)
  apply hL.cons hcolumn (hL.word " = " rfl)

theorem holds_insertTarget (hL : HoldsAsWritten style L) {t : Table} (ht : ∀ u ∈ t.supplied, L [u])
    {row : UpdateRow} (hrow : ∀ u ∈ row.supplied, L [u]) :
  L (insertTarget t row)
  := by
  apply hL.append (hL.wordCons rfl (holds_tableName hL ht))
  apply hL.parenthesized
  apply hL.separated ", " rfl
  rw [List.forall_mem_map]
  exact fun entry hentry => (holds_of_rowSupplied hrow entry hentry).1

theorem holds_valueTuple (hL : HoldsAsWritten style L) {row : UpdateRow}
    (hrow : ∀ t ∈ row.supplied, L [t]) :
  L (valueTuple style row)
  := by
  apply hL.parenthesized
  apply hL.separated ", " rfl
  rw [List.forall_mem_map]
  intro entry hentry
  apply holds_assignedTokens hL (by simp [Scope.names]) (holds_of_rowSupplied hrow entry hentry).2

theorem holds_whereTokens (hL : HoldsAsWritten style L) {q : Query}
    (hq : q.Supplies fun t => L [t]) :
  L (whereTokens style q)
  := by
  apply hL.wordCons rfl
  apply Condition.holds_tokens hL (holds_scope hq.sources hq.joins) q.filter hq.filter

/-- The table that a change aims at is supplied by its query. -/
theorem holds_target {q : Query} {action : String} {t : Table} (h : target q action = .ok t)
    (hq : ∀ u ∈ Table.suppliedEach q.sources, L [u]) :
  ∀ u ∈ t.supplied, L [u]
  := by
  obtain ⟨⟨rest, hsources⟩, -⟩ := target_eq_ok_iff.mp h
  intro u hu
  apply hq
  rw [hsources, Table.suppliedEach]
  apply List.mem_append_left _ hu

theorem holds_delete (hL : HoldsAsWritten style L) {layout : MutationLayout} {q : Query}
    {ts : List Token} (h : delete style layout q = .ok ts) (hq : q.Supplies fun t => L [t]) :
  L ts
  := by
  have hscope := holds_scope hq.sources hq.joins
  have hwhere := holds_whereTokens hL hq
  obtain ⟨t, ht, rfl⟩ := delete_eq_ok h
  cases layout with
  | standard =>
    apply hL.append (hL.append (hL.append _ _) hwhere) (holds_ofFragments hL hq.endings)
    · apply hL.wordCons rfl
      apply hL.separated ", " rfl (Table.holds_tokensEach hL hscope q.sources hq.sources)
    · apply Join.holds_includedTokens hL hscope q.joins hq.joins
  | alterTable =>
    apply hL.append (hL.wordCons rfl _) (hL.wordCons rfl hwhere)
    apply holds_tableName hL (holds_target ht hq.sources)

theorem holds_update (hL : HoldsAsWritten style L) {layout : MutationLayout} {row : UpdateRow}
    {q : Query} {ts : List Token} (h : update style layout row q = .ok ts)
    (hrow : ∀ t ∈ row.supplied, L [t]) (hq : q.Supplies fun t => L [t]) :
  L ts
  := by
  have hscope := holds_scope hq.sources hq.joins
  have hwhere := holds_whereTokens hL hq
  have hset := holds_assignments hL hscope hrow
  obtain ⟨t, ht, -, rfl⟩ := update_eq_ok h
  have htarget := holds_target ht hq.sources
  cases layout with
  | standard =>
    apply hL.append (hL.append (hL.append _ (hL.wordCons rfl hset)) hwhere)
      (holds_ofFragments hL hq.endings)
    apply hL.append _ (Join.holds_includedTokens hL hscope q.joins hq.joins)
    apply hL.wordCons rfl (Table.holds_tokens hL hscope t htarget)
  | alterTable =>
    apply hL.append (hL.append (hL.wordCons rfl _) (hL.wordCons rfl hset)) hwhere
    apply holds_tableName hL htarget

theorem holds_insert (hL : HoldsAsWritten style L) {t : Table} {row : UpdateRow} {ts : List Token}
    (h : insert style t row = .ok ts) (ht : ∀ u ∈ t.supplied, L [u])
    (hrow : ∀ u ∈ row.supplied, L [u]) :
  L ts
  := by
  obtain ⟨-, rfl⟩ := insert_eq_ok h
  apply hL.append (hL.wordCons rfl (holds_insertTarget hL ht hrow))
  apply hL.wordCons rfl (holds_valueTuple hL hrow)

theorem holds_insertBatch (hL : HoldsAsWritten style L) {layout : BatchLayout} {t : Table}
    {rows : List UpdateRow} {ts : List Token} (h : insertBatch style layout t rows = .ok ts)
    (ht : ∀ u ∈ t.supplied, L [u]) (hrows : ∀ row ∈ rows, ∀ u ∈ row.supplied, L [u]) :
  L ts
  := by
  obtain ⟨first, hfirst, rfl⟩ := insertBatch_eq_ok h
  obtain ⟨rest, rfl⟩ := head_of_checkBatch hfirst
  cases layout with
  | tuples =>
    apply hL.append (hL.wordCons rfl (holds_insertTarget hL ht (hrows first List.mem_cons_self)))
    apply hL.wordCons rfl
    apply hL.separated ", " rfl
    rw [List.forall_mem_map]
    exact fun row hrow => holds_valueTuple hL (hrows row hrow)
  | insertAll =>
    apply hL.append (hL.wordCons rfl (hL.flatMap _)) (hL.word _ rfl)
    intro row hrow
    apply hL.append (holds_insertTarget hL ht (hrows row hrow))
    apply hL.wordCons rfl (holds_valueTuple hL (hrows row hrow))

end Mutation

/-- What holds by part, and of the tokens that a request supplies, holds of its tokens. -/
theorem Request.holds_written {d : Dialect} {L : List Token → Prop}
    (hL : HoldsAsWritten d.style L)
    {r : Request} {ts : List Token} (h : r.tokens d = .ok ts) (hr : ∀ t ∈ r.supplied, L [t])
    (hcount : ∀ t ∈ Query.countTokens, L [t]) :
  L ts
  := by
  have hquery : ∀ q : Query, q.Supplies (fun t => L [t]) → L (q.tokens d.style none) :=
    fun q hq => Query.holds_written hL (by simp [Scope.names]) (Query.supplies_iff.mp hq)
  cases r with
  | select q =>
    obtain rfl := Except.ok.inj h
    apply hquery q (Query.supplies_iff.mpr hr)
  | delete q => exact Mutation.holds_delete hL h (Query.supplies_iff.mpr hr)
  | update row q =>
    obtain ⟨hrow, hq⟩ := List.forall_mem_append.mp hr
    apply Mutation.holds_update hL h hrow (Query.supplies_iff.mpr hq)
  | insert t row =>
    obtain ⟨ht, hrow⟩ := List.forall_mem_append.mp hr
    apply Mutation.holds_insert hL h ht hrow
  | insertBatch t rows =>
    obtain ⟨ht, hrows⟩ := List.forall_mem_append.mp hr
    apply Mutation.holds_insertBatch hL h ht
    exact fun row hrow u hu => hrows u (List.mem_flatMap.mpr ⟨row, hrow, hu⟩)
  | count simplify q =>
    obtain rfl := Except.ok.inj h
    apply hquery _ (Query.supplies_countQuery (Query.supplies_iff.mpr hr) hcount simplify)
  | page r q =>
    obtain rfl := Except.ok.inj h
    apply hquery _ (Query.supplies_limit_skip (Query.supplies_iff.mpr hr) _ _)

theorem Request.holds_tokens {d : Dialect} {L : List Token → Prop} (hL : HoldsByPart d.style L)
    {r : Request} {ts : List Token} (h : r.tokens d = .ok ts) (hr : ∀ t ∈ r.supplied, L [t])
    (hcount : ∀ t ∈ Query.countTokens, L [t]) :
  L ts
  := Request.holds_written hL.asWritten h hr hcount

end SqlRender
