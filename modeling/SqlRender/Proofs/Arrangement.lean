import SqlRender.Proofs.Tokens

/-!
# What a view sees of a select

The parts of a select are arranged in several ways.  A view that sees nothing in words and
names sees the same parts in every arrangement, each of them once: the common table
expressions, the error of tables that cannot be told apart, the columns, the clauses, the
ordering and what follows the select.  Only the place of the ordering depends on the
arrangement: `SelectParts.flatMap_tokens`.
-/

namespace SqlRender

variable {β : Type} {f : Token → List β}

/-- A view that sees nothing in words of the language, in names and in texts of the caller
without values. -/
structure Token.SkipsWords (f : Token → List β) : Prop where
  text : ∀ s, f (.text s) = []
  name : ∀ n, f (.name n) = []
  fragment : ∀ sql, f (.raw sql []) = []

section

variable (hf : Token.SkipsWords f)

include hf

/-! ### Tokens in which nothing is seen -/

theorem flatMap_namedTokens (scope : Option Scope) (table : Option String) (name : String) :
  (namedTokens scope table name).flatMap f = []
  := by
  unfold namedTokens
  split <;> simp [hf.text, hf.name]

theorem flatMap_cteHead (name : String) (columns : List String) :
  (cteHead name columns).flatMap f = []
  := by
  have hcolumns : ((columns.map fun c => [Token.name c]).flatMap fun part => part.flatMap f)
      = [] := by
    simp [List.flatMap_map, hf.name]
  unfold cteHead
  split
  · simp [hf.text, hf.name]
  · simp [hf.text, hf.name, Token.flatMap_parenthesized hf.text, Token.flatMap_separated hf.text,
      hcolumns]

theorem flatMap_tableAliasTokens (style : SelectStyle) (aliasName : Option String) :
  (tableAliasTokens style aliasName).flatMap f = []
  := by
  cases aliasName <;> simp [tableAliasTokens, hf.text, hf.name]

theorem flatMap_orderWords (direction : Option Direction) (nulls : Option NullOrder) :
  (orderWords direction nulls).flatMap f = []
  := by
  cases direction <;> cases nulls <;> simp [orderWords, hf.text]

theorem flatMap_endings (endings : List String) :
  (endings.flatMap fun e => [.text " ", .raw e []]).flatMap f = []
  := by
  simp [List.flatMap_assoc, hf.text, hf.fragment]

/-- A view sees the parts in parentheses. -/
theorem flatMap_parenthesizedIf (needed : Bool) (part : List Token) :
  (parenthesizedIf needed part).flatMap f = part.flatMap f
  := by
  cases needed
  · rfl
  · apply Token.flatMap_parenthesized hf.text

/-- The same is seen in an entry of an ordering with the table of its column and without. -/
theorem flatMap_ordered (style : SelectStyle) (scope : Option Scope) (around : Bool) (c : Column)
    (direction : Option Direction) (nulls : Option NullOrder) :
  (OrderItem.tokens style scope around (.column c direction nulls)).flatMap f
    = (Column.tokens style scope c).flatMap f
  := by
  unfold OrderItem.tokens
  rw [List.flatMap_append, flatMap_orderWords hf, List.append_nil]
  split
  · next name hname =>
    obtain ⟨_ | _, aliasName⟩ := c <;> simp [Column.name?] at hname
    simp [Column.tokens, Expr.tokens, flatMap_namedTokens hf, hf.name]
  · rfl

/-- A clause that is left out when it is empty shows its body. -/
theorem flatMap_clause {isEmpty : Bool} {word : String} {body : List Token} {seen : List β}
    (hbody : body.flatMap f = seen) (hempty : isEmpty = true → seen = []) :
  (if isEmpty then [] else .text word :: body).flatMap f = seen
  := by
  split
  · next h => simp [hempty h]
  · simpa [hf.text] using hbody

/-- A clause over a list that is left out when the list is empty shows the parts. -/
theorem flatMap_listClause {α : Type} {items : List α} {word : String}
    {parts : List (List Token)} {seen : List β}
    (hparts : (parts.flatMap fun part => part.flatMap f) = seen) (hempty : items = [] → seen = []) :
  (if items.isEmpty then [] else .text word :: Token.separated ", " parts).flatMap f = seen
  := by
  apply flatMap_clause hf
  · rw [Token.flatMap_separated hf.text, hparts]
  · simpa using hempty

end

/-! ### The arrangement of the parts -/

namespace SelectParts

/-- Whether the rows are numbered, so that the ordering is written before the columns. -/
def isNumbered (p : SelectParts) : Bool :=
  match p.layout with
  | .numbered .. => true
  | _ => false

/-- What the arrangement of the parts relies on under a view: every column has its
expression, and there is nothing to be seen in the hint and in an ordering that is left out. -/
structure ShowsByClause (f : Token → List β) (p : SelectParts) : Prop where
  exprs_length : p.exprs.length = p.columns.length
  hint : p.hint.flatMap f = []
  unordered : p.isOrdered = false → ∀ around, (p.order around).flatMap f = []

/-- Whether numbered rows get their numbers around the query. -/
def numbersAround (p : SelectParts) : Bool :=
  p.columns.any Column.isDistinct

variable {p : SelectParts} (hf : Token.SkipsWords f)

include hf

theorem flatMap_itemTokens (c : Column) (expr : List Token) :
  (c.itemTokens expr).flatMap f = expr.flatMap f
  := by
  unfold Column.itemTokens Column.aliasTokens
  split <;> simp [hf.text, hf.name]

/-- What is seen in the columns, whatever their aliases are. -/
theorem flatMap_items {columns : List Column} {exprs : List (List Token)}
    (h : exprs.length = columns.length) :
  ((List.zipWith Column.itemTokens columns exprs).flatMap fun item => item.flatMap f)
    = exprs.flatMap fun expr => expr.flatMap f
  := by
  induction columns generalizing exprs with
  | nil =>
    rw [List.length_eq_zero_iff.mp h]
    rfl
  | cons c columns ih =>
    obtain _ | ⟨expr, exprs⟩ := exprs
    · simp at h
    · simp [ih (Nat.succ.inj h), flatMap_itemTokens hf]

/-- The select list shows its columns, wherever the head stands. -/
theorem flatMap_list (hp : p.ShowsByClause f) (head : Option SelectHead) :
  (p.list head).flatMap f = p.exprs.flatMap fun expr => expr.flatMap f
  := by
  have hlength := hp.exprs_length
  have hseparated := Token.flatMap_separated hf.text ", "
  cases hcolumns : p.columns with
  | nil =>
    rw [hcolumns, List.length_nil, List.length_eq_zero_iff] at hlength
    cases head <;> simp [list, hcolumns, hlength, hf.text]
  | cons c columns =>
    cases hexprs : p.exprs with
    | nil => simp [hcolumns, hexprs] at hlength
    | cons expr exprs =>
      rw [hcolumns, hexprs] at hlength
      have hitems := flatMap_items hf hlength
      have hrest := flatMap_items hf (Nat.succ.inj hlength)
      cases head with
      | none => simpa [list, hcolumns, hexprs, hseparated] using hitems
      | some h =>
        by_cases hd : h.afterDistinct && c.isDistinct
        · -- the head stands inside of the first expression
          have hexpr : (expr.take 1).flatMap f ++ (expr.drop 1).flatMap f = expr.flatMap f := by
            rw [← List.flatMap_append, List.take_append_drop]
          simp [list, hcolumns, hexprs, hd, hrest, ← hexpr, hseparated, hf.text]
        · simpa [list, hcolumns, hexprs, hd, hseparated, hf.text] using hitems

theorem flatMap_body (hp : p.ShowsByClause f) (first : List Token) (head : Option SelectHead) :
  (p.body first head).flatMap f
    = first.flatMap f ++ (p.exprs.flatMap fun expr => expr.flatMap f) ++ p.clauses.flatMap f
  := by
  simp [body, hp.hint, flatMap_list hf hp, hf.text]

theorem flatMap_rowNumber (hp : p.ShowsByClause f) (around : Bool) :
  (p.rowNumber around).flatMap f = (p.order around).flatMap f
  := by
  unfold rowNumber
  split
  · simp [hf.text]
  · next h => simp [hp.unordered (by simpa using h), hf.text]

theorem flatMap_core (hp : p.ShowsByClause f) (head : Option SelectHead) :
  (p.core head).flatMap f
    = p.clash.flatMap f ++ (p.exprs.flatMap fun expr => expr.flatMap f) ++ p.clauses.flatMap f
      ++ (p.order false).flatMap f
  := by
  unfold core
  split
  · simp [flatMap_body hf hp, hf.text]
  · next h => simp [flatMap_body hf hp, hp.unordered (by simpa using h)]

theorem flatMap_numberedCore (hp : p.ShowsByClause f) (aliasSeparator : String)
    (head : Option SelectHead) :
  (p.numberedCore aliasSeparator head).flatMap f
    = p.clash.flatMap f ++ (p.order p.numbersAround).flatMap f
      ++ (p.exprs.flatMap fun expr => expr.flatMap f) ++ p.clauses.flatMap f
  := by
  unfold numberedCore numbersAround
  cases p.columns.any Column.isDistinct
  · simp [flatMap_rowNumber hf hp, flatMap_body hf hp, hf.text]
  · simp [flatMap_rowNumber hf hp, flatMap_body hf hp, hf.text]

theorem flatMap_preamble (separator : String) :
  (p.preamble separator).flatMap f = p.ctes.flatMap f
  := by
  unfold preamble
  split
  · next h => rw [List.isEmpty_iff.mp h]
  · simp [hf.text]

/-- The parts of a select in the order in which they are seen: the ordering right before the
columns if the rows are numbered, and behind all clauses otherwise. -/
theorem flatMap_tokens (hp : p.ShowsByClause f) (aliasSeparator : String) :
  (p.tokens aliasSeparator).flatMap f
    = p.ctes.flatMap f ++ p.clash.flatMap f
      ++ (if p.isNumbered then (p.order p.numbersAround).flatMap f else [])
      ++ (p.exprs.flatMap fun expr => expr.flatMap f) ++ p.clauses.flatMap f
      ++ (if p.isNumbered then [] else (p.order false).flatMap f)
      ++ p.after.flatMap f
  := by
  unfold tokens paged isNumbered
  cases p.layout with
  | inline head tail =>
    cases tail with
    | none => simp [standard, flatMap_preamble hf, flatMap_core hf hp]
    | some t => simp [standard, flatMap_preamble hf, flatMap_core hf hp, hf.text]
  | wrapped before after => simp [standard, flatMap_preamble hf, flatMap_core hf hp, hf.text]
  | numbered first last =>
    by_cases h : p.ctes.isEmpty
    · simp [List.isEmpty_iff.mp h, flatMap_numberedCore hf hp, hf.text]
    · simp [h, flatMap_preamble hf, flatMap_numberedCore hf hp, hf.text]

end SelectParts

/-- The parts of a query show what they have, clause by clause. -/
theorem Query.showsByClause_parts (hf : Token.SkipsWords f) (style : SelectStyle)
    (scope : Option Scope) (q : Query) :
  (q.parts style scope).ShowsByClause f
  := by
  obtain ⟨recursive, ctes, hint, columns, sources, joins, filter, groups, having, order⟩ := q
  constructor
  · simp [Query.parts, Column.tokensEach_eq_map]
  · cases hint <;> simp [Query.parts, hf.text, hf.fragment]
  · intro hordered around
    obtain rfl : order = [] := by simpa [Query.parts] using hordered
    rfl

end SqlRender
