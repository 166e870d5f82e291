import Mathlib.Data.List.Basic
import SqlRender.Proofs.JoinedRows
import SqlRender.Proofs.QualifiedColumns

/-!
# Rows that a text addresses

The text of a statement lists tables and joins and has a condition, and the statement addresses
the joined rows on which the condition is true.  A database knows no more of a condition than
its text: `Server.holds` depends on the tokens and on what the columns in them read in a row.

A text that leaves out tables and joins of another one, but has the same condition, addresses
more rows.  If the conditions in the text read nothing of what is left out, then by
`Server.mem_addressed_append` the rows of the longer text are the continuations of the rows of
the shorter one: a row without a continuation is addressed by the shorter text alone.
-/

namespace SqlRender

/-! ### Rows put into rows -/

namespace JoinedRow

/-- A row with further parts behind its first parts. -/
def insertAt (n : Nat) (others row : JoinedRow) : JoinedRow :=
  row.take n ++ others ++ row.drop n

/-- The rows that tables and joins make of a row whose first parts belong to the tables before
them. -/
def continued (holds : Condition → JoinedRow → Bool) (n : Nat) (more : List (Table × Relation))
    (dropped : List (Join × Relation)) (row : JoinedRow) : List JoinedRow :=
  (product more).flatMap fun others => continuations holds dropped (insertAt n others row)

theorem insertAt_append {n : Nat} {row : JoinedRow} (hn : n ≤ row.length)
    (others rest : JoinedRow) :
  insertAt n others (row ++ rest) = insertAt n others row ++ rest
  := by simp [insertAt, List.take_append_of_le_length hn, List.drop_append_of_le_length hn]

/-- The rows of a product have a record of every table. -/
theorem length_of_mem_product {tables : List (Table × Relation)} {row : JoinedRow}
    (h : row ∈ product tables) :
  row.length = tables.length
  := by
  induction tables generalizing row with
  | nil =>
    obtain rfl := List.mem_singleton.mp h
    rfl
  | cons t tables ih =>
    obtain ⟨r, -, hrow⟩ := List.mem_flatMap.mp h
    obtain ⟨rest, hrest, rfl⟩ := List.mem_map.mp hrow
    rw [List.length_cons, List.length_cons, ih hrest]

theorem exists_of_mem_product {tables : List (Table × Relation)} {row : JoinedRow}
    (h : row ∈ product tables) :
  ∀ part ∈ row, ∃ t ∈ tables, part.1 = t.1 ∧ part.2 ∈ t.2.records
  := by
  induction tables generalizing row with
  | nil =>
    obtain rfl := List.mem_singleton.mp h
    nofun
  | cons t tables ih =>
    obtain ⟨r, hr, hrow⟩ := List.mem_flatMap.mp h
    obtain ⟨rest, hrest, rfl⟩ := List.mem_map.mp hrow
    intro part hpart
    obtain rfl | hpart := List.mem_cons.mp hpart
    · exact ⟨t, List.mem_cons_self, rfl, hr⟩
    · obtain ⟨u, hu, hrecord⟩ := ih hrest part hpart
      exact ⟨u, List.mem_cons_of_mem t hu, hrecord⟩

/-- The rows of a product are those of its first tables, each continued by those of the
others. -/
theorem mem_product_append {front more : List (Table × Relation)} {row : JoinedRow} :
  row ∈ product (front ++ more)
    ↔ ∃ first ∈ product front, ∃ others ∈ product more, row = first ++ others
  := by
  induction front generalizing row with
  | nil => simp [product]
  | cons t front ih =>
    simp only [List.cons_append, product, List.mem_flatMap, List.mem_map, ih]
    constructor
    · rintro ⟨r, hr, _, ⟨first, hfirst, others, hothers, rfl⟩, rfl⟩
      exact ⟨_, ⟨r, hr, first, hfirst, rfl⟩, others, hothers, rfl⟩
    · rintro ⟨_, ⟨r, hr, first, hfirst, rfl⟩, others, hothers, rfl⟩
      exact ⟨r, hr, _, ⟨first, hfirst, others, hothers, rfl⟩, rfl⟩

section

variable {holds : Condition → JoinedRow → Bool} {n : Nat} {others row : JoinedRow}

/-- Whether a condition is true does not depend on parts behind the first parts. -/
def Overlooks (holds : Condition → JoinedRow → Bool) (n : Nat) (others : JoinedRow)
    (c : Condition) : Prop :=
  ∀ row : JoinedRow, n ≤ row.length → holds c (insertAt n others row) = holds c row

theorem matching_insertAt {j : Join × Relation}
    (hj : ∀ c ∈ j.1.on, Overlooks holds n others c) (hn : n ≤ row.length) :
  matching holds j (insertAt n others row) = (matching holds j row).map (insertAt n others)
  := by
  have hlength : ∀ r, n ≤ (row ++ [(j.1.table, r)]).length := by
    intro r
    rw [List.length_append]
    omega
  have hholds : ∀ r, j.1.on.all (holds · (insertAt n others (row ++ [(j.1.table, r)])))
      = j.1.on.all (holds · (row ++ [(j.1.table, r)])) := by
    intro r
    cases hon : j.1.on with
    | none => rfl
    | some c => exact hj c hon _ (hlength r)
  simp only [matching, List.filter_map, List.map_map, Function.comp_def, ← insertAt_append hn,
    hholds]

theorem joined_insertAt {j : Join × Relation}
    (hj : ∀ c ∈ j.1.on, Overlooks holds n others c) (hn : n ≤ row.length) :
  joined holds j (insertAt n others row) = (joined holds j row).map (insertAt n others)
  := by
  simp only [joined, matching_insertAt hj hn, List.map_eq_nil_iff]
  split
  · rw [List.map_singleton, insertAt_append hn]
  · rfl

/-- Joins whose conditions overlook parts of a row continue the row around these parts. -/
theorem continuations_insertAt {joins : List (Join × Relation)}
    (hjoins : ∀ j ∈ joins, ∀ c ∈ j.1.on, Overlooks holds n others c) (hn : n ≤ row.length) :
  continuations holds joins (insertAt n others row)
    = (continuations holds joins row).map (insertAt n others)
  := by
  induction joins generalizing row with
  | nil => rfl
  | cons j joins ih =>
    rw [List.forall_mem_cons] at hjoins
    obtain ⟨hj, hjoins⟩ := hjoins
    rw [continuations, continuations, joined_insertAt hj hn, List.flatMap_map, List.map_flatMap]
    apply List.flatMap_congr
    intro next hnext
    obtain ⟨r, -, rfl⟩ := exists_of_mem_joined hnext
    apply ih hjoins
    rw [List.length_append]
    omega

theorem continuations_append (kept dropped : List (Join × Relation)) :
  continuations holds (kept ++ dropped) row
    = (continuations holds kept row).flatMap (continuations holds dropped)
  := by
  induction kept generalizing row with
  | nil => simp [continuations]
  | cons j kept ih =>
    rw [List.cons_append, continuations, continuations, List.flatMap_assoc]
    exact List.flatMap_congr fun next _ => ih

/-- If conditions overlook the last tables and the last joins, the selected rows are the
continuations, by these tables and joins, of the rows that are selected without them. -/
theorem mem_selected_append {front more : List (Table × Relation)}
    {kept dropped : List (Join × Relation)} {filter : Condition}
    (hkept : ∀ others ∈ product more, ∀ j ∈ kept, ∀ c ∈ j.1.on,
      Overlooks holds front.length others c)
    (hmore : ∀ others ∈ product more, Overlooks holds front.length others filter)
    (hdropped : ∀ row, ∀ next ∈ continuations holds dropped row,
      holds filter next = holds filter row)
    {next : JoinedRow} :
  next ∈ selected holds (front ++ more) (kept ++ dropped) filter
    ↔ ∃ row ∈ selected holds front kept filter, next ∈ continued holds front.length more dropped row
  := by
  have hfirst : ∀ first ∈ product front, ∀ others : JoinedRow,
      first ++ others = insertAt front.length others first := by
    intro first hmem others
    have hlength := length_of_mem_product hmem
    simp [insertAt, ← hlength]
  have hlonger : ∀ first ∈ product front, ∀ row ∈ continuations holds kept first,
      front.length ≤ row.length := by
    intro first hmem row hrow
    obtain ⟨rest, rfl, -⟩ := exists_of_mem_continuations hrow
    rw [List.length_append, length_of_mem_product hmem]
    omega
  simp only [selected, continued, List.mem_filter, List.mem_flatMap, mem_product_append,
    continuations_append]
  constructor
  · rintro ⟨⟨_, ⟨first, hmem, others, hothers, rfl⟩, middle, hmiddle, hnext⟩, hholds⟩
    have hle := Nat.le_of_eq (length_of_mem_product hmem).symm
    rw [hfirst first hmem, continuations_insertAt (hkept others hothers) hle] at hmiddle
    obtain ⟨row, hrow, rfl⟩ := List.mem_map.mp hmiddle
    rw [hdropped _ next hnext, hmore others hothers row (hlonger first hmem row hrow)] at hholds
    exact ⟨row, ⟨⟨first, hmem, hrow⟩, hholds⟩, others, hothers, hnext⟩
  · rintro ⟨row, ⟨⟨first, hmem, hrow⟩, hholds⟩, others, hothers, hnext⟩
    have hle := Nat.le_of_eq (length_of_mem_product hmem).symm
    have hmiddle : insertAt front.length others row
        ∈ continuations holds kept (first ++ others) := by
      rw [hfirst first hmem, continuations_insertAt (hkept others hothers) hle]
      exact List.mem_map_of_mem hrow
    constructor
    · exact ⟨_, ⟨first, hmem, others, hothers, rfl⟩, _, hmiddle, hnext⟩
    · rw [hdropped _ next hnext, hmore others hothers row (hlonger first hmem row hrow), hholds]

end

end JoinedRow

/-! ### Conditions as they are written -/

/-- Whether a join continues every row on its own; a right or a full join keeps rows of its table
as well. -/
def JoinKind.continuesRows : JoinKind → Bool
  | right | full => false
  | inner | left | cross | plain => true

/-- Whether a token is text of the caller. -/
def Token.isForeign : Token → Bool
  | .raw .. => true
  | .order _ => true
  | _ => false

/-- A database to which statements are sent. -/
structure Server where
  /-- The rows that a table is read from. -/
  contents : Source → Relation
  /-- The truth value of a condition, from its tokens and from the values that the columns in them
  read; if there is text of the caller among the tokens, also from the whole row. -/
  judge : List Token → List (Option Value) → JoinedRow → Truth

namespace Server

variable (S : Server) (style : SelectStyle) (scope : Scope)

/-- Whether a condition, as it is written for tables, is true on a row.  An empty condition is
not written. -/
def holds (c : Condition) (row : JoinedRow) : Bool :=
  let ts := c.tokens style (some scope)
  c.isEmpty
    || S.judge ts ((Token.columns ts).map row.read) (if ts.any Token.isForeign then row else [])
      == .true

/-- The tables of a list with their contents. -/
def relations (tables : List Table) : List (Table × Relation) :=
  tables.map fun t => (t, S.contents t.source)

/-- The joins of a list with the contents of their tables. -/
def joinRelations (joins : List Join) : List (Join × Relation) :=
  joins.map fun j => (j, S.contents j.table.source)

/-- The rows that a text addresses with these tables, joins and condition. -/
def addressed (tables : List Table) (joins : List Join) (filter : Condition) : List JoinedRow :=
  JoinedRow.selected (S.holds style scope) (S.relations tables) (S.joinRelations joins) filter

/-- The rows that tables and joins make of a row whose first parts belong to the tables before
them. -/
def continued (n : Nat) (more : List Table) (dropped : List Join) (row : JoinedRow) :
    List JoinedRow :=
  JoinedRow.continued (S.holds style scope) n (S.relations more) (S.joinRelations dropped) row

/-- The text of a condition reads nothing of a table. -/
def Ignores (t : Table) (c : Condition) : Prop :=
  (c.tokens style (some scope)).any Token.isForeign = false
    ∧ ∀ r ∈ Token.columns (c.tokens style (some scope)), r.mayRead t (S.contents t.source) = false

variable {S style scope}

/-- What a condition ignores does not change its truth value, wherever it stands in a row. -/
theorem holds_insert {c : Condition} {row others rest : JoinedRow}
    (h : ∀ part ∈ others, S.Ignores style scope part.1 c
      ∧ (part.2 ∈ (S.contents part.1.source).records
        ∨ part.2 = (S.contents part.1.source).blank)) :
  S.holds style scope c (row ++ others ++ rest) = S.holds style scope c (row ++ rest)
  := by
  cases others with
  | nil => rw [List.append_nil]
  | cons part others =>
    have hforeign := (h part List.mem_cons_self).1.1
    have hvalues : (Token.columns (c.tokens style (some scope))).map
          (JoinedRow.read (row ++ part :: others ++ rest))
        = (Token.columns (c.tokens style (some scope))).map (JoinedRow.read (row ++ rest)) := by
      apply List.map_congr_left
      intro r hr
      apply JoinedRow.read_insert
      intro part hpart
      obtain ⟨hignores, hrecord⟩ := h part hpart
      exact ⟨_, hrecord, hignores.2 r hr⟩
    simp only [holds, hforeign, hvalues, Bool.false_eq_true, if_false]

/-- If the conditions of a text read nothing of the tables and the joins that it leaves out of
another one, then the other text addresses the continuations, by these tables and joins, of the
rows that the text addresses. -/
theorem mem_addressed_append {front more : List Table} {kept dropped : List Join}
    {filter : Condition}
    (hkept : ∀ j ∈ kept, ∀ c ∈ j.on, ∀ t ∈ more, S.Ignores style scope t c)
    (hfilter : ∀ t ∈ more ++ dropped.map Join.table, S.Ignores style scope t filter)
    {next : JoinedRow} :
  next ∈ S.addressed style scope (front ++ more) (kept ++ dropped) filter
    ↔ ∃ row ∈ S.addressed style scope front kept filter,
      next ∈ S.continued style scope front.length more dropped row
  := by
  rw [List.forall_mem_append, List.forall_mem_map] at hfilter
  have hothers : ∀ others ∈ JoinedRow.product (S.relations more), ∀ c,
      (∀ t ∈ more, S.Ignores style scope t c) →
      JoinedRow.Overlooks (S.holds style scope) (S.relations front).length others c := by
    intro others hmem c hc row hn
    conv_rhs => rw [← List.take_append_drop (S.relations front).length row]
    apply holds_insert
    intro part hpart
    obtain ⟨_, hrelation, htable, hrecord⟩ := JoinedRow.exists_of_mem_product hmem part hpart
    obtain ⟨t, ht, rfl⟩ := List.mem_map.mp hrelation
    rw [htable]
    exact ⟨hc t ht, .inl hrecord⟩
  have hlength : front.length = (S.relations front).length := by simp [relations]
  simp only [addressed, continued, relations, joinRelations, List.map_append] at hlength ⊢
  rw [hlength]
  apply JoinedRow.mem_selected_append
  · intro others hmem j hj c hc
    obtain ⟨k, hk, rfl⟩ := List.mem_map.mp hj
    exact hothers others hmem c (hkept k hk c hc)
  · exact fun others hmem => hothers others hmem filter hfilter.1
  · intro row next hnext
    obtain ⟨rest, rfl, hrest⟩ := JoinedRow.exists_of_mem_continuations hnext
    have hignored : ∀ part ∈ rest, S.Ignores style scope part.1 filter
        ∧ (part.2 ∈ (S.contents part.1.source).records
          ∨ part.2 = (S.contents part.1.source).blank) := by
      intro part hpart
      obtain ⟨j, hj, htable, hrecord⟩ := hrest part hpart
      obtain ⟨k, hk, rfl⟩ := List.mem_map.mp hj
      rw [htable]
      exact ⟨hfilter.2 k hk, hrecord⟩
    have hholds : S.holds style scope filter (row ++ rest ++ [])
        = S.holds style scope filter (row ++ []) := holds_insert hignored
    simpa only [List.append_nil] using hholds

end Server

end SqlRender
