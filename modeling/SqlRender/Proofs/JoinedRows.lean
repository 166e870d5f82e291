import SqlRender.Proofs.ConditionReading
import SqlRender.Proofs.References
import SqlRender.Proofs.Supplied
import SqlRender.Proofs.Visibility

/-!
# The rows of joined tables

Tables have the rows of their product; every join continues a row with the rows of its table
that match, and a left join without a match continues it with a row of null values; and a
condition selects the rows on which it is true: `Store.selected`.

What a reference reads in a row does not change if the row is continued by tables that it may
not read, so a condition on the other tables can select the rows before they are continued:
`Store.filter_continuations`.  Left joins lose no row, and by `Store.continuations_of_left` they
make a single row of one exactly if every join finds at most one match.
-/

namespace SqlRender

/-- Lists that are not empty make a list longer, unless each has a single element. -/
theorem length_flatMap_of_ne_nil {α β : Type} {f : α → List β} {l : List α}
    (h : ∀ a ∈ l, f a ≠ []) :
  l.length ≤ (l.flatMap f).length
    ∧ ((l.flatMap f).length = l.length ↔ ∀ a ∈ l, (f a).length = 1)
  := by
  induction l with
  | nil => simp
  | cons a l ih =>
    obtain ⟨hle, heq⟩ := ih fun b hb => h b (List.mem_cons_of_mem a hb)
    have ha := List.length_pos_iff.mpr (h a List.mem_cons_self)
    rw [List.flatMap_cons, List.length_append, List.length_cons, List.forall_mem_cons, ← heq]
    omega

/-! ### Relations -/

/-- The contents of a table, in which a row may occur several times. -/
structure Relation where
  columns : List String
  rows : List (List Value)

/-- A row with the names of its columns. -/
abbrev Record :=
  List (String × Value)

/-- The value of a column, with letter case ignored. -/
def Record.value? (r : Record) (name : String) : Option Value :=
  (r.find? fun cell => Text.sameIgnoringCase cell.1 name).map Prod.snd

namespace Relation

/-- The rows of a relation with the names of the columns. -/
def records (R : Relation) : List Record :=
  R.rows.map R.columns.zip

/-- A row of null values. -/
def blank (R : Relation) : Record :=
  R.columns.map (·, .null)

/-- Whether a column has the name, with letter case ignored. -/
def hasColumn (R : Relation) (name : String) : Bool :=
  R.columns.any (Text.sameIgnoringCase · name)

/-- A record has values of columns only. -/
theorem value?_eq_none {R : Relation} {name : String} (h : R.hasColumn name = false) {r : Record}
    (hr : r ∈ R.records ∨ r = R.blank) :
  r.value? name = none
  := by
  have hcolumns : ∀ cell ∈ r, cell.1 ∈ R.columns := by
    intro cell hcell
    obtain hr | rfl := hr
    · obtain ⟨values, -, rfl⟩ := List.mem_map.mp hr
      exact (List.of_mem_zip hcell).1
    · obtain ⟨column, hcolumn, rfl⟩ := List.mem_map.mp hcell
      exact hcolumn
  rw [Record.value?, Option.map_eq_none_iff, List.find?_eq_none]
  intro cell hcell hname
  rw [hasColumn, List.any_eq_false] at h
  exact h cell.1 (hcolumns cell hcell) hname

end Relation

/-! ### What is read in a row -/

/-- Whether a table is visible under a name: its alias, or its name, also with the schema, if
it has no alias. -/
def Table.isVisibleAs (t : Table) (n : String) : Bool :=
  t.visible.isShownAs n || (t.aliasName.isNone && t.fullName?.any (Text.sameIgnoringCase · n))

/-- Whether a reference may read a column of a table with these contents: the table is visible
under the qualifier, or there is no qualifier and the table has such a column. -/
def Reference.mayRead (t : Table) (R : Relation) (r : Reference) : Bool :=
  match r.table with
  | some n => t.isVisibleAs n
  | none => R.hasColumn r.name

/-- A row of the product of tables. -/
abbrev JoinedRow :=
  List (Table × Record)

namespace JoinedRow

/-- The value that a reference reads in a row.  Without a qualifier it is a column that one
table only has. -/
def read (row : JoinedRow) (r : Reference) : Option Value :=
  match r.table with
  | some n => (row.find? fun part => part.1.isVisibleAs n).bind fun part => part.2.value? r.name
  | none =>
    match row.filterMap fun part => part.2.value? r.name with
    | [v] => some v
    | _ => none

/-- Tables that a reference may not read do not change what it reads, wherever they stand in the
row. -/
theorem read_insert {row others rest : JoinedRow} {r : Reference}
    (h : ∀ part ∈ others, ∃ R : Relation, (part.2 ∈ R.records ∨ part.2 = R.blank)
      ∧ r.mayRead part.1 R = false) :
  read (row ++ others ++ rest) r = read (row ++ rest) r
  := by
  unfold Reference.mayRead at h
  unfold read
  cases htable : r.table with
  | some n =>
    have hothers : others.find? (fun part => part.1.isVisibleAs n) = none := by
      rw [List.find?_eq_none]
      intro part hpart
      obtain ⟨R, -, hvisible⟩ := h part hpart
      rw [htable] at hvisible
      exact Bool.eq_false_iff.mp hvisible
    simp only [List.find?_append, hothers, Option.or_none]
  | none =>
    have hothers : others.filterMap (fun part => part.2.value? r.name) = [] := by
      rw [List.filterMap_eq_nil_iff]
      intro part hpart
      obtain ⟨R, hrecord, hcolumn⟩ := h part hpart
      rw [htable] at hcolumn
      exact Relation.value?_eq_none hcolumn hrecord
    simp only [List.filterMap_append, hothers, List.append_nil]

/-- Tables that a reference may not read do not change what it reads in a row before them. -/
theorem read_append {row rest : JoinedRow} {r : Reference}
    (h : ∀ part ∈ rest, ∃ R : Relation, (part.2 ∈ R.records ∨ part.2 = R.blank)
      ∧ r.mayRead part.1 R = false) :
  read (row ++ rest) r = read row r
  := by
  have hread : read (row ++ rest ++ []) r = read (row ++ []) r := read_insert h
  simpa only [List.append_nil] using hread

/-! ### Joins -/

/-- The rows of the product of tables. -/
def product : List (Table × Relation) → List JoinedRow
  | [] => [[]]
  | (t, R) :: rest => R.records.flatMap fun r => (product rest).map ((t, r) :: ·)

section

variable (holds : Condition → JoinedRow → Bool)

/-- The continuations of a row by the rows of a joined table that match. -/
def matching (j : Join × Relation) (row : JoinedRow) : List JoinedRow :=
  (j.2.records.map fun r => row ++ [(j.1.table, r)]).filter fun next => j.1.on.all (holds · next)

/-- The rows that a join makes of a row: a left join keeps a row without a match. -/
def joined (j : Join × Relation) (row : JoinedRow) : List JoinedRow :=
  if j.1.kind = .left ∧ matching holds j row = [] then [row ++ [(j.1.table, j.2.blank)]]
  else matching holds j row

/-- The rows that joins, one after another, make of a row. -/
def continuations : List (Join × Relation) → JoinedRow → List JoinedRow
  | [], row => [row]
  | j :: rest, row => (joined holds j row).flatMap (continuations rest)

/-- The rows of the product of tables, continued by the joins, on which the condition is
true. -/
def selected (tables : List (Table × Relation)) (joins : List (Join × Relation))
    (filter : Condition) : List JoinedRow :=
  ((product tables).flatMap (continuations holds joins)).filter (holds filter)

variable {holds}

/-- A join puts a record of its table, or a blank one, behind a row. -/
theorem exists_of_mem_joined {j : Join × Relation} {row next : JoinedRow}
    (h : next ∈ joined holds j row) :
  ∃ r, (r ∈ j.2.records ∨ r = j.2.blank) ∧ next = row ++ [(j.1.table, r)]
  := by
  have hmatching :
      next ∈ matching holds j row → ∃ r ∈ j.2.records, next = row ++ [(j.1.table, r)] := by
    intro h
    obtain ⟨r, hr, rfl⟩ := List.mem_map.mp (List.mem_filter.mp h).1
    use r
  unfold joined at h
  split at h
  · use j.2.blank
    exact ⟨.inr rfl, List.mem_singleton.mp h⟩
  · obtain ⟨r, hr, rfl⟩ := hmatching h
    use r
    exact ⟨.inl hr, rfl⟩

/-- Joins put records of their tables behind a row. -/
theorem exists_of_mem_continuations {joins : List (Join × Relation)} {row next : JoinedRow}
    (h : next ∈ continuations holds joins row) :
  ∃ rest, next = row ++ rest
    ∧ ∀ part ∈ rest, ∃ j ∈ joins, part.1 = j.1.table ∧ (part.2 ∈ j.2.records ∨ part.2 = j.2.blank)
  := by
  induction joins generalizing row with
  | nil =>
    use []
    simpa [continuations] using h
  | cons j joins ih =>
    obtain ⟨middle, hmiddle, hnext⟩ := List.mem_flatMap.mp h
    obtain ⟨r, hr, rfl⟩ := exists_of_mem_joined hmiddle
    obtain ⟨rest, rfl, hrest⟩ := ih hnext
    use (j.1.table, r) :: rest
    constructor
    · apply List.append_assoc
    · intro part hpart
      rcases List.mem_cons.mp hpart with rfl | hpart
      · use j, List.mem_cons_self
      · obtain ⟨k, hk, hrecord⟩ := hrest part hpart
        use k, List.mem_cons_of_mem j hk

end

end JoinedRow

/-- Whether the condition has text of the caller somewhere in it. -/
def Condition.hasText (c : Condition) : Bool :=
  c.supplied.any fun
    | .raw .. => true
    | .order _ => true
    | _ => false

open JoinedRow (matching joined continuations)

/-- The contents of a database. -/
structure Store where
  /-- The rows of a table with its schema and its name. -/
  contents : Option String → String → Relation
  /-- The truth value of a predicate or an EXISTS, from the values that its references read; if
  it has text of the caller, also from the whole row. -/
  judge : Condition → List (Option Value) → JoinedRow → Truth

namespace Store

variable (s : Store)

/-- The truth value of a leaf of a condition on a row. -/
def judged (row : JoinedRow) (l : Leaf) : Truth :=
  s.judge l.condition (l.condition.references.map row.read)
    (if l.condition.hasText then row else [])

/-- Whether the condition is true on a row; an empty condition is true on all rows. -/
def holds (c : Condition) (row : JoinedRow) : Bool :=
  (c.truth? (s.judged row) []).all (· == .true)

/-- Every join finds at most one match for a row and for what the joins before it made of the
row. -/
def MatchesOnce : List (Join × Relation) → JoinedRow → Prop
  | [], _ => True
  | j :: rest, row =>
    (matching s.holds j row).length ≤ 1 ∧ ∀ next ∈ joined s.holds j row, MatchesOnce rest next

instance decidableMatchesOnce :
    (joins : List (Join × Relation)) → (row : JoinedRow) → Decidable (s.MatchesOnce joins row)
  | [], _ => .isTrue trivial
  | j :: rest, row =>
    have (next : JoinedRow) : Decidable (s.MatchesOnce rest next) :=
      decidableMatchesOnce rest next
    inferInstanceAs <| Decidable
      ((matching s.holds j row).length ≤ 1 ∧ ∀ next ∈ joined s.holds j row, s.MatchesOnce rest next)

/-- The rows of the product of tables, continued by the joins, on which the condition is
true. -/
def selected (tables : List (Table × Relation)) (joins : List (Join × Relation))
    (filter : Condition) : List JoinedRow :=
  JoinedRow.selected s.holds tables joins filter

/-! ### The number of continuations -/

/-- A left join makes of a row as many rows as there are matches, and one without a match. -/
theorem length_joined {j : Join × Relation} (h : j.1.kind = .left) (row : JoinedRow) :
  (joined s.holds j row).length = max 1 (matching s.holds j row).length
  := by
  unfold joined
  cases hmatching : matching s.holds j row with
  | nil => simp [h]
  | cons next rest => simp

/-- Left joins lose no row, and they make a single row of it exactly if every one finds at most
one match. -/
theorem continuations_of_left {joins : List (Join × Relation)}
    (hleft : ∀ j ∈ joins, j.1.kind = .left) (row : JoinedRow) :
  continuations s.holds joins row ≠ []
    ∧ ((continuations s.holds joins row).length = 1 ↔ s.MatchesOnce joins row)
  := by
  induction joins generalizing row with
  | nil => simp [continuations, MatchesOnce]
  | cons j joins ih =>
    have ih := ih fun k hk => hleft k (List.mem_cons_of_mem j hk)
    have hjoined := s.length_joined (hleft j List.mem_cons_self) row
    obtain ⟨hle, heq⟩ :=
      length_flatMap_of_ne_nil (l := joined s.holds j row) fun next _ => (ih next).1
    constructor
    · apply List.length_pos_iff.mp
      rw [continuations]
      omega
    · have hrest : (∀ next ∈ joined s.holds j row, (continuations s.holds joins next).length = 1)
          ↔ ∀ next ∈ joined s.holds j row, s.MatchesOnce joins next :=
        forall₂_congr fun next _ => (ih next).2
      rw [continuations, MatchesOnce, ← hrest, ← heq]
      omega

end Store

/-! ### Conditions on continued rows -/

/-- A condition has one truth value for two judgements that agree on its leaves. -/
theorem Condition.truth?_congr {v w : Leaf → Truth} :
    ∀ (c : Condition) (place : List Side),
    (∀ l : Leaf, l.condition.references ⊆ c.references → l.condition.supplied ⊆ c.supplied →
      v l = w l) →
  c.truth? v place = c.truth? w place
  | .empty, _, _ => rfl
  | .predicate .., _, h => congrArg some (h _ (List.Subset.refl _) (List.Subset.refl _))
  | .raw .., _, h => congrArg some (h _ (List.Subset.refl _) (List.Subset.refl _))
  | .existence negated q, place, h => by
    have hleaf := h ⟨place, .existence false q⟩ (List.Subset.refl _) (List.Subset.refl _)
    rw [truth?, truth?, hleaf]
  | .not c, place, h => by rw [truth?, truth?, truth?_congr c place h]
  | .group c, place, h => truth?_congr c place h
  | .connect left _ right, place, h => by
    have hleft := truth?_congr left (place ++ [.left]) fun l hr hs =>
      h l (List.subset_append_of_subset_left _ hr) (List.subset_append_of_subset_left _ hs)
    have hright := truth?_congr right (place ++ [.right]) fun l hr hs =>
      h l (List.subset_append_of_subset_right _ hr) (List.subset_append_of_subset_right _ hs)
    rw [truth?, truth?, hleft, hright]

namespace Store

variable (s : Store)

/-- A condition without text of the caller depends on what its references read. -/
theorem holds_congr {c : Condition} (hc : c.hasText = false) {row next : JoinedRow}
    (h : ∀ r ∈ c.references, next.read r = row.read r) :
  s.holds c next = s.holds c row
  := by
  rw [holds, holds]
  congr 1
  apply Condition.truth?_congr
  intro l hreferences hsupplied
  have htext : l.condition.hasText = false := by
    rw [Condition.hasText, List.any_eq_false] at hc ⊢
    exact fun t ht => hc t (hsupplied ht)
  have hvalues : l.condition.references.map next.read = l.condition.references.map row.read :=
    List.map_congr_left fun r hr => h r (hreferences hr)
  rw [judged, judged, htext, hvalues]
  rfl

/-- Rows can be selected before they are continued by tables that the condition may not
read. -/
theorem filter_continuations {c : Condition} (hc : c.hasText = false)
    {joins : List (Join × Relation)}
    (hread : ∀ r ∈ c.references, ∀ j ∈ joins, r.mayRead j.1.table j.2 = false)
    (rows : List JoinedRow) :
  (rows.flatMap (continuations s.holds joins)).filter (s.holds c)
    = (rows.filter (s.holds c)).flatMap (continuations s.holds joins)
  := by
  have hholds : ∀ row, ∀ next ∈ continuations s.holds joins row,
      s.holds c next = s.holds c row := by
    intro row next hnext
    obtain ⟨rest, rfl, hrest⟩ := JoinedRow.exists_of_mem_continuations hnext
    apply s.holds_congr hc
    intro r hr
    apply JoinedRow.read_append
    intro part hpart
    obtain ⟨j, hj, htable, hrecord⟩ := hrest part hpart
    use j.2, hrecord
    rw [htable]
    apply hread r hr j hj
  induction rows with
  | nil => rfl
  | cons row rows ih =>
    rw [List.flatMap_cons, List.filter_append, ih, List.filter_cons]
    cases hrow : s.holds c row with
    | true =>
      have hall : (continuations s.holds joins row).filter (s.holds c)
          = continuations s.holds joins row :=
        List.filter_eq_self.mpr fun next hnext => (hholds row next hnext).trans hrow
      rw [hall, if_pos rfl, List.flatMap_cons]
    | false =>
      have hnone : (continuations s.holds joins row).filter (s.holds c) = [] := by
        rw [List.filter_eq_nil_iff]
        intro next hnext
        rw [hholds row next hnext, hrow]
        exact Bool.false_ne_true
      rw [hnone, List.nil_append, if_neg Bool.false_ne_true]

/-! ### Selected rows -/

theorem flatMap_continuations_nil (rows : List JoinedRow) :
  rows.flatMap (continuations s.holds []) = rows
  := List.flatMap_singleton' rows

/-- A single table without joins and without condition has its own rows. -/
theorem selected_single (t : Table) (R : Relation) :
  s.selected [(t, R)] [] .empty = R.records.map fun r => [(t, r)]
  := by
  have hproduct : JoinedRow.product [(t, R)] = R.records.map fun r => [(t, r)] :=
    List.map_eq_flatMap.symm
  rw [selected, JoinedRow.selected, flatMap_continuations_nil, hproduct, List.filter_eq_self]
  intro row _
  rfl

/-- Left joins to tables that the condition may not read lose no selected row, and the rows
stay as many exactly if the joins find at most one match for each of them. -/
theorem length_selected_of_left {c : Condition} (hc : c.hasText = false)
    {joins : List (Join × Relation)} (hleft : ∀ j ∈ joins, j.1.kind = .left)
    (hread : ∀ r ∈ c.references, ∀ j ∈ joins, r.mayRead j.1.table j.2 = false)
    (tables : List (Table × Relation)) :
  (s.selected tables [] c).length ≤ (s.selected tables joins c).length
    ∧ ((s.selected tables joins c).length = (s.selected tables [] c).length
      ↔ ∀ row ∈ s.selected tables [] c, s.MatchesOnce joins row)
  := by
  have hselected : s.selected tables joins c
      = (s.selected tables [] c).flatMap (continuations s.holds joins) := by
    simp only [selected, JoinedRow.selected, flatMap_continuations_nil]
    apply s.filter_continuations hc hread
  have hcontinued := s.continuations_of_left hleft
  obtain ⟨hle, heq⟩ := length_flatMap_of_ne_nil (l := s.selected tables [] c)
    fun row _ => (hcontinued row).1
  rw [hselected]
  constructor
  · apply hle
  · rw [heq]
    apply forall₂_congr
    intro row _
    exact (hcontinued row).2

end Store

end SqlRender
