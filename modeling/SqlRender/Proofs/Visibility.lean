import Mathlib.Tactic.Use
import SqlRender.Select

/-!
# The tables that columns denote

A table of a query is visible under its alias, or under its name if it has no alias.  A
qualifier denotes the table that is visible under it in the innermost query that has one,
with letter case ignored, and a column without a qualifier denotes the only table of its
query.  What `Scope.qualifier?` writes before a column need not denote the table that the
reference denotes: a reference also means a table whose name is hidden by an alias.
`Scope.denotedBy?_qualifier?_iff` says exactly when the table is kept.
-/

namespace SqlRender

/-- The name under which a table is visible. -/
def Visible.shown? (t : Visible) : Option String :=
  t.aliasName.or t.name

/-- Whether a table is visible under the name, with letter case ignored. -/
def Visible.isShownAs (n : String) (t : Visible) : Bool :=
  t.shown?.any (Text.sameIgnoringCase · n)

theorem Visible.isShownAs_iff {t : Visible} {n : String} :
  t.isShownAs n = true ↔ ∃ m, t.shown? = some m ∧ Text.sameIgnoringCase m n = true
  := by
  unfold isShownAs
  cases t.shown? <;> simp

namespace Scope

/-- The tables of a scope are visible under different names. -/
def IsDistinct (scope : Scope) : Prop :=
  scope.Pairwise fun t u =>
    ∀ m n, t.shown? = some m → u.shown? = some n → Text.sameIgnoringCase m n = false

/-- A table in nested queries: the number of queries inside of its own, and its place among
the tables of its query. -/
structure TablePlace where
  depth : Nat
  index : Nat
  deriving DecidableEq

/-- The table that a qualifier denotes in nested queries, the innermost of which is the
first. -/
def denoted? : List Scope → String → Option TablePlace
  | [], _ => none
  | scope :: outer, n =>
    match scope.findIdx? (Visible.isShownAs n) with
    | some i => some ⟨0, i⟩
    | none => (denoted? outer n).map fun p => ⟨p.depth + 1, p.index⟩

/-- The table that a column denotes, with a qualifier or without. -/
def denotedBy? (stack : List Scope) : Option String → Option TablePlace
  | some n => denoted? stack n
  | none =>
    match stack with
    | [_] :: _ => some ⟨0, 0⟩
    | _ => none

/-- The first table that a reference means, by its alias or by its name. -/
def meant? (scope : Scope) (reference : String) : Option Visible :=
  scope.find? fun t => Table.isMeantBy t.name t.aliasName reference

/-- A qualifier denotes a table of the innermost query exactly if one is visible under it. -/
theorem denoted?_eq_some_zero_iff {scope : Scope} {outer : List Scope} {n : String} {i : Nat} :
  denoted? (scope :: outer) n = some ⟨0, i⟩ ↔ scope.findIdx? (Visible.isShownAs n) = some i
  := by
  unfold denoted?
  split
  · next j hj => simp [hj]
  · next hnone => simp [hnone]

/-- In a scope of different names only one table is visible under a name. -/
theorem findIdx?_isShownAs {scope : Scope} (hdistinct : scope.IsDistinct) {i : Nat}
    (hi : i < scope.length) {n : String} (hn : scope[i].isShownAs n = true) :
  scope.findIdx? (Visible.isShownAs n) = some i
  := by
  apply List.findIdx?_eq_some_iff_getElem.mpr
  use hi, hn
  intro j hj hshown
  obtain ⟨a, ha, han⟩ := Visible.isShownAs_iff.mp hn
  obtain ⟨b, hb, hbn⟩ := Visible.isShownAs_iff.mp hshown
  have hdifferent := List.pairwise_iff_getElem.mp hdistinct j i (Nat.lt_trans hj hi) hi hj b a hb ha
  have hsame : Text.sameIgnoringCase b a = true := by
    rw [Text.sameIgnoringCase_iff] at *
    rw [hbn, han]
  rw [hsame] at hdifferent
  cases hdifferent

/-- A table that a reference means is visible. -/
theorem exists_shown_of_isMeantBy {t : Visible} {reference : String}
    (h : Table.isMeantBy t.name t.aliasName reference = true) :
  ∃ n, t.shown? = some n
  := by
  obtain ⟨name, aliasName⟩ := t
  cases aliasName with
  | some a => exact ⟨a, rfl⟩
  | none =>
    cases name with
    | some n => exact ⟨n, rfl⟩
    | none => cases h

/-- A reference that means a table of the innermost query is written as the name under which
the table is visible, unless it is the only one. -/
theorem qualifier?_of_meant {scope : Scope} {reference n : String} {t : Visible}
    (h : scope.meant? reference = some t) (hn : t.shown? = some n) :
  qualifier? (some scope) reference = if scope.length = 1 then none else some n
  := by
  unfold meant? at h
  unfold Visible.shown? at hn
  simp only [qualifier?, h, hn, Option.getD_some]

/-- A reference that means no table of the innermost query is written as it is. -/
theorem qualifier?_of_meant_none {scope : Scope} {reference : String}
    (h : scope.meant? reference = none) :
  qualifier? (some scope) reference = some reference
  := by
  unfold meant? at h
  simp only [qualifier?, h]

/-- A reference that means a table of the innermost query is written so that the column
denotes this table. -/
theorem denotedBy?_of_meant {scope : Scope} (outer : List Scope) (hdistinct : scope.IsDistinct)
    {reference : String} {t : Visible} (h : scope.meant? reference = some t) :
  ∃ i, ∃ hi : i < scope.length, scope[i] = t
    ∧ denotedBy? (scope :: outer) (qualifier? (some scope) reference) = some ⟨0, i⟩
  := by
  obtain ⟨hmeant, i, hi, ht, -⟩ := List.find?_eq_some_iff_getElem.mp h
  use i, hi, ht
  obtain ⟨n, hn⟩ := exists_shown_of_isMeantBy hmeant
  rw [qualifier?_of_meant h hn]
  split
  · next hone =>
    obtain ⟨u, rfl⟩ := List.length_eq_one_iff.mp hone
    obtain rfl : i = 0 := by simpa using hi
    rfl
  · apply denoted?_eq_some_zero_iff.mpr
    apply findIdx?_isShownAs hdistinct hi
    rw [ht, Visible.isShownAs_iff]
    use n, hn
    apply Text.sameIgnoringCase_refl n

/-- The text before the name of a column denotes the same table as the reference of the
column exactly if the first table of the innermost query that the reference means, if there
is one, is visible under it. -/
theorem denotedBy?_qualifier?_iff {stack : List Scope}
    (hdistinct : ∀ scope ∈ stack, scope.IsDistinct) {reference : String} {p : TablePlace}
    (hreference : denoted? stack reference = some p) :
  denotedBy? stack (qualifier? stack.head? reference) = some p
    ↔ ∀ scope ∈ stack.head?, ∀ t, scope.meant? reference = some t → t.isShownAs reference = true
  := by
  cases stack with
  | nil => cases hreference
  | cons scope outer =>
    simp only [List.head?_cons, Option.mem_some_iff, forall_eq']
    cases hmeant : scope.meant? reference with
    | none =>
      rw [qualifier?_of_meant_none hmeant]
      simpa [denotedBy?] using hreference
    | some t =>
      have hscope := hdistinct scope List.mem_cons_self
      obtain ⟨i, hi, rfl, hdenoted⟩ := denotedBy?_of_meant outer hscope hmeant
      rw [hdenoted]
      simp only [Option.some.injEq, forall_eq']
      constructor
      · rintro rfl
        have hindex := denoted?_eq_some_zero_iff.mp hreference
        obtain ⟨_, hshown, -⟩ := List.findIdx?_eq_some_iff_getElem.mp hindex
        apply hshown
      · intro hshown
        have hindex := findIdx?_isShownAs hscope hi hshown
        rw [denoted?_eq_some_zero_iff.mpr hindex] at hreference
        apply Option.some.inj hreference

/-- A query on a table under an alias inside of a query on the same table. -/
def hiddenInside : List Scope :=
  [[⟨some "tb_account", some "x"⟩], [⟨some "tb_account", none⟩]]

/-- A column of the outer table is written as one of the inner table. -/
theorem denotedBy?_qualifier?_hiddenInside :
  (∀ scope ∈ hiddenInside, scope.IsDistinct)
    ∧ denoted? hiddenInside "tb_account" = some ⟨1, 0⟩
    ∧ denotedBy? hiddenInside (qualifier? hiddenInside.head? "tb_account") ≠ some ⟨1, 0⟩
  := by
  have hdistinct : ∀ scope ∈ hiddenInside, scope.IsDistinct := by
    simp [hiddenInside, IsDistinct]
  have hreference : denoted? hiddenInside "tb_account" = some ⟨1, 0⟩ := by decide
  constructor
  · apply hdistinct
  · constructor
    · apply hreference
    · intro hkept
      have hshown := (denotedBy?_qualifier?_iff hdistinct hreference).mp hkept
      have hinner := hshown [⟨some "tb_account", some "x"⟩] rfl
      exact absurd (hinner ⟨some "tb_account", some "x"⟩ (by decide)) (by decide)

end Scope

end SqlRender
