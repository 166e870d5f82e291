import Mathlib.Tactic.Use
import SqlRender.Query.Words

/-!
# Reading terms

Terms over the four operations are written with parentheses.  `Denotes` is the grammar of
the language: multiplication and division bind stronger than addition and subtraction,
operations of one rank associate to the left, and parentheses override both.
`Term.read` goes through the symbols once, and by `Denotes.read_eq` it finds whatever the
grammar derives; so no symbols denote two terms.

When two written terms are put on both sides of an operation without parentheses, the
result is always a term.  `Denotes.beside` says when it is the operation applied to the two:
exactly if neither of them is torn apart.
-/

namespace SqlRender

/-! ### Terms and their symbols -/

/-- A term over leaves. -/
inductive Term (α : Type) where
  | leaf (a : α)
  | apply (left : Term α) (op : Arithmetic) (right : Term α)

namespace Term

variable {α : Type}

/-- The value of a term.  The operations are given, since databases round, overflow and
divide differently. -/
def eval {β : Type} (operations : Arithmetic → β → β → β) (v : α → β) : Term α → β
  | leaf a => v a
  | apply left op right => operations op (left.eval operations v) (right.eval operations v)

/-- The number of leaves of a term. -/
def size : Term α → Nat
  | leaf _ => 1
  | apply left _ right => left.size + right.size

theorem size_pos (t : Term α) :
  0 < t.size
  := by
  induction t with
  | leaf a => exact Nat.one_pos
  | apply left op right ihleft ihright => exact Nat.add_pos_left ihleft right.size

/-- A term is the value of itself where the operations build terms. -/
theorem eval_apply (t : Term α) :
  t.eval (fun op left right => apply left op right) leaf = t
  := by
  induction t with
  | leaf a => rfl
  | apply left op right ihleft ihright => rw [eval, ihleft, ihright]

end Term

/-- A symbol of a written term. -/
inductive Symbol (α : Type) where
  | leaf (a : α)
  | operation (op : Arithmetic)
  | opening
  | closing

/-- Whether the symbol is a leaf. -/
def Symbol.isLeaf {α : Type} : Symbol α → Bool
  | leaf _ => true
  | _ => false

/-- What a part of a written term is: something in which no operation stands open, factors
with multiplications and divisions between them, or such products with additions and
subtractions between them. -/
inductive Rank where
  | factor
  | product
  | sum
  deriving DecidableEq

/-- The rank of what an operation makes of two parts. -/
def Arithmetic.rank : Arithmetic → Rank
  | .add | .sub => .sum
  | .mul | .div => .product

/-- The rank of the parts between which the operations of a rank stand. -/
def Rank.under : Rank → Rank
  | factor | product => factor
  | sum => product

variable {α : Type}

/-- The symbols that denote a term at a rank; operations of one rank associate to the
left. -/
inductive Denotes : Rank → List (Symbol α) → Term α → Prop where
  | leaf (a : α) : Denotes .factor [.leaf a] (.leaf a)
  | parentheses {ss : List (Symbol α)} {t : Term α} :
      Denotes .sum ss t → Denotes .factor (.opening :: ss ++ [.closing]) t
  | product {ss : List (Symbol α)} {t : Term α} : Denotes .factor ss t → Denotes .product ss t
  | sum {ss : List (Symbol α)} {t : Term α} : Denotes .product ss t → Denotes .sum ss t
  | apply {rank : Rank} {op : Arithmetic} {ss us : List (Symbol α)} {t u : Term α}
      (hop : op.rank = rank) : Denotes rank ss t → Denotes rank.under us u →
        Denotes rank (ss ++ .operation op :: us) (.apply t op u)

namespace Denotes

variable {rank : Rank} {op : Arithmetic} {ss us : List (Symbol α)} {t u : Term α}

theorem of_factor (h : Denotes .factor ss t) :
  Denotes rank ss t
  := by
  cases rank with
  | factor => exact h
  | product => exact product h
  | sum => exact sum (product h)

/-- A part at any rank is one at the rank of a whole term. -/
theorem loosen (h : Denotes rank ss t) :
  Denotes .sum ss t
  := by
  cases rank with
  | factor => exact of_factor h
  | product => exact sum h
  | sum => exact h

/-- A term has as many leaves as its symbols. -/
theorem size_eq (h : Denotes rank ss t) :
  t.size = ss.countP Symbol.isLeaf
  := by
  induction h with
  | leaf a => rfl
  | parentheses h ih => simpa [Symbol.isLeaf] using ih
  | product h ih => exact ih
  | sum h ih => exact ih
  | apply hop ht hu iht ihu => simp [Term.size, iht, ihu, Symbol.isLeaf]

end Denotes

/-! ### The reader -/

/-- A term connected to what stands before it. -/
def Term.behind : Option (Term α × Arithmetic) → Term α → Term α
  | none, t => t
  | some (u, op), t => .apply u op t

/-- What is pending inside a pair of parentheses: the products that are complete and the
factors of the product under way, each with the operation that follows. -/
structure Postponed (α : Type) where
  sum : Option (Term α × Arithmetic)
  product : Option (Term α × Arithmetic)

/-- Nothing is pending. -/
def Postponed.nothing : Postponed α :=
  ⟨none, none⟩

/-- The product under way with a further factor. -/
def Postponed.with (p : Postponed α) (t : Term α) : Term α :=
  .behind p.product t

/-- Where a reader of terms is: before a factor, or behind one with the complete products
and the one under way; and in both cases what is pending around the parentheses. -/
inductive TermReader (α : Type) where
  | before (p : Postponed α) (outer : List (Postponed α))
  | behind (sum : Option (Term α × Arithmetic)) (product : Term α) (outer : List (Postponed α))

namespace TermReader

/-- What is pending when an operation follows. -/
def postponed (sum : Option (Term α × Arithmetic)) (product : Term α) (op : Arithmetic) :
    Postponed α :=
  match op.rank with
  | .sum => ⟨some (.behind sum product, op), none⟩
  | _ => ⟨sum, some (product, op)⟩

/-- Where the reader is after a symbol, if the symbol may stand there. -/
def step : TermReader α → Symbol α → Option (TermReader α)
  | before p outer, .leaf a => some (behind p.sum (p.with (.leaf a)) outer)
  | before p outer, .opening => some (before .nothing (p :: outer))
  | behind sum product outer, .operation op => some (before (postponed sum product op) outer)
  | behind sum product (p :: outer), .closing =>
    some (behind p.sum (p.with (.behind sum product)) outer)
  | _, _ => none

/-- Where the reader is after several symbols. -/
def steps (r : TermReader α) (ss : List (Symbol α)) : Option (TermReader α) :=
  ss.foldlM step r

/-- The term that has been read if all parentheses are closed. -/
def result? : TermReader α → Option (Term α)
  | behind sum product [] => some (.behind sum product)
  | _ => none

theorem steps_cons (r : TermReader α) (s : Symbol α) (ss : List (Symbol α)) :
  r.steps (s :: ss) = (r.step s).bind fun r => r.steps ss
  := List.foldlM_cons

theorem steps_append (r : TermReader α) (ss us : List (Symbol α)) :
  r.steps (ss ++ us) = (r.steps ss).bind fun r => r.steps us
  := List.foldlM_append

end TermReader

/-- The term that the symbols denote. -/
def Term.read (ss : List (Symbol α)) : Option (Term α) :=
  ((TermReader.before .nothing []).steps ss).bind TermReader.result?

/-- What a reader does with a part of the given rank that denotes `t`: a factor is added to
the product under way, and several factors or products are read as they would be read
alone. -/
def Rank.IsReadAs : Rank → List (Symbol α) → Term α → Prop
  | factor, ss, t => ∀ p outer,
    (TermReader.before p outer).steps ss = some (.behind p.sum (p.with t) outer)
  | product, ss, t => ∀ sum outer,
    (TermReader.before ⟨sum, none⟩ outer).steps ss = some (.behind sum t outer)
  | sum, ss, t => ∀ outer, ∃ sum product,
    (TermReader.before .nothing outer).steps ss = some (.behind sum product outer)
      ∧ .behind sum product = t

namespace Denotes

variable {rank rank' : Rank} {op : Arithmetic} {ss us : List (Symbol α)} {t u : Term α}

theorem isReadAs (h : Denotes rank ss t) :
  rank.IsReadAs ss t
  := by
  induction h with
  | leaf a =>
    intro p outer
    rfl
  | parentheses h ih =>
    intro p outer
    obtain ⟨sum, product, hsteps, rfl⟩ := ih (p :: outer)
    rw [List.cons_append, TermReader.steps_cons]
    simp only [TermReader.step, Option.bind_some]
    rw [TermReader.steps_append, hsteps]
    rfl
  | product h ih =>
    intro sum outer
    apply ih ⟨sum, none⟩ outer
  | @sum ss t h ih =>
    intro outer
    use none, t
    exact ⟨ih none outer, rfl⟩
  | @apply rank op ss us t u hop ht hu iht ihu =>
    cases rank with
    | factor => cases op <;> cases hop
    | product =>
      intro sum outer
      rw [TermReader.steps_append, iht sum outer, Option.bind_some, TermReader.steps_cons,
        TermReader.step, TermReader.postponed, hop]
      apply ihu ⟨sum, some (t, op)⟩ outer
    | sum =>
      intro outer
      obtain ⟨sum, product, hsteps, rfl⟩ := iht outer
      use some (.behind sum product, op), u
      rw [TermReader.steps_append, hsteps, Option.bind_some, TermReader.steps_cons,
        TermReader.step, TermReader.postponed, hop]
      exact ⟨ihu (some (.behind sum product, op)) outer, rfl⟩

/-- Symbols that denote a term by the grammar are read as it. -/
theorem read_eq (h : Denotes rank ss t) :
  Term.read ss = some t
  := by
  obtain ⟨sum, product, hsteps, ht⟩ := h.loosen.isReadAs []
  rw [Term.read, hsteps, Option.bind_some, TermReader.result?, ht]

/-- No symbols denote two terms. -/
theorem eq_of_eq (ht : Denotes rank ss t) (hu : Denotes rank' ss u) :
  t = u
  := by
  have h := ht.read_eq
  rw [hu.read_eq] at h
  apply (Option.some.inj h).symm

/-! ### Terms side by side -/

/-- A product keeps together on the left of a multiplication or division.  What stands on
the right keeps together only if it is a factor. -/
theorem beside_product (hop : op.rank = .product) (ht : Denotes .product ss t)
    (hu : Denotes .product us u) :
  ∃ e, Denotes .product (ss ++ .operation op :: us) e
    ∧ ∀ l r, e = .apply l op r → r.size = u.size → Denotes .factor us u
  := by
  generalize hrank : Rank.product = rank at hu
  induction hu with
  | leaf | parentheses | sum => cases hrank
  | product hu => exact ⟨_, apply hop ht hu, fun l r he hsize => hu⟩
  | @apply _ op' us us' u u' hop' hu hu' ihu =>
    subst hrank
    obtain ⟨e, he, -⟩ := ihu rfl
    use .apply e op' u'
    constructor
    · simpa using apply hop' he hu'
    · rintro l r heq hsize
      cases heq
      have := u.size_pos
      simp only [Term.size] at hsize
      omega

/-- A sum on the left of a multiplication or division is torn apart. -/
theorem beside_factor (hop : op.rank = .product) (ht : Denotes .sum ss t)
    (hu : Denotes .product us u) :
  ∃ e, Denotes .sum (ss ++ .operation op :: us) e
    ∧ ∀ l r, e = .apply l op r → r.size = u.size →
      Denotes .product ss t ∧ Denotes .factor us u
  := by
  cases ht with
  | sum ht =>
    obtain ⟨e, he, hright⟩ := beside_product hop ht hu
    exact ⟨e, he.sum, fun l r heq hsize => ⟨ht, hright l r heq hsize⟩⟩
  | @apply _ op' ss ss' t t' hop' ht ht' =>
    obtain ⟨e, he, -⟩ := beside_product hop ht' hu
    use .apply t op' e
    constructor
    · simpa using apply hop' ht he
    · rintro l r heq hsize
      cases heq
      rw [hop] at hop'
      cases hop'

/-- Two terms with an operation between them are a term.  If it is the operation applied to
terms of their sizes, neither of the two is torn apart. -/
theorem beside (op : Arithmetic) (ht : Denotes .sum ss t) (hu : Denotes .sum us u) :
  ∃ e, Denotes .sum (ss ++ .operation op :: us) e
    ∧ ∀ l r, e = .apply l op r → r.size = u.size →
      Denotes op.rank ss t ∧ Denotes op.rank.under us u
  := by
  generalize hrank : Rank.sum = rank at hu
  induction hu with
  | leaf | parentheses | product => cases hrank
  | sum hu =>
    cases hop : op.rank with
    | factor => cases op <;> cases hop
    | product => exact beside_factor hop ht hu
    | sum => exact ⟨_, apply hop ht hu, fun l r heq hsize => ⟨ht, hu⟩⟩
  | @apply _ op' us us' u u' hop' hu hu' ihu =>
    subst hrank
    obtain ⟨e, he, -⟩ := ihu rfl
    use .apply e op' u'
    constructor
    · simpa using apply hop' he hu'
    · rintro l r heq hsize
      cases heq
      have := u.size_pos
      simp only [Term.size] at hsize
      omega

end Denotes

end SqlRender
