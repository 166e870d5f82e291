import SqlRender.Proofs.ConditionReading
import SqlRender.Proofs.Terms

/-!
# Reading calculations

An operand of an operation is written in parentheses if it is an operation itself.  Here
the text of a column is cut into the symbols of a term: every name, call, parameter and
sub-select is a leaf.  A text of the caller stands bare and may itself be a whole term, so
it is also replaced by any symbols that denote one.

By `Column.evaluates_symbols` the text always denotes a term.  The term has the value of the
column if and only if every text of the caller keeps together beside the operations around
it; a sum of the caller beside a multiplication is torn apart.
-/

namespace SqlRender

/-! ### The value of a column -/

/-- A place where a calculation takes a value: the way to it from the top, and the
expression that stands there. -/
structure Quantity where
  place : List Side
  expr : Expr

/-- The value of an expression at a place. -/
def Expr.value {β : Type} (operations : Arithmetic → β → β → β) (v : Quantity → β)
    (place : List Side) : Expr → β
  | .arithmetic ⟨left, _⟩ op ⟨right, _⟩ =>
    operations op (left.value operations v (place ++ [.left]))
      (right.value operations v (place ++ [.right]))
  | e => v ⟨place, e⟩

/-- The quantities of an expression at a place, from left to right. -/
def Expr.quantities (place : List Side) : Expr → List Quantity
  | .arithmetic ⟨left, _⟩ _ ⟨right, _⟩ =>
    left.quantities (place ++ [.left]) ++ right.quantities (place ++ [.right])
  | e => [⟨place, e⟩]

/-! ### The symbols of a column -/

/-- Symbols with a parenthesis on each side if `needed`. -/
def Symbol.parenthesizedIf {α : Type} (needed : Bool) (ss : List (Symbol α)) : List (Symbol α) :=
  if needed then .opening :: ss ++ [.closing] else ss

/-- The symbols of an expression at a place. -/
def Expr.symbols (place : List Side) : Expr → List (Symbol Quantity)
  | .arithmetic ⟨left, l⟩ op ⟨right, r⟩ =>
    Symbol.parenthesizedIf (Column.isArithmetic ⟨left, l⟩) (left.symbols (place ++ [.left]))
      ++ .operation op
      :: Symbol.parenthesizedIf (Column.isArithmetic ⟨right, r⟩)
        (right.symbols (place ++ [.right]))
  | e => [.leaf ⟨place, e⟩]

/-- The text of a symbol. -/
def Symbol.written (style : SelectStyle) (scope : Option Scope) (quoting : Quoting) :
    Symbol Quantity → String
  | leaf q => Token.written quoting (q.expr.tokens style scope)
  | operation op => " " ++ op.word ++ " "
  | opening => "("
  | closing => ")"

section

variable (style : SelectStyle) (scope : Option Scope) (quoting : Quoting)

theorem Symbol.written_parenthesizedIf {ss : List (Symbol Quantity)} {ts : List Token}
    (h : String.join (ss.map (Symbol.written style scope quoting)) = Token.written quoting ts)
    (needed : Bool) :
  String.join ((Symbol.parenthesizedIf needed ss).map (Symbol.written style scope quoting))
    = Token.written quoting (SqlRender.parenthesizedIf needed ts)
  := by
  cases needed with
  | false => exact h
  | true =>
    simp only [parenthesizedIf, SqlRender.parenthesizedIf, if_true, Token.parenthesized,
      List.cons_append, List.map_cons, List.map_append, String.join_cons, String.join_append,
      Token.written_cons, Token.written_append, h]
    rfl

/-- The symbols of an expression are cut from its text. -/
theorem Expr.written_symbols :
    ∀ (e : Expr) (place : List Side),
  String.join ((e.symbols place).map (Symbol.written style scope quoting))
    = Token.written quoting (e.tokens style scope)
  | .arithmetic ⟨left, l⟩ op ⟨right, r⟩, place => by
    have hleft := Symbol.written_parenthesizedIf style scope quoting
      (written_symbols left (place ++ [.left])) (Column.isArithmetic ⟨left, l⟩)
    have hright := Symbol.written_parenthesizedIf style scope quoting
      (written_symbols right (place ++ [.right])) (Column.isArithmetic ⟨right, r⟩)
    rw [symbols, tokens, Column.tokens, Column.tokens]
    simp only [List.map_append, List.map_cons, String.join_append, String.join_cons, hleft,
      hright, Token.written_append, Token.written_cons]
    simp [Symbol.written, Token.written, Token.toText, String.append_assoc]
  | .named .., place | .call .., place | .distinct _, place | .raw .., place | .param _, place
  | .subquery _, place => by simp [symbols, Symbol.written]

end

/-! ### Texts of the caller -/

/-- Symbols that denote a term. -/
structure Phrase where
  symbols : List (Symbol Quantity)
  term : Term Quantity
  denotes : Denotes .sum symbols term

namespace Quantity

/-- Whether the text of the quantity may be torn apart: a text of the caller and a list of
columns, in contrast to a name, a call, a parameter and a sub-select. -/
def isLoose (q : Quantity) : Bool :=
  match q.expr with
  | .raw .. | .distinct _ => true
  | _ => false

/-- The symbols for which a quantity stands: those of its phrase if its text is loose, and
else the quantity itself. -/
def phrase (texts : Quantity → Phrase) (q : Quantity) : Phrase :=
  if q.isLoose then texts q else ⟨[.leaf q], .leaf q, .of_factor (.leaf q)⟩

/-- Whether a quantity keeps together where a part of the given rank is expected. -/
def Fits (texts : Quantity → Phrase) (rank : Rank) (q : Quantity) : Prop :=
  Denotes rank (q.phrase texts).symbols (q.phrase texts).term

end Quantity

section

variable (texts : Quantity → Phrase)

/-- The symbol with its leaf replaced by the symbols for which it stands. -/
def Symbol.expanded : Symbol Quantity → List (Symbol Quantity)
  | leaf q => (q.phrase texts).symbols
  | s => [s]

/-- Whether all texts of the caller keep together beside the operations around them. -/
def Expr.KeepsTexts (place : List Side) : Expr → Prop
  | .arithmetic ⟨left, _⟩ op ⟨right, _⟩ =>
    (Quantity.Fits texts op.rank ⟨place ++ [.left], left⟩
        ∧ Quantity.Fits texts op.rank.under ⟨place ++ [.right], right⟩)
      ∧ left.KeepsTexts (place ++ [.left]) ∧ right.KeepsTexts (place ++ [.right])
  | _ => True

/-- The term of an expression. -/
def Expr.term (place : List Side) (e : Expr) : Term Quantity :=
  e.value (fun op left right => .apply left op right) (fun q => (q.phrase texts).term) place

/-- What stands beside an operation is written in parentheses or is a quantity. -/
theorem Expr.isLoose_eq_false {e : Expr} {place : List Side}
    (h : ∀ q ∈ e.quantities place, q.isLoose = false) :
  Quantity.isLoose ⟨place, e⟩ = false
  := by
  cases e with
  | arithmetic left op right => rfl
  | named | call | distinct | raw | param | subquery => exact h _ (List.mem_singleton_self _)

theorem Quantity.fits_of_isLoose_eq_false {q : Quantity} (h : q.isLoose = false) (rank : Rank) :
  q.Fits texts rank
  := by
  rw [Fits, phrase, h]
  exact Denotes.of_factor (Denotes.leaf q)

/-- Without texts of the caller there is nothing that could be torn apart. -/
theorem Expr.keepsTexts_of_isLoose_eq_false :
    ∀ (e : Expr) (place : List Side), (∀ q ∈ e.quantities place, q.isLoose = false) →
  e.KeepsTexts texts place
  | .arithmetic ⟨left, _⟩ op ⟨right, _⟩, place, h => by
    obtain ⟨hleft, hright⟩ := List.forall_mem_append.mp h
    have hfitsl := Quantity.fits_of_isLoose_eq_false texts (isLoose_eq_false hleft) op.rank
    have hfitsr := Quantity.fits_of_isLoose_eq_false texts (isLoose_eq_false hright) op.rank.under
    exact ⟨⟨hfitsl, hfitsr⟩, keepsTexts_of_isLoose_eq_false left _ hleft,
      keepsTexts_of_isLoose_eq_false right _ hright⟩
  | .named .., _, _ | .call .., _, _ | .distinct _, _, _ | .raw .., _, _ | .param _, _, _
  | .subquery _, _, _ => trivial

/-! ### Reading the symbols -/

theorem Symbol.expanded_parenthesizedIf (needed : Bool) (ss : List (Symbol Quantity)) :
  (Symbol.parenthesizedIf needed ss).flatMap (Symbol.expanded texts)
    = Symbol.parenthesizedIf needed (ss.flatMap (Symbol.expanded texts))
  := by
  cases needed <;> simp [parenthesizedIf, expanded]

/-- The value of an expression is that of its term. -/
theorem Expr.eval_term {β : Type} (operations : Arithmetic → β → β → β) (v : Quantity → β) :
    ∀ (e : Expr) (place : List Side),
  (e.term texts place).eval operations v
    = e.value operations (fun q => (q.phrase texts).term.eval operations v) place
  | .arithmetic ⟨left, _⟩ op ⟨right, _⟩, place => by
    have hleft := eval_term operations v left (place ++ [.left])
    have hright := eval_term operations v right (place ++ [.right])
    rw [term] at hleft hright
    rw [term, value, value, Term.eval, hleft, hright]
  | .named .., _ | .call .., _ | .distinct _, _ | .raw .., _ | .param _, _ | .subquery _, _ => rfl

variable {texts}

/-- A quantity that stands alone is written by its phrase. -/
theorem Symbol.expanded_leaf (q : Quantity) :
  [Symbol.leaf q].flatMap (Symbol.expanded texts) = (q.phrase texts).symbols
  := List.flatMap_singleton _ _

/-- An operand is written as a part of a rank exactly if its quantity keeps together
there. -/
theorem Expr.denotes_operand_iff {e : Expr} (aliasName : Option String) {place : List Side}
    {t : Term Quantity} (h : Denotes .sum ((e.symbols place).flatMap (Symbol.expanded texts)) t)
    (rank : Rank) :
  Denotes rank (Symbol.parenthesizedIf (Column.isArithmetic ⟨e, aliasName⟩)
      ((e.symbols place).flatMap (Symbol.expanded texts))) t
    ↔ Quantity.Fits texts rank ⟨place, e⟩
  := by
  cases e with
  | arithmetic left op right =>
    have hdenotes : Denotes rank _ t := Denotes.of_factor (Denotes.parentheses h)
    exact iff_of_true hdenotes (Denotes.of_factor (Denotes.leaf _))
  | named | call | distinct | raw | param | subquery =>
    rw [symbols, Symbol.expanded_leaf] at h ⊢
    obtain rfl := Denotes.eq_of_eq (Quantity.phrase texts _).denotes h
    rfl
    all_goals nofun

/-- The symbols of an expression denote a term with as many leaves as its own, which is its
own if and only if all texts of the caller keep together. -/
theorem Expr.denotes_expanded :
    ∀ (e : Expr) (place : List Side),
  ∃ t, Denotes .sum ((e.symbols place).flatMap (Symbol.expanded texts)) t
    ∧ t.size = (e.term texts place).size
    ∧ (t = e.term texts place ↔ e.KeepsTexts texts place)
  | .named .., place | .call .., place | .distinct _, place | .raw .., place | .param _, place
  | .subquery _, place => by
    refine ⟨_, ?_, rfl, iff_of_true rfl trivial⟩
    rw [symbols, Symbol.expanded_leaf]
    apply (Quantity.phrase texts _).denotes
    all_goals nofun
  | .arithmetic ⟨left, leftAlias⟩ op ⟨right, rightAlias⟩, place => by
    obtain ⟨l, hl, hlsize, hlterm⟩ := denotes_expanded left (place ++ [.left])
    obtain ⟨r, hr, hrsize, hrterm⟩ := denotes_expanded right (place ++ [.right])
    have hleft := denotes_operand_iff leftAlias hl
    have hright := denotes_operand_iff rightAlias hr
    have hlsum := (hleft .sum).mpr (Quantity.phrase texts _).denotes
    have hrsum := (hright .sum).mpr (Quantity.phrase texts _).denotes
    obtain ⟨t, ht, htorn⟩ := Denotes.beside op hlsum hrsum
    have htogether (hparts : Quantity.Fits texts op.rank ⟨place ++ [.left], left⟩
        ∧ Quantity.Fits texts op.rank.under ⟨place ++ [.right], right⟩) :
        t = .apply l op r := by
      have hl := (hleft op.rank).mpr hparts.1
      have hr := (hright op.rank.under).mpr hparts.2
      apply Denotes.eq_of_eq ht (Denotes.apply rfl hl hr)
    use t
    refine ⟨?_, ?_, ?_, ?_⟩
    · simpa [symbols, Symbol.expanded_parenthesizedIf, Symbol.expanded] using ht
    · calc
        t.size = l.size + r.size := by
          rw [ht.size_eq, hlsum.size_eq, hrsum.size_eq]
          simp [Symbol.isLeaf]
        _ = _ := by
          rw [hlsize, hrsize]
          rfl
    · -- A term of the sizes of the operands cannot come from operands that are torn apart.
      intro heq
      obtain ⟨hfitsl, hfitsr⟩ := htorn _ _ heq hrsize.symm
      have hparts := And.intro ((hleft op.rank).mp hfitsl) ((hright op.rank.under).mp hfitsr)
      have hterms := (htogether hparts).symm.trans heq
      injection hterms with hl hop hr
      exact ⟨hparts, hlterm.mp hl, hrterm.mp hr⟩
    · rintro ⟨hparts, hkeepsl, hkeepsr⟩
      rw [htogether hparts, hlterm.mpr hkeepsl, hrterm.mpr hkeepsr]
      rfl

end

/-- The symbols of a column, cut from its text and with symbols of a term for each text of
the caller, denote one term only.  Whatever the operations do and the leaves are worth, the
term has the value of the column, if all texts of the caller keep together; and only then.
So it has if there are no such texts. -/
theorem Column.evaluates_symbols (c : Column) (texts : Quantity → Phrase) :
  (∀ style scope quoting,
      String.join ((c.expr.symbols []).map (Symbol.written style scope quoting))
        = String.join ((c.tokens style scope).map (Token.toText quoting)))
    ∧ (∃ t, Denotes .sum ((c.expr.symbols []).flatMap (Symbol.expanded texts)) t
      ∧ Term.read ((c.expr.symbols []).flatMap (Symbol.expanded texts)) = some t
      ∧ ((∀ (β : Type) (operations : Arithmetic → β → β → β) (v : Quantity → β),
          t.eval operations v
            = c.expr.value operations (fun q => (q.phrase texts).term.eval operations v) [])
        ↔ c.expr.KeepsTexts texts []))
    ∧ ((∀ q ∈ c.expr.quantities [], q.isLoose = false) → c.expr.KeepsTexts texts [])
  := by
  obtain ⟨e, aliasName⟩ := c
  refine ⟨?_, ?_, Expr.keepsTexts_of_isLoose_eq_false texts e []⟩
  · intro style scope quoting
    apply Expr.written_symbols style scope quoting e []
  · obtain ⟨t, ht, -, hterm⟩ := Expr.denotes_expanded e []
    refine ⟨t, ht, ht.read_eq, ?_⟩
    rw [← hterm]
    constructor
    · intro hvalue
      -- The operations that build terms tell any two terms apart.
      have hfree := hvalue (Term Quantity) (fun op l r => .apply l op r) .leaf
      rwa [← Expr.eval_term, Term.eval_apply, Term.eval_apply] at hfree
    · intro heq β operations v
      rw [heq, Expr.eval_term]

/-- The operations on integers. -/
def Arithmetic.onIntegers : Arithmetic → Int → Int → Int
  | .add => (· + ·)
  | .sub => (· - ·)
  | .mul => (· * ·)
  | .div => (· / ·)

/-- A sum of the caller times a column. -/
def weightedSum : Column :=
  ⟨.arithmetic ⟨.raw "a + b" [], none⟩ .mul ⟨.named none "c", none⟩, none⟩

/-- Two quantities with a plus sign between them. -/
def sumOf (a b : Quantity) : Phrase :=
  ⟨[.leaf a, .operation .add, .leaf b], .apply (.leaf a) .add (.leaf b),
    .apply (rfl : Arithmetic.add.rank = .sum) (.of_factor (.leaf a)) (.of_factor (.leaf b))⟩

/-- The sum of the caller is torn apart: with 2, 2 and 3 for the columns the text is worth
8, and the product is 12. -/
theorem evaluates_symbols_weightedSum :
  ∃ (texts : Quantity → Phrase) (v : Quantity → Int) (t : Term Quantity),
    String.join ((texts ⟨[.left], .raw "a + b" []⟩).symbols.map
        (Symbol.written (Dialect.builtIn .mysql).style none .backQuotes)) = "a + b"
      ∧ String.join ((weightedSum.tokens (Dialect.builtIn .mysql).style none).map
        (Token.toText .backQuotes)) = "a + b * `c`"
      ∧ Term.read ((weightedSum.expr.symbols []).flatMap (Symbol.expanded texts)) = some t
      ∧ ¬ weightedSum.expr.KeepsTexts texts []
      ∧ t.eval Arithmetic.onIntegers v = 8
      ∧ weightedSum.expr.value Arithmetic.onIntegers
        (fun q => (q.phrase texts).term.eval Arithmetic.onIntegers v) [] = 12
  := by
  let a : Quantity := ⟨[.left, .left], .raw "a" []⟩
  let b : Quantity := ⟨[.left, .right], .raw "b" []⟩
  let v : Quantity → Int := fun q => if q.isLoose then 2 else 3
  obtain ⟨-, ⟨t, -, hread, hvalue⟩, -⟩ := Column.evaluates_symbols weightedSum fun _ => sumOf a b
  obtain rfl : .apply (.leaf a) .add (.apply (.leaf b) .mul (.leaf _)) = t :=
    Option.some.inj hread
  refine ⟨fun _ => sumOf a b, v, _, rfl, rfl, hread, ?_, rfl, rfl⟩
  intro hkeeps
  have h := hvalue.mpr hkeeps Int Arithmetic.onIntegers v
  have h : (8 : Int) = 12 := h
  omega

end SqlRender
