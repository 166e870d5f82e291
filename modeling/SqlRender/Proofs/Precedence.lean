import Mathlib.Tactic.Use
import SqlRender.Query.Words

/-!
# Reading formulas

Formulas of three-valued logic are written with NOT, AND, OR and parentheses.  `Reads` is
the grammar of the language: NOT binds stronger than AND, which binds stronger than OR,
and parentheses override this.  `read` goes through the words once and keeps what is
pending.  By `Reads.read_eq` it finds whatever the grammar derives, so no sequence of words
reads as two formulas.
-/

namespace SqlRender

/-! ### Truth values -/

/-- A truth value of three-valued logic. -/
inductive Truth where
  | false
  | unknown
  | true
  deriving DecidableEq

namespace Truth

/-- The opposite truth value. -/
def not : Truth → Truth
  | false => true
  | unknown => unknown
  | true => false

/-- Whether both hold. -/
def and : Truth → Truth → Truth
  | false, _ => false
  | _, false => false
  | true, true => true
  | _, _ => unknown

/-- Whether one of them holds. -/
def or : Truth → Truth → Truth
  | true, _ => true
  | _, true => true
  | false, false => false
  | _, _ => unknown

end Truth

/-- What a connective makes of two truth values. -/
def Connective.apply : Connective → Truth → Truth → Truth
  | .and => Truth.and
  | .or => Truth.or

theorem Connective.apply_assoc (op : Connective) (a b c : Truth) :
  op.apply (op.apply a b) c = op.apply a (op.apply b c)
  := by
  cases op <;> cases a <;> cases b <;> cases c <;> rfl

/-! ### Formulas and their words -/

/-- A formula over leaves. -/
inductive Formula (α : Type) where
  | leaf (a : α)
  | not (f : Formula α)
  | connect (left : Formula α) (op : Connective) (right : Formula α)

/-- The truth value of a formula. -/
def Formula.eval {α : Type} (v : α → Truth) : Formula α → Truth
  | leaf a => v a
  | not f => (f.eval v).not
  | connect left op right => op.apply (left.eval v) (right.eval v)

/-- A word of a written formula. -/
inductive Word (α : Type) where
  | leaf (a : α)
  | not
  | connective (op : Connective)
  | opening
  | closing

/-- What a part of a written formula is: something that NOT may stand before, or several
such parts with a connective between them. -/
inductive Level where
  | factor
  | chain (op : Connective)

/-- The level of the parts between which a connective stands. -/
def Level.under : Connective → Level
  | .and => factor
  | .or => chain .and

variable {α : Type}

/-- The words that read as a formula at a level; equal connectives associate to the left. -/
inductive Reads : Level → List (Word α) → Formula α → Prop where
  | leaf (a : α) : Reads .factor [.leaf a] (.leaf a)
  | not {ws : List (Word α)} {f : Formula α} :
      Reads .factor ws f → Reads .factor (.not :: ws) (.not f)
  | parentheses {ws : List (Word α)} {f : Formula α} :
      Reads (.chain .or) ws f → Reads .factor (.opening :: ws ++ [.closing]) f
  | single {op : Connective} {ws : List (Word α)} {f : Formula α} :
      Reads (.under op) ws f → Reads (.chain op) ws f
  | connect {op : Connective} {ws us : List (Word α)} {f g : Formula α} :
      Reads (.chain op) ws f → Reads (.under op) us g →
        Reads (.chain op) (ws ++ .connective op :: us) (.connect f op g)

namespace Reads

variable {op : Connective} {ws us : List (Word α)} {f g : Formula α}

theorem of_factor (h : Reads .factor ws f) :
  Reads (.chain op) ws f
  := by
  cases op with
  | and => exact single h
  | or => exact single (single h)

/-- A part at any level is one at the level of a whole formula. -/
theorem loosen {level : Level} (h : Reads level ws f) :
  Reads (.chain .or) ws f
  := by
  match level with
  | .factor => exact of_factor h
  | .chain .and => exact single h
  | .chain .or => exact h

/-- Two parts with a connective between them read as a formula with the value of both
connected, although the connective associates differently. -/
theorem append (hf : Reads (.chain op) ws f) (hg : Reads (.chain op) us g) :
  ∃ e, Reads (.chain op) (ws ++ .connective op :: us) e
    ∧ ∀ v, e.eval v = op.apply (f.eval v) (g.eval v)
  := by
  generalize hlevel : Level.chain op = level at hg
  induction hg with
  | leaf | not | parentheses => cases hlevel
  | single hg =>
    cases hlevel
    exact ⟨_, connect hf hg, fun v => rfl⟩
  | @connect _ us us' g g' hg hg' ih =>
    cases hlevel
    obtain ⟨e, he, heval⟩ := ih rfl
    use .connect e op g'
    constructor
    · simpa using connect he hg'
    · intro v
      rw [Formula.eval, heval, Formula.eval, Connective.apply_assoc]

end Reads

/-! ### The reader -/

/-- What is pending inside a pair of parentheses: the alternatives that are complete, the
factors of the alternative under way, and the number of NOTs before its next factor. -/
structure Pending (α : Type) where
  sum : Option (Formula α)
  product : Option (Formula α)
  negations : Nat

/-- A formula connected to what stands before it. -/
def Formula.behind (op : Connective) : Option (Formula α) → Formula α → Formula α
  | none, f => f
  | some g, f => .connect g op f

/-- A formula behind a number of NOTs. -/
def Formula.negated : Nat → Formula α → Formula α
  | 0, f => f
  | n + 1, f => negated n (.not f)

/-- Nothing is pending. -/
def Pending.nothing : Pending α :=
  ⟨none, none, 0⟩

/-- The alternative under way with a further factor. -/
def Pending.with (p : Pending α) (f : Formula α) : Formula α :=
  .behind .and p.product (.negated p.negations f)

/-- Where a reader is: before a factor, or behind one with the complete alternatives and
the one under way; and in both cases what is pending around the parentheses. -/
inductive Reader (α : Type) where
  | before (p : Pending α) (outer : List (Pending α))
  | behind (sum : Option (Formula α)) (product : Formula α) (outer : List (Pending α))

namespace Reader

/-- Where the reader is after a word, if the word may stand there. -/
def step : Reader α → Word α → Option (Reader α)
  | before p outer, .leaf a => some (behind p.sum (p.with (.leaf a)) outer)
  | before p outer, .not => some (before { p with negations := p.negations + 1 } outer)
  | before p outer, .opening => some (before .nothing (p :: outer))
  | behind sum product outer, .connective .and => some (before ⟨sum, some product, 0⟩ outer)
  | behind sum product outer, .connective .or =>
    some (before ⟨some (.behind .or sum product), none, 0⟩ outer)
  | behind sum product (p :: outer), .closing =>
    some (behind p.sum (p.with (.behind .or sum product)) outer)
  | _, _ => none

/-- Where the reader is after several words. -/
def steps (r : Reader α) (ws : List (Word α)) : Option (Reader α) :=
  ws.foldlM step r

/-- The formula that has been read if all parentheses are closed. -/
def result? : Reader α → Option (Formula α)
  | behind sum product [] => some (.behind .or sum product)
  | _ => none

end Reader

/-- The formula as which the words read. -/
def read (ws : List (Word α)) : Option (Formula α) :=
  ((Reader.before .nothing []).steps ws).bind Reader.result?

namespace Reader

theorem steps_cons (r : Reader α) (w : Word α) (ws : List (Word α)) :
  r.steps (w :: ws) = (r.step w).bind fun r => r.steps ws
  := List.foldlM_cons

theorem steps_append (r : Reader α) (ws us : List (Word α)) :
  r.steps (ws ++ us) = (r.steps ws).bind fun r => r.steps us
  := List.foldlM_append

end Reader

/-- What a reader does with a part of the given level that reads as `f`: a factor is added
to the alternative under way, and several factors or alternatives are read as they would be
read alone. -/
def Level.IsReadAs : Level → List (Word α) → Formula α → Prop
  | factor, ws, f => ∀ p outer,
    (Reader.before p outer).steps ws = some (.behind p.sum (p.with f) outer)
  | chain .and, ws, f => ∀ sum outer,
    (Reader.before ⟨sum, none, 0⟩ outer).steps ws = some (.behind sum f outer)
  | chain .or, ws, f => ∀ outer, ∃ sum product,
    (Reader.before .nothing outer).steps ws = some (.behind sum product outer)
      ∧ .behind .or sum product = f

theorem Reads.isReadAs {level : Level} {ws : List (Word α)} {f : Formula α}
    (h : Reads level ws f) :
  level.IsReadAs ws f
  := by
  induction h with
  | leaf a =>
    intro p outer
    rfl
  | not hf ih =>
    intro p outer
    rw [Reader.steps_cons]
    apply ih { p with negations := p.negations + 1 } outer
  | parentheses hf ih =>
    intro p outer
    obtain ⟨sum, product, hsteps, rfl⟩ := ih (p :: outer)
    rw [List.cons_append, Reader.steps_cons]
    simp only [Reader.step, Option.bind_some]
    rw [Reader.steps_append, hsteps]
    rfl
  | @single op ws f hf ih =>
    cases op with
    | and =>
      intro sum outer
      apply ih ⟨sum, none, 0⟩ outer
    | or =>
      intro outer
      use none, f
      exact ⟨ih none outer, rfl⟩
  | @connect op ws us f g hf hg ihf ihg =>
    cases op with
    | and =>
      intro sum outer
      rw [Reader.steps_append, ihf sum outer, Option.bind_some, Reader.steps_cons]
      apply ihg ⟨sum, some f, 0⟩ outer
    | or =>
      intro outer
      obtain ⟨sum, product, hsteps, rfl⟩ := ihf outer
      use some (.behind .or sum product), g
      rw [Reader.steps_append, hsteps, Option.bind_some, Reader.steps_cons]
      exact ⟨ihg (some (.behind .or sum product)) outer, rfl⟩

/-- Words that read as a formula by the grammar are read as it. -/
theorem Reads.read_eq {level : Level} {ws : List (Word α)} {f : Formula α}
    (h : Reads level ws f) :
  read ws = some f
  := by
  obtain ⟨sum, product, hsteps, hf⟩ := h.loosen.isReadAs []
  rw [read, hsteps, Option.bind_some, Reader.result?, hf]

end SqlRender
