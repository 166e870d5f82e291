import Mathlib.Data.Multiset.Dedup
import Mathlib.Tactic.Use
import SqlRender.Query.Words

/-!
# Reading unions

Selects are combined by UNION and UNION ALL, which have equal precedence and associate to
the left, unless parentheses override this.  `Compound.Reads` is the grammar of the
language, and `Compound.read` finds whatever the grammar derives.  A compound whose right
operands are compounds without parentheses is read in another way than it is built.
`Compound.bag_regrouped_iff` says exactly when it denotes the same rows nevertheless.
-/

namespace SqlRender

/-- The bag that a union makes of two bags of rows. -/
def UnionKind.apply {β : Type} [DecidableEq β] : UnionKind → Multiset β → Multiset β → Multiset β
  | distinct, a, b => (a + b).dedup
  | all, a, b => a + b

/-- Selects combined by unions. -/
inductive Compound (α : Type) where
  | select (a : α)
  | combine (left : Compound α) (kind : UnionKind) (right : Compound α)
  /-- A compound in parentheses. -/
  | enclosed (e : Compound α)

/-- A word of a written compound. -/
inductive UnionWord (α : Type) where
  | select (a : α)
  | union (kind : UnionKind)
  | opening
  | closing

namespace Compound

variable {α : Type}

/-- The bag of rows that a compound denotes. -/
def bag {β : Type} [DecidableEq β] (v : α → Multiset β) : Compound α → Multiset β
  | select a => v a
  | combine left kind right => kind.apply (left.bag v) (right.bag v)
  | enclosed e => e.bag v

/-- The words of a compound. -/
def words : Compound α → List (UnionWord α)
  | select a => [.select a]
  | combine left kind right => left.words ++ .union kind :: right.words
  | enclosed e => .opening :: e.words ++ [.closing]

/-- The selects of a compound. -/
def selects : Compound α → List α
  | select a => [a]
  | combine left _ right => left.selects ++ right.selects
  | enclosed e => e.selects

/-! ### The grammar -/

/-- How much of a compound some words are: an operand of a union, or all operands in a
row. -/
inductive Extent where
  | operand
  | row

/-- The words that read as a compound; unions associate to the left. -/
inductive Reads : Extent → List (UnionWord α) → Compound α → Prop where
  | select (a : α) : Reads .operand [.select a] (.select a)
  | enclosed {ws : List (UnionWord α)} {e : Compound α} :
      Reads .row ws e → Reads .operand (.opening :: ws ++ [.closing]) (.enclosed e)
  | single {ws : List (UnionWord α)} {e : Compound α} :
      Reads .operand ws e → Reads .row ws e
  | combine {ws us : List (UnionWord α)} {e f : Compound α} {kind : UnionKind} :
      Reads .row ws e → Reads .operand us f →
        Reads .row (ws ++ .union kind :: us) (.combine e kind f)

/-! ### The reader -/

/-- What stands before an operand: nothing, or a compound with a union. -/
abbrev Start (α : Type) :=
  Option (Compound α × UnionKind)

/-- A compound with a further operand. -/
def behind : Start α → Compound α → Compound α
  | none, f => f
  | some (e, kind), f => .combine e kind f

/-- Where a reader is: before an operand or behind one, and what stands before each of the
open parentheses. -/
inductive Reader (α : Type) where
  | before (start : Start α) (outer : List (Start α))
  | after (e : Compound α) (outer : List (Start α))

namespace Reader

/-- Where the reader is after a word, if the word may stand there. -/
def step : Reader α → UnionWord α → Option (Reader α)
  | before start outer, .select a => some (after (behind start (.select a)) outer)
  | before start outer, .opening => some (before none (start :: outer))
  | after e outer, .union kind => some (before (some (e, kind)) outer)
  | after e (start :: outer), .closing => some (after (behind start (.enclosed e)) outer)
  | _, _ => none

/-- Where the reader is after several words. -/
def steps (r : Reader α) (ws : List (UnionWord α)) : Option (Reader α) :=
  ws.foldlM step r

/-- The compound that has been read if all parentheses are closed. -/
def result? : Reader α → Option (Compound α)
  | after e [] => some e
  | _ => none

theorem steps_cons (r : Reader α) (w : UnionWord α) (ws : List (UnionWord α)) :
  r.steps (w :: ws) = (r.step w).bind fun r => r.steps ws
  := List.foldlM_cons

theorem steps_append (r : Reader α) (ws us : List (UnionWord α)) :
  r.steps (ws ++ us) = (r.steps ws).bind fun r => r.steps us
  := List.foldlM_append

end Reader

/-- The compound as which the words read. -/
def read (ws : List (UnionWord α)) : Option (Compound α) :=
  ((Reader.before none []).steps ws).bind Reader.result?

/-- What a reader does with words that read as `e`. -/
def Extent.IsReadAs : Extent → List (UnionWord α) → Compound α → Prop
  | operand, ws, e => ∀ start outer,
    (Reader.before start outer).steps ws = some (.after (behind start e) outer)
  | row, ws, e => ∀ outer, (Reader.before none outer).steps ws = some (.after e outer)

theorem Reads.isReadAs {extent : Extent} {ws : List (UnionWord α)} {e : Compound α}
    (h : Reads extent ws e) :
  extent.IsReadAs ws e
  := by
  induction h with
  | select a =>
    intro start outer
    rfl
  | enclosed he ih =>
    intro start outer
    rw [List.cons_append, Reader.steps_cons, Reader.step, Option.bind_some,
      Reader.steps_append, ih (start :: outer)]
    rfl
  | single he ih =>
    intro outer
    apply ih none outer
  | @combine ws us e f kind he hf ihe ihf =>
    intro outer
    rw [Reader.steps_append, ihe outer, Option.bind_some, Reader.steps_cons]
    apply ihf (some (e, kind)) outer

/-- Words that read as a compound by the grammar are read as it. -/
theorem Reads.read_eq {ws : List (UnionWord α)} {e : Compound α} (h : Reads .row ws e) :
  read ws = some e
  := by
  rw [read, h.isReadAs []]
  rfl

/-! ### How the words of a compound read -/

/-- The compound as which the words of a compound read behind `start`. -/
def regrouped : Start α → Compound α → Compound α
  | start, select a => behind start (.select a)
  | start, combine left kind right => right.regrouped (some (left.regrouped start, kind))
  | start, enclosed e => behind start (.enclosed (e.regrouped none))

/-- Words that end where an operand begins, behind `start`. -/
inductive ReadsBefore : List (UnionWord α) → Start α → Prop where
  | nothing : ReadsBefore [] none
  | union {ws : List (UnionWord α)} {e : Compound α} (kind : UnionKind) :
      Reads .row ws e → ReadsBefore (ws ++ [.union kind]) (some (e, kind))

theorem ReadsBefore.behind {ws us : List (UnionWord α)} {start : Start α} {f : Compound α}
    (h : ReadsBefore ws start) (hf : Reads .operand us f) :
  Reads .row (ws ++ us) (behind start f)
  := by
  cases h with
  | nothing => exact Reads.single hf
  | union kind he =>
    rw [List.append_assoc]
    apply Reads.combine he hf

theorem reads_regrouped_behind (e : Compound α) {ws : List (UnionWord α)} {start : Start α}
    (h : ReadsBefore ws start) :
  Reads .row (ws ++ e.words) (e.regrouped start)
  := by
  induction e generalizing ws start with
  | select a => exact h.behind (Reads.select a)
  | enclosed e ih => exact h.behind (Reads.enclosed (ih ReadsBefore.nothing))
  | combine left kind right ihleft ihright =>
    have hright := ihright (ReadsBefore.union kind (ihleft h))
    simp only [words, regrouped]
    simpa using hright

/-- The words of a compound read as the regrouped compound. -/
theorem reads_regrouped (e : Compound α) :
  Reads .row e.words (e.regrouped none)
  := reads_regrouped_behind e ReadsBefore.nothing

end Compound

/-- How often a union has a row, which its two bags have `m` times and `n` times. -/
def UnionKind.tally : UnionKind → Nat → Nat → Nat
  | distinct, m, n => min 1 (m + n)
  | all, m, n => m + n

theorem UnionKind.tally_pos_iff {kind : UnionKind} {m n : Nat} :
  0 < kind.tally m n ↔ 0 < m ∨ 0 < n
  := by
  cases kind <;> simp only [tally] <;> omega

theorem UnionKind.count_apply {β : Type} [DecidableEq β] (kind : UnionKind) (a b : Multiset β)
    (row : β) :
  (kind.apply a b).count row = kind.tally (a.count row) (b.count row)
  := by
  cases kind with
  | all => exact Multiset.count_add row a b
  | distinct =>
    rw [apply, tally, Multiset.count_dedup, ← Multiset.count_add]
    split
    · next h =>
      have hpos := Multiset.count_pos.mpr h
      omega
    · next h => rw [Multiset.count_eq_zero_of_notMem h, Nat.min_eq_right (Nat.zero_le 1)]

namespace Compound

variable {α : Type}

/-! ### Counting a row -/

/-- How often a compound has a row, which each select `a` has `c a` times. -/
def count (c : α → Nat) : Compound α → Nat
  | select a => c a
  | combine left kind right => kind.tally (left.count c) (right.count c)
  | enclosed e => e.count c

/-- How often the operands before a place and `n` more rows have a row. -/
def tally : Option (Nat × UnionKind) → Nat → Nat
  | none, n => n
  | some (m, kind), n => kind.tally m n

/-- How often the compound that the words behind a place read as has a row. -/
def countBehind (c : α → Nat) : Option (Nat × UnionKind) → Compound α → Nat
  | start, select a => tally start (c a)
  | start, combine left kind right => right.countBehind c (some (left.countBehind c start, kind))
  | start, enclosed e => tally start (e.countBehind c none)

theorem count_bag {β : Type} [DecidableEq β] (v : α → Multiset β) (row : β) (e : Compound α) :
  (e.bag v).count row = e.count fun a => (v a).count row
  := by
  induction e with
  | select a => rfl
  | enclosed e ih => exact ih
  | combine left kind right ihleft ihright =>
    rw [bag, UnionKind.count_apply, ihleft, ihright, count]

theorem count_behind (c : α → Nat) (start : Start α) (f : Compound α) :
  (behind start f).count c = tally (start.map fun s => (s.1.count c, s.2)) (f.count c)
  := by
  cases start <;> rfl

theorem count_regrouped_behind (c : α → Nat) (e : Compound α) (start : Start α) :
  (e.regrouped start).count c = e.countBehind c (start.map fun s => (s.1.count c, s.2))
  := by
  induction e generalizing start with
  | select a => exact count_behind c start (.select a)
  | enclosed e ih =>
    rw [regrouped, count_behind, count, ih, countBehind]
    rfl
  | combine left kind right ihleft ihright =>
    rw [regrouped, ihright, Option.map_some, ihleft, countBehind]

theorem count_regrouped (c : α → Nat) (e : Compound α) :
  (e.regrouped none).count c = e.countBehind c none
  := count_regrouped_behind c e none

/-- Two compounds have the same rows exactly if they have every row equally often. -/
theorem bag_eq_iff {e f : Compound α} :
  (∀ (β : Type) [DecidableEq β] (v : α → Multiset β), e.bag v = f.bag v)
    ↔ ∀ c, e.count c = f.count c
  := by
  constructor
  · intro h c
    have hunit := congrArg (Multiset.count ()) (h Unit fun a => Multiset.replicate (c a) ())
    simpa [count_bag] using hunit
  · intro h β _ v
    ext row
    rw [count_bag, count_bag, h]

/-! ### When a compound keeps its rows -/

/-- The last union outside of parentheses in the words of a compound behind a union. -/
def lastKind : UnionKind → Compound α → UnionKind
  | kind, select _ => kind
  | kind, enclosed _ => kind
  | _, combine _ kind right => right.lastKind kind

/-- Whether there is a UNION outside of parentheses. -/
def merges : Compound α → Bool
  | select _ => false
  | enclosed _ => false
  | combine left kind right => left.merges || kind == .distinct || right.merges

/-- Whether the words of a compound denote its rows.  Behind UNION no row may be repeated in
the end, and behind UNION ALL nothing may merge with the rows before it. -/
def keepsBag : Compound α → Bool
  | select _ => true
  | enclosed e => e.keepsBag
  | combine _ .distinct right => right.lastKind .distinct == .distinct
  | combine left .all right => !right.merges && left.keepsBag && right.keepsBag

theorem selects_ne_nil (e : Compound α) :
  e.selects ≠ []
  := by
  induction e with
  | select a => simp [selects]
  | enclosed e ih => exact ih
  | combine left kind right ihleft ihright => simp [selects, ihleft]

/-- A compound has a row if one of its selects has it. -/
theorem count_pos_iff {c : α → Nat} {e : Compound α} :
  0 < e.count c ↔ ∃ a ∈ e.selects, 0 < c a
  := by
  induction e with
  | select a => simp [count, selects]
  | enclosed e ih => exact ih
  | combine left kind right ihleft ihright =>
    rw [count, UnionKind.tally_pos_iff, ihleft, ihright]
    simp only [selects, List.mem_append, or_and_right, exists_or]

theorem tally_pos_iff {start : Option (Nat × UnionKind)} {n : Nat} :
  0 < tally start n ↔ (∃ s ∈ start, 0 < s.1) ∨ 0 < n
  := by
  cases start with
  | none => simp [tally]
  | some s => simp [tally, UnionKind.tally_pos_iff]

/-- The words of a compound have a row if one of its selects or what stands before them has
it. -/
theorem countBehind_pos_iff {c : α → Nat} {e : Compound α} {start : Option (Nat × UnionKind)} :
  0 < e.countBehind c start ↔ (∃ s ∈ start, 0 < s.1) ∨ ∃ a ∈ e.selects, 0 < c a
  := by
  induction e generalizing start with
  | select a => simp [countBehind, tally_pos_iff, selects]
  | enclosed e ih => simp [countBehind, tally_pos_iff, ih, selects]
  | combine left kind right ihleft ihright =>
    rw [countBehind, ihright]
    simp only [Option.mem_some_iff, exists_eq_left', ihleft, selects, List.mem_append,
      or_and_right, exists_or, or_assoc]

theorem countBehind_pos {c : α → Nat} {e : Compound α} (hc : ∀ a ∈ e.selects, 0 < c a)
    (start : Option (Nat × UnionKind)) :
  0 < e.countBehind c start
  := by
  obtain ⟨a, ha⟩ := List.exists_mem_of_ne_nil e.selects e.selects_ne_nil
  exact countBehind_pos_iff.mpr (.inr ⟨a, ha, hc a ha⟩)

theorem count_congr {c d : α → Nat} {e : Compound α} (h : ∀ a ∈ e.selects, c a = d a) :
  e.count c = e.count d
  := by
  induction e with
  | select a => exact h a (List.mem_singleton_self a)
  | enclosed e ih => exact ih h
  | combine left kind right ihleft ihright =>
    obtain ⟨hleft, hright⟩ := List.forall_mem_append.mp h
    rw [count, ihleft hleft, ihright hright, count]

theorem countBehind_congr {c d : α → Nat} {e : Compound α} (h : ∀ a ∈ e.selects, c a = d a)
    (start : Option (Nat × UnionKind)) :
  e.countBehind c start = e.countBehind d start
  := by
  induction e generalizing start with
  | select a => rw [countBehind, h a (List.mem_singleton_self a), countBehind]
  | enclosed e ih => rw [countBehind, ih h, countBehind]
  | combine left kind right ihleft ihright =>
    obtain ⟨hleft, hright⟩ := List.forall_mem_append.mp h
    rw [countBehind, ihleft hleft, ihright hright, countBehind]

/-- If the last union is a UNION, no row is repeated. -/
theorem countBehind_le_one {c : α → Nat} {e : Compound α} {kind : UnionKind}
    (h : e.lastKind kind = .distinct) (m : Nat) :
  e.countBehind c (some (m, kind)) ≤ 1
  := by
  induction e generalizing kind m with
  | select a | enclosed e =>
    obtain rfl : kind = .distinct := h
    exact Nat.min_le_left 1 _
  | combine left kind' right ihleft ihright => exact ihright h _

/-- If the last union is a UNION ALL, a row of all selects is repeated. -/
theorem two_le_countBehind {c : α → Nat} (hc : ∀ a, 0 < c a) {e : Compound α} {kind : UnionKind}
    (h : e.lastKind kind = .all) {m : Nat} (hm : 0 < m) :
  2 ≤ e.countBehind c (some (m, kind))
  := by
  have hpos : ∀ (f : Compound α) start, 0 < f.countBehind c start :=
    fun f start => countBehind_pos (fun a _ => hc a) start
  induction e generalizing kind m with
  | select a =>
    obtain rfl : kind = .all := h
    exact Nat.add_le_add hm (hc a)
  | enclosed e =>
    obtain rfl : kind = .all := h
    exact Nat.add_le_add hm (hpos e none)
  | combine left kind' right ihleft ihright => exact ihright h (hpos left _)

/-- Without a UNION, the words behind a UNION ALL are counted for themselves. -/
theorem countBehind_all {c : α → Nat} {e : Compound α} (h : e.merges = false) (m : Nat) :
  e.countBehind c (some (m, .all)) = m + e.countBehind c none
  := by
  induction e generalizing m with
  | select a | enclosed e => rfl
  | combine left kind right ihleft ihright =>
    simp only [merges, Bool.or_eq_false_iff] at h
    obtain ⟨⟨hleft, hkind⟩, hright⟩ := h
    obtain rfl : kind = .all := by cases kind <;> simp_all
    rw [countBehind, ihright hright, ihleft hleft, countBehind, ihright hright, Nat.add_assoc]

/-- A UNION merges rows that stand before it, however many. -/
theorem countBehind_eq_of_pos {c : α → Nat} {e : Compound α} {kind : UnionKind}
    (h : kind = .distinct ∨ e.merges = true) {m n : Nat} (hm : 0 < m) (hn : 0 < n) :
  e.countBehind c (some (m, kind)) = e.countBehind c (some (n, kind))
  := by
  induction e generalizing kind m n with
  | select a =>
    obtain rfl | h := h
    · simp only [countBehind, tally, UnionKind.tally]
      omega
    · cases h
  | enclosed e =>
    obtain rfl | h := h
    · simp only [countBehind, tally, UnionKind.tally]
      omega
    · cases h
  | combine left kind' right ihleft ihright =>
    rw [countBehind, countBehind]
    by_cases hbefore : kind = .distinct ∨ left.merges = true
    · rw [ihleft hbefore hm hn]
    · have hafter : kind' = .distinct ∨ right.merges = true := by
        simp only [merges] at h
        grind
      apply ihright hafter
      · exact countBehind_pos_iff.mpr (.inl ⟨_, rfl, hm⟩)
      · exact countBehind_pos_iff.mpr (.inl ⟨_, rfl, hn⟩)

/-- A compound with a UNION that has a row from its first select on has this row equally often
whatever stands before it. -/
theorem countBehind_eq_of_merges {c : α → Nat} {e : Compound α} (hc : ∀ a ∈ e.selects, 0 < c a)
    (h : e.merges = true) (kind : UnionKind) (m n : Nat) :
  e.countBehind c (some (m, kind)) = e.countBehind c (some (n, kind))
  := by
  induction e generalizing kind m n with
  | select | enclosed => cases h
  | combine left kind' right ihleft ihright =>
    obtain ⟨hcleft, -⟩ := List.forall_mem_append.mp hc
    rw [countBehind, countBehind]
    by_cases hbefore : left.merges = true
    · rw [ihleft hcleft hbefore kind m n]
    · have hafter : kind' = .distinct ∨ right.merges = true := by
        simp only [merges] at h
        grind
      apply countBehind_eq_of_pos hafter (countBehind_pos hcleft _) (countBehind_pos hcleft _)

theorem countBehind_of_keepsBag {e : Compound α} (h : e.keepsBag = true) (c : α → Nat) :
  e.countBehind c none = e.count c
  := by
  induction e with
  | select a => rfl
  | enclosed e ih => exact ih h
  | combine left kind right ihleft ihright =>
    cases kind with
    | distinct =>
      have hlast : right.lastKind .distinct = .distinct := by simpa [keepsBag] using h
      have hread := countBehind_le_one hlast (c := c) (left.countBehind c none)
      have hbuilt : (combine left .distinct right).count c ≤ 1 := Nat.min_le_left 1 _
      have hsame : 0 < (combine left .distinct right).countBehind c none
          ↔ 0 < (combine left .distinct right).count c := by
        rw [countBehind_pos_iff, count_pos_iff]
        simp
      rw [countBehind] at hsame ⊢
      omega
    | all =>
      simp only [keepsBag, Bool.and_eq_true, Bool.not_eq_true'] at h
      obtain ⟨⟨hmerges, hleft⟩, hright⟩ := h
      rw [countBehind, countBehind_all hmerges, ihleft hleft, ihright hright, count, UnionKind.tally]

/-- If the words of two compounds with UNION ALL between them denote their rows, this is so
for independent rows of the two compounds. -/
theorem countBehind_of_disjoint {left right : Compound α}
    (hdisjoint : ∀ a ∈ left.selects, ∀ b ∈ right.selects, a ≠ b)
    (h : ∀ c, (combine left .all right).countBehind c none = (combine left .all right).count c)
    (c d : α → Nat) :
  right.countBehind d (some (left.countBehind c none, .all)) = left.count c + right.count d
  := by
  classical
  let both := fun a => if a ∈ left.selects then c a else d a
  have hleft : ∀ a ∈ left.selects, both a = c a := fun a ha => if_pos ha
  have hright : ∀ a ∈ right.selects, both a = d a :=
    fun a ha => if_neg fun ha' => hdisjoint a ha' a ha rfl
  have hboth := h both
  rw [countBehind, count, countBehind_congr hright, countBehind_congr hleft, count_congr hleft,
    count_congr hright] at hboth
  apply hboth

/-- A compound of different selects keeps its rows if its words denote them, however often the
selects have them. -/
theorem keepsBag_of_countBehind {e : Compound α} (hnodup : e.selects.Nodup)
    (h : ∀ c, e.countBehind c none = e.count c) :
  e.keepsBag = true
  := by
  have hone : ∀ f : Compound α, 0 < f.count (fun _ => 1) ∧ 0 < f.countBehind (fun _ => 1) none := by
    intro f
    obtain ⟨a, ha⟩ := List.exists_mem_of_ne_nil f.selects f.selects_ne_nil
    constructor
    · exact count_pos_iff.mpr ⟨a, ha, Nat.zero_lt_one⟩
    · exact countBehind_pos (fun _ _ => Nat.zero_lt_one) none
  have hzero : ∀ f : Compound α, f.count (fun _ => 0) = 0 ∧ f.countBehind (fun _ => 0) none = 0 := by
    intro f
    constructor
    · apply Nat.eq_zero_of_not_pos
      simp [count_pos_iff]
    · apply Nat.eq_zero_of_not_pos
      simp [countBehind_pos_iff]
  induction e with
  | select a => rfl
  | enclosed e ih => exact ih hnodup h
  | combine left kind right ihleft ihright =>
    cases kind with
    | distinct =>
      cases hlast : right.lastKind .distinct with
      | distinct => simp [keepsBag, hlast]
      | all =>
        -- A row of all selects would be repeated, although nothing is repeated behind UNION.
        have hbuilt : (combine left .distinct right).count (fun _ => 1) ≤ 1 := Nat.min_le_left 1 _
        have hread := two_le_countBehind (fun _ => Nat.zero_lt_one) hlast (hone left).2
        rw [← h, countBehind] at hbuilt
        omega
    | all =>
      obtain ⟨hnleft, hnright, hdisjoint⟩ := List.nodup_append.mp hnodup
      have hsplit := countBehind_of_disjoint hdisjoint h
      have hmerges : right.merges = false := by
        cases hmerges : right.merges with
        | false => rfl
        | true =>
          -- The rows of the left side would be merged with those of the right side.
          have hsame := countBehind_eq_of_merges (fun _ _ => Nat.zero_lt_one) hmerges .all
            (left.countBehind (fun _ => 1) none) (left.countBehind (fun _ => 0) none)
          rw [hsplit, hsplit, (hzero left).1] at hsame
          have hpos := (hone left).1
          omega
      have hleft : left.keepsBag = true := by
        apply ihleft hnleft
        intro c
        have hc := hsplit c fun _ => 0
        rwa [countBehind_all hmerges, (hzero right).1, (hzero right).2] at hc
      have hright : right.keepsBag = true := by
        apply ihright hnright
        intro d
        have hd := hsplit (fun _ => 0) d
        rwa [countBehind_all hmerges, (hzero left).1, (hzero left).2, Nat.zero_add, Nat.zero_add]
          at hd
      simp [keepsBag, hmerges, hleft, hright]

/-- The words of a compound of different selects denote its rows, whichever rows the selects
have, exactly if the compound keeps them. -/
theorem bag_regrouped_iff {e : Compound α} (hnodup : e.selects.Nodup) :
  (∀ (β : Type) [DecidableEq β] (v : α → Multiset β), (e.regrouped none).bag v = e.bag v)
    ↔ e.keepsBag = true
  := by
  rw [bag_eq_iff]
  simp only [count_regrouped]
  exact ⟨keepsBag_of_countBehind hnodup, countBehind_of_keepsBag⟩

end Compound

end SqlRender
