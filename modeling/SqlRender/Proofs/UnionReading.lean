import SqlRender.Proofs.Compound
import SqlRender.Proofs.ConditionReading
import SqlRender.Query.Build

/-!
# Reading the partners of a union

A query with partners is a compound of selects: its own select is combined with each of its
partners in turn, and every partner is taken as a whole.  A partner is written in
parentheses only if it is ordered or limited.  Here the text of a query is cut into the words of
its compound.  By `Query.reads_compound` these words read as one compound, which denotes the
rows of the query exactly if `Compound.keepsBag` holds: a partner that has partners itself
and no parentheses may change the rows.
-/

namespace SqlRender

/-- A select in a union: the way to it through the partners, and the query there without its
own partners. -/
structure Branch where
  place : List Nat
  query : Query

/-- A compound in parentheses if `needed`. -/
def Compound.enclosedIf {α : Type} (needed : Bool) (e : Compound α) : Compound α :=
  if needed then .enclosed e else e

mutual

/-- The compound of a query at a place. -/
def Query.compound (place : List Nat) : Query → Compound Branch
  | ⟨recursive, ctes, hint, columns, sources, joins, filter, groups, having, order, rows, offset,
      partners, endings⟩ =>
    let own : Query :=
      { recursive, ctes, hint, columns, sources, joins, filter, groups, having, order, rows, offset
        partners := [], endings }
    Partner.compoundBehind place 0 (.select ⟨place, own⟩) partners

/-- A compound combined with each of the partners, the first of which has the number `i`. -/
def Partner.compoundBehind (place : List Nat) (i : Nat) (e : Compound Branch) :
    List Partner → Compound Branch
  | [] => e
  | ⟨kind, q⟩ :: rest =>
    let whole := Query.compound (place ++ [i]) q
    Partner.compoundBehind place (i + 1)
      (.combine e kind (whole.enclosedIf (!q.order.isEmpty || q.isLimited))) rest

end

/-! ### The words of a query -/

/-- The text of a word. -/
def UnionWord.written (style : SelectStyle) (scope : Option Scope) (quoting : Quoting) :
    UnionWord Branch → String
  | select b => Token.written quoting (b.query.tokens style scope)
  | union kind => " " ++ kind.words ++ " "
  | opening => "("
  | closing => ")"

/-- The text of a compound. -/
def Compound.written (style : SelectStyle) (scope : Option Scope) (quoting : Quoting)
    (e : Compound Branch) : String :=
  String.join (e.words.map (UnionWord.written style scope quoting))

section

variable (style : SelectStyle) (scope : Option Scope) (quoting : Quoting)

theorem Compound.written_combine (e f : Compound Branch) (kind : UnionKind) :
  (combine e kind f).written style scope quoting
    = e.written style scope quoting
      ++ (" " ++ kind.words ++ " ") ++ f.written style scope quoting
  := by
  simp only [written, words, List.map_append, List.map_cons, String.join_append, String.join_cons,
    UnionWord.written, String.append_assoc]

theorem Compound.written_enclosedIf {e : Compound Branch} {ts : List Token}
    (h : e.written style scope quoting = Token.written quoting ts) (needed : Bool) :
  (e.enclosedIf needed).written style scope quoting
    = Token.written quoting (parenthesizedIf needed ts)
  := by
  cases needed with
  | false => exact h
  | true =>
    simp only [enclosedIf, if_true, parenthesizedIf, Token.parenthesized, written, words,
      List.cons_append, List.map_cons, List.map_append, String.join_cons, String.join_append,
      Token.written_cons, Token.written_append] at h ⊢
    rw [h]
    rfl

/-- What follows a select is written behind it. -/
theorem SelectParts.tokens_append (p : SelectParts) (ts us : List Token)
    (aliasSeparator : String) :
  { p with after := ts ++ us }.tokens aliasSeparator
    = { p with after := ts }.tokens aliasSeparator ++ us
  := (List.append_assoc (p.paged aliasSeparator) ts us).symm

/-- The partners are written behind the query without them. -/
theorem Query.tokens_eq_append (q : Query) :
  q.tokens style scope
    = { q with partners := [] }.tokens style scope ++ Partner.tokensEach style scope q.partners
  := by
  obtain ⟨recursive, ctes, hint, columns, sources, joins, filter, groups, having, order, rows,
    offset, partners, endings⟩ := q
  rw [tokens, tokens, parts, parts, Partner.tokensEach, List.append_nil]
  exact SelectParts.tokens_append ⟨_, _, _, _, _, _, _, _, _, []⟩ _ _ _

mutual

/-- The words of a query are cut from its text. -/
theorem Query.written_compound (place : List Nat) :
    ∀ q : Query,
  (Query.compound place q).written style scope quoting
    = Token.written quoting (Query.tokens style scope q)
  | ⟨recursive, ctes, hint, columns, sources, joins, filter, groups, having, order, rows, offset,
      partners, endings⟩ => by
    rw [Query.compound, Partner.written_compoundBehind, Query.tokens_eq_append,
      Token.written_append]
    simp [Compound.written, Compound.words, UnionWord.written]

theorem Partner.written_compoundBehind (place : List Nat) (i : Nat) (e : Compound Branch) :
    ∀ ps : List Partner,
  (Partner.compoundBehind place i e ps).written style scope quoting
    = e.written style scope quoting ++ Token.written quoting (Partner.tokensEach style scope ps)
  | [] => by simp [Partner.compoundBehind, Partner.tokensEach, Token.written]
  | ⟨kind, q⟩ :: rest => by
    have hq := Query.written_compound (place ++ [i]) q
    rw [Partner.compoundBehind, Partner.written_compoundBehind, Compound.written_combine,
      Compound.written_enclosedIf style scope quoting hq, Partner.tokensEach]
    simp only [Token.written_append, Token.written_cons, Token.toText, String.append_assoc,
      List.cons_append, List.nil_append]
    rfl

end

end

/-! ### The places of the selects -/

/-- The selects of a compound are different: one is at the place itself, and the others are
in partners with numbers below `i`. -/
structure Compound.IsPlaced (place : List Nat) (i : Nat) (e : Compound Branch) : Prop where
  nodup : e.selects.Nodup
  places : ∀ b ∈ e.selects, b.place = place ∨ ∃ j < i, place ++ [j] <+: b.place

theorem Compound.isPlaced_select (place : List Nat) (q : Query) :
  (Compound.select ⟨place, q⟩).IsPlaced place 0
  := by
  constructor
  · exact List.nodup_singleton _
  · intro b hb
    obtain rfl := List.mem_singleton.mp hb
    exact .inl rfl

theorem Compound.selects_enclosedIf {α : Type} (needed : Bool) (e : Compound α) :
  (e.enclosedIf needed).selects = e.selects
  := by
  cases needed <;> rfl

/-- A compound is placed with a further partner whose selects are at the places of the
partner. -/
theorem Compound.IsPlaced.combine {place : List Nat} {i : Nat} {e f : Compound Branch}
    (h : e.IsPlaced place i) (hnodup : f.selects.Nodup)
    (hplaces : ∀ b ∈ f.selects, place ++ [i] <+: b.place) (kind : UnionKind) :
  (Compound.combine e kind f).IsPlaced place (i + 1)
  := by
  constructor
  · apply List.nodup_append.mpr
    use h.nodup, hnodup
    rintro b hb _ hb' rfl
    have hinside := hplaces b hb'
    obtain hplace | ⟨j, hj, hj'⟩ := h.places b hb
    · have hlength := hinside.length_le
      rw [hplace, List.length_append, List.length_singleton] at hlength
      omega
    · have hsame : place ++ [j] = place ++ [i] := by
        apply List.IsPrefix.eq_of_length
        · exact List.prefix_of_prefix_length_le hj' hinside (by simp)
        · simp
      have heq : j = i := by simpa using hsame
      omega
  · intro b hb
    obtain hb | hb := List.mem_append.mp hb
    · obtain hplace | ⟨j, hj, hj'⟩ := h.places b hb
      · exact .inl hplace
      · exact .inr ⟨j, Nat.lt_succ_of_lt hj, hj'⟩
    · exact .inr ⟨i, Nat.lt_succ_self i, hplaces b hb⟩

mutual

/-- The selects of a query are at different places below its own. -/
theorem Query.selects_compound (place : List Nat) :
    ∀ q : Query,
  (Query.compound place q).selects.Nodup
    ∧ ∀ b ∈ (Query.compound place q).selects, place <+: b.place
  | ⟨recursive, ctes, hint, columns, sources, joins, filter, groups, having, order, rows, offset,
      partners, endings⟩ => by
    rw [Query.compound]
    obtain ⟨n, h⟩ :=
      Partner.isPlaced_compoundBehind place partners (Compound.isPlaced_select place _)
    use h.nodup
    intro b hb
    obtain hplace | ⟨j, -, hj⟩ := h.places b hb
    · exact hplace ▸ List.prefix_rfl
    · exact (List.prefix_append place [j]).trans hj

theorem Partner.isPlaced_compoundBehind (place : List Nat) :
    ∀ (ps : List Partner) {i : Nat} {e : Compound Branch}, e.IsPlaced place i →
  ∃ n, (Partner.compoundBehind place i e ps).IsPlaced place n
  | [], i, e, h => ⟨i, h⟩
  | ⟨kind, q⟩ :: rest, i, e, h => by
    obtain ⟨hnodup, hplaces⟩ := Query.selects_compound (place ++ [i]) q
    rw [Partner.compoundBehind]
    apply Partner.isPlaced_compoundBehind place rest
    apply h.combine
    · rwa [Compound.selects_enclosedIf]
    · rwa [Compound.selects_enclosedIf]

end

/-! ### The rows of a query -/

/-- The words of a query, cut from its text, read as one compound only, and it denotes the rows
of the query, whichever rows the selects have, exactly if the compound of the query keeps
them. -/
theorem Query.reads_compound (q : Query) :
  (∀ style scope quoting,
      (q.compound []).written style scope quoting
        = String.join ((q.tokens style scope).map (Token.toText quoting)))
    ∧ ∃ e, Compound.Reads .row (q.compound []).words e
      ∧ Compound.read (q.compound []).words = some e
      ∧ ((∀ (β : Type) [DecidableEq β] (v : Branch → Multiset β), e.bag v = (q.compound []).bag v)
        ↔ (q.compound []).keepsBag = true)
  := by
  have hreads := (q.compound []).reads_regrouped
  constructor
  · intro style scope quoting
    apply written_compound
  · use (q.compound []).regrouped none
    use hreads, hreads.read_eq
    apply Compound.bag_regrouped_iff
    exact (Query.selects_compound [] q).1

/-- All rows of a table. -/
def rowsOf (name : String) : Query :=
  { Query.empty with sources := [⟨.named none name, none⟩] }

/-- The rows of one table together with the different rows of two others. -/
def ordersAndNames : Query :=
  (rowsOf "orders").union .all ((rowsOf "accounts").union .distinct (rowsOf "customers"))

/-- The text of a partner with a union of its own, and the rows that it denotes. -/
theorem reads_compound_ordersAndNames :
  (∃ e, Compound.read (ordersAndNames.compound []).words = some e
      ∧ ¬ ∀ (β : Type) [DecidableEq β] (v : Branch → Multiset β),
        e.bag v = (ordersAndNames.compound []).bag v)
    ∧ Token.written .backQuotes (ordersAndNames.tokens (Dialect.builtIn .mysql).style none)
      = "SELECT * FROM `orders` UNION ALL SELECT * FROM `accounts` UNION SELECT * FROM `customers`"
  := by
  obtain ⟨-, e, -, hread, hrows⟩ := Query.reads_compound ordersAndNames
  constructor
  · use e, hread
    rw [hrows]
    decide
  · rfl

end SqlRender
