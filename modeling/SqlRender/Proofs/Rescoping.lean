import SqlRender.Proofs.Names
import SqlRender.Proofs.Validation

/-!
# Queries in another scope

Which names stand in the tokens of a query depends on the scope around it: a reference is
written as it was given, or as the name or the alias of the table it means.  Whether the tokens
pass their guards does not depend on it, as long as the names of the scopes pass: a reference
means a table by its name or by its alias with letter case ignored, and the guard of a name does
not tell the case of letters apart.  So tokens that pass in one scope pass in every other:
`Query.allPass_congr`.
-/

namespace SqlRender

/-! ### Lists of tokens that pass -/

namespace Token

/-- Tokens that all pass their guards. -/
def AllPass (ts : List Token) : Prop :=
  ∀ t ∈ ts, t.Passes

@[simp]
theorem allPass_nil :
  AllPass []
  := by simp [AllPass]

@[simp]
theorem allPass_cons {t : Token} {ts : List Token} :
  AllPass (t :: ts) ↔ t.Passes ∧ AllPass ts
  := List.forall_mem_cons

@[simp]
theorem allPass_append {ts us : List Token} :
  AllPass (ts ++ us) ↔ AllPass ts ∧ AllPass us
  := List.forall_mem_append

@[simp]
theorem allPass_separated {separator : String} {parts : List (List Token)} :
  AllPass (separated separator parts) ↔ ∀ part ∈ parts, AllPass part
  := by
  fun_induction separated separator parts with
  | case1 => simp
  | case2 part => simp
  | case3 part rest hrest ih => simp [ih]

@[simp]
theorem allPass_parenthesized {part : List Token} :
  AllPass (parenthesized part) ↔ AllPass part
  := by simp [parenthesized]

@[simp]
theorem allPass_parenthesizedIf {needed : Bool} {part : List Token} :
  AllPass (parenthesizedIf needed part) ↔ AllPass part
  := by cases needed <;> simp [parenthesizedIf]

/-- Texts of the caller pass. -/
@[simp]
theorem allPass_endings (endings : List String) :
  AllPass (endings.flatMap fun e => [.text " ", .raw e []])
  := by
  simp only [AllPass, List.forall_mem_flatMap]
  intro e he
  simp

/-- A clause that is left out when it is empty passes if its body does. -/
theorem allPass_clause {isEmpty : Bool} {word : String} {body : List Token} :
  AllPass (if isEmpty then [] else .text word :: body) ↔ (isEmpty = false → AllPass body)
  := by cases isEmpty <;> simp

/-- Tokens make a statement if and only if they all pass. -/
theorem exists_ofTokens_iff {quoting : Quoting} {ts : List Token} :
  (∃ s, Statement.ofTokens quoting ts = .ok s) ↔ AllPass ts
  := by
  simp only [Statement.ofTokens_eq_ok_iff]
  constructor
  · rintro ⟨s, h, -⟩
    exact h
  · intro h
    exact ⟨_, h, rfl⟩

end Token

open Token (AllPass)

/-! ### References -/

namespace Guard

/-- Whether a character may stand in a name. -/
def inName (c : Char) : Bool :=
  !Text.isBlank c && !refusedCharacters.contains c

/-- A name passes if it has characters and they may all stand in names. -/
theorem verify_identifier_iff {n : String} :
  (identifier n).verify = .ok () ↔ n.toList ≠ [] ∧ n.toList.all inName = true
  := by
  have hinName : n.toList.all inName = true
      ↔ n.toList.any Text.isBlank = false ∧ n.toList.find? refusedCharacters.contains = none := by
    simp only [List.all_eq_true, inName, Bool.and_eq_true, Bool.not_eq_true', List.any_eq_false,
      List.find?_eq_none, Bool.not_eq_true, forall_and]
  rw [hinName, verify, checkIdentifier]
  split
  · next hblank =>
    -- a text without characters is blank, and so is one of blanks
    simp only [reduceCtorEq, false_iff, not_and]
    intro hne hnone
    obtain ⟨c, cs, hcs⟩ := List.exists_cons_of_ne_nil hne
    rw [Text.isAllBlank, hcs, List.all_cons, Bool.and_eq_true] at hblank
    rw [hcs, List.any_cons, hblank.1] at hnone
    cases hnone
  · next hblank =>
    have hne : n.toList ≠ [] := by
      intro h
      rw [Text.isAllBlank, h] at hblank
      exact hblank rfl
    split
    · next hany =>
      simp only [reduceCtorEq, false_iff]
      rintro ⟨-, hnone, -⟩
      rw [hnone] at hany
      cases hany
    · next hany =>
      split
      · next hfind =>
        simp only [reduceCtorEq, false_iff]
        rintro ⟨-, -, hnone⟩
        rw [hnone] at hfind
        cases hfind
      · next hfind => exact iff_of_true rfl ⟨hne, Bool.eq_false_iff.mpr hany, hfind⟩

/-- Letters and digits may stand in names. -/
theorem inName_of_isAlphanum {c : Char} (h : c.isAlphanum = true) :
  inName c = true
  := by
  obtain ⟨hblank, hsign⟩ := Bool.and_eq_true_iff.mp (Lexeme.inWord_of_isAlphanum h)
  have hsigns : refusedCharacters ⊆ Lexeme.signs := by decide
  have hrefused : c ∉ refusedCharacters := by
    intro hc
    rw [List.contains_iff_mem.mpr (hsigns hc)] at hsign
    cases hsign
  simpa [inName, hrefused] using hblank

theorem isAlphanum_of_isAlpha {c : Char} (h : (c.isUpper || c.isLower) = true) :
  c.isAlphanum = true
  := by
  change ((c.isUpper || c.isLower) || c.isDigit) = true
  rw [h, Bool.true_or]

/-- Capital letters have small ones. -/
theorem isAlphanum_toLower {c : Char} (h : c.isUpper = true) :
  c.toLower.isAlphanum = true
  := by
  have hrange := of_decide_eq_true h
  have hlow : 65 ≤ c.val.toNat := UInt32.le_iff_toNat_le.mp hrange.1
  have hhigh : c.val.toNat ≤ 90 := UInt32.le_iff_toNat_le.mp hrange.2
  have hval : c.toLower.val.toNat = c.val.toNat + 32 := by
    rw [Text.val_toLower hrange, UInt32.toNat_add]
    change (c.val.toNat + 32) % 4294967296 = _
    omega
  have hlower : c.toLower.isLower = true := by
    apply Bool.and_eq_true_iff.mpr
    constructor
    · apply decide_eq_true (UInt32.le_iff_toNat_le.mpr _)
      change 97 ≤ _
      omega
    · apply decide_eq_true (UInt32.le_iff_toNat_le.mpr _)
      change _ ≤ 122
      omega
  apply isAlphanum_of_isAlpha
  rw [hlower, Bool.or_true]

/-- Letter case does not matter in names. -/
theorem inName_toLower (c : Char) :
  inName c.toLower = inName c
  := by
  by_cases h : c.isUpper = true
  · have hupper : c.isAlphanum = true := by
      apply isAlphanum_of_isAlpha
      rw [h, Bool.true_or]
    rw [inName_of_isAlphanum hupper, inName_of_isAlphanum (isAlphanum_toLower h)]
  · have hrange : ¬ (c.val ≥ 'A'.val ∧ c.val ≤ 'Z'.val) := fun hr => h (decide_eq_true hr)
    rw [Text.toLower_eq_self hrange]

/-- Names that differ in letter case at most pass together. -/
theorem verify_identifier_of_same {n m : String} (h : Text.sameIgnoringCase n m = true)
    (hn : (identifier n).verify = .ok ()) :
  (identifier m).verify = .ok ()
  := by
  have hlower : ∀ s : String, (Text.lower s).toList = s.toList.map Char.toLower := by
    simp [Text.lower]
  have hsame : n.toList.map Char.toLower = m.toList.map Char.toLower := by
    rw [← hlower, ← hlower, Text.sameIgnoringCase_iff.mp h]
  have hall : ∀ cs : List Char, (cs.map Char.toLower).all inName = cs.all inName := by
    simp [List.all_map, Function.comp_def, inName_toLower]
  rw [verify_identifier_iff] at hn ⊢
  constructor
  · intro hm
    rw [hm, List.map_nil, List.map_eq_nil_iff] at hsame
    exact hn.1 hsame
  · rw [← hall, ← hsame, hall, hn.2]

end Guard

/-- The names of a scope pass. -/
def Scope.NamesPass (scope : Option Scope) : Prop :=
  ∀ n ∈ Scope.names scope, (Guard.identifier n).verify = .ok ()

/-- A reference passes if the name that stands for it in a scope of names that pass does. -/
theorem Scope.verify_reference {scope : Option Scope} (hscope : NamesPass scope)
    {reference : String}
    (h : ∀ n, qualifier? scope reference = some n → (Guard.identifier n).verify = .ok ()) :
  (Guard.identifier reference).verify = .ok ()
  := by
  cases scope with
  | none => exact h reference rfl
  | some tables =>
    cases hfind : tables.find? fun t => Table.isMeantBy t.name t.aliasName reference with
    | none => exact h reference (by simp [qualifier?, hfind])
    | some t =>
      -- the table has the reference as a name, up to letter case
      obtain ⟨n, hn, hsame⟩ : ∃ n ∈ t.names, Text.sameIgnoringCase n reference = true := by
        have hmeant := List.find?_some hfind
        simpa [Table.isMeantBy, Visible.names, or_and_right, exists_or, or_comm,
          Option.any_eq_true] using hmeant
      apply Guard.verify_identifier_of_same hsame
      apply hscope
      exact List.mem_flatMap.mpr ⟨t, List.mem_of_find?_eq_some hfind, hn⟩

/-- A column of a table passes in a scope of names that pass if its name and its reference
do. -/
theorem allPass_namedTokens_iff {scope : Option Scope} (hscope : Scope.NamesPass scope)
    {table : Option String} {name : String} :
  AllPass (namedTokens scope table name)
    ↔ (∀ r ∈ table, (Guard.identifier r).verify = .ok ())
      ∧ (Guard.identifier name).verify = .ok ()
  := by
  cases table with
  | none => simp [namedTokens, Token.passes_name]
  | some r =>
    have hreference : (∀ n, Scope.qualifier? scope r = some n
        → (Guard.identifier n).verify = .ok ()) ↔ (Guard.identifier r).verify = .ok () := by
      constructor
      · apply Scope.verify_reference hscope
      · intro hr n hn
        obtain rfl | hmem := Scope.qualifier?_mem hn
        · apply hr
        · apply hscope n hmem
    cases hq : Scope.qualifier? scope r with
    | none => simp [namedTokens, hq, Token.passes_name, ← hreference]
    | some n => simp [namedTokens, hq, Token.passes_name, ← hreference]

/-! ### The parts of a select -/

namespace SelectParts

/-- What is written behind SELECT. -/
def head? (p : SelectParts) : Option SelectHead :=
  match p.layout with
  | .inline head _ => head
  | _ => none

/-- Whether the ordering is written around the query. -/
def ordersAround (p : SelectParts) : Bool :=
  p.isNumbered && p.numbersAround

/-- The parts of a select pass. -/
structure Passes (p : SelectParts) : Prop where
  ctes : AllPass p.ctes
  clash : AllPass p.clash
  hint : AllPass p.hint
  list : AllPass (p.list p.head?)
  clauses : AllPass p.clauses
  order : p.isOrdered = true → AllPass (p.order p.ordersAround)
  after : AllPass p.after

variable {p : SelectParts}

theorem allPass_preamble_iff {separator : String} :
  AllPass (p.preamble separator) ↔ AllPass p.ctes
  := by
  unfold preamble
  split
  · next h => simp [List.isEmpty_iff.mp h]
  · simp

theorem allPass_body_iff {first : List Token} {head : Option SelectHead} :
  AllPass (p.body first head)
    ↔ AllPass p.hint ∧ AllPass first ∧ AllPass (p.list head) ∧ AllPass p.clauses
  := by
  simp [body]

theorem allPass_rowNumber_iff {around : Bool} :
  AllPass (p.rowNumber around) ↔ (p.isOrdered = true → AllPass (p.order around))
  := by
  unfold rowNumber
  split
  · next h => simp [h]
  · next h => simp [h]

theorem allPass_core_iff {head : Option SelectHead} :
  AllPass (p.core head)
    ↔ AllPass p.clash ∧ AllPass p.hint ∧ AllPass (p.list head) ∧ AllPass p.clauses
      ∧ (p.isOrdered = true → AllPass (p.order false))
  := by
  unfold core
  split
  · next h => simp [allPass_body_iff, h, and_assoc]
  · next h => simp [allPass_body_iff, h]

theorem allPass_numberedCore_iff {aliasSeparator : String} :
  AllPass (p.numberedCore aliasSeparator none)
    ↔ AllPass p.clash ∧ AllPass p.hint ∧ AllPass (p.list none) ∧ AllPass p.clauses
      ∧ (p.isOrdered = true → AllPass (p.order p.numbersAround))
  := by
  unfold numberedCore numbersAround
  cases p.columns.any Column.isDistinct
  · simp [allPass_body_iff, allPass_rowNumber_iff, and_assoc, and_comm, and_left_comm]
  · simp [allPass_body_iff, allPass_rowNumber_iff, and_assoc, and_comm, and_left_comm]

theorem passes_iff :
  p.Passes
    ↔ AllPass p.ctes
      ∧ (AllPass p.clash ∧ AllPass p.hint ∧ AllPass (p.list p.head?) ∧ AllPass p.clauses
        ∧ (p.isOrdered = true → AllPass (p.order p.ordersAround)))
      ∧ AllPass p.after
  := by
  constructor
  · rintro ⟨hctes, hclash, hhint, hlist, hclauses, horder, hafter⟩
    exact ⟨hctes, ⟨hclash, hhint, hlist, hclauses, horder⟩, hafter⟩
  · rintro ⟨hctes, ⟨hclash, hhint, hlist, hclauses, horder⟩, hafter⟩
    exact ⟨hctes, hclash, hhint, hlist, hclauses, horder, hafter⟩

/-- A select passes if its parts do. -/
theorem allPass_tokens_iff {aliasSeparator : String} :
  AllPass (p.tokens aliasSeparator) ↔ p.Passes
  := by
  unfold tokens paged
  simp only [passes_iff, head?, ordersAround, isNumbered]
  cases p.layout with
  | inline head tail =>
    cases tail <;> simp [standard, allPass_preamble_iff, allPass_core_iff, and_assoc]
  | wrapped before behind => simp [standard, allPass_preamble_iff, allPass_core_iff, and_assoc]
  | numbered first last =>
    by_cases h : p.ctes = []
    · simp [allPass_numberedCore_iff, h]
    · simp [allPass_preamble_iff, allPass_numberedCore_iff, h]

end SelectParts

/-! ### Other scopes -/

section

variable (style : SelectStyle) {scope scope' : Option Scope}

/-- The parts of a query pass together in two scopes if those that depend on the scope do. -/
theorem Query.passes_parts_congr {q : Query}
    (hctes : (∀ part ∈ Cte.tokensEach style scope q.ctes, AllPass part)
      ↔ ∀ part ∈ Cte.tokensEach style scope' q.ctes, AllPass part)
    (hpartners : AllPass (Partner.tokensEach style scope q.partners)
      ↔ AllPass (Partner.tokensEach style scope' q.partners))
    (horder : ∀ around, (∀ part ∈ OrderItem.tokensEach style scope around q.order, AllPass part)
      ↔ ∀ part ∈ OrderItem.tokensEach style scope' around q.order, AllPass part) :
  (q.parts style scope).Passes ↔ (q.parts style scope').Passes
  := by
  have haround : ∀ around,
      AllPass ((q.parts style scope).order around)
        ↔ AllPass ((q.parts style scope').order around) := by
    intro around
    obtain ⟨recursive, ctes, hint, columns, sources, joins, filter, groups, having, order⟩ := q
    cases around
    · rfl
    · simp only [parts, Token.allPass_separated, if_true, horder]
  rw [SelectParts.passes_iff, SelectParts.passes_iff]
  obtain ⟨recursive, ctes, hint, columns, sources, joins, filter, groups, having, order⟩ := q
  apply and_congr
  · simp only [parts, Token.allPass_clause, Token.allPass_separated, hctes]
  · apply and_congr
    · simp only [haround]
      rfl
    · simp only [parts, Token.allPass_append, hpartners]

mutual

/-- The tokens of a query pass in one scope of names that pass if and only if they pass in
another. -/
theorem Query.allPass_congr (hscope : Scope.NamesPass scope)
    (hscope' : Scope.NamesPass scope') :
    ∀ q : Query,
  AllPass ((q.parts style scope).tokens style.aliasSeparator)
    ↔ AllPass ((q.parts style scope').tokens style.aliasSeparator)
  | ⟨_, ctes, _, _, _, _, _, _, _, order, _, _, partners, _⟩ => by
    have hctes := Cte.allPass_congr hscope hscope' ctes
    have hpartners := Partner.allPass_congr hscope hscope' partners
    have horder := fun around => OrderItem.allPass_congr hscope hscope' around order
    rw [SelectParts.allPass_tokens_iff, SelectParts.allPass_tokens_iff]
    apply Query.passes_parts_congr style hctes hpartners horder

theorem Cte.allPass_congr (hscope : Scope.NamesPass scope)
    (hscope' : Scope.NamesPass scope') :
    ∀ ctes : List Cte,
  (∀ part ∈ Cte.tokensEach style scope ctes, AllPass part)
    ↔ ∀ part ∈ Cte.tokensEach style scope' ctes, AllPass part
  | [] => by simp [Cte.tokensEach]
  | ⟨name, columns, q⟩ :: rest => by
    have hq := Query.allPass_congr hscope hscope' q
    have hrest := Cte.allPass_congr hscope hscope' rest
    simp only [Cte.tokensEach, List.forall_mem_cons, Token.allPass_append,
      Token.allPass_parenthesized, hq, hrest]

theorem Partner.allPass_congr (hscope : Scope.NamesPass scope)
    (hscope' : Scope.NamesPass scope') :
    ∀ partners : List Partner,
  AllPass (Partner.tokensEach style scope partners)
    ↔ AllPass (Partner.tokensEach style scope' partners)
  | [] => by simp [Partner.tokensEach]
  | ⟨kind, q⟩ :: rest => by
    have hq := Query.allPass_congr hscope hscope' q
    have hrest := Partner.allPass_congr hscope hscope' rest
    simp only [Partner.tokensEach, Token.allPass_append, Token.allPass_parenthesizedIf, hq, hrest]

theorem Column.allPass_congr (hscope : Scope.NamesPass scope)
    (hscope' : Scope.NamesPass scope') :
    ∀ c : Column,
  AllPass (c.tokens style scope) ↔ AllPass (c.tokens style scope')
  | ⟨expr, _⟩ => Expr.allPass_congr hscope hscope' expr

theorem Column.allPassEach_congr (hscope : Scope.NamesPass scope)
    (hscope' : Scope.NamesPass scope') :
    ∀ columns : List Column,
  (∀ part ∈ Column.tokensEach style scope columns, AllPass part)
    ↔ ∀ part ∈ Column.tokensEach style scope' columns, AllPass part
  | [] => by simp [Column.tokensEach]
  | c :: rest => by
    have hc := Column.allPass_congr hscope hscope' c
    have hrest := Column.allPassEach_congr hscope hscope' rest
    simp only [Column.tokensEach, List.forall_mem_cons, hc, hrest]

theorem Expr.allPass_congr (hscope : Scope.NamesPass scope)
    (hscope' : Scope.NamesPass scope') :
    ∀ e : Expr,
  AllPass (e.tokens style scope) ↔ AllPass (e.tokens style scope')
  | .named table name => by
    rw [Expr.tokens, Expr.tokens, allPass_namedTokens_iff hscope, allPass_namedTokens_iff hscope']
  | .call function args => by
    have hargs := Column.allPassEach_congr hscope hscope' args
    simp only [Expr.tokens, Token.allPass_cons, Token.allPass_parenthesized,
      Token.allPass_separated, hargs]
  | .distinct columns => by
    have hcolumns := Column.allPassEach_congr hscope hscope' columns
    simp only [Expr.tokens, Token.allPass_cons, Token.allPass_separated, hcolumns]
  | .raw sql params => Iff.rfl
  | .param v => Iff.rfl
  | .arithmetic left op right => by
    have hleft := Column.allPass_congr hscope hscope' left
    have hright := Column.allPass_congr hscope hscope' right
    simp only [Expr.tokens, Token.allPass_append, Token.allPass_parenthesizedIf, hleft, hright]
  | .subquery q => by
    have hq := Query.allPass_congr hscope hscope' q
    simp only [Expr.tokens, Token.allPass_parenthesized, hq]

theorem OrderItem.allPass_congr (hscope : Scope.NamesPass scope)
    (hscope' : Scope.NamesPass scope') (around : Bool) :
    ∀ order : List OrderItem,
  (∀ part ∈ OrderItem.tokensEach style scope around order, AllPass part)
    ↔ ∀ part ∈ OrderItem.tokensEach style scope' around order, AllPass part
  | [] => by simp [OrderItem.tokensEach]
  | .column c direction nulls :: rest => by
    have hc := Column.allPass_congr hscope hscope' c
    have hrest := OrderItem.allPass_congr hscope hscope' around rest
    simp only [OrderItem.tokensEach, OrderItem.tokens, List.forall_mem_cons, Token.allPass_append,
      hrest]
    split
    · rfl
    · rw [hc]
  | .raw text :: rest => by
    have hrest := OrderItem.allPass_congr hscope hscope' around rest
    simp only [OrderItem.tokensEach, OrderItem.tokens, List.forall_mem_cons, hrest]

end

theorem Table.allPass_congr (hscope : Scope.NamesPass scope) (hscope' : Scope.NamesPass scope')
    (t : Table) :
  AllPass (t.tokens style scope) ↔ AllPass (t.tokens style scope')
  := by
  obtain ⟨source, aliasName⟩ := t
  cases source with
  | named schema name => rfl
  | derived q =>
    have hq := Query.allPass_congr style hscope hscope' q
    simp only [Table.tokens, Source.tokens, Token.allPass_append, Token.allPass_parenthesized, hq]

theorem Table.allPassEach_congr (hscope : Scope.NamesPass scope)
    (hscope' : Scope.NamesPass scope') (tables : List Table) :
  (∀ part ∈ Table.tokensEach style scope tables, AllPass part)
    ↔ ∀ part ∈ Table.tokensEach style scope' tables, AllPass part
  := by
  induction tables with
  | nil => simp [Table.tokensEach]
  | cons t rest ih =>
    have ht := t.allPass_congr style hscope hscope'
    simp only [Table.tokensEach, List.forall_mem_cons, ht, ih]

theorem Operand.allPass_congr (hscope : Scope.NamesPass scope)
    (hscope' : Scope.NamesPass scope') (operand : Operand) :
  AllPass (operand.tokens style scope) ↔ AllPass (operand.tokens style scope')
  := by
  cases operand with
  | column c =>
    have hc := Column.allPass_congr style hscope hscope' c
    simp only [Operand.tokens, Token.allPass_cons, hc]
  | query q =>
    have hq := Query.allPass_congr style hscope hscope' q
    simp only [Operand.tokens, Token.allPass_cons, Token.allPass_parenthesized, hq]
  | absent | value v | list vs | range first last => rfl

/-- The tokens of a condition pass in one scope of names that pass if and only if they pass in
another. -/
theorem Condition.allPass_congr (hscope : Scope.NamesPass scope)
    (hscope' : Scope.NamesPass scope') :
    ∀ c : Condition,
  AllPass (c.tokens style scope) ↔ AllPass (c.tokens style scope')
  | .empty | .raw .. => Iff.rfl
  | .predicate column op operand => by
    have hcolumn := Column.allPass_congr style hscope hscope' column
    have hoperand := Operand.allPass_congr style hscope hscope' operand
    simp only [Condition.tokens, Token.allPass_append, hcolumn, hoperand]
  | .existence negated q => by
    have hq := Query.allPass_congr style hscope hscope' q
    simp only [Condition.tokens, Token.allPass_cons, Token.allPass_parenthesized, hq]
  | .not c => by
    have hc := Condition.allPass_congr hscope hscope' c
    simp only [Condition.tokens]
    split
    · rfl
    · simp only [Token.allPass_cons, Token.allPass_parenthesized, hc]
  | .group c => by
    have hc := Condition.allPass_congr hscope hscope' c
    simp only [Condition.tokens]
    split
    · rfl
    · simp only [Token.allPass_parenthesized, hc]
  | .connect left op right => by
    have hleft := Condition.allPass_congr hscope hscope' left
    have hright := Condition.allPass_congr hscope hscope' right
    simp only [Condition.tokens]
    split
    · exact hright
    · split
      · exact hleft
      · simp only [Token.allPass_append, Token.allPass_parenthesizedIf, hleft, hright]

/-! ### The scope of a query -/

/-- A table that passes has names that pass. -/
theorem Table.verify_names {t : Table} (h : AllPass (t.tokens style scope)) :
  ∀ n ∈ t.visible.names, (Guard.identifier n).verify = .ok ()
  := by
  obtain ⟨source, aliasName⟩ := t
  rw [Table.tokens, Token.allPass_append] at h
  intro n hn
  obtain hname | halias := List.mem_append.mp hn
  · cases source with
    | named schema name =>
      obtain rfl : n = name := by simpa [visible, name?] using hname
      apply h.1 _ List.mem_cons_self
      simp [Token.guards]
    | derived q => simp [visible, name?] at hname
  · obtain rfl : aliasName = some n := by simpa [visible] using halias
    apply Token.passes_name.mp
    apply h.2
    simp [tableAliasTokens]

theorem Table.allPassEach_iff (tables : List Table) :
  (∀ part ∈ Table.tokensEach style scope tables, AllPass part)
    ↔ ∀ t ∈ tables, AllPass (t.tokens style scope)
  := by
  induction tables with
  | nil => simp [Table.tokensEach]
  | cons t rest ih => simp [Table.tokensEach, ih]

theorem Join.allPass_table {j : Join} (h : AllPass (j.tokens style scope)) :
  AllPass (j.table.tokens style scope)
  := by
  obtain ⟨kind, table, on, included⟩ := j
  cases on with
  | none =>
    simp only [tokens, Token.allPass_append] at h
    exact h.1.2
  | some c =>
    simp only [tokens, Token.allPass_append] at h
    exact h.1.2

theorem Join.allPass_includedTokens_iff (joins : List Join) :
  AllPass (Join.includedTokens style scope joins)
    ↔ ∀ j ∈ joins, j.included = true → AllPass (j.tokens style scope)
  := by
  induction joins with
  | nil => simp [Join.includedTokens]
  | cons j rest ih =>
    rw [Join.includedTokens, Token.allPass_append, ih, List.forall_mem_cons]
    apply and_congr_left'
    cases j.included <;> simp

/-- Tables that pass make a scope of names that pass. -/
theorem Scope.namesPass_of {sources : List Table} {joins : List Join}
    (hsources : ∀ part ∈ Table.tokensEach style scope sources, AllPass part)
    (hjoins : AllPass (Join.includedTokens style scope joins)) :
  NamesPass (some (Scope.of sources joins))
  := by
  intro n hn
  simp only [Scope.names, Scope.of, Option.getD_some, List.mem_flatMap, List.mem_map,
    List.mem_append, List.mem_filter] at hn
  obtain ⟨_, ⟨t, ht | ⟨j, ⟨hj, hincluded⟩, rfl⟩, rfl⟩, hn⟩ := hn
  · have ht := (Table.allPassEach_iff style sources).mp hsources t ht
    apply Table.verify_names style ht n hn
  · have hj := (Join.allPass_includedTokens_iff style joins).mp hjoins j hj hincluded
    apply Table.verify_names style (Join.allPass_table style hj) n hn

end

end SqlRender
