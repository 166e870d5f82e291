import SqlRender.Proofs.HoldsByPart
import SqlRender.Proofs.References
import SqlRender.Proofs.Visibility

/-!
# Qualifiers in a text

In the tokens of a statement a column stands alone or behind a qualifier and a dot.
`Token.columns` reads the columns off the tokens, and `Query.places` collects the columns of a
query, each with the tables of all queries around it.  Every qualifier in the tokens of a query
is what `Scope.qualifier?` writes for one of these columns in the innermost query around it,
however deep the column stands and wherever a paging puts it: `Query.spells_parts`.
-/

namespace SqlRender

/-! ### Columns in tokens -/

namespace Token

/-- The names in tokens, each with the qualifier before it. -/
def columns : List Token → List Reference
  | .name m :: .text "." :: .name n :: rest => ⟨[], some m, n, false⟩ :: columns rest
  | .name n :: rest => ⟨[], none, n, false⟩ :: columns rest
  | _ :: rest => columns rest
  | [] => []

/-- Tokens in which a dot follows a name only behind a qualifier that may stand before the next
name. -/
inductive Spells (P : String → String → Prop) : List Token → Prop where
  | nil : Spells P []
  | column {m n : String} {ts : List Token} (h : P m n) (hts : Spells P ts) :
      Spells P (.name m :: .text "." :: .name n :: ts)
  | cons {t : Token} {ts : List Token} (h : t ≠ .text ".") (hts : Spells P ts) :
      Spells P (t :: ts)
  /-- Behind what is not a name any text may stand. -/
  | behind {t : Token} {s : String} {ts : List Token} (h : t ≠ .text ".")
      (hname : ∀ n, t ≠ .name n) (hts : Spells P ts) :
      Spells P (t :: .text s :: ts)

namespace Spells

variable {P : String → String → Prop} {t : Token} {ts us : List Token}

/-- A dot does not come first. -/
theorem head_ne (h : Spells P (t :: ts)) :
  t ≠ .text "."
  := by
  cases h with
  | column => nofun
  | cons h => exact h
  | behind h => exact h

theorem columns_cons (h : Spells P (t :: ts)) (hts : Spells P ts) :
  ∀ r ∈ columns (t :: ts), r ∈ columns ts ∨ r.table = none
  := by
  intro r hr
  unfold columns at hr
  split at hr
  · next heq =>
    -- the name would be followed by a dot
    obtain ⟨-, rfl⟩ := List.cons.inj heq
    exact absurd rfl hts.head_ne
  · next n rest _ heq =>
    obtain ⟨rfl, rfl⟩ := List.cons.inj heq
    obtain rfl | hr := List.mem_cons.mp hr
    · exact .inr rfl
    · exact .inl hr
  · next heq =>
    obtain ⟨rfl, rfl⟩ := List.cons.inj heq
    exact .inl hr
  · next heq => cases heq

/-- The qualifiers in such tokens stand where they may. -/
theorem of_mem_columns (h : Spells P ts) :
  ∀ r ∈ columns ts, ∀ m ∈ r.table, P m r.name
  := by
  induction h with
  | nil => nofun
  | column h hts ih =>
    intro r hr m hm
    rw [columns] at hr
    obtain rfl | hr := List.mem_cons.mp hr
    · obtain rfl := Option.some.inj hm
      exact h
    · exact ih r hr m hm
  | @cons t ts h hts ih =>
    intro r hr m hm
    obtain hr | hnone := columns_cons (.cons h hts) hts r hr
    · exact ih r hr m hm
    · rw [hnone] at hm
      cases hm
  | @behind t s ts h hname hts ih =>
    intro r hr m hm
    apply ih r _ m hm
    cases t with
    | name n => exact absurd rfl (hname n)
    | _ => simpa only [columns] using hr

/-! ### Putting tokens together -/

theorem append (hts : Spells P ts) (hus : Spells P us) :
  Spells P (ts ++ us)
  := by
  induction hts with
  | nil => exact hus
  | column h _ ih => exact .column h ih
  | cons h _ ih => exact .cons h ih
  | behind h hname _ ih => exact .behind h hname ih

theorem word {s : String} (h : s ≠ ".") (hts : Spells P ts) :
  Spells P (.text s :: ts)
  := by
  apply cons _ hts
  intro hs
  exact h (Token.text.inj hs)

/-- A word between blanks. -/
theorem spaced {s : String} (h : s ≠ ".") :
  Spells P [.text " ", .text s, .text " "]
  := word (by decide) (word h (word (by decide) .nil))

theorem between {s t : String} (h : s ≠ ".") (hts : Spells P ts) :
  Spells P (.text s :: .text t :: ts)
  := by
  apply behind _ (by simp) hts
  intro hs
  exact h (Token.text.inj hs)

theorem flatMap {α : Type} {items : List α} {f : α → List Token}
    (h : ∀ x ∈ items, Spells P (f x)) :
  Spells P (items.flatMap f)
  := by
  induction items with
  | nil => exact .nil
  | cons x items ih =>
    rw [List.forall_mem_cons] at h
    exact append h.1 (ih h.2)

theorem separated {separator : String} (hs : separator ≠ ".") {parts : List (List Token)}
    (h : ∀ part ∈ parts, Spells P part) :
  Spells P (Token.separated separator parts)
  := by
  fun_induction Token.separated separator parts with
  | case1 => exact .nil
  | case2 part => exact h part List.mem_cons_self
  | case3 part rest hrest ih =>
    rw [List.forall_mem_cons] at h
    exact append h.1 (word hs (ih h.2))

theorem parenthesized (hts : Spells P ts) :
  Spells P (Token.parenthesized ts)
  := word (by decide) (append hts (word (by decide) .nil))

theorem parenthesizedIf {needed : Bool} (hts : Spells P ts) :
  Spells P (SqlRender.parenthesizedIf needed ts)
  := by
  cases needed
  · exact hts
  · exact parenthesized hts

theorem clause {isEmpty : Bool} {s : String} (hs : s ≠ ".") (hts : Spells P ts) :
  Spells P (if isEmpty then [] else .text s :: ts)
  := by
  split
  · exact .nil
  · exact word hs hts

end Spells

end Token

/-! ### The arrangement of the parts -/

/-- A text that starts with a word is not a dot. -/
theorem Text.append_ne_dot {s : String} (h : 1 < s.toList.length) (t : String) :
  s ++ t ≠ "."
  := by
  intro heq
  have hlength := congrArg (fun s => s.toList.length) heq
  have hdot : ".".toList.length = 1 := rfl
  simp only [String.toList_append, List.length_append, hdot] at hlength
  omega

/-- A paging writes more than a dot. -/
theorem PagingStrategy.ne_dot_of_mem_texts (s : PagingStrategy) (rows offset : Option UInt64) :
  ∀ text ∈ (s.layoutOf rows offset).texts, text ≠ "."
  := by
  cases rows with
  | none => simp [layoutOf, Window.of?, PageLayout.texts]
  | some rows =>
    cases s <;> cases offset <;>
      simp [layoutOf, Window.of?, layout, tail, head, fetchText, PageLayout.texts,
        String.append_assoc] <;>
      exact Text.append_ne_dot (by decide) _

namespace SelectParts

/-- The parts of a select in whose tokens a qualifier stands only where it may. -/
structure Spells (P : String → String → Prop) (p : SelectParts) : Prop where
  layout : ∀ text ∈ p.layout.texts, text ≠ "."
  ctes : Token.Spells P p.ctes
  clash : Token.Spells P p.clash
  hint : Token.Spells P p.hint
  exprs : ∃ f, p.exprs = p.columns.map f ∧ ∀ c ∈ p.columns, c.expr.Holds (Token.Spells P) (f c)
  clauses : Token.Spells P p.clauses
  order : ∀ around, Token.Spells P (p.order around)
  after : Token.Spells P p.after

variable {P : String → String → Prop} {p : SelectParts}

theorem spells_list (hp : p.Spells P) {head : Option SelectHead}
    (hhead : ∀ h ∈ head, h.text ≠ ".") :
  Token.Spells P (p.list head)
  := by
  obtain ⟨f, hf, hexprs⟩ := hp.exprs
  have hzip : ∀ columns, List.zipWith Column.itemTokens columns (columns.map f)
      = columns.map fun c => c.itemTokens (f c) := by
    intro columns
    rw [List.zipWith_map_right, List.zipWith_self]
  have hitems : ∀ item ∈ p.columns.map fun c => c.itemTokens (f c), Token.Spells P item := by
    rw [List.forall_mem_map]
    intro c hc
    apply (hexprs c hc).whole.append
    unfold Column.aliasTokens
    split
    · exact .word (by decide) (.cons nofun .nil)
    · exact .nil
  have hplain : Token.Spells P (if p.columns.isEmpty then [.text "*"]
      else Token.separated ", " (p.columns.map fun c => c.itemTokens (f c))) := by
    split
    · exact .word (by decide) .nil
    · exact .separated (by decide) hitems
  cases head with
  | none => simpa [list, hf, hzip] using hplain
  | some h =>
    have hbehind := hplain.word (s := " ") (by decide) |>.word (hhead h rfl)
    cases hcolumns : p.columns with
    | nil => simpa [list, hf, hcolumns] using hbehind
    | cons c columns =>
      rw [hcolumns] at hexprs hitems
      by_cases hd : h.afterDistinct && c.isDistinct
      · -- the head stands between the word DISTINCT and the columns behind it
        obtain ⟨inner, hinner⟩ := Column.isDistinct_iff.mp (Bool.and_eq_true_iff.mp hd).2
        obtain ⟨htake, hdrop⟩ := (hexprs c List.mem_cons_self).split inner hinner
        have hwords : Token.Spells P [.text h.text, .text " "] :=
          .word (hhead h rfl) (.word (by decide) .nil)
        have hfirst := (htake.append hwords).append hdrop
        have hrest := (List.forall_mem_cons.mp hitems).2
        have hlist : Token.Spells P (Token.separated ", " (_ :: _)) :=
          .separated (by decide) (List.forall_mem_cons.mpr ⟨hfirst, hrest⟩)
        simpa [list, hcolumns, hf, hzip, hd] using hlist
      · simpa [list, hcolumns, hf, hzip, hd] using hbehind

theorem spells_body (hp : p.Spells P) {first : List Token} (hfirst : Token.Spells P first)
    {head : Option SelectHead} (hhead : ∀ h ∈ head, h.text ≠ ".") :
  Token.Spells P (p.body first head)
  := ((hp.hint.word (by decide)).append hfirst |>.append (spells_list hp hhead)).append hp.clauses

theorem spells_rowNumber (hp : p.Spells P) (around : Bool) :
  Token.Spells P (p.rowNumber around)
  := by
  apply Token.Spells.append
  · apply Token.Spells.word (by decide)
    split
    · exact (hp.order around).word (by decide)
    · exact .word (by decide) .nil
  · exact .word (by decide) (.word (by decide) .nil)

theorem spells_core (hp : p.Spells P) {head : Option SelectHead}
    (hhead : ∀ h ∈ head, h.text ≠ ".") :
  Token.Spells P (p.core head)
  := by
  apply (hp.clash.append (spells_body hp .nil hhead)).append
  split
  · exact .word (by decide) ((hp.order false).word (by decide))
  · exact .nil

theorem spells_numberedCore (hp : p.Spells P) (aliasSeparator : String) :
  Token.Spells P (p.numberedCore aliasSeparator none)
  := by
  apply hp.clash.append
  split
  · apply Token.Spells.append
    · apply Token.Spells.append _ (spells_body hp .nil (by simp))
      apply ((spells_rowNumber hp true).word (by decide)).append
      exact .word (by decide) .nil
    · -- the parenthesis before the separator is not a name
      exact .between (by decide) (.word (by decide) .nil)
  · apply spells_body hp _ (by simp)
    exact (spells_rowNumber hp false).append (.word (by decide) .nil)

theorem spells_preamble (hp : p.Spells P) {separator : String} (hs : separator ≠ ".") :
  Token.Spells P (p.preamble separator)
  := by
  unfold preamble
  split
  · exact .nil
  · exact hp.ctes.append (.word hs .nil)

/-- If the qualifiers in the parts of a select stand where they may, so do those of the
select. -/
theorem spells_tokens (hp : p.Spells P) (aliasSeparator : String) :
  Token.Spells P (p.tokens aliasSeparator)
  := by
  have hlayout := hp.layout
  apply Token.Spells.append _ hp.after
  unfold paged
  cases hcase : p.layout with
  | inline head tail =>
    simp only [hcase, PageLayout.texts, List.mem_append, Option.mem_toList] at hlayout
    apply Token.Spells.append
    · apply (spells_preamble hp (by decide)).append (spells_core hp _)
      intro h hh
      apply hlayout h.text (.inl (by simp_all))
    · cases tail with
      | none => exact .nil
      | some t => exact .word (by decide) (.word (hlayout t (.inr rfl)) .nil)
  | wrapped before behind =>
    simp only [hcase, PageLayout.texts, List.forall_mem_cons] at hlayout
    apply Token.Spells.append _ (.word hlayout.2.1 .nil)
    apply ((spells_preamble hp _).append (spells_core hp (by simp))).word hlayout.1
    decide
  | numbered first last =>
    apply Token.Spells.append
    · apply Token.Spells.append
      · split
        · exact .word (by decide) .nil
        · exact spells_preamble hp (by decide)
      · exact (spells_numberedCore hp aliasSeparator).word (by decide)
    · -- the names around the select follow a word
      apply Token.Spells.between (by decide)
      apply Token.Spells.word _ .nil
      simp only [String.append_assoc]
      exact Text.append_ne_dot (by decide) _

end SelectParts

/-! ### Columns of a query -/

/-- A column of a query, with the tables of the queries around it, the innermost first. -/
structure ColumnPlace where
  scopes : List Scope
  table : Option String
  name : String

namespace ColumnPlace

/-- What is written before the name of the column. -/
def qualifier? (p : ColumnPlace) : Option String :=
  p.table.bind (Scope.qualifier? p.scopes.head?)

/-- What is written before the name may stand there. -/
def IsAllowed (P : String → String → Prop) (p : ColumnPlace) : Prop :=
  ∀ m ∈ p.qualifier?, P m p.name

/-- What is written before the name is the name under which a table of the innermost query is
visible, or the reference as it was given if it means no table of that query. -/
theorem isShownAs_qualifier? {p : ColumnPlace} {m : String} (h : p.qualifier? = some m) :
  (∃ scope ∈ p.scopes.head?, ∃ t ∈ scope, t.isShownAs m = true)
    ∨ p.table = some m ∧ ∀ scope ∈ p.scopes.head?, scope.meant? m = none
  := by
  obtain ⟨scopes, table, name⟩ := p
  obtain ⟨reference, rfl, hm⟩ := Option.bind_eq_some_iff.mp h
  cases scopes with
  | nil =>
    obtain rfl := Option.some.inj hm
    exact .inr ⟨rfl, nofun⟩
  | cons scope outer =>
    simp only [List.head?_cons, Option.mem_some_iff, exists_eq_left', forall_eq']
    rw [List.head?_cons] at hm
    cases hmeant : scope.meant? reference with
    | none =>
      rw [Scope.qualifier?_of_meant_none hmeant] at hm
      obtain rfl := Option.some.inj hm
      exact .inr ⟨rfl, hmeant⟩
    | some t =>
      obtain ⟨hreference, -⟩ := List.find?_eq_some_iff_getElem.mp hmeant
      obtain ⟨shown, hshown⟩ := Scope.exists_shown_of_isMeantBy hreference
      rw [Scope.qualifier?_of_meant hmeant hshown] at hm
      split at hm
      · cases hm
      · obtain rfl := Option.some.inj hm
        left
        use t, List.mem_of_find?_eq_some hmeant
        apply Visible.isShownAs_iff.mpr
        use shown, hshown
        apply Text.sameIgnoringCase_refl

end ColumnPlace

mutual

/-- The columns of a query inside of queries with these tables.  An ordering may be written
around its query. -/
def Query.places (scopes : List Scope) : Query → List ColumnPlace
  | ⟨_, ctes, _, columns, sources, joins, filter, groups, having, order, _, _, partners, _⟩ =>
    let own := Scope.of sources joins :: scopes
    Cte.placesEach scopes ctes ++ Column.placesEach own columns ++ Table.placesEach own sources
      ++ Join.placesEach own joins ++ Condition.places own filter ++ Column.placesEach own groups
      ++ Condition.places own having ++ OrderItem.placesEach own order
      ++ OrderItem.placesEach scopes order ++ Partner.placesEach scopes partners

/-- The columns of common table expressions. -/
def Cte.placesEach (scopes : List Scope) : List Cte → List ColumnPlace
  | [] => []
  | ⟨_, _, q⟩ :: rest => Query.places scopes q ++ Cte.placesEach scopes rest

/-- The columns of the partners of a union. -/
def Partner.placesEach (scopes : List Scope) : List Partner → List ColumnPlace
  | [] => []
  | ⟨_, q⟩ :: rest => Query.places scopes q ++ Partner.placesEach scopes rest

/-- The columns of a column. -/
def Column.places (scopes : List Scope) : Column → List ColumnPlace
  | ⟨expr, _⟩ => Expr.places scopes expr

/-- The columns of the columns of a list. -/
def Column.placesEach (scopes : List Scope) : List Column → List ColumnPlace
  | [] => []
  | c :: rest => Column.places scopes c ++ Column.placesEach scopes rest

/-- The columns of an expression. -/
def Expr.places (scopes : List Scope) : Expr → List ColumnPlace
  | .named table name => [⟨scopes, table, name⟩]
  | .call _ args => Column.placesEach scopes args
  | .distinct columns => Column.placesEach scopes columns
  | .raw .. => []
  | .param _ => []
  | .arithmetic left _ right => Column.places scopes left ++ Column.places scopes right
  | .subquery q => Query.places scopes q

/-- The columns of a table. -/
def Table.places (scopes : List Scope) : Table → List ColumnPlace
  | ⟨source, _⟩ => Source.places scopes source

/-- The columns of the tables of a list. -/
def Table.placesEach (scopes : List Scope) : List Table → List ColumnPlace
  | [] => []
  | t :: rest => Table.places scopes t ++ Table.placesEach scopes rest

/-- The columns of what a table is read from. -/
def Source.places (scopes : List Scope) : Source → List ColumnPlace
  | .named .. => []
  | .derived q => Query.places scopes q

/-- The columns of the included joins of a list. -/
def Join.placesEach (scopes : List Scope) : List Join → List ColumnPlace
  | [] => []
  | ⟨_, table, on, included⟩ :: rest =>
    (if included then
      Table.places scopes table ++ match on with | some c => Condition.places scopes c | none => []
     else [])
      ++ Join.placesEach scopes rest

/-- The columns of a condition. -/
def Condition.places (scopes : List Scope) : Condition → List ColumnPlace
  | .empty => []
  | .predicate column _ operand => Column.places scopes column ++ Operand.places scopes operand
  | .raw .. => []
  | .existence _ q => Query.places scopes q
  | .not c => Condition.places scopes c
  | .group c => Condition.places scopes c
  | .connect left _ right => Condition.places scopes left ++ Condition.places scopes right

/-- The columns of the right side of a predicate. -/
def Operand.places (scopes : List Scope) : Operand → List ColumnPlace
  | .column c => Column.places scopes c
  | .query q => Query.places scopes q
  | _ => []

/-- The columns of an ordering. -/
def OrderItem.placesEach (scopes : List Scope) : List OrderItem → List ColumnPlace
  | [] => []
  | .column c _ _ :: rest => Column.places scopes c ++ OrderItem.placesEach scopes rest
  | .raw _ :: rest => OrderItem.placesEach scopes rest

end

/-! ### Columns and their tokens -/

section

variable (style : SelectStyle) {P : String → String → Prop}

open Token (Spells)

/-- A column is written with the qualifier of its place. -/
theorem spells_namedTokens {scopes : List Scope} {table : Option String} {name : String}
    (h : ColumnPlace.IsAllowed P ⟨scopes, table, name⟩) :
  Spells P (namedTokens scopes.head? table name)
  := by
  unfold namedTokens
  split
  · next m hm => exact .column (h m hm) .nil
  · exact .cons (by simp) .nil

theorem spells_cteHead (name : String) (columns : List String) :
  Spells P (cteHead name columns)
  := by
  apply Spells.append
  · apply Spells.cons (by simp)
    split
    · exact .nil
    · apply Spells.parenthesized (.separated (by decide) _)
      rw [List.forall_mem_map]
      exact fun c _ => .cons (by simp) .nil
  · exact .word (by decide) .nil

theorem spells_orderWords (direction : Option Direction) (nulls : Option NullOrder) :
  Spells P (orderWords direction nulls)
  := by
  apply Spells.append
  · cases direction with
    | none => exact .nil
    | some d => exact .word (by decide) (.word (by cases d <;> decide) .nil)
  · cases nulls with
    | none => exact .nil
    | some n => exact .word (by decide) (.word (by cases n <;> decide) .nil)

theorem spells_clashTokens (sources : List Table) (joins : List Join) :
  Spells P (clashTokens sources joins)
  := by
  unfold clashTokens
  split
  · exact .cons (by simp) .nil
  · exact .nil

theorem spells_endings (endings : List String) :
  Spells P (endings.flatMap fun e => [.text " ", .raw e []])
  := .flatMap fun _ _ => .word (by decide) (.cons (by simp) .nil)

/-- The alias of a table follows the name of the table or a parenthesis. -/
theorem spells_aliased (ts : List Token) {t : Token} (hts : Spells P ts) (ht : t ≠ .text ".")
    (hname : ∀ n, t ≠ .name n) (aliasName : Option String) :
  Spells P (ts ++ [t] ++ tableAliasTokens style aliasName)
  := by
  rw [List.append_assoc]
  apply hts.append
  cases aliasName with
  | none => exact .cons ht .nil
  | some a => exact .behind ht hname (.cons (by simp) .nil)

mutual

/-- The qualifiers in the tokens of a query are those of its columns. -/
theorem Query.spells_parts (scopes : List Scope) :
    ∀ q : Query, (∀ p ∈ q.places scopes, p.IsAllowed P) →
  Spells P ((Query.parts style scopes.head? q).tokens style.aliasSeparator)
  | ⟨recursive, ctes, hint, columns, sources, joins, filter, groups, having, order, rows,
      offset, partners, endings⟩, h => by
    simp only [Query.places, List.forall_mem_append] at h
    obtain ⟨⟨⟨⟨⟨⟨⟨⟨⟨hctes, hcolumns⟩, hsources⟩, hjoins⟩, hfilter⟩, hgroups⟩, hhaving⟩, hown⟩,
      haround⟩, hpartners⟩ := h
    let own := Scope.of sources joins :: scopes
    apply SelectParts.spells_tokens
    constructor
    case layout => exact style.paging.ne_dot_of_mem_texts rows offset
    case ctes =>
      apply Spells.clause (by cases recursive <;> decide)
      exact .separated (by decide) (Cte.spells_tokensEach scopes ctes hctes)
    case clash => exact spells_clashTokens sources joins
    case hint =>
      cases hint with
      | none => exact .nil
      | some text => exact .word (by decide) (.cons (by simp) (.word (by decide) .nil))
    case exprs =>
      use Column.tokens style (some (Scope.of sources joins))
      use Column.tokensEach_eq_map _ _ columns
      exact Column.spells_selected own columns hcolumns
    case clauses =>
      apply Spells.append (Spells.append (Spells.append (Spells.append _ _) _) _) _
      · apply Spells.clause (by decide)
        exact .separated (by decide) (Table.spells_tokensEach own sources hsources)
      · exact Join.spells_includedTokens own joins hjoins
      · exact .clause (by decide) (Condition.spells_tokens own filter hfilter)
      · apply Spells.clause (by decide)
        exact .separated (by decide) (Column.spells_tokensEach own groups hgroups)
      · exact .clause (by decide) (Condition.spells_tokens own having hhaving)
    case order =>
      intro around
      apply Spells.separated (by decide)
      cases around with
      | true => exact OrderItem.spells_tokensEach scopes true order haround
      | false => exact OrderItem.spells_tokensEach own false order hown
    case after =>
      exact (spells_endings endings).append (Partner.spells_tokensEach scopes partners hpartners)

theorem Cte.spells_tokensEach (scopes : List Scope) :
    ∀ ctes : List Cte, (∀ p ∈ Cte.placesEach scopes ctes, p.IsAllowed P) →
  ∀ part ∈ Cte.tokensEach style scopes.head? ctes, Spells P part
  | [], _ => by simp [Cte.tokensEach]
  | ⟨name, columns, q⟩ :: rest, h => by
    simp only [Cte.placesEach, List.forall_mem_append] at h
    rw [Cte.tokensEach, List.forall_mem_cons]
    constructor
    · exact (spells_cteHead name columns).append (.parenthesized (Query.spells_parts scopes q h.1))
    · exact Cte.spells_tokensEach scopes rest h.2

theorem Partner.spells_tokensEach (scopes : List Scope) :
    ∀ partners : List Partner, (∀ p ∈ Partner.placesEach scopes partners, p.IsAllowed P) →
  Spells P (Partner.tokensEach style scopes.head? partners)
  | [], _ => .nil
  | ⟨kind, q⟩ :: rest, h => by
    simp only [Partner.placesEach, List.forall_mem_append] at h
    apply Spells.append (Spells.append _ _) (Partner.spells_tokensEach scopes rest h.2)
    · exact .spaced (by cases kind <;> decide)
    · exact .parenthesizedIf (Query.spells_parts scopes q h.1)

theorem Expr.spells_tokens (scopes : List Scope) :
    ∀ e : Expr, (∀ p ∈ e.places scopes, p.IsAllowed P) →
  e.Holds (Spells P) (Expr.tokens style scopes.head? e)
  | .named table name, h => ⟨spells_namedTokens (h _ List.mem_cons_self), nofun⟩
  | .call function args, h => by
    constructor
    · apply Spells.cons (by simp)
      exact .parenthesized (.separated (by decide) (Column.spells_tokensEach scopes args h))
    · nofun
  | .distinct columns, h => by
    have hcolumns :
        Spells P (Token.separated ", " (Column.tokensEach style scopes.head? columns)) :=
      .separated (by decide) (Column.spells_tokensEach scopes columns h)
    constructor
    · exact .word (by decide) hcolumns
    · exact fun _ _ => ⟨.word (by decide) .nil, hcolumns⟩
  | .raw sql params, _ => ⟨.cons (by simp) .nil, nofun⟩
  | .param v, _ => ⟨.cons (by simp) .nil, nofun⟩
  | .arithmetic left op right, h => by
    simp only [Expr.places, List.forall_mem_append] at h
    have hleft := (Column.spells_tokens scopes left h.1).whole
    have hright := (Column.spells_tokens scopes right h.2).whole
    constructor
    · apply Spells.append _ (.parenthesizedIf hright)
      apply Spells.append (.parenthesizedIf hleft)
      exact .spaced (by cases op <;> decide)
    · nofun
  | .subquery q, h => ⟨.parenthesized (Query.spells_parts scopes q h), nofun⟩

theorem Column.spells_tokens (scopes : List Scope) :
    ∀ c : Column, (∀ p ∈ c.places scopes, p.IsAllowed P) →
  c.expr.Holds (Spells P) (Column.tokens style scopes.head? c)
  | ⟨expr, _⟩, h => Expr.spells_tokens scopes expr h

theorem Column.spells_tokensEach (scopes : List Scope) :
    ∀ columns : List Column, (∀ p ∈ Column.placesEach scopes columns, p.IsAllowed P) →
  ∀ part ∈ Column.tokensEach style scopes.head? columns, Spells P part
  | [], _ => by simp [Column.tokensEach]
  | c :: rest, h => by
    simp only [Column.placesEach, List.forall_mem_append] at h
    rw [Column.tokensEach, List.forall_mem_cons]
    exact ⟨(Column.spells_tokens scopes c h.1).whole, Column.spells_tokensEach scopes rest h.2⟩

/-- The columns of a select list, on both sides of a leading DISTINCT. -/
theorem Column.spells_selected (scopes : List Scope) :
    ∀ columns : List Column, (∀ p ∈ Column.placesEach scopes columns, p.IsAllowed P) →
  ∀ c ∈ columns, c.expr.Holds (Spells P) (Column.tokens style scopes.head? c)
  | [], _ => by simp
  | c :: rest, h => by
    simp only [Column.placesEach, List.forall_mem_append] at h
    rw [List.forall_mem_cons]
    exact ⟨Column.spells_tokens scopes c h.1, Column.spells_selected scopes rest h.2⟩

theorem Table.spells_tokens (scopes : List Scope) :
    ∀ t : Table, (∀ p ∈ t.places scopes, p.IsAllowed P) →
  Spells P (Table.tokens style scopes.head? t)
  | ⟨.named schema name, aliasName⟩, _ =>
    spells_aliased style [] .nil (by simp) (by simp) aliasName
  | ⟨.derived q, aliasName⟩, h => by
    have hq := (Query.spells_parts scopes q h).word (s := "(") (by decide)
    exact spells_aliased style _ hq (by simp) (by simp) aliasName

theorem Table.spells_tokensEach (scopes : List Scope) :
    ∀ tables : List Table, (∀ p ∈ Table.placesEach scopes tables, p.IsAllowed P) →
  ∀ part ∈ Table.tokensEach style scopes.head? tables, Spells P part
  | [], _ => by simp [Table.tokensEach]
  | t :: rest, h => by
    simp only [Table.placesEach, List.forall_mem_append] at h
    rw [Table.tokensEach, List.forall_mem_cons]
    exact ⟨Table.spells_tokens scopes t h.1, Table.spells_tokensEach scopes rest h.2⟩

theorem Join.spells_includedTokens (scopes : List Scope) :
    ∀ joins : List Join, (∀ p ∈ Join.placesEach scopes joins, p.IsAllowed P) →
  Spells P (Join.includedTokens style scopes.head? joins)
  | [], _ => .nil
  | ⟨_, _, _, false⟩ :: rest, h => Spells.append .nil (Join.spells_includedTokens scopes rest h)
  | ⟨kind, table, none, true⟩ :: rest, h => by
    simp only [Join.placesEach, if_true, List.append_nil, List.forall_mem_append] at h
    apply Spells.append _ (Join.spells_includedTokens scopes rest h.2)
    apply Spells.word (by decide)
    apply Spells.append (Spells.append _ (Table.spells_tokens scopes table h.1)) .nil
    exact .word (by cases kind <;> decide) (.word (by decide) .nil)
  | ⟨kind, table, some c, true⟩ :: rest, h => by
    simp only [Join.placesEach, if_true, List.forall_mem_append] at h
    apply Spells.append _ (Join.spells_includedTokens scopes rest h.2)
    apply Spells.word (by decide)
    apply Spells.append (Spells.append _ (Table.spells_tokens scopes table h.1.1))
    · exact .clause (by decide) (Condition.spells_tokens scopes c h.1.2)
    · exact .word (by cases kind <;> decide) (.word (by decide) .nil)

theorem Condition.spells_tokens (scopes : List Scope) :
    ∀ c : Condition, (∀ p ∈ c.places scopes, p.IsAllowed P) →
  Spells P (Condition.tokens style scopes.head? c)
  | .empty, _ => .nil
  | .predicate column op operand, h => by
    simp only [Condition.places, List.forall_mem_append] at h
    apply Spells.append _ (Operand.spells_tokens scopes operand h.2)
    apply Spells.append (Column.spells_tokens scopes column h.1).whole
    exact .word (by decide) (.word (by cases op <;> decide) .nil)
  | .raw sql params, _ => .cons (by simp) .nil
  | .existence negated q, h => by
    apply Spells.word (by cases negated <;> decide)
    exact .parenthesized (Query.spells_parts scopes q h)
  | .not c, h => .clause (by decide) (.parenthesized (Condition.spells_tokens scopes c h))
  | .group c, h => by
    rw [Condition.tokens]
    split
    · exact .nil
    · exact .parenthesized (Condition.spells_tokens scopes c h)
  | .connect left op right, h => by
    simp only [Condition.places, List.forall_mem_append] at h
    have hleft := Condition.spells_tokens scopes left h.1
    have hright := Condition.spells_tokens scopes right h.2
    rw [Condition.tokens]
    split
    · exact hright
    · split
      · exact hleft
      · apply Spells.append _ (.parenthesizedIf hright)
        apply Spells.append (.parenthesizedIf hleft)
        exact .spaced (by cases op <;> decide)

theorem Operand.spells_tokens (scopes : List Scope) :
    ∀ operand : Operand, (∀ p ∈ operand.places scopes, p.IsAllowed P) →
  Spells P (Operand.tokens style scopes.head? operand)
  | .absent, _ => .nil
  | .value v, _ => .word (by decide) (.cons (by simp) .nil)
  | .list vs, _ => by
    apply Spells.word (by decide) (.parenthesized (.separated (by decide) _))
    rw [List.forall_mem_map]
    exact fun v _ => .cons (by simp) .nil
  | .range first last, _ =>
    .word (by decide) (.cons (by simp) (.word (by decide) (.cons (by simp) .nil)))
  | .column c, h => .word (by decide) (Column.spells_tokens scopes c h).whole
  | .query q, h => .word (by decide) (.parenthesized (Query.spells_parts scopes q h))

theorem OrderItem.spells_tokensEach (scopes : List Scope) (around : Bool) :
    ∀ order : List OrderItem, (∀ p ∈ OrderItem.placesEach scopes order, p.IsAllowed P) →
  ∀ part ∈ OrderItem.tokensEach style scopes.head? around order, Spells P part
  | [], _ => by simp [OrderItem.tokensEach]
  | .column c direction nulls :: rest, h => by
    simp only [OrderItem.placesEach, List.forall_mem_append] at h
    rw [OrderItem.tokensEach, List.forall_mem_cons]
    constructor
    · apply Spells.append _ (spells_orderWords direction nulls)
      split
      · exact .cons (by simp) .nil
      · exact (Column.spells_tokens scopes c h.1).whole
    · exact OrderItem.spells_tokensEach scopes around rest h.2
  | .raw text :: rest, h => by
    rw [OrderItem.tokensEach, List.forall_mem_cons]
    exact ⟨.cons (by simp) .nil, OrderItem.spells_tokensEach scopes around rest h⟩

end

end

end SqlRender
