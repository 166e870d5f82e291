import SqlRender.Proofs.Supplied

/-!
# Properties of all tokens of a query

A property of lists of tokens that can be established part by part, and that the words of
the language have, is a property of the tokens of a query as soon as the tokens that the
query supplies have it: `Query.holds_tokens`.
-/

namespace SqlRender

/-! ### Words of the language -/

namespace Text

/-- Whether a character occurs in the words and the punctuation of statements, the sign of
a subtraction apart. -/
def isPlainChar (c : Char) : Bool :=
  c.isAlphanum || [' ', '(', ')', ',', '*', '=', '<', '>', '+', '/', '.', '_'].contains c

/-- Whether a text is made of such characters. -/
def isPlain (s : String) : Bool :=
  s.toList.all isPlainChar

/-- The characters of a word are examined one by one. -/
theorem isPlain_ofList {cs : List Char} (h : cs.all isPlainChar = true) :
  isPlain (String.ofList cs) = true
  := by
  rw [isPlain, String.toList_ofList, h]

theorem isPlain_append (s t : String) :
  isPlain (s ++ t) = (isPlain s && isPlain t)
  := by
  simp [isPlain]

end Text

/-- A number is written in digits. -/
theorem isPlain_rowText (n : UInt64) :
  Text.isPlain (rowText n) = true
  := by
  have hdigit : ∀ c ∈ Nat.toDigits 10 n.toNat, Text.isPlainChar c = true := by
    intro c hc
    have hc := Nat.isDigit_of_mem_toDigits (by decide) (by decide) hc
    simp [Text.isPlainChar, Char.isAlphanum, hc]
  have htext : (rowText n).toList = Nat.toDigits 10 n.toNat := Nat.toList_repr
  rw [Text.isPlain, htext, List.all_eq_true]
  apply hdigit

/-- The texts of a layout. -/
def PageLayout.texts : PageLayout → List String
  | .inline head tail => (head.map SelectHead.text).toList ++ tail.toList
  | .wrapped before after => [before, after]
  | .numbered .. => []

/-- A paging writes words and numbers. -/
theorem PagingStrategy.isPlain_of_mem_texts (s : PagingStrategy) (rows offset : Option UInt64) :
  ∀ text ∈ (s.layoutOf rows offset).texts, Text.isPlain text = true
  := by
  cases rows with
  | none => simp [layoutOf, Window.of?, PageLayout.texts]
  | some rows =>
    cases s <;> cases offset <;>
      simp [layoutOf, Window.of?, layout, tail, head, fetchText, PageLayout.texts,
        Text.isPlain_append, isPlain_rowText] <;>
      and_intros <;> exact Text.isPlain_ofList rfl

/-! ### Properties of lists of tokens -/

/-- A property of lists of tokens that can be established part by part and that all words
of the language have. -/
structure HoldsByPart (style : SelectStyle) (L : List Token → Prop) : Prop where
  nil : L []
  append : ∀ {ts us}, L ts → L us → L (ts ++ us)
  word : ∀ s, Text.isPlain s = true → L [.text s]
  separator : L [.text style.aliasSeparator]
  operation : ∀ op : Arithmetic, L [.text " ", .text op.word, .text " "]
  names : ∀ ns : List String, (∀ n ∈ ns, L [.name n]) → L [.text (Text.joinWith ", " ns)]
  refusal : ∀ e, L [.refuse e]

/-- A weaker form of `HoldsByPart`: names that are written as one text have been written before
it, each as a name. -/
structure HoldsAsWritten (style : SelectStyle) (L : List Token → Prop) : Prop where
  nil : L []
  append : ∀ {ts us}, L ts → L us → L (ts ++ us)
  word : ∀ s, Text.isPlain s = true → L [.text s]
  separator : L [.text style.aliasSeparator]
  operation : ∀ op : Arithmetic, L [.text " ", .text op.word, .text " "]
  names : ∀ {ts} (ns : List String), L ts → (∀ n ∈ ns, L [.name n] ∧ .name n ∈ ts) →
    L (ts ++ [.text (Text.joinWith ", " ns)])
  refusal : ∀ e, L [.refuse e]

theorem HoldsByPart.asWritten {style : SelectStyle} {L : List Token → Prop}
    (hL : HoldsByPart style L) :
  HoldsAsWritten style L
  where
    nil := hL.nil
    append := hL.append
    word := hL.word
    separator := hL.separator
    operation := hL.operation
    names := fun ns hts hns => hL.append hts (hL.names ns fun n hn => (hns n hn).1)
    refusal := hL.refusal

namespace HoldsAsWritten

variable {style : SelectStyle} {L : List Token → Prop} (hL : HoldsAsWritten style L)

include hL

theorem cons {t : Token} {ts : List Token} (ht : L [t]) (hts : L ts) :
  L (t :: ts)
  := hL.append ht hts

theorem wordCons {s : String} {ts : List Token} (hs : Text.isPlain s = true) (hts : L ts) :
  L (.text s :: ts)
  := hL.cons (hL.word s hs) hts

theorem flatMap {α : Type} {items : List α} {f : α → List Token}
    (h : ∀ x ∈ items, L (f x)) :
  L (items.flatMap f)
  := by
  induction items with
  | nil => exact hL.nil
  | cons x items ih =>
    simp only [List.mem_cons, forall_eq_or_imp] at h
    apply hL.append h.1 (ih h.2)

theorem separated (separator : String) {parts : List (List Token)}
    (hs : Text.isPlain separator = true) (hparts : ∀ part ∈ parts, L part) :
  L (Token.separated separator parts)
  := by
  fun_induction Token.separated separator parts with
  | case1 => exact hL.nil
  | case2 part => exact hparts part List.mem_cons_self
  | case3 part rest hrest ih =>
    simp only [List.mem_cons, forall_eq_or_imp] at hparts ih
    apply hL.append hparts.1 (hL.wordCons hs (ih hparts.2))

theorem parenthesized {part : List Token} (hpart : L part) :
  L (Token.parenthesized part)
  := by
  apply hL.wordCons rfl
  apply hL.append hpart (hL.word ")" rfl)

theorem parenthesizedIf {needed : Bool} {part : List Token} (hpart : L part) :
  L (parenthesizedIf needed part)
  := by
  cases needed
  · apply hpart
  · apply hL.parenthesized hpart

theorem clause {isEmpty : Bool} {word : String} {body : List Token}
    (hword : Text.isPlain word = true) (hbody : L body) :
  L (if isEmpty then [] else .text word :: body)
  := by
  split
  · apply hL.nil
  · apply hL.wordCons hword hbody

end HoldsAsWritten

/-! ### The arrangement of the parts -/

/-- A property of the tokens of an expression, which holds on both sides of the first token
if the expression is a list of distinct columns. -/
structure Expr.Holds (L : List Token → Prop) (e : Expr) (ts : List Token) : Prop where
  whole : L ts
  split : ∀ columns, e = .distinct columns → L (ts.take 1) ∧ L (ts.drop 1)

theorem Column.isDistinct_iff {c : Column} :
  c.isDistinct = true ↔ ∃ columns, c.expr = .distinct columns
  := by
  obtain ⟨expr, aliasName⟩ := c
  cases expr <;> simp [isDistinct]

namespace SelectParts

/-- What the parts of a select have to satisfy for a property of all its tokens. -/
structure Holds (L : List Token → Prop) (p : SelectParts) : Prop where
  layout : ∀ text ∈ p.layout.texts, Text.isPlain text = true
  ctes : L p.ctes
  clash : L p.clash
  hint : L p.hint
  exprs : ∃ f, p.exprs = p.columns.map f ∧ ∀ c ∈ p.columns, c.expr.Holds L (f c)
  names : ∀ c ∈ p.columns, ∀ n, c.aliasOrName? = some n → L [.name n]
  clauses : L p.clauses
  order : ∀ around, L (p.order around)
  after : L p.after

variable {style : SelectStyle} {L : List Token → Prop} {p : SelectParts}

/-- Every column holds the property with its alias. -/
theorem holds_item (hL : HoldsAsWritten style L) {c : Column} {expr : List Token} (hexpr : L expr)
    (hname : ∀ n, c.aliasOrName? = some n → L [.name n]) :
  L (c.itemTokens expr)
  := by
  obtain ⟨_, aliasName⟩ := c
  cases aliasName with
  | none => simpa [Column.itemTokens, Column.aliasTokens] using hexpr
  | some a =>
    apply hL.append hexpr
    apply hL.wordCons rfl (hname a rfl)

theorem holds_list (hL : HoldsAsWritten style L) (hp : p.Holds L) (head : Option SelectHead)
    (hhead : ∀ h ∈ head, Text.isPlain h.text = true) :
  L (p.list head)
  := by
  obtain ⟨f, hf, hexprs⟩ := hp.exprs
  have hitems : ∀ item ∈ p.columns.map fun c => c.itemTokens (f c), L item := by
    simp only [List.mem_map, forall_exists_index, and_imp, forall_apply_eq_imp_iff₂]
    intro c hc
    apply holds_item hL (hexprs c hc).whole (hp.names c hc)
  have hzip : ∀ columns, List.zipWith Column.itemTokens columns (columns.map f)
      = columns.map fun c => c.itemTokens (f c) := by
    intro columns
    rw [List.zipWith_map_right, List.zipWith_self]
  have hplain : L (if p.columns.isEmpty then [.text "*"]
      else Token.separated ", " (p.columns.map fun c => c.itemTokens (f c))) := by
    split
    · apply hL.word "*" rfl
    · apply hL.separated ", " rfl hitems
  cases head with
  | none => simpa [list, hf, hzip] using hplain
  | some h =>
    have hbehind := hL.wordCons (hhead h rfl) (hL.wordCons (s := " ") rfl hplain)
    cases hcolumns : p.columns with
    | nil => simpa [list, hf, hcolumns] using hbehind
    | cons c columns =>
      rw [hcolumns] at hexprs hitems
      by_cases hd : h.afterDistinct && c.isDistinct
      · -- the head stands between the word DISTINCT and the columns behind it
        obtain ⟨inner, hinner⟩ := Column.isDistinct_iff.mp (Bool.and_eq_true_iff.mp hd).2
        obtain ⟨htake, hdrop⟩ := (hexprs c List.mem_cons_self).split inner hinner
        have hfirst : L ((f c).take 1 ++ [.text h.text, .text " "] ++ (f c).drop 1) :=
          hL.append (hL.append htake (hL.wordCons (hhead h rfl) (hL.word " " rfl))) hdrop
        have hrest := (List.forall_mem_cons.mp hitems).2
        simpa [list, hcolumns, hf, hzip, hd]
          using hL.separated ", " rfl (List.forall_mem_cons.mpr ⟨hfirst, hrest⟩)
      · simpa [list, hcolumns, hf, hzip, hd] using hbehind

theorem holds_body (hL : HoldsAsWritten style L) (hp : p.Holds L) {first : List Token}
    (hfirst : L first) (head : Option SelectHead)
    (hhead : ∀ h ∈ head, Text.isPlain h.text = true) :
  L (p.body first head)
  := by
  apply hL.append _ hp.clauses
  apply hL.append _ (holds_list hL hp head hhead)
  apply hL.append _ hfirst
  apply hL.wordCons rfl hp.hint

theorem holds_rowNumber (hL : HoldsAsWritten style L) (hp : p.Holds L) (around : Bool) :
  L (p.rowNumber around)
  := by
  apply hL.wordCons rfl
  apply hL.append
  · split
    · apply hL.wordCons rfl (hp.order around)
    · apply hL.word _ rfl
  · apply hL.wordCons rfl (hL.word _ rfl)

theorem holds_core (hL : HoldsAsWritten style L) (hp : p.Holds L) (head : Option SelectHead)
    (hhead : ∀ h ∈ head, Text.isPlain h.text = true) :
  L (p.core head)
  := by
  apply hL.append (hL.append hp.clash (holds_body hL hp hL.nil head hhead))
  split
  · apply hL.wordCons rfl (hL.wordCons rfl (hp.order false))
  · apply hL.nil

theorem holds_numberedCore (hL : HoldsAsWritten style L) (hp : p.Holds L) :
  L (p.numberedCore style.aliasSeparator none)
  := by
  have hnone : ∀ h ∈ (none : Option SelectHead), Text.isPlain h.text = true := by simp
  apply hL.append hp.clash
  split
  · apply hL.append (hL.append (hL.append _ (hL.word _ rfl)) _)
    · apply hL.wordCons rfl (hL.cons hL.separator (hL.word _ rfl))
    · apply hL.wordCons rfl (holds_rowNumber hL hp true)
    · apply holds_body hL hp hL.nil none hnone
  · apply holds_body hL hp _ none hnone
    apply hL.append (holds_rowNumber hL hp false) (hL.word _ rfl)

theorem holds_preamble (hL : HoldsAsWritten style L) (hp : p.Holds L) {separator : String}
    (hs : Text.isPlain separator = true) :
  L (p.preamble separator)
  := by
  unfold preamble
  split
  · apply hL.nil
  · apply hL.append hp.ctes (hL.word _ hs)

/-- The names around a select are known, and stand in the select. -/
theorem holds_outerNames (hL : HoldsAsWritten style L) (hp : p.Holds L) {ts : List Token}
    (hts : L ts) (hnames : ∀ c ∈ p.columns, ∀ n, c.aliasOrName? = some n → .name n ∈ ts) :
  L (ts ++ [.text (outerNames p.columns)])
  := by
  simp only [outerNames]
  split
  · apply hL.append hts (hL.word "*" rfl)
  · next hnamed =>
    apply hL.names _ hts
    intro n hn
    simp only [List.map_map, List.mem_map, Function.comp_apply] at hn
    obtain ⟨c, hc, rfl⟩ := hn
    cases hname : c.aliasOrName?.filter (· ≠ "*") with
    | none =>
      have hmem : none ∈ p.columns.map fun c => c.aliasOrName?.filter (· ≠ "*") :=
        List.mem_map.mpr ⟨c, hc, hname⟩
      simp only [Bool.or_eq_true, List.contains_iff_mem, not_or] at hnamed
      exact absurd hmem hnamed.2
    | some n =>
      have hname := (Option.filter_eq_some_iff.mp hname).1
      exact ⟨hp.names c hc n hname, hnames c hc n hname⟩

/-- The select list is among the numbered rows. -/
theorem list_subset_numberedCore (p : SelectParts) (aliasSeparator : String) :
  p.list none ⊆ p.numberedCore aliasSeparator none
  := by
  intro t ht
  unfold numberedCore
  split <;> simp [body, ht]

/-- A property of the parts of a select is one of the select. -/
theorem holds_tokens (hL : HoldsAsWritten style L) (hp : p.Holds L)
    (hlist : ∀ c ∈ p.columns, ∀ n, c.aliasOrName? = some n → .name n ∈ p.list none) :
  L (p.tokens style.aliasSeparator)
  := by
  have hlayout := hp.layout
  have hnone : ∀ h ∈ (none : Option SelectHead), Text.isPlain h.text = true := by simp
  apply hL.append _ hp.after
  unfold paged
  cases hcase : p.layout with
  | inline head tail =>
    simp only [hcase, PageLayout.texts, List.mem_append, Option.mem_toList] at hlayout
    apply hL.append
    · apply hL.append (holds_preamble hL hp rfl) (holds_core hL hp head _)
      intro h hh
      apply hlayout h.text (.inl (by simp_all))
    · cases tail with
      | none => exact hL.nil
      | some t => exact hL.wordCons rfl (hL.word t (hlayout t (.inr rfl)))
  | wrapped before after =>
    simp only [hcase, PageLayout.texts, List.forall_mem_cons] at hlayout
    apply hL.append (hL.wordCons hlayout.1 _) (hL.word after hlayout.2.1)
    apply hL.append (holds_preamble hL hp rfl) (holds_core hL hp none hnone)
  | numbered first last =>
    generalize hbefore : (if p.ctes.isEmpty then [.text "WITH "] else p.preamble ", ")
      ++ .text "temp_datas AS (" :: p.numberedCore style.aliasSeparator none = before
    have hselect : L (before ++ [.text ") SELECT "]) := by
      rw [← hbefore]
      apply hL.append (hL.append _ (hL.wordCons rfl (holds_numberedCore hL hp))) (hL.word _ rfl)
      split
      · apply hL.word "WITH " rfl
      · apply holds_preamble hL hp rfl
    have hnames := holds_outerNames hL hp hselect fun c hc n hn => by
      have hcore := list_subset_numberedCore p style.aliasSeparator (hlist c hc n hn)
      simp [← hbefore, hcore]
    have hwindow : L [.text (" FROM temp_datas WHERE __rn BETWEEN " ++ rowText first ++ " AND "
        ++ rowText last ++ " ORDER BY __rn")] := by
      apply hL.word
      simp +decide [Text.isPlain_append, isPlain_rowText]
    simpa using hL.append hnames hwindow

end SelectParts

/-! ### The parts of a query -/

/-- A column that is known by a name is written with this name. -/
theorem Column.name_mem_itemTokens {style : SelectStyle} {scope : Option Scope} {c : Column}
    {n : String} (h : c.aliasOrName? = some n) :
  .name n ∈ c.itemTokens (c.tokens style scope)
  := by
  obtain ⟨expr, aliasName⟩ := c
  cases aliasName with
  | some a =>
    obtain rfl : a = n := Option.some.inj h
    simp [itemTokens, aliasTokens]
  | none =>
    cases expr <;> simp [aliasOrName?, name?] at h
    subst h
    unfold itemTokens tokens Expr.tokens namedTokens
    split <;> simp

@[simp]
theorem Query.columns_parts (style : SelectStyle) (scope : Option Scope) (q : Query) :
  (q.parts style scope).columns = q.columns
  := by
  obtain ⟨recursive, ctes, hint, columns, sources⟩ := q
  rfl

/-- The select list of a query without a head. -/
theorem Query.list_parts (style : SelectStyle) (scope : Option Scope) {q : Query}
    (hcolumns : q.columns ≠ []) :
  (q.parts style scope).list none
    = Token.separated ", " (q.columns.map fun c => c.itemTokens (c.tokens style q.scope))
  := by
  obtain ⟨recursive, ctes, hint, columns, sources, joins⟩ := q
  have hne : columns.isEmpty = false := by simpa using hcolumns
  simp [SelectParts.list, parts, hne, Column.tokensEach_eq_map, List.zipWith_map_right,
    List.zipWith_self, Query.scope]

/-- The names by which the columns of a query are known stand in its select list. -/
theorem Query.name_mem_list (style : SelectStyle) (scope : Option Scope) (q : Query) :
  ∀ c ∈ (q.parts style scope).columns, ∀ n, c.aliasOrName? = some n →
    .name n ∈ (q.parts style scope).list none
  := by
  intro c hc n hn
  rw [Query.columns_parts] at hc
  rw [Query.list_parts style scope (List.ne_nil_of_mem hc)]
  apply (Token.infix_separated (List.mem_map_of_mem hc)).subset (Column.name_mem_itemTokens hn)

section

variable {style : SelectStyle} {L : List Token → Prop}

theorem holds_ofName? {name : Option String} (h : ∀ t ∈ Token.ofName? name, L [t]) {n : String}
    (hn : name = some n) :
  L [.name n]
  := by
  subst hn
  apply h _ List.mem_cons_self

theorem holds_ofFragments (hL : HoldsAsWritten style L) {fragments : List String}
    (h : ∀ t ∈ fragments.map Token.ofFragment, L [t]) :
  L (fragments.flatMap fun e => [.text " ", .raw e []])
  := by
  apply hL.flatMap
  intro e he
  apply hL.wordCons rfl (h _ (List.mem_map_of_mem he))

theorem holds_namedTokens (hL : HoldsAsWritten style L) {scope : Option Scope}
    (hscope : ∀ n ∈ Scope.names scope, L [.name n]) {table : Option String} {name : String}
    (h : ∀ t ∈ Token.ofName? table ++ [.name name], L [t]) :
  L (namedTokens scope table name)
  := by
  simp only [List.forall_mem_append, List.forall_mem_singleton] at h
  unfold namedTokens
  split
  · next q hq =>
    obtain ⟨reference, hreference, hq⟩ := Option.bind_eq_some_iff.mp hq
    apply hL.cons _ (hL.wordCons rfl h.2)
    obtain rfl | hq := Scope.qualifier?_mem hq
    · apply holds_ofName? h.1 hreference
    · apply hscope q hq
  · apply h.2

theorem holds_cteHead (hL : HoldsAsWritten style L) {name : String} {columns : List String}
    (h : ∀ t ∈ Token.name name :: columns.map Token.name, L [t]) :
  L (cteHead name columns)
  := by
  simp only [List.forall_mem_cons, List.forall_mem_map] at h
  apply hL.append (hL.cons h.1 _) (hL.word " AS " rfl)
  split
  · apply hL.nil
  · apply hL.parenthesized
    apply hL.separated ", " rfl
    simpa using h.2

theorem holds_tableAliasTokens (hL : HoldsAsWritten style L) {aliasName : Option String}
    (h : ∀ t ∈ Token.ofName? aliasName, L [t]) :
  L (tableAliasTokens style aliasName)
  := by
  cases aliasName with
  | none => exact hL.nil
  | some a => exact hL.cons hL.separator (holds_ofName? h rfl)

theorem holds_orderWords (hL : HoldsAsWritten style L) (direction : Option Direction)
    (nulls : Option NullOrder) :
  L (orderWords direction nulls)
  := by
  apply hL.append
  · cases direction with
    | none => exact hL.nil
    | some d => exact hL.wordCons rfl (hL.word _ (by cases d <;> rfl))
  · cases nulls with
    | none => exact hL.nil
    | some n => exact hL.wordCons rfl (hL.word _ (by cases n <;> rfl))

theorem holds_clashTokens (hL : HoldsAsWritten style L) (sources : List Table) (joins : List Join) :
  L (clashTokens sources joins)
  := by
  unfold clashTokens
  split
  · apply hL.refusal _
  · apply hL.nil

theorem holds_bindTokens (hL : HoldsAsWritten style L) {vs : List Value}
    (h : ∀ t ∈ vs.map Token.bind, L [t]) :
  L (bindTokens vs)
  := by
  apply hL.separated ", " rfl
  simpa using h

theorem holds_of_joinSupplied {kind : JoinKind} {table : Table} {on : Option Condition}
    {included : Bool} {rest : List Join}
    (h : ∀ t ∈ Join.suppliedEach (⟨kind, table, on, included⟩ :: rest), L [t]) :
  (∀ t ∈ table.supplied, L [t]) ∧ (∀ c, on = some c → ∀ t ∈ c.supplied, L [t])
    ∧ ∀ t ∈ Join.suppliedEach rest, L [t]
  := by
  cases on <;> simp_all [Join.suppliedEach, or_imp, forall_and]

/-- A join, from its table and its condition. -/
theorem holds_joined (hL : HoldsAsWritten style L) (kind : JoinKind) {table on : List Token}
    (htable : L table) (hon : L on) :
  L (.text " " :: ([.text kind.words, .text " "] ++ table ++ on))
  := by
  have hkind : Text.isPlain kind.words = true := by cases kind <;> rfl
  apply hL.wordCons rfl
  apply hL.append _ hon
  apply hL.append _ htable
  apply hL.wordCons hkind (hL.word " " rfl)

/-- The names in the scope of a query have the property if the tables of the query supply
only tokens with the property. -/
theorem holds_scope {sources : List Table} {joins : List Join}
    (hsources : ∀ t ∈ Table.suppliedEach sources, L [t])
    (hjoins : ∀ t ∈ Join.suppliedEach joins, L [t]) :
  ∀ n ∈ Scope.names (some (Scope.of sources joins)), L [.name n]
  := by
  intro n hn
  obtain h | h := List.mem_append.mp (Scope.name_mem_supplied hn)
  · apply hsources _ h
  · apply hjoins _ h

/-- An entry of an ordering, with the table of its column and without. -/
theorem holds_ordered (hL : HoldsAsWritten style L) {scope : Option Scope} {around : Bool}
    {c : Column} {direction : Option Direction} {nulls : Option NullOrder}
    (hsupplied : ∀ t ∈ c.supplied, L [t]) (hc : L (Column.tokens style scope c)) :
  L (OrderItem.tokens style scope around (.column c direction nulls))
  := by
  apply hL.append _ (holds_orderWords hL direction nulls)
  split
  · next name hname => exact hsupplied _ (Column.name?_mem hname)
  · apply hc

mutual

/-- A property of words and of the tokens that a query supplies is one of its tokens. -/
theorem Query.holds_parts (hL : HoldsAsWritten style L) {scope : Option Scope}
    (hscope : ∀ n ∈ Scope.names scope, L [.name n]) :
    ∀ q : Query, (∀ t ∈ q.supplied, L [t]) →
  L ((Query.parts style scope q).tokens style.aliasSeparator)
  | ⟨recursive, ctes, hint, columns, sources, joins, filter, groups, having, order, rows,
      offset, partners, endings⟩, h => by
    obtain ⟨hctes, hhint, hcolumns, hsources, hjoins, hfilter, hgroups, hhaving, horder,
      hpartners, hendings⟩ := Query.supplies_iff.mpr h
    have hown := holds_scope hsources hjoins
    apply SelectParts.holds_tokens hL _ (Query.name_mem_list style scope _)
    constructor
    · apply style.paging.isPlain_of_mem_texts rows offset
    · apply hL.clause (by cases recursive <;> rfl)
      apply hL.separated ", " rfl (Cte.holds_tokensEach hL hscope ctes hctes)
    · apply holds_clashTokens hL sources joins
    · cases hint with
      | none => exact hL.nil
      | some text =>
        have htext := hhint (.ofFragment text) List.mem_cons_self
        apply hL.wordCons rfl (hL.cons htext (hL.word _ rfl))
    · use Column.tokens style (some (Scope.of sources joins))
      use Column.tokensEach_eq_map _ _ columns
      apply Column.holds_selected hL hown columns hcolumns
    · intro c hc n hn
      apply hcolumns _ (Column.aliasOrName?_mem hc hn)
    · apply hL.append (hL.append (hL.append (hL.append _ _) _) _) _
      · apply hL.clause rfl
        apply hL.separated ", " rfl (Table.holds_tokensEach hL hown sources hsources)
      · apply Join.holds_includedTokens hL hown joins hjoins
      · apply hL.clause rfl (Condition.holds_tokens hL hown filter hfilter)
      · apply hL.clause rfl
        apply hL.separated ", " rfl (Column.holds_tokensEach hL hown groups hgroups)
      · apply hL.clause rfl (Condition.holds_tokens hL hown having hhaving)
    · intro around
      apply hL.separated ", " rfl
      cases around with
      | true => exact OrderItem.holds_tokensEach hL hscope true order horder
      | false => exact OrderItem.holds_tokensEach hL hown false order horder
    · apply hL.append (holds_ofFragments hL hendings)
        (Partner.holds_tokensEach hL hscope partners hpartners)

theorem Cte.holds_tokensEach (hL : HoldsAsWritten style L) {scope : Option Scope}
    (hscope : ∀ n ∈ Scope.names scope, L [.name n]) :
    ∀ ctes : List Cte, (∀ t ∈ Cte.suppliedEach ctes, L [t]) →
  ∀ part ∈ Cte.tokensEach style scope ctes, L part
  | [], _ => by simp [Cte.tokensEach]
  | ⟨name, columns, q⟩ :: rest, h => by
    simp only [Cte.suppliedEach, List.forall_mem_append] at h
    rw [Cte.tokensEach, List.forall_mem_cons]
    constructor
    · apply hL.append (holds_cteHead hL h.1.1)
      apply hL.parenthesized (Query.holds_parts hL hscope q h.1.2)
    · apply Cte.holds_tokensEach hL hscope rest h.2

theorem Partner.holds_tokensEach (hL : HoldsAsWritten style L) {scope : Option Scope}
    (hscope : ∀ n ∈ Scope.names scope, L [.name n]) :
    ∀ partners : List Partner, (∀ t ∈ Partner.suppliedEach partners, L [t]) →
  L (Partner.tokensEach style scope partners)
  | [], _ => hL.nil
  | ⟨kind, q⟩ :: rest, h => by
    simp only [Partner.suppliedEach, List.forall_mem_append] at h
    have hkind : Text.isPlain kind.words = true := by cases kind <;> rfl
    apply hL.append (hL.append _ _) (Partner.holds_tokensEach hL hscope rest h.2)
    · apply hL.wordCons rfl (hL.wordCons hkind (hL.word " " rfl))
    · apply hL.parenthesizedIf (Query.holds_parts hL hscope q h.1)

theorem Expr.holds_tokens (hL : HoldsAsWritten style L) {scope : Option Scope}
    (hscope : ∀ n ∈ Scope.names scope, L [.name n]) :
    ∀ e : Expr, (∀ t ∈ e.supplied, L [t]) →
  e.Holds L (Expr.tokens style scope e)
  | .named table name, h => ⟨holds_namedTokens hL hscope h, nofun⟩
  | .call function args, h => by
    simp only [Expr.supplied, List.forall_mem_cons] at h
    have hargs := Column.holds_tokensEach hL hscope args h.2
    constructor
    · apply hL.cons h.1
      apply hL.parenthesized
      apply hL.separated ", " rfl hargs
    · nofun
  | .distinct columns, h => by
    have hcolumns := hL.separated ", " rfl (Column.holds_tokensEach hL hscope columns h)
    constructor
    · apply hL.wordCons rfl hcolumns
    · exact fun _ _ => ⟨hL.word "DISTINCT " rfl, hcolumns⟩
  | .raw sql params, h => ⟨h _ List.mem_cons_self, nofun⟩
  | .param v, h => ⟨h _ List.mem_cons_self, nofun⟩
  | .arithmetic left op right, h => by
    simp only [Expr.supplied, List.forall_mem_append] at h
    have hleft := (Column.holds_tokens hL hscope left h.1).whole
    have hright := (Column.holds_tokens hL hscope right h.2).whole
    constructor
    · apply hL.append _ (hL.parenthesizedIf hright)
      apply hL.append (hL.parenthesizedIf hleft) (hL.operation op)
    · nofun
  | .subquery q, h => ⟨hL.parenthesized (Query.holds_parts hL hscope q h), nofun⟩

theorem Column.holds_tokens (hL : HoldsAsWritten style L) {scope : Option Scope}
    (hscope : ∀ n ∈ Scope.names scope, L [.name n]) :
    ∀ c : Column, (∀ t ∈ c.supplied, L [t]) →
  c.expr.Holds L (Column.tokens style scope c)
  | ⟨expr, _⟩, h => by
    simp only [Column.supplied, List.forall_mem_append] at h
    apply Expr.holds_tokens hL hscope expr h.1

theorem Column.holds_tokensEach (hL : HoldsAsWritten style L) {scope : Option Scope}
    (hscope : ∀ n ∈ Scope.names scope, L [.name n]) :
    ∀ columns : List Column, (∀ t ∈ Column.suppliedEach columns, L [t]) →
  ∀ part ∈ Column.tokensEach style scope columns, L part
  | [], _ => by simp [Column.tokensEach]
  | c :: rest, h => by
    simp only [Column.suppliedEach, List.forall_mem_append] at h
    rw [Column.tokensEach, List.forall_mem_cons]
    constructor
    · apply (Column.holds_tokens hL hscope c h.1).whole
    · apply Column.holds_tokensEach hL hscope rest h.2

/-- The columns of a select list, on both sides of a leading DISTINCT. -/
theorem Column.holds_selected (hL : HoldsAsWritten style L) {scope : Option Scope}
    (hscope : ∀ n ∈ Scope.names scope, L [.name n]) :
    ∀ columns : List Column, (∀ t ∈ Column.suppliedEach columns, L [t]) →
  ∀ c ∈ columns, c.expr.Holds L (Column.tokens style scope c)
  | [], _ => by simp
  | c :: rest, h => by
    simp only [Column.suppliedEach, List.forall_mem_append] at h
    rw [List.forall_mem_cons]
    exact ⟨Column.holds_tokens hL hscope c h.1, Column.holds_selected hL hscope rest h.2⟩

theorem Table.holds_tokens (hL : HoldsAsWritten style L) {scope : Option Scope}
    (hscope : ∀ n ∈ Scope.names scope, L [.name n]) :
    ∀ t : Table, (∀ u ∈ t.supplied, L [u]) →
  L (Table.tokens style scope t)
  | ⟨.named schema name, aliasName⟩, h => by
    simp only [Table.supplied, Source.supplied, List.forall_mem_append, List.forall_mem_cons] at h
    apply hL.append h.1.1 (holds_tableAliasTokens hL h.2)
  | ⟨.derived q, aliasName⟩, h => by
    simp only [Table.supplied, Source.supplied, List.forall_mem_append] at h
    apply hL.append _ (holds_tableAliasTokens hL h.2)
    apply hL.parenthesized (Query.holds_parts hL hscope q h.1)

theorem Table.holds_tokensEach (hL : HoldsAsWritten style L) {scope : Option Scope}
    (hscope : ∀ n ∈ Scope.names scope, L [.name n]) :
    ∀ tables : List Table, (∀ t ∈ Table.suppliedEach tables, L [t]) →
  ∀ part ∈ Table.tokensEach style scope tables, L part
  | [], _ => by simp [Table.tokensEach]
  | t :: rest, h => by
    simp only [Table.suppliedEach, List.forall_mem_append] at h
    rw [Table.tokensEach, List.forall_mem_cons]
    exact ⟨Table.holds_tokens hL hscope t h.1, Table.holds_tokensEach hL hscope rest h.2⟩

theorem Join.holds_includedTokens (hL : HoldsAsWritten style L) {scope : Option Scope}
    (hscope : ∀ n ∈ Scope.names scope, L [.name n]) :
    ∀ joins : List Join, (∀ t ∈ Join.suppliedEach joins, L [t]) →
  L (Join.includedTokens style scope joins)
  | [], _ => hL.nil
  | ⟨_, _, _, false⟩ :: rest, h =>
    hL.append hL.nil (Join.holds_includedTokens hL hscope rest (holds_of_joinSupplied h).2.2)
  | ⟨kind, table, none, true⟩ :: rest, h => by
    obtain ⟨htable, -, hrest⟩ := holds_of_joinSupplied h
    have hjoin := holds_joined hL kind (Table.holds_tokens hL hscope table htable) hL.nil
    apply hL.append hjoin (Join.holds_includedTokens hL hscope rest hrest)
  | ⟨kind, table, some c, true⟩ :: rest, h => by
    obtain ⟨htable, hc, hrest⟩ := holds_of_joinSupplied h
    have hon : L (if c.isEmpty then [] else .text " ON " :: Condition.tokens style scope c) :=
      hL.clause rfl (Condition.holds_tokens hL hscope c (hc c rfl))
    have hjoin := holds_joined hL kind (Table.holds_tokens hL hscope table htable) hon
    apply hL.append hjoin (Join.holds_includedTokens hL hscope rest hrest)

theorem Condition.holds_tokens (hL : HoldsAsWritten style L) {scope : Option Scope}
    (hscope : ∀ n ∈ Scope.names scope, L [.name n]) :
    ∀ c : Condition, (∀ t ∈ c.supplied, L [t]) →
  L (Condition.tokens style scope c)
  | .empty, _ => hL.nil
  | .predicate column op operand, h => by
    simp only [Condition.supplied, List.forall_mem_append] at h
    have hop : Text.isPlain op.words = true := by cases op <;> rfl
    apply hL.append _ (Operand.holds_tokens hL hscope operand h.2)
    apply hL.append (Column.holds_tokens hL hscope column h.1).whole
    apply hL.wordCons rfl (hL.word _ hop)
  | .raw sql params, h => h _ List.mem_cons_self
  | .existence negated q, h => by
    apply hL.wordCons (by cases negated <;> rfl)
    apply hL.parenthesized (Query.holds_parts hL hscope q h)
  | .not c, h => by
    apply hL.clause rfl
    apply hL.parenthesized (Condition.holds_tokens hL hscope c h)
  | .group c, h => by
    rw [Condition.tokens]
    split
    · apply hL.nil
    · apply hL.parenthesized (Condition.holds_tokens hL hscope c h)
  | .connect left op right, h => by
    simp only [Condition.supplied, List.forall_mem_append] at h
    have hop : Text.isPlain op.word = true := by cases op <;> rfl
    have hleft := Condition.holds_tokens hL hscope left h.1
    have hright := Condition.holds_tokens hL hscope right h.2
    rw [Condition.tokens]
    split
    · apply hright
    · split
      · apply hleft
      · apply hL.append _ (hL.parenthesizedIf hright)
        apply hL.append (hL.parenthesizedIf hleft)
        apply hL.wordCons rfl (hL.wordCons hop (hL.word " " rfl))

theorem Operand.holds_tokens (hL : HoldsAsWritten style L) {scope : Option Scope}
    (hscope : ∀ n ∈ Scope.names scope, L [.name n]) :
    ∀ operand : Operand, (∀ t ∈ operand.supplied, L [t]) →
  L (Operand.tokens style scope operand)
  | .absent, _ => hL.nil
  | .value v, h => hL.wordCons rfl (h _ List.mem_cons_self)
  | .list vs, h => hL.wordCons rfl (hL.parenthesized (holds_bindTokens hL h))
  | .range first last, h => by
    simp only [Operand.supplied, List.forall_mem_cons] at h
    apply hL.wordCons rfl (hL.cons h.1 (hL.wordCons rfl h.2.1))
  | .column c, h => hL.wordCons rfl (Column.holds_tokens hL hscope c h).whole
  | .query q, h => hL.wordCons rfl (hL.parenthesized (Query.holds_parts hL hscope q h))

theorem OrderItem.holds_tokensEach (hL : HoldsAsWritten style L) {scope : Option Scope}
    (hscope : ∀ n ∈ Scope.names scope, L [.name n]) (around : Bool) :
    ∀ order : List OrderItem, (∀ t ∈ OrderItem.suppliedEach order, L [t]) →
  ∀ part ∈ OrderItem.tokensEach style scope around order, L part
  | [], _ => by simp [OrderItem.tokensEach]
  | .column c direction nulls :: rest, h => by
    simp only [OrderItem.suppliedEach, List.forall_mem_append] at h
    rw [OrderItem.tokensEach, List.forall_mem_cons]
    constructor
    · apply holds_ordered hL h.1 (Column.holds_tokens hL hscope c h.1).whole
    · apply OrderItem.holds_tokensEach hL hscope around rest h.2
  | .raw text :: rest, h => by
    simp only [OrderItem.suppliedEach, List.forall_mem_cons] at h
    rw [OrderItem.tokensEach, List.forall_mem_cons]
    exact ⟨h.1, OrderItem.holds_tokensEach hL hscope around rest h.2⟩

end

/-- A property of words and of the tokens that a query supplies is one of all its tokens. -/
theorem Query.holds_written (hL : HoldsAsWritten style L) {scope : Option Scope}
    (hscope : ∀ n ∈ Scope.names scope, L [.name n]) {q : Query} (hq : ∀ t ∈ q.supplied, L [t]) :
  L (q.tokens style scope)
  := Query.holds_parts hL hscope q hq

theorem Query.holds_tokens (hL : HoldsByPart style L) {scope : Option Scope}
    (hscope : ∀ n ∈ Scope.names scope, L [.name n]) {q : Query} (hq : ∀ t ∈ q.supplied, L [t]) :
  L (q.tokens style scope)
  := Query.holds_written hL.asWritten hscope hq

end

end SqlRender
