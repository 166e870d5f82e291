import SqlRender.Proofs.Arrangement
import SqlRender.Proofs.BoundValues
import SqlRender.Proofs.ConditionReading
import SqlRender.Proofs.CountablePages

/-!
# Texts of windows

Outside of the numbered layout a window of the rows is asked for by a text in the select, or by
two texts around it, and binds no values.  The remaining text is that of the query without its
window, with one exception: a head behind a leading DISTINCT stands in place of the alias of the
distinct columns.  So the same queries have a statement with their window and without, unless
this alias is no name.  The main statement is `Dialect.windowed_of_statement`.
-/

namespace SqlRender

open Token (AllPass)

/-- The query without its own window; the queries inside of it keep theirs. -/
def Query.unlimited (q : Query) : Query :=
  (q.skip none).limit none

/-- The leading distinct columns and their alias, if the head stands between DISTINCT and the
columns. -/
def SelectHead.distinct? (h : SelectHead) : List Column → Option (List Column × Option String)
  | ⟨.distinct columns, aliasName⟩ :: _ =>
    if h.afterDistinct then some (columns, aliasName) else none
  | _ => none

/-- The text of a select, as far as a window shows in it. -/
structure SelectText where
  /-- The text before the place of a head. -/
  opening : String
  /-- The leading distinct columns, if a head stands between DISTINCT and them. -/
  distinct : String
  /-- The alias of these columns, with the word before it. -/
  leftOut : String
  /-- The texts at the end of the query and the partners of its union. -/
  closing : String

/-- The leading distinct columns of a query and their alias, if the head of the window of the
query stands between DISTINCT and the columns. -/
def Query.headed? (style : SelectStyle) (q : Query) : Option (List Column × Option String) :=
  (q.parts style none).head?.bind (SelectHead.distinct? · q.columns)

/-- The text of a query, as far as the window of the query shows in it. -/
def Query.text (d : Dialect) (scope : Option Scope) (q : Query) : SelectText :=
  let p := q.parts d.style scope
  { opening := Token.written d.quoting (p.preamble " " ++ .text "SELECT " :: p.hint)
      ++ (q.headed? d.style).elim "" fun _ => "DISTINCT "
    distinct := (q.headed? d.style).elim "" fun headed => Token.written d.quoting
      (Token.separated ", " (Column.tokensEach d.style (some q.scope) headed.1))
    leftOut := ((q.headed? d.style).bind Prod.snd).elim "" fun a =>
      " AS " ++ d.quoting.wrapName a
    closing := Token.written d.quoting p.after }

/-- What a layout makes of the text of a select: a head and a space stand behind its opening, a
space and a tail before its closing, and what wraps the select stands around all but the
closing. -/
inductive SelectText.Windowed (s : SelectText) : PageLayout → String → String → Prop where
  | unchanged {whole : String} : Windowed s (.inline none none) whole whole
  | head {h : SelectHead} {rest : String} :
      Windowed s (.inline (some h) none) (s.opening ++ s.distinct ++ s.leftOut ++ rest)
        (s.opening ++ h.text ++ " " ++ s.distinct ++ rest)
  | tail {t select : String} :
      Windowed s (.inline none (some t)) (select ++ s.closing) (select ++ " " ++ t ++ s.closing)
  | wrapped {before after select : String} :
      Windowed s (.wrapped before after) (select ++ s.closing)
        (before ++ select ++ after ++ s.closing)

/-! ### The parts without the window -/

section

variable (style : SelectStyle) (scope : Option Scope) (q : Query)

/-- A query without its window has the same parts in a layout with nothing added. -/
theorem Query.parts_unlimited :
  q.unlimited.parts style scope
    = { q.parts style scope with layout := .inline none none }
  := by
  obtain ⟨recursive, ctes, hint, columns, sources, joins, filter, groups, having, order⟩ := q
  rfl

theorem Query.layout_parts :
  (q.parts style scope).layout = style.paging.layoutOf q.rows q.offset
  := by
  obtain ⟨recursive, ctes, hint, columns, sources, joins, filter, groups, having, order⟩ := q
  rfl

theorem Query.exprs_parts :
  (q.parts style scope).exprs = q.columns.map (Column.tokens style (some q.scope))
  := by
  obtain ⟨recursive, ctes, hint, columns, sources, joins, filter, groups, having, order⟩ := q
  exact Column.tokensEach_eq_map style _ columns

end

/-! ### The select list behind a head -/

theorem SelectHead.unwrittenAlias?_eq (h : SelectHead) (columns : List Column) :
  h.unwrittenAlias? columns = (h.distinct? columns).bind Prod.snd
  := by
  obtain _ | ⟨⟨expr, aliasName⟩, rest⟩ := columns
  · simp [unwrittenAlias?, distinct?]
  · cases expr with
    | distinct columns =>
      cases hafter : h.afterDistinct with
      | false => simp [unwrittenAlias?, distinct?, hafter]
      | true => simp [unwrittenAlias?, distinct?, hafter, Option.filter_some, Column.isDistinct]
    | _ => simp [unwrittenAlias?, distinct?, Option.filter_some, Column.isDistinct]

/-- What stands behind the first of several parts does not depend on this part. -/
theorem Token.exists_separated (separator : String) (rest : List (List Token)) :
  ∃ behind, ∀ part, separated separator (part :: rest) = part ++ behind
  := by
  cases rest with
  | nil => exact ⟨[], by simp [separated]⟩
  | cons next rest => exact ⟨.text separator :: separated separator (next :: rest), fun _ => rfl⟩

section

variable (style : SelectStyle) (scope : Option Scope) {q : Query} {h : SelectHead}

/-- A head stands before the select list, if it does not belong behind a leading DISTINCT. -/
theorem Query.list_of_distinct?_eq_none (hnone : h.distinct? q.columns = none) :
  (q.parts style scope).list (some h)
    = .text h.text :: .text " " :: (q.parts style scope).list none
  := by
  cases hcolumns : q.columns with
  | nil => simp [SelectParts.list, hcolumns]
  | cons c rest =>
    have hplain : (h.afterDistinct && c.isDistinct) = false := by
      obtain ⟨expr, aliasName⟩ := c
      cases expr with
      | distinct columns =>
        have hafter : h.afterDistinct = false := by
          simpa [hcolumns, SelectHead.distinct?] using hnone
        simp [hafter]
      | _ => simp [Column.isDistinct]
    simp [SelectParts.list, exprs_parts, hcolumns, hplain]

/-- Otherwise it stands behind the word, and the alias of the distinct columns is left out. -/
theorem Query.exists_list_of_distinct? {columns : List Column} {aliasName : Option String}
    (hdistinct : h.distinct? q.columns = some (columns, aliasName)) :
  ∃ behind,
    (q.parts style scope).list none
      = .text "DISTINCT "
        :: Token.separated ", " (Column.tokensEach style (some q.scope) columns)
        ++ Column.aliasTokens ⟨.distinct columns, aliasName⟩ ++ behind
    ∧ (q.parts style scope).list (some h)
      = .text "DISTINCT " :: .text h.text :: .text " "
        :: Token.separated ", " (Column.tokensEach style (some q.scope) columns) ++ behind
  := by
  obtain ⟨rest, hcolumns, hafter⟩ :
      ∃ rest, q.columns = ⟨.distinct columns, aliasName⟩ :: rest ∧ h.afterDistinct = true := by
    unfold SelectHead.distinct? at hdistinct
    split at hdistinct
    · next hcolumns =>
      split at hdistinct
      · next hafter =>
        obtain ⟨rfl, rfl⟩ := Prod.mk.inj (Option.some.inj hdistinct)
        exact ⟨_, hcolumns, hafter⟩
      · cases hdistinct
    · cases hdistinct
  obtain ⟨behind, hbehind⟩ := Token.exists_separated ", "
    (List.zipWith Column.itemTokens rest (rest.map (Column.tokens style (some q.scope))))
  use behind
  constructor
  · simp [SelectParts.list, exprs_parts, hcolumns, hbehind, Column.itemTokens, Column.tokens,
      Expr.tokens]
  · simp [SelectParts.list, exprs_parts, hcolumns, hbehind, hafter, Column.isDistinct,
      Column.tokens, Expr.tokens]

end

/-! ### The text with its window -/

/-- Apart from the numbered layout there is nothing, a head, a tail or a wrapper. -/
theorem PagingStrategy.layout_cases {s : PagingStrategy} (hs : s ≠ .rowNumber) (w : Window) :
  s.layout w = .inline none none
    ∨ (∃ h, s.layout w = .inline (some h) none)
    ∨ (∃ t, s.layout w = .inline none (some t))
    ∨ ∃ before after, s.layout w = .wrapped before after
  := by
  obtain ⟨offset, rows⟩ := w
  cases s with
  | rowNumber => exact absurd rfl hs
  | unpaged => exact .inl rfl
  | rowNum | rowNumberOver => exact .inr (.inr (.inr ⟨_, _, rfl⟩))
  | limitPair | limitOffset | offsetFetch =>
    cases offset <;> exact .inr (.inr (.inl ⟨_, rfl⟩))
  | skipFirst | skipLimit | topStartAt => cases offset <;> exact .inr (.inl ⟨_, rfl⟩)
  | topOrFetch =>
    cases offset with
    | none => exact .inr (.inl ⟨_, rfl⟩)
    | some o => exact .inr (.inr (.inl ⟨_, rfl⟩))

/-- The refusal of tables that cannot be told apart has no text. -/
theorem Query.written_clash (quoting : Quoting) (style : SelectStyle) (scope : Option Scope)
    (q : Query) :
  Token.written quoting (q.parts style scope).clash = ""
  := by
  obtain ⟨recursive, ctes, hint, columns, sources, joins, filter, groups, having, order⟩ := q
  simp only [Query.parts]
  unfold clashTokens
  split <;> rfl

/-- What stands around the select list does not depend on the head. -/
theorem SelectParts.exists_standard (p : SelectParts) :
  ∃ behind, ∀ head, p.standard head
    = p.preamble " " ++ p.clash ++ .text "SELECT " :: p.hint ++ p.list head ++ behind
  := by
  use p.clauses ++ if p.isOrdered then .text " " :: .text "ORDER BY " :: p.order false else []
  intro head
  simp [standard, core, body]

theorem Query.tokens_unlimited (style : SelectStyle) (scope : Option Scope) (q : Query) :
  q.unlimited.tokens style scope
    = (q.parts style scope).standard none ++ (q.parts style scope).after
  := by
  rw [Query.tokens, parts_unlimited, SelectParts.tokens, SelectParts.paged]
  simp only [Option.elim_none, List.append_nil]
  rfl

section

variable {d : Dialect} {scope : Option Scope} {q : Query}

/-- The text with a head, and the text without it. -/
theorem Query.exists_written_head {h : SelectHead}
    (hlayout : (q.parts d.style scope).layout = .inline (some h) none) :
  ∃ rest,
    Token.written d.quoting (q.unlimited.tokens d.style scope)
      = (q.text d scope).opening ++ (q.text d scope).distinct ++ (q.text d scope).leftOut ++ rest
    ∧ Token.written d.quoting (q.tokens d.style scope)
      = (q.text d scope).opening ++ h.text ++ " " ++ (q.text d scope).distinct ++ rest
  := by
  have hheaded : q.headed? d.style = h.distinct? q.columns := by
    have hsame : (q.parts d.style none).layout = .inline (some h) none := by
      rw [← hlayout, layout_parts, layout_parts]
    rw [headed?, SelectParts.head?, hsame]
    rfl
  have htokens : q.tokens d.style scope
      = (q.parts d.style scope).standard (some h) ++ (q.parts d.style scope).after := by
    simp [Query.tokens, SelectParts.tokens, SelectParts.paged, hlayout]
  -- the two selects share all tokens but those of their lists
  obtain ⟨behind, hbehind⟩ := (q.parts d.style scope).exists_standard
  rw [tokens_unlimited, htokens, hbehind, hbehind]
  cases hdistinct : h.distinct? q.columns with
  | none =>
    have hlist := list_of_distinct?_eq_none d.style scope hdistinct
    use Token.written d.quoting ((q.parts d.style scope).list none ++ behind
      ++ (q.parts d.style scope).after)
    simp [text, hheaded, hdistinct, hlist, Token.written_append, Token.written_cons, written_clash,
      Token.toText, String.append_assoc]
  | some headed =>
    obtain ⟨columns, aliasName⟩ := headed
    obtain ⟨others, hnone, hsome⟩ := exists_list_of_distinct? d.style scope hdistinct
    use Token.written d.quoting (others ++ behind ++ (q.parts d.style scope).after)
    cases aliasName <;>
      simp [text, hheaded, hdistinct, hnone, hsome, Token.written_append, Token.written_cons,
        written_clash, Token.toText, String.append_assoc, Column.aliasTokens]

/-- The text of a query with its window, and the text without it. -/
theorem Query.windowed_tokens {rows : UInt64} (hrows : q.rows = some rows)
    (hpaging : d.paging ≠ .rowNumber) :
  (q.text d scope).Windowed (d.paging.layout ⟨q.offset, rows⟩)
    (Token.written d.quoting (q.unlimited.tokens d.style scope))
    (Token.written d.quoting (q.tokens d.style scope))
  := by
  have hlayout : (q.parts d.style scope).layout = d.paging.layout ⟨q.offset, rows⟩ := by
    rw [layout_parts, hrows]
    rfl
  have hunlimited := tokens_unlimited d.style scope q
  obtain h | ⟨h, hhead⟩ | ⟨t, htail⟩ | ⟨before, after, hwrapped⟩ :=
    PagingStrategy.layout_cases hpaging ⟨q.offset, rows⟩
  · rw [h] at hlayout ⊢
    have htokens : q.tokens d.style scope = q.unlimited.tokens d.style scope := by
      rw [hunlimited]
      simp [Query.tokens, SelectParts.tokens, SelectParts.paged, hlayout]
    rw [htokens]
    exact .unchanged
  · rw [hhead] at hlayout ⊢
    obtain ⟨rest, hplain, hpaged⟩ := exists_written_head hlayout
    rw [hplain, hpaged]
    exact .head
  · rw [htail] at hlayout ⊢
    have htokens : q.tokens d.style scope = (q.parts d.style scope).standard none
        ++ [.text " ", .text t] ++ (q.parts d.style scope).after := by
      simp [Query.tokens, SelectParts.tokens, SelectParts.paged, hlayout]
    rw [hunlimited, htokens, Token.written_append, Token.written_append, Token.written_append]
    have hwindow : Token.written d.quoting [.text " ", .text t] = " " ++ t := rfl
    rw [hwindow, ← String.append_assoc]
    exact .tail
  · rw [hwrapped] at hlayout ⊢
    have htokens : q.tokens d.style scope = .text before
        :: (q.parts d.style scope).standard none ++ [.text after]
        ++ (q.parts d.style scope).after := by
      simp [Query.tokens, SelectParts.tokens, SelectParts.paged, hlayout]
    have hlast : Token.written d.quoting [.text after] = after := rfl
    rw [hunlimited, htokens, Token.written_append, Token.written_append, Token.written_append,
      Token.written_cons, hlast]
    exact .wrapped

/-- The parts of a select pass without a head if they do with it and the alias that is left out
behind the head is a name. -/
theorem SelectParts.passes_unlimited_iff {p : SelectParts}
    (hlength : p.exprs.length = p.columns.length) (hnumbered : p.isNumbered = false) :
  { p with layout := .inline none none }.Passes
    ↔ p.Passes
      ∧ ∀ a ∈ p.head?.bind (SelectHead.unwrittenAlias? · p.columns),
        (Guard.identifier a).verify = .ok ()
  := by
  have hlist := allPass_list_none_iff hlength p.head?
  have hinside : p.ordersAround = false := by simp [ordersAround, hnumbered]
  constructor
  · rintro ⟨hctes, hclash, hhint, hplain, hclauses, horder, hafter⟩
    obtain ⟨hheaded, halias⟩ := hlist.mp hplain
    refine ⟨⟨hctes, hclash, hhint, hheaded, hclauses, ?_, hafter⟩, halias⟩
    rw [hinside]
    exact horder
  · rintro ⟨⟨hctes, hclash, hhint, hheaded, hclauses, horder, hafter⟩, halias⟩
    rw [hinside] at horder
    exact ⟨hctes, hclash, hhint, hlist.mpr ⟨hheaded, halias⟩, hclauses, horder, hafter⟩

/-- The window decides on a statement by the alias that it leaves out. -/
theorem Query.allPass_unlimited_iff (hpaging : d.paging ≠ .rowNumber) :
  AllPass (q.unlimited.tokens d.style scope)
    ↔ AllPass (q.tokens d.style scope)
      ∧ ∀ a ∈ (q.headed? d.style).bind Prod.snd, (Guard.identifier a).verify = .ok ()
  := by
  have hnumbered : (q.parts d.style scope).isNumbered = false := by
    rw [SelectParts.isNumbered_of_layout (layout_parts d.style scope q)]
    exact ordersFirst_eq_false hpaging q.rows
  have hhead : (q.parts d.style scope).head? = (q.parts d.style none).head? := by
    rw [SelectParts.head?, SelectParts.head?, layout_parts, layout_parts]
  rw [Query.tokens, parts_unlimited, Query.tokens, SelectParts.allPass_tokens_iff,
    SelectParts.allPass_tokens_iff,
    SelectParts.passes_unlimited_iff (q.length_exprs_parts d.style scope) hnumbered, hhead]
  simp only [columns_parts, SelectHead.unwrittenAlias?_eq, headed?, Option.bind_assoc]

/-- Where the ordering stands last, the values of a query do not depend on its window. -/
theorem Query.values_unlimited (hpaging : d.paging ≠ .rowNumber) :
  q.unlimited.values (some d.paging) = q.values (some d.paging)
  := by
  have hlast := ordersFirst_eq_false hpaging
  rw [values_eq _ hlast, values_eq _ hlast]
  obtain ⟨recursive, ctes, hint, columns, sources, joins, filter, groups, having, order⟩ := q
  rfl

end

/-- A select with a window has a statement if it has one without the window, and conversely if
the alias that the window leaves out is a name.  Both statements bind the same values, and their
texts differ by the window and by this alias. -/
theorem Dialect.windowed_of_statement {d : Dialect} {q : Query} {rows : UInt64}
    (hrows : q.rows = some rows) (hpaging : d.paging ≠ .rowNumber) (scope : Option Scope) :
  ((∃ s, d.statement (q.unlimited.tokens d.style scope) = .ok s)
      ↔ (∃ s, d.statement (q.tokens d.style scope) = .ok s)
        ∧ ∀ a ∈ (q.headed? d.style).bind Prod.snd, (Guard.identifier a).verify = .ok ())
    ∧ ∀ s t, d.statement (q.unlimited.tokens d.style scope) = .ok s →
      d.statement (q.tokens d.style scope) = .ok t →
      t.params = s.params
        ∧ (q.text d scope).Windowed (d.paging.layout ⟨q.offset, rows⟩) s.sql t.sql
  := by
  constructor
  · rw [statement, statement, Token.exists_ofTokens_iff, Token.exists_ofTokens_iff]
    exact Query.allPass_unlimited_iff hpaging
  · intro s t hs ht
    obtain ⟨-, rfl⟩ := Statement.ofTokens_eq_ok_iff.mp hs
    obtain ⟨-, rfl⟩ := Statement.ofTokens_eq_ok_iff.mp ht
    constructor
    · calc
        (q.tokens d.style scope).flatMap Token.params
          = q.values (some d.paging) := Query.params_parts d.style scope q
        _ = q.unlimited.values (some d.paging) := (Query.values_unlimited hpaging).symm
        _ = (q.unlimited.tokens d.style scope).flatMap Token.params :=
          (Query.params_parts d.style scope q.unlimited).symm
    · exact Query.windowed_tokens hrows hpaging

/-- The first ten sexes of accounts, under an alias. -/
def firstSexes : Query :=
  { Query.empty with
    columns := [⟨.distinct [⟨.named none "sex", none⟩], some "a"⟩]
    sources := [⟨.named none "tb_account", none⟩]
    rows := some 10 }

/-- Behind DISTINCT the head stands in place of the alias. -/
theorem Dialect.windowed_of_statement_firstSexes :
  firstSexes.rows = some 10
    ∧ (builtIn .sqlServer).paging ≠ .rowNumber
    ∧ ∃ s t, (builtIn .sqlServer).select firstSexes.unlimited = .ok s
      ∧ (builtIn .sqlServer).select firstSexes = .ok t
      ∧ s.sql = "SELECT DISTINCT [sex] AS [a] FROM [tb_account]"
      ∧ t.sql = "SELECT DISTINCT TOP 10 [sex] FROM [tb_account]"
      ∧ t.params = s.params
      ∧ firstSexes.text (builtIn .sqlServer) none = ⟨"SELECT DISTINCT ", "[sex]", " AS [a]", ""⟩
      ∧ (firstSexes.text (builtIn .sqlServer) none).Windowed
        (.inline (some ⟨"TOP 10", true⟩) none) s.sql t.sql
  := by
  have hpaging : (builtIn .sqlServer).paging ≠ .rowNumber := by decide
  obtain ⟨s, hs⟩ : ∃ s, (builtIn .sqlServer).select firstSexes.unlimited = .ok s := ⟨_, rfl⟩
  obtain ⟨t, ht⟩ : ∃ t, (builtIn .sqlServer).select firstSexes = .ok t := ⟨_, rfl⟩
  obtain ⟨-, hwindow⟩ := windowed_of_statement (q := firstSexes) rfl hpaging none
  obtain ⟨hparams, hwindowed⟩ := hwindow s t hs ht
  refine ⟨rfl, hpaging, s, t, hs, ht, ?_, ?_, hparams, ?_, hwindowed⟩
  · obtain rfl := Except.ok.inj hs
    decide +kernel
  · obtain rfl := Except.ok.inj ht
    decide +kernel
  · rfl

end SqlRender
