import Mathlib.Data.List.Forall2
import Mathlib.Tactic.Use
import SqlRender.Proofs.Tokens
import SqlRender.Proofs.Writing

/-!
# What the steps of a writer write

A step writes tokens in a scope if it appends their text and their values to whatever is
written already, or fails with the error of the first guard that one of them does not pass;
and in both cases leaves the scopes as they were.  Steps one after the other write what
they write alone, and a step inside of a scope of its own writes the same in any scope
around.  So the arrangement of the parts of a select is written step by step.
-/

namespace SqlRender

/-! ### What a step emits -/

/-- The writer with a statement behind what it has written. -/
def Writer.followedBy (w : Writer) (s : Statement) : Writer :=
  { w with sql := w.sql ++ s.sql, params := w.params ++ s.params }

namespace Writing

/-- Whether a step in a scope writes exactly the given statement if the guards pass, and else
fails with the error of the first that does not; the scopes are left as they are. -/
def Emits (scope : Option Scope) (m : Writing) (gs : List Guard) (s : Statement) : Prop :=
  ∀ w : Writer, w.scopes.head? = scope →
    match Guard.verifyAll gs with
    | .ok () => m w = .ok () (w.followedBy s)
    | .error e => ∃ w', m w = .error e w' ∧ w'.scopes = w.scopes

/-- Whether a step in a scope writes the given tokens. -/
def Writes (quoting : Quoting) (scope : Option Scope) (m : Writing) (ts : List Token) : Prop :=
  m.Emits scope (ts.flatMap Token.guards)
    ⟨String.join (ts.map (Token.toText quoting)), ts.flatMap Token.params⟩

variable {scope : Option Scope} {m n : Writing} {gs hs : List Guard} {s t : Statement}

theorem emits_pure :
  Emits scope (pure ()) [] ⟨"", []⟩
  := by
  intro w hw
  simp only [Guard.verifyAll, Writer.followedBy, String.append_empty, List.append_nil]
  rfl

theorem emits_push (text : String) :
  Emits scope (push text) [] ⟨text, []⟩
  := by
  intro w hw
  simp only [Guard.verifyAll, Writer.followedBy, List.append_nil]
  rfl

theorem emits_verify (g : Guard) :
  Emits scope (verify g) [g] ⟨"", []⟩
  := by
  intro w hw
  simp only [Guard.verifyAll, verify]
  cases g.verify with
  | ok =>
    simp only [Writer.followedBy, String.append_empty, List.append_nil]
    rfl
  | error e => exact ⟨w, rfl, rfl⟩

/-- Two steps emit one after the other what they emit alone. -/
theorem Emits.seq (hm : m.Emits scope gs s) (hn : n.Emits scope hs t) :
  Emits scope (do m; n) (gs ++ hs) ⟨s.sql ++ t.sql, s.params ++ t.params⟩
  := by
  intro w hw
  have hm := hm w hw
  rw [Guard.verifyAll_append]
  cases hgs : Guard.verifyAll gs with
  | error e =>
    simp only [hgs] at hm ⊢
    obtain ⟨w', hmw, hscopes⟩ := hm
    use w'
    constructor
    · change EStateM.bind m _ w = _
      rw [EStateM.bind, hmw]
    · exact hscopes
  | ok =>
    simp only [hgs] at hm ⊢
    have hrun : (do m; n : Writing) w = n (w.followedBy s) := by
      change EStateM.bind m _ w = _
      rw [EStateM.bind, hm]
    have hn := hn (w.followedBy s) hw
    rw [hrun]
    cases hhs : Guard.verifyAll hs with
    | error e =>
      simp only [hhs] at hn ⊢
      exact hn
    | ok =>
      simp only [hhs] at hn ⊢
      rw [hn]
      simp only [Writer.followedBy, String.append_assoc, List.append_assoc]

/-- What is written inside of a scope does not depend on the scopes around. -/
theorem Emits.inside {own : Scope} (hm : m.Emits (some own) gs s) :
  (Writing.inside own m).Emits scope gs s
  := by
  intro w hw
  have hm := hm { w with scopes := own :: w.scopes } rfl
  cases hgs : Guard.verifyAll gs with
  | error e =>
    simp only [hgs] at hm ⊢
    obtain ⟨w', hmw, hscopes⟩ := hm
    use { w' with scopes := w'.scopes.tail }
    constructor
    · rw [Writing.inside, hmw]
    · rw [hscopes, List.tail_cons]
  | ok =>
    simp only [hgs] at hm ⊢
    rw [Writing.inside, hm]
    rfl

/-! ### Writing tokens -/

variable {quoting : Quoting} {ts us : List Token} {ms : List Writing} {tss : List (List Token)}

theorem writes_pure :
  Writes quoting scope (pure ()) []
  := emits_pure

theorem writes_push (text : String) :
  Writes quoting scope (push text) [.text text]
  := by
  simpa [Writes, Token.guards, Token.toText, Token.params] using emits_push text

/-- Two steps write one after the other what they write alone. -/
theorem Writes.seq (hm : m.Writes quoting scope ts) (hn : n.Writes quoting scope us) :
  Writes quoting scope (do m; n) (ts ++ us)
  := by
  simpa [Writes, String.join_append] using Emits.seq hm hn

theorem Writes.inside {own : Scope} (hm : m.Writes quoting (some own) ts) :
  (Writing.inside own m).Writes quoting scope ts
  := Emits.inside hm

theorem writes_raw (sql : String) (values : List Value) :
  Writes quoting scope (raw sql values) [.raw sql values]
  := by
  intro w hw
  simp only [Token.guards, Token.toText, Token.params, List.flatMap_singleton, Guard.verifyAll,
    List.map_singleton, String.join_cons, String.join_nil, String.append_empty, Writer.followedBy]
  rfl

theorem writes_bind (v : Value) :
  Writes quoting scope (bind v) [.bind v]
  := writes_raw "?" [v]

/-- A text that is written behind its examination. -/
theorem writes_verified {t : Token} {g : Guard} (hguards : t.guards = [g])
    (hparams : t.params = []) :
  Writes quoting scope (do verify g; push (t.toText quoting)) [t]
  := by
  simpa [Writes, hguards, hparams] using (emits_verify g).seq (emits_push (t.toText quoting))

theorem writes_name (n : String) :
  Writes quoting scope (name quoting n) [.name n]
  := writes_verified (t := .name n) rfl rfl

theorem writes_function (n : String) :
  Writes quoting scope (function n) [.function n]
  := writes_verified (t := .function n) rfl rfl

theorem writes_table (schema : Option String) (n : String) :
  Writes quoting scope (table quoting schema n) [.table schema n]
  := by
  have hname (n : String) :
      (name quoting n).Emits scope [.identifier n] ⟨quoting.wrapName n, []⟩ := by
    simpa [name] using (emits_verify (.identifier n)).seq (emits_push (quoting.wrapName n))
  cases schema with
  | none =>
    simpa [Writes, table, optional, Token.guards, Token.toText, Token.params]
      using (emits_verify (.tableName n)).seq (emits_pure.seq (hname n))
  | some s =>
    simpa [Writes, table, optional, Token.guards, Token.toText, Token.params]
      using (emits_verify (.tableName n)).seq (((hname s).seq (emits_push ".")).seq (hname n))

theorem writes_clash (sources : List Table) (joins : List Join) :
  (clash sources joins).Writes quoting scope (clashTokens sources joins)
  := by
  rw [clash, clashTokens]
  cases Table.firstClash? (sources ++ (joins.filter Join.included).map Join.table) with
  | none => exact writes_pure
  | some t =>
    intro w hw
    exact ⟨w, rfl, rfl⟩

theorem Writes.clause (isEmpty : Bool) (hm : m.Writes quoting scope ts) :
  (Writing.clause isEmpty m).Writes quoting scope (if isEmpty then [] else ts)
  := by
  cases isEmpty with
  | false => exact hm
  | true => exact writes_pure

theorem writes_optional {α : Type} {f : α → Writing} {g : α → List Token}
    (h : ∀ a, (f a).Writes quoting scope (g a)) (o : Option α) :
  (optional f o).Writes quoting scope (o.elim [] g)
  := by
  cases o with
  | none => exact writes_pure
  | some a => exact h a

theorem Writes.parenthesized (hm : m.Writes quoting scope ts) :
  (Writing.parenthesized m).Writes quoting scope (Token.parenthesized ts)
  := (writes_push "(").seq (hm.seq (writes_push ")"))

theorem Writes.parenthesizedIf (needed : Bool) (hm : m.Writes quoting scope ts) :
  (Writing.parenthesizedIf needed m).Writes quoting scope (SqlRender.parenthesizedIf needed ts)
  := by
  cases needed with
  | false => exact hm
  | true => exact hm.parenthesized

/-- Steps of a list are written with the separator between them. -/
theorem writes_separated (separator : String) (h : List.Forall₂ (Writes quoting scope) ms tss) :
  (separated separator ms).Writes quoting scope (Token.separated separator tss)
  := by
  induction h with
  | nil => exact writes_pure
  | @cons m ts ms tss hm hms ih =>
    cases hms with
    | nil => exact hm
    | cons hm' hms => exact hm.seq ((writes_push separator).seq ih)

/-- A qualifier is the one that the innermost scope demands. -/
theorem writes_column (table : Option String) (n : String) :
  (column quoting table n).Writes quoting scope (namedTokens scope table n)
  := by
  have htokens : namedTokens scope table n
      = (table.bind (Scope.qualifier? scope)).elim [] (fun q => [.name q, .text "."])
        ++ [.name n] := by
    unfold namedTokens
    cases table.bind (Scope.qualifier? scope) <;> rfl
  have hqualifier (q : String) : Writes quoting scope (do name quoting q; push ".")
      [.name q, .text "."] := (writes_name q).seq (writes_push ".")
  rw [htokens]
  intro w hw
  have hname := (writes_optional hqualifier (table.bind (Scope.qualifier? scope))).seq (writes_name n) w hw
  subst hw
  exact hname

theorem writes_aliased (word : String) (aliasName : Option String) :
  (aliased quoting word aliasName).Writes quoting scope
    (aliasName.elim [] fun a => [.text word, .name a])
  := writes_optional (fun a => (writes_push word).seq (writes_name a)) aliasName

theorem writes_orderWords (direction : Option Direction) (nulls : Option NullOrder) :
  (orderWords direction nulls).Writes quoting scope (SqlRender.orderWords direction nulls)
  := by
  have hdirection (d : Direction) : Writes quoting scope (do push " "; push d.word)
      [.text " ", .text d.word] := (writes_push " ").seq (writes_push d.word)
  have hnulls (n : NullOrder) : Writes quoting scope (do push " "; push n.words)
      [.text " ", .text n.words] := (writes_push " ").seq (writes_push n.words)
  exact (writes_optional hdirection direction).seq (writes_optional hnulls nulls)

theorem forall₂_writes_map {α : Type} {f : α → Writing} {g : α → List Token}
    (h : ∀ a, (f a).Writes quoting scope (g a)) (as : List α) :
  List.Forall₂ (Writes quoting scope) (as.map f) (as.map g)
  := by
  rw [List.forall₂_map_left_iff, List.forall₂_map_right_iff]
  apply List.forall₂_same.mpr
  intro a _
  apply h

theorem writes_cteHead (n : String) (columns : List String) :
  (cteHead quoting n columns).Writes quoting scope (SqlRender.cteHead n columns)
  := by
  have hcolumns : List.Forall₂ (Writes quoting scope) (columns.map (name quoting))
      (columns.map fun c => [.name c]) := forall₂_writes_map writes_name columns
  have hlist := (writes_separated ", " hcolumns).parenthesized.clause columns.isEmpty
  exact (writes_name n).seq (hlist.seq (writes_push " AS "))

theorem writes_endings (endings : List String) :
  (Writing.endings endings).Writes quoting scope
    (endings.flatMap fun e => [.text " ", .raw e []])
  := by
  induction endings with
  | nil => exact writes_pure
  | cons e rest ih => exact (writes_push " ").seq ((writes_raw e []).seq ih)

end Writing

/-! ### Arranging the steps -/

open Writing

/-- Whether the steps write the parts of a select in the given scope. -/
structure SelectSteps.WritesParts (quoting : Quoting) (scope : Option Scope) (p : SelectSteps)
    (t : SelectParts) : Prop where
  layout : p.layout = t.layout
  columns : p.columns = t.columns
  isOrdered : p.isOrdered = t.isOrdered
  hasCtes : p.hasCtes = !t.ctes.isEmpty
  ctes : p.hasCtes = true → p.ctes.Writes quoting scope t.ctes
  clash : p.clash.Writes quoting scope t.clash
  hint : p.hint.Writes quoting (some p.scope) t.hint
  items : List.Forall₂ (Writes quoting (some p.scope)) p.items
    (List.zipWith Column.itemTokens t.columns t.exprs)
  /-- A head may go behind a leading DISTINCT, so its columns are written one by one. -/
  distinct : ∀ c rest, t.columns = c :: rest → c.isDistinct = true →
    ∃ tss exprs, t.exprs = (.text "DISTINCT " :: Token.separated ", " tss) :: exprs
      ∧ List.Forall₂ (Writes quoting (some p.scope)) p.distinct tss
  clauses : p.clauses.Writes quoting (some p.scope) t.clauses
  order_inside : (p.order false).Writes quoting (some p.scope) (t.order false)
  order_around : (p.order true).Writes quoting scope (t.order true)
  after : p.after.Writes quoting scope t.after

namespace SelectSteps.WritesParts

variable {quoting : Quoting} {scope : Option Scope} {p : SelectSteps} {t : SelectParts}

theorem list (h : p.WritesParts quoting scope t) (head : Option SelectHead) :
  (p.list head).Writes quoting (some p.scope) (t.list head)
  := by
  have hplain : Writes quoting (some p.scope)
      (if p.columns.isEmpty then push "*" else separated ", " p.items)
      (if t.columns.isEmpty then [.text "*"]
        else Token.separated ", " (List.zipWith Column.itemTokens t.columns t.exprs)) := by
    rw [h.columns]
    split
    · apply writes_push
    · apply writes_separated ", " h.items
  unfold SelectSteps.list SelectParts.list
  cases head with
  | none => exact hplain
  | some head =>
    have hheaded := (writes_push head.text).seq ((writes_push " ").seq hplain)
    cases hcolumns : t.columns with
    | nil =>
      simp only [h.columns, hcolumns] at hheaded ⊢
      exact hheaded
    | cons c rest =>
      cases hdistinct : head.afterDistinct && c.isDistinct with
      | false =>
        simp only [h.columns, hcolumns] at hheaded ⊢
        cases hexprs : t.exprs <;>
          simpa only [hdistinct, hexprs, Bool.false_eq_true, if_false, List.singleton_append]
            using hheaded
      | true =>
        obtain ⟨tss, exprs, hexprs, hwrites⟩ :=
          h.distinct c rest hcolumns (Bool.and_eq_true_iff.mp hdistinct).2
        have hitems := h.items
        simp only [h.columns, hcolumns, hdistinct, hexprs, if_true] at hitems ⊢
        have hfirst := (writes_push "DISTINCT ").seq ((writes_push head.text).seq
          ((writes_push " ").seq (writes_separated ", " hwrites)))
        exact writes_separated ", " (List.Forall₂.cons hfirst (List.forall₂_drop 1 hitems))

/-- The number of a row is written in the scope in which its ordering is. -/
theorem rowNumber (h : p.WritesParts quoting scope t) {own : Option Scope} {around : Bool}
    (horder : (p.order around).Writes quoting own (t.order around)) :
  (p.rowNumber around).Writes quoting own (t.rowNumber around)
  := by
  have hordering : Writes quoting own
      (if p.isOrdered then (do push "ORDER BY "; p.order around)
        else push "ORDER BY CURRENT_TIMESTAMP")
      (if t.isOrdered then .text "ORDER BY " :: t.order around
        else [.text "ORDER BY CURRENT_TIMESTAMP"]) := by
    rw [h.isOrdered]
    split
    · exact (writes_push _).seq horder
    · apply writes_push
  exact (writes_push _).seq (hordering.seq ((writes_push ") AS ").seq (writes_push "__rn")))

theorem body (h : p.WritesParts quoting scope t) {first : Writing} {ts : List Token}
    (hfirst : first.Writes quoting (some p.scope) ts) (head : Option SelectHead) :
  (p.body first head).Writes quoting (some p.scope) (t.body ts head)
  := by
  simpa [SelectSteps.body, SelectParts.body]
    using (writes_push "SELECT ").seq (h.hint.seq (hfirst.seq ((h.list head).seq h.clauses)))

theorem core (h : p.WritesParts quoting scope t) (head : Option SelectHead) :
  (p.core head).Writes quoting scope (t.core head)
  := by
  have hordering : Writes quoting (some p.scope)
      (clause (!p.isOrdered) (do push " "; push "ORDER BY "; p.order false))
      (if t.isOrdered then .text " " :: .text "ORDER BY " :: t.order false else []) := by
    have horder := (writes_push " ").seq ((writes_push "ORDER BY ").seq h.order_inside)
    rw [h.isOrdered]
    cases t.isOrdered with
    | false => exact writes_pure
    | true => exact horder
  simpa [SelectSteps.core, SelectParts.core]
    using h.clash.seq ((h.body writes_pure head).seq hordering).inside

theorem numberedCore (h : p.WritesParts quoting scope t) (aliasSeparator : String) :
  (p.numberedCore aliasSeparator).Writes quoting scope (t.numberedCore aliasSeparator none)
  := by
  refine h.clash.seq ?_
  rw [h.columns]
  cases t.columns.any Column.isDistinct with
  | false =>
    exact (h.body ((h.rowNumber h.order_inside).seq (writes_push ", ")) none).inside
  | true =>
    simpa using (writes_push "SELECT ").seq ((h.rowNumber h.order_around).seq
      ((writes_push ", * FROM (").seq ((h.body writes_pure none).inside.seq
        ((writes_push ")").seq ((writes_push aliasSeparator).seq (writes_push "temp_distinct"))))))

theorem preamble (h : p.WritesParts quoting scope t) (separator : String) :
  (p.preamble separator).Writes quoting scope (t.preamble separator)
  := by
  rw [SelectSteps.preamble, SelectParts.preamble]
  cases hctes : t.ctes.isEmpty with
  | true =>
    rw [h.hasCtes, hctes]
    exact writes_pure
  | false =>
    have hhas : p.hasCtes = true := by rw [h.hasCtes, hctes]; rfl
    rw [hhas]
    exact (h.ctes hhas).seq (writes_push separator)

theorem standard (h : p.WritesParts quoting scope t) (head : Option SelectHead) :
  (p.standard head).Writes quoting scope (t.standard head)
  := (h.preamble " ").seq (h.core head)

theorem paged (h : p.WritesParts quoting scope t) (aliasSeparator : String) :
  (p.paged aliasSeparator).Writes quoting scope (t.paged aliasSeparator)
  := by
  rw [SelectSteps.paged, SelectParts.paged, h.layout]
  cases t.layout with
  | inline head tail =>
    exact (h.standard head).seq
      (writes_optional (fun text => (writes_push " ").seq (writes_push text)) tail)
  | wrapped before after =>
    simpa using (writes_push before).seq ((h.standard none).seq (writes_push after))
  | numbered first last =>
    have hpreamble : Writes quoting scope
        (if p.hasCtes then p.preamble ", " else push "WITH ")
        (if t.ctes.isEmpty then [.text "WITH "] else t.preamble ", ") := by
      rw [h.hasCtes]
      cases t.ctes.isEmpty with
      | false => exact h.preamble ", "
      | true => exact writes_push "WITH "
    rw [h.columns]
    simpa using hpreamble.seq ((writes_push "temp_datas AS (").seq
      ((h.numberedCore aliasSeparator).seq ((writes_push ") SELECT ").seq
        ((writes_push (outerNames t.columns)).seq
          (writes_push (" FROM temp_datas WHERE __rn BETWEEN " ++ rowText first ++ " AND "
            ++ rowText last ++ " ORDER BY __rn"))))))

theorem write (h : p.WritesParts quoting scope t) (aliasSeparator : String) :
  (p.write aliasSeparator).Writes quoting scope (t.tokens aliasSeparator)
  := (h.paged aliasSeparator).seq h.after

end SelectSteps.WritesParts

end SqlRender
