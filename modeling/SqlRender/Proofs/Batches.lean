import SqlRender.Proofs.Rescoping
import SqlRender.Proofs.StatementValues
import SqlRender.Proofs.WindowOrdering

/-!
# Batches and single rows

An INSERT of several rows checks its rows against the first one only, and it has its own ways
of putting the pieces of rows together.  Here it is compared with the INSERTs of its rows, one
by one.  There is a batch exactly if there are rows, if all of them set the same columns and
if every row can be inserted by itself.  A batch binds what the single statements bind, and
its text is made of their texts: `Dialect.insertBatch_of_singles`.
-/

namespace SqlRender

open Token (AllPass)

/-! ### The pieces of a row -/

namespace Mutation

/-- An INSERT of one row behind its first word. -/
def rowTokens (style : SelectStyle) (t : Table) (row : UpdateRow) : List Token :=
  insertTarget t row ++ .text " VALUES " :: valueTuple style row

/-- A row without columns is the only one that is refused before anything is written. -/
theorem insert_eq (style : SelectStyle) (t : Table) (row : UpdateRow) :
  insert style t row
    = (checkRow row "insert").map fun _ => .text "INSERT" :: rowTokens style t row
  := by
  rw [insert]
  cases checkRow row "insert" <;> rfl

/-- The list of columns is written from the names of the columns. -/
theorem columnList_eq (row : UpdateRow) :
  columnList row = Token.parenthesized
    (Token.separated ", " (row.columnNames.map fun n => [.name n]))
  := by
  rw [columnList, UpdateRow.columnNames, List.map_map]
  rfl

/-- Rows with the same columns go into the same place. -/
theorem insertTarget_congr (t : Table) {row row' : UpdateRow}
    (h : row.columnNames = row'.columnNames) :
  insertTarget t row = insertTarget t row'
  := by
  rw [insertTarget, insertTarget, columnList_eq, columnList_eq, h]

theorem allPass_rowTokens_iff {style : SelectStyle} {t : Table} {row : UpdateRow} :
  AllPass (rowTokens style t row)
    ↔ AllPass (insertTarget t row) ∧ AllPass (valueTuple style row)
  := by simp [rowTokens]

/-- A batch is accepted with its first row unless a later row sets other columns.  The rows
are numbered for the text of the error only. -/
theorem checkBatch_cons (first : UpdateRow) (rest : List UpdateRow) :
  checkBatch (first :: rest)
    = (checkRow first "insert").bind fun _ =>
      ((rest.zipIdx 1).find? fun other => other.1.columnNames != first.columnNames).elim
        (.ok first) fun other => .error (.inconsistentBatch ("row " ++ toString other.2 ++ " sets "
          ++ columnNote other.1 ++ ", expected " ++ columnNote first))
  := by
  rw [checkBatch]
  cases checkRow first "insert" with
  | error e => rfl
  | ok _ =>
    apply Eq.symm
    generalize List.find? _ (rest.zipIdx 1) = found
    cases found <;> rfl

/-- A batch is accepted if it has rows and all of them set the columns of the first one, which
has columns. -/
theorem checkBatch_eq_ok_iff {rows : List UpdateRow} {first : UpdateRow} :
  checkBatch rows = .ok first
    ↔ rows.head? = some first ∧ first.entries ≠ []
      ∧ ∀ row ∈ rows, row.columnNames = first.columnNames
  := by
  cases rows with
  | nil => simp [checkBatch]
  | cons row rest =>
    have hothers : (rest.zipIdx 1).find? (fun other => other.1.columnNames != row.columnNames)
          = none
        ↔ ∀ other ∈ rest, other.columnNames = row.columnNames := by
      rw [List.find?_eq_none]
      constructor
      · intro h other hother
        rw [← List.zipIdx_map_fst 1 rest] at hother
        obtain ⟨numbered, hnumbered, rfl⟩ := List.mem_map.mp hother
        simpa using h numbered hnumbered
      · intro h numbered hnumbered
        simpa using h numbered.1 (List.fst_mem_of_mem_zipIdx hnumbered)
    rw [checkBatch_cons, List.head?_cons, List.forall_mem_cons]
    cases hrow : checkRow row "insert" with
    | error e =>
      have hempty : ¬ row.entries ≠ [] := by
        rw [← checkRow_eq_ok_iff row "insert", hrow]
        intro h
        cases h
      simp only [Except.bind, reduceCtorEq, false_iff]
      rintro ⟨⟨⟩, hentries, -⟩
      exact hempty hentries
    | ok _ =>
      have hentries : row.entries ≠ [] := (checkRow_eq_ok_iff row "insert").mp hrow
      rw [Except.bind]
      cases hfind : (rest.zipIdx 1).find? fun other => other.1.columnNames != row.columnNames with
      | some other =>
        simp only [Option.elim_some, reduceCtorEq, false_iff]
        rintro ⟨⟨⟩, -, -, hsame⟩
        rw [hothers.mpr hsame] at hfind
        cases hfind
      | none =>
        have hsame := hothers.mp hfind
        constructor
        · rintro ⟨⟩
          exact ⟨rfl, hentries, rfl, hsame⟩
        · rintro ⟨⟨⟩, -⟩
          rfl

theorem insertBatch_eq (style : SelectStyle) (layout : BatchLayout) (t : Table)
    (rows : List UpdateRow) :
  insertBatch style layout t rows
    = (checkBatch rows).map fun first => match layout with
      | .tuples =>
        .text "INSERT" :: insertTarget t first ++ .text " VALUES "
          :: Token.separated ", " (rows.map (valueTuple style))
      | .insertAll =>
        .text "INSERT ALL" :: rows.flatMap (rowTokens style t) ++ [.text " SELECT 1 FROM DUAL"]
  := by
  rw [insertBatch]
  cases checkBatch rows with
  | error e => rfl
  | ok first => cases layout <;> rfl

end Mutation

/-! ### Single statements -/

/-- Tokens that pass make a statement of their texts and values. -/
theorem Token.ofTokens_eq_ok_iff_allPass {quoting : Quoting} {ts : List Token} {s : Statement} :
  Statement.ofTokens quoting ts = .ok s
    ↔ AllPass ts ∧ ⟨Token.written quoting ts, ts.flatMap Token.params⟩ = s
  := Statement.ofTokens_eq_ok_iff

namespace Dialect

open Mutation

/-- The statement of one row, for a row that can be inserted. -/
def single (d : Dialect) (t : Table) (row : UpdateRow) : Statement :=
  ⟨"INSERT" ++ Token.written d.quoting (rowTokens d.style t row),
    (rowTokens d.style t row).flatMap Token.params⟩

theorem insert_eq_ok_iff {d : Dialect} {t : Table} {row : UpdateRow} {s : Statement} :
  d.insert t row = .ok s
    ↔ (row.entries ≠ [] ∧ AllPass (rowTokens d.style t row)) ∧ d.single t row = s
  := by
  rw [insert, insert_eq, ← checkRow_eq_ok_iff row "insert"]
  cases checkRow row "insert" with
  | error e => simp [Except.map, Except.bind]
  | ok _ =>
    simp [Except.map, Except.bind, statement, Token.ofTokens_eq_ok_iff_allPass,
      Token.written_cons, Token.toText, single]

/-- Rows that can all be inserted have their single statements. -/
theorem mapM_insert_eq_ok {d : Dialect} {t : Table} {rows : List UpdateRow}
    (h : ∀ row ∈ rows, row.entries ≠ [] ∧ AllPass (rowTokens d.style t row)) :
  rows.mapM (d.insert t) = .ok (rows.map (d.single t))
  := by
  induction rows with
  | nil => rfl
  | cons row rest ih =>
    obtain ⟨hrow, hrest⟩ := List.forall_mem_cons.mp h
    have hinsert : d.insert t row = .ok (d.single t row) := insert_eq_ok_iff.mpr ⟨hrow, rfl⟩
    rw [List.mapM_cons, hinsert, ih hrest]
    rfl

theorem params_single (d : Dialect) (t : Table) (row : UpdateRow) :
  (d.single t row).params = (valueTuple d.style row).flatMap Token.params
  := by simp [single, rowTokens, params_insertTarget]

/-! ### Batches -/

/-- The tokens of a batch whose columns are those of `first`. -/
def batchTokens (d : Dialect) (t : Table) (first : UpdateRow) (rows : List UpdateRow) :
    List Token :=
  match d.batches with
  | .tuples =>
    .text "INSERT" :: insertTarget t first ++ .text " VALUES "
      :: Token.separated ", " (rows.map (valueTuple d.style))
  | .insertAll =>
    .text "INSERT ALL" :: rows.flatMap (rowTokens d.style t) ++ [.text " SELECT 1 FROM DUAL"]

theorem insertBatch_eq_ok_iff {d : Dialect} {t : Table} {rows : List UpdateRow} {s : Statement} :
  d.insertBatch t rows = .ok s
    ↔ ∃ first, checkBatch rows = .ok first ∧ AllPass (d.batchTokens t first rows)
      ∧ ⟨Token.written d.quoting (d.batchTokens t first rows),
        (d.batchTokens t first rows).flatMap Token.params⟩ = s
  := by
  rw [insertBatch, Mutation.insertBatch_eq]
  cases checkBatch rows with
  | error e => simp [Except.map, Except.bind]
  | ok first =>
    simp only [Except.map, Except.bind, Except.ok.injEq, exists_eq_left']
    exact Token.ofTokens_eq_ok_iff_allPass

variable {d : Dialect} {t : Table} {first : UpdateRow} {rows : List UpdateRow}

/-- The tokens of a batch pass if those of every row do. -/
theorem allPass_batchTokens_iff (hfirst : first ∈ rows)
    (hsame : ∀ row ∈ rows, row.columnNames = first.columnNames) :
  AllPass (d.batchTokens t first rows) ↔ ∀ row ∈ rows, AllPass (rowTokens d.style t row)
  := by
  unfold batchTokens
  cases d.batches with
  | insertAll =>
    have hrows : AllPass (rows.flatMap (rowTokens d.style t))
        ↔ ∀ row ∈ rows, AllPass (rowTokens d.style t row) := List.forall_mem_flatMap
    simp [hrows]
  | tuples =>
    have htarget : (∀ row ∈ rows, AllPass (insertTarget t row)) ↔ AllPass (insertTarget t first) := by
      constructor
      · exact fun h => h first hfirst
      · intro h row hrow
        rwa [insertTarget_congr t (hsame row hrow)]
    simp [allPass_rowTokens_iff, forall_and, htarget]

/-- A batch binds the values of its rows. -/
theorem params_batchTokens :
  (d.batchTokens t first rows).flatMap Token.params
    = (rows.map (d.single t)).flatMap Statement.params
  := by
  rw [List.flatMap_map]
  simp only [params_single]
  unfold batchTokens
  cases d.batches with
  | insertAll => simp [List.flatMap_assoc, rowTokens, params_insertTarget]
  | tuples => simp [List.flatMap_map, params_insertTarget]

/-- The text of the values of a row, in parentheses. -/
def tupleText (d : Dialect) (row : UpdateRow) : String :=
  Token.written d.quoting (valueTuple d.style row)

/-- How the text of a batch is made of the texts of the single statements of its rows.  With
tuples these have a beginning in common and end in their values; the batch is the first of
them with the values of the further rows behind it.  Otherwise all single statements stand
behind `INSERT ALL`, each without its first word. -/
def JoinsTexts (d : Dialect) (rows : List UpdateRow) (singles : List Statement) (sql : String) :
    Prop :=
  match d.batches with
  | .tuples =>
    (∃ beginning, singles.map Statement.sql = rows.map fun row => beginning ++ d.tupleText row)
      ∧ ∃ single ∈ singles.head?,
        sql = single.sql ++ String.join (rows.tail.map fun row => ", " ++ d.tupleText row)
  | .insertAll =>
    ∃ texts, singles.map Statement.sql = texts.map ("INSERT" ++ ·)
      ∧ sql = "INSERT ALL" ++ String.join texts ++ " SELECT 1 FROM DUAL"

end Dialect

/-- Texts with a separator between them are the first one and the others with the separator
before them. -/
theorem Text.joinWith_cons (separator s : String) (rest : List String) :
  joinWith separator (s :: rest) = s ++ String.join (rest.map (separator ++ ·))
  := by
  induction rest generalizing s with
  | nil => simp [joinWith]
  | cons next rest ih =>
    rw [joinWith, ih, List.map_cons, String.join_cons]
    · simp only [String.append_assoc]
    · intro h
      cases h

theorem Token.written_flatMap {α : Type} (quoting : Quoting) (f : α → List Token) (xs : List α) :
  written quoting (xs.flatMap f) = String.join (xs.map fun x => written quoting (f x))
  := by
  induction xs with
  | nil => rfl
  | cons x xs ih => rw [List.flatMap_cons, written_append, ih, List.map_cons, String.join_cons]

namespace Dialect

open Mutation

variable {d : Dialect} {t : Table} {first : UpdateRow} {rows : List UpdateRow}

theorem sql_single (d : Dialect) (t : Table) (row : UpdateRow) :
  (d.single t row).sql
    = "INSERT" ++ Token.written d.quoting (insertTarget t row) ++ " VALUES " ++ d.tupleText row
  := by
  simp [single, rowTokens, tupleText, Token.written_append, Token.written_cons, Token.toText,
    String.append_assoc]

theorem joinsTexts_batchTokens {rest : List UpdateRow}
    (hsame : ∀ row ∈ rest, row.columnNames = first.columnNames) :
  d.JoinsTexts (first :: rest) ((first :: rest).map (d.single t))
    (Token.written d.quoting (d.batchTokens t first (first :: rest)))
  := by
  unfold JoinsTexts batchTokens
  cases d.batches with
  | tuples =>
    let beginning := "INSERT" ++ Token.written d.quoting (insertTarget t first) ++ " VALUES "
    constructor
    · use beginning
      rw [List.map_map, List.map_inj_left]
      intro row hrow
      have hrow : row.columnNames = first.columnNames := by
        obtain rfl | hrow := List.mem_cons.mp hrow
        · rfl
        · exact hsame row hrow
      rw [Function.comp_apply, sql_single, insertTarget_congr t hrow]
    · use d.single t first, rfl
      rw [sql_single, Token.written_append, Token.written_cons, Token.written_cons,
        Token.written_separated, List.map_map, List.map_cons, Text.joinWith_cons, List.map_map]
      simp only [Token.toText, String.append_assoc]
      rfl
  | insertAll =>
    use (first :: rest).map fun row => Token.written d.quoting (rowTokens d.style t row)
    constructor
    · rw [List.map_map, List.map_map]
      rfl
    · rw [Token.written_append, Token.written_cons, Token.written_flatMap]
      rfl

/-- There is a batch exactly if there are rows, all of them set the same columns and every row
can be inserted by itself. -/
theorem exists_insertBatch_iff :
  (∃ s, d.insertBatch t rows = .ok s)
    ↔ rows ≠ [] ∧ (∃ names, ∀ row ∈ rows, row.columnNames = names)
      ∧ ∀ row ∈ rows, ∃ s, d.insert t row = .ok s
  := by
  simp only [insert_eq_ok_iff, exists_eq_right', insertBatch_eq_ok_iff, checkBatch_eq_ok_iff]
  constructor
  · rintro ⟨_, first, ⟨hhead, hfirst, hsame⟩, hpass, -⟩
    have hmem : first ∈ rows := List.mem_of_head? hhead
    have hpass := (allPass_batchTokens_iff hmem hsame).mp hpass
    use List.ne_nil_of_mem hmem, ⟨_, hsame⟩
    intro row hrow
    constructor
    · -- a row without columns would not set those of the first one
      intro hempty
      have hnames := hsame row hrow
      rw [UpdateRow.columnNames, hempty, List.map_nil] at hnames
      exact hfirst (List.map_eq_nil_iff.mp hnames.symm)
    · apply hpass row hrow
  · rintro ⟨hrows, ⟨names, hsame⟩, hall⟩
    obtain ⟨first, rest, rfl⟩ := List.exists_cons_of_ne_nil hrows
    have hmem : first ∈ first :: rest := List.mem_cons_self
    have hsame : ∀ row ∈ first :: rest, row.columnNames = first.columnNames := by
      intro row hrow
      rw [hsame row hrow, hsame first hmem]
    have hpass := (allPass_batchTokens_iff hmem hsame).mpr fun row hrow => (hall row hrow).2
    exact ⟨_, first, ⟨rfl, (hall first hmem).1, hsame⟩, hpass, rfl⟩

/-- A batch of tuples with one row is written as the row by itself. -/
theorem insertBatch_singleton (htuples : d.batches = .tuples) (row : UpdateRow) :
  d.insertBatch t [row] = d.insert t row
  := by
  have hcheck : checkBatch [row] = (checkRow row "insert").map fun _ => row := by
    rw [checkBatch]
    cases checkRow row "insert" <;> rfl
  rw [insertBatch, Mutation.insertBatch_eq, htuples, hcheck, insert, insert_eq]
  cases checkRow row "insert" with
  | error e => rfl
  | ok _ => simp [Except.map, Except.bind, rowTokens, Token.separated]

/-- A batch is the single statements of its rows put together: it exists exactly if there are
rows, all of them set the same columns and every row can be inserted by itself; then it binds
what the single statements bind, in their order, and its text is made of theirs.  With tuples,
as the common dialects and that of ClickHouse have them, a batch of one row is its single
statement, also in its errors. -/
theorem insertBatch_of_singles (d : Dialect) (t : Table) (rows : List UpdateRow) :
  ((∃ s, d.insertBatch t rows = .ok s)
      ↔ rows ≠ [] ∧ (∃ names, ∀ row ∈ rows, row.columnNames = names)
        ∧ ∀ row ∈ rows, ∃ s, d.insert t row = .ok s)
    ∧ (∀ s, d.insertBatch t rows = .ok s → ∃ singles, rows.mapM (d.insert t) = .ok singles
        ∧ s.params = singles.flatMap Statement.params ∧ d.JoinsTexts rows singles s.sql)
    ∧ (d.batches = .tuples → ∀ row, rows = [row] → d.insertBatch t rows = d.insert t row)
  := by
  refine ⟨exists_insertBatch_iff, ?_, ?_⟩
  · intro s hs
    have hall := (exists_insertBatch_iff.mp ⟨s, hs⟩).2.2
    simp only [insert_eq_ok_iff, exists_eq_right'] at hall
    obtain ⟨first, hcheck, -, rfl⟩ := insertBatch_eq_ok_iff.mp hs
    obtain ⟨rest, rfl⟩ := head_of_checkBatch hcheck
    have hsame := (checkBatch_eq_ok_iff.mp hcheck).2.2
    use (first :: rest).map (d.single t), mapM_insert_eq_ok hall, params_batchTokens
    apply joinsTexts_batchTokens (List.forall_mem_cons.mp hsame).2
  · rintro htuples row rfl
    apply insertBatch_singleton htuples row

end Dialect

/-- Two articles, the second with a title from a query and a text of the caller. -/
def twoArticles : List UpdateRow :=
  let title : Query :=
    { Query.empty with
      columns := [⟨.named none "name", none⟩]
      sources := [⟨.named none "tb_account", none⟩]
      filter := .predicate ⟨.named none "id", none⟩ .eq (.value (.int 5)) }
  [⟨[("title", .value (.string "First")), ("views", .value (.int 0))]⟩,
    ⟨[("title", .query title), ("views", .raw "1 + ?" [.int 2])]⟩]

/-- Both articles are inserted at once, with tuples and by `INSERT ALL`. -/
theorem insertBatch_of_singles_twoArticles :
  (∃ s, (Dialect.builtIn .mysql).insertBatch ⟨.named none "tb_article", none⟩ twoArticles = .ok s)
    ∧ ∃ s singles,
      (Dialect.builtIn .oracle).insertBatch ⟨.named none "tb_article", none⟩ twoArticles = .ok s
      ∧ twoArticles.mapM ((Dialect.builtIn .oracle).insert ⟨.named none "tb_article", none⟩)
        = .ok singles
      ∧ s.params = [.string "First", .int 0, .int 5, .int 2]
      ∧ (Dialect.builtIn .oracle).JoinsTexts twoArticles singles s.sql
  := by
  constructor
  · apply (Dialect.insertBatch_of_singles _ _ twoArticles).1.mpr
    constructor
    · apply List.cons_ne_nil
    · constructor
      · use ["title", "views"]
        simp [twoArticles, UpdateRow.columnNames]
      · simp only [twoArticles, List.forall_mem_cons]
        exact ⟨⟨_, rfl⟩, ⟨_, rfl⟩, List.forall_mem_nil _⟩
  · obtain ⟨s, hs⟩ : ∃ s, (Dialect.builtIn .oracle).insertBatch
        ⟨.named none "tb_article", none⟩ twoArticles = .ok s := ⟨_, rfl⟩
    obtain ⟨singles, hsingles, hparams, htext⟩ := (Dialect.insertBatch_of_singles _ _ _).2.1 s hs
    use s, singles, hs, hsingles
    constructor
    · have hboth : twoArticles.mapM
          ((Dialect.builtIn .oracle).insert ⟨.named none "tb_article", none⟩) = .ok [_, _] := rfl
      rw [hboth] at hsingles
      cases hsingles
      apply hparams
    · apply htext

end SqlRender
