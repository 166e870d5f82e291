import SqlRender.Paging
import SqlRender.Proofs.Lexemes
import SqlRender.Proofs.Numerals

/-!
# Clauses that limit rows

The strategies of paging write the numbers of a window in different ways: as rows to skip and
rows to take, as the first and the last row, as the last row and the one above the first, or
as rows to take from the first.  A `RowClause` is what a database reads, and it selects rows
by their positions.  What every strategy writes is read as its clause:
`PagingStrategy.clause?_of_windowText?`.
-/

namespace SqlRender

/-! ### Clauses -/

/-- A clause that selects rows by their positions, counted from one. -/
inductive RowClause where
  /-- So many rows are skipped and so many are taken. -/
  | skipTake (skip take : Nat)
  /-- The rows from the first to the last. -/
  | fromTo (first last : Nat)
  /-- The rows up to the last that are above a limit. -/
  | upToAbove (last limit : Nat)
  /-- So many rows are taken from the first. -/
  | takeFrom (take first : Nat)
  deriving DecidableEq

namespace RowClause

/-- Whether the row at a position is selected. -/
def Selects : RowClause → Nat → Prop
  | skipTake skip take, k => skip < k ∧ k ≤ skip + take
  | fromTo first last, k => first ≤ k ∧ k ≤ last
  | upToAbove last limit, k => k ≤ last ∧ limit < k
  | takeFrom take first, k => first ≤ k ∧ k < first + take

/-- A clause of two numbers, from their digits. -/
def ofNumbers? (clause : Nat → Nat → RowClause) (m n : String) : Option RowClause :=
  match Numeral.natural? m.toList, Numeral.natural? n.toList with
  | some m, some n => some (clause m n)
  | _, _ => none

/-- The clause that words and signs make. -/
def ofWords? : List String → Option RowClause
  | ["LIMIT", skip, ",", take] => ofNumbers? skipTake skip take
  | ["LIMIT", take, "OFFSET", skip] => ofNumbers? (fun take skip => skipTake skip take) take skip
  | ["OFFSET", skip, "ROWS", "FETCH", "NEXT", take, "ROWS", "ONLY"] => ofNumbers? skipTake skip take
  | ["SKIP", skip, "FIRST", take] => ofNumbers? skipTake skip take
  | ["SKIP", skip, "LIMIT", take] => ofNumbers? skipTake skip take
  | ["TOP", take, "START", "AT", first] => ofNumbers? takeFrom take first
  | [")", "TEMP_DATAS", "WHERE", "ROWNUM", "<", "=", last, ")", "WHERE", "RN", ">", limit] =>
    ofNumbers? upToAbove last limit
  | [")", "AS", "TEMP_DATAS", ")", "WHERE", "RN", "BETWEEN", first, "AND", last] =>
    ofNumbers? fromTo first last
  | ["FROM", "temp_datas", "WHERE", "__rn", "BETWEEN", first, "AND", last, "ORDER", "BY", "__rn"] =>
    ofNumbers? fromTo first last
  | _ => none

end RowClause

/-- A lexeme as it is written, a text in quotes with its first quote. -/
def Lexeme.written : Lexeme → String
  | word cs => String.ofList cs
  | quoted quote cs => String.ofList (quote :: cs)
  | sign c => String.ofList [c]
  | unclosed quote cs => String.ofList (quote :: cs)

/-- The clause that a database reads in a text. -/
def RowClause.read? (q : Quoting) (text : String) : Option RowClause :=
  ofWords? ((q.lexemes text.toList).map Lexeme.written)

/-! ### Numbers -/

theorem toList_rowText (n : UInt64) :
  (rowText n).toList = Nat.toDigits 10 n.toNat
  := Nat.toList_repr

/-- The digits of a number write it. -/
theorem natural?_rowText (n : UInt64) :
  Numeral.natural? (rowText n).toList = some n.toNat
  := by
  rw [toList_rowText]
  apply Numeral.natural?_toDigits

theorem isDigit_of_mem_rowText {n : UInt64} {c : Char} (h : c ∈ (rowText n).toList) :
  c.isDigit = true
  := Numeral.isDigit_of_natural? (natural?_rowText n) c h

theorem ofNumbers?_rowText (clause : Nat → Nat → RowClause) (m n : UInt64) :
  RowClause.ofNumbers? clause (rowText m) (rowText n) = some (clause m.toNat n.toNat)
  := by
  simp [RowClause.ofNumbers?, natural?_rowText]

section

variable {q : Quoting}

/-- A number is read as a word. -/
theorem lexemesFrom_rowText (n : UInt64) {rest : List Char} (hrest : Lexing.EndsWord rest) :
  Lexing.lexemesFrom q .between ((rowText n).toList ++ rest)
    = .word (rowText n).toList :: Lexing.lexemesFrom q .between rest
  := by
  have hwords : ∀ c ∈ (rowText n).toList, Lexeme.inWord c = true := by
    intro c hc
    apply Lexeme.inWord_of_isAlphanum
    simp [Char.isAlphanum, isDigit_of_mem_rowText hc]
  cases hcs : (rowText n).toList with
  | nil =>
    rw [toList_rowText] at hcs
    exact absurd hcs Nat.toDigits_ne_nil
  | cons c cs =>
    rw [hcs] at hwords
    apply Lexing.lexemesFrom_between_word hwords hrest

/-! ### Texts without quotes -/

/-- The first quotes of texts in quotes. -/
def openingMarks : List Char :=
  ['\'', '"', '\x60', '[']

/-- Where there are no quotes, the same begins under every quoting. -/
theorem start_eq_bare {c : Char} (h : c ∉ openingMarks) :
  Lexing.start q c = Lexing.start .bare c
  := by
  simp only [openingMarks, List.mem_cons, List.not_mem_nil, or_false, not_or] at h
  cases q <;> simp [Lexing.start, Quoting.closing?, Quoting.marks?, h]

theorem step_eq_bare {c : Char} (h : c ∉ openingMarks) (s : Lexing) :
  s.step q c = s.step .bare c
  := by
  cases s <;> simp only [Lexing.step, start_eq_bare (q := q) h]

theorem lexemesFrom_eq_bare {cs : List Char} (h : ∀ c ∈ cs, c ∉ openingMarks) (s : Lexing) :
  Lexing.lexemesFrom q s cs = Lexing.lexemesFrom .bare s cs
    ∧ Lexing.behind q s cs = Lexing.behind .bare s cs
  := by
  induction cs generalizing s with
  | nil => exact ⟨rfl, rfl⟩
  | cons c cs ih =>
    rw [List.forall_mem_cons] at h
    obtain ⟨hlexemes, hbehind⟩ := ih h.2 (s.step .bare c).2
    simp only [Lexing.lexemesFrom, Lexing.behind, step_eq_bare (q := q) h.1]
    exact ⟨by rw [hlexemes], hbehind⟩

/-- A text without quotes that is read as words and signs. -/
structure ReadsAs (text : String) (words : List String) : Prop where
  plain : text.toList.all (fun c => !openingMarks.contains c) = true
  words : (Quoting.bare.lexemes text.toList).map Lexeme.written = words

/-- A text behind which another lexeme begins. -/
structure ReadsBefore (text : String) (words : List String) : Prop extends ReadsAs text words where
  ends : Lexing.behind .bare .between text.toList = .between

theorem ReadsAs.notMem_openingMarks {text : String} {words : List String} (h : ReadsAs text words) :
  ∀ c ∈ text.toList, c ∉ openingMarks
  := by
  simpa using h.plain

theorem ReadsAs.map_written {text : String} {words : List String} (h : ReadsAs text words) :
  (q.lexemes text.toList).map Lexeme.written = words
  := by
  rw [Quoting.lexemes, (lexemesFrom_eq_bare h.notMem_openingMarks .between).1]
  exact h.words

theorem ReadsBefore.behind {text : String} {words : List String} (h : ReadsBefore text words) :
  Lexing.behind q .between text.toList = .between
  := by
  rw [(lexemesFrom_eq_bare h.notMem_openingMarks .between).2]
  exact h.ends

/-- Two numbers between texts are read as words between those of the texts. -/
theorem read?_twoNumbers {before middle after : String} {front inner back : List String}
    (hbefore : ReadsBefore before front) (hmiddle : ReadsBefore middle inner)
    (hafter : ReadsAs after back)
    (hends : ∃ c cs, middle.toList = c :: cs ∧ Lexeme.inWord c = false)
    (hend : Lexing.EndsWord after.toList) (m n : UInt64) :
  RowClause.read? q (before ++ rowText m ++ middle ++ rowText n ++ after)
    = RowClause.ofWords? (front ++ rowText m :: (inner ++ rowText n :: back))
  := by
  have hword : ∀ n, (Lexeme.word (rowText n).toList).written = rowText n :=
    fun n => String.ofList_toList
  have hrest : Lexing.EndsWord (middle.toList ++ ((rowText n).toList ++ after.toList)) := by
    obtain ⟨c, cs, hcs, hc⟩ := hends
    rw [hcs]
    exact hc
  have hlexemes : q.lexemes (before ++ rowText m ++ middle ++ rowText n ++ after).toList
      = q.lexemes before.toList ++ .word (rowText m).toList
        :: (q.lexemes middle.toList ++ .word (rowText n).toList :: q.lexemes after.toList) := by
    simp only [Quoting.lexemes, String.toList_append, List.append_assoc]
    rw [Lexing.lexemesFrom_append hbefore.behind, lexemesFrom_rowText m hrest,
      Lexing.lexemesFrom_append hmiddle.behind, lexemesFrom_rowText n hend]
  rw [RowClause.read?, hlexemes]
  simp only [List.map_append, List.map_cons, hword, hbefore.map_written, hmiddle.map_written,
    hafter.map_written]

/-- The second number may be the end of the text. -/
theorem read?_twoNumbers_end {before middle : String} {front inner : List String}
    (hbefore : ReadsBefore before front) (hmiddle : ReadsBefore middle inner)
    (hends : ∃ c cs, middle.toList = c :: cs ∧ Lexeme.inWord c = false) (m n : UInt64) :
  RowClause.read? q (before ++ rowText m ++ middle ++ rowText n)
    = RowClause.ofWords? (front ++ rowText m :: (inner ++ [rowText n]))
  := by
  have hafter : ReadsAs "" [] := ⟨rfl, rfl⟩
  have h := read?_twoNumbers (q := q) hbefore hmiddle hafter hends trivial m n
  rwa [String.append_empty] at h

end

/-! ### What the strategies write -/

/-- The text of a layout that limits the rows. -/
def PageLayout.windowText? : PageLayout → Option String
  | .inline (some h) _ => some h.text
  | .inline none tail => tail
  | .wrapped _ after => some after
  | .numbered first last =>
    some (" FROM temp_datas WHERE __rn BETWEEN " ++ rowText first ++ " AND " ++ rowText last
      ++ " ORDER BY __rn")

/-- The clause by which a strategy asks for rows behind an offset. -/
def PagingStrategy.clause? (s : PagingStrategy) (offset rows : UInt64) : Option RowClause :=
  let w : Window := ⟨some offset, rows⟩
  match s with
  | limitPair | limitOffset | topOrFetch | offsetFetch | skipFirst | skipLimit =>
    some (.skipTake offset.toNat rows.toNat)
  | rowNumber | rowNumberOver => some (.fromTo w.firstRow.toNat w.lastRow.toNat)
  | rowNum => some (.upToAbove w.lastRow.toNat offset.toNat)
  | topStartAt => some (.takeFrom rows.toNat w.firstRow.toNat)
  | unpaged => none

theorem PagingStrategy.exists_clause? {s : PagingStrategy} (h : s ≠ .unpaged)
    (offset rows : UInt64) :
  ∃ clause, s.clause? offset rows = some clause
  := by
  cases s with
  | unpaged => exact absurd rfl h
  | _ => exact ⟨_, rfl⟩

/-- The clauses of the rows to skip and of the rows to take are read as one. -/
theorem read?_fetchText (q : Quoting) (offset rows : UInt64) :
  RowClause.read? q (PagingStrategy.fetchText offset rows)
    = some (.skipTake offset.toNat rows.toNat)
  := by
  have hbefore : ReadsBefore "OFFSET " ["OFFSET"] := ⟨⟨rfl, rfl⟩, rfl⟩
  have hmiddle : ReadsBefore " ROWS FETCH NEXT " ["ROWS", "FETCH", "NEXT"] :=
      ⟨⟨rfl, rfl⟩, rfl⟩
  have hafter : ReadsAs " ROWS ONLY" ["ROWS", "ONLY"] := ⟨rfl, rfl⟩
  have h := read?_twoNumbers (q := q) hbefore hmiddle hafter ⟨_, _, rfl, rfl⟩ rfl offset rows
  exact h.trans (ofNumbers?_rowText ..)

theorem PagingStrategy.clause?_of_read? {q : Quoting} {s : PagingStrategy} {w : Window}
    {text : String} {clause : Option RowClause} (htext : (s.layout w).windowText? = some text)
    (hread : RowClause.read? q text = clause) :
  (s.layout w).windowText?.bind (RowClause.read? q) = clause
  := by
  rw [htext]
  exact hread

/-- What a strategy writes is read as its clause. -/
theorem PagingStrategy.clause?_of_windowText? (q : Quoting) (s : PagingStrategy)
    (offset rows : UInt64) :
  (s.layout ⟨some offset, rows⟩).windowText?.bind (RowClause.read? q) = s.clause? offset rows
  := by
  let w : Window := ⟨some offset, rows⟩
  have hlimit : ReadsBefore "LIMIT " ["LIMIT"] := ⟨⟨rfl, rfl⟩, rfl⟩
  cases s with
  | limitPair =>
    have hmiddle : ReadsBefore ", " [","] := ⟨⟨rfl, rfl⟩, rfl⟩
    have h := read?_twoNumbers_end (q := q) hlimit hmiddle ⟨_, _, rfl, rfl⟩ offset rows
    exact clause?_of_read? rfl (h.trans (ofNumbers?_rowText ..))
  | limitOffset =>
    have hmiddle : ReadsBefore " OFFSET " ["OFFSET"] := ⟨⟨rfl, rfl⟩, rfl⟩
    have h := read?_twoNumbers_end (q := q) hlimit hmiddle ⟨_, _, rfl, rfl⟩ rows offset
    exact clause?_of_read? rfl (h.trans (ofNumbers?_rowText ..))
  | topOrFetch => exact clause?_of_read? rfl (read?_fetchText q offset rows)
  | offsetFetch => exact clause?_of_read? rfl (read?_fetchText q offset rows)
  | rowNumber =>
    have hbefore : ReadsBefore " FROM temp_datas WHERE __rn BETWEEN "
        ["FROM", "temp_datas", "WHERE", "__rn", "BETWEEN"] := ⟨⟨rfl, rfl⟩, rfl⟩
    have hmiddle : ReadsBefore " AND " ["AND"] := ⟨⟨rfl, rfl⟩, rfl⟩
    have hafter : ReadsAs " ORDER BY __rn" ["ORDER", "BY", "__rn"] := ⟨rfl, rfl⟩
    have h := read?_twoNumbers (q := q) hbefore hmiddle hafter ⟨_, _, rfl, rfl⟩ rfl w.firstRow
      w.lastRow
    exact clause?_of_read? rfl (h.trans (ofNumbers?_rowText ..))
  | rowNum =>
    have hbefore : ReadsBefore ") TEMP_DATAS WHERE ROWNUM <= "
        [")", "TEMP_DATAS", "WHERE", "ROWNUM", "<", "="] := ⟨⟨rfl, rfl⟩, rfl⟩
    have hmiddle : ReadsBefore ") WHERE RN > " [")", "WHERE", "RN", ">"] := ⟨⟨rfl, rfl⟩, rfl⟩
    have h := read?_twoNumbers_end (q := q) hbefore hmiddle ⟨_, _, rfl, rfl⟩ w.lastRow offset
    exact clause?_of_read? rfl (h.trans (ofNumbers?_rowText ..))
  | rowNumberOver =>
    have hbefore : ReadsBefore ") AS TEMP_DATAS) WHERE RN BETWEEN "
        [")", "AS", "TEMP_DATAS", ")", "WHERE", "RN", "BETWEEN"] := ⟨⟨rfl, rfl⟩, rfl⟩
    have hmiddle : ReadsBefore " AND " ["AND"] := ⟨⟨rfl, rfl⟩, rfl⟩
    have h := read?_twoNumbers_end (q := q) hbefore hmiddle ⟨_, _, rfl, rfl⟩ w.firstRow w.lastRow
    exact clause?_of_read? rfl (h.trans (ofNumbers?_rowText ..))
  | skipFirst =>
    have hbefore : ReadsBefore "SKIP " ["SKIP"] := ⟨⟨rfl, rfl⟩, rfl⟩
    have hmiddle : ReadsBefore " FIRST " ["FIRST"] := ⟨⟨rfl, rfl⟩, rfl⟩
    have h := read?_twoNumbers_end (q := q) hbefore hmiddle ⟨_, _, rfl, rfl⟩ offset rows
    exact clause?_of_read? rfl (h.trans (ofNumbers?_rowText ..))
  | skipLimit =>
    have hbefore : ReadsBefore "SKIP " ["SKIP"] := ⟨⟨rfl, rfl⟩, rfl⟩
    have hmiddle : ReadsBefore " LIMIT " ["LIMIT"] := ⟨⟨rfl, rfl⟩, rfl⟩
    have h := read?_twoNumbers_end (q := q) hbefore hmiddle ⟨_, _, rfl, rfl⟩ offset rows
    exact clause?_of_read? rfl (h.trans (ofNumbers?_rowText ..))
  | topStartAt =>
    have hbefore : ReadsBefore "TOP " ["TOP"] := ⟨⟨rfl, rfl⟩, rfl⟩
    have hmiddle : ReadsBefore " START AT " ["START", "AT"] := ⟨⟨rfl, rfl⟩, rfl⟩
    have h := read?_twoNumbers_end (q := q) hbefore hmiddle ⟨_, _, rfl, rfl⟩ rows w.firstRow
    exact clause?_of_read? rfl (h.trans (ofNumbers?_rowText ..))
  | unpaged => rfl

end SqlRender
