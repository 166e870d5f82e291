import Mathlib
import SqlRender.Proofs.PageRun
import SqlRender.Proofs.RowClauses
import SqlRender.Proofs.Tokens

/-!
# The rows of pages

The pages of a result are its rows put end to end: every row is on one page, and no page is
empty.  Numbers of 64 bits are enough for the offsets of all pages; the last row of the last
page may be beyond them, where the greatest number stands in its place and selects the same
rows.  Whatever clause a strategy writes, it selects the rows of the page:
`Paginator.pages_partition`.
-/

namespace SqlRender

/-! ### Numbers of 64 bits -/

theorem toNat_saturatingAdd (a b : UInt64) :
  (saturatingAdd a b).toNat = min (a.toNat + b.toNat) 18446744073709551615
  := by
  rw [saturatingAdd, UInt64.toNat_ofNat_of_lt']
  · rfl
  · simp only [UInt64.size]
    omega

theorem toNat_saturatingMul (a b : UInt64) :
  (saturatingMul a b).toNat = min (a.toNat * b.toNat) 18446744073709551615
  := by
  rw [saturatingMul, UInt64.toNat_ofNat_of_lt']
  · rfl
  · simp only [UInt64.size]
    omega

theorem toNat_pos {n : UInt64} (h : n ≠ 0) :
  0 < n.toNat
  := UInt64.lt_iff_toNat_lt.mp (UInt64.pos_iff_ne_zero.mpr h)

/-- There are not more pages than numbers. -/
theorem toNat_pageCount (rows : UInt64) {size : UInt64} (hsize : size ≠ 0) :
  (pageCount rows size).toNat = (rows.toNat + size.toNat - 1) / size.toNat
  := by
  have hrows := rows.toNat_lt
  have hpos : 0 < size.toNat := toNat_pos hsize
  rw [pageCount, if_neg hsize, UInt64.toNat_ofNat_of_lt']
  apply Nat.div_lt_of_lt_mul
  simp only [UInt64.size]
  omega

namespace PageRequest

/-! ### Positions -/

/-- Whether a request is for one of the pages of a result of so many rows. -/
structure IsPageOf (r : PageRequest) (total size : UInt64) : Prop where
  size : r.size = size
  number : r.number ≠ 0
  isWithin : r.IsWithin total

/-- The positions of the rows of a page in a result of so many rows, counted from one. -/
def positions (r : PageRequest) (total : UInt64) : Set Nat :=
  {k | r.offset.toNat < k ∧ k ≤ r.offset.toNat + r.size.toNat ∧ k ≤ total.toNat}

variable {r : PageRequest} {total size : UInt64}

theorem mem_positions {k : Nat} :
  k ∈ r.positions total ↔
    r.offset.toNat < k ∧ k ≤ r.offset.toNat + r.size.toNat ∧ k ≤ total.toNat
  := by
  rw [positions, Set.mem_ofPred_eq]

/-- The page before a page is not beyond the result. -/
theorem IsPageOf.pred_mul_lt (hsize : size ≠ 0) (h : r.IsPageOf total size) :
  (r.number.toNat - 1) * size.toNat < total.toNat
  := by
  obtain ⟨rfl, hnumber, htotal, hwithin⟩ := h
  have hpos : 0 < r.size.toNat := toNat_pos hsize
  have hrows : 0 < total.toNat := UInt64.lt_iff_toNat_lt.mp htotal
  rw [UInt64.le_iff_toNat_le, toNat_pageCount total hsize, Nat.le_div_iff_mul_le hpos] at hwithin
  rw [Nat.sub_one_mul]
  omega

/-- The offset of a page is exact. -/
theorem IsPageOf.toNat_offset (hsize : size ≠ 0) (h : r.IsPageOf total size) :
  r.offset.toNat = (r.number.toNat - 1) * size.toNat
  := by
  have hlt := h.pred_mul_lt hsize
  have htotal := total.toNat_lt
  have hpred : (UInt64.ofNat (r.number.toNat - 1)).toNat = r.number.toNat - 1 := by
    apply UInt64.toNat_ofNat_of_lt'
    have := r.number.toNat_lt
    simp only [UInt64.size]
    omega
  rw [offset, toNat_saturatingMul, hpred, h.size]
  omega

theorem IsPageOf.offset_lt (hsize : size ≠ 0) (h : r.IsPageOf total size) :
  r.offset < total
  := by
  rw [UInt64.lt_iff_toNat_lt, h.toNat_offset hsize]
  apply h.pred_mul_lt hsize

/-- The number of a page tells the rows on it. -/
theorem IsPageOf.mem_positions_iff (hsize : size ≠ 0) (h : r.IsPageOf total size) {k : Nat} :
  k ∈ r.positions total ↔ 1 ≤ k ∧ k ≤ total.toNat ∧ (k - 1) / size.toNat = r.number.toNat - 1
  := by
  have hpos : 0 < size.toNat := toNat_pos hsize
  rw [Nat.div_eq_iff hpos]
  rw [mem_positions, h.toNat_offset hsize, h.size]
  omega

/-- There is a row on every page. -/
theorem IsPageOf.positions_nonempty (hsize : size ≠ 0) (h : r.IsPageOf total size) :
  (r.positions total).Nonempty
  := by
  have hpos : 0 < size.toNat := toNat_pos hsize
  have hlt := UInt64.lt_iff_toNat_lt.mp (h.offset_lt hsize)
  use r.offset.toNat + 1
  rw [mem_positions, h.size]
  omega

/-- Every row is on a page. -/
theorem exists_isPageOf (hsize : size ≠ 0) {k : Nat} (hk : 1 ≤ k) (htotal : k ≤ total.toNat) :
  ∃ r : PageRequest, r.IsPageOf total size ∧ k ∈ r.positions total
  := by
  have hpos : 0 < size.toNat := toNat_pos hsize
  have hlt := total.toNat_lt
  have hle : (k - 1) / size.toNat * size.toNat ≤ k - 1 := Nat.div_mul_le_self ..
  have hdiv : (k - 1) / size.toNat ≤ k - 1 := Nat.div_le_self ..
  obtain ⟨number, hnumber⟩ : ∃ n : UInt64, n.toNat = (k - 1) / size.toNat + 1 := by
    refine ⟨UInt64.ofNat _, UInt64.toNat_ofNat_of_lt' ?_⟩
    simp only [UInt64.size]
    omega
  have hpage : (of number size).IsPageOf total size := by
    constructor
    · rfl
    · rintro rfl
      cases hnumber
    · constructor
      · rw [UInt64.lt_iff_toNat_lt]
        exact Nat.lt_of_lt_of_le hk htotal
      · change number ≤ pageCount total size
        rw [UInt64.le_iff_toNat_le, toNat_pageCount total hsize, Nat.le_div_iff_mul_le hpos,
          hnumber, Nat.add_one_mul]
        omega
  refine ⟨_, hpage, (hpage.mem_positions_iff hsize).mpr ⟨hk, htotal, ?_⟩⟩
  exact Nat.eq_sub_of_add_eq hnumber.symm

/-! ### The clauses of a page -/

/-- The clause of every strategy selects the rows of the page.  Where the greatest number
stands in place of the last row, there are no rows beyond it. -/
theorem IsPageOf.selects_clause? (hsize : size ≠ 0) (h : r.IsPageOf total size)
    {s : PagingStrategy} {clause : RowClause} (hclause : s.clause? r.offset r.size = some clause)
    {k : Nat} (htotal : k ≤ total.toNat) :
  clause.Selects k ↔ k ∈ r.positions total
  := by
  have hlt := total.toNat_lt
  have hoffset := UInt64.lt_iff_toNat_lt.mp (h.offset_lt hsize)
  have hfirst : (Window.mk (some r.offset) r.size).firstRow.toNat = r.offset.toNat + 1 := by
    have hone : (1 : UInt64).toNat = 1 := rfl
    rw [Window.firstRow, Option.getD_some, toNat_saturatingAdd, hone]
    omega
  have hlast : (Window.mk (some r.offset) r.size).lastRow.toNat
      = min (r.offset.toNat + r.size.toNat) 18446744073709551615 := by
    rw [Window.lastRow, Option.getD_some, toNat_saturatingAdd]
  rw [mem_positions]
  cases s with
  | limitPair | limitOffset | topOrFetch | offsetFetch | skipFirst | skipLimit =>
    obtain rfl := Option.some.inj hclause
    simp only [RowClause.Selects]
    omega
  | rowNumber | rowNumberOver =>
    obtain rfl := Option.some.inj hclause
    simp only [RowClause.Selects, hfirst, hlast]
    omega
  | rowNum =>
    obtain rfl := Option.some.inj hclause
    simp only [RowClause.Selects, hlast]
    omega
  | topStartAt =>
    obtain rfl := Option.some.inj hclause
    simp only [RowClause.Selects, hfirst]
    omega
  | unpaged => cases hclause

end PageRequest

/-! ### Clauses in statements -/

theorem Token.mem_separated_cons {t : Token} {separator : String} {part : List Token}
    {rest : List (List Token)} (h : t ∈ part) :
  t ∈ separated separator (part :: rest)
  := by
  cases rest with
  | nil => exact h
  | cons next rest => exact List.mem_append_left _ h

/-- The head of a select is written, whether it stands behind a DISTINCT or not. -/
theorem SelectParts.head_mem_list (p : SelectParts) (h : SelectHead) :
  .text h.text ∈ p.list (some h)
  := by
  cases hcolumns : p.columns with
  | nil => simp [list, hcolumns]
  | cons c columns =>
    cases hexprs : p.exprs with
    | nil => simp [list, hcolumns, hexprs]
    | cons expr exprs =>
      by_cases hd : h.afterDistinct && c.isDistinct
      · simp only [list, hcolumns, hexprs, hd, if_true]
        apply Token.mem_separated_cons
        simp
      · simp [list, hcolumns, hexprs, hd]

/-- The text of a layout that limits the rows is written. -/
theorem SelectParts.text_mem_tokens {p : SelectParts} {text : String}
    (h : p.layout.windowText? = some text) (aliasSeparator : String) :
  .text text ∈ p.tokens aliasSeparator
  := by
  apply List.mem_append_left
  unfold paged
  cases hlayout : p.layout with
  | inline head tail =>
    rw [hlayout] at h
    cases head with
    | some head =>
      obtain rfl : head.text = text := Option.some.inj h
      have hmem := p.head_mem_list head
      simp [standard, core, body, hmem]
    | none =>
      obtain rfl : tail = some text := h
      simp
  | wrapped before after =>
    rw [hlayout] at h
    obtain rfl : after = text := Option.some.inj h
    simp
  | numbered first last =>
    rw [hlayout] at h
    obtain rfl := Option.some.inj h
    simp

/-- A text among the tokens of a statement is a part of the statement. -/
theorem Statement.exists_sql_of_mem {quoting : Quoting} {ts : List Token} {s : Statement}
    (hs : Statement.ofTokens quoting ts = .ok s) {text : String} (htext : .text text ∈ ts) :
  ∃ before after, s.sql = before ++ text ++ after
  := by
  obtain ⟨-, rfl⟩ := Statement.ofTokens_eq_ok_iff.mp hs
  obtain ⟨front, back, rfl⟩ := List.append_of_mem htext
  use String.join (front.map (Token.toText quoting)), String.join (back.map (Token.toText quoting))
  simp [String.join_append, String.join_cons, Token.toText, String.append_assoc]

namespace Paginator

/-- The text that limits the rows of the statement of a page. -/
def windowText? (p : Paginator) (r : PageRequest) : Option String :=
  (p.dialect.paging.layoutOf (some r.size) (some r.offset)).windowText?

/-- The text that limits the rows is a part of the statement of a page. -/
theorem exists_sql_of_windowText? {p : Paginator} {r : PageRequest} {q : Query} {text : String}
    (htext : p.windowText? r = some text) {s : Statement} (hs : p.pageStatement r q = .ok s) :
  ∃ before after, s.sql = before ++ text ++ after
  := by
  apply Statement.exists_sql_of_mem hs
  obtain ⟨recursive, ctes, hint, columns, sources, joins, filter, groups, having, order, rows,
    offset, partners, endings⟩ := q
  refine SelectParts.text_mem_tokens ?_ _
  exact htext

/-- The pages of a result: their offsets are exact and within the result, the rows on them are
those that the statements ask for in any dialect, and every row is on just one of them. -/
theorem pages_partition {size : UInt64} (hsize : size ≠ 0) (total : UInt64) :
  (∀ r : PageRequest, r.IsPageOf total size →
      r.offset.toNat = (r.number.toNat - 1) * size.toNat ∧ r.offset < total
        ∧ (r.positions total).Nonempty
        ∧ ∀ p : Paginator, p.dialect.paging ≠ .unpaged →
          ∃ text clause, p.windowText? r = some text
            ∧ RowClause.read? p.dialect.quoting text = some clause
            ∧ (∀ k, k ≤ total.toNat → (clause.Selects k ↔ k ∈ r.positions total))
            ∧ ∀ q s, p.pageStatement r q = .ok s → ∃ before after, s.sql = before ++ text ++ after)
    ∧ (∀ r r' : PageRequest, r.IsPageOf total size → r'.IsPageOf total size →
      r.number ≠ r'.number → Disjoint (r.positions total) (r'.positions total))
    ∧ ⋃ r ∈ {r : PageRequest | r.IsPageOf total size}, r.positions total = Set.Icc 1 total.toNat
  := by
  refine ⟨?pages, ?disjoint, ?cover⟩
  case pages =>
    intro r hr
    refine ⟨hr.toNat_offset hsize, hr.offset_lt hsize, hr.positions_nonempty hsize, ?_⟩
    intro p hpaging
    have hread := p.dialect.paging.clause?_of_windowText? p.dialect.quoting r.offset r.size
    obtain ⟨clause, hclause⟩ := PagingStrategy.exists_clause? hpaging r.offset r.size
    rw [hclause] at hread
    obtain ⟨text, htext, hread⟩ := Option.bind_eq_some_iff.mp hread
    refine ⟨text, clause, htext, hread, ?_, ?_⟩
    · intro k htotal
      apply hr.selects_clause? hsize hclause htotal
    · intro q s hs
      apply exists_sql_of_windowText? htext hs
  case disjoint =>
    intro r r' hr hr' hne
    rw [Set.disjoint_left]
    intro k hk hk'
    obtain ⟨-, -, hpage⟩ := (hr.mem_positions_iff hsize).mp hk
    obtain ⟨-, -, hpage'⟩ := (hr'.mem_positions_iff hsize).mp hk'
    have hnumber := toNat_pos hr.number
    have hnumber' := toNat_pos hr'.number
    apply hne
    apply UInt64.toNat_inj.mp
    omega
  case cover =>
    ext k
    simp only [Set.mem_iUnion, Set.mem_Icc, exists_prop]
    constructor
    · rintro ⟨r, hr, hk⟩
      obtain ⟨hfirst, hlast, -⟩ := (hr.mem_positions_iff hsize).mp hk
      exact ⟨hfirst, hlast⟩
    · rintro ⟨hfirst, hlast⟩
      apply PageRequest.exists_isPageOf hsize hfirst hlast

/-- The second half of the greatest result there is. -/
def secondHalf : PageRequest :=
  .of 2 9223372036854775808

/-- The last row of the second half would be one beyond the greatest number, and the greatest
row is still asked for. -/
theorem pages_partition_secondHalf :
  secondHalf.IsPageOf 18446744073709551615 9223372036854775808
    ∧ secondHalf.offset.toNat + secondHalf.size.toNat = 18446744073709551616
    ∧ ∃ text clause, (Paginator.mk (.builtIn .db2V1005) false).windowText? secondHalf = some text
      ∧ RowClause.read? (Dialect.builtIn .db2V1005).quoting text = some clause
      ∧ clause.Selects 18446744073709551615
  := by
  have hpage : secondHalf.IsPageOf 18446744073709551615 9223372036854775808 :=
    ⟨rfl, by decide, by decide⟩
  have hsize : (9223372036854775808 : UInt64) ≠ 0 := by decide
  obtain ⟨hoffset, -, -, hclause⟩ := (pages_partition hsize 18446744073709551615).1 _ hpage
  have hpaging : (Dialect.builtIn .db2V1005).paging ≠ .unpaged := by decide
  obtain ⟨text, clause, htext, hread, hselects, -⟩ := hclause ⟨.builtIn .db2V1005, false⟩ hpaging
  refine ⟨hpage, by decide, text, clause, htext, hread, ?_⟩
  rw [hselects _ (by decide), PageRequest.mem_positions, hoffset]
  decide

end Paginator

end SqlRender
