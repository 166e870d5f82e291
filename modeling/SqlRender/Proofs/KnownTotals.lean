import SqlRender.Proofs.PageRun
import SqlRender.Proofs.ValueDocuments

/-!
# Totals that are known before

A request may tell the number of rows of the result, so that nobody has to count them.  From
the stage on in which the number is there, it does not matter where it came from:
`PageState.Matches` relates the states of a run that counted the rows to those of a run that
was told their number, and every step keeps it, with the same calls.  So the run that is told
the number is the run that counts without its first call: `Paginator.paginate_withTotal`.
-/

namespace SqlRender

/-- A request tells the number of rows that it was given if there is room for it. -/
theorem PageRequest.knownTotal?_withTotal {total : UInt64}
    (h : (total.toNat : Int) ≤ Int64.maxValue.toInt) (r : PageRequest) :
  (r.withTotal total).knownTotal? = some total
  := by
  have hmax : Int64.maxValue.toInt = 2 ^ 63 - 1 := rfl
  have hmin : min (total.toNat : Int) Int64.maxValue.toInt = total.toNat := by omega
  rw [knownTotal?, withTotal, hmin, Int64.toInt_ofInt_of_le]
  · apply Value.uint64?_toNat
  · apply Int.le_trans (by decide) (Int.natCast_nonneg total.toNat)
  · omega

/-! ### Runs that match -/

/-- The states of two runs that match: one run has counted the rows and the other was told
their number, and from then on they go the same way. -/
inductive PageState.Matches : PageState → PageState → Prop where
  | arrived (total : UInt64) (records : List Row) :
      Matches ⟨.totalCounted, total, records⟩ ⟨.totalKnown, total, records⟩
  | beyond {s : PageState} (h : s.stage.stepsLeft ≤ 1) : Matches s s

/-- What happens in two stages matches: the same events, and then the same outcome or states
that match. -/
inductive Move.Matches : Move → Move → Prop where
  | goOn (events : List Event) {next next' : PageState} (h : next.Matches next') :
      Matches (.goOn events next) (.goOn events next')
  | stop (events : List Event) (outcome : Except PaginateError (Page Row)) :
      Matches (.stop events outcome) (.stop events outcome)

/-- Only the same end matches an end. -/
theorem Move.Matches.eq_stop {events : List Event} {outcome : Except PaginateError (Page Row)}
    {m : Move} (h : (Move.stop events outcome).Matches m) :
  m = .stop events outcome
  := by
  cases h
  rfl

/-- Only a step with the same events matches a step. -/
theorem Move.Matches.exists_goOn {events : List Event} {next : PageState} {m : Move}
    (h : (Move.goOn events next).Matches m) :
  ∃ next', m = .goOn events next' ∧ next.Matches next'
  := by
  cases h with
  | goOn _ hnext => exact ⟨_, rfl, hnext⟩

namespace Paginator

variable {p : Paginator} {x : Executor} {r : PageRequest} {q : Query}

/-- In states that match, matching things happen, whatever number the one request tells. -/
theorem matches_advance {s s' : PageState} (hs : s.Matches s') (told : UInt64) :
  (p.advance x r q s).Matches (p.advance x (r.withTotal told) q s')
  := by
  cases hs with
  | arrived total records =>
    have hsize : (r.withTotal told).size = r.size := rfl
    have hnumber : (r.withTotal told).number = r.number := rfl
    rw [advance_of_total (.inr rfl), advance_of_total (.inl rfl), hsize, hnumber]
    by_cases hpast : total = 0 ∨ pageCount total r.size < r.number
    · simp only [if_pos hpast]
      exact .goOn _ (.beyond (Nat.zero_le 1))
    · simp only [if_neg hpast]
      exact .goOn _ (.beyond (Nat.le_refl 1))
  | beyond h =>
    have hpage : p.pageStatement (r.withTotal told) q = p.pageStatement r q := rfl
    obtain ⟨stage, total, records⟩ := s
    cases stage with
    | start | totalNeeded | totalKnown | totalCounted => simp [Stage.stepsLeft] at h
    | nothingToFetch | finished => apply Move.Matches.stop
    | fetching =>
      simp only [advance, hpage]
      cases p.pageStatement r q with
      | error e => apply Move.Matches.stop
      | ok st =>
        cases hfetch : x.fetch st with
        | error e =>
          simp only [hfetch]
          apply Move.Matches.stop
        | ok fetched =>
          simp only [hfetch]
          exact .goOn _ (.beyond (Nat.zero_le 1))

/-- Runs from states that match have the same outcome and the same calls. -/
theorem matches_runFrom {s s' : PageState} (hs : s.Matches s') (told : UInt64) :
  (p.runFrom x r q s).outcome = (p.runFrom x (r.withTotal told) q s').outcome
    ∧ Event.calls (p.runFrom x r q s).events
      = Event.calls (p.runFrom x (r.withTotal told) q s').events
  := by
  fun_induction runFrom p x r q s generalizing s' with
  | case1 s events outcome h =>
    have hmove := matches_advance (p := p) (x := x) (r := r) (q := q) hs told
    rw [h] at hmove
    rw [runFrom_of_stop hmove.eq_stop]
    exact ⟨rfl, rfl⟩
  | case2 s events next h ih =>
    have hmove := matches_advance (p := p) (x := x) (r := r) (q := q) hs told
    rw [h] at hmove
    obtain ⟨next', hadvance, hnext⟩ := hmove.exists_goOn
    obtain ⟨houtcome, hcalls⟩ := ih hnext
    rw [runFrom_of_goOn hadvance]
    constructor
    · apply houtcome
    · simp only [after, Event.calls_append, Event.calls_step, hcalls]

/-! ### Counting or knowing -/

theorem after_after (events later : List Event) (run : PageRun) :
  after events (after later run) = after (events ++ later) run
  := by
  simp only [after, List.append_assoc]

/-- The run that counts the rows, up to the stage in which it has their number. -/
theorem runFrom_of_counted {st : Statement} {total : UInt64} (hnumber : r.number ≠ 0)
    (hunknown : r.knownTotal? = none) (hst : p.countStatement r q = .ok st)
    (hcount : x.count st = .ok total) :
  ∃ before, Event.calls before = [.count st]
    ∧ p.runFrom x r q .start = after before (p.runFrom x r q ⟨.totalCounted, total, []⟩)
  := by
  have hstart : p.advance x r q .start = .goOn [] ⟨.totalNeeded, 0, []⟩ := by
    simp [advance, PageState.start, hnumber, hunknown]
  have hneeded : p.advance x r q ⟨.totalNeeded, 0, []⟩
      = .goOn (p.shown "count" st ++ [.count st]) ⟨.totalCounted, total, []⟩ := by
    simp [advance, hst, hcount]
  rw [runFrom_of_goOn hstart, runFrom_of_goOn hneeded, after_after]
  refine ⟨_, ?_, rfl⟩
  simp only [Event.calls_append, Event.calls_step, Event.calls_count, calls_shown, List.nil_append,
    List.append_nil]

/-- The run that is told the number of rows, up to the stage in which it has it. -/
theorem runFrom_of_known {total : UInt64} (hnumber : r.number ≠ 0)
    (hknown : r.knownTotal? = some total) :
  ∃ before, Event.calls before = []
    ∧ p.runFrom x r q .start = after before (p.runFrom x r q ⟨.totalKnown, total, []⟩)
  := by
  have hstart : p.advance x r q .start = .goOn [] ⟨.totalKnown, total, []⟩ := by
    simp [advance, PageState.start, hnumber, hknown]
  rw [runFrom_of_goOn hstart]
  exact ⟨_, rfl, rfl⟩

/-- A run that is told the number of rows never counts them. -/
theorem count_notMem_of_known {total : UInt64} (hknown : r.knownTotal? = some total)
    (st : Statement) :
  .count st ∉ Event.calls (p.paginate x r q).events
  := by
  have hanswers : p.Answers x r q (p.paginate x r q) := by
    rw [paginate_eq_runFrom]
    apply answers_runFrom .start [] rfl (Nat.le_refl 4)
  by_cases hnumber : r.number = 0
  · rw [(hanswers.refused hnumber).2]
    apply List.not_mem_nil
  · rw [hanswers.count_mem_iff hnumber st, hknown]
    simp

/-- A request that tells the number of rows is answered as one that leaves it to be counted,
with the same call for the rows of the page, or none; only the call that counts is missing. -/
theorem paginate_withTotal {st : Statement} {total : UInt64} (hunknown : r.knownTotal? = none)
    (hst : p.countStatement r q = .ok st) (hcount : x.count st = .ok total)
    (htotal : (total.toNat : Int) ≤ Int64.maxValue.toInt) :
  (p.paginate x r q).outcome = (p.paginate x (r.withTotal total) q).outcome
    ∧ Event.calls (p.paginate x r q).events
      = (if r.number = 0 then [] else [.count st])
        ++ Event.calls (p.paginate x (r.withTotal total) q).events
    ∧ ∀ st', .count st' ∉ Event.calls (p.paginate x (r.withTotal total) q).events
  := by
  have hknown := PageRequest.knownTotal?_withTotal htotal r
  have hcounts := count_notMem_of_known (p := p) (x := x) (q := q) hknown
  by_cases hzero : r.number = 0
  · have hrefused : ∀ r : PageRequest, r.number = 0 → p.paginate x r q
        = ⟨.error (.query (.invalidPage "page numbers start at 1")), []⟩ :=
      fun r hr => if_pos hr
    rw [hrefused r hzero, hrefused (r.withTotal total) hzero]
    simp [hzero]
  · obtain ⟨counting, hcounting, hcounted⟩ :=
      runFrom_of_counted (p := p) (x := x) hzero hunknown hst hcount
    obtain ⟨knowing, hknowing, htold⟩ :=
      runFrom_of_known (p := p) (x := x) (q := q) (r := r.withTotal total) hzero hknown
    obtain ⟨houtcome, hcalls⟩ :=
      matches_runFrom (p := p) (x := x) (r := r) (q := q) (.arrived total []) total
    rw [← paginate_eq_runFrom] at hcounted htold
    refine ⟨?_, ?_, hcounts⟩
    · rw [hcounted, htold]
      apply houtcome
    · rw [hcounted, htold]
      simp [after, hzero, hcounting, hknowing, hcalls]

/-- An executor that finds 25 rows and shows none of them. -/
def hiddenRows : Executor :=
  ⟨fun _ => .ok 25, fun _ => .ok []⟩

/-- All accounts. -/
def allAccounts : Query :=
  { Query.empty with sources := [⟨.named none "tb_account", none⟩] }

/-- The third page of ten is fetched, whether the 25 rows are counted or known, and the fourth is
empty without a call. -/
theorem paginate_withTotal_hiddenRows :
  (PageRequest.of 3 10).knownTotal? = none ∧ (PageRequest.of 4 10).knownTotal? = none
    ∧ (((25 : UInt64).toNat : Int) ≤ Int64.maxValue.toInt)
    ∧ ∃ st, countStatement ⟨.builtIn .mysql, true⟩ (.of 3 10) allAccounts = .ok st
      ∧ countStatement ⟨.builtIn .mysql, true⟩ (.of 4 10) allAccounts = .ok st
      ∧ hiddenRows.count st = .ok 25
      ∧ (paginate ⟨.builtIn .mysql, true⟩ hiddenRows (.of 3 10) allAccounts).outcome
        = (paginate ⟨.builtIn .mysql, true⟩ hiddenRows (.withTotal 25 (.of 3 10))
          allAccounts).outcome
      ∧ Event.calls (paginate ⟨.builtIn .mysql, true⟩ hiddenRows (.of 4 10) allAccounts).events
        = [.count st]
  := by
  have hthird : (PageRequest.of 3 10).knownTotal? = none := by decide
  have hfourth : (PageRequest.of 4 10).knownTotal? = none := by decide
  have htotal : (((25 : UInt64).toNat : Int) ≤ Int64.maxValue.toInt) := by decide
  refine ⟨hthird, hfourth, htotal, _, rfl, rfl, rfl, ?_, ?_⟩
  · exact (paginate_withTotal hthird rfl rfl htotal).1
  · rw [(paginate_withTotal hfourth rfl rfl htotal).2.1]
    rfl

end Paginator

end SqlRender
