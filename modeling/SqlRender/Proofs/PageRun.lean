import Mathlib.Logic.Basic
import Mathlib.Tactic.Use
import SqlRender.Paginator

/-!
# The course of a run

A paginator goes from stage to stage.  `Paginator.advance` says what happens in a stage:
what is shown and asked there, and whether the run goes on or ends.  `Paginator.runFrom`
goes on as long as it can, which is not for long, as the number of steps that are left
falls; and `Paginator.paginate` is the run from the start.  `Paginator.Holds` says what is
true when a run has come to a stage, with the calls of the executor until then.  Every step
keeps this, so at the end the run answers the request as `Paginator.Answers` demands:
`Paginator.answers_paginate`.
-/

namespace SqlRender

/-! ### Stages -/

/-- Where a run is: the stage, the number of rows of the result as far as it is known, and
the records of the page. -/
structure PageState where
  stage : Stage
  total : UInt64
  records : List Row

/-- The state in which a run begins. -/
def PageState.start : PageState :=
  ⟨.start, 0, []⟩

/-- The greatest number of steps that are left in a stage. -/
def Stage.stepsLeft : Stage → Nat
  | start => 4
  | totalNeeded => 3
  | totalKnown => 2
  | totalCounted => 2
  | fetching => 1
  | nothingToFetch => 0
  | finished => 0

/-- Whether the page lies within a result of so many rows. -/
def PageRequest.IsWithin (r : PageRequest) (total : UInt64) : Prop :=
  0 < total ∧ r.number ≤ pageCount total r.size

instance (r : PageRequest) (total : UInt64) : Decidable (r.IsWithin total) :=
  inferInstanceAs (Decidable (_ ∧ _))

theorem PageRequest.not_isWithin_iff {r : PageRequest} {total : UInt64} :
  ¬ r.IsWithin total ↔ total = 0 ∨ pageCount total r.size < r.number
  := by
  rw [IsWithin, UInt64.pos_iff_ne_zero, ← UInt64.not_le, not_and_or, not_not]

/-- What happens in a stage: the events in it, and then a further state or the outcome of
the run. -/
inductive Move where
  | goOn (events : List Event) (next : PageState)
  | stop (events : List Event) (outcome : Except PaginateError (Page Row))

/-- The events in a stage. -/
def Move.events : Move → List Event
  | goOn events _ => events
  | stop events _ => events

namespace Paginator

variable (p : Paginator) (x : Executor) (r : PageRequest) (q : Query)

/-- What happens in the stage of a state. -/
def advance (s : PageState) : Move :=
  match s.stage with
  | .start =>
    if r.number = 0 then .stop [] (.error (.query (.invalidPage "page numbers start at 1")))
    else
      match r.knownTotal? with
      | some total => .goOn [] { s with stage := .totalKnown, total }
      | none => .goOn [] { s with stage := .totalNeeded }
  | .totalNeeded =>
    match p.countStatement r q with
    | .error e => .stop [] (.error (.query e))
    | .ok st =>
      let asked := p.shown "count" st ++ [.count st]
      match x.count st with
      | .error e => .stop asked (.error (.execution e))
      | .ok total => .goOn asked { s with stage := .totalCounted, total }
  | .totalKnown | .totalCounted =>
    if s.total = 0 ∨ pageCount s.total r.size < r.number then
      .goOn [] { s with stage := .nothingToFetch }
    else .goOn [] { s with stage := .fetching }
  | .fetching =>
    match p.pageStatement r q with
    | .error e => .stop [] (.error (.query e))
    | .ok st =>
      let asked := p.shown "page" st ++ [.fetch st]
      match x.fetch st with
      | .error e => .stop asked (.error (.execution e))
      | .ok records => .goOn asked { s with stage := .finished, records }
  | .nothingToFetch => .stop [] (.ok (.empty r.number r.size s.total))
  | .finished => .stop [] (.ok (.of s.records r.number r.size s.total))

variable {p x r q}

theorem stepsLeft_lt_of_advance {s next : PageState} {events : List Event}
    (h : p.advance x r q s = .goOn events next) :
  next.stage.stepsLeft < s.stage.stepsLeft
  := by
  obtain ⟨stage, total, records⟩ := s
  cases stage <;> simp only [advance] at h <;> (repeat' split at h) <;> cases h <;>
    simp [Stage.stepsLeft]

variable (p x r q)

/-- The run from a state. -/
def runFrom (s : PageState) : PageRun :=
  match h : p.advance x r q s with
  | .stop events outcome => ⟨outcome, events⟩
  | .goOn events next =>
    after (events ++ [.step s.stage next.stage r next.total]) (runFrom next)
  termination_by s.stage.stepsLeft
  decreasing_by exact stepsLeft_lt_of_advance h

variable {p x r q}

theorem runFrom_of_stop {s : PageState} {events : List Event}
    {outcome : Except PaginateError (Page Row)} (h : p.advance x r q s = .stop events outcome) :
  p.runFrom x r q s = ⟨outcome, events⟩
  := by
  rw [runFrom]
  split
  · next events' outcome' h' =>
    rw [h] at h'
    cases h'
    rfl
  · next h' =>
    rw [h] at h'
    cases h'

theorem runFrom_of_goOn {s next : PageState} {events : List Event}
    (h : p.advance x r q s = .goOn events next) :
  p.runFrom x r q s
    = after (events ++ [.step s.stage next.stage r next.total]) (p.runFrom x r q next)
  := by
  rw [runFrom]
  split
  · next h' =>
    rw [h] at h'
    cases h'
  · next events' next' h' =>
    rw [h] at h'
    cases h'
    rfl

/-- With a known number of rows the run goes on to the rows, if there can be any. -/
theorem advance_of_total {stage : Stage} (hstage : stage = .totalKnown ∨ stage = .totalCounted)
    (total : UInt64) (records : List Row) :
  p.advance x r q ⟨stage, total, records⟩
    = if total = 0 ∨ pageCount total r.size < r.number then
        .goOn [] ⟨.nothingToFetch, total, records⟩
      else .goOn [] ⟨.fetching, total, records⟩
  := by
  obtain rfl | rfl := hstage <;> rfl

/-- With a known number of rows the run goes on as `withTotal` says. -/
theorem runFrom_of_total {stage : Stage} (hstage : stage = .totalKnown ∨ stage = .totalCounted)
    (total : UInt64) :
  p.runFrom x r q ⟨stage, total, []⟩ = p.withTotal x r q stage total
  := by
  have hadvance := advance_of_total (p := p) (x := x) (r := r) (q := q) hstage total []
  unfold withTotal
  split
  · next hpast =>
    rw [if_pos hpast] at hadvance
    rw [runFrom_of_goOn hadvance, runFrom_of_stop rfl]
    rfl
  · next hwithin =>
    rw [if_neg hwithin] at hadvance
    rw [runFrom_of_goOn hadvance]
    cases hstatement : p.pageStatement r q with
    | error e =>
      have hstop : p.advance x r q ⟨.fetching, total, []⟩ = .stop [] (.error (.query e)) := by
        simp [advance, hstatement]
      rw [runFrom_of_stop hstop]
      rfl
    | ok st =>
      cases hfetch : x.fetch st with
      | error e =>
        have hstop : p.advance x r q ⟨.fetching, total, []⟩
            = .stop (p.shown "page" st ++ [.fetch st]) (.error (.execution e)) := by
          simp [advance, hstatement, hfetch]
        rw [runFrom_of_stop hstop]
        simp [after, hfetch]
      | ok records =>
        have hnext : p.advance x r q ⟨.fetching, total, []⟩
            = .goOn (p.shown "page" st ++ [.fetch st]) ⟨.finished, total, records⟩ := by
          simp [advance, hstatement, hfetch]
        rw [runFrom_of_goOn hnext, runFrom_of_stop rfl]
        simp [after, hfetch]

variable (p x r q)

/-- A request is answered by the run from the start. -/
theorem paginate_eq_runFrom :
  p.paginate x r q = p.runFrom x r q .start
  := by
  unfold paginate
  split
  · next hzero =>
    have hstop : p.advance x r q .start
        = .stop [] (.error (.query (.invalidPage "page numbers start at 1"))) := by
      simp [advance, PageState.start, hzero]
    rw [runFrom_of_stop hstop]
  · next hnumber =>
    cases hknown : r.knownTotal? with
    | some total =>
      have hnext : p.advance x r q .start = .goOn [] ⟨.totalKnown, total, []⟩ := by
        simp [advance, PageState.start, hnumber, hknown]
      rw [runFrom_of_goOn hnext, runFrom_of_total (.inl rfl)]
      rfl
    | none =>
      have hnext : p.advance x r q .start = .goOn [] ⟨.totalNeeded, 0, []⟩ := by
        simp [advance, PageState.start, hnumber, hknown]
      rw [runFrom_of_goOn hnext]
      cases hstatement : p.countStatement r q with
      | error e =>
        have hstop : p.advance x r q ⟨.totalNeeded, 0, []⟩ = .stop [] (.error (.query e)) := by
          simp [advance, hstatement]
        rw [runFrom_of_stop hstop]
        rfl
      | ok st =>
        cases hcount : x.count st with
        | error e =>
          have hstop : p.advance x r q ⟨.totalNeeded, 0, []⟩
              = .stop (p.shown "count" st ++ [.count st]) (.error (.execution e)) := by
            simp [advance, hstatement, hcount]
          rw [runFrom_of_stop hstop]
          simp [after, hcount, PageState.start]
        | ok total =>
          have hnext : p.advance x r q ⟨.totalNeeded, 0, []⟩
              = .goOn (p.shown "count" st ++ [.count st]) ⟨.totalCounted, total, []⟩ := by
            simp [advance, hstatement, hcount]
          rw [runFrom_of_goOn hnext, runFrom_of_total (.inr rfl)]
          simp [after, hcount, PageState.start]

end Paginator

/-! ### Calls of the executor -/

/-- A call of an executor with a statement. -/
inductive Call where
  | count (s : Statement)
  | fetch (s : Statement)

/-- The call that an event is, if it is one. -/
def Event.call? : Event → Option Call
  | count s => some (.count s)
  | fetch s => some (.fetch s)
  | step .. | shown .. => none

/-- Whether an event is a step to another stage. -/
def Event.isStep : Event → Bool
  | step .. => true
  | _ => false

/-- The calls among some events. -/
def Event.calls (events : List Event) : List Call :=
  events.filterMap Event.call?

/-- The number of steps among some events. -/
def Event.steps (events : List Event) : Nat :=
  events.countP Event.isStep

namespace Event

@[simp]
theorem calls_nil :
  calls [] = []
  := rfl

@[simp]
theorem calls_append (events later : List Event) :
  calls (events ++ later) = calls events ++ calls later
  := List.filterMap_append

@[simp]
theorem calls_step (source target : Stage) (r : PageRequest) (total : UInt64) :
  calls [.step source target r total] = []
  := rfl

@[simp]
theorem calls_count (s : Statement) :
  calls [.count s] = [.count s]
  := rfl

@[simp]
theorem calls_fetch (s : Statement) :
  calls [.fetch s] = [.fetch s]
  := rfl

end Event

@[simp]
theorem Event.steps_nil :
  steps [] = 0
  := rfl

@[simp]
theorem Event.steps_count (s : Statement) :
  steps [.count s] = 0
  := rfl

@[simp]
theorem Event.steps_fetch (s : Statement) :
  steps [.fetch s] = 0
  := rfl

@[simp]
theorem Event.steps_append (events later : List Event) :
  steps (events ++ later) = steps events + steps later
  := List.countP_append

namespace Paginator

variable (p : Paginator) (x : Executor) (r : PageRequest) (q : Query)

/-- The number of rows of the result, known from the request or counted by the executor, or
the error of counting them. -/
def total : Except PaginateError UInt64 :=
  match r.knownTotal? with
  | some total => .ok total
  | none =>
    match p.countStatement r q with
    | .error e => .error (.query e)
    | .ok st =>
      match x.count st with
      | .error e => .error (.execution e)
      | .ok total => .ok total

/-- The call that counts the rows, if there is one. -/
def countCalls : List Call :=
  match r.knownTotal?, p.countStatement r q with
  | none, .ok st => [.count st]
  | _, _ => []

/-- The call that fetches the rows, if there is one. -/
def fetchCalls : List Call :=
  match p.total x r q with
  | .error _ => []
  | .ok total =>
    if r.IsWithin total then
      match p.pageStatement r q with
      | .error _ => []
      | .ok st => [.fetch st]
    else []

variable {p x r q}

@[simp]
theorem calls_shown (kind : String) (st : Statement) :
  Event.calls (p.shown kind st) = []
  := by
  unfold shown
  split <;> rfl

@[simp]
theorem steps_shown (kind : String) (st : Statement) :
  Event.steps (p.shown kind st) = 0
  := by
  unfold shown
  split <;> rfl

/-- The steps of a run are between the stages, none in them. -/
theorem steps_of_advance {s : PageState} {m : Move} (h : p.advance x r q s = m) :
  Event.steps m.events = 0
  := by
  obtain ⟨stage, total, records⟩ := s
  cases stage <;> simp only [advance] at h <;> (repeat' split at h) <;> cases h <;>
    simp [Move.events]

theorem mem_countCalls_iff {c : Call} :
  c ∈ p.countCalls r q ↔
    ∃ st, c = .count st ∧ r.knownTotal? = none ∧ p.countStatement r q = .ok st
  := by
  unfold countCalls
  split
  · next st hknown hst => simp [hknown, hst]
  · next hnone =>
    simp only [List.not_mem_nil, false_iff, not_exists, not_and]
    intro st _ hknown hst
    apply hnone st hknown hst

theorem mem_fetchCalls_iff {c : Call} :
  c ∈ p.fetchCalls x r q ↔
    ∃ st, c = .fetch st ∧ (∃ total, p.total x r q = .ok total ∧ r.IsWithin total)
      ∧ p.pageStatement r q = .ok st
  := by
  unfold fetchCalls
  split
  · next e htotal => simp [htotal]
  · next total htotal =>
    split
    · next hwithin =>
      split
      · next e hst => simp [hst]
      · next st hst => simp [htotal, hwithin, hst]
    · next houtside => simp [htotal, houtside]

/-- Rows are counted before rows are fetched, and both at most once. -/
theorem pairwise_calls :
  (p.countCalls r q ++ p.fetchCalls x r q).Pairwise fun c d =>
    ∃ st st', c = .count st ∧ d = .fetch st'
  := by
  have hcount : (p.countCalls r q).length ≤ 1 := by
    unfold countCalls
    split <;> simp
  have hfetch : (p.fetchCalls x r q).length ≤ 1 := by
    unfold fetchCalls
    repeat' split
    all_goals simp
  have hsingle : ∀ calls : List Call, calls.length ≤ 1 → ∀ R, calls.Pairwise R := by
    intro calls hlength R
    match calls with
    | [] => exact List.Pairwise.nil
    | [c] => exact List.pairwise_singleton R c
  apply List.pairwise_append.mpr
  use hsingle _ hcount _, hsingle _ hfetch _
  intro c hc d hd
  obtain ⟨st, rfl, -⟩ := mem_countCalls_iff.mp hc
  obtain ⟨st', rfl, -⟩ := mem_fetchCalls_iff.mp hd
  exact ⟨st, st', rfl, rfl⟩

variable (p x r q)

/-- The outcome for a result of so many rows: a page outside of it is empty, and a page
within it has the rows that are fetched. -/
def answer (total : UInt64) : Except PaginateError (Page Row) :=
  let page := fun records => ⟨r.number, r.size, pageCount total r.size, total, records⟩
  if r.IsWithin total then
    match p.pageStatement r q with
    | .error e => .error (.query e)
    | .ok st =>
      match x.fetch st with
      | .error e => .error (.execution e)
      | .ok records => .ok (page records)
  else .ok (page [])

/-- The answer to a request, from the outcome and the calls of the run. -/
structure Answers (run : PageRun) : Prop where
  /-- There are at most four steps. -/
  steps_le : Event.steps run.events ≤ 4
  /-- Page zero is refused without a call. -/
  refused : r.number = 0 →
    run.outcome = .error (.query (.invalidPage "page numbers start at 1"))
      ∧ Event.calls run.events = []
  /-- The rows are counted exactly if their number is not known and there is a statement for
  it. -/
  count_mem_iff : r.number ≠ 0 → ∀ st,
    .count st ∈ Event.calls run.events
      ↔ r.knownTotal? = none ∧ p.countStatement r q = .ok st
  /-- Rows are fetched exactly if the page lies within the result, whose number of rows is
  found then, and there is a statement for it. -/
  fetch_mem_iff : r.number ≠ 0 → ∀ st,
    .fetch st ∈ Event.calls run.events
      ↔ (∃ total, p.total x r q = .ok total ∧ r.IsWithin total) ∧ p.pageStatement r q = .ok st
  /-- Of two calls the first counts and the second fetches. -/
  ordered : (Event.calls run.events).Pairwise fun c d =>
    ∃ st st', c = .count st ∧ d = .fetch st'
  /-- If the number of rows is not found, the run ends with this error. -/
  uncounted : r.number ≠ 0 → ∀ e, p.total x r q = .error e → run.outcome = .error e
  /-- If it is found, the page lies outside of the result and is empty, or it has the rows that
  are fetched, unless this fails. -/
  counted : r.number ≠ 0 → ∀ total, p.total x r q = .ok total →
    run.outcome = p.answer x r q total

/-- What is true when a run has come to a state with these calls. -/
def Holds (calls : List Call) (s : PageState) : Prop :=
  match s.stage with
  | .start => calls = []
  | .totalNeeded => r.number ≠ 0 ∧ r.knownTotal? = none ∧ calls = []
  | .totalKnown | .totalCounted =>
    r.number ≠ 0 ∧ p.total x r q = .ok s.total ∧ calls = p.countCalls r q
  | .nothingToFetch =>
    r.number ≠ 0 ∧ p.total x r q = .ok s.total ∧ calls = p.countCalls r q
      ∧ ¬ r.IsWithin s.total
  | .fetching =>
    r.number ≠ 0 ∧ p.total x r q = .ok s.total ∧ calls = p.countCalls r q
      ∧ r.IsWithin s.total
  | .finished =>
    r.number ≠ 0 ∧ p.total x r q = .ok s.total ∧ r.IsWithin s.total
      ∧ ∃ st, p.pageStatement r q = .ok st ∧ x.fetch st = .ok s.records
        ∧ calls = p.countCalls r q ++ [.fetch st]

variable {p x r q}

/-- Every step keeps what is true. -/
theorem holds_of_advance {calls : List Call} {events : List Event} {s next : PageState}
    (h : p.advance x r q s = .goOn events next) (hs : p.Holds x r q calls s) :
  p.Holds x r q (calls ++ Event.calls events) next
  := by
  obtain ⟨stage, total, records⟩ := s
  cases stage with
  | start =>
    obtain rfl : calls = [] := hs
    simp only [advance] at h
    split at h
    · cases h
    · next hnumber =>
      split at h
      · next known hknown =>
        cases h
        simp [Holds, hnumber, Paginator.total, countCalls, hknown]
      · next hknown =>
        cases h
        simp [Holds, hnumber, hknown]
  | totalNeeded =>
    obtain ⟨hnumber, hknown, rfl⟩ := hs
    simp only [advance] at h
    split at h
    · cases h
    · next st hst =>
      split at h
      · cases h
      · next counted hcount =>
        cases h
        simp [Holds, hnumber, Paginator.total, countCalls, hknown, hst, hcount]
  | totalKnown | totalCounted =>
    obtain ⟨hnumber, htotal, hcalls⟩ := hs
    simp only [advance] at h
    split at h
    · next hpast =>
      cases h
      exact ⟨hnumber, htotal, by simpa using hcalls, PageRequest.not_isWithin_iff.mpr hpast⟩
    · next hpast =>
      cases h
      rw [← PageRequest.not_isWithin_iff, not_not] at hpast
      exact ⟨hnumber, htotal, by simpa using hcalls, hpast⟩
  | fetching =>
    obtain ⟨hnumber, htotal, hcalls, hwithin⟩ := hs
    simp only [advance] at h
    split at h
    · cases h
    · next st hst =>
      split at h
      · cases h
      · next fetched hfetch =>
        cases h
        exact ⟨hnumber, htotal, hwithin, st, hst, hfetch, by simp [hcalls]⟩
  | nothingToFetch => cases h
  | finished => cases h

/-- A run with the calls that a request demands answers it if its outcome does. -/
theorem answers_of_calls {run : PageRun} (hsteps : Event.steps run.events ≤ 4)
    (hnumber : r.number ≠ 0)
    (hcalls : Event.calls run.events = p.countCalls r q ++ p.fetchCalls x r q)
    (huncounted : ∀ e, p.total x r q = .error e → run.outcome = .error e)
    (hcounted : ∀ total, p.total x r q = .ok total → run.outcome = p.answer x r q total) :
  p.Answers x r q run
  := by
  constructor
  case steps_le => apply hsteps
  case refused => exact fun h => absurd h hnumber
  case count_mem_iff =>
    intro _ st
    rw [hcalls, List.mem_append, mem_countCalls_iff, mem_fetchCalls_iff]
    simp
  case fetch_mem_iff =>
    intro _ st
    rw [hcalls, List.mem_append, mem_countCalls_iff, mem_fetchCalls_iff]
    simp
  case ordered =>
    rw [hcalls]
    apply pairwise_calls
  case uncounted => exact fun _ => huncounted
  case counted => exact fun _ => hcounted

/-- A run that stops answers the request. -/
theorem answers_of_stop {before events : List Event} {s : PageState}
    {outcome : Except PaginateError (Page Row)} (h : p.advance x r q s = .stop events outcome)
    (hs : p.Holds x r q (Event.calls before) s) (hsteps : Event.steps (before ++ events) ≤ 4) :
  p.Answers x r q ⟨outcome, before ++ events⟩
  := by
  obtain ⟨stage, total, records⟩ := s
  cases stage with
  | start =>
    have hbefore : Event.calls before = [] := hs
    simp only [advance] at h
    split at h
    · next hzero =>
      cases h
      constructor
      case steps_le => apply hsteps
      case refused => simp [hbefore]
      case ordered => simp [hbefore]
      all_goals exact fun hnumber => absurd hzero hnumber
    · split at h <;> cases h
  | totalNeeded =>
    obtain ⟨hnumber, hknown, hbefore⟩ := hs
    simp only [advance] at h
    split at h
    · next e hst =>
      cases h
      have htotal : p.total x r q = .error (.query e) := by
        simp [Paginator.total, hknown, hst]
      apply answers_of_calls hsteps hnumber
      · simp [hbefore, countCalls, fetchCalls, hknown, hst, htotal]
      · simp [htotal]
      · simp [htotal]
    · next st hst =>
      split at h
      · next e hcount =>
        cases h
        have htotal : p.total x r q = .error (.execution e) := by
          simp [Paginator.total, hknown, hst, hcount]
        apply answers_of_calls hsteps hnumber
        · simp [hbefore, countCalls, fetchCalls, hknown, hst, htotal]
        · simp [htotal]
        · simp [htotal]
      · cases h
  | totalKnown | totalCounted =>
    simp only [advance] at h
    split at h <;> cases h
  | fetching =>
    obtain ⟨hnumber, htotal, hbefore, hwithin⟩ := hs
    simp only [advance] at h
    split at h
    · next e hst =>
      cases h
      apply answers_of_calls hsteps hnumber
      · simp [hbefore, fetchCalls, htotal, hst]
      · simp [htotal]
      · simp [htotal, answer, hwithin, hst]
    · next st hst =>
      split at h
      · next e hfetch =>
        cases h
        apply answers_of_calls hsteps hnumber
        · simp [hbefore, fetchCalls, htotal, hst, hwithin]
        · simp [htotal]
        · simp [htotal, answer, hwithin, hst, hfetch]
      · cases h
  | nothingToFetch =>
    obtain ⟨hnumber, htotal, hbefore, houtside⟩ := hs
    cases h
    apply answers_of_calls hsteps hnumber
    · simp [hbefore, fetchCalls, htotal, houtside]
    · simp [htotal]
    · simp [htotal, answer, houtside, Page.empty, Page.of]
  | finished =>
    obtain ⟨hnumber, htotal, hwithin, st, hst, hfetch, hbefore⟩ := hs
    cases h
    apply answers_of_calls hsteps hnumber
    · simp [hbefore, fetchCalls, htotal, hst, hwithin]
    · simp [htotal]
    · simp [htotal, answer, hwithin, hst, hfetch, Page.of]

/-- A run from a state that holds with the calls until then answers the request. -/
theorem answers_runFrom (s : PageState) (before : List Event)
    (hs : p.Holds x r q (Event.calls before) s)
    (hsteps : Event.steps before + s.stage.stepsLeft ≤ 4) :
  p.Answers x r q (after before (p.runFrom x r q s))
  := by
  fun_induction runFrom p x r q s generalizing before with
  | case1 s events outcome h =>
    apply answers_of_stop h hs
    have hnone : Event.steps events = 0 := steps_of_advance h
    rw [Event.steps_append, hnone]
    omega
  | case2 s events next h ih =>
    have hnext := ih (before ++ (events ++ [.step s.stage next.stage r next.total]))
    simp only [after, ← List.append_assoc] at hnext ⊢
    apply hnext
    · simpa using holds_of_advance h hs
    · have hless := stepsLeft_lt_of_advance h
      have hnone : Event.steps events = 0 := steps_of_advance h
      simp only [Event.steps_append, hnone]
      have hone : Event.steps [.step s.stage next.stage r next.total] = 1 := rfl
      omega

variable (p x r q)

/-- A request is answered by the run from the start, in at most four steps: page zero is
refused; otherwise the rows are counted if their number is not known, and then fetched if the
page lies within the result, and the first error ends the run. -/
theorem answers_paginate :
  p.paginate x r q = p.runFrom x r q .start ∧ p.Answers x r q (p.paginate x r q)
  := by
  have hrun := paginate_eq_runFrom p x r q
  have hstart : p.Holds x r q [] .start := rfl
  have hanswers := answers_runFrom .start [] hstart (Nat.le_refl 4)
  constructor
  · apply hrun
  · rw [hrun]
    apply hanswers

end Paginator

end SqlRender
