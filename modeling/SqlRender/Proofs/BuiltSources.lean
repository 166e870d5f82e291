import SqlRender.Proofs.BuildSteps
import SqlRender.Proofs.Duplicates

/-!
# The sources of a built query

A table that a query reads already is not added to it again, and an alias is given to the
only source of a query.  So the sources of a query are the different tables among the ones
that its steps add, in the order in which they are added first, and only the first source can
have another alias than the one it was added with: `Query.sources_of_build`.

Together with the independence of the clauses this says what a query that is built in steps
depends on: `Query.build_by_clause`.
-/

namespace SqlRender

/-! ### Different tables -/

namespace Table

theorem isSameAs_comm (t u : Table) :
  t.isSameAs u = u.isSameAs t
  := by
  unfold isSameAs
  cases t.source <;> cases u.source <;> simp only [Bool.beq_comm]

/-- The tables without the ones that are the same as a table before them. -/
def distinct (ts : List Table) : List Table :=
  ts.eraseDupsBy isSameAs

theorem distinct_concat (ts : List Table) (t : Table) :
  distinct (ts ++ [t]) =
    if (distinct ts).any (·.isSameAs t) then distinct ts else distinct ts ++ [t]
  := by
  simp only [isSameAs_comm _ t]
  exact List.eraseDupsBy_concat isSameAs ts t

theorem distinct_eq_nil_iff {ts : List Table} :
  distinct ts = [] ↔ ts = []
  := by
  cases ts <;> simp [distinct, List.eraseDupsBy_cons]

theorem pairwise_distinct (ts : List Table) :
  (distinct ts).Pairwise fun t u => t.isSameAs u = false
  := List.pairwise_eraseDupsBy isSameAs_comm ts

/-- The table with the alias `a`, or with its own if there is none. -/
def aliased (a : Option String) (t : Table) : Table :=
  { t with aliasName := a.or t.aliasName }

@[simp]
theorem aliased_none (t : Table) :
  t.aliased none = t
  := by cases t; rfl

/-- A further table keeps its alias, if it is the first one also. -/
theorem modifyHead_aliased_concat {a : Option String} {ts : List Table} (t : Table)
    (h : ts = [] → a = none) :
  (ts ++ [t]).modifyHead (aliased a) = ts.modifyHead (aliased a) ++ [t]
  := by
  cases ts with
  | nil => simp [h rfl]
  | cons u rest => rfl

theorem exists_of_modifyHead_aliased_eq_singleton {a : Option String} {ts : List Table}
    {t : Table} (h : ts.modifyHead (aliased a) = [t]) :
  ∃ u, ts = [u] ∧ t = u.aliased a
  := by
  match ts, h with
  | [u], h => exact ⟨u, rfl, (List.singleton_inj.mp h).symm⟩

/-- Which tables there are does not depend on the alias of the first one. -/
theorem any_modifyHead_aliased (a : Option String) (ts : List Table) (t : Table) :
  (ts.modifyHead (aliased a)).any (·.isSameAs t) = ts.any (·.isSameAs t)
  := by cases ts <;> rfl

theorem pairwise_modifyHead_aliased (a : Option String) {ts : List Table}
    (h : ts.Pairwise fun t u => t.isSameAs u = false) :
  (ts.modifyHead (aliased a)).Pairwise fun t u => t.isSameAs u = false
  := by
  cases h with
  | nil => exact List.Pairwise.nil
  | cons hfirst hrest => exact List.Pairwise.cons hfirst hrest

end Table

/-! ### What steps do to the sources -/

namespace BuildStep

/-- The table that a step adds, if the query does not read it already. -/
def table? : BuildStep → Option Table
  | fromName name => (Table.parse name).toOption
  | fromTable t => some t
  | fromQuery inner => some (Table.derived inner)
  | _ => none

/-- The alias that a step gives to the only source. -/
def aliasName? : BuildStep → Option String
  | named a => some a
  | _ => none

/-- A step adds a table, gives an alias to the only source or leaves the sources as they are. -/
theorem sources_of_apply {q r : Query} {s : BuildStep} (h : apply q s = .ok r) :
  (∃ t, s.table? = some t ∧ s.aliasName? = none ∧ r.sources = (q.fromTable t).sources) ∨
  (∃ t a, s.table? = none ∧ s.aliasName? = some a ∧
    q.sources = [t] ∧ r.sources = [t.named a]) ∨
  (s.table? = none ∧ s.aliasName? = none ∧ r.sources = q.sources)
  := by
  cases s with
  | fromName name =>
    obtain ⟨t, ht, h⟩ := Except.bind_eq_ok h
    cases h
    exact .inl ⟨t, by rw [table?, ht]; rfl, rfl, rfl⟩
  | fromTable t =>
    cases h
    exact .inl ⟨t, rfl, rfl, rfl⟩
  | fromQuery inner =>
    cases h
    exact .inl ⟨Table.derived inner, rfl, rfl, rfl⟩
  | named a =>
    obtain ⟨_, -, h⟩ := Except.bind_eq_ok h
    right
    left
    split at h
    · next t ht =>
      cases h
      exact ⟨t, a, rfl, rfl, ht, rfl⟩
    · cases h
  | _ =>
    have honly : r.only .sources = q.only .sources := only_of_apply h nofun
    have hsources := congrArg Query.sources honly
    exact .inr (.inr ⟨rfl, rfl, hsources⟩)

end BuildStep

/-! ### Built queries -/

namespace Query

theorem sources_fromTable (q : Query) (t : Table) :
  (q.fromTable t).sources =
    if q.sources.any (·.isSameAs t) then q.sources else q.sources ++ [t]
  := by
  unfold fromTable
  split <;> rfl

/-- What steps build, the steps before them and the steps after them. -/
theorem exists_build_of_append {before after : List BuildStep} {q : Query}
    (h : build (before ++ after) = .ok q) :
  ∃ p, build before = .ok p ∧ after.foldlM BuildStep.apply p = .ok q
  := by
  rw [build, List.foldlM_append] at h
  exact Except.bind_eq_ok h

/-- The sources of a query that steps build.  An alias is given only after a table has been
added. -/
theorem sources_of_build {steps : List BuildStep} {q : Query} (h : build steps = .ok q) :
  q.sources = (Table.distinct (steps.filterMap (·.table?))).modifyHead
      (Table.aliased (steps.filterMap (·.aliasName?)).getLast?) ∧
    (steps.filterMap (·.table?) = [] → steps.filterMap (·.aliasName?) = [])
  := by
  induction steps using List.reverseRecOn generalizing q with
  | nil =>
    cases h
    exact ⟨rfl, fun _ => rfl⟩
  | append_singleton steps s ih =>
    obtain ⟨p, hp, h⟩ := exists_build_of_append h
    obtain ⟨_, h, hq⟩ := Except.bind_eq_ok h
    cases hq
    obtain ⟨hsources, hempty⟩ := ih hp
    rw [List.filterMap_append, List.filterMap_append]
    generalize steps.filterMap (·.table?) = tables at *
    generalize steps.filterMap (·.aliasName?) = aliases at *
    rcases BuildStep.sources_of_apply h with
      ⟨t, ht, ha, hq⟩ | ⟨t, a, ht, ha, hone, hq⟩ | ⟨ht, ha, hq⟩
    · rw [List.filterMap_cons_some ht, List.filterMap_cons_none ha, hq]
      simp only [List.filterMap_nil, List.append_nil]
      refine ⟨?_, fun h => absurd h (by simp)⟩
      rw [sources_fromTable, hsources, Table.any_modifyHead_aliased, Table.distinct_concat]
      split
      · rfl
      · refine (Table.modifyHead_aliased_concat t fun h => ?_).symm
        rw [hempty (Table.distinct_eq_nil_iff.mp h)]
        rfl
    · rw [List.filterMap_cons_some ha, List.filterMap_cons_none ht, hq]
      simp only [List.filterMap_nil, List.append_nil, List.getLast?_concat]
      rw [hsources] at hone
      obtain ⟨u, hu, rfl⟩ := Table.exists_of_modifyHead_aliased_eq_singleton hone
      have hne : tables ≠ [] := fun h => by
        rw [Table.distinct_eq_nil_iff.mpr h] at hu
        cases hu
      rw [hu]
      exact ⟨rfl, fun h => absurd h hne⟩
    · rw [List.filterMap_cons_none ht, List.filterMap_cons_none ha, hq]
      simp only [List.filterMap_nil, List.append_nil]
      exact ⟨hsources, hempty⟩

/-- A query reads each named table once. -/
theorem pairwise_sources_of_build {steps : List BuildStep} {q : Query}
    (h : build steps = .ok q) :
  q.sources.Pairwise fun t u => t.isSameAs u = false
  := by
  rw [(sources_of_build h).1]
  exact Table.pairwise_modifyHead_aliased _ (Table.pairwise_distinct _)

/-- Where an alias is given, the steps before have added one table and no other. -/
theorem distinct_eq_singleton_of_build_named {before after : List BuildStep} {a : String}
    {q : Query} (h : build (before ++ .named a :: after) = .ok q) :
  ∃ t, Table.distinct (before.filterMap (·.table?)) = [t]
  := by
  obtain ⟨p, hp, h⟩ := exists_build_of_append h
  obtain ⟨r, hr, -⟩ := Except.bind_eq_ok h
  rcases BuildStep.sources_of_apply hr with ⟨t, ht, -⟩ | ⟨t, _, -, -, hone, -⟩ | ⟨-, ha, -⟩
  · cases ht
  · rw [(sources_of_build hp).1] at hone
    obtain ⟨u, hu, -⟩ := Table.exists_of_modifyHead_aliased_eq_singleton hone
    exact ⟨u, hu⟩
  · cases ha

/-- What steps build is determined by the steps of each clause: however these are interleaved,
they fail or they build one query.  The sources of the query are the different tables among the
ones added, each at its first occurrence.  No two of them are the same table.  All of them keep
their aliases but the first one, whose alias is the last one given; when an alias is given, the
first table has been added and is the only one. -/
theorem build_by_clause (steps : List BuildStep) :
  (∀ steps', (∀ k, steps.filter (·.clause = k) = steps'.filter (·.clause = k)) →
    (∃ e e', build steps = .error e ∧ build steps' = .error e') ∨
    ∃ q, build steps = .ok q ∧ build steps' = .ok q) ∧
  ∀ q, build steps = .ok q →
    q.sources.Pairwise (fun t u => t.isSameAs u = false) ∧
    q.sources = (Table.distinct (steps.filterMap (·.table?))).modifyHead
      (Table.aliased (steps.filterMap (·.aliasName?)).getLast?) ∧
    ∀ before a after, steps = before ++ .named a :: after →
      ∃ t, Table.distinct (before.filterMap (·.table?)) = [t]
  := by
  constructor
  · intro steps' hclauses
    have hsame : ∀ q, build steps = .ok q ↔ build steps' = .ok q := by
      intro q
      rw [build_eq_ok_iff steps, build_eq_ok_iff steps']
      simp only [hclauses]
    cases hbuild : build steps with
    | ok q => exact .inr ⟨q, rfl, (hsame q).mp hbuild⟩
    | error e =>
      cases hbuild' : build steps' with
      | ok q => rw [(hsame q).mpr hbuild'] at hbuild; cases hbuild
      | error e' => exact .inl ⟨e, e', rfl, rfl⟩
  · intro q h
    refine ⟨pairwise_sources_of_build h, (sources_of_build h).1, ?_⟩
    rintro before a after rfl
    exact distinct_eq_singleton_of_build_named h

/-- The steps of a page of adult accounts, with a table that is added twice. -/
def adultSteps : List BuildStep :=
  [.fromTable ((Table.ofText "tb_account").named "a"),
    .fromTable ((Table.ofText "tb_account").named "b"), .named "c",
    .filtered (.predicate (Column.ofText "age") .ge (.value (.int 18))),
    .and (.predicate (Column.ofText "age") .lt (.value (.int 65))), .limit (some 10)]

/-- The same steps with the clauses interleaved. -/
def interleavedAdultSteps : List BuildStep :=
  [.limit (some 10), .fromTable ((Table.ofText "tb_account").named "a"),
    .filtered (.predicate (Column.ofText "age") .ge (.value (.int 18))),
    .fromTable ((Table.ofText "tb_account").named "b"),
    .and (.predicate (Column.ofText "age") .lt (.value (.int 65))), .named "c"]

theorem build_adultSteps :
  ∃ q, build adultSteps = .ok q ∧ build interleavedAdultSteps = .ok q ∧
    q.sources = [(Table.ofText "tb_account").named "c"]
  := by
  have hclauses : ∀ k, adultSteps.filter (·.clause = k) =
      interleavedAdultSteps.filter (·.clause = k) := by
    intro k
    cases k <;> rfl
  obtain ⟨hsame, hsources⟩ := build_by_clause adultSteps
  rcases hsame interleavedAdultSteps hclauses with ⟨e, _, he, -⟩ | ⟨q, hq, hq'⟩
  · cases he
  · exact ⟨q, hq, hq', (hsources q hq).2.1⟩

end Query

end SqlRender
