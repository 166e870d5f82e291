import SqlRender.Proofs.StatementValues

/-!
# The values of a part

A condition, a column and the assignments of a row can be written on their own.  Such a part
binds its values as the paging of the dialect lists them.  Who does not know the dialect can
only list them in the order of the clauses.  This list is a rearrangement of the one that is
bound, and it is the same list unless rows are numbered and there is a limited query inside of
the part for which the place of the ordering makes a difference: `Dialect.params_of_part`.
-/

namespace SqlRender

/-- A part of a statement that can be written on its own. -/
inductive BoundPart where
  | condition (c : Condition)
  | column (c : Column)
  /-- The assignments of a row. -/
  | assignments (row : UpdateRow)

/-- The queries that are written with what a column is set to. -/
def Assigned.written : Assigned → List Query
  | .query q => q.written
  | _ => []

namespace BoundPart

/-- The tokens of a part outside of any query. -/
def tokens (style : SelectStyle) : BoundPart → List Token
  | condition c => c.tokens style none
  | column c => c.tokens style none
  | assignments row => Mutation.assignments style none row

/-- The values of a part, under a paging or in the order of the clauses. -/
def values (paging : Option PagingStrategy) : BoundPart → List Value
  | condition c => c.values paging
  | column c => c.values paging
  | assignments row => row.values paging

/-- The queries that are written with a part. -/
def written : BoundPart → List Query
  | condition c => c.written
  | column c => c.written
  | assignments row => row.entries.flatMap fun entry => entry.2.written

/-- A part binds its values. -/
theorem params_tokens (style : SelectStyle) (part : BoundPart) :
  (part.tokens style).flatMap Token.params = part.values (some style.paging)
  := by
  cases part with
  | condition c => apply Condition.params_tokens
  | column c => apply Column.params_tokens
  | assignments row => apply Mutation.params_assignments

end BoundPart

/-! ### The place of the ordering -/

/-- It makes no difference whether the values of the ordering stand before those of the clauses
or behind them. -/
def Query.OrderCommutes (q : Query) : Prop :=
  q.orderValues none ++ q.clauseValues none = q.clauseValues none ++ q.orderValues none

/-- An ordering without values can stand anywhere. -/
theorem Query.orderCommutes_of_orderValues {q : Query} (h : q.orderValues none = []) :
  q.OrderCommutes
  := by
  rw [OrderCommutes, h, List.append_nil, List.nil_append]

variable {paging : Option PagingStrategy} {R : List Value → List Value → Prop}

/-- Lists that are related element by element are related when they are flattened. -/
theorem RelatesByPart.flatMap {α : Type} (hR : RelatesByPart R) {f g : α → List Value} {xs : List α}
    (h : ∀ x ∈ xs, R (f x) (g x)) :
  R (xs.flatMap f) (xs.flatMap g)
  := by
  induction xs with
  | nil => apply hR.refl
  | cons x xs ih =>
    obtain ⟨hx, hxs⟩ := List.forall_mem_cons.mp h
    apply hR.append hx (ih hxs)

theorem Assigned.values_related (hR : RelatesByPart R) {x : Assigned}
    (h : ∀ p ∈ x.written, p.MovesWithin paging R) :
  R (x.values paging) (x.values none)
  := by
  cases x with
  | value v => apply hR.refl
  | raw sql params => apply hR.refl
  | query q => apply Query.values_related hR q h

/-- The values of a part under a paging are related to those in the order of the clauses if the
orderings of all written queries may move. -/
theorem BoundPart.values_related (hR : RelatesByPart R) {part : BoundPart}
    (h : ∀ p ∈ part.written, p.MovesWithin paging R) :
  R (part.values paging) (part.values none)
  := by
  cases part with
  | condition c => apply Condition.values_related hR c h
  | column c => apply Column.values_related hR c h
  | assignments row =>
    apply hR.flatMap
    intro entry hentry
    apply Assigned.values_related hR
    exact fun p hp => h p (List.mem_flatMap.mpr ⟨entry, hentry, hp⟩)

/-- A part binds its values as the paging of the dialect lists them.  These are the values in the
order of the clauses, perhaps rearranged, and in the same order unless rows are numbered and the
place of the ordering makes a difference in a limited query. -/
theorem Dialect.params_of_part (d : Dialect) (part : BoundPart) :
  (∀ s, d.statement (part.tokens d.style) = .ok s → s.params = part.values (some d.paging))
    ∧ (part.values (some d.paging)).Perm (part.values none)
    ∧ ((d.paging = .rowNumber → ∀ q ∈ part.written, q.rows.isSome = true → q.OrderCommutes) →
      part.values (some d.paging) = part.values none)
  := by
  refine ⟨?_, ?_, ?_⟩
  · intro s hs
    rw [Statement.params_of_ofTokens hs]
    apply BoundPart.params_tokens
  · exact BoundPart.values_related .perm fun p _ => p.movesWithin_perm _
  · intro hcommutes
    apply BoundPart.values_related .eq
    intro p hp hfirst
    obtain ⟨hpaging, hrows⟩ : d.paging = .rowNumber ∧ p.rows.isSome = true := by
      simpa [ordersFirst, PagingStrategy.ordersFirst] using hfirst
    apply hcommutes hpaging p hp hrows

/-- The limited accounts in the order of a text. -/
def accountsByAge : Query :=
  { limitedAccounts with order := [.raw "age"] }

/-- An ordering without values does not change the place of the others. -/
theorem Dialect.params_of_part_accountsByAge :
  ∃ s, (builtIn .sqlServer2005).statement
      ((BoundPart.condition (.existence false accountsByAge)).tokens (builtIn .sqlServer2005).style)
        = .ok s
    ∧ ((builtIn .sqlServer2005).paging = .rowNumber →
      ∀ q ∈ (BoundPart.condition (.existence false accountsByAge)).written,
        q.rows.isSome = true → q.OrderCommutes)
    ∧ s.params = (BoundPart.condition (.existence false accountsByAge)).values none
  := by
  have hwritten : (BoundPart.condition (.existence false accountsByAge)).written
      = [accountsByAge] := rfl
  have hcommutes : (builtIn .sqlServer2005).paging = .rowNumber →
      ∀ q ∈ (BoundPart.condition (.existence false accountsByAge)).written,
        q.rows.isSome = true → q.OrderCommutes := by
    intro _ q hq _
    rw [hwritten, List.mem_singleton] at hq
    rw [hq]
    apply Query.orderCommutes_of_orderValues rfl
  obtain ⟨s, hs⟩ : ∃ s, (builtIn .sqlServer2005).statement
      ((BoundPart.condition (.existence false accountsByAge)).tokens (builtIn .sqlServer2005).style)
        = .ok s := ⟨_, rfl⟩
  obtain ⟨hbound, -, heq⟩ := params_of_part (builtIn .sqlServer2005)
    (.condition (.existence false accountsByAge))
  use s, hs, hcommutes
  rw [hbound s hs, heq hcommutes]

/-- Limited accounts in a condition, in a column and in an assignment. -/
def partsOfLimitedAccounts : List BoundPart :=
  [.condition (.existence false limitedAccounts), .column ⟨.subquery limitedAccounts, none⟩,
   .assignments ⟨[("account", .query limitedAccounts)]⟩]

/-- With numbered rows all these parts bind the value of the ordering first, which is the last in
the order of the clauses. -/
theorem BoundPart.params_ne_partsOfLimitedAccounts :
  (Dialect.builtIn .sqlServer2005).paging = .rowNumber
    ∧ ∀ part ∈ partsOfLimitedAccounts, ∃ s,
      (Dialect.builtIn .sqlServer2005).statement
          (part.tokens (Dialect.builtIn .sqlServer2005).style) = .ok s
        ∧ s.params = [.uint 99, .uint 7, .uint 18]
        ∧ part.values none = [.uint 7, .uint 18, .uint 99]
        ∧ s.params ≠ part.values none
  := by
  have hmoved : [Value.uint 99, .uint 7, .uint 18] ≠ [.uint 7, .uint 18, .uint 99] := by simp
  refine ⟨rfl, ?_⟩
  intro part hpart
  simp only [partsOfLimitedAccounts, List.mem_cons, List.not_mem_nil, or_false] at hpart
  obtain rfl | rfl | rfl := hpart
  · exact ⟨_, rfl, rfl, rfl, hmoved⟩
  · exact ⟨_, rfl, rfl, rfl, hmoved⟩
  · exact ⟨_, rfl, rfl, rfl, hmoved⟩

end SqlRender
