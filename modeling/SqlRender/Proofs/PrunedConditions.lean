import SqlRender.Proofs.BoundValues
import SqlRender.Proofs.ConditionReading
import SqlRender.Query.Build

/-!
# Conditions without their empty parts

A condition may be empty in some of its parts, and these have no effect: two conditions are
`Alike` if they are empty alike, need parentheses alike, and are written with the same tokens
and values.  Being alike is kept by all ways of putting conditions together, so a condition is
alike to its pruned form.  Nothing in a pruned form is empty, unless the whole is the empty
condition, and this is the pruned form of the conditions without effect only:
`pruned_eq_empty_iff`.  Connecting conditions is associative and has the empty condition as its
unit, up to being alike.
-/

namespace SqlRender

namespace Condition

/-- Two conditions stand for each other wherever a condition is written. -/
structure Alike (c d : Condition) : Prop where
  isEmpty : c.isEmpty = d.isEmpty
  needsParentheses : ∀ op, c.needsParentheses op = d.needsParentheses op
  tokens : ∀ style scope, c.tokens style scope = d.tokens style scope
  values : ∀ paging, c.values paging = d.values paging

/-! ### Parts without effect -/

/-- A condition without effect has no tokens. -/
theorem tokens_eq_nil_of_isEmpty (style : SelectStyle) (scope : Option Scope) :
    ∀ c : Condition, c.isEmpty = true →
  c.tokens style scope = []
  | .empty, _ => rfl
  | .not c, h | .group c, h => if_pos h
  | .connect left _ right, h => by
    obtain ⟨hleft, hright⟩ := Bool.and_eq_true_iff.mp h
    rw [tokens, if_pos hleft, tokens_eq_nil_of_isEmpty style scope right hright]

@[simp]
theorem needsParentheses_not (op : Connective) (c : Condition) :
  (Condition.not c).needsParentheses op = false
  := by cases h : c.effective? <;> simp [needsParentheses, effective?, h]

@[simp]
theorem needsParentheses_group (op : Connective) (c : Condition) :
  (Condition.group c).needsParentheses op = false
  := by cases h : c.effective? <;> simp [needsParentheses, effective?, h]

/-- A condition without effect needs no parentheses. -/
theorem needsParentheses_of_isEmpty {c : Condition} (h : c.isEmpty = true) (op : Connective) :
  c.needsParentheses op = false
  := by simp [needsParentheses, c.isEmpty_iff.mp h]

/-- Two sides need the parentheses of their connective, and an only side needs its own. -/
theorem needsParentheses_connect (parent op : Connective) (left right : Condition) :
  (connect left op right).needsParentheses parent
    = if left.isEmpty then right.needsParentheses parent
      else if right.isEmpty then left.needsParentheses parent
      else op != parent
  := by
  have hleft := left.isEmpty_iff
  have hright := right.isEmpty_iff
  unfold needsParentheses
  rw [effective?]
  cases hl : left.effective? <;> cases hr : right.effective? <;> simp_all

/-! ### Being alike -/

namespace Alike

variable {c c' d d' e : Condition}

theorem refl (c : Condition) :
  c.Alike c
  := ⟨rfl, fun _ => rfl, fun _ _ => rfl, fun _ => rfl⟩

theorem symm (h : c.Alike d) :
  d.Alike c
  := by
  constructor
  case isEmpty => exact h.isEmpty.symm
  case needsParentheses => exact fun op => (h.needsParentheses op).symm
  case tokens => exact fun style scope => (h.tokens style scope).symm
  case values => exact fun paging => (h.values paging).symm

theorem trans (h : c.Alike d) (h' : d.Alike e) :
  c.Alike e
  := by
  constructor
  case isEmpty => exact h.isEmpty.trans h'.isEmpty
  case needsParentheses => exact fun op => (h.needsParentheses op).trans (h'.needsParentheses op)
  case tokens => exact fun style scope => (h.tokens style scope).trans (h'.tokens style scope)
  case values => exact fun paging => (h.values paging).trans (h'.values paging)

/-- Conditions without effect are alike. -/
theorem of_isEmpty (hc : c.isEmpty = true) (hd : d.isEmpty = true) :
  c.Alike d
  := by
  constructor
  case isEmpty => rw [hc, hd]
  case needsParentheses =>
    intro op
    rw [needsParentheses_of_isEmpty hc, needsParentheses_of_isEmpty hd]
  case tokens =>
    intro style scope
    rw [tokens_eq_nil_of_isEmpty style scope c hc, tokens_eq_nil_of_isEmpty style scope d hd]
  case values =>
    intro paging
    rw [values_eq_nil_of_isEmpty paging c hc, values_eq_nil_of_isEmpty paging d hd]

theorem not (h : c.Alike d) :
  (Condition.not c).Alike (.not d)
  := by
  constructor
  case isEmpty => exact h.isEmpty
  case needsParentheses => simp
  case tokens =>
    intro style scope
    rw [Condition.tokens, Condition.tokens, h.isEmpty, h.tokens]
  case values => exact h.values

theorem group (h : c.Alike d) :
  (Condition.group c).Alike (.group d)
  := by
  constructor
  case isEmpty => exact h.isEmpty
  case needsParentheses => simp
  case tokens =>
    intro style scope
    rw [Condition.tokens, Condition.tokens, h.isEmpty, h.tokens]
  case values => exact h.values

theorem connect (hc : c.Alike c') (hd : d.Alike d') (op : Connective) :
  (Condition.connect c op d).Alike (.connect c' op d')
  := by
  constructor
  case isEmpty => rw [Condition.isEmpty, Condition.isEmpty, hc.isEmpty, hd.isEmpty]
  case needsParentheses =>
    intro parent
    simp only [needsParentheses_connect, hc.isEmpty, hd.isEmpty, hc.needsParentheses,
      hd.needsParentheses]
  case tokens =>
    intro style scope
    simp only [Condition.tokens, hc.isEmpty, hd.isEmpty, hc.needsParentheses,
      hd.needsParentheses, hc.tokens, hd.tokens]
  case values =>
    intro paging
    rw [Condition.values, Condition.values, hc.values, hd.values]

end Alike

/-! ### Connecting -/

section

variable {c d : Condition} (op : Connective)

/-- With nothing on the left, a connective is alike to its right side. -/
theorem alike_connect_of_left (h : c.isEmpty = true) (d : Condition) :
  (connect c op d).Alike d
  := by
  constructor
  case isEmpty => rw [isEmpty, h, Bool.true_and]
  case needsParentheses => simp [needsParentheses_connect, h]
  case tokens =>
    intro style scope
    rw [tokens, if_pos h]
  case values =>
    intro paging
    rw [values, values_eq_nil_of_isEmpty paging c h, List.nil_append]

/-- With nothing on the right, a connective is alike to its left side. -/
theorem alike_connect_of_right (c : Condition) (h : d.isEmpty = true) :
  (connect c op d).Alike c
  := by
  by_cases hc : c.isEmpty = true
  · exact .of_isEmpty (Bool.and_eq_true_iff.mpr ⟨hc, h⟩) hc
  · constructor
    case isEmpty => rw [isEmpty, h, Bool.and_true]
    case needsParentheses => simp [needsParentheses_connect, hc, h]
    case tokens =>
      intro style scope
      rw [tokens, if_neg hc, if_pos h]
    case values =>
      intro paging
      rw [values, values_eq_nil_of_isEmpty paging d h, List.append_nil]

/-- Connected conditions are alike to a connective, which keeps empty sides. -/
theorem alike_connected (c d : Condition) :
  (connected op c d).Alike (connect c op d)
  := by
  unfold connected
  split
  · next h => exact (alike_connect_of_left op h d).symm
  · split
    · next h => exact (alike_connect_of_right op c h).symm
    · exact .refl _

/-- Connected conditions are alike if their sides are. -/
theorem Alike.connected {c' d' : Condition} (hc : c.Alike c') (hd : d.Alike d') :
  (Condition.connected op c d).Alike (Condition.connected op c' d')
  := ((alike_connected op c d).trans (hc.connect hd op)).trans (alike_connected op c' d').symm

/-- Three conditions are alike however they are connected, as none of the sides of a connective
needs parentheses for the same connective. -/
theorem alike_connect_assoc (a b c : Condition) :
  (connect (connect a op b) op c).Alike (connect a op (connect b op c))
  := by
  by_cases ha : a.isEmpty = true
  · exact ((alike_connect_of_left op ha b).connect (.refl c) op).trans
      (alike_connect_of_left op ha _).symm
  by_cases hb : b.isEmpty = true
  · exact ((alike_connect_of_right op a hb).connect (.refl c) op).trans
      ((Alike.refl a).connect (alike_connect_of_left op hb c) op).symm
  by_cases hc : c.isEmpty = true
  · exact (alike_connect_of_right op _ hc).trans
      ((Alike.refl a).connect (alike_connect_of_right op b hc) op).symm
  constructor
  case isEmpty => simp only [isEmpty, Bool.and_assoc]
  case needsParentheses => simp [needsParentheses_connect, isEmpty, ha, hb, hc]
  case tokens =>
    intro style scope
    simp [tokens, needsParentheses_connect, isEmpty, parenthesizedIf, ha, hb, hc]
  case values => simp [values]

/-- Connecting is associative up to being alike. -/
theorem alike_connected_assoc (a b c : Condition) :
  (connected op (connected op a b) c).Alike (connected op a (connected op b c))
  := by
  have hleft := ((alike_connected op a b).connected op (.refl c)).trans
    (alike_connected op (connect a op b) c)
  have hright := ((Alike.refl a).connected op (alike_connected op b c)).trans
    (alike_connected op a (connect b op c))
  exact (hleft.trans (alike_connect_assoc op a b c)).trans hright.symm

/-- The empty condition is a unit on the left. -/
theorem connected_empty_left (c : Condition) :
  connected op .empty c = c
  := rfl

/-- The empty condition is a unit on the right, up to being alike. -/
theorem alike_connected_empty_right (c : Condition) :
  (connected op c .empty).Alike c
  := (alike_connected op c .empty).trans (alike_connect_of_right op c rfl)

end

theorem alike_negated (c : Condition) :
  c.negated.Alike (.not c)
  := by
  unfold negated
  split
  · next h => exact .of_isEmpty h h
  · exact .refl _

theorem alike_grouped (c : Condition) :
  c.grouped.Alike (.group c)
  := by
  unfold grouped
  split
  · next h => exact .of_isEmpty h h
  · exact .refl _

/-! ### Pruning -/

/-- The condition without its empty parts; a connective with one empty side is the other
side. -/
def pruned : Condition → Condition
  | .not c => c.pruned.negated
  | .group c => c.pruned.grouped
  | .connect left op right => connected op left.pruned right.pruned
  | c => c

/-- No part of the condition is empty. -/
def Solid : Condition → Prop
  | .empty => False
  | .not c => c.Solid
  | .group c => c.Solid
  | .connect left _ right => left.Solid ∧ right.Solid
  | _ => True

/-- A condition is alike to its pruned form. -/
theorem alike_pruned :
    ∀ c : Condition,
  c.pruned.Alike c
  | .not c => (alike_negated c.pruned).trans (alike_pruned c).not
  | .group c => (alike_grouped c.pruned).trans (alike_pruned c).group
  | .connect left op right =>
    (alike_connected op left.pruned right.pruned).trans
      ((alike_pruned left).connect (alike_pruned right) op)
  | .predicate .. | .raw .. | .existence .. | .empty => .refl _

/-- A condition without empty parts is not empty. -/
theorem isEmpty_eq_false_of_solid :
    ∀ c : Condition, c.Solid →
  c.isEmpty = false
  | .predicate .., _ | .raw .., _ | .existence .., _ => rfl
  | .not c, h | .group c, h => isEmpty_eq_false_of_solid c h
  | .connect left _ _, h => by rw [isEmpty, isEmpty_eq_false_of_solid left h.1, Bool.false_and]

/-- Nothing in a pruned form is empty, unless it is the empty condition. -/
theorem pruned_eq_empty_or_solid :
    ∀ c : Condition,
  c.pruned = .empty ∨ c.pruned.Solid
  | .not c => by
    obtain h | h := pruned_eq_empty_or_solid c
    · left
      rw [pruned, h]
      rfl
    · right
      rw [pruned, negated, isEmpty_eq_false_of_solid _ h]
      exact h
  | .group c => by
    obtain h | h := pruned_eq_empty_or_solid c
    · left
      rw [pruned, h]
      rfl
    · right
      rw [pruned, grouped, isEmpty_eq_false_of_solid _ h]
      exact h
  | .connect left op right => by
    obtain hleft | hleft := pruned_eq_empty_or_solid left
    · rw [pruned, hleft, connected_empty_left]
      exact pruned_eq_empty_or_solid right
    · right
      obtain hright | hright := pruned_eq_empty_or_solid right
      · rw [pruned, hright, connected, isEmpty_eq_false_of_solid _ hleft]
        exact hleft
      · rw [pruned, connected, isEmpty_eq_false_of_solid _ hleft,
          isEmpty_eq_false_of_solid _ hright]
        exact ⟨hleft, hright⟩
  | .predicate .. | .raw .. | .existence .. => .inr trivial
  | .empty => .inl rfl

/-- The empty condition is the pruned form of the conditions without effect, and of no other. -/
theorem pruned_eq_empty_iff (c : Condition) :
  c.pruned = .empty ↔ c.isEmpty = true
  := by
  rw [← c.alike_pruned.isEmpty]
  constructor
  · intro h
    rw [h]
    rfl
  · intro h
    apply c.pruned_eq_empty_or_solid.resolve_right
    intro hsolid
    rw [isEmpty_eq_false_of_solid _ hsolid] at h
    cases h

end Condition

end SqlRender
