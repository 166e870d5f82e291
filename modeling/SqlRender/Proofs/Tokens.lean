import Mathlib.Tactic.Use
import SqlRender.Dialect

/-!
# Views of a list of tokens

A statement is seen through views that run along its tokens: its values, its guards, its
text.  Here is what such a view makes of tokens that are separated or put in
parentheses, for views that see nothing in a mere text.
-/

namespace SqlRender

namespace Token

/-- A view that sees nothing in a mere text sees the parts alone. -/
theorem flatMap_separated {β : Type} {f : Token → List β} (hf : ∀ s, f (.text s) = [])
    (separator : String) (parts : List (List Token)) :
  (separated separator parts).flatMap f = parts.flatMap fun part => part.flatMap f
  := by
  fun_induction separated separator parts with
  | case1 => rfl
  | case2 part => simp
  | case3 part rest hrest ih => simp [hf, ih]

/-- A view that sees nothing in a mere text sees the part alone. -/
theorem flatMap_parenthesized {β : Type} {f : Token → List β} (hf : ∀ s, f (.text s) = [])
    (part : List Token) :
  (parenthesized part).flatMap f = part.flatMap f
  := by
  simp [parenthesized, hf]

/-- Every part is in one piece. -/
theorem infix_separated {separator : String} {parts : List (List Token)} {part : List Token}
    (h : part ∈ parts) :
  part <:+: separated separator parts
  := by
  fun_induction separated separator parts with
  | case1 => cases h
  | case2 only =>
    obtain rfl := List.mem_singleton.mp h
    exact List.infix_refl _
  | case3 first rest hrest ih =>
    obtain rfl | h := List.mem_cons.mp h
    · exact (List.prefix_append ..).isInfix
    · have hbehind := List.infix_cons (a := text separator) (ih h)
      exact hbehind.trans (List.suffix_append ..).isInfix

/-! ### Values -/

@[simp]
theorem params_text (s : String) :
  params (.text s) = []
  := rfl

@[simp]
theorem params_name (n : String) :
  params (.name n) = []
  := rfl

@[simp]
theorem params_table (schema : Option String) (n : String) :
  params (.table schema n) = []
  := rfl

@[simp]
theorem params_function (n : String) :
  params (.function n) = []
  := rfl

@[simp]
theorem params_order (s : String) :
  params (.order s) = []
  := rfl

@[simp]
theorem params_bind (v : Value) :
  params (.bind v) = [v]
  := rfl

@[simp]
theorem params_raw (sql : String) (vs : List Value) :
  params (.raw sql vs) = vs
  := rfl

@[simp]
theorem params_refuse (e : QueryError) :
  params (.refuse e) = []
  := rfl

@[simp]
theorem params_separated (separator : String) (parts : List (List Token)) :
  (separated separator parts).flatMap params = parts.flatMap fun part => part.flatMap params
  := flatMap_separated params_text separator parts

@[simp]
theorem params_parenthesized (part : List Token) :
  (parenthesized part).flatMap params = part.flatMap params
  := flatMap_parenthesized params_text part

@[simp]
theorem params_parenthesizedIf (needed : Bool) (part : List Token) :
  (parenthesizedIf needed part).flatMap params = part.flatMap params
  := by
  cases needed <;> simp [parenthesizedIf]

end Token

/-- Every column of a list is written on its own. -/
theorem Column.tokensEach_eq_map (style : SelectStyle) (scope : Option Scope)
    (columns : List Column) :
  Column.tokensEach style scope columns = columns.map (Column.tokens style scope)
  := by
  induction columns with
  | nil => rfl
  | cons c columns ih => rw [Column.tokensEach, ih, List.map_cons]

/-- Every table of a list is written on its own. -/
theorem Table.tokensEach_eq_map (style : SelectStyle) (scope : Option Scope)
    (tables : List Table) :
  Table.tokensEach style scope tables = tables.map (Table.tokens style scope)
  := by
  induction tables with
  | nil => rfl
  | cons t tables ih => rw [Table.tokensEach, ih, List.map_cons]

/-- A statement is made of tokens exactly if all of them pass their guards. -/
theorem Statement.ofTokens_eq_ok_iff {quoting : Quoting} {tokens : List Token} {s : Statement} :
  Statement.ofTokens quoting tokens = .ok s ↔
    (∀ t ∈ tokens, ∀ g ∈ t.guards, g.verify = .ok ())
      ∧ ⟨String.join (tokens.map (Token.toText quoting)), tokens.flatMap Token.params⟩ = s
  := by
  have hguards : Guard.verifyAll (tokens.flatMap Token.guards) = .ok ()
      ↔ ∀ t ∈ tokens, ∀ g ∈ t.guards, g.verify = .ok () := by
    simp only [Guard.verifyAll_eq_ok_iff, List.mem_flatMap, forall_exists_index, and_imp]
    exact ⟨fun h t ht g hg => h g t ht hg, fun h g t ht hg => h t ht g hg⟩
  unfold Statement.ofTokens
  rw [← hguards]
  split
  · next e he => simp [he]
  · next hok => simp [hok]

/-- A statement binds the values of its tokens. -/
theorem Statement.params_of_ofTokens {quoting : Quoting} {tokens : List Token} {s : Statement}
    (h : Statement.ofTokens quoting tokens = .ok s) :
  s.params = tokens.flatMap Token.params
  := by
  obtain ⟨-, rfl⟩ := Statement.ofTokens_eq_ok_iff.mp h
  rfl

end SqlRender
