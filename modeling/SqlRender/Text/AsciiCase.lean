/-!
# ASCII letter case

Names are compared and looked up with the case of the letters `A` to `Z` ignored;
every other character stands for itself.
-/

namespace SqlRender.Text

/-- `s` with `A` to `Z` in lower case. -/
def lower (s : String) : String :=
  String.ofList (s.toList.map Char.toLower)

/-- `s` with `a` to `z` in upper case. -/
def upper (s : String) : String :=
  String.ofList (s.toList.map Char.toUpper)

/-- Whether `s` and `t` differ at most in the case of ASCII letters. -/
def sameIgnoringCase (s t : String) : Bool :=
  lower s == lower t

theorem sameIgnoringCase_iff {s t : String} :
  sameIgnoringCase s t = true ↔ lower s = lower t
  := by
  simp [sameIgnoringCase]

theorem sameIgnoringCase_refl (s : String) :
  sameIgnoringCase s s = true
  := by
  simp [sameIgnoringCase]

/-- A capital letter and its small one are 32 apart. -/
theorem val_toLower {c : Char} (h : c.val ≥ 'A'.val ∧ c.val ≤ 'Z'.val) :
  c.toLower.val = c.val + 32
  := congrArg Char.val (dif_pos h)

/-- Nothing but a capital letter is changed in lower case. -/
theorem toLower_eq_self {c : Char} (h : ¬ (c.val ≥ 'A'.val ∧ c.val ≤ 'Z'.val)) :
  c.toLower = c
  := dif_neg h

end SqlRender.Text
