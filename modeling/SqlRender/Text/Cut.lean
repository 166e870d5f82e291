/-!
# Cutting texts

A text is cut at a chosen separator: at its first or its last occurrence, or at all
of them; and texts are put together with a separator between them.
-/

namespace SqlRender.Text

/-- The characters before and after the first `sep`. -/
def cutFirst? (sep : Char) : List Char → Option (List Char × List Char)
  | [] => none
  | c :: cs =>
    if c = sep then some ([], cs)
    else (cutFirst? sep cs).map fun (before, after) => (c :: before, after)

/-- The characters before and after the last `sep`. -/
def cutLast? (sep : Char) : List Char → Option (List Char × List Char)
  | [] => none
  | c :: cs =>
    match cutLast? sep cs with
    | some (before, after) => some (c :: before, after)
    | none => if c = sep then some ([], cs) else none

/-- The stretches between the occurrences of `sep`; there is always one more of them
than of `sep`. -/
def pieces (sep : Char) : List Char → List (List Char)
  | [] => [[]]
  | c :: cs =>
    match pieces sep cs with
    | [] => [[c]]
    | piece :: rest => if c = sep then [] :: piece :: rest else (c :: piece) :: rest

/-- The dotted parts of a name. -/
def dottedParts (name : String) : List String :=
  (pieces '.' name.toList).map String.ofList

/-- Whether `needle` stands somewhere in `hay`. -/
def occursIn (needle : List Char) : List Char → Bool
  | [] => needle.isEmpty
  | c :: cs => needle.isPrefixOf (c :: cs) || occursIn needle cs

/-- `parts` one after the other with `sep` between them. -/
def joinWith (sep : String) : List String → String
  | [] => ""
  | [s] => s
  | s :: rest => s ++ sep ++ joinWith sep rest

theorem cutFirst?_eq_some {sep : Char} {cs before after : List Char}
    (h : cutFirst? sep cs = some (before, after)) :
  cs = before ++ sep :: after ∧ sep ∉ before
  := by
  induction cs generalizing before with
  | nil => simp [cutFirst?] at h
  | cons c cs ih =>
    by_cases hc : c = sep
    · simp only [cutFirst?, hc, if_true, Option.some.injEq, Prod.mk.injEq] at h
      obtain ⟨rfl, rfl⟩ := h
      simp [hc]
    · simp only [cutFirst?, hc, if_false, Option.map_eq_some_iff, Prod.mk.injEq, Prod.exists] at h
      obtain ⟨b, a, hcut, rfl, rfl⟩ := h
      obtain ⟨hcs, hb⟩ := ih hcut
      constructor
      · simp [hcs]
      · simp only [List.mem_cons, not_or]
        exact ⟨fun e => hc e.symm, hb⟩

end SqlRender.Text
