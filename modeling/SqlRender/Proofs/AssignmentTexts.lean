import Mathlib.Data.List.Induction
import Mathlib.Tactic.Use
import SqlRender.Environment

/-!
# Texts of assignments

A text of assignments is read line by line.  What a line says is told here without its reader,
by the relation `AssignmentLine.Says`, and the reader is shown to find it.  A text is accepted
just if each line is blank, a remark or an assignment; then a name has the value that was assigned
to it last.  The reader stops at the first other line, whose number the error has, and the
assignments before it remain in force: `Environment.load_lines`.  So a text that is refused may
still change the environment, as `Environment.load_refused_changes` shows.
-/

namespace SqlRender

/-! ### Cutting and quoting -/

theorem Text.cutFirst?_append {sep : Char} {before : List Char} (h : sep ∉ before)
    (after : List Char) :
  cutFirst? sep (before ++ sep :: after) = some (before, after)
  := by
  induction before with
  | nil => simp [cutFirst?]
  | cons c cs ih =>
    rw [List.mem_cons, not_or] at h
    simp [cutFirst?, Ne.symm h.1, ih h.2]

theorem Text.cutFirst?_eq_none_iff {sep : Char} {cs : List Char} :
  cutFirst? sep cs = none ↔ sep ∉ cs
  := by
  induction cs with
  | nil => simp [cutFirst?]
  | cons c cs ih =>
    by_cases hc : c = sep
    · simp [cutFirst?, hc]
    · simp [cutFirst?, hc, ih, Ne.symm hc]

theorem between?_eq_some_iff {quote : Char} {cs inner : List Char} :
  between? quote cs = some inner ↔ cs = quote :: (inner ++ [quote])
  := by
  cases cs with
  | nil => simp [between?]
  | cons c cs =>
    simp only [between?, Option.ite_none_right_eq_some, Option.some.injEq, List.cons.injEq,
      List.getLast?_eq_some_iff]
    constructor
    · rintro ⟨⟨rfl, rest, rfl⟩, rfl⟩
      simp
    · rintro ⟨rfl, rfl⟩
      simp

/-- The characters `cs` are `inner` between two double or two single quotes. -/
def IsQuoted (cs inner : List Char) : Prop :=
  ∃ quote, (quote = '"' ∨ quote = '\'') ∧ cs = quote :: (inner ++ [quote])

theorem between?_orElse_eq_some_iff {cs inner : List Char} :
  ((between? '"' cs).orElse fun _ => between? '\'' cs) = some inner ↔ IsQuoted cs inner
  := by
  rw [Option.orElse_eq_or, Option.or_eq_some_iff, between?_eq_some_iff, between?_eq_some_iff]
  constructor
  · rintro (h | ⟨-, h⟩)
    · exact ⟨'"', .inl rfl, h⟩
    · exact ⟨'\'', .inr rfl, h⟩
  · rintro ⟨quote, rfl | rfl, rfl⟩
    · exact .inl rfl
    · exact .inr ⟨rfl, rfl⟩

/-- The text `raw` stands for `value`: without the blanks at its ends it is `value` in quotes, or
it is `value` itself and not in quotes. -/
def IsValueOf (raw value : String) : Prop :=
  IsQuoted (Text.trim raw).toList value.toList
    ∨ value = Text.trim raw ∧ ∀ inner, ¬IsQuoted value.toList inner

theorem isValueOf_iff {raw value : String} :
  IsValueOf raw value ↔ value = unquoted raw
  := by
  simp only [IsValueOf, unquoted, ← between?_orElse_eq_some_iff]
  cases h : (between? '"' (Text.trim raw).toList).orElse fun _ =>
      between? '\'' (Text.trim raw).toList with
  | some inner =>
    constructor
    · rintro (hinner | ⟨rfl, hnone⟩)
      · simp [Option.some.inj hinner]
      · cases hnone inner h
    · rintro rfl
      simp
  | none =>
    constructor
    · rintro (hinner | ⟨rfl, -⟩)
      · cases hinner
      · simp
    · intro hvalue
      obtain rfl : value = Text.trim raw := by simpa using hvalue
      refine .inr ⟨rfl, fun inner hinner => ?_⟩
      rw [h] at hinner
      cases hinner

/-! ### What a line says -/

namespace AssignmentLine

/-- A line is blank or a remark. -/
def IsSkipped (line : String) : Prop :=
  (Text.trim line).toList = [] ∨ ∃ cs, (Text.trim line).toList = '#' :: cs

/-- The characters of a line without the blanks at its ends and without the word `export`. -/
def Spells (line : String) (cs : List Char) : Prop :=
  (Text.trim line).toList = "export ".toList ++ cs
    ∨ (Text.trim line).toList = cs ∧ ¬"export ".toList <+: cs

theorem spells_iff {line : String} {cs : List Char} :
  Spells line cs ↔ cs = withoutExport (Text.trim line).toList
  := by
  simp only [Spells, withoutExport, List.isPrefixOf_iff_prefix]
  constructor
  · rintro (h | ⟨rfl, h⟩)
    · rw [h, if_pos (List.prefix_append _ _), List.drop_left]
    · rw [if_neg h]
  · intro hcs
    rw [hcs]
    split
    · next h => exact .inl (List.prefix_iff_eq_append.mp h).symm
    · next h => exact .inr ⟨rfl, h⟩

/-- What a line says. -/
inductive Says (line : String) : AssignmentLine → Prop where
  | skipped (h : IsSkipped line) : Says line .skipped
  | assignment {before after : List Char} {value : String} (h : ¬IsSkipped line)
      (hspells : Spells line (before ++ '=' :: after)) (hbefore : '=' ∉ before)
      (hname : Text.trim (String.ofList before) ≠ "")
      (hvalue : IsValueOf (String.ofList after) value) :
      Says line (.assignment (Text.trim (String.ofList before)) value)
  | unseparated {cs : List Char} (h : ¬IsSkipped line) (hspells : Spells line cs) (hcs : '=' ∉ cs) :
      Says line .unseparated
  | nameless {before after : List Char} (h : ¬IsSkipped line)
      (hspells : Spells line (before ++ '=' :: after)) (hbefore : '=' ∉ before)
      (hname : Text.trim (String.ofList before) = "") :
      Says line .nameless

theorem ofText_of_isSkipped {line : String} (h : IsSkipped line) :
  ofText line = .skipped
  := by
  rw [ofText]
  split
  · rfl
  · rfl
  · next hnil hremark =>
    obtain h | ⟨cs, h⟩ := h
    · cases hnil h
    · cases hremark cs h

theorem ofText_of_spells {line : String} {cs : List Char} (h : ¬IsSkipped line)
    (hspells : Spells line cs) :
  ofText line = match Text.cutFirst? '=' cs with
    | none => .unseparated
    | some (before, after) =>
      if (Text.trim (String.ofList before)).isEmpty then .nameless
      else .assignment (Text.trim (String.ofList before)) (unquoted (String.ofList after))
  := by
  rw [spells_iff.mp hspells, ofText]
  split
  · next hnil => cases h (.inl hnil)
  · next cs hremark => cases h (.inr ⟨cs, hremark⟩)
  · cases Text.cutFirst? '=' (withoutExport (Text.trim line).toList) with
    | none => rfl
    | some cut => rfl

theorem says_iff {line : String} {l : AssignmentLine} :
  Says line l ↔ l = .ofText line
  := by
  constructor
  · intro h
    cases h with
    | skipped h => rw [ofText_of_isSkipped h]
    | assignment h hspells hbefore hname hvalue =>
      rw [ofText_of_spells h hspells, Text.cutFirst?_append hbefore,
        isValueOf_iff.mp hvalue]
      simp [hname]
    | unseparated h hspells hcs =>
      rw [ofText_of_spells h hspells, Text.cutFirst?_eq_none_iff.mpr hcs]
    | nameless h hspells hbefore hname =>
      rw [ofText_of_spells h hspells, Text.cutFirst?_append hbefore]
      simp [hname]
  · intro hl
    rw [hl]
    by_cases h : IsSkipped line
    · rw [ofText_of_isSkipped h]
      exact .skipped h
    · have hspells := spells_iff.mpr (rfl : withoutExport (Text.trim line).toList = _)
      rw [ofText_of_spells h hspells]
      cases hcut : Text.cutFirst? '=' (withoutExport (Text.trim line).toList) with
      | none => exact .unseparated h hspells (Text.cutFirst?_eq_none_iff.mp hcut)
      | some cut =>
        obtain ⟨before, after⟩ := cut
        obtain ⟨hcs, hbefore⟩ := Text.cutFirst?_eq_some hcut
        rw [hcs] at hspells
        by_cases hname : Text.trim (String.ofList before) = ""
        · simpa [hname] using Says.nameless h hspells hbefore hname
        · simpa [hname] using Says.assignment h hspells hbefore hname (isValueOf_iff.mpr rfl)

/-- The fault of a line, which has yet to be told the number of the line. -/
def fault? : AssignmentLine → Option (Nat → AssignmentError)
  | skipped | assignment .. => none
  | unseparated => some .unseparated
  | nameless => some .nameless

/-- A line with a fault lacks the sign or the name. -/
theorem cases_of_fault? {l : AssignmentLine} {e : Nat → AssignmentError} (h : l.fault? = some e) :
  (l = unseparated ∧ e = .unseparated) ∨ (l = nameless ∧ e = .nameless)
  := by
  cases l with
  | skipped | assignment => cases h
  | unseparated => exact .inl ⟨rfl, (Option.some.inj h).symm⟩
  | nameless => exact .inr ⟨rfl, (Option.some.inj h).symm⟩

/-- The value that a line assigns to a name. -/
def assigned? (wanted : String) : AssignmentLine → Option String
  | assignment name value => if name = wanted then some value else none
  | skipped | unseparated | nameless => none

theorem assigned?_eq_some_iff {l : AssignmentLine} {name value : String} :
  l.assigned? name = some value ↔ l = .assignment name value
  := by
  cases l with
  | assignment => simp [assigned?]
  | skipped | unseparated | nameless => simp [assigned?]

end AssignmentLine

/-! ### Running through the lines -/

namespace Environment

open AssignmentLine (Says says_iff)

/-- The environment after what one line assigns. -/
def obey (env : Environment) : AssignmentLine → Environment
  | .assignment name value => env.assign name value
  | .skipped | .unseparated | .nameless => env

theorem value?_obey (env : Environment) (l : AssignmentLine) (name : String) :
  (env.obey l).value? name = (l.assigned? name).or (env.value? name)
  := by
  cases l with
  | assignment name' value =>
    rw [obey, value?_assign, AssignmentLine.assigned?]
    split <;> rfl
  | skipped | unseparated | nameless => rfl

/-- After lines a name has the value that was assigned to it last, or its old value. -/
theorem value?_foldl_obey (env : Environment) (lines : List AssignmentLine) (name : String) :
  (lines.foldl obey env).value? name
    = (lines.reverse.findSome? (AssignmentLine.assigned? name)).or (env.value? name)
  := by
  induction lines using List.reverseRecOn with
  | nil => rfl
  | append_singleton lines l ih =>
    rw [List.foldl_append, List.reverse_append, List.reverse_singleton, List.singleton_append,
      List.findSome?_cons, List.foldl_cons, List.foldl_nil, value?_obey, ih]
    cases l.assigned? name <;> rfl

theorem loadLines_cons (n : Nat) (l : AssignmentLine) (rest : List AssignmentLine)
    (env : Environment) :
  loadLines n (l :: rest) env = match l.fault? with
    | some e => (env, some (e n))
    | none => loadLines (n + 1) rest (env.obey l)
  := by
  cases l <;> rfl

/-- The lines are obeyed up to the first one with a fault. -/
theorem loadLines_cases (n : Nat) (lines : List AssignmentLine) (env : Environment) :
  ((∀ l ∈ lines, l.fault? = none) ∧ loadLines n lines env = (lines.foldl obey env, none))
    ∨ ∃ front l rest e, lines = front ++ l :: rest ∧ (∀ l ∈ front, l.fault? = none)
      ∧ l.fault? = some e
      ∧ loadLines n lines env = (front.foldl obey env, some (e (n + front.length)))
  := by
  -- a sound line moves on the number and the environment, so both are general
  induction lines generalizing n env with
  | nil => exact .inl ⟨nofun, rfl⟩
  | cons first lines ih =>
    rw [loadLines_cons]
    cases hfirst : first.fault? with
    | some e => exact .inr ⟨[], first, lines, e, rfl, nofun, hfirst, rfl⟩
    | none =>
      obtain ⟨hall, hload⟩ | ⟨front, l, rest, e, rfl, hfront, hl, hload⟩ :=
        ih (n + 1) (env.obey first)
      · exact .inl ⟨List.forall_mem_cons.mpr ⟨hfirst, hall⟩, hload⟩
      · have hfront' : ∀ l ∈ first :: front, l.fault? = none :=
          List.forall_mem_cons.mpr ⟨hfirst, hfront⟩
        refine .inr ⟨first :: front, l, rest, e, rfl, hfront', hl, ?_⟩
        rw [List.length_cons, Nat.add_comm front.length, ← Nat.add_assoc]
        exact hload

/-! ### Texts -/

/-- The lines of a text. -/
def textLines (text : String) : List String :=
  (Text.pieces '\n' text.toList).map String.ofList

/-- A line is blank, a remark or an assignment. -/
def IsSound (line : String) : Prop :=
  Says line .skipped ∨ ∃ name value, Says line (.assignment name value)

/-- The value is the one that the lines assign to the name last. -/
def AssignedLast (lines : List String) (name value : String) : Prop :=
  ∃ before line after, lines = before ++ line :: after ∧ Says line (.assignment name value)
    ∧ ∀ later ∈ after, ∀ v, ¬Says later (.assignment name v)

/-- The second environment is the first one with what the lines assign. -/
structure Extends (lines : List String) (env env' : Environment) : Prop where
  assigned (name value : String) : AssignedLast lines name value → env'.value? name = some value
  kept (name : String) : (∀ line ∈ lines, ∀ v, ¬Says line (.assignment name v)) →
    env'.value? name = env.value? name

theorem linesOf_eq (text : String) :
  linesOf text = (textLines text).map .ofText
  := by
  rw [linesOf, textLines, List.map_map, Function.comp_def]

theorem isSound_iff {line : String} :
  IsSound line ↔ (AssignmentLine.ofText line).fault? = none
  := by
  simp only [IsSound, says_iff]
  cases AssignmentLine.ofText line <;> simp [AssignmentLine.fault?]

theorem says_assignment_iff {line name value : String} :
  Says line (.assignment name value)
    ↔ (AssignmentLine.ofText line).assigned? name = some value
  := by
  rw [says_iff, AssignmentLine.assigned?_eq_some_iff, eq_comm]

theorem findSome?_assigned?_eq_none {lines : List String} {name : String}
    (h : ∀ line ∈ lines, ∀ v, ¬Says line (.assignment name v)) :
  (lines.map AssignmentLine.ofText).reverse.findSome? (AssignmentLine.assigned? name) = none
  := by
  rw [List.findSome?_eq_none_iff]
  intro l hl
  rw [List.mem_reverse] at hl
  obtain ⟨line, hline, rfl⟩ := List.mem_map.mp hl
  apply Option.eq_none_iff_forall_ne_some.mpr
  intro v hv
  apply h line hline v
  rwa [says_assignment_iff]

theorem extends_foldl_obey (lines : List String) (env : Environment) :
  Extends lines env ((lines.map AssignmentLine.ofText).foldl obey env)
  := by
  constructor
  · rintro name value ⟨before, line, after, rfl, hline, hafter⟩
    rw [value?_foldl_obey, List.map_append, List.map_cons, List.reverse_append, List.reverse_cons,
      List.append_assoc, List.findSome?_append, findSome?_assigned?_eq_none hafter,
      List.singleton_append, List.findSome?_cons, says_assignment_iff.mp hline]
    rfl
  · intro name hnone
    rw [value?_foldl_obey, findSome?_assigned?_eq_none hnone, Option.none_or]

/-- A text is obeyed as a whole, or up to its first faulty line. -/
theorem load_cases (text : String) (env : Environment) :
  ((∀ line ∈ textLines text, IsSound line)
      ∧ env.load text = (((textLines text).map AssignmentLine.ofText).foldl obey env, none))
    ∨ ∃ front line rest e, textLines text = front ++ line :: rest ∧ (∀ l ∈ front, IsSound l)
      ∧ (AssignmentLine.ofText line).fault? = some e
      ∧ env.load text
        = ((front.map AssignmentLine.ofText).foldl obey env, some (e (front.length + 1)))
  := by
  rw [load, linesOf_eq]
  simp only [isSound_iff]
  obtain ⟨hall, hload⟩ | ⟨front, l, rest, e, hlines, hfront, hl, hload⟩ :=
    loadLines_cases 1 ((textLines text).map .ofText) env
  · exact .inl ⟨fun line hline => hall _ (List.mem_map_of_mem hline), hload⟩
  · obtain ⟨front, rest', htext, rfl, hrest⟩ := List.map_eq_append_iff.mp hlines
    obtain ⟨line, rest, rfl, rfl, rfl⟩ := List.map_eq_cons_iff.mp hrest
    rw [List.length_map, Nat.add_comm] at hload
    exact .inr ⟨front, line, rest, e, htext, fun l h => hfront _ (List.mem_map_of_mem h), hl, hload⟩

/-- A text of assignments is accepted just if each of its lines is blank, a remark or an
assignment, and then the environment is extended by them.  Otherwise the error tells what is
wrong with the first other line and has its number, and the environment is extended by the lines
before it. -/
theorem load_lines (text : String) (env : Environment) :
  ((env.load text).2 = none ↔ ∀ line ∈ textLines text, IsSound line)
    ∧ ((env.load text).2 = none → Extends (textLines text) env (env.load text).1)
    ∧ ∀ e, (env.load text).2 = some e →
      ∃ front line rest, textLines text = front ++ line :: rest ∧ (∀ l ∈ front, IsSound l)
        ∧ (e = .unseparated (front.length + 1) ∧ Says line .unseparated
          ∨ e = .nameless (front.length + 1) ∧ Says line .nameless)
        ∧ Extends front env (env.load text).1
  := by
  obtain ⟨hall, hload⟩ | ⟨front, line, rest, e, htext, hfront, hline, hload⟩ := load_cases text env
  · rw [hload]
    exact ⟨⟨fun _ => hall, fun _ => rfl⟩, fun _ => extends_foldl_obey _ env, nofun⟩
  · rw [hload]
    refine ⟨⟨nofun, fun hall => ?_⟩, nofun, ?_⟩
    · have hsound : IsSound line := hall line (by simp [htext])
      rw [isSound_iff, hline] at hsound
      cases hsound
    · rintro _ ⟨⟩
      refine ⟨front, line, rest, htext, hfront, ?_, extends_foldl_obey front env⟩
      rw [says_iff, says_iff]
      obtain ⟨hl, rfl⟩ | ⟨hl, rfl⟩ := AssignmentLine.cases_of_fault? hline
      · exact .inl ⟨rfl, hl.symm⟩
      · exact .inr ⟨rfl, hl.symm⟩

/-- A remark, and two assignments to the same name. -/
def repeatedText : String := "# pages\nexport SIZE='10'\nSIZE=20"

/-- An assignment, and a name that stands alone. -/
def brokenText : String := "SIZE=10\nPAGE"

/-- Of the one text the second assignment holds, and the other one is refused at its second line,
after the first one has been obeyed. -/
theorem load_lines_repeatedText_brokenText :
  ((ofPairs [("PAGE", "1")]).load repeatedText).2 = none
    ∧ ((ofPairs [("PAGE", "1")]).load repeatedText).1.value? "SIZE" = some "20"
    ∧ ((ofPairs [("PAGE", "1")]).load repeatedText).1.value? "PAGE" = some "1"
    ∧ (empty.load brokenText).2 = some (.unseparated 2)
    ∧ ∃ front line rest, textLines brokenText = front ++ line :: rest ∧ front.length = 1
      ∧ Says line .unseparated ∧ Extends front empty (empty.load brokenText).1
  := by
  obtain ⟨-, hextends, -⟩ := load_lines repeatedText (ofPairs [("PAGE", "1")])
  have hnone : ((ofPairs [("PAGE", "1")]).load repeatedText).2 = none := by decide
  have hlines : textLines repeatedText = ["# pages", "export SIZE='10'"] ++ "SIZE=20" :: [] := by
    decide
  obtain ⟨hassigned, hkept⟩ := hextends hnone
  refine ⟨hnone, hassigned _ _ ⟨_, _, _, hlines, ?_, nofun⟩, ?_, by decide, ?_⟩
  · rw [says_iff]
    decide
  · have hother : ∀ line ∈ textLines repeatedText,
        (AssignmentLine.ofText line).assigned? "PAGE" = none := by
      decide
    apply (hkept "PAGE" ?_).trans rfl
    intro line hline v
    rw [says_assignment_iff, hother line hline]
    exact nofun
  · obtain ⟨-, -, hfault⟩ := load_lines brokenText empty
    obtain ⟨front, line, rest, hlines, -, ⟨he, hline⟩ | ⟨he, -⟩, h⟩ :=
      hfault (.unseparated 2) (by decide)
    · have hlength : 2 = front.length + 1 := AssignmentError.unseparated.inj he
      exact ⟨front, line, rest, hlines, (Nat.succ.inj hlength).symm, hline, h⟩
    · cases he

/-- A text that is refused has changed a value. -/
theorem load_refused_changes :
  ((ofPairs [("SIZE", "5")]).load brokenText).2 = some (.unseparated 2)
    ∧ ((ofPairs [("SIZE", "5")]).load brokenText).1.value? "SIZE" = some "10"
    ∧ (ofPairs [("SIZE", "5")]).value? "SIZE" = some "5"
  := by
  decide

end Environment

end SqlRender
