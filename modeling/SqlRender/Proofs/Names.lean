import SqlRender.Proofs.Lexemes
import SqlRender.Proofs.Placeholders

/-!
# Names in a statement

A name that passes its guard is written part by part, quoted or bare.  The guard refuses the
characters of a fixed list, which has back quotes and double quotes but neither brackets nor
the signs that may end a bare name.  So it depends on the quoting which parts are read as one
identifier: all of them between back quotes or double quotes, those without brackets in
brackets, and those without signs if they are bare.  A name whose parts are read so leaves the
rest of the statement as it is: `Quoting.lexemes_wrapName`.
-/

namespace SqlRender

/-! ### Names that pass their guard -/

theorem Guard.notMem_of_checkIdentifier {n : String} (h : checkIdentifier n = .ok ()) {c : Char}
    (hc : c ∈ refusedCharacters) :
  c ∉ n.toList
  := by
  intro hmem
  unfold checkIdentifier at h
  split at h
  · cases h
  · split at h
    · cases h
    · split at h
      · cases h
      · next hnone =>
        have hnot := List.find?_eq_none.mp hnone c hmem
        exact hnot (List.contains_iff_mem.mpr hc)

/-- The characters of a part are characters of the name. -/
theorem Text.subset_of_mem_dottedParts {n part : String} (h : part ∈ dottedParts n) :
  part.toList ⊆ n.toList
  := by
  obtain ⟨piece, hpiece, rfl⟩ := List.mem_map.mp h
  rw [String.toList_ofList]
  apply mem_of_mem_pieces hpiece

/-! ### Letters and digits -/

namespace Lexeme

/-- A character that is written in upper case as a letter or a digit is one. -/
theorem isAlphanum_of_toUpper {c : Char} (h : c.toUpper.isAlphanum = true) :
  c.isAlphanum = true
  := by
  unfold Char.toUpper at h
  split at h
  · next hrange =>
    have hlower : c.isLower = true :=
      Bool.and_eq_true_iff.mpr ⟨decide_eq_true hrange.1, decide_eq_true hrange.2⟩
    change (c.isUpper || c.isLower || c.isDigit) = true
    rw [hlower, Bool.or_true, Bool.true_or]
  · exact h

end Lexeme

namespace Quoting

/-- Reserved words are made of letters and digits. -/
theorem isAlphanum_of_mem_reserved :
  ∀ w ∈ oracleWords ++ dmWords, w.toList.all Char.isAlphanum = true
  := by
  apply List.all_eq_true.mp
  decide +kernel

theorem all_isAlphanum_upper {reserved : List String}
    (hreserved : reserved ⊆ oracleWords ++ dmWords) {part : String}
    (h : reserved.contains (Text.upper part) = true) :
  ∀ c ∈ (Text.upper part).toList, c.isAlphanum = true
  := List.all_eq_true.mp
    (isAlphanum_of_mem_reserved _ (hreserved (List.contains_iff_mem.mp h)))

/-- A part that is a reserved word in upper case is a word. -/
theorem all_inWord_of_reserved {reserved : List String}
    (hreserved : reserved ⊆ oracleWords ++ dmWords) {part : String}
    (h : reserved.contains (Text.upper part) = true) :
  ∀ c ∈ part.toList, Lexeme.inWord c = true
  := by
  intro c hc
  apply Lexeme.inWord_of_isAlphanum
  apply Lexeme.isAlphanum_of_toUpper
  apply all_isAlphanum_upper hreserved h
  rw [Text.upper, String.toList_ofList]
  apply List.mem_map_of_mem hc

/-! ### Identifiers -/

/-- A text is a single identifier if it is bare and without signs and blanks, or stands in
quotes and holds neither of them. -/
def IsIdentifier (q : Quoting) (cs : List Char) : Prop :=
  (∀ c ∈ cs, Lexeme.inWord c = true)
    ∨ ∃ left right inner,
      q.marks? = some (left, right) ∧ cs = left :: inner ++ [right] ∧ left ∉ inner ∧ right ∉ inner

/-- Whether a part of a name that passes its guard is confined to one identifier. -/
def confines (q : Quoting) (part : String) : Bool :=
  match q with
  | backQuotes | doubleQuotes => true
  | squareBrackets => !part.toList.contains '[' && !part.toList.contains ']'
  | bare | oracleKeywords | dmKeywords => part.toList.all Lexeme.inWord

/-- No quote stands in a word. -/
theorem inWord_of_marks {q : Quoting} {left right : Char} (h : q.marks? = some (left, right)) :
  Lexeme.inWord left = false
  := by
  cases q <;> simp [marks?] at h <;> obtain ⟨rfl, rfl⟩ := h <;> rfl

/-- A text in quotes is an identifier if and only if it holds neither of them. -/
theorem isIdentifier_quoted_iff {q : Quoting} {left right : Char}
    (hmarks : q.marks? = some (left, right)) (inner : List Char) :
  q.IsIdentifier (left :: inner ++ [right]) ↔ left ∉ inner ∧ right ∉ inner
  := by
  constructor
  · rintro (hwords | ⟨l, r, inner', hmarks', heq, hinner⟩)
    · have hleft := hwords left List.mem_cons_self
      rw [inWord_of_marks hmarks] at hleft
      cases hleft
    · obtain ⟨rfl, rfl⟩ := Prod.mk.inj (Option.some.inj (hmarks'.symm.trans hmarks))
      obtain rfl : inner = inner' := by simpa using heq
      exact hinner
  · exact fun hinner => .inr ⟨left, right, inner, hmarks, rfl, hinner⟩

/-- A text without the first of the quotes is an identifier if and only if it is a word. -/
theorem isIdentifier_unquoted_iff {q : Quoting} {cs : List Char}
    (h : ∀ left right, q.marks? = some (left, right) → left ∉ cs) :
  q.IsIdentifier cs ↔ ∀ c ∈ cs, Lexeme.inWord c = true
  := by
  constructor
  · rintro (hwords | ⟨left, right, inner, hmarks, rfl, -⟩)
    · exact hwords
    · exact absurd List.mem_cons_self (h left right hmarks)
  · exact .inl

/-- Where reserved words are quoted, a part is an identifier if and only if it is a word. -/
theorem isIdentifier_keyword_iff {q : Quoting} (hmarks : q.marks? = some ('"', '"'))
    {reserved : List String} (hreserved : reserved ⊆ oracleWords ++ dmWords) {part : String}
    (hpart : '"' ∉ part.toList) :
  q.IsIdentifier (keyword reserved part).toList ↔ ∀ c ∈ part.toList, Lexeme.inWord c = true
  := by
  unfold keyword
  split
  · next h =>
    have hupper : '"' ∉ (Text.upper part).toList := by
      intro hmem
      have hquote := all_isAlphanum_upper hreserved h _ hmem
      cases hquote
    rw [iff_true_right (all_inWord_of_reserved hreserved h)]
    have hbetween : (between "\"" "\"" (Text.upper part)).toList
        = '"' :: (Text.upper part).toList ++ ['"'] := by simp [between]
    rw [hbetween, isIdentifier_quoted_iff hmarks]
    exact ⟨hupper, hupper⟩
  · apply isIdentifier_unquoted_iff
    intro left right h
    rw [hmarks] at h
    obtain ⟨rfl, rfl⟩ := Prod.mk.inj (Option.some.inj h)
    exact hpart

/-- A part of a name that passes its guard is written as one identifier if and only if the
quoting confines it. -/
theorem isIdentifier_wrap_iff {n : String} (hn : Guard.checkIdentifier n = .ok ()) (q : Quoting)
    {part : String} (hpart : part ∈ Text.dottedParts n) (hwild : part ≠ "*") :
  q.IsIdentifier (q.wrap part).toList ↔ q.confines part = true
  := by
  have hnot : ∀ c ∈ Guard.refusedCharacters, c ∉ part.toList := fun c hc hmem =>
    Guard.notMem_of_checkIdentifier hn hc (Text.subset_of_mem_dottedParts hpart hmem)
  have hback := hnot '\x60' (by decide)
  have hdouble := hnot '"' (by decide)
  by_cases hempty : part = ""
  · subst hempty
    cases q <;> simp [wrap, confines, IsIdentifier]
  unfold wrap confines
  simp only [hempty, hwild, or_self, if_false]
  cases q with
  | bare => simpa using isIdentifier_unquoted_iff (q := bare) (by simp [marks?])
  | backQuotes =>
    have h := isIdentifier_quoted_iff (q := backQuotes) rfl part.toList
    simpa [between] using h.mpr ⟨hback, hback⟩
  | doubleQuotes =>
    have h := isIdentifier_quoted_iff (q := doubleQuotes) rfl part.toList
    simpa [between] using h.mpr ⟨hdouble, hdouble⟩
  | squareBrackets =>
    have h := isIdentifier_quoted_iff (q := squareBrackets) rfl part.toList
    simpa [between] using h
  | oracleKeywords =>
    simpa using isIdentifier_keyword_iff (q := oracleKeywords) rfl
      (List.subset_append_left _ _) hdouble
  | dmKeywords =>
    simpa using isIdentifier_keyword_iff (q := dmKeywords) rfl (List.Subset.refl _) hdouble

/-! ### Reading a name in a statement -/

/-- The lexeme of a part of a name where reserved words are quoted. -/
def keywordLexeme (reserved : List String) (part : String) : Lexeme :=
  if reserved.contains (Text.upper part) then .quoted '"' (Text.upper part).toList
  else .word part.toList

/-- The lexeme of a part of a name; there is none for an empty part. -/
def partLexemes (q : Quoting) (part : String) : List Lexeme :=
  if part = "" then []
  else if part = "*" then [.sign '*']
  else
    match q with
    | bare => [.word part.toList]
    | backQuotes => [.quoted '\x60' part.toList]
    | doubleQuotes => [.quoted '"' part.toList]
    | squareBrackets => [.quoted '[' part.toList]
    | oracleKeywords => [keywordLexeme oracleWords part]
    | dmKeywords => [keywordLexeme (oracleWords ++ dmWords) part]

/-- The lexemes of a name: those of its parts with dots between them. -/
def nameLexemes (q : Quoting) (n : String) : List Lexeme :=
  [Lexeme.sign '.'].intercalate ((Text.dottedParts n).map q.partLexemes)

/-- A text before which a name ends: it does not go on with a word or with a quote. -/
structure EndsName (q : Quoting) (rest : List Char) : Prop where
  word : Lexing.EndsWord rest
  quoted : ∀ left right, q.marks? = some (left, right) → Lexing.EndsQuoted right rest

/-- The characters behind names in statements end them. -/
theorem endsName_cons (q : Quoting) {c : Char} (hc : c ∈ [' ', ',', '.', ')']) (rest : List Char) :
  q.EndsName (c :: rest)
  := by
  constructor
  · have hsigns : [' ', ',', '.', ')'].all (fun d => !Lexeme.inWord d) = true := rfl
    have hsign := List.all_eq_true.mp hsigns c hc
    rwa [Bool.not_eq_true'] at hsign
  · rintro left right hmarks rfl
    cases q <;> simp [marks?] at hmarks <;> simp [← hmarks.2] at hc

theorem lexemesFrom_dot (q : Quoting) (rest : List Char) :
  Lexing.lexemesFrom q .between ('.' :: rest) = .sign '.' :: Lexing.lexemesFrom q .between rest
  := by
  have hstart : Lexing.start q '.' = ([.sign '.'], .between) := by
    cases q <;> rfl
  rw [Lexing.lexemesFrom, Lexing.step, hstart]
  rfl

theorem lexemesFrom_wildcard (q : Quoting) (rest : List Char) :
  Lexing.lexemesFrom q .between ('*' :: rest) = .sign '*' :: Lexing.lexemesFrom q .between rest
  := by
  have hstart : Lexing.start q '*' = ([.sign '*'], .between) := by
    cases q <;> rfl
  rw [Lexing.lexemesFrom, Lexing.step, hstart]
  rfl

section

variable {q : Quoting} {rest : List Char}

theorem lexemesFrom_bare {part : String} (hempty : part ≠ "")
    (hwords : ∀ c ∈ part.toList, Lexeme.inWord c = true) (hrest : Lexing.EndsWord rest) :
  Lexing.lexemesFrom q .between (part.toList ++ rest)
    = .word part.toList :: Lexing.lexemesFrom q .between rest
  := by
  cases hcs : part.toList with
  | nil => exact absurd (String.toList_eq_nil_iff.mp hcs) hempty
  | cons c cs =>
    rw [hcs] at hwords
    apply Lexing.lexemesFrom_between_word hwords hrest

theorem lexemesFrom_between {left right : Char} (hmarks : q.marks? = some (left, right))
    {opening closing : String} (hopening : opening.toList = [left])
    (hclosing : closing.toList = [right]) {word : String} (hword : right ∉ word.toList)
    (hrest : q.EndsName rest) :
  Lexing.lexemesFrom q .between ((between opening closing word).toList ++ rest)
    = .quoted left word.toList :: Lexing.lexemesFrom q .between rest
  := by
  have h := Lexing.lexemesFrom_between_quoted hmarks hword (hrest.quoted left right hmarks)
  simpa [between, hopening, hclosing] using h

theorem lexemesFrom_keyword (hmarks : q.marks? = some ('"', '"')) {reserved : List String}
    (hreserved : reserved ⊆ oracleWords ++ dmWords) {part : String} (hempty : part ≠ "")
    (hwords : ∀ c ∈ part.toList, Lexeme.inWord c = true) (hrest : q.EndsName rest) :
  Lexing.lexemesFrom q .between ((keyword reserved part).toList ++ rest)
    = keywordLexeme reserved part :: Lexing.lexemesFrom q .between rest
  := by
  unfold keyword keywordLexeme
  split
  · next h =>
    apply lexemesFrom_between hmarks rfl rfl _ hrest
    intro hmem
    have hquote := all_isAlphanum_upper hreserved h _ hmem
    cases hquote
  · apply lexemesFrom_bare hempty hwords hrest.word

/-- A part that is confined to one identifier is read as one lexeme. -/
theorem lexemesFrom_wrap {part : String} (hback : '\x60' ∉ part.toList)
    (hdouble : '"' ∉ part.toList) (hpart : part = "*" ∨ q.confines part = true)
    (hrest : q.EndsName rest) :
  Lexing.lexemesFrom q .between ((q.wrap part).toList ++ rest)
    = q.partLexemes part ++ Lexing.lexemesFrom q .between rest
  := by
  unfold wrap partLexemes
  by_cases hempty : part = ""
  · simp [hempty]
  by_cases hwild : part = "*"
  · simpa [hwild] using lexemesFrom_wildcard q rest
  have hconfines := hpart.resolve_left hwild
  simp only [hempty, hwild, or_self, if_false]
  cases q with
  | bare =>
    apply lexemesFrom_bare hempty _ hrest.word
    simpa [confines] using hconfines
  | backQuotes => exact lexemesFrom_between rfl rfl rfl hback hrest
  | doubleQuotes => exact lexemesFrom_between rfl rfl rfl hdouble hrest
  | squareBrackets =>
    have hbrackets : '[' ∉ part.toList ∧ ']' ∉ part.toList := by simpa [confines] using hconfines
    exact lexemesFrom_between rfl rfl rfl hbrackets.2 hrest
  | oracleKeywords =>
    apply lexemesFrom_keyword rfl (List.subset_append_left _ _) hempty _ hrest
    simpa [confines] using hconfines
  | dmKeywords =>
    apply lexemesFrom_keyword rfl (List.Subset.refl _) hempty _ hrest
    simpa [confines] using hconfines

/-- The parts of a name are read one after the other. -/
theorem lexemesFrom_joinWith {parts : List String}
    (hparts : ∀ part ∈ parts, '\x60' ∉ part.toList ∧ '"' ∉ part.toList
      ∧ (part = "*" ∨ q.confines part = true))
    (hrest : q.EndsName rest) :
  Lexing.lexemesFrom q .between ((Text.joinWith "." (parts.map q.wrap)).toList ++ rest)
    = [Lexeme.sign '.'].intercalate (parts.map q.partLexemes)
      ++ Lexing.lexemesFrom q .between rest
  := by
  induction parts with
  | nil => simp [Text.joinWith]
  | cons part parts ih =>
    rw [List.forall_mem_cons] at hparts
    obtain ⟨⟨hback, hdouble, hpart⟩, hparts⟩ := hparts
    cases parts with
    | nil => simpa [Text.joinWith] using lexemesFrom_wrap hback hdouble hpart hrest
    | cons next parts =>
      have hdot := q.endsName_cons (c := '.') (by decide)
        ((Text.joinWith "." ((next :: parts).map q.wrap)).toList ++ rest)
      have hfirst := lexemesFrom_wrap hback hdouble hpart hdot
      rw [lexemesFrom_dot, ih hparts] at hfirst
      simpa [Text.joinWith] using hfirst

end

/-- For a name that passes its guard, a part is written as one identifier if and only if the
quoting confines it.  If all parts are, the name is read as its parts with dots between them,
and the statement around it as if the name was not there. -/
theorem lexemes_wrapName {n : String} (hn : Guard.checkIdentifier n = .ok ()) (q : Quoting) :
  (∀ part ∈ Text.dottedParts n, part ≠ "*" →
      (q.IsIdentifier (q.wrap part).toList ↔ q.confines part = true))
    ∧ ((∀ part ∈ Text.dottedParts n, part = "*" ∨ q.confines part = true) →
      ∀ before after, Lexing.behind q .between before = .between → q.EndsName after →
        q.lexemes (before ++ (q.wrapName n).toList ++ after)
          = q.lexemes before ++ q.nameLexemes n ++ q.lexemes after)
  := by
  constructor
  · exact fun part => isIdentifier_wrap_iff hn q
  · intro hconfines before after hbefore hafter
    have hnot : ∀ part ∈ Text.dottedParts n, ∀ c ∈ Guard.refusedCharacters, c ∉ part.toList :=
      fun part hpart c hc hmem =>
        Guard.notMem_of_checkIdentifier hn hc (Text.subset_of_mem_dottedParts hpart hmem)
    have hname : Lexing.lexemesFrom q .between ((q.wrapName n).toList ++ after)
        = q.nameLexemes n ++ Lexing.lexemesFrom q .between after := by
      apply lexemesFrom_joinWith _ hafter
      intro part hpart
      exact ⟨hnot part hpart _ (by decide), hnot part hpart _ (by decide), hconfines part hpart⟩
    calc q.lexemes (before ++ (q.wrapName n).toList ++ after)
        = q.lexemes before ++ Lexing.lexemesFrom q .between ((q.wrapName n).toList ++ after) := by
          rw [List.append_assoc, lexemes, Lexing.lexemesFrom_append hbefore]
          rfl
      _ = q.lexemes before ++ q.nameLexemes n ++ q.lexemes after := by
          rw [hname, List.append_assoc]
          rfl

/-- A name with a bracket passes its guard and ends the brackets around it, and a bare name that
passes its guard may be a select; a name without signs is read in brackets. -/
theorem lexemes_wrapName_bracketed :
  (Guard.checkIdentifier "a]b" = .ok ()
      ∧ ¬squareBrackets.IsIdentifier (squareBrackets.wrap "a]b").toList)
    ∧ (Guard.checkIdentifier "id,(select/**/1)" = .ok ()
      ∧ ¬bare.IsIdentifier (bare.wrap "id,(select/**/1)").toList)
    ∧ Guard.checkIdentifier "dbo.tb_account" = .ok ()
      ∧ squareBrackets.lexemes "FROM [dbo].[tb_account], other".toList
        = [.word "FROM".toList, .quoted '[' "dbo".toList, .sign '.',
          .quoted '[' "tb_account".toList, .sign ',', .word "other".toList]
  := by
  have hbracket : Guard.checkIdentifier "a]b" = .ok () := rfl
  have hselect : Guard.checkIdentifier "id,(select/**/1)" = .ok () := rfl
  have hplain : Guard.checkIdentifier "dbo.tb_account" = .ok () := rfl
  constructor
  · use hbracket
    rw [(lexemes_wrapName hbracket squareBrackets).1 "a]b" (by decide) (by decide)]
    decide
  constructor
  · use hselect
    rw [(lexemes_wrapName hselect bare).1 "id,(select/**/1)" (by decide) (by decide)]
    decide
  · use hplain
    have hread := (lexemes_wrapName hplain squareBrackets).2 (by decide) "FROM ".toList
      ", other".toList (by decide) (endsName_cons _ (by decide) _)
    exact hread

end Quoting

end SqlRender
