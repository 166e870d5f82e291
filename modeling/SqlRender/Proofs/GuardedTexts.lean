import SqlRender.Proofs.ConditionReading
import SqlRender.Proofs.QuotingStyles
import SqlRender.Proofs.Rescoping

/-!
# Guarded texts

What a caller supplies is written as it is, as the text of a condition or a hint, or it is a name,
an ordering or a value, and then it passes a guard or is bound.  A request that supplies nothing
of the first kind has a statement without the signs by which a text breaks out of its place:
those of a literal, of a comment and of a further statement.  Quotes stand around parts of its
names only.  This is so also for the names around numbered rows, which are written bare and
without a guard of their own: each of them stands among the columns of the rows, and is examined
there.  The main statement is `Request.guarded_of_statement`.
-/

namespace SqlRender

open Token (AllPass)

namespace Quoting

/-- The characters that end a statement or begin a text in quotes or a comment. -/
def hazards : List Char :=
  ['\'', '\x60', '"', ';', '#', '&', '-']

/-- A text made of characters without hazards, of subtraction signs between spaces, and of parts
of the given names as the quoting writes them. -/
inductive Guarded (q : Quoting) (names : List String) : List Char → Prop where
  | nil : Guarded q names []
  | plain {c : Char} {cs : List Char} (hc : c ∉ hazards) (hcs : Guarded q names cs) :
      Guarded q names (c :: cs)
  | minus {cs : List Char} (hcs : Guarded q names cs) : Guarded q names (' ' :: '-' :: ' ' :: cs)
  | part {name part : String} {cs : List Char} (hname : name ∈ names)
      (hpart : part ∈ Text.dottedParts name) (hclean : ∀ c ∈ hazards, c ∉ part.toList)
      (hcs : Guarded q names cs) : Guarded q names ((q.wrap part).toList ++ cs)

/-! ### Characters of quoted names -/

/-- Hazards are no letters and no digits. -/
theorem isAlphanum_of_mem_hazards {c : Char} (hc : c ∈ hazards) :
  c.isAlphanum = false
  := by
  have hall : hazards.all (fun c => !c.isAlphanum) = true := rfl
  simpa using List.all_eq_true.mp hall c hc

/-- Quoting a part of a name adds quotes, and letters in upper case. -/
theorem mem_wrap {q : Quoting} {part : String} {c : Char} (h : c ∈ (q.wrap part).toList) :
  c ∈ part.toList ∨ c ∈ quotes ∨ c.isAlphanum = true
  := by
  have hkeyword : ∀ {reserved : List String}, reserved ⊆ oracleWords ++ dmWords →
      c ∈ (keyword reserved part).toList →
      c ∈ part.toList ∨ c ∈ quotes ∨ c.isAlphanum = true := by
    intro reserved hreserved h
    unfold keyword at h
    split at h
    · next hword =>
      obtain (rfl | h) | rfl : (c = '"' ∨ c ∈ (Text.upper part).toList) ∨ c = '"' := by
        simpa [between, or_assoc] using h
      · right; left; decide
      · right; right
        apply all_isAlphanum_upper hreserved hword c h
      · right; left; decide
    · left; exact h
  have hbetween : ∀ left ∈ quotes, ∀ right ∈ quotes, c = left ∨ c ∈ part.toList ∨ c = right →
      c ∈ part.toList ∨ c ∈ quotes ∨ c.isAlphanum = true := by
    rintro left hleft right hright (rfl | h | rfl)
    · right; left; exact hleft
    · left; exact h
    · right; left; exact hright
  unfold wrap at h
  split at h
  · left; exact h
  · cases q with
    | bare => left; exact h
    | backQuotes =>
      exact hbetween '\x60' (by decide) '\x60' (by decide) (by simpa [between] using h)
    | doubleQuotes => exact hbetween '"' (by decide) '"' (by decide) (by simpa [between] using h)
    | squareBrackets => exact hbetween '[' (by decide) ']' (by decide) (by simpa [between] using h)
    | oracleKeywords => exact hkeyword (List.subset_append_left _ _) h
    | dmKeywords => exact hkeyword (List.Subset.refl _) h

/-- A part of a name without hazards is written without hazards, quotes apart. -/
theorem notMem_wrap {q : Quoting} {part : String} (hclean : ∀ c ∈ hazards, c ∉ part.toList)
    {c : Char} (hc : c ∈ hazards) (hquote : c ∉ quotes) :
  c ∉ (q.wrap part).toList
  := by
  intro hmem
  obtain h | h | h := mem_wrap hmem
  · exact hclean c hc h
  · exact hquote h
  · rw [isAlphanum_of_mem_hazards hc] at h
    cases h

/-! ### Guarded texts -/

namespace Guarded

variable {q : Quoting} {names : List String} {cs ds : List Char}

theorem append (hcs : Guarded q names cs) (hds : Guarded q names ds) :
  Guarded q names (cs ++ ds)
  := by
  induction hcs with
  | nil => exact hds
  | plain hc _ ih => exact .plain hc ih
  | minus _ ih => exact .minus ih
  | part hname hpart hclean _ ih =>
    rw [List.append_assoc]
    exact .part hname hpart hclean ih

theorem of_plain (h : ∀ c ∈ cs, c ∉ hazards) :
  Guarded q names cs
  := by
  induction cs with
  | nil => exact .nil
  | cons c cs ih =>
    rw [List.forall_mem_cons] at h
    exact .plain h.1 (ih h.2)

/-- Characters of a kind that has no hazards make a guarded text. -/
theorem of_all {P : Char → Bool} (hcs : cs.all P = true)
    (hP : hazards.all (fun c => !P c) = true) :
  Guarded q names cs
  := by
  apply of_plain
  intro c hc hhazard
  have hnot := List.all_eq_true.mp hP c hhazard
  rw [List.all_eq_true.mp hcs c hc] at hnot
  cases hnot

/-- A hazard that is neither a quote nor a sign of subtraction is in no guarded text. -/
theorem notMem (h : Guarded q names cs) {c : Char} (hc : c ∈ ['\'', ';', '#', '&']) :
  c ∉ cs
  := by
  have hhazards : ['\'', ';', '#', '&'] ⊆ hazards := by decide
  have hhazard := hhazards hc
  have hother : ['\'', ';', '#', '&'].all (fun c => !quotes.contains c && c ≠ ' ' && c ≠ '-')
    = true := rfl
  obtain ⟨⟨hquote, hspace⟩, hminus⟩ : (c ∉ quotes ∧ c ≠ ' ') ∧ c ≠ '-' := by
    simpa using List.all_eq_true.mp hother c hc
  induction h with
  | nil => exact List.not_mem_nil
  | @plain d cs hd _ ih =>
    rw [List.mem_cons, not_or]
    exact ⟨fun e => hd (e ▸ hhazard), ih⟩
  | minus _ ih => simp [hspace, hminus, ih]
  | part _ _ hclean _ ih =>
    rw [List.mem_append, not_or]
    exact ⟨notMem_wrap hclean hhazard hquote, ih⟩

/-- Two adjacent characters of a text stand behind a beginning that has no such character. -/
theorem infix_of_infix_append {c : Char} (front : List Char) (hc : c ∉ front)
    (h : [c, c] <:+: front ++ ds) :
  [c, c] <:+: ds
  := by
  induction front with
  | nil => exact h
  | cons d front ih =>
    rw [List.mem_cons, not_or] at hc
    obtain hprefix | h := List.infix_cons_iff.mp h
    · exact absurd (List.cons_prefix_cons.mp hprefix).1 hc.1
    · exact ih hc.2 h

/-- No two hyphens are adjacent in a guarded text. -/
theorem hyphens_apart (h : Guarded q names cs) :
  ¬ ['-', '-'] <:+: cs
  := by
  induction h with
  | nil => decide
  | plain hc _ ih =>
    intro hinfix
    apply ih
    apply infix_of_infix_append [_] _ hinfix
    rw [List.mem_singleton]
    rintro rfl
    exact hc (by decide)
  | @minus cs _ ih =>
    intro hinfix
    apply ih
    have hspace : ['-', '-'] <:+: '-' :: ' ' :: cs :=
      infix_of_infix_append [' '] (by decide) hinfix
    obtain hprefix | hinfix := List.infix_cons_iff.mp hspace
    · exact absurd (List.cons_prefix_cons.mp (List.cons_prefix_cons.mp hprefix).2).1 (by decide)
    · exact infix_of_infix_append [' '] (by decide) hinfix
  | part _ _ hclean _ ih =>
    intro hinfix
    apply ih
    exact infix_of_infix_append _ (notMem_wrap hclean (by decide) (by decide)) hinfix

/-- A name that passes its guard is guarded where it is quoted. -/
theorem wrapName {n : String} (hn : n ∈ names) (hverify : Guard.checkIdentifier n = .ok ()) :
  Guarded q names (q.wrapName n).toList
  := by
  have hhazards : hazards ⊆ Guard.refusedCharacters := by decide
  have hparts : ∀ parts ⊆ Text.dottedParts n,
      Guarded q names (Text.joinWith "." (parts.map q.wrap)).toList := by
    intro parts
    induction parts with
    | nil => exact fun _ => .nil
    | cons part parts ih =>
      intro hsub
      obtain ⟨hpart, hrest⟩ := List.cons_subset.mp hsub
      have hclean : ∀ c ∈ hazards, c ∉ part.toList := fun c hc hmem =>
        Guard.notMem_of_checkIdentifier hverify (hhazards hc)
          (Text.subset_of_mem_dottedParts hpart hmem)
      cases parts with
      | nil => simpa [Text.joinWith] using Guarded.part (q := q) hn hpart hclean .nil
      | cons next parts =>
        have hdot : Guarded q names
            ('.' :: (Text.joinWith "." ((next :: parts).map q.wrap)).toList) :=
          .plain (by decide) (ih hrest)
        simpa [Text.joinWith] using Guarded.part hn hpart hclean hdot
  exact hparts _ (List.Subset.refl _)

/-- A name that passes its guard is guarded where it stands bare. -/
theorem bareName {n : String} (hverify : Guard.checkIdentifier n = .ok ()) :
  Guarded q names n.toList
  := by
  have hhazards : hazards ⊆ Guard.refusedCharacters := by decide
  apply of_plain
  exact fun c hc hhazard => Guard.notMem_of_checkIdentifier hverify (hhazards hhazard) hc

end Guarded

end Quoting

/-! ### Guarded tokens -/

namespace Token

/-- Whether a token is written as it is, without a guard. -/
def isText : Token → Bool
  | text _ | raw .. => true
  | _ => false

/-- The names that a token puts into quotes. -/
def names : Token → List String
  | name n => [n]
  | table schema n => schema.toList ++ [n]
  | _ => []

/-- A token that passes its guards is guarded, unless it is written as it is. -/
theorem guarded_toText (q : Quoting) {names : List String} {t : Token} (htext : t.isText = false)
    (hnames : t.names ⊆ names) (ht : t.Passes) :
  q.Guarded names (t.toText q).toList
  := by
  cases t with
  | text s => cases htext
  | raw sql params => cases htext
  | name n =>
    exact .wrapName (hnames List.mem_cons_self) (ht (.identifier n) List.mem_cons_self)
  | table schema n =>
    have hn : Guard.checkIdentifier n = .ok () := ht (.identifier n) (by simp [guards])
    have hname := Quoting.Guarded.wrapName (q := q) (hnames (by simp [Token.names])) hn
    cases schema with
    | none => simpa [toText] using hname
    | some s =>
      have hs : Guard.checkIdentifier s = .ok () := ht (.identifier s) (by simp [guards])
      have hschema := Quoting.Guarded.wrapName (q := q) (hnames (by simp [Token.names])) hs
      have hdot : q.Guarded names ('.' :: (q.wrapName n).toList) := .plain (by decide) hname
      simpa [toText] using hschema.append hdot
  | function n => exact .bareName (ht (.identifier n) List.mem_cons_self)
  | order s =>
    have hs : Guard.checkOrderText s = .ok () := ht (.orderText s) List.mem_cons_self
    unfold Guard.checkOrderText at hs
    split at hs
    · next hall => exact .of_all (Bool.and_eq_true_iff.mp hall).2 rfl
    · cases hs
  | bind v =>
    have hmark : q.Guarded names ['?'] := .plain (by decide) .nil
    simpa [toText] using hmark
  | refuse e => exact .nil

end Token

/-- Tokens that pass their guards are guarded, by part. -/
theorem Dialect.IsProvided.holdsAsWritten_guarded {d : Dialect} (hd : d.IsProvided)
    (names : List String) :
  HoldsAsWritten d.style fun ts =>
    AllPass ts → d.quoting.Guarded names (Token.written d.quoting ts).toList
  := by
  have hword : ∀ s, Text.isPlain s = true → d.quoting.Guarded names s.toList :=
    fun s hs => .of_all hs rfl
  constructor
  case nil => exact fun _ => .nil
  case append =>
    intro ts us hts hus hpass
    obtain ⟨htspass, huspass⟩ := Token.allPass_append.mp hpass
    simpa [Token.written_append] using (hts htspass).append (hus huspass)
  case word =>
    intro s hs _
    simpa [Token.written, Token.toText] using hword s hs
  case separator =>
    intro _
    obtain h | h : d.aliasSeparator = " AS " ∨ d.aliasSeparator = " " := by
      cases hd
      · left; rfl
      · right; rfl
      · left; rfl
    all_goals
      have hseparator := hword d.aliasSeparator (by rw [h]; rfl)
      simpa [Token.written, Token.toText, Dialect.style] using hseparator
  case operation =>
    intro op _
    have htext : (Token.written d.quoting [.text " ", .text op.word, .text " "]).toList
        = ' ' :: op.word.toList ++ [' '] := by simp [Token.written, Token.toText]
    rw [htext]
    cases op with
    | sub => exact .minus .nil
    | add | mul | div => exact .of_all (P := Text.isPlainChar) rfl rfl
  case names =>
    intro ts ns hts hns hpass
    obtain ⟨htspass, -⟩ := Token.allPass_append.mp hpass
    have hlist : d.quoting.Guarded names (Text.joinWith ", " ns).toList := by
      clear hpass
      fun_induction Text.joinWith ", " ns with
      | case1 => exact .nil
      | case2 n =>
        have hn := Token.passes_name.mp (htspass _ (hns n List.mem_cons_self).2)
        exact .bareName hn
      | case3 n rest hrest ih =>
        obtain ⟨hn, hrest⟩ := List.forall_mem_cons.mp hns
        have hfirst : d.quoting.Guarded names n.toList :=
          .bareName (Token.passes_name.mp (htspass _ hn.2))
        simpa using hfirst.append ((hword ", " rfl).append (ih hrest))
    simpa [Token.written_append, Token.written, Token.toText] using (hts htspass).append hlist
  case refusal => exact fun e _ => .nil

namespace Request

/-- A request in which the caller supplies nothing that is written as it is: no text in place of
a column, of a condition or of a value, no hint and no text at the end of a query. -/
def HoldsNoText (r : Request) : Prop :=
  ∀ t ∈ r.supplied, t.isText = false

/-- The names that a statement for a request may hold: those that the request supplies, and those
of a count. -/
def names (r : Request) : List String :=
  (r.supplied ++ Query.countTokens).flatMap Token.names

/-- The text of a statement of which the caller supplies no text has no single quote, semicolon,
number sign and ampersand and no two adjacent hyphens, and back quotes and double quotes stand
in it only where the quoting puts them around a part of a name. -/
theorem guarded_of_statement {d : Dialect} (hd : d.IsProvided) {r : Request}
    (hr : r.HoldsNoText) {s : Statement} (h : r.statement d = .ok s) :
  (∀ c ∈ ['\'', ';', '#', '&'], c ∉ s.sql.toList)
    ∧ ¬ ['-', '-'] <:+: s.sql.toList
    ∧ d.quoting.Guarded r.names s.sql.toList
  := by
  obtain ⟨ts, hts, hs⟩ := exists_tokens h
  obtain ⟨hpass, rfl⟩ := Statement.ofTokens_eq_ok_iff.mp hs
  have hsupplied : ∀ t ∈ r.supplied ++ Query.countTokens, t.isText = false →
      AllPass [t] → d.quoting.Guarded r.names (Token.written d.quoting [t]).toList := by
    intro t ht htext hpasses
    have hnames : t.names ⊆ r.names := fun n hn => List.mem_flatMap.mpr ⟨t, ht, hn⟩
    simpa [Token.written] using Token.guarded_toText d.quoting htext hnames (by simpa using hpasses)
  have hguarded : d.quoting.Guarded r.names (Token.written d.quoting ts).toList :=
    holds_written (hd.holdsAsWritten_guarded r.names) hts
      (fun t ht => hsupplied t (List.mem_append_left _ ht) (hr t ht))
      (fun t ht => hsupplied t (List.mem_append_right _ ht) (by revert t; decide)) hpass
  exact ⟨fun c hc => hguarded.notMem hc, hguarded.hyphens_apart, hguarded⟩

/-- A page of the years that accounts still have, with an ordering that is given as text. -/
def remainingYears : Request :=
  .page (.of 2 10)
    { Query.empty with
      columns := [⟨.named (some "a") "id", none⟩,
        ⟨.arithmetic ⟨.param (.int 100), none⟩ .sub ⟨.named none "age", none⟩, some "years"⟩]
      sources := [⟨.named (some "dbo") "tb_account", some "a"⟩]
      order := [.raw "years desc"] }

/-- The hyphen of the subtraction stands alone, and the names around the numbered rows are bare
and without quotes. -/
theorem guarded_of_statement_remainingYears :
  remainingYears.HoldsNoText
    ∧ ∃ s, remainingYears.statement (.common "local" .doubleQuotes .rowNumber) = .ok s
      ∧ s.sql = "WITH temp_datas AS (SELECT ROW_NUMBER() OVER (ORDER BY years desc) AS __rn, "
        ++ "\"id\", ? - \"age\" AS \"years\" FROM \"dbo\".\"tb_account\" AS \"a\") "
        ++ "SELECT id, years FROM temp_datas WHERE __rn BETWEEN 11 AND 20 ORDER BY __rn"
      ∧ ¬ ['-', '-'] <:+: s.sql.toList
      ∧ Quoting.doubleQuotes.Guarded remainingYears.names s.sql.toList
  := by
  have htext : remainingYears.HoldsNoText := by
    have hsupplied : remainingYears.supplied
      = [.name "a", .name "id", .bind (.int 100), .name "age", .name "years",
          .table (some "dbo") "tb_account", .name "tb_account", .name "a",
          .order "years desc"] := rfl
    simp [HoldsNoText, hsupplied, Token.isText]
  obtain ⟨s, hs⟩ :
      ∃ s, remainingYears.statement (.common "local" .doubleQuotes .rowNumber) = .ok s := ⟨_, rfl⟩
  obtain ⟨-, hhyphens, hguarded⟩ := guarded_of_statement (.common _ _ _) htext hs
  refine ⟨htext, s, hs, ?_, hhyphens, hguarded⟩
  obtain rfl := Except.ok.inj hs
  decide +kernel

end Request

end SqlRender
