import SqlRender.Quoting
import SqlRender.Text.Blank

/-!
# Lexemes

A database reads a statement as a sequence of lexemes: words, texts in quotes and signs, with
blanks and comments between them.  Which quotes there are depends on the way of quoting
names.  What is read before a place between two lexemes does not depend on what comes after
it, and the other way round: `Lexing.lexemesFrom_append`.
-/

namespace SqlRender

/-- A lexeme of a statement. -/
inductive Lexeme where
  /-- A word of the language, a name that is not quoted, or a number. -/
  | word (cs : List Char)
  /-- A text in quotes, with its first quote. -/
  | quoted (quote : Char) (cs : List Char)
  | sign (c : Char)
  /-- A text in quotes or a comment without an end. -/
  | unclosed (quote : Char) (cs : List Char)
  deriving DecidableEq

/-- The quotes before and after a name. -/
def Quoting.marks? : Quoting → Option (Char × Char)
  | bare => none
  | backQuotes => some ('\x60', '\x60')
  | doubleQuotes | oracleKeywords | dmKeywords => some ('"', '"')
  | squareBrackets => some ('[', ']')

/-- The quote that ends a text in quotes.  Literals stand in single quotes, and double quotes
are in use whether names are quoted or not. -/
def Quoting.closing? (q : Quoting) (c : Char) : Option Char :=
  if c = '\'' ∨ c = '"' then some c
  else
    match q.marks? with
    | some (left, right) => if c = left then some right else none
    | none => none

namespace Lexeme

/-- The characters that are signs of their own. -/
def signs : List Char :=
  ['\'', '\x60', '"', '[', ']', '(', ')', '\x7b', '\x7d', ',', ';', '.', '?', '!', ':', '/', '*',
   '+', '-', '=', '<', '>', '&', '|', '^', '~', '%', '#', '@', '\\']

/-- Whether a character can stand in a word. -/
def inWord (c : Char) : Bool :=
  !Text.isBlank c && !signs.contains c

/-- Letters and digits stand in words. -/
theorem inWord_of_isAlphanum {c : Char} (h : c.isAlphanum = true) :
  inWord c = true
  := by
  have hsign : c ∉ signs := by
    intro hmem
    have hnone : signs.all (fun d => !d.isAlphanum) = true := rfl
    have hc := List.all_eq_true.mp hnone c hmem
    rw [h] at hc
    cases hc
  have hblank : Text.isBlank c = false := by
    change (decide (65 ≤ c.val ∧ c.val ≤ 90)
      || (decide (97 ≤ c.val) && decide (c.val ≤ 122))
      || (decide (48 ≤ c.val) && decide (c.val ≤ 57))) = true at h
    simp only [Bool.or_eq_true, Bool.and_eq_true, decide_eq_true_eq, UInt32.le_iff_toNat_le] at h
    change ((65 ≤ c.toNat ∧ c.toNat ≤ 90) ∨ (97 ≤ c.toNat ∧ c.toNat ≤ 122))
      ∨ (48 ≤ c.toNat ∧ c.toNat ≤ 57) at h
    simp only [Text.isBlank, Bool.or_eq_false_iff, Bool.and_eq_false_iff,
      decide_eq_false_iff_not, beq_eq_false_iff_ne]
    omega
  simp [inWord, hblank, hsign]

end Lexeme

/-- Where a reader of a statement stands. -/
inductive Lexing where
  /-- Between two lexemes. -/
  | between
  /-- Behind some characters of a word. -/
  | word (cs : List Char)
  /-- Behind some characters of a text in quotes. -/
  | quoted (left right : Char) (cs : List Char)
  /-- Behind a quote that ends a text in quotes, unless it is doubled. -/
  | closed (left right : Char) (cs : List Char)
  /-- Behind a sign that begins a comment if the right sign follows. -/
  | sign (c : Char)
  /-- In a comment up to the end of the line. -/
  | line
  /-- In a comment up to its end. -/
  | comment
  /-- Behind an asterisk in such a comment. -/
  | commentEnd
  deriving DecidableEq

namespace Lexing

/-- What a character between two lexemes begins. -/
def start (q : Quoting) (c : Char) : List Lexeme × Lexing :=
  if Text.isBlank c then ([], between)
  else
    match q.closing? c with
    | some right => ([], quoted c right [])
    | none =>
      if c = '-' ∨ c = '/' then ([], sign c)
      else if Lexeme.inWord c then ([], word [c])
      else ([.sign c], between)

/-- The lexeme that ends before a character which begins another one. -/
def after (ended : Lexeme) (next : List Lexeme × Lexing) : List Lexeme × Lexing :=
  (ended :: next.1, next.2)

/-- The lexemes that a character ends, and where the reader stands behind it. -/
def step (q : Quoting) (s : Lexing) (c : Char) : List Lexeme × Lexing :=
  match s with
  | between => start q c
  | word cs => if Lexeme.inWord c then ([], word (cs ++ [c])) else after (.word cs) (start q c)
  | quoted left right cs =>
    if c = right then ([], closed left right cs) else ([], quoted left right (cs ++ [c]))
  | closed left right cs =>
    if c = right then ([], quoted left right (cs ++ [c])) else after (.quoted left cs) (start q c)
  | sign d =>
    if d = '-' ∧ c = '-' then ([], line)
    else if d = '/' ∧ c = '*' then ([], comment)
    else after (.sign d) (start q c)
  | line => if c = '\n' then ([], between) else ([], line)
  | comment => if c = '*' then ([], commentEnd) else ([], comment)
  | commentEnd =>
    if c = '/' then ([], between) else if c = '*' then ([], commentEnd) else ([], comment)

/-- The lexemes that the end of the statement ends. -/
def finish : Lexing → List Lexeme
  | between => []
  | word cs => [.word cs]
  | quoted left _ cs => [.unclosed left cs]
  | closed left _ cs => [.quoted left cs]
  | sign c => [.sign c]
  | line => []
  | comment => [.unclosed '/' []]
  | commentEnd => [.unclosed '/' []]

/-- The lexemes that are read from the rest of a statement. -/
def lexemesFrom (q : Quoting) : Lexing → List Char → List Lexeme
  | s, [] => s.finish
  | s, c :: cs => (s.step q c).1 ++ lexemesFrom q (s.step q c).2 cs

/-- Where the reader stands behind a text. -/
def behind (q : Quoting) : Lexing → List Char → Lexing
  | s, [] => s
  | s, c :: cs => behind q (s.step q c).2 cs

variable {q : Quoting}

/-- At a place between two lexemes the reading begins anew. -/
theorem lexemesFrom_append {s : Lexing} {before : List Char} (h : behind q s before = between)
    (rest : List Char) :
  lexemesFrom q s (before ++ rest) = lexemesFrom q s before ++ lexemesFrom q between rest
  := by
  induction before generalizing s with
  | nil =>
    obtain rfl : s = between := h
    rfl
  | cons c before ih =>
    rw [List.cons_append, lexemesFrom, lexemesFrom, List.append_assoc, ih h]

/-! ### Words and texts in quotes -/

/-- A character that ends a word reads as at the beginning of a lexeme. -/
def EndsWord : List Char → Prop
  | [] => True
  | c :: _ => Lexeme.inWord c = false

/-- The first character behind a quoted text does not double its quote. -/
def EndsQuoted (right : Char) : List Char → Prop
  | [] => True
  | c :: _ => c ≠ right

theorem lexemesFrom_after {s : Lexing} {ended : Lexeme} {rest : List Char}
    (hfinish : s.finish = [ended])
    (hstep : ∀ c cs, rest = c :: cs → s.step q c = after ended (start q c)) :
  lexemesFrom q s rest = ended :: lexemesFrom q between rest
  := by
  cases rest with
  | nil => exact hfinish
  | cons c rest =>
    rw [lexemesFrom, lexemesFrom, hstep c rest rfl]
    rfl

theorem lexemesFrom_word {cs : List Char} (hcs : ∀ c ∈ cs, Lexeme.inWord c = true)
    {rest : List Char} (hrest : EndsWord rest) (read : List Char) :
  lexemesFrom q (word read) (cs ++ rest) = .word (read ++ cs) :: lexemesFrom q between rest
  := by
  induction cs generalizing read with
  | nil =>
    rw [List.append_nil, List.nil_append]
    apply lexemesFrom_after rfl
    rintro c rest rfl
    have hc : Lexeme.inWord c = false := hrest
    simp [step, hc]
  | cons c cs ih =>
    rw [List.forall_mem_cons] at hcs
    have hstep : (word read).step q c = ([], word (read ++ [c])) := by simp [step, hcs.1]
    rw [List.cons_append, lexemesFrom, hstep, List.nil_append, ih hcs.2]
    simp

theorem lexemesFrom_quoted {left right : Char} {cs : List Char} (hcs : right ∉ cs)
    {rest : List Char} (hrest : EndsQuoted right rest) (read : List Char) :
  lexemesFrom q (quoted left right read) (cs ++ right :: rest)
    = .quoted left (read ++ cs) :: lexemesFrom q between rest
  := by
  induction cs generalizing read with
  | nil =>
    have hstep : (quoted left right read).step q right = ([], closed left right read) := by
      simp [step]
    rw [List.nil_append, lexemesFrom, hstep, List.nil_append, List.append_nil]
    apply lexemesFrom_after rfl
    rintro c rest rfl
    have hc : c ≠ right := hrest
    simp [step, hc]
  | cons c cs ih =>
    rw [List.mem_cons, not_or] at hcs
    have hstep : (quoted left right read).step q c = ([], quoted left right (read ++ [c])) := by
      simp [step, Ne.symm hcs.1]
    rw [List.cons_append, lexemesFrom, hstep, List.nil_append, ih hcs.2]
    simp

/-! ### What begins between two lexemes -/

/-- The first characters of words, quotes and signs are of different kinds. -/
theorem start_of_inWord {c : Char} (h : Lexeme.inWord c = true) :
  start q c = ([], word [c])
  := by
  obtain ⟨hblank, hsign⟩ : Text.isBlank c = false ∧ c ∉ Lexeme.signs := by
    simpa [Lexeme.inWord] using h
  have hclosing : q.closing? c = none := by
    cases q <;> simp [Lexeme.signs] at hsign <;> simp [Quoting.closing?, Quoting.marks?, hsign]
  have hsigns : ¬(c = '-' ∨ c = '/') := by
    simp [Lexeme.signs] at hsign
    simp [hsign]
  simp [start, hblank, hclosing, hsigns, h]

/-- A word is read as one lexeme. -/
theorem lexemesFrom_between_word {c : Char} {cs : List Char}
    (hcs : ∀ d ∈ c :: cs, Lexeme.inWord d = true) {rest : List Char} (hrest : EndsWord rest) :
  lexemesFrom q between (c :: cs ++ rest) = .word (c :: cs) :: lexemesFrom q between rest
  := by
  rw [List.forall_mem_cons] at hcs
  rw [List.cons_append, lexemesFrom, step, start_of_inWord hcs.1]
  exact lexemesFrom_word hcs.2 hrest [c]

/-- A text in quotes is read as one lexeme if no quote in it ends it. -/
theorem lexemesFrom_between_quoted {left right : Char} (hmarks : q.marks? = some (left, right))
    {cs : List Char} (hcs : right ∉ cs) {rest : List Char} (hrest : EndsQuoted right rest) :
  lexemesFrom q between (left :: cs ++ right :: rest)
    = .quoted left cs :: lexemesFrom q between rest
  := by
  have hstart : start q left = ([], quoted left right []) := by
    cases q <;> simp [Quoting.marks?] at hmarks <;> obtain ⟨rfl, rfl⟩ := hmarks <;> rfl
  rw [List.cons_append, lexemesFrom, step, hstart]
  exact lexemesFrom_quoted hcs hrest []

end Lexing

/-- The lexemes of a statement. -/
def Quoting.lexemes (q : Quoting) (sql : List Char) : List Lexeme :=
  Lexing.lexemesFrom q .between sql

end SqlRender
