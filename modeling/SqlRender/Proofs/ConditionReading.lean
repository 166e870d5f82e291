import SqlRender.Proofs.Precedence
import SqlRender.Proofs.Tokens

/-!
# Reading conditions

A condition is written with parentheses only where they are needed.  Here its text is cut
into the words of a formula: every predicate, every EXISTS and every text of the caller is
a leaf.  The text of a caller may itself be a whole formula, so it is also replaced by any
words that read as one.  By `Condition.reads_words` the text always reads as a formula, and
this formula has the truth value of the condition whatever the leaves are worth.
-/

namespace SqlRender

/-! ### The truth value of a condition -/

/-- A side of a connective. -/
inductive Side where
  | left
  | right

/-- A place where a condition depends on the rows: the way to it from the top, and the
predicate, the EXISTS or the text of the caller that stands there. -/
structure Leaf where
  place : List Side
  condition : Condition

/-- Whether the leaf is a text of the caller. -/
def Leaf.isRaw (l : Leaf) : Bool :=
  match l.condition with
  | .raw .. => true
  | _ => false

/-- The truth value of a condition at a place.  An empty condition has none; it contributes
nothing, so a connective with one empty side has the value of the other side. -/
def Condition.truth? (v : Leaf → Truth) (place : List Side) : Condition → Option Truth
  | .empty => none
  | .predicate column op operand => some (v ⟨place, .predicate column op operand⟩)
  | .raw sql params => some (v ⟨place, .raw sql params⟩)
  | .existence negated q =>
    some (if negated then (v ⟨place, .existence false q⟩).not else v ⟨place, .existence false q⟩)
  | .not c => (c.truth? v place).map Truth.not
  | .group c => c.truth? v place
  | .connect left op right =>
    match left.truth? v (place ++ [.left]), right.truth? v (place ++ [.right]) with
    | none, other => other
    | other, none => other
    | some a, some b => some (op.apply a b)

/-- A condition without effect has no truth value. -/
theorem Condition.truth?_eq_none (v : Leaf → Truth) :
    ∀ (c : Condition) (place : List Side), c.isEmpty = true →
  c.truth? v place = none
  | .empty, _, _ => rfl
  | .not c, place, h => by rw [truth?, truth?_eq_none v c place h, Option.map_none]
  | .group c, place, h => truth?_eq_none v c place h
  | .connect left op right, place, h => by
    obtain ⟨hleft, hright⟩ := Bool.and_eq_true_iff.mp h
    rw [truth?, truth?_eq_none v left _ hleft, truth?_eq_none v right _ hright]

/-! ### The words of a condition -/

/-- Words with a parenthesis on each side if `needed`. -/
def Word.parenthesizedIf {α : Type} (needed : Bool) (ws : List (Word α)) : List (Word α) :=
  if needed then .opening :: ws ++ [.closing] else ws

/-- The words of a condition at a place. -/
def Condition.words (place : List Side) : Condition → List (Word Leaf)
  | .empty => []
  | .predicate column op operand => [.leaf ⟨place, .predicate column op operand⟩]
  | .raw sql params => [.leaf ⟨place, .raw sql params⟩]
  | .existence negated q => (if negated then [.not] else []) ++ [.leaf ⟨place, .existence false q⟩]
  | .not c => if c.isEmpty then [] else .not :: Word.parenthesizedIf true (c.words place)
  | .group c => if c.isEmpty then [] else Word.parenthesizedIf true (c.words place)
  | .connect left op right =>
    if left.isEmpty then right.words (place ++ [.right])
    else if right.isEmpty then left.words (place ++ [.left])
    else
      Word.parenthesizedIf (left.needsParentheses op) (left.words (place ++ [.left]))
        ++ .connective op
        :: Word.parenthesizedIf (right.needsParentheses op) (right.words (place ++ [.right]))

/-- The text of tokens. -/
def Token.written (quoting : Quoting) (ts : List Token) : String :=
  String.join (ts.map (Token.toText quoting))

/-- The text of a word. -/
def Word.written (style : SelectStyle) (scope : Option Scope) (quoting : Quoting) :
    Word Leaf → String
  | leaf l => Token.written quoting (l.condition.tokens style scope)
  | not => "NOT "
  | connective op => " " ++ op.word ++ " "
  | opening => "("
  | closing => ")"

section

variable (style : SelectStyle) (scope : Option Scope) (quoting : Quoting)

theorem Token.written_append (ts us : List Token) :
  written quoting (ts ++ us) = written quoting ts ++ written quoting us
  := by
  rw [written, List.map_append, String.join_append, written, written]

theorem Token.written_cons (t : Token) (ts : List Token) :
  written quoting (t :: ts) = t.toText quoting ++ written quoting ts
  := by
  rw [written, List.map_cons, String.join_cons, written]

theorem Word.written_parenthesizedIf {ws : List (Word Leaf)} {ts : List Token}
    (h : String.join (ws.map (Word.written style scope quoting)) = Token.written quoting ts)
    (needed : Bool) :
  String.join ((Word.parenthesizedIf needed ws).map (Word.written style scope quoting))
    = Token.written quoting (SqlRender.parenthesizedIf needed ts)
  := by
  cases needed with
  | false => exact h
  | true =>
    simp only [parenthesizedIf, SqlRender.parenthesizedIf, if_true, Token.parenthesized,
      List.cons_append, List.map_cons, List.map_append, String.join_cons, String.join_append,
      Token.written_cons, Token.written_append, h]
    rfl

/-- The words of a condition are cut from its text. -/
theorem Condition.written_words :
    ∀ (c : Condition) (place : List Side),
  String.join ((c.words place).map (Word.written style scope quoting))
    = Token.written quoting (c.tokens style scope)
  | .empty, place => rfl
  | .predicate column op operand, place => by simp [words, Word.written]
  | .raw sql params, place => by simp [words, Word.written]
  | .existence negated q, place => by
    cases negated with
    | false => simp [words, Word.written]
    | true =>
      simp [words, Word.written, tokens, Token.written_cons, Token.toText]
      rw [← String.append_assoc]
      rfl
  | .not c, place => by
    rw [words, tokens]
    split
    · rfl
    · have h := Word.written_parenthesizedIf style scope quoting (written_words c place) true
      rw [List.map_cons, String.join_cons, h, Token.written_cons]
      rfl
  | .group c, place => by
    rw [words, tokens]
    split
    · rfl
    · apply Word.written_parenthesizedIf style scope quoting (written_words c place) true
  | .connect left op right, place => by
    have hleft := written_words left (place ++ [.left])
    have hright := written_words right (place ++ [.right])
    rw [words, tokens]
    split
    · apply hright
    · split
      · apply hleft
      · have hleft := Word.written_parenthesizedIf style scope quoting hleft
          (left.needsParentheses op)
        have hright := Word.written_parenthesizedIf style scope quoting hright
          (right.needsParentheses op)
        simp only [List.map_append, List.map_cons, String.join_append, String.join_cons, hleft,
          hright, Token.written_append, Token.written_cons]
        simp [Word.written, Token.written, Token.toText, String.append_assoc]

end

/-! ### Texts of the caller -/

/-- Words that read as a formula. -/
structure Sentence where
  words : List (Word Leaf)
  formula : Formula Leaf
  reads : Reads (.chain .or) words formula

/-- The word with its leaf replaced by a sentence if it is a text of the caller. -/
def Word.expanded (texts : Leaf → Sentence) : Word Leaf → List (Word Leaf)
  | leaf l => if l.isRaw then (texts l).words else [leaf l]
  | w => [w]

/-- The truth value of a leaf, which for a text of the caller is that of its sentence. -/
def Leaf.value (texts : Leaf → Sentence) (v : Leaf → Truth) (l : Leaf) : Truth :=
  if l.isRaw then (texts l).formula.eval v else v l

/-! ### Reading the words -/

/-- The level at which the words of a condition read. -/
def Condition.level (c : Condition) : Level :=
  match c.effective? with
  | some (.raw ..) => .chain .or
  | some (.connect _ op _) => .chain op
  | _ => .factor

theorem Condition.level_not (c : Condition) :
  (Condition.not c).level = .factor
  := by
  cases h : c.effective? <;> simp [level, effective?, h]

theorem Condition.level_group (c : Condition) :
  (Condition.group c).level = .factor
  := by
  cases h : c.effective? <;> simp [level, effective?, h]

theorem Condition.level_connect_of_left {left right : Condition} {op : Connective}
    (h : left.isEmpty = true) :
  (Condition.connect left op right).level = right.level
  := by
  have hleft := (isEmpty_iff left).mp h
  cases hright : right.effective? <;> simp [level, effective?, hleft, hright]

theorem Condition.level_connect_of_right {left right : Condition} {op : Connective}
    (h : right.isEmpty = true) :
  (Condition.connect left op right).level = left.level
  := by
  have hright := (isEmpty_iff right).mp h
  cases hleft : left.effective? <;> simp [level, effective?, hleft, hright]

theorem Condition.level_connect {left right : Condition} {op : Connective}
    (hleft : left.isEmpty = false) (hright : right.isEmpty = false) :
  (Condition.connect left op right).level = .chain op
  := by
  have heffective : ∀ c : Condition, c.isEmpty = false → ∃ d, c.effective? = some d := by
    intro c hc
    apply Option.ne_none_iff_exists'.mp
    rw [ne_eq, ← isEmpty_iff, hc]
    apply Bool.false_ne_true
  obtain ⟨l, hl⟩ := heffective left hleft
  obtain ⟨r, hr⟩ := heffective right hright
  simp [level, effective?, hl, hr]

/-- A condition that needs no parentheses as a side of a connective reads at the level of
the sides of the connective. -/
theorem Condition.reads_parenthesizedIf {c : Condition} {op : Connective}
    {ws : List (Word Leaf)} {f : Formula Leaf} (h : Reads c.level ws f) :
  Reads (.chain op) (Word.parenthesizedIf (c.needsParentheses op) ws) f
  := by
  cases hneeded : c.needsParentheses op with
  | true => exact Reads.of_factor (Reads.parentheses h.loosen)
  | false =>
    unfold needsParentheses at hneeded
    unfold level at h
    split at h
    · next heffective => simp [heffective] at hneeded
    · next heffective =>
      simp only [heffective, bne_eq_false_iff_eq] at hneeded
      rw [← hneeded]
      apply h
    · apply Reads.of_factor h

section

variable (texts : Leaf → Sentence)

theorem Word.expanded_parenthesizedIf (needed : Bool) (ws : List (Word Leaf)) :
  (Word.parenthesizedIf needed ws).flatMap (Word.expanded texts)
    = Word.parenthesizedIf needed (ws.flatMap (Word.expanded texts))
  := by
  cases needed <;> simp [parenthesizedIf, expanded]

/-- The words of a condition with an effect read as a formula with its truth value. -/
theorem Condition.reads_expanded :
    ∀ (c : Condition) (place : List Side), c.isEmpty = false →
  ∃ f, Reads c.level ((c.words place).flatMap (Word.expanded texts)) f
    ∧ ∀ v, c.truth? (Leaf.value texts v) place = some (f.eval v)
  | .empty, _, h => nomatch h
  | .predicate column op operand, place, _ => ⟨_, Reads.leaf _, fun v => rfl⟩
  | .raw sql params, place, _ => by
    have hsentence := (texts ⟨place, .raw sql params⟩).reads
    use (texts ⟨place, .raw sql params⟩).formula
    constructor
    · simpa [words, Word.expanded, Leaf.isRaw, level, effective?] using hsentence
    · intro v
      rfl
  | .existence negated q, place, _ => by
    cases negated with
    | false => exact ⟨_, Reads.leaf _, fun v => rfl⟩
    | true => exact ⟨_, Reads.not (Reads.leaf _), fun v => rfl⟩
  | .not c, place, h => by
    have h : c.isEmpty = false := h
    obtain ⟨f, hf, heval⟩ := reads_expanded c place h
    use .not f
    constructor
    · rw [level_not, words, if_neg (by simp [h]), List.flatMap_cons,
        Word.expanded_parenthesizedIf]
      apply Reads.not (Reads.parentheses hf.loosen)
    · intro v
      rw [truth?, heval, Option.map_some, Formula.eval]
  | .group c, place, h => by
    have h : c.isEmpty = false := h
    obtain ⟨f, hf, heval⟩ := reads_expanded c place h
    use f
    constructor
    · rw [level_group, words, if_neg (by simp [h]), Word.expanded_parenthesizedIf]
      apply Reads.parentheses hf.loosen
    · apply heval
  | .connect left op right, place, h => by
    rw [words]
    cases hleft : left.isEmpty with
    | true =>
      have hright : right.isEmpty = false := by simpa [isEmpty, hleft] using h
      obtain ⟨f, hf, heval⟩ := reads_expanded right (place ++ [.right]) hright
      use f
      constructor
      · rw [level_connect_of_left hleft]
        apply hf
      · intro v
        rw [truth?, truth?_eq_none _ left _ hleft, heval]
    | false =>
      obtain ⟨f, hf, hfeval⟩ := reads_expanded left (place ++ [.left]) hleft
      cases hright : right.isEmpty with
      | true =>
        use f
        constructor
        · rw [level_connect_of_right hright]
          apply hf
        · intro v
          rw [truth?, truth?_eq_none _ right _ hright, hfeval]
      | false =>
        obtain ⟨g, hg, hgeval⟩ := reads_expanded right (place ++ [.right]) hright
        obtain ⟨e, he, heval⟩ :=
          Reads.append (reads_parenthesizedIf hf) (reads_parenthesizedIf hg)
        use e
        constructor
        · rw [level_connect hleft hright]
          simpa [Word.expanded_parenthesizedIf, Word.expanded] using he
        · intro v
          rw [truth?, hfeval, hgeval, heval]

end

/-- The words of a condition with an effect, cut from its text and with a sentence for each
text of the caller, read as a formula in one way only, and the formula has the truth value
of the condition whatever the leaves are worth. -/
theorem Condition.reads_words {c : Condition} (hc : c.isEmpty = false)
    (texts : Leaf → Sentence) :
  (∀ style scope quoting,
      String.join ((c.words []).map (Word.written style scope quoting))
        = String.join ((c.tokens style scope).map (Token.toText quoting)))
    ∧ ∃ f, Reads (.chain .or) ((c.words []).flatMap (Word.expanded texts)) f
      ∧ read ((c.words []).flatMap (Word.expanded texts)) = some f
      ∧ ∀ v, c.truth? (Leaf.value texts v) [] = some (f.eval v)
  := by
  constructor
  · intro style scope quoting
    apply written_words style scope quoting c []
  · obtain ⟨f, hf, heval⟩ := reads_expanded texts c [] hc
    use f
    exact ⟨hf.loosen, hf.read_eq, heval⟩

/-- A name together with an alternative of the caller, beside a connective that has no
effect. -/
def namedOutsideAges : Condition :=
  .connect (.raw "age < 7 OR age > 70" []) .and
    (.connect .empty .or (.predicate ⟨.named none "name", none⟩ .eq (.value (.string "Ada"))))

/-- Two leaves with OR between them. -/
def eitherOf (l m : Leaf) : Sentence :=
  ⟨[.leaf l, .connective .or, .leaf m], .connect (.leaf l) .or (.leaf m),
    Reads.connect (Reads.of_factor (Reads.leaf l)) (Reads.of_factor (Reads.leaf m))⟩

/-- The alternative of the caller stays together. -/
theorem reads_words_namedOutsideAges :
  ∃ l m n : Leaf,
    namedOutsideAges.isEmpty = false
      ∧ String.join ((namedOutsideAges.words []).map
          (Word.written (Dialect.builtIn .mysql).style none .backQuotes))
        = "(age < 7 OR age > 70) AND `name` = ?"
      ∧ ∀ v, namedOutsideAges.truth? (Leaf.value (fun _ => eitherOf l m) v) []
        = some (((v l).or (v m)).and (v n))
  := by
  let l : Leaf := ⟨[.left, .left], .raw "age < 7" []⟩
  let m : Leaf := ⟨[.left, .right], .raw "age > 70" []⟩
  use l, m, ⟨[.right, .right], .predicate ⟨.named none "name", none⟩ .eq (.value (.string "Ada"))⟩
  have h : namedOutsideAges.isEmpty = false := rfl
  obtain ⟨hwritten, f, -, hread, heval⟩ := Condition.reads_words h fun _ => eitherOf l m
  constructor
  · apply h
  · constructor
    · rw [hwritten]
      rfl
    · intro v
      obtain rfl := Option.some.inj hread
      apply heval v

end SqlRender
