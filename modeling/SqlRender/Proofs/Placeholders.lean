import SqlRender.Proofs.Request

/-!
# Placeholders and values

A statement binds its values by position: the first value belongs to the first question
mark, and so on.  In a statement that is made from well formed parts every value meets
the place where it was bound.  The main statement, `Request.debugText_of_statement`, says
so for the text in which the values are written in place of the question marks: it is the
text that is obtained by writing every value as a literal right where it is bound.
-/

namespace SqlRender

/-! ### Filling in values -/

namespace Statement

theorem fillIn_nil (cs : List Char) :
  fillIn cs [] = cs
  := by
  induction cs with
  | nil => rfl
  | cons c cs ih => rw [fillIn, ih]

/-- Values are filled into each of two texts on its own if the first text has as many
question marks as values. -/
theorem fillIn_append {cs : List Char} {vs : List Value} (h : cs.count '?' = vs.length)
    (ds : List Char) (ws : List Value) :
  fillIn (cs ++ ds) (vs ++ ws) = fillIn cs vs ++ fillIn ds ws
  := by
  induction cs generalizing vs with
  | nil =>
    obtain rfl : vs = [] := List.eq_nil_of_length_eq_zero h.symm
    rfl
  | cons c cs ih =>
    by_cases hc : c = '?'
    · rw [hc, List.count_cons_self] at h
      obtain ⟨v, vs, rfl⟩ := List.exists_cons_of_length_eq_add_one h.symm
      have hrest : cs.count '?' = vs.length := Nat.succ.inj h
      simp only [hc, List.cons_append, fillIn, if_true]
      rw [ih hrest, List.append_assoc]
    · rw [List.count_cons_of_ne hc] at h
      have hstep : ∀ cs us, fillIn (c :: cs) us = c :: fillIn cs us := by
        intro cs us
        cases us <;> simp [fillIn, hc]
      rw [List.cons_append, hstep, hstep, ih h, List.cons_append]

end Statement

/-! ### Question marks in names -/

namespace Text

/-- A character of texts that are put together is one of the texts or of the separator. -/
theorem mem_joinWith {sep : String} {ss : List String} {c : Char}
    (h : c ∈ (joinWith sep ss).toList) :
  c ∈ sep.toList ∨ ∃ s ∈ ss, c ∈ s.toList
  := by
  fun_induction joinWith sep ss with
  | case1 => simp at h
  | case2 s =>
    right
    use s, List.mem_cons_self
  | case3 s rest hrest ih =>
    simp only [String.toList_append, List.mem_append] at h
    obtain (h | h) | h := h
    · right
      use s, List.mem_cons_self
    · left; exact h
    · obtain h | ⟨t, ht, h⟩ := ih h
      · left; exact h
      · right
        use t, List.mem_cons_of_mem s ht

theorem mem_of_mem_pieces {sep : Char} {cs piece : List Char} (hpiece : piece ∈ pieces sep cs) :
  piece ⊆ cs
  := by
  induction cs generalizing piece with
  | nil =>
    simp only [pieces, List.mem_singleton] at hpiece
    simp [hpiece]
  | cons c cs ih =>
    unfold pieces at hpiece
    split at hpiece
    · simp only [List.mem_singleton] at hpiece
      simp [hpiece]
    · next first rest hpieces =>
      rw [hpieces] at ih
      split at hpiece
      · obtain rfl | hpiece := List.mem_cons.mp hpiece
        · apply List.nil_subset
        · apply List.subset_cons_of_subset c (ih hpiece)
      · obtain rfl | hpiece := List.mem_cons.mp hpiece
        · apply List.cons_subset_cons c (ih List.mem_cons_self)
        · apply List.subset_cons_of_subset c (ih (List.mem_cons_of_mem first hpiece))

/-- The question mark is no letter, so no other character turns into one. -/
theorem toUpper_eq_questionMark {c : Char} (h : c.toUpper = '?') :
  c = '?'
  := by
  unfold Char.toUpper at h
  split at h
  · next hlower =>
    have hval := congrArg (fun d : Char => d.val.toNat) h
    simp only [UInt32.le_iff_toNat_le] at hlower
    simp at hval hlower
    omega
  · apply h

end Text

namespace Quoting

/-- Quoting adds no question mark to a name. -/
theorem questionMark_mem_wrap {q : Quoting} {part : String} (h : '?' ∈ (q.wrap part).toList) :
  '?' ∈ part.toList
  := by
  have hupper : '?' ∈ (Text.upper part).toList → '?' ∈ part.toList := by
    simp only [Text.upper, String.toList_ofList, List.mem_map]
    rintro ⟨c, hc, hupper⟩
    rw [← Text.toUpper_eq_questionMark hupper]
    apply hc
  have hkeyword : ∀ words, '?' ∈ (keyword words part).toList → '?' ∈ part.toList := by
    intro words h
    unfold keyword at h
    split at h
    · apply hupper
      simpa [between] using h
    · apply h
  unfold wrap at h
  split at h
  · apply h
  · cases q with
    | bare => exact h
    | backQuotes | doubleQuotes | squareBrackets => simpa [between] using h
    | oracleKeywords | dmKeywords => exact hkeyword _ h

theorem questionMark_mem_wrapName {q : Quoting} {name : String}
    (h : '?' ∈ (q.wrapName name).toList) :
  '?' ∈ name.toList
  := by
  obtain h | ⟨part, hpart, h⟩ := Text.mem_joinWith h
  · simp at h
  · obtain ⟨dotted, hdotted, rfl⟩ := List.mem_map.mp hpart
    obtain ⟨piece, hpiece, rfl⟩ := List.mem_map.mp hdotted
    apply Text.mem_of_mem_pieces hpiece
    simpa using questionMark_mem_wrap h

end Quoting

/-! ### Well formed tokens -/

namespace Token

/-- A token is well formed if its text has as many question marks as it binds values,
whatever the quoting.  The text of an ordering has to pass a guard anyway. -/
def IsWellFormed : Token → Prop
  | text s => '?' ∉ s.toList
  | name n => '?' ∉ n.toList
  | table schema n => (∀ s ∈ schema, '?' ∉ s.toList) ∧ '?' ∉ n.toList
  | function n => '?' ∉ n.toList
  | raw sql params => sql.toList.count '?' = params.length
  | order _ | bind _ | refuse _ => True

/-- The text of a token with its values written in place of its question marks. -/
def literalText (q : Quoting) : Token → String
  | bind v => v.literal
  | raw sql params => String.ofList (Statement.fillIn sql.toList params)
  | t => t.toText q

/-- An ordering that passes its guard has no question mark. -/
theorem questionMark_notMem_order {s : String} (h : Guard.checkOrderText s = .ok ()) :
  '?' ∉ s.toList
  := by
  intro hmem
  unfold Guard.checkOrderText at h
  split at h
  · next hall =>
    have hmark := List.all_eq_true.mp (Bool.and_eq_true_iff.mp hall).2 _ hmem
    exact absurd hmark (by decide)
  · cases h

/-- A well formed token that passes its guards has as many question marks as values. -/
theorem count_toText {q : Quoting} {t : Token} (ht : t.IsWellFormed)
    (hguards : ∀ g ∈ t.guards, g.verify = .ok ()) :
  (t.toText q).toList.count '?' = t.params.length
  := by
  cases t with
  | text s => exact List.count_eq_zero_of_not_mem ht
  | name n =>
    apply List.count_eq_zero_of_not_mem
    exact fun h => ht (Quoting.questionMark_mem_wrapName h)
  | table schema n =>
    apply List.count_eq_zero_of_not_mem
    intro h
    obtain ⟨hschema, hn⟩ := ht
    have hname : '?' ∉ (q.wrapName n).toList := fun h => hn (Quoting.questionMark_mem_wrapName h)
    cases schema with
    | none => simp [toText, hname] at h
    | some s =>
      have hs : '?' ∉ (q.wrapName s).toList :=
        fun h => hschema s rfl (Quoting.questionMark_mem_wrapName h)
      simp [toText, hname, hs] at h
  | function n => exact List.count_eq_zero_of_not_mem ht
  | order s =>
    apply List.count_eq_zero_of_not_mem
    apply questionMark_notMem_order (hguards (.orderText s) List.mem_cons_self)
  | bind v => simp [toText]
  | raw sql params => exact ht
  | refuse e => rfl

/-- The literal text of a token is its text with its own values filled in. -/
theorem toList_literalText (q : Quoting) (t : Token) :
  (t.literalText q).toList = Statement.fillIn (t.toText q).toList t.params
  := by
  cases t with
  | bind v => simp [literalText, toText, Statement.fillIn]
  | raw sql params => simp [literalText, toText]
  | text | name | table | function | order | refuse =>
    apply (Statement.fillIn_nil _).symm

end Token

/-! ### Filling in the values of a statement -/

/-- A text with as many question marks as values for every token is filled in token by
token. -/
theorem Statement.fillIn_tokens {q : Quoting} {ts : List Token}
    (h : ∀ t ∈ ts, (t.toText q).toList.count '?' = t.params.length) :
  fillIn (String.join (ts.map (Token.toText q))).toList (ts.flatMap Token.params)
    = (String.join (ts.map (Token.literalText q))).toList
  := by
  simp only [String.toList_join, List.flatMap_map]
  induction ts with
  | nil => rfl
  | cons t ts ih =>
    obtain ⟨ht, hts⟩ := List.forall_mem_cons.mp h
    simp only [List.flatMap_cons]
    rw [fillIn_append ht, ih hts, Token.toList_literalText]

theorem Statement.placeholders_tokens {q : Quoting} {ts : List Token}
    (h : ∀ t ∈ ts, (t.toText q).toList.count '?' = t.params.length) :
  (String.join (ts.map (Token.toText q))).toList.count '?' = (ts.flatMap Token.params).length
  := by
  simp only [String.toList_join, List.flatMap_map]
  induction ts with
  | nil => rfl
  | cons t ts ih =>
    obtain ⟨ht, hts⟩ := List.forall_mem_cons.mp h
    simp only [List.flatMap_cons, List.count_append, List.length_append]
    rw [ht, ih hts]

namespace Request

/-- A request is well formed if everything it supplies is: every text of the caller has as
many question marks as values, and there are none in names, hints and endings. -/
def IsWellFormed (r : Request) : Prop :=
  ∀ t ∈ r.supplied, t.IsWellFormed

/-- The text of the statement for a request with every value written as a literal at the
place where it is bound. -/
def literal (d : Dialect) (r : Request) : Except QueryError String :=
  (r.tokens d).map fun ts => String.join (ts.map (Token.literalText d.quoting))

end Request

/-- There is no question mark in the words of the language. -/
theorem Text.questionMark_notMem_of_isPlain {s : String} (h : Text.isPlain s = true) :
  '?' ∉ s.toList
  := by
  intro hmem
  exact absurd (List.all_eq_true.mp h _ hmem) (by decide)

/-- Tokens are well formed by part. -/
theorem Dialect.IsProvided.holdsByPart {d : Dialect} (hd : d.IsProvided) :
  HoldsByPart d.style fun ts => ∀ t ∈ ts, t.IsWellFormed
  := by
  constructor
  case nil => simp
  case append =>
    intro ts us hts hus
    apply List.forall_mem_append.mpr ⟨hts, hus⟩
  case word =>
    intro s hs
    rw [List.forall_mem_singleton]
    apply Text.questionMark_notMem_of_isPlain hs
  case separator =>
    rw [List.forall_mem_singleton]
    obtain h | h : d.aliasSeparator = " AS " ∨ d.aliasSeparator = " " := by
      cases hd
      · left; rfl
      · right; rfl
      · left; rfl
    all_goals
      simp only [Dialect.style, Token.IsWellFormed, h]
      apply Text.questionMark_notMem_of_isPlain rfl
  case operation =>
    intro op
    cases op <;> simp [Token.IsWellFormed, Arithmetic.word]
  case names =>
    intro ns hns
    rw [List.forall_mem_singleton]
    intro h
    obtain h | ⟨n, hn, h⟩ := Text.mem_joinWith h
    · simp at h
    · apply hns n hn _ List.mem_cons_self h
  case refusal =>
    intro e
    rw [List.forall_mem_singleton]
    trivial

/-- The tokens of a well formed request are well formed. -/
theorem Request.isWellFormed_tokens {d : Dialect} (hd : d.IsProvided) {r : Request}
    (hr : r.IsWellFormed) {ts : List Token} (h : r.tokens d = .ok ts) :
  ∀ t ∈ ts, t.IsWellFormed
  := by
  apply holds_tokens hd.holdsByPart h
  · simpa [IsWellFormed] using hr
  · simp [Query.countTokens, Token.IsWellFormed]

/-- A statement of a well formed request has as many question marks as values, and with its
values filled in from left to right it is the text that has every value written at the
place where it is bound. -/
theorem Request.debugText_of_statement {d : Dialect} (hd : d.IsProvided) {r : Request}
    (hr : r.IsWellFormed) {s : Statement} (h : r.statement d = .ok s) :
  s.placeholders = s.params.length ∧ r.literal d = .ok s.debugText
  := by
  obtain ⟨ts, hts, hs⟩ := exists_tokens h
  obtain ⟨hguards, rfl⟩ := Statement.ofTokens_eq_ok_iff.mp hs
  have hcount : ∀ t ∈ ts, (t.toText d.quoting).toList.count '?' = t.params.length :=
    fun t ht => Token.count_toText (isWellFormed_tokens hd hr hts t ht) (hguards t ht)
  constructor
  · apply Statement.placeholders_tokens hcount
  · rw [literal, hts, Except.map, Statement.debugText, Statement.fillIn_tokens hcount,
      String.ofList_toList]

/-- The accounts of a name with a question mark in it, with a condition of the caller. -/
def searchedAccounts : Query :=
  { Query.empty with
    columns := [⟨.named none "id", none⟩]
    sources := [⟨.named none "tb_account", none⟩]
    filter := .connect (.predicate ⟨.named none "name", none⟩ .eq (.value (.string "who?"))) .and
      (.raw "age < ? OR age > ?" [.uint 7, .uint 70]) }

/-- The question mark in the name is no placeholder for the values behind it. -/
theorem debugText_of_statement_searchedAccounts :
  (Request.select searchedAccounts).IsWellFormed
    ∧ ∃ s, (Request.select searchedAccounts).statement (.builtIn .mysql) = .ok s
      ∧ s.placeholders = s.params.length
      ∧ s.debugText
        = "SELECT `id` FROM `tb_account` WHERE `name` = 'who?' AND (age < 7 OR age > 70)"
  := by
  have hwell : (Request.select searchedAccounts).IsWellFormed := by
    have hsupplied : (Request.select searchedAccounts).supplied
      = [.name "id", .table none "tb_account", .name "tb_account", .name "name",
          .bind (.string "who?"), .raw "age < ? OR age > ?" [.uint 7, .uint 70]] := rfl
    simp [Request.IsWellFormed, hsupplied, Token.IsWellFormed]
  use hwell
  obtain ⟨s, hs⟩ : ∃ s, (Request.select searchedAccounts).statement (.builtIn .mysql) = .ok s :=
    ⟨_, rfl⟩
  have hd := Dialect.isProvided_builtIn .mysql
  obtain ⟨hcount, htext⟩ := Request.debugText_of_statement hd hwell hs
  use s, hs, hcount
  apply Except.ok.inj
  rw [← htext]
  rfl

end SqlRender
