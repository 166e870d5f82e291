import SqlRender.Proofs.Names

/-!
# Statements under different ways of quoting

Dialects that differ in their quoting alone write one and the same sequence of tokens, so they
refuse the same queries and bind the same values.  If the caller supplies no quotes, then the
texts are the same as well once the quotes around names are erased, up to the letter case of
reserved words where these are written in upper case: `Dialect.select_common`.
-/

namespace SqlRender

/-- The quotes that are put around names. -/
def Quoting.quotes : List Char :=
  ['\x60', '"', '[', ']']

namespace Text

/-! ### Texts without quotes -/

/-- A text without quotes. -/
def IsUnquoted (s : String) : Prop :=
  ∀ c ∈ Quoting.quotes, c ∉ s.toList

/-- There are no quotes in a text of characters that are all different from them. -/
theorem isUnquoted_of_all {s : String} {P : Char → Bool} (hs : s.toList.all P = true)
    (hP : Quoting.quotes.all (fun c => !P c) = true) :
  IsUnquoted s
  := by
  intro c hc hmem
  have hnot := List.all_eq_true.mp hP c hc
  rw [List.all_eq_true.mp hs c hmem] at hnot
  cases hnot

/-- There are no quotes in the words of the language. -/
theorem isUnquoted_of_isPlain {s : String} (h : isPlain s = true) :
  IsUnquoted s
  := isUnquoted_of_all h (by decide)

theorem isUnquoted_append {s t : String} (hs : IsUnquoted s) (ht : IsUnquoted t) :
  IsUnquoted (s ++ t)
  := by
  intro c hc
  rw [String.toList_append, List.mem_append, not_or]
  exact ⟨hs c hc, ht c hc⟩

theorem isUnquoted_joinWith {sep : String} {ss : List String} (hsep : IsUnquoted sep)
    (hss : ∀ s ∈ ss, IsUnquoted s) :
  IsUnquoted (joinWith sep ss)
  := by
  fun_induction joinWith sep ss with
  | case1 => simp [IsUnquoted]
  | case2 s => exact hss s List.mem_cons_self
  | case3 s rest hrest ih =>
    obtain ⟨hs, hss⟩ := List.forall_mem_cons.mp hss
    apply isUnquoted_append (isUnquoted_append hs hsep) (ih hss)

theorem isUnquoted_of_mem_dottedParts {n part : String} (hpart : part ∈ dottedParts n)
    (hn : IsUnquoted n) :
  IsUnquoted part
  := by
  intro c hc hmem
  apply hn c hc
  apply subset_of_mem_dottedParts hpart hmem

/-! ### Letter case -/

theorem lower_append (s t : String) :
  lower (s ++ t) = lower s ++ lower t
  := by
  simp [lower, String.ofList_append]

/-- Upper case is forgotten in lower case. -/
theorem toLower_toUpper (c : Char) :
  c.toUpper.toLower = c.toLower
  := by
  unfold Char.toUpper
  split
  · next h =>
    have hlow : 97 ≤ c.toNat := UInt32.le_iff_toNat_le.mp h.1
    have hhigh : c.toNat ≤ 122 := UInt32.le_iff_toNat_le.mp h.2
    apply Char.ext
    rw [val_toLower, toLower_eq_self]
    · change c.val + 4294967264 + 32 = c.val
      rw [UInt32.add_assoc]
      exact UInt32.add_zero c.val
    · simp [UInt32.le_iff_toNat_le]
      omega
    · simp [UInt32.le_iff_toNat_le]
      omega
  · rfl

theorem lower_upper (s : String) :
  lower (upper s) = lower s
  := by
  simp only [lower, upper, String.toList_ofList, List.map_map, Function.comp_def, toLower_toUpper]

end Text

/-! ### Erasing quotes -/

namespace Quoting

/-- Whether a character is one of the two quotes around names. -/
def isMark (q : Quoting) (c : Char) : Bool :=
  q.marks?.any fun (left, right) => c == left || c == right

/-- A text without the quotes that are put around names. -/
def erase (q : Quoting) (s : String) : String :=
  String.ofList (s.toList.filter fun c => !q.isMark c)

/-- A text in the letter case in which texts under the quoting are compared: where reserved
words are written in upper case, all letters are compared in lower case. -/
def compared (q : Quoting) (s : String) : String :=
  match q with
  | oracleKeywords | dmKeywords => Text.lower s
  | bare | backQuotes | doubleQuotes | squareBrackets => s

/-- What is compared of a text under the quoting. -/
def trace (q : Quoting) (s : String) : String :=
  q.compared (q.erase s)

variable {q : Quoting}

theorem isMark_eq_false {c : Char} (hc : c ∉ quotes) :
  q.isMark c = false
  := by
  simp only [quotes, List.mem_cons, List.not_mem_nil, or_false, not_or] at hc
  cases q <;> simp [isMark, marks?, hc]

theorem erase_of_isUnquoted {s : String} (hs : Text.IsUnquoted s) :
  q.erase s = s
  := by
  have hkept : s.toList.filter (fun c => !q.isMark c) = s.toList := by
    apply List.filter_eq_self.mpr
    intro c hc
    rw [isMark_eq_false (fun hquote => hs c hquote hc), Bool.not_false]
  rw [erase, hkept, String.ofList_toList]

theorem erase_append (s t : String) :
  q.erase (s ++ t) = q.erase s ++ q.erase t
  := by
  simp [erase, String.ofList_append]

theorem compared_append (s t : String) :
  q.compared (s ++ t) = q.compared s ++ q.compared t
  := by
  cases q with
  | bare | backQuotes | doubleQuotes | squareBrackets => rfl
  | oracleKeywords | dmKeywords => exact Text.lower_append s t

theorem trace_of_isUnquoted {s : String} (hs : Text.IsUnquoted s) :
  q.trace s = q.compared s
  := by rw [trace, erase_of_isUnquoted hs]

theorem trace_append (s t : String) :
  q.trace (s ++ t) = q.trace s ++ q.trace t
  := by rw [trace, erase_append, compared_append, trace, trace]

/-- The quotes around a word are erased. -/
theorem erase_between {left right : Char} (hmarks : q.marks? = some (left, right)) {word : String}
    (hword : Text.IsUnquoted word) :
  q.erase (between (String.singleton left) (String.singleton right) word) = word
  := by
  have hleft : q.erase (String.singleton left) = "" := by simp [erase, isMark, hmarks]
  have hright : q.erase (String.singleton right) = "" := by simp [erase, isMark, hmarks]
  rw [between, erase_append, erase_append, hleft, hright, erase_of_isUnquoted hword,
    String.empty_append, String.append_empty]

/-- A reserved word is compared without its quotes and in lower case. -/
theorem trace_keyword (hmarks : q.marks? = some ('"', '"')) (hcompared : q.compared = Text.lower)
    {reserved : List String} (hreserved : reserved ⊆ oracleWords ++ dmWords) {part : String}
    (hpart : Text.IsUnquoted part) :
  q.trace (keyword reserved part) = q.compared part
  := by
  unfold keyword
  split
  · next h =>
    have hupper : Text.IsUnquoted (Text.upper part) := by
      apply Text.isUnquoted_of_all (P := Char.isAlphanum) _ (by decide)
      rw [List.all_eq_true]
      apply all_isAlphanum_upper hreserved h
    rw [trace, hcompared, show "\"" = String.singleton '"' from rfl, erase_between hmarks hupper,
      Text.lower_upper]
  · apply trace_of_isUnquoted hpart

/-- Quoting a part of a name changes nothing about it but its quotes. -/
theorem trace_wrap {part : String} (hpart : Text.IsUnquoted part) :
  q.trace (q.wrap part) = q.compared (bare.wrap part)
  := by
  have hbare : bare.wrap part = part := by
    unfold wrap
    split <;> rfl
  rw [hbare]
  unfold wrap
  split
  · apply trace_of_isUnquoted hpart
  · cases q with
    | bare => exact trace_of_isUnquoted hpart
    | backQuotes => exact erase_between (q := backQuotes) rfl hpart
    | doubleQuotes => exact erase_between (q := doubleQuotes) rfl hpart
    | squareBrackets => exact erase_between (q := squareBrackets) rfl hpart
    | oracleKeywords => exact trace_keyword rfl rfl (List.subset_append_left _ _) hpart
    | dmKeywords => exact trace_keyword rfl rfl (List.Subset.refl _) hpart

theorem trace_joinWith {parts : List String} (hparts : ∀ part ∈ parts, Text.IsUnquoted part) :
  q.trace (Text.joinWith "." (parts.map q.wrap))
    = q.compared (Text.joinWith "." (parts.map bare.wrap))
  := by
  induction parts with
  | nil => exact trace_of_isUnquoted (by simp [Text.joinWith, Text.IsUnquoted])
  | cons part parts ih =>
    obtain ⟨hpart, hparts⟩ := List.forall_mem_cons.mp hparts
    cases parts with
    | nil => exact trace_wrap hpart
    | cons next parts =>
      have hdot : q.trace "." = q.compared "." :=
        trace_of_isUnquoted (Text.isUnquoted_of_isPlain rfl)
      have hjoin : ∀ s, Text.joinWith "." ((part :: next :: parts).map (wrap s))
          = s.wrap part ++ "." ++ Text.joinWith "." ((next :: parts).map (wrap s)) := fun _ => rfl
      rw [hjoin, hjoin, trace_append, trace_append, trace_wrap hpart, hdot, ih hparts,
        ← compared_append, ← compared_append]

theorem trace_wrapName {n : String} (hn : Text.IsUnquoted n) :
  q.trace (q.wrapName n) = q.compared (bare.wrapName n)
  := by
  apply trace_joinWith
  exact fun part hpart => Text.isUnquoted_of_mem_dottedParts hpart hn

/-- Texts that are put together are compared one by one. -/
theorem trace_join {α : Type} {items : List α} {f g : α → String}
    (h : ∀ x ∈ items, q.trace (f x) = q.compared (g x)) :
  q.trace (String.join (items.map f)) = q.compared (String.join (items.map g))
  := by
  induction items with
  | nil => exact trace_of_isUnquoted (by simp [Text.IsUnquoted])
  | cons x items ih =>
    obtain ⟨hx, hitems⟩ := List.forall_mem_cons.mp h
    rw [List.map_cons, List.map_cons, String.join_cons, String.join_cons, trace_append, hx,
      ih hitems, ← compared_append]

end Quoting

/-! ### Tokens without quotes -/

namespace Token

/-- A token in which the caller supplies no quotes.  The text of an ordering has to pass a guard
anyway. -/
def IsUnquoted : Token → Prop
  | text s | name s | function s | raw s _ => Text.IsUnquoted s
  | table schema n => (∀ s ∈ schema, Text.IsUnquoted s) ∧ Text.IsUnquoted n
  | order _ | bind _ | refuse _ => True

/-- An ordering that passes its guard has no quotes. -/
theorem isUnquoted_order {s : String} (h : Guard.checkOrderText s = .ok ()) :
  Text.IsUnquoted s
  := by
  unfold Guard.checkOrderText at h
  split at h
  · next hall =>
    exact Text.isUnquoted_of_all (Bool.and_eq_true_iff.mp hall).2 (by decide)
  · cases h

/-- A token that passes its guards has one text under all ways of quoting, its quotes and the
letter case of reserved words apart. -/
theorem trace_toText (q : Quoting) {t : Token} (ht : t.IsUnquoted)
    (hguards : ∀ g ∈ t.guards, g.verify = .ok ()) :
  q.trace (t.toText q) = q.compared (t.toText .bare)
  := by
  cases t with
  | text s => exact Quoting.trace_of_isUnquoted ht
  | name n => exact Quoting.trace_wrapName ht
  | table schema n =>
    obtain ⟨hschema, hn⟩ := ht
    cases schema with
    | none => simpa [toText] using Quoting.trace_wrapName hn
    | some s =>
      have hdot : q.trace "." = q.compared "." :=
        Quoting.trace_of_isUnquoted (Text.isUnquoted_of_isPlain rfl)
      simp only [toText, Option.elim_some]
      rw [Quoting.trace_append, Quoting.trace_append, Quoting.trace_wrapName (hschema s rfl), hdot,
        Quoting.trace_wrapName hn, ← Quoting.compared_append, ← Quoting.compared_append]
  | function n => exact Quoting.trace_of_isUnquoted ht
  | order s =>
    apply Quoting.trace_of_isUnquoted
    apply isUnquoted_order (hguards (.orderText s) List.mem_cons_self)
  | bind v => exact Quoting.trace_of_isUnquoted (by simp [toText, Text.IsUnquoted, Quoting.quotes])
  | raw sql params => exact Quoting.trace_of_isUnquoted ht
  | refuse e => exact Quoting.trace_of_isUnquoted (by simp [toText, Text.IsUnquoted])

/-- Tokens are without quotes by part. -/
theorem holdsByPart_isUnquoted (paging : PagingStrategy) :
  HoldsByPart ⟨paging, " AS "⟩ fun ts => ∀ t ∈ ts, t.IsUnquoted
  := by
  constructor
  case nil => simp
  case append => exact fun hts hus => List.forall_mem_append.mpr ⟨hts, hus⟩
  case word => simpa [IsUnquoted] using fun s => Text.isUnquoted_of_isPlain
  case separator => simpa [IsUnquoted] using Text.isUnquoted_of_isPlain rfl
  case operation =>
    intro op
    have hspace : Text.IsUnquoted " " := Text.isUnquoted_of_isPlain rfl
    have hop : Text.IsUnquoted op.word := by
      cases op <;> exact Text.isUnquoted_of_all (P := (· ∈ ['+', '-', '*', '/'])) rfl rfl
    simp [IsUnquoted, hspace, hop]
  case names =>
    intro ns hns
    simp only [List.forall_mem_singleton, IsUnquoted] at hns ⊢
    apply Text.isUnquoted_joinWith (Text.isUnquoted_of_isPlain rfl) hns
  case refusal => simp [IsUnquoted]

end Token

/-- A query in which the caller supplies no quotes: there are none in its names, its hints, its
endings and in other texts of the caller, in all queries inside of it. -/
def Query.IsUnquoted (q : Query) : Prop :=
  ∀ t ∈ q.supplied, t.IsUnquoted

/-! ### Statements -/

namespace Statement

variable (p p' : Quoting) (ts : List Token)

/-- What tokens bind, and the error they are refused with, does not depend on the quoting. -/
theorem params_ofTokens_quoting :
  (ofTokens p ts).map params = (ofTokens p' ts).map params
  := by
  unfold ofTokens
  cases Guard.verifyAll (ts.flatMap Token.guards) <;> rfl

variable {ts} in
/-- The texts of tokens without quotes under a quoting and without any. -/
theorem trace_ofTokens (hts : ∀ t ∈ ts, t.IsUnquoted) :
  (ofTokens p ts).map (fun s => p.trace s.sql)
    = (ofTokens .bare ts).map fun s => p.compared s.sql
  := by
  unfold ofTokens
  cases hverify : Guard.verifyAll (ts.flatMap Token.guards) with
  | error e => simp only [Except.map]
  | ok _ =>
    have hguards := (Guard.verifyAll_eq_ok_iff _).mp hverify
    apply congrArg Except.ok
    apply Quoting.trace_join
    intro t ht
    apply Token.trace_toText p (hts t ht)
    exact fun g hg => hguards g (List.mem_flatMap.mpr ⟨t, ht, hg⟩)

end Statement

/-- Dialects that differ in their quoting alone refuse the same queries with the same errors and
bind the same values.  If the caller supplies no quotes, then a statement without its quotes is
the statement of the dialect that does not quote; where reserved words are written in upper case,
it is so up to letter case. -/
theorem Dialect.select_common (paging : PagingStrategy) (p p' : Quoting) (name name' : String)
    (q : Query) :
  ((common name p paging).select q).map Statement.params
      = ((common name' p' paging).select q).map Statement.params
    ∧ (q.IsUnquoted →
      ((common name p paging).select q).map (fun s => p.compared (p.erase s.sql))
        = ((common name' .bare paging).select q).map fun s => p.compared s.sql)
  := by
  constructor
  · apply Statement.params_ofTokens_quoting
  · intro hq
    apply Statement.trace_ofTokens
    apply Query.holds_tokens (Token.holdsByPart_isUnquoted paging) (by simp [Scope.names])
    exact fun t ht => List.forall_mem_singleton.mpr (hq t ht)

/-- The levels of a table; both have the names of reserved words. -/
def levelsOfOrders : Query :=
  { Query.empty with
    columns := [⟨.named (some "order") "level", some "n"⟩]
    sources := [⟨.named (some "shop") "order", none⟩] }

/-- The quotes of reserved words, and their upper case, are all that a dialect for them adds. -/
theorem select_common_levelsOfOrders :
  levelsOfOrders.IsUnquoted
    ∧ ((Dialect.common "dm" .dmKeywords .limitPair).select levelsOfOrders).map
        (fun s => Quoting.dmKeywords.compared (Quoting.dmKeywords.erase s.sql))
      = .ok "select level as n from shop.order"
  := by
  have hlevels : levelsOfOrders.IsUnquoted := by
    have hsupplied : levelsOfOrders.supplied
      = [.name "order", .name "level", .name "n", .table (some "shop") "order",
          .name "order"] := rfl
    simp [Query.IsUnquoted, hsupplied, Token.IsUnquoted, Text.IsUnquoted, Quoting.quotes]
  have hbare : ((Dialect.common "db2" .bare .limitPair).select levelsOfOrders).map
      (fun s => Quoting.dmKeywords.compared s.sql)
    = .ok "select level as n from shop.order" := rfl
  constructor
  · exact hlevels
  · apply Eq.trans _ hbare
    exact (Dialect.select_common .limitPair .dmKeywords .bare "dm" "db2" levelsOfOrders).2 hlevels

end SqlRender
