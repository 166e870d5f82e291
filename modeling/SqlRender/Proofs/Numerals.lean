import Mathlib.Tactic.Use
import SqlRender.Number.Numeral
import SqlRender.Text.Blank

/-!
# Written numbers

A list of digits writes a number if `Numeral.natural?` reads the number from it.  Decimal
digits write their number, zeros in front do not change what is written, and zeros at the end
multiply it.  Digits are neither signs nor blanks, so a reader that looks for these finds none
among them, and it stops at the first character behind them: `Numeral.takeWhile_append`.
-/

namespace SqlRender.Numeral

variable {cs : List Char} {n : Nat}

theorem natural?_eq_some_iff :
  natural? cs = some n ↔ cs ≠ [] ∧ (∀ c ∈ cs, c.isDigit = true) ∧ digitsValue cs = n
  := by
  simp [natural?, and_assoc]

theorem ne_nil_of_natural? (h : natural? cs = some n) :
  cs ≠ []
  := (natural?_eq_some_iff.mp h).1

theorem isDigit_of_natural? (h : natural? cs = some n) :
  ∀ c ∈ cs, c.isDigit = true
  := (natural?_eq_some_iff.mp h).2.1

/-- A number is written by a first digit and further digits. -/
theorem exists_cons_of_natural? (h : natural? cs = some n) :
  ∃ d ds, cs = d :: ds ∧ d.isDigit = true
  := by
  obtain ⟨d, ds, rfl⟩ := List.exists_cons_of_ne_nil (ne_nil_of_natural? h)
  use d, ds
  constructor
  · rfl
  · apply isDigit_of_natural? h d List.mem_cons_self

theorem digitsValue_append (cs ds : List Char) :
  digitsValue (cs ++ ds) = tenTo ds.length * digitsValue cs + digitsValue ds
  := by
  have happend : digitsValue (cs ++ ds) = Nat.ofDigitChars 10 ds (digitsValue cs) :=
    Nat.ofDigitChars_append 0
  rw [happend, Nat.ofDigitChars_eq_ofDigitChars_zero]
  rfl

theorem digitsValue_zeros (k : Nat) :
  digitsValue (List.replicate k '0') = 0
  := Nat.ofDigitChars_replicate_zero

/-! ### Numbers and their digits -/

theorem natural?_toDigits (n : Nat) :
  natural? (Nat.toDigits 10 n) = some n
  := by
  apply natural?_eq_some_iff.mpr
  refine ⟨Nat.toDigits_ne_nil, ?_, Nat.ofDigitChars_ten_toDigits⟩
  intro c hc
  apply Nat.isDigit_of_mem_toDigits (by decide) (by decide) hc

theorem natural?_zeros_append (h : natural? cs = some n) (k : Nat) :
  natural? (List.replicate k '0' ++ cs) = some n
  := by
  obtain ⟨hne, hdigit, hvalue⟩ := natural?_eq_some_iff.mp h
  apply natural?_eq_some_iff.mpr
  refine ⟨List.append_ne_nil_of_right_ne_nil _ hne, ?_, ?_⟩
  · intro c hc
    obtain hc | hc := List.mem_append.mp hc
    · rw [List.eq_of_mem_replicate hc]
      rfl
    · apply hdigit c hc
  · rw [digitsValue_append, digitsValue_zeros, Nat.mul_zero, Nat.zero_add, hvalue]

theorem natural?_append_zeros (h : natural? cs = some n) (k : Nat) :
  natural? (cs ++ List.replicate k '0') = some (n * tenTo k)
  := by
  obtain ⟨hne, hdigit, hvalue⟩ := natural?_eq_some_iff.mp h
  apply natural?_eq_some_iff.mpr
  refine ⟨List.append_ne_nil_of_left_ne_nil hne _, ?_, ?_⟩
  · intro c hc
    obtain hc | hc := List.mem_append.mp hc
    · apply hdigit c hc
    · rw [List.eq_of_mem_replicate hc]
      rfl
  · rw [digitsValue_append, digitsValue_zeros, hvalue, List.length_replicate, Nat.add_zero,
      Nat.mul_comm]

/-! ### Digits in front of a text -/

section

variable {p : Char → Bool} {front rest : List Char} (hfront : ∀ c ∈ front, p c = true)
  (hrest : ∀ c ∈ rest.head?, p c = false)

include hfront hrest

/-- What stands before the first character without a property. -/
theorem takeWhile_eq_front :
  (front ++ rest).takeWhile p = front
  := by
  rw [List.takeWhile_append_of_pos hfront]
  cases rest with
  | nil => rw [List.takeWhile_nil, List.append_nil]
  | cons c rest =>
    rw [List.takeWhile_cons_of_neg (by simp [hrest c rfl]), List.append_nil]

/-- What begins with the first character without a property. -/
theorem dropWhile_eq_rest :
  (front ++ rest).dropWhile p = rest
  := by
  rw [List.dropWhile_append_of_pos hfront]
  cases rest with
  | nil => rfl
  | cons c rest => rw [List.dropWhile_cons_of_neg (by simp [hrest c rfl])]

end

/-- No digit goes on where the text begins. -/
def StopsDigits (rest : List Char) : Prop :=
  ∀ c ∈ rest.head?, c.isDigit = false

theorem stopsDigits_nil :
  StopsDigits []
  := by
  simp [StopsDigits]

theorem stopsDigits_cons {c : Char} {rest : List Char} :
  StopsDigits (c :: rest) ↔ c.isDigit = false
  := by
  simp [StopsDigits]

theorem takeWhile_append (h : natural? cs = some n) {rest : List Char} (hrest : StopsDigits rest) :
  (cs ++ rest).takeWhile Char.isDigit = cs
  := takeWhile_eq_front (isDigit_of_natural? h) hrest

theorem takeWhile_of_natural? (h : natural? cs = some n) :
  cs.takeWhile Char.isDigit = cs
  := by
  have htake := takeWhile_append h stopsDigits_nil
  rwa [List.append_nil] at htake

theorem isBlank_of_isDigit {c : Char} (h : c.isDigit = true) :
  Text.isBlank c = false
  := by
  have hbounds : 48 ≤ c.toNat ∧ c.toNat ≤ 57 := by
    simpa [Char.isDigit, UInt32.le_iff_toNat_le] using h
  simp only [Text.isBlank, Bool.or_eq_false_iff, Bool.and_eq_false_iff, decide_eq_false_iff_not,
    beq_eq_false_iff_ne]
  omega

theorem skipBlanks_append (h : natural? cs = some n) (rest : List Char) :
  Text.skipBlanks (cs ++ rest) = cs ++ rest
  := by
  obtain ⟨d, ds, rfl, hd⟩ := exists_cons_of_natural? h
  apply List.dropWhile_cons_of_neg
  simp [isBlank_of_isDigit hd]

/-! ### Signs -/

theorem takeSign_of_natural? (h : natural? cs = some n) (rest : List Char) :
  takeSign (cs ++ rest) = (false, cs ++ rest)
  := by
  obtain ⟨d, ds, rfl, hd⟩ := exists_cons_of_natural? h
  unfold takeSign
  split
  · next heq =>
    obtain ⟨rfl, -⟩ := List.cons_eq_cons.mp heq
    simp at hd
  · next heq =>
    obtain ⟨rfl, -⟩ := List.cons_eq_cons.mp heq
    simp at hd
  · rfl

/-- An integer is written by its sign and the digits of its magnitude. -/
theorem integer?_signed (e : Int) :
  integer? ((if 0 ≤ e then '+' else '-') :: Nat.toDigits 10 e.natAbs) = some e
  := by
  split
  · next h =>
    simpa [integer?, takeSign, natural?_toDigits] using Int.natAbs_of_nonneg h
  · next h =>
    have habs : -(e.natAbs : Int) = e := by omega
    simpa [integer?, takeSign, natural?_toDigits] using habs

end SqlRender.Numeral
