import Mathlib.Data.List.TakeWhile
import Mathlib.Tactic.Use
import SqlRender.Number.Decimal
import SqlRender.Proofs.Numerals

/-!
# Texts of decimals

The text of a decimal is a sign, digits with a point among them and an exponent.  Reading it
back gives the same number, with the same scale wherever the text shows the scale: zero has a
single digit, and fifteen or fewer zeros in place of digits before the point are written out
and then belong to the digits.  `Decimal.reread` is what is read back, `Decimal.same_reread`
says that it is the same number, and `Decimal.ofText?_toText` that it is read.
-/

namespace SqlRender.Decimal

open Numeral

/-- The decimal that is read back from the text of a decimal. -/
def reread (x : Decimal) : Decimal :=
  if x.unscaled = 0 then ⟨0, 0⟩
  else if -15 ≤ x.scale ∧ x.scale < 0 then ⟨x.unscaled * tenTo (-x.scale).toNat, 0⟩
  else x

/-! ### Reading the parts of a text -/

/-- The sign before the digits of a number. -/
def signOf (n : Int) : List Char :=
  if n < 0 then ['-'] else []

theorem mem_signOf {n : Int} {c : Char} (h : c ∈ signOf n) :
  c = '-'
  := by
  unfold signOf at h
  split at h
  · exact List.mem_singleton.mp h
  · cases h

/-- The characters that have a meaning of their own in the text of a decimal. -/
def isMark (c : Char) : Bool :=
  c = '.' || c = '_' || c = 'e' || c = 'E'

theorem isMark_of_isDigit {c : Char} (h : c.isDigit = true) :
  isMark c = false
  := by
  cases hmark : isMark c with
  | false => rfl
  | true =>
    simp only [isMark, Bool.or_eq_true, decide_eq_true_eq] at hmark
    obtain ((rfl | rfl) | rfl) | rfl := hmark <;> simp at h

theorem unscaled?_of_takeSign {cs digits : List Char} {negative : Bool} {m : Nat}
    (hsign : takeSign cs = (negative, digits)) (h : natural? digits = some m) :
  unscaled? cs = some (if negative then -(m : Int) else m)
  := by
  have hnone : ∀ c ∈ digits, c ≠ '_' := by
    rintro c hc rfl
    simpa using isDigit_of_natural? h _ hc
  have hfilter : digits.filter (· ≠ '_') = digits := by
    apply List.filter_eq_self.mpr
    simpa using hnone
  simp only [unscaled?, hsign]
  split
  · exact absurd rfl (hnone '_' List.mem_cons_self)
  · rw [hfilter, h]
    rfl

theorem unscaled?_signOf {n : Int} {digits : List Char} (h : natural? digits = some n.natAbs) :
  unscaled? (signOf n ++ digits) = some n
  := by
  unfold signOf
  split
  · next hn =>
    have hsign : takeSign (['-'] ++ digits) = (true, digits) := rfl
    rw [unscaled?_of_takeSign hsign h, if_pos rfl]
    congr 1
    omega
  · next hn =>
    rw [List.nil_append, unscaled?_of_takeSign _ h, if_neg Bool.false_ne_true,
      Int.natAbs_of_nonneg (by omega)]
    have hsign := takeSign_of_natural? h []
    rwa [List.append_nil] at hsign

/-! ### Reading a text from its parts -/

theorem splitPoint_of_not_mem {cs : List Char} (h : '.' ∉ cs) :
  splitPoint cs = (cs, 0)
  := by
  have hcs : ∀ c ∈ cs, decide (c ≠ '.') = true := fun c hc => by
    simpa using ne_of_mem_of_not_mem hc h
  rw [splitPoint, List.takeWhile_eq_self_iff.mpr hcs, List.dropWhile_eq_nil_iff.mpr hcs]

theorem splitPoint_append {whole part : List Char} (hwhole : '.' ∉ whole) (hpart : '_' ∉ part) :
  splitPoint (whole ++ '.' :: part) = (whole ++ part, part.length)
  := by
  have hcs : ∀ c ∈ whole, decide (c ≠ '.') = true := fun c hc => by
    simpa using ne_of_mem_of_not_mem hc hwhole
  have hpoint : ∀ c ∈ ('.' :: part).head?, decide (c ≠ '.') = false := by simp
  have hfilter : part.filter (· ≠ '_') = part := by
    apply List.filter_eq_self.mpr
    intro c hc
    simpa using ne_of_mem_of_not_mem hc hpart
  rw [splitPoint, takeWhile_eq_front hcs hpoint, dropWhile_eq_rest hcs hpoint]
  simp only [hfilter]

theorem exponent?_cases {cs : List Char} {e : Int} (h : exponent? cs = some e) :
  (cs = [] ∧ e = 0) ∨ ∃ c rest, cs = c :: rest ∧ (c = 'e' ∨ c = 'E') ∧ integer? rest = some e
  := by
  cases cs with
  | nil =>
    left
    exact ⟨rfl, (Option.some.inj h).symm⟩
  | cons c rest =>
    right
    simp only [exponent?] at h
    split at h
    · next hc => exact ⟨c, rest, rfl, hc, h⟩
    · cases h

/-- A text is read from what stands before its exponent and from the exponent. -/
theorem ofText?_append {base suffix : List Char} {exponent : Int}
    (hbase : ∀ c ∈ base, c ≠ 'e' ∧ c ≠ 'E') (hsuffix : exponent? suffix = some exponent) :
  ofText? (String.ofList (base ++ suffix))
    = (unscaled? (splitPoint base).1).bind fun unscaled =>
        (int64? ((splitPoint base).2 - exponent)).map fun _ =>
          ⟨unscaled, (splitPoint base).2 - exponent⟩
  := by
  have hfront : ∀ c ∈ base, (!(decide (c = 'e') || decide (c = 'E'))) = true := by
    intro c hc
    simpa using hbase c hc
  have hmark : ∀ c ∈ suffix.head?, (!(decide (c = 'e') || decide (c = 'E'))) = false := by
    obtain ⟨rfl, -⟩ | ⟨c, rest, rfl, rfl | rfl, -⟩ := exponent?_cases hsuffix <;> simp
  rw [ofText?, String.toList_ofList]
  simp only [takeWhile_eq_front hfront hmark, dropWhile_eq_rest hfront hmark]
  obtain ⟨rfl, rfl⟩ | ⟨c, rest, rfl, hc, hexponent⟩ := exponent?_cases hsuffix
  · rfl
  · simp only [hexponent]
    rfl

theorem not_isMark_of_mem {n : Int} {digits : List Char} (h : ∀ c ∈ digits, c.isDigit = true) :
  ∀ c ∈ signOf n ++ digits, isMark c = false
  := by
  intro c hc
  obtain hc | hc := List.mem_append.mp hc
  · rw [mem_signOf hc]
    rfl
  · apply isMark_of_isDigit (h c hc)

theorem ne_mark_of_not_isMark {c : Char} (h : isMark c = false) :
  c ≠ '.' ∧ c ≠ '_' ∧ c ≠ 'e' ∧ c ≠ 'E'
  := by
  simpa [isMark, and_assoc] using h

section

variable {n exponent : Int} {suffix : List Char} (hsuffix : exponent? suffix = some exponent)

include hsuffix

/-- A text without a point writes a number whose scale is the negated exponent. -/
theorem ofText?_whole {digits : List Char} (h : natural? digits = some n.natAbs)
    (hscale : (int64? (-exponent)).isSome) :
  ofText? (String.ofList (signOf n ++ digits ++ suffix)) = some ⟨n, -exponent⟩
  := by
  have hmark := not_isMark_of_mem (n := n) (isDigit_of_natural? h)
  have hbase : ∀ c ∈ signOf n ++ digits, c ≠ 'e' ∧ c ≠ 'E' :=
    fun c hc => (ne_mark_of_not_isMark (hmark c hc)).2.2
  have hpoint : '.' ∉ signOf n ++ digits := fun hc => (ne_mark_of_not_isMark (hmark '.' hc)).1 rfl
  obtain ⟨m, hm⟩ := Option.isSome_iff_exists.mp hscale
  rw [ofText?_append hbase hsuffix, splitPoint_of_not_mem hpoint, unscaled?_signOf h]
  simp [hm]

/-- A text with a point writes a number whose scale is the count of the digits behind the point
without the exponent. -/
theorem ofText?_pointed {whole part : List Char} (h : natural? (whole ++ part) = some n.natAbs)
    (hscale : (int64? (part.length - exponent)).isSome) :
  ofText? (String.ofList (signOf n ++ whole ++ '.' :: part ++ suffix))
    = some ⟨n, part.length - exponent⟩
  := by
  have hdigit := isDigit_of_natural? h
  have hwhole := not_isMark_of_mem (n := n) fun c hc => hdigit c (List.mem_append_left part hc)
  have hpart : ∀ c ∈ part, isMark c = false := fun c hc =>
    isMark_of_isDigit (hdigit c (List.mem_append_right whole hc))
  have hbase : ∀ c ∈ signOf n ++ whole ++ '.' :: part, c ≠ 'e' ∧ c ≠ 'E' := by
    intro c hc
    obtain hc | hc := List.mem_append.mp hc
    · exact (ne_mark_of_not_isMark (hwhole c hc)).2.2
    · obtain rfl | hc := List.mem_cons.mp hc
      · decide
      · exact (ne_mark_of_not_isMark (hpart c hc)).2.2
  have hpoint : '.' ∉ signOf n ++ whole := fun hc => (ne_mark_of_not_isMark (hwhole '.' hc)).1 rfl
  have hscore : '_' ∉ part := fun hc => (ne_mark_of_not_isMark (hpart '_' hc)).2.1 rfl
  obtain ⟨m, hm⟩ := Option.isSome_iff_exists.mp hscale
  rw [ofText?_append hbase hsuffix, splitPoint_append hpoint hscore, List.append_assoc,
    unscaled?_signOf h]
  simp [hm]

end

/-! ### The text of a decimal -/

variable (x : Decimal)

/-- The digits of the number without its point. -/
def digits : List Char :=
  Nat.toDigits 10 x.unscaled.natAbs

theorem natural?_digits :
  natural? x.digits = some x.unscaled.natAbs
  := natural?_toDigits _

theorem length_digits :
  x.digits.length = x.size
  := rfl

theorem size_pos :
  0 < x.size
  := Nat.length_toDigits_pos

theorem toString_natAbs :
  toString x.unscaled.natAbs = String.ofList x.digits
  := Nat.toString_eq_ofList_toDigits

/-- A mark, a sign and digits write an exponent. -/
theorem exponent?_signed {c : Char} (hc : c = 'e' ∨ c = 'E') (e : Int) :
  exponent? (c :: (if 0 ≤ e then '+' else '-') :: Nat.toDigits 10 e.natAbs) = some e
  := by
  rw [exponent?, if_pos hc, integer?_signed]

variable {x}

/-- The text with an exponent in terms of characters. -/
theorem withExponent_eq :
  String.ofList (signOf x.unscaled) ++ x.withExponent (String.ofList x.digits)
    = String.ofList (signOf x.unscaled
        ++ (if x.size = 1 then x.digits else x.digits.take 1 ++ '.' :: x.digits.drop 1)
        ++ 'E' :: (if 0 ≤ x.lead - 1 then '+' else '-') :: Nat.toDigits 10 (x.lead - 1).natAbs)
  := by
  apply String.toList_inj.mp
  have hlength : (String.ofList x.digits).length = x.size := String.length_ofList
  simp only [withExponent, hlength, Nat.toString_eq_ofList_toDigits, String.toList_append,
    String.toList_ofList, List.append_assoc]
  split <;> split <;> simp [Shortest.pointAfter]

/-- The text without an exponent in terms of characters. -/
theorem positional_eq (hzero : x.unscaled ≠ 0) :
  (Shortest.Digits.mk x.unscaled.natAbs (-x.scale)).positional
    = String.ofList (
        if x.scale ≤ 0 then x.digits ++ List.replicate (-x.scale).toNat '0'
        else if x.scale < x.size then
          x.digits.take (x.size - x.scale).toNat ++ '.' :: x.digits.drop (x.size - x.scale).toNat
        else '0' :: '.' :: (List.replicate (x.scale - x.size).toNat '0' ++ x.digits))
  := by
  apply String.toList_inj.mp
  have hlength : (String.ofList x.digits).length = x.size := String.length_ofList
  have hwhole : 0 ≤ -x.scale ↔ x.scale ≤ 0 := by omega
  have hpoint : 0 < (x.size : Int) - x.scale ↔ x.scale < x.size := by omega
  have hcut : (x.size : Int) + -x.scale = x.size - x.scale := by omega
  have hzeros : -((x.size : Int) - x.scale) = x.scale - x.size := by omega
  simp only [Shortest.Digits.positional, toString_natAbs, hlength, hwhole, hpoint, hcut, hzeros,
    Int.natAbs_eq_zero, if_neg hzero]
  split
  · simp [Shortest.zeros]
  · split
    · simp [Shortest.pointAfter]
    · simp [Shortest.zeros]

/-! ### Zeros at the end of the digits -/

theorem tenTo_pos (k : Nat) :
  0 < tenTo k
  := Nat.pow_pos (by decide)

theorem signOf_mul_tenTo (n : Int) (k : Nat) :
  signOf (n * tenTo k) = signOf n
  := by
  have hpos : (0 : Int) < tenTo k := Int.natCast_pos.mpr (tenTo_pos k)
  unfold signOf
  split
  · next h =>
    rw [if_pos (Int.lt_of_mul_lt_mul_right (by simpa using h) (Int.le_of_lt hpos))]
  · next h =>
    rw [if_neg fun hn => h (Int.mul_neg_of_neg_of_pos hn hpos)]

theorem natural?_digits_append_zeros (x : Decimal) (k : Nat) :
  natural? (x.digits ++ List.replicate k '0') = some (x.unscaled * tenTo k).natAbs
  := by
  rw [natural?_append_zeros x.natural?_digits, Int.natAbs_mul, Int.natAbs_natCast]

theorem reread_of_nonpos (hzero : x.unscaled ≠ 0) (hlow : -15 ≤ x.scale) (hwhole : x.scale ≤ 0) :
  x.reread = ⟨x.unscaled * tenTo (-x.scale).toNat, 0⟩
  := by
  rw [reread, if_neg hzero]
  split
  · rfl
  · obtain ⟨unscaled, scale⟩ := x
    obtain rfl : scale = 0 := by
      simp only at *
      omega
    simp [tenTo]

section

variable (hscale : (int64? x.scale).isSome)

include hscale

theorem ofText?_withExponent :
  ofText? (String.ofList (signOf x.unscaled) ++ x.withExponent (String.ofList x.digits)) = some x
  := by
  have hexponent := exponent?_signed (Or.inr rfl) (x.lead - 1)
  have hsize := x.size_pos
  rw [withExponent_eq]
  split
  · next hone =>
    have hequal : -(x.lead - 1) = x.scale := by
      simp [lead]
      omega
    rw [ofText?_whole hexponent x.natural?_digits (by rwa [hequal]), hequal]
  · next hmore =>
    have hequal : ((x.digits.drop 1).length : Int) - (x.lead - 1) = x.scale := by
      rw [List.length_drop, length_digits]
      simp [lead]
      omega
    have hdigits : natural? (x.digits.take 1 ++ x.digits.drop 1) = some x.unscaled.natAbs := by
      rw [List.take_append_drop, natural?_digits]
    rw [← List.append_assoc, ofText?_pointed hexponent hdigits (by rwa [hequal]), hequal]

theorem ofText?_positional (hzero : x.unscaled ≠ 0) (hlow : -15 ≤ x.scale) :
  ofText? (String.ofList (signOf x.unscaled)
      ++ (Shortest.Digits.mk x.unscaled.natAbs (-x.scale)).positional)
    = some x.reread
  := by
  have hnone : exponent? [] = some 0 := rfl
  have hdigits := x.natural?_digits
  rw [positional_eq hzero, ← String.ofList_append]
  split
  · next hwhole =>
    have htext := ofText?_whole hnone (natural?_digits_append_zeros x (-x.scale).toNat) rfl
    rw [signOf_mul_tenTo, List.append_nil] at htext
    rw [htext, reread_of_nonpos hzero hlow hwhole]
    rfl
  · next hwhole =>
    have hreread : x.reread = x := by
      rw [reread, if_neg hzero, if_neg (by omega)]
    rw [hreread]
    split
    · next hpoint =>
      have hsplit : natural? (x.digits.take (x.size - x.scale).toNat
          ++ x.digits.drop (x.size - x.scale).toNat) = some x.unscaled.natAbs := by
        rw [List.take_append_drop, hdigits]
      have hequal : ((x.digits.drop (x.size - x.scale).toNat).length : Int) - 0 = x.scale := by
        rw [List.length_drop, length_digits]
        omega
      have htext := ofText?_pointed hnone hsplit (by rwa [hequal])
      rwa [List.append_nil, hequal, List.append_assoc] at htext
    · next hpoint =>
      have hzeros : natural? (['0'] ++ (List.replicate (x.scale - x.size).toNat '0' ++ x.digits))
          = some x.unscaled.natAbs :=
        natural?_zeros_append (natural?_zeros_append hdigits _) 1
      have hequal : ((List.replicate (x.scale - x.size).toNat '0' ++ x.digits).length : Int) - 0
          = x.scale := by
        rw [List.length_append, List.length_replicate, length_digits]
        omega
      have htext := ofText?_pointed hnone hzeros (by rwa [hequal])
      rwa [List.append_nil, hequal, List.append_assoc] at htext

/-- The number of a decimal is read back from its text. -/
theorem ofText?_toText :
  ofText? x.toText = some x.reread
  := by
  have hsize := x.size_pos
  have hsign : (if x.unscaled < 0 then "-" else "") = String.ofList (signOf x.unscaled) := by
    unfold signOf
    split <;> rfl
  simp only [toText, toString_natAbs, hsign]
  split
  · next hzero =>
    rw [reread, if_pos hzero]
    rfl
  · next hzero =>
    split
    · next hsmall =>
      rw [ofText?_withExponent hscale, reread, if_neg hzero, if_neg (by omega)]
    · split
      · next hlarge =>
        have hexponent := exponent?_signed (Or.inl rfl) (-x.scale)
        have htext := ofText?_whole hexponent x.natural?_digits (by rwa [Int.neg_neg])
        rw [if_pos (by omega), Int.neg_neg] at htext
        have hnumeral : (toString (-x.scale)).toList = Nat.toDigits 10 (-x.scale).natAbs := by
          obtain ⟨m, hm⟩ := Int.eq_ofNat_of_zero_le (show 0 ≤ -x.scale by omega)
          rw [hm]
          exact Nat.toList_repr
        rw [reread, if_neg hzero, if_neg (by omega), ← htext]
        congr 1
        apply String.toList_inj.mp
        simp only [String.toList_append, String.toList_ofList, hnumeral, List.append_assoc]
        rfl
      · next hlow =>
        apply ofText?_positional hscale hzero (by omega)

end

/-! ### The same number -/

theorem size_mul_tenTo (hzero : x.unscaled ≠ 0) (k : Nat) (scale : Int) :
  size ⟨x.unscaled * tenTo k, scale⟩ = x.size + k
  := by
  induction k with
  | zero => simp [size, tenTo]
  | succ k ih =>
    have hpos : 0 < x.unscaled.natAbs * tenTo k :=
      Nat.mul_pos (Int.natAbs_pos.mpr hzero) (tenTo_pos k)
    have hstep : x.unscaled.natAbs * tenTo (k + 1) = 10 * (x.unscaled.natAbs * tenTo k) + 0 := by
      rw [tenTo, Nat.pow_eq, Nat.pow_succ, tenTo, Nat.pow_eq]
      ac_rfl
    simp only [size, Int.natAbs_mul, Int.natAbs_natCast] at ih ⊢
    rw [hstep, ← Nat.toDigits_append_toDigits (by decide) hpos (by decide), List.length_append, ih]
    rfl

theorem compareMagnitude_eq {x y : Decimal} (hlead : x.lead = y.lead)
    (h : x.unscaled.natAbs * tenTo (max x.scale y.scale - x.scale).toNat
      = y.unscaled.natAbs * tenTo (max x.scale y.scale - y.scale).toNat) :
  x.compareMagnitude y = .eq
  := by
  simp [compareMagnitude, hlead, h]

theorem compare_eq {x y : Decimal} (hsign : x.unscaled.sign = y.unscaled.sign)
    (h : x.unscaled ≠ 0 → x.compareMagnitude y = .eq ∧ y.compareMagnitude x = .eq) :
  x.compare y = .eq
  := by
  simp only [compare, hsign, Std.compare_self]
  split
  · rfl
  · next hzero => split <;> simp [h hzero]

/-- Zeros in place of digits before the point may be written out. -/
theorem compare_mul_tenTo (hzero : x.unscaled ≠ 0) (hscale : x.scale < 0) :
  x.compare ⟨x.unscaled * tenTo (-x.scale).toNat, 0⟩ = .eq
  := by
  have hlead : x.lead = lead ⟨x.unscaled * tenTo (-x.scale).toNat, 0⟩ := by
    simp only [lead, size_mul_tenTo hzero]
    omega
  have hnumber : x.unscaled.natAbs * tenTo (-x.scale).toNat
      = (x.unscaled * tenTo (-x.scale).toNat).natAbs * tenTo (0 - 0 : Int).toNat := by
    rw [Int.natAbs_mul, Int.natAbs_natCast]
    exact (Nat.mul_one _).symm
  have hmax : max x.scale 0 = 0 := Int.max_eq_right (Int.le_of_lt hscale)
  have hmax' : max 0 x.scale = 0 := Int.max_eq_left (Int.le_of_lt hscale)
  apply compare_eq
  · rw [Int.sign_mul, Int.sign_eq_one_of_pos (Int.natCast_pos.mpr (tenTo_pos _)), Int.mul_one]
  · intro _
    constructor
    · apply compareMagnitude_eq hlead
      simpa only [hmax, Int.zero_sub] using hnumber
    · apply compareMagnitude_eq hlead.symm
      simpa only [hmax', Int.zero_sub] using hnumber.symm

/-- What is read back is the same number. -/
theorem same_reread (x : Decimal) :
  x.same x.reread = true
  := by
  have hcompare : x.compare x.reread = .eq := by
    unfold reread
    split
    · next hzero =>
      apply compare_eq
      · simp [hzero]
      · intro h
        exact absurd hzero h
    · next hzero =>
      split
      · next hscale => exact compare_mul_tenTo hzero hscale.2
      · apply compare_eq rfl
        intro _
        exact ⟨compareMagnitude_eq rfl rfl, compareMagnitude_eq rfl rfl⟩
  rw [same, hcompare]
  rfl

end SqlRender.Decimal
