import Mathlib
import SqlRender.Number.Shortest

/-!
# Equality of floats

Two floats are equal as numbers if they are one and the same number, or if they are the two
zeros, which differ in their sign: `Binary64.beq_iff`.  What the comparison sees of a float is its
contents, taken apart from its bits, and they determine the bits, since only one word stands for
no number (`Binary64.pack_unpack`).
-/

namespace SqlRender.Binary64

open Float.Model (UnpackedFloat Format)
open Float.Model.UnpackedFloat

/-! ### The contents of a word -/

theorem toBitVec_ofBitVec (s : BitVec 1) :
  (Sign.ofBitVec s).toBitVec = s
  := by
  obtain rfl | rfl := BitVec.eq_zero_or_eq_one s <;> rfl

/-- A word is made of its sign, its exponent and its mantissa. -/
theorem packComponents_unpack {b : BitVec Format.binary64.numBits}
    {e : BitVec 11} {m : BitVec 52} (he : unpackExponent b = e) (hm : unpackMantissa b = m) :
  packComponents .binary64 (Sign.ofBitVec (unpackSign b)) e m = b
  := by
  have hb : b.toNat < 2 ^ 64 := b.isLt
  rw [packComponents, toBitVec_ofBitVec, ← he, ← hm]
  apply BitVec.eq_of_toNat_eq
  rw [BitVec.toNat_append, ← Nat.shiftLeft_add_eq_or_of_lt (BitVec.isLt _), BitVec.toNat_append,
    ← Nat.shiftLeft_add_eq_or_of_lt (BitVec.isLt _)]
  simp only [unpackSign, unpackExponent, unpackMantissa, BitVec.toNat_cast, BitVec.extractLsb_toNat,
    Nat.shiftRight_eq_div_pow, Nat.shiftLeft_eq]
  omega

/-- A number that is too small to have all binary digits is packed with the exponent zero. -/
theorem pack_subnormal (s : Sign) (m : BitVec 52) {e : Int} (he : e = -1074) (h : 0 < m.toNat) :
  pack .binary64 (.finite s m.toNat e h) = packComponents .binary64 s 0#11 m
  := by
  have hlog : m.toNat.log2 + 1 ≠ Format.binary64.mantissaBits := by
    have hlt : m.toNat.log2 < 52 := (Nat.log2_lt (Nat.ne_of_gt h)).mpr m.isLt
    simp [Format.mantissaBits]
    omega
  rw [pack, he]
  simp only
  rw [if_neg (by decide), if_neg hlog, BitVec.ofNat_toNat, BitVec.setWidth_eq]

/-- The mantissa has a first digit that is not in the word. -/
theorem toNat_implicit (m : BitVec 52) :
  (1#1 ++ m).toNat = 2 ^ 52 + m.toNat
  := by
  rw [BitVec.toNat_append, ← Nat.shiftLeft_add_eq_or_of_lt m.isLt]
  rfl

theorem pack_normal (s : Sign) {e : BitVec 11} (he : e ≠ -1#11) (m : BitVec 52)
    (h : 0 < (1#1 ++ m).toNat) :
  pack .binary64 (.finite s (1#1 ++ m).toNat (e.toNat - 1075) h) = packComponents .binary64 s e m
  := by
  have he' : e.toNat ≠ 2047 := fun h => he (BitVec.eq_of_toNat_eq h)
  have hm := m.isLt
  have hlog : (1#1 ++ m).toNat.log2 = 52 := by
    rw [Nat.log2_eq_iff (Nat.ne_of_gt h), toNat_implicit]
    omega
  have hexponent : ((e.toNat : Int) - 1075 + Format.binary64.exponentBias
      + Format.binary64.mantissaBitsWithoutImplicit).toNat = e.toNat := by
    simp [Format.exponentBias]
    omega
  have hmantissa : BitVec.ofNat 52 (1#1 ++ m).toNat = m := by
    apply BitVec.eq_of_toNat_eq
    rw [BitVec.toNat_ofNat, toNat_implicit]
    omega
  rw [pack]
  simp only [hexponent, hlog, hmantissa]
  rw [if_neg (by simp; omega), if_pos (by decide), BitVec.ofNat_toNat, BitVec.setWidth_eq]

/-- The contents of a float, packed again, are the float. -/
theorem pack_unpack (x : Float.Model) :
  Float.Model.pack x.unpack = x
  := by
  obtain ⟨bits, hvalid⟩ := x
  suffices h : pack .binary64 (unpack .binary64 bits.toBitVec) = bits.toBitVec by
    simp only [Float.Model.pack, Float.Model.unpack, h]
  -- in each branch the exponent and the mantissa are known from the tests that led to it
  rw [unpack]
  simp only
  split
  · next hlast =>
    split
    · next hzero => apply packComponents_unpack hlast hzero
    · next hnone => exact (hvalid.eq_packedNaN hlast hnone).symm
  · next hlast =>
    split
    · next hfirst =>
      split
      · next hzero => apply packComponents_unpack hfirst hzero
      · next hmantissa =>
        apply (pack_subnormal _ _ (by rw [hfirst]; rfl) _).trans
        exact packComponents_unpack hfirst rfl
    · next hfirst =>
      apply (pack_normal _ hlast _ _).trans
      exact packComponents_unpack rfl rfl

theorem unpack_injective {x y : Float.Model} (h : x.unpack = y.unpack) :
  x = y
  := by
  rw [← pack_unpack x, h, pack_unpack]

/-! ### Comparing contents -/

/-- Floats with different contents are equal only if they are the two zeros. -/
theorem compare_eq_some_eq_iff {u v : UnpackedFloat} :
  u.compare v = some .eq ↔ (u = v ∧ u.isNaN = false) ∨ ∃ s, u = .zero s ∧ v = .zero (-s)
  := by
  cases u with
  | infinity s =>
    cases v with
    | infinity t => cases s <;> cases t <;> simp [UnpackedFloat.compare, isNaN, Ord.compare]
    | notANumber | zero | finite => cases s <;> simp [UnpackedFloat.compare]
  | notANumber => simp [UnpackedFloat.compare, isNaN]
  | zero s =>
    cases v with
    | zero t => cases s <;> cases t <;> simp [UnpackedFloat.compare, isNaN, Neg.neg]
    | notANumber => simp [UnpackedFloat.compare]
    | infinity t | finite t => cases t <;> simp [UnpackedFloat.compare]
  | finite s =>
    cases v with
    | finite t => cases s <;> cases t <;> simp [UnpackedFloat.compare, isNaN, and_comm]
    | notANumber => simp [UnpackedFloat.compare]
    | infinity t => cases t <;> simp [UnpackedFloat.compare]
    | zero => cases s <;> simp [UnpackedFloat.compare]

/-! ### The two zeros -/

/-- The bits of the zero of a sign. -/
def zeroBits : Sign → UInt64
  | .positive => 0
  | .negative => 0x8000000000000000

theorem unpack_eq_zero_iff {x : Float.Model} {s : Sign} :
  x.unpack = .zero s ↔ x.toBits = zeroBits s
  := by
  constructor
  · intro h
    rw [← pack_unpack x, h]
    cases s <;> rfl
  · intro h
    rw [Float.Model.unpack, h]
    cases s <;> rfl

/-- One of two floats is the positive zero, and the other one is the negative zero. -/
def OppositeZeros (x y : Float) : Prop :=
  (x.toBits = 0 ∧ y.toBits = 0x8000000000000000) ∨ (x.toBits = 0x8000000000000000 ∧ y.toBits = 0)

instance (x y : Float) : Decidable (OppositeZeros x y) :=
  inferInstanceAs (Decidable (_ ∨ _))

/-- Two floats are equal if they are one and the same number or the two zeros. -/
theorem beq_iff {x y : Float} :
  (x == y) = true ↔ (x = y ∧ x.isNaN = false) ∨ OppositeZeros x y
  := by
  obtain ⟨x⟩ := x
  obtain ⟨y⟩ := y
  have hbeq : (Float.ofModel x == Float.ofModel y) = (x.unpack.compare y.unpack == some .eq) := rfl
  have hnan : (Float.ofModel x).isNaN = x.unpack.isNaN := rfl
  rw [hbeq, beq_iff_eq, compare_eq_some_eq_iff, hnan]
  constructor
  · rintro (⟨h, hx⟩ | ⟨s, hx, hy⟩)
    · exact .inl ⟨congrArg _ (unpack_injective h), hx⟩
    · rw [unpack_eq_zero_iff] at hx hy
      cases s with
      | positive => exact .inr (.inl ⟨hx, hy⟩)
      | negative => exact .inr (.inr ⟨hx, hy⟩)
  · rintro (⟨⟨⟩, hx⟩ | ⟨hx, hy⟩ | ⟨hx, hy⟩)
    · exact .inl ⟨rfl, hx⟩
    · exact .inr ⟨.positive, unpack_eq_zero_iff.mpr hx, unpack_eq_zero_iff.mpr hy⟩
    · exact .inr ⟨.negative, unpack_eq_zero_iff.mpr hx, unpack_eq_zero_iff.mpr hy⟩

/-- Just what is no number is not equal to itself. -/
theorem beq_self_iff {x : Float} :
  (x == x) = true ↔ x.isNaN = false
  := by
  rw [beq_iff]
  constructor
  · rintro (⟨-, h⟩ | ⟨h, h'⟩ | ⟨h, h'⟩)
    · exact h
    · rw [h] at h'
      cases h'
    · rw [h] at h'
      cases h'
  · intro h
    exact .inl ⟨rfl, h⟩

/-- The text of the zero of a sign. -/
def zeroText : Sign → String
  | .positive => "0.0"
  | .negative => "-0.0"

theorem scientific_of_zeroBits {x : Float} {s : Sign} (h : x.toBits = zeroBits s) :
  Shortest.scientific x = zeroText s
  := by
  rw [Shortest.scientific, Shortest.sign, h]
  cases s <;> decide

theorem isFinite_zeroBits (s : Sign) :
  isFinite (zeroBits s) = true
  := by
  cases s <;> rfl

end SqlRender.Binary64
