import Mathlib.Tactic.Use
import SqlRender.Proofs.DecimalTexts

/-!
# The keys of decimals

Two decimals other than zero are the same number only if one of them is the other one with
further zeros behind its digits (`Decimal.same_cases`).  Such zeros are not counted in the key by
which a decimal is hashed, so the same numbers have the same key: `Decimal.digitKey_of_same`.
-/

namespace SqlRender

theorem Shortest.withoutZeros_mul_tenTo (fuel : Nat) {c : Nat} (hc : c ≠ 0) (k : Nat) (t : Int) :
  withoutZeros (fuel + k) (c * tenTo k) t = withoutZeros fuel c (t + k)
  := by
  induction k generalizing t with
  | zero => simp [tenTo]
  | succ k ih =>
    have hten : c * tenTo (k + 1) = c * tenTo k * 10 := by
      rw [tenTo, Nat.pow_eq, Nat.pow_succ, tenTo, Nat.pow_eq, Nat.mul_assoc]
    have hpos : 0 < c * tenTo k := Nat.mul_pos (Nat.pos_of_ne_zero hc) (Decimal.tenTo_pos k)
    rw [← Nat.add_assoc, withoutZeros, hten, if_pos ⟨by omega, Nat.mul_mod_left _ _⟩,
      Nat.mul_div_cancel _ (by decide), ih]
    congr 1
    omega

namespace Decimal

/-- The decimal with `k` further zeros behind its digits. -/
def withZeros (x : Decimal) (k : Nat) : Decimal :=
  ⟨x.unscaled * tenTo k, x.scale + k⟩

theorem digitKey_withZeros {x : Decimal} (hzero : x.unscaled ≠ 0) (k : Nat) :
  (x.withZeros k).digitKey = x.digitKey
  := by
  have hten : (tenTo k : Int) ≠ 0 := Int.natCast_ne_zero.mpr (Nat.ne_of_gt (tenTo_pos k))
  have hsize : (x.withZeros k).size = x.size + k := size_mul_tenTo hzero k _
  have hnatAbs : (x.withZeros k).unscaled.natAbs = x.unscaled.natAbs * tenTo k := by
    rw [withZeros, Int.natAbs_mul, Int.natAbs_natCast]
  have hsign : (x.withZeros k).unscaled.sign = x.unscaled.sign := by
    rw [withZeros, Int.sign_mul, Int.sign_eq_one_of_pos (Int.natCast_pos.mpr (tenTo_pos k)),
      Int.mul_one]
  have hscale : -(x.withZeros k).scale + k = -x.scale := by
    simp only [withZeros]
    omega
  have hunscaled : (x.withZeros k).unscaled ≠ 0 := Int.mul_ne_zero hzero hten
  rw [digitKey, digitKey, if_neg hunscaled, if_neg hzero, hsize, hnatAbs, hsign,
    Shortest.withoutZeros_mul_tenTo _ (Int.natAbs_ne_zero.mpr hzero), hscale]

/-! ### The same number -/

variable {x y : Decimal}

theorem eq_withZeros (hsign : x.unscaled.sign = y.unscaled.sign) (hscale : x.scale ≤ y.scale)
    (h : x.unscaled.natAbs * tenTo (max x.scale y.scale - x.scale).toNat
      = y.unscaled.natAbs * tenTo (max x.scale y.scale - y.scale).toNat) :
  y = x.withZeros (y.scale - x.scale).toNat
  := by
  rw [Int.max_eq_right hscale, Int.sub_self] at h
  have hnatAbs : (y.unscaled.natAbs : Int)
      = x.unscaled.natAbs * tenTo (y.scale - x.scale).toNat := by
    rw [← Int.natCast_mul, h]
    exact congrArg _ (Nat.mul_one _).symm
  have hunscaled : y.unscaled = x.unscaled * tenTo (y.scale - x.scale).toNat := by
    rw [← Int.sign_mul_natAbs y.unscaled, hnatAbs, ← hsign, ← Int.mul_assoc, Int.sign_mul_natAbs]
  have hplaces : y.scale = x.scale + (y.scale - x.scale).toNat := by
    omega
  rw [withZeros, ← hunscaled, ← hplaces]

/-- Magnitudes that are equal differ in zeros behind their digits. -/
theorem withZeros_of_compareMagnitude (hsign : x.unscaled.sign = y.unscaled.sign)
    (h : x.compareMagnitude y = .eq) :
  (∃ k, y = x.withZeros k) ∨ ∃ k, x = y.withZeros k
  := by
  rw [compareMagnitude] at h
  split at h
  · have hnumber := Nat.compare_eq_eq.mp h
    obtain hscale | hscale := Int.le_total x.scale y.scale
    · exact .inl ⟨_, eq_withZeros hsign hscale hnumber⟩
    · rw [Int.max_comm] at hnumber
      exact .inr ⟨_, eq_withZeros hsign.symm hscale hnumber.symm⟩
  · next hlead => cases hlead h

theorem same_cases (h : x.same y = true) :
  (x.unscaled = 0 ∧ y.unscaled = 0)
    ∨ x.unscaled ≠ 0 ∧ y.unscaled ≠ 0 ∧ ((∃ k, y = x.withZeros k) ∨ ∃ k, x = y.withZeros k)
  := by
  rw [same, beq_iff_eq, compare] at h
  split at h
  · next hcompare =>
    have hsign : x.unscaled.sign = y.unscaled.sign := Std.compare_eq_iff_eq.mp hcompare
    by_cases hzero : x.unscaled = 0
    · left
      rw [hzero, Int.sign_zero] at hsign
      exact ⟨hzero, Int.sign_eq_zero_iff_zero.mp hsign.symm⟩
    · right
      rw [if_neg hzero] at h
      have hy : y.unscaled ≠ 0 := by
        intro hy
        rw [hy, Int.sign_zero, Int.sign_eq_zero_iff_zero] at hsign
        exact hzero hsign
      refine ⟨hzero, hy, ?_⟩
      split at h
      · apply withZeros_of_compareMagnitude hsign h
      · exact (withZeros_of_compareMagnitude hsign.symm h).symm
  · next hsign => cases hsign h

theorem same_self (x : Decimal) :
  x.same x = true
  := by
  rw [same, beq_iff_eq]
  apply compare_eq rfl
  intro _
  exact ⟨compareMagnitude_eq rfl rfl, compareMagnitude_eq rfl rfl⟩

/-- Decimals that are the same number are hashed by the same digits. -/
theorem digitKey_of_same (h : x.same y = true) :
  x.digitKey = y.digitKey
  := by
  obtain ⟨hx, hy⟩ | ⟨hx, hy, ⟨k, hk⟩ | ⟨k, hk⟩⟩ := same_cases h
  · rw [digitKey, digitKey, if_pos hx, if_pos hy]
  · rw [hk, digitKey_withZeros hx]
  · rw [hk, digitKey_withZeros hy]

end Decimal

end SqlRender
