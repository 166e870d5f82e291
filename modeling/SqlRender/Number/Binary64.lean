import SqlRender.Number.Power

/-!
# Binary floating point numbers as exact fractions

A finite 64-bit float is a sign and a magnitude `mantissa · 2 ^ exponent`.  `magnitude`
takes the magnitude from the bits of a float; `nearest` goes back: it gives the bits of
the float nearest to a fraction of two natural numbers, of two equally near ones the one
with an even mantissa.
-/

namespace SqlRender.Binary64

/-- The number `mantissa · 2 ^ exponent`. -/
structure Magnitude where
  mantissa : Nat
  exponent : Int
  deriving DecidableEq

/-- The biased exponent held in the bits of a float. -/
def biasedExponent (bits : UInt64) : Nat :=
  (bits.toNat / twoTo 52) % twoTo 11

/-- The fraction field held in the bits of a float. -/
def fraction (bits : UInt64) : Nat :=
  bits.toNat % twoTo 52

/-- Whether the sign bit is set. -/
def isNegative (bits : UInt64) : Bool :=
  bits.toNat / twoTo 63 == 1

/-- Whether the bits stand for a number, and not for an infinity or for no number. -/
def isFinite (bits : UInt64) : Bool :=
  biasedExponent bits != 2047

/-- Whether the bits stand for a number other than zero that is too small to have all 53
binary digits. -/
def isSubnormal (bits : UInt64) : Bool :=
  biasedExponent bits == 0 && fraction bits != 0

/-- The magnitude of a finite float. -/
def magnitude (bits : UInt64) : Magnitude :=
  if biasedExponent bits = 0 then ⟨fraction bits, -1074⟩
  else ⟨fraction bits + twoTo 52, (biasedExponent bits : Int) - 1075⟩

/-- `m · 2 ^ e` as a numerator and a denominator. -/
def Magnitude.asFraction (x : Magnitude) : Nat × Nat :=
  if 0 ≤ x.exponent then (x.mantissa * twoTo x.exponent.toNat, 1)
  else (x.mantissa, twoTo (-x.exponent).toNat)

/-- The whole number nearest to `n / d`, of two equally near ones the even one. -/
def divideToEven (n d : Nat) : Nat :=
  let q := n / d
  let r := n % d
  if d < 2 * r || (2 * r == d && q % 2 == 1) then q + 1 else q

/-- The quotient of `n` by `d · 2 ^ e`, again as a numerator and a denominator. -/
def scaledBack (n d : Nat) (e : Int) : Nat × Nat :=
  if 0 ≤ e then (n, d * twoTo e.toNat) else (n * twoTo (-e).toNat, d)

/-- The exponent under which `n / d` has a mantissa of 53 binary digits, or the least
exponent of all. -/
def exponentOf (n d : Nat) : Int :=
  let low : Int := (n.log2 : Int) - d.log2 - 53
  let (a, b) := scaledBack n d low
  max (if twoTo 53 ≤ a / b then low + 1 else low) (-1074)

/-- The bits of the positive infinity. -/
def infinityBits : Nat :=
  2047 * twoTo 52

/-- The bits of the float nearest to `n / d`, for a positive `d`. -/
def nearest (n d : Nat) : UInt64 :=
  if n = 0 then 0
  else
    let e := exponentOf n d
    let (a, b) := scaledBack n d e
    let m := divideToEven a b
    let bits := if m < twoTo 52 then m else (e + 1075).toNat * twoTo 52 + (m - twoTo 52)
    UInt64.ofNat (min bits infinityBits)

/-- The float with the given sign that is nearest to `n / d`. -/
def toFloat (negative : Bool) (n d : Nat) : Float :=
  let x := Float.ofBits (nearest n d)
  if negative then -x else x

end SqlRender.Binary64
