import SqlRender.Number.Binary64
import SqlRender.Number.Numeral
import SqlRender.Number.Shortest

/-!
# Exact decimals

A decimal is a whole number and a scale, the count of its digits behind the point;
a negative scale stands for zeros before the point.  Two decimals of different scales
may be equal as numbers, so `compare` looks at the number alone, while the text keeps the
scale.
-/

namespace SqlRender

/-- The number `unscaled · 10 ^ -scale`. -/
structure Decimal where
  unscaled : Int
  scale : Int
  deriving DecidableEq

namespace Decimal

/-- The whole number `n`. -/
def ofInt (n : Int) : Decimal :=
  ⟨n, 0⟩

/-- The number of decimal digits of the unscaled number, at least one. -/
def size (x : Decimal) : Nat :=
  (Nat.toDigits 10 x.unscaled.natAbs).length

/-! ### Order and equality as numbers -/

/-- The exponent of the first digit. -/
def lead (x : Decimal) : Int :=
  x.size - x.scale

/-- The order of the magnitudes of two decimals other than zero.  Where the first digits
stand at one place the scales differ by no more than the sizes. -/
def compareMagnitude (x y : Decimal) : Ordering :=
  match compare x.lead y.lead with
  | .eq =>
    let scale := max x.scale y.scale
    compare (x.unscaled.natAbs * tenTo (scale - x.scale).toNat)
      (y.unscaled.natAbs * tenTo (scale - y.scale).toNat)
  | order => order

/-- The order of two decimals as numbers. -/
def compare (x y : Decimal) : Ordering :=
  match Ord.compare x.unscaled.sign y.unscaled.sign with
  | .eq =>
    if x.unscaled = 0 then .eq
    else if 0 < x.unscaled then compareMagnitude x y
    else compareMagnitude y x
  | order => order

/-- Whether two decimals are equal as numbers. -/
def same (x y : Decimal) : Bool :=
  x.compare y == .eq

/-- The whole number whose digits are those of the decimal without its point and without
the zeros at the end behind the point, as a number without zeros at its end and the count
of these zeros.  Equal decimals have equal digits, but so have 1.5 and 15. -/
def digitKey (x : Decimal) : Int × Nat :=
  if x.unscaled = 0 then (0, 0)
  else
    let d := Shortest.withoutZeros x.size x.unscaled.natAbs (-x.scale)
    (x.unscaled.sign * d.digits, d.exponent.toNat)

/-! ### Text -/

/-- The digits, a point behind the first of them, and the exponent of the first. -/
def withExponent (x : Decimal) (digits : String) : String :=
  let exponent := x.lead - 1
  let mantissa := if digits.length = 1 then digits else Shortest.pointAfter 1 digits
  mantissa ++ "E" ++ (if 0 ≤ exponent then "+" else "-") ++ toString exponent.natAbs

/-- The text of a decimal.  Zero is a single digit; a number with more than five zeros
right behind the point is written with its exponent, and so is a number with more than
fifteen zeros in place of digits before it; every other number is written in full. -/
def toText (x : Decimal) : String :=
  let digits := toString x.unscaled.natAbs
  let sign := if x.unscaled < 0 then "-" else ""
  if x.unscaled = 0 then "0"
  else if 5 < x.scale - x.size then sign ++ x.withExponent digits
  else if x.scale < -15 then sign ++ digits ++ "e+" ++ toString (-x.scale)
  else sign ++ (Shortest.Digits.mk x.unscaled.natAbs (-x.scale)).positional

/-! ### Reading -/

/-- The integer written by an optional minus sign, an optional plus sign if there was no
minus sign, and digits.  Underscores may stand behind the first digit. -/
def unscaled? (cs : List Char) : Option Int :=
  let (negative, digits) := Numeral.takeSign cs
  match digits with
  | '_' :: _ => none
  | _ => (Numeral.natural? (digits.filter (· ≠ '_'))).map fun n => if negative then -(n : Int) else n

/-- The part before the exponent, split at its point: the digits on both sides and the
number of digits behind the point. -/
def splitPoint (cs : List Char) : List Char × Nat :=
  let whole := cs.takeWhile (· ≠ '.')
  match cs.dropWhile (· ≠ '.') with
  | [] => (whole, 0)
  | _ :: part => (whole ++ part, (part.filter (· ≠ '_')).length)

/-- The decimal that a text writes: digits with an optional sign and point, and an
optional exponent behind `e` or `E`.  The scale has to fit into 64 bits. -/
def ofText? (s : String) : Option Decimal :=
  let isMark := fun c : Char => c = 'e' || c = 'E'
  let base := s.toList.takeWhile fun c => !isMark c
  let exponent? :=
    match s.toList.dropWhile fun c => !isMark c with
    | [] => some 0
    | _ :: cs => Numeral.integer? cs
  let (digits, places) := splitPoint base
  exponent?.bind fun exponent =>
    (unscaled? digits).bind fun unscaled =>
      let scale : Int := places - exponent
      (Numeral.int64? scale).map fun _ => ⟨unscaled, scale⟩

/-- The count of digits behind the point that a finite float is given: as few as its value
allows, but all 1074 that the least float of all needs for a subnormal one. -/
def placesOf (bits : UInt64) : Nat :=
  if Binary64.isSubnormal bits then 1074
  else
    let (n, d) := (Binary64.magnitude bits).asFraction
    (d / Nat.gcd n d).log2

/-- The exact value of a finite float. -/
def ofFloat? (x : Float) : Option Decimal :=
  if Binary64.isFinite x.toBits then
    let (n, d) := (Binary64.magnitude x.toBits).asFraction
    let places := placesOf x.toBits
    let unscaled : Int := n * tenTo places / d
    some ⟨if Binary64.isNegative x.toBits then -unscaled else unscaled, places⟩
  else none

end Decimal

end SqlRender
