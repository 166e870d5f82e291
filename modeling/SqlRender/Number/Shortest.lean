import SqlRender.Number.Binary64

/-!
# The shortest decimal text of a float

Of the decimals that read back as a given float, those with the fewest digits are
wanted, and of these the one nearest to the float.  `shortest` finds its digits on the
grids of numbers with 1, 2, …, 17 significant digits: on each grid only the two
neighbours of the float need to be tried, and the first grid on which one of them reads
back decides.

Two notations are made of the digits.  `positional` never writes an exponent and writes
no point where there are no further digits.  `scientific` writes numbers from `0.00001`
up to `10 ^ 16` with a point and at least one digit after it, and all other numbers with
an exponent and its sign.
-/

namespace SqlRender.Shortest

/-- The number `digits · 10 ^ exponent`, where `digits` does not end in a zero unless it
is zero. -/
structure Digits where
  digits : Nat
  exponent : Int
  deriving DecidableEq

/-- Which of two equally near decimals is taken. -/
inductive Tie where
  | upward
  | even
  deriving DecidableEq

/-- A fraction of natural numbers and the closest fractions below and above it that do
not round to it, all over one denominator. -/
structure Neighbourhood where
  value : Nat
  below : Nat
  above : Nat
  denominator : Nat
  /-- Whether the two ends themselves round to the value. -/
  closed : Bool

/-- The numbers that round to the magnitude of the finite float `bits`. -/
def neighbourhood (bits : UInt64) : Neighbourhood :=
  let x := Binary64.magnitude bits
  let gapBelow := if x.mantissa = twoTo 52 && 1 < Binary64.biasedExponent bits then 1 else 2
  let (unit, denominator) := Binary64.Magnitude.asFraction ⟨1, x.exponent - 2⟩
  { value := 4 * x.mantissa * unit
    below := (4 * x.mantissa - gapBelow) * unit
    above := (4 * x.mantissa + 2) * unit
    denominator
    closed := x.mantissa % 2 == 0 }

/-- The number of decimal digits of `n`; zero has none. -/
def digitCount (n : Nat) : Nat :=
  if n = 0 then 0 else (Nat.toDigits 10 n).length

/-- The exponent `p` with `10 ^ (p - 1) ≤ n / d < 10 ^ p`, for a positive fraction not
below `10 ^ -400`. -/
def decimalExponent (n d : Nat) : Int :=
  if d ≤ n then digitCount (n / d)
  else
    match (List.range 400).find? fun j => d ≤ n * tenTo j with
    | some j => 1 - j
    | none => -400

/-- Whether `c · 10 ^ t` lies in the neighbourhood. -/
def Neighbourhood.holds (h : Neighbourhood) (c : Nat) (t : Int) : Bool :=
  let x := c * tenTo t.toNat * h.denominator
  let scale := tenTo (-t).toNat
  if h.closed then h.below * scale ≤ x && x ≤ h.above * scale
  else h.below * scale < x && x < h.above * scale

/-- The decimal with exponent `t` that reads back as the value and is nearest to it, if
there is one. -/
def Neighbourhood.onGrid (h : Neighbourhood) (tie : Tie) (t : Int) : Option Nat :=
  let n := h.value * tenTo (-t).toNat
  let d := h.denominator * tenTo t.toNat
  let low := n / d
  let rest := n % d
  match h.holds low t, h.holds (low + 1) t with
  | false, false => none
  | true, false => some low
  | false, true => some (low + 1)
  | true, true =>
    if 2 * rest < d then some low
    else if d < 2 * rest then some (low + 1)
    else
      match tie with
      | .upward => some (low + 1)
      | .even => some (if low % 2 = 0 then low else low + 1)

/-- `c · 10 ^ t` with the zeros at the end of `c` moved into the exponent, at most `fuel`
of them. -/
def withoutZeros : Nat → Nat → Int → Digits
  | 0, c, t => ⟨c, t⟩
  | fuel + 1, c, t =>
    if c ≠ 0 ∧ c % 10 = 0 then withoutZeros fuel (c / 10) (t + 1) else ⟨c, t⟩

/-- The shortest decimal that reads back as the magnitude of the finite float `bits`. -/
def shortest (tie : Tie) (bits : UInt64) : Digits :=
  let h := neighbourhood bits
  if h.value = 0 then ⟨0, 0⟩
  else
    let p := decimalExponent h.value h.denominator
    let found := ((List.range 17).map fun (k : Nat) => p - (k : Int) - 1).findSome? fun t =>
      (h.onGrid tie t).map fun c => withoutZeros 18 c t
    found.getD ⟨0, 0⟩

/-- A run of `n` zeros. -/
def zeros (n : Nat) : String :=
  String.ofList (List.replicate n '0')

/-- `s` cut after `n` characters, with a point between the parts. -/
def pointAfter (n : Nat) (s : String) : String :=
  String.ofList (s.toList.take n) ++ "." ++ String.ofList (s.toList.drop n)

/-- All digits of the number, without an exponent. -/
def Digits.positional (x : Digits) : String :=
  let s := toString x.digits
  let point := (s.length : Int) + x.exponent
  if 0 ≤ x.exponent then (if x.digits = 0 then "0" else s ++ zeros x.exponent.toNat)
  else if 0 < point then pointAfter point.toNat s
  else "0." ++ zeros (-point).toNat ++ s

/-- The digits with an exponent behind them where the number is large or small. -/
def Digits.scientific (x : Digits) : String :=
  let s := toString x.digits
  let lead := (s.length : Int) + x.exponent - 1
  if x.digits = 0 then "0.0"
  else if -5 ≤ lead ∧ lead ≤ 15 then
    if 0 ≤ x.exponent then x.positional ++ ".0" else x.positional
  else
    let mantissa := if s.length = 1 then s else pointAfter 1 s
    mantissa ++ "e" ++ (if 0 ≤ lead then "+" else "-") ++ toString lead.natAbs

/-- A minus sign for a float whose sign bit is set. -/
def sign (x : Float) : String :=
  if Binary64.isNegative x.toBits then "-" else ""

/-- The text of a float without an exponent. -/
def positional (x : Float) : String :=
  if x.isNaN then "NaN"
  else if x.isInf then sign x ++ "inf"
  else sign x ++ (shortest .upward x.toBits).positional

/-- The text of a finite float in a JSON document. -/
def scientific (x : Float) : String :=
  sign x ++ (shortest .even x.toBits).scientific

end SqlRender.Shortest
