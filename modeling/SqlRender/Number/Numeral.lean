import SqlRender.Number.Binary64

/-!
# Numerals

Digits are read into natural numbers, signed digits into integers of 64 bits, and
decimal fractions with an optional exponent into the nearest float.
-/

namespace SqlRender.Numeral

/-- The value of a decimal digit. -/
def digit? (c : Char) : Option Nat :=
  if c.isDigit then some (c.toNat - '0'.toNat) else none

/-- The number written by decimal digits, the first of them the most significant; the
empty list writes zero. -/
def digitsValue (cs : List Char) : Nat :=
  cs.foldl (fun n c => 10 * n + (c.toNat - '0'.toNat)) 0

/-- The number written by one or more decimal digits. -/
def natural? (cs : List Char) : Option Nat :=
  if !cs.isEmpty && cs.all Char.isDigit then some (digitsValue cs) else none

/-- A sign, if there is one, and what follows it. -/
def takeSign : List Char → Bool × List Char
  | '-' :: cs => (true, cs)
  | '+' :: cs => (false, cs)
  | cs => (false, cs)

/-- The integer written by an optional sign and digits. -/
def integer? (cs : List Char) : Option Int :=
  let (negative, digits) := takeSign cs
  (natural? digits).map fun n => if negative then -(n : Int) else n

/-- The signed integer of 64 bits equal to `n`, if there is one. -/
def int64? (n : Int) : Option Int64 :=
  if Int64.minValue.toInt ≤ n ∧ n ≤ Int64.maxValue.toInt then some (Int64.ofInt n) else none

/-- The unsigned integer of 64 bits equal to `n`, if there is one. -/
def uint64? (n : Int) : Option UInt64 :=
  if 0 ≤ n ∧ n < UInt64.size then some (UInt64.ofNat n.toNat) else none

/-- The signed integer that a text writes. -/
def signed? (s : String) : Option Int64 :=
  (integer? s.toList).bind int64?

/-- The unsigned integer that a text writes; a minus sign is refused even before zero. -/
def unsigned? (s : String) : Option UInt64 :=
  match s.toList with
  | '-' :: _ => none
  | cs => (integer? cs).bind uint64?

/-- A decimal fraction `digits · 10 ^ exponent` with a sign. -/
structure Fraction where
  negative : Bool
  digits : Nat
  exponent : Int
  deriving DecidableEq

/-- The exponent behind the digits of a fraction: nothing, or `e` and an integer. -/
def exponent? : List Char → Option Int
  | [] => some 0
  | c :: cs => if c = 'e' ∨ c = 'E' then integer? cs else none

/-- The fraction written by digits with an optional point among or around them and an
optional exponent; at least one digit is needed. -/
def unsignedFraction? (negative : Bool) (cs : List Char) : Option Fraction :=
  let whole := cs.takeWhile Char.isDigit
  let afterWhole := cs.dropWhile Char.isDigit
  let (part, rest) :=
    match afterWhole with
    | '.' :: more => (more.takeWhile Char.isDigit, more.dropWhile Char.isDigit)
    | more => ([], more)
  if whole.isEmpty && part.isEmpty then none
  else (exponent? rest).map fun e => ⟨negative, digitsValue (whole ++ part), e - part.length⟩

/-- The float nearest to a fraction.  An exponent beyond every float is not worked out. -/
def Fraction.toFloat (x : Fraction) : Float :=
  let size : Int := (Nat.toDigits 10 x.digits).length
  if x.digits = 0 || x.exponent + size < -400 then Binary64.toFloat x.negative 0 1
  else if 400 < x.exponent + size then Binary64.toFloat x.negative (tenTo 400) 1
  else if 0 ≤ x.exponent then
    Binary64.toFloat x.negative (x.digits * tenTo x.exponent.toNat) 1
  else Binary64.toFloat x.negative x.digits (tenTo (-x.exponent).toNat)

/-- The float that a text writes: a fraction, an infinity, or the float that is no
number. -/
def float? (s : String) : Option Float :=
  let (negative, body) := takeSign s.toList
  match String.ofList (body.map Char.toLower) with
  | "inf" | "infinity" => some (Binary64.toFloat negative (tenTo 400) 1)
  | "nan" => some (if negative then -(0.0 / 0.0) else 0.0 / 0.0)
  | _ => (unsignedFraction? negative body).map Fraction.toFloat

end SqlRender.Numeral
