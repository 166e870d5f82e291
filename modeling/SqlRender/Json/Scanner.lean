import SqlRender.Json.Basic
import SqlRender.Number.Numeral
import SqlRender.Text.Hex

/-!
# The lexemes of a JSON text

`Json.scan` cuts a text into punctuation, words, strings and numbers.  A number that is
an integer of 64 bits stays an integer.  Any other number becomes the float that results
from its leading digits, as far as they fit into 64 bits, by one multiplication or
division by a power of ten.  A number beyond all floats and a string with half of a
surrogate pair are well written, but stand for no value.  Of every other string the scanner
keeps whether it has escapes.
-/

namespace SqlRender.Json

/-- The text of a string. -/
structure Spelled where
  text : String
  /-- Whether the text is written as it is, without escapes. -/
  plain : Bool

/-- A lexeme of a JSON text. -/
inductive Lexeme (α : Type) where
  | openArray
  | closeArray
  | openObject
  | closeObject
  | comma
  | colon
  /-- A string, with its text if it stands for one. -/
  | string (s : Option Spelled)
  /-- The result for `null`, a truth value or a number. -/
  | scalar (x : α)

/-! ### Numbers -/

/-- As many of the leading digits as write a number below `2 ^ 64`, with their value. -/
def leadingDigits (value : Nat) : List Char → Nat × List Char
  | [] => (value, [])
  | c :: cs =>
    let next := 10 * value + (c.toNat - '0'.toNat)
    if next < UInt64.size then leadingDigits next cs else (value, c :: cs)

/-- The power of ten `10 ^ n` as a float. -/
def powerOfTen (n : Nat) : Float :=
  Binary64.toFloat false (tenTo n) 1

/-- `x` divided by `10 ^ 308` until the rest of the power is in the range of floats. -/
def divideByPower : Nat → Float → Nat → Float
  | 0, _, _ => 0
  | fuel + 1, x, n =>
    if n ≤ 308 then x / powerOfTen n
    else if x == 0 then x
    else divideByPower fuel (x / powerOfTen 308) (n - 308)

/-- `digits · 10 ^ exponent` as a float, if it is finite. -/
def scaledFloat? (digits : Nat) (exponent : Int) : Option Float :=
  let x := (UInt64.ofNat digits).toFloat
  if exponent < 0 then some (divideByPower 8 x exponent.natAbs)
  else if digits = 0 then some 0
  else if 308 < exponent then none
  else
    let y := x * powerOfTen exponent.toNat
    if y.isInf then none else some y

/-- The parts of the text of a number: whether it is negative, the digits before and
behind the point, and the exponent; `none` stands for a missing part. -/
structure NumberParts where
  negative : Bool
  whole : List Char
  part : Option (List Char)
  exponent : Option Int

/-- The exponent part of a number. -/
def exponentPart? : List Char → Option (Option Int)
  | [] => some none
  | c :: cs => if c = 'e' ∨ c = 'E' then (Numeral.integer? cs).map some else none

/-- The parts of a number: no zero in front of other digits, and digits on both sides of
a point. -/
def numberParts? (cs : List Char) : Option NumberParts :=
  let (negative, cs) :=
    match cs with
    | '-' :: cs => (true, cs)
    | cs => (false, cs)
  let whole := cs.takeWhile Char.isDigit
  let rest := cs.dropWhile Char.isDigit
  if whole.isEmpty || (whole.head? == some '0' && 1 < whole.length) then none
  else
    match rest with
    | '.' :: rest =>
      let part := rest.takeWhile Char.isDigit
      if part.isEmpty then none
      else (exponentPart? (rest.dropWhile Char.isDigit)).map fun e => ⟨negative, whole, some part, e⟩
    | rest => (exponentPart? rest).map fun e => ⟨negative, whole, none, e⟩

/-- The number with the given parts, as a layer. -/
def NumberParts.toLayer? {α : Type} (p : NumberParts) : Option (Layer α) :=
  let n := Numeral.digitsValue p.whole
  let plain := p.part.isNone && p.exponent.isNone
  if plain && !p.negative && n < UInt64.size then some (.int n)
  else if plain && p.negative && 0 < n && n ≤ twoTo 63 then some (.int (-(n : Int)))
  else
    let part := p.part.getD []
    let (digits, left) := leadingDigits 0 p.whole
    let (digits, dropped) := leadingDigits digits part
    let exponent := p.exponent.getD 0 + left.length - (part.length - dropped.length)
    (scaledFloat? digits exponent).map fun x => .float (if p.negative then -x else x)

/-- The result for the number that a text writes. -/
def number? {α : Type} (r : Reader α) (cs : List Char) : Option α :=
  (numberParts? cs).map fun p => p.toLayer?.elim r.unreadable r.part

/-- Whether a character can stand in a number. -/
def inNumber (c : Char) : Bool :=
  c.isDigit || c == '-' || c == '+' || c == '.' || c == 'e' || c == 'E'

/-! ### Strings -/

/-- The number written by four hexadecimal digits. -/
def hexUnit? (a b c d : Char) : Option Nat := do
  let a ← Hex.value? a
  let b ← Hex.value? b
  let c ← Hex.value? c
  let d ← Hex.value? d
  pure (((a * 16 + b) * 16 + c) * 16 + d)

/-- The character that stands behind a backslash, for the escapes of one letter. -/
def escaped? : Char → Option Char
  | '"' => some '"'
  | '\\' => some '\\'
  | '/' => some '/'
  | 'b' => some '\x08'
  | 'f' => some '\x0c'
  | 'n' => some '\n'
  | 'r' => some '\r'
  | 't' => some '\t'
  | _ => none

/-- The text of a string up to some place: its characters in reverse, the first half of a
surrogate pair if one stands right before the place, and whether there are no escapes. -/
structure TextSoFar where
  reversed : List Char
  high : Option Nat
  plain : Bool

namespace TextSoFar

/-- The text in front of the first character. -/
def empty : TextSoFar :=
  ⟨[], none, true⟩

/-- The text with one more character; half of a pair in front of it stands for no text. -/
def add? (c : Char) (t : TextSoFar) : Option TextSoFar :=
  match t.high with
  | none => some ⟨c :: t.reversed, none, t.plain⟩
  | some _ => none

/-- The text with one more character, written with an escape. -/
def addEscaped? (c : Char) (t : TextSoFar) : Option TextSoFar :=
  (t.add? c).map fun t => ⟨t.reversed, t.high, false⟩

/-- The text with one more unit of 16 bits, which is written with an escape. -/
def addUnit? (unit : Nat) (t : TextSoFar) : Option TextSoFar :=
  if 0xD800 ≤ unit && unit < 0xDC00 then
    match t.high with
    | none => some ⟨t.reversed, some unit, false⟩
    | some _ => none
  else if 0xDC00 ≤ unit && unit < 0xE000 then
    t.high.map fun high =>
      ⟨Char.ofNat (0x10000 + (high - 0xD800) * 0x400 + (unit - 0xDC00)) :: t.reversed, none, false⟩
  else t.addEscaped? (Char.ofNat unit)

/-- The complete text. -/
def spelled? (t : TextSoFar) : Option Spelled :=
  match t.high with
  | none => some ⟨String.ofList t.reversed.reverse, t.plain⟩
  | some _ => none

end TextSoFar

/-! ### The scanner -/

/-- Where the scanner stands: between lexemes, inside a string, with its text so far if it
may stand for one, or inside a number, with its characters in reverse. -/
inductive Place where
  | between
  | inString (text : Option TextSoFar)
  | inNumber (reversed : List Char)

/-- Scans on from a place; `done` holds the lexemes found so far in reverse. -/
def scanFrom {α : Type} (r : Reader α) (done : List (Lexeme α)) :
    Place → List Char → Option (List (Lexeme α))
  | .between, [] => some done.reverse
  | .inNumber n, [] => (number? r n.reverse).map fun x => (Lexeme.scalar x :: done).reverse
  | .inString _, [] => none
  | .between, 't' :: 'r' :: 'u' :: 'e' :: cs =>
    scanFrom r (.scalar (r.part (.bool true)) :: done) .between cs
  | .between, 'f' :: 'a' :: 'l' :: 's' :: 'e' :: cs =>
    scanFrom r (.scalar (r.part (.bool false)) :: done) .between cs
  | .between, 'n' :: 'u' :: 'l' :: 'l' :: cs =>
    scanFrom r (.scalar (r.part .null) :: done) .between cs
  | .between, c :: cs =>
    match c with
    | '[' => scanFrom r (.openArray :: done) .between cs
    | ']' => scanFrom r (.closeArray :: done) .between cs
    | '\x7b' => scanFrom r (.openObject :: done) .between cs
    | '\x7d' => scanFrom r (.closeObject :: done) .between cs
    | ',' => scanFrom r (.comma :: done) .between cs
    | ':' => scanFrom r (.colon :: done) .between cs
    | '"' => scanFrom r done (.inString (some .empty)) cs
    | ' ' | '\n' | '\t' | '\r' => scanFrom r done .between cs
    | c => if c.isDigit || c == '-' then scanFrom r done (.inNumber [c]) cs else none
  | .inNumber n, c :: cs =>
    if Json.inNumber c then scanFrom r done (.inNumber (c :: n)) cs
    else
      (number? r n.reverse).bind fun x =>
        let done := Lexeme.scalar x :: done
        match c with
        | ']' => scanFrom r (.closeArray :: done) .between cs
        | '\x7d' => scanFrom r (.closeObject :: done) .between cs
        | ',' => scanFrom r (.comma :: done) .between cs
        | ' ' | '\n' | '\t' | '\r' => scanFrom r done .between cs
        | _ => none
  | .inString t, '"' :: cs => scanFrom r (.string (t.bind TextSoFar.spelled?) :: done) .between cs
  | .inString t, '\\' :: 'u' :: a :: b :: c :: d :: cs =>
    (hexUnit? a b c d).bind fun unit =>
      scanFrom r done (.inString (t.bind (TextSoFar.addUnit? unit))) cs
  | .inString t, '\\' :: c :: cs =>
    (escaped? c).bind fun c => scanFrom r done (.inString (t.bind (TextSoFar.addEscaped? c))) cs
  | .inString t, c :: cs =>
    if c.toNat < 32 || c == '\\' then none
    else scanFrom r done (.inString (t.bind (TextSoFar.add? c))) cs

/-- The lexemes of a text. -/
def scan {α : Type} (r : Reader α) (s : String) : Option (List (Lexeme α)) :=
  scanFrom r [] .between s.toList

end SqlRender.Json
