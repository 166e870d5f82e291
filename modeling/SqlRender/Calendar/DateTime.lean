import SqlRender.Calendar.Date
import SqlRender.Text.AsciiCase

/-!
# Dates with a time of day

A time of day has nanoseconds, and a leap second is kept in the nanoseconds of the second
before it: there are fewer than `2 · 10 ^ 9` of them, and from `10 ^ 9` on the time is written
with the next second, so that a leap second at the end of a minute is written as second 60.
A date with a time is read from a text either as it stands, or together with its offset from
UTC, in which case the reader returns the date and time in UTC.
-/

namespace SqlRender

namespace Calendar

/-- Whether there is such a time of day. -/
def isTime (hour minute second nanosecond : Nat) : Bool :=
  hour < 24 && minute < 60 && second < 60 && nanosecond < 2 * tenTo 9

/-- Nothing, or a point and 3, 6 or 9 digits, as many as are needed. -/
def fractionText (nanosecond : Nat) : String :=
  if nanosecond = 0 then ""
  else if nanosecond % tenTo 6 = 0 then "." ++ padded 3 (nanosecond / tenTo 6)
  else if nanosecond % tenTo 3 = 0 then "." ++ padded 6 (nanosecond / tenTo 3)
  else "." ++ padded 9 nanosecond

/-- The nanoseconds written by a point and digits, of which the first nine count, or by
nothing. -/
def fraction? (cs : List Char) : Option (Nat × List Char) :=
  match cs with
  | '.' :: rest =>
    let digits := rest.takeWhile Char.isDigit
    let counted := digits.take 9
    (Numeral.natural? counted).map fun n =>
      (n * tenTo (9 - counted.length), rest.drop digits.length)
  | _ => some (0, cs)

end Calendar

/-- A time of day. -/
structure TimeOfDay where
  hour : Nat
  minute : Nat
  second : Nat
  /-- The nanoseconds of the second and of a leap second behind it. -/
  nanosecond : Nat
  isTime : Calendar.isTime hour minute second nanosecond = true
  deriving DecidableEq

namespace TimeOfDay

/-- The time of day with the given parts, if there is one. -/
def of? (hour minute second nanosecond : Nat) : Option TimeOfDay :=
  if h : Calendar.isTime hour minute second nanosecond = true then
    some ⟨hour, minute, second, nanosecond, h⟩
  else none

/-- The time of day that is written with these parts.  Second 60 is a leap second. -/
def ofParts? (hour minute second nanosecond : Nat) : Option TimeOfDay :=
  if second = 60 then of? hour minute 59 (tenTo 9 + nanosecond)
  else of? hour minute second nanosecond

/-- The second that is written. -/
def shownSecond (t : TimeOfDay) : Nat :=
  t.second + t.nanosecond / tenTo 9

/-- The nanoseconds that are written. -/
def shownNanosecond (t : TimeOfDay) : Nat :=
  t.nanosecond % tenTo 9

/-- Hour, minute and second with colons between them. -/
def clockText (t : TimeOfDay) : String :=
  Calendar.padded 2 t.hour ++ ":" ++ Calendar.padded 2 t.minute ++ ":"
    ++ Calendar.padded 2 t.shownSecond

/-- A time of day at the front of a text. -/
def front? (cs : List Char) : Option (TimeOfDay × List Char) := do
  let (hour, cs) ← Calendar.number? 2 cs
  let cs ← Calendar.mark? ':' cs
  let (minute, cs) ← Calendar.number? 2 cs
  let cs ← Calendar.mark? ':' cs
  let (second, cs) ← Calendar.number? 2 cs
  let (nanosecond, cs) ← Calendar.fraction? cs
  let time ← ofParts? hour minute second nanosecond
  pure (time, Text.skipBlanks cs)

end TimeOfDay

/-- A date and a time of day. -/
structure DateTime where
  date : Date
  time : TimeOfDay
  deriving DecidableEq

namespace DateTime

/-- The text with the letter `T` between date and time, and the digits of the fraction
that are needed. -/
def toText (m : DateTime) : String :=
  m.date.toText ++ "T" ++ m.time.clockText ++ Calendar.fractionText m.time.shownNanosecond

/-- The text with a space between date and time, to the second. -/
def toPlainText (m : DateTime) : String :=
  m.date.toText ++ " " ++ m.time.clockText

/-- The date and time that a whole text writes with the letter `T` between them. -/
def ofText? (s : String) : Option DateTime := do
  let (date, cs) ← Date.front? s.toList
  let cs ← Calendar.mark? 'T' cs
  let (time, rest) ← TimeOfDay.front? cs
  if rest.isEmpty then pure ⟨date, time⟩ else none

/-- The date and time `offset` minutes earlier, for an offset of less than a day. -/
def earlierBy? (m : DateTime) (offset : Int) : Option DateTime := do
  let minutes := (m.time.hour * 60 + m.time.minute : Int) - offset
  let date ←
    if minutes < 0 then m.date.previous?
    else if 1440 ≤ minutes then m.date.next?
    else some m.date
  let minute := (minutes % 1440).toNat
  let time ← TimeOfDay.of? (minute / 60) (minute % 60) m.time.second m.time.nanosecond
  pure ⟨date, time⟩

/-- The order in time. -/
def compare (a b : DateTime) : Ordering :=
  (a.date.compare b.date).then
    ((Ord.compare a.time.hour b.time.hour).then
      ((Ord.compare a.time.minute b.time.minute).then
        ((Ord.compare a.time.second b.time.second).then
          (Ord.compare a.time.nanosecond b.time.nanosecond))))

/-! ### Offsets -/

/-- Two digits at the front of a text. -/
def twoDigits? : List Char → Option (Nat × List Char)
  | a :: b :: rest => do
    let x ← Numeral.digit? a
    let y ← Numeral.digit? b
    pure (10 * x + y, rest)
  | _ => none

/-- The minutes of an offset written behind its sign as hours and minutes, with colons
or blanks between them.  Only offsets of less than a day are read. -/
def offsetMinutes? (cs : List Char) : Option (Nat × List Char) := do
  let (hours, cs) ← twoDigits? cs
  let (minutes, cs) ← twoDigits? (cs.dropWhile fun c => c = ':' || Text.isBlank c)
  if hours < 24 ∧ minutes < 60 then pure (60 * hours + minutes, cs) else none

/-- An offset from UTC at the front of a text, in minutes: `Z`, `UTC` or a sign with
hours and minutes. -/
def offset? : List Char → Option (Int × List Char)
  | 'Z' :: cs | 'z' :: cs => some (0, cs)
  | '+' :: cs => (offsetMinutes? cs).map fun (n, rest) => ((n : Int), rest)
  | '-' :: cs | '−' :: cs => (offsetMinutes? cs).map fun (n, rest) => (-(n : Int), rest)
  | cs =>
    if Text.lower (String.ofList (cs.take 3)) = "utc" then some (0, cs.drop 3) else none

/-- The date and time in UTC that a whole text writes as a date, a `T` or a space, a time
and an offset. -/
def ofTextWithOffset? (s : String) : Option DateTime := do
  let (date, cs) ← Date.front? s.toList
  let cs ←
    match cs with
    | 'T' :: cs | 't' :: cs | ' ' :: cs => some cs
    | _ => none
  let (time, cs) ← TimeOfDay.front? cs
  let (offset, rest) ← offset? cs
  if (Text.skipBlanks rest).isEmpty then (DateTime.mk date time).earlierBy? offset else none

end DateTime

end SqlRender
