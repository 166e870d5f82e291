import SqlRender.Number.Numeral
import SqlRender.Text.Blank

/-!
# Dates

Days of the Gregorian calendar, extended to the years from -262143 to 262142.  A date is
written as year, month and day with hyphens between them.  A reader of dates also takes
months and days of one digit, blanks around the numbers, and years with a sign.
-/

namespace SqlRender

namespace Calendar

/-- Whether February of the year has 29 days. -/
def isLeapYear (year : Int) : Bool :=
  year % 4 == 0 && (year % 100 != 0 || year % 400 == 0)

/-- The number of days of a month. -/
def daysIn (year : Int) (month : Nat) : Nat :=
  match month with
  | 2 => if isLeapYear year then 29 else 28
  | 4 | 6 | 9 | 11 => 30
  | _ => 31

/-- Whether there is such a day in the calendar. -/
def isDay (year : Int) (month day : Nat) : Bool :=
  -262143 ≤ year && year ≤ 262142 && 1 ≤ month && month ≤ 12 && 1 ≤ day && day ≤ daysIn year month

/-- `n` with zeros in front of it up to `width` digits. -/
def padded (width n : Nat) : String :=
  let digits := toString n
  String.ofList (List.replicate (width - digits.length) '0') ++ digits

/-- A year has four digits; outside of the years 0 to 9999 it has a sign as well. -/
def yearText (year : Int) : String :=
  if 0 ≤ year ∧ year ≤ 9999 then padded 4 year.natAbs
  else (if 0 ≤ year then "+" else "-") ++ padded 4 year.natAbs

/-! ### Readers

A reader takes what it reads off the front of a text and returns it with the rest. -/

/-- A number of one to `width` digits, after blanks. -/
def number? (width : Nat) (cs : List Char) : Option (Nat × List Char) :=
  let cs := Text.skipBlanks cs
  let digits := (cs.take width).takeWhile Char.isDigit
  (Numeral.natural? digits).map fun n => (n, cs.drop digits.length)

/-- A year, after blanks: one to four digits, or a sign and any number of digits. -/
def year? (cs : List Char) : Option (Int × List Char) :=
  let signed := fun (s : Int) (cs : List Char) =>
    let digits := cs.takeWhile Char.isDigit
    (Numeral.natural? digits).map fun n => (s * n, cs.drop digits.length)
  match Text.skipBlanks cs with
  | '-' :: cs => signed (-1) cs
  | '+' :: cs => signed 1 cs
  | cs => (number? 4 cs).map fun (n, cs) => ((n : Int), cs)

/-- The character `c`, after blanks. -/
def mark? (c : Char) (cs : List Char) : Option (List Char) :=
  match Text.skipBlanks cs with
  | d :: rest => if d = c then some rest else none
  | [] => none

end Calendar

/-- A day of the calendar. -/
structure Date where
  year : Int
  month : Nat
  day : Nat
  isDay : Calendar.isDay year month day = true
  deriving DecidableEq

namespace Date

/-- The day with the given year, month and day of the month, if there is one. -/
def of? (year : Int) (month day : Nat) : Option Date :=
  if h : Calendar.isDay year month day = true then some ⟨year, month, day, h⟩ else none

/-- The day after. -/
def next? (d : Date) : Option Date :=
  if d.day < Calendar.daysIn d.year d.month then of? d.year d.month (d.day + 1)
  else if d.month < 12 then of? d.year (d.month + 1) 1
  else of? (d.year + 1) 1 1

/-- The day before. -/
def previous? (d : Date) : Option Date :=
  if 1 < d.day then of? d.year d.month (d.day - 1)
  else if 1 < d.month then of? d.year (d.month - 1) (Calendar.daysIn d.year (d.month - 1))
  else of? (d.year - 1) 12 31

/-- The text of a date. -/
def toText (d : Date) : String :=
  Calendar.yearText d.year ++ "-" ++ Calendar.padded 2 d.month ++ "-" ++ Calendar.padded 2 d.day

/-- A date at the front of a text. -/
def front? (cs : List Char) : Option (Date × List Char) := do
  let (year, cs) ← Calendar.year? cs
  let cs ← Calendar.mark? '-' cs
  let (month, cs) ← Calendar.number? 2 cs
  let cs ← Calendar.mark? '-' cs
  let (day, cs) ← Calendar.number? 2 cs
  let date ← of? year month day
  pure (date, cs)

/-- The date that a whole text writes. -/
def ofText? (s : String) : Option Date := do
  let (date, rest) ← front? s.toList
  if (Text.skipBlanks rest).isEmpty then pure date else none

/-- The order in time. -/
def compare (a b : Date) : Ordering :=
  (Ord.compare a.year b.year).then ((Ord.compare a.month b.month).then (Ord.compare a.day b.day))

end Date

end SqlRender
