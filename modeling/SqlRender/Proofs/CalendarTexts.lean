import SqlRender.Calendar.DateTime
import SqlRender.Proofs.Numerals

/-!
# Texts of dates and times

A date is read back from its text, and so is a date with a time, both as it stands and as a
time in UTC behind a `Z`.  A leap second is read back as one only at the end of its minute, where
it is written as second 60; behind every other second it is read as the next second, as
`TimeOfDay.reread` has it.  The readers take numbers, marks and fractions off the front of a
text, so each of them is shown to take what its writer wrote and to leave what follows.  The
main statements are `Date.ofText?_toText`, `DateTime.ofText?_toText` and
`DateTime.ofTextWithOffset?_toText`.
-/

namespace SqlRender

namespace Calendar

open Numeral

/-! ### Numbers of a fixed width -/

theorem toList_padded (width n : Nat) :
  (padded width n).toList
    = List.replicate (width - (Nat.toDigits 10 n).length) '0' ++ Nat.toDigits 10 n
  := by
  simp [padded, Nat.toString_eq_repr, Nat.toList_repr, ← String.length_toList]

theorem natural?_padded (width n : Nat) :
  natural? (padded width n).toList = some n
  := by
  rw [toList_padded]
  apply natural?_zeros_append (natural?_toDigits n)

theorem length_padded {width n : Nat} (hwidth : 0 < width) (hn : n < tenTo width) :
  (padded width n).toList.length = width
  := by
  have hlength : (Nat.toDigits 10 n).length ≤ width :=
    (Nat.length_toDigits_le_iff (by decide) hwidth).mpr hn
  rw [toList_padded, List.length_append, List.length_replicate]
  omega

variable {cs : List Char} {n : Nat}

theorem number?_append (h : natural? cs = some n) (rest : List Char) :
  number? cs.length (cs ++ rest) = some (n, rest)
  := by
  simp [number?, skipBlanks_append h, takeWhile_of_natural? h, h]

theorem number?_padded {width : Nat} (hwidth : 0 < width) (hn : n < tenTo width)
    (rest : List Char) :
  number? width ((padded width n).toList ++ rest) = some (n, rest)
  := by
  have hnumber := number?_append (natural?_padded width n) rest
  rwa [length_padded hwidth hn] at hnumber

theorem mark?_cons {c : Char} (hc : Text.isBlank c = false) (rest : List Char) :
  mark? c (c :: rest) = some rest
  := by
  simp [mark?, Text.skipBlanks, hc]

/-! ### Years -/

theorem year?_minus (h : natural? cs = some n) {rest : List Char} (hrest : StopsDigits rest) :
  year? ('-' :: (cs ++ rest)) = some (-(n : Int), rest)
  := by
  have hblank : Text.skipBlanks ('-' :: (cs ++ rest)) = '-' :: (cs ++ rest) := rfl
  simp [year?, hblank, takeWhile_append h hrest, h]

theorem year?_plus (h : natural? cs = some n) {rest : List Char} (hrest : StopsDigits rest) :
  year? ('+' :: (cs ++ rest)) = some ((n : Int), rest)
  := by
  have hblank : Text.skipBlanks ('+' :: (cs ++ rest)) = '+' :: (cs ++ rest) := rfl
  simp [year?, hblank, takeWhile_append h hrest, h]

theorem year?_fourDigits (h : natural? cs = some n) (hlength : cs.length = 4)
    (rest : List Char) :
  year? (cs ++ rest) = some ((n : Int), rest)
  := by
  have hnumber : number? 4 (cs ++ rest) = some (n, rest) := by
    rw [← hlength]
    apply number?_append h
  obtain ⟨d, ds, rfl, hd⟩ := exists_cons_of_natural? h
  unfold year?
  rw [skipBlanks_append h]
  split
  · next heq =>
    obtain ⟨rfl, -⟩ := List.cons_eq_cons.mp heq
    simp at hd
  · next heq =>
    obtain ⟨rfl, -⟩ := List.cons_eq_cons.mp heq
    simp at hd
  · rw [hnumber]
    rfl

theorem year?_yearText (year : Int) {rest : List Char} (hrest : StopsDigits rest) :
  year? ((yearText year).toList ++ rest) = some (year, rest)
  := by
  have hdigits := natural?_padded 4 year.natAbs
  unfold yearText
  split
  · next hyear =>
    have hlength : (padded 4 year.natAbs).toList.length = 4 :=
      length_padded (by decide) (by simp [tenTo]; omega)
    rw [year?_fourDigits hdigits hlength, Int.natAbs_of_nonneg hyear.1]
  · split
    · next hyear =>
      rw [String.toList_append]
      apply (year?_plus hdigits hrest).trans
      rw [Int.natAbs_of_nonneg hyear]
    · next hyear =>
      rw [String.toList_append]
      apply (year?_minus hdigits hrest).trans
      rw [Int.ofNat_natAbs_of_nonpos (by omega), Int.neg_neg]

/-! ### Fractions of a second -/

/-- No fraction and no further digit of one begins where the text begins. -/
def StopsFraction (rest : List Char) : Prop :=
  ∀ c ∈ rest.head?, c.isDigit = false ∧ c ≠ '.'

theorem StopsFraction.stopsDigits {rest : List Char} (h : StopsFraction rest) :
  StopsDigits rest
  := fun c hc => (h c hc).1

theorem fraction?_of_stopsFraction {rest : List Char} (h : StopsFraction rest) :
  fraction? rest = some (0, rest)
  := by
  unfold fraction?
  split
  · exact absurd rfl (h '.' rfl).2
  · rfl

theorem fraction?_padded {width n : Nat} (hpos : 0 < width) (hwidth : width ≤ 9)
    (hn : n < tenTo width) {rest : List Char} (hrest : StopsFraction rest) :
  fraction? ('.' :: ((padded width n).toList ++ rest)) = some (n * tenTo (9 - width), rest)
  := by
  have hdigits := natural?_padded width n
  have hlength := length_padded hpos hn
  have htake : (padded width n).toList.take 9 = (padded width n).toList :=
    List.take_of_length_le (by omega)
  simp only [fraction?, takeWhile_append hdigits hrest.stopsDigits, htake, hdigits, hlength,
    Option.map_some]
  rw [List.drop_left' hlength]

theorem fraction?_fractionText {nanosecond : Nat} (h : nanosecond < tenTo 9) {rest : List Char}
    (hrest : StopsFraction rest) :
  fraction? ((fractionText nanosecond).toList ++ rest) = some (nanosecond, rest)
  := by
  have htext : ∀ s : String, ("." ++ s).toList = '.' :: s.toList := fun s => String.toList_append
  unfold fractionText
  split
  · next hzero =>
    rw [hzero]
    apply fraction?_of_stopsFraction hrest
  · split
    · next hmod =>
      rw [htext, List.cons_append,
        fraction?_padded (by decide) (by decide) (Nat.div_lt_of_lt_mul h) hrest,
        Nat.div_mul_cancel (Nat.dvd_of_mod_eq_zero hmod)]
    · split
      · next hmod =>
        rw [htext, List.cons_append,
          fraction?_padded (by decide) (by decide) (Nat.div_lt_of_lt_mul h) hrest,
          Nat.div_mul_cancel (Nat.dvd_of_mod_eq_zero hmod)]
      · rw [htext, List.cons_append, fraction?_padded (by decide) (by decide) h hrest]
        simp [tenTo]

theorem daysIn_le (year : Int) (month : Nat) :
  daysIn year month ≤ 31
  := by
  unfold daysIn
  split
  · split <;> decide
  all_goals decide

end Calendar

open Calendar Numeral

/-! ### Dates -/

namespace Date

theorem of?_self (d : Date) :
  of? d.year d.month d.day = some d
  := dif_pos d.isDay

theorem month_lt (d : Date) :
  d.month < tenTo 2
  := by
  have h := d.isDay
  simp only [Calendar.isDay, Bool.and_eq_true, decide_eq_true_eq] at h
  simp [tenTo]
  omega

theorem day_lt (d : Date) :
  d.day < tenTo 2
  := by
  have h := d.isDay
  have hdays := daysIn_le d.year d.month
  simp only [Calendar.isDay, Bool.and_eq_true, decide_eq_true_eq] at h
  simp [tenTo]
  omega

theorem front?_toText (d : Date) (rest : List Char) :
  front? (d.toText.toList ++ rest) = some (d, rest)
  := by
  have hmark : ∀ cs, mark? '-' ('-' :: cs) = some cs := mark?_cons rfl
  have hminus : "-".toList = ['-'] := rfl
  have hstop : ∀ cs, StopsDigits ('-' :: cs) := fun cs => stopsDigits_cons.mpr rfl
  simp only [toText, String.toList_append, hminus, List.append_assoc, List.cons_append,
    List.nil_append]
  simp only [front?, Option.bind_eq_bind, year?_yearText d.year (hstop _), Option.bind_some, hmark,
    number?_padded Nat.two_pos d.month_lt, number?_padded Nat.two_pos d.day_lt, of?_self,
    Option.pure_def]

/-- A date is read back from its text. -/
theorem ofText?_toText (d : Date) :
  ofText? d.toText = some d
  := by
  have hfront := front?_toText d []
  rw [List.append_nil] at hfront
  simp only [ofText?, hfront, Option.bind_eq_bind, Option.bind_some]
  rfl

end Date

/-! ### Times of day -/

theorem tenTo_nine :
  tenTo 9 = 1000000000
  := rfl

namespace TimeOfDay

theorem bounds (t : TimeOfDay) :
  t.hour < 24 ∧ t.minute < 60 ∧ t.second < 60 ∧ t.nanosecond < 2 * tenTo 9
  := by
  simpa [Calendar.isTime, and_assoc] using t.isTime

theorem of?_self (t : TimeOfDay) :
  of? t.hour t.minute t.second t.nanosecond = some t
  := dif_pos t.isTime

/-- A leap second stands at the end of a minute, if there is one. -/
def IsSettled (t : TimeOfDay) : Prop :=
  t.nanosecond < tenTo 9 ∨ t.second = 59

instance decidableIsSettled (t : TimeOfDay) : Decidable t.IsSettled :=
  inferInstanceAs (Decidable (_ ∨ _))

/-- The time of day that is read back from the text of a time: a leap second within a minute is
the next second. -/
def reread (t : TimeOfDay) : TimeOfDay :=
  if t.IsSettled then t
  else (of? t.hour t.minute (t.second + 1) (t.nanosecond - tenTo 9)).getD t

/-- A time without its leap second has the next second. -/
theorem of?_of_not_isSettled {t : TimeOfDay} (h : ¬ t.IsSettled) :
  of? t.hour t.minute (t.second + 1) (t.nanosecond - tenTo 9) = some t.reread
  := by
  obtain ⟨hhour, hminute, hsecond, hnanosecond⟩ := t.bounds
  obtain ⟨hleap, hwithin⟩ := not_or.mp h
  have htime : Calendar.isTime t.hour t.minute (t.second + 1) (t.nanosecond - tenTo 9) = true := by
    simp only [Calendar.isTime, Bool.and_eq_true, decide_eq_true_eq]
    omega
  rw [reread, if_neg h, of?, dif_pos htime]
  rfl

/-- Nothing changes exactly if a leap second stands at the end of its minute. -/
theorem reread_eq_self_iff {t : TimeOfDay} :
  t.reread = t ↔ t.IsSettled
  := by
  by_cases h : t.IsSettled
  · exact iff_of_true (if_pos h) h
  · apply iff_of_false _ h
    intro heq
    have hnext := of?_of_not_isSettled h
    rw [heq, of?] at hnext
    split at hnext
    · have hsecond := congrArg second (Option.some.inj hnext)
      simp at hsecond
    · cases hnext

/-- The written parts are those of the time that is read back. -/
theorem ofParts?_shown (t : TimeOfDay) :
  ofParts? t.hour t.minute t.shownSecond t.shownNanosecond = some t.reread
  := by
  obtain ⟨-, -, hsecond, hnanosecond⟩ := t.bounds
  rw [ofParts?, shownSecond, shownNanosecond]
  by_cases hleap : t.nanosecond < tenTo 9
  · have hsettled : t.IsSettled := .inl hleap
    rw [Nat.div_eq_of_lt hleap, Nat.mod_eq_of_lt hleap, if_neg (by omega), reread, if_pos hsettled]
    apply of?_self
  · have hdiv : t.nanosecond / tenTo 9 = 1 := by
      rw [tenTo_nine] at *
      omega
    have hmod : t.nanosecond % tenTo 9 = t.nanosecond - tenTo 9 := by
      rw [tenTo_nine] at *
      omega
    rw [hdiv, hmod]
    by_cases hlast : t.second = 59
    · have hparts : tenTo 9 + (t.nanosecond - tenTo 9) = t.nanosecond := by omega
      rw [if_pos (by omega), hparts, ← hlast, reread, if_pos (.inr hlast)]
      apply of?_self
    · rw [if_neg (by omega)]
      apply of?_of_not_isSettled (not_or.mpr ⟨hleap, hlast⟩)

theorem front?_toText (t : TimeOfDay) (rest : List Char) (hrest : StopsFraction rest) :
  front? (t.clockText.toList ++ ((fractionText t.shownNanosecond).toList ++ rest))
    = some (t.reread, Text.skipBlanks rest)
  := by
  obtain ⟨hhour, hminute, hsecond, hnanosecond⟩ := t.bounds
  have hshown : t.shownSecond ≤ 60 := by
    rw [tenTo_nine] at hnanosecond
    rw [shownSecond, tenTo_nine]
    omega
  have hfraction : t.shownNanosecond < tenTo 9 := Nat.mod_lt _ (by decide)
  have hmark : ∀ cs, mark? ':' (':' :: cs) = some cs := mark?_cons rfl
  have hcolon : ":".toList = [':'] := rfl
  have hread : ∀ n ≤ 60, ∀ cs, number? 2 ((padded 2 n).toList ++ cs) = some (n, cs) := by
    intro n hn cs
    apply number?_padded Nat.two_pos (Nat.lt_of_le_of_lt hn (by decide))
  simp only [clockText, String.toList_append, hcolon, List.append_assoc, List.cons_append,
    List.nil_append]
  simp only [front?, Option.bind_eq_bind, hread t.hour (by omega), Option.bind_some, hmark,
    hread t.minute (by omega), hread t.shownSecond hshown, fraction?_fractionText hfraction hrest,
    ofParts?_shown, Option.pure_def]

end TimeOfDay

/-! ### Dates with a time of day -/

namespace DateTime

/-- The date and time that is read back from the text of a date and time. -/
def reread (m : DateTime) : DateTime :=
  ⟨m.date, m.time.reread⟩

theorem reread_eq_self_iff {m : DateTime} :
  m.reread = m ↔ m.time.IsSettled
  := by
  rw [reread, ← TimeOfDay.reread_eq_self_iff]
  constructor
  · exact congrArg time
  · intro h
    rw [h]

theorem toList_toText (m : DateTime) :
  m.toText.toList
    = m.date.toText.toList ++ 'T' :: (m.time.clockText.toList
      ++ (fractionText m.time.shownNanosecond).toList)
  := by
  simp [toText]

/-- A date and time is read back from its text. -/
theorem ofText?_toText (m : DateTime) :
  ofText? m.toText = some m.reread
  := by
  have hmark : ∀ cs, mark? 'T' ('T' :: cs) = some cs := mark?_cons rfl
  have htime := m.time.front?_toText [] (by simp [StopsFraction])
  rw [List.append_nil] at htime
  simp only [ofText?, toList_toText, Option.bind_eq_bind, Date.front?_toText, Option.bind_some,
    hmark, htime]
  rfl

theorem earlierBy?_zero (m : DateTime) :
  m.earlierBy? 0 = some m
  := by
  obtain ⟨hhour, hminute, -⟩ := m.time.bounds
  have hdate : ¬((m.time.hour * 60 + m.time.minute : Int) - 0 < 0) := by omega
  have hday : ¬(1440 ≤ (m.time.hour * 60 + m.time.minute : Int) - 0) := by omega
  have hminutes : (((m.time.hour * 60 + m.time.minute : Int) - 0) % 1440).toNat
      = m.time.hour * 60 + m.time.minute := by
    omega
  have hclock : (m.time.hour * 60 + m.time.minute) / 60 = m.time.hour
      ∧ (m.time.hour * 60 + m.time.minute) % 60 = m.time.minute := by
    omega
  simp only [earlierBy?, if_neg hdate, if_neg hday, hminutes, hclock, TimeOfDay.of?_self]
  rfl

/-- A date and time in UTC is read back from its text. -/
theorem ofTextWithOffset?_toText (m : DateTime) :
  ofTextWithOffset? (m.toText ++ "Z") = some m.reread
  := by
  have hzulu : "Z".toList = ['Z'] := rfl
  have htime := m.time.front?_toText ['Z'] (by simp [StopsFraction])
  have hblank : Text.skipBlanks ['Z'] = ['Z'] := rfl
  have hoffset : offset? ['Z'] = some (0, []) := rfl
  simp only [ofTextWithOffset?, String.toList_append, toList_toText, hzulu, List.append_assoc,
    List.cons_append, Option.bind_eq_bind, Date.front?_toText, Option.bind_some, htime, hblank,
    hoffset, earlierBy?_zero]
  rfl

end DateTime

end SqlRender
