import PushDelivery.Text.Blank
import PushDelivery.Time.Clock

/-!
# Points in time as dates

Messages carry dates: a day of the Gregorian calendar and a time of that day in UTC, to the
nanosecond. The second 60 stands for a leap second and is kept as it was written.

## Main definitions

* `Moment`: a date and time in UTC.
* `Moment.ofInstant`: what the clock shows.
* `Moment.text`: the written form, with the fewest of 0, 3, 6 or 9 fraction digits that is exact.
* `Moment.ofText?`: reading, which also accepts other offsets from UTC and converts them.
-/

namespace PushDelivery

/-- A date and time in UTC. -/
structure Moment where
  year : Int
  month : Nat
  day : Nat
  hour : Nat
  minute : Nat
  second : Nat
  nanos : Nat
  deriving DecidableEq, Repr, Inhabited

namespace Moment

/-! ### The calendar -/

/-- Years with a 29th of February. -/
def isLeapYear (year : Int) : Bool :=
  year % 4 = 0 && (year % 100 ≠ 0 || year % 400 = 0)

/-- The number of days in a month. -/
def daysInMonth (year : Int) (month : Nat) : Nat :=
  if month = 2 then (if isLeapYear year then 29 else 28)
  else if month = 4 ∨ month = 6 ∨ month = 9 ∨ month = 11 then 30
  else 31

/-- The first year that dates reach back to. -/
def firstYear : Int := -262143

/-- The last year of dates. -/
def lastYear : Int := 262142

/-- A day of the calendar at a time of the day. -/
def Valid (m : Moment) : Prop :=
  firstYear ≤ m.year ∧ m.year ≤ lastYear ∧ 1 ≤ m.month ∧ m.month ≤ 12 ∧ 1 ≤ m.day ∧
    m.day ≤ daysInMonth m.year m.month ∧ m.hour < 24 ∧ m.minute < 60 ∧ m.second ≤ 60 ∧
    m.nanos < 1000000000

instance (m : Moment) : Decidable m.Valid := by unfold Valid; infer_instance

/-- The same time on the next day. -/
def nextDay (m : Moment) : Moment :=
  if m.day < daysInMonth m.year m.month then { m with day := m.day + 1 }
  else if m.month < 12 then { m with month := m.month + 1, day := 1 }
  else { m with year := m.year + 1, month := 1, day := 1 }

/-- The same time on the day before. -/
def previousDay (m : Moment) : Moment :=
  if 1 < m.day then { m with day := m.day - 1 }
  else if 1 < m.month then
    { m with month := m.month - 1, day := daysInMonth m.year (m.month - 1) }
  else { m with year := m.year - 1, month := 12, day := 31 }

/-- The moment some minutes earlier, less than a day, or later for negative minutes. -/
def backByMinutes (m : Moment) (minutes : Int) : Moment :=
  let total := (m.hour * 60 + m.minute : Nat) - minutes
  let timed (t : Int) (m : Moment) : Moment :=
    { m with hour := (t / 60).toNat, minute := (t % 60).toNat }
  if total < 0 then timed (total + 1440) m.previousDay
  else if 1440 ≤ total then timed (total - 1440) m.nextDay
  else timed total m

/-- The date that lies a number of days after the first of March of year 0. Counted from there, a
leap day is the last day of its year, of its four years and of its four hundred years. -/
def dateOfDay (days : Nat) : Int × Nat × Nat :=
  let era := days / 146097
  let dayOfEra := days % 146097
  let yearOfEra := (dayOfEra - dayOfEra / 1460 + dayOfEra / 36524 - dayOfEra / 146096) / 365
  let dayOfYear := dayOfEra - (365 * yearOfEra + yearOfEra / 4 - yearOfEra / 100)
  let shifted := (5 * dayOfYear + 2) / 153
  let day := dayOfYear - (153 * shifted + 2) / 5 + 1
  let month := if shifted < 10 then shifted + 3 else shifted - 9
  let year : Int := (yearOfEra + era * 400 : Nat) + (if month ≤ 2 then 1 else 0)
  (year, month, day)

/-- The days from the first of March of year 0 to the start, the first of January 2024. -/
def startDay : Nat := 739191

/-- What the clock shows at an instant. -/
def ofInstant (t : Instant) : Moment :=
  let seconds := t / Duration.perSecond
  let (year, month, day) := dateOfDay (startDay + seconds / 86400)
  let inDay := seconds % 86400
  { year, month, day
    hour := inDay / 3600
    minute := inDay / 60 % 60
    second := inDay % 60
    nanos := t % Duration.perSecond }

/-! ### Writing -/

/-- A number in at least `width` digits. -/
def padded (width n : Nat) : List Char :=
  let digits := Nat.toDigits 10 n
  List.replicate (width - digits.length) '0' ++ digits

/-- A year: four digits, or a sign and at least four. -/
def yearText (year : Int) : List Char :=
  if 0 ≤ year ∧ year ≤ 9999 then padded 4 year.toNat
  else (if year < 0 then '-' else '+') :: padded 4 year.natAbs

/-- A fraction of a second in the fewest of 0, 3, 6 or 9 digits that is exact. -/
def fractionText (nanos : Nat) : List Char :=
  if nanos = 0 then []
  else if nanos % 1000000 = 0 then '.' :: padded 3 (nanos / 1000000)
  else if nanos % 1000 = 0 then '.' :: padded 6 (nanos / 1000)
  else '.' :: padded 9 nanos

/-- The characters of a moment. -/
def write (m : Moment) : List Char :=
  yearText m.year ++ '-' :: padded 2 m.month ++ '-' :: padded 2 m.day ++ 'T' :: padded 2 m.hour ++
    ':' :: padded 2 m.minute ++ ':' :: padded 2 m.second ++ fractionText m.nanos ++ ['Z']

/-- The text of a moment. -/
def text (m : Moment) : String := String.ofList m.write

/-! ### Reading -/

/-- From one to `most` digits, and the rest. -/
def digits? (most : Nat) (cs : List Char) : Option (List Char × List Char) :=
  let digits := (cs.take most).takeWhile Char.isDigit
  if digits = [] then none else some (digits, cs.drop digits.length)

/-- A number of at most `most` digits after blanks. -/
def number? (most : Nat) (cs : List Char) : Option (Nat × List Char) := do
  let (digits, rest) ← digits? most (Text.trimStart cs)
  pure (Nat.ofDigitChars 10 digits 0, rest)

/-- A year after blanks: a sign and digits, or up to four digits. -/
def year? (cs : List Char) : Option (Int × List Char) :=
  match Text.trimStart cs with
  | '-' :: rest => do
    let (digits, rest) ← digits? rest.length rest
    pure (-(Nat.ofDigitChars 10 digits 0 : Int), rest)
  | '+' :: rest => do
    let (digits, rest) ← digits? rest.length rest
    pure (Nat.ofDigitChars 10 digits 0, rest)
  | rest => do
    let (digits, rest) ← digits? 4 rest
    pure (Nat.ofDigitChars 10 digits 0, rest)

/-- A mark after blanks. -/
def mark? (c : Char) (cs : List Char) : Option (List Char) :=
  match Text.trimStart cs with
  | d :: rest => if d = c then some rest else none
  | [] => none

/-- A fraction of a second, if a point begins one; digits beyond the ninth are dropped. -/
def fraction? : List Char → Option (Nat × List Char)
  | '.' :: rest => do
    let (digits, rest) ← digits? 9 rest
    pure (Nat.ofDigitChars 10 digits 0 * Nat.pow 10 (9 - digits.length),
      rest.dropWhile Char.isDigit)
  | rest => some (0, rest)

/-- The letter or space between date and time. -/
def between? : List Char → Option (List Char)
  | c :: rest => if c = 'T' ∨ c = 't' ∨ c = ' ' then some rest else none
  | [] => none

/-- The minutes of an offset, two digits under sixty. -/
def offsetMinutes? : List Char → Option (Nat × List Char)
  | a :: b :: rest =>
    if a.isDigit ∧ b.isDigit ∧ a < '6' then some (Nat.ofDigitChars 10 [a, b] 0, rest) else none
  | _ => none

/-- The hours of an offset, two digits under twenty-four. -/
def offsetHours? : List Char → Option (Nat × List Char)
  | a :: b :: rest =>
    let hours := Nat.ofDigitChars 10 [a, b] 0
    if a.isDigit ∧ b.isDigit ∧ hours < 24 then some (hours, rest) else none
  | _ => none

/-- An offset from UTC in minutes: `Z`, `UTC`, or a sign, hours and minutes. -/
def offset? (cs : List Char) : Option (Int × List Char) :=
  let signed (sign : Int) (rest : List Char) : Option (Int × List Char) := do
    let (hours, rest) ← offsetHours? rest
    let (minutes, rest) ← offsetMinutes? (rest.dropWhile fun c => c = ':' ∨ Text.isBlank c)
    pure (sign * (hours * 60 + minutes : Nat), rest)
  match cs with
  | [] => none
  | c :: rest =>
    if (cs.take 3).map Char.toUpper = ['U', 'T', 'C'] then some (0, cs.drop 3)
    else if c = 'Z' ∨ c = 'z' then some (0, rest)
    else if c = '+' then signed 1 rest
    else if c = '-' ∨ c = '\u2212' then signed (-1) rest
    else none

/-- The moment that characters spell. -/
def read? (cs : List Char) : Option Moment := do
  let (year, cs) ← year? cs
  let cs ← mark? '-' cs
  let (month, cs) ← number? 2 cs
  let cs ← mark? '-' cs
  let (day, cs) ← number? 2 cs
  let cs ← between? cs
  let (hour, cs) ← number? 2 cs
  let cs ← mark? ':' cs
  let (minute, cs) ← number? 2 cs
  let cs ← mark? ':' cs
  let (second, cs) ← number? 2 cs
  let (nanos, cs) ← fraction? cs
  let (offset, cs) ← offset? (Text.trimStart cs)
  let here : Moment := { year, month, day, hour, minute, second, nanos }
  let there := here.backByMinutes offset
  if Text.trimStart cs = [] ∧ here.Valid ∧ there.Valid then pure there else none

/-- The moment that a text spells. -/
def ofText? (s : String) : Option Moment := read? s.toList

end Moment

end PushDelivery
