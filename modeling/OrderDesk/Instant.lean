import OrderDesk.Decimal.Integer
import OrderDesk.Text.Basic

/-!
# Points in time

An instant counts seconds from the start of 1970 in UTC, with nanoseconds.  A leap second is written
as the second before it with a billion nanoseconds more, so nanoseconds run to two billions.

Reading takes the Internet date and time format in a lenient form: one digit will do where two are
usual, blanks may stand before numbers, hyphens and colons, `T` may be a blank, and the offset is
`Z`, `UTC` or signed hours and minutes.  Writing gives UTC with as many digits of the fraction as
are needed, out of 0, 3, 6 and 9.
-/

namespace OrderDesk

/-- A point in time. -/
structure Instant where
  /-- Whole seconds from the start of 1970. -/
  seconds : Int
  /-- Nanoseconds on top, a billion more in a leap second. -/
  nanos : Nat
  deriving DecidableEq, Repr

namespace Instant

/-- The start of 1970. -/
def epoch : Instant := ⟨0, 0⟩

instance : Inhabited Instant := ⟨epoch⟩

/-! ## The calendar -/

/-- A day of the Gregorian calendar, extended to all years. -/
structure Date where
  /-- Year; the year before 1 is 0. -/
  year : Int
  /-- Month from 1 to 12. -/
  month : Nat
  /-- Day of the month from 1. -/
  day : Nat
  deriving DecidableEq, Repr

/-- A year with 366 days. -/
def isLeap (year : Int) : Bool := year % 4 == 0 && (year % 100 != 0 || year % 400 == 0)

/-- The number of days in a month. -/
def monthLength (year : Int) (month : Nat) : Nat :=
  if month = 2 then (if isLeap year then 29 else 28)
  else if month = 4 ∨ month = 6 ∨ month = 9 ∨ month = 11 then 30
  else 31

/-- Days from the start of 1970.  The year is taken to begin in March, so that the leap day is its
last. -/
def Date.days (d : Date) : Int :=
  let year := if d.month ≤ 2 then d.year - 1 else d.year
  let month : Int := ((d.month : Int) + 9) % 12
  let dayOfYear := (153 * month + 2) / 5 + d.day - 1
  365 * year + year / 4 - year / 100 + year / 400 + dayOfYear - 719468

/-- The day that lies the given number of days after the start of 1970. -/
def Date.ofDays (days : Int) : Date :=
  let z := days + 719468
  let era := z / 146097
  let dayOfEra := z % 146097
  let yearOfEra := (dayOfEra - dayOfEra / 1460 + dayOfEra / 36524 - dayOfEra / 146096) / 365
  let dayOfYear := dayOfEra - (365 * yearOfEra + yearOfEra / 4 - yearOfEra / 100)
  let month := (5 * dayOfYear + 2) / 153
  let day := dayOfYear - (153 * month + 2) / 5 + 1
  let calendarMonth := if month < 10 then month + 3 else month - 9
  let year := yearOfEra + era * 400 + (if calendarMonth ≤ 2 then 1 else 0)
  ⟨year, calendarMonth.toNat, day.toNat⟩

/-- The day of an instant. -/
def date (t : Instant) : Date := Date.ofDays (t.seconds / 86400)

/-! ## Writing -/

/-- Four digits for the years 0 to 9999, else a sign and at least four digits. -/
def yearText (year : Int) : List Char :=
  if 0 ≤ year ∧ year ≤ 9999 then Decimal.padded 4 year.toNat
  else if year < 0 then '-' :: Decimal.padded 4 (-year).toNat
  else '+' :: Decimal.padded 4 year.toNat

/-- The fraction of a second with its point: 0, 3, 6 or 9 digits. -/
def fractionText (nanos : Nat) : List Char :=
  if nanos = 0 then []
  else if nanos % 1000000 = 0 then '.' :: Decimal.padded 3 (nanos / 1000000)
  else if nanos % 1000 = 0 then '.' :: Decimal.padded 6 (nanos / 1000)
  else '.' :: Decimal.padded 9 nanos

/-- Date and time of day, with the given text for the fraction. -/
def writeWith (fraction : List Char) (t : Instant) : List Char :=
  let d := t.date
  let ofDay := (t.seconds % 86400).toNat
  let second := ofDay % 60 + (if 1000000000 ≤ t.nanos then 1 else 0)
  yearText d.year ++ '-' :: (Decimal.padded 2 d.month ++ '-' :: (Decimal.padded 2 d.day ++
    'T' :: (Decimal.padded 2 (ofDay / 3600) ++ ':' :: (Decimal.padded 2 (ofDay / 60 % 60) ++
      ':' :: (Decimal.padded 2 second ++ (fraction ++ ['Z']))))))

/-- The text of an instant. -/
def text (t : Instant) : String :=
  String.ofList (t.writeWith (fractionText (t.nanos % 1000000000)))

/-- Day, month and year with points between. -/
def dayText (t : Instant) : String :=
  let d := t.date
  String.ofList (Decimal.padded 2 d.day ++ '.' :: (Decimal.padded 2 d.month ++ '.' :: yearText d.year))

/-- Microseconds from the start of 1970; of an instant before 2000 the rest is cut off towards 2000,
of a later one towards the past. -/
def micros (t : Instant) : Int :=
  let since2000 := (t.seconds - 946684800) * 1000000000 + t.nanos
  since2000.tdiv 1000 + 946684800000000

/-- The instant the given number of microseconds after the start of 1970. -/
def ofMicros (n : Int) : Instant := ⟨n / 1000000, (n % 1000000).toNat * 1000⟩

/-- The text with six digits of the fraction. -/
def microText (t : Instant) : String :=
  String.ofList (t.writeWith ('.' :: Decimal.padded 6 (t.nanos % 1000000000 / 1000)))

/-! ## Reading -/

/-- At least one and at most `limit` digits; the number and the rest. -/
def number? (limit : Nat) (s : List Char) : Option (Nat × List Char) :=
  let digits := (s.take limit).takeWhile fun c => (Decimal.digit? c).isSome
  (Decimal.natural? digits).map fun n => (n, s.drop digits.length)

/-- A number of one or two digits after blanks. -/
def two? (s : List Char) : Option (Nat × List Char) := number? 2 (Text.trimFront s)

/-- The year: up to four digits, or a sign and any number of digits. -/
def year? (s : List Char) : Option (Int × List Char) :=
  match Text.trimFront s with
  | '-' :: s => (number? s.length s).map fun (n, s) => (-(n : Int), s)
  | '+' :: s => (number? s.length s).map fun (n, s) => ((n : Int), s)
  | s => (number? 4 s).map fun (n, s) => ((n : Int), s)

/-- One of the given characters. -/
def expect? (allowed : List Char) : List Char → Option (List Char)
  | c :: s => if c ∈ allowed then some s else none
  | [] => none

/-- A fraction: nothing, or a point and digits of which nine count. -/
def fraction? : List Char → Option (Nat × List Char)
  | '.' :: s => do
    let digits := s.takeWhile fun c => (Decimal.digit? c).isSome
    let n ← Decimal.natural? (digits.take 9)
    return (n * Nat.pow 10 (9 - (digits.take 9).length), s.drop digits.length)
  | s => some (0, s)

/-- Hours, an optional separator of colons and blanks, and minutes; the minutes they make. -/
def clock? : List Char → Option (Nat × List Char)
  | a :: b :: s => do
    let hours ← Decimal.natural? [a, b]
    match s.dropWhile (fun c => c == ':' || Text.isBlank c) with
    | c :: d :: s =>
      let minutes ← Decimal.natural? [c, d]
      if minutes < 60 then return (60 * hours + minutes, s) else none
    | _ => none
  | _ => none

/-- The offset from UTC in minutes. -/
def offset? (s : List Char) : Option (Int × List Char) :=
  match s with
  | 'Z' :: s => some (0, s)
  | 'z' :: s => some (0, s)
  | c :: rest =>
    if (s.take 3).map Char.toUpper = ['U', 'T', 'C'] then some (0, s.drop 3)
    else if c = '+' then (clock? rest).map fun (n, s) => ((n : Int), s)
    else if c = '-' ∨ c = '\u2212' then (clock? rest).map fun (n, s) => (-(n : Int), s)
    else none
  | [] => none

/-- Reads an instant. -/
def ofList? (s : List Char) : Option Instant := do
  let (year, s) ← year? s
  let s ← expect? ['-'] (Text.trimFront s)
  let (month, s) ← two? s
  let s ← expect? ['-'] (Text.trimFront s)
  let (day, s) ← two? s
  let s ← expect? ['t', 'T', ' '] s
  let (hour, s) ← two? s
  let s ← expect? [':'] (Text.trimFront s)
  let (minute, s) ← two? s
  let s ← expect? [':'] (Text.trimFront s)
  let (second, s) ← two? s
  let (fraction, s) ← fraction? s
  let (offset, s) ← offset? (Text.trimFront s)
  guard (Text.trimFront s).isEmpty
  guard (-262143 ≤ year ∧ year ≤ 262142)
  guard (1 ≤ month ∧ month ≤ 12 ∧ 1 ≤ day ∧ day ≤ monthLength year month)
  guard (hour < 24 ∧ minute < 60 ∧ second ≤ 60)
  guard (-1440 < offset ∧ offset < 1440)
  let whole := ((⟨year, month, day⟩ : Date).days * 24 + hour) * 60 + minute - offset
  return ⟨whole * 60 + min second 59, fraction + (if second = 60 then 1000000000 else 0)⟩

/-- Reads an instant. -/
def ofText? (s : String) : Option Instant := ofList? s.toList

end Instant

end OrderDesk
