import Legality.Text.Basic

/-!
Instants of universal time and their date on the Gregorian calendar. A day is counted from the first of
January 1970; in the calendar arithmetic a year starts with March, so that a leap day ends its year.
-/
namespace Legality

/-- An instant: whole seconds since the start of 1970, and nanoseconds beyond them. A leap second is the second
before it with more than a thousand million nanoseconds. -/
structure Instant where
  seconds : Int
  nanos : Nat
  deriving DecidableEq, Repr, Inhabited

namespace Instant

def nanosPerSecond : Nat := 1000000000

def secondsPerDay : Int := 86400

def isLeapYear (year : Int) : Bool :=
  year % 4 == 0 && (year % 100 != 0 || year % 400 == 0)

def daysInMonth (year : Int) (month : Nat) : Nat :=
  if month = 2 then if isLeapYear year then 29 else 28
  else if month = 4 ∨ month = 6 ∨ month = 9 ∨ month = 11 then 30
  else 31

/-- The number of a day, counted from the first of January 1970. -/
def dayNumber (year : Int) (month day : Nat) : Int :=
  let shifted := if month ≤ 2 then year - 1 else year
  let era := Int.fdiv shifted 400
  let yearOfEra := shifted - era * 400
  let dayOfYear : Int := (153 * ((month + 9) % 12) + 2) / 5 + day - 1
  let dayOfEra := yearOfEra * 365 + yearOfEra / 4 - yearOfEra / 100 + dayOfYear
  era * 146097 + dayOfEra - 719468

def dateOfDay (number : Int) : Int × Nat × Nat :=
  let shifted := number + 719468
  let era := Int.fdiv shifted 146097
  let dayOfEra := shifted - era * 146097
  let yearOfEra := (dayOfEra - dayOfEra / 1460 + dayOfEra / 36524 - dayOfEra / 146096) / 365
  let dayOfYear := dayOfEra - (365 * yearOfEra + yearOfEra / 4 - yearOfEra / 100)
  let monthIndex := (5 * dayOfYear + 2) / 153
  let day := dayOfYear - (153 * monthIndex + 2) / 5 + 1
  let month := if monthIndex < 10 then monthIndex + 3 else monthIndex - 9
  let year := yearOfEra + era * 400
  (if month ≤ 2 then year + 1 else year, month.toNat, day.toNat)

end Instant

end Legality

/-!
Timestamps in the form of RFC 3339. They are written in universal time with as few groups of three fraction
digits as are exact. Reading is lenient about leading zeros, about white space between the parts, and about the
sign and the separator of the offset, and strict about the calendar.
-/
namespace Legality.Timestamp

open Text

def greatestYear : Int := 262142

def leastYear : Int := -262143

def padded (width n : Nat) : String :=
  let digits := toString n
  String.ofList (List.replicate (width - digits.length) '0') ++ digits

/-- A year of four digits; a year beyond them has a sign. -/
def yearText (year : Int) : String :=
  if 0 ≤ year ∧ year ≤ 9999 then padded 4 year.toNat
  else if year < 0 then "-" ++ padded 4 year.natAbs
  else "+" ++ padded 4 year.natAbs

/-- The fraction of a second, in as few groups of three digits as are exact. -/
def fractionText (nanos : Nat) : String :=
  if nanos = 0 then ""
  else if nanos % 1000000 = 0 then "." ++ padded 3 (nanos / 1000000)
  else if nanos % 1000 = 0 then "." ++ padded 6 (nanos / 1000)
  else "." ++ padded 9 nanos

def print (instant : Instant) : String :=
  let day := Int.fdiv instant.seconds Instant.secondsPerDay
  let (year, month, dayOfMonth) := Instant.dateOfDay day
  let second := (instant.seconds - day * Instant.secondsPerDay).toNat
  let leap := if Instant.nanosPerSecond ≤ instant.nanos then 1 else 0
  yearText year ++ "-" ++ padded 2 month ++ "-" ++ padded 2 dayOfMonth ++ "T" ++
    padded 2 (second / 3600) ++ ":" ++ padded 2 (second / 60 % 60) ++ ":" ++ padded 2 (second % 60 + leap) ++
    fractionText (instant.nanos % Instant.nanosPerSecond) ++ "Z"

def skipBlanks (cs : List Char) : List Char := cs.dropWhile isBlank

def number? (width : Nat) (cs : List Char) : Option (Nat × List Char) :=
  let digits := (cs.take width).takeWhile Char.isDigit
  (readDigits? digits).map fun n => (n, cs.drop digits.length)

def field? (cs : List Char) : Option (Nat × List Char) := number? 2 (skipBlanks cs)

/-- Splits off a year: up to four digits, or any number of them after a sign. -/
def year? (cs : List Char) : Option (Int × List Char) :=
  match skipBlanks cs with
  | '-' :: rest => (number? rest.length rest).map fun (n, rest) => (-(n : Int), rest)
  | '+' :: rest => (number? rest.length rest).map fun (n, rest) => ((n : Int), rest)
  | cs => (number? 4 cs).map fun (n, rest) => ((n : Int), rest)

def expect? (separator : Char) (cs : List Char) : Option (List Char) :=
  match skipBlanks cs with
  | c :: rest => if c = separator then some rest else none
  | [] => none

/-- The nanoseconds of a fraction of a second, if one follows. Digits beyond the ninth are dropped. -/
def fraction? : List Char → Option (Nat × List Char)
  | '.' :: rest => do
    let (n, more) ← number? 9 rest
    some (n * Nat.pow 10 (9 - (rest.length - more.length)), more.dropWhile Char.isDigit)
  | cs => some (0, cs)

def digit? : List Char → Option (Nat × List Char)
  | c :: rest => (digitValue? c).map fun n => (n, rest)
  | [] => none

def offsetSeconds? (cs : List Char) : Option (Nat × List Char) := do
  let (h, cs) ← digit? cs
  let (hh, cs) ← digit? cs
  let cs := cs.dropWhile fun c => c == ':' || isBlank c
  let (m, cs) ← digit? cs
  let (mm, cs) ← digit? cs
  if m ≤ 5 then some ((h * 10 + hh) * 3600 + (m * 10 + mm) * 60, cs) else none

def offset? (cs : List Char) : Option (Int × List Char) :=
  match cs with
  | u :: t :: c :: rest =>
    if u.toLower = 'u' ∧ t.toLower = 't' ∧ c.toLower = 'c' then some (0, rest) else signedOffset? cs
  | _ => signedOffset? cs
where
  signedOffset? : List Char → Option (Int × List Char)
    | 'Z' :: rest => some (0, rest)
    | 'z' :: rest => some (0, rest)
    | '+' :: rest => (offsetSeconds? rest).map fun (n, rest) => ((n : Int), rest)
    | '-' :: rest => (offsetSeconds? rest).map fun (n, rest) => (-(n : Int), rest)
    | '\u2212' :: rest => (offsetSeconds? rest).map fun (n, rest) => (-(n : Int), rest)
    | _ => none

def dropDateEnd? : List Char → Option (List Char)
  | 'T' :: rest => some rest
  | 't' :: rest => some rest
  | ' ' :: rest => some rest
  | _ => none

def inCalendar (instant : Instant) : Bool :=
  Instant.dayNumber leastYear 1 1 * Instant.secondsPerDay ≤ instant.seconds &&
    instant.seconds < Instant.dayNumber (greatestYear + 1) 1 1 * Instant.secondsPerDay

/-- The instant of a date and a time at an offset, if the calendar has it. The years are bounded twice, at the
offset and in universal time, since the offset can move the first and the last day into another year. -/
def instant? (year : Int) (month day hour minute second nanos : Nat) (offset : Int) : Option Instant :=
  if leastYear ≤ year ∧ year ≤ greatestYear ∧ 1 ≤ month ∧ month ≤ 12 ∧ 1 ≤ day ∧
      day ≤ Instant.daysInMonth year month ∧ hour ≤ 23 ∧ minute ≤ 59 ∧ second ≤ 60 ∧
      offset.natAbs < 86400 then
    let leap := if second = 60 then 1 else 0
    let ofDay : Int := hour * 3600 + minute * 60 + (second - leap : Nat)
    let instant : Instant :=
      ⟨Instant.dayNumber year month day * Instant.secondsPerDay + ofDay - offset,
        nanos + leap * Instant.nanosPerSecond⟩
    if inCalendar instant then some instant else none
  else none

def read? (text : String) : Option Instant := do
  let (year, cs) ← year? text.toList
  let cs ← expect? '-' cs
  let (month, cs) ← field? cs
  let cs ← expect? '-' cs
  let (day, cs) ← field? cs
  let cs ← dropDateEnd? cs
  let (hour, cs) ← field? cs
  let cs ← expect? ':' cs
  let (minute, cs) ← field? cs
  let cs ← expect? ':' cs
  let (second, cs) ← field? cs
  let (nanos, cs) ← fraction? cs
  let (offset, cs) ← offset? (skipBlanks cs)
  if (skipBlanks cs).isEmpty then instant? year month day hour minute second nanos offset else none

end Legality.Timestamp
