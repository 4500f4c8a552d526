import Counsel.Decimal.Numeral

/-!
Points in time, and the time stamps of log lines.

A stamp is a date, the letter `T`, a time of day with seconds and perhaps a fraction, and the
distance from universal time, `Z` or hours and minutes with a sign. It is written in universal time
with nine places of seconds. A leap second, numbered 60, is the second before it with a whole second
of nanoseconds on top.
-/

namespace Counsel

/-- A point in time: seconds since the first of January 1970, and nanoseconds; `10 ^ 9` of these or
more are within a leap second. -/
structure Instant where
  seconds : Int
  nanoseconds : Nat
  deriving DecidableEq, Repr

namespace Instant

/-! ### The calendar -/

/-- Whether a year has a 29th of February. -/
def isLeapYear (year : Int) : Bool :=
  year % 4 = 0 && (year % 100 ≠ 0 || year % 400 = 0)

def daysOfMonth (year : Int) (month : Nat) : Nat :=
  if month = 2 then (if isLeapYear year then 29 else 28)
  else if month = 4 ∨ month = 6 ∨ month = 9 ∨ month = 11 then 30
  else 31

/-- The days from the first of January 1970 to a date. The year is counted from March, so that a
leap day is its last. -/
def daysOfDate (year : Int) (month day : Nat) : Int :=
  let y := if month ≤ 2 then year - 1 else year
  let era := y / 400
  let yearOfEra := y % 400
  let shifted : Int := if 2 < month then month - 3 else month + 9
  let dayOfYear := (153 * shifted + 2) / 5 + day - 1
  let dayOfEra := yearOfEra * 365 + yearOfEra / 4 - yearOfEra / 100 + dayOfYear
  era * 146097 + dayOfEra - 719468

/-- The date that lies so many days after the first of January 1970: year, month and day. -/
def dateOfDays (days : Int) : Int × Int × Int :=
  let z := days + 719468
  let era := z / 146097
  let dayOfEra := z % 146097
  let yearOfEra := (dayOfEra - dayOfEra / 1460 + dayOfEra / 36524 - dayOfEra / 146096) / 365
  let dayOfYear := dayOfEra - (365 * yearOfEra + yearOfEra / 4 - yearOfEra / 100)
  let shifted := (5 * dayOfYear + 2) / 153
  let day := dayOfYear - (153 * shifted + 2) / 5 + 1
  let month := if shifted < 10 then shifted + 3 else shifted - 9
  let year := yearOfEra + era * 400
  (if month ≤ 2 then year + 1 else year, month, day)

/-! ### Reading -/

/-- A number of exactly so many digits, and what follows it. -/
def readDigits (count : Nat) (s : List Char) : Option (Nat × List Char) :=
  let ds := s.take count
  if ds.length = count ∧ ds.all Char.isDigit then
    some (Decimal.digitsValue 0 ds, s.drop count)
  else none

/-- What follows one given character. -/
def readMark (mark : Char) : List Char → Option (List Char)
  | c :: rest => if c = mark then some rest else none
  | [] => none

/-- The nanoseconds of a fraction, of which nine places count, and what follows it. -/
def readFraction (s : List Char) : Option (Nat × List Char) :=
  match s with
  | '.' :: rest =>
      let digits := rest.takeWhile Char.isDigit
      let kept := digits.take 9
      if kept.isEmpty then none
      else
        some (Decimal.digitsValue 0 kept * Nat.pow 10 (9 - kept.length), rest.drop digits.length)
  | rest => some (0, rest)

/-- The distance from universal time in seconds, and what follows it. -/
def readOffset (s : List Char) : Option (Int × List Char) :=
  let signed (sign : Int) (rest : List Char) : Option (Int × List Char) := do
    let (hours, rest) ← readDigits 2 rest
    let rest ← readMark ':' rest
    let (minutes, rest) ← readDigits 2 rest
    if hours < 24 ∧ minutes < 60 then pure (sign * (hours * 3600 + minutes * 60), rest) else none
  match s with
  | 'Z' :: rest => some (0, rest)
  | 'z' :: rest => some (0, rest)
  | '+' :: rest => signed 1 rest
  | '-' :: rest => signed (-1) rest
  | '−' :: rest => signed (-1) rest
  | _ => none

/-- The point in time that a stamp denotes. -/
def parse? (s : List Char) : Option Instant := do
  let (year, s) ← readDigits 4 s
  let s ← readMark '-' s
  let (month, s) ← readDigits 2 s
  let s ← readMark '-' s
  let (day, s) ← readDigits 2 s
  let s ← (readMark 'T' s).or ((readMark 't' s).or (readMark ' ' s))
  let (hour, s) ← readDigits 2 s
  let s ← readMark ':' s
  let (minute, s) ← readDigits 2 s
  let s ← readMark ':' s
  let (second, s) ← readDigits 2 s
  let (fraction, s) ← readFraction s
  let (offset, s) ← readOffset s
  if s.isEmpty ∧ 1 ≤ month ∧ month ≤ 12 ∧ 1 ≤ day ∧ day ≤ daysOfMonth year month ∧
      hour < 24 ∧ minute < 60 ∧ second ≤ 60 then
    let whole := if second = 60 then 59 else second
    let extra := if second = 60 then Nat.pow 10 9 else 0
    pure ⟨daysOfDate year month day * 86400 + hour * 3600 + minute * 60 + whole - offset,
      fraction + extra⟩
  else none

/-! ### Writing -/

/-- A number with zeros before it, so that it has at least `width` digits. -/
def zeroPadded (width : Nat) (n : Nat) : String :=
  let digits := toString n
  .ofList (List.replicate (width - digits.length) '0') ++ digits

/-- A year: four digits, and a sign where it is not between 0 and 9999. -/
def yearText (year : Int) : String :=
  if 0 ≤ year ∧ year ≤ 9999 then zeroPadded 4 year.natAbs
  else (if year < 0 then "-" else "+") ++ zeroPadded 4 year.natAbs

/-- Hour, minute and second of the day in universal time. -/
def timeOfDay (t : Instant) : Nat × Nat × Nat :=
  let second := (t.seconds % 86400).toNat
  (second / 3600, second / 60 % 60, second % 60 + t.nanoseconds / Nat.pow 10 9)

/-- The time of the day as `hh:mm:ss`. -/
def clockText (t : Instant) : String :=
  let (hour, minute, second) := t.timeOfDay
  zeroPadded 2 hour ++ ":" ++ zeroPadded 2 minute ++ ":" ++ zeroPadded 2 second

/-- The stamp of a point in time, in universal time and with nine places. -/
def text (t : Instant) : String :=
  let (year, month, day) := dateOfDays (t.seconds / 86400)
  yearText year ++ "-" ++ zeroPadded 2 month.natAbs ++ "-" ++ zeroPadded 2 day.natAbs ++ "T" ++
    t.clockText ++ "." ++ zeroPadded 9 (t.nanoseconds % Nat.pow 10 9) ++ "Z"

end Instant
end Counsel
