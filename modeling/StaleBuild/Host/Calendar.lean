import StaleBuild.Files.Tree
import StaleBuild.Host.Text

/-!
The Gregorian calendar in UTC: the days from the start of 1970 to a date, the date of a day, and
counts of seconds as users write them.
-/

namespace StaleBuild.Host.Calendar

/-- Nanoseconds in a second. -/
def second : Time := 1000000000

/-- The days from the start of 1970 to a date, whose month and day may be out of range. The year is
taken to begin in March, so that the day that comes and goes is its last one. -/
def daysTo (year month day : Int) : Int :=
  let year := year + (month - 1).fdiv 12
  let month := (month - 1).fmod 12 + 1
  let y := if month ≤ 2 then year - 1 else year
  let era := y.fdiv 400
  let yearOfEra := y - era * 400
  let dayOfYear := (153 * ((month + 9) % 12) + 2) / 5 + day - 1
  era * 146097 + yearOfEra * 365 + yearOfEra / 4 - yearOfEra / 100 + dayOfYear - 719468

/-- A date with a time of day. -/
structure Date where
  year : Int
  month : Nat
  day : Nat
  hour : Nat
  minute : Nat
  sec : Nat
  nanos : Nat

/-- The date of a day that is counted from the start of 1970. -/
def dateOfDay (days : Int) : Int × Nat × Nat :=
  let z := days + 719468
  let era := z.fdiv 146097
  let dayOfEra := (z - era * 146097).toNat
  let yearOfEra := (dayOfEra - dayOfEra / 1460 + dayOfEra / 36524 - dayOfEra / 146096) / 365
  let dayOfYear := dayOfEra - (365 * yearOfEra + yearOfEra / 4 - yearOfEra / 100)
  let m := (5 * dayOfYear + 2) / 153
  let day := dayOfYear - (153 * m + 2) / 5 + 1
  let month := if m < 10 then m + 3 else m - 9
  (era * 400 + yearOfEra + (if month ≤ 2 then 1 else 0), month, day)

/-- The date of a time. -/
def Date.of (t : Time) : Date :=
  let secs := t.fdiv second
  let days := secs.fdiv 86400
  let ofDay := (secs - days * 86400).toNat
  let (year, month, day) := dateOfDay days
  ⟨year, month, day, ofDay / 3600, ofDay / 60 % 60, ofDay % 60, (t - secs * second).toNat⟩

/-- The time of a date, of which every part may be out of its range. -/
def timeAt (year month day hour minute sec : Int) : Time :=
  (daysTo year month day * 86400 + hour * 3600 + minute * 60 + sec) * second

/-- The day of the week, from Sunday on. -/
def weekday (days : Int) : Nat := ((days + 4).fmod 7).toNat

/-- The number of a day in its year, from 0 on. -/
def dayOfYear (d : Date) : Nat := (daysTo d.year d.month d.day - daysTo d.year 1 1).toNat

/-- The time of a date; none if a part is out of its range. -/
def moment? (year month day hour minute sec : Int) : Option Time :=
  let t := timeAt year month day hour minute sec
  let d := Date.of t
  if d.year = year && (d.month : Int) = month && (d.day : Int) = day && (d.hour : Int) = hour &&
      (d.minute : Int) = minute && (d.sec : Int) = sec then some t
  else none

/-- The nanoseconds that digits behind a point stand for. -/
def fraction? (digits : Str) : Option Nat :=
  let nine := digits.take 9
  natural? (nine ++ List.replicate (9 - nine.length) '0')

/-- A count of seconds, with a fraction behind a point. -/
def seconds? (s : Str) : Option Time :=
  let whole := s.takeWhile fun c => c ≠ '.' && c ≠ ','
  match integer? whole, s.drop whole.length with
  | some n, [] => some (n * second)
  | some n, _ :: digits =>
    (fraction? digits).map fun f =>
      if whole.head? = some '-' then n * second - f else n * second + f
  | none, _ => none

/-- A moment in digits: an optional year, then month, day, hour and minute in two digits each, and
optional seconds behind a point. A year of two digits lies between 1969 and 2068; a missing one is
the current one. -/
def digits? (now : Time) (s : Str) : Option Time :=
  let main := s.takeWhile (· ≠ '.')
  let pair (n : Nat) : Option Int := (natural? ((main.drop n).take 2)).map Int.ofNat
  let sec? : Option Int := match s.drop main.length with
    | [] => some 0
    | _ :: sec => if sec.length = 2 then (natural? sec).map Int.ofNat else none
  if !main.all Char.isDigit then none
  else match main.length with
  | 12 => do
    moment? (← natural? (main.take 4)) (← pair 4) (← pair 6) (← pair 8) (← pair 10) (← sec?)
  | 10 => do
    let year ← pair 0
    moment? (if year < 69 then 2000 + year else 1900 + year) (← pair 2) (← pair 4) (← pair 6)
      (← pair 8) (← sec?)
  | 8 => do
    moment? (Date.of now).year (← pair 0) (← pair 2) (← pair 4) (← pair 6) (← sec?)
  | _ => none

/-! ## Names -/

def monthNames : List String :=
  ["January", "February", "March", "April", "May", "June", "July", "August", "September", "October",
    "November", "December"]

def dayNames : List String :=
  ["Sunday", "Monday", "Tuesday", "Wednesday", "Thursday", "Friday", "Saturday"]

end StaleBuild.Host.Calendar
