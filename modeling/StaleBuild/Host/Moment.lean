import StaleBuild.Host.Calendar

/-!
Moments in the words of users: dates and times of day in many spellings, names of months, of days of
the week and of time zones, and steps such as `2 days ago`. A text is a row of items, each of which
sets a part of the moment or adds a step to it; what is not set is taken from now, and the time of day
is midnight if there is a date and no time.
-/

namespace StaleBuild.Host.Moment

/-- A unit of a step. -/
inductive Span where
  | year
  | month
  | days (n : Int)
  | hour
  | minute
  | second
deriving DecidableEq

/-- A word or a number of a moment. -/
inductive Token where
  | number (negative signed : Bool) (value digits : Nat)
  /-- A number of seconds with a fraction, in nanoseconds. -/
  | decimal (signed : Bool) (nanos : Int)
  | meridian (afternoon : Bool)
  | month (n : Nat)
  | day (n : Nat)
  /-- A zone by its minutes east. -/
  | zone (minutes : Int) (summer : Bool)
  | summer
  | unit (u : Span)
  | shift (days : Int)
  | ordinal (n : Int)
  | ago (sign : Int)
  | char (c : Char)
deriving DecidableEq

/-! ## Words -/

/-- The zones by name: minutes east, and whether summer time is kept. -/
def zones : List (String × Int × Bool) :=
  [("GMT", 0, false), ("UT", 0, false), ("UTC", 0, false), ("WET", 0, false), ("WEST", 0, true),
    ("BST", 0, true), ("ART", -180, false), ("BRT", -180, false), ("BRST", -180, true),
    ("NST", -210, false), ("NDT", -210, true), ("AST", -240, false), ("ADT", -240, true),
    ("CLT", -240, false), ("CLST", -240, true), ("EST", -300, false), ("EDT", -300, true),
    ("CST", -360, false), ("CDT", -360, true), ("MST", -420, false), ("MDT", -420, true),
    ("PST", -480, false), ("PDT", -480, true), ("AKST", -540, false), ("AKDT", -540, true),
    ("HST", -600, false), ("HAST", -600, false), ("HADT", -600, true), ("SST", -720, false),
    ("WAT", 60, false), ("CET", 60, false), ("CEST", 60, true), ("MET", 60, false),
    ("MEZ", 60, false), ("MEST", 60, true), ("MESZ", 60, true), ("EET", 120, false),
    ("EEST", 120, true), ("CAT", 120, false), ("SAST", 120, false), ("EAT", 180, false),
    ("MSK", 180, false), ("MSD", 180, true), ("IST", 330, false), ("SGT", 480, false),
    ("KST", 540, false), ("JST", 540, false), ("GST", 600, false), ("NZST", 720, false),
    ("NZDT", 720, true)]

/-- The units by name. -/
def units : List (String × Span) :=
  [("YEAR", .year), ("MONTH", .month), ("FORTNIGHT", .days 14), ("WEEK", .days 7), ("DAY", .days 1),
    ("HOUR", .hour), ("MINUTE", .minute), ("MIN", .minute), ("SECOND", .second), ("SEC", .second)]

/-- The words for steps and places in a row. -/
def relatives : List (String × Token) :=
  [("TOMORROW", .shift 1), ("YESTERDAY", .shift (-1)), ("TODAY", .shift 0), ("NOW", .shift 0),
    ("LAST", .ordinal (-1)), ("THIS", .ordinal 0), ("NEXT", .ordinal 1), ("FIRST", .ordinal 1),
    ("THIRD", .ordinal 3), ("FOURTH", .ordinal 4), ("FIFTH", .ordinal 5), ("SIXTH", .ordinal 6),
    ("SEVENTH", .ordinal 7), ("EIGHTH", .ordinal 8), ("NINTH", .ordinal 9), ("TENTH", .ordinal 10),
    ("ELEVENTH", .ordinal 11), ("TWELFTH", .ordinal 12), ("AGO", .ago (-1)), ("HENCE", .ago 1)]

/-- The zone of a single letter. -/
def letterZone? (c : Char) : Option Token :=
  let n : Int := c.toNat
  if 'A' ≤ c && c ≤ 'I' then some (.zone ((n - 64) * 60) false)
  else if c = 'K' || c = 'L' || c = 'M' then some (.zone ((n - 65) * 60) false)
  else if 'N' ≤ c && c ≤ 'S' then some (.zone (-(n - 77) * 60) false)
  else if 'U' ≤ c && c ≤ 'Y' then some (.zone (-(n - 77) * 60) false)
  else if c = 'Z' then some (.zone 0 false)
  else if c = 'T' then some (.char 'T')
  else none

/-- What a word stands for. -/
def word? (given : Str) : Option Token :=
  let w := toUpper given
  let short := w.length = 3 || (w.length = 4 && w[3]? = some '.')
  let same (name : String) : Bool :=
    let n := toUpper (str name)
    if short then w.take 3 = n.take 3 else w = n
  let among (names : List String) : Option Nat := names.findIdx? same
  let byName {α : Type} (l : List (String × α)) (w : Str) : Option α :=
    (l.find? fun e => e.1.toList = w).map Prod.snd
  let zone? (w : Str) : Option Token := (byName zones w).map fun (m, s) => .zone m s
  if w = str "AM" || w = str "A.M." then some (.meridian false)
  else if w = str "PM" || w = str "P.M." then some (.meridian true)
  else (among Calendar.monthNames).map (fun n => Token.month (n + 1))
    |>.or (if w = str "SEPT" then some (.month 9) else none)
    |>.or ((among Calendar.dayNames).map Token.day)
    |>.or (if w = str "TUES" then some (.day 2) else if w = str "WEDNES" then some (.day 3)
      else if w = str "THUR" || w = str "THURS" then some (.day 4) else none)
    |>.or (zone? w)
    |>.or (if w = str "DST" then some .summer else none)
    |>.or ((byName units w).map .unit)
    |>.or (if w.getLast? = some 'S' then (byName units w.dropLast).map .unit else none)
    |>.or (byName relatives w)
    |>.or (match w with
      | ['J'] => some (.char 'J')
      | [c] => letterZone? c
      | _ => none)
    |>.or (zone? (w.filter (· ≠ '.')))

/-- The text behind a comment, whose first bracket has been read. -/
def pastComment : Nat → Nat → Str → Str
  | 0, _, s => s
  | _, _, [] => []
  | fuel + 1, depth, c :: rest =>
    if c = '(' then pastComment fuel (depth + 1) rest
    else if c = ')' then (if depth = 0 then rest else pastComment fuel (depth - 1) rest)
    else pastComment fuel depth rest

/-- The tokens of a text; none if there is a word that stands for nothing. -/
def tokens : Nat → Str → Option (List Token)
  | 0, _ => none
  | _, [] => some []
  | fuel + 1, c :: rest =>
    if isSpace c then tokens fuel rest
    else if c.isDigit || c = '-' || c = '+' then
      let signed := !c.isDigit
      let s := if signed then rest.dropWhile isSpace else c :: rest
      let digits := s.takeWhile Char.isDigit
      if digits = [] then tokens fuel s
      else
        let after := s.drop digits.length
        let value := foldDigits 10 digits
        let fraction : Str := match after with
          | d :: more => if d = '.' || d = ',' then more.takeWhile Char.isDigit else []
          | [] => []
        if fraction ≠ [] then
          let nanos : Int := value * 1000000000 + (Calendar.fraction? fraction).getD 0
          (tokens fuel (after.drop (fraction.length + 1))).map
            (.decimal signed (if c = '-' then -nanos else nanos) :: ·)
        else (tokens fuel after).map (.number (c = '-') signed value digits.length :: ·)
    else if c.isAlpha then
      let w := (c :: rest).takeWhile fun d => d.isAlpha || d = '.'
      match word? (w.take 19) with
      | some t => (tokens fuel ((c :: rest).drop w.length)).map (t :: ·)
      | none => none
    else if c = '(' then tokens fuel (pastComment (rest.length + 1) 0 rest)
    else (tokens fuel rest).map (.char c :: ·)

/-! ## Items -/

/-- What the items have set so far. -/
structure Found where
  year : Option (Int × Nat)
  month : Int
  day : Int
  hour : Int
  minute : Int
  /-- Nanoseconds of the minute. -/
  nanos : Int
  afternoon : Option Bool
  zone : Int
  weekday : Nat
  weekdayOrdinal : Int
  stepYears : Int
  stepMonths : Int
  stepDays : Int
  stepHours : Int
  stepMinutes : Int
  stepNanos : Int
  dates : Nat
  times : Nat
  weekdays : Nat
  zones : Nat
  steps : Nat

namespace Found

/-- A step of so many units. -/
def step (f : Found) (u : Span) (n : Int) : Found :=
  let f := { f with steps := f.steps + 1 }
  match u with
  | .year => { f with stepYears := f.stepYears + n }
  | .month => { f with stepMonths := f.stepMonths + n }
  | .days k => { f with stepDays := f.stepDays + n * k }
  | .hour => { f with stepHours := f.stepHours + n }
  | .minute => { f with stepMinutes := f.stepMinutes + n }
  | .second => { f with stepNanos := f.stepNanos + n * 1000000000 }

/-- A step of seconds with a fraction. -/
def stepFraction (f : Found) (nanos : Int) : Found :=
  { f with steps := f.steps + 1, stepNanos := f.stepNanos + nanos }

def date (f : Found) (year : Option (Int × Nat)) (month day : Int) : Found :=
  { f with dates := f.dates + 1, month, day, year := year.or f.year }

def time (f : Found) (hour minute nanos : Int) (afternoon : Option Bool) : Found :=
  { f with times := f.times + 1, hour, minute, nanos, afternoon }

def inZone (f : Found) (minutes : Int) : Found := { f with zones := f.zones + 1, zone := minutes }

/-- A number that stands alone: a year, a date, or a time of day. -/
def lone (f : Found) (value digits : Nat) : Found :=
  if 0 < f.dates && f.year.isNone && f.steps = 0 && (0 < f.times || 2 < digits) then
    { f with year := some (value, digits) }
  else if 4 < digits then
    { f with
      dates := f.dates + 1
      day := (value % 100 : Nat)
      month := (value / 100 % 100 : Nat)
      year := some ((value / 10000 : Nat), digits - 4) }
  else if digits ≤ 2 then f.time value 0 0 none
  else f.time (value / 100 : Nat) (value % 100 : Nat) 0 none

end Found

/-- The minutes that the digits of a zone stand for: hours, or hours and minutes. -/
def zoneMinutes (negative : Bool) (value digits : Nat) (minutes : Option Nat) : Option Int :=
  let n : Int := match minutes with
    | some m => value * 60 + m
    | none => if digits ≤ 2 then value * 60 else ((value / 100) * 60 + value % 100 : Nat)
  if n ≤ 24 * 60 then some (if negative then -n else n) else none

/-- A zone behind a time, with what follows it; the time stands if there is none. -/
def zoneBehind (f : Found) : List Token → Option (Found × List Token)
  | .number neg true v d :: .char ':' :: .number _ false m _ :: rest =>
    (zoneMinutes neg v d (some m)).map fun z => (f.inZone z, rest)
  | .number neg true v d :: rest => (zoneMinutes neg v d none).map fun z => (f.inZone z, rest)
  | rest => some (f, rest)

/-- The value of a number with its sign. -/
def signedValue (negative : Bool) (value : Nat) : Int := if negative then -value else value

/-- The sign of a step, told by a word behind it. -/
def direction : List Token → Int × List Token
  | .ago s :: rest => (s, rest)
  | rest => (1, rest)

/-- Whether the first of three numbers of a date is a year. -/
def isYear (digits : Nat) : Bool := 4 ≤ digits

/-- Read the next item. -/
def item (f : Found) : List Token → Option (Found × List Token)
  -- times of day
  | .number _ false h _ :: .meridian pm :: rest => some (f.time h 0 0 (some pm), rest)
  | .number _ false h _ :: .char ':' :: .number _ false m _ :: .meridian pm :: rest =>
    some (f.time h m 0 (some pm), rest)
  | .number _ false h _ :: .char ':' :: .number _ false m _ :: .char ':' :: .number _ false s _ ::
      .meridian pm :: rest => some (f.time h m (s * 1000000000 : Nat) (some pm), rest)
  | .number _ false h _ :: .char ':' :: .number _ false m _ :: .char ':' :: .decimal false s ::
      .meridian pm :: rest => some (f.time h m s (some pm), rest)
  | .number _ false h _ :: .char ':' :: .number _ false m _ :: .char ':' :: .number _ false s _ ::
      rest => zoneBehind (f.time h m (s * 1000000000 : Nat) none) rest
  | .number _ false h _ :: .char ':' :: .number _ false m _ :: .char ':' :: .decimal false s :: rest =>
    zoneBehind (f.time h m s none) rest
  | .number _ false h _ :: .char ':' :: .number _ false m _ :: rest =>
    zoneBehind (f.time h m 0 none) rest
  -- dates
  | .number _ false a d :: .char '/' :: .number _ false b _ :: .char '/' :: .number _ false c e :: rest =>
    if isYear d then some (f.date (some (a, d)) b c, rest)
    else some (f.date (some (c, e)) a b, rest)
  | .number _ false a _ :: .char '/' :: .number _ false b _ :: rest => some (f.date none a b, rest)
  | .number _ false y d :: .number true true m _ :: .number true true n _ :: .char 'T' ::
      .number neg sg h e :: .char ':' :: rest =>
    some (f.date (some (y, d)) m n, .number neg sg h e :: .char ':' :: rest)
  | .number _ false _ _ :: .number true true _ _ :: .number true true _ _ :: .char 'T' :: _ => none
  | .number _ false y d :: .number true true m _ :: .number true true n _ :: rest =>
    some (f.date (some (y, d)) m n, rest)
  | .number _ false n _ :: .month m :: .number true true y d :: rest =>
    some (f.date (some (y, d)) m n, rest)
  | .number _ false n _ :: .month m :: .number _ false y d :: rest =>
    some (f.date (some (y, d)) m n, rest)
  | .number _ false n _ :: .month m :: rest => some (f.date none m n, rest)
  | .month m :: .number true true n _ :: .number true true y d :: rest =>
    some (f.date (some (y, d)) m n, rest)
  | .month m :: .number _ false n _ :: .char ',' :: .number _ false y d :: rest =>
    some (f.date (some (y, d)) m n, rest)
  | .month m :: .number _ false n _ :: rest => some (f.date none m n, rest)
  -- days of the week
  | .number _ false n _ :: .day d :: rest =>
    some ({ f with weekdays := f.weekdays + 1, weekday := d, weekdayOrdinal := n }, rest)
  | .ordinal n :: .day d :: rest =>
    some ({ f with weekdays := f.weekdays + 1, weekday := d, weekdayOrdinal := n }, rest)
  | .day d :: .char ',' :: rest =>
    some ({ f with weekdays := f.weekdays + 1, weekday := d, weekdayOrdinal := 0 }, rest)
  | .day d :: rest =>
    some ({ f with weekdays := f.weekdays + 1, weekday := d, weekdayOrdinal := 0 }, rest)
  -- steps
  | .number neg _ v _ :: .unit u :: rest =>
    let (sign, rest) := direction rest
    some (f.step u (sign * signedValue neg v), rest)
  | .decimal _ n :: .unit .second :: rest =>
    let (sign, rest) := direction rest
    some (f.stepFraction (sign * n), rest)
  | .ordinal n :: .unit u :: rest =>
    let (sign, rest) := direction rest
    some (f.step u (sign * n), rest)
  | .unit u :: rest =>
    let (sign, rest) := direction rest
    some (f.step u sign, rest)
  | .shift n :: rest => some (f.step (.days 1) n, rest)
  -- zones
  | .zone z summer :: .number neg true v _ :: .unit u :: rest =>
    some ((f.inZone (if summer then z + 60 else z)).step u (signedValue neg v), rest)
  | .zone z _ :: .number neg true v d :: .char ':' :: .number _ false m _ :: rest =>
    (zoneMinutes neg v d (some m)).map fun more => (f.inZone (z + more), rest)
  | .zone z _ :: .number neg true v d :: rest =>
    (zoneMinutes neg v d none).map fun more => (f.inZone (z + more), rest)
  | .zone z _ :: .summer :: rest => some (f.inZone (z + 60), rest)
  | .zone z summer :: rest => some (f.inZone (if summer then z + 60 else z), rest)
  -- numbers alone
  | .number _ false v d :: .number neg true w _ :: .unit u :: rest =>
    some ((f.lone v d).step u (signedValue neg w), rest)
  | .number _ false h d :: .number neg true v e :: rest =>
    if d ≤ 2 then zoneBehind (f.time h 0 0 none) (.number neg true v e :: rest) else none
  | .number _ false v d :: rest => some (f.lone v d, rest)
  | .char 'T' :: rest => some (f.inZone (-420), rest)
  | .char 'J' :: rest => some (f, rest)
  | _ => none

/-- Read all items. -/
def items : Nat → Found → List Token → Option Found
  | 0, _, _ => none
  | _, f, [] => some f
  | fuel + 1, f, ts =>
    match item f ts with
    | some (f, rest) => items fuel f rest
    | none => none

/-- The hour of a day. -/
def hourOf (f : Found) : Option Int :=
  match f.afternoon with
  | none => if f.hour < 24 then some f.hour else none
  | some pm =>
    if 1 ≤ f.hour && f.hour ≤ 12 then some (f.hour % 12 + if pm then 12 else 0) else none

/-- A year, of which two digits lie between 1969 and 2068. -/
def fullYear (year : Int) (digits : Nat) : Int :=
  if digits = 2 then (if year < 69 then year + 2000 else year + 1900) else year

/-- The moment that items describe. -/
def settle (now : Time) (f : Found) : Option Time := do
  if 1 < f.times || 1 < f.dates || 1 < f.weekdays || 1 < f.zones then none
  else
    let today := Calendar.Date.of now
    let year := match f.year with
      | some (y, d) => fullYear y d
      | none => today.year
    let hasTime := 0 < f.times || (0 < f.steps && f.dates = 0 && f.weekdays = 0)
    let hour ← if hasTime then hourOf f else some 0
    let minute := if hasTime then f.minute else 0
    let nanos := if hasTime then f.nanos else 0
    let seconds := nanos / 1000000000
    let start ← Calendar.moment? year f.month f.day hour minute seconds
    let days := start.fdiv (86400 * Calendar.second)
    let days := if 0 < f.weekdays && f.dates = 0 then
        let wday : Int := Calendar.weekday days
        let wanted : Int := f.weekday
        days + (wanted - wday + 7) % 7 +
          7 * (f.weekdayOrdinal - if 0 < f.weekdayOrdinal && wday ≠ wanted then 1 else 0)
      else days
    let (y, m, d) := Calendar.dateOfDay days
    let t := Calendar.timeAt (y + f.stepYears) (m + f.stepMonths) (d + f.stepDays)
      (hour + f.stepHours) (minute + f.stepMinutes) seconds
    return t + nanos % 1000000000 + f.stepNanos - f.zone * 60 * Calendar.second

/-- A text without a mark for UTC at its front, which changes nothing. -/
def withoutZoneMark (s : Str) : Str :=
  let marks := ["TZ=\"UTC\"", "TZ=\"UTC0\"", "TZ=\"GMT\"", "TZ=\"\""]
  (marks.findSome? fun m => m.toList.isPrefixOf? s).getD s

/-- Read a moment. -/
def read? (now : Time) (s : Str) : Option Time :=
  match (withoutZoneMark (s.dropWhile isSpace)).dropWhile isSpace with
  | '@' :: rest => Calendar.seconds? (trimBy isSpace rest)
  | s => do
    let ts ← tokens (s.length + 1) s
    let today := Calendar.Date.of now
    let start : Found :=
      ⟨none, today.month, today.day, today.hour, today.minute,
        (today.sec * 1000000000 + today.nanos : Nat), none, 0, 0, 0, 0, 0, 0, 0, 0, 0, 0, 0, 0, 0, 0⟩
    settle now (← items (ts.length + 1) start ts)

end StaleBuild.Host.Moment
