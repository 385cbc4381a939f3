import StaleBuild.Host.Calendar

/-!
Times as text. A format is text with directives, each a `%`, flags, a width and a letter; `written` puts
the parts of a time in their places. A zone is a name with its minutes east of UTC.
-/

namespace StaleBuild.Host.DateText

open Calendar (Date second)

/-- A time zone without summer time. -/
structure Zone where
  name : Str
  /-- Minutes east of UTC. -/
  minutes : Int

/-- The zone that all times are in if nobody says otherwise. -/
def utc : Zone := ⟨str "UTC", 0⟩

/-- The zone that a name spells: letters, and the hours, minutes and seconds west of UTC. A name without
hours counts as UTC. -/
def Zone.read (s : Str) : Zone :=
  let name := s.takeWhile Char.isAlpha
  if name.length < 3 then utc
  else
    let rest := s.drop name.length
    let (sign, rest) : Int × Str := match rest with
      | '+' :: r => (-1, r)
      | '-' :: r => (1, r)
      | r => (-1, r)
    match splitOn ':' (rest.takeWhile fun c => c.isDigit || c = ':') with
    | h :: more =>
      match natural? h with
      | some hours => ⟨name, sign * (hours * 60 + (more.head?.bind natural?).getD 0 : Nat)⟩
      | none => ⟨name, 0⟩
    | [] => ⟨name, 0⟩

/-- The zone of a process. -/
def Zone.of (environment : List (Str × Str)) : Zone :=
  match environment.find? fun v => v.1 = str "TZ" with
  | some (_, s) => Zone.read s
  | none => utc

/-- How a part is padded: with a character to a width, in its usual way, or not at all. -/
inductive Padding where
  | usual
  | none
  | using (c : Char)

/-- What stands between the `%` and the letter of a directive. -/
structure Manner where
  padding : Padding
  upper : Bool
  swapped : Bool
  width : Option Nat
  colons : Nat

/-- Read flags. -/
def flags (m : Manner) : Str → Manner × Str
  | '-' :: rest => flags { m with padding := .none } rest
  | '_' :: rest => flags { m with padding := .using ' ' } rest
  | '0' :: rest => flags { m with padding := .using '0' } rest
  | '^' :: rest => flags { m with upper := true } rest
  | '#' :: rest => flags { m with swapped := true } rest
  | '+' :: rest => flags { m with padding := .using '0' } rest
  | s => (m, s)

/-- Read what stands in front of the letter of a directive. -/
def manner (s : Str) : Manner × Str :=
  let (m, s) := flags ⟨.usual, false, false, .none, 0⟩ s
  let digits := s.takeWhile Char.isDigit
  let m := { m with width := (natural? digits).map fun n => min n 4096 }
  let s := s.drop digits.length
  let colons := s.takeWhile (· = ':')
  let s := s.drop colons.length
  let s := match s with
    | 'E' :: rest => rest
    | 'O' :: rest => rest
    | s => s
  ({ m with colons := colons.length }, s)

/-- A number with at least so many digits. -/
def number (m : Manner) (filler : Char) (width : Nat) (n : Int) : Str :=
  let digits := decimal n.natAbs
  let sign : Str := if n < 0 then ['-'] else []
  let width := m.width.getD width
  let filler := match m.padding with
    | .using c => c
    | _ => filler
  match m.padding, m.width with
  | .none, _ => sign ++ digits
  | _, _ =>
    if filler = '0' then sign ++ run (width - sign.length - digits.length) '0' ++ digits
    else run (width - sign.length - digits.length) filler ++ sign ++ digits

/-- A word. -/
def word (m : Manner) (swapsDown : Bool) (s : Str) : Str :=
  let s := if m.upper then toUpper s
    else if m.swapped then (if swapsDown then toLower s else toUpper s)
    else s
  let filler := match m.padding with
    | .using c => c
    | _ => ' '
  run ((m.width.getD 0) - s.length) filler ++ s

/-- The year and the number of the week that a day lies in, where weeks start on Monday and the first one
is that with the first Thursday. -/
def isoWeek (d : Date) : Int × Int :=
  let day : Int := Calendar.dayOfYear d
  let wday : Int := Calendar.weekday (Calendar.daysTo d.year d.month d.day)
  let fromMonday := (wday + 6) % 7
  let week (year : Int) (day : Int) : Int :=
    -- the Monday of the week of January 4
    let fourth := (Calendar.weekday (Calendar.daysTo year 1 4) + 6) % 7
    (day - fromMonday - (3 - fourth)).fdiv 7 + 1
  let lengthOf (year : Int) : Int := Calendar.daysTo (year + 1) 1 1 - Calendar.daysTo year 1 1
  if week d.year day < 1 then (d.year - 1, week (d.year - 1) (day + lengthOf (d.year - 1)))
  else if 1 ≤ week (d.year + 1) (day - lengthOf d.year) then
    (d.year + 1, week (d.year + 1) (day - lengthOf d.year))
  else (d.year, week d.year day)

/-- A zone by its offset, with so many colons. -/
def offset (m : Manner) (z : Zone) : Str :=
  let n := z.minutes.natAbs
  let sign : Str := if z.minutes < 0 then ['-'] else ['+']
  let two (n : Nat) : Str := padZero 2 n
  let body : Str := match m.colons with
    | 0 => two (n / 60) ++ two (n % 60)
    | 1 => two (n / 60) ++ ':' :: two (n % 60)
    | 2 => two (n / 60) ++ ':' :: two (n % 60) ++ ':' :: two 0
    | _ => if n % 60 = 0 then two (n / 60) else two (n / 60) ++ ':' :: two (n % 60)
  sign ++ run ((m.width.getD 0) - 1 - body.length) '0' ++ body

/-- The name at a place of a list. -/
def nameAt (names : List String) (n : Nat) : Str := str ((names[n]?).getD "")

/-- A single part; none if the letter has no meaning. -/
def part? (z : Zone) (t : Time) (m : Manner) (letter : Char) : Option Str :=
  let d := Date.of (t + z.minutes * 60 * second)
  let days := Calendar.daysTo d.year d.month d.day
  let wday := Calendar.weekday days
  let hour12 := if d.hour % 12 = 0 then 12 else d.hour % 12
  let yday := Calendar.dayOfYear d
  match letter with
  | '%' => some ['%']
  | 'n' => some ['\n']
  | 't' => some ['\t']
  | 'a' => some (word m false ((nameAt Calendar.dayNames wday).take 3))
  | 'A' => some (word m false (nameAt Calendar.dayNames wday))
  | 'b' => some (word m false ((nameAt Calendar.monthNames (d.month - 1)).take 3))
  | 'h' => some (word m false ((nameAt Calendar.monthNames (d.month - 1)).take 3))
  | 'B' => some (word m false (nameAt Calendar.monthNames (d.month - 1)))
  | 'C' => some (number m '0' 2 (d.year.fdiv 100))
  | 'd' => some (number m '0' 2 d.day)
  | 'e' => some (number m ' ' 2 d.day)
  | 'g' => some (number m '0' 2 ((isoWeek d).1.fmod 100))
  | 'G' => some (number m '0' 4 (isoWeek d).1)
  | 'H' => some (number m '0' 2 d.hour)
  | 'I' => some (number m '0' 2 hour12)
  | 'j' => some (number m '0' 3 (yday + 1 : Nat))
  | 'k' => some (number m ' ' 2 d.hour)
  | 'l' => some (number m ' ' 2 hour12)
  | 'm' => some (number m '0' 2 d.month)
  | 'M' => some (number m '0' 2 d.minute)
  | 'N' =>
    let nine := padZero 9 d.nanos
    let width := m.width.getD 9
    some (match m.padding with
      | .none => nine.take width
      | _ => nine.take width ++ run (width - 9) '0')
  | 'p' => some (word m true (str (if d.hour < 12 then "AM" else "PM")))
  | 'P' => some (word m true (str (if d.hour < 12 then "am" else "pm")))
  | 'q' => some (number m '0' 1 ((d.month - 1) / 3 + 1 : Nat))
  | 's' => some (number m '0' 1 (t.fdiv second))
  | 'S' => some (number m '0' 2 d.sec)
  | 'u' => some (number m '0' 1 (if wday = 0 then 7 else wday : Nat))
  | 'U' => some (number m '0' 2 ((yday + 7 - wday) / 7 : Nat))
  | 'V' => some (number m '0' 2 (isoWeek d).2)
  | 'w' => some (number m '0' 1 wday)
  | 'W' => some (number m '0' 2 ((yday + 7 - (wday + 6) % 7) / 7 : Nat))
  | 'y' => some (number m '0' 2 (d.year.fmod 100))
  | 'Y' => some (number m '0' 1 d.year)
  | 'z' => some (offset m z)
  | 'Z' => some (word m true z.name)
  | _ => none

/-- What a letter stands for that is short for a format. -/
def abbreviated? : Char → Option String
  | 'c' => some "%a %b %e %H:%M:%S %Y"
  | 'D' => some "%m/%d/%y"
  | 'F' => some "%Y-%m-%d"
  | 'r' => some "%I:%M:%S %p"
  | 'R' => some "%H:%M"
  | 'T' => some "%H:%M:%S"
  | 'x' => some "%m/%d/%y"
  | 'X' => some "%H:%M:%S"
  | _ => none

/-- A format filled in, where `part` fills a directive. -/
def filled (part : Manner → Char → Option Str) : Nat → Str → Str
  | 0, s => s
  | _, [] => []
  | fuel + 1, '%' :: rest =>
    let (m, behind) := manner rest
    match behind with
    | letter :: more =>
      ((part m letter).getD ('%' :: rest.take (rest.length - more.length))) ++ filled part fuel more
    | [] => '%' :: rest
  | fuel + 1, c :: rest => c :: filled part fuel rest

/-- A time in a zone as a format says. -/
def written (z : Zone) (format : Str) (t : Time) : Str :=
  let long (m : Manner) (letter : Char) : Option Str :=
    (part? z t m letter).or <| (abbreviated? letter).map fun inner =>
      word m false (filled (part? z t) (inner.length + 1) (str inner))
  filled long (format.length + 1) format

end StaleBuild.Host.DateText
