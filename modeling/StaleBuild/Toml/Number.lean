import StaleBuild.Toml.Lexeme
import StaleBuild.Toml.Table

/-!
Numbers and moments of a TOML document. Each is a word of its own, so a whole word is read and has
to fit one of the forms: an integer of 64 bits in base two, eight, ten or sixteen, a float, a date,
a time of day, or a date with a time and perhaps an offset.
-/

namespace StaleBuild.Toml

/-! ## Numbers -/

/-- Digits in which single underscores may stand between two digits; the digits alone. -/
def digitGroup? (isDigit : Char → Bool) : List Char → Option (List Char)
  | [] => none
  | [c] => if isDigit c then some [c] else none
  | c :: '_' :: rest => if isDigit c then (digitGroup? isDigit rest).map (c :: ·) else none
  | c :: rest => if isDigit c then (digitGroup? isDigit rest).map (c :: ·) else none

/-- The sign in front of a word. -/
def takeSign : List Char → Bool × List Char
  | '-' :: rest => (true, rest)
  | '+' :: rest => (false, rest)
  | cs => (false, cs)

/-- Decimal digits without a superfluous zero in front. -/
def decimalDigits? (cs : List Char) : Option (List Char) :=
  match digitGroup? Char.isDigit cs with
  | some ('0' :: _ :: _) => none
  | digits => digits

/-- The number that digits in a base spell. -/
def valueOf (base : Nat) (digits : List Char) : Nat :=
  digits.foldl (fun n c => n * base + (hexDigit? c).getD 0) 0

/-- The integer, if 64 bits hold it. -/
def integer? (n : Int) : Option Toml :=
  if -(2 ^ 63) ≤ n ∧ n < 2 ^ 63 then some (.integer n) else none

def isBinaryDigit (c : Char) : Bool := c = '0' || c = '1'

def isOctalDigit (c : Char) : Bool := '0' ≤ c && c ≤ '7'

/-- A word as an integer. -/
def readInteger (word : List Char) : Option Toml :=
  match word with
  | '0' :: 'x' :: rest =>
    (digitGroup? (fun c => (hexDigit? c).isSome) rest).bind fun ds => integer? (valueOf 16 ds)
  | '0' :: 'o' :: rest => (digitGroup? isOctalDigit rest).bind fun ds => integer? (valueOf 8 ds)
  | '0' :: 'b' :: rest => (digitGroup? isBinaryDigit rest).bind fun ds => integer? (valueOf 2 ds)
  | _ =>
    let (negative, rest) := takeSign word
    (decimalDigits? rest).bind fun ds =>
      integer? (if negative then -(valueOf 10 ds : Int) else valueOf 10 ds)

/-- A word cut at the first of the given characters: what is ahead, and what is behind if there is
one. -/
def cutAt (isMark : Char → Bool) (word : List Char) : List Char × Option (List Char) :=
  let ahead := word.takeWhile fun c => !isMark c
  match word.drop ahead.length with
  | _ :: behind => (ahead, some behind)
  | [] => (ahead, none)

/-- The power of ten behind the mark of an exponent. -/
def exponent? : Option (List Char) → Option Int
  | none => some 0
  | some word =>
    let (negative, rest) := takeSign word
    (digitGroup? Char.isDigit rest).map fun ds =>
      if negative then -(valueOf 10 ds : Int) else valueOf 10 ds

/-- The digits behind the point of a float. -/
def fraction? : Option (List Char) → Option (List Char)
  | none => some []
  | some word => digitGroup? Char.isDigit word

/-- A word as a float. Positive numbers that are too great are refused; negative ones become
infinite. -/
def readFloat (word : List Char) : Option Toml :=
  let (negative, unsigned) := takeSign word
  if unsigned = "inf".toList then some (.float (.infinite negative))
  else if unsigned = "nan".toList then some (.float .notANumber)
  else
    let (ahead, exponentPart) := cutAt (fun c => c = 'e' || c = 'E') unsigned
    let (whole, fractionPart) := cutAt (· = '.') ahead
    if exponentPart.isNone ∧ fractionPart.isNone then none
    else
      match decimalDigits? whole, fraction? fractionPart, exponent? exponentPart with
      | some ws, some fs, some e =>
        let digits := valueOf 10 (ws ++ fs)
        let length := (Nat.toDigits 10 digits).length
        match Decimal.ofDecimal negative digits length (e - fs.length) with
        | .infinite false => none
        | x => some (.float x)
      | _, _, _ => none

/-! ## Moments -/

/-- The number of exactly this many decimal digits. -/
def fixedNumber? (cs : List Char) : Option Nat :=
  if cs.all Char.isDigit then some (valueOf 10 cs) else none

def isLeapYear (year : Nat) : Bool := year % 4 = 0 && (year % 100 ≠ 0 || year % 400 = 0)

/-- How many days a month has. -/
def daysIn (year month : Nat) : Nat :=
  if month = 2 then if isLeapYear year then 29 else 28
  else if month = 4 || month = 6 || month = 9 || month = 11 then 30
  else 31

/-- Whether the text starts with a date; the rest. -/
def date? : List Char → Option (List Char)
  | a :: b :: c :: d :: '-' :: e :: f :: '-' :: g :: h :: rest =>
    match fixedNumber? [a, b, c, d], fixedNumber? [e, f], fixedNumber? [g, h] with
    | some year, some month, some day =>
      if 1 ≤ month ∧ month ≤ 12 ∧ 1 ≤ day ∧ day ≤ daysIn year month then some rest else none
    | _, _, _ => none
  | _ => none

/-- The rest behind the fraction of a second, if there is one. -/
def secondFraction? : List Char → Option (List Char)
  | '.' :: rest =>
    let digits := rest.takeWhile Char.isDigit
    if digits = [] then none else some (rest.drop digits.length)
  | rest => some rest

/-- Whether the text starts with a time of day; the rest. -/
def timeOfDay? : List Char → Option (List Char)
  | a :: b :: ':' :: c :: d :: ':' :: e :: f :: rest =>
    match fixedNumber? [a, b], fixedNumber? [c, d], fixedNumber? [e, f] with
    | some hour, some minute, some second =>
      if hour ≤ 23 ∧ minute ≤ 59 ∧ second ≤ 60 then secondFraction? rest else none
    | _, _, _ => none
  | _ => none

/-- Whether a text is the offset of a time, or empty. -/
def isOffset : List Char → Bool
  | [] => true
  | ['Z'] => true
  | ['z'] => true
  | [sign, a, b, ':', c, d] =>
    (sign = '+' || sign = '-') &&
      match fixedNumber? [a, b], fixedNumber? [c, d] with
      | some hour, some minute => hour ≤ 23 && minute ≤ 59
      | _, _ => false
  | _ => false

/-- Whether a word is a moment. -/
def isMoment (word : List Char) : Bool :=
  match date? word with
  | some [] => true
  | some (sep :: rest) =>
    (sep = 'T' || sep = 't' || sep = ' ') &&
      match timeOfDay? rest with
      | some offset => isOffset offset
      | none => false
  | none => timeOfDay? word = some []

/-! ## Words -/

/-- Characters of which a number or a moment consists. -/
def isWordChar (c : Char) : Bool :=
  c.isAlphanum || c = '_' || c = '+' || c = '-' || c = '.' || c = ':'

/-- The word at the front of a text. A date takes the time with it that follows behind one
blank. -/
def takeWord (cs : List Char) : List Char × List Char :=
  let word := cs.takeWhile isWordChar
  let rest := cs.drop word.length
  match rest with
  | ' ' :: more =>
    let next := more.takeWhile isWordChar
    if date? word = some [] ∧ (next.head?.map Char.isDigit).getD false then
      (word ++ ' ' :: next, more.drop next.length)
    else (word, rest)
  | _ => (word, rest)

/-- The value that a word stands for. -/
def wordValue? (word : List Char) : Option Toml :=
  if word = "true".toList then some (.boolean true)
  else if word = "false".toList then some (.boolean false)
  else if isMoment word then some .moment
  else (readInteger word).orElse fun _ => readFloat word

end StaleBuild.Toml
