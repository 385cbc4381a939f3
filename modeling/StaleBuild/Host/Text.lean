import StaleBuild.Files.Error
import StaleBuild.Path

/-!
Text as programs work on it: one character for each byte, so that nothing is lost of a name or of a
file that is not UTF-8.

`Host` is what programs run on. It is there so that the command of a build can be started and run; the
theorems about builds hold for every launcher, and none of them is about `Host`.
-/

namespace StaleBuild.Host

/-- A text of bytes; no character is above 255. -/
abbrev Str := List Char

/-- The bytes of a file or a name as text. -/
def ofBytes (bytes : Bytes) : Str := bytes.map fun b => Char.ofNat b.toNat

/-- Text as the bytes of a file or a name. -/
def toBytes (s : Str) : Bytes := s.map fun c => UInt8.ofNat c.toNat

/-- The bytes of a string as text. -/
def str (s : String) : Str := ofBytes (Utf8.encode s)

/-- Text in words of the library. -/
def word (s : Str) : String := Utf8.decodeLossy (toBytes s)

/-- A path that a text spells. -/
def pathOf (s : Str) : Path := ⟨toBytes s⟩

/-- The text of a path. -/
def ofPath (p : Path) : Str := ofBytes p.bytes

/-- The system's words for a cause. -/
def reason (cause : FileError) : Str :=
  match cause.systemText? with
  | some (_, words) => str words
  | none => str cause.message

/-! ## Numbers -/

/-- A whole number in decimal digits. -/
def decimal (n : Int) : Str := (toString n).toList

/-- The value of a digit or a letter in bases up to 36. -/
def digitValue? (c : Char) : Option Nat :=
  if c.isDigit then some (c.toNat - 48)
  else if c.isLower then some (c.toNat - 87)
  else if c.isUpper then some (c.toNat - 55)
  else none

/-- Whether a character is a digit in a base. -/
def isDigitIn (base : Nat) (c : Char) : Bool :=
  match digitValue? c with
  | some d => d < base
  | none => false

/-- The number that the digits of a text spell in a base, whatever is in between. -/
def foldDigits (base : Nat) (s : Str) : Nat :=
  s.foldl (fun n c => n * base + (digitValue? c).getD 0) 0

/-- The number that a text of digits spells in a base. -/
def naturalIn? (base : Nat) (s : Str) : Option Nat :=
  if s ≠ [] ∧ s.all (isDigitIn base) then some (foldDigits base s) else none

/-- The number that a text of decimal digits spells. -/
def natural? (s : Str) : Option Nat := naturalIn? 10 s

/-- The number that decimal digits behind an optional sign spell. -/
def integer? : Str → Option Int
  | '-' :: digits => (natural? digits).map fun n => -(n : Int)
  | '+' :: digits => (natural? digits).map Int.ofNat
  | digits => (natural? digits).map Int.ofNat

/-- The digits of a number in a base up to 16. -/
def digitsIn (base n : Nat) : Str := Nat.toDigits base n

/-! ## Padding -/

/-- So many times the same character. -/
def run (n : Nat) (c : Char) : Str := List.replicate n c

/-- Text set to the right of a column. -/
def padLeft (width : Nat) (s : Str) : Str := run (width - s.length) ' ' ++ s

/-- Text set to the left of a column. -/
def padRight (width : Nat) (s : Str) : Str := s ++ run (width - s.length) ' '

/-- A number in decimal digits with zeros in front. -/
def padZero (width n : Nat) : Str :=
  let digits := decimal n
  run (width - digits.length) '0' ++ digits

/-! ## Classes of characters -/

/-- White space of the plain locale. -/
def isSpace (c : Char) : Bool :=
  c = ' ' || c = '\t' || c = '\n' || c = '\r' || c = '\x0b' || c = '\x0c'

/-- A space or a tab. -/
def isBlank (c : Char) : Bool := c = ' ' || c = '\t'

/-- What names of variables start with. -/
def isNameStart (c : Char) : Bool := c.isAlpha || c = '_'

/-- What names of variables go on with. -/
def isNamePart (c : Char) : Bool := c.isAlphanum || c = '_'

/-- Whether a text is the name of a variable. -/
def isName : Str → Bool
  | [] => false
  | c :: rest => isNameStart c && rest.all isNamePart

/-! ## Parts -/

/-- The text without characters of a class at its end. -/
def dropEnd (p : Char → Bool) (s : Str) : Str := (s.reverse.dropWhile p).reverse

/-- The text without characters of a class at its two ends. -/
def trimBy (p : Char → Bool) (s : Str) : Str := dropEnd p (s.dropWhile p)

/-- The text up to a separator, and what follows if it is there. -/
def cut (separator : Char) (s : Str) : Str × Option Str :=
  let front := s.takeWhile (· ≠ separator)
  match s.drop front.length with
  | [] => (front, none)
  | _ :: rest => (front, some rest)

/-- The parts of a text between separators; the parts and their number come back in reverse. -/
def splitOnAux (separator : Char) : Str → Str → List Str → List Str
  | [], part, parts => (part.reverse :: parts).reverse
  | c :: rest, part, parts =>
    if c = separator then splitOnAux separator rest [] (part.reverse :: parts)
    else splitOnAux separator rest (c :: part) parts

/-- The parts of a text between separators, one more than there are separators. -/
def splitOn (separator : Char) (s : Str) : List Str := splitOnAux separator s [] []

/-- Lines read so far, last one first, and the line being read, reversed. -/
def splitLinesAux : Str → Str → List Str → List Str
  | [], [], lines => lines.reverse
  | [], line, lines => (line.reverse :: lines).reverse
  | c :: rest, line, lines =>
    if c = '\n' then splitLinesAux rest [] ((c :: line).reverse :: lines)
    else splitLinesAux rest (c :: line) lines

/-- The lines of a text, each with its line break; the last one may have none. -/
def splitLines (s : Str) : List Str := splitLinesAux s [] []

/-- A line without its line break. -/
def chomp (line : Str) : Str := if line.getLast? = some '\n' then line.dropLast else line

/-- The lines of a text without their line breaks. -/
def linesOf (s : Str) : List Str := (splitLines s).map chomp

/-- Lines as a text. -/
def unlines (lines : List Str) : Str := lines.flatMap (· ++ ['\n'])

/-- Texts with a separator between them. -/
def joinWith (separator : Str) : List Str → Str
  | [] => []
  | s :: rest => s ++ rest.flatMap (separator ++ ·)

/-- The words of a text between white space. -/
def wordsOf (s : Str) : List Str :=
  ((splitOn ' ' (s.map fun c => if isSpace c then ' ' else c))).filter (· ≠ [])

/-- Whether a text stands somewhere in another one. -/
def contains (part : Str) : Str → Bool
  | [] => part.isEmpty
  | c :: rest => part.isPrefixOf (c :: rest) || contains part rest

/-- A text in lower case. -/
def toLower (s : Str) : Str := s.map Char.toLower

/-- A text in upper case. -/
def toUpper (s : Str) : Str := s.map Char.toUpper

/-! ## Names of files -/

/-- The last name of a path in the sense of `basename`: separators at the end do not count. -/
def baseName (s : Str) : Str :=
  let t := dropEnd (· = '/') s
  if t = [] then (if s = [] then [] else ['/'])
  else (t.reverse.takeWhile (· ≠ '/')).reverse

/-- The directory of a path in the sense of `dirname`. -/
def dirName (s : Str) : Str :=
  let t := dropEnd (· = '/') s
  if t = [] then (if s = [] then ['.'] else ['/'])
  else
    let above := (t.reverse.dropWhile (· ≠ '/')).reverse
    if above = [] then ['.']
    else
      let above := dropEnd (· = '/') above
      if above = [] then ['/'] else above

/-- A name in a directory as a path. -/
def pathJoin (dir name : Str) : Str :=
  if dir = [] || dir.getLast? = some '/' then dir ++ name else dir ++ '/' :: name

/-! ## Characters of more than one byte -/

/-- How many bytes a character takes that starts with this byte. -/
def leadWidth (c : Char) : Nat :=
  let n := c.toNat
  if n < 0xC2 then 1 else if n < 0xE0 then 2 else if n < 0xF0 then 3 else if n < 0xF5 then 4 else 1

/-- The characters of a text as groups of bytes; a byte that no character starts with, or whose
character is broken off, stands alone. -/
def charactersWithin : Nat → Str → List Str
  | 0, _ => []
  | _, [] => []
  | fuel + 1, c :: rest =>
    let width := leadWidth c
    let tail := rest.take (width - 1)
    if tail.length = width - 1 && tail.all fun d => d.toNat / 64 = 2 then
      (c :: tail) :: charactersWithin fuel (rest.drop (width - 1))
    else [c] :: charactersWithin fuel rest

/-- The characters of a text as groups of bytes. -/
def characters (s : Str) : List Str :=
  if s.all fun c => c.toNat < 128 then s.map fun c => [c] else charactersWithin s.length s

end StaleBuild.Host
