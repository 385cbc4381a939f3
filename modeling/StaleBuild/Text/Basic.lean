import StaleBuild.Power
import StaleBuild.Text.Printable

/-!
Texts as lists of characters: their lines, the blanks at their ends, the counts that they spell, and
how a text is shown in quotes.
-/

namespace StaleBuild.Text

/-! ## Lines

A line ends in a line feed, which it does not keep, nor the carriage return just before that; the last
line may lack its end and then keeps all it has. A text that is empty after its last line feed has no
further line. -/
/-- The lines of a text, each without its end. -/
def lines : List Char → List (List Char)
  | [] => []
  | '\n' :: rest => [] :: lines rest
  | '\r' :: '\n' :: rest => [] :: lines rest
  | c :: rest =>
    match lines rest with
    | [] => [[c]]
    | line :: more => (c :: line) :: more

/-! ## Blanks

A character is blank when it has the Unicode property `White_Space`; trimming takes blanks off the two
ends of a text and leaves those inside. -/
/-- The Unicode property `White_Space`. -/
def isBlank (c : Char) : Bool :=
  let n := c.toNat
  (0x9 ≤ n && n ≤ 0xD) || n = 0x20 || n = 0x85 || n = 0xA0 || n = 0x1680 ||
    (0x2000 ≤ n && n ≤ 0x200A) || n = 0x2028 || n = 0x2029 || n = 0x202F || n = 0x205F ||
    n = 0x3000

/-- A list without the elements at its end that satisfy `p`. -/
def dropWhileEnd {α : Type} (p : α → Bool) (cs : List α) : List α :=
  (cs.reverse.dropWhile p).reverse

/-- A text without the blanks at its ends. -/
def trimChars (cs : List Char) : List Char := dropWhileEnd isBlank (cs.dropWhile isBlank)

/-- Whether a text holds nothing but blanks. -/
def isAllBlank (s : String) : Bool := s.toList.all isBlank

/-! ## Counts

Decimal digits with an optional plus sign, for a number of at most 64 bits. -/
/-- The greatest count. -/
def countLimit : Nat := 2 ^ 64 - 1

/-- The value of decimal digits behind those already read; none at the first other character. -/
def digitsFrom? (value : Nat) : List Char → Option Nat
  | [] => some value
  | c :: rest => if c.isDigit then digitsFrom? (value * 10 + (c.toNat - 48)) rest else none

/-- The digits behind an optional plus sign. -/
def withoutPlus : List Char → List Char
  | '+' :: rest => rest
  | cs => cs

/-- The number that a text spells. -/
def count? (cs : List Char) : Option Nat :=
  let digits := withoutPlus cs
  if digits = [] then none
  else match digitsFrom? 0 digits with
    | some n => if n ≤ countLimit then some n else none
    | none => none

/-! ## Quotes

Double quotes around, a backslash before a quote or a backslash, short names for the common controls,
and the code point in braces for any other character that does not show. An apostrophe stands as it
is. -/
/-- The digits of a number in base sixteen, in lower case. -/
def hexDigits (n : Nat) : List Char := Nat.toDigits 16 n

/-- The quoted form of one character. -/
def quoteChar (c : Char) : List Char :=
  if c = '"' then ['\\', '"']
  else if c = '\\' then ['\\', '\\']
  else if c = '\n' then ['\\', 'n']
  else if c = '\r' then ['\\', 'r']
  else if c = '\t' then ['\\', 't']
  else if c.toNat = 0 then ['\\', '0']
  else if isPrintable c then [c]
  else '\\' :: 'u' :: '\x7b' :: hexDigits c.toNat ++ ['\x7d']

/-- The quoted form of a text. -/
def quoted (s : String) : String :=
  String.ofList ('"' :: s.toList.flatMap quoteChar ++ ['"'])

end StaleBuild.Text
