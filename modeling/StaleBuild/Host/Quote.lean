import StaleBuild.Host.Text

/-!
Names as programs show them in messages, so that a reader sees where a name begins and ends. There
are two ways: so that a shell would read the name back, and between curly quotation marks.
-/

namespace StaleBuild.Host.Quote

/-- The letter that stands for a control character behind a backslash. -/
def escapeLetter? (c : Char) : Option Char :=
  match c with
  | '\x07' => some 'a'
  | '\x08' => some 'b'
  | '\x0c' => some 'f'
  | '\n' => some 'n'
  | '\r' => some 'r'
  | '\t' => some 't'
  | '\x0b' => some 'v'
  | _ => none

/-- Three octal digits of a byte. -/
def octal (c : Char) : Str :=
  let n := c.toNat
  [n / 64, n / 8 % 8, n % 8].map fun d => Char.ofNat (48 + d)

/-- A byte behind a backslash. -/
def escaped (c : Char) : Str :=
  match escapeLetter? c with
  | some letter => ['\\', letter]
  | none => '\\' :: octal c

/-- Whether a character, as a group of bytes, can be shown as it is. -/
def isShown : Str → Bool
  | [c] => 32 ≤ c.toNat && c.toNat < 127
  | _ => true

/-- The characters that mean something to a shell wherever they stand. -/
def special : List Char := "!\"$&()*;<=>?[\\^|' \t\n\r".toList ++ [Char.ofNat 96]

/-- The characters that mean the same to a shell between quotation marks of either kind. -/
def isPlain (c : Char) : Bool :=
  c.isAlphanum || "%+,-./:]_ '".toList.contains c || (128 ≤ c.toNat)

/-- Whether a shell would not read a name as it is. -/
def isNeeded (s : Str) : Bool :=
  s = [] || s = ['\x7b'] || s = ['\x7d'] || s.head? = some '#' || s.head? = some '~' ||
    (characters s).any fun g => !isShown g || match g with
      | [c] => special.contains c
      | _ => false

/-- The inside of a text between single quotation marks; `open` tells that an escape is open. -/
def inside : Bool → List Str → Str
  | _, [] => []
  | isOpen, g :: rest =>
    if !isShown g then
      (if isOpen then [] else str "'$'") ++ g.flatMap escaped ++ inside true rest
    else
      (if isOpen then str "''" else []) ++
        (if g = ['\''] then str "'\\''" else g) ++ inside false rest

/-- A name between quotation marks, as a shell reads it. -/
def always (s : Str) : Str :=
  if s.contains '\'' && s.all isPlain then '"' :: s ++ ['"']
  else '\'' :: inside false (characters s) ++ ['\'']

/-- A name as a shell reads it, between quotation marks if it needs them. -/
def ifNeeded (s : Str) : Str := if isNeeded s then always s else s

/-- The same where a colon follows, so that a colon in the name needs them too. -/
def beforeColon (s : Str) : Str := if s.contains ':' then always s else ifNeeded s

/-- A name between curly quotation marks. -/
def curly (s : Str) : Str :=
  str "\u2018" ++ ((characters s).flatMap fun g =>
    if !isShown g then g.flatMap escaped else if g = ['\\'] then str "\\\\" else g) ++ str "\u2019"

end StaleBuild.Host.Quote
