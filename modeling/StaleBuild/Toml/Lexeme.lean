/-!
The words of a TOML document: blanks, comments, line ends, strings and keys. A reader takes the
characters that are left and gives what it read with the rest, or nothing if the text is no TOML.
-/

namespace StaleBuild.Toml

/-- Reads a value from the front of a text. -/
abbrev Reader (α : Type) := List Char → Option (α × List Char)

/-! ## Between words -/

def isSpace (c : Char) : Bool := c = ' ' || c = '\t'

/-- Skip blanks on the line. -/
def skipSpaces (cs : List Char) : List Char := cs.dropWhile isSpace

/-- Characters that may stand in a comment or a string: no controls but the tab. -/
def isPlain (c : Char) : Bool := c = '\t' || (0x20 ≤ c.toNat && c.toNat ≠ 0x7F)

/-- Skip the rest of a comment and the line end behind it. -/
def skipComment : List Char → Option (List Char)
  | [] => some []
  | '\n' :: rest => some rest
  | '\r' :: '\n' :: rest => some rest
  | c :: rest => if isPlain c then skipComment rest else none

/-- The rest of a line that holds no more than blanks and a comment. -/
def lineEnd (cs : List Char) : Option (List Char) :=
  match skipSpaces cs with
  | [] => some []
  | '\n' :: rest => some rest
  | '\r' :: '\n' :: rest => some rest
  | '#' :: rest => skipComment rest
  | _ => none

/-- Skip blanks, line ends and comments; `inComment` says where the text starts. -/
def skipFiller (inComment : Bool) : List Char → Option (List Char)
  | [] => some []
  | '\n' :: rest => skipFiller false rest
  | '\r' :: '\n' :: rest => skipFiller false rest
  | c :: rest =>
    if inComment then if isPlain c then skipFiller true rest else none
    else if isSpace c then skipFiller false rest
    else if c = '#' then skipFiller true rest
    else some (c :: rest)

/-! ## Strings -/

/-- The value of a digit in base sixteen. -/
def hexDigit? (c : Char) : Option Nat :=
  if '0' ≤ c && c ≤ '9' then some (c.toNat - 48)
  else if 'a' ≤ c && c ≤ 'f' then some (c.toNat - 87)
  else if 'A' ≤ c && c ≤ 'F' then some (c.toNat - 55)
  else none

/-- The number that digits in base sixteen spell. -/
def hexNumber? : List Char → Option Nat :=
  List.foldl (fun acc c => acc.bind fun n => (hexDigit? c).map (n * 16 + ·)) (some 0)

/-- The character with a given code point, if there is one. -/
def scalar? (digits : List Char) : Option Char :=
  (hexNumber? digits).bind fun n =>
    if n < 0xD800 ∨ (0xDFFF < n ∧ n < 0x110000) then some (Char.ofNat n) else none

/-- The character that a backslash and a letter stand for. -/
def shortEscape? : Char → Option Char
  | 'b' => some '\x08'
  | 't' => some '\t'
  | 'n' => some '\n'
  | 'f' => some '\x0c'
  | 'r' => some '\r'
  | '"' => some '"'
  | '\\' => some '\\'
  | _ => none

/-- Put a character in front of what a reader gave. -/
def consTo (c? : Option Char) (read : Option (List Char × List Char)) :
    Option (List Char × List Char) :=
  match c?, read with
  | some c, some (cs, rest) => some (c :: cs, rest)
  | _, _ => none

/-- The rest of a string in double quotes. -/
def basicString : Reader (List Char)
  | [] => none
  | '"' :: rest => some ([], rest)
  | '\\' :: 'u' :: a :: b :: c :: d :: rest => consTo (scalar? [a, b, c, d]) (basicString rest)
  | '\\' :: 'U' :: a :: b :: c :: d :: e :: f :: g :: h :: rest =>
    consTo (scalar? [a, b, c, d, e, f, g, h]) (basicString rest)
  | '\\' :: c :: rest => consTo (shortEscape? c) (basicString rest)
  | c :: rest => if isPlain c ∧ c ≠ '\\' then consTo (some c) (basicString rest) else none

/-- The rest of a string in single quotes. -/
def literalString : Reader (List Char)
  | [] => none
  | '\'' :: rest => some ([], rest)
  | c :: rest => if isPlain c then consTo (some c) (literalString rest) else none

/-- Whether a line ends here, behind blanks at most. -/
def lineEndsHere (cs : List Char) : Bool :=
  match skipSpaces cs with
  | '\n' :: _ => true
  | '\r' :: '\n' :: _ => true
  | _ => false

/-- The rest of a string in three double quotes. Behind a backslash at the end of a line, blanks and
line ends are `folding` away. Up to two quotes may stand before the closing three. -/
def longBasicString (folding : Bool) : Reader (List Char)
  | [] => none
  | '"' :: '"' :: '"' :: '"' :: '"' :: rest => some (['"', '"'], rest)
  | '"' :: '"' :: '"' :: '"' :: rest => some (['"'], rest)
  | '"' :: '"' :: '"' :: rest => some ([], rest)
  | '\n' :: rest =>
    if folding then longBasicString true rest else consTo (some '\n') (longBasicString false rest)
  | '\r' :: '\n' :: rest =>
    if folding then longBasicString true rest else consTo (some '\n') (longBasicString false rest)
  | '\\' :: 'u' :: a :: b :: c :: d :: rest =>
    consTo (scalar? [a, b, c, d]) (longBasicString false rest)
  | '\\' :: 'U' :: a :: b :: c :: d :: e :: f :: g :: h :: rest =>
    consTo (scalar? [a, b, c, d, e, f, g, h]) (longBasicString false rest)
  | '\\' :: c :: rest =>
    if lineEndsHere (c :: rest) then longBasicString true (c :: rest)
    else consTo (shortEscape? c) (longBasicString false rest)
  | c :: rest =>
    if folding ∧ isSpace c then longBasicString true rest
    else if isPlain c ∧ c ≠ '\\' then consTo (some c) (longBasicString false rest)
    else none

/-- The rest of a string in three single quotes. -/
def longLiteralString : Reader (List Char)
  | [] => none
  | '\'' :: '\'' :: '\'' :: '\'' :: '\'' :: rest => some (['\'', '\''], rest)
  | '\'' :: '\'' :: '\'' :: '\'' :: rest => some (['\''], rest)
  | '\'' :: '\'' :: '\'' :: rest => some ([], rest)
  | '\n' :: rest => consTo (some '\n') (longLiteralString rest)
  | '\r' :: '\n' :: rest => consTo (some '\n') (longLiteralString rest)
  | c :: rest => if isPlain c then consTo (some c) (longLiteralString rest) else none

/-- A line end right behind the opening of a long string does not belong to it. -/
def skipFirstNewline : List Char → List Char
  | '\n' :: rest => rest
  | '\r' :: '\n' :: rest => rest
  | cs => cs

/-- A string of any of the four forms; none if the text does not start with a quote. -/
def string? : Reader (List Char)
  | '"' :: '"' :: '"' :: rest => longBasicString false (skipFirstNewline rest)
  | '\'' :: '\'' :: '\'' :: rest => longLiteralString (skipFirstNewline rest)
  | '"' :: rest => basicString rest
  | '\'' :: rest => literalString rest
  | _ => none

/-! ## Keys -/

def isBareKeyChar (c : Char) : Bool := c.isAlphanum || c = '_' || c = '-'

/-- One part of a key. -/
def simpleKey : Reader String
  | '"' :: rest => (basicString rest).map fun (cs, rest) => (String.ofList cs, rest)
  | '\'' :: rest => (literalString rest).map fun (cs, rest) => (String.ofList cs, rest)
  | cs =>
    let bare := cs.takeWhile isBareKeyChar
    if bare = [] then none else some (String.ofList bare, cs.drop bare.length)

/-- The nesting at which a document is refused. -/
def depthLimit : Nat := 80

/-- A key of at most `fuel` parts with full stops between them; blanks may stand around a part. -/
def keyWithin : Nat → Reader (List String)
  | 0, _ => none
  | fuel + 1, cs =>
    match simpleKey (skipSpaces cs) with
    | none => none
    | some (part, rest) =>
      match skipSpaces rest with
      | '.' :: more => (keyWithin fuel more).map fun (parts, rest) => (part :: parts, rest)
      | rest => some ([part], rest)

/-- A key; one of too many parts is refused. -/
def key : Reader (List String) := keyWithin (depthLimit - 1)

end StaleBuild.Toml
