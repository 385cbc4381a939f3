/-!
JSON documents as the program prints them. There are two layouts: compact, on one line, and
indented, with one item a line and two spaces a level. An empty list or object is always on one
line. Fields come in the order given.
-/

namespace StaleBuild

/-- A JSON document, without the kinds of value that are never printed. -/
inductive Json where
  | number (n : Nat)
  | text (s : String)
  | list (items : List Json)
  | object (fields : List (String × Json))

namespace Json

/-- The escaped form of one character inside a JSON string. -/
def escapeChar (c : Char) : List Char :=
  if c = '"' then ['\\', '"']
  else if c = '\\' then ['\\', '\\']
  else if c = '\n' then ['\\', 'n']
  else if c = '\r' then ['\\', 'r']
  else if c = '\t' then ['\\', 't']
  else if c.toNat = 0x8 then ['\\', 'b']
  else if c.toNat = 0xC then ['\\', 'f']
  else if c.toNat < 0x10 then ['\\', 'u', '0', '0', '0'] ++ Nat.toDigits 16 c.toNat
  else if c.toNat < 0x20 then ['\\', 'u', '0', '0'] ++ Nat.toDigits 16 c.toNat
  else [c]

/-- A JSON string. -/
def string (s : String) : String :=
  String.ofList ('"' :: s.toList.flatMap escapeChar ++ ['"'])

mutual

/-- The document on one line, without blanks. -/
def compact : Json → String
  | .number n => toString n
  | .text s => string s
  | .list items => "[" ++ compactItems items ++ "]"
  | .object fields => "\x7b" ++ compactFields fields ++ "\x7d"

def compactItems : List Json → String
  | [] => ""
  | [j] => compact j
  | j :: rest => compact j ++ "," ++ compactItems rest

def compactFields : List (String × Json) → String
  | [] => ""
  | [(name, j)] => string name ++ ":" ++ compact j
  | (name, j) :: rest => string name ++ ":" ++ compact j ++ "," ++ compactFields rest

end

/-- A line break and the indentation of a level. -/
def newline (level : Nat) : String := "\n" ++ String.ofList (List.replicate (2 * level) ' ')

mutual

/-- The document with one item a line, its own lines at the given level. -/
def indentedAt (level : Nat) : Json → String
  | .number n => toString n
  | .text s => string s
  | .list [] => "[]"
  | .list items => "[" ++ indentedItems (level + 1) items ++ newline level ++ "]"
  | .object [] => "\x7b\x7d"
  | .object fields => "\x7b" ++ indentedFields (level + 1) fields ++ newline level ++ "\x7d"

def indentedItems (level : Nat) : List Json → String
  | [] => ""
  | [j] => newline level ++ indentedAt level j
  | j :: rest => newline level ++ indentedAt level j ++ "," ++ indentedItems level rest

def indentedFields (level : Nat) : List (String × Json) → String
  | [] => ""
  | [(name, j)] => newline level ++ string name ++ ": " ++ indentedAt level j
  | (name, j) :: rest =>
    newline level ++ string name ++ ": " ++ indentedAt level j ++ "," ++ indentedFields level rest

end

/-- The document with one item a line. -/
def indented (j : Json) : String := indentedAt 0 j

end Json

end StaleBuild
