import StaleBuild.Host.Text

/-!
Patterns: `*` stands for any text, `?` for any character and a bracket for one of a set. A character
that was quoted stands for itself. A text is taken byte by byte; where characters of more than one
byte count as one, both the pattern and the text are given as code points.
-/

namespace StaleBuild.Shell

open Host (Str)

/-- A character of an expanded word; a literal one has no meaning in a pattern. -/
structure Glyph where
  char : Char
  isLiteral : Bool
deriving DecidableEq

namespace Pattern

/-- A member of a set. -/
inductive Member where
  | range (first last : Char)
  /-- The characters of a class. -/
  | named (name : Str)

/-- What one place of a pattern accepts. -/
inductive Item where
  | anyText
  | anyChar
  | char (c : Char)
  | oneOf (negated : Bool) (members : List Member)

end Pattern

/-- A pattern. -/
abbrev Pattern := List Pattern.Item

namespace Pattern

/-- Whether a character belongs to a class. -/
def isInClass (name : Str) (c : Char) : Bool :=
  match String.ofList name with
  | "alpha" => c.isAlpha
  | "digit" => c.isDigit
  | "alnum" => c.isAlphanum
  | "upper" => c.isUpper
  | "lower" => c.isLower
  | "space" => Host.isSpace c
  | "blank" => Host.isBlank c
  | "punct" => 32 < c.toNat && c.toNat < 127 && !c.isAlphanum
  | "cntrl" => c.toNat < 32 || c.toNat = 127
  | "print" => 32 ≤ c.toNat && c.toNat < 127
  | "graph" => 32 < c.toNat && c.toNat < 127
  | "xdigit" => Host.isDigitIn 16 c
  | _ => false

/-- The name of a class that starts here, and what follows it. -/
def className? (gs : List Glyph) : Option (Str × List Glyph) :=
  match gs with
  | ⟨'[', false⟩ :: ⟨':', false⟩ :: rest =>
    let name := rest.takeWhile fun g => g.char.isAlpha
    match rest.drop name.length with
    | ⟨':', false⟩ :: ⟨']', false⟩ :: after => some (name.map Glyph.char, after)
    | _ => none
  | _ => none

/-- The members of a set up to its closing bracket, which may come first as a member, and what
follows it. -/
def members? : Nat → Bool → List Glyph → Option (List Member × List Glyph)
  | 0, _, _ => none
  | fuel + 1, isFirst, gs =>
    match className? gs with
    | some (name, after) =>
      (members? fuel false after).map fun (ms, rest) => (.named name :: ms, rest)
    | none =>
      match gs with
      | [] => none
      | g :: rest =>
        if g = ⟨']', false⟩ && !isFirst then some ([], rest)
        else match rest with
          | ⟨'-', false⟩ :: last :: after =>
            if last = ⟨']', false⟩ then
              (members? fuel false rest).map fun (ms, rest) => (.range g.char g.char :: ms, rest)
            else
              (members? fuel false after).map fun (ms, rest) => (.range g.char last.char :: ms, rest)
          | _ => (members? fuel false rest).map fun (ms, rest) => (.range g.char g.char :: ms, rest)

/-- The set that a bracket opens, and what follows it. -/
def set? (caret : Bool) (gs : List Glyph) : Option (Item × List Glyph) :=
  let negated := match gs.head? with
    | some g => !g.isLiteral && (g.char = '!' || (caret && g.char = '^'))
    | none => false
  let inner := if negated then gs.drop 1 else gs
  (members? (inner.length + 1) true inner).map fun (ms, rest) => (.oneOf negated ms, rest)

/-- The pattern of an expanded word; `caret` tells that a caret negates a set as well. -/
def read (caret : Bool) : Nat → List Glyph → Pattern
  | 0, _ => []
  | _ + 1, [] => []
  | fuel + 1, g :: rest =>
    if g.isLiteral then .char g.char :: read caret fuel rest
    else if g.char = '*' then .anyText :: read caret fuel rest
    else if g.char = '?' then .anyChar :: read caret fuel rest
    else if g.char = '[' then
      match set? caret rest with
      | some (item, after) => item :: read caret fuel after
      | none => .char g.char :: read caret fuel rest
    else .char g.char :: read caret fuel rest

/-- The pattern of an expanded word. -/
def ofGlyphs (caret : Bool) (gs : List Glyph) : Pattern := read caret (gs.length + 1) gs

/-- Whether a word has a character that makes it a pattern. -/
def isPattern (gs : List Glyph) : Bool :=
  gs.any fun g => !g.isLiteral && (g.char = '*' || g.char = '?' || g.char = '[')

/-- Whether a member of a set is a character. -/
def Member.accepts (c : Char) : Member → Bool
  | .range a b => a ≤ c && c ≤ b
  | .named name => isInClass name c

/-- Whether a place accepts a character. -/
def Item.accepts (c : Char) : Item → Bool
  | .anyText => true
  | .anyChar => true
  | .char d => c = d
  | .oneOf negated ms => (ms.any (Member.accepts c)) != negated

/-- Whether some end of a text passes a test. -/
def someEnd (test : Str → Bool) : Str → Bool
  | [] => test []
  | c :: rest => test (c :: rest) || someEnd test rest

/-- Whether a pattern accepts a text. -/
def accepts : Pattern → Str → Bool
  | [], s => s.isEmpty
  | [.anyText], _ => true
  | .anyText :: p, s => someEnd (accepts p) s
  | item :: p, s =>
    match s with
    | [] => false
    | c :: rest => item.accepts c && accepts p rest

/-- The text without an end that the pattern accepts. -/
def dropEnd (longest : Bool) (p : Pattern) (s : Str) : Str :=
  let isKept (n : Nat) : Bool := accepts p (s.drop n)
  let lengths := List.range (s.length + 1)
  match if longest then lengths.find? isKept else lengths.reverse.find? isKept with
  | some n => s.take n
  | none => s

/-- The text without a start that the pattern accepts. -/
def dropStart (longest : Bool) (p : Pattern) (s : Str) : Str :=
  let isDropped (n : Nat) : Bool := accepts p (s.take n)
  let lengths := List.range (s.length + 1)
  match if longest then lengths.reverse.find? isDropped else lengths.find? isDropped with
  | some n => s.drop n
  | none => s

/-- The length of the longest start that the pattern accepts. -/
def longestStart? (p : Pattern) (s : Str) : Option Nat :=
  (List.range (s.length + 1)).reverse.find? fun n => accepts p (s.take n)

/-- The text with matches of a pattern replaced: the first one, or all that do not overlap. -/
def replace (p : Pattern) (all : Bool) (new : Str → Str) : Nat → Str → Str
  | 0, s => s
  | fuel + 1, s =>
    match longestStart? p s with
    | some n =>
      if n = 0 then
        match s with
        | [] => []
        | c :: rest => c :: replace p all new fuel rest
      else new (s.take n) ++ (if all then replace p all new fuel (s.drop n) else s.drop n)
    | none =>
      match s with
      | [] => []
      | c :: rest => c :: replace p all new fuel rest

/-- The characters of a pattern as a program is given it; a backslash takes the meaning from the next
one. -/
def givenGlyphs : Str → List Glyph
  | [] => []
  | '\\' :: c :: rest => ⟨c, true⟩ :: givenGlyphs rest
  | c :: rest => ⟨c, false⟩ :: givenGlyphs rest

/-- Whether a pattern that a program is given accepts a text. -/
def globAccepts (pattern text : Str) : Bool := (ofGlyphs true (givenGlyphs pattern)).accepts text

end Pattern

end StaleBuild.Shell
