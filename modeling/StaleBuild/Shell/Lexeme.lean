import StaleBuild.Shell.Reader

/-!
Words of a script. A word is read part by part up to a character that ends it; which characters do
depends on where the word stands. Commands inside of words are read by whoever reads commands, so
the readers for both are handed in as a `Knot`.
-/

namespace StaleBuild.Shell

open Host (Str)

/-- Where a word stands. -/
inductive Mode where
  /-- Among the words of a command. -/
  | plain
  /-- Between double quotation marks; the closing one is taken. -/
  | quoted
  /-- In the braces of an expansion, up to one of the given characters. -/
  | braced (quoted : Bool) (stops : List Char)
  /-- In a here-document. -/
  | document
  /-- In an arithmetic expression; its closing brackets are taken. -/
  | arithmetic
  /-- On the right of a comparison. -/
  | matched
deriving DecidableEq

/-- The readers that need each other. -/
structure Knot where
  /-- The commands inside of a word, which a bracket ends or the end of the text. -/
  commands : Bool → Reading Cmd
  /-- A list of commands, which may be empty or not, up to what cannot belong to it. -/
  block : Bool → Reading Cmd
  /-- A single command. -/
  command : Reading Cmd
  /-- A word. -/
  scan : Mode → Reading Word

/-- What has been read of a word: its parts, the latest first, and the characters behind them. -/
structure Gathered where
  parts : List Part
  quoted : Bool
  text : Str
  /-- How many brackets are open. -/
  depth : Nat

namespace Gathered

def empty : Gathered := ⟨[], false, [], 0⟩

/-- The characters behind the parts as a part. -/
def flush (g : Gathered) : Gathered :=
  if g.text = [] then g
  else { g with parts := .literal g.quoted g.text.reverse :: g.parts, text := [] }

/-- One more character. -/
def char (g : Gathered) (quoted : Bool) (c : Char) : Gathered :=
  if g.quoted = quoted then { g with text := c :: g.text }
  else { g.flush with quoted, text := [c] }

/-- One more part. -/
def part (g : Gathered) (p : Part) : Gathered := { g.flush with parts := p :: g.flush.parts }

/-- The parts of a quotation, which count even if there are none. -/
def quotation (g : Gathered) (w : Word) : Gathered :=
  let g := g.flush
  { g with parts := (if w.isEmpty then [.literal true []] else w).reverse ++ g.parts }

/-- The word. -/
def word (g : Gathered) : Word := g.flush.parts.reverse

end Gathered

namespace Lexeme

open Reading

/-- The characters that end a word outside of quotation marks. -/
def isDelimiter (c : Char) : Bool :=
  c = ' ' || c = '\t' || c = '\n' || ";&|()<>".toList.contains c

/-- The parameters that are no names. -/
def isSpecial (c : Char) : Bool := "*@#?-$!0123456789".toList.contains c

/-- A quotation that is not closed. -/
def unclosedQuotation {α : Type} (closing : Char) : Reading α := do
  if ← isExtended then fail (.unclosed closing) else refuse "Unterminated quoted string"

/-- An expansion that is not closed, in a mode. -/
def unclosedExpansion {α : Type} (quoted : Bool) : Reading α := do
  if ← isExtended then fail (.unclosed '\x7d')
  else if quoted then refuse "Unterminated quoted string"
  else refuse "Missing '\x7d'"

/-! ## Escapes -/

/-- The character of an escape that is one letter. -/
def letterEscape? (c : Char) : Option Char :=
  match c with
  | 'a' => some '\x07'
  | 'b' => some '\x08'
  | 'e' => some '\x1b'
  | 'E' => some '\x1b'
  | 'f' => some '\x0c'
  | 'n' => some '\n'
  | 'r' => some '\r'
  | 't' => some '\t'
  | 'v' => some '\x0b'
  | '\\' => some '\\'
  | '\'' => some '\''
  | '"' => some '"'
  | '?' => some '?'
  | _ => none

/-- The text of a quotation with escapes. -/
def ansi : Nat → Str → Str
  | 0, _ => []
  | _, [] => []
  | fuel + 1, '\\' :: c :: rest =>
    match letterEscape? c with
    | some d => d :: ansi fuel rest
    | none =>
      let numbered (base width : Nat) (tail : Str) (wide : Bool) : Str :=
        let digits := (tail.take width).takeWhile (Host.isDigitIn base)
        let n := Host.foldDigits base digits
        let text := if wide then Host.ofBytes (Utf8.encodeChars [Char.ofNat n]) else [Char.ofNat (n % 256)]
        text ++ ansi fuel (tail.drop digits.length)
      if Host.isDigitIn 8 c then numbered 8 3 (c :: rest) false
      else if c = 'x' && (rest.head?.map (Host.isDigitIn 16)).getD false then numbered 16 2 rest false
      else if c = 'u' && (rest.head?.map (Host.isDigitIn 16)).getD false then numbered 16 4 rest true
      else if c = 'U' && (rest.head?.map (Host.isDigitIn 16)).getD false then numbered 16 8 rest true
      else if c = 'c' then
        match rest with
        | d :: more => Char.ofNat (d.toNat % 32) :: ansi fuel more
        | [] => ['\\', 'c']
      else '\\' :: c :: ansi fuel rest
  | fuel + 1, c :: rest => c :: ansi fuel rest

/-- The raw text of a quotation with escapes, up to its end. -/
def ansiText : Nat → Str → Reading Str
  | 0, _ => unclosedQuotation '\''
  | fuel + 1, taken => do
    match ← nextRaw with
    | none => unclosedQuotation '\''
    | some '\'' => return taken.reverse
    | some '\\' =>
      match ← nextRaw with
      | none => unclosedQuotation '\''
      | some c => ansiText fuel (c :: '\\' :: taken)
    | some c => ansiText fuel (c :: taken)

/-! ## Commands inside of words -/

/-- The text between back quotes. -/
def backquoted (quoted : Bool) : Nat → Str → Reading Str
  | 0, taken => return taken.reverse
  | fuel + 1, taken => do
    match ← nextRaw with
    | none =>
      if ← isExtended then fail (.unclosed (Char.ofNat 96))
      else refuse "EOF in backquote substitution"
    | some '\\' =>
      match ← nextRaw with
      | none => return ('\\' :: taken).reverse
      | some '\n' => backquoted quoted fuel taken
      | some c =>
        if c = '\\' || c = '$' || c.toNat = 96 || (quoted && c = '"') then
          backquoted quoted fuel (c :: taken)
        else backquoted quoted fuel (c :: '\\' :: taken)
    | some c => if c.toNat = 96 then return taken.reverse else backquoted quoted fuel (c :: taken)

/-- A command between back quotes, of which the first is taken. -/
def backquotedCommand (k : Knot) (quoted : Bool) : Reading Part := do
  let r ← get
  let text ← backquoted quoted (r.input.length + 1) []
  let line := if r.dialect = .extended then r.line else 1
  return .command quoted (← inText text line (k.commands false))

/-- Read something, or something else from the same place if it fails. -/
def orElse {α : Type} (a b : Reading α) : Reading α := fun r =>
  match a r with
  | .ok result => .ok result
  | .error _ => b r

/-! ## Expansions -/

/-- The word behind an operator in braces. -/
def operand (k : Knot) (quoted : Bool) : Reading Word := do
  let w ← k.scan (.braced quoted ['\x7d'])
  if ← take? '\x7d' then return w else unclosedExpansion quoted

/-- The action that a fallback operator stands for. -/
def fallback? (c : Char) : Option Fallback :=
  match c with
  | '-' => some .use
  | '=' => some .assign
  | '?' => some .refuse
  | '+' => some .instead
  | _ => none

/-- The rest of an expansion that is none. -/
def badRest (k : Knot) (quoted : Bool) : Reading Action := do
  let _ ← operand k quoted
  return .bad

/-- The action behind the name of a parameter, in the basic dialect. -/
def basicAction (k : Knot) (quoted : Bool) : Reading Action := do
  match ← peek with
  | some '\x7d' => do
    skip
    return .plain
  | some ':' => do
    skip
    match (← peek).bind fallback? with
    | some kind => do
      skip
      return .fallback kind true (← operand k quoted)
    | none => do
      if (← peek).isSome then skip
      badRest k quoted
  | some '%' => do
    skip
    let longest ← take? '%'
    return .trim true longest (← operand k false)
  | some '#' => do
    skip
    let longest ← take? '#'
    return .trim false longest (← operand k false)
  | some c =>
    match fallback? c with
    | some kind => do
      skip
      return .fallback kind false (← operand k quoted)
    | none => do
      skip
      badRest k quoted
  | none => unclosedExpansion quoted

/-- The name of a parameter in braces, if there is one. -/
def parameterName? : Reading (Option Str) := do
  match ← peek with
  | none => return none
  | some c =>
    if Host.isNameStart c then return some (← takeWhile Host.isNamePart)
    else if c.isDigit then return some (← takeWhile Char.isDigit)
    else if isSpecial c then
      skip
      return some [c]
    else return none

/-- What stands behind the opening brace, in the basic dialect. -/
def basicBraced (k : Knot) (quoted : Bool) : Reading Part := do
  let named (name : Str) (action : Action) : Part := .parameter quoted name none action
  match ← peek with
  | some '#' => do
    skip
    match ← peek with
    | none => unclosedExpansion quoted
    | some c =>
      if Host.isNamePart c then
        match ← parameterName? with
        | some name =>
          if ← take? '\x7d' then return named name .length
          else return named name (← badRest k quoted)
        | none => return named ['#'] (← badRest k quoted)
      else
        let r ← get
        skip
        if c ≠ '\x7d' && (← peek) = some '\x7d' then
          skip
          return named [c] (if isSpecial c then .length else .bad)
        else
          set r
          return named ['#'] (← basicAction k quoted)
  | _ =>
    match ← parameterName? with
    | some name => return named name (← basicAction k quoted)
    | none =>
      match ← peek with
      | none => unclosedExpansion quoted
      | some '\x7d' => return named [] (← badRest k quoted)
      | some _ => do
        skip
        return named [] (← badRest k quoted)

/-- The index of an item of an array. -/
def index? (k : Knot) : Reading (Option Word) := do
  if ← take? '[' then
    let w ← k.scan (.braced false [']'])
    if ← take? ']' then return some w else fail (.unclosed ']')
  else return none

/-- The action behind the name of a parameter, in the extended dialect. -/
def extendedAction (k : Knot) (quoted : Bool) : Reading Action := do
  match ← peek with
  | some ':' => do
    skip
    match (← peek).bind fallback? with
    | some kind => do
      skip
      return .fallback kind true (← operand k quoted)
    | none => do
      let start ← k.scan (.braced quoted [':', '\x7d'])
      if ← take? ':' then return .slice start (some (← operand k quoted))
      else if ← take? '\x7d' then return .slice start none
      else unclosedExpansion quoted
  | some '/' => do
    skip
    let place ← match ← peek with
      | some '/' => do
        skip
        pure '/'
      | some '#' => do
        skip
        pure '#'
      | some '%' => do
        skip
        pure '%'
      | _ => pure '1'
    let pattern ← k.scan (.braced false ['/', '\x7d'])
    if ← take? '/' then return .replace place pattern (← operand k false)
    else if ← take? '\x7d' then return .replace place pattern []
    else unclosedExpansion quoted
  | some '^' => do
    skip
    let all ← take? '^'
    return .recase true all (← operand k false)
  | some ',' => do
    skip
    let all ← take? ','
    return .recase false all (← operand k false)
  | some '@' => do
    skip
    match ← next with
    | some letter => if ← take? '\x7d' then return .transform letter else badRest k quoted
    | none => unclosedExpansion quoted
  | _ => basicAction k quoted

/-- What stands behind the opening brace, in the extended dialect. -/
def extendedBraced (k : Knot) (quoted : Bool) : Reading Part := do
  let before := (← get).input
  let bad : Reading Part := do
    let _ ← badRest k quoted
    let text := before.take (before.length - (← get).input.length)
    return .parameter quoted (Host.str "$\x7b" ++ text) none .bad
  let checked (name : Str) (index : Option Word) (action : Action) : Reading Part := do
    match action with
    | .bad =>
      let text := before.take (before.length - (← get).input.length)
      return .parameter quoted (Host.str "$\x7b" ++ text) none .bad
    | action => return .parameter quoted name index action
  match ← peek with
  | some '#' => do
    let r ← get
    skip
    let length : Reading (Option Part) := do
      match ← parameterName? with
      | some name =>
        let index ← index? k
        if ← take? '\x7d' then return some (.parameter quoted name index .length) else return none
      | none => return none
    match ← length with
    | some p => return p
    | none => do
      set r
      skip
      checked ['#'] none (← extendedAction k quoted)
  | some '!' => do
    let r ← get
    skip
    match ← parameterName? with
    | some name =>
      let index ← index? k
      if (← peek) = some '*' || (← peek) = some '@' then
        skip
        if ← take? '\x7d' then return .parameter quoted name none .namesLike else bad
      else checked name index (.indirect (← extendedAction k quoted))
    | none => do
      set r
      skip
      checked ['!'] none (← extendedAction k quoted)
  | _ =>
    match ← parameterName? with
    | some name =>
      let index ← index? k
      checked name index (← extendedAction k quoted)
    | none => bad

/-- What stands behind a dollar sign, or the dollar sign itself. -/
def dollar (k : Knot) (quoted : Bool) (g : Gathered) : Reading Gathered := do
  let extended ← isExtended
  match ← peek with
  | some '(' => do
    skip
    let command : Reading Part := do
      let r ← get
      set { r with awaited := [] }
      let body ← k.commands true
      modify fun s => { s with awaited := r.awaited }
      return .command quoted body
    if (← peek) = some '(' then
      let expression : Reading Part := do
        skip
        return .arithmetic quoted (← k.scan .arithmetic)
      return g.part (← if extended then orElse expression command else expression)
    else return g.part (← command)
  | some '\x7b' => do
    skip
    return g.part (← if extended then extendedBraced k quoted else basicBraced k quoted)
  | some '\'' =>
    if extended && !quoted then
      skip
      let raw ← ansiText ((← get).input.length + 1) []
      return g.quotation [.literal true (ansi (raw.length + 1) raw)]
    else return g.char quoted '$'
  | some '"' =>
    if extended && !quoted then
      skip
      return g.quotation (← k.scan .quoted)
    else return g.char quoted '$'
  | some c =>
    if Host.isNameStart c then
      return g.part (.parameter quoted (← takeWhile Host.isNamePart) none .plain)
    else if isSpecial c then
      skip
      return g.part (.parameter quoted [c] none .plain)
    else return g.char quoted '$'
  | none => return g.char quoted '$'

/-- A character behind a backslash outside of quotation marks. -/
def escapedPlain (g : Gathered) : Reading Gathered := do
  match ← nextRaw with
  | some c => return g.char true c
  | none => return g.char true '\\'

/-- A character behind a backslash between quotation marks: only some are meant by it. -/
def escapedQuoted (g : Gathered) (escapable : List Char) : Reading Gathered := do
  match ← nextRaw with
  | some c => return if escapable.contains c then g.char true c else (g.char true '\\').char true c
  | none => return g.char true '\\'

/-- The characters that a backslash takes the meaning of between quotation marks. -/
def escapables : List Char := ['\\', '$', Char.ofNat 96]

/-! ## Steps -/

/-- What is the same outside of quotation marks wherever a word stands. -/
def unquotedStep (k : Knot) (g : Gathered) (c : Char) : Reading Gathered := do
  skip
  match c with
  | '\\' => escapedPlain g
  | '\'' =>
    match ← takeUntil '\'' with
    | some s => return g.quotation [.literal true s]
    | none => unclosedQuotation '\''
  | '"' => return g.quotation (← k.scan .quoted)
  | '$' => dollar k false g
  | c =>
    if c.toNat = 96 then return g.part (← backquotedCommand k false)
    else if c = Reader.aliasEnd then
      modify fun r => { r with active := r.active.tail }
      return g
    else return g.char false c

/-- What is the same between quotation marks wherever a word stands. -/
def quotedStep (k : Knot) (g : Gathered) (c : Char) (escapable : List Char) : Reading Gathered := do
  skip
  match c with
  | '\\' => escapedQuoted g escapable
  | '$' => dollar k true g
  | c =>
    if c.toNat = 96 then return g.part (← backquotedCommand k true) else return g.char true c

/-- Whether the next two characters open a process. -/
def opensProcess : Reading Bool := do
  let _ ← peek
  return match (← get).input with
    | '<' :: '(' :: _ => true
    | '>' :: '(' :: _ => true
    | _ => false

/-- The next part of a word, or none at its end. -/
def step (k : Knot) (mode : Mode) (g : Gathered) : Reading (Option Gathered) := do
  let next ← peek
  match mode, next with
  | .plain, none => return none
  | .plain, some c =>
    if isDelimiter c then
      if (← isExtended) && (← opensProcess) then
        skip
        skip
        return some (g.part (.process (c = '<') (← k.commands true)))
      else return none
    else return some (← unquotedStep k g c)
  | .matched, none => return none
  | .matched, some c =>
    if c = '(' then
      skip
      return some { g.char false c with depth := g.depth + 1 }
    else if c = ')' && g.depth ≠ 0 then
      skip
      return some { g.char false c with depth := g.depth - 1 }
    else if c = '|' && g.depth ≠ 0 then
      skip
      return some (g.char false c)
    else if isDelimiter c && (g.depth = 0 || c = '\n') then return none
    else return some (← unquotedStep k g c)
  | .quoted, none => unclosedQuotation '"'
  | .quoted, some '"' => do
    skip
    return none
  | .quoted, some c => return some (← quotedStep k g c ('"' :: escapables))
  | .document, none => return none
  | .document, some c => return some (← quotedStep k g c escapables)
  | .braced quoted _, none => unclosedExpansion quoted
  | .braced quoted stops, some c =>
    if stops.contains c && g.depth = 0 then return none
    else if stops = [']'] && (c = '[' || c = ']') then
      skip
      return some { g.char quoted c with depth := if c = '[' then g.depth + 1 else g.depth - 1 }
    else if quoted then
      if c = '"' then
        skip
        return some (g.quotation (← k.scan .quoted))
      else return some (← quotedStep k g c ('"' :: '\x7d' :: escapables))
    else return some (← unquotedStep k g c)
  | .arithmetic, none =>
    if ← isExtended then fail (.unclosed ')') else refuse "Missing '))'"
  | .arithmetic, some c =>
    if c = '(' then
      skip
      return some { g.char true c with depth := g.depth + 1 }
    else if c = ')' then
      skip
      if g.depth ≠ 0 then return some { g.char true c with depth := g.depth - 1 }
      else if ← take? ')' then return none
      else if ← isExtended then fail (.unclosed ')')
      else return some (g.char true c)
    else if c = '"' && (← isExtended) then
      skip
      return some g
    else return some (← quotedStep k g c ('"' :: escapables))

/-- Read a word part by part. -/
def scanWithin (k : Knot) (mode : Mode) : Nat → Gathered → Reading Word
  | 0, g => return g.word
  | fuel + 1, g => do
    match ← step k mode g with
    | some g => scanWithin k mode fuel g
    | none => return g.word

/-- Read a word. -/
def scan (k : Knot) (mode : Mode) : Reading Word := do
  scanWithin k mode ((← get).input.length + 2) .empty

/-! ## Here-documents -/

/-- The word that ends a here-document, and whether it is quoted. -/
def markWithin : Nat → Bool → Str → Reading (Str × Bool)
  | 0, quoted, taken => return (taken.reverse, quoted)
  | fuel + 1, quoted, taken => do
    match ← peek with
    | none => return (taken.reverse, quoted)
    | some c =>
      if isDelimiter c then return (taken.reverse, quoted)
      else
        skip
        match c with
        | '\\' =>
          match ← nextRaw with
          | some d => markWithin fuel true (d :: taken)
          | none => return (taken.reverse, true)
        | '\'' =>
          match ← takeUntil '\'' with
          | some s => markWithin fuel true (s.reverse ++ taken)
          | none => unclosedQuotation '\''
        | '"' =>
          match ← takeUntil '"' with
          | some s => markWithin fuel true (s.reverse ++ taken)
          | none => unclosedQuotation '"'
        | c => markWithin fuel quoted (c :: taken)

/-- The lines of a here-document up to its mark. -/
def documentLines (a : Awaited) : Nat → List Str → Reading (List Str)
  | 0, lines => return lines.reverse
  | fuel + 1, lines => do
    if (← get).input = [] then return lines.reverse
    let rest := (← get).input
    let line := match ← takeUntil '\n' with
      | some line => line
      | none => rest
    let isWhole := line.length < rest.length
    let line := if a.dropsTabs then line.dropWhile (· = '\t') else line
    let joins := !a.isRaw && match lines with
      | last :: _ => (last.reverse.drop 1).takeWhile (· = '\\') |>.length |> (· % 2 = 1)
      | [] => false
    if line = a.mark && !joins then return lines.reverse
    else documentLines a fuel ((if isWhole then line ++ ['\n'] else line) :: lines)

/-- Read a here-document that was asked for. -/
def document (k : Knot) (a : Awaited) : Reading Unit := do
  let line := (← get).line
  let lines ← documentLines a ((← get).input.length + 1) []
  let text := lines.flatten
  let w : Word ← if a.isRaw then pure (.literal text) else inText text line (k.scan .document)
  modify fun r => { r with texts := (a.id, w) :: r.texts }

/-- Read all here-documents that were asked for. -/
def documents (k : Knot) : Reading Unit := do
  let awaited := (← get).awaited
  modify fun r => { r with awaited := [] }
  awaited.forM (document k)

end Lexeme

end StaleBuild.Shell
