import StaleBuild.Host.Case
import StaleBuild.Regex.Reader

/-!
Scripts that edit lines: each command has a condition on the line that is being edited, and changes
that line, a second one that is kept aside, or what is written. A script is read into a list in which
a block is a jump to its end.

The editor serves the running program only.
-/

namespace StaleBuild.Utility.Edit

open Host (Str str)

/-! ## Commands -/

/-- An expression, or the one that was used last. -/
inductive Wanted where
  | expr (setting : Regex.Setting) (e : Regex.Expr)
  | latest

/-- A condition on one line. -/
inductive Address where
  | line (n : Nat)
  /-- A line and every so many behind it. -/
  | step (first size : Nat)
  | last
  | found (w : Wanted)

/-- Where a range ends. -/
inductive Finish where
  | line (n : Nat)
  /-- So many lines further on. -/
  | more (n : Nat)
  /-- At the next multiple. -/
  | multiple (n : Nat)
  | last
  | found (w : Wanted)

/-- A piece of a replacement. -/
inductive Piece where
  | text (s : Str)
  | group (n : Nat)
  /-- What comes is put in another case. -/
  | casing (letter : Char)

/-- A replacement of what an expression matches. -/
structure Replacement where
  wanted : Wanted
  pieces : List Piece
  all : Bool
  /-- The first match that counts. -/
  first : Nat
  prints : Bool
  runs : Bool
  file : Option Str

/-- What a command does. -/
inductive Deed where
  /-- Go past a block, if the condition fails. -/
  | block (past : Nat)
  | finish
  | label
  | jump (past : Nat)
  | jumpIf (replaced : Bool) (past : Nat)
  | append (text : Str)
  | insert (text : Str)
  | change (text : Str)
  | replace (r : Replacement)
  | exchange (pairs : List (Str × Str))
  | quit (prints : Bool) (status : Nat)
  | list (width : Option Nat)
  | readFile (path : Str)
  | readLine (path : Str)
  | write (firstLine : Bool) (path : Str)
  | run (command : Str)
  /-- A command of one letter. -/
  | plain (letter : Char)

/-- A command with its condition. -/
structure Command where
  first : Option Address
  second : Option Finish
  negated : Bool
  deed : Deed

/-! ## Reading -/

/-- A complaint about a script: where, and in which words. -/
structure Complaint where
  /-- How many characters of the part have been read, if that counts. -/
  place : Option Nat
  line : Nat
  words : Str

/-- What is being read. -/
structure Source where
  rest : Str
  read : Nat
  line : Nat
  extended : Bool
  /-- Whether the first two characters of the script can ask for silence. -/
  isFirst : Bool
  /-- The commands so far, the latest first. -/
  commands : List Command
  /-- The blocks that are open, by the numbers of their commands. -/
  blocks : List Nat
  labels : List (Str × Nat)
  /-- The jumps by the numbers of their commands. -/
  jumps : List (Nat × Str)
  silent : Bool
  /-- A text that goes on with the next part of the script. -/
  pending : Option Str

abbrev Reading := StateT Source (Except Complaint)

/-- Complain about the place that has been reached. -/
def wrong {α : Type} (words : Str) : Reading α := do
  let s ← get
  throw ⟨some s.read, s.line, words⟩

/-- Read a character. -/
def next : Reading (Option Char) := do
  let s ← get
  match s.rest with
  | [] => return none
  | c :: rest => do
    StateT.set { s with rest, read := s.read + 1, line := if c = '\n' then s.line + 1 else s.line }
    return some c

/-- Take a character back. -/
def back (c : Option Char) : Reading Unit :=
  match c with
  | none => return ()
  | some c => modify fun s => { s with
    rest := c :: s.rest, read := s.read - 1, line := if c = '\n' then s.line - 1 else s.line }

/-- Read a character that is not blank. -/
def nextInked : Reading (Option Char) := do
  let s ← get
  let blanks := s.rest.takeWhile Host.isBlank
  StateT.set { s with rest := s.rest.drop blanks.length, read := s.read + blanks.length }
  next

/-- Read up to a place where a test on a character holds. -/
def nextUntil (p : Char → Bool) : Reading Str := do
  let s ← get
  let taken := s.rest.takeWhile fun c => !p c
  StateT.set { s with
    rest := s.rest.drop taken.length, read := s.read + taken.length
    line := s.line + taken.count '\n' }
  return taken

/-- Read a number whose first digit has been read. -/
def number (first : Option Char) : Reading Nat := do
  match first with
  | some c =>
    if c.isDigit then do
      let more ← nextUntil fun c => !c.isDigit
      return Host.foldDigits 10 (c :: more)
    else do
      back (some c)
      return 0
  | none => return 0

/-- Read to the end of a command. -/
def close : Reading Unit := do
  match ← nextInked with
  | some '\x7d' => back (some '\x7d')
  | some '#' => back (some '#')
  | some '\n' => return ()
  | some ';' => return ()
  | none => return ()
  | some _ => wrong (str "extra characters after command")

/-! ## Texts between delimiters -/

/-- The rest of a set of characters within an expression, up to its closing bracket; `inner` is the
mark of a class that is open within it. -/
def bracketed : Nat → Option Char → Str → Reading (Option Str)
  | 0, _, _ => return none
  | fuel + 1, inner, taken => do
    match ← next with
    | none => return none
    | some '\n' => do
      back (some '\n')
      return none
    | some c =>
      match inner with
      | some mark =>
        if c = ']' && taken.head? = some mark then bracketed fuel none (c :: taken)
        else bracketed fuel inner (c :: taken)
      | none =>
        if c = ']' then return some (c :: taken)
        else if taken.head? = some '[' && (c = ':' || c = '.' || c = '=') then
          -- the mark has to come a second time
          do
            match ← next with
            | none => return none
            | some d => bracketed fuel (some c) (d :: c :: taken)
        else bracketed fuel none (c :: taken)

/-- The start of a set of characters: what stands in front of the place where a bracket closes it. -/
def opened : Reading Str := do
  let s ← get
  let lead := match s.rest with
    | '^' :: ']' :: _ => 2
    | '^' :: _ => 1
    | ']' :: _ => 1
    | _ => 0
  StateT.set { s with rest := s.rest.drop lead, read := s.read + lead }
  return s.rest.take lead

/-- The text up to a delimiter, and whether it was there. In an expression `\n` is a line break, and a
delimiter in a set of characters does not count. -/
def delimitedWithin (mark : Char) (isExpr : Bool) : Nat → Str → Reading (Option Str)
  | 0, _ => return none
  | fuel + 1, taken => do
    match ← next with
    | none => return none
    | some '\n' => do
      back (some '\n')
      return none
    | some '\\' => do
      if mark = '\\' then return some taken.reverse
      match ← next with
      | none => return none
      | some c =>
        if c = 'n' && isExpr && mark ≠ 'n' then delimitedWithin mark isExpr fuel ('\n' :: taken)
        else if c = '\n' then delimitedWithin mark isExpr fuel (if isExpr then c :: taken else c :: '\\' :: taken)
        else if c = mark && (isExpr || c ≠ '&') then delimitedWithin mark isExpr fuel (c :: taken)
        else delimitedWithin mark isExpr fuel (c :: '\\' :: taken)
    | some c =>
      if c = mark then return some taken.reverse
      else if isExpr && c = '[' then do
        let lead ← opened
        match ← bracketed ((← get).rest.length + 2) none (lead.reverse ++ c :: taken) with
        | none => return none
        | some taken => delimitedWithin mark isExpr fuel taken
      else delimitedWithin mark isExpr fuel (c :: taken)

def delimited (mark : Char) (isExpr : Bool) : Reading (Option Str) := do
  delimitedWithin mark isExpr ((← get).rest.length + 2) []

/-- The character that an escape by number or by a control letter stands for, and what follows. -/
def numbered? (c : Char) (rest : Str) : Option (Char × Str) :=
  let digits (base most : Nat) : Option (Char × Str) :=
    let ds := (rest.take most).takeWhile (Host.isDigitIn base)
    if ds = [] then none
    else some (Char.ofNat (Host.foldDigits base ds % 256), rest.drop ds.length)
  match c with
  | 'x' => digits 16 2
  | 'o' => digits 8 3
  | 'd' => digits 10 3
  | 'c' =>
    match rest with
    | d :: more => some (Char.ofNat (d.toUpper.toNat ^^^ 64), more)
    | [] => none
  | _ => none

/-- An expression in which escapes by number have been put in. -/
def spelled : Nat → Str → Str
  | 0, s => s
  | _, [] => []
  | fuel + 1, '\\' :: c :: rest =>
    match numbered? c rest with
    | some (d, rest) => d :: spelled fuel rest
    | none => '\\' :: c :: spelled fuel rest
  | fuel + 1, c :: rest => c :: spelled fuel rest

/-- The largest number of a group in an expression. -/
def groupCount : Regex.Expr → Nat
  | .cat a b => max (groupCount a) (groupCount b)
  | .alt a b => max (groupCount a) (groupCount b)
  | .star e => groupCount e
  | .group n e => max n (groupCount e)
  | _ => 0

/-- Read an expression. -/
def wanted (text : Str) (ignoresCase multiline : Bool) : Reading Wanted := do
  if text = [] then return .latest
  let extended := (← get).extended
  let style : Regex.Style := ⟨extended, true, false, false, true⟩
  match Regex.Reader.read style (spelled text.length text) with
  | .ok e => return .expr ⟨ignoresCase, multiline⟩ e
  | .error fault => wrong (str fault.words)

/-! ## Conditions -/

/-- The flags behind an expression of a condition. -/
def flags : Nat → Bool → Bool → Reading (Bool × Bool)
  | 0, i, m => return (i, m)
  | fuel + 1, i, m => do
    match ← nextInked with
    | some 'I' => flags fuel true m
    | some 'M' => flags fuel i true
    | c => do
      back c
      return (i, m)

/-- A condition that starts with a character, if one does. -/
def address (c : Option Char) : Reading (Option (Address ⊕ Finish)) := do
  match c with
  | some '$' => return some (.inl .last)
  | some '/' => expr '/'
  | some '\\' => do
    match ← next with
    | none => wrong (str "unterminated address regex")
    | some d => expr d
  | some '+' => do
    let n ← number (← nextInked)
    return some (.inr (.more n))
  | some '~' => do
    let n ← number (← nextInked)
    return some (.inr (.multiple n))
  | some c =>
    if c.isDigit then do
      let n ← number (some c)
      match ← nextInked with
      | some '~' => do
        let size ← number (← nextInked)
        return some (.inl (if size = 0 then .line n else .step n size))
      | d => do
        back d
        return some (.inl (.line n))
    else return none
  | none => return none
where
  expr (mark : Char) : Reading (Option (Address ⊕ Finish)) := do
    match ← delimited mark true with
    | none => wrong (str "unterminated address regex")
    | some text => do
      let (i, m) ← flags ((← get).rest.length + 1) false false
      return some (.inl (.found (← wanted text i m)))

/-- A condition as the end of a range. -/
def Address.toFinish : Address → Finish
  | .line n => .line n
  | .step n _ => .line n
  | .last => .last
  | .found w => .found w

/-! ## Replacements -/

/-- The pieces of a replacement. -/
def pieces : Nat → Str → Str → List Piece
  | 0, taken, _ => [.text taken.reverse]
  | _, taken, [] => if taken = [] then [] else [.text taken.reverse]
  | fuel + 1, taken, '&' :: rest => .text taken.reverse :: .group 0 :: pieces fuel [] rest
  | fuel + 1, taken, '\\' :: c :: rest =>
    if c.isDigit then .text taken.reverse :: .group (c.toNat - 48) :: pieces fuel [] rest
    else if "ULulE".toList.contains c then .text taken.reverse :: .casing c :: pieces fuel [] rest
    else
      match numbered? c rest with
      | some (d, rest) => pieces fuel (d :: taken) rest
      | none => pieces fuel ((Regex.Reader.control? c).getD c :: taken) rest
  | fuel + 1, taken, c :: rest => pieces fuel (c :: taken) rest

/-- The flags of a replacement that have been read. -/
structure Flags where
  all : Bool
  prints : Bool
  ignoresCase : Bool
  multiline : Bool
  runs : Bool
  first : Option Nat
  file : Option Str

/-- Read the flags of a replacement. -/
def replacementFlags : Nat → Flags → Reading Flags
  | 0, f => return f
  | fuel + 1, f => do
    match ← next with
    | some 'i' => replacementFlags fuel { f with ignoresCase := true }
    | some 'I' => replacementFlags fuel { f with ignoresCase := true }
    | some 'm' => replacementFlags fuel { f with multiline := true }
    | some 'M' => replacementFlags fuel { f with multiline := true }
    | some 'e' => replacementFlags fuel { f with runs := true }
    | some 'p' =>
      if f.prints then wrong (str "multiple `p' options to `s' command")
      else replacementFlags fuel { f with prints := true }
    | some 'g' =>
      if f.all then wrong (str "multiple `g' options to `s' command")
      else replacementFlags fuel { f with all := true }
    | some 'w' => do
      let file ← fileName
      return { f with file := some file }
    | some '\x7d' => do
      back (some '\x7d')
      return f
    | some '#' => do
      back (some '#')
      return f
    | some '\n' => return f
    | some ';' => return f
    | none => return f
    | some c =>
      if c.isDigit then do
        if f.first.isSome then wrong (str "multiple number options to `s' command")
        let n ← number (some c)
        if n = 0 then wrong (str "number option to `s' command may not be zero")
        replacementFlags fuel { f with first := some n }
      else if Host.isBlank c then replacementFlags fuel f
      else wrong (str "unknown option to `s'")
where
  fileName : Reading Str := do
    back (← nextInked)
    let name ← nextUntil (· = '\n')
    if name = [] then wrong (str "missing filename in r/R/w/W commands")
    let _ ← next
    return name

/-- The characters of one side of an exchange. -/
def exchanged : Nat → List Str → List Str
  | 0, gs => gs
  | fuel + 1, ['\\'] :: g :: rest =>
    (if g = ['n'] then ['\n'] else match g with
      | [c] => [(Regex.Reader.control? c).getD c]
      | g => g) :: exchanged fuel rest
  | fuel + 1, g :: rest => g :: exchanged fuel rest
  | _, [] => []

/-! ## Texts to write -/

/-- Read a text up to the end of a line that is not escaped. The second part tells that the script
ended within it. -/
def textWithin : Nat → Str → Reading (Str × Bool)
  | 0, taken => return (taken.reverse, false)
  | fuel + 1, taken => do
    match ← next with
    | none => return (taken.reverse, false)
    | some '\n' => return (taken.reverse, false)
    | some '\\' => do
      match ← next with
      | none => return (taken.reverse, true)
      | some c =>
        match numbered? c (← get).rest with
        | some (d, rest) => do
          modify fun s => { s with read := s.read + (s.rest.length - rest.length), rest }
          textWithin fuel (d :: taken)
        | none => textWithin fuel ((Regex.Reader.control? c).getD c :: taken)
    | some c => textWithin fuel (c :: taken)

/-- Read the text of a command that writes one; the part may end where the text is to begin. -/
def text : Reading (Option Str) := do
  match ← nextInked with
  | none => wrong (str "expected \\ after `a', `c' or `i'")
  | some '\\' => do
    let s ← get
    match ← nextInked with
    | none => return none
    | some '\n' => do
      let (t, _) ← textWithin ((← get).rest.length + 2) []
      return some (t ++ ['\n'])
    | some _ => do
      -- blanks behind the backslash belong to the text, and so does a letter
      StateT.set s
      let (t, _) ← textWithin ((← get).rest.length + 2) []
      return some (t ++ ['\n'])
  | some c => do
    back (some c)
    let (t, _) ← textWithin ((← get).rest.length + 2) []
    return some (t ++ ['\n'])

/-! ## Commands -/

/-- Read a label. -/
def labelName : Reading Str := do
  back (← nextInked)
  nextUntil fun c => Host.isSpace c || c = ';' || c = '\x7d'

/-- Keep a command that has been read. -/
def keep (first : Option Address) (second : Option Finish) (negated : Bool) (deed : Deed) :
    Reading Unit :=
  modify fun s => { s with commands := ⟨first, second, negated, deed⟩ :: s.commands }

/-- Read one command whose condition has been read. -/
def command (first : Option Address) (second : Option Finish) (negated : Bool) (c : Option Char) :
    Reading Unit := do
  let here := (← get).commands.length
  let keep := keep first second negated
  match c with
  | none => wrong (str "missing command")
  | some '#' => do
    if first.isSome then wrong (str "comments don't accept any addresses")
    let s ← get
    let line ← nextUntil (· = '\n')
    let _ ← next
    if s.isFirst && s.read = 1 && line.head? = some 'n' then modify fun s => { s with silent := true }
  | some ':' => do
    if first.isSome then wrong (str ": doesn't want any addresses")
    let name ← labelName
    if name = [] then wrong (str "\":\" lacks a label")
    modify fun s => { s with labels := (name, here) :: s.labels }
    keep .label
  | some '\x7b' => do
    modify fun s => { s with blocks := here :: s.blocks }
    keep (.block 0)
  | some '\x7d' => do
    match (← get).blocks with
    | [] => wrong (str "unexpected `\x7d'")
    | start :: others => do
      if first.isSome then wrong (str "`\x7d' doesn't want any addresses")
      close
      let s ← get
      -- the block knows now where it ends
      let commands := s.commands.reverse.zipIdx.map fun (k, i) =>
        if i = start then { k with deed := .block here } else k
      StateT.set { s with commands := commands.reverse, blocks := others }
      keep .finish
  | some 's' => do
    let mark ← next
    let sides ← match mark with
      | none => pure none
      | some m => do
        match ← delimited m true with
        | none => pure none
        | some a =>
          match ← delimited m false with
          | none => pure none
          | some b => pure (some (a, b))
    match sides with
    | none => wrong (str "unterminated `s' command")
    | some (a, b) => do
      let f ← replacementFlags ((← get).rest.length + 1) ⟨false, false, false, false, false, none, none⟩
      let w ← wanted a f.ignoresCase f.multiline
      let ps := pieces (b.length + 1) [] b
      let most := ps.foldl (fun n p => match p with
        | .group k => max n k
        | _ => n) 0
      let bound := match w with
        | .expr _ e => groupCount e
        | .latest => 9
      if bound < most then
        wrong (str "invalid reference \\" ++ Host.decimal most ++ str " on `s' command's RHS")
      keep (.replace ⟨w, ps, f.all, f.first.getD 1, f.prints, f.runs, f.file⟩)
  | some 'y' => do
    let mark ← next
    let sides ← match mark with
      | none => pure none
      | some m => do
        match ← delimited m false with
        | none => pure none
        | some a =>
          match ← delimited m false with
          | none => pure none
          | some b => pure (some (a, b))
    match sides with
    | none => wrong (str "unterminated `y' command")
    | some (a, b) => do
      let a := exchanged a.length (Host.characters a)
      let b := exchanged b.length (Host.characters b)
      if a.length ≠ b.length then wrong (str "strings for `y' command are different lengths")
      close
      keep (.exchange (a.zip b))
  | some 'v' => do
    let version ← labelName
    let parts := (Host.splitOn '.' version).map fun p => (Host.natural? p).getD 0
    if version ≠ [] && (decide ([4, 9] < parts) && !decide (parts = [4, 9])) then
      wrong (str "expected newer version of sed")
    keep .label
  | some c =>
    if c = 'a' || c = 'i' || c = 'c' then do
      let t ← text
      let deed (t : Str) : Deed := if c = 'a' then .append t else if c = 'i' then .insert t else .change t
      keep (deed (t.getD []))
      if t.isNone then modify fun s => { s with pending := some [c] }
    else if c = 'b' || c = 't' || c = 'T' then do
      let name ← labelName
      modify fun s => { s with jumps := (here, name) :: s.jumps }
      keep (if c = 'b' then .jump 0 else .jumpIf (c = 't') 0)
    else if c = 'q' || c = 'Q' then do
      if second.isSome then wrong (str "command only uses one address")
      let n ← number (← nextInked)
      close
      keep (.quit (c = 'q') n)
    else if c = 'l' || c = 'L' then do
      let d ← nextInked
      let n ← number d
      close
      keep (if c = 'l' then .list (if d.any Char.isDigit then some n else none) else .label)
    else if c = 'r' || c = 'R' || c = 'w' || c = 'W' then do
      let name ← replacementFlags.fileName
      keep (if c = 'r' then .readFile name else if c = 'R' then .readLine name else .write (c = 'W') name)
    else if c = 'e' then do
      back (← nextInked)
      let line ← nextUntil (· = '\n')
      let _ ← next
      keep (.run line)
    else if "=dDFgGhHnNpPxz".toList.contains c then do
      close
      keep (.plain c)
    else wrong (str "unknown command: `" ++ [c, '\''])

/-- Read the commands of one part of a script. -/
def commands : Nat → Reading Unit
  | 0 => return ()
  | fuel + 1 => do
    let blank := ((← get).rest.takeWhile fun c => c = ';' || Host.isSpace c).length
    modify fun s => { s with
      rest := s.rest.drop blank, read := s.read + blank, line := s.line + (s.rest.take blank).count '\n' }
    match ← next with
    | none => return ()
    | c => do
      let mut first : Option Address := none
      let mut second : Option Finish := none
      let mut c := c
      match ← address c with
      | none => pure ()
      | some (.inr _) => wrong (str "invalid usage of +N or ~N as first address")
      | some (.inl a) =>
        first := some a
        c ← nextInked
        if c = some ',' then
          match ← address (← nextInked) with
          | none => wrong (str "unexpected `,'")
          | some (.inl b) => second := some b.toFinish
          | some (.inr f) => second := some f
          c ← nextInked
        match a, second with
        | .line 0, some (.found _) => pure ()
        | .line 0, _ => wrong (str "invalid usage of line address 0")
        | _, _ => pure ()
      let mut negated := false
      if c = some '!' then
        negated := true
        c ← nextInked
        if c = some '!' then wrong (str "multiple `!'s")
      command first second negated c
      commands fuel

/-- Read one part of a script, given what has been read before. -/
def part (s : Source) (text : Str) (isFirst : Bool) : Except Complaint Source := do
  let (waiting, s) := (s.pending, { s with rest := text, read := 0, line := 1, isFirst, pending := none })
  let body : Reading Unit := do
    match waiting with
    | some _ => do
      let (t, _) ← textWithin (text.length + 2) []
      modify fun s => match s.commands with
        | k :: others => { s with commands := { k with deed := (match k.deed with
            | .append _ => .append (t ++ ['\n'])
            | .insert _ => .insert (t ++ ['\n'])
            | .change _ => .change (t ++ ['\n'])
            | d => d) } :: others }
        | [] => s
    | none => pure ()
    commands (text.length + 2)
  (body.run s).map Prod.snd

/-- The empty script. -/
def emptySource (extended : Bool) : Source :=
  ⟨[], 0, 1, extended, true, [], [], [], [], false, none⟩

/-- The commands of a script that has been read whole, with the places that its jumps go to. -/
def finished (s : Source) : Except Complaint (List Command) :=
  if s.blocks ≠ [] then .error ⟨some 0, s.line, str "unmatched `\x7b'"⟩
  else
    let count := s.commands.length
    let target (name : Str) : Option Nat :=
      if name = [] then some count else (s.labels.find? fun l => l.1 = name).map Prod.snd
    match s.jumps.reverse.find? fun j => (target j.2).isNone with
    | some (_, name) => .error ⟨none, 0, str "can't find label for jump to `" ++ name ++ ['\'']⟩
    | none =>
      .ok (s.commands.reverse.zipIdx.map fun (k, i) =>
        match (s.jumps.find? fun j => j.1 = i).bind fun j => target j.2 with
        | some n => { k with deed := (match k.deed with
            | .jumpIf b _ => .jumpIf b n
            | _ => .jump n) }
        | none => k)

end StaleBuild.Utility.Edit
