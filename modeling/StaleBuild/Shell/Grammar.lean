import StaleBuild.Shell.Lexeme

/-!
The grammar of scripts. Tokens are told apart while commands are read, because a word is a keyword
only where a command can start. Each reader is written over a `Knot` of those that it needs inside;
`knot` ties them with a depth that shrinks at each use, and the length of a script is depth enough.
-/

namespace StaleBuild.Shell

open Host (Str)

namespace Grammar

open Reading

/-! ## Tokens -/

/-- What a token may be taken for. -/
structure Want where
  /-- Line breaks are left out. -/
  pastLines : Bool
  keywords : Bool
  aliases : Bool

/-- Where a command can start. -/
def atCommand : Want := ⟨false, true, true⟩

/-- Where a command has to start, perhaps on a later line. -/
def atNextCommand : Want := ⟨true, true, true⟩

/-- Where only operators and words are told apart. -/
def anywhere : Want := ⟨false, false, false⟩

def keywords : List String :=
  ["!", "case", "do", "done", "elif", "else", "esac", "fi", "for", "if", "in", "then", "until",
    "while", "\x7b", "\x7d"]

def extendedKeywords : List String := ["function", "[[", "time", "select"]

/-- Whether a text is a keyword in a dialect. -/
def isKeyword (dialect : Dialect) (s : Str) : Bool :=
  keywords.any (fun k => k.toList = s) ||
    (dialect = .extended && extendedKeywords.any fun k => k.toList = s)

/-- Give a token back. -/
def push (t : Token) : Reading Unit := modify fun r => { r with pushed := some t }

/-- Leave out blanks and comments. -/
def skipBlanksWithin : Nat → Reading Unit
  | 0 => return ()
  | fuel + 1 => do
    match ← peek with
    | some c =>
      if c = ' ' || c = '\t' then
        skip
        skipBlanksWithin fuel
      else if c = Reader.aliasEnd then
        skip
        modify fun r => { r with active := r.active.tail }
        skipBlanksWithin fuel
      else if c = '#' then
        modify fun r => { r with input := r.input.dropWhile (· ≠ '\n') }
        skipBlanksWithin fuel
      else return ()
    | none => return ()

/-- Leave out blanks and comments. -/
def skipBlanks : Reading Unit := do
  skipBlanksWithin ((← get).input.length + 1)

/-- The longest of several operators that comes next. -/
def operator? : List String → Reading (Option Str)
  | [] => return none
  | o :: others => do
    let r ← get
    let rec taken : Str → Reading Bool
      | [] => return true
      | c :: rest => do if ← take? c then taken rest else return false
    if ← taken o.toList then return some o.toList
    else
      set r
      operator? others

/-- The operators, longer ones first. -/
def operators (dialect : Dialect) : List String :=
  match dialect with
  | .basic => ["&&", "&", "||", "|", ";;", ";", "(", ")"]
  | .extended => ["&&", "&", "||", "|&", "|", ";;&", ";;", ";&", ";", "(", ")"]

/-- The redirections, longer ones first. -/
def redirections (dialect : Dialect) : List String :=
  match dialect with
  | .basic => [">>", ">|", ">&", ">", "<<-", "<<", "<&", "<>", "<"]
  | .extended => ["&>>", "&>", ">>", ">|", ">&", ">", "<<<", "<<-", "<<", "<&", "<>", "<"]

/-! ### Assignments -/

/-- The word behind a mark of unquoted characters, and the word in front of it. -/
def splitAt (mark : Str) : Word → Option (Word × Word)
  | [] => none
  | .literal false s :: rest =>
    let rec find (front : Str) : Str → Option (Str × Str)
      | [] => none
      | c :: more =>
        if mark.isPrefixOf (c :: more) then some (front.reverse, (c :: more).drop mark.length)
        else find (c :: front) more
    let unquoted (t : Str) : Word := if t = [] then [] else [.literal false t]
    match find [] s with
    | some (front, behind) => some (unquoted front, unquoted behind ++ rest)
    | none => (splitAt mark rest).map fun (front, behind) => (.literal false s :: front, behind)
  | p :: rest => (splitAt mark rest).map fun (front, behind) => (p :: front, behind)

/-- The assignment that a word stands for. -/
def assign? (dialect : Dialect) (w : Word) : Option Assign :=
  match w with
  | .literal false s :: rest =>
    let name := s.takeWhile Host.isNamePart
    let behind := s.drop name.length
    let value (t : Str) : Word := if t = [] then rest else .literal false t :: rest
    if !Host.isName name then none
    else match behind with
      | '=' :: t => some (.mk name none false (.word (value t)))
      | '+' :: '=' :: t =>
        if dialect = .extended then some (.mk name none true (.word (value t))) else none
      | '[' :: t =>
        if dialect = .extended then
          match splitAt [']', '='] (value t) with
          | some (index, value) => some (.mk name (some index) false (.word value))
          | none => (splitAt [']', '+', '='] (value t)).map fun (index, value) =>
            .mk name (some index) true (.word value)
        else none
      | _ => none
  | _ => none

/-- The items of a list up to its closing bracket. -/
def listItems (k : Knot) : Nat → List (Option Word × Word) → Reading (List (Option Word × Word))
  | 0, items => return items.reverse
  | fuel + 1, items => do
    skipBlanks
    match ← peek with
    | none => fail (.unclosed ')')
    | some ')' => do
      skip
      return items.reverse
    | some '\n' => do
      skip
      listItems k fuel items
    | some c =>
      if ";&|<>(".toList.contains c then
        skip
        fail (.unexpected (.operator [c]) none)
      else
        let w ← k.scan .plain
        let item := match w with
          | .literal false ('[' :: s) :: rest =>
            match splitAt [']', '='] (.literal false s :: rest) with
            | some (index, value) => (some index, value)
            | none => (none, w)
          | _ => (none, w)
        listItems k fuel (item :: items)

/-- The assignment of a list that starts here, behind its name. -/
def listAssign? (k : Knot) (w : Word) : Reading (Option Assign) := do
  let s := w.bare?.getD []
  let adds := (Host.str "+=").isSuffixOf s
  let name := if adds then s.dropLast.dropLast else s.dropLast
  if s.getLast? = some '=' && Host.isName name && (← peek) = some '(' then
    skip
    let items ← listItems k ((← get).input.length + 1) []
    return some (.mk name none adds (.items items))
  else return none

/-- The next token, nothing but its characters taken into account. -/
def rawToken (k : Knot) : Reading Token := do
  match (← get).pushed with
  | some t => do
    modify fun r => { r with pushed := none }
    return t
  | none => do
    skipBlanks
    let dialect := (← get).dialect
    match ← peek with
    | none => return .finish
    | some '\n' => do
      skip
      return .lineBreak
    | some c =>
      let word : Reading Token := do
        let before := (← get).input
        let w ← k.scan .plain
        let behind := (← get).input
        let raw : Str := if dialect = .extended then before.take (before.length - behind.length)
          else []
        let fd? := match w.bare? with
          | some s => if s.length = 1 || dialect = .extended then Host.natural? s else none
          | none => none
        let next ← peek
        match if next = some '<' || next = some '>' then fd? else none with
        | some fd => do
          match ← operator? (redirections dialect) with
          | some o => return .redirection (some fd) o
          | none => return .word w false raw
        | none => do
          let list? ← if dialect = .extended then listAssign? k w else pure none
          match list? with
          | some a => return .list a raw
          | none => return .word w w.bare?.isNone raw
      if c = '<' || c = '>' then
        if dialect = .extended && (← Lexeme.opensProcess) then word
        else match ← operator? (redirections dialect) with
          | some o => return .redirection none o
          | none => word
      else if c = '&' && dialect = .extended then
        match ← operator? ["&>>", "&>"] with
        | some o => return .redirection none o
        | none =>
          match ← operator? (operators dialect) with
          | some o => return .operator o
          | none => word
      else
        match ← operator? (operators dialect) with
        | some o => return .operator o
        | none => word

/-- Leave out line breaks, with the here-documents behind them. -/
def pastLines (k : Knot) : Nat → Token → Reading Token
  | fuel + 1, .lineBreak => do
    Lexeme.documents k
    pastLines k fuel (← rawToken k)
  | _, t => return t

/-- The next token, aliases replaced. -/
def tokenWithin (k : Knot) (want : Want) : Nat → Reading Token
  | 0 => return .finish
  | fuel + 1 => do
    let t ← rawToken k
    let t ← if want.pastLines then pastLines k ((← get).input.length + 2) t else pure t
    match t with
    | .word w false raw =>
      let r ← get
      let s := w.bare?.getD []
      if want.keywords && isKeyword r.dialect s then return .keyword s
      else if want.aliases && !r.active.contains s then
        match r.aliases.find? fun a => a.1 = s with
        | some (_, value) => do
          set { r with input := value ++ Reader.aliasEnd :: r.input, active := s :: r.active }
          tokenWithin k want fuel
        | none => return .word w false raw
      else return .word w false raw
    | t => return t

/-- The next token. -/
def token (k : Knot) (want : Want) : Reading Token := do
  let t ← tokenWithin k want ((← get).input.length + 2)
  modify fun r => { r with last := t }
  return t

/-- Complain about the last token, with what should have come. -/
def unexpected {α : Type} (expected : Option String) : Reading α := do
  fail (.unexpected (← get).last expected)

/-- Read a token that has to be this one. -/
def expect (k : Knot) (want : Want) (s : String) : Reading Unit := do
  let t ← token k want
  if t.is s then return () else unexpected (some ("\"" ++ s ++ "\""))

/-! ## Simple commands -/

/-- The word behind a redirection. -/
def redirect (k : Knot) (fd : Option Nat) (o : Str) : Reading Redirect := do
  let plain (d : Direction) : Reading Redirect := do
    match ← token k anywhere with
    | .word w _ _ => return .mk fd d w
    | _ => unexpected none
  let document (dropsTabs : Bool) : Reading Redirect := do
    skipBlanks
    match ← peek with
    | none => do
      let _ ← token k anywhere
      unexpected none
    | some c =>
      if Lexeme.isDelimiter c then
        let _ ← token k anywhere
        unexpected none
      else
        let (mark, isRaw) ← Lexeme.markWithin ((← get).input.length + 1) false []
        let r ← get
        set { r with
          nextText := r.nextText + 1
          awaited := r.awaited ++ [Awaited.mk r.nextText mark isRaw dropsTabs] }
        return .mk fd (.document r.nextText) []
  match Host.word o with
  | ">>" => plain .append
  | ">|" => plain .force
  | ">&" => plain .duplicateOutput
  | ">" => plain .write
  | "<<-" => document true
  | "<<" => document false
  | "<<<" => plain .text
  | "<&" => plain .duplicateInput
  | "<>" => plain .both
  | "<" => plain .read
  | "&>" => plain .writeAll
  | _ => plain .appendAll

/-- The commands that a function cannot be named after. -/
def specialNames : List String :=
  [".", ":", "break", "continue", "eval", "exec", "exit", "export", "readonly", "return", "set",
    "shift", "times", "trap", "unset"]

/-- The commands that take assignments as operands. -/
def declarers : List String := ["declare", "typeset", "local", "export", "readonly"]

/-- Whether a word is one of several names. -/
def isOneOf (names : List String) (w : Word) : Bool :=
  match w.bare? with
  | some s => names.any fun n => n.toList = s
  | none => false

/-- The definition of a function whose name and first bracket have been read. -/
def definition (k : Knot) (name : Word) : Reading Cmd := do
  expect k anywhere ")"
  let r ← get
  let isBad : Bool := match name.bare? with
    | some s =>
      r.dialect = .basic && (!Host.isName s || specialNames.any fun n => n.toList = s)
    | none => true
  if isBad then refuse "Bad function name"
  else
    let first ← token k atNextCommand
    push first
    return .define r.line (name.bare?.getD []) (← k.command)

/-- What has been read of a simple command. -/
structure Partial where
  simple : Simple
  /-- Assignments of lists that follow the command. -/
  later : List Assign
  done : Option Cmd

/-- Read a simple command word by word. -/
def simpleWithin (k : Knot) : Nat → Bool → Partial → Reading Partial
  | 0, _, p => return p
  | fuel + 1, atStart, p => do
    let s := p.simple
    let t ← token k ⟨false, false, atStart⟩
    match t with
    | .word w _ _ => do
      let dialect := (← get).dialect
      let a? := if atStart then assign? dialect w else none
      match a? with
      | some a => simpleWithin k fuel true { p with simple := { s with assigns := s.assigns ++ [a] } }
      | none => simpleWithin k fuel false { p with simple := { s with words := s.words ++ [w] } }
    | .list (.mk name index adds value) _ =>
      if atStart then
        simpleWithin k fuel true
          { p with simple := { s with assigns := s.assigns ++ [.mk name index adds value] } }
      else if ((s.words.head?).map (isOneOf declarers)).getD false then
        simpleWithin k fuel false
          { p with
            simple := { s with words := s.words ++ [Word.literal name] }
            later := p.later ++ [.mk name index adds value] }
      else
        modify fun r => { r with last := .operator ['('] }
        unexpected none
    | .redirection fd o => do
      let r ← redirect k fd o
      simpleWithin k fuel atStart { p with simple := { s with redirects := s.redirects ++ [r] } }
    | t =>
      if t.isOperator "(" && s.words.length = 1 && s.assigns.isEmpty && s.redirects.isEmpty then
        return { p with done := some (← definition k (s.words.headD [])) }
      else do
        push t
        return p

/-- A simple command. -/
def simple (k : Knot) : Reading Cmd := do
  let line := (← get).line
  let p ← simpleWithin k ((← get).input.length + 3) true ⟨⟨[], [], []⟩, [], none⟩
  match p.done with
  | some c => return c
  | none =>
    let c : Cmd := .simple line p.simple.assigns p.simple.words p.simple.redirects
    return if p.later.isEmpty then c else .seq c (.simple line p.later [] [])

/-! ## Conditions -/

/-- The operators of a condition on one word. -/
def unaryOperators : List String :=
  ["-a", "-b", "-c", "-d", "-e", "-f", "-g", "-h", "-k", "-p", "-r", "-s", "-t", "-u", "-w", "-x",
    "-G", "-L", "-N", "-O", "-S", "-n", "-z", "-o", "-v", "-R"]

/-- The operators of a condition on two words. -/
def binaryOperators : List String :=
  ["=", "==", "!=", "=~", "-eq", "-ne", "-lt", "-le", "-gt", "-ge", "-nt", "-ot", "-ef"]

/-- The operand of a comparison, whose right side may hold brackets. -/
def comparand (k : Knot) : Reading Word := do
  skipBlanks
  k.scan .matched

/-- A condition on one or two words, or in brackets. -/
def primary (k : Knot) (whole : Reading Test) : Reading Test := do
  let t ← token k ⟨true, false, false⟩
  match t with
  | .word w quoted raw =>
    let isUnary := !quoted && unaryOperators.any fun o => o.toList = raw
    let next ← token k anywhere
    match next with
    | .word v _ raw' =>
      if binaryOperators.any fun o => o.toList = raw' then
        return .binary raw' w (← comparand k)
      else if isUnary then return .unary raw v
      else
        push next
        return .word w
    | .redirection none o =>
      if o = ['<'] || o = ['>'] then return .binary o w (← comparand k)
      else
        push next
        return .word w
    | next => do
      push next
      return .word w
  | t =>
    if t.isOperator "(" then
      let inner ← whole
      expect k ⟨true, false, false⟩ ")"
      return inner
    else unexpected none

/-- A condition, its negations taken off. -/
def negation (k : Knot) (whole : Reading Test) : Nat → Reading Test
  | 0 => unexpected none
  | fuel + 1 => do
    let t ← token k ⟨true, true, false⟩
    if t.isKeyword "!" then return .negated (← negation k whole fuel)
    else do
      push (match t with
        | .keyword s => .word [.literal false s] false s
        | t => t)
      primary k whole

/-- Conditions that all have to hold. -/
def conjunction (k : Knot) (whole : Reading Test) : Nat → Test → Reading Test
  | 0, t => return t
  | fuel + 1, t => do
    let next ← token k ⟨true, false, false⟩
    if next.isOperator "&&" then
      conjunction k whole fuel (.both t (← negation k whole (fuel + 1)))
    else do
      push next
      return t

/-- Conditions one of which has to hold. -/
def disjunction (k : Knot) (whole : Reading Test) : Nat → Test → Reading Test
  | 0, t => return t
  | fuel + 1, t => do
    let next ← token k ⟨true, false, false⟩
    if next.isOperator "||" then
      let u ← negation k whole (fuel + 1)
      disjunction k whole fuel (.either t (← conjunction k whole (fuel + 1) u))
    else do
      push next
      return t

/-- A condition with brackets at most so deep. -/
def condition (k : Knot) : Nat → Reading Test
  | 0 => unexpected none
  | depth + 1 => do
    let n := (← get).input.length + 2
    let t ← negation k (condition k depth) n
    let t ← conjunction k (condition k depth) n t
    disjunction k (condition k depth) n t

/-! ## Compound commands -/

/-- The branches of a condition, up to its end. -/
def branches (k : Knot) : Nat → Reading Cmd
  | 0 => unexpected none
  | fuel + 1 => do
    let test ← k.block false
    expect k atCommand "then"
    let yes ← k.block false
    let t ← token k atCommand
    if t.isKeyword "elif" then return .cond test yes (some (← branches k fuel))
    else if t.isKeyword "else" then
      let no ← k.block false
      expect k atCommand "fi"
      return .cond test yes (some no)
    else if t.isKeyword "fi" then return .cond test yes none
    else unexpected (some "\"fi\"")

/-- The body of a loop. -/
def body (k : Knot) : Reading Cmd := do
  expect k atNextCommand "do"
  let c ← k.block false
  expect k atCommand "done"
  return c

/-- The words of a loop up to the end of the line. -/
def items (k : Knot) : Nat → List Word → Reading (List Word)
  | 0, ws => return ws.reverse
  | fuel + 1, ws => do
    let t ← token k anywhere
    match t with
    | .word w _ _ => items k fuel (w :: ws)
    | t =>
      if t.isLineBreak then
        Lexeme.documents k
        return ws.reverse
      else if t.isOperator ";" then return ws.reverse
      else unexpected none

/-- The three expressions of a counting loop. -/
def sections (w : Word) : Option (Word × Word × Word) :=
  let rec split : Word → List Word → Word → List Word
    | [], done, part => (part.reverse :: done).reverse
    | .literal true s :: rest, done, part =>
      let pieces := (Host.splitOn ';' s).map fun t => ([.literal true t] : Word)
      match pieces with
      | [] => split rest done part
      | first :: more =>
        let part := first ++ part
        match more.reverse with
        | [] => split rest done part
        | last :: middle => split rest (middle ++ part.reverse :: done) last
    | p :: rest, done, part => split rest done (p :: part)
  match split w [] [] with
  | [a, b, c] => some (a, b, c)
  | _ => none

/-- A loop over words, behind its keyword. -/
def forLoop (k : Knot) (line : Nat) : Reading Cmd := do
  let extended ← isExtended
  if extended then skipBlanks
  if extended && (← get).pushed.isNone && (← get).input.take 2 = ['(', '('] then
    skip
    skip
    let w ← k.scan .arithmetic
    let t ← token k ⟨false, true, true⟩
    if !(t.isOperator ";") then push t
    let c ← do
      let t ← token k atNextCommand
      if t.isKeyword "\x7b" then
        let c ← k.block false
        expect k atCommand "\x7d"
        pure c
      else do
        push t
        body k
    match sections w with
    | some (a, b, s) => return .count line a b s c
    | none => refuse "arithmetic expression required"
  else
    match ← token k anywhere with
    | .word w quoted _ =>
      let name := w.bare?.getD []
      if quoted || !Host.isName name then refuse "Bad for loop variable"
      else
        let t ← token k atNextCommand
        if t.isKeyword "in" then
          let ws ← items k ((← get).input.length + 2) []
          return .each line name (some ws) (← body k)
        else
          if !(t.isOperator ";") then push t
          return .each line name none (← body k)
    | _ => if extended then unexpected none else refuse "Bad for loop variable"

/-- The patterns of an arm, of which the first token has been read. -/
def patterns (k : Knot) : Nat → Token → List Word → Reading (List Word)
  | 0, _, ws => return ws.reverse
  | fuel + 1, t, ws => do
    let ws ← match t with
      | .word w _ _ => pure (w :: ws)
      | .keyword s => pure ([.literal false s] :: ws)
      | _ => if ← isExtended then unexpected none else pure ([] :: ws)
    let t ← token k anywhere
    if t.isOperator "|" then patterns k fuel (← token k anywhere) ws
    else if t.isOperator ")" then return ws.reverse
    else unexpected (some "\")\"")

/-- The arms of a choice, up to its end. -/
def arms (k : Knot) : Nat → List (List Word × Cmd × ArmEnd) → Reading (List (List Word × Cmd × ArmEnd))
  | 0, done => return done.reverse
  | fuel + 1, done => do
    let t ← token k ⟨true, true, false⟩
    if t.isKeyword "esac" then return done.reverse
    else
      let t ← if t.isOperator "(" then token k anywhere else pure t
      let ws ← patterns k ((← get).input.length + 2) t []
      let c ← k.block true
      let t ← token k ⟨true, true, false⟩
      if t.isKeyword "esac" then return ((ws, c, .leave) :: done).reverse
      else if t.isOperator ";;" then arms k fuel ((ws, c, .leave) :: done)
      else if t.isOperator ";&" then arms k fuel ((ws, c, .fall) :: done)
      else if t.isOperator ";;&" then arms k fuel ((ws, c, .retry) :: done)
      else unexpected (some "\";;\"")

/-- A choice, behind its keyword. -/
def choice (k : Knot) (line : Nat) : Reading Cmd := do
  match ← token k anywhere with
  | .word w _ _ => do
    expect k atNextCommand "in"
    return .choose line w (← arms k ((← get).input.length + 2) [])
  | _ => unexpected (some "word")

/-- The redirections behind a compound command. -/
def redirects (k : Knot) : Nat → List Redirect → Reading (List Redirect)
  | 0, rs => return rs.reverse
  | fuel + 1, rs => do
    match ← token k atCommand with
    | .redirection fd o => redirects k fuel ((← redirect k fd o) :: rs)
    | t => do
      push t
      return rs.reverse

/-- A compound command with the redirections behind it. -/
def finished (k : Knot) (line : Nat) (c : Cmd) : Reading Cmd := do
  match ← redirects k ((← get).input.length + 2) [] with
  | [] => return c
  | rs => return .redirected line c rs

/-- A function in the way that names it by a keyword. -/
def namedFunction (k : Knot) (line : Nat) : Reading Cmd := do
  match ← token k anywhere with
  | .word w _ _ => do
    let t ← token k atNextCommand
    if t.isOperator "(" then
      expect k anywhere ")"
      push (← token k atNextCommand)
    else push t
    return .define line (w.bare?.getD []) (← k.command)
  | _ => unexpected none

/-- A command. -/
def command (k : Knot) : Reading Cmd := do
  let t ← token k anywhere
  let line := (← get).line
  match t with
  | .word .. => do
    push t
    simple k
  | .redirection .. => do
    push t
    simple k
  | .list .. => do
    push t
    simple k
  | .keyword s =>
    match Host.word s with
    | "if" => finished k line (← branches k ((← get).input.length + 2))
    | "while" => do
      let test ← k.block false
      finished k line (.loop true test (← body k))
    | "until" => do
      let test ← k.block false
      finished k line (.loop false test (← body k))
    | "for" => finished k line (← forLoop k line)
    | "case" => finished k line (← choice k line)
    | "\x7b" => do
      let c ← k.block false
      expect k atCommand "\x7d"
      finished k line c
    | "function" => namedFunction k line
    | "[[" => do
      let test ← condition k ((← get).input.length + 1)
      match ← token k ⟨true, false, false⟩ with
      | .word [.literal false [']', ']']] _ _ => finished k line (.test line test)
      | _ => unexpected none
    | _ => unexpected none
  | t =>
    if t.isOperator "(" then
      let subshell : Reading Cmd := do
        let c ← k.block false
        expect k atCommand ")"
        return .subshell line c
      let calculation : Reading Cmd := do
        skip
        return .calculate line (← k.scan .arithmetic)
      if (← isExtended) && (← peek) = some '(' then
        finished k line (← Lexeme.orElse calculation subshell)
      else finished k line (← subshell)
    else unexpected none

/-! ## Lists -/

/-- The further commands of a pipeline. -/
def piped (k : Knot) : Nat → List Cmd → Reading (List Cmd)
  | 0, cs => return cs.reverse
  | fuel + 1, cs => do
    let t ← token k anywhere
    if t.isOperator "|" || t.isOperator "|&" then
      let cs := if t.isOperator "|&" then
          match cs with
          | c :: rest => .redirected 0 c [.mk (some 2) .duplicateOutput (Word.literal ['1'])] :: rest
          | [] => []
        else cs
      push (← token k atNextCommand)
      piped k fuel ((← command k) :: cs)
    else do
      push t
      return cs.reverse

/-- A pipeline, perhaps negated. -/
def pipeline (k : Knot) : Nat → Reading Cmd
  | 0 => unexpected none
  | fuel + 1 => do
    let t ← token k anywhere
    if t.isKeyword "!" then
      push (← token k atCommand)
      if (← isExtended) then return .negated (← pipeline k fuel)
      else
        match ← piped k fuel [← command k] with
        | [c] => return .negated c
        | cs => return .negated (.pipe cs)
    else if t.isKeyword "time" then
      push (← token k atCommand)
      pipeline k fuel
    else do
      push t
      match ← piped k fuel [← command k] with
      | [c] => return c
      | cs => return .pipe cs

/-- Pipelines of which the later ones depend on the earlier ones. -/
def chainWithin (k : Knot) : Nat → Cmd → Reading Cmd
  | 0, c => return c
  | fuel + 1, c => do
    let t ← token k anywhere
    let n := (← get).input.length + 3
    if t.isOperator "&&" then
      push (← token k atNextCommand)
      chainWithin k fuel (.both c (← pipeline k n))
    else if t.isOperator "||" then
      push (← token k atNextCommand)
      chainWithin k fuel (.either c (← pipeline k n))
    else do
      push t
      return c

/-- Pipelines of which the later ones depend on the earlier ones. -/
def chain (k : Knot) : Reading Cmd := do
  let n := (← get).input.length + 3
  chainWithin k n (← pipeline k n)

/-- The tokens that end a list. -/
def isEnd (t : Token) : Bool :=
  t.isFinish || [")", ";;", ";&", ";;&"].any t.isOperator ||
    ["do", "done", "elif", "else", "esac", "fi", "then", "\x7d"].any t.isKeyword

/-- One command behind another. -/
def behind : Option Cmd → Cmd → Cmd
  | none, c => c
  | some b, c => .seq b c

/-- A list of commands. On the top level it ends with the line; there the end of the script is told
by none. -/
def listWithin (k : Knot) (top : Bool) : Nat → Bool → Option Cmd → Reading (Option Cmd)
  | 0, _, c => return c
  | fuel + 1, mayEnd, c => do
    let t ← token k ⟨!top, true, true⟩
    match t with
    | .lineBreak => do
      Lexeme.documents k
      return some (c.getD .nothing)
    | .finish => do
      Lexeme.documents k
      push t
      return c
    | t => do
      push t
      if mayEnd && !top && isEnd t then return c
      else
        let next ← chain k
        let t ← token k anywhere
        let next := if t.isOperator "&" then .background next else next
        let c := behind c next
        if t.isFinish then
          Lexeme.documents k
          push t
          return some c
        else if t.isLineBreak then
          push t
          listWithin k top fuel true (some c)
        else if t.isOperator "&" || t.isOperator ";" then listWithin k top fuel true (some c)
        else if top then unexpected none
        else do
          push t
          return some c

/-- A list of commands inside of another one. -/
def block (k : Knot) (mayBeEmpty : Bool) : Reading Cmd := do
  return (← listWithin k false ((← get).input.length + 3) mayBeEmpty none).getD .nothing

/-- The commands inside of a word. -/
def commands (k : Knot) (closed : Bool) : Reading Cmd := do
  let c ← block k true
  if closed then
    let t ← token k atCommand
    if t.isOperator ")" then return c
    else if t.isFinish && (← isExtended) then fail (.unclosed ')')
    else unexpected (some "\")\"")
  else return c

/-! ## The knot -/

/-- What is asked of the knot. -/
inductive Goal where
  | commands (closed : Bool)
  | block (mayBeEmpty : Bool)
  | command
  | scan (mode : Mode)

/-- What an answer of the knot is. -/
abbrev Goal.Answer : Goal → Type
  | .scan _ => Word
  | _ => Cmd

/-- The readers, with so many of them one inside the other. -/
def reach : Nat → (g : Goal) → Reading g.Answer
  | 0, _ => Reading.refuse "nested too deeply"
  | depth + 1, g =>
    let k : Knot := ⟨fun closed => reach depth (.commands closed),
      fun mayBeEmpty => reach depth (.block mayBeEmpty), reach depth .command,
      fun mode => reach depth (.scan mode)⟩
    match g with
    | .commands closed => commands k closed
    | .block mayBeEmpty => block k mayBeEmpty
    | .command => command k
    | .scan mode => Lexeme.scan k mode

/-- The readers for scripts of a length. -/
def knot (length : Nat) : Knot :=
  let depth := length + 8
  ⟨fun closed => reach depth (.commands closed), fun mayBeEmpty => reach depth (.block mayBeEmpty),
    reach depth .command, fun mode => reach depth (.scan mode)⟩

/-- The commands up to the end of the next line that ends a list; none at the end of the script. -/
def next : Reading (Option Cmd) := do
  let n := (← get).input.length + 3
  modify fun r => { r with pushed := none }
  listWithin (knot n) true n false none

end Grammar

end StaleBuild.Shell
