import StaleBuild.Host.Search
import StaleBuild.Host.Signal
import StaleBuild.Utility.Escape

/-!
Utilities that run other programs: in another environment, with a limit of time, without a terminal,
or with arguments that are read.

This serves the running program only.
-/

namespace StaleBuild.Utility

open Host (Str str Call Program Given Starter)

/-- Take the place of another program: end as it does. -/
def become (c : Call) (start : Starter) (argv : List Str) : Act Nat := do
  match ← Host.Search.runOrScript start argv with
  | .ok (.exited status) => return status
  | .ok (.killed n) => throw (.killed n)
  | .error cause =>
    c.warn (Host.Quote.curly (argv.headD []) ++ str ": " ++ Host.reason cause)
    return if cause = .notFound then 127 else 126

/-- The same with the words that a name has in the messages of programs that quote nothing. -/
def becomeQuoting (c : Call) (start : Starter) (verb : String) (argv : List Str) : Act Nat := do
  match ← Host.Search.runOrScript start argv with
  | .ok (.exited status) => return status
  | .ok (.killed n) => throw (.killed n)
  | .error cause =>
    c.warn (str verb ++ Host.Quote.curly (argv.headD []) ++ str ": " ++ Host.reason cause)
    return if cause = .notFound then 127 else 126

/-! ## Environments -/

/-- Whether an argument assigns a variable. -/
def isAssignment (a : Str) : Bool := a.contains '='

/-- The environment with a variable set. -/
def withVariable (env : List (Str × Str)) (name value : Str) : List (Str × Str) :=
  if env.any fun v => v.1 = name then env.map fun v => if v.1 = name then (name, value) else v
  else env ++ [(name, value)]

/-- The words of a text that is split as a shell would split it. -/
def splitWords (s : Str) : List Str := Host.wordsOf s

/-- Run a program in a changed environment, or write the environment. -/
def env : Program := fun start c => do
  -- a text that is to be split gives further arguments
  let args := match c.args with
    | ('-' :: 'S' :: text) :: rest =>
      (match text, rest with
        | [], t :: more => splitWords t ++ more
        | [], [] => []
        | t, more => splitWords t ++ more)
    | args => args
  let g ← { c with args }.read 125 "+C:iS:u:v0"
    [⟨"ignore-environment", .nothing, 'i'⟩, ⟨"null", .nothing, '0'⟩, ⟨"unset", .value, 'u'⟩,
      ⟨"chdir", .value, 'C'⟩, ⟨"split-string", .value, 'S'⟩, ⟨"debug", .nothing, 'v'⟩] false
  let (lone, operands) := match g.operands with
    | ['-'] :: rest => (true, rest)
    | l => (false, l)
  let given := (← get).process.environment
  let old := if g.has 'i' || lone then [] else given
  for n in g.values 'u' do
    if n = [] || n.contains '=' then
      c.die 125 (str "cannot unset " ++ Host.Quote.curly n ++ str ": Invalid argument")
  let kept := old.filter fun v => !(g.values 'u').contains v.1
  let assigns := operands.takeWhile isAssignment
  let environment := assigns.foldl (fun env a =>
    let (name, value) := Host.cut '=' a
    withVariable env name (value.getD [])) kept
  let command := operands.drop assigns.length
  match g.value? 'C' with
  | some dir =>
    match (← Act.tree).find (Host.pathOf dir) with
    | .ok (loc, _) => modify fun h => { h with files := { h.files with current := loc } }
    | .error cause =>
      c.die 125 (str "cannot change directory to " ++ Host.Quote.curly dir ++ str ": " ++
        Host.reason cause)
  | none => pure ()
  if command = [] then
    for (name, value) in environment do
      Act.say (name ++ '=' :: value ++ if g.has '0' then ['\x00'] else ['\n'])
    return 0
  else Act.within (fun p => { p with environment }) (become c start command)

/-- Write variables of the environment. -/
def printenv : Program := fun _ c => do
  let g ← c.read 2 "+iu:0" [⟨"null", .nothing, '0'⟩] false
  let ending := if g.has '0' then ['\x00'] else ['\n']
  let environment := (← get).process.environment
  if g.operands = [] then
    for (name, value) in environment do Act.say (name ++ '=' :: value ++ ending)
    return 0
  else
    let mut status := 0
    for n in g.operands do
      match environment.find? fun v => v.1 = n with
      | some (_, value) => Act.say (value ++ ending)
      | none => status := 1
    return status

/-! ## Priorities and signals -/

/-- Run a program with another priority, which changes nothing here. -/
def nice : Program := fun start c => do
  -- the old way to write an adjustment
  let args := match c.args with
    | ('-' :: d :: rest) :: more =>
      if d.isDigit || ((d = '-' || d = '+') && (rest.head?.map Char.isDigit).getD false) then
        ['-', 'n'] :: (d :: rest) :: more
      else c.args
    | args => args
  let g ← { c with args }.read 125 "+n:" [⟨"adjustment", .value, 'n'⟩] false
  match g.value? 'n' with
  | some n =>
    if (Host.integer? n).isNone then
      c.die 125 (str "invalid adjustment " ++ Host.Quote.curly n)
  | none => pure ()
  if g.operands = [] then
    if g.has 'n' then c.misused 125 (str "a command must be given with an adjustment")
    Act.say (str "0\n")
    return 0
  else become c start g.operands

/-- Run a program that hangups do not end. -/
def nohup : Program := fun start c => do
  let g ← c.read 125 "+" [] false
  if g.operands = [] then c.misused 125 (str "missing operand")
  Act.within (fun p => { p with ignored := 1 :: p.ignored })
    (becomeQuoting c start "failed to run command " g.operands)

/-- Run a program in a session of its own. -/
def setsid : Program := fun start c => do
  let g ← c.read 1 "+cfw" [⟨"ctty", .nothing, 'c'⟩, ⟨"fork", .nothing, 'f'⟩, ⟨"wait", .nothing, 'w'⟩] false
  if g.operands = [] then c.die 1 (str "no command specified")
  becomeQuoting c start "failed to execute " g.operands

/-! ## Limits of time -/

/-- A stretch of time as users write it, in nanoseconds: a number, and a letter for its unit. -/
def duration? (s : Str) : Option Time :=
  let (digits, unit) := match s.getLast? with
    | some 's' => (s.dropLast, 1)
    | some 'm' => (s.dropLast, 60)
    | some 'h' => (s.dropLast, 3600)
    | some 'd' => (s.dropLast, 86400)
    | _ => (s, 1)
  let nanos (whole fraction : Str) (exponent : Int) : Option Time :=
    if whole ++ fraction = [] || !(whole ++ fraction).all Char.isDigit then none
    else
      let n : Nat := Host.foldDigits 10 (whole ++ fraction) * 1000000000 * unit
      let shift := exponent - fraction.length
      some (if shift < 0 then n / 10 ^ (min shift.natAbs 400) else n * 10 ^ (min shift.natAbs 20))
  let (mantissa, exponent) := match digits.span fun d => d ≠ 'e' && d ≠ 'E' with
    | (m, []) => (m, some 0)
    | (m, _ :: e) => (m, Host.integer? e)
  let mantissa := if mantissa.head? = some '+' then mantissa.tail else mantissa
  if mantissa = str "inf" || mantissa = str "infinity" then some (10 ^ 18)
  else match Host.cut '.' mantissa, exponent with
    | (w, none), some e => nanos w [] e
    | (w, some f), some e => nanos w f e
    | _, none => none

/-- Let time go by. -/
def sleep : Program := fun _ c => do
  let g ← c.readSome 1 "" [] "operand" true
  let mut total : Time := 0
  let mut bad := false
  for a in g.operands do
    match duration? a with
    | some d => total := total + d
    | none => do
      c.warn (str "invalid time interval " ++ Host.Quote.curly a)
      bad := true
  if bad then
    c.hint
    return 1
  modify fun h => { h with clock := h.clock + total }
  return 0

/-- The number of a signal that is given by its name or its number. -/
def signal? (s : Str) : Option Nat :=
  match Host.natural? s with
  | some n => if n ≤ Host.Signal.greatest then some n else none
  | none =>
    let name := Host.toUpper s
    Host.Signal.named? (if (str "SIG").isPrefixOf name then name.drop 3 else name)

/-- Take out what was written after a time. -/
def forget (time : Time) (h : Host) : Host :=
  { h with collectors := h.collectors.map fun cs => cs.filter fun c => c.time ≤ time }

/-- Run a program that is ended when it takes longer than it may. -/
def timeout : Program := fun start c => do
  let g ← c.read 125 "+fk:s:vp"
    [⟨"foreground", .nothing, 'f'⟩, ⟨"kill-after", .value, 'k'⟩, ⟨"signal", .value, 's'⟩,
      ⟨"verbose", .nothing, 'v'⟩, ⟨"preserve-status", .nothing, 'p'⟩] false
  let signal ← match g.value? 's' with
    | none => pure Host.Signal.terminate
    | some s =>
      match signal? s with
      | some n => pure n
      | none => c.misused 125 (Host.Quote.curly s ++ str ": invalid signal")
  match g.operands with
  | [] => do
    c.hint
    return 125
  | [_] => do
    c.hint
    return 125
  | limit :: command =>
    match duration? limit with
    | none => c.misused 125 (str "invalid time interval " ++ Host.Quote.curly limit)
    | some limit => do
      let before := (← get).clock
      match ← Host.Search.runOrScript start command with
      | .error cause =>
        c.warn (str "failed to run command " ++ Host.Quote.curly (command.headD []) ++ str ": " ++
          Host.reason cause)
        return if cause = .notFound then 127 else 126
      | .ok ending => do
        if limit ≠ 0 && before + limit < (← get).clock then
          -- what came later never happened
          modify (forget (before + limit))
          modify fun h => { h with clock := before + limit }
          return if signal = Host.Signal.kill then 128 + signal
            else if g.has 'p' then 128 + signal else 124
        else match ending with
          | .exited status => return status
          | .killed n => throw (.killed n)

/-! ## Arguments that are read -/

/-- The arguments that a text holds, line by line; blanks separate them, and quotation marks and
backslashes hide what is special. The error is a quotation mark without its partner. -/
def quotedWords : Nat → Str → Option Str → List Str → List (List Str) → Except Bool (List (List Str))
  | 0, _, _, words, lines => .ok ((words.reverse :: lines).reverse)
  | fuel + 1, s, word, words, lines =>
    let closed := match word with
      | some w => w.reverse :: words
      | none => words
    match s with
    | [] => .ok ((if closed.isEmpty then lines else closed.reverse :: lines).reverse)
    | '\n' :: rest =>
      quotedWords fuel rest none [] (if closed.isEmpty then lines else closed.reverse :: lines)
    | '\\' :: d :: rest => quotedWords fuel rest (some (d :: word.getD [])) words lines
    | d :: rest =>
      if d = '\'' || d = '"' then
        let inside := rest.takeWhile fun e => e ≠ d && e ≠ '\n'
        match rest.drop inside.length with
        | e :: after =>
          if e = d then quotedWords fuel after (some (inside.reverse ++ word.getD [])) words lines
          else .error (d = '"')
        | [] => .error (d = '"')
      else if Host.isBlank d then quotedWords fuel rest none closed lines
      else quotedWords fuel rest (some (d :: word.getD [])) words lines

/-- The parts of a list with at most so many members each. -/
def chunksOf {α : Type} (n : Nat) : Nat → List α → List (List α)
  | 0, _ => []
  | _, [] => []
  | fuel + 1, l => l.take n :: chunksOf n fuel (l.drop n)

/-- A text with another one in place of each occurrence of a mark. -/
def replaceAll (mark new : Str) : Nat → Str → Str
  | 0, s => s
  | _, [] => []
  | fuel + 1, c :: rest =>
    if mark ≠ [] && mark.isPrefixOf (c :: rest) then
      new ++ replaceAll mark new fuel ((c :: rest).drop mark.length)
    else c :: replaceAll mark new fuel rest

/-- Run a program with arguments that are read. -/
def xargs : Program := fun start c => do
  let g ← c.read 1 "+0a:d:E:e::i::I:l::L:n:prs:txP:"
    [⟨"null", .nothing, '0'⟩, ⟨"arg-file", .value, 'a'⟩, ⟨"delimiter", .value, 'd'⟩,
      ⟨"replace", .maybe, 'i'⟩, ⟨"max-lines", .maybe, 'l'⟩, ⟨"max-args", .value, 'n'⟩,
      ⟨"no-run-if-empty", .nothing, 'r'⟩, ⟨"max-chars", .value, 's'⟩, ⟨"verbose", .nothing, 't'⟩,
      ⟨"exit", .nothing, 'x'⟩, ⟨"max-procs", .value, 'P'⟩, ⟨"open-tty", .nothing, 'o'⟩] false
  let delimiter ← match g.last? ['0', 'd'] with
    | some '0' => pure (some '\x00')
    | some _ =>
      match (Escapes.program.read ((g.value? 'd').getD [])).1 with
      | [d] => pure (some d)
      | _ => c.die 1 (str "Invalid input delimiter specification " ++ (g.value? 'd').getD [] ++
          str ": the delimiter must be either a single character or an escape sequence starting with \\.")
    | none => pure none
  let number (o : Char) : Act (Option Nat) := do
    match g.value? o with
    | none => return none
    | some s =>
      match Host.natural? s with
      | some 0 => c.die 1 (str "value 0 for -" ++ o :: str " option should be >= 1")
      | some n => return some n
      | none => c.misused 1 (str "invalid number \"" ++ s ++ str "\" for -" ++ o :: str " option")
  let most ← number 'n'
  let lines ← if g.has 'l' && (g.value? 'l').isNone then pure (some 1) else
    pure ((← number 'L').or (← number 'l'))
  let replaced := match g.last? ['I', 'i'] with
    | some 'I' => g.value? 'I'
    | some _ => some ((g.value? 'i').getD ['\x7b', '\x7d'])
    | none => none
  let text ← match ← (match g.value? 'a' with
      | some file => Act.readPath file
      | none => Act.readFd 0) with
    | .ok text => pure text
    | .error _ => pure []
  let command := if g.operands = [] then [str "echo"] else g.operands
  let groups : List (List Str) ← match delimiter, replaced with
    | some d, _ =>
      let parts := Host.splitOn d text
      let parts := if parts.getLast? = some [] then parts.dropLast else parts
      pure (parts.map fun p => [p])
    | none, some _ =>
      pure ((Host.linesOf text).filterMap fun l =>
        let l := l.dropWhile Host.isBlank
        if l = [] then none else some [l.filter fun d => d ≠ '"' && d ≠ '\''])
    | none, none =>
      match quotedWords (text.length + 2) text none [] [] with
      | .ok ls => pure ls
      | .error isDouble =>
        c.die 1 (str (if isDouble then "unmatched double quote" else "unmatched single quote") ++
          str "; by default quotes are special to xargs unless you use the -0 option")
  let calls : List (List Str) := match replaced, lines, most with
    | some mark, _, _ => groups.map fun ws => command.map fun a =>
        replaceAll mark (ws.headD []) (a.length + 1) a
    | none, some n, _ => (chunksOf n groups.length groups).map fun ls => command ++ ls.flatten
    | none, none, most =>
      let all := groups.flatten
      if all = [] then (if g.has 'r' then [] else [command])
      else (chunksOf (most.getD 100000) all.length all).map fun ws => command ++ ws
  let calls := if calls = [] && replaced.isNone && !g.has 'r' then [command] else calls
  let mut status := 0
  for argv in calls do
    if g.has 't' then Act.complain (Host.joinWith [' '] argv ++ ['\n'])
    match ← Act.within (fun p => { p with
        descriptors := p.descriptors.filter fun d => d.1 ≠ 0 })
      (do
        modify fun h =>
          let (file, h) := h.openNew ⟨.special .null, 0, false, true, false⟩
          h.withDescriptor 0 (some file)
        Host.Search.runOrScript start argv) with
    | .error cause => do
      c.warn (argv.headD [] ++ str ": " ++ Host.reason cause)
      Act.exit (if cause = .notFound then 127 else 126)
    | .ok (.killed n) => c.die 125 (argv.headD [] ++ str ": terminated by signal " ++ Host.decimal n)
    | .ok (.exited 255) => c.die 124 (argv.headD [] ++ str ": exited with status 255; aborting")
    | .ok (.exited n) => if n ≠ 0 then status := 123
  return status

end StaleBuild.Utility
