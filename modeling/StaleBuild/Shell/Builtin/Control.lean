import StaleBuild.Shell.Builtin.Basic
import StaleBuild.Shell.Lookup

/-!
Commands of the shell that decide what is run next: they end the shell, loops and functions, run texts
and files, and take the place of the shell.
-/

namespace StaleBuild.Shell.Builtin

open Host (Str str)

/-- Do nothing. -/
def nothing : Builtin := fun _ _ _ => return 0

/-- Fail. -/
def failure' : Builtin := fun _ _ _ => return 1

/-- A status as processes have it. -/
def statusOf (n : Int) : Nat := (n % 256).toNat

/-- End the shell. -/
def exit : Builtin := fun _ _ args => do
  let s ← get
  if s.dialect = .extended && 1 < args.length then failing 1 (str "too many arguments")
  else
    let n ← match args with
      | [] => pure ((s.saved.getD s.status : Nat) : Int)
      | arg :: _ =>
        if s.dialect = .extended && (Host.integer? (Host.trimBy Host.isSpace arg)).isNone then
          Sh.warn (arg ++ str ": numeric argument required")
          pure 2
        else number arg
    Sh.setStatus (statusOf n)
    throw .exit

/-- End the function or the file that is being run. -/
def return' : Builtin := fun _ _ args => do
  let s ← get
  if s.dialect = .extended && s.calls.isEmpty && s.within.isNone then
    failing 2 (str "can only " ++ Script.marked (str "return") ++
      str " from a function or sourced script")
  else
    Sh.setStatus (statusOf (← numberOr s.status args))
    throw .returns

/-- Leave loops, or go on with the next turn of one. -/
def leaving (flow : Nat → Flow) : Builtin := fun _ _ args => do
  let n ← numberOr 1 args
  let s ← get
  if n ≤ 0 then
    if s.dialect = .extended then
      Sh.warn (args.headD [] ++ str ": loop count out of range")
      return 1
    else wrong (str "Illegal number: " ++ args.headD [])
  else if s.loops = 0 then
    if s.dialect = .extended then
      Sh.warn (str "only meaningful in a " ++ Script.marked (str "for") ++ str ", " ++
        Script.marked (str "while") ++ str ", or " ++ Script.marked (str "until") ++ str " loop")
    return 0
  else
    Sh.setStatus 0
    throw (flow (min n.toNat s.loops))

/-- Take arguments away. -/
def shift : Builtin := fun _ _ args => do
  let n ← numberOr 1 args
  let s ← get
  if n < 0 || (s.args.length : Int) < n then
    if s.dialect = .extended then
      if n < 0 then Sh.warn (args.headD [] ++ str ": shift count out of range")
      return 1
    else wrong (str "can't shift that many")
  else
    set { s with args := s.args.drop n.toNat }
    return 0

/-- Run something as part of the script, with its own count of lines. -/
def inScript (running : Option Str) (within : Option Str) (body : Sh Unit) : Sh Nat := do
  let s ← get
  set { s with running, within }
  body
  modify fun t => { t with running := s.running, within := s.within, line := s.line }
  return (← get).status

/-- Run the arguments as a text. -/
def eval : Builtin := fun e name args => do
  let s ← get
  let text := Host.joinWith [' '] args
  if text.all Host.isSpace then return 0
  else
    inScript (if s.dialect = .basic then some name else none) s.within
      (Script.run e.run (.command name) text)

/-- The file that is to be run as part of the script. -/
def scriptFile (s : State) (name : Str) : Option Str :=
  if name.contains '/' then some name
  else match Lookup.inDirectories? s name fun _ => true with
    | some path => some path
    | none => if s.dialect = .extended && s.host.files.isFile (Host.pathOf name) then some name else none

/-- Run a file as part of the script. -/
def source : Builtin := fun e command args => do
  let s ← get
  match args with
  | [] =>
    if s.dialect = .basic then return 0
    else
      Sh.warn (str "filename argument required")
      usage (Host.word command ++ ": usage: " ++ Host.word command ++ " filename [arguments]")
  | name :: rest =>
    let refusing (cause : FileError) : Sh Nat := do
      if s.dialect = .basic then
        if name.contains '/' then
          wrong (Redirection.openingWords .basic false ((str "") ++ name) cause)
        else wrong (name ++ str ": not found")
      else
        modify fun s => { s with running := none }
        Sh.warn (name ++ str ": " ++ Host.reason cause)
        return 1
    match scriptFile s name with
    | none => refusing .notFound
    | some path =>
      match ← Sh.act (Act.readPath path) with
      | .ok (.ok text) => do
        if s.dialect = .extended && !rest.isEmpty then modify fun s => { s with args := rest }
        let body : Sh Unit := do
          try Script.run e.run .file text
          catch
          | .returns => pure ()
          | flow => throw flow
        let status ← inScript (if s.dialect = .basic then some path else none) (some path) body
        if s.dialect = .extended && !rest.isEmpty then modify fun t => { t with args := s.args }
        return status
      | .ok (.error cause) =>
        if s.dialect = .extended && cause = .isADirectory then
          failing 1 (name ++ str ": is a directory")
        else refusing cause
      | .error _ => return 1

/-- Let a program take the place of the shell. -/
def exec : Builtin := fun e _ args => do
  let s ← get
  let args := if s.dialect = .extended then
      match args with
      | ['-', 'a'] :: name :: path :: rest => let _ := name; path :: rest
      | ['-', '-'] :: rest => rest
      | args => args
    else match args with
      | ['-', '-'] :: rest => rest
      | args => args
  match args with
  | [] => return 0
  | name :: _ =>
    let refusing (cause : FileError) : Sh Nat := do
      let missing := cause = .notFound || cause = .notADirectory
      let words := if missing then
          (if s.dialect = .basic || !name.contains '/' then str "not found" else Host.reason cause)
        else Host.reason cause
      if s.dialect = .extended && name.contains '/' then
        modify fun s => { s with running := none }
        Sh.warn (name ++ str ": " ++ Host.reason cause)
        modify fun s => { s with running := some (str "exec") }
        Sh.warn (name ++ str ": cannot execute: " ++ Host.reason cause)
      else Sh.warn (name ++ str ": " ++ words)
      Sh.setStatus (if missing then 127 else 126)
      throw .exit
    match Lookup.program s name with
    | .error cause => refusing cause
    | .ok path => do
      modify fun s => { s with running := none }
      match ← Lookup.start e path args with
      | .ok ending => do
        modify fun s => { s with traps := s.traps.filter fun t => t.1 ≠ 0 }
        Sh.setStatus ending.code
        match ending with
        | .killed n => throw (.killed n)
        | .exited _ => throw .exit
      | .error cause => do
        modify fun t => { t with running := s.running }
        refusing cause

/-! ## Names of commands -/

/-- What `type` says about a name. -/
def description (s : State) (name : Str) : Kind → Str
  | .alias text =>
    name ++ (if s.dialect = .basic then str " is an alias for " ++ text
      else str " is aliased to " ++ Script.marked text)
  | .keyword => name ++ str " is a shell keyword"
  | .special => name ++ str " is a special shell builtin"
  | .function => name ++ str (if s.dialect = .basic then " is a shell function" else " is a function")
  | .builtin => name ++ str " is a shell builtin"
  | .program path =>
    match s.known? name, s.dialect with
    | none, _ => name ++ str " is " ++ path
    | some _, .basic => name ++ str " is a tracked alias for " ++ path
    | some _, .extended => name ++ str " is hashed (" ++ path ++ [')']

/-- What the extended dialect says about everything that a name could stand for. -/
def descriptions (s : State) (name : Str) : List (Kind × Str) :=
  let isFunction := s.functions.any fun f => f.1 = name
  let kinds : List Kind :=
    ((s.aliases.find? fun a => a.1 = name).map fun a => Kind.alias a.2).toList ++
    (if Grammar.isKeyword s.dialect name then [.keyword] else []) ++
    (if isFunction then [.function] else []) ++
    (if Lookup.isBuiltin s.dialect name then [.builtin] else []) ++
    (if name.contains '/' then if Lookup.isProgram s name then [.program name] else []
      else (Lookup.directories s).filterMap fun d =>
        let path := Host.pathJoin d name
        if Lookup.isProgram s path then some (.program path) else none)
  kinds.map fun k => (k, description { s with known := [] } name k)

/-- The word for a kind. -/
def kindWord : Kind → String
  | .alias _ => "alias"
  | .keyword => "keyword"
  | .special => "builtin"
  | .function => "function"
  | .builtin => "builtin"
  | .program _ => "file"

/-- The answer of `type` for a name in the extended dialect, given its options. -/
def answers (s : State) (os : List (Char × Str)) (name : Str) : List Str :=
  let found : List (Kind × Str) :=
    if given os 'a' then descriptions s name
    else match Lookup.kind? s name with
      | some kind => [(kind, description s name kind)]
      | none => []
  if given os 't' then found.map fun f => str (kindWord f.1)
  else if given os 'P' && !given os 'a' then
    match Lookup.program s name with
    | .ok path => [path]
    | .error _ => []
  else if given os 'p' || given os 'P' then
    found.filterMap fun f => match f.1 with
      | .program path => some path
      | _ => none
  else found.map Prod.snd

/-- Count that a known program was asked for. -/
def count (name : Str) : Sh Unit := modify fun s =>
  match s.known? name with
  | some k => s.withKnown name k.path 1
  | none => s

/-- Say what names stand for. The basic dialect takes all arguments for names, and knows the programs
from then on. -/
def type : Builtin := fun _ command args => do
  if ← Sh.isExtended then
    read "afptP" "type: usage: type [-afptP] name [name ...]" args fun os rest => do
      let quiet := given os 't' || given os 'p' || given os 'P'
      let mut status := 0
      let mut written := 0
      for name in rest do
        let s ← get
        count name
        if written = 0 then
          written ← emit command ((answers s os name).flatMap fun l => l ++ ['\n'])
        if (Lookup.kind? s name).isNone then
          if !quiet then Sh.warn (name ++ str ": not found")
          status := 1
      return max status written
  else
    let mut status := 0
    let mut text : Str := []
    for name in args do
      let s ← get
      match Lookup.kind? s name with
      | some kind => do
        text := text ++ description s name kind ++ ['\n']
        match kind with
        | .program _ => Lookup.find name
        | _ => pure ()
      | none =>
        text := text ++ name ++ str ": not found\n"
        status := 127
    let written ← emit command text
    return max status written

/-- The answer of `command` with `-v` or `-V` for a name. -/
def identity (s : State) (os : List (Char × Str)) (name : Str) (kind : Kind) : Str :=
  if given os 'V' then description s name kind
  else match kind with
    | .alias text => str "alias " ++ name ++ str "='" ++ text ++ ['\'']
    | .program path => path
    | _ => name

/-- Run a command that is no function, or say what it is; the basic dialect says it for one name, which
it knows from then on. -/
def command : Builtin := fun e command args => do
  let s ← get
  let extended := s.dialect = .extended
  read "pvV" "command: usage: command [-pVv] command [arg ...]" args fun os rest => do
    if given os 'v' || given os 'V' then
      let mut found := false
      let mut text : Str := []
      for name in if extended then rest else rest.take 1 do
        match Lookup.kind? s name with
        | some kind =>
          found := true
          if extended then
            Sh.put 1 (identity s os name kind ++ ['\n'])
            count name
          else text := text ++ identity s os name kind ++ ['\n']
          match kind with
          | .program _ => if !extended then Lookup.find name
          | _ => pure ()
        | none =>
          if given os 'V' then
            if extended then Sh.warn (name ++ str ": not found")
            else text := text ++ name ++ str ": not found\n"
      let written ← emit command text
      return if found || rest.isEmpty then written else if extended then 1 else 127
    else match rest with
      | [] => return 0
      | words => do
        modify fun s => { s with running := none }
        try e.call words
        catch
        | .failed => do
          let status := (← get).status
          Sh.setStatus (if status = 0 then 2 else status)
        | flow => throw flow
        return (← get).status

/-- Run a command of the shell itself, whatever functions there are. -/
def builtin : Builtin := fun e _ args => do
  match args with
  | [] => return 0
  | name :: _ =>
    if Lookup.isBuiltin .extended name then
      modify fun s => { s with running := none }
      e.call args
      return (← get).status
    else failing 1 (name ++ str ": not a shell builtin")

/-- Where the basic dialect lists a program. -/
def basicPlace (k : Known) : Nat :=
  (k.name.foldl (fun n c => n + c.toNat) ((k.name.headD ' ').toNat * 16)) % 2 ^ 15 % 31

/-- The programs that the basic dialect knows, one on a line. -/
def basicList (s : State) : Str :=
  (s.known.mergeSort fun a b => decide (basicPlace a ≤ basicPlace b)).flatMap fun k =>
    k.path ++ (if k.doubtful then ['*'] else []) ++ ['\n']

/-- The programs that the extended dialect knows, in the order in which it lists them. -/
def extendedList (s : State) : List Known :=
  s.known.reverse.mergeSort fun a b => decide (Value.place a.name % 256 ≤ Value.place b.name % 256)

/-- Look for programs that are to be known. -/
def remember (names : List Str) : Sh Nat := do
  let mut status := 0
  for name in names do
    let s ← get
    if !name.contains '/' && !Lookup.isBuiltin s.dialect name &&
        !(s.functions.any fun f => f.1 = name) then
      let others := s.known.filter fun k => k.name ≠ name
      match Lookup.search s name with
      | .ok path => set ({ s with known := others }.withKnown name path 0)
      | .error _ => do
        Sh.warn (name ++ str ": not found")
        status := 1
  return status

/-- Tell of programs by name, or forget them. -/
def tellOf (command : Str) (forgets : Bool) (names : List Str) : Sh Nat := do
  let mut status := 0
  let mut text : Str := []
  for name in names do
    let s ← get
    match s.known? name with
    | some k =>
      if forgets then set { s with known := s.known.filter fun k => k.name ≠ name }
      else
        text := text ++ (if names.length = 1 then [] else name ++ ['\t']) ++ k.path ++ ['\n']
        count name
    | none => do
      Sh.warn (name ++ str ": not found")
      status := 1
  let written ← emit command text
  return max status written

/-- Show which programs are known, forget them, or look for some. -/
def hash : Builtin := fun _ command args => do
  if ← Sh.isExtended then
    read "dlp:rt" "hash: usage: hash [-lr] [-p pathname] [-dt] [name ...]" args fun os rest => do
      if given os 'r' then modify fun s => { s with known := [] }
      let s ← get
      if (given os 't' || given os 'd') && rest.isEmpty && !given os 'r' then
        failing 1 (str (if given os 't' then "-t" else "-d") ++ str ": option requires an argument")
      else if given os 't' || given os 'd' then tellOf command (given os 'd') rest
      else match (os.filter fun o => o.1 = 'p').getLast? with
        | some (_, path) =>
          modify fun s => rest.foldl (fun s name => s.withKnown name path 0) s
          return 0
        | none =>
          if !rest.isEmpty then remember rest
          else if given os 'r' then return 0
          else if s.known = [] then
            if given os 'l' then return 0 else emit command (str "hash: hash table empty\n")
          else if given os 'l' then
            emit command ((extendedList s).flatMap fun k =>
              str "builtin hash -p " ++ k.path ++ [' '] ++ k.name ++ ['\n'])
          else
            emit command (str "hits\tcommand\n" ++ (extendedList s).flatMap fun k =>
              Host.padLeft 4 (Host.decimal k.hits) ++ ['\t'] ++ k.path ++ ['\n'])
  else
    read "r" "" args fun os rest => do
      if given os 'r' then
        modify fun s => { s with known := [] }
        return 0
      else if rest.isEmpty then emit command (basicList (← get))
      else remember rest

/-! ## Aliases -/

/-- Show or set aliases. -/
def alias' : Builtin := fun _ command args => do
  let s ← get
  let shown (a : Str × Str) : Str :=
    (if s.dialect = .extended then str "alias " else []) ++ a.1 ++ str "='" ++
      (a.2.flatMap fun c => if c = '\'' then str "'\\''" else [c]) ++ str "'\n"
  let args := args.filter (· ≠ ['-', 'p'])
  if args.isEmpty then
    emit command ((s.aliases.mergeSort fun a b => !decide (b.1 < a.1)).flatMap shown)
  else
    let mut status := 0
    for arg in args do
      match pair arg with
      | (name, some text) =>
        modify fun s => { s with aliases := (name, text) :: s.aliases.filter fun a => a.1 ≠ name }
      | (name, none) =>
        match s.aliases.find? fun a => a.1 = name with
        | some a => do
          let _ ← emit command (shown a)
        | none => do
          if s.dialect = .basic then Sh.put 2 (str "alias: " ++ name ++ str " not found\n")
          else Sh.warn (name ++ str ": not found")
          status := 1
    return status

/-- Forget aliases. -/
def unalias : Builtin := fun _ _ args => do
  read "a" "unalias: usage: unalias [-a] name [name ...]" args fun os rest => do
    if given os 'a' then
      modify fun s => { s with aliases := [] }
      return 0
    else
      let mut status := 0
      for name in rest do
        let s ← get
        if s.aliases.any fun a => a.1 = name then
          set { s with aliases := s.aliases.filter fun a => a.1 ≠ name }
        else
          if s.dialect = .basic then Sh.put 2 (str "unalias: " ++ name ++ str " not found\n")
          else Sh.warn (name ++ str ": not found")
          status := 1
      return status

/-! ## What needs a terminal -/

/-- Commands of the extended dialect that are of use to someone at a terminal only. -/
def idle (status : Nat) (words : Option String) : Builtin := fun _ _ _ => do
  match words with
  | some w => Sh.warn (str w)
  | none => pure ()
  return status

end StaleBuild.Shell.Builtin
