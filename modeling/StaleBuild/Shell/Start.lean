import StaleBuild.Shell.Interpreter

/-!
The shells as programs. A shell reads options in front of its operands; the script is the first
operand itself, or the file that it names, or what there is to read.
-/

namespace StaleBuild.Shell.Start

open Host (Str str Call Program)

/-- What a shell is to run. -/
structure Script where
  source : Source
  /-- Where the text comes from, for messages about it. -/
  origin : Script.Origin
  text : Str

/-! ## The state at the start -/

/-- A variable that programs get to see. -/
def exported (value : Str) : Variable := { Variable.new with value := some (.text value), exported := true }

/-- A variable of the shell alone. -/
def plain (value : String) : Variable := { Variable.new with value := some (.text (str value)) }

/-- The path of the current directory: the way on which it was reached, if that is known. -/
def directory (h : Host) : Str :=
  let physical := Host.ofPath h.files.currentPath
  match h.process.environment.find? fun v => v.1 = str "PWD" with
  | some (_, way) =>
    let isHere : Bool := match h.files.find (Host.pathOf way) with
      | .ok (loc, _) => loc = h.files.current
      | .error _ => false
    let isPlain := (Host.splitOn '/' way).all fun n => n ≠ ['.'] && n ≠ ['.', '.']
    if way.head? = some '/' && isPlain && isHere then way else physical
  | none => physical

/-- The variables of a shell at its start, the latest first. -/
def bindings (d : Dialect) (h : Host) (directory : Str) : List (Str × Variable) :=
  let given := (h.process.environment.filter fun v => Host.isName v.1).map fun v =>
    (v.1, exported v.2)
  let own : List (Str × Variable) :=
    [(str "IFS", plain " \t\n"), (str "OPTIND", plain "1"), (str "PS4", plain "+ "),
      (str "PPID", plain (toString h.process.parent))] ++
      (match d with
        | .basic => [(str "PS1", plain "# "), (str "PS2", plain "> ")]
        | .extended => [(str "TERM", plain "dumb")]) ++
      [(str "PATH", plain "/usr/local/sbin:/usr/local/bin:/usr/sbin:/usr/bin:/sbin:/bin")]
  let isGiven (name : Str) : Bool := name ≠ str "IFS" && given.any fun v => v.1 = name
  let level : List (Str × Variable) := match d with
    | .basic => []
    | .extended =>
      let old := ((given.find? fun v => v.1 = str "SHLVL").bind fun v =>
        (v.2.value.bind Value.single?).bind Host.natural?).getD 0
      [(str "SHLVL", exported (Host.decimal (old + 1 : Nat)))]
  let given := given.filter fun v => v.1 ≠ str "PWD" && v.1 ≠ str "IFS" &&
    !(level.any fun l => l.1 = v.1)
  level ++ [(str "PWD", exported directory)] ++ own.filter (fun v => !isGiven v.1) ++ given.reverse

/-- The state of a shell at its start. -/
def state (d : Dialect) (name : Str) (h : Host) : State :=
  let directory := directory h
  { host := h
    dialect := d
    source := .input
    name
    within := none
    args := []
    bindings := bindings d h directory
    functions := []
    known := []
    aliases := []
    texts := []
    nextText := 0
    options := { Options.none with
      others := if d = .extended then Builtin.furtherAtStart else [] }
    line := 0
    status := 0
    states := []
    inner := none
    pid := h.process.pid
    running := none
    guarded := false
    loops := 0
    calls := []
    hidden := []
    traps := []
    saved := none
    jobs := []
    lastJob := none
    directory
    letter := 0
    isPart := false }

/-! ## Options -/

/-- What the options of a shell ask for besides what they change. -/
structure Asked where
  /-- The first operand is the script. -/
  inOperand : Bool
  /-- The script is what there is to read. -/
  inInput : Bool
  operands : List Str

/-- The long options of the extended dialect. -/
def longOptions : List String :=
  ["debug", "debugger", "dump-po-strings", "dump-strings", "help", "init-file", "login", "noediting",
    "noprofile", "norc", "posix", "pretty-print", "rcfile", "restricted", "verbose", "version"]

/-- How the shell of the extended dialect is used. -/
def usage (name : Str) : Str :=
  str "Usage:\t" ++ name ++ str " [GNU long option] [option] ...\n\t" ++ name ++
    str " [GNU long option] [option] script-file ...\nGNU long options:\n" ++
    longOptions.flatMap (fun o => str ("\t--" ++ o ++ "\n")) ++
    str ("Shell options:\n\t-ilrsD or -c command or -O shopt_option\t\t(invocation only)\n" ++
      "\t-abefhkmnptuvxBCEHPT or -o option\n")

/-- Refuse an option of the extended dialect. -/
def refuse {α : Type} (option : Str) : Sh α := do
  let name := (← get).name
  Sh.put 2 (name ++ str ": " ++ option ++ str ": invalid option\n" ++ usage name)
  Sh.setStatus 2
  throw .failed

/-- Read the letters of an argument: whether the script is an operand, whether it is the input, and
whether an option asks for its name. -/
def letters (sign : Char) : Str → Sh (Bool × Bool × Bool)
  | [] => return (false, false, false)
  | c :: rest => do
    let extended ← Sh.isExtended
    if c = 'c' || c = 's' || c = 'o' || (extended && c = 'O') then
      let (operand, input, named) ← letters sign rest
      return (operand || c = 'c', input || c = 's', named || c = 'o' || c = 'O')
    else if c = 'l' || (extended && "irD".toList.contains c) then letters sign rest
    else do
      let s ← get
      if (Builtin.lettered.any fun l => l.2 = c) || (Builtin.idleLetters s.dialect).contains c then
        set { s with options := Builtin.withLetter s.options c (sign = '-') }
      else if extended then refuse [sign, c]
      else Builtin.wrong (str "Illegal option " ++ [sign, c])
      letters sign rest

/-- Read the options of a shell. -/
def options : List Str → Sh Asked
  | [] => return ⟨false, false, []⟩
  | ['-', '-'] :: rest => return ⟨false, false, rest⟩
  | ['-'] :: rest => return ⟨false, false, rest⟩
  | ('-' :: '-' :: name) :: rest => do
    if ← Sh.isExtended then
      if name = str "version" || name = str "help" then
        Sh.put 1 (str "GNU bash, version 5.2.15(1)-release (x86_64-pc-linux-gnu)\n")
        throw .exit
      else if longOptions.any fun o => o.toList = name then
        if name = str "init-file" || name = str "rcfile" then
          match rest with
          | [] => return ⟨false, false, []⟩
          | _ :: rest => options rest
        else options rest
      else refuse ('-' :: '-' :: name)
    else Builtin.wrong (str "Illegal option --")
  | (sign :: more) :: rest => do
    if sign = '-' || sign = '+' then
      let (operand, input, named) ← letters sign more
      if named then
        match rest with
        | [] => return ⟨operand, input, []⟩
        | name :: rest => do
          let s ← get
          match Builtin.withName? s.dialect s.options name (sign = '-') with
          | some options => set { s with options }
          | none =>
            if s.dialect = .basic then
              Builtin.wrong (str "Illegal option " ++ sign :: str "o " ++ name)
            else if Builtin.furtherNames.any fun n => n.toList = name then
              set { s with options := { s.options with others := name :: s.options.others } }
            else
              Sh.put 2 (s.name ++ str ": line 0: " ++ s.name ++ str ": " ++ name ++
                str ": invalid option name\n")
              Sh.setStatus 2
              throw .failed
          let asked ← options rest
          return ⟨operand || asked.inOperand, input || asked.inInput, asked.operands⟩
      else
        let asked ← options rest
        return ⟨operand || asked.inOperand, input || asked.inInput, asked.operands⟩
    else return ⟨false, false, (sign :: more) :: rest⟩
  | [] :: rest => return ⟨false, false, [] :: rest⟩

/-! ## Scripts -/

/-- Complain about a script in the name of the shell. -/
def die {α : Type} (status : Nat) (message : Str) : Sh α := do
  let s ← get
  match s.dialect with
  | .basic => Sh.refuse status message
  | .extended => do
    Sh.put 2 (s.name ++ str ": " ++ message ++ ['\n'])
    Sh.setStatus status
    throw .failed

/-- The text of a script in a file. -/
def scriptFile (file : Str) : Sh Str := do
  let s ← get
  let path := if s.dialect = .extended && !file.contains '/' &&
      !s.host.files.isPresent (Host.pathOf file) then
      (Lookup.inDirectories? s file fun _ => true).getD file
    else file
  let named (status : Nat) (message : String) : Sh Str := do
    modify fun s => { s with name := path }
    die status (path ++ str message)
  match ← Sh.act (Act.readPath path) with
  | .ok (.ok text) =>
    if s.dialect = .extended && (text.takeWhile (· ≠ '\n')).contains '\x00' then
      named 126 ": cannot execute binary file"
    else return text
  | .ok (.error cause) =>
    if s.dialect = .basic then
      if cause = .isADirectory then return []
      else die 2 (Redirection.openingWords .basic false path cause)
    else if cause = .isADirectory then named 126 ": Is a directory"
    else die (if cause = .notFound then 127 else 126) (path ++ str ": " ++ Host.reason cause)
  | .error _ => return []

/-- What a shell is to run, with its name and its arguments set. -/
def script (a : Asked) : Sh Script := do
  let fromInput : Sh Script := do
    modify fun s => { s with args := a.operands }
    match ← Sh.act (Act.readFd 0) with
    | .ok (.ok text) => return ⟨.input, .file, text⟩
    | _ => return ⟨.input, .file, []⟩
  if a.inOperand then
    match a.operands with
    | [] =>
      die 2 (str (if ← Sh.isExtended then "-c: option requires an argument" else "-c requires an argument"))
    | [text] => return ⟨.argument, .argument, text⟩
    | text :: name :: args => do
      modify fun s => { s with name, args }
      return ⟨.argument, .argument, text⟩
  else if a.inInput then fromInput
  else match a.operands with
    | [] => fromInput
    | file :: args => do
      let text ← scriptFile file
      modify fun s => { s with name := file, args }
      return ⟨.file, .file, text⟩

/-- The shell of a dialect. -/
def program (d : Dialect) : Program := fun start call h =>
  let e := Interpreter.engine start
  let body : Sh Unit := do
    let asked ← options call.args
    let sc ← script asked
    modify fun s => { s with source := sc.source, line := 1 }
    if (← get).options.echoesInput then Sh.put 2 sc.text
    Script.run e.run sc.origin sc.text
  let (ending, s) := Sh.conclude e.run body (state d call.name h)
  (match ending with
    | .exited status => .ok status
    | .killed signal => .error (.killed signal), s.host)

end StaleBuild.Shell.Start
