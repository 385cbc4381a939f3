import StaleBuild.Host.Basic
import StaleBuild.Host.Case
import StaleBuild.Shell.Reader

/-!
The state of a running shell: the host, variables and parameters, functions, options, traps and jobs.
What a shell does is an `Sh`: it changes the state, and either goes on with a value or leaves the
commands around it in one of the ways of `Flow`.
-/

namespace StaleBuild.Shell

open Host (Str str)

/-- The value of a variable. -/
inductive Value where
  | text (s : Str)
  /-- Items by number, in increasing order. -/
  | items (l : List (Nat × Str))
  /-- Items by name. -/
  | table (l : List (Str × Str))
deriving DecidableEq

namespace Value

/-- The value where one text is asked for. -/
def single? : Value → Option Str
  | .text s => some s
  | .items l => (l.find? fun e => e.1 = 0).map Prod.snd
  | .table l => (l.find? fun e => e.1 = ['0']).map Prod.snd

/-- The place of a name among the items that are kept by name. -/
def place (name : Str) : Nat :=
  (name.foldl (fun n c => ((n * 16777619) % 2 ^ 32) ^^^ c.toNat) 2166136261) % 1024

/-- Items by name in the order in which they are shown. -/
def ordered (l : List (Str × Str)) : List (Str × Str) :=
  l.mergeSort fun a b => decide (place a.1 ≤ place b.1)

/-- All items. -/
def all : Value → List Str
  | .text s => [s]
  | .items l => l.map Prod.snd
  | .table l => (ordered l).map Prod.snd

/-- The indices of all items. -/
def indices : Value → List Str
  | .text _ => [['0']]
  | .items l => l.map fun e => Host.decimal e.1
  | .table l => (ordered l).map Prod.fst

/-- Items by number with one more. -/
def setItem (n : Nat) (s : Str) : List (Nat × Str) → List (Nat × Str)
  | [] => [(n, s)]
  | (m, t) :: rest =>
    if m = n then (n, s) :: rest
    else if n < m then (n, s) :: (m, t) :: rest
    else (m, t) :: setItem n s rest

/-- Items by name with one more. -/
def setEntry (k s : Str) : List (Str × Str) → List (Str × Str)
  | [] => [(k, s)]
  | (j, t) :: rest => if j = k then (k, s) :: rest else (j, t) :: setEntry k s rest

end Value

/-- A variable. -/
structure Variable where
  /-- The value, if there is one. -/
  value : Option Value
  exported : Bool
  fixed : Bool
  /-- Values are calculated when they are assigned. -/
  calculates : Bool
  /-- The case that values are put in: upper or lower. -/
  casing : Option Bool

namespace Variable

/-- A variable with nothing said of it. -/
def new : Variable := ⟨none, false, false, false, none⟩

end Variable

/-- What a shell can be told to do. -/
structure Options where
  exitOnFailure : Bool
  demandsValues : Bool
  traces : Bool
  literalPatterns : Bool
  sparesFiles : Bool
  echoesInput : Bool
  exportsAll : Bool
  readsOnly : Bool
  failsWithPipe : Bool
  /-- Further options by name. -/
  others : List Str

namespace Options

def none : Options := ⟨false, false, false, false, false, false, false, false, false, []⟩

end Options

/-- Where a script comes from. -/
inductive Source where
  | argument
  | input
  | file
deriving DecidableEq

/-- A command that runs beside the others. It is run when someone waits for it or when time goes on,
as if it had been running from its start. -/
structure Job where
  pid : Nat
  /-- What it does on a host. -/
  task : Host → ExitState × Host
  started : Time
  /-- How it ended and when, once it has been run. -/
  ended : Option (ExitState × Time)

/-- A program that has been found under its name. -/
structure Known where
  name : Str
  path : Str
  /-- How often it has been asked for since. -/
  hits : Nat
  /-- The current directory has changed since. -/
  doubtful : Bool
deriving DecidableEq

/-- How commands are left. -/
inductive Flow where
  /-- The shell ends, with the status that it has. -/
  | exit
  | killed (signal : Nat)
  /-- The loops of this many levels end. -/
  | breaks (levels : Nat)
  /-- The loop this many levels outside goes on with its next turn. -/
  | continues (levels : Nat)
  /-- The function ends. -/
  | returns
  /-- Something was impossible, which ends the shell or the command that it is part of. -/
  | failed
deriving DecidableEq

/-- A running shell. -/
structure State where
  host : Host
  dialect : Dialect
  source : Source
  /-- The name of the script. -/
  name : Str
  /-- The file from which commands are read on behalf of another one. -/
  within : Option Str
  args : List Str
  bindings : List (Str × Variable)
  functions : List (Str × Cmd)
  /-- The programs that have been found, the first one first. -/
  known : List Known
  aliases : List (Str × Str)
  /-- The texts of the here-documents of all commands that have been read. -/
  texts : List (Nat × Word)
  nextText : Nat
  options : Options
  line : Nat
  /-- The exit status of the last command. -/
  status : Nat
  /-- The exit states of the commands of the last pipeline. -/
  states : List Nat
  /-- The exit status of the last command inside of a word, if there was one. -/
  inner : Option Nat
  /-- The number of the shell, the same in the processes that it splits off. -/
  pid : Nat
  /-- The command of the shell that is running, for messages. -/
  running : Option Str
  /-- A failure is being asked for, so that it ends nothing. -/
  guarded : Bool
  /-- How many loops and functions are around the command. -/
  loops : Nat
  calls : List Str
  /-- The variables that functions hide, with what they were before; the innermost call first. -/
  hidden : List (List (Str × Option Variable))
  /-- What is done at a signal; 0 stands for the end. An empty text ignores the signal. -/
  traps : List (Nat × Str)
  /-- The status that a trap goes back to. -/
  saved : Option Nat
  jobs : List Job
  lastJob : Option Nat
  /-- The current directory as it was reached. -/
  directory : Str
  /-- How far the letters of an argument have been read as options. -/
  letter : Nat
  /-- Whether the process has been split off. -/
  isPart : Bool

/-- What a shell does. -/
abbrev Sh := ExceptT Flow (StateM State)

/-- Runs a command. -/
abbrev Runner := Cmd → Sh Unit

/-- What the commands of a shell need of the whole. -/
structure Engine where
  run : Runner
  /-- Runs a program, which is found at a path, as a process of its own. -/
  start : Str → List Str → Act (Except FileError ExitState)
  /-- Runs a simple command that is given by its words and is no function. -/
  call : List Str → Sh Unit

namespace State

/-- The variable of a name. -/
def binding (s : State) (name : Str) : Option Variable :=
  (s.bindings.find? fun v => v.1 = name).map Prod.snd

/-- The state with another variable of a name, or none. Programs are looked for anew when the
directories to look in change. -/
def withVariable (s : State) (name : Str) (v : Option Variable) : State :=
  let others := s.bindings.filter fun w => w.1 ≠ name
  { s with
    bindings := match v with
      | some v => (name, v) :: others
      | none => others
    known := if name = str "PATH" then [] else s.known }

/-- What is known of a program. -/
def known? (s : State) (name : Str) : Option Known := s.known.find? fun k => k.name = name

/-- The state with a program that was found, and run so many times more. -/
def withKnown (s : State) (name path : Str) (hits : Nat) : State :=
  match s.known? name with
  | some _ => { s with known := s.known.map fun k =>
      if k.name = name then ⟨name, path, k.hits + hits, false⟩ else k }
  | none => { s with known := s.known ++ [⟨name, path, hits, false⟩] }

/-- The text of a variable. -/
def text? (s : State) (name : Str) : Option Str :=
  ((s.binding name).bind Variable.value).bind Value.single?

/-- What programs get to see of the variables. -/
def environment (s : State) : List (Str × Str) :=
  s.bindings.reverse.filterMap fun (name, v) =>
    if v.exported then (v.value.bind Value.single?).map fun t => (name, t) else none

/-- The characters that separate fields. -/
def separators (s : State) : Str := (s.text? (str "IFS")).getD [' ', '\t', '\n']

/-- The letters of the options that are set. -/
def letters (s : State) : Str :=
  let o := s.options
  (if o.exportsAll then ['a'] else []) ++ (if o.exitOnFailure then ['e'] else []) ++
    (if o.literalPatterns then ['f'] else []) ++
    (if s.dialect = .extended then ['h'] else []) ++
    (if o.readsOnly then ['n'] else []) ++ (if o.demandsValues then ['u'] else []) ++
    (if o.echoesInput then ['v'] else []) ++ (if o.traces then ['x'] else []) ++
    (if s.dialect = .extended then ['B'] else []) ++
    (if o.sparesFiles then ['C'] else []) ++
    (if s.dialect = .extended && s.source = .argument then ['c'] else [])

/-- What stands ahead of a message: the script, the line and the command of the shell. -/
def heading (s : State) : Str :=
  match s.dialect with
  | .basic =>
    s.name ++ str ": " ++ Host.decimal s.line ++ str ": " ++ match s.running with
      | some c => c ++ str ": "
      | none => []
  | .extended =>
    let name := if s.calls ≠ [] && s.source = .argument then str "environment"
      else s.within.getD s.name
    name ++ str ": line " ++ Host.decimal s.line ++ str ": " ++ match s.running with
      | some c => c ++ str ": "
      | none => []

end State

namespace Sh

/-- Do something on the host. -/
def act {α : Type} (a : Act α) : Sh (Except ExitState α) := fun s =>
  let (r, host) := a s.host
  (.ok r, { s with host })

/-- Do something on the host that never ends the process. -/
def act' (a : Act Unit) : Sh Unit := do
  let _ ← act a

/-- Change the host. -/
def onHost (f : Host → Host) : Sh Unit := modify fun s => { s with host := f s.host }

/-- Write to a stream; a stream that takes nothing is passed over. -/
def put (fd : Nat) (text : Str) : Sh Unit := act' (Act.put fd text)

/-- Set the exit status. -/
def setStatus (n : Nat) : Sh Unit := modify fun s => { s with status := n }

/-- A message in the name of the script. -/
def warn (message : Str) : Sh Unit := do
  put 2 ((← get).heading ++ message ++ ['\n'])

/-- A message that ends what is being done. -/
def refuse {α : Type} (status : Nat) (message : Str) : Sh α := do
  warn message
  setStatus status
  throw .failed

/-- The status for what is impossible. -/
def badStatus : Sh Nat := return if (← get).dialect = .basic then 2 else 1

/-- Whether the shell speaks the extended dialect. -/
def isExtended : Sh Bool := return (← get).dialect = .extended

/-! ## Variables -/

/-- Put a value in the case that a variable asks for. -/
def cased (v : Variable) (s : Str) : Str :=
  match v.casing with
  | some true => Host.Case.upper s
  | some false => Host.Case.lower s
  | none => s

/-- Give a variable a value as it is. -/
def setValue (name : Str) (value : Value) : Sh Unit := do
  let s ← get
  let v := (s.binding name).getD .new
  if v.fixed then
    if s.dialect = .basic then refuse 2 (name ++ str ": is read only")
    else refuse 1 (name ++ str ": readonly variable")
  else
    set (s.withVariable name (some { v with
      value := some value, exported := v.exported || s.options.exportsAll }))
    if name = str "OPTIND" then modify fun s => { s with letter := 0 }

/-- Give a variable a text, which goes to the first item of an array. -/
def assign (name text : Str) : Sh Unit := do
  let v := ((← get).binding name).getD .new
  let text := cased v text
  match v.value with
  | some (.items l) => setValue name (.items (Value.setItem 0 text l))
  | some (.table l) => setValue name (.table (Value.setEntry ['0'] text l))
  | _ => setValue name (.text text)

/-- Take a variable away. -/
def unset (name : Str) : Sh Unit := do
  let s ← get
  match s.binding name with
  | some v =>
    if v.fixed then
      if s.dialect = .basic then refuse 2 (name ++ str ": is read only")
      else refuse 1 (name ++ str ": cannot unset: readonly variable")
    else set (s.withVariable name none)
  | none => return ()

/-- Change what is said of a variable. -/
def mark (name : Str) (f : Variable → Variable) : Sh Unit := modify fun s =>
  s.withVariable name (some (f ((s.binding name).getD .new)))

/-- Hide a variable as long as the function runs. -/
def hide (name : Str) : Sh Unit := modify fun s =>
  match s.hidden with
  | [] => s
  | frame :: outer =>
    if frame.any fun h => h.1 = name then s
    else { s with hidden := ((name, s.binding name) :: frame) :: outer }

end Sh

end StaleBuild.Shell
