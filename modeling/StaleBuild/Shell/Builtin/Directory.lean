import StaleBuild.Host.Mode
import StaleBuild.Shell.Builtin.Basic

/-!
Commands of the shell about where it is: the current directory and the permissions of new files. The
shell remembers the way on which it came to a directory, links included.
-/

namespace StaleBuild.Shell.Builtin

open Host (Str str)

/-- The names of a path one behind the other, those that lead nowhere or back left out. -/
def logicalNames (path : Str) : List Str :=
  ((Host.splitOn '/' path).foldl (fun names n =>
    if n = [] || n = ['.'] then names
    else if n = ['.', '.'] then names.tail
    else n :: names) []).reverse

/-- The path that another one stands for in a directory, without asking the files. -/
def logicalPath (directory path : Str) : Str :=
  let whole := if path.head? = some '/' then path else directory ++ '/' :: path
  let root : Str := if whole.take 2 = ['/', '/'] && whole[2]? ≠ some '/' then ['/', '/'] else ['/']
  root ++ Host.joinWith ['/'] (logicalNames whole)

/-- The path of the current directory. -/
def physicalPath (s : State) : Str := Host.ofPath s.host.files.currentPath

/-- Go to a directory; whether there is one, or why not. -/
def enter (physical : Bool) (path : Str) : Sh (Except FileError Unit) := do
  let s ← get
  let logical := logicalPath s.directory path
  match s.host.files.find (Host.pathOf (if physical then path else logical)) with
  | .error cause => return .error cause
  | .ok (loc, e) =>
    if !e.node.isDirectory then return .error .notADirectory
    else
      let host := { s.host with files := { s.host.files with current := loc } }
      let t := { s with host }
      set { t with
        directory := if physical then physicalPath t else logical
        known := t.known.map fun (k : Known) => { k with doubtful := true } }
      let old := (s.text? (str "PWD")).getD s.directory
      Sh.assign (str "OLDPWD") old
      Sh.assign (str "PWD") (← get).directory
      return .ok ()

/-- The directories in which a relative path is looked for, and whether its place is then told. -/
def searched (s : State) (path : Str) : List (Str × Bool) :=
  let isDirect := path.head? = some '/' || path = ['.'] || path = ['.', '.'] ||
    ['.', '/'].isPrefixOf path || ['.', '.', '/'].isPrefixOf path
  match s.text? (str "CDPATH") with
  | some dirs =>
    if isDirect || dirs = [] then [(path, false)]
    else
      ((Host.splitOn ':' dirs).map fun d =>
        if d = [] then (path, false) else (Host.pathJoin d path, true)) ++ [(path, false)]
  | none => [(path, false)]

/-- Change the current directory. -/
def cd : Builtin := fun _ name args => do
  let extended ← Sh.isExtended
  read (if extended then "LPe@" else "LP") "cd: usage: cd [-L|[-P [-e]] [-@]] [dir]" args fun os rest => do
    let s ← get
    let physical : Bool := (os.getLast?).any fun o => o.1 = 'P'
    let go (shown target : Str) (tells : Bool) : Sh Nat := do
      let target := if target = [] then ['.'] else target
      let places := searched s target
      let found := places.find? fun p => s.host.files.isDirectory (Host.pathOf p.1)
      let (path, told) := found.getD (target, false)
      match ← enter physical path with
      | .ok () =>
        if tells || told then emit name ((← get).directory ++ ['\n']) else return 0
      | .error cause =>
        if extended then failing 1 (shown ++ str ": " ++ Host.reason cause)
        else wrong (str "can't cd to " ++ shown)
    match rest with
    | [] =>
      match s.text? (str "HOME") with
      | some home => go home home false
      | none => if extended then failing 1 (str "HOME not set") else go [] [] false
    | [['-']] =>
      match s.text? (str "OLDPWD") with
      | some old => go old old true
      | none => if extended then failing 1 (str "OLDPWD not set") else go [] [] true
    | target :: more =>
      if extended && !more.isEmpty then failing 1 (str "too many arguments")
      else if target = ['-'] then
        go ((s.text? (str "OLDPWD")).getD []) ((s.text? (str "OLDPWD")).getD []) true
      else go target target false

/-- Write the path of the current directory. -/
def pwd : Builtin := fun _ name args => do
  read "LP" "pwd: usage: pwd [-LP]" args fun os _ => do
    let s ← get
    let physical : Bool := (os.getLast?).any fun o => o.1 = 'P'
    emit name ((if physical then physicalPath s else s.directory) ++ ['\n'])

/-- Show or change the permissions that new files do not get. -/
def umask : Builtin := fun _ name args => do
  let extended ← Sh.isExtended
  read (if extended then "Sp" else "S") "umask: usage: umask [-p] [-S] [mode]" args fun os rest => do
    let mask := (← get).host.process.umask
    match rest with
    | [] =>
      let allowed := 0o777 - mask % 0o1000
      let digits := Host.digitsIn 8 mask
      let text : Str := if given os 'S' then
          str "u=" ++ Host.Mode.granted (allowed / 64) ++ str ",g=" ++
            Host.Mode.granted (allowed / 8) ++ str ",o=" ++ Host.Mode.granted allowed
        else Host.run (4 - digits.length) '0' ++ digits
      emit name ((if given os 'p' then str "umask " else []) ++ text ++ ['\n'])
    | mode :: _ =>
      let setTo (n : Nat) : Sh Nat := do
        Sh.onHost fun h => { h with process := { h.process with umask := n % 0o1000 } }
        return 0
      match mode with
      | [] => wrong (str "Illegal number: ")
      | c :: _ =>
        if c.isDigit then
          match Host.naturalIn? 8 mode with
          | some n => setTo n
          | none =>
            if extended then failing 1 (mode ++ str ": octal number out of range")
            else wrong (str "Illegal number: " ++ mode)
        else match Host.Mode.clauses? mode with
          | some cs => setTo (0o777 - (cs.foldl (Host.Mode.apply 0 false) (0o777 - mask % 0o1000)) % 0o1000)
          | none =>
            if extended then
              failing 1 (Script.marked [c] ++ str ": invalid symbolic mode operator")
            else wrong (str "Illegal mode: " ++ mode)

/-! ## A stack of directories -/

/-- The variable that holds the directories of the stack below the current one. -/
def stackName : Str := str "DIRSTACK"

/-- The directories below the current one. -/
def stack (s : State) : List Str := ((s.binding stackName).bind Variable.value |>.map Value.all).getD []

/-- Keep other directories below the current one. -/
def setStack (l : List Str) : Sh Unit :=
  Sh.setValue stackName (.items (l.zipIdx.map fun (t, i) => (i, t)))

/-- A directory as the stack is shown: the home directory has a short name. -/
def shortened (s : State) (path : Str) : Str :=
  match s.text? (str "HOME") with
  | some home =>
    if home ≠ [] && home ≠ ['/'] && path = home then ['~']
    else if home ≠ [] && (home ++ ['/']).isPrefixOf path then '~' :: path.drop home.length
    else path
  | none => path

/-- Write the stack. -/
def showStack (name : Str) : Sh Nat := do
  let s ← get
  emit name (Host.joinWith [' '] ((s.directory :: stack s).map (shortened s)) ++ ['\n'])

/-- Go to a directory and remember the one before, or exchange the two topmost ones. -/
def pushd : Builtin := fun _ name args => do
  let s ← get
  match args, stack s with
  | [], [] => failing 1 (str "no other directory")
  | [], top :: rest => do
    match ← enter false top with
    | .ok () => do
      setStack (s.directory :: rest)
      showStack name
    | .error cause => failing 1 (top ++ str ": " ++ Host.reason cause)
  | target :: _, below => do
    match ← enter false target with
    | .ok () => do
      setStack (s.directory :: below)
      showStack name
    | .error cause => failing 1 (target ++ str ": " ++ Host.reason cause)

/-- Go back to the directory that was remembered last. -/
def popd : Builtin := fun _ name _ => do
  match stack (← get) with
  | [] => failing 1 (str "directory stack empty")
  | top :: rest => do
    match ← enter false top with
    | .ok () => do
      setStack rest
      showStack name
    | .error cause => failing 1 (top ++ str ": " ++ Host.reason cause)

/-- Write the stack. -/
def dirs : Builtin := fun _ name _ => showStack name

end StaleBuild.Shell.Builtin
