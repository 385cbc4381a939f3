import StaleBuild.Utility.Snippet.Run

/-!
The program `python3`, which runs programs of the script language: one that is given as an argument, one in a
file, or one that is read.
-/

namespace StaleBuild.Utility

open Host (Str str Call Program)

namespace Snippet

/-- Where the program lies. -/
def ownPath : Str := str "/usr/bin/python3"

/-- A program with its name, its arguments, and whether lines of it are shown. -/
structure Source where
  name : Str
  text : Str
  argv : List Str
  showsLines : Bool

/-- The lines that show a place in a program. -/
def placeLines (s : Source) (file : Str) (line : Nat) (name : String) : Str :=
  let head := str "  File \"" ++ file ++ str "\", line " ++ Host.decimal (line : Nat) ++ str ", in " ++ str name ++ ['\n']
  if s.showsLines && file = s.name then
    match (Host.linesOf s.text)[line - 1]? with
    | some l => head ++ str "    " ++ Host.trimBy Host.isSpace l ++ ['\n']
    | none => head
  else head

/-- The lines that show a fault in the text of a program. -/
def faultLines (s : Source) (f : Fault) : Str :=
  let head := str "  File \"" ++ s.name ++ str "\", line " ++ Host.decimal (f.line : Nat) ++ ['\n']
  let last := str f.kind ++ str ": " ++ str f.words ++ ['\n']
  match ((textOf s.text).splitOn '\n')[f.line - 1]? with
  | none => head ++ last
  | some l =>
    let body := l.dropWhile Host.isSpace
    let shown := str "    " ++ strOf (Host.dropEnd Host.isSpace body) ++ ['\n']
    if f.words = "unexpected indent" then head ++ shown ++ last
    else
      let blanks := 4 + f.column - (l.length - body.length)
      head ++ shown ++ Host.run blanks ' ' ++ Host.run (max f.width 1) '^' ++ ['\n'] ++ last

/-! ## Names that were meant -/

/-- What it costs to make one text of another: two for a letter, one if only its case is another one. -/
def distance (a b : Text) : Nat :=
  let cost (x y : Char) : Nat := if x = y then 0 else if x.toLower = y.toLower then 1 else 2
  -- one row of costs after another, each from the one above
  let row (above : List Nat) (x : Char) : List Nat :=
    let first := above.headD 0 + 2
    let rest := ((above.zip above.tail).zip b).foldl (fun (out : List Nat) ((diagonal, up), y) =>
      min (min (up + 2) (out.headD 0 + 2)) (diagonal + cost x y) :: out) [first]
    rest.reverse
  (a.foldl row ((List.range (b.length + 1)).map (2 * ·))).getLastD 0

/-- More names that need no import. -/
def otherNames : List String :=
  ["aiter", "anext", "breakpoint", "classmethod", "compile", "complex", "copyright", "credits", "delattr", "eval",
    "exec", "help", "license", "memoryview", "property", "slice", "staticmethod", "super"]

/-- The name that is nearest to a name, if it is near enough. -/
def nearestName (names : List String) (name : String) : Option String :=
  let a := name.toList
  let found := names.foldl (fun (best : Option (Nat × String)) n =>
    let most := (a.length + n.length + 3) * 2 / 6
    let most := match best with
      | some (d, _) => min most (d - 1)
      | none => most
    let d := distance a n.toList
    if n ≠ name && d ≤ most then some (d, n) else best) none
  found.map Prod.snd

/-- What is added to the words about a name that is not there. -/
def hint (m : Machine) (kind : String) (words : Text) : Text :=
  if kind ≠ "NameError" then []
  else match Host.cut '\'' words with
    | (_, some rest) =>
      let name := String.ofList (rest.takeWhile (· ≠ '\''))
      let own := ((m.scopes[0]?).map fun s => s.bindings.keys).getD []
      let known := (builtins ++ classes ++ otherNames ++ m.kinds.map Prod.fst).mergeSort fun a b => a ≤ b
      match nearestName (own ++ known) name with
      | some n => (". Did you mean: '" ++ n ++ "'?").toList
      | none => []
    | _ => []

/-- Places of which equal ones in a row are shown three times and then counted. -/
def counted (shown : Nat × String → Str) : List (Nat × String) → Option (Nat × String) → Nat → Str
  | places, last, n =>
    let told : Str := if 3 < n then
        str "  [Previous line repeated " ++ Host.decimal (n - 3 : Nat) ++ str (if n = 4 then " more time]\n" else " more times]\n")
      else []
    match places with
    | [] => told
    | p :: rest =>
      if last = some p then (if n < 3 then shown p else []) ++ counted shown rest last (n + 1)
      else told ++ shown p ++ counted shown rest (some p) 1

/-- The words about an exception, with its class. -/
def exceptionLine (m : Machine) (v : Val) : Str :=
  match v with
  | .ref id => match m.store[id]? with
    | some (.exception kind args) =>
      let words := if kind = "subprocess.CalledProcessError" then
          match args with
          | [.whole n, command] =>
            "Command '".toList ++ display m.store command ++
              (if n < 0 then "' died with ".toList ++ (match Host.Signal.name? (-n).toNat with
                | some name => "<Signals.SIG".toList ++ name ++ ": ".toList ++ Host.decimal (-n) ++ ">.".toList
                | none => "unknown signal ".toList ++ Host.decimal (-n) ++ ['.'])
              else "' returned non-zero exit status ".toList ++ Host.decimal n ++ ['.'])
          | _ => []
        else display m.store v
      str kind ++ (if words.isEmpty then [] else str ": " ++ strOf (words ++ hint m kind words)) ++ ['\n']
    | _ => []
  | _ => []

/-- What is written about an exception that nothing takes, after those during whose handling it arose. -/
def traceLines (s : Source) (m : Machine) : Nat → Nat → Raised → Str
  | 0, _, _ => []
  | fuel + 1, line, r =>
    let earlier := match r.value with
      | .ref id => match m.before.find? fun b => b.1 = id with
        | some (_, l, e, isCause) =>
          (if l = 0 then exceptionLine m e.value else traceLines s m fuel l e) ++
            str (if isCause then "\nThe above exception was the direct cause of the following exception:\n\n"
              else "\nDuring handling of the above exception, another exception occurred:\n\n")
        | none => []
      | _ => []
    let file (name : String) : Str :=
      if name = "makedirs" || name = "__getitem__" then str "<frozen os>" else s.name
    earlier ++ str "Traceback (most recent call last):\n" ++
      counted (fun (l, n) => placeLines s (file n) l n) ((line, "<module>") :: r.trace) none 0 ++ exceptionLine m r.value

/-- Run a program to its end. -/
def execute (start : Host.Starter) (c : Call) (s : Source) : Act Nat := do
  match programOf (textOf s.text) with
  | .error f => do
    Act.complain (faultLines s f)
    return 1
  | .ok program =>
    let environment := (← get).process.environment.map fun v => (Val.text (textOf v.1), Val.text (textOf v.2))
    let stream (name mode : String) (channel : Channel) : Object :=
      .stream ⟨.text name.toList, mode, channel, false, none⟩
    let store : Store :=
      #[.list (s.argv.map fun a => Val.text (textOf a)).toArray, .dict environment,
        stream "<stdin>" "r" .input, stream "<stdout>" "w" .output, stream "<stderr>" "w" .errors]
    let machine : Machine :=
      ⟨{ c with name := s.name }, start, store, #[⟨∅, []⟩], [0], 1, 0,
        exceptionKinds ++ [("subprocess.CalledProcessError", "Exception"), ("io.UnsupportedOperation", "OSError")], [],
        []⟩
    let (r, m) ← (block plenty program).run machine
    match r with
    | .ok _ => return 0
    | .error r =>
      let kindAndArgs := match r.value with
        | .ref id => match m.store[id]? with
          | some (.exception kind args) => (kind, args)
          | _ => ("", [])
        | _ => ("", [])
      match kindAndArgs with
      | ("SystemExit", []) => return 0
      | ("SystemExit", [v]) =>
        match v with
        | .nothing => return 0
        | v => match whole? v with
          | some n => return (n % 256).toNat
          | none => do
            let _ ← Act.flush
            Act.complain (strOf (display m.store v) ++ ['\n'])
            return 1
      | ("SystemExit", args) => do
        let _ ← Act.flush
        Act.complain (strOf (repr m.store (.tuple args)) ++ ['\n'])
        return 1
      | ("KeyboardInterrupt", _) => do
        Act.complain (traceLines s m 100 m.line r)
        let _ ← Act.flush
        throw (.killed Host.Signal.interrupt)
      | _ => do
        Act.complain (traceLines s m 100 m.line r)
        return 1

/-- The explanation of a wrong call. -/
def usageLines (c : Call) : Str :=
  str "usage: " ++ c.name ++ str " [option] ... [-c cmd | -m mod | file | -] [arg] ...\n" ++
    str "Try " ++ [Char.ofNat 96] ++ str "python -h' for more information.\n"

/-- Read the options of a call, and run what it asks for. -/
def interpret (start : Host.Starter) (c : Call) : Nat → List Str → Act Nat
  | 0, _ => return 2
  | fuel + 1, args => do
    let absolutePath (p : Str) : Act Str := do
      let tree ← Act.tree
      return if p.head? = some '/' then p else Host.pathJoin (Host.ofPath tree.currentPath) p
    let fromInput (argv : List Str) : Act Nat := do
      match ← Act.readFd 0 with
      | .ok text => execute start c ⟨str "<stdin>", text, argv, false⟩
      | .error _ => return 0
    match args with
    | [] => fromInput [[]]
    | ['-'] :: rest => fromInput (['-'] :: rest)
    | ('-' :: 'c' :: []) :: code :: rest => execute start c ⟨str "<string>", code ++ ['\n'], str "-c" :: rest, false⟩
    | ('-' :: 'c' :: k :: ks) :: rest => execute start c ⟨str "<string>", k :: ks ++ ['\n'], str "-c" :: rest, false⟩
    | ('-' :: 'm' :: []) :: m :: _ => do
      Act.complain (ownPath ++ str ": No module named " ++ m ++ ['\n'])
      return 1
    | ('-' :: '-' :: long) :: rest =>
      if long = str "version" then
        Act.say (str "Python 3.11.2\n")
        return 0
      else if long = str "help" then
        Act.say (str "usage: " ++ c.name ++ str " [option] ... [-c cmd | -m mod | file | -] [arg] ...\n")
        return 0
      else if long.isEmpty then interpret start c fuel rest
      else do
        Act.complain (str "unknown option --" ++ long ++ ['\n'] ++ usageLines c)
        return 2
    | ('-' :: letter :: more) :: rest =>
      if letter = 'V' then
        Act.say (str "Python 3.11.2\n")
        return 0
      else if letter = 'h' || letter = '?' then
        Act.say (str "usage: " ++ c.name ++ str " [option] ... [-c cmd | -m mod | file | -] [arg] ...\n")
        return 0
      else if "bBdEiIOPqRsSuvx".toList.contains letter then
        interpret start c fuel (if more.isEmpty then rest else ('-' :: more) :: rest)
      else if letter = 'W' || letter = 'X' then interpret start c fuel (if more.isEmpty then rest.tail else rest)
      else if letter = 'c' || letter = 'm' then do
        Act.complain (str "Argument expected for the -" ++ [letter] ++ str " option\n" ++ usageLines c)
        return 2
      else do
        Act.complain (str "Unknown option: -" ++ [letter] ++ ['\n'] ++ usageLines c)
        return 2
    | script :: rest => do
      let full ← absolutePath script
      let tree ← Act.tree
      if tree.isDirectory (Host.pathOf script) then
        Act.complain (ownPath ++ str ": can't find '__main__' module in " ++ strOf (quoted false (textOf full)) ++ ['\n'])
        return 1
      match ← Act.readPath script with
      | .error cause => do
        let number : Nat := (cause.systemText?.map Prod.fst).getD 0
        Act.complain (c.name ++ str ": can't open file " ++ strOf (quoted false (textOf full)) ++ str ": [Errno " ++
          Host.decimal (number : Nat) ++ str "] " ++ Host.reason cause ++ ['\n'])
        return 2
      | .ok text => execute start c ⟨full, text, script :: rest, true⟩

end Snippet

/-- Run a program of the script language. -/
def interpreter : Program := fun start c => Snippet.interpret start c ((c.args.flatten).length + c.args.length + 2) c.args

end StaleBuild.Utility
