import StaleBuild.Host.Signal
import StaleBuild.Utility.Copying
import StaleBuild.Utility.Snippet.Method

/-!
The functions that programs find or import: those of files and directories, of processes, and of values.
-/

namespace StaleBuild.Utility.Snippet

open Host (Str str)

/-! ## The things that are always there -/

/-- The places in the store of the arguments, the environment and the three streams. -/
def argumentsId : Nat := 0

def environmentId : Nat := 1

def inputId : Nat := 2

def outputId : Nat := 3

def errorsId : Nat := 4

/-- The libraries that there are. -/
def libraries : List String :=
  ["sys", "os", "os.path", "time", "signal", "shutil", "pathlib", "subprocess", "math", "__future__", "typing",
    "errno", "stat", "string", "io", "builtins"]

/-- The names of functions that need no import. -/
def builtins : List String :=
  ["print", "len", "open", "repr", "ascii", "sum", "any", "all", "abs", "isinstance", "issubclass", "chr", "ord",
    "hex", "oct", "bin", "round", "divmod", "pow", "iter", "next", "exit", "quit", "format", "input", "id", "hash",
    "callable", "sorted", "min", "max", "map", "filter", "getattr", "hasattr", "setattr", "vars", "globals",
    "locals", "dir"]

/-- The names of classes that need no import. -/
def classes : List String :=
  ["int", "str", "float", "bool", "list", "dict", "set", "frozenset", "tuple", "bytes", "bytearray", "type", "object",
    "range", "enumerate", "zip", "reversed"]

/-! ## Programs -/

/-- What is caught of a program that is run. -/
structure Catching where
  output : Bool
  errors : Bool
  /-- The errors go where the output goes. -/
  joins : Bool
  silences : Bool

/-- Run a program; what it writes comes back if it is caught. -/
def runProgram (argv : List Str) (input : Option Str) (catching : Catching) :
    Run (Except FileError ExitState × Str × Str) := do
  let m ← get
  onHost do
    let before := (← get).process.descriptors
    let (n, file, h) := (← get).openCollector
    let (k, errors, h) := h.openCollector
    set h
    modify fun h =>
      let h := if catching.output || catching.silences then h.withDescriptor 1 (some file) else h
      let h := if catching.errors then h.withDescriptor 2 (some errors)
        else if catching.joins then h.withDescriptor 2 (h.descriptor? 1) else h
      match input with
      | some s =>
        let (i, h) := h.openNew ⟨.text s, 0, false, true, false⟩
        h.withDescriptor 0 (some i)
      | none => h
    let r ← Host.Search.run m.start argv
    modify fun h => { h with process := { h.process with descriptors := before } }
    let h ← get
    return (r, h.collected n, h.collected k)

/-- The number by which the ending of a program is told. -/
def endingNumber : ExitState → Int
  | .exited n => (n % 256 : Nat)
  | .killed n => -(n : Int)

/-- The words of a command, which is a list, or a text for the shell. -/
def commandOf (v : Val) (inShell : Bool) : Run (List Str) := do
  match v with
  | .text s => return if inShell then [str "/bin/sh", str "-c", strOf s] else [strOf s]
  | v => (← valuesOf v).mapM pathOf

/-- Run a program in the way of `subprocess`. -/
def subprocess (name : String) (g : Given) : Run Val := do
  let flag (keyword : String) : Run Bool := do
    match g.named.find? fun n => n.1 = keyword with
    | some (_, v) => truth v
    | none => return false
  let number (keyword : String) : Option Int := (g.named.find? fun n => n.1 = keyword).bind fun n => whole? n.2
  let command := g.args.headD .nothing
  let argv ← commandOf command (← flag "shell")
  let captures ← flag "capture_output"
  let isOutput := name = "check_output"
  let catching : Catching := ⟨captures || isOutput || number "stdout" = some (-1), captures || number "stderr" = some (-1),
    number "stderr" = some (-2), number "stdout" = some (-3)⟩
  let input := ((g.named.find? fun n => n.1 = "input").map Prod.snd).bind bytesOf?
  let (r, out, err) ← runProgram argv input catching
  let asText := (← flag "text") || (← flag "universal_newlines") || (g.named.any fun n => n.1 = "encoding")
  let wrap (isCaught : Bool) (s : Str) : Val :=
    if !isCaught then .nothing else if asText then .text (textOf s) else .bytes s
  match r with
  | .error cause => refused cause [.text (textOf (argv.headD []))]
  | .ok ending =>
    let n := endingNumber ending
    let fails := name = "check_call" || isOutput || (← flag "check")
    if fails && n ≠ 0 then raiseWith "subprocess.CalledProcessError" [.whole n, command]
    if isOutput then return wrap true out
    if name = "run" then
      alloc (.record "CompletedProcess" [("args", command), ("returncode", .whole n),
        ("stdout", wrap catching.output out), ("stderr", wrap catching.errors err)])
    else return .whole n

/-! ## Files -/

/-- Open a file. -/
def openFile (v : Val) (mode : Text) : Run Val := do
  let kinds := mode.filter fun c => c = 'r' || c = 'w' || c = 'a' || c = 'x'
  match kinds with
  | [k] =>
    match v with
    | .whole n =>
      alloc (.stream ⟨v, String.ofList mode, if n = 0 then .input else if n = 1 then .output else .errors, false, none⟩)
    | v => do
      let p ← pathOf v
      let shown : Val := match v with
        | .ref _ => .text (textOf p)
        | v => v
      let tree ← onHost Act.tree
      if k = 'x' && tree.isPresent (Host.pathOf p) then refused .alreadyExists [shown]
      if k = 'r' && tree.isDirectory (Host.pathOf p) then refused .isADirectory [shown]
      let access : Host.Access := if mode.contains '+' && k = 'r' then .both
        else if k = 'r' then .read else if k = 'a' then .append else .write
      -- nothing is made of what is only to be read
      if access = .both && !tree.isPresent (Host.pathOf p) then refused .notFound [shown]
      match ← onHost (Act.openPath p access) with
      | .ok n => alloc (.stream ⟨shown, String.ofList mode, .file n, false, none⟩)
      | .error cause => refused cause [shown]
  | _ =>
    if kinds.isEmpty then
      raise "ValueError" ("invalid mode: '" ++ String.ofList mode ++ "'")
    else raise "ValueError" "must have exactly one of create/read/write/append mode"

/-- Do something to the files; a failure is raised with the names that were given. -/
def attempt (a : Act (Except FileError Unit)) (names : List Val) : Run Val := do
  match ← onHost a with
  | .ok () => return .nothing
  | .error cause => refused cause names

/-- Make a directory. -/
def makeDirectory (p : Str) : Act (Except FileError Unit) := do createAt p .directory (← masked 0o777)

/-- Make a directory and those above it that are missing. -/
def makeDirectories (accepts : Bool) : Nat → Str → Val → Run Val
  | 0, _, _ => return .nothing
  | fuel + 1, p, shown => do
    let tree ← onHost Act.tree
    let above := Host.dirName (Host.dropEnd (· = '/') p)
    if p.contains '/' && !tree.isPresent (Host.pathOf above) then
      let _ ← makeDirectories true fuel above (.text (textOf above))
    match ← onHost (makeDirectory p) with
    | .ok () => return .nothing
    | .error cause =>
      if accepts && (← onHost Act.tree).isDirectory (Host.pathOf p) then return .nothing
      try refused cause [shown] catch r => throw { r with trace := (225, "makedirs") :: r.trace }

/-- Take a file away. -/
def removeFile (p : Str) : Act (Except FileError Unit) := do
  match named? (← Act.tree) p with
  | .error cause => return .error cause
  | .ok (loc, e) =>
    if e.node.isDirectory then return .error .isADirectory
    unlinkAt loc
    return .ok ()

/-- Give a file another name. -/
def renameFile (p q : Str) : Act (Except FileError Unit) := do
  let tree ← Act.tree
  match named? tree p with
  | .error cause => return .error cause
  | .ok (loc, e) =>
    let go (place : Location) : Act (Except FileError Unit) := do
      Act.setTree (moved (← Act.tree) loc place (← Act.now))
      return .ok ()
    match tree.lookupPlace (Host.pathOf q) with
    | .failed cause => return .error cause
    | .missing dir name =>
      if e.node.isDirectory && loc.isSuffixOf (name :: dir) then return .error .invalidArgument
      go (name :: dir)
    | .found place f =>
      if place = loc then return .ok ()
      if e.node.isDirectory && !f.node.isDirectory then return .error .notADirectory
      if !e.node.isDirectory && f.node.isDirectory then return .error .isADirectory
      if f.node.isDirectory && tree.names place ≠ [] then return .error .notEmpty
      go place

/-- Copy a file. -/
def copyContents (p q : Str) (keepsMode keepsTime : Bool) : Act (Except FileError Unit) := do
  match ← Act.readPath p with
  | .error cause => return .error cause
  | .ok text =>
    match ← Act.writePath q text .write with
    | .error cause => return .error cause
    | .ok () => do
      let tree ← Act.tree
      match tree.find (Host.pathOf p), tree.find (Host.pathOf q) with
      | .ok (_, e), .ok (loc, _) => do
        if keepsMode then setMode loc e.mode
        if keepsTime then setTime loc e.modified
      | _, _ => pure ()
      return .ok ()

/-- What is known of a file. -/
def statRecord (e : Entry) : Run Val := do
  let size : Nat := match e.node with
    | .file contents => contents.length
    | .directory => 4096
    | _ => 0
  let kind : Nat := match e.node with
    | .directory => 0o40000
    | .link _ => 0o120000
    | .special _ => 0o20000
    | .file _ => 0o100000
  let time := Decimal.nearest (e.modified < 0) e.modified.natAbs 1000000000
  alloc (.record "os.stat_result" [("st_mode", .whole (kind + e.mode : Nat)), ("st_size", .whole size),
    ("st_mtime", .real time.toFloat), ("st_mtime_ns", .whole e.modified), ("st_uid", .whole 0), ("st_gid", .whole 0)])

/-- The plain form of a path: without empty steps and steps to the same place, and with steps up taken. -/
def normal (p : Str) : Str :=
  let isAbsolute := p.head? = some '/'
  let steps := (Host.splitOn '/' p).foldl (fun out s =>
    if s = [] || s = ['.'] then out
    else if s = ['.', '.'] then
      match out with
      | last :: rest => if last = ['.', '.'] then s :: out else rest
      | [] => if isAbsolute then [] else [s]
    else s :: out) ([] : List Str)
  let body := Host.joinWith ['/'] steps.reverse
  if isAbsolute then '/' :: body else if body.isEmpty then ['.'] else body

/-- A path from the root. -/
def absolute (p : Str) : Run Str := do
  if p.head? = some '/' then return normal p
  return normal (Host.pathJoin (Host.ofPath (← onHost Act.tree).currentPath) p)

/-- The ending of a name behind its last point, with the name in front of it. -/
def splitEnding (p : Str) : Str × Str :=
  let name := (p.reverse.takeWhile (· ≠ '/')).reverse
  let dots := name.takeWhile (· = '.')
  let body := name.drop dots.length
  if body.contains '.' then
    let ending := '.' :: (body.reverse.takeWhile (· ≠ '.')).reverse
    (p.take (p.length - ending.length), ending)
  else (p, [])

/-- The directory and the name of a path. -/
def splitPath (p : Str) : Str × Str :=
  let name := (p.reverse.takeWhile (· ≠ '/')).reverse
  let dir := p.take (p.length - name.length)
  let short := Host.dropEnd (· = '/') dir
  (if short.isEmpty then dir else short, name)

/-- A function of `os.path`. -/
def pathFunction (name : String) (g : Given) : Run Val := do
  let v := g.args.headD .nothing
  let p ← pathOf v
  let wrap (s : Str) : Val := match v with
    | .bytes _ => .bytes s
    | _ => .text (textOf s)
  let tree ← onHost Act.tree
  let entry : Except FileError Entry := tree.stat (Host.pathOf p)
  let truthOf (f : Entry → Bool) : Run Val := return .truth (match entry with
    | .ok e => f e
    | .error _ => false)
  match name with
  | "join" => do
    let more ← g.args.tail.mapM pathOf
    return wrap (more.foldl (fun a b => if b.head? = some '/' then b else Host.pathJoin a b) p)
  | "exists" => truthOf fun _ => true
  | "lexists" => return .truth (named? tree p).toOption.isSome
  | "isfile" => truthOf fun e => e.node.isFile
  | "isdir" => truthOf fun e => e.node.isDirectory
  | "islink" => return .truth (match named? tree p with
    | .ok (_, e) => e.node.isLink
    | .error _ => false)
  | "isabs" => return .truth (p.head? = some '/')
  | "basename" => return wrap (splitPath p).2
  | "dirname" => return wrap (splitPath p).1
  | "split" => return .tuple [wrap (splitPath p).1, wrap (splitPath p).2]
  | "splitext" => return .tuple [wrap (splitEnding p).1, wrap (splitEnding p).2]
  | "abspath" => return wrap (← absolute p)
  | "realpath" => return wrap (← absolute p)
  | "normpath" => return wrap (normal p)
  | "expanduser" => return v
  | "relpath" => do
    let a ← absolute p
    let base ← match g.args[1]? with
      | some b => absolute (← pathOf b)
      | none => absolute ['.']
    let xs := (Host.splitOn '/' a).filter (· ≠ [])
    let ys := (Host.splitOn '/' base).filter (· ≠ [])
    let shared := ((xs.zip ys).takeWhile fun p => p.1 = p.2).length
    let steps := List.replicate (ys.length - shared) ['.', '.'] ++ xs.drop shared
    return wrap (if steps.isEmpty then ['.'] else Host.joinWith ['/'] steps)
  | "getsize" => match entry with
    | .ok e => item (← statRecord e) (.whole 1)
    | .error cause => refused cause [v]
  | "getmtime" => match entry with
    | .ok e => item (← statRecord e) (.whole 2)
    | .error cause => refused cause [v]
  | _ => raise "AttributeError" ("module 'posixpath' has no attribute '" ++ name ++ "'")

def pathFunctions : List String :=
  ["join", "exists", "lexists", "isfile", "isdir", "islink", "isabs", "basename", "dirname", "split", "splitext",
    "abspath", "realpath", "normpath", "expanduser", "relpath", "getsize", "getmtime"]

/-- Everything below a directory: its path, its directories and its other files. -/
def walked : Nat → Str → Run (List Val)
  | 0, _ => return []
  | fuel + 1, p => do
    let tree ← onHost Act.tree
    match tree.find (Host.pathOf p) with
    | .error _ => return []
    | .ok (loc, _) =>
      let names := tree.names loc
      let (dirs, files) := names.partition fun n => ((tree.get? (n :: loc)).map fun e => e.node.isDirectory).getD false
      let texts (ns : List Bytes) : Run Val := newList (ns.map fun n => .text (textOf (Host.ofBytes n)))
      let here : Val := .tuple [.text (textOf p), ← texts dirs, ← texts files]
      let below ← dirs.mapM fun n => walked fuel (Host.pathJoin p (Host.ofBytes n))
      return here :: below.flatten

/-- The functions of `os`. -/
def systemFunctions : List String :=
  ["makedirs", "mkdir", "remove", "unlink", "rmdir", "rename", "replace", "listdir", "getcwd", "chdir", "getpid",
    "getppid", "kill", "getenv", "putenv", "system", "_exit", "abort", "symlink", "link", "readlink", "chmod", "utime",
    "stat", "lstat", "access", "walk", "umask", "cpu_count", "getuid", "geteuid", "getgid", "write", "fspath", "fsync",
    "isatty"]

/-- Send a signal to a process. -/
def sendSignal (pid : Int) (signal : Nat) : Run Val := do
  let own := (← onHost get).process
  if pid = (own.pid : Int) || pid = 0 then
    if signal = Host.Signal.interrupt then raiseWith "KeyboardInterrupt" []
    if signal ≠ 0 && !Host.Signal.isHarmless signal then onHost (throw (.killed signal))
    return .nothing
  if pid = (own.parent : Int) then
    if signal ≠ 0 then onHost (modify fun h => h.send pid.toNat signal)
    return .nothing
  raiseWith "ProcessLookupError" [.whole 3, .text "No such process".toList]

/-- A function of `os`. -/
def systemFunction (name : String) (g : Given) : Run Val := do
  let v := g.args.headD .nothing
  let path (i : Nat) (keyword : String) : Run Str := do
    match g.at? i keyword with
    | some v => pathOf v
    | none => raise "TypeError" (name ++ "() missing required argument '" ++ keyword ++ "' (pos " ++ toString (i + 1) ++ ")")
  let tree ← onHost Act.tree
  match name with
  | "makedirs" => do
    let p ← path 0 "name"
    let accepts ← match g.at? 2 "exist_ok" with
      | some v => truth v
      | none => pure false
    makeDirectories accepts (p.length + 2) p v
  | "mkdir" => attempt (makeDirectory (← path 0 "path")) [v]
  | "remove" => attempt (removeFile (← path 0 "path")) [v]
  | "unlink" => attempt (removeFile (← path 0 "path")) [v]
  | "rmdir" => attempt (removeEmpty (← path 0 "path")) [v]
  | "rename" => attempt (renameFile (← path 0 "src") (← path 1 "dst")) g.args
  | "replace" => attempt (renameFile (← path 0 "src") (← path 1 "dst")) g.args
  | "listdir" => do
    let p ← match g.args with
      | v :: _ => pathOf v
      | [] => pure ['.']
    match tree.find (Host.pathOf p) with
    | .error cause => refused cause [if g.args.isEmpty then .text ['.'] else v]
    | .ok (loc, e) =>
      if !e.node.isDirectory then refused .notADirectory [v]
      newList ((tree.names loc).map fun n => .text (textOf (Host.ofBytes n)))
  | "walk" => newList (← walked 100 (← path 0 "top"))
  | "getcwd" => return .text (textOf (Host.ofPath tree.currentPath))
  | "chdir" => do
    match tree.find (Host.pathOf (← path 0 "path")) with
    | .error cause => refused cause [v]
    | .ok (loc, e) =>
      if !e.node.isDirectory then refused .notADirectory [v]
      onHost (Act.setTree { tree with current := loc })
      return .nothing
  | "getpid" => return .whole (← onHost get).process.pid
  | "getppid" => return .whole (← onHost get).process.parent
  | "getuid" => return .whole 0
  | "geteuid" => return .whole 0
  | "getgid" => return .whole 0
  | "cpu_count" => return .whole 1
  | "isatty" => return .truth false
  | "fsync" => return .nothing
  | "fspath" => return .text (textOf (← pathOf v))
  | "kill" => match g.args with
    | [p, s] => sendSignal (← wholeOf p) (← wholeOf s).toNat
    | args => raise "TypeError" ("kill expected 2 arguments, got " ++ toString args.length)
  | "abort" => do
    onHost (throw (.killed 6))
  | "getenv" => do
    let pairs ← pairsOf (.ref environmentId)
    return (lookup (← get).store pairs v).getD (g.args.tail.headD .nothing)
  | "putenv" => return .nothing
  | "umask" => do
    let old := (← onHost get).process.umask
    let n := (← wholeOf v).toNat
    onHost (modify fun h => { h with process := { h.process with umask := n } })
    return .whole old
  | "system" => do
    let (r, _, _) ← runProgram [str "/bin/sh", str "-c", ← path 0 "command"] none ⟨false, false, false, false⟩
    return .whole (match r with
      | .ok (.exited n) => (n % 256 * 256 : Nat)
      | .ok (.killed n) => n
      | .error _ => 127 * 256)
  | "_exit" => do
    let n ← wholeOf v
    onHost do
      modify fun h => { h with process := { h.process with held := h.process.held.map fun _ => [] } }
      Act.exit (n % 256).toNat
  | "symlink" => do
    let target ← path 0 "src"
    attempt (createAt (← path 1 "dst") (.link (Host.pathOf target)) 0o777) g.args
  | "link" => do
    let p ← path 0 "src"
    let q ← path 1 "dst"
    match named? tree p, freePlace tree q with
    | .error cause, _ => refused cause g.args
    | _, .error cause => refused cause g.args
    | .ok (loc, _), .ok (dir, n) => do
      onHost (shareAt loc dir n)
      return .nothing
  | "readlink" => match named? tree (← path 0 "path") with
    | .error cause => refused cause [v]
    | .ok (_, e) => match e.node with
      | .link target => return .text (textOf (Host.ofPath target))
      | _ => refused .invalidArgument [v]
  | "chmod" => do
    match tree.find (Host.pathOf (← path 0 "path")) with
    | .error cause => refused cause [v]
    | .ok (loc, _) =>
      onHost (setMode loc (← wholeOf ((g.at? 1 "mode").getD .nothing)).toNat)
      return .nothing
  | "utime" => do
    match tree.find (Host.pathOf (← path 0 "path")) with
    | .error cause => refused cause [v]
    | .ok (loc, _) =>
      let nanos (x : Val) : Run Time := do
        match x with
        | .real x => return ((Decimal.Binary64.ofFloat (x * 1000000000)).whole?).getD 0
        | x => return (← wholeOf x) * 1000000000
      let time ← match g.some? 1 "times", g.named.find? fun n => n.1 = "ns" with
        | some (.tuple [_, m]), _ => nanos m
        | _, some (_, .tuple [_, m]) => wholeOf m
        | _, _ => onHost Act.now
      onHost (setTime loc time)
      return .nothing
  | "stat" => match tree.stat (Host.pathOf (← path 0 "path")) with
    | .error cause => refused cause [v]
    | .ok e => statRecord e
  | "lstat" => match named? tree (← path 0 "path") with
    | .error cause => refused cause [v]
    | .ok (_, e) => statRecord e
  | "access" => return .truth (match tree.stat (Host.pathOf (← path 0 "path")) with
    | .ok e => (g.args[1]?.bind whole?) ≠ some 1 || e.isExecutable || e.node.isDirectory
    | .error _ => false)
  | "write" => match g.args with
    | [n, .bytes s] => do
      let fd := (← wholeOf n).toNat
      onHost (Act.put fd s)
      return .whole s.length
    | _ => raise "TypeError" "a bytes-like object is required, not 'str'"
  | _ => raise "AttributeError" ("module 'os' has no attribute '" ++ name ++ "'")

/-- A function of `shutil`. -/
def treeFunction (name : String) (g : Given) : Run Val := do
  let v := g.args.headD .nothing
  let p ← pathOf v
  let tree ← onHost Act.tree
  let other : Run Str := do
    match g.args[1]? with
    | some w => pathOf w
    | none => raise "TypeError" (name ++ "() missing 1 required positional argument: 'dst'")
  let target : Run Str := do
    let q ← other
    return if tree.isDirectory (Host.pathOf q) then Host.pathJoin q (Host.baseName p) else q
  let names (q : Str) : Run Val := return .text (textOf q)
  match name with
  | "rmtree" => match named? tree p with
    | .error cause =>
      if ← (match g.at? 1 "ignore_errors" with
        | some x => truth x
        | none => return false) then return .nothing
      refused cause [v]
    | .ok (loc, e) =>
      if !e.node.isDirectory then refused .notADirectory [v]
      onHost (unlinkAt loc)
      return .nothing
  | "copyfile" => do
    let q ← other
    let _ ← attempt (copyContents p q false false) [v]
    names q
  | "copy" => do
    let q ← target
    if tree.isDirectory (Host.pathOf p) then refused .isADirectory [v]
    let _ ← attempt (copyContents p q true false) [v]
    names q
  | "copy2" => do
    let q ← target
    if tree.isDirectory (Host.pathOf p) then refused .isADirectory [v]
    let _ ← attempt (copyContents p q true true) [v]
    names q
  | "move" => do
    let q ← target
    let _ ← attempt (renameFile p q) [v]
    names q
  | "which" => do
    let dirs := Host.Search.directories (← onHost get).process
    let found := dirs.find? fun d => match tree.stat (Host.pathOf (Host.pathJoin d p)) with
      | .ok e => e.node.isFile && e.isExecutable
      | .error _ => false
    return (found.map fun d => Val.text (textOf (Host.pathJoin d p))).getD .nothing
  | _ => raise "AttributeError" ("module 'shutil' has no attribute '" ++ name ++ "'")

/-! ## Paths as values -/

/-- The methods of paths. -/
def pathMethods : List String :=
  ["mkdir", "touch", "write_text", "write_bytes", "read_text", "read_bytes", "exists", "is_file", "is_dir", "unlink",
    "rmdir", "iterdir", "open", "with_suffix", "with_name", "joinpath", "resolve", "absolute", "as_posix", "stat",
    "rename"]

/-- A path as a value. -/
def newPath (p : Text) : Run Val := do
  let parts := (Host.splitOn '/' p).filter fun s => s ≠ [] && s ≠ ['.']
  let body := Host.joinWith ['/'] parts
  let shown := if p.head? = some '/' then '/' :: body else if body.isEmpty then ['.'] else body
  alloc (.record "PosixPath" [("path", .text shown)])

/-- A part of a path. -/
def pathAttribute? (t : Text) (name : String) : Option (Run Val) :=
  let last := (splitPath t).2
  match name with
  | "name" => some (return .text last)
  | "stem" => some (return .text (splitEnding last).1)
  | "suffix" => some (return .text (splitEnding last).2)
  | "parent" => some (newPath (splitPath t).1)
  | "parts" => some (return .tuple (((Host.splitOn '/' t).filter (· ≠ [])).map .text))
  | _ => none

/-- A method of a path. -/
def pathMethod (v : Val) (t : Text) (name : String) (g : Given) : Run Val := do
  let p := strOf t
  let shown : Val := .text t
  let flag (keyword : String) : Run Bool := do
    match g.named.find? fun n => n.1 = keyword with
    | some (_, v) => truth v
    | none => return false
  let tree ← onHost Act.tree
  let put (text : Str) : Run Val := do
    match ← onHost (Act.writePath p text .write) with
    | .ok () => return .whole text.length
    | .error cause => refused cause [shown]
  let got : Run Str := do
    if tree.isDirectory (Host.pathOf p) then refused .isADirectory [shown]
    match ← onHost (Act.readPath p) with
    | .ok text => return text
    | .error cause => refused cause [shown]
  match name with
  | "mkdir" => do
    if ← flag "parents" then makeDirectories (← flag "exist_ok") (p.length + 2) p shown
    else if (← flag "exist_ok") && tree.isDirectory (Host.pathOf p) then return .nothing
    else attempt (makeDirectory p) [shown]
  | "touch" => do
    match tree.find (Host.pathOf p) with
    | .ok (loc, _) => do
      onHost (do setTime loc (← Act.now))
      return .nothing
    | .error _ => do
      let _ ← put []
      return .nothing
  | "write_text" => match g.args with
    | .text s :: _ => do
      let _ ← put (strOf s)
      return .whole s.length
    | v :: _ => unfit "data must be str, not " v ""
    | [] => raise "TypeError" "Path.write_text() missing 1 required positional argument: 'data'"
  | "write_bytes" => match g.args with
    | .bytes s :: _ => put s
    | _ => raise "TypeError" "memoryview: a bytes-like object is required, not 'str'"
  | "read_text" => return .text (textOf (← got))
  | "read_bytes" => return .bytes (← got)
  | "exists" => pathFunction "exists" ⟨[v], []⟩
  | "is_file" => pathFunction "isfile" ⟨[v], []⟩
  | "is_dir" => pathFunction "isdir" ⟨[v], []⟩
  | "stat" => systemFunction "stat" ⟨[v], []⟩
  | "unlink" => do
    if (← flag "missing_ok") && !tree.isPresent (Host.pathOf p) then return .nothing
    attempt (removeFile p) [shown]
  | "rmdir" => attempt (removeEmpty p) [shown]
  | "rename" => systemFunction "rename" ⟨shown :: g.args, []⟩
  | "iterdir" => match tree.find (Host.pathOf p) with
    | .error cause => refused cause [shown]
    | .ok (loc, _) => do
      newList (← (tree.names loc).mapM fun n => newPath (Host.pathJoin t (textOf (Host.ofBytes n))))
  | "open" => openFile shown (match g.at? 0 "mode" with
    | some (.text m) => m
    | _ => ['r'])
  | "with_suffix" => match g.args with
    | .text s :: _ => newPath ((splitEnding t).1 ++ s)
    | _ => return v
  | "with_name" => match g.args with
    | .text s :: _ => newPath (Host.pathJoin (splitPath t).1 s)
    | _ => return v
  | "joinpath" => do
    let more ← g.args.mapM pathOf
    newPath (more.foldl (fun a b => Host.pathJoin a (textOf b)) t)
  | "as_posix" => return shown
  | _ => newPath (textOf (← absolute p))

/-! ## Values -/

/-- The number that a text spells in a base. -/
def readWhole? (base : Nat) (s : Text) : Option Int :=
  let s := Host.trimBy Host.isSpace s
  let (negative, digits) := match s with
    | '-' :: d => (true, d)
    | '+' :: d => (false, d)
    | d => (false, d)
  let digits := match base, digits with
    | 16, '0' :: 'x' :: d => d
    | 8, '0' :: 'o' :: d => d
    | 2, '0' :: 'b' :: d => d
    | _, d => d
  (Host.naturalIn? base (digits.filter (· ≠ '_'))).map fun n => if negative then -(n : Int) else n

/-- The real number that a text spells. -/
def readReal? (s : Text) : Option Float :=
  let s := Host.trimBy Host.isSpace s
  let (negative, body) := match s with
    | '-' :: d => (true, d)
    | '+' :: d => (false, d)
    | d => (false, d)
  let signed (x : Float) : Float := if negative then -x else x
  match String.ofList (body.map Char.toLower) with
  | "inf" => some (signed (1 / 0))
  | "infinity" => some (signed (1 / 0))
  | "nan" => some (0 / 0)
  | _ =>
    if body.any Char.isDigit then
      match numberAt body with
      | (.whole n, []) => some (signed (Float.ofInt n))
      | (.real x, []) => some (signed x)
      | _ => none
    else none

/-- The nearest whole number, a half going to the even one. -/
def rounded (x : Float) : Int :=
  match Decimal.Binary64.ofFloat x with
  | .finite negative m q =>
    let (num, den) := Decimal.scaled 2 m 1 q
    let n : Int := Decimal.roundDiv num den
    if negative then -n else n
  | _ => 0

/-- Make a value of a class. -/
def construct (kind : String) (g : Given) : Run Val := do
  let store := (← get).store
  match kind, g.args with
  | "int", [] => return .whole 0
  | "int", v :: rest => do
    let base ← match rest with
      | b :: _ => wholeOf b
      | [] => pure 10
    match v with
    | .text s => match readWhole? base.toNat s with
      | some n => return .whole n
      | none => raise "ValueError" ("invalid literal for int() with base " ++ toString base ++ ": " ++
          String.ofList (repr store v))
    | .real x => return .whole ((Decimal.Binary64.ofFloat x).whole?.getD 0)
    | v => match whole? v with
      | some n => return .whole n
      | none => unfit "int() argument must be a string, a bytes-like object or a real number, not '" v "'"
  | "float", [] => return .real 0
  | "float", v :: _ => match v with
    | .text s => match readReal? s with
      | some x => return .real x
      | none => raise "ValueError" ("could not convert string to float: " ++ String.ofList (repr store v))
    | v => match real? v with
      | some x => return .real x
      | none => unfit "float() argument must be a string or a real number, not '" v "'"
  | "str", [] => return .text []
  | "str", [.bytes s, _] => return .text (textOf s)
  | "str", v :: _ => match ← object? v with
    | some (.record "PosixPath" [(_, t)]) => return t
    | _ => return .text (display store v)
  | "bool", [] => return .truth false
  | "bool", v :: _ => return .truth (isTrue store v)
  | "list", [] => newList []
  | "list", v :: _ => newList (← valuesOf v)
  | "tuple", [] => return .tuple []
  | "tuple", v :: _ => return .tuple (← valuesOf v)
  | "dict", args => do
    let more ← args.mapM pairsOf
    let named := g.named.map fun n => (Val.text n.1.toList, n.2)
    alloc (.dict ((more.flatten ++ named).foldl (fun ps p => insert store ps p.1 p.2) []))
  | "bytes", [] => return .bytes []
  | "bytes", v :: _ => match v with
    | .text s => return .bytes (strOf s)
    | .bytes s => return .bytes s
    | .whole n => return .bytes (List.replicate n.toNat '\x00')
    | v => return .bytes ((← valuesOf v).filterMap fun x => (whole? x).map fun n => Char.ofNat n.toNat)
  | "range", args => do
    match ← args.mapM wholeOf with
    | [b] => return .range 0 b 1
    | [a, b] => return .range a b 1
    | [a, b, step] => do
      if step = 0 then raise "ValueError" "range() arg 3 must not be zero"
      return .range a b step
    | _ => raise "TypeError" "range expected at least 1 argument, got 0"
  | "enumerate", v :: _ => do
    let first ← match g.at? 1 "start" with
      | some n => wholeOf n
      | none => pure 0
    alloc (.iterator ((← valuesOf v).zipIdx.map fun (x, i) => .tuple [.whole (first + i), x]))
  | "zip", args => do
    let all ← args.mapM valuesOf
    let count := (all.map List.length).foldl min ((all.map List.length).headD 0)
    alloc (.iterator ((List.range count).map fun i => .tuple (all.filterMap fun vs => vs[i]?)))
  | "reversed", v :: _ => alloc (.iterator (← valuesOf v).reverse)
  | "type", [v] => return .kind (kindOf store v)
  | "pathlib.Path", args => do
    let parts ← args.mapM pathOf
    newPath (parts.foldl (fun a b => if b.head? = some '/' then textOf b else if a.isEmpty then textOf b
      else Host.pathJoin a (textOf b)) [])
  | kind, args => do
    if kind = "set" || kind = "frozenset" then
      let vs ← match args with
        | v :: _ => valuesOf v
        | [] => pure []
      for v in vs do
        hashable v
      alloc (.set (vs.foldl (withMember store) []))
    else if isBelow (← get).kinds 20 kind "BaseException" then
      match kind, args with
      | "OSError", .whole n :: _ => match n with
        | 2 => alloc (.exception "FileNotFoundError" args)
        | 17 => alloc (.exception "FileExistsError" args)
        | _ => alloc (.exception kind args)
      | kind, args => alloc (.exception kind args)
    else if kind = "object" then alloc (.record "object" [])
    else raise "TypeError" ("cannot create '" ++ kind ++ "' instances")

/-- Whether a value is of a class, or of one of several. -/
def isInstance (v : Val) (kinds : Val) : Run Bool := do
  let m ← get
  let name := kindOf m.store v
  let one (k : Val) : Bool := match k with
    | .kind "object" => true
    | .kind "int" => name = "int" || name = "bool"
    | .kind "pathlib.Path" => name = "PosixPath"
    | .kind k => isBelow m.kinds 20 name k
    | _ => false
  match kinds with
  | .tuple ks => return ks.any one
  | k => return one k

/-- The greatest or the least of values with their keys. -/
def extreme (wanted : Ordering) : List (Val × Val) → Run (Option Val)
  | [] => return none
  | first :: rest => do
    let store := (← get).store
    let mut best := first
    for p in rest do
      match order? store store.depth p.1 best.1 with
      | none => raise "TypeError" ("'" ++ (if wanted = .gt then ">" else "<") ++
          "' not supported between instances of '" ++ kindOf store p.1 ++ "' and '" ++ kindOf store best.1 ++ "'")
      | some o => if o = wanted then best := p
    return some best.2

/-- Write values to a file. -/
def printTo (target : Option Val) (text : Str) : Run Unit := do
  match target with
  | none => do
    match ← object? (.ref outputId) with
    | some (.stream s) => writeTo s text
    | _ => onHost (Act.say text)
  | some v => match ← object? v with
    | some (.stream s) =>
      if s.isClosed then raise "ValueError" "I/O operation on closed file."
      writeTo s text
    | _ => raise "AttributeError" ("'" ++ kindOf (← get).store v ++ "' object has no attribute 'write'")

/-- The end of a program that asks for it. -/
def exitWith (g : Given) : Run Val := raiseWith "SystemExit" g.args

/-- A function that needs no import and calls none back. -/
def builtin (name : String) (g : Given) : Run Val := do
  let store := (← get).store
  let one : Run Val := do
    match g.args with
    | [v] => return v
    | args => raise "TypeError" (name ++ "() takes exactly one argument (" ++ toString args.length ++ " given)")
  let prefixed (front : String) (base : Nat) : Run Val := do
    let n ← wholeOf (← one)
    return .text ((if n < 0 then ['-'] else []) ++ front.toList ++ Nat.toDigits base n.natAbs)
  match name with
  | "print" => do
    let texts ← g.args.mapM fun v => do
      match ← construct "str" ⟨[v], []⟩ with
      | .text t => return t
      | _ => return []
    let word (keyword usual : String) : Run Text := do
      match g.named.find? fun n => n.1 = keyword with
      | some (_, .text s) => return s
      | some (_, .nothing) => return usual.toList
      | some (_, v) => unfit (keyword ++ " must be None or a string, not ") v ""
      | none => return usual.toList
    let text := Host.joinWith (← word "sep" " ") texts ++ (← word "end" "\n")
    let target := (g.named.find? fun n => n.1 = "file").bind fun n => match n.2 with
      | .nothing => none
      | v => some v
    printTo target (strOf text)
    match g.named.find? fun n => n.1 = "flush" with
    | some (_, v) => do
      if (← truth v) && target.isNone then
        let _ ← onHost Act.flush
    | none => pure ()
    return .nothing
  | "len" => match ← one with
    | .text s => return .whole s.length
    | .bytes s => return .whole s.length
    | .tuple vs => return .whole vs.length
    | .range a b step => return .whole (rangeValues a b step).length
    | v => match ← object? v with
      | some (.list vs) => return .whole vs.size
      | some (.dict pairs) => return .whole pairs.length
      | some (.set vs) => return .whole vs.length
      | _ => unfit "object of type '" v "' has no len()"
  | "open" => match g.at? 0 "file" with
    | some v => do
      let mode ← match g.at? 1 "mode" with
        | some (.text m) => pure m
        | some v => unfit "open() argument 'mode' must be str, not " v ""
        | none => pure ['r']
      openFile v mode
    | none => raise "TypeError" "open() missing required argument 'file' (pos 1)"
  | "repr" => return .text (repr store (← one))
  | "ascii" => return .text (repr store (← one))
  | "sum" => match g.args with
    | v :: rest => do
      let mut total := (rest.headD (.whole 0))
      for x in ← valuesOf v do
        total ← calculate .add "+" total x
      return total
    | [] => raise "TypeError" "sum() takes at least 1 positional argument (0 given)"
  | "any" => return .truth ((← valuesOf (← one)).any (isTrue store))
  | "all" => return .truth ((← valuesOf (← one)).all (isTrue store))
  | "abs" => match ← one with
    | .real x => return .real x.abs
    | v => match whole? v with
      | some n => return .whole n.natAbs
      | none => unfit "bad operand type for abs(): '" v "'"
  | "isinstance" => match g.args with
    | [v, k] => return .truth (← isInstance v k)
    | args => raise "TypeError" ("isinstance expected 2 arguments, got " ++ toString args.length)
  | "issubclass" => match g.args with
    | [.kind a, .kind b] => return .truth (isBelow (← get).kinds 20 a b)
    | _ => raise "TypeError" "issubclass() arg 1 must be a class"
  | "chr" => return .text [Char.ofNat (← wholeOf (← one)).toNat]
  | "ord" => match ← one with
    | .text [c] => return .whole c.toNat
    | .text s => raise "TypeError" ("ord() expected a character, but string of length " ++ toString s.length ++ " found")
    | v => unfit "ord() expected string of length 1, but " v " found"
  | "hex" => prefixed "0x" 16
  | "oct" => prefixed "0o" 8
  | "bin" => prefixed "0b" 2
  | "round" => match g.args with
    | [.real x] => return .whole (rounded x)
    | [.real x, n] => do
      let places := (← wholeOf n).toNat
      let text := (Form.mk ' ' none '-' false 0 none (some places) (some 'f')).real x (some 'f')
      return .real ((readReal? text).getD x)
    | v :: _ => return .whole (← wholeOf v)
    | [] => raise "TypeError" "round() missing required argument 'number' (pos 1)"
  | "divmod" => match g.args with
    | [a, b] => return .tuple [← calculate .floorDiv "divmod()" a b, ← calculate .mod "divmod()" a b]
    | args => raise "TypeError" ("divmod expected 2 arguments, got " ++ toString args.length)
  | "pow" => match g.args with
    | [a, b] => calculate .pow "** or pow()" a b
    | [a, b, c] => return .whole (Int.fmod ((← wholeOf a) ^ (← wholeOf b).toNat) (← wholeOf c))
    | _ => raise "TypeError" "pow() missing required argument 'exp' (pos 2)"
  | "iter" => alloc (.iterator (← valuesOf (← one)))
  | "next" => match g.args with
    | v :: rest => match v, ← object? v with
      | .ref id, some (.iterator vs) => match vs, rest with
        | x :: more, _ => do
          setObject id (.iterator more)
          return x
        | [], d :: _ => return d
        | [], [] => raiseWith "StopIteration" []
      | .ref id, some (.stream s) => do
        let line ← streamMethod id s "readline" ⟨[], []⟩
        if (← truth line) then return line
        match rest with
        | d :: _ => return d
        | [] => raiseWith "StopIteration" []
      | v, _ => unfit "'" v "' object is not an iterator"
    | [] => raise "TypeError" "next expected at least 1 argument, got 0"
  | "exit" => exitWith g
  | "quit" => exitWith g
  | "format" => match g.args with
    | [v] => return .text (display store v)
    | v :: .text s :: _ => return .text (← orRaise (formatted store s v))
    | _ => raise "TypeError" "format expected at least 1 argument, got 0"
  | "input" => do
    match g.args with
    | v :: _ => printTo none (strOf (← displayed v))
    | [] => pure ()
    match ← object? (.ref inputId) with
    | some (.stream s) => do
      match ← streamMethod inputId s "readline" ⟨[], []⟩ with
      | .text [] => raise "EOFError" "EOF when reading a line"
      | .text t => return .text (Host.chomp t)
      | v => return v
    | _ => return .text []
  | "callable" => do
    let v ← one
    match v, ← object? v with
    | .builtin _, _ => return .truth true
    | .method _ _, _ => return .truth true
    | .kind _, _ => return .truth true
    | _, some (.function _) => return .truth true
    | _, _ => return .truth false
  | "id" => return .whole 140000000000000
  | "hash" => return .whole 0
  | _ => raise "NameError" ("name '" ++ name ++ "' is not defined")

/-! ## Libraries -/

/-- The facts of libraries. -/
def constant? (library name : String) : Option Val :=
  match library, name with
  | "sys", "argv" => some (.ref argumentsId)
  | "sys", "stdin" => some (.ref inputId)
  | "sys", "stdout" => some (.ref outputId)
  | "sys", "stderr" => some (.ref errorsId)
  | "sys", "executable" => some (.text "/usr/local/bin/python3".toList)
  | "sys", "platform" => some (.text "linux".toList)
  | "sys", "byteorder" => some (.text "little".toList)
  | "sys", "maxsize" => some (.whole (2 ^ 63 - 1))
  | "sys", "version_info" => some (.tuple [.whole 3, .whole 11, .whole 2, .text "final".toList, .whole 0])
  | "os", "environ" => some (.ref environmentId)
  | "os", "path" => some (.library "os.path")
  | "os", "sep" => some (.text ['/'])
  | "os", "linesep" => some (.text ['\n'])
  | "os", "pathsep" => some (.text [':'])
  | "os", "name" => some (.text "posix".toList)
  | "os", "devnull" => some (.text "/dev/null".toList)
  | "os", "curdir" => some (.text ['.'])
  | "os", "F_OK" => some (.whole 0)
  | "os", "X_OK" => some (.whole 1)
  | "os", "W_OK" => some (.whole 2)
  | "os", "R_OK" => some (.whole 4)
  | "os", "error" => some (.kind "OSError")
  | "os.path", "sep" => some (.text ['/'])
  | "pathlib", "Path" => some (.kind "pathlib.Path")
  | "pathlib", "PurePath" => some (.kind "pathlib.Path")
  | "subprocess", "PIPE" => some (.whole (-1))
  | "subprocess", "STDOUT" => some (.whole (-2))
  | "subprocess", "DEVNULL" => some (.whole (-3))
  | "subprocess", "CalledProcessError" => some (.kind "subprocess.CalledProcessError")
  | "math", "pi" => some (.real 3.141592653589793)
  | "string", "ascii_lowercase" => some (.text "abcdefghijklmnopqrstuvwxyz".toList)
  | "string", "ascii_uppercase" => some (.text "ABCDEFGHIJKLMNOPQRSTUVWXYZ".toList)
  | "string", "digits" => some (.text "0123456789".toList)
  | "errno", "ENOENT" => some (.whole 2)
  | "errno", "EEXIST" => some (.whole 17)
  | "signal", name =>
    if name.startsWith "SIG_" then some (.whole 0)
    else if name.startsWith "SIG" then ((Host.Signal.named? (name.toList.drop 3)).map fun n => .whole (n : Nat))
    else none
  | _, _ => none

/-- The functions of libraries. -/
def functions : List (String × List String) :=
  [("sys", ["exit", "getrecursionlimit", "setrecursionlimit", "getdefaultencoding", "exc_info"]),
    ("os", systemFunctions), ("os.path", pathFunctions), ("time", ["sleep", "time", "monotonic", "perf_counter", "time_ns"]),
    ("signal", ["signal", "alarm", "raise_signal"]), ("shutil", ["rmtree", "copyfile", "copy", "copy2", "move", "which"]),
    ("subprocess", ["run", "call", "check_call", "check_output"]),
    ("math", ["floor", "ceil", "sqrt"])]

/-- What a library has under a name. -/
def libraryMember? (library name : String) : Option Val :=
  match constant? library name with
  | some v => some v
  | none =>
    if (functions.find? fun f => f.1 = library).any fun f => f.2.contains name then
      some (.builtin (library ++ "." ++ name))
    else if library = "builtins" && builtins.contains name then some (.builtin name)
    else none

/-- A function of a library. -/
def libraryFunction (library name : String) (g : Given) : Run Val := do
  match library with
  | "os" => systemFunction name g
  | "os.path" => pathFunction name g
  | "shutil" => treeFunction name g
  | "subprocess" => subprocess name g
  | _ =>
    let v := g.args.headD .nothing
    match library, name with
    | "sys", "exit" => exitWith g
    | "sys", "getrecursionlimit" => return .whole 1000
    | "sys", "getdefaultencoding" => return .text "utf-8".toList
    | "time", "sleep" => do
      let nanos := match v with
        | .real x => ((Decimal.Binary64.ofFloat (x * 1000000000)).whole?).getD 0
        | v => ((whole? v).getD 0) * 1000000000
      onHost (modify fun h => { h with clock := h.clock + nanos })
      return .nothing
    | "time", "time_ns" => return .whole (← onHost Act.now)
    | "time", _ => do
      let now ← onHost Act.now
      return .real (Decimal.nearest (now < 0) now.natAbs 1000000000).toFloat
    | "signal", "raise_signal" => sendSignal (← onHost get).process.pid (← wholeOf v).toNat
    | "math", name => match real? v with
      | none => unfit "must be real number, not " v ""
      | some x => match name with
        | "floor" => return .whole ((Decimal.Binary64.ofFloat x.floor).whole?.getD 0)
        | "ceil" => return .whole ((Decimal.Binary64.ofFloat x.ceil).whole?.getD 0)
        | _ => do
          if x < 0 then raise "ValueError" "math domain error"
          return .real x.sqrt
    | _, _ => return .nothing

end StaleBuild.Utility.Snippet
