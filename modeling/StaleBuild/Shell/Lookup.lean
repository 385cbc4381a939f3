import StaleBuild.Shell.Redirection

/-!
What the name of a command stands for: a keyword, a function, a command of the shell itself, or a
program that is looked for in the directories of `PATH`; and running such a program.
-/

namespace StaleBuild.Shell

open Host (Str str)

/-- What a name stands for. -/
inductive Kind where
  | alias (text : Str)
  | keyword
  | special
  | function
  | builtin
  | program (path : Str)

namespace Lookup

/-- The commands of a shell whose failure ends it in the basic dialect. -/
def specialNames : List String :=
  [".", ":", "break", "continue", "eval", "exec", "exit", "export", "local", "readonly", "return",
    "set", "shift", "times", "trap", "unset"]

/-- The other commands of both dialects. -/
def regularNames : List String :=
  ["alias", "bg", "cd", "command", "echo", "false", "fg", "getopts", "hash", "jobs", "kill", "printf",
    "pwd", "read", "test", "[", "true", "type", "ulimit", "umask", "unalias", "wait"]

/-- The commands that only one of the dialects has. -/
def ownNames : Dialect → List String
  | .basic => ["chdir"]
  | .extended =>
    ["bind", "builtin", "caller", "compgen", "complete", "compopt", "declare", "dirs", "disown",
      "enable", "help", "history", "let", "logout", "mapfile", "popd", "pushd", "readarray", "shopt",
      "source", "suspend", "typeset"]

/-- Whether a name is one of several. -/
def isIn (names : List String) (name : Str) : Bool := names.any fun n => n.toList = name

/-- Whether a name is that of a special command. -/
def isSpecial (d : Dialect) (name : Str) : Bool := d = .basic && isIn specialNames name

/-- Whether a shell runs a command itself. -/
def isBuiltin (d : Dialect) (name : Str) : Bool :=
  isIn specialNames name || isIn regularNames name || isIn (ownNames d) name

/-! ## Programs -/

/-- The directories in which programs are looked for; an empty one is the current one. -/
def directories (s : State) : List Str :=
  match s.text? (str "PATH") with
  | some path => Host.splitOn ':' path
  | none => (Host.splitOn ':' (str "/usr/local/sbin:/usr/local/bin:/usr/sbin:/usr/bin:/sbin:/bin"))

/-- The path of a file in one of several directories that satisfies a test. -/
def inDirectories? (s : State) (name : Str) (p : Entry → Bool) : Option Str :=
  (directories s).findSome? fun d =>
    let path := Host.pathJoin d name
    match s.host.files.stat (Host.pathOf path) with
    | .ok e => if e.node.isFile && p e then some path else none
    | .error _ => none

/-- The path of the program of a name, as the directories have it, or why there is none. -/
def search (s : State) (name : Str) : Except FileError Str :=
  match inDirectories? s name Entry.isExecutable with
  | some path => .ok path
  | none =>
    if (inDirectories? s name fun _ => true).isSome then .error .permissionDenied
    else .error .notFound

/-- The path of the program of a name, or why there is none. The extended dialect goes by what it knows
already. -/
def program (s : State) (name : Str) : Except FileError Str :=
  if name.contains '/' then .ok name
  else if name = [] then .error .notFound
  else match if s.dialect = .extended then s.known? name else none with
    | some k => .ok k.path
    | none => search s name

/-- Whether a path denotes a program. -/
def isProgram (s : State) (path : Str) : Bool :=
  match s.host.files.stat (Host.pathOf path) with
  | .ok e => e.node.isFile && e.isExecutable
  | .error _ => false

/-- Complain about a program that cannot be run. -/
def refuse (name : Str) (cause : FileError) : Sh Unit := do
  let s ← get
  let missing := cause = .notFound || cause = .notADirectory
  match s.dialect with
  | .basic => do
    Sh.warn (name ++ str ": " ++ if missing then str "not found" else Host.reason cause)
    Sh.setStatus (if missing || !name.contains '/' || cause = .tooManyLinks || cause = .nameTooLong
      then 127 else 126)
  | .extended =>
    let path := Host.pathOf name
    if !name.contains '/' then
      Sh.warn (name ++ str (if cause = .permissionDenied then ": Permission denied"
        else ": command not found"))
      Sh.setStatus (if cause = .permissionDenied then 126 else 127)
    else if s.host.files.isDirectory path then
      Sh.warn (name ++ str ": Is a directory")
      Sh.setStatus 126
    else if cause = .notFound && s.host.files.isFile path then
      Sh.warn (name ++ str ": cannot execute: required file not found")
      Sh.setStatus 127
    else
      Sh.warn (name ++ str ": " ++ Host.reason cause)
      Sh.setStatus (if cause = .notFound then 127 else 126)

/-- The shell of a dialect. -/
def shellPath : Dialect → Str
  | .basic => str "/bin/sh"
  | .extended => str "/bin/bash"

/-- Start a program under a path; a file that is no program is taken for a script. -/
def start (e : Engine) (path : Str) (argv : List Str) : Sh (Except FileError ExitState) := do
  let s ← get
  let environment := s.environment
  let go (path : Str) (argv : List Str) : Sh (Except FileError ExitState) := do
    match ← Sh.act (Act.within (fun p => { p with environment }) (e.start path argv)) with
    | .ok r => return r
    | .error ending => return .ok ending
  match ← go path argv with
  | .error .noProgram => go (shellPath s.dialect) (shellPath s.dialect :: path :: argv.tail)
  | r => return r

/-- Look for a program ahead of its use, unless the shell has a command or a function of the name. -/
def find (name : Str) : Sh Unit := modify fun s =>
  if name.contains '/' || isBuiltin s.dialect name || s.functions.any fun f => f.1 = name then s
  else match program s name with
    | .ok path => s.withKnown name path 0
    | .error _ => s

/-- Run a program and wait for it. -/
def run (e : Engine) (argv : List Str) : Sh Unit := do
  let name := argv.headD []
  match program (← get) name with
  | .error cause => refuse name cause
  | .ok path =>
    if !name.contains '/' then modify fun s => s.withKnown name path 1
    match ← start e path argv with
    | .ok ending => Sh.settle ending
    | .error cause => refuse name cause

/-! ## Names -/

/-- What a name stands for. -/
def kind? (s : State) (name : Str) : Option Kind :=
  match s.aliases.find? fun a => a.1 = name with
  | some (_, text) => some (.alias text)
  | none =>
    if Grammar.isKeyword s.dialect name then some .keyword
    else if isSpecial s.dialect name then some .special
    else if s.functions.any fun f => f.1 = name then some .function
    else if isBuiltin s.dialect name then some .builtin
    else if name.contains '/' then
      let isThere := (s.host.files.stat (Host.pathOf name)).toOption.isSome
      if s.dialect = .basic && isThere || isProgram s name then
        some (.program name)
      else none
    else match program s name with
      | .ok path => some (.program path)
      | .error _ => none

end Lookup

end StaleBuild.Shell
