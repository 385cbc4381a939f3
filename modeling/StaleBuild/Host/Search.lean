import StaleBuild.Files.Lookup
import StaleBuild.Host.Options

/-!
Looking for a program by its name in the directories of `PATH`, and starting the first one that can be
started. A refusal in one directory is told only if no later one has the program.
-/

namespace StaleBuild.Host.Search

/-- Where programs are looked for when nobody says where. -/
def usualPath : Str := str "/bin:/usr/bin"

/-- The value of a variable of the environment. -/
def valueOf (p : Process) (name : String) : Option Str :=
  (p.environment.find? fun v => v.1 = str name).map Prod.snd

/-- The directories in which programs are looked for. -/
def directories (p : Process) : List Str := splitOn ':' ((valueOf p "PATH").getD usualPath)

/-- Try one directory after another; the first one that can tell an ending wins. -/
def tryAll (attempt : Str → Act (Except FileError ExitState)) (name : Str) (refused : FileError) :
    List Str → Act (Except FileError ExitState)
  | [] => return .error refused
  | d :: rest => do
    match ← attempt (pathJoin d name) with
    | .error .notFound => tryAll attempt name refused rest
    | .error .notADirectory => tryAll attempt name refused rest
    | .error .permissionDenied => tryAll attempt name .permissionDenied rest
    | r => return r

/-- Start a program by its name, or by its path if that has a separator. -/
def run (start : Starter) (argv : List Str) : Act (Except FileError ExitState) := do
  let name := argv.headD []
  if name = [] then return .error .notFound
  else if name.contains '/' then start name argv
  else if nameLimit < name.length then return .error .nameTooLong
  else tryAll (fun path => start path argv) name .notFound (directories (← get).process)

/-- The same for a caller that takes a file without a mark for a script of the shell. -/
def runOrScript (start : Starter) (argv : List Str) : Act (Except FileError ExitState) :=
  run (fun path argv => do
    match ← start path argv with
    | .error .noProgram => start (str "/bin/sh") (str "/bin/sh" :: path :: argv.tail)
    | r => return r) argv

end StaleBuild.Host.Search
