import StaleBuild.Shell.Builtin.Control
import StaleBuild.Shell.Builtin.Directory
import StaleBuild.Shell.Builtin.Output
import StaleBuild.Shell.Builtin.Processes
import StaleBuild.Shell.Builtin.Reading

/-!
The commands that a shell runs itself, by name. Both dialects share most of them; the extended one
declares variables where the basic one only hides them, and has further commands.
-/

namespace StaleBuild.Shell.Builtin

open Host (Str)

/-- The commands that both dialects have. -/
def shared : List (String × Builtin) :=
  [(":", nothing), ("true", nothing), ("false", failure'), (".", source), ("[", test), ("alias", alias'),
    ("bg", foreground), ("break", leaving .breaks), ("cd", cd), ("command", command),
    ("continue", leaving .continues), ("echo", echo), ("eval", eval), ("exec", exec), ("exit", exit),
    ("export", exporting), ("fg", foreground), ("getopts", nextOption), ("hash", hash), ("jobs", jobs),
    ("kill", kill), ("printf", printf), ("pwd", pwd), ("read", readLine), ("readonly", fixing),
    ("return", return'), ("set", configure), ("shift", shift), ("test", test), ("times", times),
    ("trap", trap), ("type", type), ("ulimit", ulimit), ("umask", umask), ("unalias", unalias),
    ("unset", unset), ("wait", wait)]

/-- The commands that only one of the dialects has, or has in its own way. -/
def own : Dialect → List (String × Builtin)
  | .basic => [("chdir", cd), ("local", makeLocal)]
  | .extended =>
    [("local", declare), ("declare", declare), ("typeset", declare), ("let", calculate),
      ("shopt", shopt), ("source", source), ("builtin", builtin), ("mapfile", readLines),
      ("readarray", readLines), ("pushd", pushd), ("popd", popd), ("dirs", dirs),
      ("bind", idle 0 (some "warning: line editing not enabled")), ("caller", idle 1 none),
      ("compgen", idle 1 none), ("complete", idle 0 none),
      ("compopt", idle 1 (some "not currently executing completion function")),
      ("disown", idle 0 none), ("enable", idle 0 none), ("help", idle 0 none), ("history", idle 0 none),
      ("logout", idle 1 (some "not login shell: use `exit'")),
      ("suspend", idle 1 (some "cannot suspend: no job control"))]

/-- The command of the shell that has a name. -/
def named? (d : Dialect) (name : Str) : Option Builtin :=
  ((own d ++ shared).find? fun b => b.1.toList = name).map Prod.snd

end StaleBuild.Shell.Builtin
