import StaleBuild.Host.Options
import StaleBuild.Shell.Redirection

/-!
Commands that a shell runs itself. Each one works on the state of the shell and gives a status; what
it complains about is said in its name.
-/

namespace StaleBuild.Shell

open Host (Str str)

/-- A command that a shell runs itself, given its name and its arguments. -/
abbrev Builtin := Engine → Str → List Str → Sh Nat

namespace Builtin

/-- Write a text; the status tells whether that was possible. -/
def emit (name text : Str) : Sh Nat := do
  if text = [] then return 0
  let s ← get
  match s.host.writeFd 1 text with
  | .ok host => do
    set { s with host }
    return 0
  | .error cause => do
    if s.dialect = .basic then Sh.warn (name ++ str ": I/O error")
    else Sh.warn (str "write error: " ++ Host.reason cause)
    return 1

/-- A complaint with a status. -/
def failing (status : Nat) (words : Str) : Sh Nat := do
  Sh.warn words
  return status

/-- A complaint that ends the command, and the shell too if the command is a special one. -/
def wrong {α : Type} (words : Str) : Sh α := Sh.refuse 2 words

/-- A line that says how a command of the extended dialect is used, and the status for that. -/
def usage (line : String) : Sh Nat := do
  Sh.put 2 (str line ++ ['\n'])
  return 2

/-- Options written as letters, and the other arguments; the error is a letter that is none, or one
whose value is missing. -/
def options (letters : String) : List Str → Except Char (List (Char × Str) × List Str)
  | ['-', '-'] :: rest => .ok ([], rest)
  | ('-' :: c :: more) :: rest =>
    let rec cluster : Str → Except Char (List (Char × Str) × Option Char)
      | [] => .ok ([], none)
      | c :: more =>
        match Host.OptionTable.takes? c letters.toList with
        | none => .error c
        | some .value => if more = [] then .ok ([], some c) else .ok ([(c, more)], none)
        | some _ => (cluster more).map fun (os, w) => ((c, []) :: os, w)
    match cluster (c :: more) with
    | .error c => .error c
    | .ok (os, none) => (options letters rest).map fun (ps, rest) => (os ++ ps, rest)
    | .ok (os, some c) =>
      match rest with
      | [] => .error c
      | v :: rest => (options letters rest).map fun (ps, rest) => (os ++ (c, v) :: ps, rest)
  | rest => .ok ([], rest)

/-- The options of a command, whose use is told in the extended dialect if there is a wrong one. -/
def read (letters line : String) (args : List Str) (f : List (Char × Str) → List Str → Sh Nat) :
    Sh Nat := do
  match options letters args with
  | .ok (os, rest) => f os rest
  | .error c =>
    if ← Sh.isExtended then
      if Host.OptionTable.takes? c letters.toList = some .value then
        Sh.warn (['-', c] ++ str ": option requires an argument")
      else Sh.warn (['-', c] ++ str ": invalid option")
      usage line
    else if Host.OptionTable.takes? c letters.toList = some .value then
      wrong (str "No arg for -" ++ c :: str " option")
    else wrong (str "Illegal option -" ++ [c])

/-- Whether an option was given. -/
def given (os : List (Char × Str)) (c : Char) : Bool := os.any fun o => o.1 = c

/-- A number given as an argument. -/
def number (arg : Str) : Sh Int := do
  let extended ← Sh.isExtended
  match if extended then Host.integer? (Host.trimBy Host.isSpace arg) else
      (Host.natural? arg).map Int.ofNat with
  | some n => return n
  | none =>
    if extended then
      Sh.warn (arg ++ str ": numeric argument required")
      Sh.setStatus 2
      throw .failed
    else wrong (str "Illegal number: " ++ arg)

/-- A number given as the first argument, or else another one. -/
def numberOr (n : Int) : List Str → Sh Int
  | [] => return n
  | arg :: _ => number arg

/-- A name and a value written with an equals sign between them. -/
def pair (arg : Str) : Str × Option Str := Host.cut '=' arg

/-- The words for a name that is none. -/
def refuseName (arg : Str) : Sh Unit := do
  if ← Sh.isExtended then Sh.warn (Script.marked arg ++ str ": not a valid identifier")
  else wrong ((pair arg).1 ++ str ": bad variable name")

end Builtin

end StaleBuild.Shell
