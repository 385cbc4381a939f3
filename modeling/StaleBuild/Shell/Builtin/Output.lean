import StaleBuild.Shell.Builtin.Basic
import StaleBuild.Utility.Condition

/-!
Commands of the shell that write their arguments, and the one that evaluates conditions.
-/

namespace StaleBuild.Shell.Builtin

open Host (Str str)
open Utility (Escapes Voice)

/-- The words that a dialect uses. -/
def voice : Dialect → Voice
  | .basic => .basic
  | .extended => .extended

/-- Write the arguments with blanks between them. -/
def echo : Builtin := fun _ name args => do
  if ← Sh.isExtended then
    let isOption (a : Str) : Bool := match a with
      | '-' :: c :: rest => (c :: rest).all fun d => d = 'n' || d = 'e' || d = 'E'
      | _ => false
    let flags := args.takeWhile isOption
    let letters := flags.flatten.filter fun c => c = 'e' || c = 'E'
    let text := Host.joinWith [' '] (args.drop flags.length)
    let (text, goesOn) := if letters.getLast? = some 'e' then Escapes.extended.read text
      else (text, true)
    let newline := goesOn && !flags.any (·.contains 'n')
    emit name (if newline then text ++ ['\n'] else text)
  else
    let (newline, args) := match args with
      | ['-', 'n'] :: rest => (false, rest)
      | args => (true, args)
    let (text, goesOn) := Escapes.basic.read (Host.joinWith [' '] args)
    emit name (if newline && goesOn then text ++ ['\n'] else text)

/-- Write events in order; the complaints of the extended dialect come ahead of the line that is
being written, those of the basic dialect ahead of everything. -/
def present (name : Str) (events : List Utility.Format.Event) : Sh Nat := do
  let extended ← Sh.isExtended
  let rec go : List Utility.Format.Event → Str → Nat → Sh (Str × Nat)
    | [], held, status => return (held, status)
    | .complain words :: rest, held, status => do
      Sh.warn words
      go rest held status
    | .put text :: rest, held, status => do
      let held := held ++ text
      if extended && held.contains '\n' then
        let line := (held.reverse.dropWhile (· ≠ '\n')).reverse
        let written ← emit name line
        go rest (held.drop line.length) (max status written)
      else go rest held status
  let complaining := events.any fun e => match e with
    | .complain _ => true
    | .put _ => false
  if complaining then
    let (held, status) ← go events [] 0
    return max status (← emit name held)
  else emit name (Utility.Format.written events)

/-- Write the arguments through a format. -/
def printf : Builtin := fun _ name args => do
  let d := (← get).dialect
  read (if d = .basic then "" else "v:") "printf: usage: printf [-v var] format [arguments]" args
    fun os rest => do
      match rest with
      | [] =>
        if d = .basic then wrong (str "usage: printf format [arg ...]")
        else usage "printf: usage: printf [-v var] format [arguments]"
      | format :: args =>
        let (events, status) := Utility.Format.run (voice d) format args
        match os.getLast? with
        | some (_, variable') => do
          for e in events do
            match e with
            | .complain words => Sh.warn words
            | .put _ => pure ()
          let (name, inside) := Host.cut '[' variable'
          Arithmetic.store name (inside.map List.dropLast) (Utility.Format.written events)
          return status
        | none => do
          let written ← present name events
          return max status written

/-- Evaluate a condition. -/
def test : Builtin := fun _ name args => do
  let s ← get
  let subject : Utility.Condition.Subject :=
    ⟨s.host.files, fun n => (Expansion.valueOf? s n).isSome, fun o => s.options.others.contains o⟩
  match Utility.Condition.forName (voice s.dialect) subject name args with
  | .ok yes => return if yes then 0 else 1
  | .error words => failing 2 words

end StaleBuild.Shell.Builtin
