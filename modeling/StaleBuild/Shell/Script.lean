import StaleBuild.Shell.Grammar
import StaleBuild.Shell.State

/-!
Running the text of a script: a command is read, then run, and then the next one is read, so that
what a command changes counts for the commands behind it.
-/

namespace StaleBuild.Shell

open Host (Str str)

namespace Script

/-- Where a text comes from, which the words for its faults tell. -/
inductive Origin where
  | argument
  | file
  /-- A command of the shell runs it. -/
  | command (name : Str)
deriving DecidableEq

/-- The words of the basic dialect for a fault. -/
def basicWords : Complaint → String
  | .unexpected found none => "Syntax error: " ++ found.described ++ " unexpected"
  | .unexpected found (some wanted) =>
    "Syntax error: " ++ found.described ++ " unexpected (expecting " ++ wanted ++ ")"
  | .unclosed _ => "Syntax error: Unterminated quoted string"
  | .said text => "Syntax error: " ++ text

/-- The line of this number of a text. -/
def lineOf (text : Str) (n : Nat) : Str := ((Host.splitOn '\n' text)[n - 1]?).getD []

/-- A text between the marks that messages of the extended dialect have. -/
def marked (s : Str) : Str := Char.ofNat 96 :: s ++ ['\'']

/-- The lines that the extended dialect says about a fault. -/
def extendedWords (text : Str) (e : SyntaxError) : List (Nat × Str) :=
  let near (line : Nat) (found : Str) (words : String) : List (Nat × Str) :=
    [(line, str words ++ marked found), (line, marked (lineOf text line))]
  let lines := (Host.splitLines text).length
  match e.complaint with
  | .unexpected .finish _ => [(lines + 1, str "syntax error: unexpected end of file")]
  | .unexpected .lineBreak _ => near (e.line - 1) (str "newline") "syntax error near unexpected token "
  | .unexpected found _ => near e.line found.raw "syntax error near unexpected token "
  | .unclosed closing =>
    [(e.line, str "unexpected EOF while looking for matching " ++ marked [closing])]
  | .said words => [(e.line, str words)]

/-- Complain about a fault of a text. -/
def complain (origin : Origin) (text : Str) (e : SyntaxError) : Sh Unit := do
  let s ← get
  match s.dialect with
  | .basic => do
    modify fun s => { s with line := e.line }
    Sh.warn (str (basicWords e.complaint))
  | .extended =>
    let source : Str := match origin with
      | .argument => str "-c: "
      | .file => []
      | .command name => name ++ str ": "
    for (line, words) in extendedWords text e do
      Sh.put 2 (s.name ++ str ": " ++ source ++ str "line " ++ Host.decimal line ++ str ": " ++
        words ++ ['\n'])

/-- The status of the extended dialect for a value that is missing. -/
def missing : Nat := 127

/-- Go on behind a command of a file in which something was impossible. A missing value ends the
shell all the same. -/
def discard : Sh Unit := do
  if (← get).status = missing then
    Sh.setStatus 1
    throw .failed

/-- Run the commands that a reader still has before it; `ran` tells whether others have been run. A
text without commands succeeds. -/
def runWithin (run : Runner) (origin : Origin) (text : Str) (ran : Bool) : Nat → Reader → Sh Unit
  | 0, _ => return ()
  | fuel + 1, r => do
    let s ← get
    if s.options.readsOnly && s.dialect = .basic && r.input = [] then return ()
    match Grammar.next { r with aliases := s.aliases, texts := [], nextText := s.nextText } with
    | .error e => do
      complain origin text e
      Sh.setStatus 2
      throw .failed
    | .ok (none, _) => if !ran then Sh.setStatus 0
    | .ok (some c, r) => do
      modify fun s => { s with texts := r.texts ++ s.texts, nextText := r.nextText }
      if !s.options.readsOnly then
        if s.dialect = .extended && origin = .file then
          try run c
          catch
          | .failed => discard
          | flow => throw flow
        else run c
      runWithin run origin text true fuel r

/-- Run a text. -/
def run (runner : Runner) (origin : Origin) (text : Str) : Sh Unit := do
  let r := Reader.start (← get).dialect text
  runWithin runner origin text false (text.length + 2) r

end Script

end StaleBuild.Shell
