import StaleBuild.Host.Text

/-!
Shell scripts as trees. A word is a list of parts, some of which hold words or commands themselves;
a command holds words and commands. Two dialects are told apart: the basic one, and the extended one
with arrays, conditions and arithmetic commands.

The text of a here-document follows the line that asks for it. So a command holds only the number of
the document, and the reader of a script gives a table of texts beside the commands.

The command of a build may be a shell script. `Shell` reads and runs it when the program runs; the
theorems about builds hold for every launcher and never come to it.
-/

namespace StaleBuild.Shell

open Host (Str)

/-- The language that a shell understands. -/
inductive Dialect where
  | basic
  | extended
deriving DecidableEq, Inhabited

/-- What a redirection does. -/
inductive Direction where
  | write
  /-- Writes even over a file that is to be spared. -/
  | force
  | append
  | read
  | both
  | duplicateOutput
  | duplicateInput
  /-- Reads the here-document of this number. -/
  | document (id : Nat)
  /-- Reads the word itself and a line break. -/
  | text
  /-- Writes both outputs. -/
  | writeAll
  | appendAll
deriving DecidableEq, Inhabited

/-- How an arm of a choice ends. -/
inductive ArmEnd where
  | leave
  /-- The next arm is run too. -/
  | fall
  /-- The next patterns are tried too. -/
  | retry
deriving DecidableEq, Inhabited

/-- What is looked for when a value is not usable. -/
inductive Fallback where
  | use
  | assign
  | refuse
  | instead
deriving DecidableEq, Inhabited

mutual

/-- A part of a word. -/
inductive Part where
  | literal (quoted : Bool) (s : Str)
  /-- The value of a parameter; the index is that of an array's item. -/
  | parameter (quoted : Bool) (name : Str) (index : Option (List Part)) (action : Action)
  /-- What a command writes. -/
  | command (quoted : Bool) (body : Cmd)
  | arithmetic (quoted : Bool) (expression : List Part)
  /-- A file that a command writes or reads. -/
  | process (reads : Bool) (body : Cmd)

/-- What is done with the value of a parameter. -/
inductive Action where
  | plain
  | length
  /-- No action that there is: the expansion is refused. -/
  | bad
  /-- Another value for one that is not set or, if `colon`, is empty. -/
  | fallback (kind : Fallback) (colon : Bool) (word : List Part)
  /-- The value without a part at its end or else at its start. -/
  | trim (atEnd longest : Bool) (pattern : List Part)
  /-- The value with matches replaced: at the start, at the end, the first one or all. -/
  | replace (place : Char) (pattern replacement : List Part)
  | slice (start : List Part) (length : Option (List Part))
  | recase (upper all : Bool) (pattern : List Part)
  /-- The value of the parameter that the value names, or the indices of an array. -/
  | indirect (inner : Action)
  /-- The names of variables that start alike. -/
  | namesLike
  | transform (letter : Char)

/-- A value that is assigned. -/
inductive Assigned where
  | word (w : List Part)
  | items (items : List (Option (List Part) × List Part))

/-- An assignment. -/
inductive Assign where
  | mk (name : Str) (index : Option (List Part)) (adds : Bool) (value : Assigned)

/-- A redirection of a stream. -/
inductive Redirect where
  | mk (fd : Option Nat) (direction : Direction) (target : List Part)

/-- The inside of a conditional command. -/
inductive Test where
  | word (w : List Part)
  | unary (op : Str) (w : List Part)
  | binary (op : Str) (a b : List Part)
  | negated (t : Test)
  | both (a b : Test)
  | either (a b : Test)

/-- A command. -/
inductive Cmd where
  | nothing
  | simple (line : Nat) (assigns : List Assign) (words : List (List Part))
      (redirects : List Redirect)
  | pipe (parts : List Cmd)
  | negated (c : Cmd)
  | both (a b : Cmd)
  | either (a b : Cmd)
  | seq (a b : Cmd)
  | background (c : Cmd)
  | cond (test yes : Cmd) (no : Option Cmd)
  /-- Runs the body as long as the test succeeds, or fails if `wanted` is false. -/
  | loop (wanted : Bool) (test body : Cmd)
  | each (line : Nat) (name : Str) (items : Option (List (List Part))) (body : Cmd)
  | count (line : Nat) (start test step : List Part) (body : Cmd)
  | choose (line : Nat) (subject : List Part) (arms : List (List (List Part) × Cmd × ArmEnd))
  | subshell (line : Nat) (body : Cmd)
  | redirected (line : Nat) (body : Cmd) (redirects : List Redirect)
  | define (line : Nat) (name : Str) (body : Cmd)
  | calculate (line : Nat) (expression : List Part)
  | test (line : Nat) (t : Test)

end

/-- A word of a script. -/
abbrev Word := List Part

instance : Inhabited Cmd := ⟨.nothing⟩

instance : Inhabited Part := ⟨.literal false []⟩

/-- The word that stands for a text as it is. -/
def Word.literal (s : Str) : Word := [.literal true s]

/-- The text of a word that stands for itself: characters outside of quotation marks only. -/
def Word.bare? : Word → Option Str
  | [] => some []
  | [.literal false s] => some s
  | _ => none

/-- What a simple command asks for. -/
structure Simple where
  assigns : List Assign
  words : List Word
  redirects : List Redirect

end StaleBuild.Shell
