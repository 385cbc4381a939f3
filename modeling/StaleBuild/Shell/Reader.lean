import StaleBuild.Shell.Syntax

/-!
Reading a script character by character. A line break behind a backslash joins two lines and is
never seen. The lines that have been read are counted for messages.

The text that an alias stands for is put in front of the rest of the script; a mark behind it, which
no script can hold, tells where the alias may be used again.
-/

namespace StaleBuild.Shell

open Host (Str)

/-- A token of a script. -/
inductive Token where
  | word (w : Word) (quoted : Bool) (raw : Str)
  | keyword (s : Str)
  | operator (s : Str)
  /-- A redirection, with the stream if it is named. -/
  | redirection (fd : Option Nat) (s : Str)
  /-- An assignment of a list of items. -/
  | list (a : Assign) (raw : Str)
  | lineBreak
  | finish

instance : Inhabited Token := ⟨.finish⟩

namespace Token

/-- The token of the basic dialect in a message. -/
def described : Token → String
  | .word .. => "word"
  | .list .. => "word"
  | .keyword s => "\"" ++ Host.word s ++ "\""
  | .operator s => "\"" ++ Host.word s ++ "\""
  | .redirection .. => "redirection"
  | .lineBreak => "newline"
  | .finish => "end of file"

/-- The token as it was written. -/
def raw : Token → Str
  | .word _ _ raw => raw
  | .list _ raw => raw
  | .keyword s => s
  | .operator s => s
  | .redirection _ s => s
  | .lineBreak => Host.str "newline"
  | .finish => []

/-- Whether the token is this operator. -/
def isOperator (t : Token) (s : String) : Bool :=
  match t with
  | .operator o => o = s.toList
  | _ => false

/-- Whether the token is this keyword. -/
def isKeyword (t : Token) (s : String) : Bool :=
  match t with
  | .keyword k => k = s.toList
  | _ => false

/-- Whether the token is this operator or keyword. -/
def is (t : Token) (s : String) : Bool := t.isOperator s || t.isKeyword s

def isLineBreak : Token → Bool
  | .lineBreak => true
  | _ => false

def isFinish : Token → Bool
  | .finish => true
  | _ => false

end Token

/-- Why a script cannot be read. -/
inductive Complaint where
  /-- A token that does not belong here, with what should have come. -/
  | unexpected (found : Token) (expected : Option String)
  /-- A quotation or a bracket that is not closed. -/
  | unclosed (closing : Char)
  | said (text : String)

/-- A complaint with the number of the line. -/
structure SyntaxError where
  line : Nat
  complaint : Complaint

/-- A here-document whose text is still to come. -/
structure Awaited where
  id : Nat
  mark : Str
  isRaw : Bool
  dropsTabs : Bool

/-- How far a script has been read. -/
structure Reader where
  input : Str
  line : Nat
  dialect : Dialect
  /-- A token that has been given back. -/
  pushed : Option Token
  /-- The last token that was read. -/
  last : Token
  awaited : List Awaited
  /-- The texts of the here-documents. -/
  texts : List (Nat × Word)
  nextText : Nat
  aliases : List (Str × Str)
  /-- The aliases whose text is being read. -/
  active : List Str

/-- Reading. -/
abbrev Reading := StateT Reader (Except SyntaxError)

namespace Reader

/-- A reader at the start of a script. -/
def start (dialect : Dialect) (input : Str) : Reader :=
  ⟨input, 1, dialect, none, .finish, [], [], 0, [], []⟩

/-- The mark behind the text of an alias. -/
def aliasEnd : Char := '\uE000'

/-- The input without joined lines at its start, and the number of these. -/
def skipJoins (n : Nat) : Str → Str × Nat
  | '\\' :: '\n' :: rest => skipJoins (n + 1) rest
  | input => (input, n)

end Reader

namespace Reading

/-- Complain about the script. -/
def fail {α : Type} (c : Complaint) : Reading α := do throw ⟨(← get).line, c⟩

/-- Complain in words. -/
def refuse {α : Type} (text : String) : Reading α := fail (.said text)

/-- Whether the extended dialect is being read. -/
def isExtended : Reading Bool := return (← get).dialect = .extended

/-- The next character, which stays. -/
def peek : Reading (Option Char) := do
  let r ← get
  let (input, joins) := Reader.skipJoins 0 r.input
  set { r with input, line := r.line + joins }
  return input.head?

/-- The next character as it stands in the script. -/
def nextRaw : Reading (Option Char) := do
  let r ← get
  match r.input with
  | [] => return none
  | c :: rest =>
    set { r with input := rest, line := if c = '\n' then r.line + 1 else r.line }
    return some c

/-- The next character. -/
def next : Reading (Option Char) := do
  let _ ← peek
  nextRaw

/-- Leave out the next character. -/
def skip : Reading Unit := do
  let _ ← next

/-- Take the next character if it is this one. -/
def take? (c : Char) : Reading Bool := do
  if (← peek) = some c then
    skip
    return true
  else return false

/-- Characters of a class. -/
def takeWhileWithin (p : Char → Bool) : Nat → Str → Reading Str
  | 0, taken => return taken.reverse
  | fuel + 1, taken => do
    match ← peek with
    | some c =>
      if p c then
        skip
        takeWhileWithin p fuel (c :: taken)
      else return taken.reverse
    | none => return taken.reverse

/-- All characters of a class that come next. -/
def takeWhile (p : Char → Bool) : Reading Str := do
  takeWhileWithin p ((← get).input.length + 1) []

/-- Take the next character, or end if there is none, and what has been taken up to `closing`. -/
def takeUntilWithin (closing : Char) : Nat → Str → Reading (Option Str)
  | 0, _ => return none
  | fuel + 1, taken => do
    match ← nextRaw with
    | none => return none
    | some c => if c = closing then return some taken.reverse else takeUntilWithin closing fuel (c :: taken)

/-- Everything up to a character, which is left out; lines are not joined. -/
def takeUntil (closing : Char) : Reading (Option Str) := do
  takeUntilWithin closing ((← get).input.length + 1) []

/-- Read something in another text, from a line on. -/
def inText {α : Type} (text : Str) (line : Nat) (reading : Reading α) : Reading α := do
  let r ← get
  set { r with input := text, line, pushed := none, awaited := [] }
  let a ← reading
  modify fun s => { s with
    input := r.input, line := r.line, pushed := r.pushed, last := r.last, awaited := r.awaited }
  return a

end Reading

end StaleBuild.Shell
