import StaleBuild.Host.Basic
import StaleBuild.Host.Quote

/-!
Options of programs. An option is a letter behind a dash, or a name behind two; it may take a value.
Letters can be written together, names can be cut short as long as no other one starts alike, and
options can stand between the operands unless a program wants them all in front.
-/

namespace StaleBuild.Host

/-- Whether an option takes a value. -/
inductive Takes where
  | nothing
  | value
  | maybe
deriving DecidableEq

/-- An option with a name, and the letter that stands for it. -/
structure LongOption where
  name : String
  takes : Takes
  letter : Char

/-- The options of a program. -/
structure OptionTable where
  /-- The letters; a colon behind one says that it takes a value, two that it may. -/
  letters : String
  long : List LongOption
  /-- Whether options may follow operands. -/
  mixes : Bool

/-- What was given to a program. -/
structure Given where
  /-- The options in order, with their values. -/
  options : List (Char × Option Str)
  operands : List Str

namespace Given

def has (g : Given) (c : Char) : Bool := g.options.any fun o => o.1 = c

/-- The last value given for a letter. -/
def value? (g : Given) (c : Char) : Option Str :=
  (g.options.reverse.find? fun o => o.1 = c).bind Prod.snd

/-- All values given for a letter. -/
def values (g : Given) (c : Char) : List Str :=
  g.options.filterMap fun o => if o.1 = c then o.2 else none

/-- The last one given of several letters. -/
def last? (g : Given) (cs : List Char) : Option Char :=
  (g.options.reverse.find? fun o => cs.contains o.1).map Prod.fst

/-- The same options with one more in front. -/
def withOption (g : Given) (c : Char) (value : Option Str) : Given :=
  { g with options := (c, value) :: g.options }

def withOperand (g : Given) (s : Str) : Given := { g with operands := s :: g.operands }

end Given

namespace OptionTable

/-- What a letter takes, if it is one of the options. -/
def takes? (c : Char) : List Char → Option Takes
  | [] => none
  | d :: ':' :: ':' :: rest => if c = d then some .maybe else takes? c rest
  | d :: ':' :: rest => if c = d then some .value else takes? c rest
  | d :: rest => if c = d then some .nothing else takes? c rest

/-- What letters written together give: options, and the letter that still waits for its value. -/
def cluster (t : OptionTable) : Str → Except Str (List (Char × Option Str) × Option Char)
  | [] => .ok ([], none)
  | c :: rest =>
    match if c = ':' then none else takes? c t.letters.toList with
    | none => .error (str "invalid option -- '" ++ [c, '\''])
    | some .nothing => (cluster t rest).map fun (more, waiting) => ((c, none) :: more, waiting)
    | some .value => .ok (if rest = [] then ([], some c) else ([(c, some rest)], none))
    | some .maybe => .ok ([(c, if rest = [] then none else some rest)], none)

/-- The option that a name, perhaps cut short, stands for. -/
def named (t : OptionTable) (given name : Str) : Except Str LongOption :=
  let dashed (n : Str) : Str := str "'--" ++ n ++ ['\'']
  match t.long.find? fun l => l.name.toList = name with
  | some l => .ok l
  | none =>
    let alike := t.long.filter fun l => name.isPrefixOf l.name.toList
    match alike with
    | [] => .error (str "unrecognized option " ++ dashed given)
    | l :: others =>
      if others.all fun m => m.letter = l.letter && m.takes = l.takes then .ok l
      else .error (str "option " ++ dashed given ++ str " is ambiguous; possibilities:" ++
        alike.flatMap fun m => ' ' :: dashed m.name.toList)

/-- Read options and operands; the error is a complaint. -/
def read (t : OptionTable) : List Str → Except Str Given
  | [] => .ok ⟨[], []⟩
  | ['-', '-'] :: rest => .ok ⟨[], rest⟩
  | ('-' :: '-' :: given) :: rest => do
    let (name, value) := cut '=' given
    let l ← t.named given name
    let dashed : Str := str "option '--" ++ l.name.toList ++ ['\'']
    match l.takes, value with
    | .nothing, some _ => .error (dashed ++ str " doesn't allow an argument")
    | .nothing, none => return (← read t rest).withOption l.letter none
    | .maybe, value => return (← read t rest).withOption l.letter value
    | .value, some value => return (← read t rest).withOption l.letter (some value)
    | .value, none =>
      match rest with
      | [] => .error (dashed ++ str " requires an argument")
      | value :: rest => return (← read t rest).withOption l.letter (some value)
  | ('-' :: c :: letters) :: rest =>
    match t.cluster (c :: letters) with
    | .error complaint => .error complaint
    | .ok (options, none) => do
      let g ← read t rest
      return { g with options := options ++ g.options }
    | .ok (options, some waiting) =>
      match rest with
      | [] => .error (str "option requires an argument -- '" ++ [waiting, '\''])
      | value :: rest => do
        let g ← read t rest
        return { g with options := options ++ (waiting, some value) :: g.options }
  | operand :: rest =>
    if t.mixes then return (← read t rest).withOperand operand else .ok ⟨[], operand :: rest⟩

end OptionTable

/-- A program as it was called. -/
structure Call where
  /-- The name under which the program was called. -/
  name : Str
  args : List Str

namespace Call

/-- A complaint in the name of the program. -/
def warn (c : Call) (message : Str) : Act Unit := Act.complain (c.name ++ str ": " ++ message ++ ['\n'])

/-- A complaint that ends the program. -/
def die {α : Type} (c : Call) (status : Nat) (message : Str) : Act α := do
  c.warn message
  Act.exit status

/-- The hint where to find help. -/
def hint (c : Call) : Act Unit :=
  Act.complain (str "Try '" ++ c.name ++ str " --help' for more information.\n")

/-- A complaint about the way in which the program was called. -/
def misused {α : Type} (c : Call) (status : Nat) (message : Str) : Act α := do
  c.warn message
  c.hint
  Act.exit status

/-- The letters for the two options that every program has: help and version. -/
def helpLetter : Char := '\x01'

def versionLetter : Char := '\x02'

/-- The two options that every program has. -/
def common : List LongOption :=
  [⟨"help", .nothing, helpLetter⟩, ⟨"version", .nothing, versionLetter⟩]

/-- What was given to the program; a wrong call ends it with a status. -/
def read (c : Call) (status : Nat) (letters : String) (long : List LongOption) (mixes : Bool) :
    Act Given :=
  match OptionTable.read ⟨letters, long ++ common, mixes⟩ c.args with
  | .error complaint => c.misused status complaint
  | .ok g =>
    if g.has helpLetter then do
      Act.say (str "Usage: " ++ c.name ++ str " [OPTION]...\n")
      Act.exit 0
    else if g.has versionLetter then do
      Act.say (c.name ++ str " (GNU coreutils) 9.1\n")
      Act.exit 0
    else return g

/-- The same for a program that needs operands. -/
def readSome (c : Call) (status : Nat) (letters : String) (long : List LongOption) (missing : String)
    (mixes : Bool) : Act Given := do
  let g ← c.read status letters long mixes
  if g.operands = [] then c.misused status (str ("missing " ++ missing)) else return g

/-- Which of several words a value of an option is, where words in one group mean the same and a word
can be cut short; a wrong value is complained about, with the words that there are. -/
def choose (c : Call) (option : String) (groups : List (List String)) (value : Str) :
    Act (Option Nat) := do
  let alike := (groups.zipIdx.filter fun g => g.1.any fun w => value.isPrefixOf w.toList)
  match groups.zipIdx.find? fun g => g.1.any fun w => w.toList = value, alike with
  | some (_, i), _ => return some i
  | none, [(_, i)] => return some i
  | none, others => do
    let fault := str (if others = [] then "invalid argument " else "ambiguous argument ")
    c.warn (fault ++ Quote.curly value ++ str " for " ++ Quote.curly (str option))
    Act.complain (str "Valid arguments are:\n")
    for g in groups do
      Act.complain (str "  - " ++ joinWith (str ", ") (g.map fun w => Quote.curly (str w)) ++ ['\n'])
    return none

/-- The contents of an operand, where a dash stands for the input. -/
def readOperand (operand : Str) : Act (Except FileError Str) :=
  if operand = ['-'] then Act.readFd 0 else Act.readPath operand

/-- The operands, or the input if there is none. -/
def orInput (operands : List Str) : List Str := if operands = [] then [['-']] else operands

end Call

/-- A way to start a program that lies at a path, with its arguments, the first of which is the name
under which it is called. -/
abbrev Starter := Str → List Str → Act (Except FileError ExitState)

/-- What a program does when it is called, given the way to start others. -/
abbrev Program := Starter → Call → Act Nat

end StaleBuild.Host
