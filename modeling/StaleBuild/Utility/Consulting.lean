import StaleBuild.Host.Search
import StaleBuild.Host.Signal

/-!
Utilities that tell about the system and the session, that find programs, send signals, and read options for
scripts.
-/

namespace StaleBuild.Utility

open Host (Str str Call Program)
open Host.Quote (curly always)

/-! ## The session -/

/-- Tell the terminal that is read from; there is none. -/
def tty : Program := fun _ c => do
  let g ← c.read 2 "s" [⟨"silent", .nothing, 's'⟩, ⟨"quiet", .nothing, 's'⟩] true
  match g.operands with
  | extra :: _ => c.misused 2 (str "extra operand " ++ curly extra)
  | [] => do
    if !g.has 's' then Act.say (str "not a tty\n")
    return 1

/-- Change the terminal that is read from; there is none. -/
def stty : Program := fun _ c => do
  match c.args.find? fun a => a.head? = some '-' && !(["-a", "-g", "--all", "--save"].any fun k => str k = a) with
  | some a => c.misused 1 (str "invalid argument " ++ curly a)
  | none => c.die 1 (str "'standard input': Inappropriate ioctl for device")

/-- Tell nothing, but take no more operands than a number. -/
def silent (most : Nat) (letters : String) : Program := fun _ c => do
  let g ← c.read 1 letters [] true
  match g.operands.drop most with
  | extra :: _ => c.misused 1 (str "extra operand " ++ curly extra)
  | [] => return 0

/-- Tell the groups of users. -/
def groups : Program := fun _ c => do
  let g ← c.read 1 "" [] true
  if g.operands.isEmpty then
    Act.say (str "root\n")
    return 0
  let mut status := 0
  for u in g.operands do
    if u = str "root" then Act.say (str "root : root\n")
    else
      c.warn (curly u ++ str ": no such user")
      status := 1
  return status

/-- Tell the name under which the user logged in; there is none. -/
def logname : Program := fun _ c => do
  let g ← c.read 1 "" [] true
  match g.operands with
  | extra :: _ => c.misused 1 (str "extra operand " ++ curly extra)
  | [] => c.die 1 (str "no login name")

/-- Have everything written to the disks. -/
def sync : Program := fun _ c => do
  let g ← c.read 1 "df" [⟨"data", .nothing, 'd'⟩, ⟨"file-system", .nothing, 'f'⟩] true
  if g.has 'd' && g.has 'f' then c.die 1 (str "cannot specify both --data and --file-system")
  if g.has 'd' && g.operands.isEmpty then c.die 1 (str "--data needs at least one argument")
  let mut status := 0
  for o in g.operands do
    match (← Act.tree).stat (Host.pathOf o) with
    | .ok _ => pure ()
    | .error cause => do
      c.warn (str "error opening " ++ always o ++ str ": " ++ Host.reason cause)
      status := 1
  return status

/-- Run a program with other buffers, which makes no difference. -/
def stdbuf : Program := fun start c => do
  let g ← c.read 125 "+i:o:e:"
    [⟨"input", .value, 'i'⟩, ⟨"output", .value, 'o'⟩, ⟨"error", .value, 'e'⟩] false
  for (o, v) in g.options do
    let v := v.getD []
    if v = ['L'] then
      if o = 'i' then c.misused 125 (str "line buffering stdin is meaningless")
    else if (Host.natural? (v.takeWhile Char.isDigit)).isNone then
      c.die 125 (str "invalid mode " ++ curly v)
  if g.operands.isEmpty then c.misused 125 (str "missing operand")
  if g.options.isEmpty then c.misused 125 (str "you must specify a buffering mode option")
  match ← Host.Search.runOrScript start g.operands with
  | .ok (.exited n) => return n
  | .ok (.killed n) => throw (.killed n)
  | .error cause => do
    c.warn (str "failed to run command " ++ always (g.operands.headD []) ++ str ": " ++ Host.reason cause)
    return if cause = .notFound then 127 else 126

/-! ## Programs -/

/-- Tell where programs lie. -/
def which : Program := fun _ c => do
  let table : Host.OptionTable := ⟨"as", [], false⟩
  match table.read c.args with
  | .error _ => do
    let letter := (c.args.flatMap fun a => if a.head? = some '-' then a.tail else []).find? fun l =>
      l ≠ 'a' && l ≠ 's'
    Act.complain (str "Illegal option -" ++ [letter.getD '-'] ++ ['\n'])
    Act.say (str "Usage: /usr/bin/which [-as] args\n")
    return 2
  | .ok g => do
    if g.operands.isEmpty then return 1
    let tree ← Act.tree
    let isProgram (path : Str) : Bool := match tree.stat (Host.pathOf path) with
      | .ok e => e.node.isFile && e.isExecutable
      | .error _ => false
    let dirs := Host.Search.directories (← get).process
    let mut status := 0
    for o in g.operands do
      let places := if o.contains '/' then [o]
        else dirs.map fun d => Host.pathJoin (if d = [] then ['.'] else d) o
      let found := places.filter isProgram
      if found.isEmpty then status := 1
      if !g.has 's' then
        for p in if g.has 'a' then found else found.take 1 do
          Act.say (p ++ ['\n'])
    return status

/-! ## Signals -/

namespace Sending

def usage : Str := str "
Usage:
 kill [options] <pid> [...]

Options:
 <pid> [...]            send signal to every <pid> listed
 -<signal>, -s, --signal <signal>
                        specify the <signal> to be sent
 -q, --queue <value>    integer value to be sent with the signal
 -l, --list=[<signal>]  list all signal names, or convert one to a name
 -L, --table            list all signal names in a nice table

 -h, --help     display this help and exit
 -V, --version  output version information and exit

For more details see kill(1).
"

/-- The signal that a word names, by its number or its name. -/
def signal? (s : Str) : Option Nat :=
  match Host.natural? s with
  | some n => if n ≤ Host.Signal.greatest then some n else none
  | none =>
    let upper := Host.toUpper s
    Host.Signal.named? (if (str "SIG").isPrefixOf upper then upper.drop 3 else upper)

/-- The names of the signals in lines. -/
def list : Str :=
  let name (n : Nat) : Str := if n = 29 then str "POLL" else (Host.Signal.name? n).getD []
  let line (ns : List Nat) : Str := Host.joinWith [' '] (ns.map name) ++ ['\n']
  line ((List.range 16).map (· + 1)) ++ line ((List.range 15).map (· + 17))

end Sending

open Sending in
/-- Send a signal to processes. -/
def kill : Program := fun _ c => do
  let fail {α : Type} (words : Str) : Act α := do
    c.warn words
    Act.complain usage
    Act.exit 1
  let (signal, operands) : Nat × List Str ← match c.args with
    | [] => do
      Act.complain usage
      Act.exit 1
    | ['-', 'l'] :: [] => do
      Act.say list
      Act.exit 0
    | ['-', 'l'] :: s :: _ => do
      match Host.natural? s with
      | some n => do
        match Host.Signal.name? n with
        | some name => Act.say (name ++ ['\n'])
        | none => c.warn (str "unknown signal name " ++ s)
      | none => do
        match signal? s with
        | some n => Act.say (Host.decimal (n : Nat) ++ ['\n'])
        | none => c.warn (str "unknown signal name " ++ s)
      Act.exit 0
    | ['-', '-'] :: rest => pure (Host.Signal.terminate, rest)
    | ['-', 's'] :: s :: rest => do
      match signal? s with
      | some n => pure (n, rest)
      | none => fail (str "unknown signal name " ++ s)
    | ('-' :: s) :: rest => do
      match signal? s with
      | some n => pure (n, rest)
      | none => fail (str "invalid argument " ++ s.take 1)
    | rest => pure (Host.Signal.terminate, rest)
  let operands := match operands with
    | ['-', '-'] :: rest => rest
    | rest => rest
  if operands.isEmpty then
    Act.complain usage
    Act.exit 1
  let mut status := 0
  let own := (← get).process
  for o in operands do
    match Host.integer? o with
    | none => do
      c.warn (str "failed to parse argument: " ++ always o)
      status := 1
    | some n =>
      if n = (own.pid : Int) then
        if signal ≠ 0 then throw (.killed signal)
      else if n = (own.parent : Int) || (0 < n && n < (own.pid : Int) && 1000 < n) then
        if signal ≠ 0 then modify fun h => h.send n.toNat signal
      else
        c.warn (str "(" ++ Host.decimal n ++ str "): No such process")
        status := 1
  return status

/-! ## Options for scripts -/

namespace Wording

/-- A word in the way in which it is written: in quotation marks, or as it is. -/
def word (quotes : Bool) (s : Str) : Str :=
  if quotes then '\'' :: s.flatMap (fun c => if c = '\'' then str "'\\''" else [c]) ++ ['\''] else s

/-- The names of options with what they take. -/
def longOptions (s : Str) : List Host.LongOption :=
  let words := (Host.splitOn ' ' (s.map fun c => if c = ',' || Host.isSpace c then ' ' else c)).filter (· ≠ [])
  words.zipIdx.map fun (w, i) =>
    let takes : Host.Takes := if (str "::").isSuffixOf w then .maybe
      else if ([':'] : Str).isSuffixOf w then .value else .nothing
    ⟨String.ofList (Host.dropEnd (· = ':') w), takes, Char.ofNat (0x1000 + i)⟩

/-- Options and operands as they come out, up to the last operand, with the complaints. -/
structure Result where
  options : List Str
  operands : List Str
  complaints : List Str

def Result.with (r : Result) (words : List Str) : Result := { r with options := words ++ r.options }

/-- Read words by their options. An operand ends the options, is kept for later, or comes out where it is. -/
def read (table : Host.OptionTable) (stops inPlace quotes : Bool) : Nat → List Str → Result
  | 0, _ => ⟨[], [], []⟩
  | _, [] => ⟨[], [], []⟩
  | fuel + 1, a :: rest =>
    let go := read table stops inPlace quotes fuel
    let bad (complaint : Str) (rest : List Str) : Result :=
      let r := go rest
      { r with complaints := complaint :: r.complaints }
    match a with
    | ['-', '-'] => ⟨[], rest, []⟩
    | '-' :: '-' :: given =>
      let (name, value) := Host.cut '=' given
      match table.named given name with
      | .error complaint => bad complaint rest
      | .ok l =>
        let shown := str "--" ++ l.name.toList
        let dashed := str "option '" ++ shown ++ ['\'']
        match l.takes, value, rest with
        | .nothing, none, _ => (go rest).with [shown]
        | .nothing, some _, _ => bad (dashed ++ str " doesn't allow an argument") rest
        | .maybe, v, _ => (go rest).with [shown, word quotes (v.getD [])]
        | .value, some v, _ => (go rest).with [shown, word quotes v]
        | .value, none, v :: more => (go more).with [shown, word quotes v]
        | .value, none, [] => bad (dashed ++ str " requires an argument") []
    | '-' :: c :: letters =>
      letter table stops inPlace quotes fuel (c :: letters) rest
    | operand =>
      if stops then ⟨[], operand :: rest, []⟩
      else if inPlace then (go rest).with [word quotes operand]
      else
        let r := go rest
        { r with operands := operand :: r.operands }
where
  /-- Read letters written together. -/
  letter (table : Host.OptionTable) (stops inPlace quotes : Bool) (fuel : Nat) : Str → List Str → Result
    | [], rest => read table stops inPlace quotes fuel rest
    | c :: more, rest =>
      match if c = ':' then none else Host.OptionTable.takes? c table.letters.toList with
      | none =>
        let r := letter table stops inPlace quotes fuel more rest
        { r with complaints := (str "invalid option -- '" ++ [c, '\'']) :: r.complaints }
      | some .nothing => (letter table stops inPlace quotes fuel more rest).with [['-', c]]
      | some .maybe => (read table stops inPlace quotes fuel rest).with [['-', c], word quotes more]
      | some .value =>
        if more ≠ [] then (read table stops inPlace quotes fuel rest).with [['-', c], word quotes more]
        else
          match rest with
          | v :: others => (read table stops inPlace quotes fuel others).with [['-', c], word quotes v]
          | [] => ⟨[], [], [str "option requires an argument -- '" ++ [c, '\'']]⟩

end Wording

/-- The command's own long options. -/
private def ownLetters : List Host.LongOption :=
  [⟨"options", .value, 'o'⟩, ⟨"longoptions", .value, 'l'⟩, ⟨"quiet", .nothing, 'q'⟩,
    ⟨"quiet-output", .nothing, 'Q'⟩, ⟨"shell", .value, 's'⟩, ⟨"test", .nothing, 'T'⟩,
    ⟨"unquoted", .nothing, 'u'⟩, ⟨"alternative", .nothing, 'a'⟩, ⟨"name", .value, 'n'⟩]

open Wording in
/-- Write options and operands in the order in which a script reads them. -/
def getopt : Program := fun _ c => do
  let isPlain := !(c.args.head?.any fun a => a.head? = some '-')
  let given : Host.Given ←
    if isPlain then
      match c.args with
      | [] => c.misused 2 (str "missing optstring argument")
      | s :: rest => pure ⟨[('o', some s), ('u', none)], match rest with
          | ['-', '-'] :: more => more
          | more => more⟩
    else c.read 2 "+ao:l:n:qQs:TuhV" ownLetters false
  if given.has 'T' then Act.exit 4
  if given.has 'V' then
    Act.say (str "getopt from util-linux 2.38.1\n")
    Act.exit 0
  let (letters, operands) ← match given.value? 'o', given.operands with
    | some s, operands => pure (s, operands)
    | none, s :: rest => pure (s, rest)
    | none, [] => c.misused 2 (str "missing optstring argument")
  let stops := letters.head? = some '+'
  let inPlace := letters.head? = some '-'
  let table : Host.OptionTable :=
    ⟨String.ofList (if stops || inPlace then letters.tail else letters),
      longOptions (Host.joinWith [','] (given.values 'l')), true⟩
  let quotes := !given.has 'u'
  let r := read table stops inPlace quotes (2 * operands.length + 2) operands
  let name := (given.value? 'n').getD c.name
  if !given.has 'q' then
    for m in r.complaints do
      Act.complain (name ++ str ": " ++ m ++ ['\n'])
  if !given.has 'Q' then
    let words := r.options ++ str "--" :: r.operands.map (word quotes)
    Act.say (words.flatMap (' ' :: ·) ++ ['\n'])
  return if r.complaints.isEmpty then 0 else 1

end StaleBuild.Utility
