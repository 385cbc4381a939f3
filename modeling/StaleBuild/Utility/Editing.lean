import StaleBuild.Utility.Edit.Run

/-!
The utility `sed`, which edits lines by a script.
-/

namespace StaleBuild.Utility

open Host (Str str Call Program Given)

namespace Edit

/-- The address of a page about the program. -/
def page (place : String) : Str := str ("<https:" ++ "//www.gnu.org/" ++ place ++ "/>")

/-- The explanation behind a wrong call. -/
def usage (c : Call) : Str :=
  str "Usage: " ++ c.name ++ str
    " [OPTION]... \x7bscript-only-if-no-other-script\x7d [input-file]...

  -n, --quiet, --silent
                 suppress automatic printing of pattern space
      --debug
                 annotate program execution
  -e script, --expression=script
                 add the script to the commands to be executed
  -f script-file, --file=script-file
                 add the contents of script-file to the commands to be executed
  --follow-symlinks
                 follow symlinks when processing in place
  -i[SUFFIX], --in-place[=SUFFIX]
                 edit files in place (makes backup if SUFFIX supplied)
  -l N, --line-length=N
                 specify the desired line-wrap length for the `l' command
  --posix
                 disable all GNU extensions.
  -E, -r, --regexp-extended
                 use extended regular expressions in the script
                 (for portability use POSIX -E).
  -s, --separate
                 consider files as separate rather than as a single,
                 continuous long stream.
      --sandbox
                 operate in sandbox mode (disable e/r/w commands).
  -u, --unbuffered
                 load minimal amounts of data from the input files and flush
                 the output buffers more often
  -z, --null-data
                 separate lines by NUL characters
      --help     display this help and exit
      --version  output version information and exit

If no -e, --expression, -f, or --file option is given, then the first
non-option argument is taken as the sed script to interpret.  All
remaining arguments are names of input files; if no input files are
specified, then the standard input is read.

GNU sed home page: " ++ page "software/sed" ++ str ".
General help using GNU software: " ++ page "gethelp" ++ str ".
"

/-- The options. -/
def options : Host.OptionTable :=
  ⟨"bsnrzuEe:f:l:i::V:hs",
    [⟨"binary", .nothing, 'b'⟩, ⟨"regexp-extended", .nothing, 'E'⟩, ⟨"debug", .nothing, '\x03'⟩,
      ⟨"in-place", .maybe, 'i'⟩, ⟨"expression", .value, 'e'⟩, ⟨"file", .value, 'f'⟩,
      ⟨"line-length", .value, 'l'⟩, ⟨"null-data", .nothing, 'z'⟩, ⟨"zero-terminated", .nothing, 'z'⟩,
      ⟨"quiet", .nothing, 'n'⟩, ⟨"posix", .nothing, 'p'⟩, ⟨"silent", .nothing, 'n'⟩,
      ⟨"sandbox", .nothing, '\x04'⟩, ⟨"separate", .nothing, 's'⟩, ⟨"unbuffered", .nothing, 'u'⟩,
      ⟨"follow-symlinks", .nothing, 'F'⟩, ⟨"help", .nothing, 'h'⟩,
      ⟨"version", .nothing, Call.versionLetter⟩], true⟩

/-- A part of a script: its text, and its file if it comes from one. -/
structure Part where
  text : Str
  file : Option Str

/-- Read the parts of a script; the number of those given as operands goes on. -/
def readParts (c : Call) : Nat → Bool → Source → List Part → Act Source
  | _, _, s, [] => return s
  | n, isFirst, s, p :: rest => do
    let n := if p.file.isNone then n + 1 else n
    match part s p.text isFirst with
    | .ok s => readParts c n false s rest
    | .error x =>
      match p.file with
      | some f => c.die 1 (str "file " ++ f ++ str " line " ++ Host.decimal x.line ++ str ": " ++ x.words)
      | none =>
        c.die 1 (str "-e expression #" ++ Host.decimal n ++ str ", char " ++
          Host.decimal (x.place.getD 0) ++ str ": " ++ x.words)

/-- The files that a script writes to. -/
def writtenFiles (program : List Command) : List Str :=
  (program.filterMap fun k => match k.deed with
    | .write _ path => some path
    | .replace r => r.file
    | _ => none).eraseDups.filter (· ≠ str "/dev/stdout")

end Edit

open Edit in
/-- Edit lines by a script. -/
def sed : Program := fun start c => do
  let complain {α : Type} : Act α := do
    Act.complain (usage c)
    Act.exit 1
  match options.read c.args with
  | .error complaint =>
    c.warn complaint
    complain
  | .ok g =>
    let has := g.has
    if has 'h' then
      Act.say (usage c)
      Act.exit 0
    if has Call.versionLetter then
      Act.say (c.name ++ str " (GNU sed) 4.9\n")
      Act.exit 0
    -- the script
    let mut parts : List Part := []
    for (o, v) in g.options do
      if o = 'e' then parts := parts ++ [⟨v.getD [], none⟩]
      else if o = 'f' then
        match ← Call.readOperand (v.getD []) with
        | .ok text => parts := parts ++ [⟨text, some (v.getD [])⟩]
        | .error cause =>
          c.die 4 (str (if cause = .isADirectory then "read error on " else "couldn't open file ") ++
            v.getD [] ++ str ": " ++ Host.reason cause)
    let mut operands := g.operands
    if parts = [] then
      match operands with
      | [] => complain
      | p :: rest =>
        parts := [⟨p, none⟩]
        operands := rest
    let extended := has 'E' || has 'r'
    let source ← readParts c 0 true (emptySource extended) parts
    match finished source with
    | .error x =>
      match x.place with
      | some _ =>
        let n := (parts.filter fun p => p.file.isNone).length
        match parts.getLast?.bind Part.file with
        | some f => c.die 1 (str "file " ++ f ++ str " line 0: " ++ x.words)
        | none => c.die 1 (str "-e expression #" ++ Host.decimal n ++ str ", char 0: " ++ x.words)
      | none => c.die 4 x.words
    | .ok program =>
      let mut files : List (Str × Nat) := []
      for path in writtenFiles program do
        match ← Act.openPath path .write with
        | .ok file => files := (path, file) :: files
        | .error cause =>
          c.die 4 (str "couldn't open file " ++ path ++ str ": " ++ Host.reason cause)
      let inPlace := if has 'i' then some ((g.value? 'i').getD []) else none
      let width := match (g.value? 'l').bind Host.natural? with
        | some n => n
        | none => 70
      let e : Editing :=
        { call := c
          start
          program := program.toArray
          silent := has 'n' || source.silent
          separate := has 's' || has 'i'
          inPlace
          mark := if has 'z' then '\x00' else '\n'
          width
          pending := Call.orInput operands
          source := ['-']
          rest := []
          isOpen := false
          shown := ['-']
          line := 0
          pattern := ⟨[], true⟩
          hold := ⟨[], true⟩
          replaced := false
          behind := []
          latest := none
          ranges := (program.map fun _ => RangeState.waiting).toArray
          changed := []
          lacks := false
          files
          filesLack := []
          readers := []
          status := 0 }
      let (status, _) ← Edit.all.run e
      return status

end StaleBuild.Utility
