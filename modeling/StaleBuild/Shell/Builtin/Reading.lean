import StaleBuild.Shell.Builtin.Basic

/-!
Commands of the shell that read: lines of the input into variables, and options from arguments.
-/

namespace StaleBuild.Shell.Builtin

open Host (Str str)

/-! ## Lines -/

/-- What a line is read with. -/
structure LineReading where
  raw : Bool
  delimiter : Char
  /-- How many characters are read at most. -/
  limit : Option Nat
  /-- The delimiter ends nothing. -/
  exact : Bool

/-- A line at the start of a text: its characters, of which some are literal, how many were taken, and
whether its end was there. -/
def lineWithin (k : LineReading) : Nat → Str → List Glyph → Nat → List Glyph × Nat × Bool
  | 0, _, taken, n => (taken.reverse, n, false)
  | fuel + 1, s, taken, n =>
    if k.limit = some taken.length then (taken.reverse, n, true)
    else match s with
      | [] => (taken.reverse, n, false)
      | '\\' :: rest =>
        if k.raw then lineWithin k fuel rest (⟨'\\', false⟩ :: taken) (n + 1)
        else match rest with
          | '\n' :: rest => lineWithin k fuel rest taken (n + 2)
          | c :: rest => lineWithin k fuel rest (⟨c, true⟩ :: taken) (n + 2)
          | [] => (taken.reverse, n + 1, false)
      | c :: rest =>
        if c = k.delimiter && !k.exact then (taken.reverse, n + 1, true)
        else if c = '\x00' then lineWithin k fuel rest taken (n + 1)
        else lineWithin k fuel rest (⟨c, false⟩ :: taken) (n + 1)

/-- Whether a character separates fields, and whether it is also blank. -/
def separates (ifs : Str) (g : Glyph) : Bool := !g.isLiteral && ifs.contains g.char

def blank (ifs : Str) (g : Glyph) : Bool :=
  separates ifs g && (g.char = ' ' || g.char = '\t' || g.char = '\n')

/-- The text behind a field without what separates it from the next one. -/
def afterField (ifs : Str) (gs : List Glyph) : List Glyph :=
  match gs.dropWhile (blank ifs) with
  | g :: rest => if separates ifs g then rest.dropWhile (blank ifs) else g :: rest
  | [] => []

/-- The texts of a line for so many variables; the last one gets what is left. -/
def fieldsOf (ifs : Str) : Nat → List Glyph → List Str
  | 0, _ => []
  | 1, gs =>
    let gs := gs.dropWhile (blank ifs)
    let field := gs.takeWhile fun g => !separates ifs g
    let rest := gs.drop field.length
    if afterField ifs rest = [] then [field.map Glyph.char]
    else [((gs.reverse.dropWhile (blank ifs)).reverse).map Glyph.char]
  | n + 2, gs =>
    let gs := gs.dropWhile (blank ifs)
    let field := gs.takeWhile fun g => !separates ifs g
    field.map Glyph.char :: fieldsOf ifs (n + 1) (afterField ifs (gs.drop field.length))

/-- All fields of a line. -/
def allFields (ifs : Str) : Nat → List Glyph → List Str
  | 0, _ => []
  | fuel + 1, gs =>
    match gs.dropWhile (blank ifs) with
    | [] => []
    | g :: rest =>
      let field := (g :: rest).takeWhile fun g => !separates ifs g
      field.map Glyph.char :: allFields ifs fuel (afterField ifs ((g :: rest).drop field.length))

/-- What can still be read from a stream; nothing if there is no such stream. -/
def waiting (fd : Nat) : Sh (Option (Nat × Str)) := do
  let h := (← get).host
  match h.descriptor? fd with
  | none => return none
  | some file =>
    match h.remaining file with
    | .ok text => return some (file, text)
    | .error _ => return none

/-- Read a line of the input into variables. -/
def readLine : Builtin := fun _ _ args => do
  let extended ← Sh.isExtended
  read (if extended then "rsea:d:i:n:N:p:t:u:" else "rp:")
    ("read: usage: read [-ers] [-a array] [-d delim] [-i text] [-n nchars] [-N nchars] [-p prompt] " ++
      "[-t timeout] [-u fd] [name ...]") args
    fun os names => do
      let value (c : Char) : Option Str := (os.reverse.find? fun o => o.1 = c).map Prod.snd
      if names.isEmpty && !extended then wrong (str "arg count")
      else match names.find? fun n => !Host.isName (Host.cut '[' n).1 with
        | some bad => do
          refuseName bad
          return 1
        | none => do
          let fd := ((value 'u').bind Host.natural?).getD 0
          match ← waiting fd with
          | none =>
            if extended then
              failing 1 (str "read error: " ++ Host.decimal fd ++ str ": " ++
                Host.reason .badDescriptor)
            else
              for n in names do Sh.assign n []
              return 1
          | some (file, text) => do
            if value 't' = some ['0'] then return 0
            let k : LineReading :=
              ⟨given os 'r', ((value 'd').map fun d => d.head?.getD '\x00').getD '\n',
                ((value 'n').or (value 'N')).bind Host.natural?, (value 'N').isSome⟩
            let (gs, n, isWhole) := lineWithin k (text.length + 1) text [] 0
            Sh.onHost (·.advance file n)
            let ifs := (← get).separators
            match value 'a' with
            | some name =>
              Sh.setValue name (.items ((allFields ifs (gs.length + 1) gs).zipIdx.map
                fun (t, i) => (i, t)))
            | none =>
              if names.isEmpty then Sh.assign (str "REPLY") (gs.map Glyph.char)
              else if k.exact then
                for (n, t) in names.zip (gs.map Glyph.char :: names.map fun _ => []) do
                  Sh.assign n t
              else
                for (n, t) in names.zip (fieldsOf ifs names.length gs) do
                  let (base, inside) := Host.cut '[' n
                  Arithmetic.store base (inside.map List.dropLast) t
            return if isWhole then 0 else 1

/-- Read lines into an array. -/
def readLines : Builtin := fun _ _ args => do
  read "td:n:O:s:u:C:c:" ("mapfile: usage: mapfile [-d delim] [-n count] [-O origin] [-s count] [-t] " ++
      "[-u fd] [-C callback] [-c quantum] [array]") args
    fun os names => do
      let value (c : Char) : Option Str := (os.reverse.find? fun o => o.1 = c).map Prod.snd
      let number (c : Char) : Option Nat := (value c).bind Host.natural?
      match ← waiting ((number 'u').getD 0) with
      | none => return 1
      | some (file, text) => do
        let mark := ((value 'd').map fun d => d.head?.getD '\x00').getD '\n'
        let swap (c : Char) : Char := if c = mark then '\n' else if c = '\n' then mark else c
        let lines := if mark = '\n' then Host.splitLines text
          else (Host.splitLines (text.map swap)).map fun l => l.map swap
        let skipped := (number 's').getD 0
        let count := (number 'n').getD 0
        let kept := if count = 0 then lines else lines.take (skipped + count)
        Sh.onHost (·.advance file kept.flatten.length)
        let items := (kept.drop skipped).map fun l =>
          if given os 't' && l.getLast? = some mark then l.dropLast else l
        let origin := (number 'O').getD 0
        Sh.setValue (names.headD (str "MAPFILE"))
          (.items (items.zipIdx.map fun (t, i) => (i + origin, t)))
        return 0

/-! ## Options -/

/-- What is found of a letter in a list of options: it is there and takes a value, or not. -/
def lookupLetter (c : Char) : Str → Option Bool
  | [] => none
  | d :: ':' :: rest => if c = d then some true else lookupLetter c rest
  | d :: rest => if c = d then some false else lookupLetter c rest

/-- Read the next option of arguments. -/
def nextOption : Builtin := fun _ _ args => do
  let extended ← Sh.isExtended
  match args with
  | letters :: name :: words =>
    let s ← get
    let words := if words.isEmpty then s.args else words
    let silent := letters.head? = some ':'
    let letters := if silent then letters.tail else letters
    let index := max 1 (((s.text? (str "OPTIND")).bind Host.natural?).getD 1)
    -- the rest of the argument that is being read
    let inside : Str := if index ≤ 1 || s.letter = 0 then [] else ((words[index - 2]?).getD []).drop s.letter
    let finish (status index letter : Nat) (c : Char) : Sh Nat := do
      Sh.assign (str "OPTIND") (Host.decimal index)
      Sh.assign name [c]
      modify fun s => { s with letter }
      return status
    let read (c : Char) (rest : Str) (index letter : Nat) : Sh Nat := do
      -- `index` is the number of the argument behind the one that is being read
      let here := if rest = [] then 0 else letter
      match if c = ':' then none else lookupLetter c letters with
      | none => do
        if silent then Sh.assign (str "OPTARG") [c]
        else
          if extended then
            Sh.put 2 (s.name ++ str ": illegal option -- " ++ [c, '\n'])
          else Sh.put 2 (str "Illegal option -" ++ [c, '\n'])
          Sh.unset (str "OPTARG")
        finish 0 index here '?'
      | some false => do
        if extended then Sh.unset (str "OPTARG") else Sh.assign (str "OPTARG") []
        finish 0 index here c
      | some true =>
        if rest ≠ [] then
          Sh.assign (str "OPTARG") rest
          finish 0 index 0 c
        else match words[index - 1]? with
          | some v => do
            Sh.assign (str "OPTARG") v
            finish 0 (index + 1) 0 c
          | none =>
            let index := if extended then index else index
            if silent then
              Sh.assign (str "OPTARG") [c]
              finish 0 index 0 ':'
            else
              if extended then
                Sh.put 2 (s.name ++ str ": option requires an argument -- " ++ [c, '\n'])
              else Sh.put 2 (str "No arg for -" ++ c :: str " option\n")
              Sh.unset (str "OPTARG")
              finish 0 index 0 '?'
    match inside with
    | c :: rest => read c rest index (s.letter + 1)
    | [] =>
      match words[index - 1]? with
      | some ['-', '-'] => do
        if extended then Sh.unset (str "OPTARG")
        finish 1 (index + 1) 0 '?'
      | some ('-' :: c :: rest) => read c rest (index + 1) 2
      | _ => do
        if extended then Sh.unset (str "OPTARG")
        finish 1 index 0 '?'
  | _ =>
    if extended then usage "getopts: usage: getopts optstring name [arg ...]"
    else wrong (str "Usage: getopts optstring var [arg]")

end StaleBuild.Shell.Builtin
