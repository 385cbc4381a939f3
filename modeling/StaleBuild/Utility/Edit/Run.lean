import StaleBuild.Host.Search
import StaleBuild.Utility.Edit.Script
import StaleBuild.Utility.Filing

/-!
Running a script that edits lines: each line of the input is put where the commands find it, they are
followed from the first one on, and at the end the line is written.
-/

namespace StaleBuild.Utility.Edit

open Host (Str str Call Starter)

/-! ## State -/

/-- How far a range has come. -/
inductive RangeState where
  | waiting
  /-- The range goes on, up to a line if that is known. -/
  | running (last : Option Nat)
  | over
deriving DecidableEq

/-- A text that is edited, and whether a line break follows it. -/
structure Space where
  text : Str
  broken : Bool

/-- What is written at the end of a line's turn. -/
inductive Behind where
  | text (s : Str)
  | file (path : Str)

/-- A script that runs. -/
structure Editing where
  call : Call
  start : Starter
  program : Array Command
  silent : Bool
  /-- Each file has its own lines and its own last line. -/
  separate : Bool
  /-- What is put behind the names of files that are changed where they are. -/
  inPlace : Option Str
  mark : Char
  width : Nat
  pending : List Str
  /-- The file that is read, and what is left of it. -/
  source : Str
  rest : Str
  isOpen : Bool
  /-- The file of the line that is edited. -/
  shown : Str
  line : Nat
  pattern : Space
  hold : Space
  replaced : Bool
  behind : List Behind
  latest : Option (Regex.Setting × Regex.Expr)
  ranges : Array RangeState
  /-- What has been written to the file that is changed where it is, the latest first. -/
  changed : List Str
  /-- Whether the last line that was written lacks its line break. -/
  lacks : Bool
  files : List (Str × Nat)
  filesLack : List Str
  /-- What is left of files whose lines are read one by one. -/
  readers : List (Str × Str)
  status : Nat

/-- What is done while a script runs. -/
abbrev Session := StateT Editing Act

/-! ## Output -/

/-- Put a text out. -/
def emit (s : Str) : Session Unit := do
  let e ← get
  if e.inPlace.isSome && e.isOpen then StateT.set { e with changed := s :: e.changed }
  else Act.say s

/-- Put out the line break that the last line lacks. -/
def mend : Session Unit := do
  if (← get).lacks then
    emit [(← get).mark]
    modify fun e => { e with lacks := false }

/-- Write a text with what follows it. -/
def emitSpace (p : Space) : Session Unit := do
  mend
  let mark := (← get).mark
  emit (p.text ++ if p.broken then [mark] else [])
  if !p.broken then modify fun e => { e with lacks := true }

/-- Write to a file that the script names. -/
def emitTo (path : Str) (p : Space) : Session Unit := do
  let e ← get
  if path = str "/dev/stdout" then
    if e.inPlace.isSome then Act.say (p.text ++ if p.broken then [e.mark] else [])
    else emitSpace p
  else
    match e.files.find? fun f => f.1 = path with
    | none => return ()
    | some (_, file) =>
      let lead := if e.filesLack.contains path then [e.mark] else []
      let s := lead ++ p.text ++ if p.broken then [e.mark] else []
      let others := e.filesLack.filter (· ≠ path)
      StateT.set { e with filesLack := if p.broken then others else path :: others }
      if path = str "/dev/stderr" then Act.complain s
      else
        let h ← getThe Host
        match h.writeTo file s with
        | .ok h => modifyThe Host fun _ => h
        | .error _ => return ()

/-- Write what was kept for the end of the line's turn. -/
def emitBehind : Session Unit := do
  let items := (← get).behind
  modify fun e => { e with behind := [] }
  for b in items do
    match b with
    | .text s => do
      mend
      emit s
    | .file path => do
      mend
      match ← Act.readPath path with
      | .ok s => emit s
      | .error _ => return ()

/-! ## Input -/

/-- Put what was written in place of the file that has been read. -/
def finishFile : Session Unit := do
  let e ← get
  match e.inPlace with
  | none => return ()
  | some suffix =>
    if !e.isOpen then return ()
    StateT.set { e with isOpen := false, changed := [], lacks := false }
    let text := e.changed.reverse.flatten
    let tree ← Act.tree
    match tree.find (Host.pathOf e.source) with
    | .error _ => return ()
    | .ok (loc, f) =>
      let now ← Act.now
      let f' : Entry := { f with node := .file (Host.toBytes text), modified := now, shared := none }
      if suffix ≠ [] then
        let name := Host.baseName e.source
        let other := if suffix.contains '*' then suffix.flatMap fun c => if c = '*' then name else [c]
          else name ++ suffix
        let path := if other.contains '/' then other else Host.pathJoin (Host.dirName e.source) other
        match tree.lookupPlace (Host.pathOf path) with
        | .missing dir n => Act.setTree ((((← Act.tree).put (n :: dir) f).put loc f').touch dir now)
        | .found place _ => Act.setTree (((← Act.tree).put place f).put loc f')
        | .failed _ => Act.setTree ((← Act.tree).put loc f')
      else Act.setTree (((← Act.tree).put loc f').touch loc.tail now)

/-- Make sure that there is something to read, opening the files that come; tells whether there is. -/
def load : Nat → Session Bool
  | 0 => return false
  | fuel + 1 => do
    let e ← get
    if e.rest ≠ [] then return true
    match e.pending with
    | [] => return false
    | p :: others => do
      if e.separate then
        finishFile
        modify fun e => { e with line := 0, ranges := e.ranges.map fun _ => .waiting }
      modify fun e => { e with pending := others }
      if e.inPlace.isSome && (← Act.tree).isPresent (Host.pathOf p) &&
          !(← Act.tree).isFile (Host.pathOf p) then
        e.call.warn (str "couldn't edit " ++ p ++ str ": not a regular file")
        modify fun e => { e with status := 4 }
        load fuel
      else
        match ← Call.readOperand p with
        | .ok text => do
          modify fun e => { e with rest := text, source := p, isOpen := true }
          load fuel
        | .error .isADirectory => do
          e.call.warn (str "read error on " ++ p ++ str ": " ++ Host.reason .isADirectory)
          throw (.exited 4)
        | .error cause => do
          e.call.warn (str "can't read " ++ p ++ str ": " ++ Host.reason cause)
          modify fun e => { e with status := 2 }
          load fuel

/-- Whether the line that is edited is the last one. -/
def isLast : Session Bool := do
  let e ← get
  if e.rest ≠ [] then return false
  if e.separate then return true
  return !(← load (e.pending.length + 1))

/-- Whether nothing more can be read at all. -/
def isOver : Session Bool := do
  let e ← get
  if e.rest ≠ [] then return false
  if e.separate then return e.pending = []
  return !(← load (e.pending.length + 1))

/-- Read a line; tells whether there was one. -/
def readLine (joins : Bool) : Session Bool := do
  if !(← load ((← get).pending.length + 1)) then return false
  modify fun e =>
    let line := e.rest.takeWhile (· ≠ e.mark)
    let rest := e.rest.drop line.length
    let text := if joins then e.pattern.text ++ e.mark :: line else line
    { e with
      rest := rest.tail, pattern := ⟨text, rest ≠ []⟩, line := e.line + 1, shown := e.source }
  return true

/-! ## Conditions -/

/-- The expression that is meant; it is the latest one from now on. -/
def resolve (w : Wanted) : Session (Regex.Setting × Regex.Expr) := do
  match w with
  | .expr k x => do
    modify fun e => { e with latest := some (k, x) }
    return (k, x)
  | .latest =>
    match (← get).latest with
    | some x => return x
    | none => do
      (← get).call.warn (str "-e expression #1, char 0: no previous regular expression")
      throw (.exited 1)

/-- Whether a condition holds for the line. -/
def holds (a : Address) : Session Bool := do
  let e ← get
  match a with
  | .line n => return e.line = n
  | .step first size => return first ≤ e.line && (e.line - first) % size = 0
  | .last => isLast
  | .found w => do
    let (k, x) ← resolve w
    return Regex.matches? k x e.pattern.text

/-- The state of a range that starts at the line, and whether it goes beyond. -/
def started (line : Nat) : Finish → RangeState
  | .line n => if n ≤ line then .waiting else .running (some n)
  | .more n => if n = 0 then .waiting else .running (some (line + n))
  | .multiple n => if n = 0 then .waiting else .running (some (line + (n - line % n)))
  | .last => .running none
  | .found _ => .running none

/-- Whether a command is meant for the line. -/
def applies (i : Nat) (k : Command) : Session Bool := do
  let setRange (r : RangeState) : Session Unit := modify fun e => { e with ranges := e.ranges.set! i r }
  let e ← get
  match k.first, k.second with
  | none, _ => return !k.negated
  | some a, none => return (← holds a) != k.negated
  | some a, some f =>
    -- a range from line 0 on has started before the first line
    let state := match a, e.ranges[i]? with
      | .line 0, some .waiting => RangeState.running none
      | _, r => r.getD .waiting
    let starts : Session Bool := do
      match a with
      | .line n =>
        -- the first line may have been passed over
        if e.line < n then return false
        else match f with
          | .line m =>
            setRange (if m ≤ e.line then .over else .running (some m))
            return e.line ≤ m || e.line = n
          | f =>
            let r := started e.line f
            setRange (if r = .waiting then .over else r)
            return true
      | a =>
        if ← holds a then
          setRange (started e.line f)
          return true
        else return false
    let inRange ← match state with
      | .waiting => starts
      | .over =>
        match a with
        | .line _ => pure false
        | _ => starts
      | .running (some n) => do
        if n ≤ e.line then setRange .over
        if e.line ≤ n then pure true else pure false
      | .running none => do
        let ends ← match f with
          | .last => isLast
          | .found w => holds (.found w)
          | _ => pure true
        if ends then setRange .over
        pure true
    return inRange != k.negated

/-! ## Replacements -/

/-- Text that is put in another case: all of it, and its first character. -/
structure Casing where
  all : Option Bool
  once : Option Bool

/-- Put a text in the case that is asked for. -/
def Casing.apply (k : Casing) (s : Str) : Str × Casing :=
  if s = [] then (s, k)
  else
    let put (upper : Option Bool) (t : Str) : Str := match upper with
      | some true => Host.Case.upper t
      | some false => Host.Case.lower t
      | none => t
    match Host.characters s with
    | [] => (s, k)
    | g :: rest =>
      (put (k.once.or k.all) g ++ put k.all rest.flatten, { k with once := none })

/-- A replacement for a match. -/
def filled (ps : List Piece) (whole : Str) (m : Regex.Match) : Str :=
  let step (acc : List Str × Casing) (p : Piece) : List Str × Casing :=
    let (out, k) := acc
    let add (s : Str) : List Str × Casing :=
      let (t, k) := k.apply s
      (t :: out, k)
    match p with
    | .text s => add s
    | .group 0 => add ((whole.drop m.first).take (m.last - m.first))
    | .group n => add ((m.group n).getD [])
    | .casing 'U' => (out, ⟨some true, none⟩)
    | .casing 'L' => (out, ⟨some false, none⟩)
    | .casing 'u' => (out, { k with once := some true })
    | .casing 'l' => (out, { k with once := some false })
    | .casing _ => (out, ⟨none, none⟩)
  (ps.foldl step ([], ⟨none, none⟩)).1.reverse.flatten

/-- A text with matches replaced from a place on, given how many matches there have been and where the
last one ended; the parts come back with whether anything was replaced. -/
def replacedWithin (r : Replacement) (k : Regex.Setting) (x : Regex.Expr) (whole : Str) :
    Nat → Nat → Nat → Option Nat → Str → Option Char → List Str × Bool
  | 0, _, _, _, rest, _ => ([rest], false)
  | fuel + 1, place, count, ended, rest, before =>
    match Regex.searchFrom k x place before rest with
    | none => ([rest], false)
    | some m =>
      let lead := rest.take (m.first - place)
      let found := (rest.drop (m.first - place)).take (m.last - m.first)
      let after := rest.drop (m.last - place)
      let isEmpty : Bool := m.first = m.last
      let nextBefore := if m.last = 0 then none else whole[m.last - 1]?
      -- goes on behind the match, by one character if it is empty
      let goOn (count : Nat) : List Str × Bool :=
        if isEmpty then
          match after with
          | [] => ([], false)
          | _ =>
            let w := Regex.widthOf after
            let (more, did) := replacedWithin r k x whole fuel (m.last + w) count (some m.last)
              (after.drop w) ((after.take w).getLast?)
            (after.take w :: more, did)
        else replacedWithin r k x whole fuel m.last count (some m.last) after nextBefore
      if isEmpty && ended = some m.first && m.first = place then
        let (more, did) := goOn count
        (lead :: more, did)
      else if count + 1 < r.first then
        let (more, did) := goOn (count + 1)
        (lead :: found :: more, did)
      else
        let new := filled r.pieces whole m
        if r.all then
          let (more, _) := goOn (count + 1)
          (lead :: new :: more, true)
        else ([lead, new, after], true)

/-- A text with matches replaced, if any was. -/
def replaced? (r : Replacement) (k : Regex.Setting) (x : Regex.Expr) (s : Str) : Option Str :=
  let (parts, did) := replacedWithin r k x s (s.length + 2) 0 0 none s none
  if did then some parts.flatten else none

/-! ## Commands -/

/-- What comes after a command. -/
inductive Turn where
  | go (next : Nat)
  /-- The end of the line's turn, at which the line may be written. -/
  | done (writes : Bool)
  /-- The end of the line's turn, after which what is left of it has another one. -/
  | again
  | quit (writes : Bool) (status : Nat)

/-- The characters of a text as they are listed, each one by itself. -/
def listed (s : Str) : List Str := s.map fun c =>
  if c = '\\' then str "\\\\"
  else match Host.Quote.escapeLetter? c with
    | some l => ['\\', l]
    | none => if 32 ≤ c.toNat && c.toNat < 127 then [c] else '\\' :: Host.Quote.octal c

/-- Listed characters in lines of a width. -/
def wrapped (width : Nat) (parts : List Str) : Str :=
  let step (acc : List Str × Nat) (p : Str) : List Str × Nat :=
    if 1 < width && width - 1 < acc.2 + p.length then (p :: ['\\', '\n'] :: acc.1, p.length)
    else (p :: acc.1, acc.2 + p.length)
  (parts.foldl step ([], 0)).1.reverse.flatten ++ ['$', '\n']

/-- Run a command of the shell; what it writes comes back. -/
def runShell (command : Str) : Session Str := do
  let e ← get
  let h ← getThe Host
  let (n, file, h) := h.openCollector
  modifyThe Host fun _ => h
  let ending : Act (Except FileError ExitState) := do
    let before := (← getThe Host).process.descriptors
    modifyThe Host fun h => h.withDescriptor 1 (some file)
    let r ← e.start (str "/bin/sh") [str "sh", str "-c", command]
    modifyThe Host fun h => { h with process := { h.process with descriptors := before } }
    return r
  let _ ← ending
  return (← getThe Host).collected n

/-- Follow one command that is meant for the line. -/
def follow (i : Nat) (k : Command) : Session Turn := do
  let e ← get
  let go : Turn := .go (i + 1)
  match k.deed with
  | .block _ => return go
  | .finish => return go
  | .label => return go
  | .jump n => return .go n
  | .jumpIf wanted n => do
    modify fun e => { e with replaced := false }
    return .go (if e.replaced = wanted then n else i + 1)
  | .append t => do
    modify fun e => { e with behind := e.behind ++ [.text t] }
    return go
  | .insert t => do
    mend
    emit t
    return go
  | .change t => do
    let isRunning := k.second.isSome && !k.negated && match e.ranges[i]? with
      | some (.running _) => true
      | _ => false
    if !isRunning then
      mend
      emit t
    return .done false
  | .replace r => do
    let (setting, x) ← resolve r.wanted
    match replaced? r setting x e.pattern.text with
    | none => return go
    | some t => do
      let t ← if r.runs then (do
          let out ← runShell t
          pure (Host.chomp out)) else pure t
      modify fun e => { e with pattern := { e.pattern with text := t }, replaced := true }
      let p := (← get).pattern
      if r.prints then emitSpace p
      match r.file with
      | some path => emitTo path p
      | none => pure ()
      return go
  | .exchange pairs => do
    let t := (Host.characters e.pattern.text).flatMap fun g =>
      ((pairs.find? fun p => p.1 = g).map Prod.snd).getD g
    modify fun e => { e with pattern := { e.pattern with text := t } }
    return go
  | .quit writes status => return .quit writes status
  | .list width => do
    mend
    emit (wrapped (width.getD e.width) (listed e.pattern.text))
    return go
  | .readFile path => do
    modify fun e => { e with behind := e.behind ++ [.file path] }
    return go
  | .readLine path => do
    let text ← match e.readers.find? fun r => r.1 = path with
      | some (_, t) => pure t
      | none => do
        match ← Act.readPath path with
        | .ok t => pure t
        | .error _ => pure []
    match Host.splitLines text with
    | [] => return go
    | line :: rest => do
      let others := e.readers.filter fun r => r.1 ≠ path
      modify fun e => { e with
        readers := (path, rest.flatten) :: others
        behind := e.behind ++ [.text line] }
      return go
  | .write firstLine path => do
    let t := e.pattern.text
    emitTo path (if firstLine then ⟨t.takeWhile (· ≠ '\n'), true⟩ else e.pattern)
    return go
  | .run command =>
    if command = [] then do
      let out ← runShell e.pattern.text
      modify fun e => { e with pattern := { e.pattern with text := Host.chomp out } }
      return go
    else do
      let out ← runShell command
      mend
      emit out
      return go
  | .plain letter =>
    match letter with
    | '=' => do
      mend
      emit (Host.decimal e.line ++ ['\n'])
      return go
    | 'd' => return .done false
    | 'D' =>
      match Host.cut '\n' e.pattern.text with
      | (_, none) => return .done false
      | (_, some rest) => do
        modify fun e => { e with pattern := { e.pattern with text := rest } }
        return .again
    | 'F' => do
      mend
      emit (e.shown ++ ['\n'])
      return go
    | 'g' => do
      modify fun e => { e with pattern := { e.pattern with text := e.hold.text } }
      return go
    | 'G' => do
      modify fun e => { e with
        pattern := { e.pattern with text := e.pattern.text ++ e.mark :: e.hold.text } }
      return go
    | 'h' => do
      modify fun e => { e with hold := { e.hold with text := e.pattern.text } }
      return go
    | 'H' => do
      modify fun e => { e with hold := { e.hold with text := e.hold.text ++ e.mark :: e.pattern.text } }
      return go
    | 'n' => do
      if ← isOver then return .quit true (← get).status
      if !e.silent then emitSpace (← get).pattern
      emitBehind
      if ← readLine false then return go else return .quit false (← get).status
    | 'N' => do
      if ← isOver then return .quit true (← get).status
      emitBehind
      if ← readLine true then return go else return .quit true (← get).status
    | 'p' => do
      emitSpace e.pattern
      return go
    | 'P' => do
      emitSpace ⟨e.pattern.text.takeWhile (· ≠ e.mark), true⟩
      return go
    | 'x' => do
      modify fun e => { e with pattern := e.hold, hold := e.pattern }
      return go
    | 'z' => do
      modify fun e => { e with pattern := { e.pattern with text := [] } }
      return go
    | _ => return go

/-- Follow the commands from one on. -/
def run : Nat → Nat → Session Turn
  | 0, _ => return .done true
  | fuel + 1, i => do
    match (← get).program[i]? with
    | none => return .done true
    | some k =>
      if ← applies i k then
        match ← follow i k with
        | .go j => run fuel j
        | turn => return turn
      else
        match k.deed with
        | .block past => run fuel (past + 1)
        | _ => run fuel (i + 1)

/-- How many commands may be followed in a line's turn. -/
def turnLimit : Nat := 10000000

/-- Edit the lines, one after the other; the status comes back. -/
def lines : Nat → Bool → Session Nat
  | 0, _ => return (← get).status
  | fuel + 1, reads => do
    let there ← if reads then readLine false else pure true
    if !there then return (← get).status
    match ← run turnLimit 0 with
    | .go _ => lines fuel true
    | .done writes => do
      if writes && !(← get).silent then emitSpace (← get).pattern
      emitBehind
      lines fuel true
    | .again => do
      emitBehind
      lines fuel false
    | .quit writes status => do
      if writes && !(← get).silent then emitSpace (← get).pattern
      if writes then emitBehind
      let failed := (← get).status
      return if failed = 0 then status else failed

/-- Edit all the lines; the status comes back. -/
def all : Session Nat := do
  let status ← lines 1000000000 true
  finishFile
  return status

end StaleBuild.Utility.Edit
