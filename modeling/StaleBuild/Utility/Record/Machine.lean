import StaleBuild.Host.Search
import StaleBuild.Utility.Record.Reader
import StaleBuild.Utility.Record.Table
import StaleBuild.Utility.Record.Value

/-!
What a program that goes through records works on: variables and tables, the record with its fields, the
input, and what is written to. A record is split when a field is asked for, and put together again when it is
asked for after a field has changed.
-/

namespace StaleBuild.Utility.Record

open Host (Str str Call Starter)

/-! ## State -/

/-- What a name stands for. -/
inductive Cell where
  | value (v : Value)
  | array (id : Nat)

/-- What is written to. -/
inductive Sink where
  | output
  | errors
  | file (n : Nat)
  /-- A command that is run at the end, with the texts for it, the latest first. -/
  | command (texts : List Str)

/-- Where a name of a file or a command leads. -/
structure Channel (α : Type) where
  isCommand : Bool
  name : Str
  state : α

/-- A program that goes through records. -/
structure Machine where
  call : Call
  start : Starter
  functions : Std.HashMap String Function
  globals : Std.HashMap String Cell
  /-- The parameters of the function that is running. -/
  locals : List (String × Cell)
  /-- How many parameters wait for functions to end. -/
  depth : Nat
  arrays : Array (Table Value)
  record : Str
  /-- The record is what its fields make. -/
  isJoined : Bool
  fields : Array Value
  /-- The fields are those of the record. -/
  isSplit : Bool
  /-- The next operand, and what is left of the one that is read. -/
  operand : Nat
  input : Option Str
  hasRead : Bool
  sources : List (Channel Str)
  /-- What is written to, the latest used first. -/
  sinks : List (Channel Sink)
  /-- The rules whose range is going on. -/
  ranges : List Nat
  status : Nat
  /-- Patterns that have been made of texts. -/
  patterns : Std.HashMap String Regex.Expr
  /-- The last numbers of the sequence by chance, the latest last, and what it was started with. -/
  chance : Array UInt32
  seed : Value

/-- Where a program goes on elsewhere. -/
inductive Jump where
  | next
  | nextFile
  | exit

abbrev Run := ExceptT Jump (StateT Machine Act)

/-- Do something to the host. -/
def onHost {α : Type} (a : Act α) : Run α := (liftM (m := Act) (n := StateT Machine Act) a : StateT Machine Act α)

/-- More steps than a program takes. -/
def plenty : Nat := 1000000000000000000

/-- How many parameters can wait for functions to end. -/
def deepest : Nat := 1004

/-- The name in which the program complains. -/
def Machine.name (m : Machine) : Str := Host.baseName m.call.name

/-! ## Variables -/

/-- What a name stands for. -/
def cell (name : String) : Run Cell := do
  let m ← get
  match m.locals.find? fun l => l.1 = name with
  | some (_, c) => return c
  | none => return m.globals.getD name (.value .unset)

/-- Let a name stand for something else. -/
def setCell (name : String) (c : Cell) : Run Unit := modify fun m =>
  if m.locals.any fun l => l.1 = name then
    { m with locals := m.locals.map fun l => if l.1 = name then (name, c) else l }
  else { m with globals := m.globals.insert name c }

/-- A new table. -/
def newArray : Run Nat := do
  let m ← get
  set { m with arrays := m.arrays.push .empty }
  return m.arrays.size

/-- The table of a name, which is made if it has none. -/
def arrayOf (name : String) : Run Nat := do
  match ← cell name with
  | .array id => return id
  | .value _ => do
    let id ← newArray
    setCell name (.array id)
    return id

/-- The value of a variable that has no rules of its own. -/
def plain (name : String) : Run Value := do
  match ← cell name with
  | .value v => return v
  | .array _ => return .unset

/-- The text of a value. -/
def textOf (v : Value) : Run Str := do
  match v with
  | .number _ => do
    match ← plain "CONVFMT" with
    | .number _ => return v.shown (str "%.6g")
    | f => return v.shown (f.shown [])
  | v => return v.shown []

/-- The text of a variable. -/
def plainText (name : String) : Run Str := do textOf (← plain name)

/-- End the program because of a fault while it runs. -/
def fault {α : Type} (words : Str) : Run α := do
  let file ← plainText "FILENAME"
  let here ← plainText "FNR"
  let all ← plainText "NR"
  let m ← get
  onHost do
    Act.complain (m.name ++ str ": run time error: " ++ words ++ str "\n\tFILENAME=\"" ++ file ++
      str "\" FNR=" ++ here ++ str " NR=" ++ all ++ ['\n'])
    Act.exit 2

/-- End the program because something outside of it fails. -/
def give {α : Type} (words : Str) : Run α := do
  let m ← get
  onHost do
    Act.complain (m.name ++ str ": " ++ words ++ ['\n'])
    Act.exit 2

/-! ## Patterns -/

/-- How patterns are matched. -/
def setting : Regex.Setting := ⟨false, false⟩

/-- The pattern that a text spells. -/
def patternOf (s : Str) : Run Regex.Expr := do
  let key := String.ofList s
  match (← get).patterns[key]? with
  | some e => return e
  | none =>
    match regexOf s with
    | .ok e => do
      modify fun m => { m with patterns := m.patterns.insert key e }
      return e
    | .error words => give (str "line 0: " ++ words)

/-- What separates parts of a text. -/
inductive Separator where
  | blanks
  /-- Nothing, so that each character is a part. -/
  | nothing
  | character (c : Char)
  | pattern (e : Regex.Expr)

/-- The separator that a text spells. -/
def separatorOf : Str → Run Separator
  | [] => return .nothing
  | [' '] => return .blanks
  | [c] => return .character c
  | s => return .pattern (← patternOf s)

/-- The parts of a text between matches that are not empty. -/
def partsBy (e : Regex.Expr) : Nat → Nat → Option Char → Str → Str → List Str
  | 0, _, _, part, _ => [part.reverse]
  | fuel + 1, index, before, part, rest =>
    match Regex.searchFrom setting e index before rest with
    | none => [part.reverse ++ rest]
    | some m =>
      let front := rest.take (m.first - index)
      let behind := rest.drop (m.first - index)
      if m.first = m.last then
        match behind with
        | [] => [part.reverse ++ rest]
        | c :: more => partsBy e fuel (m.first + 1) (some c) (c :: (front.reverse ++ part)) more
      else
        let found := behind.take (m.last - m.first)
        (part.reverse ++ front) :: partsBy e fuel m.last found.getLast? [] (behind.drop found.length)

/-- The parts of a text. -/
def Separator.parts (p : Separator) (s : Str) : List Str :=
  match p with
  | .blanks =>
    (Host.splitOn ' ' (s.map fun c => if c = '\t' || c = '\n' then ' ' else c)).filter (· ≠ [])
  | .nothing => s.map fun c => [c]
  | .character c => if s = [] then [] else Host.splitOn c s
  | .pattern e => if s = [] then [] else partsBy e (s.length + 1) 0 none [] s

/-! ## The record -/

/-- A count as a value. -/
def count (n : Nat) : Value := .number (Float.ofNat n)

/-- Split the record, unless that has been done. -/
def splitRecord : Run Unit := do
  let m ← get
  if !m.isSplit then
    let separator ← separatorOf (← plainText "FS")
    let parts := (separator.parts m.record).map Value.given
    modify fun m => { m with
      fields := parts.toArray, isSplit := true
      globals := m.globals.insert "NF" (.value (count parts.length)) }

/-- Put the record together, unless that has been done. -/
def joinRecord : Run Unit := do
  let m ← get
  if !m.isJoined then
    let separator ← plainText "OFS"
    let parts ← m.fields.toList.mapM textOf
    modify fun m => { m with record := Host.joinWith separator parts, isJoined := true }

/-- The record. -/
def record : Run Str := do
  joinRecord
  return (← get).record

/-- Take another record. -/
def setRecord (s : Str) : Run Unit :=
  modify fun m => { m with record := s, isJoined := true, isSplit := false, fields := #[] }

/-- Give the record another number of fields. -/
def resize (n : Nat) : Run Unit := do
  splitRecord
  modify fun m => { m with
    fields := (m.fields.extract 0 n) ++ (List.replicate (n - m.fields.size) Value.unset).toArray
    isJoined := false
    globals := m.globals.insert "NF" (.value (count n)) }

/-- The field of a number; the record has number zero. -/
def field (n : Int) : Run Value := do
  if n = 0 then return .given (← record)
  else if n < 0 then fault (str "negative field index $" ++ Host.decimal n)
  else
    splitRecord
    return (← get).fields.getD (n.toNat - 1) .unset

/-- Change the field of a number. -/
def setField (n : Int) (v : Value) : Run Unit := do
  if n = 0 then setRecord (← textOf v)
  else if n < 0 then fault (str "negative field index $" ++ Host.decimal n)
  else
    splitRecord
    let k := n.toNat
    if (← get).fields.size < k then resize k
    modify fun m => { m with fields := m.fields.setIfInBounds (k - 1) v, isJoined := false }

/-- The value of a variable. -/
def valueOf (name : String) : Run Value := do
  if name = "NF" then splitRecord
  plain name

/-- Change a variable. -/
def setVariable (name : String) (v : Value) : Run Unit := do
  if name = "NF" then resize (Value.clipped v.toNumber).toNat
  else
    -- the record is split by the separator that it was read under
    if name = "FS" then splitRecord
    setCell name (.value v)

/-! ## Tables -/

/-- The key that subscripts make, and the whole number that it is. -/
def keyOf (vs : List Value) : Run (String × Option Int) := do
  match vs with
  | [.number x] => do
    match Value.whole? x with
    | some n => return (String.ofList (Host.decimal n), some n)
    | none => return (String.ofList (← textOf (.number x)), none)
  | [v] => return (String.ofList (← textOf v), none)
  | vs => do
    let texts ← vs.mapM textOf
    return (String.ofList (Host.joinWith (← plainText "SUBSEP") texts), none)

/-- Change a table. -/
def onTable (id : Nat) (f : Table Value → Table Value) : Run Unit :=
  modify fun m => { m with arrays := m.arrays.modify id f }

/-- Use a key, which is made if it is missing. -/
def useKey (id : Nat) (key : String × Option Int) : Run Unit :=
  onTable id fun t => match key.2 with
    | some n => t.useNumber key.1 n (some .unset)
    | none => t.useText key.1 (some .unset)

/-- The value for a key. -/
def element (id : Nat) (key : String × Option Int) : Run Value := do
  useKey id key
  return (((← get).arrays[id]?).bind fun t => t.get? key.1).getD .unset

/-- Change the value for a key. -/
def setElement (id : Nat) (key : String × Option Int) (v : Value) : Run Unit := do
  useKey id key
  onTable id fun t => t.set key.1 v

/-- Fill a table with values by their numbers from one on. -/
def fillArray (id : Nat) (vs : List Value) : Run Unit := do
  onTable id fun _ => .empty
  for (v, i) in vs.zipIdx do
    let n : Int := (i : Nat) + 1
    setElement id (String.ofList (Host.decimal n), some n) v

/-! ## Commands -/

/-- Run a command of the shell, with a text to read if there is one; its output comes back if it is caught. -/
def runShell (command : Str) (input : Option Str) (catches : Bool) : Run (Nat × Str) := do
  let m ← get
  onHost do
    let _ ← Act.flush
    let before := (← get).process.descriptors
    let (n, file, h) := (← get).openCollector
    set h
    modify fun h =>
      let h := if catches then h.withDescriptor 1 (some file) else h
      match input with
      | some s =>
        let (k, h) := h.openNew ⟨.text s, 0, false, true, false⟩
        h.withDescriptor 0 (some k)
      | none => h
    let r ← m.start (str "/bin/sh") [str "sh", str "-c", command]
    modify fun h => { h with process := { h.process with descriptors := before } }
    let status := match r with
      | .ok (.exited k) => k % 256
      | .ok (.killed k) => 256 + k
      | .error _ => 127
    return (status, (← get).collected n)

/-! ## Input -/

/-- The first record of a text by the text that separates records, and what follows it. -/
def recordAt (mark : Str) (s : Str) : Run (Option (Str × Str)) := do
  match mark with
  | [] =>
    let s := s.dropWhile (· = '\n')
    if s = [] then return none
    else return some (paragraph s.length [] s)
  | [c] => return if s = [] then none else some (upTo c s)
  | mark => do
    if s = [] then return none
    let e ← patternOf mark
    match firstMatch e (s.length + 1) 0 none s with
    | none => return some (s, [])
    | some (first, last) => return some (s.take first, s.drop last)
where
  /-- The text in front of a character, and what follows that. -/
  upTo (c : Char) (s : Str) : Str × Str :=
    let t := s.takeWhile (· ≠ c)
    (t, s.drop (t.length + 1))
  /-- The text in front of an empty line, and what follows empty lines. -/
  paragraph : Nat → Str → Str → Str × Str
    | 0, out, s => (out.reverse, s)
    | _, out, [] => (out.reverse, [])
    | _, out, ['\n'] => (out.reverse, [])
    | _, out, '\n' :: '\n' :: rest => (out.reverse, rest.dropWhile (· = '\n'))
    | fuel + 1, out, c :: rest => paragraph fuel (c :: out) rest
  /-- The first match that is not empty. -/
  firstMatch (e : Regex.Expr) : Nat → Nat → Option Char → Str → Option (Nat × Nat)
    | 0, _, _, _ => none
    | fuel + 1, index, before, s =>
      match Regex.searchFrom setting e index before s with
      | none => none
      | some m =>
        if m.first < m.last then some (m.first, m.last)
        else
          match s.drop (m.first - index) with
          | [] => none
          | c :: rest => firstMatch e fuel (m.first + 1) (some c) rest

/-- What an operand assigns, if it does. -/
def assignment? (s : Str) : Option (String × Str) :=
  match Host.cut '=' s with
  | (name, some value) => if Host.isName name then some (String.ofList name, value) else none
  | _ => none

/-- Start to read a file, or the input of the program. -/
def openInput (path : Str) : Run Unit := do
  let contents ← onHost do
    if path = ['-'] || path = str "/dev/stdin" then Act.readFd 0 else Act.readPath path
  match contents with
  | .ok s => do
    modify fun m => { m with input := some s, hasRead := true }
    setCell "FILENAME" (.value (.text path))
    setCell "FNR" (.value (.number 0))
  | .error .isADirectory => give (str "read error (Is a directory)")
  | .error cause => give (str "cannot open " ++ path ++ str " (" ++ Host.reason cause ++ str ")")

/-- Go on to the next operand that is to be read; whether there is one. -/
def openNext : Nat → Run Bool
  | 0 => return false
  | fuel + 1 => do
    let i := (← get).operand
    let most := Value.clipped (← plain "ARGC").toNumber
    if (i : Int) < most then
      modify fun m => { m with operand := i + 1 }
      let id ← arrayOf "ARGV"
      let v := (((← get).arrays[id]?).bind fun t => t.get? (toString i)).getD .unset
      match ← textOf v with
      | [] => openNext fuel
      | s =>
        match assignment? s with
        | some (name, value) => do
          setVariable name (.given (unescaped value))
          openNext fuel
        | none => do
          openInput s
          return true
    else if (← get).hasRead then return false
    else
      openInput ['-']
      return true

/-- Count a variable up. -/
def countUp (name : String) : Run Unit := do
  setCell name (.value (.number ((← plain name).toNumber + 1)))

/-- The next record of the input. -/
def nextRecord : Nat → Run (Option Str)
  | 0 => return none
  | fuel + 1 => do
    match (← get).input with
    | none => do
      let room := (Value.clipped (← plain "ARGC").toNumber).toNat + 2
      if ← openNext room then nextRecord fuel else return none
    | some s => do
      match ← recordAt (← plainText "RS") s with
      | some (r, rest) => do
        modify fun m => { m with input := some rest }
        countUp "NR"
        countUp "FNR"
        return some r
      | none => do
        modify fun m => { m with input := none }
        nextRecord fuel

/-- A list with the element in front that something holds for, and that element. -/
def toFront {α : Type} (p : α → Bool) (xs : List α) : Option (α × List α) :=
  match xs.find? p with
  | some x => some (x, x :: xs.filter fun y => !p y)
  | none => none

/-- The next record of a file or of the output of a command. The outer nothing says that there is no such
file. -/
def recordFrom (isCommand : Bool) (name : Str) : Run (Option (Option Str)) := do
  let isThis (c : Channel Str) : Bool := c.isCommand = isCommand && c.name = name
  let m ← get
  let opened : Option Str ← match m.sources.find? isThis with
    | some c => pure (some c.state)
    | none =>
      if isCommand then do
        let (_, s) ← runShell name none true
        pure (some s)
      else do
        let contents ← onHost do
          if name = ['-'] || name = str "/dev/stdin" then Act.readFd 0 else Act.readPath name
        match contents with
        | .ok s => pure (some s)
        | .error _ => pure none
  match opened with
  | none => return none
  | some s => do
    let keep (rest : Str) : Run Unit := modify fun m => { m with
      sources := ⟨isCommand, name, rest⟩ :: m.sources.filter fun c => !isThis c }
    match ← recordAt (← plainText "RS") s with
    | some (r, rest) => do
      keep rest
      return some (some r)
    | none => do
      keep []
      return some none

/-! ## Output -/

/-- Whether a channel of a kind has a name. -/
def Channel.is {α : Type} (isCommand : Bool) (name : Str) (c : Channel α) : Bool :=
  c.isCommand = isCommand && c.name = name

/-- Write a text to a file or to a command. -/
def deliverTo (isCommand appends : Bool) (name text : Str) : Run Unit := do
  let m ← get
  let opened : Channel Sink × List (Channel Sink) ← match toFront (Channel.is isCommand name) m.sinks with
    | some x => pure x
    | none => do
      let sink : Sink ←
        if isCommand then do
          let _ ← onHost Act.flush
          pure (.command [])
        else if name = str "/dev/stdout" then pure .output
        else if name = str "/dev/stderr" then pure .errors
        else do
          match ← onHost (Act.openPath name (if appends then .append else .write)) with
          | .ok n => pure (.file n)
          | .error cause =>
            give (str "cannot open \"" ++ name ++ str "\" for output (" ++ Host.reason cause ++ str ")")
      let c : Channel Sink := ⟨isCommand, name, sink⟩
      pure (c, c :: m.sinks)
  let (c, sinks) := opened
  match c.state with
  | .output => onHost (Act.say text)
  | .errors => onHost (Act.complain text)
  | .file n => onHost do
    match (← get).writeTo n text with
    | .ok h => set h
    | .error _ => pure ()
  | .command _ => pure ()
  let state : Sink := match c.state with
    | .command texts => .command (text :: texts)
    | s => s
  modify fun m => { m with sinks := { c with state } :: sinks.drop 1 }

/-- Stop writing to something; the status of a command. -/
def finish (c : Channel Sink) : Run Nat := do
  match c.state with
  | .command texts => do
    let (status, _) ← runLast c.name texts.reverse.flatten
    return status
  | _ => return 0
where
  /-- Run a command for what was written to it; what the program holds back stays where it is. -/
  runLast (command text : Str) : Run (Nat × Str) := do
    let held := (← onHost (get : Act Host)).process.held
    onHost (modify fun h => { h with process := { h.process with held := held.map fun _ => [] } })
    let r ← runShell command (some text) false
    onHost (modify fun h => { h with process := { h.process with held } })
    return r

/-- Stop writing to what is written to and reading what is read under a name. -/
def close (name : Str) : Run Int := do
  let m ← get
  match m.sinks.find? fun c => c.name = name, m.sources.find? fun c => c.name = name with
  | some c, _ => do
    modify fun m => { m with sinks := m.sinks.filter fun d => d.name ≠ name }
    return (← finish c : Nat)
  | none, some _ => do
    modify fun m => { m with sources := m.sources.filter fun d => d.name ≠ name }
    return 0
  | none, none => return -1

/-- Stop writing to everything. -/
def closeAll : Run Unit := do
  for c in (← get).sinks do
    let _ ← finish c
  modify fun m => { m with sinks := [] }

/-! ## Chance -/

/-- The numbers that a sequence by chance starts from. -/
def chanceFrom (seed : UInt32) : Array UInt32 :=
  let seed := if seed = 0 then 1 else seed
  let first := (List.range 30).foldl (fun (r : Array UInt32) _ =>
    let last : Int := (r.back?.getD 1).toInt32.toInt
    let word := Int.tmod (16807 * last) 2147483647
    r.push (UInt32.ofNat (if word < 0 then word + 2147483647 else word).toNat)) #[seed]
  let all := (List.range 3).foldl (fun r i => r.push (r.getD i 0)) first
  (List.range 310).foldl (fun r _ => following r) (all.extract 3 34)
where
  /-- The last numbers one step further on. -/
  following (r : Array UInt32) : Array UInt32 := (r.extract 1 31).push (r.getD 0 0 + r.getD 28 0)

/-- The next number by chance, from zero up to one. -/
def byChance : Run Float := do
  let r := chanceFrom.following (← get).chance
  modify fun m => { m with chance := r }
  return Float.ofNat ((r.back?.getD 0) >>> 1).toNat / 2147483647

end StaleBuild.Utility.Record
