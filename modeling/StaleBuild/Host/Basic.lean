import StaleBuild.Files.Change
import StaleBuild.Host.Text

/-!
A host on which programs run one at a time: its files, its clock, the files that are open, and the
process that is running. A program is an `Act`, which changes the host and ends with a value, or
ends the process at once.

Open files are numbered and shared: a process and those it starts read on where another one of them
stopped. What is written to a collector stays with its time, so that what processes write that run
beside each other can be put in order.

It serves the programs that run on it, and no theorem about builds depends on it.
-/

namespace StaleBuild

/-- What an open file leads to. -/
inductive Target where
  /-- What is still to be read of a text. -/
  | text (rest : Host.Str)
  | file (loc : Location)
  /-- What is written is kept in the collector of this number. -/
  | collector (n : Nat)
  | special (kind : Special)
  /-- A file that hands on what is written to it. -/
  | queue (loc : Location)

/-- An open file. -/
structure OpenFile where
  target : Target
  /-- How far the file has been read or written. -/
  offset : Nat
  /-- Whether what is written goes to the end. -/
  appends : Bool
  readable : Bool
  writable : Bool

/-- What a process wrote at a time. -/
structure Chunk where
  time : Time
  pid : Nat
  text : Host.Str

/-- A process. -/
structure Process where
  pid : Nat
  /-- The process that started this one. -/
  parent : Nat
  /-- The open files by their numbers in the process. -/
  descriptors : List (Nat × Nat)
  environment : List (Host.Str × Host.Str)
  /-- The permissions that new files do not get. -/
  umask : Nat
  /-- The signals that do nothing. -/
  ignored : List Nat
  /-- What has been put out and is not yet written, the latest first, if the process holds its
  output back. -/
  held : Option (List Host.Str)

/-- The host. -/
structure Host where
  files : FileTree
  clock : Time
  opened : Array OpenFile
  /-- What has been collected, the latest first. -/
  collectors : Array (List Chunk)
  /-- What waits in files that hand on. -/
  queues : List (Location × Host.Str)
  /-- Signals that have been sent, with the process that each is for. -/
  signals : List (Nat × Nat)
  nextPid : Nat
  process : Process

/-- How a process ends. -/
inductive ExitState where
  | exited (status : Nat)
  | killed (signal : Nat)
deriving DecidableEq

namespace ExitState

/-- The number that stands for an ending. -/
def code : ExitState → Nat
  | .exited status => status % 256
  | .killed signal => 128 + signal

end ExitState

/-- Something that a process does. -/
abbrev Act := ExceptT ExitState (StateM Host)

namespace Host

/-! ## Open files -/

/-- The host with one more open file, and its number. -/
def openNew (h : Host) (file : OpenFile) : Nat × Host :=
  (h.opened.size, { h with opened := h.opened.push file })

/-- The host with one more collector, and the number of a file that writes to it. -/
def openCollector (h : Host) : Nat × Nat × Host :=
  let n := h.collectors.size
  let (file, h) := { h with collectors := h.collectors.push [] }.openNew
    ⟨.collector n, 0, false, false, true⟩
  (n, file, h)

/-- The open file that a number stands for in the running process. -/
def descriptor? (h : Host) (fd : Nat) : Option Nat :=
  (h.process.descriptors.find? fun d => d.1 = fd).map Prod.snd

/-- The host with a number that stands for another file, or for none. -/
def withDescriptor (h : Host) (fd : Nat) (file : Option Nat) : Host :=
  let others := h.process.descriptors.filter fun d => d.1 ≠ fd
  let descriptors := match file with
    | some file => (fd, file) :: others
    | none => others
  { h with process := { h.process with descriptors } }

/-- What a collector holds, in the order of time. -/
def collected (h : Host) (n : Nat) : Str :=
  let chunks := (h.collectors.getD n []).reverse
  (chunks.mergeSort fun a b => decide (a.time ≤ b.time)).flatMap Chunk.text

/-- What waits in a file that hands on. -/
def queued (h : Host) (loc : Location) : Str :=
  ((h.queues.find? fun q => q.1 = loc).map Prod.snd).getD []

/-- The host with other contents in a file that hands on. -/
def withQueue (h : Host) (loc : Location) (text : Str) : Host :=
  { h with queues := (loc, text) :: h.queues.filter fun q => q.1 ≠ loc }

/-! ## Writing -/

/-- Contents with bytes put over them from an offset on. -/
def overwritten (contents : Bytes) (offset : Nat) (bytes : Bytes) : Bytes :=
  if contents.length ≤ offset then
    contents ++ List.replicate (offset - contents.length) 0 ++ bytes
  else contents.take offset ++ bytes ++ contents.drop (offset + bytes.length)

/-- Write to an open file. -/
def writeTo (h : Host) (file : Nat) (text : Str) : Except FileError Host :=
  match h.opened[file]? with
  | none => .error .badDescriptor
  | some o =>
    if !o.writable then .error .badDescriptor
    else match o.target with
      | .collector n =>
        .ok { h with collectors := h.collectors.modify n (⟨h.clock, h.process.pid, text⟩ :: ·) }
      | .file loc =>
        if text = [] then .ok h
        else match h.files.get? loc with
          | some ⟨.file contents, _, _, _⟩ =>
            let offset := if o.appends then contents.length else o.offset
            let files := h.files.fill loc (overwritten contents offset (toBytes text)) h.clock
            .ok { h with
              files, opened := h.opened.modify file fun o =>
                { o with offset := offset + text.length } }
          | _ => .ok h
      | .special .full => if text = [] then .ok h else .error .noSpace
      | .special _ => .ok h
      | .queue loc => .ok (h.withQueue loc (h.queued loc ++ text))
      | .text _ => .error .badDescriptor

/-- Write to what a number stands for. -/
def writeFd (h : Host) (fd : Nat) (text : Str) : Except FileError Host :=
  match h.descriptor? fd with
  | none => .error .badDescriptor
  | some file => h.writeTo file text

/-! ## Reading -/

/-- How much is read of a file that never ends when everything is asked for. -/
def endless : Nat := 262144

/-- What an open file still holds. -/
def remaining (h : Host) (file : Nat) : Except FileError Str :=
  match h.opened[file]? with
  | none => .error .badDescriptor
  | some o =>
    if !o.readable then .error .badDescriptor
    else match o.target with
      | .text rest => .ok rest
      | .file loc =>
        match h.files.get? loc with
        | some ⟨.file contents, _, _, _⟩ => .ok (ofBytes (contents.drop o.offset))
        | some ⟨.directory, _, _, _⟩ => .error .isADirectory
        | _ => .ok []
      | .special .zero => .ok (Host.run endless '\x00')
      | .special .full => .ok (Host.run endless '\x00')
      | .special _ => .ok []
      | .queue loc => .ok (h.queued loc)
      | .collector _ => .error .badDescriptor

/-- The host after so many characters have been read. -/
def advance (h : Host) (file n : Nat) : Host :=
  match h.opened[file]? with
  | none => h
  | some o =>
    match o.target with
    | .text rest =>
      { h with opened := h.opened.set! file { o with target := .text (rest.drop n) } }
    | .file _ => { h with opened := h.opened.set! file { o with offset := o.offset + n } }
    | .queue loc => h.withQueue loc ((h.queued loc).drop n)
    | _ => h

/-- Whether one can go back in an open file. -/
def isSeekable (h : Host) (file : Nat) : Bool :=
  match h.opened[file]? with
  | some ⟨.file _, _, _, _, _⟩ => true
  | _ => false

/-! ## Opening by path -/

/-- What a file is opened for. -/
inductive Access where
  | read
  /-- To write over what is there. -/
  | write
  | append
  /-- To read and to write, without emptying it. -/
  | both
deriving DecidableEq

/-- The open file for an entry. -/
def fileFor (access : Access) (target : Target) : OpenFile :=
  ⟨target, 0, access = .append, access = .read || access = .both, access ≠ .read⟩

/-- Open what a path denotes; the number is that of the open file. -/
def openPath (h : Host) (p : Path) (access : Access) : Except FileError (Nat × Host) :=
  let opened (files : FileTree) (target : Target) : Except FileError (Nat × Host) :=
    .ok ({ h with files }.openNew (fileFor access target))
  let existing (files : FileTree) (loc : Location) (e : Entry) : Except FileError (Nat × Host) :=
    match e.node with
    | .special (.descriptor n) =>
      match h.descriptor? n with
      | none => .error .notFound
      | some file =>
        -- a file is opened anew, all else is shared
        match h.opened[file]? with
        | some ⟨.file loc, _, _, _, _⟩ =>
          let files := if access = .write then h.files.fill loc [] h.clock else h.files
          opened files (.file loc)
        | _ => .ok (file, h)
    | .special .fifo => opened files (.queue loc)
    | .special kind => opened files (.special kind)
    | .directory => if access = .read then opened files (.file loc) else .error .isADirectory
    | _ => opened files (.file loc)
  if access = .read then
    match h.files.find p with
    | .error cause => .error cause
    | .ok (loc, e) => existing h.files loc e
  else
    match h.files.openForWriting p h.clock with
    | .error cause => .error cause
    | .ok (loc, files) =>
      let files := if access = .write then files.fill loc [] h.clock else files
      match files.get? loc with
      | some e =>
        let isNew := (h.files.get? loc).isNone
        let files := if isNew && h.process.umask ≠ 0o22 then
            files.put loc { e with mode := 0o666 &&& (0o777 - h.process.umask) }
          else files
        existing files loc e
      | none => .error .notFound

/-! ## Signals -/

/-- Send a signal to a process. -/
def send (h : Host) (pid signal : Nat) : Host := { h with signals := h.signals ++ [(pid, signal)] }

/-- The signals that wait for a process, and the host without them. -/
def received (h : Host) (pid : Nat) : List Nat × Host :=
  ((h.signals.filter fun s => s.1 = pid).map Prod.snd,
    { h with signals := h.signals.filter fun s => s.1 ≠ pid })

end Host

namespace Act

open Host (Str Access)

/-! ## Files -/

/-- The files. -/
def tree : Act FileTree := return (← get).files

/-- Change the files. -/
def setTree (files : FileTree) : Act Unit := modify fun h => { h with files }

/-- The time. -/
def now : Act Time := return (← get).clock

/-- Change the files in a way that can fail. -/
def change (f : FileTree → Time → Except FileError FileTree) : Act (Except FileError Unit) := do
  match f (← tree) (← now) with
  | .ok files => do
    setTree files
    return .ok ()
  | .error cause => return .error cause

/-- Open what a path denotes. -/
def openPath (p : Str) (access : Access) : Act (Except FileError Nat) := do
  match (← get).openPath (Host.pathOf p) access with
  | .error cause => return .error cause
  | .ok (file, h) => do
    set h
    return .ok file

/-- Read what is left of an open file. -/
def readOpen (file : Nat) : Act (Except FileError Str) := do
  match (← get).remaining file with
  | .error cause => return .error cause
  | .ok text => do
    modify (·.advance file text.length)
    return .ok text

/-- The contents of what a path denotes. -/
def readPath (p : Str) : Act (Except FileError Str) := do
  match ← openPath p .read with
  | .error cause => return .error cause
  | .ok file => readOpen file

/-- Put a text into the file that a path denotes. -/
def writePath (p : Str) (text : Str) (access : Access) : Act (Except FileError Unit) := do
  match ← openPath p access with
  | .error cause => return .error cause
  | .ok file =>
    match (← get).writeTo file text with
    | .error cause => return .error cause
    | .ok h => do
      set h
      return .ok ()

/-- Read what is left of a stream. -/
def readFd (fd : Nat) : Act (Except FileError Str) := do
  match (← get).descriptor? fd with
  | none => return .error .badDescriptor
  | some file => readOpen file

/-! ## Output -/

/-- Write to a stream at once; a stream that takes nothing is passed over. -/
def put (fd : Nat) (text : Str) : Act Unit :=
  modify fun h => match h.writeFd fd text with
    | .ok h => h
    | .error _ => h

/-- Write what has been held back. The cause of a failure comes back. -/
def flush : Act (Option FileError) := do
  match (← get).process.held with
  | none => return none
  | some texts => do
    modify fun h => { h with process := { h.process with held := some [] } }
    let text := texts.reverse.flatten
    if text = [] then return none
    match (← get).writeFd 1 text with
    | .ok h => do
      set h
      return none
    | .error cause => return some cause

/-- Put a text out. -/
def say (text : Str) : Act Unit := do
  match (← get).process.held with
  | some texts =>
    modify fun h => { h with process := { h.process with held := some (text :: texts) } }
  | none => put 1 text

/-- Whether an environment asks for plain marks around names, where curly ones are usual: the first of
the variables for languages that has a value says so. -/
def asksPlain (environment : List (Str × Str)) : Bool :=
  let value (name : String) : Option Str :=
    (environment.find? fun v => v.1 = name.toList && v.2 ≠ []).map Prod.snd
  match ["LC_ALL", "LC_CTYPE", "LANG"].findSome? value with
  | none => false
  | some v => v ≠ "C.UTF-8".toList && v ≠ "C.utf8".toList

/-- A text with plain marks in place of curly ones. -/
def plainMarks : Str → Str
  | [] => []
  | '\u00e2' :: '\u0080' :: '\u0098' :: rest => '\'' :: plainMarks rest
  | '\u00e2' :: '\u0080' :: '\u0099' :: rest => '\'' :: plainMarks rest
  | c :: rest => c :: plainMarks rest

/-- Write to the error output at once. -/
def complain (text : Str) : Act Unit := do
  put 2 (if asksPlain (← get).process.environment then plainMarks text else text)

/-! ## ExitState -/

/-- End the process. -/
def exit {α : Type} (status : Nat) : Act α := throw (.exited status)

/-- Do something to the process that lasts as long as something else is done. -/
def within {α : Type} (f : Process → Process) (body : Act α) : Act α := fun h =>
  let p := h.process
  let current := h.files.current
  let (r, h) := body { h with process := f p }
  (r, { h with process := p, files := { h.files with current } })

/-- Run something as a process of its own. What it holds back is written at its end; a failure of
that is said in its name and spoils its status. -/
def asProcess (name : Str) (holdsBack : Bool) (body : Act Nat) : Act ExitState := fun h =>
  let p := h.process
  let current := h.files.current
  let child : Process := { p with
    pid := h.nextPid, parent := p.pid, held := if holdsBack then some [] else none }
  let (r, h) := body { h with process := child, nextPid := h.nextPid + 1 }
  let ending := match r with
    | .ok status => ExitState.exited status
    | .error ending => ending
  let (ending, h) := match ending with
    | .killed _ => (ending, h)
    | .exited _ =>
      match (flush : Act (Option FileError)) h with
      | (.ok (some cause), h) =>
        let text := name ++ Host.str ": write error: " ++ Host.reason cause ++ ['\n']
        (.exited 1, match h.writeFd 2 text with
          | .ok h => h
          | .error _ => h)
      | (_, h) => (ending, h)
  (.ok ending, { h with process := p, files := { h.files with current } })

end Act

end StaleBuild
