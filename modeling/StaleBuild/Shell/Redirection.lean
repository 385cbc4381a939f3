import StaleBuild.Shell.Expansion
import StaleBuild.Shell.Part

/-!
Redirections. Each one changes what a number stands for; they are carried out in order, and the first
that is impossible ends them. Whoever asks for redirections puts the streams back afterwards.
-/

namespace StaleBuild.Shell

open Host (Str str Access)

namespace Engine

/-- The file that a command consists of reading, if it does nothing else. -/
def readsOnly? : Cmd → Option Word
  | .simple _ [] [] [.mk none .read w] => some w
  | _ => none

/-- What a command writes that stands inside of a word. -/
def capture (e : Engine) (single : Word → Sh Str) (c : Cmd) : Sh Str := do
  let s ← get
  let text : Sh Str := do
    let (ending, text) ← Sh.collect e.run do
      modify fun s => { s with
        guarded := false
        options := { s.options with
          exitOnFailure := s.options.exitOnFailure && s.dialect = .basic } }
      e.run c
    Sh.report ending
    modify fun s => { s with
      inner := some ending.code
      status := if s.dialect = .extended then ending.code else s.status }
    return text
  match if s.dialect = .extended then readsOnly? c else none with
  | some w => do
    let path ← single w
    match ← Sh.act (Act.readPath path) with
    | .ok (.ok contents) => return contents
    | .ok (.error cause) => do
      Sh.warn (path ++ str ": " ++ Host.reason cause)
      modify fun s => { s with inner := some 1 }
      return []
    | .error _ => return []
  | none => text

/-- The first number that stands for a file which a command writes or reads. -/
def firstConnection : Nat := 63

/-- The name of a file that stands for what a command writes, or that a command reads later. -/
def connect (e : Engine) (reads : Bool) (c : Cmd) : Sh Str := do
  let used := (← get).host.process.descriptors.map Prod.fst
  let fd := ((List.range (firstConnection + 1)).reverse.find? fun n => !used.contains n).getD 10
  if reads then
    let (_, text) ← Sh.collect e.run (e.run c)
    Sh.onHost fun h =>
      let (file, h) := h.openNew ⟨.text text, 0, false, true, false⟩
      h.withDescriptor fd (some file)
  else
    let (n, file, host) := (← get).host.openCollector
    modify fun s => { s with host := host.withDescriptor fd (some file) }
    Sh.background e.run do
      Sh.onHost fun h =>
        let (input, h) := h.openNew ⟨.text (h.collected n), 0, false, true, false⟩
        h.withDescriptor 0 (some input)
      e.run c
  return str "/dev/fd/" ++ Host.decimal fd

/-- What expansion needs. -/
def hooks (e : Engine) : Hooks :=
  let plain : Hooks := ⟨fun c => e.capture (fun _ => return []) c, e.connect⟩
  ⟨fun c => e.capture (Expansion.single plain) c, e.connect⟩

end Engine

namespace Redirection

/-- The words for a file that cannot be opened. -/
def openingWords (d : Dialect) (creating : Bool) (target : Str) (cause : FileError) : Str :=
  match d with
  | .extended => target ++ str ": " ++ Host.reason cause
  | .basic =>
    let why := if cause = .notFound || cause = .notADirectory then
        str (if creating then "Directory nonexistent" else "No such file")
      else Host.reason cause
    str (if creating then "cannot create " else "cannot open ") ++ target ++ str ": " ++ why

/-- Let a number stand for another file. -/
def point (fd : Nat) (file : Option Nat) : Sh Unit := Sh.onHost (·.withDescriptor fd file)

/-- Open a file under a number; whether that was possible. -/
def openAt (fds : List Nat) (target : Str) (access : Access) : Sh Bool := do
  let s ← get
  match s.host.openPath (Host.pathOf target) access with
  | .ok (file, host) => do
    set { s with host := fds.foldl (fun h fd => h.withDescriptor fd (some file)) host }
    return true
  | .error cause => do
    Sh.warn (openingWords s.dialect (access ≠ .read) target cause)
    return false

/-- Whether a file may not be written over: it is a regular one, and these are spared. -/
def isSpared (target : Str) : Sh Bool := do
  let s ← get
  return s.options.sparesFiles && s.host.files.isFile (Host.pathOf target)

/-- Open a file for writing over it, unless it is to be spared. -/
def create (fds : List Nat) (target : Str) : Sh Bool := do
  if ← isSpared target then
    if ← Sh.isExtended then Sh.warn (target ++ str ": cannot overwrite existing file")
    else Sh.warn (str "cannot create " ++ target ++ str ": File exists")
    return false
  else openAt fds target .write

/-- Let a number stand for what another one stands for. -/
def duplicate (fd : Nat) (default : Nat) (target : Str) : Sh Bool := do
  let extended ← Sh.isExtended
  if target = ['-'] then
    point fd none
    return true
  else match Host.natural? target with
    | some n => do
      match (← get).host.descriptor? n with
      | some file => do
        point fd (some file)
        return true
      | none => do
        Sh.warn (target ++ str ": Bad file descriptor")
        return false
    | none =>
      if extended && default = 1 && fd = 1 then create [1, 2] target
      else if extended then
        Sh.warn (target ++ str ": ambiguous redirect")
        return false
      else Sh.refuse 2 (str "Syntax error: Bad fd number")

/-- The file that a word names; the extended dialect wants exactly one field. -/
def targetOf (e : Engine) (w : Word) : Sh (Option Str) := do
  if ← Sh.isExtended then
    match ← Expansion.fields e.hooks [w] with
    | [one] => return some one
    | _ => do
      let shown := match w with
        | [.parameter _ name none .plain] => '$' :: name
        | w => w.bare?.getD []
      Sh.warn (shown ++ str ": ambiguous redirect")
      return none
  else return some (← Expansion.single e.hooks w)

/-- The text of a here-document. -/
def document (e : Engine) (id : Nat) : Sh Str := do
  match (← get).texts.find? fun t => t.1 = id with
  | some (_, w) => Expansion.single e.hooks w
  | none => return []

/-- Let a number stand for a text to read. -/
def feed (fd : Nat) (text : Str) : Sh Bool := do
  Sh.onHost fun h =>
    let (file, h) := h.openNew ⟨.text text, 0, false, true, false⟩
    h.withDescriptor fd (some file)
  return true

/-- Carry out a redirection; whether it was possible. -/
def one (e : Engine) : Redirect → Sh Bool
  | .mk fd direction w => do
    let on (f : Str → Sh Bool) : Sh Bool := do
      match ← targetOf e w with
      | some target => f target
      | none => return false
    match direction with
    | .write => on (create [fd.getD 1])
    | .force => on fun target => openAt [fd.getD 1] target .write
    | .append => on fun target => openAt [fd.getD 1] target .append
    | .read => on fun target => openAt [fd.getD 0] target .read
    | .both => on fun target => openAt [fd.getD 0] target .both
    | .duplicateOutput => do
      duplicate (fd.getD 1) 1 (← Expansion.single e.hooks w)
    | .duplicateInput => do
      duplicate (fd.getD 0) 0 (← Expansion.single e.hooks w)
    | .document id => do feed (fd.getD 0) (← document e id)
    | .text => do feed (fd.getD 0) ((← Expansion.single e.hooks w) ++ ['\n'])
    | .writeAll => on (create [1, 2])
    | .appendAll => on fun target => openAt [1, 2] target .append

/-- Carry out redirections in order, up to the first that is impossible; whether none is. -/
def all (e : Engine) : List Redirect → Sh Bool
  | [] => return true
  | r :: rest => do if ← one e r then all e rest else return false

/-- Run something with the streams as they are afterwards put back. -/
def restoring {α : Type} (body : Sh α) : Sh α := fun s =>
  let streams := s.host.process.descriptors
  let (r, t) := body s
  (r, { t with host := { t.host with process := { t.host.process with descriptors := streams } } })

/-- Run something with redirections; if one is impossible it is not run, and the status tells. -/
def around (e : Engine) (rs : List Redirect) (failed body : Sh Unit) : Sh Unit := do
  if rs.isEmpty then body
  else
    let ok ← restoring do
      if ← all e rs then
        body
        return true
      else return false
    if ok then return ()
    else
      Sh.setStatus (← Sh.badStatus)
      failed

end Redirection

end StaleBuild.Shell
