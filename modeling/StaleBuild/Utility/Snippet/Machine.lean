import StaleBuild.Host.Search
import StaleBuild.Utility.Snippet.Format

/-!
What a program works on: its store, its variables in scopes, and the host. An exception ends what is going
on until a handler takes it; on its way it gathers the lines of the functions that it leaves.
-/

namespace StaleBuild.Utility.Snippet

open Host (Str str Call Starter)

/-- The variables of a function, and those of them that belong to an outer one. -/
structure Scope where
  bindings : Std.HashMap String Val
  outer : List String

/-- An exception on its way, with the lines and names of the functions that it has left. -/
structure Raised where
  value : Val
  trace : List (Nat × String)

/-- A program that runs. -/
structure Machine where
  call : Call
  start : Starter
  store : Store
  scopes : Array Scope
  /-- The scopes that names are looked up in, the innermost first. -/
  inside : List Nat
  line : Nat
  /-- How many functions are running. -/
  depth : Nat
  kinds : List (String × String)
  /-- The exceptions that are being handled, with the lines they came from, the latest first. -/
  handled : List (Nat × Raised)
  /-- The exceptions during whose handling others arose: the other one, the line, the one before, and whether
  that was named as its cause. -/
  before : List (Nat × Nat × Raised × Bool)

abbrev Run := ExceptT Raised (StateT Machine Act)

/-- Do something to the host. -/
def onHost {α : Type} (a : Act α) : Run α := (liftM (m := Act) (n := StateT Machine Act) a : StateT Machine Act α)

/-! ## The store -/

/-- Put a new thing into the store. -/
def alloc (o : Object) : Run Val := do
  let m ← get
  set { m with store := m.store.push o }
  return .ref m.store.size

/-- A new list. -/
def newList (vs : List Val) : Run Val := alloc (.list vs.toArray)

/-- The thing that a value stands for. -/
def object? (v : Val) : Run (Option Object) := do
  match v with
  | .ref id => return (← get).store[id]?
  | _ => return none

/-- Change a thing in the store. -/
def setObject (id : Nat) (o : Object) : Run Unit :=
  modify fun m => { m with store := m.store.setIfInBounds id o }

/-! ## Exceptions -/

/-- Note that an exception arose while another one was handled. -/
def noteHandled (v : Val) : Run Unit := modify fun m =>
  match v, m.handled with
  | .ref id, (line, r) :: _ => { m with before := (id, line, r, false) :: m.before }
  | _, _ => m

/-- Raise an exception. -/
def raiseWith {α : Type} (kind : String) (args : List Val) : Run α := do
  let v ← alloc (.exception kind args)
  noteHandled v
  throw ⟨v, []⟩

/-- Raise an exception with words. -/
def raise {α : Type} (kind words : String) : Run α := raiseWith kind [.text words.toList]

/-- Raise what has failed. -/
def orRaise {α : Type} : Fallible α → Run α
  | .ok a => return a
  | .error (kind, words) => raise kind words

/-- The class of exceptions for a cause. -/
def faultKind : FileError → String
  | .notFound => "FileNotFoundError"
  | .alreadyExists => "FileExistsError"
  | .isADirectory => "IsADirectoryError"
  | .notADirectory => "NotADirectoryError"
  | .permissionDenied => "PermissionError"
  | _ => "OSError"

/-- Raise the cause why the host refused something. -/
def refused {α : Type} (cause : FileError) (names : List Val) : Run α := do
  match cause.systemText? with
  | some (number, words) => raiseWith (faultKind cause) (.whole number :: .text words.toList :: names)
  | none => raise "ValueError" "embedded null byte"

/-- Raise a complaint about the class of a value. -/
def unfit {α : Type} (front : String) (v : Val) (back : String) : Run α := do
  raise "TypeError" (front ++ kindOf (← get).store v ++ back)

/-! ## Texts -/

/-- A value as a text. -/
def displayed (v : Val) : Run Text := return display (← get).store v

/-- A value as a program writes it. -/
def reprOf (v : Val) : Run Text := return repr (← get).store v

/-- Whether a value counts as true. -/
def truth (v : Val) : Run Bool := return isTrue (← get).store v

/-! ## Variables -/

/-- The value of a name in the scopes that it is looked up in. -/
def valueOf? (name : String) : Run (Option Val) := do
  let m ← get
  return m.inside.findSome? fun i => (m.scopes[i]?).bind fun s => s.bindings[name]?

/-- Give a name a value in the innermost scope that it belongs to. -/
def assignName (name : String) (v : Val) : Run Unit := modify fun m =>
  let inner := m.inside.headD 0
  let isOuter := ((m.scopes[inner]?).map fun s => s.outer.contains name).getD false
  let home := if isOuter then
      (m.inside.tail.find? fun i => ((m.scopes[i]?).map fun s => s.bindings.contains name).getD false).getD 0
    else inner
  { m with scopes := m.scopes.modify home fun s => { s with bindings := s.bindings.insert name v } }

/-- A new scope within others. -/
def newScope (bindings : List (String × Val)) : Run Nat := do
  let m ← get
  set { m with scopes := m.scopes.push ⟨Std.HashMap.ofList bindings, []⟩ }
  return m.scopes.size

/-! ## Files -/

/-- The bytes of a text or of bytes. -/
def bytesOf? : Val → Option Str
  | .text s => some (strOf s)
  | .bytes s => some s
  | _ => none

/-- The name of a file. -/
def pathOf (v : Val) : Run Str := do
  match bytesOf? v with
  | some s => return s
  | none => match ← object? v with
    | some (.record "PosixPath" [(_, .text s)]) => return strOf s
    | _ => unfit "expected str, bytes or os.PathLike object, not " v ""

/-- Write to a file. -/
def writeTo (s : Stream) (text : Str) : Run Unit := do
  match s.channel with
  | .output => onHost (Act.say text)
  | .errors => onHost (Act.complain text)
  | .file n => do
    if s.mode.contains 'r' && !s.mode.contains '+' then raise "io.UnsupportedOperation" "not writable"
    match (← onHost get).writeTo n text with
    | .ok h => onHost (set h)
    | .error cause => refused cause []
  | .input => raise "io.UnsupportedOperation" "not writable"

/-- What a file still holds. -/
def remaining (id : Nat) (s : Stream) : Run Str := do
  match s.rest with
  | some rest => return rest
  | none => do
    let text ← match s.channel with
      | .input => onHost (Act.readFd 0)
      | .file n => onHost (Act.readOpen n)
      | _ => raise "io.UnsupportedOperation" "not readable"
    match text with
    | .ok text => do
      setObject id (.stream { s with rest := some text })
      return text
    | .error .badDescriptor => raise "io.UnsupportedOperation" "not readable"
    | .error cause => refused cause []

/-- A text read from a file as a value. -/
def valueFor (s : Stream) (text : Str) : Val := if s.mode.contains 'b' then .bytes text else .text (textOf text)

/-! ## Sequences -/

/-- The values that a value gives one after another. -/
def valuesOf (v : Val) : Run (List Val) := do
  match v with
  | .tuple vs => return vs
  | .text s => return s.map fun c => .text [c]
  | .bytes s => return s.map fun c => .whole c.toNat
  | .range a b step => return rangeValues a b step
  | .ref id => do
    match (← get).store[id]? with
    | some (.list vs) => return vs.toList
    | some (.dict pairs) => return pairs.map Prod.fst
    | some (.set vs) => return vs
    | some (.iterator rest) => do
      setObject id (.iterator [])
      return rest
    | some (.stream s) => do
      if s.isClosed then raise "ValueError" "I/O operation on closed file."
      let text ← remaining id s
      setObject id (.stream { s with rest := some [] })
      return (Host.splitLines text).map (valueFor s)
    | _ => unfit "'" v "' object is not iterable"
  | v => unfit "'" v "' object is not iterable"

/-- A value that a number is expected for. -/
def wholeOf (v : Val) : Run Int := do
  match whole? v with
  | some n => return n
  | none => unfit "'" v "' object cannot be interpreted as an integer"

/-- The pairs of a table. -/
def pairsOf (v : Val) : Run (List (Val × Val)) := do
  match ← object? v with
  | some (.dict pairs) => return pairs
  | _ => do
    let vs ← valuesOf v
    vs.mapM fun p => do
      match ← valuesOf p with
      | [k, v] => return (k, v)
      | _ => raise "ValueError" "dictionary update sequence element #0 has length 1; 2 is required"

/-- Refuse a value that no table takes for a key. -/
def hashable (v : Val) : Run Unit := do
  match ← object? v with
  | some (.list _) => raise "TypeError" "unhashable type: 'list'"
  | some (.dict _) => raise "TypeError" "unhashable type: 'dict'"
  | some (.set _) => raise "TypeError" "unhashable type: 'set'"
  | _ => return ()

end StaleBuild.Utility.Snippet
