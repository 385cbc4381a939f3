import StaleBuild.Text.Utf8

/-!
Paths as the program holds them: byte strings that are never normalised. Two readings go with a
path. Its *components* are what the program compares and takes apart: repeated separators, a
trailing separator and inner `.` vanish, while `..` and a leading `.` stay. Its *steps* are what a
file system walks: every `.` and `..` counts, and a trailing separator asks for a directory.
-/

namespace StaleBuild

/-- A path, as written. -/
structure Path where
  bytes : Bytes
deriving DecidableEq, Inhabited

namespace Path

/-- The separator between two segments. -/
def separator : UInt8 := 0x2F

/-- The byte of a full stop. -/
def fullStop : UInt8 := 0x2E

/-- The path that a text spells. -/
def ofString (s : String) : Path := ⟨Utf8.encode s⟩

/-- The path as shown to a reader, with U+FFFD where it is not UTF-8. -/
def text (p : Path) : String := Utf8.decodeLossy p.bytes

/-- The empty path. -/
def empty : Path := ⟨[]⟩

def isEmpty (p : Path) : Bool := p.bytes.isEmpty

/-- A path that starts at the root of the file system. -/
def isAbsolute (p : Path) : Bool := p.bytes.head? = some separator

/-! ## Segments -/

/-- The stretches between separators, empty ones included; never the empty list. -/
def segments : Bytes → List Bytes
  | [] => [[]]
  | b :: rest =>
    if b = separator then [] :: segments rest
    else match segments rest with
      | [] => [[b]]
      | s :: more => (b :: s) :: more

/-- Segments written out with a separator between them. -/
def joinSegments : List Bytes → Bytes
  | [] => []
  | [s] => s
  | s :: rest => s ++ separator :: joinSegments rest

/-- A segment that names nothing: empty or a full stop. -/
def isIdle (s : Bytes) : Bool := s = [] || s = [fullStop]

/-- The segment that leads to the directory above. -/
def upSegment : Bytes := [fullStop, fullStop]

/-! ## Components -/

/-- A component of a path. -/
inductive Component where
  | root
  | current
  | parent
  | normal (name : Bytes)
deriving DecidableEq

/-- The component that a segment stands for behind the first one. -/
def componentOf? (s : Bytes) : Option Component :=
  if isIdle s then none
  else if s = upSegment then some .parent
  else some (.normal s)

/-- The bytes ahead of the body: the root separator of an absolute path, or a leading `.`. -/
def lead (p : Path) : Bytes :=
  if p.isAbsolute then [separator]
  else if (segments p.bytes).head? = some [fullStop] then [fullStop]
  else []

/-- The bytes behind the lead. -/
def body (p : Path) : Bytes := p.bytes.drop p.lead.length

/-- The component that the lead stands for. -/
def leadComponents (p : Path) : List Component :=
  if p.isAbsolute then [.root]
  else if p.lead = [] then [] else [.current]

/-- The components of a path, in order. -/
def components (p : Path) : List Component :=
  p.leadComponents ++ (segments p.body).filterMap componentOf?

/-- Equality as paths: the same components. -/
def same (p q : Path) : Bool := p.components = q.components

/-! ## Putting together and taking apart -/

/-- `q` seen from `p`: an absolute `q` stands for itself, otherwise the two are written behind each
other, with a separator between them unless `p` is empty or ends in one. -/
def join (p q : Path) : Path :=
  if q.isAbsolute then q
  else if p.bytes = [] ∨ p.bytes.getLast? = some separator then ⟨p.bytes ++ q.bytes⟩
  else ⟨p.bytes ++ separator :: q.bytes⟩

/-- A name below `p`. -/
def child (p : Path) (name : Bytes) : Path := p.join ⟨name⟩

/-- Segments without the idle ones at their end. -/
def dropIdleEnd (segs : List Bytes) : List Bytes := (segs.reverse.dropWhile isIdle).reverse

/-- The path without its last component and what follows it; a root and the empty path have no
parent. -/
def parent? (p : Path) : Option Path :=
  match (segments p.body).reverse.dropWhile isIdle with
  | _ :: above => some ⟨p.lead ++ joinSegments (above.dropWhile isIdle).reverse⟩
  | [] => if p.isAbsolute || p.lead = [] then none else some empty

/-- The last component, if it is a name. -/
def fileName? (p : Path) : Option Bytes :=
  match p.components.getLast? with
  | some (.normal name) => some name
  | _ => none

/-- A file name cut at its last full stop: the stem and what follows. A name whose only full stop
comes first has no second part. -/
def splitName (name : Bytes) : Bytes × Option Bytes :=
  let behind := (name.reverse.takeWhile (· ≠ fullStop)).reverse
  let ahead := name.take (name.length - behind.length - 1)
  if behind.length < name.length ∧ ahead ≠ [] then (ahead, some behind) else (name, none)

/-- The file name without its extension. -/
def fileStem? (p : Path) : Option Bytes := p.fileName?.map fun name => (splitName name).1

/-- What follows the last full stop of the file name. -/
def extension? (p : Path) : Option Bytes := p.fileName?.bind fun name => (splitName name).2

/-- The segments behind the first `n` that are not idle. -/
def dropComponents : Nat → List Bytes → List Bytes
  | 0, segs => segs
  | _ + 1, [] => []
  | n + 1, s :: rest => if isIdle s then dropComponents (n + 1) rest else dropComponents n rest

/-- What is left of `p` behind the components of `base`, if `p` starts with them. -/
def stripBase? (base p : Path) : Option Path :=
  if base.components.isPrefixOf p.components then
    if base.components = [] then
      some ⟨p.lead ++ joinSegments (dropIdleEnd (segments p.body))⟩
    else
      let below := dropComponents (base.components.length - p.leadComponents.length)
        (segments p.body)
      some ⟨joinSegments (dropIdleEnd (below.dropWhile isIdle))⟩
  else none

/-! ## Steps -/

/-- One step of a walk through directories. -/
inductive Step where
  | here
  | up
  | into (name : Bytes)
deriving DecidableEq

/-- The step that a segment stands for; an empty segment stands for none. -/
def stepOf? (s : Bytes) : Option Step :=
  if s = [] then none
  else if s = [fullStop] then some .here
  else if s = upSegment then some .up
  else some (.into s)

/-- The steps of a walk along a path, a trailing separator left aside. -/
def steps (p : Path) : List Step := (segments p.bytes).filterMap stepOf?

/-- Whether the path ends in a separator and so asks for a directory. -/
def endsInSeparator (p : Path) : Bool := p.bytes.getLast? = some separator

end Path

end StaleBuild
