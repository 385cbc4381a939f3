import StaleBuild.Files.Lookup
import StaleBuild.Host.Mode
import StaleBuild.Host.Text

/-!
What programs tell about the files of a tree: kinds, sizes, the room that files take, and how many names
a file has. Room is given out in blocks of 4096 bytes, and a directory takes one of them.

`canonical` finds the plain path of a file, without links and without dots.
-/

namespace StaleBuild.Host.Facts

/-- The size of a block. -/
def blockSize : Nat := 4096

/-- The size of a file in bytes. -/
def size (e : Entry) : Nat :=
  match e.node with
  | .file contents => contents.length
  | .directory => blockSize
  | .link target => target.bytes.length
  | .special _ => 0

/-- The room that a file takes, in bytes. -/
def room (e : Entry) : Nat :=
  match e.node with
  | .file contents => (contents.length + blockSize - 1) / blockSize * blockSize
  | .directory => blockSize
  | _ => 0

/-- How many names a file has; a directory has one for itself, one above, and one in each directory below
it. -/
def links (tree : FileTree) (loc : Location) (e : Entry) : Nat :=
  match e.node with
  | .directory =>
    2 + ((tree.names loc).filter fun n => (tree.get? (n :: loc)).any fun e => e.node.isDirectory).length
  | _ =>
    match e.shared with
    | none => 1
    | some n => (tree.entries.filter fun old => old.2.shared = some n).length

/-- A number that no other file has. -/
def number (tree : FileTree) (loc : Location) (e : Entry) : Nat :=
  match e.shared with
  | some n => 1000000 + n
  | none => 2 + ((tree.entries.map Prod.fst).reverse.findIdx? (· = loc)).getD 0

/-- The letter for the kind of a file. -/
def kindLetter (e : Entry) : Char :=
  match e.node with
  | .file _ => '-'
  | .directory => 'd'
  | .link _ => 'l'
  | .special .fifo => 'p'
  | .special _ => 'c'

/-- The words for the kind of a file. -/
def kindWords (e : Entry) : Str :=
  str (match e.node with
    | .file [] => "regular empty file"
    | .file _ => "regular file"
    | .directory => "directory"
    | .link _ => "symbolic link"
    | .special .fifo => "fifo"
    | .special _ => "character special file")

/-- The kind and the permissions as one number. -/
def fullMode (e : Entry) : Nat :=
  e.mode + match e.node with
    | .file _ => 0o100000
    | .directory => 0o040000
    | .link _ => 0o120000
    | .special .fifo => 0o010000
    | .special _ => 0o020000

/-- The kind and the permissions in letters. -/
def modeLetters (e : Entry) : Str := kindLetter e :: Mode.shown e.mode

/-- A count of bytes in the largest unit that leaves one or more, rounded up. -/
def human (n : Nat) : Str :=
  if n < 1024 then decimal n
  else
    let units := "KMGTPEZY".toList
    let rec go : Nat → List Char → Str
      | _, [] => decimal n
      | u, c :: rest =>
        let tenths := (n * 10 + u - 1) / u
        if tenths < 100 then decimal (tenths / 10 : Nat) ++ '.' :: decimal (tenths % 10 : Nat) ++ [c]
        else
          let whole := (n + u - 1) / u
          if whole < 1024 || rest = [] then decimal whole ++ [c] else go (u * 1024) rest
    go 1024 units

/-! ## Plain paths -/

/-- The path of a location. -/
def pathText (loc : Location) : Str :=
  if loc = [] then ['/'] else loc.reverse.flatMap fun n => '/' :: ofBytes n

/-- How much of a path has to be there. -/
inductive Presence where
  | all
  | allButLast
  | nothing
  deriving DecidableEq

/-- Walk along steps to a plain location. -/
def plain (tree : FileTree) (presence : Presence) (follows : Bool) :
    Nat → Nat → Location → List Path.Step → Except FileError Location
  | 0, _, _, _ => .error .tooManyLinks
  | _, _, loc, [] => .ok loc
  | fuel + 1, links, loc, .here :: rest => plain tree presence follows fuel links loc rest
  | fuel + 1, links, loc, .up :: rest => plain tree presence follows fuel links loc.tail rest
  | fuel + 1, links, loc, .into name :: rest =>
    match tree.get? (name :: loc) with
    | some e =>
      match e.node with
      | .link target =>
        if !follows then plain tree presence follows fuel links (name :: loc) rest
        else if linkLimit ≤ links then
          if presence = .nothing then .ok (name :: loc) else .error .tooManyLinks
        else
          plain tree presence follows fuel (links + 1) (FileTree.startOf loc target)
            (target.steps ++ FileTree.demand target ++ rest)
      | .directory => plain tree presence follows fuel links (name :: loc) rest
      | _ =>
        if rest ≠ [] && presence ≠ .nothing then .error .notADirectory
        else plain tree presence follows fuel links (name :: loc) rest
    | none =>
      match presence with
      | .nothing => plain tree presence follows fuel links (name :: loc) rest
      | .all => .error .notFound
      | .allButLast =>
        if rest.all fun s => match s with
          | .here => true
          | _ => false then .ok (name :: loc)
        else .error .notFound

/-- The plain location of what a path denotes. -/
def canonical (tree : FileTree) (presence : Presence) (follows : Bool) (p : Str) :
    Except FileError Location :=
  let path := pathOf p
  if p = [] then .error .notFound
  else
    plain tree presence follows 200000 0 (FileTree.startOf tree.current path)
      (path.steps ++ FileTree.demand path)

end StaleBuild.Host.Facts
