import StaleBuild.Files.Tree

/-!
Which location a path denotes. A walk starts at the root or at the current directory and takes one
step after another; each name is looked up in the directory reached so far, and a symbolic link is
replaced by its target's steps. At most `linkLimit` links are followed in one walk.

`advance` walks up to the next link and is a recursion on the steps; `walk` continues behind links
and is a recursion on the number of links that may still be followed.
-/

namespace StaleBuild

/-- The longest name that a directory can hold, in bytes. -/
def nameLimit : Nat := 255

/-- Paths of this many bytes and more are refused. -/
def pathLimit : Nat := 4096

/-- How many links one walk may follow. -/
def linkLimit : Nat := 40

/-- What a path leads to. -/
inductive Lookup where
  | found (loc : Location) (entry : Entry)
  /-- The last name is missing in a directory that exists. -/
  | missing (dir : Location) (name : Bytes)
  | failed (cause : FileError)

/-- Where a walk stands that can go no further without following a link. -/
inductive Advance where
  | arrived (result : Lookup)
  | atLink (dir : Location) (target : Path) (rest : List Path.Step)

namespace FileTree

open StaleBuild.Path (Step)

/-- Walk on from a directory until the end or the next link to follow. A link that the last step
leads to is itself the result unless `follow` is set. -/
def advance (tree : FileTree) (follow : Bool) (dir : Location) : List Step → Advance
  | [] =>
    match tree.get? dir with
    | some e => .arrived (.found dir e)
    | none => .arrived (.failed .notFound)
  | .here :: rest => advance tree follow dir rest
  | .up :: rest => advance tree follow dir.tail rest
  | .into name :: rest =>
    if nameLimit < name.length then .arrived (.failed .nameTooLong)
    else match tree.get? (name :: dir) with
      | none => .arrived (if rest = [] then .missing dir name else .failed .notFound)
      | some e =>
        match e.node with
        | .directory => advance tree follow (name :: dir) rest
        | .link target =>
          if rest = [] ∧ !follow then .arrived (.found (name :: dir) e)
          else .atLink dir target rest
        | _ => .arrived (if rest = [] then .found (name :: dir) e else .failed .notADirectory)

/-- The directory in which a walk along a path starts, seen from `dir`. -/
def startOf (dir : Location) (p : Path) : Location := if p.isAbsolute then [] else dir

/-- The steps that a trailing separator adds: none but the demand for a directory. -/
def demand (p : Path) : List Step := if p.endsInSeparator then [.here] else []

/-- Walk to the end, following up to `links` links. -/
def walk (tree : FileTree) (follow : Bool) : Nat → Location → List Step → Lookup
  | 0, dir, steps =>
    match tree.advance follow dir steps with
    | .arrived result => result
    | .atLink .. => .failed .tooManyLinks
  | links + 1, dir, steps =>
    match tree.advance follow dir steps with
    | .arrived result => result
    | .atLink above target rest =>
      walk tree follow links (startOf above target) (target.steps ++ demand target ++ rest)

/-- Look a path up, with the given steps added to its own. -/
def lookupWith (tree : FileTree) (follow : Bool) (p : Path) (added : List Step) : Lookup :=
  if p.bytes.contains 0 then .failed .zeroByteInPath
  else if p.isEmpty then .failed .notFound
  else if pathLimit ≤ p.bytes.length then .failed .nameTooLong
  else tree.walk follow linkLimit (startOf tree.current p) (p.steps ++ added)

/-- What a path denotes, a link at its end followed. -/
def lookup (tree : FileTree) (p : Path) : Lookup := tree.lookupWith true p (demand p)

/-- What a path denotes, a link at its end not followed unless a separator is behind it. -/
def lookupLink (tree : FileTree) (p : Path) : Lookup := tree.lookupWith false p (demand p)

/-- The place of an entry about to be made: a link at the end counts as an entry, and a separator
behind the name is left aside. -/
def lookupPlace (tree : FileTree) (p : Path) : Lookup := tree.lookupWith false p []

/-! ## Reading -/

/-- The location and entry that a path denotes, links followed. -/
def find (tree : FileTree) (p : Path) : Except FileError (Location × Entry) :=
  match tree.lookup p with
  | .found loc e => .ok (loc, e)
  | .missing .. => .error .notFound
  | .failed cause => .error cause

/-- The entry that a path denotes, links followed. -/
def stat (tree : FileTree) (p : Path) : Except FileError Entry :=
  (tree.find p).map Prod.snd

/-- Whether a path denotes anything. -/
def isPresent (tree : FileTree) (p : Path) : Bool := (tree.stat p).toOption.isSome

/-- Whether a path denotes a directory. -/
def isDirectory (tree : FileTree) (p : Path) : Bool :=
  match tree.stat p with
  | .ok e => e.node.isDirectory
  | .error _ => false

/-- Whether a path denotes a regular file. -/
def isFile (tree : FileTree) (p : Path) : Bool :=
  match tree.stat p with
  | .ok e => e.node.isFile
  | .error _ => false

/-- The contents of the file that a path denotes. Nothing waits in a special file. -/
def read (tree : FileTree) (p : Path) : Except FileError Bytes :=
  match tree.stat p with
  | .error cause => .error cause
  | .ok e =>
    match e.node with
    | .file contents => .ok contents
    | .special _ => .ok []
    | _ => .error .isADirectory

/-- The contents of a file as text. -/
def readText (tree : FileTree) (p : Path) : Except FileError String :=
  match tree.read p with
  | .error cause => .error cause
  | .ok bytes =>
    match Utf8.decode? bytes with
    | some s => .ok s
    | none => .error .notText

end FileTree

end StaleBuild
