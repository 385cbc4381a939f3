import StaleBuild.Files.Lookup

/-!
Changes of a file tree: stamping a time, making directories, writing, linking and removing. An
entry that is made or removed also changes the time of the directory that holds it.
-/

namespace StaleBuild.FileTree

/-- Set the time of the file or directory that a path denotes. -/
def stamp (tree : FileTree) (p : Path) (time : Time) : Except FileError FileTree :=
  match tree.find p with
  | .ok (loc, e) => .ok (tree.put loc { e with modified := time })
  | .error cause => .error cause

/-- The tree with a time at a path, or as it was if the path cannot be stamped. -/
def stampIfPossible (tree : FileTree) (p : Path) (time : Time) : FileTree :=
  match tree.stamp p time with
  | .ok stamped => stamped
  | .error _ => tree

/-- A new entry in a directory, which changes at the same moment. -/
def create (tree : FileTree) (dir : Location) (name : Bytes) (node : Node) (now : Time) :
    FileTree :=
  (tree.put (name :: dir) (.new node now)).touch dir now

/-- Make one directory. -/
def makeDirectory (tree : FileTree) (p : Path) (now : Time) : Except FileError FileTree :=
  match tree.lookupPlace p with
  | .found .. => .error .alreadyExists
  | .missing dir name => .ok (tree.create dir name .directory now)
  | .failed cause => .error cause

/-- Make a directory and those above it that are missing, climbing at most `fuel` components. What
was made before a failure stays. -/
def makeDirectoriesWithin (now : Time) : Nat → FileTree → Path → Except FileError Unit × FileTree
  | 0, tree, _ => (.error .notFound, tree)
  | fuel + 1, tree, p =>
    if p.isEmpty then (.ok (), tree)
    else match tree.makeDirectory p now with
      | .ok made => (.ok (), made)
      | .error .notFound =>
        match p.parent? with
        | none => (.error (.described "failed to create whole tree"), tree)
        | some above =>
          match makeDirectoriesWithin now fuel tree above with
          | (.error cause, tree) => (.error cause, tree)
          | (.ok (), tree) =>
            match tree.makeDirectory p now with
            | .ok made => (.ok (), made)
            | .error cause => (if tree.isDirectory p then .ok () else .error cause, tree)
      | .error cause => (if tree.isDirectory p then .ok () else .error cause, tree)

/-- Make a directory and those above it that are missing. A parent is always shorter, so the
length of the path is enough to climb. -/
def makeDirectories (tree : FileTree) (p : Path) (now : Time) : Except FileError Unit × FileTree :=
  makeDirectoriesWithin now (p.bytes.length + 1) tree p

/-- The location of a file to write, made empty if it is missing. -/
def openForWriting (tree : FileTree) (p : Path) (now : Time) :
    Except FileError (Location × FileTree) :=
  match tree.lookup p with
  | .found loc e => if e.node.isDirectory then .error .isADirectory else .ok (loc, tree)
  | .missing dir name =>
    if p.endsInSeparator then .error .isADirectory
    else .ok (name :: dir, tree.create dir name (.file []) now)
  | .failed cause => .error cause

/-- The tree with other contents in the regular file at a location; no other node takes any. -/
def fill (tree : FileTree) (loc : Location) (contents : Bytes) (now : Time) : FileTree :=
  match tree.get? loc with
  | some e =>
    if e.node.isFile then tree.put loc { e with node := .file contents, modified := now }
    else tree
  | none => tree

/-- Write a file, made if it is missing. -/
def write (tree : FileTree) (p : Path) (contents : Bytes) (now : Time) :
    Except FileError FileTree :=
  match tree.openForWriting p now with
  | .ok (loc, tree) => .ok (tree.fill loc contents now)
  | .error cause => .error cause

/-- Make a symbolic link. -/
def makeLink (tree : FileTree) (p target : Path) (now : Time) : Except FileError FileTree :=
  match tree.lookupPlace p with
  | .found .. => .error .alreadyExists
  | .missing dir name => .ok (tree.create dir name (.link target) now)
  | .failed cause => .error cause

/-- Remove what a path names with everything below it; a link is removed itself. -/
def remove (tree : FileTree) (p : Path) (now : Time) : Except FileError FileTree :=
  match tree.lookupLink p with
  | .found loc _ => .ok ((tree.prune loc).touch loc.tail now)
  | .missing .. => .error .notFound
  | .failed cause => .error cause

end StaleBuild.FileTree
