import StaleBuild.Failure
import StaleBuild.Files.Lookup

/-!
All regular files below a directory. Names come in the order of a walk that goes into a directory where it
meets it and takes the entries of a directory in increasing byte order. Links are followed, except
a link to a directory that the walk is already inside of, which is passed over. A name that is not
UTF-8 as a whole is passed over too.

A link and a directory are looked up by the whole path at which the walk meets them, so a path that is
too long ends the walk there. A file is reported without that.

A walk goes deeper with every directory it enters; it can enter a directory again below a link, but
each link it follows leads to a directory that it is not inside of. So no chain is longer than the
square of the number of entries, and that bounds the recursion.
-/

namespace StaleBuild.FileTree

/-- A file name as the walk reports it. -/
def reported (relative : Path) : List Path :=
  if Utf8.isValid relative.bytes then [relative] else []

/-- What stands in an entry of a directory for the walk. -/
inductive Sight where
  | file
  | directory (loc : Location)
  /-- A special file, or a link to a directory that the walk is inside of. -/
  | nothing

/-- What the walk sees at the entry `name` of `dir`, met as `path`, inside of `chain`. -/
def sight (tree : FileTree) (chain : List Location) (dir : Location) (name : Bytes) (path : Path) :
    Except BuildError Sight :=
  match tree.get? (name :: dir) with
  | none => .error (.file path .notFound)
  | some e =>
    match e.node with
    | .file _ => .ok .file
    | .special _ => .ok .nothing
    | .directory =>
      match tree.find path with
      | .error cause => .error (.file path cause)
      | .ok _ => .ok (.directory (name :: dir))
    | .link _ =>
      match tree.find path with
      | .error cause => .error (.file path cause)
      | .ok (loc, target) =>
        if target.node.isFile then .ok .file
        else if !target.node.isDirectory || chain.contains loc then .ok .nothing
        else .ok (.directory loc)

/-- The files in a directory and below it. The directory was met as `path`, its files are named
from `relative`, and `chain` holds the directories that the walk is inside of. -/
def filesWithin (tree : FileTree) : Nat → List Location → Location → Path → Path →
    Except BuildError (List Path)
  | 0, _, _, _, _ => .ok []
  | fuel + 1, chain, dir, path, relative =>
    (tree.names dir).flatMapM fun name => do
      match ← tree.sight chain dir name (path.child name) with
      | .file => return reported (relative.child name)
      | .directory loc =>
        filesWithin tree fuel (loc :: chain) loc (path.child name) (relative.child name)
      | .nothing => return []

/-- The names of all regular files below a directory, seen from it. -/
def discover (tree : FileTree) (dir : Path) : Except BuildError (List Path) :=
  match tree.find dir with
  | .error cause => .error (.file dir cause)
  | .ok (loc, e) =>
    if e.node.isDirectory then
      tree.filesWithin ((tree.entries.length + 1) * (tree.entries.length + 1)) [loc] loc dir .empty
    else .ok (if e.node.isFile then reported .empty else [])

end StaleBuild.FileTree
