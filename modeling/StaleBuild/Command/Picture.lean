import StaleBuild.Installation.Table
import StaleBuild.Rehearsal
import StaleBuild.Host.Calendar

/-!
A picture of a file tree as text, one entry a line, its parts separated by tabs: `f` or `d`, the time
of the last modification in seconds since the start of 1970, and the path of a file or directory; or
`l`, a time, a path and a target for a link. The contents of files are not part of the picture.
-/

namespace StaleBuild.Command

/-- A line of a picture. -/
inductive PictureLine where
  | file (path : Path) (modified : Time)
  | other (e : PlannedEntry)

namespace PictureLine

/-- The parts of a line between tabs. -/
def parts (line : List Char) : List (List Char) :=
  let (last, more) := line.foldr
    (fun c (part, parts) => if c = '\t' then ([], part :: parts) else (c :: part, parts))
    (([] : List Char), ([] : List (List Char)))
  last :: more

/-- Read a line; none if it is no line of a picture. -/
def read? (line : String) : Option PictureLine :=
  let path (cs : List Char) : Path := .ofString (String.ofList cs)
  match parts line.toList with
  | [['f'], time, p] => (Host.Calendar.seconds? time).map (.file (path p))
  | [['d'], time, p] =>
    (Host.Calendar.seconds? time).map fun time => .other (.directory (path p) (some time))
  | [['l'], _, p, target] => some (.other (.link (path p) (path target)))
  | _ => none

/-- The time of an entry; links have none. -/
def time? : PictureLine → Option Time
  | .file _ time => some time
  | .other (.directory _ time) => time
  | .other _ => none

end PictureLine

/-- A time behind all those of a picture. -/
def behind (lines : List PictureLine) : Time :=
  (lines.filterMap PictureLine.time?).foldl (fun latest t => max latest (t + 1000000000)) 0

/-- The world that a picture shows, seen from a current directory. -/
def worldOf (current : Path) (clock : Time) (entries : List PlannedEntry) : World Unit where
  files := (Installation.furnish Installation.names
    (FileTree.fresh ((Path.segments current.bytes).filter (· ≠ [])).reverse clock)).placeAll clock entries
  clock := clock
  published := none
  memory := ()

end StaleBuild.Command
