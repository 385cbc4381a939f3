import StaleBuild.Failure
import StaleBuild.Run
import StaleBuild.Files.Lookup

/-!
Which sources of a directory are stale. A source is stale when its class file is missing or
strictly older. The class file is the one in the source's package directory if it exists, else the
one at the destination's root if the source may have one and it exists, else the first one, which is
then missing.

A scan looks at one name after another and stops at the first file that cannot be looked at for
another reason than being missing; the run changes only when every name went well.
-/

namespace StaleBuild

/-- The time of a file, none if there is no such file. -/
def modifiedTime (tree : FileTree) (p : Path) : Except BuildError (Option Time) :=
  match tree.stat p with
  | .ok e => .ok (some e.modified)
  | .error .notFound => .ok none
  | .error cause => .error (.file p cause)

/-- The class file of a candidate and its time. -/
def resolveOutput (tree : FileTree) (c : Candidate) (dest : Path) :
    Except BuildError (Path × Option Time) := do
  let inPackage := dest.join c.packageOutput
  match ← modifiedTime tree inPackage with
  | some time => return (inPackage, some time)
  | none =>
    match c.rootOutput? with
    | none => return (inPackage, none)
    | some name =>
      let atRoot := dest.join name
      match ← modifiedTime tree atRoot with
      | some time => return (atRoot, some time)
      | none => return (inPackage, none)

/-- A missing output is older than any source. -/
def isStale (source : Time) (output : Option Time) : Bool :=
  match output with
  | some output => output < source
  | none => true

/-- The mapping of a name below a source directory, if it is a candidate, exists and is stale. -/
def staleMapping? (tree : FileTree) (sourceDir dest name : Path) :
    Except BuildError (Option OutputMapping) :=
  match Candidate.ofName? name with
  | none => .ok none
  | some c => do
    let source := c.sourcePath sourceDir
    let (output, outputTime) ← resolveOutput tree c dest
    match ← modifiedTime tree source with
    | none => return none
    | some sourceTime =>
      return if isStale sourceTime outputTime then some ⟨source, output⟩ else none

/-- The mappings of all stale names, in the order of the names. -/
def staleMappings (tree : FileTree) (sourceDir dest : Path) :
    List Path → Except BuildError (List OutputMapping)
  | [] => .ok []
  | name :: rest => do
    let first ← staleMapping? tree sourceDir dest name
    let more ← staleMappings tree sourceDir dest rest
    return first.toList ++ more

/-- Add the stale names of a source directory to a run. Gives the run and how many were added; on
an error the run is as it was. -/
def Run.scan (run : Run) (tree : FileTree) (sourceDir dest : Path) (names : List Path) :
    Except BuildError Nat × Run :=
  match staleMappings tree sourceDir dest names with
  | .error e => (.error e, run)
  | .ok found =>
    (.ok found.length,
      (found.map OutputMapping.output).foldl Run.record
        (run.select (found.map OutputMapping.source)))

end StaleBuild
