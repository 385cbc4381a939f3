import StaleBuild.Path

/-!
Grails artefacts. A file below `grails-app/<kind>/` is an artefact of that kind, and the rest of
its path names the class that it declares. The first `grails-app` of a path counts.

An index holds artefact files and finds one by the class it declares; of several files that
declare the same class the last one given is found.
-/

namespace StaleBuild

namespace Artefact

/-- The directory that holds artefacts. -/
def appDirectory : Bytes := Utf8.encode "grails-app"

/-- The components behind the first `grails-app`, if there is one. -/
def componentsBelowApp? (p : Path) : Option (List Path.Component) :=
  match p.components.dropWhile (· ≠ .normal appDirectory) with
  | [] => none
  | _ :: below => some below

/-- The text of a component that is a name in UTF-8. -/
def nameText? : Path.Component → Option String
  | .normal name => Utf8.decode? name
  | _ => none

/-- The artefact kind of a file: `domain`, `controllers` and so on. -/
def kind? (p : Path) : Option String :=
  match componentsBelowApp? p with
  | some (kind :: _) => nameText? kind
  | _ => none

/-- The class that an artefact declares: the directories below its kind and its stem, with full
stops between them. -/
def className? (p : Path) : Option String := do
  let _ :: relative ← componentsBelowApp? p | none
  let .normal fileName ← relative.getLast? | none
  let stem ← Utf8.decode? (Path.splitName fileName).1
  return ".".intercalate (relative.dropLast.filterMap nameText? ++ [stem])

end Artefact

/-- Artefact files, found by the class that they declare. -/
structure ArtefactIndex where
  resources : List Path
  byClass : List (String × Path)
deriving DecidableEq

namespace ArtefactIndex

/-- A table of classes with one more file, which takes the place of an earlier one. -/
def enter (table : List (String × Path)) (resource : Path) : List (String × Path) :=
  match Artefact.className? resource with
  | none => table
  | some name => (name, resource) :: table.filter fun old => old.1 ≠ name

/-- The index over a list of files. -/
def ofResources (resources : List Path) : ArtefactIndex :=
  ⟨resources, resources.foldl enter []⟩

/-- The file that declares a class. -/
def find? (index : ArtefactIndex) (className : String) : Option Path :=
  (index.byClass.find? fun e => e.1 = className).map Prod.snd

/-- How many files the index holds, with those that declare no class. -/
def size (index : ArtefactIndex) : Nat := index.resources.length

def isEmpty (index : ArtefactIndex) : Bool := index.resources.isEmpty

end ArtefactIndex

end StaleBuild
