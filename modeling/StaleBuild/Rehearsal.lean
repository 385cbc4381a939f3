import StaleBuild.Compiler.Injecting
import StaleBuild.Files.Change

/-!
Rehearsing a build without a real compiler. A scripted compiler runs some phases, makes some files
and answers as it was told; a scripted operation adds properties or fails on one class. What
happens is noted in the world's memory: each call of a scripted operation, and what an observed
compiler was given.
-/

namespace StaleBuild

/-- An entry to make in a file tree. -/
inductive PlannedEntry where
  | file (path : Path) (contents : Bytes) (modified : Time)
  | directory (path : Path) (modified : Option Time)
  | link (path target : Path)

namespace FileTree

/-- The tree after a change, or as it was if the change was refused. -/
def orUnchanged (tree : FileTree) : Except FileError FileTree → FileTree
  | .ok changed => changed
  | .error _ => tree

/-- The tree with the directory above a path. -/
def withParent (tree : FileTree) (p : Path) (now : Time) : FileTree :=
  match p.parent? with
  | some above => (tree.makeDirectories above now).2
  | none => tree

/-- The tree with one more entry and the directories above it. The time of a directory is left to
`placeAll`. -/
def place (tree : FileTree) (now : Time) : PlannedEntry → FileTree
  | .file path contents modified =>
    let tree := tree.withParent path now
    (tree.orUnchanged (tree.write path contents now)).stampIfPossible path modified
  | .directory path _ => (tree.makeDirectories path now).2
  | .link path target =>
    let tree := tree.withParent path now
    tree.orUnchanged (tree.makeLink path target now)

/-- The tree with more entries, in order. -/
def placeEach (tree : FileTree) (now : Time) (entries : List PlannedEntry) : FileTree :=
  entries.foldl (fun tree e => tree.place now e) tree

/-- The time that an entry asks for on a directory. -/
def stampDirectory (tree : FileTree) : PlannedEntry → FileTree
  | .directory path (some modified) => tree.stampIfPossible path modified
  | _ => tree

/-- The tree with more entries, the directories stamped when all are made. -/
def placeAll (tree : FileTree) (now : Time) (entries : List PlannedEntry) : FileTree :=
  entries.foldl stampDirectory (tree.placeEach now entries)

end FileTree

namespace Rehearsal

/-- What a compiler was given, and the classes it left if it came to an end. -/
structure Sighting where
  sources : List Path
  dest : Path
  operations : List (Phase × List String)
  classes : Option (List ClassNode)

/-- What has been noted. -/
structure Notes where
  /-- The calls of scripted operations, as operation and class with a colon between. -/
  calls : List String
  seen : Option Sighting

/-- Nothing noted. -/
def Notes.blank : Notes := ⟨[], none⟩

/-- A world that takes notes. -/
abbrev Stage := World Notes

/-- A scripted operation: the properties it adds and the class it fails on. -/
structure OperationScript where
  name : String
  adds : List String
  failOn : Option String
  reason : String

/-- The operation that a script describes. -/
def OperationScript.operation (s : OperationScript) : Operation Notes where
  name := s.name
  call w c :=
    let w := { w with
      memory := { w.memory with calls := w.memory.calls ++ [s.name ++ ":" ++ c.name] } }
    if s.failOn = some c.name then ⟨c, w, some ⟨s.name, c.name, s.reason⟩⟩
    else ⟨s.adds.foldl ClassNode.addProperty c, w, none⟩

/-- How a scripted compilation ends. -/
inductive ScriptedEnd where
  | outcome (o : CompileOutcome)
  | panic (message : String)

/-- A scripted compiler. -/
structure CompilerScript where
  /-- Whether the Groovy sources are read into classes first. -/
  loads : Bool
  phases : List Phase
  writes : List PlannedEntry
  /-- The time that the destination is given. -/
  destTime : Option Time
  ending : ScriptedEnd

/-- Run phases in turn, up to the first failure. -/
def runPhases : List Phase → CompilationUnit Notes → Stage →
    Option OperationFailure × CompilationUnit Notes × Stage
  | [], u, w => (none, u, w)
  | phase :: rest, u, w =>
    match u.runPhase phase w with
    | (none, u, w) => runPhases rest u w
    | failed => failed

/-- The files that a scripted compiler leaves. -/
def CompilerScript.files (s : CompilerScript) (dest : Path) (w : Stage) : FileTree :=
  let tree := w.files.placeEach w.clock s.writes
  match s.destTime with
  | some time => tree.stampIfPossible dest time
  | none => tree

/-- The compilation that a script describes. -/
def CompilerScript.compile (s : CompilerScript) (u : CompilationUnit Notes) (dest : Path)
    (w : Stage) : Ending Notes × Stage :=
  let u := if s.loads then u.loadClasses w.files else u
  match runPhases s.phases u w with
  | (some failure, u, w) =>
    (.finished (.diagnostics ⟨.compilationFailed, [failure.message]⟩) u, w)
  | (none, u, w) =>
    let w := { w.tick with files := s.files dest w }
    match s.ending with
    | .outcome o => (.finished o u, w)
    | .panic message => (.panicked message u, w)

/-- A compiler whose units carry operations and that compiles as given. -/
def equipped (operations : List (Operation Notes × Phase))
    (compile : CompilationUnit Notes → Path → Stage → Ending Notes × Stage) : Compiler Notes where
  makeUnit w := (CompilationUnit.empty.registerAll operations, w)
  unitPanic? _ := none
  compile := compile

/-- The compiler itself, except that it is noted what it was given and what it left. -/
def observed (base : Compiler Notes) : Compiler Notes where
  makeUnit := base.makeUnit
  unitPanic? := base.unitPanic?
  compile u dest w :=
    let seen : Sighting := ⟨u.sources, dest, u.operationTable, none⟩
    let noted (classes : Option (List ClassNode)) (w : Stage) : Stage :=
      { w with memory := { w.memory with seen := some { seen with classes } } }
    match base.compile u dest w with
    | (.finished outcome u, w) => (.finished outcome u, noted (some u.classes) w)
    | (.panicked message u, w) => (.panicked message u, noted none w)

end Rehearsal

end StaleBuild
