import StaleBuild.ClassNode
import StaleBuild.Phase
import StaleBuild.World
import StaleBuild.Text.Basic

/-!
Compilation units. A unit has sources, the classes known so far, and for each phase a list of
operations. Running a phase calls its first operation on each class in turn, then its second one,
and stops at the first call that fails; what the calls up to there did stays done.

An operation may read and change the whole world, so that its state between calls can live in the
world's memory.
-/

namespace StaleBuild

/-- A failed call of an operation. -/
structure OperationFailure where
  operation : String
  className : String
  reason : String
deriving DecidableEq

/-- The text of a failed call. -/
def OperationFailure.message (f : OperationFailure) : String :=
  f.operation ++ " failed on " ++ f.className ++ ": " ++ f.reason

/-- What a call on one class leaves: the class, the world, and the failure if it failed. -/
structure Called (σ : Type) where
  node : ClassNode
  world : World σ
  failure? : Option OperationFailure

/-- An operation on classes, known by its name. The name is taken never to change, whereas what a call
does may depend on what earlier calls left in the world. -/
structure Operation (σ : Type) where
  name : String
  call : World σ → ClassNode → Called σ

/-- What calls on several classes leave. -/
structure Swept (σ : Type) where
  classes : List ClassNode
  world : World σ
  failure? : Option OperationFailure

variable {σ : Type}

/-- Call an operation on each class in turn, up to the first failure. -/
def Operation.sweep (op : Operation σ) (w : World σ) : List ClassNode → Swept σ
  | [] => ⟨[], w, none⟩
  | c :: rest =>
    let called := op.call w c
    match called.failure? with
    | some failure => ⟨called.node :: rest, called.world, some failure⟩
    | none =>
      let swept := sweep op called.world rest
      { swept with classes := called.node :: swept.classes }

/-- Sweep with one operation after another, up to the first failure. -/
def sweepAll (w : World σ) (classes : List ClassNode) : List (Operation σ) → Swept σ
  | [] => ⟨classes, w, none⟩
  | op :: rest =>
    let swept := op.sweep w classes
    match swept.failure? with
    | some failure => ⟨swept.classes, swept.world, some failure⟩
    | none => sweepAll swept.world swept.classes rest

/-- Sources, their classes, and the operations of each phase. -/
structure CompilationUnit (σ : Type) where
  sources : List Path
  classes : List ClassNode
  operations : Phase → List (Operation σ)

namespace CompilationUnit

/-- The unit without anything. -/
def empty : CompilationUnit σ := ⟨[], [], fun _ => []⟩

/-- The names of a phase's operations, in the order in which they were registered. -/
def operationNames (u : CompilationUnit σ) (phase : Phase) : List String :=
  (u.operations phase).map Operation.name

def hasOperation (u : CompilationUnit σ) (name : String) (phase : Phase) : Bool :=
  (u.operationNames phase).contains name

/-- How many operations there are at all phases together. -/
def operationCount (u : CompilationUnit σ) : Nat :=
  (Phase.all.flatMap u.operations).length

/-- The phases that have operations, with their names. -/
def operationTable (u : CompilationUnit σ) : List (Phase × List String) :=
  (Phase.all.map fun phase => (phase, u.operationNames phase)).filter fun e => !e.2.isEmpty

/-- Register an operation at a phase, refused if its name is taken there. -/
def register (u : CompilationUnit σ) (op : Operation σ) (phase : Phase) :
    Except BuildError (CompilationUnit σ) :=
  if u.hasOperation op.name phase then .error (.duplicateOperation op.name phase.name)
  else .ok { u with
    operations := fun p => if p = phase then u.operations p ++ [op] else u.operations p }

/-- Register several operations in order. -/
def registerAll (u : CompilationUnit σ) :
    List (Operation σ × Phase) → Except BuildError (CompilationUnit σ)
  | [] => .ok u
  | (op, phase) :: rest =>
    match u.register op phase with
    | .ok u => registerAll u rest
    | .error e => .error e

def addSources (u : CompilationUnit σ) (sources : List Path) : CompilationUnit σ :=
  { u with sources := u.sources ++ sources }

def addClass (u : CompilationUnit σ) (c : ClassNode) : CompilationUnit σ :=
  { u with classes := u.classes ++ [c] }

/-- The extension of the sources that are read into classes. -/
def classExtension : Bytes := Utf8.encode "groovy"

/-- The class that a source is read into: none for another language or an unreadable file. -/
def loadedClass? (tree : FileTree) (source : Path) : Option ClassNode :=
  if source.extension? = some classExtension then (ClassNode.ofSource tree source).toOption
  else none

/-- Read every Groovy source into a class. -/
def loadClasses (u : CompilationUnit σ) (tree : FileTree) : CompilationUnit σ :=
  { u with classes := u.classes ++ u.sources.filterMap (loadedClass? tree) }

/-- The classes that have been given a property. -/
def injectedClasses (u : CompilationUnit σ) : List ClassNode :=
  u.classes.filter fun c => !c.properties.isEmpty

/-- Run the operations of a phase over all classes. -/
def runPhase (u : CompilationUnit σ) (phase : Phase) (w : World σ) :
    Option OperationFailure × CompilationUnit σ × World σ :=
  let swept := sweepAll w u.classes (u.operations phase)
  (swept.failure?, { u with classes := swept.classes }, swept.world)

/-! ## Showing a unit in full -/

/-- Items in brackets. -/
def bracketed (items : List String) : String := "[" ++ ", ".intercalate items ++ "]"

def showClass (c : ClassNode) : String :=
  "ClassNode \x7b name: " ++ Text.quoted c.name ++ ", source: " ++ Text.quoted c.source.text ++
    ", properties: " ++ bracketed (c.properties.map Text.quoted) ++ " \x7d"

/-- The unit with all its parts, on one line. -/
def shown (u : CompilationUnit σ) : String :=
  "CompilationUnit \x7b sources: " ++ bracketed (u.sources.map fun p => Text.quoted p.text) ++
    ", classes: " ++ bracketed (u.classes.map showClass) ++
    ", operations: \x7b" ++
    ", ".intercalate (u.operationTable.map fun e =>
      e.1.title ++ ": " ++ bracketed (e.2.map Text.quoted)) ++
    "\x7d \x7d"

end CompilationUnit

end StaleBuild
