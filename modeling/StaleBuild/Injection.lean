import StaleBuild.CompilationUnit

/-!
Injection: adding properties to the classes of artefacts. An injector says which artefact files it
applies to and what it does to their class. The injection operation looks a class up by its name in
an artefact index and lets every injector that accepts the file found change the class; a class
that the index does not know stays as it is.
-/

namespace StaleBuild

/-- A change to the classes of some artefacts. -/
structure Injector where
  accepts : Path → Bool
  inject : ClassNode → ClassNode

namespace Injector

/-- What every domain class has: its identity and the counter of optimistic locking. -/
def domainProperties : List String := ["id", "version"]

/-- Gives domain classes their properties. -/
def domain : Injector where
  accepts source := Artefact.kind? source = some "domain"
  inject c := domainProperties.foldl ClassNode.addProperty c

/-- The injectors of an injection that names none. -/
def standard : List Injector := [.domain]

end Injector

namespace Injection

variable {σ : Type}

/-- The name of the injection operation. -/
def operationName : String := "grails-aware-injection"

/-- The phase at which compilers inject. -/
def phase : Phase := .canonicalization

/-- A class after the injectors that accept the file the index has for it. -/
def apply (index? : Option ArtefactIndex) (injectors : List Injector) (c : ClassNode) : ClassNode :=
  match index?.bind fun index => index.find? c.name with
  | none => c
  | some resource =>
    injectors.foldl (fun c injector => if injector.accepts resource then injector.inject c else c) c

/-- The injection operation, over an index of its own or else over the published one. -/
def operation (own : Option ArtefactIndex) (injectors : List Injector) : Operation σ where
  name := operationName
  call w c := ⟨apply (own.or w.published) injectors c, w, none⟩

end Injection

end StaleBuild
