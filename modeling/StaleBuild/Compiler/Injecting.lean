import StaleBuild.Compiler.Basic
import StaleBuild.Injection

/-!
The injecting compiler: its base compiler, except that each unit it makes carries the injection
operation at the canonicalization phase, unless it has one there already.
-/

namespace StaleBuild.Compiler

variable {σ : Type}

/-- A unit with the injection, registered if it is missing. -/
def withInjection (own : Option ArtefactIndex) (u : CompilationUnit σ) :
    Except BuildError (CompilationUnit σ) :=
  if u.hasOperation Injection.operationName Injection.phase then .ok u
  else u.register (Injection.operation own Injector.standard) Injection.phase

/-- The base compiler with injection, over an index of its own or else the published one. -/
def injecting (base : Compiler σ) (own : Option ArtefactIndex) : Compiler σ where
  makeUnit w :=
    match base.makeUnit w with
    | (.error e, w) => (.error e, w)
    | (.ok u, w) => (withInjection own u, w)
  unitPanic? := base.unitPanic?
  compile := base.compile

end StaleBuild.Compiler
