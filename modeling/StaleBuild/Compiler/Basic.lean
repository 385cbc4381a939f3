import StaleBuild.CompilationUnit
import StaleBuild.Compiler.Outcome

/-!
Compilers. A compiler makes the unit that a compilation runs through and compiles it, each in a
world that it may change. Either can be broken off by a panic. A compilation leaves the unit as far
as it came with it; a unit whose making is broken off is lost.
-/

namespace StaleBuild

/-- How a compilation ended. -/
inductive Ending (σ : Type) where
  | finished (outcome : CompileOutcome) (unit : CompilationUnit σ)
  | panicked (message : String) (unit : CompilationUnit σ)

/-- A compiler over a memory of type `σ`. -/
structure Compiler (σ : Type) where
  /-- Make a unit, or refuse to; it may be broken off on the way. -/
  makeUnit : World σ → Except BuildError (CompilationUnit σ) × World σ
  /-- The message of the panic that breaks the making of a unit off, if one does. -/
  unitPanic? : World σ → Option String
  /-- Compile every source of a unit into a directory. -/
  compile : CompilationUnit σ → Path → World σ → Ending σ × World σ

end StaleBuild
