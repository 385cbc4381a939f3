import StaleBuild.Artefact
import StaleBuild.Files.Change

/-!
What a build works on: the files, the clock, the artefact index that is published for everyone,
and a memory of type `σ` in which operations and compilers keep whatever they need between calls.
The build itself never reads the memory.
-/

namespace StaleBuild

/-- The surroundings of a build. -/
structure World (σ : Type) where
  files : FileTree
  /-- The time that the next reading of the clock gives. -/
  clock : Time
  /-- The artefact index that injection uses when it has none of its own. -/
  published : Option ArtefactIndex
  memory : σ

namespace World

variable {σ : Type}

/-- How far the clock moves with each reading. -/
def instant : Time := 1000000

/-- The world after a reading of the clock; the reading itself is `clock`. -/
def tick (w : World σ) : World σ := { w with clock := w.clock + instant }

/-- Build an index over artefact files and publish it. -/
def publish (w : World σ) (resources : List Path) : World σ :=
  { w with published := some (.ofResources resources) }

end World

end StaleBuild
