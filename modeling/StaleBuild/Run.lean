import StaleBuild.Source

/-!
A run: the sources selected for one compilation and the class files recorded for them. The two
lists only grow, each at its end.
-/

namespace StaleBuild

/-- The sources selected so far and the ledger of their outputs. -/
structure Run where
  sources : List Path
  outputs : List Path
deriving DecidableEq

namespace Run

/-- The run without a source. -/
def empty : Run := ⟨[], []⟩

/-- The run with more sources selected. -/
def select (run : Run) (sources : List Path) : Run :=
  { run with sources := run.sources ++ sources }

/-- The run with one more output recorded. -/
def record (run : Run) (output : Path) : Run :=
  { run with outputs := run.outputs ++ [output] }

/-- How many sources are selected. -/
def size (run : Run) : Nat := run.sources.length

/-- Nothing to compile; the ledger does not count. -/
def isEmpty (run : Run) : Bool := run.sources.isEmpty

/-- Whether there are as many outputs as sources. -/
def isBalanced (run : Run) : Bool := run.sources.length = run.outputs.length

/-- Sources paired with outputs by position, as far as both lists go. -/
def mappings (run : Run) : List OutputMapping := run.sources.zipWith OutputMapping.mk run.outputs

end Run

end StaleBuild
