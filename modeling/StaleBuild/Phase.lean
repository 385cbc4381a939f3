/-!
The phases of a compilation, in the order in which they run.
-/

namespace StaleBuild

/-- A compilation phase. -/
inductive Phase where
  | initialization
  | parsing
  | conversion
  | semanticAnalysis
  /-- Behind semantic resolution, ahead of all code generation. -/
  | canonicalization
  | instructionSelection
  | classGeneration
  /-- Class files are written. -/
  | output
  | finalization
deriving DecidableEq

namespace Phase

/-- All phases in execution order. -/
def all : List Phase :=
  [.initialization, .parsing, .conversion, .semanticAnalysis, .canonicalization,
    .instructionSelection, .classGeneration, .output, .finalization]

/-- The place of a phase in execution order. -/
def index : Phase → Nat
  | .initialization => 0
  | .parsing => 1
  | .conversion => 2
  | .semanticAnalysis => 3
  | .canonicalization => 4
  | .instructionSelection => 5
  | .classGeneration => 6
  | .output => 7
  | .finalization => 8

/-- The name of a phase. -/
def name : Phase → String
  | .initialization => "initialization"
  | .parsing => "parsing"
  | .conversion => "conversion"
  | .semanticAnalysis => "semantic-analysis"
  | .canonicalization => "canonicalization"
  | .instructionSelection => "instruction-selection"
  | .classGeneration => "class-generation"
  | .output => "output"
  | .finalization => "finalization"

/-- The name of a phase where a unit is shown in full. -/
def title : Phase → String
  | .initialization => "Initialization"
  | .parsing => "Parsing"
  | .conversion => "Conversion"
  | .semanticAnalysis => "SemanticAnalysis"
  | .canonicalization => "Canonicalization"
  | .instructionSelection => "InstructionSelection"
  | .classGeneration => "ClassGeneration"
  | .output => "Output"
  | .finalization => "Finalization"

/-- The phase with a given name. -/
def named? (s : String) : Option Phase := all.find? fun phase => phase.name = s

end Phase

end StaleBuild
