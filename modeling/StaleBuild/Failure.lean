import StaleBuild.Path
import StaleBuild.Files.Error

/-!
Why a build did not come to an end of its own.
-/

namespace StaleBuild

/-- The cause of a build that could not go on. -/
inductive BuildError where
  | sourceDirNotFound (dir : Path)
  | invalidDestination (dir : Path)
  /-- The compiler itself failed, which is not a fault of its input. -/
  | compilerFault (message trace : String)
  /-- An operation's name is taken at its phase. -/
  | duplicateOperation (operation phase : String)
  | file (path : Path) (cause : FileError)
  | failed (reason : String)
deriving DecidableEq

/-- What stands before the message of a compiler fault. -/
def faultHeading : String := "Groovy Compiler error: "

namespace BuildError

/-- The text of an error. -/
def message : BuildError → String
  | .sourceDirNotFound dir => "Source directory not found: " ++ dir.text
  | .invalidDestination dir => "Destination directory is not a directory: " ++ dir.text
  | .compilerFault message _ => faultHeading ++ message
  | .duplicateOperation operation phase =>
    "Phase operation '" ++ operation ++ "' is already registered for phase " ++ phase
  | .file path cause => "I/O error at " ++ path.text ++ ": " ++ cause.message
  | .failed reason => "Build failed: " ++ reason

end BuildError

end StaleBuild
