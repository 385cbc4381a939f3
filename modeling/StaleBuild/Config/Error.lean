import StaleBuild.Path
import StaleBuild.Files.Lookup
import StaleBuild.Toml.Reader
import StaleBuild.Toml.Shape

/-!
Why a configuration could not be loaded, and reading a configuration file into a record.
-/

namespace StaleBuild

/-- The cause of a configuration that was not loaded. -/
inductive ConfigError where
  | notFound (file : Path)
  | unreadable (cause : FileError)
  /-- The file is no TOML document. -/
  | badText (file : Path)
  /-- The document has another shape than a configuration. -/
  | badShape (file : Path) (offence : Toml.ShapeError)
  | invalidValue (field reason : String)
deriving DecidableEq

namespace ConfigError

/-- What stands ahead of the account of a bad document. -/
def documentHeading (file : Path) : String := "Invalid TOML syntax in " ++ file.text ++ ": "

/-- The text of an error. The account of a bad document is given apart. -/
def message : ConfigError → String
  | .notFound file => "Configuration file not found: " ++ file.text
  | .unreadable cause => "Failed to read configuration file: " ++ cause.message
  | .badText file => documentHeading file
  | .badShape file _ => documentHeading file
  | .invalidValue field reason => "Invalid value for '" ++ field ++ "': " ++ reason

/-- The texts of the causes behind an error, outermost first. -/
def causes : ConfigError → List String
  | .unreadable cause => [cause.message]
  | _ => []

end ConfigError

namespace Config

/-- Read a file into a record. -/
def readRecord {α : Type} (tree : FileTree) (record : Toml.Record α) (file : Path) :
    Except ConfigError α :=
  match tree.readText file with
  | .error .notFound => .error (.notFound file)
  | .error cause => .error (.unreadable cause)
  | .ok text =>
    match Toml.read text with
    | none => .error (.badText file)
    | some document =>
      match record.read document with
      | .error offence => .error (.badShape file offence)
      | .ok a => .ok a

end Config

end StaleBuild
