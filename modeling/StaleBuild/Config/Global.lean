import StaleBuild.Config.Error

/-!
Global configuration: what a user sets for all projects, in `.grailsc/config.toml` below the home
directory.
-/

namespace StaleBuild

/-- The compiler of projects that name none. -/
structure GlobalCompilerSection where
  command : Option String
deriving DecidableEq

/-- How much is logged. -/
structure LoggingSection where
  level : Option String
deriving DecidableEq

/-- The configuration of a user. -/
structure GlobalConfig where
  compiler : Option GlobalCompilerSection
  logging : Option LoggingSection
deriving DecidableEq

namespace GlobalConfig

open Toml (asText Record)

/-- The configuration that says nothing. -/
def empty : GlobalConfig := ⟨none, none⟩

/-- The section `compiler`. -/
def compilerRecord : Record GlobalCompilerSection where
  name := "GlobalCompilerConfig"
  fields := ["command"]
  blank := ⟨none⟩
  assign _ _ v := (asText "a string" v).map fun command => ⟨some command⟩
  mayEnd _ := false
  lacks _ := none

/-- The section `logging`. -/
def loggingRecord : Record LoggingSection where
  name := "LoggingConfig"
  fields := ["level"]
  blank := ⟨none⟩
  assign _ _ v := (asText "a string" v).map fun level => ⟨some level⟩
  mayEnd _ := false
  lacks _ := none

/-- The whole file. -/
def record : Record GlobalConfig where
  name := "GlobalConfig"
  fields := ["compiler", "logging"]
  blank := empty
  assign c field v :=
    if field = "compiler" then
      (compilerRecord.read v).map fun section_ => { c with compiler := some section_ }
    else (loggingRecord.read v).map fun section_ => { c with logging := some section_ }
  mayEnd _ := false
  lacks _ := none

def command? (c : GlobalConfig) : Option String := c.compiler.bind GlobalCompilerSection.command

def logLevel? (c : GlobalConfig) : Option String := c.logging.bind LoggingSection.level

/-- The levels at which one can log. -/
def levels : List String := ["error", "warn", "info", "debug", "trace"]

/-- Only the level of logging is checked. -/
def validate (c : GlobalConfig) : Except ConfigError Unit :=
  match c.logLevel? with
  | some level =>
    if levels.contains level then .ok ()
    else .error (.invalidValue "logging.level"
      ("must be one of " ++ ", ".intercalate levels ++ "; got '" ++ level ++ "'"))
  | none => .ok ()

/-- Load a global configuration file. -/
def load (tree : FileTree) (file : Path) : Except ConfigError GlobalConfig :=
  match Config.readRecord tree record file with
  | .error e => .error e
  | .ok c => c.validate.map fun _ => c

end GlobalConfig

end StaleBuild
