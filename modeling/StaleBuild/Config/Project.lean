import StaleBuild.Config.Error
import StaleBuild.Text.Basic

/-!
Project configuration: the file `grailsc.toml` at the root of a project. Its four sections may all
be missing; a section that is there is checked after the whole file has been read, in the order of
`complaint?`.
-/

namespace StaleBuild

/-- Who the project is. -/
structure ProjectSection where
  name : String
deriving DecidableEq

/-- Where sources are and where class files go. -/
structure BuildSection where
  sources : List Path
  destination : Option Path
deriving DecidableEq

/-- How the compiler is run. -/
structure CompilerSection where
  command : Option String
  args : List String
deriving DecidableEq

/-- Which plugins take part. -/
structure PluginsSection where
  artefacts : List Path
deriving DecidableEq

/-- The configuration of a project. -/
structure ProjectConfig where
  project : Option ProjectSection
  build : Option BuildSection
  compiler : Option CompilerSection
  plugins : Option PluginsSection
deriving DecidableEq

namespace ProjectConfig

/-- The configuration that says nothing. -/
def empty : ProjectConfig := ⟨none, none, none, none⟩

/-- The section that says nothing about the build. -/
def emptyBuild : BuildSection := ⟨[], none⟩

/-- The section that says nothing about the compiler. -/
def emptyCompiler : CompilerSection := ⟨none, []⟩

/-! ## Shape -/

open Toml (asText asList Record)

/-- A text among others. -/
def asString : Toml → Except Toml.ShapeError String := asText "a string"

/-- A path. -/
def asPath (v : Toml) : Except Toml.ShapeError Path := (asText "path string" v).map Path.ofString

/-- The section `project`, whose name has to be given. -/
def projectRecord : Record (Option String) where
  name := "ProjectSection"
  fields := ["name"]
  blank := none
  assign _ _ v := (asString v).map some
  mayEnd _ := false
  lacks name? := if name?.isNone then some "name" else none

/-- The section `build`. -/
def buildRecord : Record BuildSection where
  name := "BuildSection"
  fields := ["sources", "destination"]
  blank := emptyBuild
  assign s field v :=
    if field = "sources" then (asList asPath v).map fun sources => { s with sources }
    else (asPath v).map fun destination => { s with destination := some destination }
  mayEnd field := field = "sources"
  lacks _ := none

/-- The section `compiler`. -/
def compilerRecord : Record CompilerSection where
  name := "CompilerSection"
  fields := ["command", "args"]
  blank := emptyCompiler
  assign s field v :=
    if field = "command" then (asString v).map fun command => { s with command := some command }
    else (asList asString v).map fun args => { s with args }
  mayEnd field := field = "args"
  lacks _ := none

/-- The section `plugins`. -/
def pluginsRecord : Record PluginsSection where
  name := "PluginsSection"
  fields := ["artefacts"]
  blank := ⟨[]⟩
  assign _ _ v := (asList asPath v).map PluginsSection.mk
  mayEnd _ := true
  lacks _ := none

/-- The whole file. -/
def record : Record ProjectConfig where
  name := "ProjectConfig"
  fields := ["project", "build", "compiler", "plugins"]
  blank := empty
  assign c field v :=
    if field = "project" then
      (projectRecord.read v).map fun name? => { c with project := name?.map ProjectSection.mk }
    else if field = "build" then
      (buildRecord.read v).map fun section_ => { c with build := some section_ }
    else if field = "compiler" then
      (compilerRecord.read v).map fun section_ => { c with compiler := some section_ }
    else (pluginsRecord.read v).map fun section_ => { c with plugins := some section_ }
  mayEnd _ := false
  lacks _ := none

/-! ## Values -/

/-- The project's name, if it is given. -/
def name? (c : ProjectConfig) : Option String := c.project.map ProjectSection.name

/-- The source directories; none if they are not given. -/
def sources (c : ProjectConfig) : List Path := (c.build.map BuildSection.sources).getD []

def destination? (c : ProjectConfig) : Option Path := c.build.bind BuildSection.destination

def command? (c : ProjectConfig) : Option String := c.compiler.bind CompilerSection.command

def args (c : ProjectConfig) : List String := (c.compiler.map CompilerSection.args).getD []

/-- The artefact roots; none if they are not given. -/
def artefacts (c : ProjectConfig) : List Path := (c.plugins.map PluginsSection.artefacts).getD []

/-! ## Checks

Each check gives the field that it refuses and the reason. -/

/-- The name of a project is not empty. -/
def nameComplaint? (c : ProjectConfig) : Option (String × String) :=
  if c.name? = some "" then some ("project.name", "name cannot be empty") else none

/-- No source directory is empty. -/
def sourcesComplaint? (c : ProjectConfig) : Option (String × String) :=
  if c.sources.any Path.isEmpty then some ("build.sources", "source directory cannot be empty")
  else none

/-- The destination equals no source directory as a path. -/
def destinationComplaint? (c : ProjectConfig) : Option (String × String) :=
  match c.destination? with
  | none => none
  | some destination =>
    if c.sources.any (Path.same destination) then
      some ("build.destination", "'" ++ destination.text ++ "' is also a source directory")
    else none

/-- The command is not blank. -/
def commandComplaint? (c : ProjectConfig) : Option (String × String) :=
  match c.command? with
  | none => none
  | some command =>
    if Text.isAllBlank command then some ("compiler.command", "command cannot be empty") else none

/-- What is wrong with a configuration whose shape is right; the first complaint counts. -/
def complaint? (c : ProjectConfig) : Option (String × String) :=
  c.nameComplaint?.or (c.sourcesComplaint?.or (c.destinationComplaint?.or c.commandComplaint?))

/-- Refuse a configuration with a complaint. -/
def validate (c : ProjectConfig) : Except ConfigError Unit :=
  match c.complaint? with
  | some (field, reason) => .error (.invalidValue field reason)
  | none => .ok ()

/-- Load a project file. -/
def load (tree : FileTree) (file : Path) : Except ConfigError ProjectConfig :=
  match Config.readRecord tree record file with
  | .error e => .error e
  | .ok c => c.validate.map fun _ => c

end ProjectConfig

end StaleBuild
