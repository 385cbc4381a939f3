import StaleBuild.Config.Global
import StaleBuild.Config.Project

/-!
Loading the configuration of a build in layers. The project file is the nearest one at or above a
start directory, or a given one; below it lies the global file, and environment variables override
single values of the project. A loader that has found out where the global file is keeps to that
place; for a user without a home directory there is no such file, and nothing is kept.

Relative paths of a project resolve against its root, the directory of the project file, or against
the start directory if there is no project file.
-/

namespace StaleBuild

/-- The environment of a process: its variables, and the home directory that the system has for the
user, which is empty if it has none. -/
structure Environment where
  bindings : List (String × Bytes)
  accountHome : Path

namespace Environment

/-- The value of a variable, as bytes. -/
def bytes? (env : Environment) (name : String) : Option Bytes :=
  (env.bindings.find? fun v => v.1 = name).map Prod.snd

/-- The value of a variable, if it is text. -/
def text? (env : Environment) (name : String) : Option String :=
  (env.bytes? name).bind Utf8.decode?

/-- The home directory: `HOME` unless that is empty, else the one that the system knows. It is empty
for a user who has none. -/
def home (env : Environment) : Path :=
  match env.bytes? "HOME" with
  | some (b :: rest) => ⟨b :: rest⟩
  | _ => env.accountHome

/-- The global configuration file below the home directory. -/
def globalConfigPath (env : Environment) : Path :=
  (env.home.join (.ofString ".grailsc")).join (.ofString "config.toml")

/-- The global configuration file of the user, who may have no home directory. -/
def userConfig? (env : Environment) : Option Path :=
  if env.home.isEmpty then none else some env.globalConfigPath

end Environment

/-- The name of a project file. -/
def projectFileName : Path := .ofString "grailsc.toml"

/-- The variable that overrides the destination. -/
def destinationVariable : String := "GRAILSC_DESTDIR"

/-- The variable that overrides the compiler. -/
def compilerVariable : String := "GRAILSC_COMPILER"

/-- The compiler that is used when nothing else names one. -/
def defaultCompiler : String := "groovyc"

/-- A merged configuration. -/
structure Config where
  project : ProjectConfig
  global : GlobalConfig
  /-- The directory that holds the project file, if there is one. -/
  projectRoot : Option Path
  /-- The directory that the search started from. -/
  baseDir : Path
deriving DecidableEq

namespace Config

/-- The directory that relative paths resolve against. -/
def root (c : Config) : Path := c.projectRoot.getD c.baseDir

/-- A path of the project, seen from its root. -/
def resolve (c : Config) (p : Path) : Path := c.root.join p

/-- The source directories. -/
def sourceDirs (c : Config) : List Path :=
  let configured := c.project.sources
  (if configured = [] then [.ofString "src/groovy", .ofString "src/java"] else configured).map
    c.resolve

/-- The destination. -/
def destination (c : Config) : Path :=
  c.resolve (c.project.destination?.getD (.ofString "target/classes"))

/-- The compiler program: the project's, else the user's, else the default. -/
def compilerCommand (c : Config) : String :=
  (c.project.command?.or c.global.command?).getD defaultCompiler

def compilerArgs (c : Config) : List String := c.project.args

/-- The artefact roots. -/
def artefactRoots (c : Config) : List Path := c.project.artefacts.map c.resolve

def logLevel? (c : Config) : Option String := c.global.logLevel?

/-- The project file at or above a directory: where it is and what it says. The directory above is
always shorter, so the length of the path is enough to climb. -/
def findProjectWithin (tree : FileTree) :
    Nat → Path → Except ConfigError (Option Path × ProjectConfig)
  | 0, _ => .ok (none, .empty)
  | fuel + 1, dir =>
    if tree.isFile (dir.join projectFileName) then
      match ProjectConfig.load tree (dir.join projectFileName) with
      | .ok project => .ok (some dir, project)
      | .error e => .error e
    else match dir.parent? with
      | some above => findProjectWithin tree fuel above
      | none => .ok (none, .empty)

/-- The nearest project file at or above a directory. -/
def findProject (tree : FileTree) (start : Path) : Except ConfigError (Option Path × ProjectConfig) :=
  findProjectWithin tree (start.bytes.length + 1) start

/-- A project with the destination that the environment names. -/
def overrideDestination (env : Environment) (c : ProjectConfig) : Except ConfigError ProjectConfig :=
  match env.text? destinationVariable with
  | none => .ok c
  | some dest =>
    if dest = "" then .error (.invalidValue destinationVariable "destination cannot be empty")
    else .ok { c with
      build := some { c.build.getD ProjectConfig.emptyBuild with
        destination := some (.ofString dest) } }

/-- A project with the compiler that the environment names. -/
def overrideCompiler (env : Environment) (c : ProjectConfig) : Except ConfigError ProjectConfig :=
  match env.text? compilerVariable with
  | none => .ok c
  | some command =>
    if Text.isAllBlank command then
      .error (.invalidValue compilerVariable "command cannot be empty")
    else .ok { c with
      compiler := some { c.compiler.getD ProjectConfig.emptyCompiler with command := some command } }

/-- A project with what the environment overrides. -/
def override (env : Environment) (c : ProjectConfig) : Except ConfigError ProjectConfig :=
  match overrideDestination env c with
  | .ok c => overrideCompiler env c
  | .error e => .error e

end Config

/-- A loader of configurations. It may have been given a global file, and remembers the one it
found. -/
structure ConfigLoader where
  globalPath : Option Path

namespace ConfigLoader

/-- The global file that a loader reads, if there is a place for one. -/
def globalFile (loader : ConfigLoader) (env : Environment) : Option Path :=
  loader.globalPath.or env.userConfig?

/-- The global configuration; a file that is not there says nothing. -/
def loadGlobal (tree : FileTree) : Option Path → Except ConfigError GlobalConfig
  | some file => if tree.isPresent file then GlobalConfig.load tree file else .ok .empty
  | none => .ok .empty

/-- Merge a project with the layers around it. The loader has then settled on its global file, if there
is a place for one. -/
def merge (loader : ConfigLoader) (tree : FileTree) (env : Environment) (project : ProjectConfig)
    (projectRoot : Option Path) (baseDir : Path) : Except ConfigError Config × ConfigLoader :=
  let file? := loader.globalFile env
  let loaded : Except ConfigError Config :=
    match loadGlobal tree file?, Config.override env project with
    | .error e, _ => .error e
    | .ok _, .error e => .error e
    | .ok global, .ok project => .ok ⟨project, global, projectRoot, baseDir⟩
  (loaded, ⟨file?⟩)

/-- Load the configuration for a start directory. -/
def loadDirectory (loader : ConfigLoader) (tree : FileTree) (env : Environment) (start : Path) :
    Except ConfigError Config × ConfigLoader :=
  match Config.findProject tree start with
  | .error e => (.error e, loader)
  | .ok (root, project) => loader.merge tree env project root start

/-- Load the configuration of a given project file. -/
def loadFile (loader : ConfigLoader) (tree : FileTree) (env : Environment) (file : Path) :
    Except ConfigError Config × ConfigLoader :=
  match ProjectConfig.load tree file with
  | .error e => (.error e, loader)
  | .ok project =>
    loader.merge tree env project file.parent? (file.parent?.getD .empty)

end ConfigLoader

end StaleBuild
