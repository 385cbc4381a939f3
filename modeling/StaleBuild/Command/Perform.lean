import StaleBuild.Command.Report
import StaleBuild.Command.Request
import StaleBuild.Compiler.External

/-!
Doing what the program is asked to do, in a world and an environment. The answer is an exit status
with what goes to the two outputs: 0 if all went well, 1 if a configuration, a scan or a build
failed, and 2 if the request could not be read.
-/

namespace StaleBuild.Command

variable {σ : Type}

/-- What the program leaves behind for whoever started it. -/
structure Response where
  status : Nat
  output : String
  errors : String
deriving DecidableEq

namespace Response

/-- All went well. -/
def success (output : String) : Response := ⟨0, output, ""⟩

/-- A failure with its causes, behind other lines on the error output. -/
def failure (noted : List String) (what : String) (causes : List String) : Response :=
  ⟨1, "", unlines (noted ++ failureLines what causes)⟩

/-- The request could not be read. -/
def misused : Response := ⟨2, "", unlines ["Usage: grailsc <build|stale> [OPTIONS]"]⟩

end Response

/-- The version of the program. -/
def version : String := "0.1.0"

/-- The line that tells the version. -/
def versionLine (verb : Option Verb) : String :=
  match verb with
  | none => "grailsc " ++ version
  | some verb => "grailsc-" ++ verb.name ++ " " ++ version

/-- The directory in which the search for a project starts. -/
def startDir (tree : FileTree) (o : Options) : Path := o.projectDir.getD tree.currentPath

/-- The configuration for a request. -/
def configuration (tree : FileTree) (env : Environment) (o : Options) : Except ConfigError Config :=
  (ConfigLoader.loadDirectory ⟨none⟩ tree env (startDir tree o)).1

/-- What to build: what the options name, seen from the start directory, and the configuration for
the rest. -/
def buildConfig (c : Config) (o : Options) : BuildConfig where
  sourceDirs := if o.sources = [] then c.sourceDirs else o.sources.map c.baseDir.join
  dest := match o.destination with
    | some dest => c.baseDir.join dest
    | none => c.destination
  artefactRoots := c.artefactRoots

/-- The program that compiles. -/
def compilerOf (c : Config) : ExternalCompiler := ⟨c.compilerCommand, c.compilerArgs⟩

/-- The account of a configuration that could not be loaded. -/
def configFailure (start : Path) (e : ConfigError) : Response :=
  .failure [] ("Failed to load configuration from " ++ start.text) (e.message :: e.causes)

/-- The lines of a text behind the first one. -/
def furtherLines (s : String) : List String := (s.splitOn "\n").drop 1

/-- What is noted on the error output before a build stops: the trace of a fault and the fault, and the fault
once more as an entry of the log, whose first line is not shown. -/
def faultLines : BuildError → List String
  | .compilerFault message trace => [trace, (Fault.line ⟨message, trace⟩)] ++ furtherLines message
  | _ => []

/-- The status of a program that was broken off by a panic. -/
def panicStatus : Nat := 101

/-- The account of a build that gave no result. -/
def stoppedResponse : Stopped → Response
  | .error e => .failure (faultLines e) "Build failed" [e.message]
  | .panic message => ⟨panicStatus, "", unlines [message]⟩

/-- The account of a build. -/
def summaryResponse (root : Path) (o : Options) (s : BuildSummary) : Response :=
  let output :=
    if o.json then (summaryJson s).indented ++ "\n"
    else if o.quiet then "" else unlines (summaryLines root s)
  match s.state with
  | .failed d =>
    let noted := if o.quiet then d.messages else []
    { Response.failure noted ("Compilation failed (" ++ d.kind.title ++ ")") [] with output }
  | _ => .success output

/-- Build the project. -/
def build (launch : Launcher σ) (env : Environment) (o : Options) (w : World σ) :
    Response × World σ :=
  match configuration w.files env o with
  | .error e => (configFailure (startDir w.files o) e, w)
  | .ok c =>
    match (buildConfig c o).build ((compilerOf c).compiler launch) w with
    | (.error stopped, w) => (stoppedResponse stopped, w)
    | (.ok summary, w) => (summaryResponse c.root o summary, w)

/-- Tell which sources are stale. -/
def stale (tree : FileTree) (env : Environment) (o : Options) : Response :=
  match configuration tree env o with
  | .error e => configFailure (startDir tree o) e
  | .ok c =>
    match (buildConfig c o).scan tree with
    | .error e => .failure [] "Failed to scan sources" [e.message]
    | .ok report =>
      .success (if o.json then (staleJson report).compact ++ "\n"
        else unlines (staleLines c.root report))

/-- Do what the arguments ask for. -/
def perform (launch : Launcher σ) (env : Environment) (args : List String) (w : World σ) :
    Response × World σ :=
  match Request.read env args with
  | none => (.misused, w)
  | some (.version verb) => (.success (unlines [versionLine verb]), w)
  | some (.perform .build o) => build launch env o w
  | some (.perform .stale o) => (stale w.files env o, w)

end StaleBuild.Command
