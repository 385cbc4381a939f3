import StaleBuild.Compiler.Injecting
import StaleBuild.Execution
import StaleBuild.Files.Discovery
import StaleBuild.Staleness

/-!
A build: prepare the destination, publish an index over the artefacts, scan every source directory
into one run, and compile the run with injection. Each stage that fails ends the build, and what
the stages before it did stays done.
-/

namespace StaleBuild

/-- What to build. -/
structure BuildConfig where
  /-- Source directories, in the order in which they are scanned. -/
  sourceDirs : List Path
  /-- Where class files go. -/
  dest : Path
  /-- Directories that hold artefacts. -/
  artefactRoots : List Path
deriving DecidableEq

/-- The source directories of a project that names none. -/
def defaultSourceDirs : List Path := [.ofString "src/groovy", .ofString "src/java"]

/-- The destination of a project that names none. -/
def defaultDestination : Path := .ofString "target/classes"

namespace BuildConfig

/-- What is built when nothing is said. -/
def standard : BuildConfig := ⟨defaultSourceDirs, defaultDestination, []⟩

end BuildConfig

/-- What a scan of all source directories gives. -/
structure ScanReport where
  run : Run
  /-- How many files were seen. -/
  scanned : Nat
deriving DecidableEq

/-- What a build gives. -/
structure BuildSummary where
  scanned : Nat
  stale : List OutputMapping
  state : ExecutionState
  reconciled : Nat
  injected : List ClassNode
deriving DecidableEq

/-- Whether a build ended without diagnostics. -/
def BuildSummary.isSuccess (s : BuildSummary) : Bool :=
  match s.state with
  | .failed _ => false
  | _ => true

namespace BuildConfig

variable {σ : Type}

/-- Scan the given source directories on top of what has been seen so far. -/
def scanDirs (tree : FileTree) (dest : Path) : List Path → ScanReport → Except BuildError ScanReport
  | [], report => .ok report
  | dir :: rest, report =>
    if !tree.isDirectory dir then .error (.sourceDirNotFound dir)
    else match tree.discover dir with
      | .error e => .error e
      | .ok names =>
        match report.run.scan tree dir dest names with
        | (.error e, _) => .error e
        | (.ok _, run) => scanDirs tree dest rest ⟨run, report.scanned + names.length⟩

/-- Scan every source directory into a fresh run. -/
def scan (config : BuildConfig) (tree : FileTree) : Except BuildError ScanReport :=
  scanDirs tree config.dest config.sourceDirs ⟨.empty, 0⟩

/-- Make the destination and what is missing above it. -/
def prepareDestination (config : BuildConfig) (w : World σ) : Except BuildError Unit × World σ :=
  if w.files.isPresent config.dest ∧ !w.files.isDirectory config.dest then
    (.error (.invalidDestination config.dest), w)
  else
    match w.files.makeDirectories config.dest w.clock with
    | (.ok (), files) => (.ok (), { w.tick with files })
    | (.error cause, files) => (.error (.file config.dest cause), { w.tick with files })

/-- The Groovy files below an artefact root. -/
def artefactsBelow (tree : FileTree) (root : Path) : Except BuildError (List Path) :=
  match tree.discover root with
  | .error e => .error e
  | .ok names =>
    .ok ((names.filter fun name => SourceKind.ofName? name = some .groovy).map root.join)

/-- Publish an index over the artefacts below all roots; without a root nothing is published. -/
def publishArtefacts (config : BuildConfig) (w : World σ) :
    Except BuildError (Option ArtefactIndex) × World σ :=
  if config.artefactRoots = [] then (.ok none, w)
  else match config.artefactRoots.flatMapM (artefactsBelow w.files) with
    | .error e => (.error e, w)
    | .ok resources =>
      let w := w.publish resources
      (.ok w.published, w)

/-- The summary of a scan and of the execution of its run. -/
def summary (report : ScanReport) (e : Execution) : BuildSummary :=
  ⟨report.scanned, report.run.mappings, e.state, e.reconciled, e.injected⟩

/-- Build with a base compiler. -/
def build (config : BuildConfig) (base : Compiler σ) (w : World σ) :
    Except Stopped BuildSummary × World σ :=
  match config.prepareDestination w with
  | (.error e, w) => (.error (.error e), w)
  | (.ok (), w) =>
    match config.publishArtefacts w with
    | (.error e, w) => (.error (.error e), w)
    | (.ok index, w) =>
      match config.scan w.files with
      | .error e => (.error (.error e), w)
      | .ok report =>
        match Execution.ofRun (base.injecting index) config.dest report.run w with
        | (.error stopped, w) => (.error stopped, w)
        | (.ok e, w) => (.ok (summary report e), w)

end BuildConfig

end StaleBuild
