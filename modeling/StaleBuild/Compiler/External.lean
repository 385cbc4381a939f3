import StaleBuild.Compiler.Basic

/-!
The compiler that hands code generation to another program. It runs all phases itself: ahead of
parsing it reads the Groovy sources into classes, and behind the operations of the output phase it
starts the program on the unit's sources. The first operation that fails, or a program that does
not succeed, ends the compilation.
-/

namespace StaleBuild

/-- A program with its arguments. -/
structure CommandLine where
  program : String
  args : List Bytes
deriving DecidableEq

/-- What a program left that ran to its end. -/
structure Finished where
  succeeded : Bool
  output : Bytes
  errors : Bytes
deriving DecidableEq

/-- The way to start a program: it runs in the world and ends there, or cannot be started. -/
abbrev Launcher (σ : Type) := CommandLine → World σ → Except FileError Finished × World σ

/-- A compiler program with the arguments that it always gets. -/
structure ExternalCompiler where
  program : String
  args : List String
deriving DecidableEq

namespace ExternalCompiler

variable {σ : Type}

/-- The program that compiles when nobody names one. -/
def defaultProgram : String := "groovyc"

/-- The command that compiles sources into a directory: the compiler's own arguments, the
destination, the sources. -/
def command (ext : ExternalCompiler) (sources : List Path) (dest : Path) : CommandLine where
  program := ext.program
  args := ext.args.map Utf8.encode ++ [Utf8.encode "-d", dest.bytes] ++ sources.map Path.bytes

/-- The fault of a program that could not be started. -/
def launchFault (program : String) (cause : FileError) : Fault :=
  ⟨"failed to start '" ++ program ++ "': " ++ cause.message, cause.trace⟩

/-- The outcome of running the program over a unit's sources. -/
def generate (ext : ExternalCompiler) (launch : Launcher σ) (sources : List Path) (dest : Path)
    (w : World σ) : CompileOutcome × World σ :=
  match launch (ext.command sources dest) w with
  | (.error cause, w) => (.fault (launchFault ext.program cause), w)
  | (.ok finished, w) =>
    if finished.succeeded then (.success, w)
    else (.diagnostics (Report.diagnostics finished.output finished.errors), w)

/-- The diagnostics of an operation that failed. -/
def operationDiagnostics (failure : OperationFailure) : Diagnostics :=
  ⟨.compilationFailed, [failure.message]⟩

/-- Run the given phases in turn, up to the first that does not succeed. -/
def runPhases (ext : ExternalCompiler) (launch : Launcher σ) (dest : Path) :
    List Phase → CompilationUnit σ → World σ → CompileOutcome × CompilationUnit σ × World σ
  | [], u, w => (.success, u, w)
  | phase :: rest, u, w =>
    let u := if phase = .parsing then u.loadClasses w.files else u
    match u.runPhase phase w with
    | (some failure, u, w) => (.diagnostics (operationDiagnostics failure), u, w)
    | (none, u, w) =>
      if phase = .output then
        match ext.generate launch u.sources dest w with
        | (.success, w) => runPhases ext launch dest rest u w
        | (outcome, w) => (outcome, u, w)
      else runPhases ext launch dest rest u w

/-- The compiler, given the way to start its program. -/
def compiler (ext : ExternalCompiler) (launch : Launcher σ) : Compiler σ where
  makeUnit w := (.ok .empty, w)
  unitPanic? _ := none
  compile u dest w :=
    let (outcome, u, w) := ext.runPhases launch dest Phase.all u w
    (.finished outcome u, w)

/-- What stands in a listing for an argument that no program can be given. -/
def unlisted : String := "<string-with-nul>"

/-- A command in words, for a reader. -/
def listed (bytes : Bytes) : String :=
  if bytes.contains 0 then unlisted else Utf8.decodeLossy bytes

end ExternalCompiler

end StaleBuild
