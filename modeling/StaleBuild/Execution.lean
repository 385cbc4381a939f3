import StaleBuild.Compiler.Basic
import StaleBuild.Run

/-!
Compiling a run. The clock is read once, before anything else. When the attempt is over, however it
ended, every recorded output that exists is stamped with that time, so that the next scan does not
select its source again while an edit made in between stays newer. The destination directory is
stamped too unless the compiler faulted or panicked.
-/

namespace StaleBuild

/-- How a run ended that was not broken off. -/
inductive ExecutionState where
  /-- Nothing was stale. -/
  | idle
  | succeeded
  /-- The compiler reported errors in the input. -/
  | failed (diagnostics : Diagnostics)
deriving DecidableEq

/-- What compiling a run gives. -/
structure Execution where
  state : ExecutionState
  /-- How many sources the compiler was given. -/
  compiled : Nat
  /-- How many recorded outputs were stamped. -/
  reconciled : Nat
  /-- The time they were stamped with. -/
  reconciledAt : Option Time
  /-- The classes that were given properties. -/
  injected : List ClassNode
deriving DecidableEq

namespace Execution

/-- The execution of an empty run. -/
def idle : Execution := ⟨.idle, 0, 0, none, []⟩

def succeeded (e : Execution) : Bool := e.state = .succeeded

/-- The diagnostics of a failed execution. -/
def diagnostics? (e : Execution) : Option Diagnostics :=
  match e.state with
  | .failed d => some d
  | _ => none

end Execution

/-- Why a compilation or a build gave no result. -/
inductive Stopped where
  | error (e : BuildError)
  /-- A panic that left the compiler and goes on to the caller. -/
  | panic (message : String)
deriving DecidableEq

/-- Stamp every path of a ledger that can be stamped and count them. -/
def reconcile (time : Time) : List Path → FileTree → Nat × FileTree
  | [], tree => (0, tree)
  | output :: rest, tree =>
    match tree.stamp output time with
    | .ok stamped =>
      let (count, tree) := reconcile time rest stamped
      (count + 1, tree)
    | .error _ => reconcile time rest tree

namespace Execution

variable {σ : Type}

/-- The world after its ledger has been stamped. -/
def reconciledWorld (now : Time) (outputs : List Path) (w : World σ) : Nat × World σ :=
  let (count, files) := reconcile now outputs w.files
  (count, { w with files })

/-- The world after the destination has been stamped. -/
def stampedDestination (now : Time) (dest : Path) (w : World σ) : World σ :=
  { w with files := w.files.stampIfPossible dest now }

/-- Make a unit for the sources and compile it. A unit that is refused is a fault, with nothing
injected. -/
def attempt (compiler : Compiler σ) (sources : List Path) (dest : Path) (w : World σ) :
    Except String (CompileOutcome × List ClassNode) × World σ :=
  match compiler.unitPanic? w, compiler.makeUnit w with
  | some message, (_, w) => (.error message, w)
  | none, (.error e, w) => (.ok (.fault (.ofError e), []), w)
  | none, (.ok u, w) =>
    match compiler.compile (u.addSources sources) dest w with
    | (.finished outcome u, w) => (.ok (outcome, u.injectedClasses), w)
    | (.panicked message _, w) => (.error message, w)

/-- The end of an attempt that produced a state: the destination and then the ledger are
stamped. -/
def conclude (state : ExecutionState) (injected : List ClassNode) (run : Run) (dest : Path)
    (now : Time) (w : World σ) : Execution × World σ :=
  let (reconciled, w) := reconciledWorld now run.outputs (stampedDestination now dest w)
  (⟨state, run.size, reconciled, some now, injected⟩, w)

/-- Compile a run into a directory. -/
def ofRun (compiler : Compiler σ) (dest : Path) (run : Run) (w : World σ) :
    Except Stopped Execution × World σ :=
  if run.isEmpty then (.ok idle, w)
  else
    let now := w.clock
    match attempt compiler run.sources dest w.tick with
    | (.error message, w) => (.error (.panic message), (reconciledWorld now run.outputs w).2)
    | (.ok (.fault f, _), w) =>
      (.error (.error (.compilerFault f.message f.trace)), (reconciledWorld now run.outputs w).2)
    | (.ok (.success, injected), w) =>
      let (execution, w) := conclude .succeeded injected run dest now w
      (.ok execution, w)
    | (.ok (.diagnostics d, injected), w) =>
      let (execution, w) := conclude (.failed d) injected run dest now w
      (.ok execution, w)

end Execution

end StaleBuild
