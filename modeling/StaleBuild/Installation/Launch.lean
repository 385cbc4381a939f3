import StaleBuild.Compiler.External
import StaleBuild.Config.Loader
import StaleBuild.Host.Search
import StaleBuild.Installation.Table

/-!
Launching programs in a world: the programs of the system run on its files, with nothing to read, and
what they write is collected. A program never changes the current directory of whoever started it.

This is the launcher of the running program, one of all those for which builds are proved right.
-/

namespace StaleBuild.Installation

open Host (Str str)

/-- The number of the first process. -/
def firstPid : Nat := 4242

/-- The environment in which a program starts. -/
def surroundings (env : Environment) : List (Str × Str) :=
  let given := env.bindings.map fun v => (str v.1, Host.ofBytes v.2)
  let first := given.filter fun v => (given.find? fun w => w.1 = v.1) = some v
  let usual : List (Str × Str) :=
    [(str "PATH", str "/usr/local/sbin:/usr/local/bin:/usr/sbin:/usr/bin:/sbin:/bin")]
  usual.filter (fun v => !given.any fun w => w.1 = v.1) ++ first

/-- The host on which a program starts, with collectors for its two outputs. -/
def host (env : Environment) (files : FileTree) (clock : Time) : Host :=
  { files
    clock
    opened := #[⟨.special .null, 0, false, true, false⟩, ⟨.collector 0, 0, false, false, true⟩,
      ⟨.collector 1, 0, false, false, true⟩]
    collectors := #[[], []]
    queues := []
    signals := []
    nextPid := firstPid
    process :=
      { pid := firstPid - 1
        parent := 1
        descriptors := [(0, 0), (1, 1), (2, 2)]
        environment := surroundings env
        umask := 0o22
        ignored := []
        held := none } }

variable {σ : Type}

/-- The launcher for programs that run in an environment with nothing to read. -/
def launcher (env : Environment) : Launcher σ := fun command w =>
  let name := str command.program
  if name.contains '\x00' || command.args.any (·.contains 0) then (.error .zeroByteInCommand, w)
  else
    let argv := name :: command.args.map Host.ofBytes
    match Host.Search.run starter argv (host env w.files w.clock) with
    | (.ok (.error cause), _) => (.error cause, w)
    | (r, h) =>
      let files := { h.files with current := w.files.current }
      let succeeded : Bool := match r with
        | .ok (.ok (.exited status)) => status % 256 = 0
        | _ => false
      (.ok ⟨succeeded, Host.toBytes (h.collected 0), Host.toBytes (h.collected 1)⟩,
        { w with files, clock := h.clock + World.instant })

end StaleBuild.Installation
